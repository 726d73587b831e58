import Mathlib.Data.List.TakeWhile
import TurtleEdit.Proofs.Settings

/-!
What a mapping makes of the settings.

The keys of a mapping that name no setting are warned of, each once and in order. The others give
values: the suffixes are looked at first, then the width of a level and then the width of a tab, and
the first of them with a value that it cannot have is what the error is about, wherever its entry
stands. If there is no such value the configuration has the values that are given, the suffixes in
lower case, and defaults for the others.

All of this rests on values that can be written. A value that is refused is written into the error,
and so is the text of each suffix into the configuration; but an integer of too many digits is not
written at all, and neither are values that are nested too deeply. A key that names no setting need
not be written to be warned of, unless it is nested too deeply.
-/

namespace TurtleEdit

/-- Items can all be read if each of them can. -/
theorem exists_mapM_eq_ok_iff {ε α β : Type} {items : List α} {read : α → Except ε β} :
    (∃ values, items.mapM read = .ok values) ↔ ∀ item ∈ items, ∃ value, read item = .ok value := by
  induction items with
  | nil => exact iff_of_true ⟨[], rfl⟩ (List.forall_mem_nil _)
  | cons first rest ih =>
    rw [List.forall_mem_cons, ← ih, List.mapM_cons]
    constructor
    · rintro ⟨values, done⟩
      obtain ⟨value, here, done⟩ := bind_eq_ok_iff.mp done
      obtain ⟨others, later, -⟩ := bind_eq_ok_iff.mp done
      exact ⟨⟨value, here⟩, others, later⟩
    · rintro ⟨⟨value, here⟩, others, later⟩
      exact ⟨value :: others, by rw [here, later]; rfl⟩

/-! ## What a setting admits -/

namespace Setting

theorem ofKey?_eq_some_iff {key : Value} {setting : Setting} :
    ofKey? key = some setting ↔ key = .str setting.name := by
  constructor
  · intro found
    unfold ofKey? at found
    split at found
    · next name =>
      unfold ofName? at found
      have same : (setting.name == name) = true := by simpa using List.find?_some found
      rw [eq_of_beq same]
    · cases found
  · rintro rfl
    cases setting <;> rfl

/-- The setting can have the value. -/
def admits : Setting → Value → Bool
  | extensions, value => value.items?.isSome
  | _, .int n => 1 ≤ n
  | _, _ => false

/-- What the setting takes from a value that it can have: suffixes become texts in lower case. -/
def taken (depths : Depths) : Setting → Value → Except Unshown Value
  | extensions, value =>
    ((value.items?.getD []).mapM (Value.lowered depths.suffix)).map .list
  | _, value => .ok value

/-- What a value of the setting has to be, in words. -/
def demand : Setting → String
  | extensions => "a list"
  | _ => "a positive integer"

/-- What is wrong with a value that the setting cannot have, by its quoted form. -/
def refusal : Setting → String → ConfigProblem
  | extensions, shown => .notList shown
  | setting, shown => .notPositive setting shown

/-- How many levels of a value that the setting cannot have can be written. -/
def depth (depths : Depths) : Setting → Nat
  | extensions => depths.suffixes
  | _ => depths.width

/-- The settings that are looked at before a setting. -/
def before : Setting → List Setting
  | extensions => []
  | indentWidth => [extensions]
  | tabWidth => [extensions, indentWidth]

theorem before_total (a b : Setting) : a ∈ before b ∨ a = b ∨ b ∈ before a := by
  cases a <;> cases b <;> decide

theorem message_refusal (setting : Setting) (shown : String) :
    (setting.refusal shown).message =
      setting.name ++ " must be " ++ setting.demand ++ ", got " ++ shown := by
  cases setting <;> exact congrArg (· ++ shown) (by decide)

end Setting

theorem ConfigError.message_of_named {error : ConfigError} {file : String}
    (source : error.source = some file) (named : file ≠ "") :
    error.message = file ++ ": " ++ error.problem.message := by
  have full : ¬ file.isEmpty = true := fun empty => named (String.isEmpty_iff.mp empty)
  rw [message, source]
  exact if_neg full

theorem ConfigError.message_of_unnamed {error : ConfigError}
    (unnamed : error.source.getD "" = "") : error.message = error.problem.message := by
  unfold message
  split
  · next file source =>
    rw [source, Option.getD_some] at unnamed
    rw [unnamed]
    rfl
  · rfl

namespace Config

variable {depths : Depths} {entries others : List (Value × Value)} {setting : Setting}
  {value : Value} {source : Option String}

/-! ## The values that a mapping gives -/

/-- No two entries have one key. -/
def IsMapping (entries : List (Value × Value)) : Prop :=
  entries.Pairwise fun a b => a.1.sameKey b.1 = false

/-- The mapping has an entry for the setting, with this value. -/
def Gives (entries : List (Value × Value)) (setting : Setting) (value : Value) : Prop :=
  (.str setting.name, value) ∈ entries

theorem sameKey_str_self (text : String) : (Value.str text).sameKey (.str text) = true :=
  beq_self_eq_true text

/-- Where no two entries have one key, it does not matter which entry is found first. -/
theorem lookup_eq_some_iff (mapping : IsMapping entries) :
    lookup entries setting = some value ↔ Gives entries setting value := by
  unfold IsMapping at mapping
  unfold Gives
  induction entries with
  | nil => simp [lookup]
  | cons entry rest ih =>
    obtain ⟨apart, mapping⟩ := List.pairwise_cons.mp mapping
    rw [lookup, List.find?_cons, List.mem_cons]
    by_cases named : entry.1 = .str setting.name
    · have alone : (.str setting.name, value) ∉ rest := by
        intro again
        have different := apart _ again
        rw [named, sameKey_str_self] at different
        cases different
      rw [decide_eq_true (Setting.ofKey?_eq_some_iff.mpr named), or_iff_left alone,
        Prod.ext_iff, named]
      simp [eq_comm]
    · have other : ((.str setting.name, value) : Value × Value) ≠ entry := by
        rintro rfl
        exact named rfl
      rw [decide_eq_false fun found => named (Setting.ofKey?_eq_some_iff.mp found),
        or_iff_right other]
      exact ih mapping

theorem lookup_eq_none_iff (mapping : IsMapping entries) :
    lookup entries setting = none ↔ ∀ value, ¬ Gives entries setting value := by
  simp only [Option.eq_none_iff_forall_ne_some, ne_eq, lookup_eq_some_iff mapping]

theorem Gives.unique {other : Value} (mapping : IsMapping entries)
    (given : Gives entries setting value) (again : Gives entries setting other) :
    other = value := by
  have found := (lookup_eq_some_iff mapping).mpr given
  rw [(lookup_eq_some_iff mapping).mpr again] at found
  exact Option.some.inj found

/-- Mappings with the same entries for settings give the settings the same values. -/
theorem lookup_eq_of_gives (mapping : IsMapping entries) (mapping' : IsMapping others)
    (same : ∀ setting value, Gives others setting value ↔ Gives entries setting value) :
    lookup others = lookup entries := by
  funext setting
  apply Option.ext
  intro value
  rw [lookup_eq_some_iff mapping', lookup_eq_some_iff mapping]
  exact same setting value

/-! ## Keys without a setting -/

/-- The keys that name no setting, in order. -/
def strangers (entries : List (Value × Value)) : List Value :=
  (entries.map Prod.fst).filter fun key => (Setting.ofKey? key).isNone

/-- The value is not nested more deeply than it can be written. -/
def isShallow (depth : Nat) (value : Value) : Bool :=
  match value.quote depth with
  | .error .tooDeep => false
  | _ => true

/-- No key that names no setting is nested too deeply. -/
def ShallowStrangers (depths : Depths) (entries : List (Value × Value)) : Prop :=
  ∀ key ∈ strangers entries, isShallow depths.key key = true

/-- The warning of a key that names no setting. -/
def warning (depth : Nat) (key : Value) : Event := .unknownKey (key.quote depth).toOption

theorem unknownKeys_cons_of_isNone {key : Value} (unknown : (Setting.ofKey? key).isNone = true)
    (depth : Nat) (value : Value) (rest : List (Value × Value)) :
    unknownKeys depth ((key, value) :: rest) =
      if isShallow depth key then
        (warning depth key :: (unknownKeys depth rest).1, (unknownKeys depth rest).2)
      else ([], .error .tooDeep) := by
  rw [unknownKeys, Option.isNone_iff_eq_none.mp unknown, isShallow, warning]
  rcases key.quote depth with (_ | _) | shown <;> rfl

/-- The keys that name no setting are warned of in order, up to one that is nested too deeply. -/
theorem unknownKeys_eq (depth : Nat) (entries : List (Value × Value)) :
    unknownKeys depth entries =
      (((strangers entries).takeWhile (isShallow depth)).map (warning depth),
        if (strangers entries).all (isShallow depth) then .ok () else .error .tooDeep) := by
  unfold strangers
  induction entries with
  | nil => rfl
  | cons entry rest ih =>
    obtain ⟨key, value⟩ := entry
    rw [List.map_cons, List.filter_cons]
    cases unknown : (Setting.ofKey? key).isNone with
    | false =>
      rw [unknownKeys, if_pos (Option.isSome_iff_ne_none.mpr fun none => ?_), ih]
      · rfl
      · rw [none] at unknown
        cases unknown
    | true =>
      rw [unknownKeys_cons_of_isNone unknown, ih, if_pos rfl, List.takeWhile_cons, List.all_cons]
      cases isShallow depth key <;> rfl

theorem unknownKeys_of_shallow (shallow : ShallowStrangers depths entries) :
    unknownKeys depths.key entries = ((strangers entries).map (warning depths.key), .ok ()) := by
  rw [unknownKeys_eq, List.takeWhile_eq_self_iff.mpr shallow, if_pos (List.all_eq_true.mpr shallow)]

/-! ## Values that are refused -/

/-- The mapping gives the setting a value that it cannot have. -/
def Refused (entries : List (Value × Value)) (setting : Setting) (value : Value) : Prop :=
  Gives entries setting value ∧ setting.admits value = false

/-- The first setting, in the order in which they are looked at, with a value that it cannot
have. -/
structure FirstRefused (entries : List (Value × Value)) (setting : Setting) (value : Value) :
    Prop where
  refused : Refused entries setting value
  first : ∀ earlier ∈ setting.before, ∀ other, ¬ Refused entries earlier other

theorem FirstRefused.unique {setting' : Setting} {value' : Value} (mapping : IsMapping entries)
    (left : FirstRefused entries setting value) (right : FirstRefused entries setting' value') :
    setting = setting' ∧ value = value' := by
  rcases Setting.before_total setting setting' with earlier | rfl | later
  · exact absurd left.refused (right.first setting earlier value)
  · exact ⟨rfl, right.refused.1.unique mapping left.refused.1⟩
  · exact absurd right.refused (left.first setting' later value')

theorem not_refused_of_admits (mapping : IsMapping entries) (given : Gives entries setting value)
    (admitted : setting.admits value = true) (other : Value) : ¬ Refused entries setting other := by
  intro refused
  have rejected := refused.2
  rw [given.unique mapping refused.1] at rejected
  exact Bool.false_ne_true (rejected.symm.trans admitted)

/-- Every suffix of the mapping can be written. -/
def WritesSuffixes (depths : Depths) (entries : List (Value × Value)) : Prop :=
  ∀ value items, Gives entries .extensions value → value.items? = some items →
    ∀ item ∈ items, ∃ text, item.lowered depths.suffix = .ok text

theorem writesSuffixes_iff {items : List Value} (mapping : IsMapping entries)
    (given : Gives entries .extensions value) (held : value.items? = some items) :
    WritesSuffixes depths entries ↔
      ∀ item ∈ items, ∃ text, item.lowered depths.suffix = .ok text := by
  constructor
  · intro writes
    exact writes value items given held
  · intro written other others again list
    rw [given.unique mapping again, held] at list
    obtain rfl := Option.some.inj list
    exact written

theorem positive_of_not_admits (width : setting ≠ .extensions)
    (refused : setting.admits value = false) :
    positive depths setting value =
      .error (showing (setting.depth depths) value setting.refusal) := by
  cases setting with
  | extensions => exact absurd rfl width
  | indentWidth | tabWidth =>
    cases value with
    | int n => exact if_neg (of_decide_eq_false refused)
    | _ => rfl

theorem exists_positive_of_admits (width : setting ≠ .extensions)
    (admitted : setting.admits value = true) :
    ∃ n, value = .int n ∧ positive depths setting value = .ok n := by
  cases setting with
  | extensions => exact absurd rfl width
  | indentWidth | tabWidth =>
    cases value with
    | int n => exact ⟨n, rfl, positive_eq_ok_iff.mpr ⟨rfl, of_decide_eq_true admitted⟩⟩
    | _ => cases admitted

theorem checkExtensions_of_none (none : value.items? = none) :
    checkExtensions depths value =
      .error (showing (Setting.depth depths .extensions) value (Setting.refusal .extensions)) := by
  rw [checkExtensions, none]
  rfl

theorem checkExtensions_of_items {items : List Value} (held : value.items? = some items) :
    checkExtensions depths value = (Setting.taken depths .extensions value).mapError .unshown := by
  rw [checkExtensions, Setting.taken, held]
  rfl

/-- Suffixes can be taken if each of them can be written. -/
theorem exists_taken_iff {items : List Value} (held : value.items? = some items) :
    (∃ final, Setting.taken depths .extensions value = .ok final) ↔
      ∀ item ∈ items, ∃ text, item.lowered depths.suffix = .ok text := by
  rw [← exists_mapM_eq_ok_iff, Setting.taken, held, Option.getD_some]
  constructor
  · rintro ⟨final, taken⟩
    obtain ⟨texts, written, -⟩ := map_eq_ok_iff.mp taken
    exact ⟨texts, written⟩
  · rintro ⟨texts, written⟩
    exact ⟨.list texts, map_eq_ok_iff.mpr ⟨texts, written, rfl⟩⟩

/-! ## One setting after the other -/

/-- The setting ends with this value: what it takes from the value that the mapping gives, and the
default where it gives none. -/
def EndsWith (depths : Depths) (entries : List (Value × Value)) (setting : Setting)
    (final : Value) : Prop :=
  (∀ value, Gives entries setting value → setting.taken depths value = .ok final) ∧
    ((∀ value, ¬ Gives entries setting value) → final = standard.get setting)

/-- The value that is looked at for a setting. -/
def offered (entries : List (Value × Value)) (setting : Setting) : Value :=
  (lookup entries setting).getD (standard.get setting)

/-- The suffixes of a mapping, or why it has none. -/
def suffixesOf (depths : Depths) (entries : List (Value × Value)) : Except ConfigProblem Value :=
  match lookup entries .extensions with
  | some value => checkExtensions depths value
  | none => .ok defaultExtensions

theorem ofEntries_eq (depths : Depths) (entries : List (Value × Value)) :
    ofEntries depths entries = suffixesOf depths entries >>=
      make depths (offered entries .indentWidth) (offered entries .tabWidth) := by
  unfold ofEntries suffixesOf
  cases lookup entries .extensions <;> rfl

theorem endsWith_of_gives (mapping : IsMapping entries) (given : Gives entries setting value)
    {final : Value} (taken : setting.taken depths value = .ok final) :
    EndsWith depths entries setting final := by
  refine ⟨fun other again => ?_, fun none => absurd given (none value)⟩
  rw [given.unique mapping again]
  exact taken

theorem endsWith_of_none (none : ∀ value, ¬ Gives entries setting value) :
    EndsWith depths entries setting (standard.get setting) :=
  ⟨fun value given => absurd given (none value), fun _ => rfl⟩

/-- A width is refused, or the configuration has it. -/
theorem positive_offered_cases (mapping : IsMapping entries) (width : setting ≠ .extensions) :
    (∃ value, Refused entries setting value ∧
        positive depths setting (offered entries setting) =
          .error (showing (setting.depth depths) value setting.refusal)) ∨
      (∀ value, ¬ Refused entries setting value) ∧
        ∃ n, positive depths setting (offered entries setting) = .ok n ∧
          EndsWith depths entries setting (.int n) := by
  unfold offered
  cases found : lookup entries setting with
  | some value =>
    have given := (lookup_eq_some_iff mapping).mp found
    rw [Option.getD_some]
    cases admitted : setting.admits value with
    | false => exact Or.inl ⟨value, ⟨given, admitted⟩, positive_of_not_admits width admitted⟩
    | true =>
      obtain ⟨n, rfl, checked⟩ := @exists_positive_of_admits depths _ _ width admitted
      have kept : setting.taken depths (.int n) = .ok (.int n) := by
        cases setting with
        | extensions => exact absurd rfl width
        | indentWidth | tabWidth => rfl
      exact Or.inr ⟨not_refused_of_admits mapping given admitted, n, checked,
        endsWith_of_gives mapping given kept⟩
  | none =>
    have none := (lookup_eq_none_iff mapping).mp found
    refine Or.inr ⟨fun other refused => none other refused.1, ?_⟩
    have ends := @endsWith_of_none depths _ _ none
    cases setting with
    | extensions => exact absurd rfl width
    | indentWidth => exact ⟨defaultIndentWidth, rfl, ends⟩
    | tabWidth => exact ⟨defaultTabWidth, rfl, ends⟩

theorem suffixesOf_cases (depths : Depths) (mapping : IsMapping entries) :
    (∃ value, Refused entries .extensions value ∧ WritesSuffixes depths entries ∧
        suffixesOf depths entries = .error
          (showing (Setting.depth depths .extensions) value (Setting.refusal .extensions))) ∨
      (¬ WritesSuffixes depths entries ∧
        ∃ why, suffixesOf depths entries = .error (.unshown why)) ∨
      (∀ value, ¬ Refused entries .extensions value) ∧ WritesSuffixes depths entries ∧
        ∃ final, suffixesOf depths entries = .ok final ∧
          EndsWith depths entries .extensions final := by
  unfold suffixesOf
  cases found : lookup entries .extensions with
  | none =>
    have none := (lookup_eq_none_iff mapping).mp found
    exact Or.inr (Or.inr ⟨fun other refused => none other refused.1,
      fun value _ given => absurd given (none value), defaultExtensions, rfl,
      endsWith_of_none none⟩)
  | some value =>
    have given := (lookup_eq_some_iff mapping).mp found
    dsimp only
    cases held : value.items? with
    | none =>
      have refused : Setting.admits .extensions value = false := by
        rw [Setting.admits, held]
        rfl
      refine Or.inl ⟨value, ⟨given, refused⟩, ?_, checkExtensions_of_none held⟩
      intro other items again list
      rw [given.unique mapping again, held] at list
      cases list
    | some items =>
      have admitted : Setting.admits .extensions value = true := by
        rw [Setting.admits, held]
        rfl
      have writes := (@writesSuffixes_iff depths _ _ _ mapping given held).trans
        (exists_taken_iff held).symm
      rw [checkExtensions_of_items held]
      cases taken : Setting.taken depths .extensions value with
      | ok final =>
        exact Or.inr (Or.inr ⟨not_refused_of_admits mapping given admitted,
          writes.mpr ⟨final, taken⟩, final, rfl, endsWith_of_gives mapping given taken⟩)
      | error why =>
        refine Or.inr (Or.inl ⟨fun all => ?_, why, rfl⟩)
        obtain ⟨final, done⟩ := writes.mp all
        exact nomatch taken.symm.trans done

/-- The configuration has what the mapping gives, and defaults for the rest. -/
def Follows (depths : Depths) (config : Config) (entries : List (Value × Value)) : Prop :=
  ∀ setting, EndsWith depths entries setting (config.get setting)

/-- The entries of settings decide: the first value that is refused, a suffix that cannot be
written, or a configuration that has what is given. -/
theorem ofEntries_cases (depths : Depths) (mapping : IsMapping entries) :
    (∃ setting value, FirstRefused entries setting value ∧ WritesSuffixes depths entries ∧
        ofEntries depths entries =
          .error (showing (setting.depth depths) value setting.refusal)) ∨
      (¬ WritesSuffixes depths entries ∧
        ∃ why, ofEntries depths entries = .error (.unshown why)) ∨
      (∀ setting value, ¬ Refused entries setting value) ∧ WritesSuffixes depths entries ∧
        ∃ config : Config, ofEntries depths entries = .ok config ∧
          config.Follows depths entries := by
  rw [ofEntries_eq]
  rcases suffixesOf_cases depths mapping with ⟨value, refused, shows, fails⟩ |
    ⟨hides, item, fails⟩ | ⟨suffixes, shows, final, done, ends⟩
  · rw [fails]
    exact Or.inl ⟨.extensions, value, ⟨refused, List.forall_mem_nil _⟩, shows, rfl⟩
  · rw [fails]
    exact Or.inr (Or.inl ⟨hides, item, rfl⟩)
  -- the suffixes are settled, so each width in its turn decides
  have made (a b : Value) : (Except.ok final >>= make depths a b) = make depths a b final := rfl
  rw [done, made, make]
  rcases positive_offered_cases mapping (by decide : Setting.indentWidth ≠ .extensions) with
    ⟨value, refused, fails⟩ | ⟨level, indent, checked, endsIndent⟩
  · rw [fails]
    refine Or.inl ⟨.indentWidth, value, ⟨refused, ?_⟩, shows, rfl⟩
    simpa [Setting.before] using suffixes
  rw [checked]
  rcases positive_offered_cases mapping (by decide : Setting.tabWidth ≠ .extensions) with
    ⟨value, refused, fails⟩ | ⟨tabs, tab, checked, endsTab⟩
  · rw [fails]
    refine Or.inl ⟨.tabWidth, value, ⟨refused, ?_⟩, shows, rfl⟩
    simpa [Setting.before] using ⟨suffixes, level⟩
  rw [checked]
  refine Or.inr (Or.inr ⟨?_, shows, ⟨indent, tab, final⟩, rfl, ?_⟩)
  · intro setting
    cases setting with
    | indentWidth => exact level
    | tabWidth => exact tabs
    | extensions => exact suffixes
  · intro setting
    cases setting with
    | indentWidth => exact endsIndent
    | tabWidth => exact endsTab
    | extensions => exact ends

/-! ## The outcome of a mapping -/

/-- All that has to be written can be: the suffixes, and the value that is refused. And no key that
names no setting is nested too deeply. -/
structure Legible (depths : Depths) (entries : List (Value × Value)) : Prop where
  strangers : ShallowStrangers depths entries
  suffixes : WritesSuffixes depths entries
  refused : ∀ setting value, FirstRefused entries setting value →
    ∃ shown, value.quote (setting.depth depths) = .ok shown

theorem ofMapping_of_shallow (shallow : ShallowStrangers depths entries)
    (source : Option String) :
    ofMapping depths entries source =
      ((ofEntries depths entries).mapError fun problem => ⟨problem, source⟩,
        (strangers entries).map (warning depths.key)) := by
  rw [ofMapping, unknownKeys_of_shallow shallow]

theorem ofMapping_of_not_shallow (deep : ¬ ShallowStrangers depths entries)
    (source : Option String) :
    (ofMapping depths entries source).1 = .error ⟨.unshown .tooDeep, source⟩ := by
  rw [ofMapping, unknownKeys_eq, if_neg fun shallow => deep (List.all_eq_true.mp shallow)]
  rfl

/-- A mapping is settled by the values that it gives, unless something cannot be written. -/
theorem ofMapping_cases (depths : Depths) (mapping : IsMapping entries)
    (source : Option String) :
    Legible depths entries ∧
        ((∃ setting value shown, FirstRefused entries setting value ∧
            value.quote (setting.depth depths) = .ok shown ∧
            (ofMapping depths entries source).1 = .error ⟨setting.refusal shown, source⟩) ∨
          (∀ setting value, ¬ Refused entries setting value) ∧
            ∃ config : Config, (ofMapping depths entries source).1 = .ok config ∧
              config.Follows depths entries) ∨
      ¬ Legible depths entries ∧
        ∃ why, (ofMapping depths entries source).1 = .error ⟨.unshown why, source⟩ := by
  by_cases shallow : ShallowStrangers depths entries
  · rw [ofMapping_of_shallow shallow]
    rcases ofEntries_cases depths mapping with ⟨setting, value, refused, shows, fails⟩ |
      ⟨hides, why, fails⟩ | ⟨admitted, shows, config, done, follows⟩
    · rw [fails, showing]
      cases quotes : value.quote (setting.depth depths) with
      | ok shown =>
        refine Or.inl ⟨⟨shallow, shows, fun other also again => ?_⟩,
          Or.inl ⟨setting, value, shown, refused, quotes, rfl⟩⟩
        obtain ⟨rfl, rfl⟩ := again.unique mapping refused
        exact ⟨shown, quotes⟩
      | error why =>
        refine Or.inr ⟨fun legible => ?_, why, rfl⟩
        obtain ⟨shown, quoted⟩ := legible.refused setting value refused
        exact nomatch quotes.symm.trans quoted
    · rw [fails]
      exact Or.inr ⟨fun legible => hides legible.suffixes, why, rfl⟩
    · rw [done]
      refine Or.inl ⟨⟨shallow, shows, fun setting value refused => ?_⟩,
        Or.inr ⟨admitted, config, rfl, follows⟩⟩
      exact absurd refused.refused (admitted setting value)
  · exact Or.inr ⟨fun legible => shallow legible.strangers, .tooDeep,
      ofMapping_of_not_shallow shallow source⟩

/-- The error names the setting and shows its value, it carries the source, and the source stands
before its wording if it has a name. -/
structure Reports (error : ConfigError) (setting : Setting) (shown : String)
    (source : Option String) : Prop where
  carried : error.source = source
  worded : error.problem.message =
    setting.name ++ " must be " ++ setting.demand ++ ", got " ++ shown
  named : ∀ file, source = some file → file ≠ "" →
    error.message = file ++ ": " ++ error.problem.message
  unnamed : source.getD "" = "" → error.message = error.problem.message

theorem reports_refusal (setting : Setting) (shown : String) (source : Option String) :
    Reports ⟨setting.refusal shown, source⟩ setting shown source where
  carried := rfl
  worded := setting.message_refusal shown
  named _ given name := ConfigError.message_of_named given name
  unnamed bare := ConfigError.message_of_unnamed bare

theorem refusal_ne_unshown (setting : Setting) (shown : String) (why : Unshown) :
    setting.refusal shown ≠ .unshown why := by
  cases setting <;> exact nofun

/-- Only the entries of settings matter, and their order does not. -/
theorem ofMapping_congr (mapping : IsMapping entries) (mapping' : IsMapping others)
    (same : ∀ setting value, Gives others setting value ↔ Gives entries setting value)
    (shallow : ShallowStrangers depths entries) (shallow' : ShallowStrangers depths others) :
    (ofMapping depths others source).1 = (ofMapping depths entries source).1 := by
  have looked := lookup_eq_of_gives mapping mapping' same
  rw [ofMapping_of_shallow shallow, ofMapping_of_shallow shallow', ofEntries_eq, ofEntries_eq]
  unfold suffixesOf offered
  rw [looked]

end Config

/-- What a mapping from a source comes to, if no two of its entries have one key. The keys that name
no setting are warned of, each once and in order, whether there is a configuration in the end or
not. If all that has to be written can be, the first value that its setting cannot have is reported,
and if there is none, the configuration has the values that are given and defaults for the rest.
What cannot be written is all that can interfere. Other keys and the order of the entries change
nothing. -/
theorem Config.ofMapping_exact (depths : Depths) {entries : List (Value × Value)}
    (mapping : IsMapping entries) (source : Option String) :
    let outcome := (ofMapping depths entries source).1
    (ShallowStrangers depths entries →
        (ofMapping depths entries source).2 = (strangers entries).map (warning depths.key)) ∧
      (Legible depths entries →
        (∃ setting value shown error, FirstRefused entries setting value ∧
            value.quote (setting.depth depths) = .ok shown ∧ outcome = .error error ∧
            Reports error setting shown source) ∨
          (∀ setting value, ¬ Refused entries setting value) ∧
            ∃ config : Config, outcome = .ok config ∧ config.Follows depths entries) ∧
      (Legible depths entries ↔ ∀ why, outcome ≠ .error ⟨.unshown why, source⟩) ∧
      ∀ others, IsMapping others →
        (∀ setting value, Gives others setting value ↔ Gives entries setting value) →
        ShallowStrangers depths entries → ShallowStrangers depths others →
          (ofMapping depths others source).1 = outcome := by
  intro outcome
  refine ⟨fun shallow => ?_, fun legible => ?_, ?_, fun others mapping' same shallow shallow' => ?_⟩
  · rw [ofMapping_of_shallow shallow]
  · rcases ofMapping_cases depths mapping source with ⟨-, refused | done⟩ | ⟨illegible, -⟩
    · obtain ⟨setting, value, shown, first, quotes, fails⟩ := refused
      exact Or.inl ⟨setting, value, shown, _, first, quotes, fails,
        reports_refusal setting shown source⟩
    · exact Or.inr done
    · exact absurd legible illegible
  · rcases ofMapping_cases depths mapping source with
      ⟨legible, refused | done⟩ | ⟨illegible, why, fails⟩
    · obtain ⟨setting, value, shown, -, -, fails⟩ := refused
      refine iff_of_true legible fun why same => ?_
      have problems := congrArg ConfigError.problem (Except.error.inj (fails.symm.trans same))
      exact refusal_ne_unshown setting shown why problems
    · obtain ⟨-, config, done, -⟩ := done
      exact iff_of_true legible fun other same => nomatch done.symm.trans same
    · exact iff_of_false illegible fun never => never why fails
  · exact ofMapping_congr mapping mapping' same shallow shallow'

/-- A truth value as the width of a level is reported before the zero that stands above it as the
width of a tab, and the keys around them are warned of. -/
theorem Config.ofMapping_exact_two_refused :
    let entries : List (Value × Value) := [(.str "colour", .null), (.str "tab_width", .int 0),
      (.int 7, .null), (.str "indent_width", .bool true)]
    let depths : Depths := ⟨9, 9, 9, 9⟩
    IsMapping entries ∧ Legible depths entries ∧
      (ofMapping depths entries (some "c.yaml")).2 =
        [.unknownKey (some "'colour'"), .unknownKey (some "7")] ∧
      ∃ error, (ofMapping depths entries (some "c.yaml")).1 = .error error ∧
        error.message = "c.yaml: indent_width must be a positive integer, got True" := by
  intro entries depths
  have mapping : IsMapping entries := by
    unfold IsMapping
    decide
  have shallow : ShallowStrangers depths entries := by
    unfold ShallowStrangers
    decide +kernel
  have first : FirstRefused entries .indentWidth (.bool true) := by
    refine ⟨⟨by simp [Gives, entries, Setting.name], rfl⟩, ?_⟩
    simp [Setting.before, Refused, Gives, entries, Setting.name]
  have legible : Legible depths entries := by
    refine ⟨shallow, ?_, fun setting value refused => ?_⟩
    · simp [WritesSuffixes, Gives, entries, Setting.name]
    · obtain ⟨rfl, rfl⟩ := refused.unique mapping first
      exact ⟨"True", rfl⟩
  obtain ⟨warned, settled, -, -⟩ := ofMapping_exact depths mapping (some "c.yaml")
  refine ⟨mapping, legible, ?_, ?_⟩
  · rw [warned shallow]
    decide +kernel
  · rcases settled legible with
      ⟨setting, value, shown, error, refused, quotes, fails, reports⟩ | ⟨none, -⟩
    · obtain ⟨rfl, rfl⟩ := refused.unique mapping first
      obtain rfl : "True" = shown := Except.ok.inj quotes
      refine ⟨error, fails, ?_⟩
      rw [reports.named "c.yaml" rfl (by decide), reports.worded]
      decide +kernel
    · exact absurd first.refused (none _ _)

/-- An integer too long to be written is no width of a level, but the refusal cannot show it, and no
error that names the setting comes of it. -/
theorem Config.ofMapping_of_long_width :
    let long : Value := .int (-(Nat.pow 10 digitLimit : Nat))
    let entries : List (Value × Value) := [(.str "indent_width", long)]
    IsMapping entries ∧ FirstRefused entries .indentWidth long ∧
      ∃ why, (ofMapping ⟨9, 9, 9, 9⟩ entries none).1 = .error ⟨.unshown why, none⟩ ∧
        ∀ setting shown, Setting.refusal setting shown ≠ .unshown why := by
  intro long entries
  have mapping : IsMapping entries := List.pairwise_singleton _ _
  have negative (n : Nat) : Setting.admits .indentWidth (.int (-(n : Int))) = false :=
    decide_eq_false (by omega)
  have first : FirstRefused entries .indentWidth long := by
    refine ⟨⟨List.mem_singleton_self _, negative _⟩, ?_⟩
    simp [Setting.before, Refused, Gives, entries, Setting.name]
  have unwritable : isWritable (-(Nat.pow 10 digitLimit : Nat)) = false := by
    rw [isWritable, Int.natAbs_neg, Int.natAbs_natCast]
    exact decide_eq_false (Nat.lt_irrefl _)
  have hidden : long.quote 9 = .error .tooLong := by
    rw [Value.quote, digits?, unwritable]
    rfl
  rcases ofMapping_cases ⟨9, 9, 9, 9⟩ mapping none with ⟨legible, -⟩ | ⟨-, why, fails⟩
  · obtain ⟨shown, quotes⟩ := legible.refused _ _ first
    exact nomatch hidden.symm.trans quotes
  · exact ⟨mapping, first, why, fails, fun setting shown => refusal_ne_unshown setting shown why⟩

end TurtleEdit
