import Mathlib.Data.List.Dedup
import TurtleEdit.Proofs.Settings

/-!
Two overrides, one after the other, come to one override with the values of both.

An override looks at three things: whether a name is given that no setting has, what is given for
each setting, and, where nothing is, what the configuration had. A null gives nothing. So what an
override makes of a configuration is said by one value for each setting, and the check of these
values does not ask where they come from. When a second override follows a first one that was
accepted, each setting gets its value from the second, else from the first, else from the
configuration, and that is what the joined values say as well.
-/

namespace TurtleEdit

/-! ## Values by name -/

/-- Where no key comes twice, to be found under a key is to be an entry. -/
theorem lookup_eq_some_iff_mem {α β : Type} [BEq α] [LawfulBEq α] {entries : List (α × β)}
    (distinct : (entries.map Prod.fst).Nodup) {key : α} {value : β} :
    entries.lookup key = some value ↔ (key, value) ∈ entries := by
  constructor
  · intro found
    obtain ⟨before, after, rfl, -⟩ := List.lookup_eq_some_iff.mp found
    exact List.mem_append_right _ List.mem_cons_self
  · intro member
    obtain ⟨before, after, rfl⟩ := List.append_of_mem member
    apply List.lookup_eq_some_iff.mpr
    refine ⟨before, after, rfl, fun entry earlier => bne_iff_ne.mpr fun same => ?_⟩
    rw [List.map_append, List.map_cons] at distinct
    have apart := (List.nodup_append.mp distinct).2.2
    exact apart entry.1 (List.mem_map_of_mem earlier) key List.mem_cons_self same.symm

namespace Config

/-- Values by name, each name at most once. -/
structure Keywords where
  entries : List (String × Value)
  distinct : (entries.map Prod.fst).Nodup

namespace Keywords

variable {depths : Depths} {config next : Config} {keywords earlier later both : Keywords}
  {name : String}

/-- Something is given under a name, be it a null. -/
def Names (keywords : Keywords) (name : String) : Prop := name ∈ keywords.entries.map Prod.fst

/-- The value given under a name, or a null. -/
def value (keywords : Keywords) (name : String) : Value :=
  (keywords.entries.lookup name).getD .null

/-- A value other than a null is given under a name. -/
def Gives (keywords : Keywords) (name : String) : Prop := isNull (keywords.value name) = false

theorem value_of_mem {given : Value} (member : (name, given) ∈ keywords.entries) :
    keywords.value name = given := by
  rw [value, (lookup_eq_some_iff_mem keywords.distinct).mpr member, Option.getD_some]

theorem Gives.mem (gives : keywords.Gives name) :
    (name, keywords.value name) ∈ keywords.entries := by
  unfold Gives value at *
  cases found : keywords.entries.lookup name with
  | none =>
    rw [found] at gives
    cases gives
  | some given => exact (lookup_eq_some_iff_mem keywords.distinct).mp found

theorem value_of_not_names (absent : ¬ keywords.Names name) : keywords.value name = .null := by
  cases null : isNull (keywords.value name) with
  | false => exact absurd (List.mem_map_of_mem (Gives.mem null)) absent
  | true =>
    unfold isNull at null
    split at null
    · assumption
    · cases null

/-- The entries that are left when the nulls are dropped. -/
def given (keywords : Keywords) : List (String × Value) :=
  keywords.entries.filter fun entry => !isNull entry.2

theorem mem_given_iff {value : Value} :
    (name, value) ∈ keywords.given ↔ keywords.Gives name ∧ keywords.value name = value := by
  rw [given, List.mem_filter, Bool.not_eq_true']
  constructor
  · intro member
    have stands := value_of_mem member.1
    exact ⟨by rw [Gives, stands]; exact member.2, stands⟩
  · intro gives
    obtain ⟨gives, rfl⟩ := gives
    exact ⟨gives.mem, gives⟩

theorem lookup_given_iff {value : Value} :
    keywords.given.lookup name = some value ↔
      keywords.Gives name ∧ keywords.value name = value := by
  have distinct : (keywords.given.map Prod.fst).Nodup :=
    keywords.distinct.sublist (List.filter_sublist.map Prod.fst)
  rw [lookup_eq_some_iff_mem distinct, mem_given_iff]

/-! ## What an override makes of a configuration -/

/-- What is given cannot be: a value under a name that no setting has, or anything under the name of
the configuration itself. -/
def Strange (keywords : Keywords) : Prop :=
  keywords.Names ownName ∨ ∃ name, Setting.ofName? name = none ∧ keywords.Gives name

/-- The value that is given for a setting, or else the one that a configuration has. -/
def valueFor (keywords : Keywords) (config : Config) (setting : Setting) : Value :=
  if isNull (keywords.value setting.name) then config.get setting
  else keywords.value setting.name

theorem getD_given? (keywords : Keywords) (config : Config) (setting : Setting) :
    (given? keywords.given setting).getD (config.get setting) =
      keywords.valueFor config setting := by
  unfold given? valueFor
  cases null : isNull (keywords.value setting.name) with
  | false => rw [lookup_given_iff.mpr ⟨null, rfl⟩, Option.getD_some, if_neg Bool.false_ne_true]
  | true =>
    have missing : keywords.given.lookup setting.name = none := by
      apply Option.eq_none_iff_forall_ne_some.mpr
      intro value found
      exact Bool.false_ne_true ((lookup_given_iff.mp found).1.symm.trans null)
    rw [missing, Option.getD_none, if_pos rfl]

theorem any_ownName_iff :
    keywords.entries.any (·.1 == ownName) = true ↔ keywords.Names ownName := by
  simp only [List.any_eq_true, beq_iff_eq, Names, List.mem_map]

/-- A name that nothing can be given under is refused. -/
theorem override_of_strange (depths : Depths) (config : Config) (strange : keywords.Strange) :
    ∃ name, config.override depths keywords.entries = .error (.unknown name) := by
  unfold override
  split
  · exact ⟨ownName, rfl⟩
  · next free =>
    rcases strange with own | ⟨name, unknown, gives⟩
    · exact absurd (any_ownName_iff.mpr own) free
    · unfold replace
      split
      · next other _ _ => exact ⟨other, rfl⟩
      · next all =>
        have known := List.find?_eq_none.mp all _ (mem_given_iff.mpr ⟨gives, rfl⟩)
        rw [unknown] at known
        exact absurd rfl known

/-- Else the values of the three settings are checked. -/
theorem override_of_not_strange (depths : Depths) (config : Config)
    (plain : ¬ keywords.Strange) :
    config.override depths keywords.entries =
      (make depths (keywords.valueFor config .indentWidth) (keywords.valueFor config .tabWidth)
        (keywords.valueFor config .extensions)).mapError
          fun problem => .invalid ⟨problem, none⟩ := by
  have free : ¬ keywords.entries.any (·.1 == ownName) = true :=
    fun own => plain (Or.inl (any_ownName_iff.mp own))
  have known : keywords.given.find? (fun entry => (Setting.ofName? entry.1).isNone) = none := by
    apply List.find?_eq_none.mpr
    intro entry member unknown
    have gives := (mem_given_iff.mp member).1
    exact plain (Or.inr ⟨entry.1, Option.isNone_iff_eq_none.mp unknown, gives⟩)
  rw [override, if_neg free, replace, ← given, known]
  simp only [getD_given?]

theorem get_of_make {indentWidth tabWidth extensions : Value}
    (made : make depths indentWidth tabWidth extensions = .ok config) :
    config.get .indentWidth = indentWidth ∧ config.get .tabWidth = tabWidth ∧
      config.get .extensions = extensions := by
  have widths := hasWidths_of_make made
  obtain ⟨indent, -, made⟩ := bind_eq_ok_iff.mp made
  obtain ⟨tab, -, made⟩ := bind_eq_ok_iff.mp made
  obtain rfl := Except.ok.inj made
  exact ⟨widths.indentWidth.symm, widths.tabWidth.symm, rfl⟩

/-- An override that is accepted gives nothing strange, and afterwards every setting has the value
that was given, or the one that it had. -/
theorem of_override (made : config.override depths keywords.entries = .ok next) :
    ¬ keywords.Strange ∧ ∀ setting, next.get setting = keywords.valueFor config setting := by
  have plain : ¬ keywords.Strange := by
    intro strange
    obtain ⟨name, refused⟩ := override_of_strange depths config strange
    exact nomatch refused.symm.trans made
  refine ⟨plain, fun setting => ?_⟩
  rw [override_of_not_strange depths config plain] at made
  obtain ⟨indent, tab, extensions⟩ := get_of_make (mapError_eq_ok_iff.mp made)
  cases setting with
  | indentWidth => exact indent
  | tabWidth => exact tab
  | extensions => exact extensions

/-! ## Joined values -/

/-- One set of values says what two say one after the other: it has the names of both, and under
each name the later value, or the earlier one where the later one is a null. -/
structure Joins (earlier later both : Keywords) : Prop where
  names : ∀ name, both.Names name ↔ earlier.Names name ∨ later.Names name
  value : ∀ name, both.value name =
    if isNull (later.value name) then earlier.value name else later.value name

namespace Joins

variable (joins : Joins earlier later both)

include joins

theorem gives_iff : both.Gives name ↔ earlier.Gives name ∨ later.Gives name := by
  unfold Gives
  rw [joins.value]
  cases null : isNull (later.value name) with
  | true => simp
  | false => simp [null]

/-- The joined values hold something strange if one of the two does. -/
theorem strange_iff : both.Strange ↔ earlier.Strange ∨ later.Strange := by
  unfold Strange
  simp only [joins.names, joins.gives_iff]
  constructor
  · intro strange
    rcases strange with (own | own) | ⟨name, unknown, gives | gives⟩
    · exact Or.inl (Or.inl own)
    · exact Or.inr (Or.inl own)
    · exact Or.inl (Or.inr ⟨name, unknown, gives⟩)
    · exact Or.inr (Or.inr ⟨name, unknown, gives⟩)
  · intro strange
    rcases strange with (own | ⟨name, unknown, gives⟩) | (own | ⟨name, unknown, gives⟩)
    · exact Or.inl (Or.inl own)
    · exact Or.inr ⟨name, unknown, Or.inl gives⟩
    · exact Or.inl (Or.inr own)
    · exact Or.inr ⟨name, unknown, Or.inr gives⟩

/-- A setting gets the value that it would get by the earlier values and then by the later ones. -/
theorem valueFor_eq (setting : Setting) (has : next.get setting = earlier.valueFor config setting) :
    later.valueFor next setting = both.valueFor config setting := by
  unfold valueFor at *
  rw [has, joins.value]
  cases null : isNull (later.value setting.name) with
  | true => simp
  | false => simp [null]

end Joins

/-- The values of two sets, each name once. -/
def joined (earlier later : Keywords) : Keywords where
  entries := ((earlier.entries ++ later.entries).map Prod.fst).dedup.map fun name =>
    (name, if isNull (later.value name) then earlier.value name else later.value name)
  distinct := by
    rw [List.map_map]
    change (List.map id _).Nodup
    rw [List.map_id]
    exact List.nodup_dedup _

theorem joins_joined (earlier later : Keywords) : Joins earlier later (joined earlier later) := by
  have names : ∀ name, (joined earlier later).Names name ↔
      earlier.Names name ∨ later.Names name := by
    intro name
    simp [Names, joined]
  refine ⟨names, fun name => ?_⟩
  by_cases named : (joined earlier later).Names name
  · have listed : name ∈ ((earlier.entries ++ later.entries).map Prod.fst).dedup := by
      rw [List.mem_dedup, List.map_append, List.mem_append]
      exact (names name).mp named
    rw [value, joined, List.lookup_graph _ listed, Option.getD_some]
  · have absent := not_or.mp fun some => named ((names name).mpr some)
    rw [value_of_not_names named, value_of_not_names absent.1, value_of_not_names absent.2,
      ite_self]

/-! ## One override for two -/

/-- Two results are one configuration, or the same problem, or each is that a name is refused. -/
inductive SameOutcome : Except SettingFault Config → Except SettingFault Config → Prop
  | made (config : Config) : SameOutcome (.ok config) (.ok config)
  | invalid (error : ConfigError) : SameOutcome (.error (.invalid error)) (.error (.invalid error))
  | unknown (name other : String) :
    SameOutcome (.error (.unknown name)) (.error (.unknown other))

theorem SameOutcome.of_mapError (result : Except ConfigProblem Config) :
    let told := result.mapError fun problem => SettingFault.invalid ⟨problem, none⟩
    SameOutcome told told := by
  cases result with
  | ok config => exact .made config
  | error problem => exact .invalid _

end Keywords

open Keywords in
/-- After an override that was accepted, a second one does what one override with the joined values
does to the configuration from before: it makes the same configuration, or it is refused for the
same problem, or, in both cases, for a name that nothing can be given under. -/
theorem override_override_of_joins (depths : Depths) (config : Config)
    {earlier later both : Keywords} {next : Config}
    (made : config.override depths earlier.entries = .ok next) (joins : Joins earlier later both) :
    SameOutcome (next.override depths later.entries) (config.override depths both.entries) := by
  obtain ⟨plain, has⟩ := of_override made
  by_cases strange : later.Strange
  · obtain ⟨name, refused⟩ := override_of_strange depths next strange
    obtain ⟨other, refusedBoth⟩ :=
      override_of_strange depths config (joins.strange_iff.mpr (Or.inr strange))
    rw [refused, refusedBoth]
    exact .unknown name other
  · have plainBoth : ¬ both.Strange := fun some => (joins.strange_iff.mp some).elim plain strange
    rw [override_of_not_strange depths next strange,
      override_of_not_strange depths config plainBoth]
    simp only [joins.valueFor_eq _ (has _)]
    exact .of_mapError _

/-- The first override sets the width of a level and drops a null under a strange name; in the
second a null keeps that width, and a truth value is no width of a tab. One override with the values
of both is refused with the same words. -/
theorem override_override_of_joins_truth :
    let earlier : Keywords := ⟨[("indent_width", .int 2), ("colour", .null)], by decide⟩
    let later : Keywords := ⟨[("tab_width", .bool true), ("indent_width", .null)], by decide⟩
    let both := Keywords.joined earlier later
    let depths : Depths := ⟨9, 9, 9, 9⟩
    ∃ next error, standard.override depths earlier.entries = .ok next ∧ next.indentWidth = 2 ∧
      standard.override depths both.entries = .error (.invalid error) ∧
      error.message = "tab_width must be a positive integer, got True" ∧
      Keywords.SameOutcome (next.override depths later.entries)
        (standard.override depths both.entries) := by
  intro earlier later both depths
  have made : standard.override depths earlier.entries = .ok ⟨2, 8, defaultExtensions⟩ := by rfl
  exact ⟨_, ⟨.notPositive .tabWidth "True", none⟩, made, rfl, by rfl, by rfl,
    override_override_of_joins depths standard made (Keywords.joins_joined earlier later)⟩

end Config

end TurtleEdit
