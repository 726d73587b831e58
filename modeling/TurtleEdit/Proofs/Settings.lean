import TurtleEdit.Proofs.Reloading

/-!
The widths in force are positive integers, whatever led to them.

There are four ways to a configuration: named values, values in place of those in force, a mapping
and a file. All of them end in the same check, so a configuration has the widths that it was given,
and these are positive integers: no truth value and no text becomes a width. A step that fails
leaves the configuration in force as it is. With such widths an indenter measures every line and
finds a column for it, so that nothing can go wrong but that a line has no room in its column.
-/

namespace TurtleEdit

namespace Config

variable {depths : Depths} {config next : Config}

/-! ## Checked widths -/

theorem positive_eq_ok_iff {setting : Setting} {value : Value} {n : Int} :
    positive depths setting value = .ok n ↔ value = .int n ∧ 1 ≤ n := by
  constructor
  · intro checked
    unfold positive at checked
    split at checked
    · split at checked
      · next least =>
        cases checked
        exact ⟨rfl, least⟩
      · cases checked
    · cases checked
  · rintro ⟨rfl, least⟩
    exact if_pos least

/-- A configuration has these values for its widths, and they are positive integers. -/
structure HasWidths (config : Config) (indentWidth tabWidth : Value) : Prop where
  indentWidth : indentWidth = .int config.indentWidth
  tabWidth : tabWidth = .int config.tabWidth
  indentWidth_pos : 1 ≤ config.indentWidth
  tabWidth_pos : 1 ≤ config.tabWidth

/-- The widths of a configuration are given to it, or else they are those of another. -/
def TakesWidths (config base : Config) (given : Setting → Option Value) : Prop :=
  config.HasWidths ((given .indentWidth).getD (base.get .indentWidth))
    ((given .tabWidth).getD (base.get .tabWidth))

theorem hasWidths_of_make {indentWidth tabWidth extensions : Value}
    (made : make depths indentWidth tabWidth extensions = .ok config) :
    config.HasWidths indentWidth tabWidth := by
  obtain ⟨indent, checked, made⟩ := bind_eq_ok_iff.mp made
  obtain ⟨tab, checkedTab, made⟩ := bind_eq_ok_iff.mp made
  cases made
  obtain ⟨rfl, least⟩ := positive_eq_ok_iff.mp checked
  obtain ⟨rfl, leastTab⟩ := positive_eq_ok_iff.mp checkedTab
  exact ⟨rfl, rfl, least, leastTab⟩

theorem takesWidths_of_replace {values : List (String × Value)}
    (made : config.replace depths values = .ok next) :
    next.TakesWidths config (given? values) := by
  unfold replace at made
  split at made
  · cases made
  · exact hasWidths_of_make (mapError_eq_ok_iff.mp made)

theorem takesWidths_of_override {values : List (String × Value)}
    (made : config.override depths values = .ok next) :
    next.TakesWidths config (given? (values.filter fun value => !isNull value.2)) := by
  unfold override at made
  split at made
  · cases made
  · exact takesWidths_of_replace made

theorem takesWidths_of_ofEntries {entries : List (Value × Value)}
    (made : ofEntries depths entries = .ok config) :
    config.TakesWidths standard (lookup entries) := by
  unfold ofEntries at made
  dsimp only at made
  split at made
  · obtain ⟨extensions, -, made⟩ := bind_eq_ok_iff.mp made
    exact hasWidths_of_make made
  · exact hasWidths_of_make made

theorem takesWidths_of_ofMapping {entries : List (Value × Value)} {source : Option String}
    (made : (ofMapping depths entries source).1 = .ok config) :
    config.TakesWidths standard (lookup entries) := by
  unfold ofMapping at made
  have checked := mapError_eq_ok_iff.mp made
  split at checked
  · cases checked
  · exact takesWidths_of_ofEntries checked

/-- The entries of the mapping that a text holds; a text that holds none has no entries. -/
def textEntries (text : Text) : List (Value × Value) :=
  match Yaml.load text with
  | .ok document => (document.entries?.map (documentEntries document)).getD []
  | .error _ => []

/-- The entries of the mapping that a file holds. -/
def fileEntries (files : Files) (path : String) : List (Value × Value) :=
  match files.readText (Path.ofString path) with
  | .ok text => textEntries text
  | .error _ => []

theorem takesWidths_of_ofDocument {text : Text} {source : String}
    (made : (ofDocument depths text source).1 = .ok config) :
    config.TakesWidths standard (lookup (textEntries text)) := by
  unfold ofDocument at made
  unfold textEntries
  dsimp only at made
  split at made
  · cases made
  · cases made
  · next document loads =>
    rw [loads]
    dsimp only
    split at made
    · next root =>
      -- an empty document is no mapping, so the defaults are all there is
      have none : document.entries? = none := by rw [Yaml.Document.entries?, root]
      rw [none]
      cases made
      exact ⟨rfl, rfl, by decide, by decide⟩
    · next found _ =>
      rw [found]
      exact takesWidths_of_ofMapping (mapError_eq_ok_iff.mp made)
    · cases made

theorem takesWidths_of_load {files : Files} {path : String}
    (made : (load depths files path).1 = .ok config) :
    config.TakesWidths standard (lookup (fileEntries files path)) := by
  unfold load at made
  unfold fileEntries
  dsimp only at made
  split at made
  · cases made
  · cases made
  · cases made
  · next text reads =>
    rw [reads]
    exact takesWidths_of_ofDocument made

/-! ## Steps -/

/-- A step that may put another configuration in force. -/
inductive Step where
  /-- Named values, with defaults for the others. -/
  | fresh (values : List (String × Value))
  /-- Named values in place of those in force. -/
  | override (values : List (String × Value))
  /-- The entries of a mapping. -/
  | mapping (entries : List (Value × Value)) (source : Option String)
  /-- A file. -/
  | file (files : Files) (path : String)

namespace Step

/-- The configuration that a step makes of the one in force, unless the step fails. -/
def make? (depths : Depths) (config : Config) : Step → Option Config
  | fresh values => (ofValues depths values).toOption
  | override values => (config.override depths values).toOption
  | mapping entries source => (ofMapping depths entries source).1.toOption
  | file files path => (load depths files path).1.toOption

/-- The value that a step gives a setting; a null in an override gives none. -/
def given? : Step → Setting → Option Value
  | fresh values => Config.given? values
  | override values => Config.given? (values.filter fun value => !isNull value.2)
  | mapping entries _ => lookup entries
  | file files path => lookup (fileEntries files path)

/-- The configuration in force after a step. A step that fails changes nothing. -/
def apply (depths : Depths) (config : Config) (step : Step) : Config :=
  (step.make? depths config).getD config

/-- A step that does not fail gives the widths, or leaves them to the configuration in force or to
the defaults. -/
theorem takesWidths_of_make? {step : Step} (made : step.make? depths config = some next) :
    ∃ base, (base = config ∨ base = standard) ∧ next.TakesWidths base step.given? := by
  cases step with
  | fresh values =>
    exact ⟨standard, Or.inr rfl, takesWidths_of_replace (toOption_eq_some_iff.mp made)⟩
  | override values =>
    exact ⟨config, Or.inl rfl, takesWidths_of_override (toOption_eq_some_iff.mp made)⟩
  | mapping entries source =>
    exact ⟨standard, Or.inr rfl, takesWidths_of_ofMapping (toOption_eq_some_iff.mp made)⟩
  | file files path =>
    exact ⟨standard, Or.inr rfl, takesWidths_of_load (toOption_eq_some_iff.mp made)⟩

end Step

/-- The configuration in force after steps from the standard one. -/
def after (depths : Depths) (steps : List Step) : Config :=
  steps.foldl (Step.apply depths) standard

/-- The value of a setting is a positive integer, which is the default or was given, as it is, by
one of the steps. -/
def HoldsWidth (config : Config) (steps : List Step) (setting : Setting) : Prop :=
  ∃ n, config.get setting = .int n ∧ 1 ≤ n ∧
    (standard.get setting = .int n ∨ ∃ step ∈ steps, step.given? setting = some (.int n))

/-- Both widths are positive integers that are defaults or were given by the steps. -/
structure Sound (config : Config) (steps : List Step) : Prop where
  indentWidth : config.HoldsWidth steps .indentWidth
  tabWidth : config.HoldsWidth steps .tabWidth

theorem sound_standard (steps : List Step) : standard.Sound steps :=
  ⟨⟨defaultIndentWidth, rfl, by decide, Or.inl rfl⟩, ⟨defaultTabWidth, rfl, by decide, Or.inl rfl⟩⟩

/-- A width that a step gives or leaves as it is. -/
theorem holdsWidth_of_step {steps : List Step} {step : Step} (member : step ∈ steps)
    {base : Config} {setting : Setting} (held : base.HoldsWidth steps setting) {n : Int}
    (value : (step.given? setting).getD (base.get setting) = .int n)
    (stands : next.get setting = .int n) (least : 1 ≤ n) : next.HoldsWidth steps setting := by
  cases given : step.given? setting with
  | some found =>
    rw [given, Option.getD_some] at value
    exact ⟨n, stands, least, Or.inr ⟨step, member, by rw [given, value]⟩⟩
  | none =>
    rw [given, Option.getD_none] at value
    obtain ⟨m, same, -, origin⟩ := held
    obtain rfl : m = n := Value.int.inj (same.symm.trans value)
    exact ⟨m, stands, least, origin⟩

theorem Sound.apply {steps : List Step} {step : Step} (sound : config.Sound steps)
    (member : step ∈ steps) : (step.apply depths config).Sound steps := by
  unfold Step.apply
  cases made : step.make? depths config with
  | none => exact sound
  | some next =>
    obtain ⟨base, origin, widths⟩ := Step.takesWidths_of_make? made
    have soundBase : base.Sound steps := by
      rcases origin with rfl | rfl
      · exact sound
      · exact sound_standard steps
    exact ⟨holdsWidth_of_step member soundBase.indentWidth widths.indentWidth rfl
        widths.indentWidth_pos,
      holdsWidth_of_step member soundBase.tabWidth widths.tabWidth rfl widths.tabWidth_pos⟩

/-- Whatever steps are tried, the widths in force are positive integers. -/
theorem sound_after (depths : Depths) (steps : List Step) : (after depths steps).Sound steps := by
  refine List.foldlRecOn (motive := fun config => config.Sound steps) steps (Step.apply depths)
    (sound_standard steps) ?_
  intro config sound step member
  exact sound.apply member

/-- A truth value and a zero are refused, and a null leaves the width as it is. -/
example :
    let config := after ⟨9, 9, 9, 9⟩ [.fresh [("indent_width", .bool true), ("tab_width", .int 2)],
      .override [("indent_width", .null), ("tab_width", .int 3)],
      .mapping [(.str "indent_width", .int 0)] none]
    config.indentWidth = 4 ∧ config.tabWidth = 3 := by decide +kernel

theorem HoldsWidth.one_le {steps : List Step} {setting : Setting} {n : Int}
    (held : config.HoldsWidth steps setting) (value : config.get setting = .int n) : 1 ≤ n := by
  obtain ⟨m, same, least, -⟩ := held
  obtain rfl : m = n := Value.int.inj (same.symm.trans value)
  exact least

end Config

/-! ## Placing lines with the widths in force -/

/-- Whatever steps are tried, one after the other, and whichever of them fail, the widths in force
are positive integers, and each is the default or was given as that integer by one of the steps.
With these widths the lines of any region of any text are placed in columns from the first one on,
unless a line does not fit where it belongs. -/
theorem Config.after_sound_and_places (machine : Machine) (steps : List Config.Step) (text : Text)
    (start : Int) (stop : Option Int) :
    let config := Config.after machine.depths steps
    let indenter : Indenter := ⟨config.indentWidth⟩
    let edit := indenter.indentRegion (Buffer.ofText text config.tabWidth machine.room) start stop
    config.HoldsWidth steps .indentWidth ∧ config.HoldsWidth steps .tabWidth ∧
      ((∃ columns, edit.outcome = .ok columns ∧ ∀ c ∈ columns, 0 ≤ c) ∨
        ∃ n c, indenter.Stuck edit n c) := by
  intro config indenter edit
  obtain ⟨indent, tab⟩ := Config.sound_after machine.depths steps
  have tabs : 1 ≤ (Buffer.ofText text config.tabWidth machine.room).tabWidth := by
    rw [Buffer.tabWidth_ofText]
    exact tab.one_le rfl
  exact ⟨indent, tab, indenter.indentRegion_returns tabs start stop⟩

end TurtleEdit
