import TurtleEdit.Proofs.Placing
import TurtleEdit.Proofs.TokenStyles

/-!
Resources alone on a line, and the line below them.

What a resource is, is said twice: by the patterns that highlight iris and names, and by the shape
of a line that holds a resource and nothing else. The two agree on iris and on all names but those
with a full stop in their namespace. Such a name is highlighted as one, but a line that holds it is
no header, and the line below it is not moved to the right.
-/

namespace TurtleEdit

/-! ## Resources -/

/-- A resource as it is highlighted: an iri in angle brackets, or a name. -/
inductive IsResource : Text → Prop
  | iri {iri : Text} (inIri : iri.all isIriChar = true) : IsResource ('<' :: (iri ++ ['>']))
  | name {space part : Text} (isSpace : isNamespace space = true)
    (isPart : isLocalPart part = true) : IsResource (space ++ ':' :: part)

/-- A resource is a name with a full stop in its namespace. -/
def hasDottedNamespace (resource : Text) : Bool :=
  !isIriRef resource && (resource.takeWhile (· != ':')).contains '.'

theorem IsResource.solid {resource : Text} (isResource : IsResource resource) :
    ∀ c ∈ resource, isBlank c = false := by
  cases isResource with
  | @iri iri inIri =>
    have inside : ∀ c ∈ iri, isBlank c = false := by
      intro c member
      have inClass := List.all_eq_true.mp inIri c member
      simp only [isIriChar, Bool.and_eq_true, Bool.not_eq_true'] at inClass
      exact inClass.2
    refine List.forall_mem_cons.mpr ⟨by decide, List.forall_mem_append.mpr ⟨inside, ?_⟩⟩
    exact List.forall_mem_singleton.mpr (by decide)
  | name isSpace isPart => exact isBlank_of_named (named_name isSpace isPart)

theorem isIriRef_iri {iri : Text} (inIri : iri.all isIriChar = true) :
    isIriRef ('<' :: (iri ++ ['>'])) = true := by
  rw [isIriRef, List.reverse_append]
  simpa using inIri

/-- A name is divided by its first colon. -/
theorem isHeaderName_append {space : Text} (inSpace : ∀ c ∈ space, (c != ':') = true)
    (part : Text) :
    isHeaderName (space ++ ':' :: part) = (isHeaderNamespace space && isLocalPart part) := by
  have before : (space ++ ':' :: part).takeWhile (· != ':') = space := by
    rw [List.takeWhile_append_of_pos inSpace]
    simp
  rw [isHeaderName, dropWhile_word inSpace (by decide) part, before]

section Name

variable {space part : Text} (isSpace : isNamespace space = true)

include isSpace

theorem isIriRef_name : isIriRef (space ++ ':' :: part) = false := by
  cases space with
  | nil => rfl
  | cons c rest =>
    rw [isNamespace, Bool.and_eq_true] at isSpace
    have other : c ≠ '<' := by
      rintro rfl
      exact absurd isSpace.1 (by decide)
    simp [isIriRef, other]

/-- The characters of a namespace before its colon. -/
theorem ne_colon_of_mem_namespace : ∀ c ∈ space, (c != ':') = true := by
  intro c member
  have inName := isNamespaceChar_of_mem_namespace isSpace member
  simp only [bne_iff_ne]
  rintro rfl
  exact absurd inName (by decide)

theorem takeWhile_name : (space ++ ':' :: part).takeWhile (· != ':') = space := by
  rw [List.takeWhile_append_of_pos (ne_colon_of_mem_namespace isSpace)]
  simp

theorem hasDottedNamespace_name :
    hasDottedNamespace (space ++ ':' :: part) = space.contains '.' := by
  rw [hasDottedNamespace, isIriRef_name isSpace, takeWhile_name isSpace]
  rfl

/-- A namespace is that of a header unless it holds a full stop. -/
theorem isHeaderNamespace_iff : isHeaderNamespace space = true ↔ '.' ∉ space := by
  cases space with
  | nil => simp [isHeaderNamespace]
  | cons c rest =>
    rw [isNamespace, Bool.and_eq_true] at isSpace
    have first : c ≠ '.' := by
      rintro rfl
      exact absurd isSpace.1 (by decide)
    rw [isHeaderNamespace, isSpace.1, Bool.true_or, Bool.true_and, List.all_eq_true, List.mem_cons,
      not_or]
    constructor
    · intro inName
      exact ⟨first.symm, fun member => absurd (inName _ member) (by decide)⟩
    · rintro ⟨-, undotted⟩ d member
      have inSpace := List.all_eq_true.mp isSpace.2 d member
      have other : d ≠ '.' := fun same => undotted (same ▸ member)
      simpa [isNamespaceChar, isNameChar, other] using inSpace

theorem isHeaderName_name :
    isHeaderName (space ++ ':' :: part) = (isHeaderNamespace space && isLocalPart part) :=
  isHeaderName_append (ne_colon_of_mem_namespace isSpace) part

theorem isHeader_name_iff (isPart : isLocalPart part = true) :
    isHeader (space ++ ':' :: part) = true ↔ '.' ∉ space := by
  have solid := (IsResource.name isSpace isPart).solid
  rw [isHeader, trimBlanks_of_solid solid, isIriRef_name isSpace, isHeaderName_name isSpace, isPart,
    Bool.and_true, Bool.false_or, isHeaderNamespace_iff isSpace]

end Name

/-! ## Shapes -/

/-- Runs that have to be ended end with a character of their class. -/
theorem getLast?_of_runsFrom {sep : Char} {inClass : Char → Bool} {inRun : Bool} {text : Text}
    (runs : runsFrom sep inClass inRun text = true) {c : Char} (last : text.getLast? = some c) :
    inClass c = true := by
  induction text generalizing inRun with
  | nil => cases last
  | cons d rest ih =>
    rw [runsFrom] at runs
    cases rest with
    | nil =>
      cases last
      split at runs
      · rw [runsFrom, Bool.and_false] at runs
        cases runs
      · rw [Bool.and_eq_true] at runs
        exact runs.1
    | cons e later =>
      rw [List.getLast?_cons_cons] at last
      split at runs
      · rw [Bool.and_eq_true] at runs
        exact ih runs.2 last
      · rw [Bool.and_eq_true] at runs
        exact ih runs.2 last

/-- The character that a name ends with gives a line no shape. -/
theorem ofLast_of_name {space part : Text} (isPart : isLocalPart part = true) {c : Char}
    (last : (space ++ ':' :: part).getLast? = some c) : LineShape.ofLast c = .other := by
  have inName : c = ':' ∨ isNameChar c = true := by
    rw [List.getLast?_append, List.getLast?_cons] at last
    cases ends : part.getLast? with
    | none =>
      rw [ends] at last
      exact Or.inl (Option.some.inj last).symm
    | some d =>
      rw [ends] at last
      obtain rfl : d = c := Option.some.inj last
      have filled : part ≠ [] := fun empty => by simp [empty] at ends
      exact Or.inr (getLast?_of_runsFrom (runsFrom_of_isLocalPart isPart filled) ends)
  rcases inName with rfl | inName
  · rfl
  · -- no mark that gives a line a shape stands in a name
    unfold LineShape.ofLast
    split
    · exact absurd inName (by decide)
    · exact absurd inName (by decide)
    · exact absurd inName (by decide)
    · exact absurd inName (by decide)
    · exact absurd inName (by decide)
    · rfl

/-- A line is the header of an iri or of a name, unless the name has a dotted namespace. -/
theorem lineShape_of_isResource {resource : Text} (isResource : IsResource resource) :
    lineShape resource = if hasDottedNamespace resource then .other else .header := by
  have solid := isResource.solid
  cases isResource with
  | @iri iri inIri =>
    have isIri := isIriRef_iri inIri
    have header : isHeader ('<' :: (iri ++ ['>'])) = true := by
      rw [isHeader, trimBlanks_of_solid solid, isIri, Bool.true_or]
    rw [lineShape, if_pos header, hasDottedNamespace, isIri]
    rfl
  | @name space part isSpace isPart =>
    rw [hasDottedNamespace_name isSpace, lineShape]
    by_cases dotted : '.' ∈ space
    · have notHeader : ¬ isHeader (space ++ ':' :: part) = true := fun header =>
        (isHeader_name_iff isSpace isPart).mp header dotted
      have backwards : ∀ c ∈ (space ++ ':' :: part).reverse, isBlank c = false := fun c member =>
        solid c (List.mem_reverse.mp member)
      rw [if_neg notHeader, if_pos (List.contains_iff_mem.mpr dotted),
        dropBlanks_of_solid backwards]
      split
      · next last before ends =>
        refine @ofLast_of_name space part isPart last ?_
        rw [List.getLast?_eq_head?_reverse, ends, List.head?_cons]
      · rfl
    · rw [if_pos ((isHeader_name_iff isSpace isPart).mpr dotted),
        if_neg fun contains => dotted (List.contains_iff_mem.mp contains)]

/-! ## Lines -/

section Line

variable {left resource right : Text} (indentsLeft : Indents left)
  (isResource : IsResource resource) (indentsRight : Indents right)

include indentsLeft isResource indentsRight

theorem lineShape_resource_line :
    lineShape (left ++ resource ++ right) =
      if hasDottedNamespace resource then .other else .header := by
  rw [indentsRight.allBlank.lineShape_append_right, indentsLeft.allBlank.lineShape_append,
    lineShape_of_isResource isResource]

omit indentsRight in
/-- A line that holds a resource is indented by what stands before the resource. -/
theorem measure_resource_line (tabWidth : Int) :
    measure tabWidth (left ++ resource ++ right) = measure tabWidth left := by
  have first : ∀ c, (resource ++ right).head? = some c → isIndent c = false := by
    intro c here
    have filled : resource ≠ [] := by cases isResource <;> simp
    rw [List.head?_append_of_ne_nil _ filled] at here
    cases indents : isIndent c with
    | false => rfl
    | true =>
      have solid := isResource.solid c (List.mem_of_head? here)
      rw [isBlank_of_isIndent indents] at solid
      cases solid
  have nothing : (resource ++ right).takeWhile isIndent = [] := by
    cases rest : resource ++ right with
    | nil => rfl
    | cons c tail =>
      rw [rest] at first
      exact List.takeWhile_cons_of_neg (by simp [first c rfl])
  have alone : leading left = left := by
    have appended := indentsLeft.leading_append []
    rwa [unindented, List.dropWhile_nil, List.append_nil] at appended
  have same : leading (left ++ resource ++ right) = leading left := by
    rw [alone, leading, List.append_assoc, List.takeWhile_append_of_pos indentsLeft, nothing,
      List.append_nil]
  rw [measure, measure, same]

/-- A line that holds a resource and nothing else is a header, and the next line belongs one level
to its right if it closes no node. Only a name with a full stop in its namespace is left out: its
line has no shape, and the next line belongs right below it. -/
theorem header_iff_not_hasDottedNamespace :
    let line := left ++ resource ++ right
    (lineShape line = .header ↔ hasDottedNamespace resource = false) ∧
      ∀ (indenter : Indenter) (buffer : Buffer) (n : Nat) (below : Text) (column : Int),
        buffer.lines[n]? = some line → buffer.lines[n + 1]? = some below →
        closesNode below = false → measure buffer.tabWidth left = .ok column →
        indenter.Belongs buffer (n + 1) (max 0
          (if hasDottedNamespace resource then column else column + indenter.width)) := by
  intro line
  have shape := lineShape_resource_line indentsLeft isResource indentsRight
  refine ⟨?_, ?_⟩
  · rw [shape]
    cases hasDottedNamespace resource <;> simp
  · intro indenter buffer n below column up here stays measured
    have stands : buffer.indentation n = .ok column := by
      rw [Buffer.indentation_of_getElem? up,
        measure_resource_line indentsLeft isResource buffer.tabWidth, measured]
    have belongs := Indenter.belongs_succ indenter here up stands
    rw [Indenter.below, if_neg (by rw [stays]; exact Bool.false_ne_true), shape] at belongs
    cases dotted : hasDottedNamespace resource with
    | true =>
      rw [dotted] at belongs
      exact belongs
    | false =>
      rw [dotted] at belongs
      exact belongs

end Line

/-- A tab and a space before a name, and blanks behind it; the next line goes one level further. -/
theorem header_iff_not_hasDottedNamespace_indented :
    let line := "\t ".toList ++ ("a-_1".toList ++ ':' :: "b.é".toList) ++ " \t".toList
    lineShape line = .header ∧
      (⟨4⟩ : Indenter).Belongs ⟨[line, "p:q [ a p:r ] .".toList], 8, true, .widest⟩ 1 13 := by
  intro line
  have headed := @header_iff_not_hasDottedNamespace "\t ".toList
    ("a-_1".toList ++ ':' :: "b.é".toList) " \t".toList (List.all_eq_true.mp (by decide))
    (.name (by decide) (by decide)) (List.all_eq_true.mp (by decide))
  exact ⟨headed.1.mpr (by decide), headed.2 ⟨4⟩
    ⟨[line, "p:q [ a p:r ] .".toList], 8, true, .widest⟩ 0 "p:q [ a p:r ] .".toList 9 rfl rfl
    (by decide) rfl⟩

/-- A name that is highlighted as one, on a line that is no header. -/
theorem dottedNamespace_is_no_header :
    let line := "a.b".toList ++ ':' :: "c".toList
    isNamespace "a.b".toList = true ∧ isLocalPart "c".toList = true ∧ lineShape line = .other ∧
      (⟨4⟩ : Indenter).Belongs ⟨[line, "p:q .".toList], 8, true, .widest⟩ 1 0 := by
  intro line
  exact ⟨by decide, by decide, by decide, _, rfl⟩

end TurtleEdit
