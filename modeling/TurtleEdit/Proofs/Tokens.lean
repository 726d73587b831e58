import TurtleEdit.Highlight.Pattern
import TurtleEdit.Proofs.Spans

/-!
Tokens, and texts made of tokens with blanks between them.

A token is given with the styles it ought to have: as pieces of text, each with a style or without
one. From the pieces of a text come the text itself, the canvas on which each piece has its style,
and the spans of that canvas. The spans are those of the pieces, because a piece is not empty and no
two pieces of one style touch.
-/

namespace TurtleEdit

/-! ## Words of tokens -/

/-- A namespace without its colon: nothing, or an ASCII letter and namespace characters. -/
def isNamespace : Text → Bool
  | [] => true
  | c :: rest => c.isAlpha && rest.all isNamespaceChar

/-- An iri without its angle brackets, quotes and carets left out. -/
def isPlainIri (iri : Text) : Bool := iri.all fun c => isIriChar c && c != '"' && c != '^'

/-- A string on one line without its quotes: a backslash takes the next character with it. -/
def isStringBody : Text → Bool
  | '\\' :: c :: rest => c != '\n' && isStringBody rest
  | ['\\'] => false
  | c :: rest => c != '"' && c != '\n' && isStringBody rest
  | [] => true

/-- A language: ASCII letters, then subtags of letters and digits, each after a hyphen. -/
def isLanguageTag (tag : Text) : Bool :=
  match splitAt '-' tag with
  | first :: subtags =>
    !first.isEmpty && first.all Char.isAlpha &&
      subtags.all fun subtag => !subtag.isEmpty && subtag.all Char.isAlphanum
  | [] => false

/-! ## Pieces -/

/-- A part of a text and the style it ought to have, if any. -/
structure Piece where
  style : Option Style
  text : Text

/-- What may follow a string: nothing, its language or its type. -/
inductive IsSuffix : List Piece → Prop
  | nothing : IsSuffix []
  | language {tag : Text} (isTag : isLanguageTag tag = true) (other : tag ≠ "prefix".toList) :
    IsSuffix [⟨some .language, '@' :: tag⟩]
  | iri {iri : Text} (plain : isPlainIri iri = true) :
    IsSuffix [⟨none, "^^".toList⟩, ⟨some .datatypeIri, '<' :: (iri ++ ['>'])⟩]
  | name {space part : Text} (isSpace : isNamespace space = true)
    (isPart : isLocalPart part = true) :
    IsSuffix [⟨none, "^^".toList⟩, ⟨some .datatypeName, space ++ ':' :: part⟩]

/-- The tokens, as their pieces. -/
inductive IsToken : List Piece → Prop
  | declaration {blanks space : Text} (allBlank : blanks.all isBlank = true) (apart : blanks ≠ [])
    (isSpace : isNamespace space = true) :
    IsToken [⟨some .keyword, "@prefix".toList⟩, ⟨none, blanks⟩,
      ⟨some .namespaceName, space ++ [':']⟩]
  | base : IsToken [⟨some .keyword, "@base".toList⟩]
  | iri {iri : Text} (plain : isPlainIri iri = true) :
    IsToken [⟨some .iri, '<' :: (iri ++ ['>'])⟩]
  | blankNode {label : Text} (isLabel : isLocalPart label = true) (filled : label ≠ []) :
    IsToken [⟨some .blankNode, "_:".toList ++ label⟩]
  | name {space part : Text} (isSpace : isNamespace space = true)
    (isPart : isLocalPart part = true) (other : space.getLast? = some '_' → part = []) :
    IsToken [⟨some .prefixedName, space ++ ':' :: part⟩]
  | literal {body : Text} {suffix : List Piece} (isBody : isStringBody body = true)
    (isSuffix : IsSuffix suffix) :
    IsToken (⟨some .string, '"' :: (body ++ ['"'])⟩ :: suffix)
  | mark {c : Char} (isMark : isMark c = true) : IsToken [⟨some .punctuation, [c]⟩]

/-- Tokens with blanks after each of them, which only the last token may lack. -/
inductive Spaced : List Piece → Prop
  | nil : Spaced []
  | last {token : List Piece} (isToken : IsToken token) : Spaced token
  | next {token rest : List Piece} {blanks : Text} (isToken : IsToken token)
    (allBlank : blanks.all isBlank = true) (apart : blanks ≠ []) (spaced : Spaced rest) :
    Spaced (token ++ ⟨none, blanks⟩ :: rest)

/-- The text of pieces. -/
def textOf (pieces : List Piece) : Text := pieces.flatMap Piece.text

/-- The canvas of pieces. -/
def cellsOf (pieces : List Piece) : Canvas :=
  pieces.flatMap fun piece => List.replicate piece.text.length piece.style

/-- The spans of pieces, where the first one starts at `pos`. -/
def spansOf (pos : Nat) : List Piece → List Span
  | [] => []
  | piece :: rest =>
    let stop := pos + piece.text.length
    match piece.style with
    | some style => ⟨pos, stop, style⟩ :: spansOf stop rest
    | none => spansOf stop rest

/-! ## The spans of pieces -/

section Append

variable (pieces others : List Piece)

theorem textOf_append : textOf (pieces ++ others) = textOf pieces ++ textOf others :=
  List.flatMap_append

theorem cellsOf_append : cellsOf (pieces ++ others) = cellsOf pieces ++ cellsOf others :=
  List.flatMap_append

theorem spansOf_append (pos : Nat) :
    spansOf pos (pieces ++ others) =
      spansOf pos pieces ++ spansOf (pos + (textOf pieces).length) others := by
  induction pieces generalizing pos with
  | nil => rfl
  | cons piece rest ih =>
    have size : pos + (textOf (piece :: rest)).length =
        pos + piece.text.length + (textOf rest).length := by
      rw [textOf, List.flatMap_cons, List.length_append, Nat.add_assoc, textOf]
    rw [size, List.cons_append, spansOf, spansOf]
    cases piece.style with
    | none => exact ih _
    | some style => exact congrArg _ (ih _)

end Append

namespace Canvas

/-- Unpainted characters move the spans behind them. -/
theorem spans_replicate_none (pos size : Nat) (rest : Canvas) :
    spans pos (List.replicate size none ++ rest) = spans (pos + size) rest := by
  induction size generalizing pos with
  | zero => rfl
  | succ size ih =>
    rw [List.replicate_succ, List.cons_append, spans, ih, Nat.add_assoc, Nat.add_comm 1]

/-- Characters of one style are one span, if the next character has another style or none. -/
theorem spans_replicate_some (pos size : Nat) (style : Style) {rest : Canvas}
    (ends : rest.head? ≠ some (some style)) :
    spans pos (List.replicate (size + 1) (some style) ++ rest) =
      ⟨pos, pos + (size + 1), style⟩ :: spans (pos + (size + 1)) rest := by
  induction size generalizing pos with
  | zero =>
    rw [List.replicate_one, List.singleton_append, spans]
    rcases rest with _ | ⟨_ | other, later⟩
    · rfl
    · -- the next span begins further right
      refine Span.prepend_append style [] fun span member => ?_
      have behind : pos + 1 + 1 ≤ span.start := (bounds_of_mem_spans member).1
      exact Nat.lt_of_succ_le behind
    · -- the next span has another style
      have differs : other ≠ style := fun same => ends (by rw [same, List.head?_cons])
      rw [spans]
      generalize spans (pos + 1 + 1) later = following
      cases following with
      | nil => rw [Span.prepend, Span.prepend, if_neg fun joins => differs joins.2]
      | cons first others =>
        rw [Span.prepend]
        split
        · rw [Span.prepend, if_neg fun joins => differs joins.2]
        · rw [Span.prepend, if_neg fun joins => differs joins.2]
  | succ size ih =>
    have further : pos + 1 + (size + 1) = pos + (size + 1 + 1) := by omega
    rw [List.replicate_succ, List.cons_append, spans, ih, Span.prepend, if_pos ⟨rfl, rfl⟩, further]

end Canvas

theorem length_cellsOf (pieces : List Piece) :
    (cellsOf pieces).length = (textOf pieces).length := by
  simp [cellsOf, textOf, List.length_flatMap]

/-- The spans of the canvas of a piece and of what follows it. -/
theorem spans_piece_append {style : Style} {text : Text} (filled : text ≠ []) {rest : Canvas}
    (ends : rest.head? ≠ some (some style)) (pos : Nat) :
    Canvas.spans pos (List.replicate text.length (some style) ++ rest) =
      ⟨pos, pos + text.length, style⟩ :: rest.spans (pos + text.length) := by
  cases text with
  | nil => exact absurd rfl filled
  | cons c tail => exact Canvas.spans_replicate_some pos tail.length style ends

theorem spans_piece {style : Style} {text : Text} (filled : text ≠ []) (pos : Nat) :
    (cellsOf [⟨some style, text⟩]).spans pos = [⟨pos, pos + text.length, style⟩] :=
  spans_piece_append filled (by simp) pos

theorem spans_suffix {suffix : List Piece} (isSuffix : IsSuffix suffix) (pos : Nat) :
    (cellsOf suffix).spans pos = spansOf pos suffix := by
  cases isSuffix with
  | nothing => rfl
  | language isTag other => exact spans_piece (List.cons_ne_nil _ _) pos
  | iri plain => exact spans_piece (List.cons_ne_nil _ _) (pos + 2)
  | name isSpace isPart => exact spans_piece (by simp) (pos + 2)

theorem head?_cellsOf_suffix {suffix : List Piece} (isSuffix : IsSuffix suffix) :
    (cellsOf suffix).head? ≠ some (some .string) := by
  cases isSuffix with
  | nothing => exact fun same => nomatch same
  | language isTag other => exact fun same => nomatch same
  | iri plain => exact fun same => nomatch same
  | name isSpace isPart => exact fun same => nomatch same

/-- The spans of the canvas of a token are those of its pieces. -/
theorem spans_token {token : List Piece} (isToken : IsToken token) (pos : Nat) :
    (cellsOf token).spans pos = spansOf pos token := by
  cases isToken with
  | @declaration blanks space allBlank apart isSpace =>
    obtain ⟨b, others, rfl⟩ := List.exists_cons_of_ne_nil apart
    have gap := Canvas.spans_replicate_none (pos + 7) (b :: others).length
      (cellsOf [⟨some .namespaceName, space ++ [':']⟩])
    have ends : (List.replicate (b :: others).length none ++
        cellsOf [⟨some .namespaceName, space ++ [':']⟩]).head? ≠ some (some .keyword) :=
      fun same => by simp [List.replicate_succ] at same
    refine (spans_piece_append (List.cons_ne_nil _ _) ends pos).trans ?_
    exact congrArg _ (gap.trans (spans_piece (by simp) _))
  | base => exact spans_piece (List.cons_ne_nil _ _) pos
  | iri plain => exact spans_piece (List.cons_ne_nil _ _) pos
  | blankNode isLabel filled => exact spans_piece (List.cons_ne_nil _ _) pos
  | name isSpace isPart other => exact spans_piece (by simp) pos
  | literal isBody isSuffix =>
    refine (spans_piece_append (List.cons_ne_nil _ _) (head?_cellsOf_suffix isSuffix) pos).trans ?_
    exact congrArg _ (spans_suffix isSuffix _)
  | mark isMark => exact spans_piece (List.cons_ne_nil _ _) pos

/-- The spans of the canvas of a text of tokens are those of its pieces. -/
theorem spans_spaced {pieces : List Piece} (spaced : Spaced pieces) (pos : Nat) :
    (cellsOf pieces).spans pos = spansOf pos pieces := by
  induction spaced generalizing pos with
  | nil => rfl
  | last isToken => exact spans_token isToken pos
  | @next token rest blanks isToken allBlank apart spaced ih =>
    obtain ⟨b, others, rfl⟩ := List.exists_cons_of_ne_nil apart
    have cells : cellsOf (token ++ ⟨none, b :: others⟩ :: rest) =
        cellsOf token ++ none :: (List.replicate others.length none ++ cellsOf rest) := by
      rw [cellsOf_append]
      rfl
    have size : pos + (textOf token).length + 1 + others.length =
        pos + (textOf token).length + (b :: others).length := by
      rw [List.length_cons]
      omega
    rw [cells, Canvas.spans_append_none, Canvas.spans_replicate_none, spans_token isToken, ih,
      spansOf_append, length_cellsOf, size]
    rfl

end TurtleEdit
