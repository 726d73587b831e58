import TurtleEdit.Text.Blank

/-!
Texts as bytes: UTF-8, strictly.

Only the shortest form of a character is read, and no half of a pair. Bytes that spell no text are
refused with the offset of the first one that starts no character. Encoding and decoding undo each
other: `decodeUtf8_encodeUtf8` and `encodeUtf8_of_decodeUtf8`.
-/

namespace TurtleEdit

/-- The bytes of a text. -/
def encodeUtf8 (text : Text) : ByteArray := (text.flatMap String.utf8EncodeChar).toByteArray

/-- The offset at or after `pos` of the first byte that starts no character, found within `bound`
characters. -/
def firstInvalid (bytes : ByteArray) (pos : Nat) : Nat → Nat
  | 0 => pos
  | bound + 1 =>
    match bytes.utf8DecodeChar? pos with
    | some c => firstInvalid bytes (pos + c.utf8Size) bound
    | none => pos

/-- The text of bytes, or the offset of the first byte that starts no character. -/
def decodeUtf8 (bytes : ByteArray) : Except Nat Text :=
  match bytes.utf8Decode? with
  | some text => .ok text.toList
  | none => .error (firstInvalid bytes 0 bytes.size)

theorem decodeUtf8_encodeUtf8 (text : Text) : decodeUtf8 (encodeUtf8 text) = .ok text := by
  have decoded : (encodeUtf8 text).utf8Decode? = some text.toArray :=
    List.utf8Decode?_utf8Encode
  simp [decodeUtf8, decoded]

theorem encodeUtf8_of_decodeUtf8 {bytes : ByteArray} {text : Text}
    (h : decodeUtf8 bytes = .ok text) : encodeUtf8 text = bytes := by
  unfold decodeUtf8 at h
  split at h
  · next found decoded =>
    cases h
    have valid : bytes.utf8Decode?.isSome = true := by simp [decoded]
    have back : found.toList.utf8Encode = bytes := by
      simpa [decoded] using ByteArray.utf8Encode_get_utf8Decode? (h := valid)
    exact back
  · cases h

/-- A text with every line end, one of the two common characters or both, as a line feed. -/
def unifyNewlines : Text → Text
  | '\r' :: '\n' :: rest => '\n' :: unifyNewlines rest
  | '\r' :: rest => '\n' :: unifyNewlines rest
  | c :: rest => c :: unifyNewlines rest
  | [] => []

end TurtleEdit
