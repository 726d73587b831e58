import TurtleEdit.Files

/-!
What replacing the bytes of one file changes in a tree of files.

A path is followed by what kind of entry stands on the way, and a file stays a file when its bytes
are replaced. So after a replacement every path leads where it led before; only the entry at the
names of the replaced file is another one, under whatever path it is reached.
-/

namespace TurtleEdit

namespace Files

variable {files : Files} {path other : Path} {names : List String} {old bytes : ByteArray}

/-! ## Where paths lead -/

/-- Following names ends at an entry of the tree. -/
theorem find?_of_follow {here rest : List String} {entry : FileEntry}
    (found : files.follow here rest = .ok (names, entry)) : files.find? names = some entry := by
  induction rest generalizing here with
  | nil =>
    rw [follow] at found
    split at found
    · next stands =>
      cases found
      exact stands
    · cases found
  | cons name rest ih =>
    rw [follow] at found
    split at found
    · cases found
    · cases found
    · split at found
      · cases found
      · exact ih found

theorem find?_of_locate {entry : FileEntry} (found : files.locate path = .ok (names, entry)) :
    files.find? names = some entry := by
  unfold locate at found
  split at found
  · cases found
  · exact find?_of_follow found

/-- Paths lead to the same place if they lead to the same names. -/
theorem locate_eq_of_names {entry entry' : FileEntry}
    (one : files.locate path = .ok (names, entry))
    (two : files.locate other = .ok (names, entry')) : files.locate other = files.locate path := by
  have same : entry' = entry :=
    Option.some.inj ((find?_of_locate two).symm.trans (find?_of_locate one))
  rw [one, two, same]

theorem exists_locate_of_read (found : files.read path = .ok bytes) :
    ∃ names, files.locate path = .ok (names, .file bytes) := by
  unfold read at found
  split at found
  · next names held here =>
    cases found
    exact ⟨names, here⟩
  · cases found
  · cases found

theorem read_of_locate (found : files.locate path = .ok (names, .file bytes)) :
    files.read path = .ok bytes := by
  rw [read, found]

/-! ## Replacing bytes -/

/-- The entry found at some names, with other bytes at the names of the file that is replaced. -/
def rewritten (names : List String) (bytes : ByteArray) (found : List String × FileEntry) :
    List String × FileEntry :=
  if found.1 = names then (names, .file bytes) else found

theorem rewritten_of_ne {found : List String × FileEntry} (apart : found.1 ≠ names)
    (bytes : ByteArray) : rewritten names bytes found = found := if_neg apart

theorem rewritten_self (names : List String) (bytes : ByteArray) (entry : FileEntry) :
    rewritten names bytes (names, entry) = (names, .file bytes) := if_pos rfl

theorem lookup_map_rewritten (entries : List (List String × FileEntry)) (names : List String)
    (bytes : ByteArray) (place : List String) :
    (entries.map (rewritten names bytes)).lookup place =
      (entries.lookup place).map fun entry => if place = names then .file bytes else entry := by
  induction entries with
  | nil => rfl
  | cons first rest ih =>
    obtain ⟨key, entry⟩ := first
    rw [List.map_cons]
    by_cases this : key = names
    · rw [this, rewritten_self, List.lookup_cons, List.lookup_cons]
      cases reached : place == names with
      | true => simp [beq_iff_eq.mp reached]
      | false => exact ih
    · rw [rewritten_of_ne this, List.lookup_cons, List.lookup_cons]
      cases reached : place == key with
      | true => simp [beq_iff_eq.mp reached, this]
      | false => exact ih

section Write

variable (here : files.locate path = .ok (names, .file old))

include here

theorem write_eq (bytes : ByteArray) :
    files.write path bytes = ⟨files.entries.map (rewritten names bytes)⟩ := by
  rw [write, here]
  rfl

/-- The entry at the replaced names is the new file, and every other one is the old entry. -/
theorem find?_write (bytes : ByteArray) (place : List String) :
    (files.write path bytes).find? place =
      (files.find? place).map fun entry => if place = names then .file bytes else entry := by
  have notGround : isGround names = false := by
    have stands := find?_of_locate here
    cases ground : isGround names with
    | false => rfl
    | true =>
      rw [find?, if_pos ground] at stands
      cases stands
  rw [write_eq here, find?, find?]
  by_cases ground : isGround place = true
  · have elsewhere : place ≠ names := by
      rintro rfl
      rw [notGround] at ground
      cases ground
    rw [if_pos ground, if_pos ground, Option.map_some, if_neg elsewhere]
  · rw [if_neg ground, if_neg ground]
    exact lookup_map_rewritten files.entries names bytes place

/-- What stands at the replaced names is a file before and after. -/
theorem follow_write (bytes : ByteArray) (start rest : List String) :
    (files.write path bytes).follow start rest =
      (files.follow start rest).map (rewritten names bytes) := by
  have stands := find?_of_locate here
  induction rest generalizing start with
  | nil =>
    rw [follow, follow, find?_write here]
    cases files.find? start with
    | none => rfl
    | some entry =>
      rw [Option.map_some]
      by_cases this : start = names
      · rw [this, if_pos rfl]
        exact congrArg Except.ok (rewritten_self names bytes entry).symm
      · rw [if_neg this]
        exact congrArg Except.ok (rewritten_of_ne this bytes).symm
  | cons name rest ih =>
    rw [follow, follow, find?_write here]
    by_cases this : start = names
    · rw [this, stands, Option.map_some, if_pos rfl]
      rfl
    · cases files.find? start with
      | none => rfl
      | some entry =>
        rw [Option.map_some, if_neg this]
        cases entry with
        | file held => rfl
        | directory =>
          dsimp only
          split
          · rfl
          · exact ih _

/-- Every path leads where it led before. -/
theorem locate_write (bytes : ByteArray) (other : Path) :
    (files.write path bytes).locate other =
      (files.locate other).map (rewritten names bytes) := by
  unfold locate
  split
  · rfl
  · exact follow_write here bytes _ _

theorem locate_write_self (bytes : ByteArray) :
    (files.write path bytes).locate path = .ok (names, .file bytes) := by
  rw [locate_write here, here]
  exact congrArg Except.ok (rewritten_self names bytes _)

/-- A path to another place gives what it gave. -/
theorem locate_write_of_ne (bytes : ByteArray) (apart : files.locate other ≠ files.locate path) :
    (files.write path bytes).locate other = files.locate other := by
  rw [locate_write here]
  cases found : files.locate other with
  | error fault => rfl
  | ok place =>
    obtain ⟨reached, entry⟩ := place
    have elsewhere : reached ≠ names := by
      rintro rfl
      exact apart (locate_eq_of_names here found)
    exact congrArg Except.ok (rewritten_of_ne elsewhere bytes)

/-- Replacing the bytes by the same once more changes nothing. -/
theorem write_write_self (bytes : ByteArray) :
    (files.write path bytes).write path bytes = files.write path bytes := by
  rw [write_eq (locate_write_self here bytes), write_eq here, List.map_map]
  congr 1
  refine List.map_congr_left fun entry _ => ?_
  obtain ⟨place, held⟩ := entry
  rw [Function.comp_apply]
  by_cases this : place = names
  · rw [this, rewritten_self, rewritten_self]
  · have kept : rewritten names bytes (place, held) = (place, held) := rewritten_of_ne this bytes
    rw [kept, kept]

end Write

theorem read_write_self (found : files.read path = .ok old) (bytes : ByteArray) :
    (files.write path bytes).read path = .ok bytes := by
  obtain ⟨names, here⟩ := exists_locate_of_read found
  exact read_of_locate (locate_write_self here bytes)

theorem readText_eq_of_locate {after : Files} (same : after.locate path = files.locate path) :
    after.readText path = files.readText path := by
  unfold readText read
  rw [same]

/-- What reading the text of a file comes to, by how far it gets. -/
inductive ReadsText (files : Files) (path : Path) : Except TextFault Text → Prop
  | nul (nul : path.hasNul = true) : ReadsText files path (.error .nulInPath)
  | unreadable {fault : FileFault} (plain : path.hasNul = false)
    (fails : files.read path = .error fault) : ReadsText files path (.error (.unreadable fault))
  | notUtf8 {bytes : ByteArray} {offset : Nat} (plain : path.hasNul = false)
    (holds : files.read path = .ok bytes) (fails : decodeUtf8 bytes = .error offset) :
    ReadsText files path (.error (.notUtf8 offset))
  | text {bytes : ByteArray} {decoded : Text} (plain : path.hasNul = false)
    (holds : files.read path = .ok bytes) (decodes : decodeUtf8 bytes = .ok decoded) :
    ReadsText files path (.ok (unifyNewlines decoded))

theorem readsText (files : Files) (path : Path) : ReadsText files path (files.readText path) := by
  unfold readText
  cases nul : path.hasNul with
  | true => exact .nul nul
  | false =>
    rw [if_neg Bool.false_ne_true]
    cases holds : files.read path with
    | error fault => exact .unreadable nul holds
    | ok bytes =>
      dsimp only
      cases decodes : decodeUtf8 bytes with
      | error offset => exact .notUtf8 nul holds decodes
      | ok decoded => exact .text nul holds decodes

/-- A text is read off the bytes of a file. -/
theorem exists_read_of_readText {text : Text} (found : files.readText path = .ok text) :
    ∃ bytes decoded, path.hasNul = false ∧ files.read path = .ok bytes ∧
      decodeUtf8 bytes = .ok decoded ∧ text = unifyNewlines decoded := by
  have reads := readsText files path
  rw [found] at reads
  cases reads with
  | text plain holds decodes => exact ⟨_, _, plain, holds, decodes, rfl⟩

end Files

/-! ## Line ends -/

theorem carriage_not_mem_unifyNewlines (text : Text) : '\r' ∉ unifyNewlines text := by
  induction text using unifyNewlines.induct with
  | case1 rest ih =>
    rw [unifyNewlines]
    exact fun member => ih (List.mem_of_ne_of_mem (by decide) member)
  | case2 rest _ ih =>
    rw [unifyNewlines.eq_2 _ ‹_›]
    exact fun member => ih (List.mem_of_ne_of_mem (by decide) member)
  | case3 c rest noPair other ih =>
    rw [unifyNewlines.eq_3 _ _ noPair other]
    intro member
    rcases List.mem_cons.mp member with same | later
    · exact other same.symm
    · exact ih later
  | case4 => exact List.not_mem_nil

/-- A text without carriage returns is read as it is. -/
theorem unifyNewlines_of_not_mem {text : Text} (plain : '\r' ∉ text) :
    unifyNewlines text = text := by
  induction text with
  | nil => rfl
  | cons c rest ih =>
    have other : c ≠ '\r' := fun same => plain (same ▸ List.mem_cons_self)
    rw [unifyNewlines.eq_3 _ _ (fun _ same _ => other same) other,
      ih (List.not_mem_of_not_mem_cons plain)]

theorem encodeUtf8_injective {text other : Text} (same : encodeUtf8 text = encodeUtf8 other) :
    text = other := by
  have back := decodeUtf8_encodeUtf8 text
  rw [same, decodeUtf8_encodeUtf8] at back
  exact (Except.ok.inj back).symm

/-- A text without carriage returns that was written is read back. -/
theorem Files.readText_write_self {files : Files} {path : Path} {old text : Text}
    (found : files.readText path = .ok old) (plain : '\r' ∉ text) :
    (files.write path (encodeUtf8 text)).readText path = .ok text := by
  obtain ⟨bytes, decoded, noNul, holds, -, -⟩ := exists_read_of_readText found
  rw [readText, noNul, if_neg Bool.false_ne_true, read_write_self holds]
  dsimp only
  rw [decodeUtf8_encodeUtf8]
  exact congrArg Except.ok (unifyNewlines_of_not_mem plain)

end TurtleEdit
