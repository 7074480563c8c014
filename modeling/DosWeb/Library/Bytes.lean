import DosWeb.Library.Text

/-!
Byte strings: decoding of UTF-8 and the lines of a byte string.
-/

namespace DosWeb.Library.Bytes

/-- The text that the bytes encode; ill-formed bytes encode none. -/
def decodeUtf8 (bytes : List UInt8) : Option (List Char) :=
  bytes.toByteArray.utf8Decode?.map Array.toList

theorem decodeUtf8_utf8 (text : List Char) : decodeUtf8 (Text.utf8 text) = some text := by
  have encoded : (Text.utf8 text).toByteArray = text.utf8Encode := rfl
  rw [decodeUtf8, encoded, List.utf8Decode?_utf8Encode]
  rfl

theorem utf8EncodeChar_small (c : Char) (byte : UInt8) (member : byte ∈ String.utf8EncodeChar c)
    (small : byte.toNat < 128) : byte.toNat = c.toNat := by
  have value : c.toNat = c.val.toNat := rfl
  have continuation : ∀ part offset : Nat, 128 ≤ offset → part + offset < 256 →
      128 ≤ (UInt8.ofNat (part + offset)).toNat := by
    intro part offset high below
    rw [UInt8.toNat_ofNat']
    omega
  unfold String.utf8EncodeChar at member
  simp only at member
  split at member
  · rename_i ascii
    rw [List.mem_singleton.mp member, UInt8.toNat_ofNat', value]
    omega
  · exfalso
    have large : 128 ≤ byte.toNat := by
      split at member
      · simp only [List.mem_cons, List.not_mem_nil, or_false] at member
        rcases member with rfl | rfl <;> exact continuation _ _ (by omega) (by omega)
      · split at member <;>
          simp only [List.mem_cons, List.not_mem_nil, or_false] at member
        · rcases member with rfl | rfl | rfl <;> exact continuation _ _ (by omega) (by omega)
        · rcases member with rfl | rfl | rfl | rfl <;>
            exact continuation _ _ (by omega) (by omega)
    omega

theorem utf8_small (text : List Char) (byte : UInt8) (member : byte ∈ Text.utf8 text)
    (small : byte.toNat < 128) : ∃ c ∈ text, c.toNat = byte.toNat := by
  rcases List.mem_flatMap.mp member with ⟨c, present, encoded⟩
  exact ⟨c, present, (utf8EncodeChar_small c byte encoded small).symm⟩

theorem utf8_append (left right : List Char) :
    Text.utf8 (left ++ right) = Text.utf8 left ++ Text.utf8 right := List.flatMap_append

theorem utf8_cons (c : Char) (rest : List Char) :
    Text.utf8 (c :: rest) = String.utf8EncodeChar c ++ Text.utf8 rest := List.flatMap_cons

/-- The lines with their ends: a line feed, a carriage return or both. -/
def splitLines : List UInt8 → List (List UInt8)
  | [] => []
  | [byte] => [[byte]]
  | byte :: next :: rest =>
    if byte = 13 ∧ next = 10 then [byte, next] :: splitLines rest
    else if byte = 10 ∨ byte = 13 then [byte] :: splitLines (next :: rest)
    else
      match splitLines (next :: rest) with
      | [] => [[byte]]
      | line :: lines => (byte :: line) :: lines

def OneLine (bytes : List UInt8) : Prop := 10 ∉ bytes ∧ 13 ∉ bytes

theorem splitLines_line (line : List UInt8) (rest : List UInt8) (one : OneLine line) :
    splitLines (line ++ 10 :: rest) = (line ++ [10]) :: splitLines rest := by
  induction line with
  | nil => cases rest <;> simp [splitLines]
  | cons byte line ih =>
    have own : byte ≠ 10 ∧ byte ≠ 13 := by
      constructor
      · rintro rfl
        exact one.1 (.head _)
      · rintro rfl
        exact one.2 (.head _)
    have tail := ih ⟨fun member => one.1 (.tail _ member), fun member => one.2 (.tail _ member)⟩
    cases line with
    | nil =>
      simp only [List.nil_append, List.cons_append] at tail ⊢
      simp [splitLines, own, tail]
    | cons next line =>
      simp only [List.cons_append] at tail ⊢
      simp [splitLines, own, tail]

theorem splitLines_lines (lines : List (List UInt8)) (one : ∀ line ∈ lines, OneLine line) :
    splitLines (lines.flatMap (· ++ [10])) = lines.map (· ++ [10]) := by
  induction lines with
  | nil => rfl
  | cons line lines ih =>
    rw [List.flatMap_cons, List.append_assoc, List.singleton_append,
      splitLines_line line _ (one line (.head _)),
      ih (fun other member => one other (.tail _ member)), List.map_cons]

end DosWeb.Library.Bytes
