import DosWeb.Library.JsonSize
import DosWeb.Library.Pieces

/-!
The lines of a file, which end with a line feed, a carriage return or both, as bytes and as text.
-/

namespace DosWeb.Library.FileLines

open Library.Pieces

def byteBreak (byte : UInt8) (next : Option UInt8) : Bool :=
  byte = 10 || (byte = 13 && next ≠ some 10)

def fileBreak (c : Char) (next : Option Char) : Bool := c = '\n' || (c = '\r' && next ≠ some '\n')

def fileLines (content : List Char) : List (List Char) := pieces fileBreak content

theorem splitLines_pieces (bytes : List UInt8) :
    Bytes.splitLines bytes = pieces byteBreak bytes := by
  fun_induction Bytes.splitLines bytes with
  | case1 => rfl
  | case2 byte => exact (pieces_last byteBreak byte).symm
  | case3 byte next rest both ih =>
    have feed : pieces byteBreak (next :: rest) = [next] :: pieces byteBreak rest :=
      pieces_broken byteBreak next rest (by simp [byteBreak, both.2])
    rw [ih, pieces_joined byteBreak byte (next :: rest) _ _ (by simp [byteBreak, both]) feed]
  | case4 byte next rest apart ended ih =>
    rw [ih, pieces_broken byteBreak byte (next :: rest)]
    rcases ended with feed | return_
    · simp [byteBreak, feed]
    · have other : next ≠ 10 := fun feed => apart ⟨return_, feed⟩
      simp [byteBreak, return_, other]
  | case5 byte next rest _ inside none_ ih =>
    rw [not_or] at inside
    exact absurd ((pieces_nil_iff byteBreak _).mp (ih ▸ none_)) (List.cons_ne_nil _ _)
  | case6 byte next rest _ inside line lines found ih =>
    rw [not_or] at inside
    exact (pieces_joined byteBreak byte (next :: rest) line lines
      (by simp [byteBreak, inside]) (ih ▸ found)).symm

theorem char_filled (c : Char) : String.utf8EncodeChar c ≠ [] := by
  intro none_
  have size := JsonSize.utf8_char_positive c
  rw [none_] at size
  cases size

theorem char_silent (c : Char) (inside : c ≠ '\n' ∧ c ≠ '\r') :
    ∀ byte ∈ String.utf8EncodeChar c, ∀ next, byteBreak byte next = false := by
  intro byte member next
  have feed : byte ≠ 10 := by
    rintro rfl
    have same := Bytes.utf8EncodeChar_small c 10 member (by decide)
    exact inside.1 (Char.toNat_inj.mp same.symm)
  have return_ : byte ≠ 13 := by
    rintro rfl
    have same := Bytes.utf8EncodeChar_small c 13 member (by decide)
    exact inside.2 (Char.toNat_inj.mp same.symm)
  simp [byteBreak, feed, return_]

theorem silent_solid (bytes : List UInt8)
    (silent : ∀ byte ∈ bytes, ∀ next, byteBreak byte next = false) : Solid byteBreak bytes := by
  induction bytes with
  | nil => trivial
  | cons byte bytes ih =>
    exact solid_cons byteBreak byte bytes (fun _ => silent byte (.head _) _)
      (ih fun other member => silent other (.tail _ member))

theorem encoded_head (content : List Char) :
    (Text.utf8 content).head? = some 10 ↔ content.head? = some '\n' := by
  cases content with
  | nil => simp [Text.utf8]
  | cons c rest =>
    rw [Bytes.utf8_cons, List.head?_append_of_ne_nil _ (char_filled c), List.head?_cons]
    constructor
    · intro head
      have same := Bytes.utf8EncodeChar_small c 10 (List.mem_of_head? head) (by decide)
      exact congrArg some (Char.toNat_inj.mp same.symm)
    · intro same
      cases same
      rfl

theorem char_open (c : Char) (rest : List Char) (joined : fileBreak c rest.head? = false) :
    Solid byteBreak (String.utf8EncodeChar c) ∧
      endsBefore byteBreak (String.utf8EncodeChar c) (Text.utf8 rest).head? = false := by
  by_cases return_ : c = '\r'
  · subst return_
    have feed : rest.head? = some '\n' := by simpa [fileBreak] using joined
    rw [(encoded_head rest).mpr feed]
    exact ⟨trivial, rfl⟩
  · have silent := char_silent c ⟨fun feed => by simp [feed, fileBreak] at joined, return_⟩
    constructor
    · exact silent_solid _ silent
    · unfold endsBefore
      cases last : (String.utf8EncodeChar c).getLast? with
      | none => rfl
      | some byte => exact silent byte (List.mem_of_getLast? last) _

theorem byte_lines (content : List Char) :
    Bytes.splitLines (Text.utf8 content) = (fileLines content).map Text.utf8 := by
  rw [splitLines_pieces]
  unfold fileLines
  induction content with
  | nil => rfl
  | cons c rest ih =>
    have head := encoded_head rest
    rw [Bytes.utf8_cons]
    by_cases ended : fileBreak c rest.head? = true
    · have own : ∃ byte, String.utf8EncodeChar c = [byte] ∧
          byteBreak byte (Text.utf8 rest).head? = true := by
        simp only [fileBreak, Bool.or_eq_true, Bool.and_eq_true, decide_eq_true_eq] at ended
        rcases ended with rfl | ⟨rfl, apart⟩
        · exact ⟨10, rfl, rfl⟩
        · exact ⟨13, rfl, by simpa [byteBreak, head] using apart⟩
      obtain ⟨byte, one, broken⟩ := own
      rw [pieces_broken fileBreak c rest ended, List.map_cons, ← ih, one, List.singleton_append,
        pieces_broken byteBreak byte _ broken, Bytes.utf8_cons, one]
      rfl
    · rw [Bool.not_eq_true] at ended
      obtain ⟨solid, open_⟩ := char_open c rest ended
      cases found : pieces fileBreak rest with
      | nil =>
        have whole := pieces_cons byteBreak _ [] (char_filled c) solid
          fun some_ => absurd rfl some_
        rw [(pieces_nil_iff fileBreak rest).mp found, pieces_last, List.map_singleton,
          Bytes.utf8_cons c [], show Text.utf8 [] = [] from rfl, whole, List.append_nil]
        rfl
      | cons line lines =>
        rw [found, List.map_cons] at ih
        rw [pieces_joined fileBreak c rest line lines ended found, List.map_cons,
          pieces_open byteBreak _ _ _ _ solid open_ ih, Bytes.utf8_cons]

end DosWeb.Library.FileLines
