import Mathlib.Data.Char
import Mathlib.Data.List.TakeWhile
import Mathlib.Tactic.Common

/-!
Java string literals as the scan for secrets decodes them, and the encodings that come back.
-/

namespace DosWeb.Llm.JavaLiterals

def octal (c : Char) : Bool := '0' ≤ c && c ≤ '7'

def octalValue (digits : List Char) : Nat :=
  digits.foldl (fun value c => value * 8 + (c.toNat - '0'.toNat)) 0

def octalChar (digits : List Char) : Char := Char.ofNat (octalValue digits)

/-- `[0-7]{1,3}` at the start of a text, as far as it goes. -/
def octalRun (text : List Char) : List Char := (text.take 3).takeWhile octal

/-- The first substitution; the number counts what the last match has still to pass over. -/
def decodeOctals : Nat → List Char → List Char
  | passed + 1, _ :: rest => decodeOctals passed rest
  | 0, '\\' :: rest =>
    if octalRun rest = [] then '\\' :: decodeOctals 0 rest
    else octalChar (octalRun rest) :: decodeOctals (octalRun rest).length rest
  | 0, c :: rest => c :: decodeOctals 0 rest
  | _, [] => []

def escaped : Char → Char
  | 'b' => Char.ofNat 8
  | 't' => '\t'
  | 'n' => '\n'
  | 'f' => Char.ofNat 12
  | 'r' => '\r'
  | c => c

/-- The second substitution. -/
def decodeEscapes : List Char → List Char
  | '\\' :: c :: rest => escaped c :: decodeEscapes rest
  | c :: rest => c :: decodeEscapes rest
  | [] => []

def decodeJavaLiteral (literal : List Char) : List Char :=
  let value :=
    if literal.take 3 = ['"', '"', '"'] then (literal.take (literal.length - 3)).drop 3
    else (literal.take (literal.length - 1)).drop 1
  decodeEscapes (decodeOctals 0 value)

/-- An element of a string literal: a character as it is, an escape by name or one in octals. -/
inductive Piece
  | plain (c : Char)
  | named (letter : Char)
  | octals (digits : List Char)

def Piece.text : Piece → List Char
  | .plain c => [c]
  | .named letter => ['\\', letter]
  | .octals digits => '\\' :: digits

/-- The character that Java reads. -/
def Piece.value : Piece → Char
  | .plain c => c
  | .named letter => escaped letter
  | .octals digits => octalChar digits

def Piece.Formed : Piece → Prop
  | .plain c => c ∉ ['\\', '"', '\n', '\r']
  | .named letter => letter ∈ ['b', 't', 'n', 'f', 'r', '"', '\'', '\\']
  | .octals digits => digits ≠ [] ∧ digits.length ≤ 3 ∧ (∀ c ∈ digits, octal c = true) ∧
      octalValue digits ≤ 255

instance : DecidablePred Piece.Formed
  | .plain c => inferInstanceAs (Decidable (c ∉ ['\\', '"', '\n', '\r']))
  | .named letter =>
    inferInstanceAs (Decidable (letter ∈ ['b', 't', 'n', 'f', 'r', '"', '\'', '\\']))
  | .octals digits => inferInstanceAs (Decidable (digits ≠ [] ∧ digits.length ≤ 3 ∧
      (∀ c ∈ digits, octal c = true) ∧ octalValue digits ≤ 255))

def bodyOf (pieces : List Piece) : List Char := pieces.flatMap Piece.text

/-- No octal digit stands next. -/
def Apart (pieces : List Piece) : Prop := ∀ c ∈ (bodyOf pieces).head?, octal c = false

/-- An octal escape takes what digits it can. -/
def Longest : List Piece → Prop
  | .octals digits :: rest =>
    (Apart rest ∨ digits.length = 3 ∨ digits.length = 2 ∧ 32 ≤ octalValue digits) ∧ Longest rest
  | _ :: rest => Longest rest
  | [] => True

/-- A string as a literal of the language. -/
structure JavaEncoding where
  pieces : List Piece
  formed : ∀ piece ∈ pieces, piece.Formed
  longest : Longest pieces

def JavaEncoding.literal (encoding : JavaEncoding) : List Char :=
  '"' :: bodyOf encoding.pieces ++ ['"']

def JavaEncoding.value (encoding : JavaEncoding) : List Char := encoding.pieces.map Piece.value

/-- The pieces that come back; the flag tells that the piece before is a backslash in octals, or
escaped backslashes that follow one. -/
def Recovered : Bool → List Piece → Prop
  | _, [] => True
  | false, .plain _ :: rest => Recovered false rest
  | true, .plain _ :: _ => False
  | shifted, .named '\\' :: rest => Apart rest ∧ Recovered shifted rest
  | false, .named _ :: rest => Recovered false rest
  | true, .named letter :: rest => (letter = '"' ∨ letter = '\'') ∧ Recovered false rest
  | false, .octals digits :: rest =>
    (digits.length = 3 ∨ Apart rest) ∧ Recovered (octalChar digits = '\\') rest
  | true, .octals _ :: _ => False

theorem octal_run_nil (pieces : List Piece) : octalRun (bodyOf pieces) = [] ↔ Apart pieces := by
  unfold octalRun Apart
  cases bodyOf pieces with
  | nil => simp
  | cons c rest =>
    cases own : octal c <;> simp [own]

/-- Behind the digits of an escape the run goes on through what the three places leave. -/
theorem octal_run_append (digits text : List Char) (few : digits.length ≤ 3)
    (plain : ∀ c ∈ digits, octal c = true) : octalRun (digits ++ text) =
      digits ++ (text.take (3 - digits.length)).takeWhile octal := by
  rw [octalRun, List.take_append, List.take_of_length_le few, List.takeWhile_append_of_pos plain]

theorem octals_passed (first rest : List Char) (more : Nat) :
    decodeOctals (first.length + more) (first ++ rest) = decodeOctals more rest := by
  induction first with
  | nil => simp
  | cons c first ih =>
    rw [List.length_cons, List.cons_append, Nat.succ_add]
    exact ih

theorem octals_other (c : Char) (rest : List Char) (other : c ≠ '\\') :
    decodeOctals 0 (c :: rest) = c :: decodeOctals 0 rest := by
  rw [decodeOctals]
  intro same
  exact absurd same other

theorem escapes_other (c : Char) (rest : List Char) (other : c ≠ '\\') :
    decodeEscapes (c :: rest) = c :: decodeEscapes rest := by
  cases rest with
  | nil => simp [decodeEscapes]
  | cons d rest =>
    rw [decodeEscapes]
    intro _ _ same
    exact absurd same other

/-- A further character adds at most itself. -/
theorem escapes_length (c : Char) (rest : List Char) :
    (decodeEscapes rest).length ≤ (decodeEscapes (c :: rest)).length ∧
      (decodeEscapes (c :: rest)).length ≤ (decodeEscapes rest).length + 1 := by
  induction rest generalizing c with
  | nil =>
    by_cases own : c = '\\'
    · rw [own]
      decide
    · rw [escapes_other c [] own]
      simp
  | cons d rest ih =>
    by_cases own : c = '\\'
    · rw [own, decodeEscapes, List.length_cons]
      have bounds := ih d
      omega
    · rw [escapes_other c _ own]
      simp

theorem named_plain (letter : Char) (formed : (Piece.named letter).Formed) :
    octal letter = false := by
  simp only [Piece.Formed, List.mem_cons, List.not_mem_nil, or_false] at formed
  rcases formed with rfl | rfl | rfl | rfl | rfl | rfl | rfl | rfl <;> decide

theorem named_step (letter : Char) (rest : List Char) (formed : (Piece.named letter).Formed) :
    decodeOctals 0 ('\\' :: letter :: rest) = '\\' :: decodeOctals 0 (letter :: rest) := by
  have none_ : octalRun (letter :: rest) = [] := by
    simp [octalRun, named_plain letter formed]
  rw [decodeOctals, if_pos none_]

theorem apart_step (rest : List Piece) (apart : Apart rest) :
    decodeOctals 0 ('\\' :: bodyOf rest) = '\\' :: decodeOctals 0 (bodyOf rest) := by
  rw [decodeOctals, if_pos ((octal_run_nil rest).mpr apart)]

/-- A backslash with digits behind it is read with what digits come next. -/
theorem octals_step (digits : List Char) (rest : List Piece) (few : digits.length ≤ 3)
    (plain : ∀ c ∈ digits, octal c = true) :
    ∃ more tail, bodyOf rest = more ++ tail ∧ (∀ c ∈ more, octal c = true) ∧
      (more = [] ↔ digits.length = 3 ∨ Apart rest) ∧
      (digits ++ more ≠ [] → decodeOctals 0 ('\\' :: (digits ++ bodyOf rest)) =
        octalChar (digits ++ more) :: decodeOctals 0 tail) := by
  have run := octal_run_append digits (bodyOf rest) few plain
  have front : ((bodyOf rest).take (3 - digits.length)).takeWhile octal <+: bodyOf rest :=
    (List.takeWhile_prefix octal).trans (List.take_prefix _ _)
  obtain ⟨tail, same⟩ := front
  refine ⟨_, tail, same.symm, fun c inside => List.mem_takeWhile_imp inside, ?_, ?_⟩
  · by_cases full : digits.length = 3
    · simp [full]
    · rw [← octal_run_nil, octalRun, or_iff_right full]
      obtain ⟨places, room⟩ : ∃ places, 3 - digits.length = places + 1 :=
        ⟨2 - digits.length, by omega⟩
      rw [room]
      cases bodyOf rest with
      | nil => simp
      | cons c _ => cases own : octal c <;> simp [own]
  · intro filled
    rw [decodeOctals, run, if_neg filled]
    congr 1
    calc
      decodeOctals _ (digits ++ bodyOf rest) = decodeOctals (_ + 0) ((digits ++ _) ++ tail) := by
        rw [List.append_assoc, same, Nat.add_zero]
      _ = decodeOctals 0 tail := octals_passed _ tail 0

/-- No piece gives more than one character, and one of which digits are taken gives none. -/
theorem decoded_length (pieces : List Piece) (formed : ∀ piece ∈ pieces, piece.Formed)
    (first tail : List Char) (same : bodyOf pieces = first ++ tail)
    (digits : ∀ c ∈ first, octal c = true) :
    (decodeEscapes (decodeOctals 0 tail)).length ≤ pieces.length ∧
      (first ≠ [] → (decodeEscapes (decodeOctals 0 tail)).length < pieces.length) := by
  induction pieces generalizing first tail with
  | nil =>
    obtain ⟨rfl, rfl⟩ := List.append_eq_nil_iff.mp same.symm
    simp [decodeOctals, decodeEscapes]
  | cons piece rest ih =>
    obtain ⟨own, others⟩ := List.forall_mem_cons.mp formed
    have next := ih others
    cases first with
    | cons d first =>
      have digit := digits d (.head _)
      cases piece with
      | plain c =>
        obtain ⟨-, after⟩ := List.cons_eq_cons.mp same
        have below := (next first tail after fun c inside =>
          digits c (.tail _ inside)).1
        rw [List.length_cons]
        omega
      | named _ | octals _ =>
        rw [← (List.cons_eq_cons.mp same).1] at digit
        exact absurd digit (by decide)
    | nil =>
      have whole := (next [] (bodyOf rest) rfl (by simp)).1
      rw [List.nil_append] at same
      rw [← same]
      refine ⟨?_, fun filled => absurd rfl filled⟩
      cases piece with
      | plain c =>
        have other : c ≠ '\\' := by
          rintro rfl
          exact own (by decide)
        change (decodeEscapes (decodeOctals 0 (c :: bodyOf rest))).length ≤ _
        rw [octals_other c _ other, escapes_other c _ other]
        simpa using whole
      | named letter =>
        change (decodeEscapes (decodeOctals 0 ('\\' :: letter :: bodyOf rest))).length ≤ _
        rw [named_step letter _ own]
        by_cases slash : letter = '\\'
        · subst slash
          by_cases apart : Apart rest
          · rw [apart_step rest apart, decodeEscapes]
            simpa using whole
          · obtain ⟨more, tail, split_, taken, none_, run⟩ :=
              octals_step [] rest (by simp) (by simp)
            have filled : more ≠ [] := by
              intro empty
              simpa [apart] using none_.mp empty
            have fewer := (next more tail split_ taken).2 filled
            rw [List.nil_append, List.nil_append] at run
            rw [run filled, decodeEscapes]
            simp only [List.length_cons]
            omega
        · rw [octals_other letter _ slash, decodeEscapes]
          simpa using whole
      | octals taken =>
        obtain ⟨more, tail, split_, digit, -, run⟩ := octals_step taken rest own.2.1 own.2.2.1
        have below := (next more tail split_ digit).1
        have bound := (escapes_length (octalChar (taken ++ more)) (decodeOctals 0 tail)).2
        change (decodeEscapes (decodeOctals 0 ('\\' :: (taken ++ bodyOf rest)))).length ≤ _
        rw [run (by simp [own.1]), List.length_cons]
        omega

/-- A backslash that was in octals, and what the second substitution makes of it. -/
def pending (shifted : Bool) : List Char := if shifted then ['\\'] else []

def Returned (shifted : Bool) (pieces : List Piece) : Prop :=
  decodeEscapes (pending shifted ++ decodeOctals 0 (bodyOf pieces)) =
    pending shifted ++ pieces.map Piece.value

theorem shorter_lost (shifted : Bool) (pieces : List Piece)
    (short : (decodeEscapes (pending shifted ++ decodeOctals 0 (bodyOf pieces))).length <
      (pending shifted).length + pieces.length) : ¬ Returned shifted pieces := by
  intro returned
  have sizes := congrArg List.length returned
  rw [List.length_append, List.length_map] at sizes
  omega

theorem returned_plain (c : Char) (rest : List Piece) (formed : (Piece.plain c).Formed)
    (below : (decodeEscapes (decodeOctals 0 (bodyOf rest))).length ≤ rest.length) (shifted : Bool) :
    Returned shifted (.plain c :: rest) ↔ shifted = false ∧ Returned false rest := by
  have other : c ≠ '\\' := by
    rintro rfl
    exact formed (by decide)
  have run : decodeOctals 0 (bodyOf (.plain c :: rest)) = c :: decodeOctals 0 (bodyOf rest) :=
    octals_other c _ other
  cases shifted with
  | false =>
    simp only [Returned, pending, run, Bool.false_eq_true, if_false, List.nil_append,
      escapes_other c _ other, List.map_cons, Piece.value, List.cons.injEq, true_and]
  | true =>
    simp only [Bool.true_eq_false, false_and, iff_false]
    apply shorter_lost
    simp only [pending, run, if_true, List.singleton_append, decodeEscapes, List.length_cons]
    omega

theorem returned_backslash (rest : List Piece) (formed : ∀ piece ∈ rest, piece.Formed)
    (shifted : Bool) :
    Returned shifted (.named '\\' :: rest) ↔ Apart rest ∧ Returned shifted rest := by
  have first : decodeOctals 0 (bodyOf (.named '\\' :: rest)) =
      '\\' :: decodeOctals 0 ('\\' :: bodyOf rest) := named_step '\\' _ (by decide)
  by_cases apart : Apart rest
  · cases shifted <;>
      simp [Returned, pending, first, apart_step rest apart, decodeEscapes, apart, Piece.value,
        escaped]
  · simp only [apart, false_and, iff_false]
    obtain ⟨more, tail, split_, taken, none_, run⟩ := octals_step [] rest (by simp) (by simp)
    have filled : more ≠ [] := by
      intro empty
      simpa [apart] using none_.mp empty
    have fewer := (decoded_length rest formed more tail split_ taken).2 filled
    rw [List.nil_append, List.nil_append] at run
    apply shorter_lost
    cases shifted with
    | false =>
      simp only [pending, first, run filled, Bool.false_eq_true, if_false, List.nil_append,
        decodeEscapes, List.length_cons, List.length_nil]
      omega
    | true =>
      have bound := (escapes_length (octalChar more) (decodeOctals 0 tail)).2
      simp only [pending, first, run filled, if_true, List.singleton_append, decodeEscapes,
        List.length_cons, List.length_nil]
      omega

theorem escaped_fixed (letter : Char) (formed : (Piece.named letter).Formed)
    (other : letter ≠ '\\') : letter = escaped letter ↔ letter = '"' ∨ letter = '\'' := by
  simp only [Piece.Formed, List.mem_cons, List.not_mem_nil, or_false] at formed
  rcases formed with rfl | rfl | rfl | rfl | rfl | rfl | rfl | rfl
  case inr.inr.inr.inr.inr.inr.inr => exact absurd rfl other
  all_goals decide

theorem returned_named (letter : Char) (rest : List Piece) (formed : (Piece.named letter).Formed)
    (other : letter ≠ '\\') (shifted : Bool) : Returned shifted (.named letter :: rest) ↔
      (shifted = true → letter = '"' ∨ letter = '\'') ∧ Returned false rest := by
  have run : decodeOctals 0 (bodyOf (.named letter :: rest)) =
      '\\' :: letter :: decodeOctals 0 (bodyOf rest) := by
    change decodeOctals 0 ('\\' :: letter :: bodyOf rest) = _
    rw [named_step letter _ formed, octals_other letter _ other]
  cases shifted with
  | false => simp [Returned, pending, run, decodeEscapes, Piece.value]
  | true =>
    rw [← escaped_fixed letter formed other]
    simp [Returned, pending, run, decodeEscapes, escapes_other letter _ other, Piece.value, escaped]

theorem returned_octals (digits : List Char) (rest : List Piece)
    (own : (Piece.octals digits).Formed) (formed : ∀ piece ∈ rest, piece.Formed) (shifted : Bool) :
    Returned shifted (.octals digits :: rest) ↔ shifted = false ∧
      (digits.length = 3 ∨ Apart rest) ∧ Returned (octalChar digits = '\\') rest := by
  obtain ⟨more, tail, split_, taken, none_, run⟩ := octals_step digits rest own.2.1 own.2.2.1
  have first : decodeOctals 0 (bodyOf (.octals digits :: rest)) =
      octalChar (digits ++ more) :: decodeOctals 0 tail := run (by simp [own.1])
  have below := decoded_length rest formed more tail split_ taken
  cases shifted with
  | true =>
    simp only [Bool.true_eq_false, false_and, iff_false]
    apply shorter_lost
    simp only [pending, first, if_true, List.singleton_append, decodeEscapes, List.length_cons,
      List.length_nil]
    omega
  | false =>
    rw [← none_]
    by_cases whole : more = []
    · subst whole
      rw [List.nil_append] at split_
      rw [List.append_nil, ← split_] at first
      by_cases slash : octalChar digits = '\\'
      · simp [Returned, pending, first, Piece.value, slash]
      · simp [Returned, pending, first, Piece.value, slash, escapes_other _ _ slash]
    · simp only [whole, false_and, and_false, iff_false]
      have bound := (escapes_length (octalChar (digits ++ more)) (decodeOctals 0 tail)).2
      have fewer := below.2 whole
      apply shorter_lost
      simp only [pending, first, Bool.false_eq_true, if_false, List.nil_append, List.length_cons,
        List.length_nil]
      omega

theorem returned_iff (pieces : List Piece) (formed : ∀ piece ∈ pieces, piece.Formed)
    (shifted : Bool) : Returned shifted pieces ↔ Recovered shifted pieces := by
  induction pieces generalizing shifted with
  | nil =>
    cases shifted <;>
      simp [Returned, pending, Recovered, bodyOf, decodeOctals, decodeEscapes]
  | cons piece rest ih =>
    obtain ⟨own, others⟩ := List.forall_mem_cons.mp formed
    have next := ih others
    cases piece with
    | plain c =>
      have below := (decoded_length rest others [] _ rfl (by simp)).1
      rw [returned_plain c rest own below, next]
      cases shifted <;> simp [Recovered]
    | named letter =>
      by_cases slash : letter = '\\'
      · rw [slash, returned_backslash rest others, next]
        cases shifted <;> simp [Recovered]
      · rw [returned_named letter rest own slash, next]
        cases shifted <;> simp [Recovered]
    | octals digits =>
      rw [returned_octals digits rest own others, next]
      cases shifted <;> simp [Recovered]

theorem body_start (pieces : List Piece) (formed : ∀ piece ∈ pieces, piece.Formed)
    (text : List Char) : bodyOf pieces ≠ '"' :: text := by
  intro same
  cases pieces with
  | nil => cases same
  | cons piece rest =>
    have own := formed piece (.head _)
    cases piece with
    | plain c =>
      rw [(List.cons_eq_cons.mp same).1] at own
      exact own (by decide)
    | named _ | octals _ => exact absurd (List.cons_eq_cons.mp same).1 (by decide)

theorem decode_literal (encoding : JavaEncoding) : decodeJavaLiteral encoding.literal =
    decodeEscapes (decodeOctals 0 (bodyOf encoding.pieces)) := by
  have single : encoding.literal.take 3 ≠ ['"', '"', '"'] := by
    have start := body_start encoding.pieces encoding.formed
    intro block
    rw [JavaEncoding.literal, List.cons_append, List.take_succ_cons] at block
    cases body : bodyOf encoding.pieces with
    | nil => simp [body] at block
    | cons c text =>
      rw [body, List.cons_append, List.take_succ_cons] at block
      obtain ⟨-, second⟩ := List.cons_eq_cons.mp block
      rw [(List.cons_eq_cons.mp second).1] at body
      exact start text body
  rw [decodeJavaLiteral, if_neg single]
  simp [JavaEncoding.literal]

/-- A literal is decoded to what it stands for exactly where no escaped backslash stands before an
octal digit, no two octals before a third that is not theirs, and no backslash is in octals but
before quotes and at the end. -/
theorem java_literal_iff (encoding : JavaEncoding) :
    decodeJavaLiteral encoding.literal = encoding.value ↔ Recovered false encoding.pieces := by
  rw [decode_literal, ← returned_iff encoding.pieces encoding.formed]
  rfl

/-- `"\\\\101"` is a backslash and three digits in Java. -/
def escapedDigits : JavaEncoding where
  pieces := [.named '\\', .plain '1', .plain '0', .plain '1']
  formed := by decide
  longest := trivial

theorem escaped_digits_decoded :
    ¬ ∀ encoding : JavaEncoding, decodeJavaLiteral encoding.literal = encoding.value := by
  intro inverse
  exact absurd (inverse escapedDigits) (by decide)

end DosWeb.Llm.JavaLiterals
