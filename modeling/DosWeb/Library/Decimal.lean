import Mathlib.Data.String.Basic
import Mathlib.Tactic.Ring

/-!
Decimal digits: the number they write, and how it compares where their texts do.
-/

namespace DosWeb.Library.Decimal

def digitValue (c : Char) : Nat := c.toNat - 48

def value : List Char → Nat
  | [] => 0
  | c :: digits => digitValue c * 10 ^ digits.length + value digits

def Digits (text : List Char) : Prop := ∀ c ∈ text, c.isDigit = true

theorem digits_cons (c : Char) (digits : List Char) :
    Digits (c :: digits) ↔ c.isDigit = true ∧ Digits digits := List.forall_mem_cons

theorem digit_bounds (c : Char) (digit : c.isDigit = true) : 48 ≤ c.toNat ∧ c.toNat ≤ 57 := by
  simpa [Char.isDigit, UInt32.le_iff_toNat_le] using digit

variable (digits : List Char)

theorem value_lt (plain : Digits digits) : value digits < 10 ^ digits.length := by
  induction digits with
  | nil => simp [value]
  | cons c digits ih =>
    obtain ⟨own, rest⟩ := (digits_cons c digits).mp plain
    have below := ih rest
    have digit : digitValue c ≤ 9 := by
      have bounds := digit_bounds c own
      simp only [digitValue]
      omega
    calc
      value (c :: digits) = digitValue c * 10 ^ digits.length + value digits := rfl
      _ < digitValue c * 10 ^ digits.length + 10 ^ digits.length := by omega
      _ ≤ 9 * 10 ^ digits.length + 10 ^ digits.length := by gcongr
      _ = 10 ^ (c :: digits).length := by rw [List.length_cons, pow_succ]; ring

theorem text_lt_iff (left right : List Char) (leftPlain : Digits left) (rightPlain : Digits right)
    (same : left.length = right.length) : left < right ↔ value left < value right := by
  induction left generalizing right with
  | nil =>
    rw [List.eq_nil_of_length_eq_zero same.symm]
    simp [value]
  | cons c left ih =>
    cases right with
    | nil => cases same
    | cons d right =>
      obtain ⟨leftDigit, leftRest⟩ := (digits_cons c left).mp leftPlain
      obtain ⟨rightDigit, rightRest⟩ := (digits_cons d right).mp rightPlain
      have length : left.length = right.length := Nat.succ.inj same
      have leftBelow := value_lt left leftRest
      have rightBelow := value_lt right rightRest
      have leftBounds := digit_bounds c leftDigit
      have rightBounds := digit_bounds d rightDigit
      rw [List.cons_lt_cons_iff, ih right leftRest rightRest length, value, value, length]
      rw [length] at leftBelow
      have order : c < d ↔ c.toNat < d.toNat := Iff.rfl
      have equal : c = d ↔ c.toNat = d.toNat := by
        rw [← Char.toNat_inj]
      rw [order, equal]
      simp only [digitValue]
      constructor
      · intro below
        rcases below with less | ⟨alike, rest⟩
        · have more : (c.toNat - 48 + 1) * 10 ^ right.length ≤
              (d.toNat - 48) * 10 ^ right.length := Nat.mul_le_mul_right _ (by omega)
          rw [Nat.add_mul, Nat.one_mul] at more
          omega
        · rw [alike]
          omega
      · intro below
        rcases Nat.lt_trichotomy c.toNat d.toNat with less | alike | more
        · exact Or.inl less
        · rw [alike] at below
          exact Or.inr ⟨alike, by omega⟩
        · have larger : (d.toNat - 48 + 1) * 10 ^ right.length ≤
              (c.toNat - 48) * 10 ^ right.length := Nat.mul_le_mul_right _ (by omega)
          rw [Nat.add_mul, Nat.one_mul] at larger
          omega

def trimmed (digits : List Char) : List Char := digits.dropWhile (· = '0')

theorem trimmed_value : value (trimmed digits) = value digits := by
  induction digits with
  | nil => rfl
  | cons c digits ih =>
    by_cases zero : c = '0'
    · have none_ : digitValue '0' = 0 := by decide
      simpa [trimmed, zero, value, none_] using ih
    · simp [trimmed, zero]

theorem trimmed_digits (plain : Digits digits) : Digits (trimmed digits) :=
  fun c member => plain c ((List.dropWhile_sublist _).mem member)

theorem trimmed_head (c : Char) (rest : List Char)
    (shape : trimmed digits = c :: rest) : c ≠ '0' := by
  have head := List.head?_dropWhile_not (· = '0') digits
  rw [show digits.dropWhile (· = '0') = c :: rest from shape] at head
  simpa using head

theorem trimmed_lower (plain : Digits digits) (filled : trimmed digits ≠ []) :
    10 ^ ((trimmed digits).length - 1) ≤ value digits := by
  cases shape : trimmed digits with
  | nil => exact absurd shape filled
  | cons c rest =>
    have first := trimmed_head digits c rest shape
    have digit := digit_bounds c (trimmed_digits digits plain c (by rw [shape]; exact
      (.head _)))
    have positive : 1 ≤ digitValue c := by
      have apart : c.toNat ≠ 48 := fun same => first (Char.toNat_inj.mp same)
      simp only [digitValue]
      omega
    rw [← trimmed_value, shape, value, List.length_cons, Nat.add_sub_cancel]
    calc
      10 ^ rest.length = 1 * 10 ^ rest.length := (Nat.one_mul _).symm
      _ ≤ digitValue c * 10 ^ rest.length := Nat.mul_le_mul_right _ positive
      _ ≤ digitValue c * 10 ^ rest.length + value rest := Nat.le_add_right _ _

theorem value_pos_iff (plain : Digits digits) : 1 ≤ value digits ↔ trimmed digits ≠ [] := by
  constructor
  · intro positive empty
    rw [← trimmed_value, empty, value] at positive
    omega
  · intro filled
    exact le_trans (Nat.pow_pos (by omega)) (trimmed_lower digits plain filled)

theorem value_le_iff (digits bound : List Char) (plain : Digits digits) (boundPlain : Digits bound)
    (boundTrimmed : trimmed bound = bound) (boundFilled : bound ≠ []) : value digits ≤ value bound ↔
      ¬ (bound.length < (trimmed digits).length ∨
        ((trimmed digits).length = bound.length ∧ bound < trimmed digits)) := by
  have own := trimmed_digits digits plain
  have below := value_lt _ own
  have boundBelow := value_lt bound boundPlain
  have boundLower := trimmed_lower bound boundPlain (by rw [boundTrimmed]; exact boundFilled)
  rw [boundTrimmed] at boundLower
  rw [trimmed_value] at below
  rcases Nat.lt_trichotomy (trimmed digits).length bound.length with less | same | more
  · have grows : 10 ^ (trimmed digits).length ≤ 10 ^ (bound.length - 1) :=
      Nat.pow_le_pow_right (by omega) (by omega)
    apply iff_of_true
    · omega
    · omega
  · have order := text_lt_iff bound _ boundPlain own same.symm
    rw [trimmed_value] at order
    simp only [same, order, lt_irrefl, true_and, false_or, not_lt]
  · have filled : trimmed digits ≠ [] := by
      intro empty
      rw [empty] at more
      exact Nat.not_lt_zero _ more
    have lower := trimmed_lower digits plain filled
    have grows : 10 ^ bound.length ≤ 10 ^ ((trimmed digits).length - 1) :=
      Nat.pow_le_pow_right (by omega) (by omega)
    apply iff_of_false
    · omega
    · exact fun refused => refused (Or.inl more)

end DosWeb.Library.Decimal
