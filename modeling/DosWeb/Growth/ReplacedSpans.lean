import DosWeb.Growth.Redaction
import Mathlib.Algebra.GroupWithZero.Nat

/-!
What replacing spans leaves of a line.
-/

namespace DosWeb.Growth

open Library.SplitLines

variable (line : List Char)

theorem value_end_start (start : Nat) : start ≤ valueEnd line start := by
  unfold valueEnd
  dsimp only
  split
  · omega
  · omega
  · split <;> omega

/-- The spans that are replaced: none starts inside the one before. -/
def appliedFrom : Nat → List (Nat × Nat) → List (Nat × Nat)
  | _, [] => []
  | cursor, (start, stop) :: spans =>
    if start < cursor then appliedFrom cursor spans else (start, stop) :: appliedFrom stop spans

def applied (spans : List (Nat × Nat)) : List (Nat × Nat) :=
  appliedFrom 0 (spans.insertionSort spanOrder)

variable (cursor : Nat)

variable (spans : List (Nat × Nat))

theorem applied_mem (span : Nat × Nat) (member : span ∈ appliedFrom cursor spans) :
    span ∈ spans := by
  fun_induction appliedFrom cursor spans with
  | case1 => exact member
  | case2 cursor start stop spans _ ih => exact .tail _ (ih member)
  | case3 cursor start stop spans _ ih =>
    rcases List.mem_cons.mp member with rfl | later
    · exact .head _
    · exact .tail _ (ih later)

theorem applied_nil_iff : applied spans = [] ↔ spans = [] := by
  unfold applied
  constructor
  · intro none_
    cases shape : spans.insertionSort spanOrder with
    | nil =>
      have same := List.perm_insertionSort spanOrder spans
      rw [shape] at same
      exact same.nil_eq.symm
    | cons span rest =>
      rw [shape, appliedFrom, if_neg (Nat.not_lt_zero _)] at none_
      cases none_
  · rintro rfl
    rfl

theorem token_plain : ∀ c ∈ redactedToken, separator c = false := by
  have all : redactedToken.all (fun c => !separator c) = true := by decide
  exact fun c member => by simpa using List.all_eq_true.mp all c member

theorem token_filled : redactedToken ≠ [] := by
  decide

theorem redact_none (none_ : appliedFrom cursor spans = []) :
    redactFrom line cursor spans = line.drop cursor := by
  fun_induction appliedFrom cursor spans with
  | case1 => rfl
  | case2 cursor start stop spans inside ih =>
    rw [redactFrom, if_pos inside]
    exact ih none_
  | case3 => cases none_

theorem counted_apart (first later : Nat) (before : first ≤ later) :
    (line.drop first).countP separator = ((line.drop first).take (later - first)).countP separator +
        (line.drop later).countP separator := by
  have rest : (line.drop first).drop (later - first) = line.drop later := by
    rw [List.drop_drop, Nat.add_sub_cancel' before]
  rw [← rest, ← List.countP_append, List.take_append_drop]

/-- The separators of a line are those that stay and those of the spans that are replaced. -/
theorem separators_counted (ordered : ∀ span ∈ spans, span.1 ≤ span.2) :
    (redactFrom line cursor spans).countP separator + ((appliedFrom cursor spans).map fun span =>
          ((line.drop span.1).take (span.2 - span.1)).countP separator).sum =
      (line.drop cursor).countP separator := by
  fun_induction appliedFrom cursor spans with
  | case1 => simp [redactFrom]
  | case2 cursor start stop spans inside ih =>
    rw [redactFrom, if_pos inside]
    exact ih fun span member => ordered span (.tail _ member)
  | case3 cursor start stop spans inside ih =>
    have later := ih fun span member => ordered span (.tail _ member)
    have span := ordered _ (.head _)
    have tokens : redactedToken.countP separator = 0 :=
      List.countP_eq_zero.mpr fun c member => by simp [token_plain c member]
    have front := counted_apart line cursor start (Nat.le_of_not_lt inside)
    have back := counted_apart line start stop span
    rw [redactFrom, if_neg inside, List.countP_append, List.countP_append, tokens, List.map_cons,
      List.sum_cons, front, back, ← later]
    dsimp only
    omega

theorem redact_behind (ordered : ∀ span ∈ spans, span.1 ≤ span.2) (past : line.length ≤ cursor) :
    ∀ c ∈ redactFrom line cursor spans, c ∈ redactedToken := by
  fun_induction redactFrom line cursor spans with
  | case1 cursor =>
    intro c member
    rw [List.drop_of_length_le past] at member
    cases member
  | case2 cursor start stop spans inside ih =>
    exact ih (fun span member => ordered span (.tail _ member)) past
  | case3 cursor start stop spans inside ih =>
    have span := ordered _ (.head _)
    intro c member
    rw [List.drop_of_length_le past, List.take_nil, List.nil_append] at member
    rcases List.mem_append.mp member with token | back
    · exact token
    · exact ih (fun span member => ordered span (.tail _ member))
        (by dsimp only at span; omega) c back

theorem redact_nil (none_ : redactFrom line cursor spans = []) : line.drop cursor = [] := by
  fun_induction redactFrom line cursor spans with
  | case1 cursor => exact none_
  | case2 cursor start stop spans inside ih => exact ih none_
  | case3 cursor start stop spans inside ih =>
    have tokens := (List.append_eq_nil_iff.mp (List.append_eq_nil_iff.mp none_).1).2
    exact absurd tokens token_filled

/-- A line with its spans replaced as its new front, its kept back and tokens behind it. -/
structure Parted (front back : List Char) (cursor : Nat) (spans : List (Nat × Nat))
    (body tail : List Char) : Prop where
  whole : redactFrom (front ++ back) cursor spans = body ++ back ++ tail
  body_chars : ∀ c ∈ body, c ∈ front ∨ c ∈ redactedToken
  tail_chars : ∀ c ∈ tail, c ∈ redactedToken
  body_nil : body = [] → front.drop cursor = []
  untouched : appliedFrom cursor spans = [] → body = front.drop cursor
  tail_nil : back = [] → tail = []
  tail_iff : back ≠ [] → (tail = [] ↔ ∀ span ∈ appliedFrom cursor spans, span.2 ≤ front.length)

theorem backless_parted (front : List Char) (cursor : Nat) (spans : List (Nat × Nat)) :
    Parted front [] cursor spans (redactFrom front cursor spans) [] where
  whole := by simp only [List.append_nil]
  body_chars := redact_chars front cursor spans
  tail_chars := nofun
  body_nil := redact_nil front cursor spans
  untouched := redact_none front cursor spans
  tail_nil := fun _ => rfl
  tail_iff := fun some_ => absurd rfl some_

theorem backed_parted (front back : List Char) (cursor : Nat) (spans : List (Nat × Nat))
    (some_ : back ≠ []) (early : cursor ≤ front.length) (ordered : ∀ span ∈ spans, span.1 ≤ span.2)
    (fits : ∀ span ∈ appliedFrom cursor spans,
      span.2 ≤ front.length ∨ (front ++ back).length ≤ span.1) :
    ∃ body tail, Parted front back cursor spans body tail := by
  have longer := List.length_pos_iff.mpr some_
  fun_induction appliedFrom cursor spans with
  | case1 cursor =>
    exact ⟨front.drop cursor, [], {
      whole := by rw [redactFrom, List.drop_append_of_le_length early, List.append_nil]
      body_chars := fun c member => Or.inl (List.mem_of_mem_drop member)
      tail_chars := nofun
      body_nil := id
      untouched := fun _ => rfl
      tail_nil := fun _ => rfl
      tail_iff := fun _ => iff_of_true rfl nofun }⟩
  | case2 cursor start stop spans inside ih =>
    obtain ⟨body, tail, parted⟩ := ih early (fun span member => ordered span (.tail _ member)) fits
    refine ⟨body, tail, { parted with whole := ?_, untouched := ?_, tail_iff := ?_ }⟩
    · rw [redactFrom, if_pos inside, parted.whole]
    · rw [appliedFrom, if_pos inside]
      exact parted.untouched
    · rw [appliedFrom, if_pos inside]
      exact parted.tail_iff
  | case3 cursor start stop spans inside ih =>
    have span : start ≤ stop := ordered _ (.head _)
    have later := fun span member => ordered span (.tail _ member)
    have hit : appliedFrom cursor ((start, stop) :: spans) ≠ [] := by
      rw [appliedFrom, if_neg inside]
      exact List.cons_ne_nil _ _
    rcases fits _ (.head _) with within | past
    · obtain ⟨body, tail, parted⟩ := ih within later
        fun other member => fits other (.tail _ member)
      have kept : ((front ++ back).drop cursor).take (start - cursor) =
          (front.drop cursor).take (start - cursor) := by
        dsimp only at within
        rw [List.drop_append_of_le_length early, List.take_append_of_le_length]
        rw [List.length_drop]
        omega
      refine ⟨(front.drop cursor).take (start - cursor) ++ redactedToken ++ body, tail, {
        whole := ?_
        body_chars := ?_
        tail_chars := parted.tail_chars
        body_nil := fun none_ => ?_
        untouched := fun none_ => absurd none_ hit
        tail_nil := fun none_ => absurd none_ some_
        tail_iff := fun _ => ?_ }⟩
      · rw [redactFrom, if_neg inside, kept, parted.whole]
        simp only [List.append_assoc]
      · intro c member
        rcases List.mem_append.mp member with text | rest
        · rcases List.mem_append.mp text with own | token
          · exact Or.inl (List.mem_of_mem_drop (List.mem_of_mem_take own))
          · exact Or.inr token
        · exact parted.body_chars c rest
      · have tokens := (List.append_eq_nil_iff.mp (List.append_eq_nil_iff.mp none_).1).2
        exact absurd tokens token_filled
      · rw [appliedFrom, if_neg inside, List.forall_mem_cons, parted.tail_iff some_]
        exact ⟨fun all => ⟨within, all⟩, And.right⟩
    · dsimp only at past
      have behind := redact_behind (front ++ back) stop spans later (by omega)
      rw [List.length_append] at past
      refine ⟨front.drop cursor, redactedToken ++ redactFrom (front ++ back) stop spans, {
        whole := ?_
        body_chars := fun c member => Or.inl (List.mem_of_mem_drop member)
        tail_chars := ?_
        body_nil := id
        untouched := fun none_ => absurd none_ hit
        tail_nil := fun none_ => absurd none_ some_
        tail_iff := fun _ => ?_ }⟩
      · rw [redactFrom, if_neg inside,
          List.take_of_length_le (by rw [List.length_drop, List.length_append]; omega),
          List.drop_append_of_le_length early, List.append_assoc _ redactedToken]
      · intro c member
        rcases List.mem_append.mp member with token | rest
        · exact token
        · exact behind c rest
      · refine iff_of_false (List.append_ne_nil_of_left_ne_nil token_filled _) fun all => ?_
        have first := all (start, stop) (by
          rw [appliedFrom, if_neg inside]
          exact .head _)
        dsimp only at first
        omega

theorem line_parted (front back : List Char) (spans : List (Nat × Nat))
    (ordered : ∀ span ∈ spans, span.1 ≤ span.2) (fits : back ≠ [] → ∀ span ∈ applied spans,
      span.2 ≤ front.length ∨ (front ++ back).length ≤ span.1) :
    ∃ body tail, Parted front back 0 (spans.insertionSort spanOrder) body tail := by
  by_cases ended : back = []
  · rw [ended]
    exact ⟨_, _, backless_parted front 0 _⟩
  · apply backed_parted front back 0 _ ended (Nat.zero_le _) _ (fits ended)
    intro span member
    exact ordered span ((List.perm_insertionSort spanOrder spans).mem_iff.mp member)

end DosWeb.Growth
