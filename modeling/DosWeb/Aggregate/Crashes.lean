import DosWeb.Aggregate.Root

/-!
Rules for programs that may crash at any step: what holds of the batch root when they return, when
they raise and when they are killed.
-/

namespace DosWeb.Aggregate

open Library.Steps

/-- Nothing has brought a crash closer that was not to come. -/
def Calm (before after : Disk) : Prop := before.left = none → after.left = none

/-- What a program leaves when it returns, when a crash stops it and when it raises. -/
def Ends {α : Type} (program : Aggregating α) (disk : Disk) (done : α → Root → Prop)
    (crashed raised : Root → Prop) : Prop :=
  Leaves program disk (fun value after => done value after.root ∧ Calm disk after)
    (fun stop after =>
      match stop with
      | .crash => crashed after.root ∧ disk.left ≠ none
      | .raised _ => raised after.root ∧ Calm disk after)

variable {α β : Type} {disk : Disk} {crashed raised : Root → Prop}

theorem calm_trans (first second third : Disk) (one : Calm first second)
    (other : Calm second third) : Calm first third := fun calm => other (one calm)

theorem ends_mono {program : Aggregating α} {done done' : α → Root → Prop}
    {crashed' raised' : Root → Prop} (ends : Ends program disk done crashed raised)
    (returns : ∀ value root, done value root → done' value root)
    (crashes : ∀ root, crashed root → crashed' root) (raises : ∀ root, raised root → raised' root) :
    Ends program disk done' crashed' raised' := by
  apply leaves_mono ends
  · intro value after held
    exact ⟨returns value after.root held.1, held.2⟩
  · intro stop after held
    cases stop with
    | crash => exact ⟨crashes after.root held.1, held.2⟩
    | raised raised => exact ⟨raises after.root held.1, held.2⟩

theorem ends_pure (value : α) (done : α → Root → Prop) (holds : done value disk.root) :
    Ends (pure value) disk done crashed raised := leaves_pure value disk _ _ ⟨holds, id⟩

theorem ends_refuse (message : String) (done : α → Root → Prop) (holds : raised disk.root) :
    Ends (refuse message) disk done crashed raised := leaves_throw _ disk _ _ ⟨holds, id⟩

theorem ends_bind (first : Aggregating α) (next : α → Aggregating β) (between : α → Root → Prop)
    (done : β → Root → Prop) (ends : Ends first disk between crashed raised)
    (follows : ∀ value after, between value after.root → Calm disk after →
      Ends (next value) after done crashed raised) :
    Ends (first >>= next) disk done crashed raised := by
  apply leaves_bind (fun value after => between value after.root ∧ Calm disk after)
  · apply leaves_mono ends
    · intro value after held
      exact held
    · intro stop after held
      cases stop <;> exact held
  · intro value after held
    apply leaves_mono (follows value after held.1 held.2)
    · intro result last ended
      exact ⟨ended.1, calm_trans disk after last held.2 ended.2⟩
    · intro stop last ended
      cases stop with
      | crash => exact ⟨ended.1, fun calm => ended.2 (held.2 calm)⟩
      | raised raised => exact ⟨ended.1, calm_trans disk after last held.2 ended.2⟩

theorem ends_get (next : Disk → Aggregating β) (done : β → Root → Prop)
    (follows : Ends (next disk) disk done crashed raised) :
    Ends (get >>= next) disk done crashed raised := leaves_get follows

theorem ends_perform (effect : Root → Option Root) (root : Root) (done : Unit → Root → Prop)
    (works : effect disk.root = some root) (holds : done () root) (cut : crashed disk.root) :
    Ends (perform effect) disk done crashed raised := by
  unfold Ends Leaves perform
  by_cases last : disk.left = some 0
  · simp [last, cut]
  · simp only [last, if_false, works]
    exact ⟨holds, fun calm => by simp [calm]⟩

theorem ends_each (items : List α) (body : α → Aggregating Unit) (disk : Disk)
    (invariant : List α → Root → Prop) (initial : invariant items disk.root)
    (step : ∀ item rest after, item :: rest <:+ items → invariant (item :: rest) after.root →
      Ends (body item) after (fun _ => invariant rest) crashed raised) :
    Ends (items.forM body) disk (fun _ => invariant []) crashed raised := by
  induction items generalizing disk with
  | nil => exact ends_pure () _ initial
  | cons item items ih =>
    apply ends_bind (body item) (fun _ => items.forM body) (fun _ => invariant items)
    · exact step item items disk (List.suffix_refl _) initial
    · intro _ after held _
      apply ih after held
      intro other rest last part kept
      exact step other rest last (part.trans (List.suffix_cons _ _)) kept

theorem ends_rescued (body : Aggregating Unit) (handler : Raised → Aggregating Unit)
    (done : Unit → Root → Prop) (broken : Root → Prop) (ends : Ends body disk done crashed broken)
    (follows : ∀ failure after, broken after.root → Calm disk after →
      Ends (handler failure) after done crashed raised) :
    Ends (rescued body handler) disk done crashed raised := by
  unfold Ends Leaves at ends
  unfold Ends Leaves rescued
  cases result : body disk with
  | ok value after =>
    rw [result] at ends
    exact ends
  | error stop after =>
    rw [result] at ends
    cases stop with
    | crash => exact ends
    | raised failure =>
      have rest := follows failure after ends.1 ends.2
      unfold Ends Leaves at rest
      cases next : handler failure after with
      | ok value last =>
        rw [next] at rest
        simp only [next]
        exact ⟨rest.1, calm_trans disk after last ends.2 rest.2⟩
      | error stop last =>
        rw [next] at rest
        simp only [next]
        cases stop with
        | crash => exact ⟨rest.1, fun calm => rest.2 (ends.2 calm)⟩
        | raised again => exact ⟨rest.1, calm_trans disk after last ends.2 rest.2⟩

theorem ends_calm (program : Aggregating α) (root : Root) (done : α → Root → Prop)
    (ends : Ends program ⟨root, none⟩ done crashed raised) :
    (∃ value after, program ⟨root, none⟩ = .ok value ⟨after, none⟩ ∧ done value after) ∨
      ∃ failure after, program ⟨root, none⟩ = .error (.raised failure) ⟨after, none⟩ ∧
        raised after := by
  unfold Ends Leaves at ends
  cases result : program ⟨root, none⟩ with
  | ok value after =>
    rw [result] at ends
    obtain ⟨after, left⟩ := after
    obtain ⟨held, calm⟩ := ends
    obtain rfl : left = none := calm rfl
    exact Or.inl ⟨value, after, rfl, held⟩
  | error stop after =>
    rw [result] at ends
    cases stop with
    | crash => exact absurd rfl ends.2
    | raised failure =>
      obtain ⟨after, left⟩ := after
      obtain ⟨held, calm⟩ := ends
      obtain rfl : left = none := calm rfl
      exact Or.inr ⟨failure, after, rfl, held⟩

end DosWeb.Aggregate
