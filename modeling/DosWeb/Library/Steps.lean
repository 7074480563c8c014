import Mathlib.Data.List.Basic

/-!
Rules for programs of steps that change a state and may raise: what a program leaves is
stated for its return and for each error, with the state it stops in.
-/

namespace DosWeb.Library.Steps

variable {ε σ α β : Type}

/-- The program returns with `done`, or raises with `broken`. -/
def Leaves (program : EStateM ε σ α) (start : σ) (done : α → σ → Prop) (broken : ε → σ → Prop) :
    Prop :=
  match program start with
  | .ok value state => done value state
  | .error raised state => broken raised state

variable (program : EStateM ε σ α)

theorem leaves_ok (start state : σ) (value : α)
    (done : α → σ → Prop) (broken : ε → σ → Prop) (leaves : Leaves program start done broken)
    (returned : program start = .ok value state) : done value state := by
  simpa [Leaves, returned] using leaves

theorem leaves_mono {program : EStateM ε σ α} {start : σ} {done done' : α → σ → Prop}
    {broken broken' : ε → σ → Prop} (leaves : Leaves program start done broken)
    (returns : ∀ value state, done value state → done' value state)
    (fails : ∀ raised state, broken raised state → broken' raised state) :
    Leaves program start done' broken' := by
  unfold Leaves at leaves ⊢
  split at leaves
  · exact returns _ _ leaves
  · exact fails _ _ leaves

theorem leaves_pure (value : α) (start : σ) (done : α → σ → Prop) (broken : ε → σ → Prop)
    (holds : done value start) : Leaves (pure value : EStateM ε σ α) start done broken := holds

theorem leaves_throw (raised : ε) (start : σ) (done : α → σ → Prop) (broken : ε → σ → Prop)
    (holds : broken raised start) : Leaves (throw raised : EStateM ε σ α) start done broken := holds

theorem leaves_bind {first : EStateM ε σ α} {next : α → EStateM ε σ β} {start : σ}
    (between : α → σ → Prop) {done : β → σ → Prop} {broken : ε → σ → Prop}
    (leaves : Leaves first start between broken)
    (follows : ∀ value state, between value state → Leaves (next value) state done broken) :
    Leaves (first >>= next) start done broken := by
  unfold Leaves at leaves
  split at leaves
  · rename_i value state found
    have rest := follows value state leaves
    simpa [Leaves, bind, EStateM.bind, found] using rest
  · rename_i raised state found
    simpa [Leaves, bind, EStateM.bind, found] using leaves

/-- The program that goes first may fail in fewer ways than the whole. -/
theorem leaves_then {first : EStateM ε σ α} {next : α → EStateM ε σ β} {start : σ}
    {between : α → σ → Prop} {done : β → σ → Prop} {broken broken' : ε → σ → Prop}
    (leaves : Leaves first start between broken)
    (fails : ∀ raised state, broken raised state → broken' raised state)
    (follows : ∀ value state, between value state → Leaves (next value) state done broken') :
    Leaves (first >>= next) start done broken' :=
  leaves_bind between (leaves_mono leaves (fun _ _ held => held) fails) follows

theorem leaves_get {start : σ} {next : σ → EStateM ε σ β} {done : β → σ → Prop}
    {broken : ε → σ → Prop} (follows : Leaves (next start) start done broken) :
    Leaves (get >>= next) start done broken := follows

theorem leaves_modify (start : σ) (change : σ → σ) (done : Unit → σ → Prop)
    (broken : ε → σ → Prop) (holds : done () (change start)) :
    Leaves (modify change : EStateM ε σ Unit) start done broken := holds

def fromExcept (computation : Except ε α) : EStateM ε σ α := fun state =>
  match computation with
  | .ok value => .ok value state
  | .error raised => .error raised state

def captured (program : EStateM ε σ α) : EStateM ε σ (Except ε α) := fun start =>
  match program start with
  | .ok value state => .ok (.ok value) state
  | .error raised state => .ok (.error raised) state

theorem leaves_except {computation : Except ε α} {start : σ} {done : α → σ → Prop}
    {broken : ε → σ → Prop} (returns : ∀ value, computation = .ok value → done value start)
    (fails : ∀ raised, computation = .error raised → broken raised start) :
    Leaves (fromExcept computation) start done broken := by
  cases computation with
  | ok value => exact returns value rfl
  | error raised => exact fails raised rfl

theorem leaves_captured (start : σ) (done : Except ε α → σ → Prop) (broken : ε → σ → Prop)
    (leaves : Leaves program start (fun value => done (.ok value)) fun raised =>
      done (.error raised)) : Leaves (captured program) start done broken := by
  unfold Leaves captured at *
  cases found : program start with
  | ok value state => simpa [found] using leaves
  | error raised state => simpa [found] using leaves

theorem leaves_catch (body : EStateM ε σ α) (handler : ε → EStateM ε σ α) (start : σ)
    (done : α → σ → Prop) (between broken : ε → σ → Prop) (leaves : Leaves body start done between)
    (handled : ∀ raised state, between raised state → Leaves (handler raised) state done broken) :
    Leaves (tryCatch body handler) start done broken := by
  unfold Leaves at leaves
  cases found : body start with
  | ok value state =>
    rw [found] at leaves
    simpa [Leaves, tryCatch, tryCatchThe, MonadExceptOf.tryCatch, EStateM.tryCatch, found]
      using leaves
  | error raised state =>
    rw [found] at leaves
    have rest := handled raised state leaves
    simpa [Leaves, tryCatch, tryCatchThe, MonadExceptOf.tryCatch, EStateM.tryCatch, found,
      EStateM.Backtrackable.restore, EStateM.dummyRestore] using rest

theorem leaves_each (items : List α) (body : α → EStateM ε σ Unit) (start : σ)
    (invariant : List α → σ → Prop) (broken : ε → σ → Prop) (initial : invariant items start)
    (step : ∀ item rest state, item :: rest <:+ items → invariant (item :: rest) state →
      Leaves (body item) state (fun _ after => invariant rest after) broken) :
    Leaves (items.forM body) start (fun _ after => invariant [] after) broken := by
  induction items generalizing start with
  | nil => exact initial
  | cons item items ih =>
    refine leaves_bind _
      (step item items start (List.suffix_refl _) initial) ?_
    intro _ state held
    refine ih state held ?_
    intro other rest between part
    exact step other rest between (part.trans (List.suffix_cons _ _))

end DosWeb.Library.Steps
