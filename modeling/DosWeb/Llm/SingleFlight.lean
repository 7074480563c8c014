import DosWeb.Llm.Accounts

namespace DosWeb.Llm

open Function (update)

section

variable {Caller : Type} [DecidableEq Caller] {callers : Callers Caller}

def Place.rank : Place → Nat
  | .opening => 11
  | .looking _ => 10
  | .authenticating => 9
  | .reserving _ => 8
  | .attempting _ .initial => 7
  | .attempting _ .correction => 6
  | .publishing _ _ => 5
  | .cached _ => 4
  | .published _ => 4
  | .accepting _ => 3
  | .closing _ => 2
  | .catching _ => 1

def Stage.rank : Stage → Nat
  | .owning _ _ place => place.rank
  | _ => 0

theorem moves_lower (place next : Place) (moves : Moves place next) : next.rank < place.rank := by
  cases moves with
  | answer authenticated snapshot =>
    cases snapshot.acceptedPromptVariant <;> simp [Place.rank]
  | fail place thrown fails =>
    cases place with
    | attempting authenticated variant => cases variant <;> simp [Place.rank]
    | looking | authenticating | reserving | publishing | accepting => simp [Place.rank]
    | opening | cached | published | closing | catching => cases fails
  | _ => simp [Place.rank]

theorem owner_lowers (run next : Run Caller) (label : Label Caller) (caller : Caller)
    (state : Option Nat) (finished : Bool) (place : Place)
    (owning : run.stages caller = .owning state finished place) (own : label.caller = caller)
    (step : Step callers run label next) : (next.stages caller).rank < place.rank := by
  cases step with
  | work actor stage works =>
    obtain rfl : actor = caller := own
    rw [owning] at works
    simp only [Run.moves, Function.update_self]
    cases works with
    | move _ _ _ later moves => exact moves_lower place later moves
    | close | caught => exact Nat.zero_lt_succ _
  | finish actor other outcome stage finishes =>
    obtain rfl : actor = caller := own
    rw [owning] at finishes
    simp only [Run.moves, Function.update_self]
    cases finishes with
    | cached | published => exact Nat.lt_succ_self _
    | caught => exact Nat.zero_lt_succ _
  | join next actor other owner joining =>
    obtain rfl : actor = caller := own
    simp [owning] at joining
  | wake actor other flight waiting =>
    obtain rfl : actor = caller := own
    simp [owning] at waiting
  | learn actor other flight woken =>
    obtain rfl : actor = caller := own
    simp [owning] at woken
  | tell actor other flight snapshot learned =>
    obtain rfl : actor = caller := own
    simp [owning] at learned

variable (history : List (Label Caller)) (run : Run Caller)

theorem owner_goes (caller : Caller) (state : Nat) (finished : Bool) (place : Place)
    (owning : run.stages caller = .owning (some state) finished place)
    (known : Known history caller (.owning (some state) finished place)) :
    ∃ label next, label.caller = caller ∧ Step callers run label next := by
  have moves (later : Place) (move : Moves place later) :
      ∃ label next, label.caller = caller ∧ Step callers run label next :=
    ⟨_, _, rfl, .work run caller _ (owning ▸ Works.move (some state) finished place later move)⟩
  have finishes (outcome : Outcome) (stage : Stage)
      (ends : Finishes (callers.apiKey caller) (.owning (some state) finished place) state outcome
        stage) : ∃ label next, label.caller = caller ∧ Step callers run label next :=
    ⟨_, _, rfl, .finish run caller state outcome stage (owning ▸ ends)⟩
  obtain ⟨rfl, before, -⟩ := known
  cases place with
  | opening => exact moves _ (.enter true)
  | looking available =>
    cases available with
    | false => exact moves _ .unavailable
    | true => exact moves _ .absent
  | cached snapshot => exact finishes _ _ (.cached state false snapshot)
  | authenticating => exact moves _ (.authenticate true)
  | reserving authenticated => exact moves _ (.reserve authenticated)
  | attempting authenticated variant =>
    cases variant with
    | initial => exact moves _ (.fail (.attempting authenticated .initial) .other rfl)
    | correction => exact moves _ (.fail (.attempting authenticated .correction) .other trivial)
  | publishing authenticated snapshot =>
    cases authenticated with
    | false => exact moves _ (.put snapshot)
    | true => exact moves _ (.keep snapshot)
  | published snapshot => exact finishes _ _ (.published state false snapshot)
  | accepting snapshot => cases before
  | closing result =>
    cases result with
    | returned contract => cases before
    | raised thrown => exact moves _ (.close thrown)
  | catching thrown => exact finishes _ _ (.caught state thrown)

theorem step_ended (run next : Run Caller) (label : Label Caller) (caller : Caller)
    (result : Result) (ended : run.stages caller = .ended result)
    (step : Step callers run label next) : next.stages caller = .ended result := by
  have other (stage : Stage) (actor : Caller) (current : Stage)
      (stands : run.stages actor = current) (going : ∀ result, current ≠ .ended result) :
      update run.stages actor stage caller = .ended result := by
    have differ : caller ≠ actor := by
      rintro rfl
      exact going result (stands.symm.trans ended)
    rw [Function.update_of_ne differ, ended]
  cases step with
  | work actor stage works =>
    apply other stage actor _ rfl
    intro last at_
    rw [at_] at works
    cases works
  | join next actor state owner joining joins =>
    have same : next.stages = run.stages := by
      unfold Run.joinInflight at joins
      split at joins <;> cases joins <;> rfl
    simp only [Run.moves, same]
    exact other _ actor _ joining (by simp)
  | wake actor state flight waiting found set => exact other _ actor _ waiting (by simp)
  | learn actor state flight woken found => exact other _ actor _ woken (by simp)
  | tell actor state flight snapshot learned found => exact other _ actor _ learned (by simp)
  | finish actor state outcome stage finishes =>
    apply other stage actor _ rfl
    intro last at_
    rw [at_] at finishes
    cases finishes

/-- What an owner finishes its state with and where it goes on: with the snapshot that it has read
or published and goes on to accept, or with the error that it raises, redacted, where that is to be
shared, and else with the request to try again. -/
def Settles (apiKey : String) (outcome : Outcome) (stage : Stage) : Place → Prop
  | .cached own => outcome = .snapshot own ∧ stage = .owning none true (.accepting own)
  | .published own => outcome = .snapshot own ∧ stage = .owning none true (.accepting own)
  | .catching thrown =>
    stage = .ended (.raised thrown) ∧ ((∃ error : AnalyzerError, thrown = .known (.analyzer error) ∧
          error.code ∈ shareableFailures ∧
          outcome = .error { error with details := redactMapping apiKey error.details }) ∨
        (∀ error : AnalyzerError, thrown = .known (.analyzer error) →
          error.code ∉ shareableFailures) ∧ outcome = .retry)
  | _ => False

theorem finish_settles (apiKey : String) (before stage : Stage) (state : Nat) (outcome : Outcome)
    (finishes : Finishes apiKey before state outcome stage) :
    ∃ finished place, before = .owning (some state) finished place ∧
      Settles apiKey outcome stage place := by
  cases finishes with
  | cached _ finished snapshot => exact ⟨finished, .cached snapshot, rfl, rfl, rfl⟩
  | published _ finished snapshot => exact ⟨finished, .published snapshot, rfl, rfl, rfl⟩
  | caught _ thrown =>
    refine ⟨false, .catching thrown, rfl, rfl, ?_⟩
    unfold Thrown.outcome
    split
    · rename_i error
      split
      · rename_i shared
        exact .inl ⟨error, rfl, shared, rfl⟩
      · rename_i kept
        exact .inr ⟨fun other same => by cases same; exact kept, rfl⟩
    · rename_i unknown
      exact .inr ⟨fun error same => absurd same (unknown error), rfl⟩

/-- A call that has finished its state did so from where it stood in the run until then. -/
def Settled (callers : Callers Caller) (history : List (Label Caller)) (owner : Caller)
    (state : Nat) (outcome : Outcome) : Prop :=
  ∃ later earlier before after place, history = later ++ .finished owner state outcome :: earlier ∧
    Runs callers earlier before ∧ Step callers before (.finished owner state outcome) after ∧
    before.stages owner = .owning (some state) false place ∧
    Settles (callers.apiKey owner) outcome (after.stages owner) place

theorem step_settled (runs : Runs callers history run) (next : Run Caller) (owner : Caller)
    (state : Nat) (outcome : Outcome)
    (step : Step callers run (.finished owner state outcome) next) :
    Settled callers (.finished owner state outcome :: history) owner state outcome := by
  have moved := step
  cases step with
  | finish _ _ _ stage finishes =>
    obtain ⟨finished, place, owning, settles⟩ := finish_settles _ _ _ _ _ finishes
    have known := (runs_accounted runs).known owner
    rw [owning] at known
    obtain rfl : finished = false := known.1
    exact ⟨[], history, run, _, place, rfl, runs, moved, owning, by simpa [Run.moves] using settles⟩

/-- The error that an owner shares is the one it raises, with its details redacted. -/
def Raises (callers : Callers Caller) (run : Run Caller) (owner : Caller)
    (failure : AnalyzerError) : Prop :=
  ∃ error : AnalyzerError, run.stages owner = .ended (.raised (.known (.analyzer error))) ∧
    error.code ∈ shareableFailures ∧
    failure = { error with details := redactMapping (callers.apiKey owner) error.details }

theorem finish_raises (run next : Run Caller) (owner : Caller)
    (state : Nat) (failure : AnalyzerError)
    (step : Step callers run (.finished owner state (.error failure)) next) :
    Raises callers next owner failure := by
  cases step with
  | finish _ _ _ stage finishes =>
    obtain ⟨_, place, -, settles⟩ := finish_settles _ _ _ _ _ finishes
    cases place with
    | cached own | published own => cases settles.1
    | catching thrown =>
      obtain ⟨rfl, ⟨error, rfl, shareable, same⟩ | ⟨-, retries⟩⟩ := settles
      · exact ⟨error, by simp [Run.moves], shareable, Outcome.error.inj same⟩
      · cases retries
    | _ => cases settles

theorem landed_earlier (label : Label Caller) (next : Run Caller)
    (held : Accounted callers history run) (owner : Caller) (state : Nat) (outcome : Outcome)
    (step : Step callers run label next) (landed : Landed (label :: history) owner state outcome) :
    label = .finished owner state outcome ∨ Landed history owner state outcome := by
  obtain ⟨joined, once⟩ := landed
  cases label with
  | finished caller other late =>
    have old : .joined owner state true ∈ history := by
      rcases List.mem_cons.mp joined with new | old
      · cases new
      · exact old
    by_cases same : other = state
    · subst same
      rw [finishes_own] at once
      simp only [List.cons.injEq, Prod.mk.injEq] at once
      obtain ⟨⟨rfl, rfl⟩, -⟩ := once
      exact Or.inl rfl
    · rw [finishes_other state other history caller late same] at once
      exact Or.inr ⟨old, once⟩
  | joined caller other owner' =>
    have finished : (owner, outcome) ∈ finishesOf state history := by
      simp only [finishes_joined] at once
      simp [once]
    exact Or.inr ⟨held.finished owner state outcome finished, once⟩
  | worked _ | told _ _ _ =>
    rcases List.mem_cons.mp joined with new | old
    · cases new
    · exact Or.inr ⟨old, once⟩

theorem runs_raise (runs : Runs callers history run) (owner : Caller) (state : Nat)
    (failure : AnalyzerError) (landed : Landed history owner state (.error failure)) :
    Raises callers run owner failure := by
  induction runs with
  | start => cases landed.1
  | step history label run next runs step ih =>
    rcases landed_earlier history run label next (runs_accounted runs) owner state _ step landed
      with rfl | earlier
    · exact finish_raises run next owner state failure step
    · obtain ⟨error, ended, shareable, same⟩ := ih earlier
      exact ⟨error, step_ended run next label owner _ ended step, shareable, same⟩

theorem runs_settle (runs : Runs callers history run) (owner : Caller) (state : Nat)
    (outcome : Outcome) (landed : Landed history owner state outcome) :
    Settled callers history owner state outcome := by
  induction runs with
  | start => cases landed.1
  | step history label run next runs step ih =>
    rcases landed_earlier history run label next (runs_accounted runs) owner state _ step landed
      with rfl | earlier
    · exact step_settled history run runs next owner state outcome step
    · obtain ⟨later, front, before, after, place, parts, settled⟩ := ih earlier
      exact ⟨label :: later, front, before, after, place, congrArg (label :: ·) parts, settled⟩

structure SingleFlight (callers : Callers Caller) (history : List (Label Caller))
    (run : Run Caller) : Prop where
  one : ∀ first second state other, callers.key first = callers.key second →
    Flying history first state → Flying history second other → first = second ∧ state = other
  once : ∀ caller state, .joined caller state true ∈ history →
    (∃ result, run.stages caller = .ended result) → ∃ outcome, Landed history caller state outcome
  own : ∀ state, (finishesOf state history).length ≤ 1 ∧
    ∀ finish ∈ finishesOf state history, .joined finish.1 state true ∈ history
  goes : ∀ caller state, Flying history caller state →
    ∃ label next, label.caller = caller ∧ Step callers run label next
  lands : ∀ caller state label next, Flying history caller state → label.caller = caller →
    Step callers run label next → (next.stages caller).rank < (run.stages caller).rank
  wakes : ∀ caller state, run.stages caller = .waiting state →
    (∃ owner, Flying history owner state) ∨
      ∃ next, Step callers run (.worked caller) next ∧ next.stages caller = .woken state
  told : ∀ caller state stage, .told caller state stage ∈ history →
    .joined caller state false ∈ history ∧ ∃ owner outcome,
      Landed history owner state outcome ∧ stage = outcome.stage
  settles : ∀ owner state outcome, Landed history owner state outcome →
    Settled callers history owner state outcome
  shared : ∀ owner state failure, Landed history owner state (.error failure) →
    Raises callers run owner failure
  keeps : ∀ caller state outcome next, Step callers run (.finished caller state outcome) next →
    ∀ key other, run.inflight key = some other → next.inflight key = some other ∨
      key = callers.key caller ∧ other = state ∧ .joined caller state true ∈ history

omit [DecidableEq Caller] in
theorem flying_stands (held : Accounted callers history run) (caller : Caller) (state : Nat)
    (flying : Flying history caller state) : run.inflight (callers.key caller) = some state ∧
      ∃ finished place, run.stages caller = .owning (some state) finished place := by
  rcases held.owned caller state flying.1 with ⟨-, -, current, owning⟩ | ⟨outcome, landed, -⟩
  · exact ⟨current, owning⟩
  · have once := landed.2
    rw [flying.2] at once
    cases once

/-- Calls of one key fly one at a time, every owner finishes its own flight once, and the waiters
of a flight are told its outcome. -/
theorem single_flight (callers : Callers Caller) (history : List (Label Caller))
    (run : Run Caller) (runs : Runs callers history run) : SingleFlight callers history run := by
  have held := runs_accounted runs
  constructor
  · intro first second state other same one two
    have current := (flying_stands history run held first state one).1
    have current' := (flying_stands history run held second other two).1
    rw [same, current', Option.some.injEq] at current
    subst current
    exact ⟨held.sole first second _ one.1 two.1, rfl⟩
  · intro caller state joined ended
    obtain ⟨result, ended⟩ := ended
    rcases held.owned caller state joined with
      ⟨-, -, -, finished, place, owning⟩ | ⟨outcome, landed, -⟩
    · rw [ended] at owning
      cases owning
    · exact ⟨outcome, landed⟩
  · intro state
    constructor
    · cases finishes : finishesOf state history with
      | nil => exact Nat.zero_le 1
      | cons finish rest =>
        have joined := held.finished finish.1 state finish.2 (by simp [finishes])
        rcases held.owned finish.1 state joined with ⟨flying, -⟩ | ⟨outcome, landed, -⟩
        · rw [flying.2] at finishes
          cases finishes
        · rw [← finishes, landed.2]
          exact Nat.le_refl 1
    · intro finish finished
      exact held.finished finish.1 state finish.2 finished
  · intro caller state flying
    obtain ⟨-, finished, place, owning⟩ := flying_stands history run held caller state flying
    have known := held.known caller
    rw [owning] at known
    exact owner_goes history run caller state finished place owning known
  · intro caller state label next flying own step
    obtain ⟨-, finished, place, owning⟩ := flying_stands history run held caller state flying
    have lower := owner_lowers run next label caller (some state) finished place owning own step
    simpa [owning, Stage.rank] using lower
  · intro caller state waiting
    have known := held.known caller
    rw [waiting] at known
    obtain ⟨joined, owner, owns⟩ := known
    rcases held.owned owner state owns with ⟨flying, -⟩ | ⟨outcome, landed, stored⟩
    · exact Or.inl ⟨owner, flying⟩
    · right
      have set : outcome.state.event = true := by cases outcome <;> rfl
      exact ⟨_, .wake run caller state _ waiting stored set, by simp [Run.moves]⟩
  · exact held.told
  · exact runs_settle history run runs
  · exact runs_raise history run runs
  · intro caller state outcome next step key other current
    cases step with
    | finish _ _ _ stage finishes =>
      obtain ⟨finished, place, owning, -⟩ := finish_settles _ _ _ _ _ finishes
      obtain ⟨flying, -, own⟩ := owning_flies held caller state finished place owning
      by_cases same : key = callers.key caller
      · subst same
        rw [own, Option.some.injEq] at current
        exact Or.inr ⟨rfl, current.symm, flying.1⟩
      · left
        simpa [Run.moves, Run.finishInflight, own, Function.update_of_ne same] using current

end

def twoCallers : Callers Bool where
  key := fun _ => "slice"
  apiKey := fun _ => ""

theorem two_run {history : List (Label Bool)} {run next : Run Bool} {label : Label Bool}
    (runs : Runs twoCallers history run) (step : Step twoCallers run label next) :
    Runs twoCallers (label :: history) next := .step history label run next runs step

/-- The owner fails before it asks the provider, and its waiter starts again. -/
theorem single_flight_retried : ∃ history run,
    .told false 0 .starting ∈ history ∧ SingleFlight twoCallers history run := by
  have missed := two_run .start (.work _ true _ .miss)
  have owns := two_run missed (.join _ _ true 0 true rfl rfl)
  have follows := two_run owns (.work _ false _ .miss)
  have waits := two_run follows (.join _ _ false 0 false rfl rfl)
  have fails := two_run waits (.work _ true _ (.move _ _ _ _ (.refuse .other)))
  have finishes := two_run fails (.finish _ true 0 .retry _ (.caught 0 .other))
  have wakes := two_run finishes (.wake _ false 0 _ rfl rfl rfl)
  have learns := two_run wakes (.learn _ false 0 _ rfl rfl)
  have told := two_run learns (.tell _ false 0 _ _ rfl rfl)
  exact ⟨_, _, .head _, single_flight twoCallers _ _ told⟩

end DosWeb.Llm
