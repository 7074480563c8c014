import DosWeb.Llm.Flights

/-!
The accounts of the flights: what the history of a run says of each call and of each state, kept by
every step.
-/

namespace DosWeb.Llm

open Function (update)

variable {Caller : Type}

/-- The calls that finished a state, with its outcomes. -/
def finishesOf (state : Nat) (history : List (Label Caller)) : List (Caller × Outcome) :=
  history.filterMap fun label =>
    match label with
    | .finished caller other outcome => if other = state then some (caller, outcome) else none
    | _ => none

/-- The call has joined as the owner of a state that nobody has finished. -/
def Flying (history : List (Label Caller)) (caller : Caller) (state : Nat) : Prop :=
  .joined caller state true ∈ history ∧ finishesOf state history = []

/-- The call has joined as the owner of a state and has finished it, nobody else has. -/
def Landed (history : List (Label Caller)) (caller : Caller) (state : Nat) (outcome : Outcome) :
    Prop := .joined caller state true ∈ history ∧ finishesOf state history = [(caller, outcome)]

@[simp] theorem finishes_joined (state other : Nat) (history : List (Label Caller))
    (caller : Caller) (owner : Bool) :
    finishesOf state (.joined caller other owner :: history) = finishesOf state history := rfl

theorem finishes_own (state : Nat) (history : List (Label Caller)) (caller : Caller)
    (outcome : Outcome) : finishesOf state (.finished caller state outcome :: history) =
      (caller, outcome) :: finishesOf state history := by
  simp [finishesOf]

theorem finishes_other (state other : Nat) (history : List (Label Caller)) (caller : Caller)
    (outcome : Outcome) (differ : other ≠ state) :
    finishesOf state (.finished caller other outcome :: history) = finishesOf state history := by
  simp [finishesOf, differ]

def Place.before : Place → Bool
  | .accepting _ => false
  | .closing (.returned _) => false
  | _ => true

def Place.after : Place → Bool
  | .accepting _ => true
  | .closing _ => true
  | .catching _ => true
  | _ => false

/-- What the history says of a call that stands at a stage. -/
def Known (history : List (Label Caller)) (caller : Caller) : Stage → Prop
  | .waiting state =>
    .joined caller state false ∈ history ∧ ∃ owner, .joined owner state true ∈ history
  | .woken state =>
    .joined caller state false ∈ history ∧ ∃ owner outcome, Landed history owner state outcome
  | .learned state snapshot =>
    .joined caller state false ∈ history ∧ ∃ owner outcome,
      Landed history owner state outcome ∧ snapshot = outcome.state.snapshot
  | .owning (some state) finished place =>
    finished = false ∧ place.before = true ∧ Flying history caller state
  | .owning none finished place => finished = true ∧ place.after = true
  | _ => True

theorem moves_before (place next : Place) (moves : Moves place next)
    (before : place.before = true) : next.before = true := by
  cases moves <;> first | rfl | exact before

theorem moves_after (place next : Place) (moves : Moves place next) (after : place.after = true) :
    next.after = true := by
  cases moves <;> first | rfl | cases after

section

variable (history : List (Label Caller))

theorem landed_cons (label : Label Caller) (owner : Caller) (state : Nat) (outcome : Outcome)
    (landed : Landed history owner state outcome)
    (apart : ∀ caller other, label = .finished caller state other → False) :
    Landed (label :: history) owner state outcome := by
  obtain ⟨joined, once⟩ := landed
  refine ⟨List.mem_cons_of_mem label joined, ?_⟩
  cases label with
  | finished caller other late =>
    have differ : other ≠ state := fun same => apart caller late (by rw [same])
    rw [finishes_other state other history caller late differ, once]
  | _ => exact once

theorem flying_cons (label : Label Caller) (owner : Caller) (state : Nat)
    (flying : Flying history owner state)
    (apart : ∀ caller other, label = .finished caller state other → False) :
    Flying (label :: history) owner state := by
  obtain ⟨joined, none_⟩ := flying
  refine ⟨List.mem_cons_of_mem label joined, ?_⟩
  cases label with
  | finished caller other late =>
    have differ : other ≠ state := fun same => apart caller late (by rw [same])
    rw [finishes_other state other history caller late differ, none_]
  | _ => exact none_

/-- A label leaves what is known of a call unless it finishes the state that the call owns. -/
theorem known_cons (label : Label Caller) (caller : Caller) (stage : Stage)
    (known : Known history caller stage)
    (fresh : ∀ other state outcome, label = .finished other state outcome →
      finishesOf state history = [])
    (apart : ∀ state finished place, stage = .owning (some state) finished place → ∀ other outcome,
      label = .finished other state outcome → False) : Known (label :: history) caller stage := by
  have kept (owner : Caller) (state : Nat) (outcome : Outcome)
      (landed : Landed history owner state outcome) :
      Landed (label :: history) owner state outcome := by
    apply landed_cons history label owner state outcome landed
    intro other late finishing
    have none_ := fresh other state late finishing
    rw [landed.2] at none_
    cases none_
  cases stage with
  | waiting state =>
    obtain ⟨joined, owner, owns⟩ := known
    exact ⟨List.mem_cons_of_mem label joined, owner, List.mem_cons_of_mem label owns⟩
  | woken state =>
    obtain ⟨joined, owner, outcome, landed⟩ := known
    exact ⟨List.mem_cons_of_mem label joined, owner, outcome, kept owner state outcome landed⟩
  | learned state snapshot =>
    obtain ⟨joined, owner, outcome, landed, same⟩ := known
    exact ⟨List.mem_cons_of_mem label joined, owner, outcome, kept owner state outcome landed, same⟩
  | owning state finished place =>
    cases state with
    | none => exact known
    | some state =>
      obtain ⟨unfinished, before, flying⟩ := known
      exact ⟨unfinished, before,
        flying_cons history label caller state flying (apart state finished place rfl)⟩
  | _ => trivial

theorem known_works (caller : Caller) (stage next : Stage) (works : Works stage next)
    (known : Known history caller stage) : Known history caller next := by
  cases works with
  | move state finished place next moves =>
    cases state with
    | none => exact ⟨known.1, moves_after place next moves known.2⟩
    | some state => exact ⟨known.1, moves_before place next moves known.2.1, known.2.2⟩
  | _ => trivial

theorem works_flying (caller : Caller) (state : Nat) (finished : Bool) (place : Place)
    (next : Stage) (works : Works (.owning (some state) finished place) next)
    (known : Known history caller (.owning (some state) finished place)) :
    ∃ later, next = .owning (some state) finished later := by
  obtain ⟨unfinished, before, -⟩ := known
  cases works with
  | move state finished place next moves => exact ⟨next, rfl⟩
  | close state finished contract => cases before
  | caught state thrown => cases unfinished

end

variable (callers : Callers Caller)

/-- A state that is joined is in flight under its key, or it holds the outcome of its owner. -/
structure Accounted (history : List (Label Caller)) (run : Run Caller) : Prop where
  known : ∀ caller, Known history caller (run.stages caller)
  owned : ∀ caller state, .joined caller state true ∈ history →
    (Flying history caller state ∧ run.flights[state]? = some {} ∧
      run.inflight (callers.key caller) = some state ∧
      ∃ finished place, run.stages caller = .owning (some state) finished place) ∨
    ∃ outcome, Landed history caller state outcome ∧ run.flights[state]? = some outcome.state
  sole : ∀ first second state, .joined first state true ∈ history →
    .joined second state true ∈ history → first = second
  held : ∀ key state, run.inflight key = some state →
    ∃ owner, callers.key owner = key ∧ Flying history owner state
  finished : ∀ caller state outcome, (caller, outcome) ∈ finishesOf state history →
    .joined caller state true ∈ history
  told : ∀ caller state stage, .told caller state stage ∈ history →
    .joined caller state false ∈ history ∧ ∃ owner outcome,
      Landed history owner state outcome ∧ stage = outcome.stage

variable {callers}

theorem start_accounted : Accounted callers [] Run.start where
  known := fun _ => trivial
  owned := fun _ _ joined => by cases joined
  sole := fun _ _ _ joined => by cases joined
  held := fun _ _ held => by cases held
  finished := fun _ _ _ finished => by cases finished
  told := fun _ _ _ told => by cases told

variable {history : List (Label Caller)} {run : Run Caller} (held : Accounted callers history run)

include held

variable (caller : Caller) (state : Nat)

theorem joined_stored (joined : .joined caller state true ∈ history) :
    state < run.flights.length := by
  have stored : ∃ flight, run.flights[state]? = some flight := by
    rcases held.owned caller state joined with ⟨-, stored, -⟩ | ⟨outcome, -, stored⟩
    · exact ⟨_, stored⟩
    · exact ⟨_, stored⟩
  obtain ⟨flight, stored⟩ := stored
  exact (List.getElem?_eq_some_iff.mp stored).1

theorem finished_stored (outcome : Outcome)
    (finished : (caller, outcome) ∈ finishesOf state history) : state < run.flights.length :=
  joined_stored held caller state (held.finished caller state outcome finished)

theorem owning_flies (finished : Bool) (place : Place)
    (owning : run.stages caller = .owning (some state) finished place) :
    Flying history caller state ∧ run.flights[state]? = some {} ∧
      run.inflight (callers.key caller) = some state := by
  have known := held.known caller
  rw [owning] at known
  rcases held.owned caller state known.2.2.1 with ⟨flying, stored, current, -⟩ | ⟨outcome, landed, -⟩
  · exact ⟨flying, stored, current⟩
  · have once := landed.2
    rw [known.2.2.2] at once
    cases once

variable [DecidableEq Caller]

theorem moved_accounted (label : Label Caller) (caller : Caller) (stage : Stage)
    (unfinishing : ∀ other state outcome, label ≠ .finished other state outcome)
    (unowning : ∀ other state, label ≠ .joined other state true)
    (telling : ∀ other state next, label = .told other state next →
      .joined other state false ∈ history ∧ ∃ owner outcome,
        Landed history owner state outcome ∧ next = outcome.stage)
    (known : Known (label :: history) caller stage)
    (keeps : ∀ state finished place, run.stages caller = .owning (some state) finished place →
      ∃ later, stage = .owning (some state) finished later) :
    Accounted callers (label :: history) (run.moves caller stage) := by
  have lands (owner : Caller) (state : Nat) (outcome : Outcome)
      (landed : Landed history owner state outcome) :
      Landed (label :: history) owner state outcome :=
    landed_cons history label owner state outcome landed
      fun other late finishing => unfinishing other state late finishing
  have flies (owner : Caller) (state : Nat) (flying : Flying history owner state) :
      Flying (label :: history) owner state := flying_cons history label owner state flying
      fun other late finishing => unfinishing other state late finishing
  have same (state : Nat) : finishesOf state (label :: history) = finishesOf state history := by
    cases label with
    | finished other state outcome => exact absurd rfl (unfinishing other state outcome)
    | _ => rfl
  have earlier (other : Caller) (state : Nat)
      (joined : .joined other state true ∈ label :: history) :
      .joined other state true ∈ history := by
    rcases List.mem_cons.mp joined with new | old
    · exact absurd new.symm (unowning other state)
    · exact old
  constructor
  · intro other
    by_cases own : other = caller
    · subst own
      simpa [Run.moves] using known
    · simp only [Run.moves, Function.update_of_ne own]
      apply known_cons history label other _ (held.known other)
      · intro finisher state outcome finishing
        exact absurd finishing (unfinishing finisher state outcome)
      · intro state finished place _ finisher outcome finishing
        exact unfinishing finisher state outcome finishing
  · intro owner state joined
    rcases held.owned owner state (earlier owner state joined) with
      ⟨flying, stored, current, finished, place, owning⟩ | ⟨outcome, landed, stored⟩
    · left
      refine ⟨flies owner state flying, stored, current, ?_⟩
      by_cases own : owner = caller
      · subst own
        obtain ⟨later, stays⟩ := keeps state finished place owning
        exact ⟨finished, later, by simp [Run.moves, stays]⟩
      · exact ⟨finished, place, by simp [Run.moves, Function.update_of_ne own, owning]⟩
    · exact Or.inr ⟨outcome, lands owner state outcome landed, stored⟩
  · intro first second state one other
    exact held.sole first second state (earlier first state one) (earlier second state other)
  · intro key state current
    obtain ⟨owner, own, flying⟩ := held.held key state current
    exact ⟨owner, own, flies owner state flying⟩
  · intro owner state outcome finished
    rw [same] at finished
    exact List.mem_cons_of_mem label (held.finished owner state outcome finished)
  · intro other state next told
    have fact : .joined other state false ∈ history ∧ ∃ owner outcome,
        Landed history owner state outcome ∧ next = outcome.stage := by
      rcases List.mem_cons.mp told with new | old
      · exact telling other state next new.symm
      · exact held.told other state next old
    obtain ⟨joined, owner, outcome, landed, goes⟩ := fact
    exact ⟨List.mem_cons_of_mem label joined, owner, outcome, lands owner state outcome landed, goes⟩

theorem led_accounted (caller : Caller) (joining : run.stages caller = .joining)
    (vacant : run.inflight (callers.key caller) = none) :
    Accounted callers (.joined caller run.flights.length true :: history)
      (Run.moves
        { run with
          flights := run.flights ++ [{}]
          inflight := update run.inflight (callers.key caller) (some run.flights.length) }
        caller (.joined run.flights.length true)) := by
  have unowned (owner : Caller) : .joined owner run.flights.length true ∉ history := by
    intro joined
    have stored := joined_stored held owner _ joined
    omega
  have unfinished : finishesOf run.flights.length history = [] := by
    apply List.eq_nil_iff_forall_not_mem.mpr
    intro finish finished
    have stored := finished_stored held finish.1 run.flights.length finish.2 finished
    omega
  have own : Flying (.joined caller run.flights.length true :: history) caller run.flights.length :=
    ⟨.head _, unfinished⟩
  have flies (owner : Caller) (state : Nat) (flying : Flying history owner state) :
      Flying (.joined caller run.flights.length true :: history) owner state :=
    ⟨.tail _ flying.1, flying.2⟩
  have lands (owner : Caller) (state : Nat) (outcome : Outcome)
      (landed : Landed history owner state outcome) :
      Landed (.joined caller run.flights.length true :: history) owner state outcome :=
    ⟨.tail _ landed.1, landed.2⟩
  constructor
  · intro other
    by_cases same : other = caller
    · subst same
      simpa [Run.moves, Stage.joined, Known, Place.before] using own
    · simp only [Run.moves, Function.update_of_ne same]
      apply known_cons history _ other _ (held.known other)
      · intro finisher state outcome finishing
        cases finishing
      · intro state finished place _ finisher outcome finishing
        cases finishing
  · intro owner state joined
    rcases List.mem_cons.mp joined with new | old
    · cases new
      left
      exact ⟨own, by simp [Run.moves], by simp [Run.moves],
        false, .opening, by simp [Run.moves, Stage.joined]⟩
    · have stored := joined_stored held owner state old
      have kept : (run.flights ++ [({} : InFlightState)])[state]? = run.flights[state]? :=
        List.getElem?_append_left stored
      rcases held.owned owner state old with
        ⟨flying, found, current, finished, place, owning⟩ | ⟨outcome, landed, found⟩
      · left
        have differ : owner ≠ caller := by
          rintro rfl
          rw [joining] at owning
          cases owning
        have apart : callers.key owner ≠ callers.key caller := by
          intro same
          rw [same, vacant] at current
          cases current
        refine ⟨flies owner state flying, kept.trans found, ?_, finished, place, ?_⟩
        · simpa only [Run.moves, Function.update_of_ne apart] using current
        · simpa only [Run.moves, Function.update_of_ne differ] using owning
      · right
        exact ⟨outcome, lands owner state outcome landed, kept.trans found⟩
  · intro first second state one other
    rcases List.mem_cons.mp one with new | old <;> rcases List.mem_cons.mp other with new' | old'
    · cases new
      cases new'
      rfl
    · cases new
      exact absurd old' (unowned second)
    · cases new'
      exact absurd old (unowned first)
    · exact held.sole first second state old old'
  · intro key state current
    by_cases same : key = callers.key caller
    · subst same
      simp only [Run.moves, Function.update_self, Option.some.injEq] at current
      subst current
      exact ⟨caller, rfl, own⟩
    · simp only [Run.moves, Function.update_of_ne same] at current
      obtain ⟨owner, keyed, flying⟩ := held.held key state current
      exact ⟨owner, keyed, flies owner state flying⟩
  · intro owner state outcome finished
    exact .tail _ (held.finished owner state outcome finished)
  · intro other state next told
    rcases List.mem_cons.mp told with new | old
    · cases new
    · obtain ⟨joined, owner, outcome, landed, goes⟩ := held.told other state next old
      exact ⟨.tail _ joined, owner, outcome, lands owner state outcome landed, goes⟩

theorem finished_accounted (outcome : Outcome) (stage : Stage)
    (finishes : Finishes (callers.apiKey caller) (run.stages caller) state outcome stage) :
    Accounted callers (.finished caller state outcome :: history)
      ((run.finishInflight (callers.key caller) state outcome).moves caller stage) := by
  obtain ⟨finished, place, owning⟩ :
      ∃ finished place, run.stages caller = .owning (some state) finished place := by
    cases from_ : run.stages caller <;> rw [from_] at finishes <;> cases finishes <;>
      exact ⟨_, _, rfl⟩
  obtain ⟨flying, stored, current⟩ := owning_flies held caller state finished place owning
  have room : state < run.flights.length := joined_stored held caller state flying.1
  have settled : Landed (.finished caller state outcome :: history) caller state outcome :=
    ⟨.tail _ flying.1, by rw [finishes_own, flying.2]⟩
  have apart (owner : Caller) (other : Nat) (flies : Flying history owner other)
      (differ : other ≠ state) : Flying (.finished caller state outcome :: history) owner other := by
    apply flying_cons history _ owner other flies
    intro finisher late finishing
    cases finishing
    exact differ rfl
  have lands (owner : Caller) (other : Nat) (late : Outcome)
      (landed : Landed history owner other late) :
      Landed (.finished caller state outcome :: history) owner other late := by
    apply landed_cons history _ owner other late landed
    intro finisher last finishing
    cases finishing
    have once := landed.2
    rw [flying.2] at once
    cases once
  constructor
  · intro other
    by_cases same : other = caller
    · subst same
      simp only [Run.moves, Function.update_self]
      rw [owning] at finishes
      cases finishes with
      | cached => exact ⟨rfl, rfl⟩
      | published => exact ⟨rfl, rfl⟩
      | caught => trivial
    · simp only [Run.moves, Run.finishInflight, Function.update_of_ne same]
      apply known_cons history _ other _ (held.known other)
      · intro finisher ended late finishing
        cases finishing
        exact flying.2
      · intro owned unfinished place' owns finisher late finishing
        cases finishing
        have flies := (owning_flies held other state unfinished place' owns).1
        exact same (held.sole other caller state flies.1 flying.1)
  · intro owner other joined
    have old : .joined owner other true ∈ history := by
      rcases List.mem_cons.mp joined with new | old
      · cases new
      · exact old
    by_cases same : other = state
    · subst same
      have own := held.sole owner caller other old flying.1
      subst own
      exact Or.inr ⟨outcome, settled, by simp [Run.moves, Run.finishInflight, room]⟩
    · have kept : (run.flights.set state outcome.state)[other]? = run.flights[other]? :=
        List.getElem?_set_ne (Ne.symm same)
      rcases held.owned owner other old with
        ⟨flies, found, now, unfinished, place', owns⟩ | ⟨late, landed, found⟩
      · left
        have differ : owner ≠ caller := by
          rintro rfl
          rw [owning] at owns
          cases owns
          exact same rfl
        have keyed : callers.key owner ≠ callers.key caller := by
          intro keyed
          rw [keyed, current] at now
          cases now
          exact same rfl
        refine ⟨apart owner other flies same, kept.trans found, ?_, unfinished, place', ?_⟩
        · simpa only [Run.moves, Run.finishInflight, current, if_true,
            Function.update_of_ne keyed] using now
        · simpa only [Run.moves, Run.finishInflight, Function.update_of_ne differ] using owns
      · right
        exact ⟨late, lands owner other late landed, kept.trans found⟩
  · intro first second other one two
    have old (owner : Caller)
        (joined : .joined owner other true ∈ .finished caller state outcome :: history) :
        .joined owner other true ∈ history := by
      rcases List.mem_cons.mp joined with new | old
      · cases new
      · exact old
    exact held.sole first second other (old first one) (old second two)
  · intro key other now
    simp only [Run.moves, Run.finishInflight, current, if_true] at now
    by_cases same : key = callers.key caller
    · subst same
      simp at now
    · rw [Function.update_of_ne same] at now
      obtain ⟨owner, keyed, flies⟩ := held.held key other now
      have differ : other ≠ state := by
        rintro rfl
        have own := held.sole owner caller other flies.1 flying.1
        rw [own] at keyed
        exact same keyed.symm
      exact ⟨owner, keyed, apart owner other flies differ⟩
  · intro owner other late ended
    by_cases same : state = other
    · subst same
      rw [settled.2, List.mem_singleton] at ended
      cases ended
      exact settled.1
    · rw [finishes_other other state history caller outcome same] at ended
      exact .tail _ (held.finished owner other late ended)
  · intro other flight next told
    rcases List.mem_cons.mp told with new | old
    · cases new
    · obtain ⟨joined, owner, late, landed, goes⟩ := held.told other flight next old
      exact ⟨.tail _ joined, owner, late, lands owner flight late landed, goes⟩

omit [DecidableEq Caller] in
theorem landed_stored (owner : Caller) (state : Nat) (outcome : Outcome)
    (landed : Landed history owner state outcome) : run.flights[state]? = some outcome.state := by
  rcases held.owned owner state landed.1 with ⟨flying, -⟩ | ⟨late, again, stored⟩
  · have once := landed.2
    rw [flying.2] at once
    cases once
  · have once := landed.2
    rw [again.2] at once
    cases once
    exact stored

omit [DecidableEq Caller] in
theorem set_landed (owner : Caller) (state : Nat) (flight : InFlightState)
    (joined : .joined owner state true ∈ history) (found : run.flights[state]? = some flight)
    (set : flight.event = true) : ∃ outcome, Landed history owner state outcome := by
  rcases held.owned owner state joined with ⟨-, stored, -⟩ | ⟨outcome, landed, -⟩
  · rw [stored] at found
    cases found
    cases set
  · exact ⟨outcome, landed⟩

omit [DecidableEq Caller] held in
theorem told_stage (outcome : Outcome) :
    Stage.told outcome.state.snapshot outcome.state.error = outcome.stage := by
  cases outcome <;> rfl

theorem step_accounted (label : Label Caller) (next : Run Caller)
    (step : Step callers run label next) : Accounted callers (label :: history) next := by
  have kept (stage : Stage) (known : Known history label.caller stage)
      (plain : ∀ other state outcome, label ≠ .finished other state outcome) :
      Known (label :: history) label.caller stage := by
    apply known_cons history label label.caller stage known
    · intro other state outcome finishing
      exact absurd finishing (plain other state outcome)
    · intro state finished place _ other outcome finishing
      exact plain other state outcome finishing
  cases step with
  | work caller stage works =>
    have known := known_works history caller _ stage works (held.known caller)
    apply moved_accounted held _ caller stage (by simp) (by simp) (by simp)
      (kept stage known (by simp))
    intro state finished place owning
    have before := held.known caller
    rw [owning] at works before
    exact works_flying history caller state finished place stage works before
  | join next caller state owner joining joins =>
    unfold Run.joinInflight at joins
    split at joins
    · rename_i current flying
      cases joins
      obtain ⟨leader, -, leads⟩ := held.held _ state flying
      refine moved_accounted held _ caller _ (by simp) (by simp) (by simp) ?_ ?_
      · exact ⟨.head _, leader, .tail _ leads.1⟩
      · intro other finished place owning
        rw [joining] at owning
        cases owning
    · rename_i vacant
      cases joins
      exact led_accounted held caller joining vacant
  | wake caller state flight waiting found set =>
    have known := held.known caller
    rw [waiting] at known
    obtain ⟨joined, owner, owns⟩ := known
    obtain ⟨outcome, landed⟩ := set_landed held owner state flight owns found set
    apply moved_accounted held _ caller _ (by simp) (by simp) (by simp)
      (kept (.woken state) ⟨joined, owner, outcome, landed⟩ (by simp))
    intro other finished place owning
    rw [waiting] at owning
    cases owning
  | learn caller state flight woken found =>
    have known := held.known caller
    rw [woken] at known
    obtain ⟨joined, owner, outcome, landed⟩ := known
    have stored := landed_stored held owner state outcome landed
    rw [found] at stored
    cases stored
    apply moved_accounted held _ caller _ (by simp) (by simp) (by simp)
      (kept (.learned state _) ⟨joined, owner, outcome, landed, rfl⟩ (by simp))
    intro other finished place owning
    rw [woken] at owning
    cases owning
  | tell caller state flight snapshot learned found =>
    have known := held.known caller
    rw [learned] at known
    obtain ⟨joined, owner, outcome, landed, same⟩ := known
    have stored := landed_stored held owner state outcome landed
    rw [found] at stored
    cases stored
    subst same
    rw [told_stage]
    refine moved_accounted held _ caller _ (by simp) (by simp) ?_ ?_ ?_
    · intro other flight stage telling
      cases telling
      exact ⟨joined, owner, outcome, landed, rfl⟩
    · cases outcome <;> trivial
    · intro other finished place owning
      rw [learned] at owning
      cases owning
  | finish caller state outcome stage finishes =>
    exact finished_accounted held caller state outcome stage finishes

omit held in
theorem runs_accounted (runs : Runs callers history run) : Accounted callers history run := by
  induction runs with
  | start => exact start_accounted
  | step history label run next runs step ih => exact step_accounted ih label next step

end DosWeb.Llm
