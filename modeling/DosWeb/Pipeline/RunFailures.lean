import DosWeb.Library.Keyed
import DosWeb.Pipeline.Runs

/-!
How a run of the pipeline ends when operations of it fail.
-/

namespace DosWeb.Pipeline

open Library.JsonValue Library.JsonText Library.Steps

section

variable {F : Type}

theorem field_set (key other : String) (value : Json F) (members : Members F) :
    field key (.obj (setMember other value members)) =
      if other = key then some value else field key (.obj members) := by
  induction members with
  | nil =>
    by_cases same : other = key
    · simp [setMember, field, same]
    · simp [setMember, field, same]
  | cons member members ih =>
    unfold setMember
    by_cases here : member.1 = other
    · rw [if_pos here]
      by_cases same : other = key
      · simp [field, same]
      · simp [field, same, here]
    · rw [if_neg here]
      by_cases same : other = key
      · rw [if_pos same] at ih ⊢
        simp only [field, List.find?_cons] at ih ⊢
        have apart : (member.1 == key) = false := by simpa [← same] using here
        rw [apart]
        exact ih
      · rw [if_neg same] at ih ⊢
        simp only [field, List.find?_cons] at ih ⊢
        split
        · rfl
        · exact ih

theorem field_stages (value : Stage → Json F) (names : List Stage)
    (members : Members F) (stage : Stage) :
    field stage.text (.obj (setStages value names members)) =
      if stage ∈ names then some (value stage) else field stage.text (.obj members) := by
  unfold setStages
  induction names generalizing members with
  | nil => simp
  | cons name names ih =>
    rw [List.foldl_cons, ih, field_set]
    by_cases here : name = stage
    · subst here
      by_cases later : name ∈ names <;> simp [later]
    · have apart : name.text ≠ stage.text := fun same => here (stage_text_injective _ _ same)
      by_cases later : stage ∈ names
      · simp [later]
      · simp [later, apart, Ne.symm here]

theorem run_stages_set (stages : Members F) (run : Members F) :
    runStages (setMember "stages" (.obj stages) run) = stages := by
  rw [runStages, field_set, if_pos rfl]

theorem run_stages_other (key : String) (value : Json F) (run : Members F)
    (other : key ≠ "stages") : runStages (setMember key value run) = runStages run := by
  rw [runStages, runStages, field_set, if_neg other]

theorem stage_meta_stages (run : Members F) (stage : Stage) :
    stageMeta run stage = match field stage.text (.obj (runStages run)) with
      | some (.obj members) => members
      | _ => [] := by
  unfold stageMeta runStages
  cases field "stages" (.obj run) with
  | none => rfl
  | some value => cases value <;> rfl

theorem stage_after (stage : Stage) : stage ∈ stagesFrom stage := by
  cases stage <;> decide

/-- A stage is marked as failed, and those behind it are pending. -/
structure StageFailed (stage : Stage) (run : Members F) : Prop where
  failed : hasText "status" "failed" (.obj (stageMeta run stage)) = true
  pending : ∀ name ∈ stagesFrom stage, name ≠ stage →
    stageMeta run name = [("status", .str "pending")]

theorem mark_failure_status (stage : Stage) (error : AnalyzerError) (run : Members F) :
    hasText "status" "failed" (.obj (markFailure stage error run)) = true := by
  rw [hasText, markFailure, field_set, if_neg (by decide), field_set, if_pos rfl]
  exact beq_self_eq_true _

section

variable (stage : Stage) (error : AnalyzerError) (run members : Members F)
  (held : field "stages" (.obj run) = some (.obj members))

include held

theorem mark_failure_stages :
    runStages (markFailure stage error run) = failedStages stage error members := by
  rw [markFailure, run_stages_other _ _ _ (by decide), run_stages_other _ _ _ (by decide)]
  simp only [held]
  exact run_stages_set _ _

theorem mark_failure_failed : StageFailed stage (markFailure stage error run) := by
  have stages_ := mark_failure_stages stage error run members held
  constructor
  · rw [stage_meta_stages, stages_, failedStages, field_stages, if_pos (stage_after stage)]
    simp only [if_true, withDetails]
    split <;> rfl
  · intro name later other
    rw [stage_meta_stages, stages_, failedStages, field_stages, if_pos later]
    simp only [other, if_false]

end

theorem mark_run_stages (error : AnalyzerError) (endedAt : F) (run : Members F) :
    runStages (markRunFailure error endedAt run) = runStages run := by
  rw [markRunFailure, run_stages_other _ _ _ (by decide), run_stages_other _ _ _ (by decide),
    run_stages_other _ _ _ (by decide)]

theorem mark_run_status (error : AnalyzerError) (endedAt : F) (run : Members F) :
    hasText "status" "failed" (.obj (markRunFailure error endedAt run)) = true := by
  rw [hasText, markRunFailure, field_set, if_neg (by decide), field_set, if_neg (by decide),
    field_set, if_pos rfl]
  exact beq_self_eq_true _

theorem stage_failed_same (stage : Stage) (run other : Members F)
    (same : runStages other = runStages run) (failed : StageFailed stage run) :
    StageFailed stage other := by
  have metas : ∀ name, stageMeta other name = stageMeta run name := by
    intro name
    rw [stage_meta_stages, stage_meta_stages, same]
  constructor
  · rw [metas]
    exact failed.failed
  · intro name later apart
    rw [metas]
    exact failed.pending name later apart

end

section

variable {F σ : Type}

def Event.quiet : Event F σ → Bool
  | .failed _ _ => false
  | .finalized => false
  | _ => true

def failures (events : List (Event F σ)) : List (Source × Failure) :=
  events.filterMap fun event =>
    match event with
    | .failed source failure => some (source, failure)
    | _ => none

/-- Whether the last write of the run's record succeeded. -/
def lastWrite (events : List (Event F σ)) : Option Bool :=
  (events.filterMap fun event =>
    match event with
    | .wrote => some true
    | .failed .write _ => some false
    | _ => none).getLast?

def finalizations (events : List (Event F σ)) : Nat :=
  events.countP fun event =>
    match event with
    | .finalized => true
    | _ => false

def Reached (original raised : Failure) : Prop := original.thrown ∈ raised.thrown :: raised.causes

def Went (before after : RunState F σ) : Prop :=
  ∃ more, after.events = before.events ++ more ∧ ∀ event ∈ more, event.quiet = true

def Broke (source : Source) (original : Failure) (before after : RunState F σ) : Prop :=
  ∃ more, after.events = before.events ++ (more ++ [.failed source original]) ∧
    ∀ event ∈ more, event.quiet = true

theorem went_refl (state : RunState F σ) : Went state state := ⟨[], (List.append_nil _).symm, nofun⟩

theorem went_same (before after : RunState F σ) (same : after.events = before.events) :
    Went before after := ⟨[], by rw [same, List.append_nil], nofun⟩

theorem went_trans (first second third : RunState F σ) (one : Went first second)
    (two : Went second third) : Went first third := by
  obtain ⟨front, begins, quiet⟩ := one
  obtain ⟨back, goes, still⟩ := two
  refine ⟨front ++ back, by rw [goes, begins, List.append_assoc], ?_⟩
  intro event member
  rcases List.mem_append.mp member with early | late
  · exact quiet event early
  · exact still event late

theorem went_broke (source : Source) (original : Failure) (first second third : RunState F σ)
    (one : Went first second) (two : Broke source original second third) :
    Broke source original first third := by
  obtain ⟨front, begins, quiet⟩ := one
  obtain ⟨back, goes, still⟩ := two
  refine ⟨front ++ back, by rw [goes, begins]; simp only [List.append_assoc], ?_⟩
  intro event member
  rcases List.mem_append.mp member with early | late
  · exact quiet event early
  · exact still event late

theorem note_leaves (start : RunState F σ) (event : Event F σ)
    (broken : Failure → RunState F σ → Prop) : Leaves (note event) start
      (fun _ after => after = { start with events := start.events ++ [event] }) broken := rfl

theorem attempt_leaves {α : Type} (start : RunState F σ) (source : Source)
    (operation : σ → Except Failure α × σ) : Leaves (attempt source operation) start
      (fun value after => ∃ world, operation start.world = (.ok value, world) ∧
        after = { start with world := world })
      fun raised after => ∃ world, after =
        { start with world := world, events := start.events ++ [.failed source raised] } := by
  unfold Leaves attempt
  rcases found : operation start.world with ⟨result | result, world⟩
  · exact ⟨world, rfl⟩
  · exact ⟨world, rfl, rfl⟩

theorem write_run_leaves (ops : Operations F σ) (start : RunState F σ) : Leaves (writeRun ops) start
      (fun _ after => ∃ world, after = { start with
        world := world, persisted := some start.run, events := start.events ++ [.wrote] })
      fun raised after => ∃ world persisted, after = { start with
        world := world, persisted := persisted,
        events := start.events ++ [.failed .write raised] } := by
  unfold Leaves writeRun
  rcases ops.writeRun start.run start.world with ⟨_ | ⟨failure, landed⟩, world⟩
  · exact ⟨world, rfl⟩
  · exact ⟨world, _, rfl⟩

def HasStages (run : Members F) : Prop := ∃ members, field "stages" (.obj run) = some (.obj members)

def ThrownKind.exits : ThrownKind → Bool
  | .exiting _ => true
  | _ => false

/-- How a step breaks off: an operation failed, which the raised failure has among its causes, and
a stage whose own operation failed is marked. -/
structure Failing (before after : RunState F σ) (raised : Failure) : Prop where
  staged : HasStages after.run
  broke : ∃ source original, Broke source original before after ∧ Reached original raised ∧
    source ≠ .finalizer ∧ ∀ stage, source = .stage stage → original.thrown.kind.exits = false →
        StageFailed stage after.run ∧ hasText "status" "failed" (.obj after.run) = true

def Proceeds {α : Type} (program : Running F σ α) : Prop :=
  ∀ start, HasStages start.run → Leaves program start
    (fun _ after => Went start after ∧ HasStages after.run) fun raised after =>
      Failing start after raised

theorem proceeds_pure {α : Type} (value : α) : Proceeds (pure value : Running F σ α) :=
  fun start held => ⟨went_refl start, held⟩

theorem failing_after (first second third : RunState F σ) (raised : Failure)
    (went : Went first second) (failing : Failing second third raised) :
    Failing first third raised := by
  obtain ⟨source, original, broke, reached, kind, marked⟩ := failing.broke
  exact ⟨failing.staged, source, original, went_broke source original first second third went broke,
    reached, kind, marked⟩

theorem proceeds_bind {α β : Type} (first : Running F σ α) (next : α → Running F σ β)
    (begins : Proceeds first) (goes : ∀ value, Proceeds (next value)) :
    Proceeds (first >>= next) := by
  intro start held
  unfold Leaves
  have front := begins start held
  unfold Leaves at front
  simp only [bind, EStateM.bind]
  cases found : first start with
  | ok value state =>
    rw [found] at front
    have back := goes value state front.2
    unfold Leaves at back
    cases rest : next value state with
    | ok result after =>
      simp only [rest] at back ⊢
      exact ⟨went_trans start state after front.1 back.1, back.2⟩
    | error raised after =>
      simp only [rest] at back ⊢
      exact failing_after start state after raised front.1 back
  | error raised state =>
    rw [found] at front
    exact front

theorem proceeds_get {β : Type} (next : RunState F σ → Running F σ β)
    (goes : ∀ state, Proceeds (next state)) : Proceeds (get >>= next) :=
  fun start held => goes start start held

theorem proceeds_modify (change : RunState F σ → RunState F σ)
    (kept : ∀ state, (change state).events = state.events)
    (staged : ∀ state, HasStages state.run → HasStages (change state).run) :
    Proceeds (modify change : Running F σ Unit) :=
  fun start held => ⟨went_same start _ (kept start), staged start held⟩

theorem proceeds_note (event : Event F σ) (quiet : event.quiet = true) : Proceeds (note event) := by
  intro start held
  refine ⟨⟨[event], rfl, ?_⟩, held⟩
  intro other member
  rw [List.mem_singleton.mp member]
  exact quiet

theorem failing_of (start after : RunState F σ) (source : Source) (failure : Failure)
    (kind : source ≠ .finalizer) (other : ∀ stage, source ≠ .stage stage)
    (held : HasStages after.run)
    (events : after.events = start.events ++ [.failed source failure]) :
    Failing start after failure := ⟨held, source, failure, ⟨[], by rw [events]; rfl, nofun⟩,
    (.head _), kind, fun stage same => absurd same (other stage)⟩

theorem proceeds_raise {α : Type} (source : Source) (failure : Failure)
    (kind : source ≠ .finalizer) (other : ∀ stage, source ≠ .stage stage) :
    Proceeds (raise source failure : Running F σ α) :=
  fun start held => failing_of start _ source failure kind other held rfl

theorem proceeds_attempt {α : Type} (source : Source) (operation : σ → Except Failure α × σ)
    (kind : source ≠ .finalizer) (other : ∀ stage, source ≠ .stage stage) :
    Proceeds (attempt source operation : Running F σ α) := by
  intro start held
  apply leaves_mono (attempt_leaves start source operation)
  · rintro _ after ⟨world, -, rfl⟩
    exact ⟨went_same _ _ rfl, held⟩
  · rintro raised after ⟨world, rfl⟩
    exact failing_of start _ source raised kind other held rfl

theorem proceeds_write (ops : Operations F σ) : Proceeds (writeRun ops) := by
  intro start held
  apply leaves_mono (write_run_leaves ops start)
  · rintro _ after ⟨world, rfl⟩
    refine ⟨⟨[.wrote], rfl, ?_⟩, held⟩
    intro event member
    rw [List.mem_singleton.mp member]
    rfl
  · rintro raised after ⟨world, persisted, rfl⟩
    exact failing_of start _ .write raised (by decide) (by simp) held rfl

theorem has_stages_set (key : String) (value : Json F) (run : Members F)
    (held : HasStages run) (other : key ≠ "stages") : HasStages (setMember key value run) := by
  obtain ⟨members, found⟩ := held
  exact ⟨members, by rw [field_set, if_neg other, found]⟩

theorem has_stages_own (members run : Members F) :
    HasStages (setMember "stages" (.obj members) run) := ⟨members, by rw [field_set, if_pos rfl]⟩

variable (settings : Settings F) (ops : Operations F σ)

theorem proceeds_manifest (stage : Stage) (metadata : Members F) (artifacts : List (Json F)) :
    Proceeds (manifestStands settings ops stage metadata artifacts) := by
  apply proceeds_get
  intro state
  dsimp only
  split
  · exact proceeds_pure _
  · exact proceeds_raise _ _ (by simp) (by simp)
  · exact proceeds_pure _

/-- How a stage breaks off before it is marked: with the failure of one of its operations. -/
structure Breaking (stage : Stage) (before after : RunState F σ) (raised : Failure) : Prop where
  staged : HasStages after.run
  broke : ∃ source, Broke source raised before after ∧ source ≠ .finalizer ∧
    ∀ name, source = .stage name → name = stage

theorem breaking_of (stage : Stage) (start after : RunState F σ) (source : Source)
    (failure : Failure) (kind : source ≠ .finalizer)
    (own : ∀ name, source = .stage name → name = stage) (held : HasStages after.run)
    (events : after.events = start.events ++ [.failed source failure]) :
    Breaking stage start after failure :=
  ⟨held, source, ⟨[], by rw [events]; rfl, nofun⟩, kind, own⟩

def Produces {α : Type} (stage : Stage) (program : Running F σ α) : Prop :=
  ∀ start, HasStages start.run → Leaves program start
    (fun _ after => Went start after ∧ HasStages after.run) fun raised after =>
      Breaking stage start after raised

theorem produces_bind {α β : Type} (stage : Stage) (first : Running F σ α)
    (next : α → Running F σ β) (begins : Produces stage first)
    (goes : ∀ value, Produces stage (next value)) : Produces stage (first >>= next) := by
  intro start held
  apply leaves_then (begins start held) (fun _ _ broken => broken)
  rintro value state ⟨went, staged⟩
  apply leaves_mono (goes value state staged)
  · rintro _ after ⟨further, own⟩
    exact ⟨went_trans start state after went further, own⟩
  · rintro raised after ⟨own, source, broke, kind, mine⟩
    exact ⟨own, source, went_broke source raised start state after went broke, kind, mine⟩

theorem produces_attempt {α : Type} (stage : Stage) (operation : σ → Except Failure α × σ) :
    Produces stage (attempt (.stage stage) operation : Running F σ α) := by
  intro start held
  apply leaves_mono (attempt_leaves start (.stage stage) operation)
  · rintro _ after ⟨world, -, rfl⟩
    exact ⟨went_same _ _ rfl, held⟩
  · rintro raised after ⟨world, rfl⟩
    exact breaking_of stage start _ (.stage stage) raised (by simp) (by simp) held rfl

theorem produces_raise {α : Type} (stage : Stage) (failure : Failure) :
    Produces stage (raise (.stage stage) failure : Running F σ α) :=
  fun start held => breaking_of stage start _ (.stage stage) failure (by simp) (by simp) held rfl

section

variable (stage : Stage)

theorem produces_write : Produces stage (writeRun ops) := by
  intro start held
  apply leaves_mono (write_run_leaves ops start)
  · rintro _ after ⟨world, rfl⟩
    refine ⟨⟨[.wrote], rfl, ?_⟩, held⟩
    intro event member
    rw [List.mem_singleton.mp member]
    rfl
  · rintro raised after ⟨world, persisted, rfl⟩
    exact breaking_of stage start _ .write raised (by simp) (by simp) held rfl

variable (expected : Json F) (upstream : Members F)

theorem produces_execute : Produces stage (execute ops stage expected upstream) := by
  unfold execute
  split
  · exact produces_raise stage _
  · rename_i executor _
    intro start held
    have noted : ∀ event : Event F σ, event.quiet = true → Produces stage (note event) :=
      fun event quiet start held => ⟨⟨[event], rfl, by simpa using quiet⟩, held⟩
    refine leaves_get ?_
    refine produces_bind stage _ _ (noted (.executed stage _ _) rfl) (fun _ => ?_) start held
    apply produces_bind stage _ _ (produces_attempt stage _)
    rintro (output | artifacts | _)
    · exact fun state staged => ⟨went_refl state, staged⟩
    · exact fun state staged => ⟨went_refl state, staged⟩
    · exact produces_raise stage _

theorem produces_publish (expected : Json F) (output : StageOutput F) :
    Produces stage (publishStage ops stage expected output) := by
  intro start held
  refine produces_bind stage _ _ (produces_attempt stage _) ?_ start held
  exact fun manifest state staged => ⟨went_same state _ rfl, has_stages_own _ _⟩

theorem produces_stage : Produces stage (produce ops stage expected upstream) := by
  apply produces_bind stage _ _ (produces_execute ops stage expected upstream)
  intro output
  apply produces_bind stage _ _ (produces_publish ops stage expected output)
  exact fun _ => produces_write ops stage

theorem has_stages_marked (error : AnalyzerError) (run : Members F)
    (held : HasStages run) : HasStages (markFailure stage error run) := by
  obtain ⟨members, found⟩ := held
  apply has_stages_set _ _ _ _ (by decide)
  apply has_stages_set _ _ _ _ (by decide)
  simp only [found]
  exact has_stages_own _ _

theorem stage_error_reached (failure raised : Failure) (error : AnalyzerError)
    (made : stageError stage failure = some (error, raised)) : Reached failure raised := by
  unfold stageError at made
  split at made
  · cases made
    exact .head _
  · cases made
    exact .tail _ (.head _)
  · cases made

theorem stage_marked (start state : RunState F σ) (failure : Failure)
    (breaking : Breaking stage start state failure) : Leaves (match stageError stage failure with
      | some (error, raised) => do
          modify fun state => { state with run := markFailure stage error state.run }
          throw raised
      | none => throw failure : Running F σ Unit) state
      (fun _ after => Went start after ∧ HasStages after.run) fun raised after =>
        Failing start after raised := by
  obtain ⟨staged, source, broke, kind, own⟩ := breaking
  cases found : stageError stage failure with
  | none =>
    refine ⟨staged, source, failure, broke, .head _, kind, ?_⟩
    intro name _ stays
    unfold stageError at found
    cases kinds : failure.thrown.kind with
    | analyzer error => simp [kinds] at found
    | ordinary typeName => simp [kinds] at found
    | exiting typeName => simp [kinds, ThrownKind.exits] at stays
  | some both =>
    obtain ⟨error, raised⟩ := both
    refine ⟨has_stages_marked stage error _ staged, source, failure, broke,
      stage_error_reached stage failure raised error found, kind, ?_⟩
    intro name same _
    obtain ⟨members, held⟩ := staged
    rw [own name same]
    exact ⟨mark_failure_failed stage error _ members held, mark_failure_status stage error _⟩

theorem proceeds_stage : Proceeds (runStage ops stage expected upstream) := by
  refine proceeds_bind _ _ (proceeds_modify _ (fun _ => rfl) fun _ _ => has_stages_own _ _) ?_
  intro _ start held
  apply leaves_catch _ _ start _ (fun raised after => Breaking stage start after raised) _
    (produces_stage ops stage expected upstream start held)
  exact fun failure state breaking => stage_marked stage start state failure breaking

end

theorem proceeds_preflight : Proceeds (runPreflight ops) := by
  unfold runPreflight
  split
  · exact proceeds_attempt _ _ (by simp) (by simp)
  · exact proceeds_pure _

variable [FloatText F]

theorem proceeds_hash (source : Source) (json : Json F) (kind : source ≠ .finalizer)
    (other : ∀ stage, source ≠ .stage stage) :
    Proceeds (canonicalHash settings ops source json) := by
  unfold canonicalHash
  split
  · exact proceeds_pure _
  · exact proceeds_raise _ _ kind other

theorem proceeds_artifacts (stage : Stage) (metadata : Members F) :
    Proceeds (artifactsStand settings ops stage metadata) := by
  unfold artifactsStand
  split
  · apply proceeds_bind _ _ (proceeds_hash settings ops _ _ (by simp) (by simp))
    intro hash
    split
    · exact proceeds_manifest settings ops stage _ _
    · exact proceeds_pure _
  · exact proceeds_pure _

theorem proceeds_reusable (stage : Stage) (expected : Json F) :
    Proceeds (reusable settings ops stage expected) := by
  apply proceeds_get
  intro state
  dsimp only
  split
  · exact proceeds_artifacts settings ops stage _
  · exact proceeds_pure _

theorem proceeds_reuse (stage : Stage) (expected : Json F) (upstream : Members F) :
    Proceeds (reuseOrRun settings ops stage expected upstream) := by
  apply proceeds_bind _ _ (proceeds_reusable settings ops stage expected)
  intro reused
  split
  · apply proceeds_get
    exact fun state => proceeds_note _ rfl
  · exact proceeds_stage ops stage expected upstream

theorem proceeds_loop (last : Stage) (rest : List Stage) (upstream : Members F) :
    Proceeds (stageLoop settings ops last rest upstream) := by
  induction rest generalizing upstream with
  | nil => exact proceeds_pure _
  | cons stage rest ih =>
    apply proceeds_bind _ _ (proceeds_reuse settings ops stage _ upstream)
    intro _
    apply proceeds_get
    intro state
    dsimp only
    split
    · exact proceeds_pure _
    · exact ih _

theorem proceeds_identity (previous : Option (Json F)) :
    Proceeds (keepIdentity settings ops previous) := by
  unfold keepIdentity
  split
  · split
    · exact proceeds_pure _
    · apply proceeds_bind _ _ (proceeds_hash settings ops _ _ (by simp) (by simp))
      intro hash
      exact proceeds_modify _ (fun _ => rfl) fun state held =>
        has_stages_set "previous_identity_hash" (.str hash) state.run held (by decide)
  · exact proceeds_pure _

end

section

variable {F σ : Type} (settings : Settings F) (ops : Operations F σ)

/-- A step of loading leaves the state, and where it raises has noted that and nothing else. -/
def Loads {α : Type} (program : Running F σ α) (done : α → Prop) : Prop :=
  ∀ start, Leaves program start (fun value after => after = start ∧ done value)
    fun raised after =>
      after = { start with events := start.events ++ [.failed .load raised] }

theorem loads_raise {α : Type} (failure : Failure) (done : α → Prop) :
    Loads (raise .load failure : Running F σ α) done := fun _ => rfl

theorem loads_run : Loads (loadRun settings ops) HasStages := by
  intro start
  refine leaves_get ?_
  split
  · exact ⟨rfl, _, rfl⟩
  · exact loads_raise _ _ start
  · exact loads_raise _ _ start
  · rename_i members _
    split
    · rename_i held
      refine ⟨rfl, ?_⟩
      unfold isObject at held
      split at held
      · rename_i own found
        exact ⟨own, found⟩
      · cases held
    · exact loads_raise _ _ start
  · exact loads_raise _ _ start

theorem loads_prior (names : List Stage) (prior : Members F) :
    Loads (loadPriorFrom ops names prior) fun _ => True := by
  induction names generalizing prior with
  | nil => exact fun start => ⟨rfl, trivial⟩
  | cons stage names ih =>
    intro start
    refine leaves_get ?_
    dsimp only
    split
    · split
      · exact ih _ start
      · exact ih _ start
    · exact loads_raise _ _ start
    · exact ih _ start

theorem loads_first : Loads (firstRun settings ops) HasStages := by
  unfold firstRun
  split
  · exact loads_run settings ops
  · exact fun start => ⟨rfl, _, rfl⟩

theorem begun_stages (run : Members F) (held : HasStages run) :
    HasStages (begun settings ops run) := by
  unfold begun
  simp only [List.foldl_cons, List.foldl_nil]
  repeat' apply has_stages_set _ _ _ _ (by decide)
  exact held

theorem load_leaves (start : RunState F σ) : Leaves (loadState settings ops) start
      (fun _ after => after.events = start.events ∧ HasStages after.run)
      fun raised after => after.run = start.run ∧
        after.events = start.events ++ [.failed .load raised] := by
  apply leaves_then (loads_prior ops stages [] start) (by rintro raised after rfl; exact ⟨rfl, rfl⟩)
  rintro prior state ⟨rfl, -⟩
  apply leaves_bind _ (leaves_modify state _ (fun _ after =>
    after = { state with prior := prior }) _ rfl)
  rintro _ _ rfl
  apply leaves_then (loads_first settings ops _) (by rintro raised after rfl; exact ⟨rfl, rfl⟩)
  rintro run _ ⟨rfl, held⟩
  exact ⟨rfl, begun_stages settings ops run held⟩

variable [FloatText F]

/-- What a run does until its handler: it went on, or broke off in loading or with its stages. -/
theorem staged_leaves (start : RunState F σ) (last : Stage) :
    Leaves (stagedRun settings ops last) start
      (fun _ after => Went start after ∧ HasStages after.run)
      fun raised after => Failing start after raised ∨
        (after.run = start.run ∧ after.events = start.events ++ [.failed .load raised]) := by
  apply leaves_then (load_leaves settings ops start) (fun raised after broken => Or.inr broken)
  rintro run state ⟨same, held⟩
  have rest : Proceeds (do
      writeRun ops
      runPreflight ops
      keepIdentity settings ops (field "identity" (.obj run))
      setRun "identity" (.obj settings.runIdentity)
      writeRun ops
      stageLoop settings ops last stages [] : Running F σ Unit) := by
    refine proceeds_bind _ _ (proceeds_write ops) fun _ => ?_
    refine proceeds_bind _ _ (proceeds_preflight ops) fun _ => ?_
    refine proceeds_bind _ _ (proceeds_identity settings ops _) fun _ => ?_
    refine proceeds_bind _ _ (proceeds_modify _ (fun _ => rfl) fun state held =>
      has_stages_set _ _ state.run held (by decide)) fun _ => ?_
    refine proceeds_bind _ _ (proceeds_write ops) fun _ => ?_
    exact proceeds_loop settings ops last stages []
  apply leaves_mono (rest state held)
  · rintro _ after ⟨went, staged⟩
    exact ⟨went_trans start state after (went_same start state same) went, staged⟩
  · exact fun raised after failing => Or.inl
      (failing_after start state after raised (went_same start state same) failing)

end

section

variable {F σ : Type}

theorem failures_append (front back : List (Event F σ)) :
    failures (front ++ back) = failures front ++ failures back := List.filterMap_append

theorem finalizations_append (front back : List (Event F σ)) :
    finalizations (front ++ back) = finalizations front + finalizations back := List.countP_append

theorem quiet_failures (events : List (Event F σ)) (quiet : ∀ event ∈ events, event.quiet = true) :
    failures events = [] ∧ finalizations events = 0 := by
  constructor
  · rw [failures, List.filterMap_eq_nil_iff]
    intro event member
    have own := quiet event member
    cases event <;> simp_all [Event.quiet]
  · rw [finalizations, List.countP_eq_zero]
    intro event member
    have own := quiet event member
    cases event <;> simp_all [Event.quiet]

theorem last_write_after (events : List (Event F σ)) (event : Event F σ) :
    lastWrite (events ++ [event]) = match event with
      | .wrote => some true
      | .failed .write _ => some false
      | _ => lastWrite events := by
  unfold lastWrite
  rw [List.filterMap_append]
  rcases event with _ | _ | ⟨source, failure⟩ | _ | _
  · simp
  · simp
  · cases source <;> simp
  · simp
  · simp

/-- The failures of a run before its handler: none, or one that the raised failure reaches. -/
def Originals : Option Failure → List (Source × Failure) → Prop
  | none, originals => originals = []
  | some raised, originals => ∃ source original, originals = [(source, original)] ∧
      Reached original raised ∧ source ≠ .finalizer

def writeFailures (failure : Option Failure) : List (Source × Failure) :=
  (failure.map (Prod.mk Source.write)).toList

def Finals : Option Failure → List (Source × Failure) → Prop
  | none, finals => finals = []
  | some raised, finals => ∃ failure, finals = [(.finalizer, failure)] ∧
      raised = finalizationFailure failure

variable (settings : Settings F) (ops : Operations F σ)

def MarkedStages (originals : List (Source × Failure)) (run : Members F) : Prop :=
  ∀ stage original, (Source.stage stage, original) ∈ originals →
    original.thrown.kind.exits = false → StageFailed stage run

structure StagesRun (failure : Option Failure) (originals : List (Source × Failure))
    (state : RunState F σ) : Prop where
  original : Originals failure originals
  failed : failures state.events = originals
  unfinalized : finalizations state.events = 0
  begun : failure = none → recorded state = true
  marked : MarkedStages originals state.run
  unwritten : recorded state = false → lastWrite state.events = none

theorem recorded_stages (state : RunState F σ) (held : HasStages state.run) :
    recorded state = true := by
  obtain ⟨members, found⟩ := held
  unfold recorded
  cases run : state.run with
  | nil =>
    rw [run] at found
    cases found
  | cons => rfl

theorem staged_failing (start after : RunState F σ) (fresh : start.events = [])
    (raised : Failure) (failing : Failing start after raised) :
    ∃ originals, StagesRun (some raised) originals after := by
  obtain ⟨staged, source, original, ⟨more, events, quiet⟩, reached, kind, marked⟩ := failing
  obtain ⟨none_, zero⟩ := quiet_failures more quiet
  have failed : failures after.events = [(source, original)] := by
    rw [events, fresh, List.nil_append, failures_append, none_]
    rfl
  refine ⟨[(source, original)], ⟨source, original, rfl, reached, kind⟩, failed, ?_, ?_, ?_, ?_⟩
  · rw [events, fresh, List.nil_append, finalizations_append, zero]
    rfl
  · exact fun none_ => absurd none_ (Option.some_ne_none _)
  · intro stage other member stays
    obtain ⟨rfl, rfl⟩ := Prod.mk.inj (List.mem_singleton.mp member)
    exact (marked stage rfl stays).1
  · intro bare
    rw [recorded_stages after staged] at bare
    cases bare

/-- What stands of a run after its handler: a failed one is marked and written. -/
structure Kept (failure failureWrite : Option Failure) (originals : List (Source × Failure))
    (state : RunState F σ) : Prop where
  begun : failure = none → recorded state = true
  writes : failureWrite.isSome = true → failure.isSome = true ∧ recorded state = true
  marked : MarkedStages originals state.run
  status : failure.isSome = true → recorded state = true →
    hasText "status" "failed" (.obj state.run) = true
  unwritten : recorded state = false → lastWrite state.events = none
  written : failure.isSome = true → recorded state = true →
    lastWrite state.events = some failureWrite.isNone ∧
      (failureWrite = none → state.persisted = some state.run)

structure Handled (failure failureWrite : Option Failure) (originals : List (Source × Failure))
    (state : RunState F σ) : Prop where
  original : Originals failure originals
  failed : failures state.events = originals ++ writeFailures failureWrite
  unfinalized : finalizations state.events = 0
  kept : Kept failure failureWrite originals state

theorem kept_same (failure failureWrite : Option Failure) (originals : List (Source × Failure))
    (state after : RunState F σ) (kept : Kept failure failureWrite originals state)
    (run : after.run = state.run) (persisted : after.persisted = state.persisted)
    (last : lastWrite after.events = lastWrite state.events) :
    Kept failure failureWrite originals after := by
  have same : recorded after = recorded state := by
    unfold recorded
    rw [run]
  constructor
  · rw [same]
    exact kept.begun
  · rw [same]
    exact kept.writes
  · rw [run]
    exact kept.marked
  · rw [same, run]
    exact kept.status
  · rw [same, last]
    exact kept.unwritten
  · rw [same, last, run, persisted]
    exact kept.written

theorem marked_run_status (failure : Failure) (run : Members F) :
    hasText "status" "failed" (.obj (markedRun ops failure run)) = true := by
  unfold markedRun
  split
  · assumption
  · exact mark_run_status _ _ _

theorem marked_run_stages (failure : Failure) (run : Members F) :
    runStages (markedRun ops failure run) = runStages run := by
  unfold markedRun
  split
  · rfl
  · exact mark_run_stages _ _ _

theorem marked_stages_same (originals : List (Source × Failure))
    (run other : Members F) (same : runStages other = runStages run)
    (marked : MarkedStages originals run) : MarkedStages originals other :=
  fun stage original member stays =>
    stage_failed_same stage run other same (marked stage original member stays)

theorem recorded_status (state : RunState F σ)
    (status : hasText "status" "failed" (.obj state.run) = true) : recorded state = true := by
  unfold recorded
  cases run : state.run with
  | nil =>
    rw [run] at status
    cases status
  | cons => rfl

theorem outcome_write (start : RunState F σ) : Leaves (outcomeOf (writeRun ops)) start
      (fun failure after => ∃ world persisted, after = { start with
        world := world, persisted := persisted, events := start.events ++
          [match failure with
            | none => .wrote
            | some failure => .failed .write failure] } ∧
        (failure = none → persisted = some start.run)) fun _ _ => False := by
  unfold outcomeOf
  apply leaves_catch _ _ start _ (fun raised after => ∃ world persisted, after = { start with
    world := world, persisted := persisted, events := start.events ++ [.failed .write raised] })
  · apply leaves_bind _ (write_run_leaves ops start)
    rintro _ after ⟨world, rfl⟩
    exact ⟨world, _, rfl, fun _ => rfl⟩
  · rintro raised state ⟨world, persisted, rfl⟩
    exact ⟨world, persisted, rfl, fun none_ => absurd none_ (Option.some_ne_none _)⟩

theorem write_counts (events : List (Event F σ)) (failure : Option Failure) (event : Event F σ)
    (own : event = match failure with
      | none => .wrote
      | some failure => .failed .write failure) :
    failures (events ++ [event]) = failures events ++ writeFailures failure ∧
      finalizations (events ++ [event]) = finalizations events ∧
      lastWrite (events ++ [event]) = some failure.isNone := by
  subst own
  rw [failures_append, finalizations_append, last_write_after]
  cases failure with
  | none => exact ⟨rfl, rfl, rfl⟩
  | some failure => exact ⟨rfl, rfl, rfl⟩

theorem keep_leaves (failure : Option Failure) (originals : List (Source × Failure))
    (start : RunState F σ) (staged : StagesRun failure originals start) :
    Leaves (keepFailure ops failure) start
      (fun failureWrite after => Handled failure failureWrite originals after)
      fun _ _ => False := by
  cases failure with
  | none =>
    exact ⟨staged.original, by rw [staged.failed]; exact (List.append_nil _).symm,
      staged.unfinalized, staged.begun, by simp, staged.marked, by simp, staged.unwritten, by simp⟩
  | some failure =>
    refine leaves_get ?_
    split
    · rename_i held
      apply leaves_bind _ (leaves_modify start _ (fun _ after =>
        after = { start with run := markedRun ops failure start.run }) _ rfl)
      rintro _ _ rfl
      apply leaves_mono (outcome_write ops _) _ (fun _ _ absurd_ => absurd_)
      rintro failureWrite after ⟨world, persisted, rfl, kept⟩
      obtain ⟨failed, finals, last⟩ := write_counts start.events failureWrite _ rfl
      have status := marked_run_status ops failure start.run
      refine ⟨staged.original, ?_, ?_, by simp, ?_, ?_, fun _ _ => status, ?_, fun _ _ => ?_⟩
      · exact failed.trans (by rw [staged.failed])
      · exact finals.trans staged.unfinalized
      · exact fun _ => ⟨rfl, recorded_status _ status⟩
      · exact marked_stages_same originals start.run _ (marked_run_stages ops failure start.run)
          staged.marked
      · intro bare
        rw [recorded_status _ status] at bare
        cases bare
      · exact ⟨last, kept⟩
    · rename_i bare
      rw [Bool.not_eq_true] at bare
      have none_ : ∀ {P : Prop}, recorded start = true → P := by
        intro P held
        rw [bare] at held
        cases held
      exact ⟨staged.original, by rw [staged.failed]; exact (List.append_nil _).symm,
        staged.unfinalized, staged.begun, by simp, staged.marked, fun _ => none_,
        staged.unwritten, fun _ => none_⟩

variable [FloatText F]

theorem outcome_staged (start : RunState F σ) (fresh : start.events = []) (last : Stage) :
    Leaves (outcomeOf (stagedRun settings ops last)) start
      (fun failure after => ∃ originals, StagesRun failure originals after) fun _ _ => False := by
  have leaves := staged_leaves settings ops start last
  unfold outcomeOf
  apply leaves_catch _ _ start _ (fun raised after => Failing start after raised ∨
    (after.run = start.run ∧ after.events = start.events ++ [.failed .load raised]))
  · apply leaves_bind _ leaves
    rintro _ state ⟨⟨more, events, quiet⟩, held⟩
    obtain ⟨none_, zero⟩ := quiet_failures more quiet
    rw [fresh, List.nil_append] at events
    refine ⟨[], rfl, by rw [events, none_], by rw [events, zero], ?_, ?_, ?_⟩
    · exact fun _ => recorded_stages state held
    · nofun
    · intro bare
      rw [recorded_stages state held] at bare
      cases bare
  · rintro raised state (failing | ⟨same, events⟩)
    · exact staged_failing start state fresh raised failing
    · rw [fresh, List.nil_append] at events
      refine ⟨[(.load, raised)], ⟨.load, raised, rfl, .head _, by simp⟩, ?_, ?_, ?_, ?_, ?_⟩
      · rw [events]
        rfl
      · rw [events]
        rfl
      · exact fun none_ => absurd none_ (Option.some_ne_none _)
      · intro stage original member
        cases (Prod.mk.inj (List.mem_singleton.mp member)).1
      · intro _
        rw [events]
        rfl

end

section

variable {F σ : Type} (ops : Operations F σ)

structure Finalized (failure failureWrite finalization : Option Failure)
    (originals finals : List (Source × Failure)) (state : RunState F σ) : Prop where
  original : Originals failure originals
  final : Finals finalization finals
  failed : failures state.events = originals ++ writeFailures failureWrite ++ finals
  counted : finalizations state.events = if ops.finalizer.isSome then 1 else 0
  kept : Kept failure failureWrite originals state

theorem finalize_leaves (failure failureWrite : Option Failure)
    (originals : List (Source × Failure)) (start : RunState F σ)
    (handled : Handled failure failureWrite originals start) : Leaves (finalize ops) start
      (fun finalization after => ∃ finals,
        Finalized ops failure failureWrite finalization originals finals after)
      fun _ _ => False := by
  unfold finalize
  cases found : ops.finalizer with
  | none =>
    refine ⟨[], handled.original, rfl, ?_, ?_, handled.kept⟩
    · rw [handled.failed, List.append_nil]
    · rw [handled.unfinalized, found]
      rfl
  | some finalizer =>
    apply leaves_bind _ (note_leaves start .finalized fun _ _ => False)
    rintro _ _ rfl
    have body : Leaves (outcomeOf (attempt .finalizer finalizer : Running F σ Unit))
        { start with events := start.events ++ [.finalized] }
        (fun failed after => ∃ world, after = { start with
          world := world
          events := start.events ++ [.finalized] ++ (failed.map (Event.failed .finalizer)).toList })
        fun _ _ => False := by
      unfold outcomeOf
      apply leaves_catch _ _ _ _ (fun raised after => ∃ world, after = { start with
        world := world
        events := start.events ++ [.finalized] ++ [.failed .finalizer raised] })
      · apply leaves_bind _ (attempt_leaves _ .finalizer finalizer)
        rintro _ after ⟨world, -, rfl⟩
        exact ⟨world, by rw [Option.map_none, Option.toList_none, List.append_nil]⟩
      · rintro raised after ⟨world, rfl⟩
        exact ⟨world, rfl⟩
    apply leaves_bind _ body
    rintro failed _ ⟨world, rfl⟩
    have one : ops.finalizer.isSome = true := by rw [found]; rfl
    have last : lastWrite (start.events ++ [.finalized]) = lastWrite start.events :=
      last_write_after start.events .finalized
    cases failed with
    | none =>
      refine ⟨[], handled.original, rfl, ?_, ?_, kept_same _ _ _ start _ handled.kept rfl rfl ?_⟩
      · simp only [Option.map_none, Option.toList_none, List.append_nil]
        rw [failures_append, handled.failed]
        exact List.append_nil _
      · simp only [Option.map_none, Option.toList_none, List.append_nil]
        rw [finalizations_append, handled.unfinalized, one]
        rfl
      · simp only [Option.map_none, Option.toList_none, List.append_nil]
        exact last
    | some failed =>
      refine ⟨[(.finalizer, failed)], handled.original, ⟨failed, rfl, rfl⟩, ?_, ?_,
        kept_same _ _ _ start _ handled.kept rfl rfl ?_⟩
      · rw [failures_append, failures_append, handled.failed]
        simp only [List.append_assoc]
        rfl
      · rw [finalizations_append, finalizations_append, handled.unfinalized, one]
        rfl
      · exact (last_write_after _ _).trans last

/-- A run before it ends: what failed, and what a write that succeeded last has kept. -/
structure Settled (failure failureWrite finalization retry : Option Failure)
    (originals finals : List (Source × Failure)) (state : RunState F σ) : Prop where
  original : Originals failure originals
  final : Finals finalization finals
  failed : failures state.events =
    originals ++ writeFailures failureWrite ++ finals ++ writeFailures retry
  counted : finalizations state.events = if ops.finalizer.isSome then 1 else 0
  begun : failure = none → recorded state = true
  marked : MarkedStages originals state.run
  writes : failureWrite.isSome = true → failure.isSome = true
  retried : retry.isSome = true → finalization.isSome = true ∨ failureWrite.isSome = true
  ended : failure.isSome = true ∨ finalization.isSome = true → lastWrite state.events = some true →
    state.persisted = some state.run ∧ hasText "status" "failed" (.obj state.run) = true

theorem finalized_run_stages (finalization : Option Failure) (run : Members F) :
    runStages (finalizedRun ops finalization run) = runStages run := by
  cases finalization with
  | none => rfl
  | some failure => exact mark_run_stages _ _ _

theorem retry_leaves (failure failureWrite finalization : Option Failure)
    (originals finals : List (Source × Failure)) (start : RunState F σ)
    (finalized : Finalized ops failure failureWrite finalization originals finals start) :
    Leaves (retryWrite ops finalization failureWrite) start (fun retry after =>
        Settled ops failure failureWrite finalization retry originals finals after)
      fun _ _ => False := by
  have kept := finalized.kept
  refine leaves_get ?_
  split
  · rename_i again
    rw [Bool.and_eq_true, Bool.or_eq_true] at again
    apply leaves_bind _ (leaves_modify start _ (fun _ after =>
      after = { start with run := finalizedRun ops finalization start.run }) _ rfl)
    rintro _ _ rfl
    apply leaves_mono (outcome_write ops _) _ (fun _ _ absurd_ => absurd_)
    rintro retry after ⟨world, persisted, rfl, wrote⟩
    obtain ⟨failed, counted, last⟩ := write_counts start.events retry _ rfl
    have status : hasText "status" "failed" (.obj (finalizedRun ops finalization start.run)) =
        true := by
      cases finalization with
      | some failure => exact mark_run_status _ _ _
      | none =>
        have both := kept.writes (again.2.resolve_left (by simp))
        exact kept.status both.1 both.2
    have still :=
      recorded_status { start with run := finalizedRun ops finalization start.run } status
    refine ⟨finalized.original, finalized.final, ?_, ?_, fun _ => still, ?_,
      fun own => (kept.writes own).1, fun _ => again.2, ?_⟩
    · exact failed.trans (by rw [finalized.failed])
    · exact counted.trans finalized.counted
    · exact marked_stages_same originals start.run _
        (finalized_run_stages ops finalization start.run) kept.marked
    · intro _ own
      refine ⟨wrote ?_, status⟩
      rw [show lastWrite _ = _ from last] at own
      exact Option.isNone_iff_eq_none.mp (Option.some.inj own)
  · rename_i stays
    rw [Bool.not_eq_true, Bool.and_eq_false_iff, Bool.or_eq_false_iff] at stays
    refine ⟨finalized.original, finalized.final, ?_, finalized.counted, kept.begun, kept.marked,
      fun own => (kept.writes own).1, by simp, ?_⟩
    · exact finalized.failed.trans (List.append_nil _).symm
    · intro some_ own
      rcases stays with bare | ⟨none_, unfailed⟩
      · rw [kept.unwritten bare] at own
        cases own
      · have failed := some_.resolve_right (by rw [none_]; simp)
        by_cases held : recorded start = true
        · have written := kept.written failed held
          exact ⟨written.2 (Option.not_isSome_iff_eq_none.mp (by rw [unfailed]; simp)),
            kept.status failed held⟩
        · rw [kept.unwritten (by simpa using held)] at own
          cases own

end

section

variable {F σ : Type}

/-- A run returns where nothing failed, and has written that it is completed. -/
structure EndsReturned (run : Members F) (state : RunState F σ) : Prop where
  failed : failures state.events = []
  persisted : state.persisted = some run
  status : hasText "status" "completed" (.obj run) = true

/-- How a run raises: what it has written, the stages it has marked, and which failure it is. -/
structure EndsRaised (raised : Failure) (state : RunState F σ) : Prop where
  failed : failures state.events ≠ []
  persisted : lastWrite state.events = some true →
    state.persisted = some state.run ∧ hasText "status" "failed" (.obj state.run) = true
  marked : MarkedStages (failures state.events) state.run
  finalizer : ∀ failure, (Source.finalizer, failure) ∈ failures state.events →
    raised.thrown = (finalizationFailure failure).thrown ∧
      ∀ source original, (failures state.events).head? = some (source, original) →
        source ≠ .finalizer → original.thrown ∈ raised.causes
  write : (∀ failure, (Source.finalizer, failure) ∉ failures state.events) →
    ∀ failure, (Source.write, failure) ∈ (failures state.events).tail →
      ∃ other, (Source.write, other) ∈ (failures state.events).tail ∧ raised.thrown = other.thrown
  original : (∀ failure, (Source.finalizer, failure) ∉ failures state.events) →
    ∀ source original, (failures state.events).head? = some (source, original) →
      Reached original raised

theorem originals_kinds (failure : Option Failure) (originals : List (Source × Failure))
    (held : Originals failure originals) (own : Failure) : (Source.finalizer, own) ∉ originals := by
  intro member
  cases failure with
  | none =>
    rw [show originals = [] from held] at member
    cases member
  | some raised =>
    obtain ⟨source, original, rfl, -, kind⟩ := held
    exact kind (Prod.mk.inj (List.mem_singleton.mp member)).1.symm

theorem mem_writes (failure : Option Failure) (source : Source) (own : Failure) :
    (source, own) ∈ writeFailures failure ↔ source = .write ∧ failure = some own := by
  cases failure with
  | none => simp [writeFailures]
  | some other =>
    simp only [writeFailures, Option.map_some, Option.toList_some, List.mem_singleton,
      Prod.mk.injEq, Option.some.injEq]
    exact and_congr_right fun _ => eq_comm

theorem chained_thrown (write : Failure) (failure : Option Failure) :
    (chained write failure).thrown = write.thrown := by
  unfold chained
  split
  · split
    · exact Eq.symm ‹_›
    · rfl
  · rfl

theorem chained_reached (write raised original : Failure) (reached : Reached original raised) :
    Reached original (chained write (some raised)) := by
  unfold chained
  dsimp only
  split
  · exact reached
  · exact .tail _ reached

theorem raised_none (failure write finalization : Option Failure)
    (none_ : raisedFailure failure write finalization = none) :
    failure = none ∧ write = none ∧ finalization = none := by
  cases failure <;> cases write <;> cases finalization <;> simp_all [raisedFailure]

variable (ops : Operations F σ)

section

variable (failure failureWrite finalization retry : Option Failure)
  (originals finals : List (Source × Failure)) (state : RunState F σ)
  (settled : Settled ops failure failureWrite finalization retry originals finals state)

include failure failureWrite finalization retry originals finals settled

theorem settled_finalizer (own : Failure)
    (member : (Source.finalizer, own) ∈ failures state.events) :
    finals = [(.finalizer, own)] ∧ finalization = some (finalizationFailure own) := by
  rw [settled.failed, List.mem_append, List.mem_append, List.mem_append, mem_writes,
    mem_writes] at member
  have inside : (Source.finalizer, own) ∈ finals := by
    rcases member with ((early | ⟨same, -⟩) | here) | ⟨same, -⟩
    · exact absurd early (originals_kinds failure originals settled.original own)
    · cases same
    · exact here
    · cases same
  cases finalization with
  | none =>
    rw [show finals = [] from settled.final] at inside
    cases inside
  | some raised =>
    obtain ⟨other, rfl, rfl⟩ := settled.final
    obtain ⟨-, rfl⟩ := Prod.mk.inj (List.mem_singleton.mp inside)
    exact ⟨rfl, rfl⟩

theorem settled_marked : MarkedStages (failures state.events) state.run := by
  intro stage original member stays
  apply settled.marked stage original _ stays
  rw [settled.failed, List.mem_append, List.mem_append, List.mem_append, mem_writes,
    mem_writes] at member
  rcases member with ((early | ⟨same, -⟩) | here) | ⟨same, -⟩
  · exact early
  · cases same
  · have final := settled.final
    cases finalization with
    | none =>
      rw [show finals = [] from final] at here
      cases here
    | some raised =>
      obtain ⟨other, rfl, -⟩ := final
      cases (Prod.mk.inj (List.mem_singleton.mp here)).1
  · cases same

end

theorem final_raised (failure write : Option Failure) (final raised : Failure)
    (own : raisedFailure failure write (some final) = some raised) :
    raised.thrown = final.thrown ∧ ∀ cause original, failure = some cause →
      Reached original cause → original.thrown ∈ raised.causes := by
  cases write with
  | some write =>
    have same := Option.some.inj own
    rw [← same]
    refine ⟨rfl, ?_⟩
    rintro cause original rfl reached
    exact chained_reached write cause original reached
  | none =>
    cases failure with
    | none =>
      have same := Option.some.inj own
      rw [← same]
      exact ⟨rfl, fun cause original none_ => absurd none_.symm (Option.some_ne_none cause)⟩
    | some failure =>
      have same := Option.some.inj own
      rw [← same]
      refine ⟨rfl, ?_⟩
      rintro cause original held reached
      rw [Option.some.inj held]
      exact reached

theorem settled_finally (failure failureWrite retry : Option Failure) (final : Failure)
    (originals finals : List (Source × Failure)) (state : RunState F σ)
    (settled : Settled ops failure failureWrite (some final) retry originals finals state)
    (raised : Failure)
    (own : raisedFailure failure (retry.or failureWrite) (some final) = some raised) :
    EndsRaised raised state := by
  obtain ⟨thrown, caused⟩ := final_raised failure _ final raised own
  obtain ⟨last, rfl, -⟩ := settled.final
  have member : (Source.finalizer, last) ∈ failures state.events := by
    rw [settled.failed]
    simp
  refine ⟨List.ne_nil_of_mem member, settled.ended (Or.inr rfl),
    settled_marked ops _ _ _ _ _ _ state settled, ?_, fun none_ => absurd member (none_ last),
    fun none_ => absurd member (none_ last)⟩
  intro other inside
  obtain ⟨-, same⟩ := settled_finalizer ops _ _ _ _ _ _ state settled other inside
  refine ⟨by rw [thrown, Option.some.inj same], ?_⟩
  intro source original head kind
  have originals_ := settled.original
  rw [settled.failed] at head
  cases failure with
  | none =>
    have quiet : failureWrite = none := Option.not_isSome_iff_eq_none.mp fun some_ =>
      absurd (settled.writes some_) (by simp)
    rw [show originals = [] from originals_, quiet] at head
    exact absurd (Prod.mk.inj (Option.some.inj head)).1.symm kind
  | some cause =>
    obtain ⟨first, held, rfl, reached, -⟩ := originals_
    obtain ⟨-, rfl⟩ := Prod.mk.inj (Option.some.inj head)
    exact caused cause held rfl reached

theorem settled_plainly (failure failureWrite retry : Option Failure)
    (originals finals : List (Source × Failure)) (state : RunState F σ)
    (settled : Settled ops failure failureWrite none retry originals finals state)
    (raised : Failure) (own : raisedFailure failure (retry.or failureWrite) none = some raised) :
    EndsRaised raised state := by
  have some_ : failure.isSome = true := by
    by_contra none_
    have quiet : failureWrite = none := Option.not_isSome_iff_eq_none.mp fun some_ =>
      none_ (settled.writes some_)
    have still : retry = none := Option.not_isSome_iff_eq_none.mp fun some_ => by
      rcases settled.retried some_ with final | write
      · cases final
      · rw [quiet] at write
        cases write
    rw [Option.not_isSome_iff_eq_none.mp none_, quiet, still] at own
    cases own
  obtain ⟨cause, rfl⟩ := Option.isSome_iff_exists.mp some_
  obtain ⟨source, original, rfl, reached, -⟩ := settled.original
  have listed : failures state.events =
      (source, original) :: (writeFailures failureWrite ++ writeFailures retry) := by
    rw [settled.failed, show finals = [] from settled.final, List.append_nil]
    rfl
  refine ⟨by rw [listed]; exact List.cons_ne_nil _ _, settled.ended (Or.inl rfl),
    settled_marked ops _ _ _ _ _ _ state settled, ?_, fun _ failure member => ?_,
    fun _ other held head => ?_⟩
  · intro failure member
    have absurd_ := (settled_finalizer ops _ _ _ _ _ _ state settled failure member).2
    cases absurd_
  · rw [listed, List.tail_cons] at member ⊢
    cases write : retry.or failureWrite with
    | none =>
      obtain ⟨still, quiet⟩ := Option.or_eq_none_iff.mp write
      rw [still, quiet] at member
      cases member
    | some last =>
      rw [write] at own
      refine ⟨last, ?_, ?_⟩
      · rw [List.mem_append, mem_writes, mem_writes]
        rcases Option.or_eq_some_iff.mp write with again | ⟨-, once⟩
        · exact Or.inr ⟨rfl, again⟩
        · exact Or.inl ⟨rfl, once⟩
      · rw [← Option.some.inj own]
        exact chained_thrown last _
  · rw [listed] at head
    obtain ⟨-, rfl⟩ := Prod.mk.inj (Option.some.inj head)
    cases write : retry.or failureWrite with
    | none =>
      rw [write] at own
      rw [← Option.some.inj own]
      exact reached
    | some last =>
      rw [write] at own
      rw [← Option.some.inj own]
      exact chained_reached last cause original reached

end

variable {F σ : Type} (settings : Settings F) (ops : Operations F σ)

theorem conclude_leaves (failure failureWrite finalization retry : Option Failure)
    (originals finals : List (Source × Failure)) (start : RunState F σ)
    (settled : Settled ops failure failureWrite finalization retry originals finals start) :
    Leaves (concludeRun ops (raisedFailure failure (retry.or failureWrite) finalization)) start
      (fun run after => EndsReturned run after ∧
        finalizations after.events = if ops.finalizer.isSome then 1 else 0)
      fun raised after => EndsRaised raised after ∧
        finalizations after.events = if ops.finalizer.isSome then 1 else 0 := by
  cases found : raisedFailure failure (retry.or failureWrite) finalization with
  | some raised =>
    refine ⟨?_, settled.counted⟩
    cases finalization with
    | some final =>
      exact settled_finally ops failure failureWrite retry final originals finals start settled
        raised found
    | none =>
      exact settled_plainly ops failure failureWrite retry originals finals start settled raised
        found
  | none =>
    obtain ⟨rfl, write, rfl⟩ := raised_none _ _ _ found
    obtain ⟨rfl, rfl⟩ := Option.or_eq_none_iff.mp write
    have quiet : failures start.events = [] := by
      rw [settled.failed, show originals = [] from settled.original,
        show finals = [] from settled.final]
      rfl
    unfold concludeRun
    apply leaves_bind _ (leaves_modify start _ (fun _ after => after = { start with
      run := setMember "ended_at" (.float ops.clock.endedAt) (setMember "error" .null
        (setMember "status" (.str "completed") start.run)) }) _ rfl)
    rintro _ _ rfl
    apply leaves_then (write_run_leaves ops _) ?_
    · rintro _ _ ⟨world, rfl⟩
      refine ⟨⟨?_, rfl, ?_⟩, ?_⟩
      · exact (failures_append _ _).trans (by rw [quiet]; rfl)
      · rw [hasText, field_set, if_neg (by decide), field_set, if_neg (by decide), field_set,
          if_pos rfl]
        exact beq_self_eq_true _
      · exact (finalizations_append _ _).trans settled.counted
    · rintro raised _ ⟨world, persisted, rfl⟩
      have listed : failures (start.events ++ [Event.failed .write raised]) =
          [(Source.write, raised)] := by
        rw [failures_append, quiet]
        rfl
      have last : lastWrite (start.events ++ [Event.failed .write raised]) = some false :=
        last_write_after _ _
      refine ⟨⟨?_, ?_, ?_, ?_, ?_, ?_⟩, (finalizations_append _ _).trans settled.counted⟩
      · exact listed ▸ List.cons_ne_nil _ _
      · intro own
        rw [show lastWrite _ = _ from last] at own
        cases own
      · intro stage original member
        rw [show failures _ = _ from listed] at member
        cases (Prod.mk.inj (List.mem_singleton.mp member)).1
      · intro failure member
        rw [show failures _ = _ from listed] at member
        cases (Prod.mk.inj (List.mem_singleton.mp member)).1
      · intro _ failure member
        rw [show failures _ = _ from listed] at member
        cases member
      · intro _ source original head
        rw [show failures _ = _ from listed] at head
        obtain ⟨-, rfl⟩ := Prod.mk.inj (Option.some.inj head)
        exact .head _

variable [FloatText F]

/-- A run of the pipeline calls its finalizer once. It returns only where nothing failed, and has
then written that it is completed. Where it raises behind a write that succeeded, it has written
that it failed, with the stage that failed; the finalizer's failure is raised before that of a
write, and that of a write before the one that came first, which stays among the causes. -/
theorem run_fails_in_order (world : σ) (run prior : Members F)
    (persisted : Option (Members F)) (last : Stage) : Leaves (runPipeline settings ops last)
      { world := world, run := run, prior := prior, persisted := persisted }
      (fun run after => EndsReturned run after ∧
        finalizations after.events = if ops.finalizer.isSome then 1 else 0)
      fun raised after => EndsRaised raised after ∧
        finalizations after.events = if ops.finalizer.isSome then 1 else 0 := by
  apply leaves_bind _ (leaves_mono (outcome_staged settings ops _ rfl last)
    (fun _ _ staged => staged) fun _ _ absurd_ => absurd_.elim)
  rintro failure state ⟨originals, staged⟩
  apply leaves_bind _ (leaves_mono
    (keep_leaves ops failure originals state staged) (fun _ _ handled => handled)
    fun _ _ absurd_ => absurd_.elim)
  intro failureWrite kept handled
  apply leaves_bind _ (leaves_mono
    (finalize_leaves ops failure failureWrite originals kept handled)
    (fun _ _ finalized => finalized) fun _ _ absurd_ => absurd_.elim)
  rintro finalization final ⟨finals, finalized⟩
  apply leaves_bind _ (leaves_mono
    (retry_leaves ops failure failureWrite finalization originals finals final finalized)
    (fun _ _ settled => settled) fun _ _ absurd_ => absurd_.elim)
  intro retry ended settled
  exact conclude_leaves ops failure failureWrite finalization retry originals finals ended settled

end DosWeb.Pipeline
