import DosWeb.Pipeline.Fidelity
import DosWeb.Pipeline.RunFailures

/-!
Which stages a run of the pipeline passes over and what for, and what the stages that it executes
leave.
-/

namespace DosWeb.Pipeline

open Artifacts Identifiers Library Library.JsonValue Library.JsonText Library.Steps

section

variable {F σ : Type}

/-- The stages that a run decided on, and whether it called their executors. -/
def decisions (events : List (Event F σ)) : List (Stage × Bool) :=
  events.filterMap fun event =>
    match event with
    | .skipped stage _ _ => some (stage, false)
    | .executed stage _ _ => some (stage, true)
    | _ => none

theorem decisions_append (front back : List (Event F σ)) :
    decisions (front ++ back) = decisions front ++ decisions back := List.filterMap_append

theorem skipped_decided (events : List (Event F σ)) {stage : Stage} {run : Members F} {world : σ}
    (member : .skipped stage run world ∈ events) : (stage, false) ∈ decisions events :=
  List.mem_filterMap.mpr ⟨_, member, rfl⟩

def Took (before after : RunState F σ) (taken : List (Stage × Bool)) : Prop :=
  ∃ more, after.events = before.events ++ more ∧ decisions more = taken

/-- No stage is decided on, and the records of all stay. -/
def Apart (before after : RunState F σ) : Prop :=
  runStages after.run = runStages before.run ∧ Took before after []

def Silent {α : Type} (program : Running F σ α) : Prop :=
  ∀ start, Leaves program start (fun _ after => Apart start after) fun _ after => Apart start after

theorem took_trans (first second third : RunState F σ) (front back : List (Stage × Bool))
    (one : Took first second front) (two : Took second third back) :
    Took first third (front ++ back) := by
  obtain ⟨begins, goes, taken⟩ := one
  obtain ⟨rest, ends_, further⟩ := two
  exact ⟨begins ++ rest, by rw [ends_, goes, List.append_assoc],
    by rw [decisions_append, taken, further]⟩

theorem apart_same (before after : RunState F σ) (same : after.events = before.events)
    (kept : runStages after.run = runStages before.run) : Apart before after :=
  ⟨kept, [], by rw [same, List.append_nil], rfl⟩

theorem apart_trans (first second third : RunState F σ) (one : Apart first second)
    (two : Apart second third) : Apart first third :=
  ⟨two.1.trans one.1, took_trans first second third [] [] one.2 two.2⟩

theorem silent_pure {α : Type} (value : α) : Silent (pure value : Running F σ α) :=
  fun start => apart_same start start rfl rfl

theorem silent_bind {α β : Type} (first : Running F σ α) (next : α → Running F σ β)
    (begins : Silent first) (goes : ∀ value, Silent (next value)) : Silent (first >>= next) := by
  intro start
  have both : ∀ value state, Apart start state → Leaves (next value) state
      (fun _ after => Apart start after) fun _ after => Apart start after := by
    intro value state front
    exact leaves_mono (goes value state)
      (fun _ after back => apart_trans start state after front back)
      (fun _ after back => apart_trans start state after front back)
  exact leaves_bind _ (begins start) both

theorem silent_get {β : Type} (next : RunState F σ → Running F σ β)
    (goes : ∀ state, Silent (next state)) : Silent (get >>= next) := fun start => goes start start

theorem silent_modify (change : RunState F σ → RunState F σ)
    (same : ∀ state, (change state).events = state.events)
    (kept : ∀ state, runStages (change state).run = runStages state.run) :
    Silent (modify change : Running F σ Unit) :=
  fun start => apart_same start _ (same start) (kept start)

theorem silent_attempt {α : Type} (source : Source) (operation : σ → Except Failure α × σ) :
    Silent (attempt source operation : Running F σ α) := by
  intro start
  apply leaves_mono (attempt_leaves start source operation)
  · rintro _ after ⟨world, -, rfl⟩
    exact apart_same _ _ rfl rfl
  · rintro raised after ⟨world, rfl⟩
    exact ⟨rfl, [.failed source raised], rfl, rfl⟩

theorem silent_write (ops : Operations F σ) : Silent (writeRun ops) := by
  intro start
  apply leaves_mono (write_run_leaves ops start)
  · rintro _ after ⟨world, rfl⟩
    exact ⟨rfl, [.wrote], rfl, rfl⟩
  · rintro raised after ⟨world, persisted, rfl⟩
    exact ⟨rfl, [.failed .write raised], rfl, rfl⟩

theorem silent_outcome (program : Running F σ Unit) (silent : Silent program) :
    Silent (outcomeOf program) := by
  intro start
  apply leaves_catch _ _ start _ _ _
    (silent_bind _ _ silent (fun _ => silent_pure none) start)
  exact fun failure state front => front

variable (settings : Settings F) (ops : Operations F σ)

theorem silent_preflight : Silent (runPreflight ops) := by
  unfold runPreflight
  split
  · exact silent_attempt _ _
  · exact silent_pure _

theorem silent_keep (failure : Option Failure) : Silent (keepFailure ops failure) := by
  unfold keepFailure
  split
  · apply silent_get
    intro state
    split
    · exact silent_bind _ _ (silent_modify _ (fun _ => rfl) fun _ => marked_run_stages ops _ _)
        fun _ => silent_outcome _ (silent_write ops)
    · exact silent_pure _
  · exact silent_pure _

theorem silent_finalize : Silent (finalize ops) := by
  unfold finalize
  split
  · exact silent_pure _
  · exact silent_bind _ _ (fun start => ⟨rfl, [.finalized], rfl, rfl⟩) fun _ =>
      silent_bind _ _ (silent_outcome _ (silent_attempt _ _)) fun _ => silent_pure _

theorem silent_retry (finalization failureWrite : Option Failure) :
    Silent (retryWrite ops finalization failureWrite) := by
  apply silent_get
  intro state
  split
  · exact silent_bind _ _ (silent_modify _ (fun _ => rfl) fun _ => finalized_run_stages ops _ _)
      fun _ => silent_outcome _ (silent_write ops)
  · exact silent_pure _

theorem silent_conclude (raised : Option Failure) : Silent (concludeRun ops raised) := by
  unfold concludeRun
  split
  · exact fun start => apart_same start start rfl rfl
  · refine silent_bind _ _ (silent_modify _ (fun _ => rfl) fun state => ?_) fun _ => silent_bind _ _
      (silent_write ops) fun _ => silent_get _ fun state => silent_pure _
    simp only [run_stages_other, ne_eq, String.reduceEq, not_false_eq_true]

variable [FloatText F]

theorem silent_hash (source : Source) (json : Json F) :
    Silent (canonicalHash settings ops source json) := by
  unfold canonicalHash
  split
  · exact silent_pure _
  · exact fun _ => ⟨rfl, [.failed source _], rfl, rfl⟩

theorem silent_identity (previous : Option (Json F)) :
    Silent (keepIdentity settings ops previous) := by
  unfold keepIdentity
  split
  · split
    · exact silent_pure _
    · exact silent_bind _ _ (silent_hash settings ops _ _) fun hash =>
        silent_modify _ (fun _ => rfl) fun _ => run_stages_other _ _ _ (by decide)
  · exact silent_pure _

end

section

variable {F σ : Type} (settings : Settings F) (ops : Operations F σ)

def stagesBefore (stage : Stage) : List Stage := stages.takeWhile (· ≠ stage)

/-- An item's file on disk has the digest and the number of records that the item names. -/
def ArtifactHeld (world : σ) (item : Json F) : Prop :=
  ∃ raw digest count relative data, field "path" item = some (.str raw) ∧
    field "sha256" item = some (.str digest) ∧ field "record_count" item = some (.int count) ∧
    safeRelative raw = .ok relative ∧ ops.readFile (outputPath relative.parts) world = some data ∧
    Sha256.hexdigest data = digest ∧ (countLines data : Int) = count

theorem artifact_held (world : σ) (item : Json F)
    (stands : artifactStands settings ops world item = true) : ArtifactHeld ops world item := by
  unfold artifactStands at stands
  rw [Bool.and_eq_true] at stands
  have held := stands.2
  split at held
  · rename_i raw digest count path sha256 records
    rw [Bool.and_eq_true] at held
    have file := held.2
    split at file
    · rename_i relative safe
      split at file
      · rename_i data read
        simp only [Bool.and_eq_true, beq_iff_eq] at file
        exact ⟨raw, digest, count, relative, data, path, sha256, records, safe, read, file.1,
          file.2⟩
      · cases file
    · cases file
  · cases held

theorem output_hash_text (hash : String) (metadata : Members F)
    (held : hasText "output_hash" hash (.obj metadata) = true) : outputHash metadata = hash := by
  unfold hasText at held
  unfold outputHash
  split at held
  · rename_i own found
    exact eq_of_beq held
  · cases held

variable [FloatText F]

/-- The fingerprint of a stage over what the stages before it have put out in a run. -/
def chainedFingerprint (run : Members F) (stage : Stage) : Json F :=
  fingerprint settings stage ((stagesBefore stage).map fun earlier =>
    (earlier.text, outputHash (stageMeta run earlier)))

/-- What a stage is passed over for: it is completed under the fingerprint of the present settings
and of what the stages before it put out, its manifest is its record, and its artifacts stand. -/
structure Reusable (stage : Stage) (run : Members F) (world : σ) : Prop where
  status : hasText "status" "completed" (.obj (stageMeta run stage)) = true
  fingerprint : ∃ held, field "fingerprint" (.obj (stageMeta run stage)) = some held ∧
    alike ops.sameNumber held (chainedFingerprint settings run stage) = true
  artifacts : ∃ items, field "artifacts" (.obj (stageMeta run stage)) = some (.arr items) ∧
    items ≠ [] ∧ outputHash (stageMeta run stage) = sha256CanonicalJson (.arr items) ∧
    (∃ manifest, ops.readJson (manifestPath stage) world = .value manifest ∧
      alike ops.sameNumber manifest (.obj (stageMeta run stage)) = true) ∧
    ∀ item ∈ items, ArtifactHeld ops world item

/-- Asking whether a stage may be reused changes nothing; an answer that it may has its reasons. -/
theorem reusable_leaves (start : RunState F σ) (stage : Stage) (expected : Json F) :
    Leaves (reusable settings ops stage expected) start (fun reused after => after = start ∧
        (hasText "status" "completed" (.obj (stageMeta start.run stage)) = false → reused = false) ∧
        (expected = chainedFingerprint settings start.run stage → reused = true →
          Reusable settings ops stage start.run start.world))
      fun _ after => Apart start after := by
  refine leaves_get ?_
  dsimp only
  split
  · rename_i recorded_
    unfold recordStands at recorded_
    rw [Bool.and_eq_true] at recorded_
    obtain ⟨status, same⟩ := recorded_
    have stays : hasText "status" "completed" (.obj (stageMeta start.run stage)) = false →
        ∀ {P : Prop}, P := by
      intro none_
      rw [status] at none_
      cases none_
    unfold artifactsStand
    split
    · rename_i first rest held
      unfold canonicalHash
      split
      · change Leaves (if hasText "output_hash" _ (.obj (stageMeta start.run stage)) then
          manifestStands settings ops stage _ (first :: rest) else pure false) start _ _
        split
        · rename_i hashed
          refine leaves_get ?_
          dsimp only
          split
          · rename_i manifest read
            refine ⟨rfl, fun none_ => stays none_, fun chained reused => ?_⟩
            rw [Bool.and_eq_true] at reused
            refine ⟨status, ?_, first :: rest, held, List.cons_ne_nil _ _,
              output_hash_text _ _ hashed, ⟨manifest, read, reused.1⟩, ?_⟩
            · rw [← chained]
              split at same
              · rename_i own found
                exact ⟨own, found, same⟩
              · cases same
            · intro item member
              exact artifact_held settings ops _ item (List.all_eq_true.mp reused.2 item member)
          · exact ⟨rfl, [.failed (.reuse stage) _], rfl, rfl⟩
          · exact ⟨rfl, fun _ => rfl, fun _ never => by cases never⟩
        · exact ⟨rfl, fun _ => rfl, fun _ never => by cases never⟩
      · exact ⟨rfl, [.failed (.reuse stage) _], rfl, rfl⟩
    · exact ⟨rfl, fun _ => rfl, fun _ never => by cases never⟩
  · exact ⟨rfl, fun _ => rfl, fun _ never => by cases never⟩

end

section

variable {F σ : Type} (ops : Operations F σ)

/-- What an executor gives to publish. -/
def ExecutorResult.given : ExecutorResult F → Option (StageOutput F)
  | .output own => some own
  | .artifacts own => some ⟨own, []⟩
  | .other => none

/-- The executor of a stage, called with a context in a world, gave what the publication then made
a manifest of. -/
def Publishes (stage : Stage) (context : Context F) (world : σ) (members : Members F) : Prop :=
  ∃ executor result output between old manifest published,
    ops.executors stage = some executor ∧ executor context world = (.ok result, between) ∧
    result.given = some output ∧
    ops.publish stage context.1 output (ops.clock.stageTimes stage) old between =
      (.ok manifest, published) ∧ manifest.members = members

/-- Calls the executor of a stage once and makes the manifest of its publication its record. -/
def Executed (stage : Stage) (expected : Json F) (upstream : Members F)
    (before after : RunState F σ) : Prop := ∃ called more, after.events =
      before.events ++ .executed stage (expected, upstream, called) before.world :: more ∧
    decisions more = [] ∧
    Publishes ops stage (expected, upstream, called) before.world (stageMeta after.run stage)

def Tried (stage : Stage) (before after : RunState F σ) : Prop :=
  Took before after [] ∨ Took before after [(stage, true)]

theorem stage_meta_set (stage name : Stage) (members run : Members F) :
    stageMeta (setMember "stages" (.obj (setMember stage.text (.obj members) (runStages run))) run)
      name = if name = stage then members else stageMeta run name := by
  rw [stage_meta_stages, run_stages_set, field_set, stage_meta_stages]
  by_cases same : name = stage
  · rw [same, if_pos rfl, if_pos rfl]
  · rw [if_neg fun equal => same (stage_text_injective _ _ equal).symm, if_neg same]

variable (stage : Stage) (expected : Json F) (upstream : Members F)

theorem execute_leaves (start : RunState F σ) : Leaves (execute ops stage expected upstream) start
      (fun output after => ∃ executor result between, ops.executors stage = some executor ∧
        executor (expected, upstream, start.run) start.world = (.ok result, between) ∧
        result.given = some output ∧ after = { start with
          world := between
          events := start.events ++ [.executed stage (expected, upstream, start.run) start.world] })
      fun _ after => after.run = start.run ∧ Tried stage start after := by
  unfold execute
  split
  · exact ⟨rfl, .inl ⟨[.failed (.stage stage) _], rfl, rfl⟩⟩
  · rename_i executor found
    have broke (failure : Failure) (world : σ) : Tried stage start { start with
        world := world
        events := (start.events ++ [.executed stage (expected, upstream, start.run) start.world]) ++
          [.failed (.stage stage) failure] } :=
      .inr ⟨[.executed stage _ _, .failed (.stage stage) failure], List.append_assoc _ _ _, rfl⟩
    refine leaves_get ?_
    apply leaves_bind _ (note_leaves start _ _)
    rintro _ _ rfl
    apply leaves_then (attempt_leaves _ _ _)
    · rintro raised _ ⟨world, rfl⟩
      exact ⟨rfl, broke raised world⟩
    · rintro (output | artifacts | _) _ ⟨world, called, rfl⟩
      · exact ⟨executor, _, world, found, called, rfl, rfl⟩
      · exact ⟨executor, _, world, found, called, rfl, rfl⟩
      · exact ⟨rfl, broke _ world⟩

theorem produce_leaves (start : RunState F σ) : Leaves (produce ops stage expected upstream) start
      (fun _ after => Executed ops stage expected upstream start after ∧
        ∀ name, name ≠ stage → stageMeta after.run name = stageMeta start.run name)
      fun _ after => Tried stage start after ∧
        ∀ name, name ≠ stage → stageMeta after.run name = stageMeta start.run name := by
  apply leaves_then (execute_leaves ops stage expected upstream start)
  · rintro raised after ⟨same, tried⟩
    exact ⟨tried, fun name _ => by rw [same]⟩
  · rintro output _ ⟨executor, result, between, found, called, given, rfl⟩
    have broke (event : Event F σ) (silent : decisions [event] = []) (after : RunState F σ)
        (events : after.events = (start.events ++
          [.executed stage (expected, upstream, start.run) start.world]) ++ [event]) :
        Tried stage start after := by
      refine .inr ⟨[.executed stage _ _, event], events.trans (List.append_assoc _ _ _), ?_⟩
      exact (decisions_append [_] [event]).trans (by rw [silent]; rfl)
    apply leaves_bind (fun _ after => ∃ old manifest world,
      ops.publish stage expected output (ops.clock.stageTimes stage) old between =
        (.ok manifest, world) ∧
      after.events = start.events ++ [.executed stage (expected, upstream, start.run) start.world] ∧
      after.run = setMember "stages"
        (.obj (setMember stage.text (.obj manifest.members) (runStages start.run))) start.run)
    · refine leaves_get ?_
      apply leaves_then (attempt_leaves _ _ _)
      · rintro raised _ ⟨world, rfl⟩
        exact ⟨broke (.failed (.stage stage) raised) rfl _ rfl, fun _ _ => rfl⟩
      · rintro manifest _ ⟨world, gives, rfl⟩
        exact ⟨_, manifest, world, gives, rfl, rfl⟩
    · rintro _ state ⟨old, manifest, world, gives, events, run⟩
      have kept (name : Stage) (other : name ≠ stage) :
          stageMeta state.run name = stageMeta start.run name := by
        rw [run, stage_meta_set, if_neg other]
      apply leaves_mono (write_run_leaves ops state)
      · rintro _ after ⟨final, rfl⟩
        refine ⟨⟨start.run, [.wrote], ?_, rfl, executor, result, output, between, old, manifest,
          world, found, called, given, gives, ?_⟩, kept⟩
        · rw [events, List.append_assoc]
          rfl
        · rw [run, stage_meta_set, if_pos rfl]
      · rintro raised after ⟨final, persisted, rfl⟩
        exact ⟨broke (.failed .write raised) rfl _ (by rw [events]), kept⟩

theorem invalidated_meta (stage name : Stage) (run : Members F) :
    stageMeta (invalidateFrom stage run) name =
      if name ∈ stagesFrom stage then [("status", .str "invalid")] else stageMeta run name := by
  rw [stage_meta_stages, invalidateFrom, run_stages_set, field_stages]
  by_cases later : name ∈ stagesFrom stage
  · rw [if_pos later, if_pos later]
  · rw [if_neg later, if_neg later, ← stage_meta_stages]

theorem marked_meta (name : Stage) (error : AnalyzerError) (run : Members F)
    (earlier : name ∉ stagesFrom stage) :
    stageMeta (markFailure stage error run) name = stageMeta run name := by
  rw [stage_meta_stages, markFailure, run_stages_other _ _ _ (by decide),
    run_stages_other _ _ _ (by decide)]
  cases held : field "stages" (.obj run) with
  | none => rw [← stage_meta_stages]
  | some value =>
    cases value with
    | obj members =>
      simp only [run_stages_set, failedStages, field_stages, if_neg earlier]
      rw [stage_meta_stages, runStages, held]
    | _ => rw [← stage_meta_stages]

theorem run_stage_leaves (start : RunState F σ) :
    Leaves (runStage ops stage expected upstream) start
      (fun _ after => Executed ops stage expected upstream start after ∧
        (∀ name, name ∉ stagesFrom stage → stageMeta after.run name = stageMeta start.run name) ∧
        ∀ name ∈ stagesFrom stage, name ≠ stage →
          stageMeta after.run name = [("status", .str "invalid")])
      fun _ after => Tried stage start after ∧
        ∀ name, name ∉ stagesFrom stage → stageMeta after.run name = stageMeta start.run name := by
  have other (name : Stage) (earlier : name ∉ stagesFrom stage) : name ≠ stage := by
    rintro rfl
    exact earlier (stage_after name)
  apply leaves_bind _ (leaves_modify _ _ (fun _ after => after = { start with
    run := invalidateFrom stage start.run }) _ rfl)
  rintro _ between rfl
  apply leaves_catch _ _ _ _ (fun _ after => Tried stage start after ∧
    ∀ name, name ≠ stage → stageMeta after.run name =
      stageMeta (invalidateFrom stage start.run) name)
  · apply leaves_mono (produce_leaves ops stage expected upstream _) _ fun _ _ broken => broken
    rintro _ after ⟨executed, kept⟩
    refine ⟨executed, fun name earlier => ?_, fun name later apart => ?_⟩
    · rw [kept name (other name earlier), invalidated_meta, if_neg earlier]
    · rw [kept name apart, invalidated_meta, if_pos later]
  · rintro failure state ⟨tried, kept⟩
    have stays (name : Stage) (earlier : name ∉ stagesFrom stage) :
        stageMeta state.run name = stageMeta start.run name := by
      rw [kept name (other name earlier), invalidated_meta, if_neg earlier]
    split
    · refine ⟨tried, fun name earlier => ?_⟩
      exact (marked_meta stage name _ _ earlier).trans (stays name earlier)
    · exact ⟨tried, stays⟩

end

section

variable {F σ : Type} (settings : Settings F) (ops : Operations F σ)

def upTo (last : Stage) : List Stage → List Stage
  | [] => []
  | stage :: rest => if stage = last then [stage] else stage :: upTo last rest

def Unfinished (run : Members F) (names : List Stage) : Prop :=
  ∀ name ∈ names, hasText "status" "completed" (.obj (stageMeta run name)) = false

/-- The records of stages in a run, as the executors of later ones are given them. -/
def recordsOf (run : Members F) (names : List Stage) : Members F :=
  names.map fun name => (name.text, .obj (stageMeta run name))

/-- An executed stage stands in a run: its executor was called under the fingerprint of the present
settings and of what the stages before it have put out, with their records, and its own record is
the manifest of what was published. -/
def Stands (events : List (Event F σ)) (run : Members F) (stage : Stage) : Prop :=
  ∃ called world, Event.executed stage (chainedFingerprint settings run stage,
      recordsOf run (stagesBefore stage), called) world ∈ events ∧
    Publishes ops stage (chainedFingerprint settings run stage,
      recordsOf run (stagesBefore stage), called) world (stageMeta run stage)

theorem called_kept (stage : Stage) (run after : Members F)
    (kept : ∀ name ∈ stagesBefore stage, stageMeta after name = stageMeta run name) :
    chainedFingerprint settings after stage = chainedFingerprint settings run stage ∧
      recordsOf after (stagesBefore stage) = recordsOf run (stagesBefore stage) := by
  unfold chainedFingerprint
  exact ⟨by rw [List.map_congr_left fun name member => by rw [kept name member]],
    List.map_congr_left fun name member => by rw [kept name member]⟩

theorem stands_kept (events more : List (Event F σ)) (run after : Members F)
    (stage : Stage) (within : events ⊆ more)
    (kept : ∀ name ∈ stage :: stagesBefore stage, stageMeta after name = stageMeta run name)
    (stands : Stands settings ops events run stage) : Stands settings ops more after stage := by
  obtain ⟨chained, records⟩ := called_kept settings stage run after
    fun name member => kept name (.tail _ member)
  obtain ⟨called, world, member, publishes⟩ := stands
  refine ⟨called, world, ?_, ?_⟩
  · rw [chained, records]
    exact within member
  · rw [chained, records, kept stage (.head _)]
    exact publishes

variable [FloatText F]

/-- What a run decided between two states: it passed over stages for their reasons and called the
executors of the next ones. Of these the last ones broke and the others stand. -/
def Resumed (skipped executed broken : List Stage) (before after : RunState F σ) : Prop :=
  ∃ more, after.events = before.events ++ more ∧
    decisions more = (skipped.map fun name => (name, false)) ++
      (executed ++ broken).map (fun name => (name, true)) ∧
    (∀ stage run world, Event.skipped stage run world ∈ more →
      Reusable settings ops stage run world) ∧
    ∀ stage ∈ executed, Stands settings ops more after.run stage

def Resumes (names : List Stage) (before after : RunState F σ) (broken left : List Stage) : Prop :=
  ∃ skipped executed, names = skipped ++ executed ++ broken ++ left ∧
    Resumed settings ops skipped executed broken before after

theorem resumed_took (broken : List Stage) (before after : RunState F σ)
    (took : Took before after (broken.map fun name => (name, true))) :
    Resumed settings ops [] [] broken before after := by
  obtain ⟨more, goes, taken⟩ := took
  refine ⟨more, goes, taken, fun stage run world member => ?_, fun stage none_ => by cases none_⟩
  obtain ⟨name, -, same⟩ := List.mem_map.mp (taken ▸ skipped_decided more member)
  cases (Prod.mk.inj same).2

theorem resumed_trans (skipped executed broken further others last : List Stage)
    (first second third : RunState F σ)
    (one : Resumed settings ops skipped executed broken first second)
    (two : Resumed settings ops further others last second third)
    (order : (executed = [] ∧ broken = [] ∨ further = []) ∧ (broken = [] ∨ others = []))
    (kept : ∀ stage ∈ executed, ∀ name ∈ stage :: stagesBefore stage,
      stageMeta third.run name = stageMeta second.run name) :
    Resumed settings ops (skipped ++ further) (executed ++ others) (broken ++ last) first third := by
  obtain ⟨front, begins, taken, reasons, stand⟩ := one
  obtain ⟨back, goes, later, reasons', stand'⟩ := two
  refine ⟨front ++ back, by rw [goes, begins, List.append_assoc], ?_, ?_, ?_⟩
  · rw [decisions_append, taken, later]
    rcases order with ⟨⟨rfl, rfl⟩ | rfl, none_ | rfl⟩ <;> simp_all
  · intro stage run world member
    rcases List.mem_append.mp member with early | late
    · exact reasons stage run world early
    · exact reasons' stage run world late
  · intro stage member
    rcases List.mem_append.mp member with early | late
    · exact stands_kept settings ops front _ _ _ stage (List.subset_append_left _ _)
        (kept stage early) (stand stage early)
    · exact stands_kept settings ops back _ _ _ stage (List.subset_append_right _ _)
        (fun _ _ => rfl) (stand' stage late)

/-- What the handling of a failure, the finalizer and the last writes keep of what was decided. -/
theorem resumes_before (names broken left : List Stage) (first second third : RunState F σ)
    (resumes : Resumes settings ops names first second broken left) (apart : Apart second third) :
    Resumes settings ops names first third broken left := by
  obtain ⟨skipped, executed, parts, resumed⟩ := resumes
  obtain ⟨same, took⟩ := apart
  have later := resumed_trans settings ops skipped executed broken [] [] [] first second third resumed
    (resumed_took settings ops [] second third took) ⟨.inr rfl, .inr rfl⟩
    fun stage _ name _ => by rw [stage_meta_stages, same, ← stage_meta_stages]
  exact ⟨skipped, executed, parts, by simpa using later⟩

variable (stage : Stage) (front rest : List Stage)

theorem stages_parts (whole : stages = front ++ stage :: rest) :
    stagesBefore stage = front ∧ stagesFrom stage = stage :: rest ∧ stage ∉ rest ∧
      ∀ name ∈ front, name ∉ stage :: rest := by
  have distinct : stages.Nodup := by decide
  rw [whole] at distinct
  obtain ⟨-, behind, apart⟩ := List.nodup_append.mp distinct
  have early : ∀ name ∈ front, decide (name ≠ stage) = true := by
    intro name member
    simpa using fun same => apart name member stage (.head _) same
  refine ⟨?_, ?_, (List.nodup_cons.mp behind).1, fun name member late => apart name member name late rfl⟩
  · rw [stagesBefore, whole, List.takeWhile_append_of_pos early,
      List.takeWhile_cons_of_neg (by simp), List.append_nil]
  · rw [stagesFrom, whole, List.dropWhile_append_of_pos early, List.dropWhile_cons_of_neg (by simp)]

/-- What the loop decides on the stages from some on. Where none of them is recorded as completed
it passes over none. -/
def Looped (names : List Stage) (before after : RunState F σ) (broken left : List Stage) : Prop :=
  (∀ name ∈ front, stageMeta after.run name = stageMeta before.run name) ∧
    ∃ skipped executed, names = skipped ++ executed ++ broken ++ left ∧
      (Unfinished before.run rest → skipped = []) ∧
      Resumed settings ops skipped executed broken before after

/-- What the loop does with one stage. -/
def Turned (before after : RunState F σ) : Prop :=
  (∀ name ∈ front, stageMeta after.run name = stageMeta before.run name) ∧
    ((¬ Unfinished before.run (stage :: rest) ∧ Resumed settings ops [stage] [] [] before after) ∨
      (Unfinished after.run rest ∧ Resumed settings ops [] [stage] [] before after))

theorem stage_turned (whole : stages = front ++ stage :: rest) (start : RunState F σ) :
    Leaves (reuseOrRun settings ops stage (chainedFingerprint settings start.run stage)
        (recordsOf start.run front)) start
      (fun _ after => Turned settings ops stage front rest start after)
      fun _ after => ∃ broken left, broken.length ≤ 1 ∧ ∀ names,
        Looped settings ops front (stage :: rest) (stage :: names) start after broken
          (left ++ names) := by
  obtain ⟨before, from_, once, apart⟩ := stages_parts stage front rest whole
  apply leaves_then (reusable_leaves settings ops start stage _)
  · rintro raised after ⟨same, took⟩
    refine ⟨[], [stage], Nat.zero_le 1, fun names => ⟨fun name _ => ?_, [], [], rfl,
      fun _ => rfl, resumed_took settings ops [] start after took⟩⟩
    rw [stage_meta_stages, same, ← stage_meta_stages]
  · rintro reused start ⟨rfl, unmet, reasons⟩
    split
    · rename_i held
      refine ⟨fun _ _ => rfl, .inl ⟨fun unfinished => ?_, [.skipped stage _ _], rfl, rfl, ?_,
        fun stage none_ => by cases none_⟩⟩
      · rw [unmet (unfinished stage (.head _))] at held
        cases held
      · intro other run world member
        cases List.mem_singleton.mp member
        exact reasons rfl held
    · apply leaves_mono (run_stage_leaves ops stage _ _ start)
      · rintro _ after ⟨⟨called, more, events, none_, publishes⟩, kept, invalid⟩
        rw [from_] at kept invalid
        have same (name : Stage) (member : name ∈ front) :
            stageMeta after.run name = stageMeta start.run name := kept name (apart name member)
        refine ⟨same, .inr ⟨fun name member => ?_, ?_⟩⟩
        · rw [invalid name (.tail _ member) fun equal => once (equal ▸ member)]
          rfl
        · obtain ⟨chained, records⟩ := called_kept settings stage start.run after.run
            (before ▸ same)
          refine ⟨_, events, (decisions_append [_] more).trans (by rw [none_]; rfl), ?_, ?_⟩
          · intro other run world member
            rcases List.mem_cons.mp member with own | late
            · cases own
            · cases none_ ▸ skipped_decided more late
          · intro other member
            obtain rfl := List.mem_singleton.mp member
            refine ⟨called, start.world, ?_, ?_⟩
            · rw [chained, records, before]
              exact .head _
            · rw [chained, records, before]
              exact publishes
      · rintro raised after ⟨tried, kept⟩
        rw [from_] at kept
        have same (name : Stage) (member : name ∈ front) :
            stageMeta after.run name = stageMeta start.run name := kept name (apart name member)
        rcases tried with took | took
        · exact ⟨[], [stage], Nat.zero_le 1, fun names => ⟨same, [], [], rfl, fun _ => rfl,
            resumed_took settings ops [] start after took⟩⟩
        · exact ⟨[stage], [], Nat.le_refl 1, fun names => ⟨same, [], [], rfl, fun _ => rfl,
            resumed_took settings ops [stage] start after took⟩⟩

theorem looped_turned (whole : stages = front ++ stage :: rest) (names broken left : List Stage)
    (start ran after : RunState F σ) (turned : Turned settings ops stage front rest start ran)
    (looped : Looped settings ops (front ++ [stage]) rest names ran after broken left) :
    Looped settings ops front (stage :: rest) (stage :: names) start after broken left := by
  obtain ⟨kept, turned⟩ := turned
  obtain ⟨still, skipped, executed, parts, none_, resumed⟩ := looped
  refine ⟨fun name member => (still name (List.mem_append_left _ member)).trans (kept name member),
    ?_⟩
  rcases turned with ⟨met, one⟩ | ⟨unfinished, one⟩
  · refine ⟨stage :: skipped, executed, by rw [parts]; rfl, fun held => absurd held met, ?_⟩
    exact resumed_trans settings ops [stage] [] [] skipped executed broken start ran after one
      resumed ⟨.inl ⟨rfl, rfl⟩, .inl rfl⟩ fun other member => by cases member
  · obtain rfl := none_ unfinished
    refine ⟨[], stage :: executed, by rw [parts]; rfl, fun _ => rfl, ?_⟩
    refine resumed_trans settings ops [] [stage] [] [] executed broken start ran after one resumed
      ⟨.inr rfl, .inl rfl⟩ fun other member name earlier => still name ?_
    obtain rfl := List.mem_singleton.mp member
    rw [(stages_parts other front rest whole).1] at earlier
    rcases List.mem_cons.mp earlier with rfl | early
    · exact List.mem_append_right _ (.head _)
    · exact List.mem_append_left _ early

omit [FloatText F] in
theorem up_to_cons (last : Stage) :
    upTo last (stage :: rest) = stage :: if stage = last then [] else upTo last rest := by
  rw [upTo]
  split <;> rfl

/-- A run passes over stages for its reasons until it executes one, and executes those behind it. -/
theorem loop_leaves (last : Stage) (whole : stages = front ++ rest) (start : RunState F σ) :
    Leaves (stageLoop settings ops last rest (recordsOf start.run front)) start
      (fun _ after => Looped settings ops front rest (upTo last rest) start after [] [])
      fun _ after => ∃ broken left, broken.length ≤ 1 ∧
        Looped settings ops front rest (upTo last rest) start after broken left := by
  have ended (front rest : List Stage) (state : RunState F σ) :
      Looped settings ops front rest [] state state [] [] :=
    ⟨fun _ _ => rfl, [], [], rfl, fun _ => rfl,
      resumed_took settings ops [] state state ⟨[], (List.append_nil _).symm, rfl⟩⟩
  induction rest generalizing front start with
  | nil => exact ended front [] start
  | cons stage rest ih =>
    have expected : fingerprint settings stage (hashes (recordsOf start.run front)) =
        chainedFingerprint settings start.run stage := by
      rw [chainedFingerprint, (stages_parts stage front rest whole).1, hashes, recordsOf,
        List.map_map]
      rfl
    rw [up_to_cons, stageLoop, expected]
    apply leaves_then (stage_turned settings ops stage front rest whole start)
    · rintro raised after ⟨broken, left, small, looped⟩
      exact ⟨broken, left ++ _, small, looped _⟩
    · intro _ ran turned
      refine leaves_get ?_
      dsimp only
      split
      · exact looped_turned settings ops stage front rest whole [] [] [] start ran ran turned
          (ended _ _ ran)
      · have records : recordsOf start.run front ++ [(stage.text, .obj (stageMeta ran.run stage))] =
            recordsOf ran.run (front ++ [stage]) := by
          have earlier : recordsOf start.run front = recordsOf ran.run front :=
            List.map_congr_left fun name member => by rw [turned.1 name member]
          rw [earlier, recordsOf, recordsOf, List.map_append]
          rfl
        rw [records]
        apply leaves_mono (ih (front ++ [stage]) (by rw [whole, List.append_assoc]; rfl) ran)
        · intro _ after looped
          exact looped_turned settings ops stage front rest whole _ [] [] start ran after turned
            looped
        · rintro raised after ⟨broken, left, small, looped⟩
          exact ⟨broken, left, small, looped_turned settings ops stage front rest whole _ broken
            left start ran after turned looped⟩

end

section

variable {F σ : Type} (settings : Settings F) (ops : Operations F σ)

theorem concluded_failure (raised : Option Failure) (start : RunState F σ)
    (some_ : raised.isSome = true) :
    Leaves (concludeRun ops raised) start (fun _ _ => False) fun _ after => after = start := by
  obtain ⟨failure, rfl⟩ := Option.isSome_iff_exists.mp some_
  exact rfl

variable [FloatText F] (names : List Stage)

/-- At most one of the executed stages broke, the last one. -/
def Breaks (before after : RunState F σ) : Prop :=
  ∃ broken left, broken.length ≤ 1 ∧ Resumes settings ops names before after broken left

/-- A program that decides on some stages, and on all of them where it returns. -/
def Decides {α : Type} (program : Running F σ α) : Prop :=
  ∀ start, Leaves program start (fun _ after => Resumes settings ops names start after [] [])
    fun _ after => Breaks settings ops names start after

theorem resumes_after (broken left : List Stage) (first second third : RunState F σ)
    (took : Took first second []) (resumes : Resumes settings ops names second third broken left) :
    Resumes settings ops names first third broken left := by
  obtain ⟨skipped, executed, parts, resumed⟩ := resumes
  exact ⟨skipped, executed, parts, resumed_trans settings ops [] [] [] skipped executed broken first
    second third (resumed_took settings ops [] first second took) resumed
    ⟨.inl ⟨rfl, rfl⟩, .inl rfl⟩ fun stage none_ => by cases none_⟩

theorem decides_behind {α β : Type} (first : Running F σ α) (next : α → Running F σ β)
    (begins : ∀ start, Leaves first start (fun _ after => Took start after [])
      fun _ after => Took start after [])
    (decides : ∀ value, Decides settings ops names (next value)) :
    Decides settings ops names (first >>= next) := by
  intro start
  apply leaves_then (begins start)
  · exact fun _ after took => ⟨[], names, Nat.zero_le 1, [], [], rfl,
      resumed_took settings ops [] start after took⟩
  · intro value state took
    apply leaves_mono (decides value state)
    · exact fun _ after resumes =>
        resumes_after settings ops names [] [] start state after took resumes
    · rintro _ after ⟨broken, left, small, resumes⟩
      exact ⟨broken, left, small,
        resumes_after settings ops names broken left start state after took resumes⟩

omit [FloatText F] in
theorem silent_took {α : Type} (program : Running F σ α) (silent : Silent program)
    (start : RunState F σ) :
    Leaves program start (fun _ after => Took start after []) fun _ after => Took start after [] :=
  leaves_mono (silent start) (fun _ _ apart => apart.2) fun _ _ apart => apart.2

theorem staged_decides (last : Stage) :
    Decides settings ops (upTo last stages) (stagedRun settings ops last) := by
  refine decides_behind settings ops _ _ _ (fun start => ?_) fun run => ?_
  · apply leaves_mono (load_leaves settings ops start)
    · exact fun _ after loaded => ⟨[], by rw [loaded.1, List.append_nil], rfl⟩
    · exact fun raised after loaded => ⟨[.failed .load raised], loaded.2, rfl⟩
  refine decides_behind settings ops _ _ _ (silent_took _ (silent_write ops)) fun _ => ?_
  refine decides_behind settings ops _ _ _ (silent_took _ (silent_preflight ops)) fun _ => ?_
  refine decides_behind settings ops _ _ _ (silent_took _ (silent_identity settings ops _))
    fun _ => ?_
  refine decides_behind settings ops _ _ _ (fun start => ⟨[], (List.append_nil _).symm, rfl⟩)
    fun _ => ?_
  refine decides_behind settings ops _ _ _ (silent_took _ (silent_write ops)) fun _ start => ?_
  apply leaves_mono (loop_leaves settings ops [] stages last rfl start)
  · exact fun _ after looped => by
      obtain ⟨-, skipped, executed, parts, -, resumed⟩ := looped
      exact ⟨skipped, executed, parts, resumed⟩
  · rintro _ after ⟨broken, left, small, -, skipped, executed, parts, -, resumed⟩
    exact ⟨broken, left, small, skipped, executed, parts, resumed⟩

theorem decided_handled (last : Stage) (start : RunState F σ) :
    Leaves (outcomeOf (stagedRun settings ops last)) start
      (fun failure after => ∃ broken left, broken.length ≤ 1 ∧
        Resumes settings ops (upTo last stages) start after broken left ∧
        (failure = none → broken = [] ∧ left = [])) fun _ _ => False := by
  unfold outcomeOf
  apply leaves_catch _ _ start _ (fun _ after => Breaks settings ops (upTo last stages) start after)
  · apply leaves_bind _ (staged_decides settings ops last start)
    exact fun _ after resumes => ⟨[], [], Nat.zero_le 1, resumes, fun _ => ⟨rfl, rfl⟩⟩
  · rintro failure after ⟨broken, left, small, resumes⟩
    exact ⟨broken, left, small, resumes, fun none_ => absurd none_ (Option.some_ne_none _)⟩

variable (broken left : List Stage) (start state : RunState F σ)
  (resumes : Resumes settings ops names start state broken left) (small : broken.length ≤ 1)

include resumes small

theorem resumes_kept {α : Type} (program : Running F σ α) (silent : Silent program) :
    Leaves program state (fun _ after => Resumes settings ops names start after broken left)
      fun _ after => Breaks settings ops names start after := by
  apply leaves_mono (silent state)
  · exact fun _ after apart =>
      resumes_before settings ops names broken left start state after resumes apart
  · exact fun _ after apart => ⟨broken, left, small,
      resumes_before settings ops names broken left start state after resumes apart⟩

theorem resumes_concluded (failure write finalization : Option Failure)
    (whole : failure = none → broken = [] ∧ left = []) :
    Leaves (concludeRun ops (raisedFailure failure write finalization)) state
      (fun _ after => Resumes settings ops names start after [] [])
      fun _ after => Breaks settings ops names start after := by
  cases found : raisedFailure failure write finalization with
  | some raised =>
    apply leaves_mono (concluded_failure ops (some raised) state rfl)
    · exact fun _ _ absurd_ => absurd_.elim
    · rintro _ after rfl
      exact ⟨broken, left, small, resumes⟩
  | none =>
    obtain ⟨rfl, rfl⟩ := whole (raised_none failure write finalization found).1
    exact resumes_kept settings ops names [] [] start state resumes small _ (silent_conclude ops none)

omit resumes small

/-- Whatever the run's file, the manifests and the artifacts on disk, a run passes over the first
stages only, each where it is recorded as completed under the fingerprint of the present settings
and of what the stages before it put out, with the artifacts of its manifest on disk. It calls the
executors of those behind, all of them up to the last where it returns, under such fingerprints
and publishes what they put out; only where it raises the last of them may not be published. -/
theorem run_resumes_soundly (start : RunState F σ) (last : Stage) :
    Leaves (runPipeline settings ops last) start
      (fun _ after => Resumes settings ops (upTo last stages) start after [] [])
      fun _ after => Breaks settings ops (upTo last stages) start after := by
  apply leaves_bind _ (leaves_mono
    (decided_handled settings ops last start) (fun _ _ handled => handled)
    fun _ _ absurd_ => absurd_.elim)
  rintro failure handled ⟨broken, left, small, resumes, whole⟩
  apply leaves_bind _ (resumes_kept settings ops _ broken left start handled resumes small _
    (silent_keep ops failure))
  intro failureWrite kept resumes
  apply leaves_bind _ (resumes_kept settings ops _ broken left start kept resumes small _
    (silent_finalize ops))
  intro finalization finalized resumes
  apply leaves_bind _ (resumes_kept settings ops _ broken left start finalized resumes small _
    (silent_retry ops finalization failureWrite))
  intro retry retried resumes
  exact resumes_concluded settings ops _ broken left start retried resumes small failure _
    finalization whole

end

def resumedSettings : Settings Instant := { sampleSettings with resume := true }

def standingItem : Json Instant :=
  .obj [("path", .str "entries.jsonl"), ("sha256", .str (Sha256.hexdigest [123, 125, 10])),
    ("record_count", .int 1), ("schema_version", .str "2.7")]

/-- The manifest of entries that stand. -/
def standingEntries : Json Instant := .obj [("stage", .str "entries"), ("status", .str "completed"),
    ("fingerprint", fingerprint resumedSettings .entries []), ("artifacts", .arr [standingItem]),
    ("output_hash", .str (sha256CanonicalJson (.arr [standingItem])))]

def resumedOperations : Operations Instant Unit where
  readJson path _ :=
    if path = outputPath ["run.json"] then
      .value (.obj [("stages", .obj [("entries", standingEntries)])])
    else if path = manifestPath .entries then .value standingEntries
    else .absent
  readFile _ _ := some [123, 125, 10]
  writeRun _ _ := (.written, ())
  executors stage :=
    if stage = .growth then some fun _ _ => (.ok (.artifacts [("growth.jsonl", .bytes [])]), ())
    else none
  publish _ expected _ _ _ _ :=
    (.ok ⟨[("status", .str "completed"), ("fingerprint", expected), ("output_hash", .str "growth")],
      "growth", rfl⟩, ())
  preflight := none
  finalizer := none
  clock := ⟨.noon, fun _ => sampleTimes, .noon, .noon, .noon⟩
  sameNumber left right := left = right
  encodingFailure _ := ⟨⟨.ordinary "RecursionError", .made⟩, []⟩

def decisionsOf (result : EStateM.Result Failure (RunState Instant Unit)
    (Members Instant)) : List (Stage × Bool) :=
  match result with
  | .ok _ after => decisions after.events
  | .error _ _ => []

set_option maxRecDepth 4000 in
/-- The entries stand and are passed over, the growths are executed and published. -/
theorem run_resumes_soundly_growth : ∃ run after,
    runPipeline resumedSettings resumedOperations .growth { world := () } = .ok run after ∧
      Resumed resumedSettings resumedOperations [.entries] [.growth] [] { world := () } after := by
  have sound := run_resumes_soundly resumedSettings resumedOperations { world := () } .growth
  have decided : decisionsOf (runPipeline resumedSettings resumedOperations .growth
      { world := () }) = [(.entries, false), (.growth, true)] := by decide
  unfold Leaves at sound
  cases found : runPipeline resumedSettings resumedOperations .growth { world := () } with
  | error failure after =>
    rw [found] at decided
    cases decided
  | ok run after =>
    rw [found] at sound decided
    obtain ⟨skipped, executed, parts, more, goes, taken, stand⟩ := sound
    rw [decisionsOf, goes, List.nil_append, taken, List.append_nil] at decided
    have listed : skipped ++ executed = [.entries, .growth] := by
      simpa [upTo, stages] using parts.symm
    rcases skipped with _ | ⟨first, _ | ⟨second, rest⟩⟩
    · rw [show executed = _ from listed] at decided
      cases decided
    · cases listed
      exact ⟨run, after, rfl, more, goes, taken, stand⟩
    · simp at decided

end DosWeb.Pipeline
