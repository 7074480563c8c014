import DosWeb.Errors

/-!
The records of a batch and the document that publishes them: what an update writes, which targets
a run may start, which records a run settles at its end and which status it then reports.
-/

namespace DosWeb.Batch

inductive TargetState where
  | queued
  | running
  | retrying
  | paused
  | completed
  | completedWithGaps
  | failed
  | interrupted
  deriving DecidableEq

inductive BatchStatus where
  | pending
  | running
  | completed
  | completedWithGaps
  | completedWithFailures
  | interrupted
  deriving DecidableEq

structure Record where
  state : TargetState
  status : TargetState
  attempt : Nat
  errorCode : Option String
  errorMessage : Option String
  startedAt : Option String
  finishedAt : Option String
  updatedAt : Option String
  deriving DecidableEq

def TargetState.busy (state : TargetState) : Bool :=
  state = .queued || state = .running || state = .retrying

def retryableErrorCodes : List String := [
  "LLM_RETRYABLE_HTTP", "LLM_NETWORK_RETRYABLE", "LLM_RETRIES_EXHAUSTED",
  "LLM_AUTHENTICATION_FAILED", "LLM_NETWORK_FAILED", "LLM_RESPONSE_INVALID",
  "LLM_RESPONSE_SCHEMA_INVALID", "LLM_RESPONSE_SENSITIVE_CONTENT", "BATCH_TARGET_FAILED"]

inductive Update where
  | attempt (number : Nat) (startedAt : String)
  | completed (finishedAt : String)
  | failed (code message finishedAt : String)
  | interrupted (finishedAt : String)
  deriving DecidableEq

def Update.isAttempt : Update → Bool
  | .attempt _ _ => true
  | _ => false

def Update.finishedAt : Update → Option String
  | .attempt _ _ => none
  | .completed finishedAt => some finishedAt
  | .failed _ _ finishedAt => some finishedAt
  | .interrupted finishedAt => some finishedAt

def Update.apply (update : Update) (record : Record) : Record :=
  match update with
  | .attempt number startedAt =>
    let state : TargetState := if number > 1 then .retrying else .running
    { record with
      state, status := state, attempt := number, startedAt := some startedAt
      finishedAt := none, errorCode := none, errorMessage := none }
  | .completed finishedAt =>
    { record with state := .completed, status := .completed, finishedAt := some finishedAt }
  | .failed code message finishedAt =>
    { record with
      state := .failed, status := .failed, errorCode := some code
      errorMessage := some message, finishedAt := some finishedAt }
  | .interrupted finishedAt =>
    { record with
      state := .interrupted, status := .interrupted, errorCode := some "BATCH_INTERRUPTED"
      errorMessage := some "Batch execution was interrupted.", finishedAt := some finishedAt }

@[simp] theorem apply_attempt_state (number : Nat) (startedAt : String) (record : Record) :
    ((Update.attempt number startedAt).apply record).state =
      if number > 1 then .retrying else .running := rfl

@[simp] theorem apply_attempt (number : Nat) (startedAt : String) (record : Record) :
    ((Update.attempt number startedAt).apply record).attempt = number := rfl

theorem apply_counter (update : Update) (record : Record) (other : update.isAttempt = false) :
    (update.apply record).attempt = record.attempt := by
  cases update with
  | attempt _ _ => cases other
  | _ => rfl

variable {Target : Type}

/-- The durable document: the status, its time and the record of every target. -/
structure Document (Target : Type) where
  status : BatchStatus
  updatedAt : String
  records : Target → Record

structure BatchRunner (Target : Type) where
  targets : List Target
  initialState : Target → TargetState
  maxWorkers : Nat
  maxAttempts : Nat
  resume : Bool
  retryFailed : Bool
  targetsDistinct : targets.Nodup
  initialValid : ∀ target, initialState target = .queued ∨ initialState target = .paused
  concurrencyValid : 1 ≤ maxWorkers ∧ maxWorkers ≤ 5
  retryValid : 1 ≤ maxAttempts ∧ maxAttempts ≤ 16

variable (runner : BatchRunner Target)

def initialRecord (target : Target) : Record :=
  ⟨runner.initialState target, runner.initialState target, 0, none, none, none, none, none⟩

/-- Whether a target may be started, from its record and whether its artifacts are reusable. -/
def eligible (reusable : Bool) (record : Record) : Bool :=
  match record.state with
  | .completed => !reusable && record.attempt < runner.maxAttempts
  | .completedWithGaps => false
  | .paused => false
  | .failed =>
    runner.retryFailed && (record.errorCode.elim false retryableErrorCodes.contains &&
        record.attempt < runner.maxAttempts)
  | .queued | .running | .retrying | .interrupted => record.attempt < runner.maxAttempts

/-- A completed record without attempts left and without its artifacts. -/
def exhaustedGap (reusable : Bool) (record : Record) : Bool :=
  record.state = .completed && (runner.maxAttempts ≤ record.attempt && !reusable)

def normalizeCompletedGap (reusable : Bool) (now : String) (record : Record) : Record :=
  if exhaustedGap runner reusable record then
    { record with
      state := .completedWithGaps, status := .completedWithGaps
      errorCode := some "BATCH_TARGET_ARTIFACTS_MISSING"
      errorMessage :=
        some "Completed target artifacts are missing or mismatched after exhausting attempts."
      finishedAt := some (record.finishedAt.getD now)
      updatedAt := some (record.updatedAt.getD now) }
  else record

def finalStatus (interrupt : Bool) (records : Target → Record) : BatchStatus :=
  let some_ (states : List TargetState) : Bool :=
    runner.targets.any fun target => states.contains (records target).state
  if interrupt || some_ [.interrupted] then .interrupted
  else if some_ [.failed] then .completedWithFailures
  else if some_ [.paused, .queued, .running, .retrying, .completedWithGaps] then .completedWithGaps
  else .completed

/-- What a run returns, or raises with the document as its detail, once it has published its last
status. -/
def runResult (document : Document Target) :
    Except (AnalyzerError × Document Target) (Document Target) :=
  if document.status = .interrupted then
    .error (⟨"BATCH_INTERRUPTED", "Batch execution was interrupted.", []⟩, document)
  else .ok document

variable (reusable : Bool)

theorem eligible_attempts (record : Record)
    (found : eligible runner reusable record = true) : record.attempt < runner.maxAttempts := by
  unfold eligible at found
  split at found <;> simp_all

theorem eligible_not_reusable (record : Record) (completed : record.state = .completed) :
    eligible runner true record = false := by
  simp [eligible, completed]

theorem eligible_interrupted (record : Record) (interrupted : record.state = .interrupted) :
    eligible runner reusable record = true ↔ record.attempt < runner.maxAttempts := by
  simp [eligible, interrupted]

theorem normalize_counter (now : String) (record : Record) :
    (normalizeCompletedGap runner reusable now record).attempt = record.attempt := by
  unfold normalizeCompletedGap
  split <;> rfl

theorem normalize_state (now : String) (record : Record) :
    (normalizeCompletedGap runner reusable now record).state = record.state ∨
      record.state = .completed ∧
        (normalizeCompletedGap runner reusable now record).state = .completedWithGaps := by
  unfold normalizeCompletedGap
  split
  · rename_i gap
    simp only [exhaustedGap, Bool.and_eq_true, decide_eq_true_eq] at gap
    exact Or.inr ⟨gap.1, rfl⟩
  · exact Or.inl rfl

theorem final_interrupted (interrupt : Bool) (records : Target → Record) :
    finalStatus runner interrupt records = .interrupted ↔
      interrupt = true ∨ ∃ target ∈ runner.targets, (records target).state = .interrupted := by
  unfold finalStatus
  simp only [Bool.or_eq_true, List.any_eq_true, List.contains_eq_mem, List.mem_singleton,
    decide_eq_true_eq]
  split_ifs with found <;> simp_all

end DosWeb.Batch
