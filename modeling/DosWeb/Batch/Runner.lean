import DosWeb.Batch.State

/-!
The run of a batch as steps of its main thread, of the signal handler that runs inside it and of
the worker threads. A worker is named by its target; the records are read by anyone and written
by the holder of the state lock, and the document on disk is what was last published.
-/

namespace DosWeb.Batch

open Function (update)

inductive Thread where
  | idle
  | submitted
  | waiting (request : Update)
  | checked (request fields : Update)
  | written (request : Update)
  | preparing
  | running
  | finished (raised : Bool)
  deriving DecidableEq

/-- The worker is inside the locked part of `_update`. -/
def Thread.inside : Thread → Bool
  | .checked _ _ => true
  | .written _ => true
  | _ => false

/-- Where the main thread goes on after it has marked the interrupted targets. -/
inductive Next (Target : Type) where
  | waiting
  | collecting (done : List Target)
  | finishing
  deriving DecidableEq

inductive Main (Target : Type) where
  | loading
  | refused
  | normalizing
  | opening
  | submitting
  | admitting
  | waiting
  | woken (done : List Target)
  | locking (next : Next Target)
  | marking (rest : List Target) (changed : Bool) (next : Next Target)
  | collecting (done : List Target)
  | leaving
  | finishing
  | settling
  | ended (final : BatchStatus)
  | raised
  deriving DecidableEq

def Next.main {Target : Type} : Next Target → Main Target
  | .waiting => .waiting
  | .collecting done => .collecting done
  | .finishing => .finishing

def Main.installed {Target : Type} : Main Target → Bool
  | .loading | .refused | .normalizing | .opening | .ended _ => false
  | _ => true

inductive Holder (Target : Type) where
  | main
  | thread (target : Target)
  deriving DecidableEq

/-- How a publication ends: the state file is replaced and all is written, an error came after
the state file was replaced, or before. -/
inductive Publication where
  | done
  | late
  | early
  deriving DecidableEq

inductive Label (Target : Type) where
  | work
  | fault
  | signal
  | timeout
  | artifacts
  | check (target : Target) (request fields : Update)
  | invoke (target : Target)
  | escape (target : Target)
  | failure (target : Target)

def Publication.label {Target : Type} : Publication → Label Target
  | .done => .work
  | .late => .fault
  | .early => .fault

structure Run (Target : Type) where
  records : Target → Record
  status : BatchStatus
  interrupt : Bool
  interruptedTargetIds : List Target
  handlers : List (List Target)
  lock : Option (Holder Target)
  main : Main Target
  pending : List Target
  active : List Target
  threads : Target → Thread
  reusable : Target → Bool
  disk : Option (Document Target)
  invoked : List (Target × Nat)

variable {Target : Type} [DecidableEq Target] (runner : BatchRunner Target)

def Run.start (reusable : Target → Bool) (disk : Option (Document Target))
    (invoked : List (Target × Nat)) : Run Target where
  records := initialRecord runner
  status := .pending
  interrupt := false
  interruptedTargetIds := []
  handlers := []
  lock := none
  main := .loading
  pending := []
  active := []
  threads := fun _ => .idle
  reusable
  disk
  invoked

/-- `_publish`: the records as they are, unless the publication fails too early. -/
def Run.published (run : Run Target) (outcome : Publication) (now : String) :
    Option (Document Target) :=
  if outcome = .early then run.disk else some ⟨run.status, now, run.records⟩

/-- The fields an update writes: an interrupted target stays interrupted. -/
def Run.guarded (run : Run Target) (target : Target) (request : Update) (now : String) : Update :=
  if target ∈ run.interruptedTargetIds ∨
      run.interrupt = true ∧ (run.records target).state = .interrupted then
    .interrupted (request.finishedAt.getD now)
  else request

def Run.write (run : Run Target) (target : Target) (fields : Update) (now : String) :
    Target → Record :=
  update run.records target { fields.apply (run.records target) with updatedAt := some now }

/-- A publication that failed, as the update that records it. -/
def publishFailed (now : String) : Update :=
  .failed "BATCH_STATE_PUBLISH_FAILED" "Batch state could not be published." now

/-- Where a worker goes on after it has published an update. -/
def Thread.after (request : Update) (outcome : Publication) (now : String) : Thread :=
  match request with
  | .attempt _ _ => if outcome = .done then .preparing else .waiting (publishFailed now)
  | .completed _ => if outcome = .done then .finished false else .waiting (publishFailed now)
  | .failed _ _ _ => .finished (outcome ≠ .done)
  | .interrupted _ => .finished (outcome ≠ .done)

/-- A worker that was interrupted interrupts the batch once its update is published. -/
def interrupts (request : Update) (outcome : Publication) : Bool :=
  match request with
  | .interrupted _ => outcome = .done
  | _ => false

def Run.markIds (run : Run Target) (target : Target) : List Target :=
  if (run.records target).state.busy then target :: run.interruptedTargetIds
  else run.interruptedTargetIds

def Run.marks (run : Run Target) (target : Target) : Prop :=
  target ∈ run.markIds target ∧ (run.records target).state ≠ .interrupted

instance (run : Run Target) (target : Target) : Decidable (run.marks target) :=
  inferInstanceAs (Decidable (_ ∧ _))

def Run.markRecords (run : Run Target) (target : Target) (now : String) : Target → Record :=
  if run.marks target then
    update run.records target
      { (Update.interrupted now).apply (run.records target) with
        updatedAt := some ((run.records target).updatedAt.getD now) }
  else run.records

/-- `_normalize_completed_gaps` on every record of the plan. -/
def Run.normalized (run : Run Target) (now : String) : Target → Record := fun target =>
  if target ∈ runner.targets then
    normalizeCompletedGap runner (run.reusable target) now (run.records target)
  else run.records target

def Run.hasGap (run : Run Target) : Bool :=
  runner.targets.any fun target => exhaustedGap runner (run.reusable target) (run.records target)

/-- The state after `_normalize_completed_gaps`, which publishes only a change. -/
def Run.normalize (run : Run Target) (outcome : Publication) (now : String) : Run Target :=
  let changed := { run with records := run.normalized runner now }
  if run.hasGap runner then { changed with disk := changed.published outcome now } else run

def Run.eligible (run : Run Target) (target : Target) : Bool :=
  DosWeb.Batch.eligible runner (run.reusable target) (run.records target)

inductive Step : Run Target → Label Target → Run Target → Prop where
  | resume (run : Run Target) (document : Document Target) (loading : run.main = .loading)
      (resumes : runner.resume = true) (found : run.disk = some document) :
      Step run .work
        { run with
          records := document.records, status := document.status, main := .normalizing }
  | refuse (run : Run Target) (loading : run.main = .loading) (resumes : runner.resume = true)
      (found : run.disk ≠ none) :
      Step run .fault { run with main := .refused }
  | create (run : Run Target) (outcome : Publication) (now : String) (loading : run.main = .loading)
      (fresh : runner.resume = false ∨ run.disk = none) :
      Step run outcome.label
        { run with
          disk := run.published outcome now
          main := if outcome = .done then .normalizing else .refused }
  | normalize (run : Run Target) (outcome : Publication) (now : String)
      (normalizing : run.main = .normalizing)
      (publishes : outcome = .done ∨ run.hasGap runner = true) :
      Step run outcome.label
        { run.normalize runner outcome now with
          main := if outcome = .done then .opening else .refused }
  | open_ (run : Run Target) (outcome : Publication) (now : String) (opening : run.main = .opening) :
      Step run outcome.label
        { run with
          status := .running
          disk := { run with status := .running }.published outcome now
          pending := if outcome = .done then runner.targets.filter (run.eligible runner) else []
          main := if outcome = .done then .submitting else .refused }
  | admits (run : Run Target) (submitting : run.main = .submitting) (quiet : run.handlers = [])
      (free : run.interrupt = false ∧ run.active.length < runner.maxWorkers ∧ run.pending ≠ []) :
      Step run .work { run with main := .admitting }
  | submit (run : Run Target) (target : Target) (rest : List Target)
      (admitting : run.main = .admitting) (quiet : run.handlers = [])
      (next : run.pending = target :: rest) :
      Step run .work
        { run with
          pending := rest
          active := run.active ++ [target]
          threads := update run.threads target .submitted
          main := .submitting }
  | submitted (run : Run Target) (submitting : run.main = .submitting) (quiet : run.handlers = [])
      (full : ¬ (run.interrupt = false ∧ run.active.length < runner.maxWorkers ∧
        run.pending ≠ [])) :
      Step run .work { run with main := .waiting }
  | wait (run : Run Target) (done : List Target) (waiting : run.main = .waiting)
      (quiet : run.handlers = []) (some_ : done ≠ []) (distinct : done.Nodup)
      (each : ∀ target ∈ done, target ∈ run.active ∧
        ∃ raised, run.threads target = .finished raised) :
      Step run .work { run with main := .woken done }
  | timeout (run : Run Target) (waiting : run.main = .waiting) (quiet : run.handlers = [])
      (unfinished : ∀ target ∈ run.active, ∀ raised, run.threads target ≠ .finished raised)
      (active : run.active ≠ []) :
      Step run .timeout { run with main := .woken [] }
  | waitInterrupted (run : Run Target) (waiting : run.main = .waiting) (quiet : run.handlers = [])
      (active : run.active ≠ []) :
      Step run .signal
        { run with
          interrupt := true, handlers := [runner.targets], main := .locking .waiting }
  | left (run : Run Target) (waiting : run.main = .waiting) (quiet : run.handlers = [])
      (empty : run.active = []) :
      Step run .work { run with main := .leaving }
  | woken (run : Run Target) (done : List Target) (awake : run.main = .woken done)
      (quiet : run.handlers = []) :
      Step run .work
        { run with
          main := if run.interrupt then .locking (.collecting done) else .collecting done }
  | lock (run : Run Target) (next : Next Target) (locking : run.main = .locking next)
      (quiet : run.handlers = []) (free : run.lock = none) :
      Step run .work
        { run with lock := some .main, main := .marking runner.targets false next }
  | mark (run : Run Target) (target : Target) (rest : List Target) (changed : Bool)
      (next : Next Target) (now : String) (marking : run.main = .marking (target :: rest) changed next)
      (quiet : run.handlers = []) :
      Step run .work
        { run with
          interruptedTargetIds := run.markIds target
          records := run.markRecords target now
          main := .marking rest (changed || run.marks target) next }
  | marked (run : Run Target) (changed : Bool) (next : Next Target) (outcome : Publication)
      (now : String) (marking : run.main = .marking [] changed next) (quiet : run.handlers = [])
      (publishes : outcome = .done ∨ changed = true) :
      Step run outcome.label
        { run with
          lock := none
          disk := if changed then run.published outcome now else run.disk
          main := if outcome = .done then next.main else .raised }
  | collect (run : Run Target) (target : Target) (rest : List Target)
      (collecting : run.main = .collecting (target :: rest)) (quiet : run.handlers = [])
      (returned : run.threads target = .finished false) :
      Step run .work
        { run with
          active := run.active.erase target
          threads := update run.threads target .idle
          pending :=
            if run.interrupt = false ∧ run.eligible runner target = true then
              run.pending ++ [target]
            else run.pending
          main := .collecting rest }
  | collectRaised (run : Run Target) (target : Target) (rest : List Target)
      (collecting : run.main = .collecting (target :: rest)) (quiet : run.handlers = [])
      (raised : run.threads target = .finished true) :
      Step run .work
        { run with
          active := run.active.erase target
          threads := update run.threads target .idle
          main := .raised }
  | collected (run : Run Target) (collecting : run.main = .collecting []) (quiet : run.handlers = []) :
      Step run .work { run with main := .submitting }
  | leave (run : Run Target) (leaving : run.main = .leaving) (quiet : run.handlers = []) :
      Step run .work
        { run with main := if run.interrupt then .locking .finishing else .finishing }
  | finish (run : Run Target) (outcome : Publication) (now : String)
      (finishing : run.main = .finishing) (quiet : run.handlers = [])
      (publishes : outcome = .done ∨ run.hasGap runner = true) :
      Step run outcome.label
        { run.normalize runner outcome now with
          main := if outcome = .done then .settling else .raised }
  | settle (run : Run Target) (outcome : Publication) (now : String)
      (settling : run.main = .settling) (quiet : run.handlers = []) :
      Step run outcome.label
        { run with
          status := finalStatus runner run.interrupt run.records
          disk := { run with
            status := finalStatus runner run.interrupt run.records }.published outcome now
          main := if outcome = .done then .ended (finalStatus runner run.interrupt run.records)
            else .raised }
  | signal (run : Run Target) (installed : run.main.installed = true) :
      Step run .signal
        { run with interrupt := true, handlers := runner.targets :: run.handlers }
  | scan (run : Run Target) (target : Target) (rest : List Target) (outer : List (List Target))
      (handling : run.handlers = (target :: rest) :: outer) :
      Step run .work
        { run with
          interruptedTargetIds := run.markIds target
          handlers := rest :: outer }
  | scanned (run : Run Target) (outer : List (List Target)) (handling : run.handlers = [] :: outer) :
      Step run .work { run with handlers := outer }
  | begin (run : Run Target) (target : Target) (now : String)
      (thread : run.threads target = .submitted) :
      Step run .work
        { run with
          threads := update run.threads target
            (.waiting (.attempt ((run.records target).attempt + 1) now)) }
  | check (run : Run Target) (target : Target) (request : Update) (now : String)
      (thread : run.threads target = .waiting request) (free : run.lock = none) :
      Step run (.check target request (run.guarded target request now))
        { run with
          lock := some (.thread target)
          threads := update run.threads target (.checked request (run.guarded target request now)) }
  | write (run : Run Target) (target : Target) (request fields : Update) (now : String)
      (thread : run.threads target = .checked request fields) :
      Step run .work
        { run with
          records := run.write target fields now
          threads := update run.threads target (.written request) }
  | publish (run : Run Target) (target : Target) (request : Update) (outcome : Publication)
      (now : String) (thread : run.threads target = .written request) :
      Step run outcome.label
        { run with
          lock := none
          disk := run.published outcome now
          interrupt := run.interrupt || interrupts request outcome
          threads := update run.threads target (.after request outcome now) }
  | invoke (run : Run Target) (target : Target) (thread : run.threads target = .preparing) :
      Step run (.invoke target)
        { run with
          threads := update run.threads target .running
          invoked := (target, run.disk.elim 0 fun document => (document.records target).attempt) ::
            run.invoked }
  | complete (run : Run Target) (target : Target) (now : String)
      (thread : run.threads target = .running) :
      Step run .work
        { run with threads := update run.threads target (.waiting (.completed now)) }
  | fail (run : Run Target) (target : Target) (code message now : String)
      (thread : run.threads target = .preparing ∨ run.threads target = .running) :
      Step run (.failure target)
        { run with threads := update run.threads target (.waiting (.failed code message now)) }
  | escape (run : Run Target) (target : Target) (now : String)
      (thread : run.threads target = .preparing ∨ run.threads target = .running) :
      Step run (.escape target)
        { run with
          interruptedTargetIds := target :: run.interruptedTargetIds
          threads := update run.threads target (.waiting (.interrupted now)) }
  | artifacts (run : Run Target) (target : Target) (now : Bool)
      (own : now = false ∨ run.threads target = .preparing ∨ run.threads target = .running) :
      Step run .artifacts { run with reusable := update run.reusable target now }

def Reaches (allowed : Label Target → Prop) : Run Target → Run Target → Prop :=
  Relation.ReflTransGen fun run next => ∃ label, allowed label ∧ Step runner run label next

def Began (run : Run Target) : Prop := run.main = .normalizing ∧ ∃ reusable disk invoked label,
    Step runner (Run.start runner reusable disk invoked) label run

end DosWeb.Batch
