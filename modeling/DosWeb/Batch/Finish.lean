import DosWeb.Batch.Life

/-!
Runs that nothing disturbs: they end, and they end interrupted exactly where a target was left
interrupted in its last attempt.
-/

namespace DosWeb.Batch

open Function (update update_self update_of_ne)
open Library.Progress

/-- A worker that no interruption and no failed publication has touched. -/
def Thread.calm : Thread → Bool
  | .waiting (.interrupted _) => false
  | .checked request fields => fields = request && (match request with
      | .interrupted _ => false
      | _ => true)
  | .written (.interrupted _) => false
  | .finished raised => !raised
  | _ => true

/-- The main thread marks no targets and has not raised. -/
def Main.calm {Target : Type} : Main Target → Bool
  | .locking _ | .marking _ _ _ | .refused | .raised => false
  | _ => true

/-- The run may still fill the queue: it has not left its loop. -/
def Main.filling {Target : Type} : Main Target → Bool
  | .leaving | .finishing | .settling | .ended _ => false
  | _ => true

def Quiet {Target : Type} (label : Label Target) : Prop := label.quiet = true

theorem quiet_done {Target : Type} (outcome : Publication)
    (quiet : Quiet (outcome.label : Label Target)) : outcome = .done := by
  cases outcome with
  | done => rfl
  | late => cases quiet
  | early => cases quiet

theorem publication_check {Target : Type} (outcome : Publication) (target : Target)
    (request fields : Update) : outcome.label ≠ .check target request fields := by
  cases outcome <;> simp [Publication.label]

section

variable {Target : Type} [DecidableEq Target] (runner : BatchRunner Target)

/-- No interruption and no failed publication has touched the run. -/
structure Undisturbed (run : Run Target) : Prop where
  interrupt : run.interrupt = false
  snapshot : run.interruptedTargetIds = []
  handlers : run.handlers = []
  main : run.main.calm = true
  threads : ∀ target, (run.threads target).calm = true

/-- What an undisturbed run knows of its queue and of its end. -/
structure Emptied (run : Run Target) : Prop where
  waiting : run.main = .waiting → run.active.length < runner.maxWorkers → run.pending = []
  empty : run.main.filling = false → run.pending = []
  ended : ∀ final, run.main = .ended final → final = finalStatus runner false run.records ∧
    ∃ updatedAt, run.disk = some ⟨final, updatedAt, run.records⟩

theorem undisturbed_guarded (run : Run Target) (held : Undisturbed run) (target : Target)
    (request : Update) (now : String) : run.guarded target request now = request := by
  simp [Run.guarded, held.interrupt, held.snapshot]

theorem calm_update (threads : Target → Thread) (held : ∀ target, (threads target).calm = true)
    (own : Target) (thread : Thread) (calm : thread.calm = true) (target : Target) :
    (update threads own thread target).calm = true := by
  by_cases same : target = own
  · rw [same, update_self]
    exact calm
  · rw [update_of_ne same]
    exact held target

variable (run next : Run Target)

theorem step_undisturbed (label : Label Target) (held : Undisturbed run)
    (quiet : Quiet label) (step : Step runner run label next) : Undisturbed next := by
  obtain ⟨interrupt, snapshot, handlers, main, threads⟩ := held
  cases step with
  | refuse _ _ _ | waitInterrupted _ _ _ | signal _ | fail _ _ _ _ _ | escape _ _ _ => cases quiet
  | scan _ _ _ handling | scanned _ handling =>
    rw [handlers] at handling
    cases handling
  | lock _ at_ _ _ | mark _ _ _ _ _ at_ _ | marked _ _ _ _ at_ _ _ =>
    rw [at_] at main
    cases main
  | collectRaised own _ _ _ raised =>
    have calm := threads own
    rw [raised] at calm
    cases calm
  | resume _ _ _ _ | admits _ _ _ | submitted _ _ _ | wait _ _ _ _ _ _ | timeout _ _ _ _
  | left _ _ _ | collected _ _ => exact ⟨interrupt, snapshot, handlers, rfl, threads⟩
  | create outcome _ _ _ | open_ outcome _ _ | settle outcome _ _ _ =>
    obtain rfl := quiet_done outcome quiet
    exact ⟨interrupt, snapshot, handlers, rfl, threads⟩
  | normalize outcome _ _ _ | finish outcome _ _ _ _ =>
    obtain rfl := quiet_done outcome quiet
    unfold Run.normalize
    by_cases gap : run.hasGap runner = true
    · simp only [gap, if_true]
      exact ⟨interrupt, snapshot, handlers, rfl, threads⟩
    · simp only [gap]
      exact ⟨interrupt, snapshot, handlers, rfl, threads⟩
  | woken _ _ _ | leave _ _ =>
    refine ⟨interrupt, snapshot, handlers, ?_, threads⟩
    dsimp only
    rw [interrupt]
    rfl
  | submit own _ _ _ _ | collect own _ _ _ _ =>
    exact ⟨interrupt, snapshot, handlers, rfl, calm_update run.threads threads own _ rfl⟩
  | begin own _ _ | invoke own _ | complete own _ _ =>
    exact ⟨interrupt, snapshot, handlers, main, calm_update run.threads threads own _ rfl⟩
  | check own request now thread _ =>
    have calm := threads own
    rw [thread] at calm
    refine ⟨interrupt, snapshot, handlers, main, calm_update run.threads threads own _ ?_⟩
    rw [undisturbed_guarded run ⟨interrupt, snapshot, handlers, main, threads⟩]
    cases request with
    | interrupted _ => cases calm
    | _ => simp [Thread.calm]
  | write own request fields now thread =>
    have calm := threads own
    rw [thread] at calm
    refine ⟨interrupt, snapshot, handlers, main, calm_update run.threads threads own _ ?_⟩
    cases request with
    | interrupted _ => simp [Thread.calm] at calm
    | _ => rfl
  | publish own request outcome now thread =>
    have finished := quiet_done outcome quiet
    have calm := threads own
    rw [thread] at calm
    subst finished
    cases request with
    | interrupted _ => cases calm
    | _ =>
      exact ⟨by simp [interrupt, interrupts], snapshot, handlers, main,
        calm_update run.threads threads own _ rfl⟩
  | artifacts _ _ _ => exact ⟨interrupt, snapshot, handlers, main, threads⟩

omit [DecidableEq Target] in
theorem emptied_thread (held : Emptied runner run)
    (coherent : Coherent runner run) (own : Target) (busy : run.threads own ≠ .idle)
    (main : next.main = run.main) (active : next.active = run.active)
    (pending : next.pending = run.pending) : Emptied runner next where
  waiting := by
    rw [main, active, pending]
    exact held.waiting
  empty := by
    rw [main, pending]
    exact held.empty
  ended := by
    intro final at_
    exact absurd (coherent.idle runner (by rw [← main, at_]; rfl) own) busy

omit [DecidableEq Target] in
theorem emptied_main (next : Run Target) (waiting : next.main ≠ .waiting)
    (ended : ∀ final, next.main ≠ .ended final)
    (empty : next.main.filling = false → next.pending = []) : Emptied runner next where
  waiting := fun at_ => absurd at_ waiting
  empty := empty
  ended := fun final at_ => absurd at_ (ended final)

theorem step_emptied (label : Label Target) (held : Emptied runner run)
    (undisturbed : Undisturbed run) (coherent : Coherent runner run) (quiet : Quiet label)
    (step : Step runner run label next) : Emptied runner next := by
  cases step with
  | refuse _ _ _ | waitInterrupted _ _ _ | signal _ | fail _ _ _ _ _ | escape _ _ _ => cases quiet
  | scan _ _ _ handling | scanned _ handling =>
    rw [undisturbed.handlers] at handling
    cases handling
  | lock _ at_ _ _ | mark _ _ _ _ _ at_ _ | marked _ _ _ _ at_ _ _ =>
    have calm := undisturbed.main
    rw [at_] at calm
    cases calm
  | resume _ _ _ _ | admits _ _ _ | submit _ _ _ _ _ | wait _ _ _ _ _ _ | timeout _ _ _ _
  | collect _ _ _ _ _ | collectRaised _ _ _ _ _ | collected _ _ =>
    exact emptied_main runner _ (by simp) (by simp) (fun at_ => by cases at_)
  | create outcome _ _ _ | open_ outcome _ _ | normalize outcome _ _ _ =>
    obtain rfl := quiet_done outcome quiet
    exact emptied_main runner _ (by simp) (by simp) (fun at_ => by cases at_)
  | woken _ _ _ =>
    apply emptied_main runner
    all_goals dsimp only; rw [undisturbed.interrupt]; simp [Main.filling]
  | submitted at_ quiet full =>
    refine ⟨?_, (fun filling => by cases filling), (fun final same => by cases same)⟩
    intro _ room
    by_contra waits
    exact full ⟨undisturbed.interrupt, room, waits⟩
  | left at_ quiet empty =>
    refine emptied_main runner _ (by simp) (by simp) ?_
    intro _
    apply held.waiting at_
    rw [empty]
    exact runner.concurrencyValid.1
  | leave at_ _ =>
    apply emptied_main runner
    · dsimp only; rw [undisturbed.interrupt]; simp
    · dsimp only; rw [undisturbed.interrupt]; simp
    · exact fun _ => held.empty (by rw [at_]; rfl)
  | finish outcome now at_ _ _ =>
    obtain rfl := quiet_done outcome quiet
    refine emptied_main runner _ (by simp) (by simp) ?_
    intro _
    have same : (run.normalize runner .done now).pending = run.pending := by
      unfold Run.normalize
      split_ifs <;> rfl
    exact same.trans (held.empty (by rw [at_]; rfl))
  | settle outcome now at_ _ =>
    obtain rfl := quiet_done outcome quiet
    refine ⟨by simp, fun _ => held.empty (by rw [at_]; rfl), ?_⟩
    intro final same
    have own : finalStatus runner run.interrupt run.records = final := Main.ended.inj same
    rw [undisturbed.interrupt] at own
    subst own
    exact ⟨rfl, now, by simp [Run.published, undisturbed.interrupt]⟩
  | begin own _ thread | check own _ _ thread _ | write own _ _ _ thread
  | publish own _ _ _ thread | invoke own thread | complete own _ thread =>
    exact emptied_thread runner run _ held coherent own (by simp [thread]) rfl rfl rfl
  | artifacts _ _ _ => exact ⟨held.waiting, held.empty, held.ended⟩

/-- An interrupted target of the plan has attempts left before the queue is filled, and is in the
queue or before its attempt afterwards. -/
def Pursued (run : Run Target) : Prop :=
  ∀ target ∈ runner.targets, (run.records target).state = .interrupted →
    if run.main.early then (run.records target).attempt < runner.maxAttempts
    else target ∈ run.pending ∨ (run.threads target).due = true

omit [DecidableEq Target] in
theorem pursued_main (held : Pursued runner run)
    (records : next.records = run.records) (pending : next.pending = run.pending)
    (threads : next.threads = run.threads) (early : next.main.early = run.main.early) :
    Pursued runner next := by
  unfold Pursued
  rw [records, pending, threads, early]
  exact held

theorem pursued_thread (held : Pursued runner run)
    (coherent : Coherent runner run) (own : Target) (thread : Thread)
    (busy : run.threads own ≠ .idle) (records : next.records = run.records)
    (pending : next.pending = run.pending) (main : next.main = run.main)
    (threads : next.threads = update run.threads own thread)
    (due : (run.threads own).due = true → thread.due = true) : Pursued runner next := by
  have late : run.main.early = false := by
    by_contra early
    exact busy (coherent.idle runner (run.main.early_vacant (by simpa using early)) own)
  intro target member interrupted
  have before := held target member (records ▸ interrupted)
  rw [late] at before
  rw [main, late, threads, pending]
  refine before.imp_right fun waiting => ?_
  by_cases same : target = own
  · subst same
    rw [update_self]
    exact due waiting
  · rw [update_of_ne same]
    exact waiting

theorem normalized_interrupted (run : Run Target) (outcome : Publication) (now : String)
    (target : Target)
    (interrupted : ((run.normalize runner outcome now).records target).state = .interrupted) :
    (run.records target).state = .interrupted := by
  unfold Run.normalize at interrupted
  by_cases gap : run.hasGap runner = true
  · simp only [gap, if_true, Run.normalized] at interrupted
    split_ifs at interrupted
    · rcases normalize_state runner (run.reusable target) now (run.records target) with same | moved
      · exact same ▸ interrupted
      · rw [moved.2] at interrupted
        cases interrupted
    · exact interrupted
  · rw [if_neg gap] at interrupted
    exact interrupted

theorem normalize_kept (run : Run Target) (outcome : Publication) (now : String) :
    (run.normalize runner outcome now).pending = run.pending ∧
      (run.normalize runner outcome now).threads = run.threads := by
  unfold Run.normalize
  split_ifs <;> exact ⟨rfl, rfl⟩

theorem pursued_normalize (held : Pursued runner run) (outcome : Publication) (now : String)
    (records : next.records = (run.normalize runner outcome now).records)
    (pending : next.pending = (run.normalize runner outcome now).pending)
    (threads : next.threads = (run.normalize runner outcome now).threads)
    (early : next.main.early = run.main.early) : Pursued runner next := by
  intro target member interrupted
  rw [records] at interrupted
  have before := held target member (normalized_interrupted runner run outcome now target interrupted)
  obtain ⟨waits, works⟩ := normalize_kept runner run outcome now
  rw [early, records, pending, threads, waits, works, normalized_counter]
  exact before

theorem calm_write (request fields : Update) (record : Record)
    (calm : (Thread.checked request fields).calm = true) :
    (fields.apply record).state ≠ .interrupted := by
  have same : fields = request := by
    simp only [Thread.calm, Bool.and_eq_true, decide_eq_true_eq] at calm
    exact calm.1
  subst same
  cases fields with
  | attempt number startedAt =>
    rw [apply_attempt_state]
    split_ifs <;> simp
  | completed _ => simp [Update.apply]
  | failed _ _ _ => simp [Update.apply]
  | interrupted _ => simp [Thread.calm] at calm

theorem step_pursued (label : Label Target) (held : Pursued runner run)
    (loaded : run.main ≠ .loading) (undisturbed : Undisturbed run) (coherent : Coherent runner run)
    (quiet : Quiet label) (step : Step runner run label next) : Pursued runner next := by
  cases step with
  | refuse _ _ _ | waitInterrupted _ _ _ | signal _ | fail _ _ _ _ _ | escape _ _ _ => cases quiet
  | resume _ at_ _ _ | create _ _ at_ _ => exact absurd at_ loaded
  | scan _ _ _ handling | scanned _ handling =>
    rw [undisturbed.handlers] at handling
    cases handling
  | lock _ at_ _ _ | mark _ _ _ _ _ at_ _ | marked _ _ _ _ at_ _ _ =>
    have calm := undisturbed.main
    rw [at_] at calm
    cases calm
  | collectRaised own _ _ _ raised =>
    have calm := undisturbed.threads own
    rw [raised] at calm
    cases calm
  | normalize outcome now at_ _ | finish outcome now at_ _ _ =>
    obtain rfl := quiet_done outcome quiet
    exact pursued_normalize runner run _ held .done now rfl rfl rfl (by rw [at_]; rfl)
  | open_ outcome now at_ =>
    obtain rfl := quiet_done outcome quiet
    intro target member interrupted
    have before := held target member interrupted
    rw [at_] at before
    apply Or.inl
    apply List.mem_filter.mpr
    exact ⟨member, (eligible_interrupted runner _ _ interrupted).mpr before⟩
  | admits at_ _ _ | submitted at_ _ _ | wait _ at_ _ _ _ _ | timeout at_ _ _ _ | left at_ _ _
  | collected at_ _ => exact pursued_main runner run _ held rfl rfl rfl (by rw [at_]; rfl)
  | woken _ at_ _ | leave at_ _ =>
    exact pursued_main runner run _ held rfl rfl rfl
      (by rw [at_]; dsimp only; rw [undisturbed.interrupt]; rfl)
  | settle outcome now at_ _ =>
    obtain rfl := quiet_done outcome quiet
    exact pursued_main runner run _ held rfl rfl rfl (by rw [at_]; rfl)
  | submit own rest at_ _ found =>
    intro target member interrupted
    have before := held target member interrupted
    rw [at_] at before
    by_cases same : target = own
    · subst same
      exact Or.inr (by simp [Thread.due])
    · rcases before with waits | due
      · rw [found] at waits
        exact Or.inl ((List.mem_cons.mp waits).resolve_left same)
      · exact Or.inr (by simpa [update_of_ne same] using due)
  | collect own rest at_ _ returned =>
    intro target member interrupted
    have before := held target member interrupted
    rw [at_] at before
    by_cases same : target = own
    · subst same
      have active := (coherent.scheduled.thread target).mp (by simp [returned])
      rcases before with waits | due
      · exact absurd rfl ((List.nodup_append.mp coherent.scheduled.distinct).2.2 target active
          target waits)
      · rw [returned] at due
        cases due
    · rcases before with waits | due
      · refine Or.inl ?_
        dsimp only
        split_ifs
        · exact List.mem_append_left _ waits
        · exact waits
      · exact Or.inr (by simpa [update_of_ne same] using due)
  | begin own now thread =>
    exact pursued_thread runner run _ held coherent own _ (by simp [thread]) rfl rfl rfl rfl
      fun _ => rfl
  | check own request now thread free =>
    exact pursued_thread runner run _ held coherent own _ (by simp [thread]) rfl rfl rfl rfl
      fun due => by rw [thread] at due; exact due
  | write own request fields now thread =>
    have calm := undisturbed.threads own
    rw [thread] at calm
    intro target member interrupted
    by_cases same : target = own
    · subst same
      simp only [Run.write, update_self] at interrupted
      exact absurd interrupted (calm_write request fields _ calm)
    · simp only [Run.write, update_of_ne same] at interrupted ⊢
      exact held target member interrupted
  | publish own _ _ _ thread | invoke own thread | complete own _ thread =>
    exact pursued_thread runner run _ held coherent own _ (by simp [thread]) rfl rfl rfl rfl
      fun due => by rw [thread] at due; cases due
  | artifacts _ _ _ => exact held

/-- The target was left interrupted in its last attempt, and nothing will run it. -/
def View.stuck (view : View) : Prop :=
  view.record.state = .interrupted ∧ runner.maxAttempts ≤ view.record.attempt ∧
    view.waits = false ∧ view.thread = .idle

omit [DecidableEq Target] in
theorem sees_stuck {target : Target} {view next : View} {label : Label Target}
    (held : view.stuck runner) (sees : Sees runner target view label next) : next.stuck runner := by
  obtain ⟨interrupted, exhausted, waits, idle⟩ := held
  cases sees with
  | mark _ now outside =>
    obtain ⟨counter, state⟩ := marked_halted view now
    refine ⟨?_, counter ▸ exhausted, waits, idle⟩
    rcases state with same | halted
    · exact same ▸ interrupted
    · exact halted.1
  | gap _ now published vacant =>
    have unchanged : normalizeCompletedGap runner view.reusable now view.record = view.record := by
      simp [normalizeCompletedGap, exhaustedGap, interrupted]
    refine ⟨?_, ?_, waits, idle⟩
    · dsimp only
      rw [unchanged]
      exact interrupted
    · dsimp only
      rw [unchanged]
      exact exhausted
  | enqueue _ published again vacant eligible =>
    refine ⟨interrupted, exhausted, ?_, idle⟩
    by_contra queued
    have room := eligible_attempts runner _ _ (eligible (by simpa using queued))
    omega
  | submit _ queued vacant =>
    rw [waits] at queued
    cases queued
  | collect _ raised again finished eligible | begin now at_ | check request now at_
  | write request fields now at_ | publish request outcome now at_ | invoke at_
  | complete now at_ => simp_all
  | fail code message now at_ | escape now at_ => simp_all
  | _ => exact ⟨interrupted, exhausted, waits, idle⟩

/-- The target is interrupted and has no attempt left. -/
def exhausted (record : Record) : Prop :=
  record.state = .interrupted ∧ runner.maxAttempts ≤ record.attempt

def limitOf (document : Document Target) (target : Target) : Nat :=
  max runner.maxAttempts (document.records target).attempt

/-- What holds in every state of an undisturbed run that resumes a document. -/
structure Resumed (document : Document Target) (run : Run Target) : Prop where
  kept : Kept runner (limitOf runner document) run
  undisturbed : Undisturbed run
  emptied : Emptied runner run
  loading : run.main = .loading → run.disk = some document
  pursued : (∀ target ∈ runner.targets, ¬ exhausted runner (document.records target)) →
    run.main ≠ .loading → Pursued runner run
  stuck : ∀ target, exhausted runner (document.records target) → run.main ≠ .loading →
    (run.view target).stuck runner

variable (document : Document Target)

theorem start_resumed (reusable : Target → Bool) :
    Resumed runner document (Run.start runner reusable (some document) []) where
  kept := {
    coherent := start_coherent runner _ _ _
    spent := fun _ => fresh_spent _ rfl
    within := by
      intro target record shown
      simp only [Run.view, Run.start, Option.map_some, Option.some_inj] at shown
      rw [← shown]
      exact le_max_right _ _
    loaded := fun at_ => by cases at_
    fresh := fun _ _ => rfl }
  undisturbed := ⟨rfl, rfl, rfl, rfl, fun _ => rfl⟩
  emptied := emptied_main runner _ (by simp [Run.start]) (by simp [Run.start]) fun _ => rfl
  loading := fun _ => rfl
  pursued := fun _ at_ => absurd rfl at_
  stuck := fun _ _ at_ => absurd rfl at_

theorem undisturbed_counting (label : Label Target)
    (held : Undisturbed run) (step : Step runner run label next) : Counting label := by
  intro target request fields same attempt
  cases step with
  | check own other now thread free =>
    cases same
    exact undisturbed_guarded run held _ _ _
  | _ => first | cases same | exact absurd same (publication_check _ _ _ _)

theorem loaded_resumed (run next : Run Target) (label : Label Target)
    (held : Resumed runner document run) (resumes : runner.resume = true) (quiet : Quiet label)
    (at_ : run.main = .loading) (loaded : next.main ≠ .loading)
    (step : Step runner run label next) :
    next.main.early = true ∧ next.records = document.records ∧ next.pending = [] ∧
      ∀ target, next.threads target = .idle := by
  have disk := held.loading at_
  have early := held.kept.coherent.placed.early (by rw [at_]; rfl)
  have idle := held.kept.coherent.idle runner (by rw [at_]; rfl)
  cases step with
  | resume other _ _ found =>
    rw [disk] at found
    cases found
    exact ⟨rfl, rfl, early, idle⟩
  | create _ _ _ fresh =>
    rw [resumes, disk] at fresh
    simp at fresh
  | refuse _ _ _ => cases quiet
  | begin own _ thread | check own _ _ thread _ | write own _ _ _ thread
  | publish own _ _ _ thread | invoke own thread | complete own _ thread =>
    rw [idle own] at thread
    cases thread
  | fail _ _ _ _ _ | escape _ _ _ | signal _ | waitInterrupted _ _ _ => cases quiet
  | scan _ _ _ _ | scanned _ _ | artifacts _ _ _ => exact absurd at_ loaded
  | normalize _ _ other _ | open_ _ _ other | admits other _ _ | submit _ _ other _ _
  | submitted other _ _ | wait _ other _ _ _ _ | timeout other _ _ _ | left other _ _
  | woken _ other _ | lock _ other _ _ | mark _ _ _ _ _ other _ | marked _ _ _ _ other _ _
  | collect _ _ other _ _ | collectRaised _ _ other _ _ | collected other _ | leave other _
  | finish _ _ other _ _ | settle _ _ other _ =>
    rw [at_] at other
    cases other

theorem loading_disk (label : Label Target) (step : Step runner run label next)
    (at_ : next.main = .loading) : run.main = .loading ∧ next.disk = run.disk ∨
      ∃ target, run.threads target ≠ .idle := by
  cases step with
  | marked changed next outcome now _ _ _ =>
    dsimp only at at_
    cases next <;> split_ifs at at_ <;> cases at_
  | create _ _ _ _ | normalize _ _ _ _ | open_ _ _ _ | woken _ _ _ | leave _ _ | finish _ _ _ _ _
  | settle _ _ _ _ =>
    dsimp only at at_
    split_ifs at at_
  | begin own _ thread | check own _ _ thread _ | write own _ _ _ thread
  | publish own _ _ _ thread | invoke own thread | complete own _ thread =>
    exact Or.inr ⟨own, by simp [thread]⟩
  | fail own _ _ _ thread | escape own _ thread =>
    exact Or.inr ⟨own, by rcases thread with thread | thread <;> simp [thread]⟩
  | signal _ | scan _ _ _ _ | scanned _ _ | artifacts _ _ _ => exact Or.inl ⟨at_, rfl⟩
  | _ => cases at_

theorem step_resumed (run next : Run Target) (label : Label Target)
    (resumes : runner.resume = true) (held : Resumed runner document run) (quiet : Quiet label)
    (step : Step runner run label next) : Resumed runner document next where
  kept := step_kept runner _ (fun _ => le_max_left _ _) resumes run next label held.kept
    (undisturbed_counting runner run next label held.undisturbed step) step
  undisturbed := step_undisturbed runner run next label held.undisturbed quiet step
  emptied := step_emptied runner run next label held.emptied held.undisturbed held.kept.coherent quiet
    step
  loading := by
    intro at_
    rcases loading_disk runner run next label step at_ with ⟨before, same⟩ | ⟨target, active⟩
    · exact same.trans (held.loading before)
    · by_cases before : run.main = .loading
      · exact absurd (held.kept.coherent.idle runner (by rw [before]; rfl) target) active
      · exact absurd at_ ((step_ahead runner run next label step).1 before)
  pursued := by
    intro condition loaded
    by_cases before : run.main = .loading
    · obtain ⟨early, records, -, -⟩ :=
        loaded_resumed runner document run next label held resumes quiet before loaded step
      intro target member interrupted
      rw [early, records]
      rw [records] at interrupted
      by_contra room
      exact condition target member ⟨interrupted, by simpa using room⟩
    · exact step_pursued runner run next label (held.pursued condition before) before
        held.undisturbed held.kept.coherent quiet step
  stuck := by
    intro target condition loaded
    by_cases before : run.main = .loading
    · obtain ⟨-, records, pending, idle⟩ :=
        loaded_resumed runner document run next label held resumes quiet before loaded step
      exact ⟨by simpa [Run.view, records] using condition.1,
        by simpa [Run.view, records] using condition.2, by simp [Run.view, pending], idle target⟩
    · exact sees_stuck runner (held.stuck target condition before)
        (step_view runner run next label held.kept.coherent before step target)

theorem reaches_resumed (run next : Run Target)
    (resumes : runner.resume = true) (held : Resumed runner document run)
    (reaches : Reaches runner Quiet run next) : Resumed runner document next := by
  induction reaches with
  | refl => exact held
  | tail _ step ih =>
    obtain ⟨label, quiet, step⟩ := step
    exact step_resumed runner document _ _ label resumes ih quiet step

/-- The states before the scheduling, counted from its start. -/
def Main.setup : Main Target → Nat
  | .loading => 3
  | .normalizing => 2
  | .opening => 1
  | _ => 0

def Works (run next : Run Target) : Prop :=
  ∃ label, (label.idle = false ∧ Quiet label) ∧ Step runner run label next

theorem works_setup (run next : Run Target)
    (held : Resumed runner document run) (early : run.main.early = true)
    (works : Works runner run next) : next.main.setup < run.main.setup := by
  obtain ⟨label, ⟨busy, quiet⟩, step⟩ := works
  have idle := held.kept.coherent.idle runner (run.main.early_vacant early)
  cases step with
  | resume _ at_ _ _ =>
    rw [at_]
    exact Nat.lt_succ_self _
  | create outcome _ at_ _ | normalize outcome _ at_ _ | open_ outcome _ at_ =>
    obtain rfl := quiet_done outcome quiet
    rw [at_]
    exact Nat.lt_succ_self _
  | refuse _ _ _ | fail _ _ _ _ _ | escape _ _ _ | signal _ | waitInterrupted _ _ _ => cases quiet
  | timeout _ _ _ _ | artifacts _ _ _ => cases busy
  | scan _ _ _ handling | scanned _ handling =>
    rw [held.undisturbed.handlers] at handling
    cases handling
  | begin own _ thread | check own _ _ thread _ | write own _ _ _ thread
  | publish own _ _ _ thread | invoke own thread | complete own _ thread =>
    rw [idle own] at thread
    cases thread
  | admits other _ _ | submit _ _ other _ _ | submitted other _ _ | wait _ other _ _ _ _
  | left other _ _ | woken _ other _ | lock _ other _ _ | mark _ _ _ _ _ other _
  | marked _ _ _ _ other _ _ | collect _ _ other _ _ | collectRaised _ _ other _ _
  | collected other _ | leave other _ | finish _ _ other _ _ | settle _ _ other _ =>
    rw [other] at early
    cases early

theorem works_reaches (works : Relation.ReflTransGen (Works runner) run next) :
    Reaches runner Quiet run next := by
  induction works with
  | refl => exact .refl
  | tail _ step ih =>
    obtain ⟨label, known, taken⟩ := step
    exact .tail ih ⟨label, known.2, taken⟩

theorem works_progress (run : Run Target) (coherent : Coherent runner run)
    (going : run.main.over = false) : ∃ next, Works runner run next := by
  obtain ⟨label, next, known, step⟩ := step_progress runner run coherent going
  exact ⟨next, label, known, step⟩

theorem resumed_ends (run : Run Target)
    (resumes : runner.resume = true) (held : Resumed runner document run) :
    ∃ last, Reaches runner Quiet run last ∧ last.main.over = true := by
  have keeps (state next : Run Target) (resumed : Resumed runner document state)
      (works : Works runner state next) : Resumed runner document next := by
    obtain ⟨label, known, step⟩ := works
    exact step_resumed runner document state next label resumes resumed known.2 step
  obtain ⟨begun, setup, late⟩ := reaches_end (Resumed runner document)
    (fun state => state.main.setup) (fun state => state.main.early = false) keeps
    (fun state next resumed early works =>
      works_setup runner document state next resumed (by simpa using early) works)
    (fun state resumed early => by
      apply works_progress runner state resumed.kept.coherent
      have calm := resumed.undisturbed.main
      cases at_ : state.main <;> simp_all [Main.early, Main.over, Main.calm])
    run held
  have started := reaches_resumed runner document run begun resumes held
    (works_reaches runner run begun setup)
  obtain ⟨last, rest, stopped⟩ := reaches_end
    (fun state => Resumed runner document state ∧ state.main.early = false) (Run.measure runner)
    (fun state => state.main.over = true)
    (fun state next resumed works => by
      obtain ⟨label, -, step⟩ := id works
      exact ⟨keeps state next resumed.1 works, (step_ahead runner state next label step).2 resumed.2⟩)
    (fun state next resumed _ works => by
      obtain ⟨label, known, step⟩ := works
      exact step_lowers runner state next label resumed.1.kept.coherent (limitOf runner document)
        (resumed.1.kept.loaded (begun_loaded state.main resumed.2)) resumed.2 known.1 step)
    (fun state resumed going =>
      works_progress runner state resumed.1.kept.coherent (by simpa using going))
    begun ⟨started, late⟩
  exact ⟨last, works_reaches runner run last (setup.trans rest), stopped⟩

/-- Resuming a document without any disturbance, a run can always be brought to its end, and it
ends with a status other than interrupted, which it returns. -/
def Finishes (reusable : Target → Bool) (document : Document Target) : Prop :=
  ∀ run, Reaches runner Quiet (Run.start runner reusable (some document) []) run →
    (∃ last, Reaches runner Quiet run last ∧ last.main.over = true) ∧
      (run.main.over = true → ∃ final result, run.main = .ended final ∧ run.disk = some result ∧
        final ≠ .interrupted ∧ runResult result = .ok result)

theorem resumed_over (run : Run Target)
    (held : Resumed runner document run) (stopped : run.main.over = true) :
    ∃ updatedAt, run.main = .ended (finalStatus runner false run.records) ∧
      run.disk = some ⟨finalStatus runner false run.records, updatedAt, run.records⟩ := by
  have calm := held.undisturbed.main
  cases at_ : run.main with
  | ended final =>
    obtain ⟨same, updatedAt, disk⟩ := held.emptied.ended final at_
    exact ⟨updatedAt, by rw [same], by rw [← same]; exact disk⟩
  | refused | raised =>
    rw [at_] at calm
    cases calm
  | _ =>
    rw [at_] at stopped
    cases stopped

/-- An interrupted batch can be finished exactly when no target of it was left interrupted in its
last attempt. -/
theorem finishes_iff (resumes : runner.resume = true) (reusable : Target → Bool)
    (document : Document Target) : Finishes runner reusable document ↔
      ∀ target ∈ runner.targets, ¬ exhausted runner (document.records target) := by
  have start := start_resumed runner document reusable
  constructor
  · intro finishes target member stuck
    obtain ⟨last, reaches, stopped⟩ := (finishes _ .refl).1
    have held := reaches_resumed runner document _ last resumes start reaches
    obtain ⟨updatedAt, ended, -⟩ := resumed_over runner document last held stopped
    obtain ⟨final, result, at_, -, status, -⟩ := (finishes last reaches).2 stopped
    rw [ended] at at_
    cases at_
    apply status
    apply (final_interrupted runner false last.records).mpr
    exact Or.inr ⟨target, member, (held.stuck target stuck (by simp [ended])).1⟩
  · intro condition run reaches
    have held := reaches_resumed runner document _ run resumes start reaches
    refine ⟨resumed_ends runner document run resumes held, ?_⟩
    intro stopped
    obtain ⟨updatedAt, ended, disk⟩ := resumed_over runner document run held stopped
    have settled : finalStatus runner false run.records ≠ .interrupted := by
      intro interrupted
      obtain ⟨target, member, state⟩ :=
        ((final_interrupted runner false run.records).mp interrupted).resolve_left (by simp)
      have pursued := held.pursued condition (by simp [ended]) target member state
      rw [ended] at pursued
      rcases pursued with waits | due
      · rw [held.emptied.empty (by rw [ended]; rfl)] at waits
        cases waits
      · rw [held.kept.coherent.idle runner (by rw [ended]; rfl)] at due
        cases due
    exact ⟨_, _, ended, disk, settled, if_neg settled⟩

end

/-- The batch that an earlier run left interrupted with an attempt to go can be finished. -/
theorem twice_finishes :
    Finishes twiceRunner (fun _ => false) ⟨.interrupted, "09:05", fun _ => interruptedRecord 1⟩ :=
  (finishes_iff twiceRunner rfl _ _).mpr fun _ _ stuck => by
    simp [exhausted, twiceRunner, soleRunner, interruptedRecord] at stuck

theorem quiet_on {run next last : Run Unit} {label : Label Unit}
    (step : Step onceRunner run label next) (quiet : Quiet label)
    (rest : Reaches onceRunner Quiet next last) :
    Reaches onceRunner Quiet run last := .head ⟨label, quiet, step⟩ rest

/-- What a run leaves that was interrupted during the last attempt of its target. -/
def leftDocument : Document Unit where
  status := .interrupted
  updatedAt := "09:05"
  records := fun _ => interruptedRecord 1

theorem last_attempt_interrupted : ∃ run : Run Unit,
    Life onceRunner (fun _ => True) (Run.start onceRunner (fun _ => false) none []) run ∧
      run.main = .ended .interrupted ∧ run.disk = some leftDocument :=
  ⟨_, goes_on (.create _ .done "09:00" rfl (.inr rfl)) <|
    goes_on (.normalize _ .done "09:00" rfl (.inl rfl)) <| goes_on (.open_ _ .done "09:00" rfl) <|
    goes_on (.admits _ rfl rfl (by decide)) <| goes_on (.submit _ () [] rfl rfl rfl) <|
    goes_on (.submitted _ rfl rfl (by decide)) <| goes_on (.begin _ () "09:00" rfl) <|
    goes_on (.check _ () _ "09:00" rfl rfl) <| goes_on (.write _ () _ _ "09:00" rfl) <|
    goes_on (.publish _ () _ .done "09:00" rfl) <| goes_on (.invoke _ () rfl) <|
    goes_on (.signal _ rfl) <| goes_on (.scan _ () [] [] rfl) <| goes_on (.scanned _ [] rfl) <|
    goes_on (.complete _ () "09:05" rfl) <| goes_on (.check _ () _ "09:05" rfl rfl) <|
    goes_on (.write _ () _ _ "09:05" rfl) <| goes_on (.publish _ () _ .done "09:05" rfl) <|
    goes_on (.wait _ [()] rfl rfl (by decide) (by decide) (by decide)) <|
    goes_on (.woken _ [()] rfl rfl) <| goes_on (.lock _ (.collecting [()]) rfl rfl rfl) <|
    goes_on (.mark _ () [] false (.collecting [()]) "09:05" rfl rfl) <|
    goes_on (.marked _ false (.collecting [()]) .done "09:05" rfl rfl (.inl rfl)) <|
    goes_on (.collect _ () [] rfl rfl rfl) <| goes_on (.collected _ rfl rfl) <|
    goes_on (.submitted _ rfl rfl (by decide)) <| goes_on (.left _ rfl rfl rfl) <|
    goes_on (.leave _ rfl rfl) <| goes_on (.lock _ .finishing rfl rfl rfl) <|
    goes_on (.mark _ () [] false .finishing "09:05" rfl rfl) <|
    goes_on (.marked _ false .finishing .done "09:05" rfl rfl (.inl rfl)) <|
    goes_on (.finish _ .done "09:05" rfl rfl (.inl rfl)) <|
    goes_on (.settle _ .done "09:05" rfl rfl) .refl, rfl, rfl⟩

theorem left_ends_interrupted : ∃ run : Run Unit,
    Reaches onceRunner Quiet (Run.start onceRunner (fun _ => false) (some leftDocument) []) run ∧
      run.main = .ended .interrupted := ⟨_, quiet_on (.resume _ leftDocument rfl rfl rfl) rfl <|
    quiet_on (.normalize _ .done "10:00" rfl (.inl rfl)) rfl <|
    quiet_on (.open_ _ .done "10:00" rfl) rfl <| quiet_on (.submitted _ rfl rfl (by decide)) rfl <|
    quiet_on (.left _ rfl rfl rfl) rfl <| quiet_on (.leave _ rfl rfl) rfl <|
    quiet_on (.finish _ .done "10:00" rfl rfl (.inl rfl)) rfl <|
    quiet_on (.settle _ .done "10:00" rfl rfl) rfl .refl, rfl⟩

theorem interrupted_batch_unfinished : ¬ ∀ (run : Run Unit) (document : Document Unit),
      Life onceRunner (fun _ => True) (Run.start onceRunner (fun _ => false) none []) run →
        run.disk = some document → Finishes onceRunner (fun _ => false) document := by
  intro finishes
  obtain ⟨run, life, -, disk⟩ := last_attempt_interrupted
  obtain ⟨last, reaches, ended⟩ := left_ends_interrupted
  obtain ⟨final, result, at_, -, status, -⟩ :=
    (finishes run leftDocument life disk last reaches).2 (by rw [ended]; rfl)
  rw [ended] at at_
  cases at_
  exact status rfl

end DosWeb.Batch
