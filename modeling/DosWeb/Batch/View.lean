import DosWeb.Batch.Schedule

/-!
A run as one of its targets sees it: its record, its worker, its place in the queue and in the
interruption snapshot, and what is published of it. Every step of a run is one of few steps of
this view.
-/

namespace DosWeb.Batch

open Function (update_self update_of_ne)

structure View where
  record : Record
  thread : Thread
  snapshot : Bool
  interrupt : Bool
  published : Option Record
  waits : Bool
  reusable : Bool
  spent : List Nat

/-- An update of the target writes an interruption instead. -/
def View.stopped (view : View) : Prop :=
  view.snapshot = true ∨ view.interrupt = true ∧ view.record.state = .interrupted

instance (view : View) : Decidable view.stopped := inferInstanceAs (Decidable (_ ∨ _ ∧ _))

def View.guarded (view : View) (request : Update) (now : String) : Update :=
  if view.stopped then .interrupted (request.finishedAt.getD now) else request

/-- The view after the marker has looked at the target. -/
def View.marked (view : View) (now : String) : View :=
  let snapshot := view.snapshot || view.record.state.busy
  { view with
    snapshot
    record :=
      if snapshot = true ∧ view.record.state ≠ .interrupted then
        { (Update.interrupted now).apply view.record with
          updatedAt := some (view.record.updatedAt.getD now) }
      else view.record }

variable {Target : Type} [DecidableEq Target] (runner : BatchRunner Target)

def Run.view (run : Run Target) (target : Target) : View where
  record := run.records target
  thread := run.threads target
  snapshot := target ∈ run.interruptedTargetIds
  interrupt := run.interrupt
  published := run.disk.map fun document => document.records target
  waits := target ∈ run.pending
  reusable := run.reusable target
  spent := (run.invoked.filter fun invocation => invocation.1 = target).map Prod.snd

inductive Sees (target : Target) : View → Label Target → View → Prop where
  | stay (view : View) (label : Label Target) : Sees target view label view
  | interrupt (view : View) (label : Label Target) :
      Sees target view label { view with interrupt := true }
  | snapshot (view : View) (label : Label Target) (busy : view.record.state.busy = true) :
      Sees target view label { view with snapshot := true }
  | published (view : View) (label : Label Target) (interrupt : Bool)
      (outside : view.thread.inside = false) :
      Sees target view label
        { view with published := some view.record, interrupt := view.interrupt || interrupt }
  | mark (view : View) (label : Label Target) (now : String)
      (outside : view.thread.inside = false) : Sees target view label (view.marked now)
  | gap (view : View) (label : Label Target) (now : String) (published : Bool)
      (vacant : view.thread = .idle) :
      Sees target view label
        { view with
          record := normalizeCompletedGap runner view.reusable now view.record
          published :=
            if published then some (normalizeCompletedGap runner view.reusable now view.record)
            else view.published }
  | enqueue (view : View) (label : Label Target) (published waits : Bool)
      (vacant : view.thread = .idle)
      (eligible : waits = true → eligible runner view.reusable view.record = true) :
      Sees target view label
        { view with
          waits, published := if published then some view.record else view.published }
  | submit (view : View) (label : Label Target) (waits : view.waits = true)
      (vacant : view.thread = .idle) :
      Sees target view label { view with waits := false, thread := .submitted }
  | collect (view : View) (label : Label Target) (raised again : Bool)
      (finished : view.thread = .finished raised)
      (eligible : again = true → eligible runner view.reusable view.record = true) :
      Sees target view label { view with thread := .idle, waits := again }
  | begin (view : View) (now : String) (at_ : view.thread = .submitted) :
      Sees target view .work
        { view with thread := .waiting (.attempt (view.record.attempt + 1) now) }
  | check (view : View) (request : Update) (now : String) (at_ : view.thread = .waiting request) :
      Sees target view (.check target request (view.guarded request now))
        { view with thread := .checked request (view.guarded request now) }
  | write (view : View) (request fields : Update) (now : String)
      (at_ : view.thread = .checked request fields) :
      Sees target view .work
        { view with
          thread := .written request
          record := { fields.apply view.record with updatedAt := some now } }
  | publish (view : View) (request : Update) (outcome : Publication) (now : String)
      (at_ : view.thread = .written request) :
      Sees target view outcome.label
        { view with
          thread := .after request outcome now
          interrupt := view.interrupt || interrupts request outcome
          published := if outcome = .early then view.published else some view.record }
  | invoke (view : View) (at_ : view.thread = .preparing) :
      Sees target view (.invoke target)
        { view with
          thread := .running
          spent := (view.published.elim 0 Record.attempt) :: view.spent }
  | complete (view : View) (now : String) (at_ : view.thread = .running) :
      Sees target view .work { view with thread := .waiting (.completed now) }
  | fail (view : View) (code message now : String)
      (at_ : view.thread = .preparing ∨ view.thread = .running) :
      Sees target view (.failure target) { view with thread := .waiting (.failed code message now) }
  | escape (view : View) (now : String)
      (at_ : view.thread = .preparing ∨ view.thread = .running) :
      Sees target view (.escape target)
        { view with snapshot := true, thread := .waiting (.interrupted now) }
  | artifacts (view : View) (label : Label Target) (now : Bool)
      (own : now = false ∨ view.thread = .preparing ∨ view.thread = .running) :
      Sees target view label { view with reusable := now }

variable (run : Run Target)

theorem view_guarded (target : Target) (request : Update) (now : String) :
    (run.view target).guarded request now = run.guarded target request now := by
  simp [View.guarded, View.stopped, Run.guarded, Run.view]

omit [DecidableEq Target] in
theorem sees_same {target : Target} {view next other : View} {label : Label Target}
    (sees : Sees runner target view label other) (same : next = other) :
    Sees runner target view label next := same ▸ sees

omit [DecidableEq Target] in
theorem outside_of_holder (held : Locked run.threads run.lock run.main)
    (holder : Holder Target) (own : run.lock = some holder) (target : Target)
    (other : holder ≠ .thread target) : (run.threads target).inside = false := by
  rw [← Bool.not_eq_true, held.thread, own]
  simpa using other

theorem view_marked (target : Target) (now : String) (main : Main Target) :
    { run with
      interruptedTargetIds := run.markIds target
      records := run.markRecords target now
      main }.view target = (run.view target).marked now := by
  have snapshot : decide (target ∈ run.markIds target) =
      (decide (target ∈ run.interruptedTargetIds) || (run.records target).state.busy) := by
    unfold Run.markIds
    by_cases busy : (run.records target).state.busy = true <;> simp [busy]
  simp only [Run.view, View.marked, ← snapshot, decide_eq_true_eq]
  congr 1
  by_cases marks : run.marks target
  · have both : target ∈ run.markIds target ∧ (run.records target).state ≠ .interrupted := marks
    simp [Run.markRecords, marks, both]
  · have not_both : ¬ (target ∈ run.markIds target ∧ (run.records target).state ≠ .interrupted) :=
      marks
    rw [if_neg not_both]
    simp [Run.markRecords, marks]

theorem view_mark_other (own target : Target) (other : target ≠ own)
    (now : String) (main : Main Target) :
    { run with
      interruptedTargetIds := run.markIds own
      records := run.markRecords own now
      main }.view target = run.view target := by
  simp only [Run.view, Run.markIds, Run.markRecords]
  split_ifs <;> simp [other]

theorem sees_normalize (outcome : Publication) (now : String) (target : Target)
    (label : Label Target) (main : Main Target) (idle : run.threads target = .idle) :
    Sees runner target (run.view target) label
      ({ run.normalize runner outcome now with main }.view target) := by
  by_cases gap : run.hasGap runner = true
  · by_cases member : target ∈ runner.targets
    · apply sees_same runner (.gap _ _ now (outcome ≠ .early) idle)
      cases outcome <;> simp [Run.view, Run.normalize, Run.normalized, Run.published, gap, member]
    · by_cases early : outcome = .early
      · apply sees_same runner (.stay _ _)
        simp [Run.view, Run.normalize, Run.normalized, Run.published, gap, member, early]
      · apply sees_same runner (.published _ _ false (by simp [Run.view, idle, Thread.inside]))
        simp [Run.view, Run.normalize, Run.normalized, Run.published, gap, member, early]
  · apply sees_same runner (.stay _ _)
    simp [Run.view, Run.normalize, gap]

theorem step_view (run next : Run Target) (label : Label Target) (held : Coherent runner run)
    (loaded : run.main ≠ .loading) (step : Step runner run label next) (target : Target) :
    Sees runner target (run.view target) label (next.view target) := by
  cases step with
  | resume document at_ _ _ => exact absurd at_ loaded
  | refuse at_ _ _ => exact absurd at_ loaded
  | create outcome now at_ _ => exact absurd at_ loaded
  | normalize outcome now at_ _ | finish outcome now at_ _ _ =>
    exact sees_normalize runner run outcome now target _ _ (held.idle runner (by rw [at_]; rfl) target)
  | open_ outcome now at_ =>
    have idle := held.idle runner (by rw [at_]; rfl) target
    apply sees_same runner (.enqueue (run.view target) _ (outcome ≠ .early)
      (outcome = .done ∧ target ∈ runner.targets ∧ run.eligible runner target = true) idle
      (fun waits => (of_decide_eq_true waits).2.2))
    cases outcome <;> simp [Run.view, Run.published]
  | settle outcome now at_ quiet =>
    have outside : (run.threads target).inside = false := by
      rw [held.idle runner (by rw [at_]; rfl)]; rfl
    by_cases early : outcome = .early
    · apply sees_same runner (.stay _ _)
      simp [Run.view, Run.published, early]
    · apply sees_same runner (.published _ _ false outside)
      simp [Run.view, Run.published, early]
  | submit own rest at_ quiet found =>
    by_cases same : target = own
    · subst same
      have distinct := held.scheduled.distinct
      rw [found, List.nodup_append] at distinct
      have idle : run.threads target = .idle := by
        by_contra active
        exact distinct.2.2 target ((held.scheduled.thread target).mp active) target
          (.head _) rfl
      apply sees_same runner (.submit _ _ (by simp [Run.view, found]) idle)
      simp [Run.view, (List.nodup_cons.mp distinct.2.1).1]
    · apply sees_same runner (.stay _ _)
      simp [Run.view, found, same]
  | mark own rest changed next now at_ quiet =>
    have outside := outside_of_holder run held.locked .main
      (held.locked.marking.mp (by rw [at_]; rfl)) target (by simp)
    by_cases same : target = own
    · subst same
      exact sees_same runner (.mark _ _ now outside) (view_marked run target now _)
    · exact sees_same runner (.stay _ _) (view_mark_other run own target same now _)
  | marked changed next outcome now at_ quiet publishes =>
    have outside := outside_of_holder run held.locked .main
      (held.locked.marking.mp (by rw [at_]; rfl)) target (by simp)
    by_cases stays : changed = false ∨ outcome = .early
    · apply sees_same runner (.stay _ _)
      rcases stays with unchanged | early
      · simp [Run.view, unchanged]
      · simp [Run.view, Run.published, early]
    · apply sees_same runner (.published _ _ false outside)
      simp only [not_or, Bool.not_eq_false] at stays
      simp [Run.view, Run.published, stays]
  | collect own rest at_ quiet returned =>
    by_cases same : target = own
    · subst same
      have absent : target ∉ run.pending := by
        have distinct := held.scheduled.distinct
        rw [List.nodup_append] at distinct
        intro waits
        exact distinct.2.2 target ((held.scheduled.thread target).mp (by simp [returned])) target
          waits rfl
      apply sees_same runner (.collect (run.view target) _ false
        (run.interrupt = false ∧ run.eligible runner target = true) returned
        (fun again => (of_decide_eq_true again).2))
      simp only [Run.view, update_self]
      split_ifs with again <;> simp [again, absent]
    · apply sees_same runner (.stay _ _)
      simp only [Run.view, update_of_ne same]
      split_ifs <;> simp [same]
  | collectRaised own rest at_ quiet raised =>
    by_cases same : target = own
    · subst same
      have absent : target ∉ run.pending := by
        have distinct := held.scheduled.distinct
        rw [List.nodup_append] at distinct
        intro waits
        exact distinct.2.2 target ((held.scheduled.thread target).mp (by simp [raised])) target
          waits rfl
      apply sees_same runner (.collect _ _ true false raised (by simp))
      simp [Run.view, absent]
    · apply sees_same runner (.stay _ _)
      simp [Run.view, same]
  | scan own rest outer handling =>
    by_cases busy : target = own ∧ (run.records own).state.busy = true
    · obtain ⟨same, busy⟩ := busy
      subst same
      apply sees_same runner (.snapshot _ _ busy)
      simp [Run.view, Run.markIds, busy]
    · apply sees_same runner (.stay _ _)
      simp only [Run.view, Run.markIds]
      split_ifs with own_busy
      · have differs : target ≠ own := fun same => busy ⟨same, own_busy⟩
        simp [differs]
      · rfl
  | waitInterrupted _ _ _ | signal _ => exact sees_same runner (.interrupt _ _) rfl
  | begin own now thread =>
    by_cases same : target = own
    · subst same
      apply sees_same runner (.begin _ now thread)
      simp [Run.view]
    · apply sees_same runner (.stay _ _)
      simp [Run.view, same]
  | check own request now thread free =>
    by_cases same : target = own
    · subst same
      rw [← view_guarded]
      apply sees_same runner (.check _ request now thread)
      simp [Run.view]
    · apply sees_same runner (.stay _ _)
      simp [Run.view, same]
  | write own request fields now thread =>
    by_cases same : target = own
    · subst same
      apply sees_same runner (.write _ request fields now thread)
      simp [Run.view, Run.write]
    · apply sees_same runner (.stay _ _)
      simp [Run.view, Run.write, same]
  | publish own request outcome now thread =>
    by_cases same : target = own
    · subst same
      apply sees_same runner (.publish _ request outcome now thread)
      cases outcome <;> simp [Run.view, Run.published]
    · have outside := outside_of_holder run held.locked (.thread own)
        ((held.locked.thread own).mp (by rw [thread]; rfl)) target (by simpa using Ne.symm same)
      cases outcome with
      | early =>
        apply sees_same runner (.stay _ _)
        cases request <;> simp [Run.view, Run.published, same, interrupts]
      | done =>
        apply sees_same runner (.published _ _ (interrupts request .done) outside)
        simp [Run.view, Run.published, same]
      | late =>
        apply sees_same runner (.published _ _ (interrupts request .late) outside)
        simp [Run.view, Run.published, same]
  | invoke own thread =>
    by_cases same : target = own
    · subst same
      apply sees_same runner (.invoke _ thread)
      cases found : run.disk <;> simp [Run.view, found]
    · apply sees_same runner (.stay _ _)
      simp [Run.view, same, Ne.symm same]
  | complete own now thread =>
    by_cases same : target = own
    · subst same
      apply sees_same runner (.complete _ now thread)
      simp [Run.view]
    · apply sees_same runner (.stay _ _)
      simp [Run.view, same]
  | fail own code message now thread =>
    by_cases same : target = own
    · subst same
      apply sees_same runner (.fail _ code message now thread)
      simp [Run.view]
    · apply sees_same runner (.stay _ _)
      simp [Run.view, same]
  | escape own now thread =>
    by_cases same : target = own
    · subst same
      apply sees_same runner (.escape _ now thread)
      simp [Run.view]
    · apply sees_same runner (.stay _ _)
      simp [Run.view, same]
  | artifacts own now allowed =>
    by_cases same : target = own
    · subst same
      apply sees_same runner (.artifacts _ _ now allowed)
      simp [Run.view]
    · apply sees_same runner (.stay _ _)
      simp [Run.view, same]
  | admits _ _ _ | submitted _ _ _ | wait _ _ _ _ _ _ | timeout _ _ _ _ | left _ _ _ | woken _ _ _
  | lock _ _ _ _ | collected _ _ | leave _ _ | scanned _ _ =>
    exact .stay _ _

/-- The main thread never goes back: not to the loading, and not to the steps before the loop. -/
theorem step_ahead (run next : Run Target) (label : Label Target)
    (step : Step runner run label next) : (run.main ≠ .loading → next.main ≠ .loading) ∧
      (run.main.early = false → next.main.early = false) := by
  cases step with
  | resume _ at_ _ _ | refuse at_ _ _ =>
    exact ⟨fun later => absurd at_ later, fun begun => by rw [at_] at begun; cases begun⟩
  | create _ _ at_ _ | normalize _ _ at_ _ | open_ _ _ at_ =>
    refine ⟨fun _ => ?_, fun begun => by rw [at_] at begun; cases begun⟩
    dsimp only
    split_ifs <;> simp
  | marked changed next outcome now at_ quiet publishes =>
    dsimp only
    cases next <;> split_ifs <;> simp [Next.main, Main.early]
  | woken _ _ _ | leave _ _ | finish _ _ _ _ _ | settle _ _ _ _ =>
    dsimp only
    split_ifs <;> simp [Main.early]
  | admits _ _ _ | submit _ _ _ _ _ | submitted _ _ _ | wait _ _ _ _ _ _ | timeout _ _ _ _
  | waitInterrupted _ _ _ | left _ _ _ | lock _ _ _ _ | mark _ _ _ _ _ _ _ | collect _ _ _ _ _
  | collectRaised _ _ _ _ _ | collected _ _ =>
    simp [Main.early]
  | signal _ | scan _ _ _ _ | scanned _ _ | begin _ _ _ | check _ _ _ _ _ | write _ _ _ _ _
  | publish _ _ _ _ _ | invoke _ _ | complete _ _ _ | fail _ _ _ _ _ | escape _ _ _
  | artifacts _ _ _ => exact ⟨id, id⟩

theorem reaches_view (allowed : Label Target → Prop) (run next : Run Target)
    (held : Coherent runner run) (loaded : run.main ≠ .loading)
    (reaches : Reaches runner allowed run next) (target : Target) (invariant : View → Prop)
    (start : invariant (run.view target))
    (kept : ∀ view label other, allowed label → invariant view →
      Sees runner target view label other → invariant other) : invariant (next.view target) := by
  have all : Coherent runner next ∧ next.main ≠ .loading ∧ invariant (next.view target) := by
    induction reaches with
    | refl => exact ⟨held, loaded, start⟩
    | tail _ step ih =>
      obtain ⟨label, permitted, step⟩ := step
      obtain ⟨coherent, later, holds⟩ := ih
      exact ⟨step_coherent runner _ _ label coherent step,
        (step_ahead runner _ _ label step).1 later,
        kept _ label _ permitted holds (step_view runner _ _ label coherent later step target)⟩
  exact all.2.2

theorem began_view (began : Began runner run) (target : Target) :
    Coherent runner run ∧ run.main ≠ .loading ∧ (run.view target).thread = .idle ∧
      (run.view target).snapshot = false ∧ (run.view target).interrupt = false ∧
      (run.view target).published = some (run.view target).record := by
  obtain ⟨at_, reusable, disk, invoked, label, step⟩ := began
  refine ⟨step_coherent runner _ _ label (start_coherent runner _ _ _) step, by simp [at_], ?_⟩
  cases step with
  | resume document _ _ found =>
    have same : disk = some document := found
    simp [Run.view, Run.start, same]
  | create outcome now _ _ =>
    by_cases finished : outcome = .done
    · simp [Run.view, Run.start, Run.published, finished]
    · simp [finished] at at_
  | _ => simp_all [Run.start]

end DosWeb.Batch
