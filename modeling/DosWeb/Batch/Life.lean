import DosWeb.Batch.Progress

/-!
The life of a batch: consecutive runs that resume one state file, each ended by itself or killed.
-/

namespace DosWeb.Batch

open Library.Progress

/-- The state of the run is the one that was loaded or created. -/
def Main.loaded {Target : Type} : Main Target → Bool
  | .loading | .refused => false
  | _ => true

theorem begun_loaded {Target : Type} (main : Main Target) (begun : main.early = false) :
    main.loaded = true := by
  cases main <;> first | rfl | cases begun

section

variable {Target : Type} [DecidableEq Target] (runner : BatchRunner Target) (limit : Target → Nat)

/-- A step of the present run, or the start of the next one. -/
inductive Advance (allowed : Label Target → Prop) : Run Target → Run Target → Prop where
  | step (run next : Run Target) (label : Label Target) (permitted : allowed label)
      (taken : Step runner run label next) : Advance allowed run next
  | restart (run : Run Target) (reusable : Target → Bool) :
      Advance allowed run (Run.start runner reusable run.disk run.invoked)

def Life (allowed : Label Target → Prop) : Run Target → Run Target → Prop :=
  Relation.ReflTransGen (Advance runner allowed)

def Run.spent (run : Run Target) (target : Target) : List Nat := (run.view target).spent

structure Kept (run : Run Target) : Prop where
  coherent : Coherent runner run
  spent : ∀ target, (run.view target).Spent
  within : ∀ target record, (run.view target).published = some record →
    record.attempt ≤ limit target
  loaded : run.main.loaded = true → ∀ target, (run.view target).Counted runner (limit target)
  fresh : run.main = .loading → ∀ target, (run.records target).attempt = 0

omit [DecidableEq Target] in
theorem loaded_counted (view : View) (idle : view.thread = .idle) (waits : view.waits = false)
    (published : view.published = some view.record) (spent : view.Spent)
    (bound : Nat) (within : view.record.attempt ≤ bound) : view.Counted runner bound where
  standing := ⟨by simp [idle], by simp [idle], by simp [idle, Thread.started], by simp [idle],
    by simp [idle]⟩
  spent := spent
  published := ⟨_, published, le_rfl⟩
  bounded := within
  waits := by simp [waits]
  due := by simp [View.due, waits, idle, Thread.due]
  fields := by simp [idle]
  written := by simp [idle]
  preparing := by simp [idle]

theorem counted_kept (run : Run Target) (coherent : Coherent runner run)
    (loaded : run.main ≠ .loading) (counted : ∀ target, (run.view target).Counted runner (limit target)) :
    Kept runner limit run where
  coherent := coherent
  spent := fun target => (counted target).spent
  within := by
    intro target record shown
    obtain ⟨other, same, below⟩ := (counted target).published
    rw [shown] at same
    cases same
    exact below.trans (counted target).bounded
  loaded := fun _ => counted
  fresh := fun at_ => absurd at_ loaded

theorem unloaded_kept (run next : Run Target) (held : Kept runner limit run)
    (coherent : Coherent runner next) (disk : next.disk = run.disk)
    (invoked : next.invoked = run.invoked) (unloaded : next.main.loaded = false)
    (fresh : next.main = .loading → ∀ target, (next.records target).attempt = 0) :
    Kept runner limit next where
  coherent := coherent
  spent := by
    intro target
    have spent := held.spent target
    refine ⟨?_, ?_, ?_⟩
    · simpa [Run.view, invoked] using spent.ordered
    · simpa [Run.view, invoked] using spent.positive
    · simpa [Run.view, invoked, disk] using spent.bounded
  within := by
    intro target record
    simpa [Run.view, disk] using held.within target record
  loaded := by simp [unloaded]
  fresh := fresh

theorem nothing_spent (run : Run Target) (held : Kept runner limit run) (target : Target)
    (empty : run.disk = none) : (run.view target).spent = [] := by
  apply List.eq_nil_iff_forall_not_mem.mpr
  intro counter member
  obtain ⟨record, shown, -⟩ := (held.spent target).bounded counter member
  simp [Run.view, empty] at shown

theorem fresh_spent (view : View) (spent : view.spent = []) : view.Spent :=
  ⟨by simp [spent], by simp [spent], by simp [spent]⟩

theorem step_kept (above : ∀ target, runner.maxAttempts ≤ limit target)
    (resumes : runner.resume = true) (run next : Run Target) (label : Label Target)
    (held : Kept runner limit run) (counting : Counting label) (step : Step runner run label next) :
    Kept runner limit next := by
  have coherent := step_coherent runner run next label held.coherent step
  by_cases loaded : run.main.loaded = true
  · have begun : run.main ≠ .loading := by
      intro at_
      rw [at_] at loaded
      cases loaded
    exact counted_kept runner limit next coherent ((step_ahead runner run next label step).1 begun) fun target =>
      sees_counted runner (limit target) (above target) (held.loaded loaded target) counting
        (step_view runner run next label held.coherent begun step target)
  · have vacant : run.main.vacant = true := by
      cases at_ : run.main <;> simp_all [Main.loaded, Main.vacant]
    have idle := held.coherent.idle runner vacant
    have unloaded : run.main.loaded = false := by simpa using loaded
    cases step with
    | resume document at_ _ found =>
      have early := held.coherent.placed.early (by rw [at_]; rfl)
      refine counted_kept runner limit _ coherent (by simp) ?_
      intro target
      apply loaded_counted runner
      · exact idle target
      · simp [Run.view, early]
      · simp [Run.view, found]
      · have spent := held.spent target
        exact ⟨spent.ordered, spent.positive, spent.bounded⟩
      · exact held.within target _ (by simp [Run.view, found])
    | create outcome now at_ fresh =>
      have empty : run.disk = none := fresh.resolve_left (by simp [resumes])
      have early := held.coherent.placed.early (by rw [at_]; rfl)
      have first := held.fresh at_
      cases outcome with
      | done =>
        refine counted_kept runner limit _ coherent (by simp) ?_
        intro target
        apply loaded_counted runner
        · exact idle target
        · simp [Run.view, early]
        · simp [Run.view, Run.published]
        · exact fresh_spent _ (nothing_spent runner limit run held target empty)
        · simp [Run.view, first target]
      | late =>
        refine ⟨coherent, ?_, ?_, by simp [Main.loaded], by simp⟩
        · intro target
          exact fresh_spent _ (nothing_spent runner limit run held target empty)
        · intro target record shown
          simp only [Run.view, Run.published, reduceCtorEq, if_false, Option.map_some,
            Option.some_inj] at shown
          simp [← shown, first target]
      | early => exact unloaded_kept runner limit run _ held coherent rfl rfl rfl (by simp)
    | refuse at_ _ _ => exact unloaded_kept runner limit run _ held coherent rfl rfl rfl (by simp)
    | signal installed =>
      cases at_ : run.main <;> simp_all [Main.loaded, Main.installed]
    | scan _ _ _ _ | scanned _ _ | artifacts _ _ _ =>
      exact unloaded_kept runner limit run _ held coherent rfl rfl unloaded held.fresh
    | begin own _ thread | check own _ _ thread _ | write own _ _ _ thread
    | publish own _ _ _ thread | invoke own thread | complete own _ thread =>
      rw [idle own] at thread
      cases thread
    | fail own _ _ _ thread | escape own _ thread =>
      rw [idle own] at thread
      simp at thread
    | normalize _ _ at_ _ | open_ _ _ at_ | admits at_ _ _ | submit _ _ at_ _ _ | submitted at_ _ _
    | wait _ at_ _ _ _ _ | timeout at_ _ _ _ | waitInterrupted at_ _ _ | left at_ _ _
    | woken _ at_ _ | lock _ at_ _ _ | mark _ _ _ _ _ at_ _ | marked _ _ _ _ at_ _ _
    | collect _ _ at_ _ _ | collectRaised _ _ at_ _ _ | collected at_ _ | leave at_ _
    | finish _ _ at_ _ _ | settle _ _ at_ _ =>
      rw [at_] at unloaded
      cases unloaded

theorem restart_kept (run : Run Target) (held : Kept runner limit run) (reusable : Target → Bool) :
    Kept runner limit (Run.start runner reusable run.disk run.invoked) where
  coherent := start_coherent runner _ _ _
  spent := fun target =>
    have spent := held.spent target
    ⟨spent.ordered, spent.positive, spent.bounded⟩
  within := held.within
  loaded := fun at_ => by cases at_
  fresh := fun _ _ => rfl

theorem first_kept (reusable : Target → Bool) : Kept runner limit (Run.start runner reusable none []) where
  coherent := start_coherent runner _ _ _
  spent := fun _ => fresh_spent _ rfl
  within := by simp [Run.view, Run.start]
  loaded := fun at_ => by cases at_
  fresh := fun _ _ => rfl

theorem life_kept (above : ∀ target, runner.maxAttempts ≤ limit target) (resumes : runner.resume = true) (first last : Run Target)
    (held : Kept runner limit first) (life : Life runner Counting first last) : Kept runner limit last := by
  induction life with
  | refl => exact held
  | tail _ advance ih =>
    cases advance with
    | step _ label permitted taken => exact step_kept runner limit above resumes _ _ label ih permitted taken
    | restart reusable => exact restart_kept runner limit _ ih reusable

theorem spent_length (view : View) (spent : view.Spent) (bound : Nat)
    (within : ∀ counter ∈ view.spent, counter ≤ bound) : view.spent.length ≤ bound := by
  have distinct : view.spent.Nodup := spent.ordered.imp fun above => above.ne'
  have inside : view.spent ⊆ List.range' 1 bound := by
    intro counter member
    have positive := spent.positive counter member
    have below := within counter member
    rw [List.mem_range'_1]
    omega
  simpa using (distinct.subperm inside).length_le

omit [DecidableEq Target] in
theorem publication_invoke (outcome : Publication) (target : Target) :
    outcome.label ≠ .invoke target := by
  cases outcome <;> simp [Publication.label]

theorem step_invoke (run next : Run Target) (label : Label Target) (target : Target)
    (invokes : label = .invoke target) (step : Step runner run label next) :
    run.threads target = .preparing := by
  cases step with
  | invoke own thread =>
    cases invokes
    exact thread
  | _ => first | cases invokes | exact absurd invokes (publication_invoke _ target)

/-- The busy and the idle steps of the runs that stop no attempt. -/
def Paces (idle : Bool) (run next : Run Target) : Prop :=
  ∃ label, label.idle = idle ∧ Counting label ∧ Step runner run label next

theorem paces_kept (above : ∀ target, runner.maxAttempts ≤ limit target) (resumes : runner.resume = true) (run next : Run Target)
    (held : Kept runner limit run ∧ run.main.early = false)
    (paces : Paces runner false run next ∨ Paces runner true run next) :
    Kept runner limit next ∧ next.main.early = false := by
  have taken : ∃ label, Counting label ∧ Step runner run label next := by
    rcases paces with ⟨label, -, taken⟩ | ⟨label, -, taken⟩
    · exact ⟨label, taken⟩
    · exact ⟨label, taken⟩
  obtain ⟨label, counting, step⟩ := taken
  exact ⟨step_kept runner limit above resumes run next label held.1 counting step,
    (step_ahead runner run next label step).2 held.2⟩

theorem loop_bounded (above : ∀ target, runner.maxAttempts ≤ limit target) (resumes : runner.resume = true) (run last : Run Target)
    (held : Kept runner limit run) (begun : run.main.early = false) (steps waits : Nat)
    (paced : Paced (Paces runner false) (Paces runner true) run steps waits last) :
    steps ≤ run.measure runner + (2 * runner.targets.length + 5) * waits := by
  have bounded := paced_bounded (fun run => Kept runner limit run ∧ run.main.early = false)
    (Run.measure runner) (2 * runner.targets.length + 5) (paces_kept runner limit above resumes)
    (fun state next kept paces => by
      obtain ⟨label, busy, -, step⟩ := paces
      exact step_lowers runner state next label kept.1.coherent limit
        (kept.1.loaded (begun_loaded state.main kept.2)) kept.2 busy step)
    (fun state next kept paces => by
      obtain ⟨label, idle, -, step⟩ := paces
      exact step_raises runner state next label idle step)
    paced ⟨held, begun⟩
  omega

/-- While no attempt's update is stopped, over all runs of a batch: every invocation follows a
publication of a counter of its own, no target is invoked more often than it has attempts, the
active targets are distinct and bounded, no completed target with reusable artifacts waits for a
worker, and the scheduling loop goes on in busy steps that its idle steps bound. -/
theorem attempts_counted (resumes : runner.resume = true) (reusable : Target → Bool)
    (run : Run Target) (life : Life runner Counting (Run.start runner reusable none []) run) :
    (∀ target next, Step runner run (.invoke target) next → ∃ document, run.disk = some document ∧
        (document.records target).attempt ≤ runner.maxAttempts ∧
        ∀ counter ∈ run.spent target, counter < (document.records target).attempt) ∧
      (∀ target, (run.spent target).length ≤ runner.maxAttempts) ∧
      run.active.Nodup ∧ run.active.length ≤ runner.maxWorkers ∧
      (∀ target, target ∈ run.pending ∨ (run.threads target).due = true →
        ¬ ((run.records target).state = .completed ∧ run.reusable target = true)) ∧
      (run.main.over = false → ∃ label next, (label.idle = false ∧ label.quiet = true) ∧
        Step runner run label next) ∧ (run.main.early = false → ∀ last steps waits,
        Paced (Paces runner false) (Paces runner true) run steps waits last →
          steps ≤ run.measure runner + (2 * runner.targets.length + 5) * waits) := by
  have kept := life_kept runner (fun _ => runner.maxAttempts) (fun _ => le_rfl) resumes _ run
    (first_kept runner _ reusable) life
  have loaded (target : Target) (busy : target ∈ run.pending ∨ run.threads target ≠ .idle) :
      (run.view target).Counted runner runner.maxAttempts := by
    apply kept.loaded
    by_contra unloaded
    have early : run.main.early = true := by
      cases at_ : run.main <;> simp_all [Main.loaded, Main.early]
    rcases busy with waits | active
    · rw [kept.coherent.placed.early early] at waits
      cases waits
    · exact active (kept.coherent.idle runner (run.main.early_vacant early) target)
  refine ⟨?_, ?_, ?_, kept.coherent.scheduled.bounded, ?_, step_progress runner run kept.coherent,
    fun begun last steps waits paced =>
      loop_bounded runner _ (fun _ => le_rfl) resumes run last kept begun steps waits paced⟩
  · intro target next step
    have thread := step_invoke runner run next _ target rfl step
    have counted := loaded target (.inr (by simp [thread]))
    obtain ⟨shown, -, passed⟩ := counted.preparing thread
    obtain ⟨record, published, same⟩ := Option.map_eq_some_iff.mp shown
    obtain ⟨document, found, own⟩ := Option.map_eq_some_iff.mp published
    subst own
    exact ⟨document, found, same.trans_le counted.bounded, fun counter member =>
      same ▸ passed counter member⟩
  · intro target
    apply spent_length _ (kept.spent target)
    intro counter member
    obtain ⟨record, shown, below⟩ := (kept.spent target).bounded counter member
    exact below.trans (kept.within target record shown)
  · exact (List.nodup_append.mp kept.coherent.scheduled.distinct).1
  · intro target due
    rcases due with waits | thread
    · exact ((loaded target (.inl waits)).due (.inl (decide_eq_true waits))).2
    · have active : run.threads target ≠ .idle := by
        intro idle
        rw [idle] at thread
        cases thread
      exact ((loaded target (.inr active)).due (.inr thread)).2

theorem life_coherent (allowed : Label Target → Prop) (first last : Run Target)
    (held : Coherent runner first) (life : Life runner allowed first last) :
    Coherent runner last := by
  induction life with
  | refl => exact held
  | tail _ advance ih =>
    cases advance with
    | step _ label _ taken => exact step_coherent runner _ _ label ih taken
    | restart reusable => exact start_coherent runner _ _ _

/-- Over all runs of a batch, whatever interrupts, escapes or fails in them: at most one party is
inside a locked part, the active and the pending targets are distinct ones of the plan, the threads
are those of the active ones, none is left where the main thread settles the status, and a step
other than a signal or a poll is open until the main thread is over. -/
theorem parties_exclusive (allowed : Label Target → Prop) (reusable : Target → Bool)
    (disk : Option (Document Target)) (run : Run Target)
    (life : Life runner allowed (Run.start runner reusable disk []) run) :
    (∀ left right, (run.threads left).inside = true → (run.threads right).inside = true →
        left = right ∧ run.main.inside = false) ∧ (run.active ++ run.pending).Nodup ∧
      (∀ target ∈ run.active ++ run.pending, target ∈ runner.targets) ∧
      (∀ target, run.threads target ≠ .idle ↔ target ∈ run.active) ∧
      run.active.length ≤ runner.maxWorkers ∧ (run.main.vacant = true → run.active = []) ∧
      (run.main.over = false → ∃ label next, (label.idle = false ∧ label.quiet = true) ∧
        Step runner run label next) := by
  have held := life_coherent runner allowed _ run (start_coherent runner _ _ _) life
  obtain ⟨distinct, planned, thread, bounded⟩ := held.scheduled
  refine ⟨?_, distinct, planned, thread, bounded, held.placed.vacant, step_progress runner run held⟩
  intro left right own other
  have holder := (held.locked.thread left).mp own
  have same := holder.symm.trans ((held.locked.thread right).mp other)
  simp only [Option.some.injEq, Holder.thread.injEq] at same
  refine ⟨same, ?_⟩
  by_contra marking
  have main := held.locked.marking.mp (by simpa using marking)
  simp [holder] at main

/-- The batch is interrupted, and the targets wait in its queue, behind one in submission. -/
structure Stopping (waiting : List Target) (run : Run Target) : Prop where
  interrupted : run.interrupt = true
  begun : run.main.early = false
  stays : waiting ⊆ run.pending
  admitting : run.main = .admitting → waiting ⊆ run.pending.tail

theorem step_stopping (waiting : List Target) (run next : Run Target) (label : Label Target)
    (held : Stopping waiting run) (step : Step runner run label next) : Stopping waiting next := by
  have begun := (step_ahead runner run next label step).2 held.begun
  obtain ⟨interrupted, early, stays, admitting⟩ := held
  cases step with
  | resume _ at_ _ _ | refuse at_ _ _ | create _ _ at_ _ | normalize _ _ at_ _ | open_ _ _ at_ =>
    rw [at_] at early
    cases early
  | admits _ _ free => simp [interrupted] at free
  | submit target rest at_ _ found =>
    have behind := admitting at_
    rw [found] at behind
    exact ⟨interrupted, begun, behind, fun at_ => by cases at_⟩
  | collect _ _ _ _ _ => exact ⟨interrupted, begun, by simpa [interrupted], fun at_ => by cases at_⟩
  | marked _ next _ _ _ _ _ =>
    exact ⟨interrupted, begun, stays,
      by cases next <;> dsimp only [Next.main] <;> split_ifs <;> exact fun at_ => by cases at_⟩
  | woken _ _ _ | leave _ _ | settle _ _ _ _ =>
    exact ⟨interrupted, begun, stays, by dsimp only; split_ifs <;> exact fun at_ => by cases at_⟩
  | finish _ _ _ _ _ =>
    refine ⟨?_, begun, ?_, by dsimp only; split_ifs <;> exact fun at_ => by cases at_⟩
    all_goals
      unfold Run.normalize
      split_ifs <;> assumption
  | waitInterrupted _ _ _ => exact ⟨rfl, begun, stays, fun at_ => by cases at_⟩
  | submitted _ _ _ | wait _ _ _ _ _ _ | timeout _ _ _ _ | left _ _ _ | lock _ _ _ _
  | mark _ _ _ _ _ _ _ | collectRaised _ _ _ _ _ | collected _ _ =>
    exact ⟨interrupted, begun, stays, fun at_ => by cases at_⟩
  | signal _ => exact ⟨rfl, begun, stays, admitting⟩
  | publish _ _ _ _ _ => exact ⟨by simp [interrupted], begun, stays, admitting⟩
  | _ => exact ⟨interrupted, begun, stays, admitting⟩

/-- Once a batch is interrupted, the targets that wait in its queue wait for the rest of the run,
but for the first one where that is being submitted. -/
theorem interrupted_queue_waits (run last : Run Target) (interrupted : run.interrupt = true)
    (begun : run.main.early = false) (reaches : Reaches runner (fun _ => True) run last) :
    (if run.main = .admitting then run.pending.tail else run.pending) ⊆ last.pending := by
  have held : Stopping (if run.main = .admitting then run.pending.tail else run.pending) last := by
    induction reaches with
    | refl =>
      split_ifs with at_
      · exact ⟨interrupted, begun, fun _ => List.mem_of_mem_tail, fun _ => List.Subset.refl _⟩
      · exact ⟨interrupted, begun, List.Subset.refl _, fun admits => absurd admits at_⟩
    | tail _ step ih =>
      obtain ⟨label, -, taken⟩ := step
      exact step_stopping runner _ _ _ label ih taken
  exact held.stays

end

def onceRunner : BatchRunner Unit := soleRunner 1 (by decide)

theorem lives_on {allowed : Label Unit → Prop} {run next last : Run Unit} {label : Label Unit}
    (permitted : allowed label) (step : Step onceRunner run label next)
    (rest : Life onceRunner allowed next last) : Life onceRunner allowed run last :=
  .head (.step run next label permitted step) rest

theorem goes_on {run next last : Run Unit} {label : Label Unit}
    (step : Step onceRunner run label next) (rest : Life onceRunner (fun _ => True) next last) :
    Life onceRunner (fun _ => True) run last := lives_on trivial step rest

/-- The signal arrives between the submission and the update that counts the attempt: the update
is stopped, the pipeline is invoked, and the next run invokes it again. -/
theorem stopped_attempt_overspent : ∃ run : Run Unit,
    Life onceRunner (fun _ => True) (Run.start onceRunner (fun _ => false) none []) run ∧
      run.spent () = [1, 0] ∧ onceRunner.maxAttempts = 1 :=
  ⟨_, goes_on (.create _ .done "09:00" rfl (.inr rfl)) <|
    goes_on (.normalize _ .done "09:00" rfl (.inl rfl)) <| goes_on (.open_ _ .done "09:00" rfl) <|
    goes_on (.admits _ rfl rfl (by decide)) <| goes_on (.submit _ () [] rfl rfl rfl) <|
    goes_on (.signal _ rfl) <| goes_on (.scan _ () [] [] rfl) <| goes_on (.scanned _ [] rfl) <|
    goes_on (.submitted _ rfl rfl (by decide)) <| goes_on (.begin _ () "09:01" rfl) <|
    goes_on (.check _ () _ "09:01" rfl rfl) <| goes_on (.write _ () _ _ "09:01" rfl) <|
    goes_on (.publish _ () _ .done "09:01" rfl) <| goes_on (.invoke _ () rfl) <|
    goes_on (.complete _ () "09:02" rfl) <| goes_on (.check _ () _ "09:02" rfl rfl) <|
    goes_on (.write _ () _ _ "09:02" rfl) <| goes_on (.publish _ () _ .done "09:02" rfl) <|
    goes_on (.wait _ [()] rfl rfl (by decide) (by decide) (by decide)) <|
    goes_on (.woken _ [()] rfl rfl) <| goes_on (.lock _ (.collecting [()]) rfl rfl rfl) <|
    goes_on (.mark _ () [] false (.collecting [()]) "09:03" rfl rfl) <|
    goes_on (.marked _ false (.collecting [()]) .done "09:03" rfl rfl (.inl rfl)) <|
    goes_on (.collect _ () [] rfl rfl rfl) <| goes_on (.collected _ rfl rfl) <|
    goes_on (.submitted _ rfl rfl (by decide)) <| goes_on (.left _ rfl rfl rfl) <|
    goes_on (.leave _ rfl rfl) <| goes_on (.lock _ .finishing rfl rfl rfl) <|
    goes_on (.mark _ () [] false .finishing "09:04" rfl rfl) <|
    goes_on (.marked _ false .finishing .done "09:04" rfl rfl (.inl rfl)) <|
    goes_on (.finish _ .done "09:05" rfl rfl (.inl rfl)) <|
    goes_on (.settle _ .done "09:05" rfl rfl) <| .head (.restart _ fun _ => false) <|
    goes_on (.resume _ _ rfl rfl rfl) <| goes_on (.normalize _ .done "10:00" rfl (.inl rfl)) <|
    goes_on (.open_ _ .done "10:00" rfl) <| goes_on (.admits _ rfl rfl (by decide)) <|
    goes_on (.submit _ () [] rfl rfl rfl) <| goes_on (.begin _ () "10:01" rfl) <|
    goes_on (.check _ () _ "10:01" rfl rfl) <| goes_on (.write _ () _ _ "10:01" rfl) <|
    goes_on (.publish _ () _ .done "10:01" rfl) <| goes_on (.invoke _ () rfl) .refl, rfl, rfl⟩

theorem uncounted_attempts : ¬ ∀ run : Run Unit,
      Life onceRunner (fun _ => True) (Run.start onceRunner (fun _ => false) none []) run →
        ∀ target, (run.spent target).length ≤ onceRunner.maxAttempts := by
  intro bounded
  obtain ⟨run, life, spent, attempts⟩ := stopped_attempt_overspent
  have within := bounded run life ()
  rw [spent, attempts] at within
  exact absurd within (by decide)

theorem counting_work : Counting (.work : Label Unit) := by
  simp [Counting]

theorem once_counted : ∃ run : Run Unit,
    Life onceRunner Counting (Run.start onceRunner (fun _ => false) none []) run ∧
      run.spent () = [1] ∧ (run.spent ()).length ≤ onceRunner.maxAttempts ∧ run.active.Nodup := by
  have life := lives_on counting_work (.create (Run.start onceRunner (fun _ => false) none [])
      .done "09:00" rfl (.inr rfl)) <|
    lives_on counting_work (.normalize _ .done "09:00" rfl (.inl rfl)) <|
    lives_on counting_work (.open_ _ .done "09:00" rfl) <|
    lives_on counting_work (.admits _ rfl rfl (by decide)) <|
    lives_on counting_work (.submit _ () [] rfl rfl rfl) <|
    lives_on counting_work (.begin _ () "09:01" rfl) <|
    lives_on (fun _ _ _ same _ => by cases same; rfl) (.check _ () _ "09:01" rfl rfl) <|
    lives_on counting_work (.write _ () _ _ "09:01" rfl) <|
    lives_on counting_work (.publish _ () _ .done "09:01" rfl) <|
    lives_on (by simp [Counting]) (.invoke _ () rfl) .refl
  have counted := attempts_counted onceRunner rfl (fun _ => false) _ life
  exact ⟨_, life, rfl, counted.2.1 (), counted.2.2.1⟩

theorem spent_exclusive : ∃ run : Run Unit, run.spent () = [1, 0] ∧
    (run.active ++ run.pending).Nodup ∧ ∀ target ∈ run.active ++ run.pending,
      target ∈ onceRunner.targets := by
  obtain ⟨run, life, spent, -⟩ := stopped_attempt_overspent
  have exclusive := parties_exclusive onceRunner _ _ none run life
  exact ⟨run, spent, exclusive.2.1, exclusive.2.2.1⟩

/-- The signal arrives once the targets are queued, before the first is submitted. -/
theorem closing_waits : ∃ run last,
    Reaches onceRunner (fun _ => True) (Run.start onceRunner (fun _ => false) none []) run ∧
      run.interrupt = true ∧ Reaches onceRunner (fun _ => True) run last ∧
      last.main = .leaving ∧ () ∈ last.pending :=
  ⟨_, _, runs_on (.create _ .done "09:00" rfl (.inr rfl)) <|
    runs_on (.normalize _ .done "09:00" rfl (.inl rfl)) <|
    runs_on (.open_ _ .done "09:00" rfl) <| runs_on (.signal _ rfl) .refl, rfl,
    have closes := runs_on (.scan _ () [] [] rfl) <| runs_on (.scanned _ [] rfl) <|
      runs_on (.submitted _ rfl rfl (by decide)) <| runs_on (.left _ rfl rfl rfl) .refl
    ⟨closes, rfl, interrupted_queue_waits onceRunner _ _ rfl rfl closes (.head _)⟩⟩

end DosWeb.Batch
