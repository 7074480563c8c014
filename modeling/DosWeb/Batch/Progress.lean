import DosWeb.Batch.Attempts
import DosWeb.Library.Progress
import Mathlib.Algebra.Order.BigOperators.Group.List

/-!
The scheduling loop ends: every step but a signal, a poll and a change of the artifacts lowers a
measure of the run, and some such step can be taken until the loop is over.
-/

namespace DosWeb.Batch

open Function (update update_self update_of_ne)

/-- What is left for a worker to do, with the credit of one more turn in the queue. -/
def Thread.rank (waits : Bool) : Thread → Nat
  | .idle => if waits then 17 else 0
  | .submitted => 16
  | .waiting (.attempt _ _) => 15
  | .checked (.attempt _ _) _ => 14
  | .written (.attempt _ _) => 30
  | .preparing => 29
  | .running => 28
  | .waiting (.completed _) => 27
  | .checked (.completed _) _ => 26
  | .written (.completed _) => 25
  | .waiting _ => 24
  | .checked _ _ => 23
  | .written _ => 22
  | .finished _ => 18

/-- How far the main thread is from its next poll or from its end, for a plan of some size. -/
def Next.position {Target : Type} (size : Nat) : Next Target → Nat
  | .waiting => size + 7
  | .collecting [] => size + 9
  | .collecting (_ :: _) => 3
  | .finishing => 2

def Main.position {Target : Type} (size : Nat) : Main Target → Nat
  | .woken [] => 2 * size + 12
  | .woken (_ :: _) => size + 6
  | .locking next => next.position size + size + 2
  | .marking rest _ next => next.position size + rest.length + 1
  | .collecting [] => size + 9
  | .collecting (_ :: _) => 3
  | .submitting => size + 8
  | .admitting => size + 7
  | .waiting => size + 7
  | .leaving => size + 5
  | .finishing => 2
  | .settling => 1
  | _ => 0

/-- The steps that the environment takes, and the polls. -/
def Label.idle {Target : Type} : Label Target → Bool
  | .signal | .timeout | .artifacts => true
  | _ => false

/-- No interruption, no failure of a target and no failure of a publication. -/
def Label.quiet {Target : Type} : Label Target → Bool
  | .signal | .fault | .escape _ | .failure _ => false
  | _ => true

def Main.over {Target : Type} : Main Target → Bool
  | .refused | .ended _ | .raised => true
  | _ => false

theorem next_position_main {Target : Type} (size : Nat) (next : Next Target) :
    next.main.position size = next.position size := by
  rcases next with _ | done | _
  · rfl
  · cases done <;> rfl
  · rfl

@[simp] theorem publication_busy {Target : Type} (outcome : Publication) :
    (outcome.label : Label Target).idle = false := by
  cases outcome <;> rfl

theorem after_rank (request : Update) (outcome : Publication) (now : String) (waits : Bool) :
    (Thread.after request outcome now).rank waits < (Thread.written request).rank waits := by
  cases request <;> cases outcome <;> simp [Thread.after, Thread.rank, publishFailed]

variable {Target : Type} [DecidableEq Target] (runner : BatchRunner Target)

/-- What is left to do for a target: its attempts, and the rest of the present one. -/
def Run.work (run : Run Target) (target : Target) : Nat :=
  18 * (runner.maxAttempts - (run.records target).attempt) +
    (run.threads target).rank (decide (target ∈ run.pending))

def Run.works (run : Run Target) : Nat := (runner.targets.map (run.work runner)).sum

def Run.handling (run : Run Target) : Nat := (run.handlers.map fun rest => rest.length + 1).sum

def Run.measure (run : Run Target) : Nat :=
  (runner.targets.length + 10) * run.works runner + run.main.position runner.targets.length +
    run.handling

variable (run next : Run Target)

theorem works_same (same : ∀ target, next.work runner target = run.work runner target) :
    next.works runner = run.works runner := by
  unfold Run.works
  congr 1
  exact List.map_congr_left fun target _ => same target

theorem works_lower (own : Target) (planned : own ∈ runner.targets)
    (lower : next.work runner own < run.work runner own)
    (others : ∀ target, target ≠ own → next.work runner target = run.work runner target) :
    next.works runner < run.works runner := by
  apply List.sum_lt_sum
  · intro target _
    by_cases same : target = own
    · rw [same]
      exact lower.le
    · exact (others target same).le
  · exact ⟨own, planned, lower⟩

theorem measure_works (lower : next.works runner < run.works runner)
    (round : next.main.position runner.targets.length ≤
      run.main.position runner.targets.length + runner.targets.length + 9)
    (handling : next.handling = run.handling) : next.measure runner < run.measure runner := by
  unfold Run.measure
  have paid : (runner.targets.length + 10) * next.works runner + (runner.targets.length + 10) ≤
      (runner.targets.length + 10) * run.works runner := by
    rw [← Nat.mul_succ]
    exact Nat.mul_le_mul_left _ lower
  omega

theorem measure_main (same : ∀ target, next.work runner target = run.work runner target)
    (lower : next.main.position runner.targets.length + next.handling <
      run.main.position runner.targets.length + run.handling) :
    next.measure runner < run.measure runner := by
  unfold Run.measure
  rw [works_same runner run next same]
  omega

theorem measure_thread (held : Coherent runner run) (own : Target)
    (busy : run.threads own ≠ .idle) (main : next.main = run.main)
    (handlers : next.handlers = run.handlers) (lower : next.work runner own < run.work runner own)
    (others : ∀ target, target ≠ own → next.work runner target = run.work runner target) :
    next.measure runner < run.measure runner := by
  have planned := held.scheduled.planned own
    (List.mem_append_left _ ((held.scheduled.thread own).mp busy))
  apply measure_works runner run next (works_lower runner run next own planned lower others)
  · rw [main]
    omega
  · unfold Run.handling
    rw [handlers]

theorem measure_update (held : Coherent runner run) (own : Target)
    (thread : Thread) (busy : run.threads own ≠ .idle) (main : next.main = run.main)
    (handlers : next.handlers = run.handlers) (records : next.records = run.records)
    (threads : next.threads = update run.threads own thread) (pending : next.pending = run.pending)
    (lower : thread.rank (decide (own ∈ run.pending)) <
      (run.threads own).rank (decide (own ∈ run.pending))) :
    next.measure runner < run.measure runner := by
  apply measure_thread runner run next held own busy main handlers
  · unfold Run.work
    rw [threads, pending, records, update_self]
    omega
  · intro target other
    unfold Run.work
    rw [threads, pending, records, update_of_ne other]

theorem marked_counter (run : Run Target) (own target : Target) (now : String) :
    (run.markRecords own now target).attempt = (run.records target).attempt := by
  unfold Run.markRecords
  split_ifs
  · by_cases same : target = own
    · subst same
      simp [Update.apply]
    · rw [update_of_ne same]
  · rfl

theorem normalized_counter (run : Run Target) (outcome : Publication) (now : String)
    (target : Target) : ((run.normalize runner outcome now).records target).attempt =
      (run.records target).attempt := by
  unfold Run.normalize
  dsimp only
  split_ifs
  · dsimp only [Run.normalized]
    split_ifs
    · exact normalize_counter runner _ now _
    · rfl
  · rfl

/-- A write moves its worker on, and one that counts an attempt spends the credit of the next. -/
theorem work_write (run : Run Target) (own : Target) (request fields : Update) (now : String)
    (limit : Nat) (counted : (run.view own).Counted runner limit) (at_ : run.threads own = .checked request fields) :
    Run.work runner { run with
      records := run.write own fields now
      threads := update run.threads own (.written request) } own < run.work runner own := by
  simp only [Run.work, Run.write, update_self, at_]
  by_cases attempt : request.isAttempt = true
  · have same := counted.fields request fields at_ attempt
    have room := (counted.due (.inr (by simp [Run.view, at_, Thread.due, attempt]))).1
    subst same
    cases fields with
    | attempt number startedAt =>
      have counts := counted.standing.counts number startedAt (.inr ⟨_, at_⟩)
      have before : (run.records own).attempt < runner.maxAttempts := room
      have next : number = (run.records own).attempt + 1 := counts
      simp only [apply_attempt, Thread.rank]
      omega
    | _ => cases attempt
  · have other : fields.isAttempt = false := by
      rcases counted.standing.fields request fields at_ with own | ⟨-, finishedAt, own⟩
      · rw [own]
        simpa using attempt
      · rw [own]
        rfl
    rw [apply_counter fields _ other]
    cases request with
    | attempt _ _ => exact absurd rfl attempt
    | _ => simp [Thread.rank]

theorem step_lowers (label : Label Target) (held : Coherent runner run)
    (limit : Target → Nat) (counted : ∀ target, (run.view target).Counted runner (limit target))
    (begun : run.main.early = false)
    (busy : label.idle = false) (step : Step runner run label next) :
    next.measure runner < run.measure runner := by
  cases step with
  | resume _ at_ _ _ | refuse at_ _ _ | create _ _ at_ _ | normalize _ _ at_ _ | open_ _ _ at_ =>
    rw [at_] at begun
    cases begun
  | timeout _ _ _ _ | waitInterrupted _ _ _ | signal _ | artifacts _ _ _ => cases busy
  | admits at_ _ _ | submitted at_ _ _ | left at_ _ _ | lock _ at_ _ _ | collected at_ _ =>
    refine measure_main runner run _ (fun _ => rfl) ?_
    simp [Run.handling, at_, Main.position]
  | submit own rest at_ quiet found =>
    have distinct := held.scheduled.distinct
    rw [found, List.nodup_append] at distinct
    have idle : run.threads own = .idle := by
      by_contra active
      exact distinct.2.2 own ((held.scheduled.thread own).mp active) own (.head _) rfl
    have planned := held.scheduled.planned own (by rw [found]; simp)
    refine measure_works runner run _ (works_lower runner run _ own planned ?_ ?_) ?_ rfl
    · simp [Run.work, found, idle, Thread.rank]
    · intro target other
      simp [Run.work, found, other]
    · simp only [at_, Main.position]
      omega
  | wait done at_ quiet some_ distinct each =>
    refine measure_main runner run _ (fun _ => rfl) ?_
    cases done with
    | nil => exact absurd rfl some_
    | cons first rest => simp [Run.handling, at_, Main.position]
  | woken done at_ quiet =>
    refine measure_main runner run _ (fun _ => rfl) ?_
    cases done <;> split_ifs <;> simp only [Run.handling, at_, Main.position, Next.position] <;> omega
  | mark own rest changed next now at_ quiet =>
    refine measure_main runner run _ ?_ ?_
    · intro target
      unfold Run.work
      rw [marked_counter]
    · simp [Run.handling, at_, Main.position]
  | marked changed next outcome now at_ quiet publishes =>
    have round : (if outcome = .done then next.main else .raised : Main Target).position
        runner.targets.length <
        (Main.marking [] changed next).position runner.targets.length := by
      split_ifs
      · rw [next_position_main]
        exact Nat.lt_succ_self _
      · exact Nat.succ_pos _
    refine measure_main runner run _ (fun _ => rfl) ?_
    rw [at_]
    exact Nat.add_lt_add_right round _
  | collect own rest at_ quiet returned =>
    have planned := held.scheduled.planned own
      (List.mem_append_left _ ((held.scheduled.thread own).mp (by simp [returned])))
    refine measure_works runner run _ (works_lower runner run _ own planned ?_ ?_) ?_ rfl
    · simp only [Run.work, returned, update_self, Thread.rank]
      split_ifs <;> omega
    · intro target other
      simp only [Run.work, update_of_ne other]
      split_ifs <;> simp [other]
    · simp only [at_]
      cases rest <;> simp only [Main.position] <;> omega
  | collectRaised own rest at_ quiet raised =>
    have planned := held.scheduled.planned own
      (List.mem_append_left _ ((held.scheduled.thread own).mp (by simp [raised])))
    refine measure_works runner run _ (works_lower runner run _ own planned ?_ ?_) ?_ rfl
    · simp only [Run.work, raised, update_self, Thread.rank]
      split_ifs <;> omega
    · intro target other
      simp only [Run.work, update_of_ne other]
    · simp only [at_, Main.position]
      omega
  | leave at_ quiet =>
    refine measure_main runner run _ (fun _ => rfl) ?_
    split_ifs <;> simp only [Run.handling, at_, Main.position, Next.position] <;> omega
  | finish outcome now at_ quiet publishes =>
    have kept : (run.normalize runner outcome now).threads = run.threads ∧
        (run.normalize runner outcome now).pending = run.pending ∧
        (run.normalize runner outcome now).handlers = run.handlers := by
      unfold Run.normalize
      split_ifs <;> exact ⟨rfl, rfl, rfl⟩
    refine measure_main runner run _ ?_ ?_
    · intro target
      simp only [Run.work, normalized_counter, kept]
    · simp only [Run.handling, kept, at_]
      split_ifs <;> simp [Main.position]
  | settle outcome now at_ quiet =>
    refine measure_main runner run _ (fun _ => rfl) ?_
    split_ifs <;> simp [Run.handling, at_, Main.position]
  | scan _ _ _ handling | scanned _ handling =>
    refine measure_main runner run _ (fun _ => rfl) ?_
    simp [Run.handling, handling]
  | begin own _ thread | invoke own thread | complete own _ thread =>
    exact measure_update runner run _ held own _ (by simp [thread]) rfl rfl rfl rfl rfl
      (by rw [thread]; simp [Thread.rank])
  | check own request now thread free =>
    exact measure_update runner run _ held own _ (by simp [thread]) rfl rfl rfl rfl rfl
      (by rw [thread]; cases request <;> simp [Thread.rank])
  | write own request fields now thread =>
    refine measure_thread runner run _ held own (by simp [thread]) rfl rfl ?_ ?_
    · exact work_write runner run own request fields now _ (counted own) thread
    · intro target other
      simp [Run.work, Run.write, other]
  | publish own request outcome now thread =>
    exact measure_update runner run _ held own _ (by simp [thread]) rfl rfl rfl rfl rfl
      (by rw [thread]; exact after_rank request outcome now _)
  | fail own _ _ _ thread | escape own _ thread =>
    exact measure_update runner run _ held own _ (by rcases thread with at_ | at_ <;> simp [at_])
      rfl rfl rfl rfl rfl (by rcases thread with at_ | at_ <;> rw [at_] <;> simp [Thread.rank])

/-- A signal, a poll and a change of the artifacts raise the measure by at most a round. -/
theorem step_raises (label : Label Target) (idle : label.idle = true)
    (step : Step runner run label next) :
    next.measure runner ≤ run.measure runner + (2 * runner.targets.length + 5) := by
  cases step with
  | timeout at_ quiet unfinished active =>
    have same := works_same runner run { run with main := .woken [] } fun _ => rfl
    simp only [Run.measure, same, Run.handling, at_, Main.position]
    omega
  | waitInterrupted at_ quiet active =>
    have same := works_same runner run
      { run with interrupt := true, handlers := [runner.targets], main := .locking .waiting }
      fun _ => rfl
    simp only [Run.measure, same, Run.handling, at_, quiet, Main.position, Next.position,
      List.map_cons, List.map_nil, List.sum_cons, List.sum_nil]
    omega
  | signal installed =>
    have same := works_same runner run
      { run with interrupt := true, handlers := runner.targets :: run.handlers } fun _ => rfl
    simp only [Run.measure, same, Run.handling, List.map_cons, List.sum_cons]
    omega
  | artifacts own now allowed =>
    have same := works_same runner run { run with reusable := update run.reusable own now }
      fun _ => rfl
    simp only [Run.measure, same, Run.handling]
    omega
  | _ => first | cases idle | (rw [publication_busy] at idle; cases idle)

theorem holder_steps (run : Run Target) (own : Target) (inside : (run.threads own).inside = true) :
    ∃ label next, (label.idle = false ∧ label.quiet = true) ∧ Step runner run label next := by
  cases thread : run.threads own with
  | checked request fields => exact ⟨_, _, ⟨rfl, rfl⟩, .write run own request fields "" thread⟩
  | written request => exact ⟨_, _, ⟨rfl, rfl⟩, .publish run own request .done "" thread⟩
  | _ => rw [thread] at inside; cases inside

theorem thread_steps (run : Run Target) (held : Coherent runner run) (own : Target)
    (active : run.threads own ≠ .idle) (unfinished : ∀ raised, run.threads own ≠ .finished raised)
    (outside : run.main.inside = false) :
    ∃ label next, (label.idle = false ∧ label.quiet = true) ∧ Step runner run label next := by
  cases thread : run.threads own with
  | idle => exact absurd thread active
  | submitted => exact ⟨_, _, ⟨rfl, rfl⟩, .begin run own "" thread⟩
  | waiting request =>
    cases lock : run.lock with
    | none => exact ⟨_, _, ⟨rfl, rfl⟩, .check run own request "" thread lock⟩
    | some holder =>
      cases holder with
      | main =>
        rw [held.locked.marking.mpr lock] at outside
        cases outside
      | thread other => exact holder_steps runner run other ((held.locked.thread other).mpr lock)
  | checked _ _ | written _ => exact holder_steps runner run own (by rw [thread]; rfl)
  | preparing => exact ⟨_, _, ⟨rfl, rfl⟩, .invoke run own thread⟩
  | running => exact ⟨_, _, ⟨rfl, rfl⟩, .complete run own "" thread⟩
  | finished raised => exact absurd thread (unfinished raised)

theorem step_progress (run : Run Target) (held : Coherent runner run)
    (going : run.main.over = false) :
    ∃ label next, (label.idle = false ∧ label.quiet = true) ∧ Step runner run label next := by
  cases handlers : run.handlers with
  | cons handler outer =>
    cases handler with
    | nil => exact ⟨_, _, ⟨rfl, rfl⟩, .scanned run outer handlers⟩
    | cons target rest => exact ⟨_, _, ⟨rfl, rfl⟩, .scan run target rest outer handlers⟩
  | nil =>
    cases at_ : run.main with
    | loading =>
      by_cases resumes : runner.resume = true ∧ run.disk ≠ none
      · obtain ⟨document, found⟩ := Option.ne_none_iff_exists'.mp resumes.2
        exact ⟨_, _, ⟨rfl, rfl⟩, .resume run document at_ resumes.1 found⟩
      · refine ⟨_, _, ⟨rfl, rfl⟩, .create run .done "" at_ ?_⟩
        by_cases known : runner.resume = true
        · exact Or.inr (by simpa [known] using resumes)
        · exact Or.inl (by simpa using known)
    | normalizing => exact ⟨_, _, ⟨rfl, rfl⟩, .normalize run .done "" at_ (.inl rfl)⟩
    | opening => exact ⟨_, _, ⟨rfl, rfl⟩, .open_ run .done "" at_⟩
    | submitting =>
      by_cases free : run.interrupt = false ∧ run.active.length < runner.maxWorkers ∧
          run.pending ≠ []
      · exact ⟨_, _, ⟨rfl, rfl⟩, .admits run at_ handlers free⟩
      · exact ⟨_, _, ⟨rfl, rfl⟩, .submitted run at_ handlers free⟩
    | admitting =>
      obtain ⟨target, rest, next⟩ := List.exists_cons_of_ne_nil (held.placed.admitting at_).2
      exact ⟨_, _, ⟨rfl, rfl⟩, .submit run target rest at_ handlers next⟩
    | waiting =>
      by_cases empty : run.active = []
      · exact ⟨_, _, ⟨rfl, rfl⟩, .left run at_ handlers empty⟩
      · obtain ⟨target, rest, active⟩ := List.exists_cons_of_ne_nil empty
        have member : target ∈ run.active := by simp [active]
        by_cases finished : ∃ raised, run.threads target = .finished raised
        · refine ⟨_, _, ⟨rfl, rfl⟩, .wait run [target] at_ handlers (by simp)
            (List.nodup_singleton _) ?_⟩
          intro other inside
          rw [List.mem_singleton.mp inside]
          exact ⟨member, finished⟩
        · exact thread_steps runner run held target ((held.scheduled.thread target).mpr member)
            (fun raised same => finished ⟨raised, same⟩) (by rw [at_]; rfl)
    | woken done => exact ⟨_, _, ⟨rfl, rfl⟩, .woken run done at_ handlers⟩
    | locking next =>
      cases lock : run.lock with
      | none => exact ⟨_, _, ⟨rfl, rfl⟩, .lock run next at_ handlers lock⟩
      | some holder =>
        cases holder with
        | main =>
          have inside := held.locked.marking.mpr lock
          rw [at_] at inside
          cases inside
        | thread other =>
          exact holder_steps runner run other ((held.locked.thread other).mpr lock)
    | marking rest changed next =>
      cases rest with
      | nil => exact ⟨_, _, ⟨rfl, rfl⟩, .marked run changed next .done "" at_ handlers (.inl rfl)⟩
      | cons target rest => exact ⟨_, _, ⟨rfl, rfl⟩, .mark run target rest changed next "" at_ handlers⟩
    | collecting done =>
      cases done with
      | nil => exact ⟨_, _, ⟨rfl, rfl⟩, .collected run at_ handlers⟩
      | cons target rest =>
        obtain ⟨-, raised, finished⟩ := held.placed.done target
          (by rw [at_]; exact .head _)
        cases raised with
        | false => exact ⟨_, _, ⟨rfl, rfl⟩, .collect run target rest at_ handlers finished⟩
        | true => exact ⟨_, _, ⟨rfl, rfl⟩, .collectRaised run target rest at_ handlers finished⟩
    | leaving => exact ⟨_, _, ⟨rfl, rfl⟩, .leave run at_ handlers⟩
    | finishing => exact ⟨_, _, ⟨rfl, rfl⟩, .finish run .done "" at_ handlers (.inl rfl)⟩
    | settling => exact ⟨_, _, ⟨rfl, rfl⟩, .settle run .done "" at_ handlers⟩
    | refused | ended _ | raised => rw [at_] at going; cases going

end DosWeb.Batch
