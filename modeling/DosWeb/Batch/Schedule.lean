import DosWeb.Batch.Runner
import Mathlib.Data.List.Perm.Subperm

/-!
What holds in every state of a run about its threads: which targets are active, who holds the
state lock, and which finished targets the main thread still has to collect.
-/

namespace DosWeb.Batch

open Function (update update_self update_of_ne)

def Main.inside {Target : Type} : Main Target → Bool
  | .marking _ _ _ => true
  | _ => false

def Next.done {Target : Type} : Next Target → List Target
  | .collecting done => done
  | _ => []

/-- The finished targets that are still to be collected. -/
def Main.done {Target : Type} : Main Target → List Target
  | .woken done => done
  | .locking next => next.done
  | .marking _ _ next => next.done
  | .collecting done => done
  | _ => []

def Next.vacant {Target : Type} : Next Target → Bool
  | .finishing => true
  | _ => false

/-- No worker is active: the scheduling has not begun or is over. -/
def Main.vacant {Target : Type} : Main Target → Bool
  | .loading | .refused | .normalizing | .opening | .leaving | .finishing | .settling | .ended _ =>
    true
  | .locking next => next.vacant
  | .marking _ _ next => next.vacant
  | _ => false

def Main.early {Target : Type} : Main Target → Bool
  | .loading | .refused | .normalizing | .opening => true
  | _ => false

theorem Main.early_vacant {Target : Type} (main : Main Target) (early : main.early = true) :
    main.vacant = true := by
  cases main <;> first | rfl | cases early

section

variable {Target : Type} (next : Next Target)

include Target

@[simp] theorem next_main_inside : next.main.inside = false := by
  cases next <;> rfl

@[simp] theorem next_main_done : next.main.done = next.done := by
  cases next <;> rfl

@[simp] theorem next_main_vacant : next.main.vacant = next.vacant := by
  cases next <;> rfl

@[simp] theorem next_main_early : next.main.early = false := by
  cases next <;> rfl

end

@[simp] theorem after_outside (request : Update) (outcome : Publication) (now : String) :
    (Thread.after request outcome now).inside = false := by
  cases request <;> cases outcome <;> rfl

@[simp] theorem after_active (request : Update) (outcome : Publication) (now : String) :
    Thread.after request outcome now ≠ .idle := by
  cases request <;> cases outcome <;> simp [Thread.after]

variable {Target : Type} [DecidableEq Target]

/-- The state lock is held by who is inside a locked part. -/
structure Locked (threads : Target → Thread) (lock : Option (Holder Target)) (main : Main Target) :
    Prop where
  thread : ∀ target, (threads target).inside = true ↔ lock = some (.thread target)
  marking : main.inside = true ↔ lock = some .main

/-- The targets that are active or pending are distinct targets of the plan, and the active ones
are those with a thread. -/
structure Scheduled (runner : BatchRunner Target) (active pending : List Target)
    (threads : Target → Thread) : Prop where
  distinct : (active ++ pending).Nodup
  planned : ∀ target ∈ active ++ pending, target ∈ runner.targets
  thread : ∀ target, threads target ≠ .idle ↔ target ∈ active
  bounded : active.length ≤ runner.maxWorkers

structure Placed (runner : BatchRunner Target) (run : Run Target) : Prop where
  admitting : run.main = .admitting → run.active.length < runner.maxWorkers ∧ run.pending ≠ []
  distinct : run.main.done.Nodup
  done : ∀ target ∈ run.main.done, target ∈ run.active ∧
    ∃ raised, run.threads target = .finished raised
  vacant : run.main.vacant = true → run.active = []
  early : run.main.early = true → run.pending = []

structure Coherent (runner : BatchRunner Target) (run : Run Target) : Prop where
  locked : Locked run.threads run.lock run.main
  scheduled : Scheduled runner run.active run.pending run.threads
  placed : Placed runner run

variable (runner : BatchRunner Target)

omit [DecidableEq Target] in
theorem Coherent.idle {run : Run Target} (held : Coherent runner run)
    (vacant : run.main.vacant = true) (target : Target) : run.threads target = .idle := by
  by_contra active
  have member := (held.scheduled.thread target).mp active
  rw [held.placed.vacant vacant] at member
  cases member

theorem locked_update (threads : Target → Thread) (lock : Option (Holder Target))
    (main : Main Target) (held : Locked threads lock main) (target : Target) (thread : Thread)
    (outside : (threads target).inside = false) (stays : thread.inside = false) :
    Locked (update threads target thread) lock main := by
  refine ⟨?_, held.marking⟩
  intro other
  by_cases same : other = target
  · subst same
    rw [update_self, stays, ← held.thread, outside]
  · rw [update_of_ne same]
    exact held.thread other

omit [DecidableEq Target] in
theorem locked_main (threads : Target → Thread) (lock : Option (Holder Target))
    (main next : Main Target) (held : Locked threads lock main)
    (same : next.inside = main.inside) : Locked threads lock next :=
  ⟨held.thread, same ▸ held.marking⟩

variable (run next : Run Target)

theorem step_locked (label : Label Target)
    (scheduled : Scheduled runner run.active run.pending run.threads)
    (held : Locked run.threads run.lock run.main) (step : Step runner run label next) :
    Locked next.threads next.lock next.main := by
  cases step with
  | submit target rest admitting quiet found =>
    have absent : run.threads target = .idle := by
      by_contra active
      have inside := (scheduled.thread target).mp active
      have distinct := scheduled.distinct
      rw [found, List.nodup_append] at distinct
      exact distinct.2.2 target inside target (.head _) rfl
    apply locked_update
    · exact locked_main _ _ _ _ held (by rw [admitting]; rfl)
    · rw [absent]; rfl
    · rfl
  | lock next locking quiet free =>
    refine ⟨?_, by simp [Main.inside]⟩
    intro target
    have outside := held.thread target
    rw [free] at outside
    simpa using outside
  | marked changed next outcome now marking quiet publishes =>
    have own := held.marking.mp (by rw [marking]; rfl)
    refine ⟨?_, ?_⟩
    · intro target
      have outside := held.thread target
      rw [own] at outside
      simpa using outside
    · dsimp only
      split_ifs
      · simp
      · simp [Main.inside]
  | check target request now thread free =>
    refine ⟨?_, ?_⟩
    · intro other
      by_cases same : other = target
      · subst same
        simp [Thread.inside]
      · have outside := held.thread other
        rw [free] at outside
        have differs : target ≠ other := fun equal => same equal.symm
        simpa [update_of_ne same, differs] using outside
    · have outside := held.marking
      rw [free] at outside
      simpa using outside
  | write target request fields now thread =>
    refine ⟨?_, held.marking⟩
    intro other
    have inside := held.thread other
    by_cases same : other = target
    · subst same
      simpa [thread, Thread.inside] using inside
    · simpa [update_of_ne same] using inside
  | publish target request outcome now thread =>
    have own := (held.thread target).mp (by rw [thread]; rfl)
    refine ⟨?_, ?_⟩
    · intro other
      by_cases same : other = target
      · subst same
        simp
      · have outside := held.thread other
        rw [own] at outside
        have differs : target ≠ other := fun equal => same equal.symm
        simpa [update_of_ne same, differs] using outside
    · have outside := held.marking
      rw [own] at outside
      simpa using outside
  | collect target rest collecting quiet returned =>
    apply locked_update
    · exact locked_main _ _ _ _ held (by rw [collecting]; rfl)
    · rw [returned]; rfl
    · rfl
  | collectRaised target rest collecting quiet raised =>
    apply locked_update
    · exact locked_main _ _ _ _ held (by rw [collecting]; rfl)
    · rw [raised]; rfl
    · rfl
  | begin _ _ thread | invoke _ thread | complete _ _ thread =>
    exact locked_update _ _ _ held _ _ (by rw [thread]; rfl) rfl
  | fail _ _ _ _ thread | escape _ _ thread =>
    exact locked_update _ _ _ held _ _ (by rcases thread with at_ | at_ <;> rw [at_] <;> rfl) rfl
  | signal _ | scan _ _ _ _ | scanned _ _ | artifacts _ _ _ => exact held
  | mark target rest changed next now marking quiet =>
    exact locked_main _ _ _ _ held (by rw [marking]; rfl)
  | normalize outcome now at_ _ | finish outcome now at_ _ _ =>
    unfold Run.normalize
    apply locked_main _ _ run.main
    · split_ifs <;> exact held
    · rw [at_]; split_ifs <;> rfl
  | resume _ at_ _ _ | refuse at_ _ _ | create _ _ at_ _ | open_ _ _ at_ | admits at_ _ _
  | submitted at_ _ _ | wait _ at_ _ _ _ _ | timeout at_ _ _ _ | waitInterrupted at_ _ _
  | left at_ _ _ | woken _ at_ _ | collected at_ _ | leave at_ _ | settle _ _ at_ _ =>
    exact locked_main _ _ _ _ held (by rw [at_]; first | rfl | (dsimp only; split_ifs <;> rfl))

section

variable (active pending : List Target) (threads : Target → Thread)
  (held : Scheduled runner active pending threads) (target : Target)

include held

theorem scheduled_update (thread : Thread) (busy : threads target ≠ .idle)
    (stays : thread ≠ .idle) : Scheduled runner active pending (update threads target thread) := by
  refine ⟨held.distinct, held.planned, ?_, held.bounded⟩
  intro other
  by_cases same : other = target
  · subst same
    simp [stays, (held.thread other).mp busy]
  · rw [update_of_ne same]
    exact held.thread other

theorem scheduled_collect (member : target ∈ active) (again : Bool) :
    Scheduled runner (active.erase target) (if again then pending ++ [target] else pending)
      (update threads target .idle) := by
  have distinct := held.distinct
  rw [List.nodup_append] at distinct
  obtain ⟨own, waiting, apart⟩ := distinct
  have sub : ∀ other ∈ active.erase target, other ∈ active := fun other => List.mem_of_mem_erase
  refine ⟨?_, ?_, ?_, ?_⟩
  · have erased : (active.erase target ++ pending).Nodup :=
      List.nodup_append.mpr ⟨own.erase _, waiting, fun other inside => apart other (sub other inside)⟩
    cases again with
    | false => exact erased
    | true =>
      rw [if_pos rfl, ← List.append_assoc, List.nodup_append]
      refine ⟨erased, List.nodup_singleton _, ?_⟩
      intro other inside one same
      rw [List.mem_singleton.mp same]
      intro equal
      rcases List.mem_append.mp inside with left | right
      · exact (List.Nodup.mem_erase_iff own).mp left |>.1 equal
      · exact apart target member other right equal.symm
  · intro other inside
    apply held.planned
    rcases List.mem_append.mp inside with left | right
    · exact List.mem_append_left _ (sub other left)
    · cases again with
      | false => exact List.mem_append_right _ right
      | true =>
        rcases List.mem_append.mp right with old | new
        · exact List.mem_append_right _ old
        · rw [List.mem_singleton.mp new]
          exact List.mem_append_left _ member
  · intro other
    by_cases same : other = target
    · subst same
      simp [List.Nodup.mem_erase_iff own]
    · rw [update_of_ne same, held.thread, List.mem_erase_of_ne same]
  · exact (List.length_erase_le).trans held.bounded

end

theorem step_scheduled (label : Label Target)
    (held : Scheduled runner run.active run.pending run.threads) (placed : Placed runner run)
    (step : Step runner run label next) :
    Scheduled runner next.active next.pending next.threads := by
  cases step with
  | open_ outcome now opening =>
    have vacant := placed.vacant (by rw [opening]; rfl)
    have idle := held.thread
    rw [vacant] at idle
    refine ⟨?_, ?_, by rw [vacant]; exact idle, held.bounded⟩
    · dsimp only
      rw [vacant]
      split_ifs
      · exact runner.targetsDistinct.filter _
      · exact List.nodup_nil
    · intro target member
      dsimp only at member
      rw [vacant] at member
      split_ifs at member
      · exact List.mem_of_mem_filter member
      · cases member
  | submit target rest admitting quiet found =>
    have room := (placed.admitting admitting).1
    have distinct := held.distinct
    have planned := held.planned
    rw [found] at distinct planned
    refine ⟨?_, ?_, ?_, ?_⟩
    · simpa using distinct
    · intro other member
      exact planned other (by simpa using member)
    · intro other
      by_cases same : other = target
      · subst same
        simp
      · simp only [update_of_ne same, List.mem_append, List.mem_singleton, same, or_false]
        exact held.thread other
    · simpa using Nat.succ_le_of_lt room
  | collect target rest collecting quiet returned =>
    have member := (placed.done target (by rw [collecting]; exact .head _)).1
    have after := scheduled_collect runner _ _ _ held target member
      (run.interrupt = false ∧ run.eligible runner target = true)
    simpa using after
  | collectRaised target rest collecting quiet raised =>
    have member := (placed.done target (by rw [collecting]; exact .head _)).1
    exact scheduled_collect runner _ _ _ held target member false
  | begin _ _ thread | check _ _ _ thread _ | write _ _ _ _ thread | invoke _ thread
  | complete _ _ thread => exact scheduled_update runner _ _ _ held _ _ (by simp [thread]) (by simp)
  | publish target request outcome now thread =>
    exact scheduled_update runner _ _ _ held _ _ (by simp [thread]) (after_active _ _ _)
  | fail _ _ _ _ thread | escape _ _ thread =>
    exact scheduled_update runner _ _ _ held _ _ (by rcases thread with at_ | at_ <;> simp [at_])
      (by simp)
  | normalize outcome now _ _ | finish outcome now _ _ _ =>
    unfold Run.normalize
    split_ifs <;> exact held
  | _ => exact held

section

variable (run : Run Target) (held : Placed runner run)

include held

theorem placed_update (target : Target) (thread : Thread)
    (running : ∀ raised, run.threads target ≠ .finished raised) :
    Placed runner { run with threads := update run.threads target thread } := by
  refine ⟨held.admitting, held.distinct, ?_, held.vacant, held.early⟩
  intro other member
  obtain ⟨active, raised, finished⟩ := held.done other member
  have differs : other ≠ target := by
    intro same
    exact running raised (same ▸ finished)
  exact ⟨active, raised, (update_of_ne differs _ _).trans finished⟩

omit [DecidableEq Target] in
theorem placed_main (main : Main Target) (admitting : main ≠ .admitting)
    (done : main.done = run.main.done) (vacant : main.vacant = true → run.main.vacant = true)
    (early : main.early = true → run.main.early = true) : Placed runner { run with main } := by
  refine ⟨fun at_ => absurd at_ admitting, ?_, ?_, fun at_ => held.vacant (vacant at_),
    fun at_ => held.early (early at_)⟩
  · dsimp only
    rw [done]
    exact held.distinct
  · dsimp only
    rw [done]
    exact held.done

theorem placed_collect (target : Target) (rest : List Target)
    (collecting : run.main = .collecting (target :: rest)) (pending : List Target)
    (main : Main Target) (known : main = .collecting rest ∨ main = .raised) :
    Placed runner
      { run with
        active := run.active.erase target, threads := update run.threads target .idle
        pending, main } := by
  have distinct := held.distinct
  have done := held.done
  rw [collecting] at distinct done
  obtain ⟨apart, rest_distinct⟩ := List.nodup_cons.mp distinct
  rcases known with at_ | at_
  · subst at_
    refine ⟨fun admitting => by simp at admitting, rest_distinct, ?_, (fun vacant => by cases vacant),
      (fun early => by cases early)⟩
    intro other member
    obtain ⟨active, finished⟩ := done other (.tail _ member)
    have differs : other ≠ target := by
      intro same
      exact apart (same ▸ member)
    obtain ⟨raised, finished⟩ := finished
    exact ⟨(List.mem_erase_of_ne differs).mpr active, raised,
      (update_of_ne differs _ _).trans finished⟩
  · subst at_
    exact ⟨fun admitting => by simp at admitting, List.nodup_nil,
      nofun, (fun vacant => by cases vacant), (fun early => by cases early)⟩

end

theorem step_placed (label : Label Target) (held : Placed runner run)
    (step : Step runner run label next) : Placed runner next := by
  cases step with
  | resume document at_ _ _ =>
    exact ⟨fun same => by simp at same, List.nodup_nil, fun _ member => absurd member
      List.not_mem_nil, fun _ => held.vacant (by rw [at_]; rfl), fun _ => held.early (by rw [at_]; rfl)⟩
  | refuse at_ _ _ =>
    exact placed_main runner run held _ (by simp) (by rw [at_]; rfl) (fun _ => by rw [at_]; rfl)
      (fun _ => by rw [at_]; rfl)
  | create outcome now at_ _ =>
    have kept := placed_main runner run held (if outcome = .done then .normalizing else .refused)
      (by split_ifs <;> simp) (by rw [at_]; split_ifs <;> rfl) (fun _ => by rw [at_]; rfl)
      (fun _ => by rw [at_]; rfl)
    exact { kept with }
  | normalize outcome now at_ _ =>
    have kept := placed_main runner run held (if outcome = .done then .opening else .refused)
      (by split_ifs <;> simp) (by rw [at_]; split_ifs <;> rfl) (fun _ => by rw [at_]; rfl)
      (fun _ => by rw [at_]; rfl)
    unfold Run.normalize
    by_cases gap : run.hasGap runner
    · simp only [gap, if_true]
      exact { kept with }
    · simp only [gap]
      exact kept
  | finish outcome now at_ quiet _ =>
    have kept := placed_main runner run held (if outcome = .done then .settling else .raised)
      (by split_ifs <;> simp) (by rw [at_]; split_ifs <;> rfl) (fun _ => by rw [at_]; rfl)
      (by split_ifs <;> simp [Main.early])
    unfold Run.normalize
    by_cases gap : run.hasGap runner
    · simp only [gap, if_true]
      exact { kept with }
    · simp only [gap]
      exact kept
  | open_ outcome now at_ =>
    have vacant := held.vacant (by rw [at_]; rfl)
    refine ⟨?_, ?_, ?_, fun _ => vacant, ?_⟩
    · dsimp only
      split_ifs <;> simp
    · dsimp only
      split_ifs <;> exact List.nodup_nil
    · dsimp only
      split_ifs <;> nofun
    · dsimp only
      split_ifs <;> simp [Main.early]
  | admits at_ quiet free =>
    exact ⟨fun _ => free.2, List.nodup_nil, nofun,
      (fun vacant => by cases vacant), (fun early => by cases early)⟩
  | submit target rest at_ quiet found =>
    exact ⟨fun same => by simp at same, List.nodup_nil, fun _ member => absurd member
      List.not_mem_nil, (fun vacant => by cases vacant), (fun early => by cases early)⟩
  | wait done at_ quiet some_ distinct each =>
    exact ⟨fun same => by simp at same, distinct, each, (fun vacant => by cases vacant),
      (fun early => by cases early)⟩
  | left at_ quiet empty =>
    exact ⟨fun same => by simp at same, List.nodup_nil, fun _ member => absurd member
      List.not_mem_nil, fun _ => empty, (fun early => by cases early)⟩
  | submitted at_ _ _ | timeout at_ _ _ _ | collected at_ _ =>
    exact placed_main runner run held _ (by simp) (by rw [at_]; rfl) (fun same => by cases same)
      (fun same => by cases same)
  | waitInterrupted at_ _ _ =>
    have kept := placed_main runner run held (.locking .waiting) (by simp) (by rw [at_]; rfl)
      (fun same => by cases same) (fun same => by cases same)
    exact { kept with }
  | woken done at_ quiet =>
    apply placed_main runner run held
    · split_ifs <;> simp
    · rw [at_]; split_ifs <;> rfl
    · split_ifs <;> simp [Main.vacant, Next.vacant]
    · split_ifs <;> simp [Main.early]
  | lock next at_ quiet free =>
    have kept := placed_main runner run held (.marking runner.targets false next) (by simp)
      (by rw [at_]; rfl) (fun same => by rw [at_]; exact same) (fun same => by cases same)
    exact { kept with }
  | mark target rest changed next now at_ quiet =>
    have kept := placed_main runner run held (.marking rest (changed || run.marks target) next)
      (by simp) (by rw [at_]; rfl) (fun same => by rw [at_]; exact same) (fun same => by cases same)
    exact { kept with }
  | marked changed next outcome now at_ quiet publishes =>
    by_cases finished : outcome = .done
    · have kept := placed_main runner run held next.main (by cases next <;> simp [Next.main])
        (by rw [at_]; simp; rfl) (fun same => by rw [at_]; rwa [next_main_vacant] at same)
        (fun same => by simp at same)
      simp only [finished, if_true]
      exact { kept with }
    · simp only [finished, if_false]
      exact ⟨fun same => by simp at same, List.nodup_nil, fun _ member => absurd member
        List.not_mem_nil, (fun vacant => by cases vacant), (fun early => by cases early)⟩
  | collect target rest at_ quiet returned =>
    exact placed_collect runner run held target rest at_ _ _ (.inl rfl)
  | collectRaised target rest at_ quiet raised =>
    exact placed_collect runner run held target rest at_ _ _ (.inr rfl)
  | leave at_ quiet =>
    apply placed_main runner run held
    · split_ifs <;> simp
    · rw [at_]; split_ifs <;> rfl
    · rw [at_]; exact fun _ => rfl
    · split_ifs <;> simp [Main.early]
  | settle outcome now at_ quiet =>
    have kept := placed_main runner run held
      (if outcome = .done then .ended (finalStatus runner run.interrupt run.records) else .raised)
      (by split_ifs <;> simp) (by rw [at_]; split_ifs <;> rfl) (fun _ => by rw [at_]; rfl)
      (by split_ifs <;> simp [Main.early])
    exact { kept with }
  | begin _ _ thread | complete _ _ thread =>
    exact placed_update runner run held _ _ (by simp [thread])
  | check target request now thread free =>
    have kept := placed_update runner run held target
      (.checked request (run.guarded target request now)) (by simp [thread])
    exact { kept with }
  | write target request fields now thread =>
    have kept := placed_update runner run held target (.written request) (by simp [thread])
    exact { kept with }
  | publish target request outcome now thread =>
    have kept := placed_update runner run held target (.after request outcome now)
      (by simp [thread])
    exact { kept with }
  | invoke target thread =>
    have kept := placed_update runner run held target .running (by simp [thread])
    exact { kept with }
  | fail target code message now thread =>
    exact placed_update runner run held _ _ (by rcases thread with at_ | at_ <;> simp [at_])
  | escape target now thread =>
    have kept := placed_update runner run held target (.waiting (.interrupted now))
      (by rcases thread with at_ | at_ <;> simp [at_])
    exact { kept with }
  | signal _ | scan _ _ _ _ | scanned _ _ | artifacts _ _ _ =>
    exact ⟨held.admitting, held.distinct, held.done, held.vacant, held.early⟩

theorem step_coherent (label : Label Target) (held : Coherent runner run)
    (step : Step runner run label next) : Coherent runner next :=
  ⟨step_locked runner run next label held.scheduled held.locked step,
    step_scheduled runner run next label held.scheduled held.placed step,
    step_placed runner run next label held.placed step⟩

omit [DecidableEq Target] in
theorem start_coherent (reusable : Target → Bool) (disk : Option (Document Target))
    (invoked : List (Target × Nat)) : Coherent runner (Run.start runner reusable disk invoked) := by
  refine ⟨⟨?_, ?_⟩, ⟨List.nodup_nil, ?_, ?_, Nat.zero_le _⟩, ⟨?_, List.nodup_nil, ?_, fun _ => rfl,
    fun _ => rfl⟩⟩
  all_goals simp [Run.start, Thread.inside, Main.inside, Main.done]

theorem reaches_coherent (allowed : Label Target → Prop) (run next : Run Target)
    (held : Coherent runner run) (reaches : Reaches runner allowed run next) :
    Coherent runner next := by
  induction reaches with
  | refl => exact held
  | tail _ step ih =>
    obtain ⟨label, -, step⟩ := step
    exact step_coherent runner _ _ label ih step

end DosWeb.Batch
