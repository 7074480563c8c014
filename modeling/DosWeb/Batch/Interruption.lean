import DosWeb.Batch.View

/-!
Interruption and completion in one run: what a publication shows of a target that was interrupted
or completed, and what a later publication of the same run may show of it.
-/

namespace DosWeb.Batch

/-- The worker has published its attempt and has yet to settle the target. -/
def Thread.started : Thread → Bool
  | .preparing => true
  | .running => true
  | .waiting (.completed _) => true
  | .waiting (.interrupted _) => true
  | .checked (.completed _) _ => true
  | .checked (.interrupted _) _ => true
  | _ => false

/-- The record is interrupted, and the run knows of an interruption. -/
def View.halted (view : View) : Prop :=
  view.record.state = .interrupted ∧ (view.snapshot = true ∨ view.interrupt = true)

def View.attempted (view : View) : Prop :=
  view.record.state = .running ∨ view.record.state = .retrying ∨ view.halted

structure View.Standing (view : View) : Prop where
  counts : ∀ number startedAt, view.thread = .waiting (.attempt number startedAt) ∨
    (∃ fields, view.thread = .checked (.attempt number startedAt) fields) →
    number = view.record.attempt + 1
  fields : ∀ request fields, view.thread = .checked request fields →
    fields = request ∨ view.stopped ∧ ∃ finishedAt, fields = .interrupted finishedAt
  started : view.thread.started = true → view.attempted
  escaped : ∀ finishedAt, view.thread = .waiting (.interrupted finishedAt) ∨
    (∃ fields, view.thread = .checked (.interrupted finishedAt) fields) → view.snapshot = true
  written : ∀ number startedAt, view.thread = .written (.attempt number startedAt) → view.attempted

@[simp] theorem after_started (request : Update) (outcome : Publication) (now : String) :
    (Thread.after request outcome now).started = true ↔
      request.isAttempt = true ∧ outcome = .done := by
  cases request <;> cases outcome <;> simp [Thread.after, Thread.started, publishFailed,
    Update.isAttempt]

theorem after_shape (request : Update) (outcome : Publication) (now : String) :
    Thread.after request outcome now = .preparing ∨
      Thread.after request outcome now = .waiting (publishFailed now) ∨
      ∃ raised, Thread.after request outcome now = .finished raised := by
  cases request <;> cases outcome <;> simp [Thread.after]

theorem guarded_fields (view : View) (request : Update) (now : String) :
    view.guarded request now = request ∨
      view.stopped ∧ ∃ finishedAt, view.guarded request now = .interrupted finishedAt := by
  unfold View.guarded
  split
  · rename_i stopped
    exact Or.inr ⟨stopped, _, rfl⟩
  · exact Or.inl rfl

theorem written_attempted (view : View) (number : Nat) (startedAt now : String) (fields : Update)
    (known : fields = .attempt number startedAt ∨
      view.stopped ∧ ∃ finishedAt, fields = .interrupted finishedAt) (thread : Thread) :
    View.attempted { view with
      thread, record := { fields.apply view.record with updatedAt := some now } } := by
  rcases known with own | ⟨stopped, finishedAt, own⟩
  · subst own
    by_cases again : number > 1
    · exact Or.inr (Or.inl (by simp [again]))
    · exact Or.inl (by simp [again])
  · subst own
    exact Or.inr (Or.inr ⟨rfl, stopped.imp_right And.left⟩)

section

variable {Target : Type} (runner : BatchRunner Target)

variable (view : View)

theorem standing_thread (thread : Thread) (waits interrupt : Bool) (spent : List Nat)
    (published : Option Record)
    (quiet : thread = .idle ∨ thread = .submitted ∨ (∃ raised, thread = .finished raised) ∨
      ∃ code message now, thread = .waiting (.failed code message now)) :
    View.Standing { view with thread, waits, interrupt, spent, published } := by
  rcases quiet with own | own | ⟨raised, own⟩ | ⟨code, message, now, own⟩
  all_goals subst own; exact ⟨by simp, by simp, by simp [Thread.started], by simp, by simp⟩

/-- The steps of others keep what the worker relies on: its record may only become interrupted. -/
theorem standing_mono (view next : View) (held : view.Standing) (thread : next.thread = view.thread)
    (snapshot : view.snapshot = true → next.snapshot = true)
    (interrupt : view.interrupt = true → next.interrupt = true)
    (counter : next.record.attempt = view.record.attempt)
    (state : next.record.state = view.record.state ∨ next.halted) : next.Standing := by
  have halted (before : view.halted) : next.halted := by
    rcases state with same | halted
    · exact ⟨same.trans before.1, before.2.imp snapshot interrupt⟩
    · exact halted
  have attempted (before : view.attempted) : next.attempted := by
    rcases state with same | halted
    · rcases before with running | retrying | before
      · exact Or.inl (same.trans running)
      · exact Or.inr (Or.inl (same.trans retrying))
      · exact Or.inr (Or.inr (halted before))
    · exact Or.inr (Or.inr halted)
  have stopped (before : view.stopped) : next.stopped := by
    rcases before with own | own
    · exact Or.inl (snapshot own)
    · have later := halted ⟨own.2, Or.inr own.1⟩
      exact later.2.imp_right fun interrupted => ⟨interrupted, later.1⟩
  refine ⟨?_, ?_, ?_, ?_, ?_⟩
  · intro number startedAt at_
    rw [counter]
    exact held.counts number startedAt (thread ▸ at_)
  · intro request fields at_
    exact (held.fields request fields (thread ▸ at_)).imp_right (And.imp_left stopped)
  · intro at_
    exact attempted (held.started (thread ▸ at_))
  · intro finishedAt at_
    exact snapshot (held.escaped finishedAt (thread ▸ at_))
  · intro number startedAt at_
    exact attempted (held.written number startedAt (thread ▸ at_))

theorem marked_halted (now : String) : (view.marked now).record.attempt = view.record.attempt ∧
      ((view.marked now).record = view.record ∨
        (view.marked now).record.state = .interrupted ∧ (view.marked now).snapshot = true) := by
  unfold View.marked
  dsimp only
  split_ifs with marks
  · exact ⟨rfl, Or.inr ⟨rfl, marks.1⟩⟩
  · exact ⟨rfl, Or.inl rfl⟩

theorem marked_snapshot (now : String) (before : view.snapshot = true) :
    (view.marked now).snapshot = true := by
  simp [View.marked, before]

variable {target : Target}

theorem sees_standing {view next : View} {label : Label Target}
    (held : view.Standing) (sees : Sees runner target view label next) : next.Standing := by
  cases sees with
  | stay => exact held
  | interrupt => exact standing_mono view _ held rfl id (fun _ => rfl) rfl (.inl rfl)
  | snapshot _ busy => exact standing_mono view _ held rfl (fun _ => rfl) id rfl (.inl rfl)
  | published _ interrupt outside =>
    exact standing_mono view _ held rfl id (fun before => by simp [before]) rfl (.inl rfl)
  | mark _ now outside =>
    obtain ⟨counter, state⟩ := marked_halted view now
    refine standing_mono view _ held rfl (marked_snapshot view now) id counter ?_
    exact state.imp (congrArg Record.state) fun own => ⟨own.1, Or.inl own.2⟩
  | gap _ now published vacant => exact ⟨by simp [vacant], by simp [vacant],
      by simp [vacant, Thread.started], by simp [vacant], by simp [vacant]⟩
  | enqueue _ _ _ _ _ | artifacts _ _ _ =>
    exact standing_mono view _ held rfl id id rfl (.inl rfl)
  | submit _ waits vacant => exact standing_thread view _ _ _ _ _ (.inr (.inl rfl))
  | collect _ raised again finished eligible => exact standing_thread view _ _ _ _ _ (.inl rfl)
  | begin now at_ =>
    refine ⟨?_, by simp, by simp [Thread.started], by simp, by simp⟩
    intro number startedAt same
    rcases same with same | ⟨fields, same⟩
    · cases same
      rfl
    · cases same
  | check request now at_ =>
    refine ⟨?_, ?_, ?_, ?_, by simp⟩
    · intro number startedAt same
      rcases same with same | ⟨fields, same⟩
      · cases same
      · cases same
        exact held.counts _ _ (.inl at_)
    · intro other fields same
      cases same
      exact guarded_fields view request now
    · intro started
      refine held.started ?_
      rw [at_]
      cases request <;> simp_all [Thread.started]
    · intro finishedAt same
      rcases same with same | ⟨fields, same⟩
      · cases same
      · cases same
        exact held.escaped _ (.inl at_)
  | write request fields now at_ =>
    refine ⟨by simp, by simp, by simp [Thread.started], by simp, ?_⟩
    intro number startedAt same
    cases same
    exact written_attempted view number startedAt now fields (held.fields _ _ at_) _
  | publish request outcome now at_ =>
    rcases after_shape request outcome now with prepares | fails | finished
    · have attempt := (after_started request outcome now).mp (by rw [prepares]; rfl)
      rw [prepares]
      refine ⟨by simp, by simp, ?_, by simp, by simp⟩
      intro _
      cases request with
      | attempt number startedAt =>
        have attempted := held.written _ _ at_
        exact attempted.imp_right (Or.imp_right fun halted =>
          ⟨halted.1, halted.2.imp_right fun before => by simp [before]⟩)
      | _ => cases attempt.1
    · rw [fails]
      exact standing_thread view _ _ _ _ _ (.inr (.inr (.inr ⟨_, _, _, rfl⟩)))
    · obtain ⟨raised, finished⟩ := finished
      rw [finished]
      exact standing_thread view _ _ _ _ _ (.inr (.inr (.inl ⟨_, rfl⟩)))
  | invoke at_ | complete _ at_ =>
    have attempted := held.started (by rw [at_]; rfl)
    exact ⟨by simp, by simp, fun _ => attempted, by simp, by simp⟩
  | fail code message now at_ =>
    exact standing_thread view _ _ _ _ _ (.inr (.inr (.inr ⟨_, _, _, rfl⟩)))
  | escape now at_ =>
    have attempted := held.started (by rcases at_ with at_ | at_ <;> rw [at_] <;> rfl)
    refine ⟨by simp, by simp, ?_, fun _ _ => rfl, by simp⟩
    intro _
    exact attempted.imp_right (Or.imp_right fun halted => ⟨halted.1, Or.inl rfl⟩)

/-- The state of a target whose attempt has ended by itself. -/
def TargetState.settled (state : TargetState) : Bool :=
  state = .completed || state = .completedWithGaps || state = .failed

/-- A later attempt was counted, or the attempt has ended and no snapshot holds the target. -/
def View.beyond (view : View) (counter : Nat) : Prop := counter < view.record.attempt ∨
    view.record.attempt = counter ∧ view.snapshot = false ∧ view.record.state.settled = true

theorem beyond_same (view next : View) (counter : Nat) (held : view.beyond counter)
    (attempt : next.record.attempt = view.record.attempt)
    (state : next.record.state = view.record.state) (snapshot : next.snapshot = view.snapshot) :
    next.beyond counter := by
  unfold View.beyond
  rw [attempt, state, snapshot]
  exact held

theorem settled_not_attempted (settled : view.record.state.settled = true) : ¬ view.attempted := by
  intro attempted
  rcases attempted with running | retrying | halted
  · simp [TargetState.settled, running] at settled
  · simp [TargetState.settled, retrying] at settled
  · simp [TargetState.settled, halted.1] at settled

theorem beyond_write (counter : Nat) (held : view.beyond counter)
    (standing : view.Standing) (request fields : Update) (now : String) (thread : Thread)
    (at_ : view.thread = .checked request fields) :
    View.beyond { view with
      thread, record := { fields.apply view.record with updatedAt := some now } } counter := by
  have known := standing.fields request fields at_
  by_cases attempt : fields.isAttempt = true
  · cases fields with
    | attempt number startedAt =>
      have own : Update.attempt number startedAt = request := by
        rcases known with own | ⟨-, finishedAt, other⟩
        · exact own
        · cases other
      subst own
      have counted := standing.counts number startedAt (.inr ⟨_, at_⟩)
      have later : counter < number := by
        rcases held with behind | same
        · omega
        · omega
      exact Or.inl later
    | _ => cases attempt
  · have counter_same := apply_counter fields view.record (by simpa using attempt)
    rcases held with behind | ⟨same, snapshot, settled⟩
    · exact Or.inl (by simpa [counter_same] using behind)
    · have fresh : ¬ view.stopped := by
        intro stopped
        rcases stopped with own | own
        · simp [snapshot] at own
        · simp [TargetState.settled, own.2] at settled
      have own : fields = request := known.resolve_right fun other => fresh other.1
      subst own
      refine Or.inr ⟨by simpa [counter_same] using same, snapshot, ?_⟩
      cases fields with
      | attempt _ _ => exact absurd rfl attempt
      | completed _ => rfl
      | failed _ _ _ => rfl
      | interrupted finishedAt =>
        have escaped := standing.escaped finishedAt (.inr ⟨_, at_⟩)
        simp [snapshot] at escaped

theorem sees_beyond {view next : View} {label : Label Target} (counter : Nat)
    (standing : view.Standing) (held : view.beyond counter)
    (sees : Sees runner target view label next) : next.beyond counter := by
  cases sees with
  | snapshot _ busy =>
    rcases held with behind | ⟨-, -, settled⟩
    · exact Or.inl behind
    · cases state : view.record.state <;> simp [state, TargetState.busy, TargetState.settled] at busy settled
  | mark _ now outside =>
    obtain ⟨counter_same, -⟩ := marked_halted view now
    rcases held with behind | ⟨same, snapshot, settled⟩
    · exact Or.inl (counter_same ▸ behind)
    · have idle : view.record.state.busy = false := by
        cases state : view.record.state <;> simp [state, TargetState.settled] at settled <;> rfl
      apply beyond_same view _ counter (.inr ⟨same, snapshot, settled⟩) counter_same
      · simp [View.marked, snapshot, idle]
      · simp [View.marked, snapshot, idle]
  | gap _ now published vacant =>
    have counter_same := normalize_counter runner view.reusable now view.record
    rcases held with behind | ⟨same, snapshot, settled⟩
    · exact Or.inl (counter_same ▸ behind)
    · refine Or.inr ⟨counter_same.trans same, snapshot, ?_⟩
      rcases normalize_state runner view.reusable now view.record with stays | moved
      · dsimp only
        rw [stays]
        exact settled
      · dsimp only
        rw [moved.2]
        rfl
  | write request fields now at_ =>
    exact beyond_write view counter held standing request fields now _ at_
  | escape now at_ =>
    rcases held with behind | ⟨-, -, settled⟩
    · exact Or.inl behind
    · have attempted := standing.started (by rcases at_ with at_ | at_ <;> rw [at_] <;> rfl)
      exact absurd attempted (settled_not_attempted view settled)
  | _ => exact beyond_same view _ counter held rfl rfl rfl

/-- What is published of a completed target that no snapshot holds is no later than its record. -/
def View.completedKept (view : View) : Prop :=
  ∀ record, view.published = some record → record.state = .completed → view.snapshot = false →
    view.beyond record.attempt

/-- A publication that shows an interruption shows a later counter. -/
def View.interruptedLater (view : View) (counter : Nat) : Prop :=
  ∀ record, view.published = some record → record.state = .interrupted → counter < record.attempt

section

variable {view next : View} {label : Label Target} (sees : Sees runner target view label next)

include sees

theorem sees_published : next.published = view.published ∨ next.published = some next.record ∧
      next.thread.inside = false := by
  cases sees with
  | published _ interrupt outside => exact Or.inr ⟨rfl, outside⟩
  | gap _ _ published vacant | enqueue _ published _ vacant _ =>
    cases published with
    | false => exact Or.inl rfl
    | true => exact Or.inr ⟨rfl, by dsimp only; rw [vacant]; rfl⟩
  | publish request outcome now at_ =>
    by_cases early : outcome = .early
    · exact Or.inl (if_pos early)
    · exact Or.inr ⟨if_neg early, after_outside _ _ _⟩
  | _ => exact Or.inl rfl

theorem sees_snapshot (before : view.snapshot = true) : next.snapshot = true := by
  cases sees with
  | mark _ now outside => exact marked_snapshot view now before
  | snapshot _ busy => rfl
  | escape now at_ => rfl
  | _ => exact before

theorem sees_interrupt (before : view.interrupt = true) : next.interrupt = true := by
  cases sees with
  | interrupt _ => rfl
  | published _ interrupt outside => simp [before]
  | publish request outcome now at_ => simp [before]
  | _ => exact before

end

theorem sees_completed_kept {view next : View} {label : Label Target}
    (standing : view.Standing) (held : view.completedKept)
    (sees : Sees runner target view label next) : next.completedKept := by
  intro record published completed fresh
  have before : view.snapshot = false := by
    by_contra known
    rw [sees_snapshot runner sees (by simpa using known)] at fresh
    cases fresh
  rcases sees_published runner sees with same | ⟨own, -⟩
  · exact sees_beyond runner record.attempt standing
      (held record (same ▸ published) completed before) sees
  · rw [own] at published
    cases published
    exact Or.inr ⟨rfl, fresh, by simp [TargetState.settled, completed]⟩

theorem sees_interrupted_later {view next : View} {label : Label Target}
    (counter : Nat) (standing : view.Standing) (beyond : view.beyond counter)
    (held : view.interruptedLater counter) (sees : Sees runner target view label next) :
    next.interruptedLater counter := by
  intro record published interrupted
  rcases sees_published runner sees with same | ⟨own, -⟩
  · exact held record (same ▸ published) interrupted
  · rw [own] at published
    cases published
    rcases sees_beyond runner counter standing beyond sees with behind | ⟨-, -, settled⟩
    · exact behind
    · simp [TargetState.settled, interrupted] at settled

/-- The target will not be completed: an update of it that is under way is stopped, and so is
every later one. -/
structure View.Sealed (view : View) : Prop where
  record : view.record.state ≠ .completed
  published : ∀ record, view.published = some record → record.state ≠ .completed
  checked : ∀ request finishedAt, view.thread ≠ .checked request (.completed finishedAt)
  stopped : view.snapshot = true ∨ view.interrupt = true ∧ view.record.state = .interrupted ∧
    ∀ request fields, view.thread = .checked request fields →
      ∃ finishedAt, fields = .interrupted finishedAt

theorem apply_completed (fields : Update) (record : Record)
    (other : ∀ finishedAt, fields ≠ .completed finishedAt) :
    (fields.apply record).state ≠ .completed := by
  cases fields with
  | attempt number startedAt =>
    rw [apply_attempt_state]
    split_ifs <;> simp
  | completed finishedAt => exact absurd rfl (other finishedAt)
  | failed _ _ _ => simp [Update.apply]
  | interrupted _ => simp [Update.apply]

theorem marked_completed (now : String) (before : view.record.state ≠ .completed) :
    (view.marked now).record.state ≠ .completed := by
  rcases (marked_halted view now).2 with same | halted
  · rw [same]
    exact before
  · rw [halted.1]
    simp

theorem normalized_completed (now : String) (before : view.record.state ≠ .completed) :
    (normalizeCompletedGap runner view.reusable now view.record).state = view.record.state :=
  (normalize_state runner view.reusable now view.record).resolve_right fun moved => before moved.1

theorem sealed_mono (view next : View) (held : view.Sealed) (record : next.record = view.record)
    (thread : next.thread = view.thread) (snapshot : view.snapshot = true → next.snapshot = true)
    (interrupt : view.interrupt = true → next.interrupt = true)
    (published : next.published = view.published ∨ next.published = some next.record) :
    next.Sealed := by
  refine ⟨?_, ?_, ?_, ?_⟩
  · rw [record]
    exact held.record
  · intro other shown
    rcases published with same | own
    · exact held.published other (same ▸ shown)
    · rw [own, record] at shown
      cases shown
      exact held.record
  · rw [thread]
    exact held.checked
  · rw [thread, record]
    exact held.stopped.imp snapshot (And.imp_left interrupt)

theorem sealed_thread (held : view.Sealed) (thread : Thread)
    (waits snapshot interrupt : Bool) (spent : List Nat) (published : Option Record)
    (outside : thread.inside = false) (shown : published = view.published ∨
      published = some view.record) (kept : view.snapshot = true → snapshot = true)
    (still : view.interrupt = true → interrupt = true) :
    View.Sealed { view with thread, waits, snapshot, interrupt, spent, published } := by
  have never (request fields : Update) : thread ≠ .checked request fields := by
    intro same
    rw [same] at outside
    cases outside
  refine ⟨held.record, ?_, fun request finishedAt => never request _, ?_⟩
  · intro record published_as
    rcases shown with same | own
    · exact held.published record (same ▸ published_as)
    · rw [own] at published_as
      cases published_as
      exact held.record
  · exact held.stopped.imp kept fun own =>
      ⟨still own.1, own.2.1, fun request fields at_ => absurd at_ (never request fields)⟩

theorem sees_sealed {view next : View} {label : Label Target}
    (held : view.Sealed) (sees : Sees runner target view label next) : next.Sealed := by
  cases sees with
  | stay _ => exact held
  | interrupt _ => exact sealed_mono view _ held rfl rfl id (fun _ => rfl) (.inl rfl)
  | snapshot _ busy => exact sealed_mono view _ held rfl rfl (fun _ => rfl) id (.inl rfl)
  | published _ interrupt outside =>
    exact sealed_mono view _ held rfl rfl id (fun before => by simp [before]) (.inr rfl)
  | mark _ now outside =>
    refine ⟨marked_completed view now held.record, held.published, held.checked, ?_⟩
    rcases held.stopped with snapshot | ⟨interrupt, interrupted, fields⟩
    · exact Or.inl (marked_snapshot view now snapshot)
    · refine Or.inr ⟨interrupt, ?_, fields⟩
      rcases (marked_halted view now).2 with same | halted
      · rw [same]
        exact interrupted
      · exact halted.1
  | gap _ now published vacant =>
    have same := normalized_completed runner view now held.record
    refine ⟨same ▸ held.record, ?_, held.checked, ?_⟩
    · intro record shown
      cases published with
      | false => exact held.published record shown
      | true =>
        cases shown
        exact same ▸ held.record
    · dsimp only
      rw [same]
      exact held.stopped
  | enqueue _ published waits vacant eligible =>
    cases published with
    | false => exact sealed_mono view _ held rfl rfl id id (.inl rfl)
    | true => exact sealed_mono view _ held rfl rfl id id (.inr rfl)
  | submit _ _ _ | collect _ _ _ _ _ | begin _ _ | invoke _ | complete _ _ | fail _ _ _ _ =>
    exact sealed_thread view held _ _ _ _ _ _ rfl (.inl rfl) id id
  | check request now at_ =>
    have guarded : view.guarded request now = .interrupted (request.finishedAt.getD now) :=
      if_pos (held.stopped.imp_right fun own => ⟨own.1, own.2.1⟩)
    refine ⟨held.record, held.published, ?_, ?_⟩
    · intro other finishedAt same
      rw [guarded] at same
      cases same
    · refine held.stopped.imp_right fun own => ⟨own.1, own.2.1, ?_⟩
      intro other fields same
      rw [guarded] at same
      cases same
      exact ⟨_, rfl⟩
  | write request fields now at_ =>
    have other (finishedAt : String) : fields ≠ .completed finishedAt := by
      intro same
      exact held.checked request finishedAt (same ▸ at_)
    refine ⟨apply_completed fields view.record other, held.published, by simp, ?_⟩
    refine held.stopped.imp_right fun own => ⟨own.1, ?_, by simp⟩
    obtain ⟨finishedAt, same⟩ := own.2.2 request fields at_
    rw [same]
    rfl
  | publish request outcome now at_ =>
    apply sealed_thread view held _ _ _ _ _ _ (after_outside _ _ _) _ id
    · intro before
      simp [before]
    · by_cases early : outcome = .early
      · exact Or.inl (if_pos early)
      · exact Or.inr (if_neg early)
  | escape now at_ =>
    exact sealed_thread view held _ _ _ _ _ _ rfl (.inl rfl) (fun _ => rfl) id
  | artifacts now own => exact sealed_mono view _ held rfl rfl id id (.inl rfl)

/-- An interrupted record is the inherited one, or the run knows of an interruption. -/
def View.inherits (view : View) (inherited : Record) : Prop := view.record.state = .interrupted →
    view.record = inherited ∨ view.snapshot = true ∨ view.interrupt = true

theorem sees_inherits {view next : View} {label : Label Target}
    (inherited : Record) (standing : view.Standing) (held : view.inherits inherited)
    (sees : Sees runner target view label next) : next.inherits inherited := by
  have kept (same : next.record = view.record) : next.inherits inherited := by
    intro interrupted
    rw [same] at interrupted ⊢
    exact (held interrupted).imp_right
      (Or.imp (sees_snapshot runner sees) (sees_interrupt runner sees))
  cases sees with
  | mark _ now outside =>
    rcases (marked_halted view now).2 with same | halted
    · exact kept same
    · exact fun _ => Or.inr (Or.inl halted.2)
  | gap _ now published vacant =>
    intro interrupted
    have before : view.record.state ≠ .completed := by
      intro completed
      rcases normalize_state runner view.reusable now view.record with same | moved
      · simp [same, completed] at interrupted
      · simp [moved.2] at interrupted
    have unchanged : normalizeCompletedGap runner view.reusable now view.record = view.record := by
      simp [normalizeCompletedGap, exhaustedGap, before]
    exact kept unchanged interrupted
  | write request fields now at_ =>
    intro interrupted
    rcases standing.fields request fields at_ with own | ⟨stopped, -⟩
    · subst own
      cases fields with
      | attempt number startedAt =>
        rw [apply_attempt_state] at interrupted
        split_ifs at interrupted
      | completed _ => cases interrupted
      | failed _ _ _ => cases interrupted
      | interrupted finishedAt =>
        exact Or.inr (Or.inl (standing.escaped finishedAt (.inr ⟨_, at_⟩)))
    · exact Or.inr (stopped.imp_right And.left)
  | _ => exact kept rfl

/-- A publication that shows an interruption under an attempt means that the attempt is stopped. -/
def View.shows (view : View) : Prop := view.thread.started = true →
    ∀ record, view.published = some record → record.state = .interrupted → view.stopped

theorem attempted_stopped (attempted : view.attempted)
    (interrupted : view.record.state = .interrupted) : view.stopped := by
  rcases attempted with running | retrying | halted
  · simp [running] at interrupted
  · simp [retrying] at interrupted
  · exact halted.2.imp_right fun known => ⟨known, interrupted⟩

theorem sees_shows {view next : View} {label : Label Target}
    (standing : view.Standing) (held : view.shows) (sees : Sees runner target view label next) :
    next.shows := by
  have later := sees_standing runner standing sees
  intro started record published interrupted
  rcases sees_published runner sees with same | ⟨own, -⟩
  · rw [same] at published
    have before (at_ : view.thread.started = true) : view.stopped :=
      held at_ record published interrupted
    have kept (record_same : next.record = view.record) (at_ : view.thread.started = true) :
        next.stopped := by
      rcases before at_ with own | own
      · exact Or.inl (sees_snapshot runner sees own)
      · exact Or.inr ⟨sees_interrupt runner sees own.1, record_same ▸ own.2⟩
    cases sees with
    | mark _ now outside =>
      rcases (marked_halted view now).2 with unchanged | halted
      · exact kept unchanged started
      · exact Or.inl halted.2
    | gap _ now published vacant => simp [vacant, Thread.started] at started
    | submit _ _ _ | collect _ _ _ _ _ | begin _ _ | write _ _ _ _ | fail _ _ _ _ =>
      simp [Thread.started] at started
    | check request now at_ =>
      apply kept rfl
      rw [at_]
      cases request <;> simp_all [Thread.started]
    | publish request outcome now at_ =>
      have finished := ((after_started request outcome now).mp started).2
      subst finished
      have shown : (some view.record : Option Record) = some record := same.trans published
      cases shown
      exact attempted_stopped _ (later.started started) interrupted
    | invoke at_ | complete _ at_ => exact kept rfl (by rw [at_]; rfl)
    | escape now at_ => exact Or.inl rfl
    | _ => exact kept rfl started
  · rw [own] at published
    cases published
    exact attempted_stopped next (later.started started) interrupted

/-- What is published as interrupted was inherited, or the target is sealed. -/
def View.interruptedKept (view : View) (inherited : Record) : Prop :=
  ∀ record, view.published = some record → record.state = .interrupted →
    view.record.state ≠ .completed ∧
      (∀ request finishedAt, view.thread ≠ .checked request (.completed finishedAt)) ∧
      (record = inherited ∨ view.Sealed)

theorem sees_interrupted_kept {view next : View} {label : Label Target}
    (inherited : Record) (standing : view.Standing) (inherits : view.inherits inherited)
    (shows_ : view.shows) (held : view.interruptedKept inherited)
    (sees : Sees runner target view label next) : next.interruptedKept inherited := by
  intro record published interrupted
  rcases sees_published runner sees with same | ⟨own, outside⟩
  · rw [same] at published
    obtain ⟨state, checked, known⟩ := held record published interrupted
    have sealed_ := known.imp_right fun sealed_ => sees_sealed runner sealed_ sees
    cases sees with
    | mark _ now outside => exact ⟨marked_completed view now state, checked, sealed_⟩
    | gap _ now published vacant =>
      refine ⟨?_, checked, sealed_⟩
      dsimp only
      rw [normalized_completed runner view now state]
      exact state
    | check request now at_ =>
      refine ⟨state, ?_, sealed_⟩
      intro other finishedAt completed
      have fields := (Thread.checked.inj completed).2
      have started : view.thread.started = true := by
        rcases guarded_fields view request now with own | ⟨-, _, own⟩
        · rw [at_, ← own, fields]
          rfl
        · rw [own] at fields
          cases fields
      have stopped := shows_ started record published interrupted
      rw [View.guarded, if_pos stopped] at fields
      cases fields
    | write request fields now at_ =>
      refine ⟨apply_completed fields view.record ?_, by simp, sealed_⟩
      intro finishedAt own
      exact checked request finishedAt (own ▸ at_)
    | submit _ _ _ | collect _ _ _ _ _ | begin _ _ | invoke _ | complete _ _ | fail _ _ _ _
    | escape _ _ => exact ⟨state, by simp, sealed_⟩
    | publish request outcome now at_ =>
      refine ⟨state, ?_, sealed_⟩
      intro other finishedAt at_after
      have outside := after_outside request outcome now
      have inside : (Thread.after request outcome now).inside = true := congrArg Thread.inside at_after
      rw [outside] at inside
      cases inside
    | _ => exact ⟨state, checked, sealed_⟩
  · have shown := own
    rw [own] at published
    cases published
    have never (request fields : Update) : next.thread ≠ .checked request fields := by
      intro same
      rw [same] at outside
      cases outside
    have settled : next.record.state ≠ .completed := by simp [interrupted]
    refine ⟨settled, fun request finishedAt => never request _, ?_⟩
    refine (sees_inherits runner inherited standing inherits sees interrupted).imp_right
      fun known => ⟨settled, ?_, fun request finishedAt => never request _, ?_⟩
    · intro other shown_as
      rw [shown] at shown_as
      cases shown_as
      exact settled
    · exact known.imp_right fun interrupt =>
        ⟨interrupt, interrupted, fun request fields at_ => absurd at_ (never request fields)⟩

/-- What holds of a target in every state of a run that began with its record. -/
structure View.Traced (inherited : Record) (view : View) : Prop where
  standing : view.Standing
  completed : view.completedKept
  inherits : view.inherits inherited
  shows_ : view.shows
  interrupted : view.interruptedKept inherited

theorem sees_traced {view next : View} {label : Label Target}
    (inherited : Record) (held : view.Traced inherited)
    (sees : Sees runner target view label next) : next.Traced inherited where
  standing := sees_standing runner held.standing sees
  completed := sees_completed_kept runner held.standing held.completed sees
  inherits := sees_inherits runner inherited held.standing held.inherits sees
  shows_ := sees_shows runner held.standing held.shows_ sees
  interrupted := sees_interrupted_kept runner inherited held.standing held.inherits held.shows_
    held.interrupted sees

theorem fresh_traced (idle : view.thread = .idle) (snapshot : view.snapshot = false)
    (published : view.published = some view.record) : view.Traced view.record where
  standing := ⟨by simp [idle], by simp [idle], by simp [idle, Thread.started], by simp [idle],
    by simp [idle]⟩
  completed := by
    intro record shown completed _
    rw [published] at shown
    cases shown
    exact Or.inr ⟨rfl, snapshot, by simp [TargetState.settled, completed]⟩
  inherits := fun _ => Or.inl rfl
  shows_ := by simp [View.shows, idle, Thread.started]
  interrupted := by
    intro record shown interrupted
    rw [published] at shown
    cases shown
    exact ⟨by simp [interrupted], by simp [idle], Or.inl rfl⟩

variable [DecidableEq Target]

/-- In one run, a completion that is published while no snapshot holds its target is followed by
an interruption only of a later attempt; an interruption that is published is followed by a
completion only where the run inherited it and no snapshot holds the target. -/
theorem interruption_and_completion (start middle next : Run Target)
    (began : Began runner start) (before : Reaches runner (fun _ => True) start middle)
    (after : Reaches runner (fun _ => True) middle next) (shown later : Document Target)
    (first : middle.disk = some shown) (second : next.disk = some later) (target : Target) :
    ((shown.records target).state = .completed → target ∉ middle.interruptedTargetIds →
        (later.records target).state = .interrupted →
        (shown.records target).attempt < (later.records target).attempt) ∧
      ((shown.records target).state = .interrupted → (later.records target).state = .completed →
        shown.records target = start.records target ∧ target ∉ middle.interruptedTargetIds) := by
  obtain ⟨coherent, loaded, idle, snapshot, -, published⟩ := began_view runner start began target
  have traced : (middle.view target).Traced (start.records target) :=
    reaches_view runner _ start middle coherent loaded before target _
      (fresh_traced _ idle snapshot published)
      fun view label other _ held sees => sees_traced runner _ held sees
  have coherent_middle := reaches_coherent runner _ start middle coherent before
  have loaded_middle : middle.main ≠ .loading := by
    clear first traced coherent_middle after
    induction before with
    | refl => exact loaded
    | tail _ step ih =>
      obtain ⟨label, -, step⟩ := step
      exact (step_ahead runner _ _ label step).1 ih
  have shown_view : (middle.view target).published = some (shown.records target) := by
    simp [Run.view, first]
  have later_view : (next.view target).published = some (later.records target) := by
    simp [Run.view, second]
  have forever (invariant : View → Prop) (holds : invariant (middle.view target))
      (kept : ∀ view label other, invariant view → Sees runner target view label other →
        invariant other) : invariant (next.view target) :=
    reaches_view runner _ middle next coherent_middle loaded_middle after target invariant holds
      fun view label other _ => kept view label other
  constructor
  · intro completed absent interrupted
    have fresh : (middle.view target).snapshot = false := by simpa [Run.view] using absent
    have beyond := traced.completed _ shown_view completed fresh
    have kept := forever
      (fun view => view.Standing ∧ view.beyond (shown.records target).attempt ∧
        view.interruptedLater (shown.records target).attempt)
      ⟨traced.standing, beyond, by
        intro record published interrupted
        rw [shown_view] at published
        cases published
        simp [completed] at interrupted⟩
      fun view label other held sees =>
        ⟨sees_standing runner held.1 sees, sees_beyond runner _ held.1 held.2.1 sees,
          sees_interrupted_later runner _ held.1 held.2.1 held.2.2 sees⟩
    exact kept.2.2 _ later_view interrupted
  · intro interrupted completed
    obtain ⟨state, checked, known⟩ := traced.interrupted _ shown_view interrupted
    have open_ : ¬ (middle.view target).Sealed := by
      intro sealed_
      have kept := forever View.Sealed sealed_ fun view label other held sees =>
        sees_sealed runner held sees
      exact kept.published _ later_view completed
    refine ⟨known.resolve_right open_, ?_⟩
    intro member
    apply open_
    refine ⟨state, ?_, checked, Or.inl (by simpa [Run.view] using member)⟩
    intro record published
    rw [shown_view] at published
    cases published
    simp [interrupted]

end

/-- In every run, a target published in the first state is not published later in the second. -/
def RunsKeep {Target : Type} [DecidableEq Target] (runner : BatchRunner Target)
    (first second : TargetState) : Prop :=
  ∀ (start middle next : Run Target) (shown later : Document Target) (target : Target),
    Began runner start → Reaches runner (fun _ => True) start middle →
    Reaches runner (fun _ => True) middle next → middle.disk = some shown →
    next.disk = some later → (shown.records target).state = first →
    (later.records target).state ≠ second

def soleRunner (maxAttempts : Nat) (valid : 1 ≤ maxAttempts ∧ maxAttempts ≤ 16) :
    BatchRunner Unit where
  targets := [()]
  initialState := fun _ => .queued
  maxWorkers := 1
  maxAttempts
  resume := true
  retryFailed := false
  targetsDistinct := List.nodup_singleton ()
  initialValid := fun _ => .inl rfl
  concurrencyValid := by decide
  retryValid := valid

def twiceRunner : BatchRunner Unit := soleRunner 2 (by decide)

def interruptedRecord (attempt : Nat) : Record :=
  ⟨.interrupted, .interrupted, attempt, some "BATCH_INTERRUPTED",
    some "Batch execution was interrupted.", some "09:00", some "09:05", some "09:05"⟩

theorem sole_began (maxAttempts : Nat) (valid : 1 ≤ maxAttempts ∧ maxAttempts ≤ 16)
    (document : Document Unit) : Began (soleRunner maxAttempts valid)
      { Run.start (soleRunner maxAttempts valid) (fun _ => false) (some document) [] with
        records := document.records, status := document.status, main := .normalizing } :=
  ⟨rfl, _, _, _, _, .resume _ document rfl rfl rfl⟩

theorem runs_on {runner : BatchRunner Unit} {run next last : Run Unit} {label : Label Unit}
    (step : Step runner run label next) (rest : Reaches runner (fun _ => True) next last) :
    Reaches runner (fun _ => True) run last := .head ⟨label, trivial, step⟩ rest

theorem inherited_interruption_completed :
    ∃ start next : Run Unit, ∃ shown later : Document Unit, Began twiceRunner start ∧
      Reaches twiceRunner (fun _ => True) start next ∧ start.disk = some shown ∧
      next.disk = some later ∧ (shown.records ()).state = .interrupted ∧
      (later.records ()).state = .completed :=
  ⟨_, _, _, _, sole_began 2 (by decide) ⟨.interrupted, "09:05", fun _ => interruptedRecord 1⟩,
    runs_on (.normalize _ .done "10:00" rfl (.inl rfl)) <| runs_on (.open_ _ .done "10:00" rfl) <|
    runs_on (.admits _ rfl rfl (by decide)) <| runs_on (.submit _ () [] rfl rfl rfl) <|
    runs_on (.begin _ () "10:00" rfl) <| runs_on (.check _ () _ "10:00" rfl rfl) <|
    runs_on (.write _ () _ _ "10:00" rfl) <| runs_on (.publish _ () _ .done "10:00" rfl) <|
    runs_on (.invoke _ () rfl) <| runs_on (.complete _ () "10:01" rfl) <|
    runs_on (.check _ () _ "10:01" rfl rfl) <| runs_on (.write _ () _ _ "10:01" rfl) <|
    runs_on (.publish _ () _ .done "10:01" rfl) .refl, rfl, rfl, rfl, rfl⟩

def queuedRecord : Record := ⟨.queued, .queued, 0, none, none, none, none, none⟩

/-- The handler takes its snapshot between the check and the write of a completion, which is then
published and overwritten. -/
theorem published_completion_interrupted :
    ∃ start middle next : Run Unit, ∃ shown later : Document Unit, Began twiceRunner start ∧
      Reaches twiceRunner (fun _ => True) start middle ∧
      Reaches twiceRunner (fun _ => True) middle next ∧ middle.disk = some shown ∧
      next.disk = some later ∧ (shown.records ()).state = .completed ∧
      (later.records ()).state = .interrupted :=
  ⟨_, _, _, _, _, sole_began 2 (by decide) ⟨.pending, "09:00", fun _ => queuedRecord⟩,
    runs_on (.normalize _ .done "10:00" rfl (.inl rfl)) <| runs_on (.open_ _ .done "10:00" rfl) <|
    runs_on (.admits _ rfl rfl (by decide)) <| runs_on (.submit _ () [] rfl rfl rfl) <|
    runs_on (.submitted _ rfl rfl (by decide)) <| runs_on (.begin _ () "10:00" rfl) <|
    runs_on (.check _ () _ "10:00" rfl rfl) <| runs_on (.write _ () _ _ "10:00" rfl) <|
    runs_on (.publish _ () _ .done "10:00" rfl) <| runs_on (.invoke _ () rfl) <|
    runs_on (.complete _ () "10:01" rfl) <| runs_on (.check _ () _ "10:01" rfl rfl) <|
    runs_on (.signal _ rfl) <| runs_on (.scan _ () [] [] rfl) <| runs_on (.scanned _ [] rfl) <|
    runs_on (.write _ () _ _ "10:01" rfl) <| runs_on (.publish _ () _ .done "10:01" rfl) .refl,
    runs_on (.wait _ [()] rfl rfl (by decide) (by decide) (by decide)) <|
    runs_on (.woken _ [()] rfl rfl) <| runs_on (.lock _ (.collecting [()]) rfl rfl rfl) <|
    runs_on (.mark _ () [] false (.collecting [()]) "10:02" rfl rfl) <|
    runs_on (.marked _ true (.collecting [()]) .done "10:02" rfl rfl (.inl rfl)) .refl,
    rfl, rfl, rfl, rfl⟩

theorem runs_overwrite : ¬ RunsKeep twiceRunner .completed .interrupted ∧
    ¬ RunsKeep twiceRunner .interrupted .completed := by
  constructor
  · intro keep
    obtain ⟨start, middle, next, shown, later, began, before, after, first, second, completed,
      interrupted⟩ := published_completion_interrupted
    exact keep start middle next shown later () began before after first second completed interrupted
  · intro keep
    obtain ⟨start, next, shown, later, began, after, first, second, interrupted, completed⟩ :=
      inherited_interruption_completed
    exact keep start start next shown later () began .refl after first second interrupted completed

def completedRecord : Record :=
  ⟨.completed, .completed, 1, none, none, some "09:00", some "09:05", some "09:05"⟩

/-- The artifacts of a completed target are gone: it is attempted again, and interrupted. -/
theorem completion_attempted_again :
    ∃ start next : Run Unit, ∃ shown later : Document Unit, Began twiceRunner start ∧
      Reaches twiceRunner (fun _ => True) start next ∧ start.disk = some shown ∧
      next.disk = some later ∧ (shown.records ()).state = .completed ∧
      () ∉ start.interruptedTargetIds ∧ (later.records ()).state = .interrupted :=
  ⟨_, _, _, _, sole_began 2 (by decide) ⟨.interrupted, "09:05", fun _ => completedRecord⟩,
    runs_on (.normalize _ .done "10:00" rfl (.inl rfl)) <| runs_on (.open_ _ .done "10:00" rfl) <|
    runs_on (.admits _ rfl rfl (by decide)) <| runs_on (.submit _ () [] rfl rfl rfl) <|
    runs_on (.begin _ () "10:00" rfl) <| runs_on (.check _ () _ "10:00" rfl rfl) <|
    runs_on (.write _ () _ _ "10:00" rfl) <| runs_on (.publish _ () _ .done "10:00" rfl) <|
    runs_on (.invoke _ () rfl) <| runs_on (.signal _ rfl) <| runs_on (.scan _ () [] [] rfl) <|
    runs_on (.scanned _ [] rfl) <| runs_on (.complete _ () "10:01" rfl) <|
    runs_on (.check _ () _ "10:01" rfl rfl) <| runs_on (.write _ () _ _ "10:01" rfl) <|
    runs_on (.publish _ () _ .done "10:01" rfl) .refl, rfl, rfl, rfl, List.not_mem_nil, rfl⟩

/-- A completion is interrupted by a later attempt, and an interruption that is completed was
inherited. -/
theorem inherited_interruption_known :
    (∃ start next : Run Unit, ∃ shown later : Document Unit, start.disk = some shown ∧
      next.disk = some later ∧ (shown.records ()).state = .completed ∧
      (later.records ()).state = .interrupted ∧
      (shown.records ()).attempt < (later.records ()).attempt) ∧
    ∃ start next : Run Unit, ∃ shown later : Document Unit,
      start.disk = some shown ∧ next.disk = some later ∧ (later.records ()).state = .completed ∧
      shown.records () = start.records () ∧ () ∉ start.interruptedTargetIds := by
  constructor
  · obtain ⟨start, next, shown, later, began, after, first, second, completed, open_, interrupted⟩ :=
      completion_attempted_again
    have ahead := (interruption_and_completion twiceRunner start start next began .refl after shown
      later first second ()).1 completed open_ interrupted
    exact ⟨start, next, shown, later, first, second, completed, interrupted, ahead⟩
  · obtain ⟨start, next, shown, later, began, after, first, second, interrupted, completed⟩ :=
      inherited_interruption_completed
    have known := (interruption_and_completion twiceRunner start start next began .refl after shown
      later first second ()).2 interrupted completed
    exact ⟨start, next, shown, later, first, second, completed, known⟩

end DosWeb.Batch
