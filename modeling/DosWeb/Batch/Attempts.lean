import DosWeb.Batch.Interruption

/-!
Attempts over consecutive runs of one batch: while no interruption stops the update that counts an
attempt, every invocation of a pipeline follows a publication of its own counter.
-/

namespace DosWeb.Batch

def Thread.due : Thread → Bool
  | .submitted => true
  | .waiting request => request.isAttempt
  | .checked request _ => request.isAttempt
  | _ => false

/-- The target waits for an attempt that is not counted yet. -/
def View.due (view : View) : Prop := view.waits = true ∨ view.thread.due = true

/-- The counters a target's pipeline was invoked with, the last one first. -/
structure View.Spent (view : View) : Prop where
  ordered : view.spent.Pairwise (· > ·)
  positive : ∀ counter ∈ view.spent, 1 ≤ counter
  bounded : ∀ counter ∈ view.spent, ∃ record, view.published = some record ∧
    counter ≤ record.attempt

def View.advanced (view : View) : Prop :=
  1 ≤ view.record.attempt ∧ ∀ counter ∈ view.spent, counter < view.record.attempt

/-- What is counted of a target in a run that has loaded its state. -/
structure View.Counted {Target : Type} (runner : BatchRunner Target) (limit : Nat) (view : View) :
    Prop where
  standing : view.Standing
  spent : view.Spent
  published : ∃ record, view.published = some record ∧ record.attempt ≤ view.record.attempt
  bounded : view.record.attempt ≤ limit
  waits : view.waits = true → view.thread = .idle
  due : view.due → view.record.attempt < runner.maxAttempts ∧
    ¬ (view.record.state = .completed ∧ view.reusable = true)
  fields : ∀ request fields, view.thread = .checked request fields → request.isAttempt = true →
    fields = request
  written : ∀ request, view.thread = .written request → request.isAttempt = true → view.advanced
  preparing : view.thread = .preparing →
    view.published.map Record.attempt = some view.record.attempt ∧ view.advanced

/-- The steps that do not stop the update of an attempt. -/
def Counting {Target : Type} (label : Label Target) : Prop :=
  ∀ target request fields, label = .check target request fields → request.isAttempt = true →
    fields = request

variable {Target : Type} (runner : BatchRunner Target) (limit : Nat)

theorem spent_below (view : View) (held : view.Counted runner limit) :
    ∀ counter ∈ view.spent, counter ≤ view.record.attempt := by
  intro counter member
  obtain ⟨record, shown, below⟩ := held.spent.bounded counter member
  obtain ⟨other, same, known⟩ := held.published
  rw [shown] at same
  cases same
  exact below.trans known

theorem spent_published (view : View) (held : view.Counted runner limit) (next : View)
    (spent : next.spent = view.spent) (shown : next.published = view.published ∨
      ∃ record, next.published = some record ∧ view.record.attempt ≤ record.attempt) :
    next.Spent := by
  refine ⟨spent ▸ held.spent.ordered, spent ▸ held.spent.positive, ?_⟩
  intro counter member
  rw [spent] at member
  rcases shown with same | ⟨record, shown, later⟩
  · rw [same]
    exact held.spent.bounded counter member
  · exact ⟨record, shown, (spent_below runner limit view held counter member).trans later⟩

variable (view next : View)

theorem counted_mono (held : view.Counted runner limit) (standing : next.Standing)
    (attempt : next.record.attempt = view.record.attempt) (thread : next.thread = view.thread)
    (waits : next.waits = view.waits) (spent : next.spent = view.spent)
    (published : next.published = view.published ∨ next.published = some next.record)
    (repairs : next.record.state = .completed ∧ next.reusable = true → view.due →
      view.record.state = .completed ∧ view.reusable = true) : next.Counted runner limit where
  standing := standing
  spent := by
    apply spent_published runner limit view held next spent
    exact published.imp_right fun own => ⟨_, own, attempt.ge⟩
  published := by
    rcases published with same | own
    · rw [same, attempt]
      exact held.published
    · exact ⟨_, own, le_rfl⟩
  bounded := attempt ▸ held.bounded
  waits := by
    rw [waits, thread]
    exact held.waits
  due := by
    intro due
    have before : view.due := by
      unfold View.due at due ⊢
      rwa [waits, thread] at due
    rw [attempt]
    exact ⟨(held.due before).1, fun done => (held.due before).2 (repairs done before)⟩
  fields := thread ▸ held.fields
  written := by
    unfold View.advanced
    rw [thread, spent, attempt]
    exact held.written
  preparing := by
    unfold View.advanced
    rw [thread, spent, attempt]
    intro at_
    refine ⟨?_, (held.preparing at_).2⟩
    rcases published with same | own
    · rw [same]
      exact (held.preparing at_).1
    · rw [own, ← attempt]
      rfl

theorem counted_shown (held : view.Counted runner limit) (standing : next.Standing)
    (record : next.record = view.record) (spent : next.spent = view.spent)
    (published : next.published = view.published ∨ next.published = some view.record)
    (waiting : next.waits = true → next.thread = .idle ∧
      view.record.attempt < runner.maxAttempts ∧
      ¬ (view.record.state = .completed ∧ next.reusable = true))
    (due : next.thread.due = false) (outside : next.thread.inside = false)
    (unprepared : next.thread ≠ .preparing) : next.Counted runner limit where
  standing := standing
  spent := by
    apply spent_published runner limit view held next spent
    exact published.imp_right fun own => ⟨_, own, le_rfl⟩
  published := by
    rcases published with same | own
    · rw [same, record]
      exact held.published
    · exact ⟨_, own, record ▸ le_rfl⟩
  bounded := record ▸ held.bounded
  waits := fun waits => (waiting waits).1
  due := by
    intro waits
    rw [record]
    rcases waits with waits | thread
    · exact (waiting waits).2
    · rw [due] at thread
      cases thread
  fields := by
    intro request fields at_
    rw [at_] at outside
    cases outside
  written := by
    intro request at_
    rw [at_] at outside
    cases outside
  preparing := fun at_ => absurd at_ unprepared

theorem counted_due (held : view.Counted runner limit) (standing : next.Standing)
    (record : next.record = view.record) (waits : next.waits = false)
    (spent : next.spent = view.spent) (published : next.published = view.published)
    (reusable : next.reusable = view.reusable) (due : next.due → view.due)
    (fields : ∀ request fields, next.thread = .checked request fields → request.isAttempt = true →
      fields = request)
    (written : ∀ request, next.thread ≠ .written request) (unprepared : next.thread ≠ .preparing) :
    next.Counted runner limit where
  standing := standing
  spent := spent_published runner limit view held next spent (.inl published)
  published := by
    rw [published, record]
    exact held.published
  bounded := record ▸ held.bounded
  waits := by simp [waits]
  due := by
    rw [record, reusable]
    exact fun later => held.due (due later)
  fields := fields
  written := fun request at_ => absurd at_ (written request)
  preparing := fun at_ => absurd at_ unprepared

theorem eligible_due (reusable : Bool) (record : Record)
    (found : eligible runner reusable record = true) :
    record.attempt < runner.maxAttempts ∧ ¬ (record.state = .completed ∧ reusable = true) := by
  refine ⟨eligible_attempts runner reusable record found, ?_⟩
  intro done
  rw [done.2, eligible_not_reusable runner record done.1] at found
  cases found

theorem counted_write (above : runner.maxAttempts ≤ limit)
    (held : view.Counted runner limit) (standing : next.Standing) (request fields : Update) (now : String) (at_ : view.thread = .checked request fields)
    (same : next = { view with
      thread := .written request
      record := { fields.apply view.record with updatedAt := some now } }) :
    next.Counted runner limit := by
  obtain ⟨record, shown, below⟩ := held.published
  have idle : view.waits = false := by
    by_contra waits
    have idle := held.waits (by simpa using waits)
    rw [at_] at idle
    cases idle
  have not_due : ¬ next.due := by
    subst same
    simp [View.due, idle, Thread.due]
  have counted : view.record.attempt ≤ next.record.attempt ∧
      next.record.attempt ≤ limit ∧ (request.isAttempt = true → next.advanced) := by
    by_cases attempt : request.isAttempt = true
    · have own := held.fields request fields at_ attempt
      subst own same
      cases fields with
      | attempt number startedAt =>
        have counted := held.standing.counts number startedAt (.inr ⟨_, at_⟩)
        have room := (held.due (.inr (by rw [at_]; rfl))).1
        have behind := spent_below runner limit view held
        refine ⟨?_, ?_, fun _ => ⟨?_, ?_⟩⟩
        · simp only [apply_attempt]
          omega
        · simp only [apply_attempt]
          omega
        · simp only [apply_attempt]
          omega
        · intro counter member
          have passed := behind counter member
          simp only [apply_attempt]
          omega
      | _ => cases attempt
    · have other : fields.isAttempt = false := by
        rcases held.standing.fields request fields at_ with own | ⟨-, finishedAt, own⟩
        · rw [own]
          simpa using attempt
        · rw [own]
          rfl
      have unchanged := apply_counter fields view.record other
      subst same
      exact ⟨unchanged.ge, unchanged.trans_le held.bounded, fun now_ => absurd now_ attempt⟩
  refine ⟨standing, ?_, ?_, counted.2.1, ?_, fun due => absurd due not_due, ?_, ?_, ?_⟩
  · apply spent_published runner limit view held next
    · subst same
      rfl
    · exact Or.inl (by subst same; rfl)
  · exact ⟨record, by subst same; exact shown, below.trans counted.1⟩
  · intro waits
    exact absurd (.inl waits) not_due
  · subst same
    simp
  · intro other written
    subst same
    cases written
    exact counted.2.2
  · subst same
    simp

theorem sees_counted {target : Target} {view next : View} {label : Label Target}
    (above : runner.maxAttempts ≤ limit) (held : view.Counted runner limit)
    (counting : Counting label)
    (sees : Sees runner target view label next) : next.Counted runner limit := by
  have standing := sees_standing runner held.standing sees
  have queued (busy : view.thread ≠ .idle) : view.waits = false := by
    by_contra waits
    exact busy (held.waits (by simpa using waits))
  cases sees with
  | stay _ => exact held
  | interrupt _ | snapshot _ _ =>
    exact counted_mono runner limit view _ held standing rfl rfl rfl rfl (.inl rfl) fun done _ => done
  | published _ interrupt outside =>
    exact counted_mono runner limit view _ held standing rfl rfl rfl rfl (.inr rfl) fun done _ => done
  | mark _ now outside =>
    obtain ⟨counter, state⟩ := marked_halted view now
    refine counted_mono runner limit view _ held standing counter rfl rfl rfl (.inl rfl) ?_
    intro done _
    rcases state with same | halted
    · exact ⟨same ▸ done.1, done.2⟩
    · rw [halted.1] at done
      cases done.1
  | gap _ now published vacant =>
    refine counted_mono runner limit view _ held standing
      (normalize_counter runner view.reusable now view.record) rfl rfl rfl ?_ ?_
    · cases published
      · exact Or.inl rfl
      · exact Or.inr rfl
    · intro done _
      rcases normalize_state runner view.reusable now view.record with same | moved
      · exact ⟨same ▸ done.1, done.2⟩
      · exact ⟨moved.1, done.2⟩
  | enqueue _ published waits vacant eligible =>
    refine counted_shown runner limit view _ held standing rfl rfl ?_
      (fun waiting => ⟨vacant, eligible_due runner _ _ (eligible waiting)⟩) (by rw [vacant]; rfl)
      (by rw [vacant]; rfl) (by simp [vacant])
    cases published
    · exact Or.inl rfl
    · exact Or.inr rfl
  | submit _ waits vacant =>
    exact counted_due runner limit view _ held standing rfl rfl rfl rfl rfl (fun _ => .inl waits)
      (by simp) (by simp) (by simp)
  | collect _ raised again finished eligible =>
    exact counted_shown runner limit view _ held standing rfl rfl (.inl rfl)
      (fun waiting => ⟨rfl, eligible_due runner _ _ (eligible waiting)⟩) rfl rfl (by simp)
  | begin now at_ =>
    exact counted_due runner limit view _ held standing rfl (queued (by simp [at_])) rfl rfl rfl
      (fun _ => .inr (by rw [at_]; rfl)) (by simp) (by simp) (by simp)
  | check request now at_ =>
    refine counted_due runner limit view _ held standing rfl (queued (by simp [at_])) rfl rfl rfl ?_ ?_
      (by simp) (by simp)
    · intro due
      rcases due with waits | due
      · exact Or.inl waits
      · exact Or.inr (by rw [at_]; exact due)
    · intro other fields same attempt
      cases same
      exact counting target request _ rfl attempt
  | write request fields now at_ =>
    exact counted_write runner limit view _ above held standing request fields now at_ rfl
  | publish request outcome now at_ =>
    have waits := queued (by simp [at_])
    have shown : (if outcome = .early then view.published else some view.record) = view.published ∨
        (if outcome = .early then view.published else some view.record) = some view.record := by
      split_ifs
      · exact Or.inl rfl
      · exact Or.inr rfl
    rcases after_shape request outcome now with prepares | fails | finished
    · have attempt := (after_started request outcome now).mp (by rw [prepares]; rfl)
      have advanced := held.written request at_ attempt.1
      refine ⟨standing, ?_, ?_, held.bounded, by simp [waits], ?_, ?_, ?_, ?_⟩
      · exact spent_published runner limit view held _ rfl (.inr ⟨view.record, by simp [attempt.2], le_rfl⟩)
      · exact ⟨view.record, by simp [attempt.2], le_rfl⟩
      · simp [View.due, waits, prepares, Thread.due]
      · simp [prepares]
      · simp [prepares]
      · intro _
        exact ⟨by simp [attempt.2], advanced⟩
    · apply counted_shown runner limit view _ held standing rfl rfl shown (by simp [waits])
      · rw [fails]; rfl
      · rw [fails]; rfl
      · rw [fails]; simp
    · obtain ⟨raised, finished⟩ := finished
      apply counted_shown runner limit view _ held standing rfl rfl shown (by simp [waits])
      · rw [finished]; rfl
      · rw [finished]; rfl
      · rw [finished]; simp
  | invoke at_ =>
    obtain ⟨shown, first, passed⟩ := held.preparing at_
    obtain ⟨record, published, same⟩ := Option.map_eq_some_iff.mp shown
    have waits := queued (by simp [at_])
    refine ⟨standing, ⟨?_, ?_, ?_⟩, held.published, held.bounded, by simp [waits], ?_, by simp,
      by simp, by simp⟩
    · refine List.pairwise_cons.mpr ⟨?_, held.spent.ordered⟩
      intro counter member
      simpa [published, same] using passed counter member
    · intro counter member
      rcases List.mem_cons.mp member with own | older
      · simpa [own, published, same] using first
      · exact held.spent.positive counter older
    · intro counter member
      rcases List.mem_cons.mp member with own | older
      · exact ⟨record, published, by simp [own, published]⟩
      · exact held.spent.bounded counter older
    · simp [View.due, waits, Thread.due]
  | complete now at_ =>
    exact counted_shown runner limit view _ held standing rfl rfl (.inl rfl)
      (by simp [queued, at_]) rfl rfl (by simp)
  | fail _ _ _ at_ | escape _ at_ =>
    have busy : view.thread ≠ .idle := by rcases at_ with at_ | at_ <;> simp [at_]
    exact counted_shown runner limit view _ held standing rfl rfl (.inl rfl) (by simp [queued busy])
      rfl rfl (by simp)
  | artifacts _ now own =>
    refine counted_mono runner limit view _ held standing rfl rfl rfl rfl (.inl rfl) ?_
    intro done due
    rcases own with lost | own
    · simp [lost] at done
    · rcases due with waits | thread
      · have idle := held.waits waits
        rcases own with at_ | at_ <;> simp [at_] at idle
      · rcases own with at_ | at_ <;> simp [at_, Thread.due] at thread

end DosWeb.Batch
