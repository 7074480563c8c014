import DosWeb.Llm.CacheDirectory

/-!
Rules for the programs of the contract cache: what holds of the directory's history when they
return, when they raise and when their process dies, whatever becomes of each step.
-/

namespace DosWeb.Llm.Cache

open Library.Steps

/-- What a program leaves of a history, whatever its steps do. -/
def Ends {α : Type} (program : Caching α) (history : History) (done : α → History → Prop)
    (broken : Stop → History → Prop) : Prop :=
  ∀ outcomes, Leaves program ⟨history, outcomes⟩ (fun value after => done value after.history)
    (fun stop after => broken stop after.history)

section

variable {α β : Type} {history : History} {broken : Stop → History → Prop}

theorem ends_mono {program : Caching α} {done done' : α → History → Prop}
    {broken' : Stop → History → Prop} (ends : Ends program history done broken)
    (returns : ∀ value after, done value after → done' value after)
    (stops : ∀ stop after, broken stop after → broken' stop after) :
    Ends program history done' broken' := by
  intro outcomes
  apply leaves_mono (ends outcomes)
  · intro value after held
    exact returns value after.history held
  · intro stop after held
    exact stops stop after.history held

theorem ends_pure (value : α) (done : α → History → Prop) (holds : done value history) :
    Ends (pure value) history done broken := fun _ => holds

theorem ends_throw (stop : Stop) (done : α → History → Prop) (holds : broken stop history) :
    Ends (throw stop : Caching α) history done broken := fun _ => holds

theorem ends_bind (first : Caching α) (next : α → Caching β) (between : α → History → Prop)
    (done : β → History → Prop) (ends : Ends first history between broken)
    (follows : ∀ value after, between value after → Ends (next value) after done broken) :
    Ends (first >>= next) history done broken := by
  intro outcomes
  apply leaves_bind (fun value after => between value after.history)
  · exact ends outcomes
  · intro value after held
    exact follows value after.history held after.outcomes

theorem ends_draw (done : Outcome → History → Prop) (holds : ∀ outcome, done outcome history) :
    Ends draw history done broken := by
  intro outcomes
  cases outcomes with
  | nil => exact holds (.works 0)
  | cons outcome rest => exact holds outcome

theorem ends_act (effect : Directory → Except Errno (α × Directory)) (done : α → History → Prop)
    (refused : ∀ error, effect history.directory = .error error → broken (.os error) history)
    (works : ∀ value next, effect history.directory = .ok (value, next) →
      done value (history.move next)) : Ends (act effect) history done broken := by
  intro outcomes
  unfold Leaves act
  cases result : effect history.directory with
  | error error => simpa [World.directory, result] using refused error result
  | ok pair =>
    obtain ⟨value, next⟩ := pair
    simpa [World.directory, World.move, result] using works value next result

theorem ends_attempt (effect : Nat → Directory → Except Errno (α × Directory))
    (done : α → History → Prop) (dies : broken .crash history) (fails : broken (.os .other) history)
    (refused : ∀ spare error, effect spare history.directory = .error error →
      broken (.os error) history)
    (works : ∀ spare value next, effect spare history.directory = .ok (value, next) →
      done value (history.move next) ∧ broken (.os .other) (history.move next)) :
    Ends (attempt effect) history done broken := by
  apply ends_bind draw _ (fun _ after => after = history)
  · exact ends_draw _ fun _ => rfl
  · intro outcome after same
    subst same
    cases outcome with
    | crash => exact ends_throw _ _ dies
    | fails => exact ends_throw _ _ fails
    | works spare =>
      apply ends_act
      · exact refused spare
      · intro value next result
        exact (works spare value next result).1
    | failsAfter spare =>
      apply ends_bind (act (effect spare)) _ fun _ moved => broken (.os .other) moved
      · apply ends_act
        · exact refused spare
        · intro value next result
          exact (works spare value next result).2
      · intro _ moved held
        exact ends_throw _ _ held

theorem ends_look (observe : Directory → α) (done : α → History → Prop)
    (dies : broken .crash history) (fails : broken (.os .other) history)
    (holds : done (observe history.directory) history) :
    Ends (look observe) history done broken := by
  apply ends_bind draw _ (fun _ after => after = history)
  · exact ends_draw _ fun _ => rfl
  · intro outcome after same
    subst same
    cases outcome with
    | crash => exact ends_throw _ _ dies
    | works spare => exact fun _ => holds
    | fails => exact ends_throw _ _ fails
    | failsAfter spare => exact ends_throw _ _ fails

theorem ends_onOsError (program handler : Caching α) (done : α → History → Prop)
    (ends : Ends program history done fun stop after =>
      match stop with
      | .os _ => Ends handler after done broken
      | other => broken other after) :
    Ends (onOsError program handler) history done broken := by
  intro outcomes
  have left := ends outcomes
  unfold Leaves at left
  unfold Leaves onOsError
  cases result : program ⟨history, outcomes⟩ with
  | ok value after => simpa [result] using left
  | error stop after =>
    rw [result] at left
    cases stop with
    | crash => exact left
    | raised raised => exact left
    | os error => exact left after.outcomes

theorem ends_onExists (program again : Caching α) (done : α → History → Prop)
    (ends : Ends program history done fun stop after =>
      (stop = .os .exists_ → Ends again after done broken) ∧ (stop ≠ .os .exists_ → broken stop after)) :
    Ends (onExists program again) history done broken := by
  intro outcomes
  have left := ends outcomes
  unfold Leaves at left
  unfold Leaves onExists
  cases result : program ⟨history, outcomes⟩ with
  | ok value after => simpa [result] using left
  | error stop after =>
    rw [result] at left
    cases stop with
    | crash => exact left.2 nofun
    | raised raised => exact left.2 nofun
    | os error =>
      cases error with
      | exists_ => exact left.1 rfl after.outcomes
      | missing => exact left.2 nofun
      | other => exact left.2 nofun

theorem ends_checked (computation : Checked α) (next : α → Caching β) {done : β → History → Prop}
    (raises : ∀ raised, computation = .error raised → broken (.raised raised) history)
    (follows : ∀ value, computation = .ok value → Ends (next value) history done broken) :
    Ends (ofChecked computation >>= next) history done broken := by
  intro outcomes
  cases computation with
  | ok value => exact follows value rfl outcomes
  | error raised => exact raises raised rfl

end

variable {α β : Type} {history : History}

/-- The program raises nothing about the room in the cache. -/
def Quiet (stop : Stop) : Prop := stop ≠ .raised exhaustedError

/-- The program leaves the history alone and finds something of the directory. -/
def Looks (program : Caching α) (history : History) (finds : α → Prop)
    (stops : Stop → Prop) : Prop :=
  Ends program history (fun value after => after = history ∧ finds value)
    (fun stop after => after = history ∧ stops stop)

theorem looks_bind (first : Caching α) (next : α → Caching β) (between : α → Prop)
    (finds : β → Prop) (stops : Stop → Prop) (looks : Looks first history between stops)
    (follows : ∀ value, between value → Looks (next value) history finds stops) :
    Looks (first >>= next) history finds stops := by
  apply ends_bind first next _ _ looks
  intro value after held
  obtain ⟨rfl, found⟩ := held
  exact follows value found

theorem looks_mono {program : Caching α} {finds finds' : α → Prop} {stops stops' : Stop → Prop}
    (looks : Looks program history finds stops) (more : ∀ value, finds value → finds' value)
    (fewer : ∀ stop, stops stop → stops' stop) : Looks program history finds' stops' := by
  apply ends_mono looks
  · intro value after held
    exact ⟨held.1, more value held.2⟩
  · intro stop after held
    exact ⟨held.1, fewer stop held.2⟩

theorem looks_pure (value : α) (finds : α → Prop) (stops : Stop → Prop) (found : finds value) :
    Looks (pure value) history finds stops := ends_pure value _ ⟨rfl, found⟩

theorem looks_throw (stop : Stop) (finds : α → Prop) (stops : Stop → Prop) (holds : stops stop) :
    Looks (throw stop : Caching α) history finds stops := ends_throw stop _ ⟨rfl, holds⟩

def Plain (stop : Stop) : Prop := stop = .crash ∨ stop = .os .other

theorem plain_quiet (stop : Stop) (plain : Plain stop) : Quiet stop := by
  rcases plain with rfl | rfl <;> nofun

theorem looks_look (observe : Directory → α) :
    Looks (look observe) history (fun value => value = observe history.directory) Plain := by
  apply ends_look
  · exact ⟨rfl, Or.inl rfl⟩
  · exact ⟨rfl, Or.inr rfl⟩
  · exact ⟨rfl, rfl⟩

theorem looks_refuse (code message : String) (finds : α → Prop)
    (other : code ≠ "LLM_CACHE_CAPACITY_EXHAUSTED") :
    Looks (refuse code message : Caching α) history finds Quiet := by
  apply looks_throw
  intro same
  cases same
  exact other rfl

theorem looks_onOsError (program handler : Caching α) (finds : α → Prop) (stops : Stop → Prop)
    (looks : Looks program history finds stops) (handles : Looks handler history finds stops) :
    Looks (onOsError program handler) history finds stops := by
  apply ends_onOsError
  apply ends_mono looks
  · intro value after held
    exact held
  · intro stop after held
    obtain ⟨rfl, fits⟩ := held
    cases stop with
    | os error => exact handles
    | crash => exact ⟨rfl, fits⟩
    | raised raised => exact ⟨rfl, fits⟩

variable (name : String)

theorem looks_lstat :
    Looks (lstat name) history (fun value => value = history.directory.lookup name) Quiet :=
  looks_mono (looks_look _) (fun _ found => found) plain_quiet

theorem looks_guarded : Looks (entryIsUnsafe name) history (fun _ => True) Quiet :=
  looks_bind _ _ _ _ _ (looks_lstat name) fun _ _ => looks_pure _ _ _ trivial

theorem looks_exists :
    Looks (entryExists name) history (fun value => value = true ↔ name ∈ history.directory)
      Quiet := by
  apply looks_bind _ _ (fun value => value = history.directory.lookup name)
  · apply looks_onOsError _ _ _ _ (looks_lstat name)
    exact looks_refuse _ _ _ (by decide)
  · intro value found
    apply looks_pure
    rw [found]
    exact AList.lookup_isSome

theorem looks_requireSafe (name message : String) :
    Looks (requireSafe name message) history (fun _ => True) Quiet := by
  apply looks_bind _ _ _ _ _ (looks_guarded name)
  intro value _
  cases value with
  | true => exact looks_refuse _ _ _ (by decide)
  | false => exact looks_pure _ _ _ trivial

theorem looks_requireAbsent :
    Looks (requireAbsent name) history (fun _ => name ∉ history.directory) Quiet := by
  apply looks_bind _ _ _ _ _ (looks_exists name)
  intro value found
  cases value with
  | true => exact looks_refuse _ _ _ (by decide)
  | false => exact looks_pure _ _ _ fun inside => Bool.false_ne_true (found.mpr inside)

theorem looks_occupied :
    Looks (occupied name) history (fun value => value = false → name ∉ history.directory) Quiet := by
  apply looks_bind _ _ _ _ _ (looks_guarded name)
  intro value _
  cases value with
  | true => exact looks_pure _ _ _ nofun
  | false =>
    apply looks_mono (looks_exists name)
    · intro value found absent inside
      rw [absent] at found
      exact Bool.false_ne_true (found.mpr inside)
    · exact fun _ quiet => quiet

theorem looks_sync : Looks sync history (fun _ => True) Plain :=
  looks_mono (looks_look fun _ => ()) (fun _ _ => trivial) fun _ plain => plain

theorem looks_opens : Looks opens history (fun _ => True) Quiet := by
  have opened : Looks (do sync; return true) history (fun _ => True) Plain :=
    looks_bind _ _ _ _ _ looks_sync fun _ _ => looks_pure _ _ _ trivial
  apply looks_onOsError
  · exact looks_mono opened (fun _ _ => trivial) plain_quiet
  · exact looks_pure _ _ _ trivial

theorem looks_recheck (destination : String) :
    Looks (recheckGrowth destination) history (fun _ => True) Quiet := by
  apply looks_bind _ _ _ _ _ (looks_requireSafe _ _)
  intro _ _
  exact looks_mono (looks_requireAbsent _) (fun _ _ => trivial) fun _ quiet => quiet

end DosWeb.Llm.Cache
