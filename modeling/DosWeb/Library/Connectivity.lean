import Mathlib.Combinatorics.SimpleGraph.Connectivity.Connected
import Mathlib.Data.Finset.BooleanAlgebra

/-!
The search of a finite graph with a stack of vertices: from any vertex, and in whatever order the
neighbours are listed, it reaches all others exactly where the graph is connected.
-/

namespace DosWeb.Library.Connectivity

/-- In which order a set is listed; one set may be listed in another order at another stage. -/
structure Iteration (V : Type) where
  listing : Finset V → Finset V → List V
  lists : ∀ stage set v, v ∈ listing stage set ↔ v ∈ set

variable {V : Type} (order : Iteration V)

def pushed (stage set : Finset V) (pending : List V) : List V :=
  (order.listing stage set).reverse ++ pending

theorem mem_pushed (stage set : Finset V) (pending : List V) (v : V) :
    v ∈ pushed order stage set pending ↔ v ∈ set ∨ v ∈ pending := by
  rw [pushed, List.mem_append, List.mem_reverse, order.lists]

variable [DecidableEq V] (graph : V → Finset V)

/-- Takes the vertices off a stack; the neighbours not reached so far go on top of it. -/
def search [Fintype V] (reached : Finset V) : List V → Finset V
  | [] => reached
  | current :: pending =>
    if current ∈ reached then search reached pending
    else
      search (insert current reached)
        (pushed order (insert current reached) (graph current \ insert current reached) pending)
termination_by pending => (reachedᶜ.card, pending.length)
decreasing_by
  · exact Prod.Lex.right _ (Nat.lt_succ_self _)
  · rename_i fresh
    exact Prod.Lex.left _ _ (Finset.card_lt_card
      (Finset.compl_ssubset_compl.mpr (Finset.ssubset_insert fresh)))

variable [Fintype V]

theorem search_holds (reached : Finset V) (pending : List V) :
    ∀ v, v ∈ reached ∨ v ∈ pending → v ∈ search order graph reached pending := by
  fun_induction search order graph reached pending with
  | case1 reached => simp
  | case2 reached current pending seen ih =>
    rintro v (held | waits)
    · exact ih v (.inl held)
    · rcases List.mem_cons.mp waits with rfl | later
      · exact ih v (.inl seen)
      · exact ih v (.inr later)
  | case3 reached current pending fresh ih =>
    rintro v (held | waits)
    · exact ih v (.inl (Finset.mem_insert_of_mem held))
    · rcases List.mem_cons.mp waits with rfl | later
      · exact ih v (.inl (Finset.mem_insert_self _ _))
      · exact ih v (.inr ((mem_pushed _ _ _ _ _).mpr (.inr later)))

/-- What holds of the first vertices, and of the neighbours of those it holds of. -/
theorem search_sound (kept : V → Prop) (step : ∀ v, kept v → ∀ w ∈ graph v, kept w)
    (reached : Finset V) (pending : List V) (first : ∀ v, v ∈ reached ∨ v ∈ pending → kept v) :
    ∀ v ∈ search order graph reached pending, kept v := by
  fun_induction search order graph reached pending with
  | case1 reached => exact fun v held => first v (.inl held)
  | case2 reached current pending seen ih =>
    exact ih fun v held => first v (held.imp_right (.tail _))
  | case3 reached current pending fresh ih =>
    have own := first current (.inr (.head _))
    apply ih
    rintro v (held | waits)
    · rcases Finset.mem_insert.mp held with rfl | held
      · exact own
      · exact first v (.inl held)
    · rcases (mem_pushed _ _ _ _ _).mp waits with near | later
      · exact step current own v (Finset.mem_sdiff.mp near).1
      · exact first v (.inr (.tail _ later))

/-- The neighbours of a vertex that was reached were reached too, or wait on the stack. -/
theorem search_closed (reached : Finset V) (pending : List V)
    (closed : ∀ v ∈ reached, ∀ w ∈ graph v, w ∈ reached ∨ w ∈ pending) :
    ∀ v ∈ search order graph reached pending, ∀ w ∈ graph v,
      w ∈ search order graph reached pending := by
  fun_induction search order graph reached pending with
  | case1 reached => simpa using closed
  | case2 reached current pending seen ih =>
    refine ih fun v held w near => ?_
    rcases closed v held w near with held | waits
    · exact .inl held
    · rcases List.mem_cons.mp waits with rfl | later
      · exact .inl seen
      · exact .inr later
  | case3 reached current pending fresh ih =>
    refine ih fun v held w near => ?_
    by_cases known : w ∈ insert current reached
    · exact .inl known
    · right
      rw [mem_pushed]
      rcases Finset.mem_insert.mp held with rfl | held
      · exact .inl (Finset.mem_sdiff.mpr ⟨near, known⟩)
      · rcases closed v held w near with held | waits
        · exact absurd (Finset.mem_insert_of_mem held) known
        · rcases List.mem_cons.mp waits with rfl | later
          · exact absurd (Finset.mem_insert_self _ _) known
          · exact .inr later

variable (G : SimpleGraph V) (adjacent : ∀ v w, v ≠ w → (w ∈ graph v ↔ G.Adj v w))

include adjacent

theorem search_reaches (start v : V) : v ∈ search order graph ∅ [start] ↔ G.Reachable start v := by
  constructor
  · apply search_sound order graph (G.Reachable start)
    · intro v reached w near
      by_cases same : v = w
      · exact same ▸ reached
      · exact reached.trans ((adjacent v w same).mp near).reachable
    · rintro v (none_ | waits)
      · exact absurd none_ (Finset.notMem_empty v)
      · rw [List.mem_singleton.mp waits]
  · intro reachable
    induction (G.reachable_iff_reflTransGen start v).mp reachable with
    | refl => exact search_holds order graph ∅ [start] start (.inr (.head _))
    | tail before edge ih =>
      exact search_closed order graph ∅ [start] (by simp) _
        (ih ((G.reachable_iff_reflTransGen _ _).mpr before)) _
        ((adjacent _ _ edge.ne).mpr edge)

theorem search_all_iff (start : V) : search order graph ∅ [start] = Finset.univ ↔ G.Connected := by
  rw [Finset.eq_univ_iff_forall]
  simp only [search_reaches order graph G adjacent]
  constructor
  · intro all
    exact { preconnected := fun v w => (all v).symm.trans (all w), nonempty := ⟨start⟩ }
  · intro connected v
    exact connected.preconnected start v

end DosWeb.Library.Connectivity
