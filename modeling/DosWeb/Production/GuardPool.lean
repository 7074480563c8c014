import DosWeb.Production.Lifecycle

/-!
The pool of guards over a run: which wrappers the flows so far have added to it, and at
which growths.
-/

namespace DosWeb.Production

open Entries (EntryFact)
open Flows (VerifiedFlow)
open Growth (GrowthCandidate VerifiedGrowthResult)
open Lifecycle

/-- The pool once exactly the given wrappers were promoted, each at the given sites. -/
structure PoolOf (guards : Screened GuardCandidate) (Promoted : GuardCandidate → Site → Prop)
    (pool : GuardPool) : Prop where
  added : ∃ fresh, pool.candidates = guards.candidates ++ fresh ∧
    pool.wrapperIds = fresh.map GuardCandidate.guardId ∧ pool.wrapperIds.Nodup ∧
    (∀ wrapper ∈ fresh, ∃ site, Promoted wrapper site) ∧
    ∀ wrapper site, Promoted wrapper site → wrapper.guardId ∈ pool.wrapperIds
  anchored : ∀ identifier site, (identifier, site) ∈ pool.anchors ↔
    (identifier, site) ∈ guards.anchors ∨
      ∃ wrapper, Promoted wrapper site ∧ wrapper.guardId = identifier

theorem pool_initial (guards : Screened GuardCandidate) :
    PoolOf guards (fun _ _ => False) (initialPool guards) := by
  constructor
  · exact ⟨[], by simp [initialPool], rfl, List.nodup_nil, by simp, by simp⟩
  · simp [initialPool]

theorem pool_congr (guards : Screened GuardCandidate)
    (Promoted Other : GuardCandidate → Site → Prop) (pool : GuardPool)
    (same : ∀ wrapper site, Promoted wrapper site ↔ Other wrapper site)
    (held : PoolOf guards Promoted pool) : PoolOf guards Other pool := by
  have agree : Promoted = Other := by
    funext wrapper site
    exact propext (same wrapper site)
  rw [← agree]
  exact held

section

variable (pool : GuardPool) (wrapper : GuardCandidate) (site : Site)

theorem promote_known (present : wrapper.guardId ∈ pool.wrapperIds) : pool.promote wrapper site =
      { pool with anchors := pool.anchors ++ [(wrapper.guardId, site)] } := by
  have contained : pool.wrapperIds.contains wrapper.guardId = true := by simpa using present
  simp only [GuardPool.promote, contained, if_true]

theorem promote_new (absent : wrapper.guardId ∉ pool.wrapperIds) :
    pool.promote wrapper site = ⟨pool.candidates ++ [wrapper],
      pool.wrapperIds ++ [wrapper.guardId], pool.anchors ++ [(wrapper.guardId, site)]⟩ := by
  have missing : pool.wrapperIds.contains wrapper.guardId = false := by simpa using absent
  simp only [GuardPool.promote, missing, Bool.false_eq_true, if_false]

theorem promote_anchors :
    (pool.promote wrapper site).anchors = pool.anchors ++ [(wrapper.guardId, site)] := rfl

end

theorem pool_promote (guards : Screened GuardCandidate)
    (Promoted : GuardCandidate → Site → Prop) (pool : GuardPool)
    (held : PoolOf guards Promoted pool) (wrapper : GuardCandidate) (site : Site) :
    PoolOf guards (fun other place => Promoted other place ∨ other = wrapper ∧ place = site)
      (pool.promote wrapper site) := by
  obtain ⟨fresh, candidates, ids, distinct, known, all⟩ := held.added
  constructor
  · by_cases present : wrapper.guardId ∈ pool.wrapperIds
    · rw [promote_known pool wrapper site present]
      refine ⟨fresh, candidates, ids, distinct, ?_, ?_⟩
      · intro other member
        obtain ⟨place, promoted⟩ := known other member
        exact ⟨place, Or.inl promoted⟩
      · intro other place either
        rcases either with promoted | ⟨rfl, _⟩
        · exact all other place promoted
        · exact present
    · rw [promote_new pool wrapper site present]
      refine ⟨fresh ++ [wrapper], by simp [candidates], by simp [ids], ?_, ?_, ?_⟩
      · apply List.nodup_append.mpr
        refine ⟨distinct, List.nodup_singleton _, ?_⟩
        intro first member second single same
        rw [same, List.mem_singleton.mp single] at member
        exact present member
      · intro other member
        rcases List.mem_append.mp member with member | single
        · obtain ⟨place, promoted⟩ := known other member
          exact ⟨place, Or.inl promoted⟩
        · exact ⟨site, Or.inr ⟨List.mem_singleton.mp single, rfl⟩⟩
      · intro other place either
        rw [List.mem_append, List.mem_singleton]
        rcases either with promoted | ⟨rfl, _⟩
        · exact Or.inl (all other place promoted)
        · exact Or.inr rfl
  · intro identifier place
    simp only [promote_anchors, List.mem_append, List.mem_singleton, held.anchored,
      Prod.mk.injEq, or_assoc]
    constructor
    · intro either
      rcases either with initial | ⟨other, promoted, rfl⟩ | ⟨rfl, rfl⟩
      · exact Or.inl initial
      · exact Or.inr ⟨other, Or.inl promoted, rfl⟩
      · exact Or.inr ⟨wrapper, Or.inr ⟨rfl, rfl⟩, rfl⟩
    · intro either
      rcases either with initial | ⟨other, promoted | ⟨rfl, rfl⟩, rfl⟩
      · exact Or.inl initial
      · exact Or.inr (Or.inl ⟨other, promoted, rfl⟩)
      · exact Or.inr (Or.inr ⟨rfl, rfl⟩)

variable (stage : LifecycleStage)

/-- The wrappers that a growth's summaries are promoted to. -/
def WrapperOf (anchor : GrowthCandidate) (rows : List SummaryRow) (wrapper : GuardCandidate) :
    Prop := ∃ row ∈ rows, row.anchor = growthSite anchor ∧ promotable anchor row = true ∧
    createGuard row.wrapper = .ok wrapper

def PromotedBy (inputs : LifecycleInputs) (flow : VerifiedFlow) (wrapper : GuardCandidate) (site : Site) : Prop :=
  ∃ entry growth anchor, flowContext inputs flow = .ok (entry, growth, anchor) ∧
    site = growthSite anchor ∧ WrapperOf anchor inputs.rows.summaries wrapper

variable (guards : Screened GuardCandidate)

theorem promote_summary_pool (Promoted : GuardCandidate → Site → Prop) (anchor : GrowthCandidate)
    (row : SummaryRow) (here : row.anchor = growthSite anchor) (pool after : GuardPool)
    (held : PoolOf guards Promoted pool) (promoted : promoteSummary anchor row pool = .ok after) :
    PoolOf guards (fun wrapper site => Promoted wrapper site ∨
      WrapperOf anchor [row] wrapper ∧ site = growthSite anchor) after := by
  unfold promoteSummary at promoted
  split at promoted
  · rename_i accepted
    simp only [bind_ok, pure_ok] at promoted
    obtain ⟨wrapper, created, rfl⟩ := promoted
    apply pool_congr _ _ _ _ _ (pool_promote guards Promoted pool held wrapper (growthSite anchor))
    intro other site
    have own : WrapperOf anchor [row] other ↔ other = wrapper := by
      simp only [WrapperOf, List.mem_singleton, exists_eq_left, here, accepted, created, true_and,
        Except.ok.injEq]
      exact eq_comm
    rw [own]
  · rename_i refused
    cases promoted
    apply pool_congr _ _ _ _ _ held
    intro other site
    simp [WrapperOf, here, refused]

variable (entry : EntryFact) (growth : VerifiedGrowthResult) (flow : VerifiedFlow)
  (anchor : GrowthCandidate) (rows : List SummaryRow)

theorem bind_summaries_pool (Promoted : GuardCandidate → Site → Prop) (pool : GuardPool)
    (held : PoolOf guards Promoted pool) (summaries : List LifecycleSummary) (after : GuardPool)
    (bound : bindSummaries entry growth flow anchor rows pool = .ok (summaries, after)) :
    PoolOf guards (fun wrapper site => Promoted wrapper site ∨
      WrapperOf anchor rows wrapper ∧ site = growthSite anchor) after := by
  induction rows generalizing Promoted pool summaries with
  | nil =>
    cases bound
    exact pool_congr _ _ _ _ (by simp [WrapperOf]) held
  | cons row rows ih =>
    unfold bindSummaries at bound
    split at bound
    · rename_i here
      simp only [bind_ok, pure_ok, Prod.exists, Prod.mk.injEq] at bound
      obtain ⟨_, _, between, promoted, _, _, rest, _, rfl⟩ := bound
      have first := promote_summary_pool guards Promoted anchor row here pool between held promoted
      apply pool_congr _ _ _ _ _ (ih _ between first _ rest)
      intro wrapper site
      simp only [WrapperOf, List.exists_mem_cons_iff, List.not_mem_nil, false_and, exists_false,
        or_false, or_assoc, or_and_right]
    · rename_i elsewhere
      apply pool_congr _ _ _ _ _ (ih Promoted pool held _ bound)
      intro wrapper site
      simp [WrapperOf, elsewhere]

theorem bind_summaries_any (pool other : GuardPool) (summaries : List LifecycleSummary)
    (after : GuardPool)
    (bound : bindSummaries entry growth flow anchor rows pool = .ok (summaries, after)) :
    ∃ reached, bindSummaries entry growth flow anchor rows other = .ok (summaries, reached) := by
  induction rows generalizing pool other summaries with
  | nil =>
    cases bound
    exact ⟨other, rfl⟩
  | cons row rows ih =>
    unfold bindSummaries at bound ⊢
    split at bound
    · rename_i here
      simp only [bind_ok, pure_ok, Prod.exists, Prod.mk.injEq] at bound
      obtain ⟨summary, created, between, promoted, others, _, rest, rfl, rfl⟩ := bound
      have promotes : ∃ reached, promoteSummary anchor row other = .ok reached := by
        unfold promoteSummary at promoted ⊢
        split
        · rename_i accepted
          rw [if_pos accepted] at promoted
          simp only [bind_ok, pure_ok] at promoted ⊢
          obtain ⟨wrapper, made, _⟩ := promoted
          exact ⟨_, wrapper, made, rfl⟩
        · exact ⟨other, rfl⟩
      obtain ⟨reached, promotes⟩ := promotes
      obtain ⟨final, rest⟩ := ih between reached others rest
      refine ⟨final, ?_⟩
      simp only [here, if_true, bind_ok, pure_ok, Prod.exists, Prod.mk.injEq]
      exact ⟨summary, created, reached, promotes, others, final, rest, rfl, rfl⟩
    · rename_i elsewhere
      rw [if_neg elsewhere]
      exact ih pool other summaries bound

theorem bind_flow_pool (Promoted : GuardCandidate → Site → Prop) (flow : VerifiedFlow)
    (pool : GuardPool) (held : PoolOf guards Promoted pool) (records : PathRecords)
    (after : GuardPool) (bound : bindFlow stage flow pool = .ok (records, after)) :
    PoolOf guards (fun wrapper site => Promoted wrapper site ∨ PromotedBy stage.inputs flow wrapper site)
      after := by
  simp only [bindFlow, bind_ok, pure_ok, Prod.exists, Prod.mk.injEq]
    at bound
  obtain ⟨entry, growth, anchor, context, summaries, reached, own, _, _, _, rfl⟩ := bound
  apply pool_congr _ _ _ _ _
    (bind_summaries_pool guards entry growth flow anchor _ Promoted pool held _ _ own)
  intro wrapper site
  have here : PromotedBy stage.inputs flow wrapper site ↔
      WrapperOf anchor stage.inputs.rows.summaries wrapper ∧ site = growthSite anchor := by
    simp [PromotedBy, context, and_comm]
  rw [here]

theorem bind_flows_reach (earlier later : List VerifiedFlow) (flow : VerifiedFlow)
    (Promoted : GuardCandidate → Site → Prop) (pool : GuardPool)
    (held : PoolOf guards Promoted pool) (records : List PathRecords)
    (ran : bindFlows stage (earlier ++ flow :: later) pool = .ok records) :
    ∃ reached own after, PoolOf guards (fun wrapper site => Promoted wrapper site ∨
        ∃ other ∈ earlier, PromotedBy stage.inputs other wrapper site) reached ∧
      bindFlow stage flow reached = .ok (own, after) ∧ records[earlier.length]? = some own := by
  induction earlier generalizing Promoted pool records with
  | nil =>
    simp only [List.nil_append, bindFlows, bind_ok, pure_ok, Prod.exists] at ran
    obtain ⟨own, after, bound, _, _, rfl⟩ := ran
    exact ⟨pool, own, after, pool_congr _ _ _ _ (by simp) held, bound, rfl⟩
  | cons first earlier ih =>
    simp only [List.cons_append, bindFlows, bind_ok, pure_ok, Prod.exists] at ran
    obtain ⟨_, between, bound, others, rest, rfl⟩ := ran
    have next := bind_flow_pool stage guards Promoted first pool held _ between bound
    obtain ⟨reached, own, after, reachedHeld, ownBound, found⟩ := ih _ between next others rest
    refine ⟨reached, own, after, pool_congr _ _ _ _ ?_ reachedHeld, ownBound, by simpa using found⟩
    intro wrapper site
    rw [List.exists_mem_cons_iff, or_assoc]

end DosWeb.Production
