import DosWeb.Conclude.FailClosed
import DosWeb.Library.Grouping
import DosWeb.Production.GuardPool

/-!
The records of a flow in a run are those it has alone exactly where no flow before it
promotes a guard that binds its growth too.
-/

namespace DosWeb.Production

open Identifiers
open Entries (EntryFact sampleEntry)
open Flows (FlowProof VerifiedFlow)
open Growth (GrowthCandidate VerifiedGrowthResult)
open Lifecycle
open Conclude (sampleGrowthResult)

section

variable (guards : Screened GuardCandidate) (Known : GuardCandidate → Prop)
  (collisionFree : ∀ left right, Known left → Known right → left.guardId = right.guardId →
    left = right) (listed : ∀ guard ∈ guards.candidates, Known guard)

theorem binds_guard (anchors : List (String × Site)) (anchor : GrowthCandidate)
    (guard : GuardCandidate) : bindsGrowth anchors anchor (guardFacts guard) = true ↔
      (guard.guardId, growthSite anchor) ∈ anchors ∧
        guard.resourceDimension = anchor.resourceDimension.text := by
  unfold bindsGrowth guardFacts
  rw [Bool.and_eq_true]
  exact and_congr List.contains_iff_mem decide_eq_true_iff

variable (anchor : GrowthCandidate)

/-- A wrapper binds the growth through a site at which it was promoted, or through a guard row. -/
def WrapperBinds (wrapper : GuardCandidate) (site : Site) : Prop :=
  wrapper.resourceDimension = anchor.resourceDimension.text ∧
    (site = growthSite anchor ∨ (wrapper.guardId, growthSite anchor) ∈ guards.anchors)

section

variable (Before Own : GuardCandidate → Site → Prop)
  (knownBefore : ∀ wrapper site, Before wrapper site → Known wrapper)
  (knownOwn : ∀ wrapper site, Own wrapper site → Known wrapper)
  (ownHere : ∀ wrapper site, Own wrapper site → site = growthSite anchor) (pool alone : GuardPool)
  (held : PoolOf guards (fun wrapper site => Before wrapper site ∨ Own wrapper site) pool)
  (aloneHeld : PoolOf guards Own alone)

include held aloneHeld in
theorem alone_anchored (identifier : String) (site : Site)
    (anchored : (identifier, site) ∈ alone.anchors) : (identifier, site) ∈ pool.anchors := by
  rw [held.anchored]
  rcases (aloneHeld.anchored identifier site).mp anchored with initial | ⟨wrapper, own, same⟩
  · exact Or.inl initial
  · exact Or.inr ⟨wrapper, Or.inr own, same⟩

section

variable
  (undisturbed : ∀ wrapper site, Before wrapper site → WrapperBinds guards anchor wrapper site →
    ∃ place, Own wrapper place)

include undisturbed

include collisionFree knownBefore ownHere held aloneHeld in
theorem undisturbed_anchored (guard : GuardCandidate) (known : Known guard)
    (dimension : guard.resourceDimension = anchor.resourceDimension.text)
    (anchored : (guard.guardId, growthSite anchor) ∈ pool.anchors) :
    (guard.guardId, growthSite anchor) ∈ alone.anchors := by
  rw [aloneHeld.anchored]
  rcases (held.anchored _ _).mp anchored with initial | ⟨wrapper, either, same⟩
  · exact Or.inl initial
  · rcases either with before | own
    · have one := collisionFree _ _ (knownBefore _ _ before) known same
      subst one
      obtain ⟨place, own⟩ := undisturbed wrapper _ before ⟨dimension, Or.inl rfl⟩
      rw [← ownHere _ _ own]
      exact Or.inr ⟨wrapper, own, rfl⟩
    · exact Or.inr ⟨wrapper, own, same⟩

include collisionFree listed knownBefore knownOwn ownHere held aloneHeld in
theorem linked_guards_perm : (linkedGuards pool anchor).Perm (linkedGuards alone anchor) := by
  obtain ⟨fresh, candidates, ids, distinct, promoted, all⟩ := held.added
  obtain ⟨own, ownCandidates, ownIds, ownDistinct, ownPromoted, ownAll⟩ := aloneHeld.added
  rw [ids] at distinct
  rw [ownIds] at ownDistinct
  have anchors : ∀ guard, Known guard → (bindsGrowth pool.anchors anchor (guardFacts guard) = true ↔
        bindsGrowth alone.anchors anchor (guardFacts guard) = true) := by
    intro guard known
    rw [binds_guard, binds_guard]
    constructor
    · intro binds
      exact ⟨undisturbed_anchored guards Known collisionFree anchor Before Own knownBefore
        ownHere pool alone held aloneHeld undisturbed guard known binds.2 binds.1, binds.2⟩
    · intro binds
      exact ⟨alone_anchored guards Before Own pool alone held aloneHeld _ _ binds.1, binds.2⟩
  rw [linkedGuards, linkedGuards, candidates, ownCandidates, List.filter_append, List.filter_append]
  apply List.Perm.append
  · rw [List.filter_congr fun guard member =>
      Bool.eq_iff_iff.mpr (anchors guard (listed guard member))]
  · apply (List.perm_ext_iff_of_nodup ((distinct.of_map _).filter _)
      ((ownDistinct.of_map _).filter _)).mpr
    intro guard
    rw [List.mem_filter, List.mem_filter]
    constructor
    · intro kept
      obtain ⟨site, either⟩ := promoted guard kept.1
      have known : Known guard := either.elim (knownBefore _ _) (knownOwn _ _)
      have binds := (anchors guard known).mp kept.2
      refine ⟨?_, binds⟩
      have owned : ∃ place, Own guard place := by
        rcases either with before | owned
        · obtain ⟨anchored, dimension⟩ := (binds_guard _ _ _).mp binds
          rcases (aloneHeld.anchored _ _).mp anchored with initial | ⟨wrapper, owned, same⟩
          · exact undisturbed guard site before ⟨dimension, Or.inr initial⟩
          · have one := collisionFree _ _ (knownOwn _ _ owned) known same
            subst one
            exact ⟨_, owned⟩
        · exact ⟨site, owned⟩
      obtain ⟨place, owned⟩ := owned
      have member := ownAll guard place owned
      rw [ownIds, List.mem_map] at member
      obtain ⟨other, present, same⟩ := member
      obtain ⟨elsewhere, otherOwned⟩ := ownPromoted other present
      have one := collisionFree _ _ (knownOwn _ _ otherOwned) known same
      subst one
      exact present
    · intro kept
      obtain ⟨site, owned⟩ := ownPromoted guard kept.1
      have known := knownOwn _ _ owned
      refine ⟨?_, (anchors guard known).mpr kept.2⟩
      have member := all guard site (Or.inr owned)
      rw [ids, List.mem_map] at member
      obtain ⟨other, present, same⟩ := member
      obtain ⟨elsewhere, either⟩ := promoted other present
      have one := collisionFree _ _ (either.elim (knownBefore _ _) (knownOwn _ _)) known same
      subst one
      exact present

end

include collisionFree knownBefore knownOwn held aloneHeld in
/-- A wrapper of an earlier flow that binds the growth, but is not the flow's own, is linked
once more than it is alone. -/
theorem linked_guards_differ (wrapper : GuardCandidate) (site : Site)
    (before : Before wrapper site) (binds : WrapperBinds guards anchor wrapper site)
    (foreign : ∀ place, ¬ Own wrapper place) :
    ¬ ((linkedGuards pool anchor).map GuardCandidate.guardId).Perm
        ((linkedGuards alone anchor).map GuardCandidate.guardId) := by
  intro perm
  obtain ⟨fresh, candidates, ids, _, promoted, all⟩ := held.added
  obtain ⟨own, ownCandidates, _, _, ownPromoted, _⟩ := aloneHeld.added
  have known := knownBefore _ _ before
  have linked : bindsGrowth pool.anchors anchor (guardFacts wrapper) = true := by
    rw [binds_guard, held.anchored]
    refine ⟨?_, binds.1⟩
    rcases binds.2 with rfl | initial
    · exact Or.inr ⟨wrapper, Or.inl before, rfl⟩
    · exact Or.inl initial
  have member : wrapper ∈ fresh := by
    have present := all wrapper site (Or.inl before)
    rw [ids, List.mem_map] at present
    obtain ⟨other, present, same⟩ := present
    obtain ⟨_, either⟩ := promoted other present
    have one := collisionFree _ _ (either.elim (knownBefore _ _) (knownOwn _ _)) known same
    subst one
    exact present
  have counted := perm.count_eq wrapper.guardId
  rw [linkedGuards, linkedGuards, candidates, ownCandidates, List.filter_append,
    List.filter_append, List.map_append, List.map_append, List.count_append,
    List.count_append] at counted
  have initial : List.count wrapper.guardId ((guards.candidates.filter fun guard =>
        bindsGrowth alone.anchors anchor (guardFacts guard)).map GuardCandidate.guardId) ≤
      List.count wrapper.guardId ((guards.candidates.filter fun guard =>
        bindsGrowth pool.anchors anchor (guardFacts guard)).map GuardCandidate.guardId) := by
    apply List.Sublist.count_le
    apply List.Sublist.map
    apply List.monotone_filter_right
    intro guard bound
    rw [binds_guard] at bound ⊢
    exact ⟨alone_anchored guards Before Own pool alone held aloneHeld _ _ bound.1, bound.2⟩
  have added : 0 < List.count wrapper.guardId ((fresh.filter fun guard =>
      bindsGrowth pool.anchors anchor (guardFacts guard)).map GuardCandidate.guardId) := by
    apply List.count_pos_iff.mpr
    exact List.mem_map_of_mem (List.mem_filter.mpr ⟨member, linked⟩)
  have none : List.count wrapper.guardId ((own.filter fun guard =>
      bindsGrowth alone.anchors anchor (guardFacts guard)).map GuardCandidate.guardId) = 0 := by
    apply List.count_eq_zero.mpr
    intro present
    obtain ⟨other, kept, same⟩ := List.mem_map.mp present
    obtain ⟨place, owned⟩ := ownPromoted other (List.mem_filter.mp kept).1
    have one := collisionFree _ _ (knownOwn _ _ owned) known same
    subst one
    exact foreign place owned
  omega

end

end

section

variable (entry : EntryFact) (growth : VerifiedGrowthResult) (flow : VerifiedFlow)
  (anchor : GrowthCandidate)

theorem evidence_created (evidence created : LifecycleEvidence)
    (valid : LifecycleEvidence.create evidence = .ok created) : created = evidence := by
  simp only [LifecycleEvidence.create, bind_ok, pure_ok] at valid
  obtain ⟨_, _, _, _, same⟩ := valid
  exact same.symm

theorem evidence_records_ok (family : Family) (candidates : List CandidateFacts)
    (records : List LifecycleEvidence) :
    evidenceRecords entry growth flow anchor family candidates = .ok records ↔
      (∀ facts ∈ candidates, LifecycleEvidence.create
        (evidenceRecord entry growth flow anchor family facts) =
          .ok (evidenceRecord entry growth flow anchor family facts)) ∧
      records = candidates.map (evidenceRecord entry growth flow anchor family) := by
  induction candidates generalizing records with
  | nil => simp [evidenceRecords, eq_comm]
  | cons facts candidates ih =>
    simp only [evidenceRecords, bind_ok, pure_ok, ih]
    constructor
    · intro built
      obtain ⟨first, created, others, ⟨valid, rfl⟩, rfl⟩ := built
      have same := evidence_created _ _ created
      subst same
      exact ⟨List.forall_mem_cons.mpr ⟨created, valid⟩, rfl⟩
    · intro built
      obtain ⟨valid, rfl⟩ := built
      obtain ⟨first, others⟩ := List.forall_mem_cons.mp valid
      exact ⟨_, first, _, ⟨others, rfl⟩, rfl⟩

variable (rows : List CoverageRow)

theorem family_status_perm (family : Family)
    (left right : List CandidateFacts) (perm : left.Perm right) :
    familyStatus rows anchor family left = familyStatus rows anchor family right := by
  have complete : left.any isComplete = right.any isComplete := by
    rw [Bool.eq_iff_iff, List.any_eq_true, List.any_eq_true]
    simp only [perm.mem_iff]
  have filled : left = [] ↔ right = [] := by
    constructor
    · intro empty
      exact (empty ▸ perm).nil_eq.symm
    · intro empty
      exact (empty ▸ perm).eq_nil
  simp only [familyStatus, complete, ne_eq, filled]

theorem bind_family_perm (family : Family)
    (left right : List CandidateFacts) (perm : left.Perm right)
    (bound : LifecycleCoverage × List LifecycleEvidence)
    (built : bindFamily entry growth flow anchor rows family left = .ok bound) :
    ∃ other, bindFamily entry growth flow anchor rows family right = .ok other ∧
      other.1 = bound.1 ∧ other.2.Perm bound.2 := by
  simp only [bindFamily, bind_ok, evidence_records_ok, pure_ok] at built ⊢
  obtain ⟨coverage, created, _, ⟨valid, rfl⟩, rfl⟩ := built
  rw [family_status_perm anchor rows family left right perm] at created
  refine ⟨_, ⟨coverage, created, _, ⟨?_, rfl⟩, rfl⟩, rfl, (perm.map _).symm⟩
  intro facts member
  exact valid facts (perm.mem_iff.mpr member)

theorem evaluate_guard_perm (left right : List GuardCandidate) (perm : left.Perm right)
    (apart : ∀ first ∈ left, ∀ second ∈ left, first.guardId = second.guardId → first = second)
    (configuration : ModeledConfiguration) (coverageStatus : String) :
    evaluateGuard entry growth flow left configuration coverageStatus =
      evaluateGuard entry growth flow right configuration coverageStatus := by
  have ordered : (left.insertionSort fun first second => first.guardId ≤ second.guardId) =
      right.insertionSort fun first second => first.guardId ≤ second.guardId :=
    (Library.Grouping.sort_perm GuardCandidate.guardId left right perm.symm apart).symm
  simp only [evaluateGuard, ordered]

/-- The same records about a path; the order of the evidence rows aside. -/
structure SameRecords (left right : PathRecords) : Prop where
  path : left.pathId = right.pathId
  summaries : left.summaries = right.summaries
  coverage : left.coverage = right.coverage
  evidence : left.evidence.Perm right.evidence
  decisions : left.decisions = right.decisions

variable (stage : LifecycleStage)

theorem path_records_perm (summaries : List LifecycleSummary) (left right : List GuardCandidate)
    (bounds : List BoundCandidate) (releases : List ReleaseCandidate) (perm : left.Perm right)
    (apart : ∀ first ∈ left, ∀ second ∈ left, first.guardId = second.guardId → first = second)
    (records : PathRecords)
    (built : pathRecords stage entry growth flow anchor summaries ⟨left, bounds, releases⟩ =
      .ok records) :
    ∃ other, pathRecords stage entry growth flow anchor summaries ⟨right, bounds, releases⟩ =
      .ok other ∧ SameRecords records other := by
  simp only [pathRecords, bind_ok, pure_ok] at built ⊢
  obtain ⟨guards, guardsOk, bound, boundOk, release, releaseOk, decisions, decided, rfl⟩ := built
  obtain ⟨others, othersOk, coverage, evidence⟩ := bind_family_perm entry growth flow anchor _ _ _ _
    (perm.map guardFacts) guards guardsOk
  refine ⟨_, ⟨others, othersOk, bound, boundOk, release, releaseOk, decisions, ?_, rfl⟩, ?_⟩
  · simp only [decideLifecycle, coverage] at decided ⊢
    rw [← evaluate_guard_perm entry growth flow left right perm apart]
    exact decided
  · refine ⟨rfl, rfl, by rw [coverage], ?_, rfl⟩
    exact (evidence.symm.append_right _).append_right _

theorem bind_family_evidence (family : Family)
    (candidates : List CandidateFacts) (bound : LifecycleCoverage × List LifecycleEvidence)
    (built : bindFamily entry growth flow anchor rows family candidates = .ok bound) :
    bound.2 = candidates.map (evidenceRecord entry growth flow anchor family) := by
  simp only [bindFamily, bind_ok, evidence_records_ok, pure_ok] at built
  obtain ⟨_, _, _, ⟨_, rfl⟩, rfl⟩ := built
  rfl

theorem evidence_names_guards (summaries : List LifecycleSummary) (linked : Linked)
    (records : PathRecords)
    (built : pathRecords stage entry growth flow anchor summaries linked = .ok records) :
    (records.evidence.filter fun evidence => evidence.family = .guard).map
        LifecycleEvidence.candidateId = linked.guards.map GuardCandidate.guardId := by
  simp only [pathRecords, bind_ok, pure_ok] at built
  obtain ⟨guards, guardsOk, bounds, boundsOk, releases, releasesOk, _, _, rfl⟩ := built
  rw [bind_family_evidence _ _ _ _ _ _ _ _ guardsOk, bind_family_evidence _ _ _ _ _ _ _ _ boundsOk,
    bind_family_evidence _ _ _ _ _ _ _ _ releasesOk]
  simp only [List.filter_append, List.filter_map, List.map_append, List.map_map]
  simp [evidenceRecord, guardFacts, Function.comp_def]

end

section

variable (inputs : LifecycleInputs)

def KnownGuard (rows : LifecycleRows) (guard : GuardCandidate) : Prop :=
  (∃ row ∈ rows.guards, createGuard row.values = .ok guard) ∨
    ∃ row ∈ rows.summaries, createGuard row.wrapper = .ok guard

/-- No two guards share an identifier: the hash behind it does not collide on the rows. -/
def GuardsApart (rows : LifecycleRows) : Prop :=
  ∀ left right, KnownGuard rows left → KnownGuard rows right → left.guardId = right.guardId →
    left = right

def RowAnchors (rows : LifecycleRows) (identifier : String) (site : Site) : Prop :=
  ∃ row ∈ rows.guards, row.anchor = site ∧
    ∃ guard, createGuard row.values = .ok guard ∧ guard.guardId = identifier

/-- Another flow promotes a wrapper that binds this flow's growth, by its line or by a guard
row, although this flow does not promote it. -/
def Disturbs (other flow : VerifiedFlow) : Prop :=
  ∃ entry growth anchor wrapper site, flowContext inputs flow = .ok (entry, growth, anchor) ∧
    PromotedBy inputs other wrapper site ∧
    wrapper.resourceDimension = anchor.resourceDimension.text ∧
    (site = growthSite anchor ∨ RowAnchors inputs.rows wrapper.guardId (growthSite anchor)) ∧
    ∀ place, ¬ PromotedBy inputs flow wrapper place

section

variable {ρ α : Type} (create : ρ → Checked α) (rows : List ρ) (created : List (ρ × α))
  (made : createAll create rows = .ok created)

include ρ α made

theorem create_all_mem (row : ρ) (candidate : α) :
    (row, candidate) ∈ created → row ∈ rows ∧ create row = .ok candidate := by
  induction rows generalizing created with
  | nil =>
    cases made
    simp
  | cons first rows ih =>
    simp only [createAll, bind_ok, pure_ok] at made
    obtain ⟨own, ownOk, others, othersOk, rfl⟩ := made
    intro member
    rcases List.mem_cons.mp member with same | member
    · cases same
      exact ⟨.head _, ownOk⟩
    · have rest := ih others othersOk member
      exact ⟨.tail _ rest.1, rest.2⟩

theorem create_all_total : ∀ row ∈ rows, ∃ candidate, (row, candidate) ∈ created := by
  induction rows generalizing created with
  | nil => simp
  | cons first rows ih =>
    simp only [createAll, bind_ok, pure_ok] at made
    obtain ⟨own, _, others, othersOk, rfl⟩ := made
    intro row member
    rcases List.mem_cons.mp member with rfl | member
    · exact ⟨own, .head _⟩
    · obtain ⟨candidate, present⟩ := ih others othersOk row member
      exact ⟨candidate, .tail _ present⟩

end

theorem kept_subset {α : Type} (identifier : α → String) (candidates : List α) (candidate : α)
    (kept : candidate ∈ keptByIdentifier identifier candidates) : candidate ∈ candidates := by
  have folded : ∀ (rest held : List α), candidate ∈ rest.foldl (fun kept candidate =>
        (kept.filter fun other => identifier other ≠ identifier candidate) ++ [candidate]) held →
      candidate ∈ held ∨ candidate ∈ rest := by
    intro rest
    induction rest with
    | nil =>
      intro held member
      exact Or.inl member
    | cons first rest ih =>
      intro held member
      rcases ih _ member with member | member
      · rcases List.mem_append.mp member with member | single
        · exact Or.inl (List.mem_filter.mp member).1
        · exact Or.inr (List.mem_cons.mpr (Or.inl (List.mem_singleton.mp single)))
      · exact Or.inr (.tail _ member)
  rw [keptByIdentifier, List.mem_insertionSort] at kept
  simpa using folded candidates [] kept

variable (guards : Screened GuardCandidate)

theorem screened_guards (screened : screenGuards inputs.rows = .ok guards) :
    (∀ guard ∈ guards.candidates, KnownGuard inputs.rows guard) ∧
      ∀ identifier site, (identifier, site) ∈ guards.anchors ↔
        RowAnchors inputs.rows identifier site := by
  simp only [screenGuards, screen, bind_ok, pure_ok] at screened
  obtain ⟨created, made, rfl⟩ := screened
  constructor
  · intro guard member
    obtain ⟨item, present, rfl⟩ := List.mem_map.mp (kept_subset _ _ _ member)
    obtain ⟨listed, own⟩ := create_all_mem _ _ _ made item.1 item.2 present
    exact Or.inl ⟨item.1, listed, own⟩
  · intro identifier site
    simp only [List.mem_map, Prod.mk.injEq]
    constructor
    · intro anchored
      obtain ⟨item, present, named, here⟩ := anchored
      obtain ⟨listed, own⟩ := create_all_mem _ _ _ made item.1 item.2 present
      exact ⟨item.1, listed, here, item.2, own, named⟩
    · intro anchored
      obtain ⟨row, listed, here, guard, own, named⟩ := anchored
      obtain ⟨candidate, present⟩ := create_all_total _ _ _ made row listed
      have same := (create_all_mem _ _ _ made row candidate present).2
      rw [own] at same
      cases same
      exact ⟨_, present, named, here⟩

theorem promoted_known (flow : VerifiedFlow) (wrapper : GuardCandidate) (site : Site)
    (promoted : PromotedBy inputs flow wrapper site) : KnownGuard inputs.rows wrapper := by
  obtain ⟨_, _, _, _, _, row, listed, _, _, created⟩ := promoted
  exact Or.inr ⟨row, listed, created⟩

theorem known_linked (listed : ∀ guard ∈ guards.candidates, KnownGuard inputs.rows guard)
    (Promoted : GuardCandidate → Site → Prop)
    (known : ∀ wrapper site, Promoted wrapper site → KnownGuard inputs.rows wrapper)
    (pool : GuardPool) (held : PoolOf guards Promoted pool) (anchor : GrowthCandidate) :
    ∀ guard ∈ linkedGuards pool anchor, KnownGuard inputs.rows guard := by
  obtain ⟨fresh, candidates, _, _, promoted, _⟩ := held.added
  intro guard member
  have present := (List.mem_filter.mp member).1
  rw [candidates] at present
  rcases List.mem_append.mp present with initial | added
  · exact listed guard initial
  · obtain ⟨site, own⟩ := promoted guard added
    exact known guard site own

theorem lifecycle_alone (bounds : Screened BoundCandidate)
    (releases : Screened ReleaseCandidate) (guardsOk : screenGuards inputs.rows = .ok guards)
    (boundsOk : screenBounds inputs.rows = .ok bounds)
    (releasesOk : screenReleases inputs.rows = .ok releases) (flow : VerifiedFlow)
    (entry : EntryFact) (growth : VerifiedGrowthResult) (anchor : GrowthCandidate)
    (context : flowContext inputs flow = .ok (entry, growth, anchor))
    (summaries : List LifecycleSummary) (reached : GuardPool)
    (bound : bindSummaries entry growth flow anchor inputs.rows.summaries (initialPool guards) =
      .ok (summaries, reached)) (records : PathRecords) : lifecycle inputs [flow] = .ok [records] ↔
      pathRecords ⟨inputs, bounds, releases⟩ entry growth flow anchor summaries
        (linkedTo ⟨inputs, bounds, releases⟩ reached anchor) = .ok records := by
  have run : lifecycle inputs [flow] = pathRecords ⟨inputs, bounds, releases⟩ entry growth flow
      anchor summaries (linkedTo ⟨inputs, bounds, releases⟩ reached anchor) >>= fun records =>
        .ok [records] := by
    simp only [lifecycle, guardsOk, boundsOk, releasesOk, bindFlows, bindFlow, context, bound, bind,
      Except.bind, pure, Except.pure]
    cases pathRecords ⟨inputs, bounds, releases⟩ entry growth flow anchor summaries
      (linkedTo ⟨inputs, bounds, releases⟩ reached anchor) <;> rfl
  rw [run, bind_ok]
  simp

/-- The records of a flow are its own exactly where no earlier flow disturbs it. -/
theorem lifecycle_records_local_iff (collisionFree : GuardsApart inputs.rows)
    (earlier later : List VerifiedFlow) (flow : VerifiedFlow) (records : List PathRecords)
    (ran : lifecycle inputs (earlier ++ flow :: later) = .ok records) :
    (∃ own alone, records[earlier.length]? = some own ∧
        lifecycle inputs [flow] = .ok [alone] ∧ SameRecords own alone) ↔
      ∀ other ∈ earlier, ¬ Disturbs inputs other flow := by
  simp only [lifecycle, bind_ok] at ran
  obtain ⟨guards, guardsOk, bounds, boundsOk, releases, releasesOk, ran⟩ := ran
  obtain ⟨listed, anchors⟩ := screened_guards inputs guards guardsOk
  let stage : LifecycleStage := ⟨inputs, bounds, releases⟩
  obtain ⟨pool, own, after, held, ownBound, found⟩ := bind_flows_reach stage guards earlier later flow
    _ _ (pool_initial guards) records ran
  simp only [bindFlow, bind_ok, pure_ok, Prod.exists, Prod.mk.injEq]
    at ownBound
  obtain ⟨entry, growth, anchor, context, summaries, reached, bound, shown, built, rfl, rfl⟩ :=
    ownBound
  obtain ⟨aloneReached, aloneBound⟩ := bind_summaries_any entry growth flow anchor _ pool
    (initialPool guards) summaries reached bound
  have promotes : ∀ wrapper site, PromotedBy inputs flow wrapper site ↔
      WrapperOf anchor inputs.rows.summaries wrapper ∧ site = growthSite anchor := by
    intro wrapper site
    simp only [PromotedBy]
    rw [show flowContext inputs flow = .ok (entry, growth, anchor) from context]
    simp [and_comm]
  have reachedHeld : PoolOf guards (fun wrapper site =>
      (∃ other ∈ earlier, PromotedBy inputs other wrapper site) ∨
        PromotedBy inputs flow wrapper site) reached := by
    apply pool_congr _ _ _ _ _
      (bind_summaries_pool guards entry growth flow anchor _ _ pool held _ _ bound)
    intro wrapper site
    rw [false_or, promotes]
  have aloneHeld : PoolOf guards (PromotedBy inputs flow) aloneReached := by
    apply pool_congr _ _ _ _ _ (bind_summaries_pool guards entry growth flow anchor _ _ _
      (pool_initial guards) _ _ aloneBound)
    intro wrapper site
    rw [false_or, promotes]
  have alone := lifecycle_alone inputs guards bounds releases guardsOk boundsOk releasesOk flow entry
    growth anchor context summaries aloneReached aloneBound
  have known : ∀ wrapper site, (∃ other ∈ earlier, PromotedBy inputs other wrapper site) →
      KnownGuard inputs.rows wrapper := by
    intro wrapper site promoted
    obtain ⟨other, _, promoted⟩ := promoted
    exact promoted_known inputs other wrapper site promoted
  have binds : ∀ wrapper site, WrapperBinds guards anchor wrapper site ↔
      wrapper.resourceDimension = anchor.resourceDimension.text ∧ (site = growthSite anchor ∨
          RowAnchors inputs.rows wrapper.guardId (growthSite anchor)) := by
    intro wrapper site
    rw [WrapperBinds, anchors]
  constructor
  · intro same other member disturbs
    obtain ⟨own, record, foundOwn, aloneRun, same⟩ := same
    rw [found] at foundOwn
    cases foundOwn
    obtain ⟨_, _, _, wrapper, site, context', promoted, dimension, place, foreign⟩ := disturbs
    rw [show flowContext inputs flow = .ok (entry, growth, anchor) from context] at context'
    cases context'
    apply linked_guards_differ guards (KnownGuard inputs.rows) collisionFree anchor _ _ known
      (promoted_known inputs flow) reached aloneReached reachedHeld aloneHeld wrapper site
      ⟨other, member, promoted⟩ ((binds wrapper site).mpr ⟨dimension, place⟩) foreign
    have ownNames := evidence_names_guards entry growth flow anchor stage _ _ _ built
    have aloneNames := evidence_names_guards entry growth flow anchor stage _ _ _
      ((alone record).mp aloneRun)
    simp only [linkedTo] at ownNames aloneNames
    rw [← ownNames, ← aloneNames]
    exact (same.evidence.filter _).map _
  · intro undisturbed
    have perm := linked_guards_perm guards (KnownGuard inputs.rows) collisionFree listed anchor _ _
      known (promoted_known inputs flow) (fun wrapper site promoted =>
        ((promotes wrapper site).mp promoted).2) reached aloneReached reachedHeld aloneHeld (by
      intro wrapper site before bindsHere
      obtain ⟨other, member, promoted⟩ := before
      obtain ⟨dimension, place⟩ := (binds wrapper site).mp bindsHere
      by_contra foreign
      exact undisturbed other member ⟨entry, growth, anchor, wrapper, site, context, promoted,
        dimension, place, not_exists.mp foreign⟩)
    have linkedKnown := known_linked inputs guards listed _ (by
      intro wrapper site either
      exact either.elim (known wrapper site) (promoted_known inputs flow wrapper site))
      reached reachedHeld anchor
    obtain ⟨record, builtAlone, same⟩ := path_records_perm entry growth flow anchor stage summaries
      _ _ _ _ perm (by
        intro first firstMember second secondMember
        exact collisionFree first second (linkedKnown first firstMember)
          (linkedKnown second secondMember)) shown built
    exact ⟨shown, record, found, (alone record).mpr builtAlone, same⟩

end

/-- The map of the sample growth as if it were reachable from everywhere. -/
def globalCandidate : GrowthCandidate :=
  { Growth.sampleCandidate with
    growthId := "growth:2170c12f6d2a980299d341c0"
    escapeScope := .global
    idCanonical := by
      rw [identifier_codes]
      decide +kernel }

def globalResult : VerifiedGrowthResult :=
  { sampleGrowthResult with
    growthId := globalCandidate.growthId
    candidate := some globalCandidate
    growthIdStarts := globalCandidate.growth_id_starts
    candidateMatches := by
      rintro _ ⟨rfl⟩
      rfl }

def globalProof : FlowProof :=
  { Conclude.sampleFlowProof with
    pathId := stableIdentifier "flow" _
    growthId := globalResult.growthId
    growthIdStarts := globalResult.growthIdStarts
    pathIdCanonical := rfl }

def globalFlow : VerifiedFlow :=
  { Conclude.sampleFlow with
    verifiedFlowId := stableIdentifier "verified_flow" _
    pathId := globalProof.pathId
    growthId := globalProof.growthId
    proof := globalProof
    pathMatches := rfl
    growthMatches := rfl
    idCanonical := rfl }

def cacheSite : Site := ("src/Cache.java", 12)

def wrapperSummary : SummaryRow where
  anchor := cacheSite
  family := .guard
  candidate := ("src/Check.java", 5)
  callsite := ("src/Cache.java", 10)
  receiver := ("src/Cache.java", 11)
  argumentIndex := 0
  resourceDimension := "entries"
  scope := "instance"
  configurationKey := "literal"
  configurationValue := "16"
  representation := "same"
  phase := "before_growth"
  coversMaterialization := true
  dominatesGrowth := true
  rejectPathReachesGrowth := false
  evidence := "guard_call"
  cfgRelation := .oneWrapper
  coverageStatus := .complete
  coverageNote := "one_wrapper"

def wrapperGuard (identifier : String) : GuardCandidate :=
  { wrapperSummary.wrapper with guardId := identifier }

def wrapperId : String := stableIdentifier "guard" (guardIdentity wrapperSummary.wrapper)

theorem wrapper_created : createGuard wrapperSummary.wrapper = .ok (wrapperGuard wrapperId) := by
  have path : sitePathValid "src/Check.java" = true := by decide
  have evidence : lifecycleEvidence ["guard_call"] = .ok ["guard_call"] := by decide
  simp only [createGuard, wrapperSummary, SummaryRow.wrapper, checkSite, path, evidence, require,
    if_true, bind, Except.bind, pure, Except.pure]
  rfl

def wrapperRun (entries : List (String × EntryFact))
    (growth : List (String × VerifiedGrowthResult)) : LifecycleInputs where
  rows := ⟨[], [], [], [], [wrapperSummary]⟩
  entries
  growth
  configuration := .empty

theorem plain_texts : ∀ text ∈ ["src/Check.java", "src/Cache.java", "entries", "instance", "literal",
    "16", "same", "before_growth", "guard_call", "one_wrapper", "this.cache", "cache", "none",
    "LIFECYCLE_SAME_CALLABLE_RESOURCE_WITNESS", "LIFECYCLE_CFG_OR_RESOURCE_ALIAS_UNPROVEN",
    "LIFECYCLE_CANDIDATE_PARTIAL"], lifecycleTextValid text = true := by
  decide

section

variable (entry : EntryFact) (growth : VerifiedGrowthResult) (flow : VerifiedFlow)
  (anchor : GrowthCandidate) (identifier : String)
  (entryValid : lifecycleTextValid entry.entryId = true)
  (growthValid : lifecycleTextValid growth.growthId = true)
  (pathValid : lifecycleTextValid flow.pathId = true)
  (guardValid : lifecycleTextValid identifier = true) (site : growthSite anchor = cacheSite)

include entryValid growthValid pathValid in
theorem summary_created : LifecycleSummary.create (summaryRecord entry growth flow wrapperSummary) =
    .ok (summaryRecord entry growth flow wrapperSummary) := by
  have texts := lifecycle_texts_ok [("entry_id", entry.entryId), ("growth_id", growth.growthId),
    ("path_id", flow.pathId), ("candidate_file", "src/Check.java"),
    ("callsite_file", "src/Cache.java"), ("receiver_file", "src/Cache.java"),
    ("resource_dimension", "entries"), ("scope", "instance"), ("configuration_key", "literal"),
    ("configuration_value", "16"), ("representation", "same"), ("phase", "before_growth"),
    ("evidence", "guard_call"), ("coverage_note", "one_wrapper")] (by
      have plain := plain_texts
      simp only [List.forall_mem_cons] at plain ⊢
      simp only [entryValid, growthValid, pathValid, plain, true_and]
      exact List.forall_mem_nil _)
  unfold LifecycleSummary.create
  exact bind_ok.mpr ⟨(), texts, rfl⟩

include entryValid growthValid pathValid site in
theorem wrapper_row_bound (pool : GuardPool) :
    bindSummaries entry growth flow anchor [wrapperSummary] pool =
      .ok ([summaryRecord entry growth flow wrapperSummary],
        if promotable anchor wrapperSummary then pool.promote (wrapperGuard wrapperId) cacheSite
        else pool) := by
  have here : wrapperSummary.anchor = growthSite anchor := site.symm
  simp only [bindSummaries, here, if_true,
    summary_created entry growth flow entryValid growthValid pathValid, promoteSummary,
    wrapper_created, site, bind, Except.bind, pure, Except.pure]
  split_ifs <;> rfl

include site in
theorem wrapper_linked (dimension : anchor.resourceDimension.text = "entries") :
    linkedGuards ((initialPool ⟨[], []⟩).promote (wrapperGuard identifier) cacheSite) anchor =
      [wrapperGuard identifier] := by
  have binds : bindsGrowth [((wrapperGuard identifier).guardId, cacheSite)] anchor
      (guardFacts (wrapperGuard identifier)) = true := by
    rw [binds_guard, site, dimension]
    exact ⟨List.mem_singleton_self _, rfl⟩
  exact List.filter_cons_of_pos binds

variable (inputs : LifecycleInputs) (unmodeled : inputs.rows.coverage = [])

theorem guards_decided (guards : List GuardCandidate)
    (context : PathContext entry growth flow anchor)
    (printed : Conclude.printable inputs.configuration GuardCandidate.configurationKey guards = true)
    (coverage : FamilyCoverage) :
    ∃ decisions, decideLifecycle entry growth flow inputs.configuration ⟨guards, [], []⟩ coverage =
      .ok decisions := by
  have known : ∀ status : Coverage, status.text ∈ coverageStatuses := by
    intro status
    cases status <;> decide
  obtain ⟨guard, guardOk⟩ : ∃ guard, evaluateGuard entry growth flow guards inputs.configuration
      coverage.guard.status.text = .ok guard :=
    ⟨_, (Conclude.evaluate_guard_ok entry growth flow anchor _ _ guards context (known _)
      _).mpr ⟨rfl, printed⟩⟩
  obtain ⟨bound, boundOk⟩ : ∃ bound, evaluateBound entry growth flow [] inputs.configuration
      coverage.bound.status.text = .ok bound :=
    ⟨_, (Conclude.evaluate_bound_ok entry growth flow anchor _ _ [] context (known _)
      _).mpr ⟨rfl, rfl⟩⟩
  obtain ⟨release, releaseOk⟩ : ∃ release, evaluateSynchronousRelease entry growth flow []
      coverage.release.status.text = .ok release :=
    ⟨_, (Conclude.evaluate_release_ok entry growth flow anchor _ [] context (known _) _).mpr rfl⟩
  have premise : premiseHolds growth flow = true := by
    simp [premiseHolds, context.premise, context.verified]
  refine ⟨⟨guard, bound, release⟩, ?_⟩
  simp only [decideLifecycle, premise, if_true, guardOk, evaluatePathBounds,
    List.insertionSort_nil, boundOk, releaseOk, bind, Except.bind, pure, Except.pure]

include entryValid growthValid pathValid in
theorem coverage_created (family : Family) (status : Coverage) (reason : String)
    (valid : lifecycleTextValid reason = true) :
    LifecycleCoverage.create ⟨entry.entryId, growth.growthId, flow.pathId, family, status, reason⟩ =
      .ok ⟨entry.entryId, growth.growthId, flow.pathId, family, status, reason⟩ := by
  have texts := lifecycle_texts_ok [("entry_id", entry.entryId), ("growth_id", growth.growthId),
    ("path_id", flow.pathId), ("reason", reason)] (by
      simp only [List.forall_mem_cons, entryValid, growthValid, pathValid, valid, true_and]
      exact List.forall_mem_nil _)
  unfold LifecycleCoverage.create
  exact bind_ok.mpr ⟨(), texts, rfl⟩

include entryValid growthValid pathValid in
theorem silent_family (family : Family) : bindFamily entry growth flow anchor [] family [] =
    .ok (⟨entry.entryId, growth.growthId, flow.pathId, family, .partialCoverage,
      "LIFECYCLE_CFG_OR_RESOURCE_ALIAS_UNPROVEN"⟩, []) := by
  have plain := plain_texts
  simp only [List.forall_mem_cons] at plain
  refine bind_ok.mpr ⟨_, coverage_created entry growth flow entryValid growthValid pathValid
    family .partialCoverage "LIFECYCLE_CFG_OR_RESOURCE_ALIAS_UNPROVEN" ?_, rfl⟩
  simp only [plain]

include entryValid growthValid pathValid guardValid site in
theorem evidence_of_wrapper (receiver : anchor.receiver.1 = "this.cache")
    (field : anchor.fieldPath.1 = "cache") (status : Coverage) :
    ∃ records, evidenceRecords entry growth flow anchor .guard
      [{ guardFacts (wrapperGuard identifier) with coverageStatus := status.text }] = .ok records := by
  refine ⟨_, (evidence_records_ok _ _ _ _ _ _ _).mpr ⟨List.forall_mem_singleton.mpr ?_, rfl⟩⟩
  have texts := lifecycle_texts_ok [("entry_id", entry.entryId), ("growth_id", growth.growthId),
    ("path_id", flow.pathId), ("candidate_id", identifier), ("growth_file", (growthSite anchor).1),
    ("candidate_file", "src/Check.java"), ("resource_identity", anchor.receiver.1),
    ("field_identity", anchor.fieldPath.1), ("key_identity", "none")] (by
      have plain := plain_texts
      simp only [List.forall_mem_cons, site, receiver, field, cacheSite] at plain ⊢
      simp only [entryValid, growthValid, pathValid, guardValid, plain, true_and]
      exact List.forall_mem_nil _)
  have lines : (0 < (growthSite anchor).2 && 0 < 5) = true := by
    rw [site]
    rfl
  unfold LifecycleEvidence.create
  refine bind_ok.mpr ⟨(), texts, bind_ok.mpr ⟨(), ?_, rfl⟩⟩
  exact (require_ok _ _ _).mpr lines

include entryValid growthValid pathValid guardValid site unmodeled in
theorem wrapper_records (context : PathContext entry growth flow anchor)
    (summaries : List LifecycleSummary) (guards : List GuardCandidate)
    (receiver : anchor.receiver.1 = "this.cache") (field : anchor.fieldPath.1 = "cache")
    (own : guards = [] ∨ guards = [wrapperGuard identifier]) :
    ∃ records, pathRecords ⟨inputs, ⟨[], []⟩, ⟨[], []⟩⟩ entry growth flow anchor summaries
        ⟨guards, [], []⟩ = .ok records ∧
      records.coverage.guard.status = if guards = [] then .partialCoverage else .complete := by
  have plain := plain_texts
  simp only [List.forall_mem_cons] at plain
  have created := coverage_created entry growth flow entryValid growthValid pathValid
  have silent : ∀ family, bindFamily entry growth flow anchor inputs.rows.coverage family [] =
      .ok (⟨entry.entryId, growth.growthId, flow.pathId, family, .partialCoverage,
        "LIFECYCLE_CFG_OR_RESOURCE_ALIAS_UNPROVEN"⟩, []) := by
    rw [unmodeled]
    exact silent_family entry growth flow anchor entryValid growthValid pathValid
  have guard : ∃ bound, bindFamily entry growth flow anchor inputs.rows.coverage .guard
      (guards.map guardFacts) = .ok bound ∧
        bound.1.status = if guards = [] then .partialCoverage else .complete := by
    rcases own with rfl | rfl
    · exact ⟨_, silent .guard, rfl⟩
    · rw [unmodeled]
      obtain ⟨_, evidence⟩ := evidence_of_wrapper entry growth flow anchor identifier entryValid
        growthValid pathValid guardValid site receiver field .complete
      refine ⟨_, bind_ok.mpr ⟨_, created .guard .complete
        "LIFECYCLE_SAME_CALLABLE_RESOURCE_WITNESS" ?_, bind_ok.mpr ⟨_, evidence, rfl⟩⟩, rfl⟩
      simp only [plain]
  obtain ⟨guard, guardOk, status⟩ := guard
  have printed : Conclude.printable inputs.configuration GuardCandidate.configurationKey guards =
      true := by
    rcases own with rfl | rfl
    · rfl
    · rfl
  obtain ⟨decisions, decisionsOk⟩ := guards_decided entry growth flow anchor inputs guards context
    printed ⟨guard.1, _, _⟩
  refine ⟨_, bind_ok.mpr ⟨guard, guardOk, bind_ok.mpr ⟨_, silent .bound,
    bind_ok.mpr ⟨_, silent .release, bind_ok.mpr ⟨decisions, decisionsOk, rfl⟩⟩⟩⟩, status⟩

include entryValid growthValid pathValid site unmodeled in
theorem wrapper_bound (context : PathContext entry growth flow anchor)
    (found : flowContext inputs flow = .ok (entry, growth, anchor))
    (receiver : anchor.receiver.1 = "this.cache") (field : anchor.fieldPath.1 = "cache")
    (guardValid : lifecycleTextValid wrapperId = true) (pool reached : GuardPool)
    (bound : bindSummaries entry growth flow anchor inputs.rows.summaries pool =
      .ok ([summaryRecord entry growth flow wrapperSummary], reached))
    (own : linkedGuards reached anchor = [] ∨ linkedGuards reached anchor = [wrapperGuard wrapperId]) :
    ∃ records, bindFlow ⟨inputs, ⟨[], []⟩, ⟨[], []⟩⟩ flow pool = .ok (records, reached) ∧
      records.coverage.guard.status =
        if linkedGuards reached anchor = [] then .partialCoverage else .complete := by
  obtain ⟨records, built, status⟩ := wrapper_records entry growth flow anchor wrapperId entryValid
    growthValid pathValid guardValid site inputs unmodeled context
    [summaryRecord entry growth flow wrapperSummary] (linkedGuards reached anchor) receiver field own
  refine ⟨records, bind_ok.mpr ⟨_, found, bind_ok.mpr ⟨_, bound, ?_⟩⟩, status⟩
  exact bind_ok.mpr ⟨records, built, rfl⟩

end

theorem growth_ids_differ : (globalResult.growthId == sampleGrowthResult.growthId) = false := by
  decide

theorem known_entry_valid (entry : EntryFact) : lifecycleTextValid entry.entryId = true := by
  rw [entry.idCanonical]
  exact stable_identifier_text "entry" "entry:" (by decide) _ (by decide) (by decide)
    (List.all_eq_true.mp (by decide))

theorem known_growth_valid (growth : VerifiedGrowthResult) (anchor : GrowthCandidate)
    (known : growth.candidate = some anchor) : lifecycleTextValid growth.growthId = true := by
  rw [← growth.candidateMatches anchor known, anchor.idCanonical]
  exact stable_identifier_text "growth" "growth:" (by decide) _ (by decide) (by decide)
    (List.all_eq_true.mp (by decide))

theorem known_path_valid (flow : VerifiedFlow) : lifecycleTextValid flow.pathId = true := by
  rw [flow.pathMatches, flow.proof.pathIdCanonical]
  exact stable_identifier_text "flow" "flow:" (by decide) _ (by decide) (by decide)
    (List.all_eq_true.mp (by decide))

theorem wrapper_id_valid : lifecycleTextValid wrapperId = true :=
  stable_identifier_text "guard" "guard:" (by decide) _ (by decide) (by decide)
    (List.all_eq_true.mp (by decide))

theorem global_context : PathContext sampleEntry globalResult globalFlow globalCandidate :=
  ⟨rfl, rfl, rfl, rfl, rfl⟩

def leakyRun : LifecycleInputs := wrapperRun [(sampleEntry.entryId, sampleEntry)]
    [(sampleGrowthResult.growthId, sampleGrowthResult), (globalResult.growthId, globalResult)]

theorem context_found (inputs : LifecycleInputs) (flow : VerifiedFlow) (entry : EntryFact)
    (growth : VerifiedGrowthResult) (anchor : GrowthCandidate)
    (context : PathContext entry growth flow anchor)
    (entryKnown : inputs.entries.lookup entry.entryId = some entry)
    (growthKnown : inputs.growth.lookup growth.growthId = some growth) :
    flowContext inputs flow = .ok (entry, growth, anchor) := by
  simp only [flowContext, context.entryMatches, context.growthMatches, entryKnown, growthKnown,
    context.candidateKnown]

theorem lookup_second {α : Type} (first second : String) (left right : α)
    (apart : (second == first) = false) :
    [(first, left), (second, right)].lookup second = some right := by
  rw [List.lookup_cons, apart]
  exact List.lookup_cons_self

theorem sample_found : flowContext leakyRun Conclude.sampleFlow =
    .ok (sampleEntry, sampleGrowthResult, Growth.sampleCandidate) :=
  context_found leakyRun _ _ _ _ Conclude.sample_context List.lookup_cons_self
    List.lookup_cons_self

theorem global_found : flowContext leakyRun globalFlow =
    .ok (sampleEntry, globalResult, globalCandidate) :=
  context_found leakyRun _ _ _ _ global_context List.lookup_cons_self
    (lookup_second _ _ _ _ growth_ids_differ)

theorem leaky_apart : GuardsApart leakyRun.rows := by
  intro left right leftKnown rightKnown _
  have created : ∀ guard, KnownGuard leakyRun.rows guard → guard = wrapperGuard wrapperId := by
    intro guard known
    rcases known with ⟨row, listed, _⟩ | ⟨row, listed, made⟩
    · cases listed
    · rw [List.mem_singleton.mp listed, wrapper_created] at made
      exact (Except.ok.inj made).symm
  rw [created left leftKnown, created right rightKnown]

theorem sample_promotes (pool : GuardPool) :
    bindSummaries sampleEntry sampleGrowthResult Conclude.sampleFlow Growth.sampleCandidate
        leakyRun.rows.summaries pool =
      .ok ([summaryRecord sampleEntry sampleGrowthResult Conclude.sampleFlow wrapperSummary],
        pool.promote (wrapperGuard wrapperId) cacheSite) := by
  have bound := wrapper_row_bound _ _ Conclude.sampleFlow Growth.sampleCandidate
    (known_entry_valid sampleEntry) (known_growth_valid _ _ Conclude.sample_context.candidateKnown)
    (known_path_valid _) rfl pool
  rw [if_pos (by decide)] at bound
  exact bound

theorem global_promotes_nothing (pool : GuardPool) :
    bindSummaries sampleEntry globalResult globalFlow globalCandidate leakyRun.rows.summaries pool =
      .ok ([summaryRecord sampleEntry globalResult globalFlow wrapperSummary], pool) := by
  have bound := wrapper_row_bound _ _ globalFlow globalCandidate (known_entry_valid sampleEntry)
    (known_growth_valid _ _ global_context.candidateKnown) (known_path_valid _) rfl pool
  rw [if_neg (by decide)] at bound
  exact bound

theorem wrapper_run_flows (entries : List (String × EntryFact))
    (growth : List (String × VerifiedGrowthResult)) (flows : List VerifiedFlow) :
    lifecycle (wrapperRun entries growth) flows =
      bindFlows ⟨wrapperRun entries growth, ⟨[], []⟩, ⟨[], []⟩⟩ flows (initialPool ⟨[], []⟩) := rfl

theorem bind_flows_cons (stage : LifecycleStage) (flow : VerifiedFlow) (flows : List VerifiedFlow)
    (pool reached : GuardPool) (own : PathRecords) (others : List PathRecords)
    (bound : bindFlow stage flow pool = .ok (own, reached))
    (rest : bindFlows stage flows reached = .ok others) :
    bindFlows stage (flow :: flows) pool = .ok (own :: others) := by
  simp only [bindFlows, bound, rest, bind, Except.bind, pure, Except.pure]

theorem leaky_run_records : ∃ first own, lifecycle leakyRun [Conclude.sampleFlow, globalFlow] =
    .ok [first, own] ∧ own.coverage.guard.status = .complete := by
  have linkedSample := wrapper_linked Growth.sampleCandidate wrapperId rfl rfl
  have linkedGlobal := wrapper_linked globalCandidate wrapperId rfl rfl
  obtain ⟨first, firstOk, _⟩ := wrapper_bound sampleEntry sampleGrowthResult Conclude.sampleFlow
    Growth.sampleCandidate (known_entry_valid _) (known_growth_valid _ _ Conclude.sample_context.candidateKnown)
    (known_path_valid _) rfl leakyRun rfl Conclude.sample_context
    sample_found rfl rfl wrapper_id_valid _ _ (sample_promotes (initialPool ⟨[], []⟩))
    (Or.inr linkedSample)
  obtain ⟨own, ownOk, status⟩ := wrapper_bound sampleEntry globalResult globalFlow globalCandidate
    (known_entry_valid _) (known_growth_valid _ _ global_context.candidateKnown) (known_path_valid _) rfl
    leakyRun rfl global_context global_found rfl rfl wrapper_id_valid _ _
    (global_promotes_nothing _) (Or.inr linkedGlobal)
  rw [if_neg (by rw [linkedGlobal]; exact List.cons_ne_nil _ _)] at status
  refine ⟨first, own, ?_, status⟩
  rw [leakyRun, wrapper_run_flows]
  apply bind_flows_cons _ _ _ _ _ _ _ firstOk
  exact bind_flows_cons _ _ _ _ _ _ _ ownOk rfl

theorem global_alone_records : ∃ alone, lifecycle leakyRun [globalFlow] = .ok [alone] ∧
    alone.coverage.guard.status = .partialCoverage := by
  obtain ⟨alone, aloneOk, status⟩ := wrapper_bound sampleEntry globalResult globalFlow
    globalCandidate (known_entry_valid _) (known_growth_valid _ _ global_context.candidateKnown)
    (known_path_valid _) rfl leakyRun rfl global_context global_found rfl rfl
    wrapper_id_valid _ _ (global_promotes_nothing (initialPool ⟨[], []⟩)) (Or.inl rfl)
  refine ⟨alone, ?_, status⟩
  rw [leakyRun, wrapper_run_flows]
  exact bind_flows_cons _ _ _ _ _ _ _ aloneOk rfl

theorem lifecycle_records_local_iff_sample : ∃ records, lifecycle leakyRun
      [Conclude.sampleFlow, globalFlow] = .ok records ∧
    ((∃ own alone, records[1]? = some own ∧ lifecycle leakyRun [globalFlow] = .ok [alone] ∧
        SameRecords own alone) ↔
      ∀ other ∈ [Conclude.sampleFlow], ¬ Disturbs leakyRun other globalFlow) := by
  obtain ⟨first, own, ran, _⟩ := leaky_run_records
  exact ⟨[first, own], ran, lifecycle_records_local_iff leakyRun leaky_apart [Conclude.sampleFlow]
    [] globalFlow _ ran⟩

/-- The wrapper that the sample flow promotes changes the records of the global flow. -/
theorem promoted_guard_leaks : ∃ first own alone,
    lifecycle leakyRun [Conclude.sampleFlow, globalFlow] = .ok [first, own] ∧
      lifecycle leakyRun [globalFlow] = .ok [alone] ∧ ¬ SameRecords own alone := by
  obtain ⟨first, own, ran, complete⟩ := leaky_run_records
  obtain ⟨alone, aloneRan, incomplete⟩ := global_alone_records
  refine ⟨first, own, alone, ran, aloneRan, ?_⟩
  intro same
  rw [same.coverage, incomplete] at complete
  cases complete

end DosWeb.Production
