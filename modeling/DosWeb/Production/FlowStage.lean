import DosWeb.Conclude.Soundness
import DosWeb.Flows.Normalize
import DosWeb.Production.Conclude

/-!
The flows stage: the raw rows are reconciled and normalized, and a gap path is added for each
partial association that has none. A row that binds no demand is screening noise.
-/

namespace DosWeb.Production

open Identifiers
open Entries (EntryFact)
open Flows
open Growth (CandidateCoverageStatus DemandInput VerifiedGrowthResult)

/-- A candidate's link to an entry, with the status of the association. -/
structure AssociationLink extends EntryLink where
  status : CandidateCoverageStatus

structure FlowStageInputs where
  entries : List (String × EntryFact)
  growth : List (String × VerifiedGrowthResult)
  canonicalEntryIds : List (String × String)
  links : List AssociationLink
  dispositions : List Disposition

def danglingFact (message : String) : Raised :=
  .analyzer ⟨"ANALYSIS_DANGLING_FACT_REFERENCE", message, []⟩

section

variable (inputs : FlowStageInputs)

def gapLink (disposition : Disposition) : Checked AssociationLink :=
  match disposition.linkIds with
  | [linkId] =>
    match inputs.links.find? fun link => link.linkId = linkId with
    | some link =>
      if link.growthId = disposition.growthId then .ok link
      else .error (danglingFact
        "DoS-relevant partial disposition references an incompatible Entry link.")
    | none => .error (danglingFact
        "DoS-relevant partial disposition has no canonical Entry link.")
  | _ => .error (danglingFact "DoS-relevant partial disposition has no canonical Entry link.")

def representable (demand : DemandInput) : Bool :=
  attackerTargets.any fun target => target.role = demand.role

/-- The gap path of a link: from the least input of its entry to the least demand. -/
def gapRow (link : AssociationLink) : Checked FlowRow :=
  match inputs.entries.lookup link.entryId, (inputs.growth.lookup link.growthId).bind
      VerifiedGrowthResult.candidate with
  | some entry, some candidate =>
    match (candidate.demandInputs.filter representable).min?, entry.attackerInputs.min? with
    | some demand, some input => .ok {
        sourceFile := entry.handler.file.1
        sourceStartLine := entry.handler.startLine.1
        sinkFile := candidate.site.file.1
        sinkStartLine := candidate.site.startLine.1
        attackerTarget := demand.role.text
        attackerSource := input.name.1
        attackerSink := demand.name.1
        callPath := entry.handler.callable.1
        phaseSequence := "entry>candidate_relevant_partial>growth"
        flowKind := "unmodeled"
        confidence := "partial"
        coverageStatus := "partial"
        coverageNote := "candidate_relevant_partial_flow_gap" }
    | _, _ => .error (upstreamInvalid
        "DoS-relevant partial flow lacks a representable attacker-demand hypothesis.")
  | _, _ => .error (danglingFact
      "DoS-relevant partial flow references missing Entry or Growth evidence.")

/-- The gap rows of the dispositions. Only a pair without a path, whose link is partial itself,
has one. -/
def gapRows : List Disposition → List Pair → Checked (List FlowRow)
  | [], _ => .ok []
  | disposition :: dispositions, pairs => do
      if disposition.status ≠ .gapEligible then gapRows dispositions pairs
      else
        let link ← gapLink inputs disposition
        if link.pair ∈ pairs ∨ link.status = .complete then gapRows dispositions pairs
        else
          let row ← gapRow inputs link
          let rows ← gapRows dispositions (pairs ++ [link.pair])
          return row :: rows

def candidateRelevantPartialFlowRows (existing : List Pair) : Checked (List FlowRow) := do
  require ((inputs.links.map fun link => link.linkId).Nodup)
    (upstreamInvalid "Candidate Entry links are duplicated or malformed.")
  let rows ← gapRows inputs inputs.dispositions existing
  return List.insertionSort (fun left right : FlowRow =>
    canonicalJson left.toDict ≤ canonicalJson right.toDict) rows

/-- Adds the gap proofs to the formal ones, unless a path is known already. -/
def mergeGapProofs : List FlowProof → List FlowProof → Checked (List FlowProof)
  | [], proofs => .ok proofs
  | gap :: gaps, proofs =>
    match proofs.find? fun proof => proof.pathId = gap.pathId with
    | some previous =>
      if previous.toDict = gap.toDict then mergeGapProofs gaps proofs
      else .error (upstreamInvalid
        "Partial gap flow collides with a distinct formal flow path.")
    | none => mergeGapProofs gaps (proofs ++ [gap])

/-- The published proofs: the formal ones and the gap paths. -/
def supplementFlows (proofs : List FlowProof) : Checked (List FlowProof) := do
  let rows ← candidateRelevantPartialFlowRows inputs
    (proofs.map fun proof => (proof.entryId, proof.growthId))
  let gaps ← normalizeFlowRows inputs.entries inputs.growth inputs.canonicalEntryIds rows
  let merged ← mergeGapProofs gaps proofs
  return List.insertionSort (fun left right : FlowProof =>
    canonicalJson left.toDict ≤ canonicalJson right.toDict) merged

def flowsStage (rows : List FlowRow) : Checked (List FlowProof) := do
  let proofs ← normalizeFlowRows inputs.entries inputs.growth inputs.canonicalEntryIds
    (reconcileFlowRows inputs.entries inputs.growth rows)
  supplementFlows inputs proofs

end

/-- The row binds a demand of a retained candidate at its sink. -/
def bindsRetained (growth : List (String × VerifiedGrowthResult)) (row : FlowRow) : Bool :=
  match rowPlaces row, rowControl row with
  | .ok places, .ok control =>
    !(growthMatches growth places.sinkFile places.sinkLine control).isEmpty
  | _, _ => false

section

variable (entries : List (String × EntryFact)) (growth : List (String × VerifiedGrowthResult))
  (canonicalEntryIds : List (String × String))

theorem normalized_row_binds (row : FlowRow) (proof : FlowProof)
    (normalized : normalizeRow entries growth canonicalEntryIds row = .ok proof) :
    bindsRetained growth row = true := by
  simp only [normalizeRow, bind_ok] at normalized
  obtain ⟨places, placesOk, control, controlOk, result, resolved, _⟩ := normalized
  simp only [resolveGrowth] at resolved
  split at resolved
  · rename_i matched found
    simp only [bindsRetained, placesOk, controlOk, found]
    rfl
  · cases resolved

theorem normalized_each_binds (rows : List FlowRow) (known proofs : List FlowProof)
    (normalized : normalizeEach entries growth canonicalEntryIds rows known = .ok proofs) :
    ∀ row ∈ rows, bindsRetained growth row = true := by
  induction rows generalizing known with
  | nil => nofun
  | cons row rows ih =>
    simp only [normalizeEach, bind_ok] at normalized
    obtain ⟨proof, rowOk, _, _, rest⟩ := normalized
    intro other member
    rcases List.mem_cons.mp member with same | later
    · rw [same]
      exact normalized_row_binds entries growth canonicalEntryIds row proof rowOk
    · exact ih _ rest other later

theorem normalized_rows_bind (rows : List FlowRow) (proofs : List FlowProof)
    (normalized : normalizeFlowRows entries growth canonicalEntryIds rows = .ok proofs) :
    ∀ row ∈ rows, bindsRetained growth row = true := by
  simp only [normalizeFlowRows, bind_ok] at normalized
  obtain ⟨_, _, listed, each, _⟩ := normalized
  exact normalized_each_binds entries growth canonicalEntryIds rows [] listed each

theorem reconcile_insert (before after : List FlowRow) (noise : FlowRow) :
    reconcileFlowRows entries growth (before ++ noise :: after) =
      reconcileFlowRows entries growth before ++
        ([noise].filter (reconciled entries growth) ++ reconcileFlowRows entries growth after) := by
  simp only [reconcileFlowRows, List.filter_append, List.filter_cons, List.filter_nil]
  cases reconciled entries growth noise <;> rfl

end

/-- A row that binds no retained demand changes nothing exactly where reconciliation drops it. -/
theorem flows_stage_noise_iff (inputs : FlowStageInputs) (before after : List FlowRow)
    (noise : FlowRow) (proofs : List FlowProof)
    (ran : flowsStage inputs (before ++ after) = .ok proofs)
    (unbound : bindsRetained inputs.growth noise = false) :
    flowsStage inputs (before ++ noise :: after) = .ok proofs ↔
      reconciled inputs.entries inputs.growth noise = false := by
  constructor
  · intro noisy
    simp only [flowsStage, bind_ok] at noisy
    obtain ⟨listed, normalized, _⟩ := noisy
    by_contra kept
    have bound := normalized_rows_bind inputs.entries inputs.growth inputs.canonicalEntryIds _ listed
      normalized noise (by
        rw [reconcileFlowRows, List.mem_filter]
        exact ⟨List.mem_append_right _ (.head _), Bool.not_eq_false _ ▸ kept⟩)
    rw [unbound] at bound
    cases bound
  · intro dropped
    have same : reconcileFlowRows inputs.entries inputs.growth (before ++ noise :: after) =
        reconcileFlowRows inputs.entries inputs.growth (before ++ after) := by
      rw [reconcile_insert, List.filter_cons_of_neg (by simp [dropped]), List.filter_nil,
        List.nil_append, reconcileFlowRows, reconcileFlowRows, reconcileFlowRows,
        List.filter_append]
    rw [flowsStage, same]
    exact ran

def wellFormedRow (row : FlowRow) : Bool := (rowPlaces row).isOk && (rowControl row).isOk &&
    (flowEnum coverageStatuses Entries.CoverageStatus.text row.coverageStatus
      "coverage_status").isOk &&
    (flowEnum flowConfidences FlowConfidence.text row.confidence "confidence").isOk &&
    (flowString row.flowKind "flow_kind").isOk && (flowString row.coverageNote "coverage_note").isOk &&
    (flowSequence row.callPath "call_path").isOk &&
    (flowSequence row.phaseSequence "phase_sequence").isOk

def sampleStage : FlowStageInputs where
  entries := [(Entries.sampleEntry.entryId, Entries.sampleEntry)]
  growth := [(Conclude.sampleGrowthResult.growthId, Conclude.sampleGrowthResult)]
  canonicalEntryIds := [(Conclude.sampleGrowthResult.growthId, Entries.sampleEntry.entryId)]
  links := []
  dispositions := []

/-- A flow into another candidate on the line of the sample growth. -/
def sampleNoise : FlowRow where
  sourceFile := "src/Cache.java"
  sourceStartLine := 9
  sinkFile := "src/Cache.java"
  sinkStartLine := 12
  attackerTarget := "size"
  attackerSource := "token"
  attackerSink := "buffer"
  callPath := "Cache.put"
  phaseSequence := "entry > growth"
  flowKind := "data_flow"
  confidence := "proven"
  coverageStatus := "complete"
  coverageNote := "modeled"

def straySample : FlowRow := { sampleNoise with sinkStartLine := 40 }

/-- A flow into the key of the sample growth. -/
def sampleKeyRow : FlowRow := { sampleNoise with attackerTarget := "key", attackerSink := "token" }

def stagedCount : Except Raised (List FlowProof) → Nat
  | .ok proofs => proofs.length
  | .error _ => 0

theorem key_row_counted : stagedCount (flowsStage sampleStage [sampleKeyRow]) = 1 := by
  decide

theorem key_row_staged : ∃ proofs, proofs.length = 1 ∧
    flowsStage sampleStage [sampleKeyRow] = .ok proofs := by
  have counted := key_row_counted
  cases ran : flowsStage sampleStage [sampleKeyRow] with
  | ok proofs =>
    rw [ran] at counted
    exact ⟨proofs, counted, rfl⟩
  | error raised =>
    rw [ran] at counted
    cases counted

theorem stray_unbound : bindsRetained sampleStage.growth straySample = false := by
  decide

theorem flows_stage_noise_iff_stray : ∃ proofs, proofs.length = 1 ∧
    flowsStage sampleStage [sampleKeyRow] = .ok proofs ∧
      flowsStage sampleStage [sampleKeyRow, straySample] = .ok proofs := by
  obtain ⟨proofs, one, ran⟩ := key_row_staged
  exact ⟨proofs, one, ran, (flows_stage_noise_iff sampleStage [sampleKeyRow] [] straySample proofs ran
    stray_unbound).mpr (by decide)⟩

theorem sample_noise_unbound : bindsRetained sampleStage.growth sampleNoise = false := by
  decide

theorem sample_noise_reconciled :
    reconciled sampleStage.entries sampleStage.growth sampleNoise = true := by
  decide

/-- A well-formed row of another candidate on a retained line aborts the stage. -/
theorem noise_row_aborts : wellFormedRow sampleNoise = true ∧
    bindsRetained sampleStage.growth sampleNoise = false ∧
      (∃ proofs, proofs.length = 1 ∧ flowsStage sampleStage [sampleKeyRow] = .ok proofs) ∧
      ∀ proofs, flowsStage sampleStage [sampleKeyRow, sampleNoise] ≠ .ok proofs := by
  refine ⟨by decide, sample_noise_unbound, key_row_staged, ?_⟩
  intro proofs noisy
  simp only [flowsStage, bind_ok] at noisy
  obtain ⟨listed, normalized, _⟩ := noisy
  have bound := normalized_rows_bind sampleStage.entries sampleStage.growth
    sampleStage.canonicalEntryIds _ listed normalized sampleNoise
    (List.mem_filter.mpr ⟨List.mem_cons_of_mem _ (.head _), sample_noise_reconciled⟩)
  rw [sample_noise_unbound] at bound
  cases bound

end DosWeb.Production
