import DosWeb.Entries.Keys
import DosWeb.Flows.Normalize
import DosWeb.Library.Keyed
import DosWeb.Production.Dispositions

/-!
The association of a candidate: the rows of the association query link it to entries, and without
any such row the entries above it in its file do.
-/

namespace DosWeb.Production

open Library Library.Keyed
open Entries (EntryFact registrationIdentity registrationOrder registrationSiteIdentity
  semanticKey narrowedBy)
open Entries.Coverage (registrationCoveragePatternId)
open Flows (FlowRow dataFlowKind expressionBindsDemand readsInput)
open Growth (CandidateEntryLink GrowthCandidate LinkStatus)

structure EntryMap where
  entries : List EntryFact
  distinct : (entries.map EntryFact.entryId).Nodup

section

variable (candidate : GrowthCandidate)

def entryAmbiguous (count : Nat) : Raised := .analyzer ⟨"ANALYSIS_GROWTH_ENTRY_AMBIGUOUS",
    "Growth candidate must map to exactly one normalized entry.",
    [("growth_id", .str candidate.growthId), ("match_count", .int count)]⟩

def canonicalMatch (matched : List EntryFact) : Checked EntryFact :=
  let narrowed := narrowedBy candidate.demandNames matched
  match narrowed with
  | [entry] => .ok entry
  | _ =>
    let least :=
      if oneValue (narrowed.map semanticKey) then narrowed.argmin registrationOrder
      else if oneValue (narrowed.map registrationIdentity) then
        narrowed.argmin EntryFact.entryId
      else none
    match least with
    | some entry => .ok entry
    | none => .error (entryAmbiguous candidate narrowed.length)

end

section

/-- The text between the first `[/` and the next `]`, from the slash on. -/
def bracketed : List Char → Option (List Char)
  | '[' :: '/' :: rest =>
    if ']' ∈ rest then some ('/' :: rest.takeWhile (· ≠ ']')) else none
  | _ :: rest => bracketed rest
  | [] => none

/-- The route that the path of a modelled switch carries. -/
def associationRowRoute (row : FlowRow) : Option String :=
  if row.phaseSequence = "entry>netty_json_switch>async>service>growth" ∧
      row.coverageNote = "netty_json_switch_async_dispatch_requires_path_coverage" ∧
      row.callPath.toList.length ≤ 4096 then
    (bracketed row.callPath.toList).bind fun route =>
      if route.any Text.isSpace then none else some (String.ofList route)
  else none

variable (candidate : GrowthCandidate)

def atSink (row : FlowRow) : Bool :=
  row.sinkFile = candidate.site.file.1 && row.sinkStartLine = (candidate.site.startLine.1 : Int)

def resolvesTo (row : FlowRow) (entry : EntryFact) : Bool :=
  row.sourceFile = entry.handler.file.1 &&
    row.sourceStartLine = (entry.handler.startLine.1 : Int) &&
    match associationRowRoute row with
    | none => true
    | some route => entry.routeOrEvent = route

/-- The rows agree on the source, the sink, the demand and the path. -/
def sameFlow (left right : FlowRow) : Bool :=
  left.sourceFile = right.sourceFile && left.sourceStartLine = right.sourceStartLine &&
    left.sinkFile = right.sinkFile && left.sinkStartLine = right.sinkStartLine &&
    left.attackerTarget = right.attackerTarget && left.attackerSink = right.attackerSink &&
    left.callPath = right.callPath && left.phaseSequence = right.phaseSequence

def formalFlowRowMatches (association : FlowRow) (flowRows : List FlowRow) : Bool :=
  let demands := candidate.demandInputs.filter fun demand =>
    demand.role.text = association.attackerTarget
  (demands.any fun demand => expressionBindsDemand demand.name.1 association.attackerSink) &&
    flowRows.any fun row => sameFlow row association && dataFlowKind row.flowKind

def formalFlowWitness (entry : EntryFact) (association : FlowRow) (flowRows : List FlowRow) : Bool :=
  formalFlowRowMatches candidate association flowRows &&
    flowRows.any fun row => sameFlow row association && readsInput row.attackerSource entry &&
      dataFlowKind row.flowKind && row.confidence = "proven" && row.coverageStatus = "complete"

def entryCandidateHasFormalFlow (entry : EntryFact) (flowRows : List FlowRow) : Bool :=
  flowRows.any fun row => row.sourceFile = entry.handler.file.1 &&
    row.sourceStartLine = (entry.handler.startLine.1 : Int) && atSink candidate row &&
    readsInput row.attackerSource entry && formalFlowWitness candidate entry row [row]

def claimedComplete (row : FlowRow) : Bool :=
  row.coverageStatus = "complete" && row.confidence = "proven"

variable (entries : EntryMap) (associationRows flowRows : List FlowRow)

/-- The rows at the candidate, each with every entry that it comes from. -/
def rowMatches : List (FlowRow × EntryFact) :=
  (associationRows.filter (atSink candidate)).flatMap fun row =>
    (entries.entries.filter (resolvesTo row)).map fun entry => (row, entry)

def witnessed (matched : FlowRow × EntryFact) : Bool :=
  claimedComplete matched.1 && formalFlowWitness candidate matched.2 matched.1 flowRows

def matchStatus (matched : FlowRow × EntryFact) : LinkStatus :=
  if witnessed candidate flowRows matched then .complete else .partialLink

def matchReasons (matched : FlowRow × EntryFact) : List String := [matched.1.coverageNote] ++
    (if (associationRowRoute matched.1).isSome then ["ASSOCIATION_QUERY_ROUTE_ALIAS_MATCHED"]
      else []) ++
    if formalFlowRowMatches candidate matched.1 flowRows = false then ["FLOW_CODEQL_ROW_MISSING"]
    else if claimedComplete matched.1 && !formalFlowWitness candidate matched.2 matched.1 flowRows
      then ["FLOW_FORMAL_PROOF_INCOMPLETE"]
    else []

/-- The link of a match, with the entry that the map has under its identifier. -/
def matchLink (matched : FlowRow × EntryFact) : Checked (EntryFact × CandidateEntryLink) := do
  let link ← CandidateEntryLink.create candidate.growthId matched.2.entryId
    (matchStatus candidate flowRows matched) [candidate.growthId, matched.2.entryId]
    (matchReasons candidate flowRows matched)
  return (matched.2, link)

end

variable (candidate : GrowthCandidate)

abbrev Association := List CandidateEntryLink × CandidateDisposition

def canonicalOf : List CandidateEntryLink → String
  | [link] => link.entryId
  | _ => ""

def localStatusOf : LocalGrowthStatus :=
  if candidate.coverageStatus = .complete then .complete else .partialGrowth

def associationEligibility (canonicalEntryId : String) (localGrowthStatus : LocalGrowthStatus)
    (associationStatus : AssociationStatus) : DispositionStatus :=
  if canonicalEntryId ≠ "" ∧ (associationStatus = .complete ∨ associationStatus = .partialLink) then
    if localGrowthStatus = .complete ∧ associationStatus = .complete then .formalEligible
    else .gapEligible
  else .inventoryUnresolved

def associationEvidence (links : List CandidateEntryLink) : List String :=
  candidate.evidenceIds.values ++ links.map CandidateEntryLink.linkId ++
    if canonicalOf links ≠ "" then [canonicalOf links] else []

def associationDisposition (links : List CandidateEntryLink) (associationStatus : AssociationStatus)
    (reasonCodes : List String) : Checked CandidateDisposition := do
  let linkIds ← textsOf (links.map CandidateEntryLink.linkId) "link_ids"
  let evidenceIds ← textsOf (associationEvidence candidate links) "evidence_ids"
  let reasons ← textsOf reasonCodes "reason_codes"
  CandidateDisposition.create {
    growthId := candidate.growthId
    status := associationEligibility (canonicalOf links) (localStatusOf candidate) associationStatus
    canonicalEntryId := canonicalOf links
    localGrowthStatus := localStatusOf candidate
    associationStatus, linkIds, evidenceIds
    negativeProofIds := .empty
    reasonCodes := reasons }

def statusOfLink : LinkStatus → AssociationStatus
  | .complete => .complete
  | .partialLink => .partialLink

def unlinked (associationStatus : AssociationStatus) (reason : String) : Checked Association := do
  let disposition ← associationDisposition candidate [] associationStatus [reason]
  return ([], disposition)

/-- One link in the place of several, for an entry that they all stand for. -/
def canonicalLinked (entryId : String) (status : LinkStatus) (reasonCodes : List String) :
    Checked Association := do
  let link ← CandidateEntryLink.create candidate.growthId entryId status
    [candidate.growthId, entryId] reasonCodes
  let disposition ← associationDisposition candidate [link] (statusOfLink link.status)
    ("ASSOCIATION_QUERY_EVIDENCE" :: link.reasonCodes.values)
  return ([link], disposition)

def nettyBase (entry : EntryFact) : Bool := some entry.registrationPatternId =
    registrationCoveragePatternId "netty" "pipeline_registration" "netty_pipeline_registration"

/-- Several links of one registration site and one status. -/
def sharedSite (linked : List (EntryFact × CandidateEntryLink)) : Bool :=
  1 < linked.length && oneValue (linked.map fun pair => registrationSiteIdentity pair.1) &&
    oneValue (linked.map fun pair => pair.2.status)

def linkReasons (linked : List (EntryFact × CandidateEntryLink)) : List String :=
  linked.flatMap fun pair => pair.2.reasonCodes.values

def soleStatus : List (EntryFact × CandidateEntryLink) → AssociationStatus
  | [pair] => statusOfLink pair.2.status
  | _ => .ambiguous

def associateLinked (linked : List (EntryFact × CandidateEntryLink)) : Checked Association :=
  if sharedSite linked then
    match linked.filter fun pair => nettyBase pair.1 with
    | [base] => canonicalLinked candidate base.2.entryId base.2.status
        ("ASSOCIATION_QUERY_HANDLER_BASE_CANONICALIZED" :: base.2.reasonCodes.values)
    | _ => do
        let canonical ← canonicalMatch candidate (linked.map Prod.fst)
        canonicalLinked candidate canonical.entryId
          (if linked.all fun pair => pair.2.status = .complete then .complete else .partialLink)
          ("ASSOCIATION_QUERY_DUPLICATE_REGISTRATION_CANONICALIZED" :: linkReasons linked)
  else if 64 < linked.length then
    unlinked candidate .ambiguous "ASSOCIATION_ENTRY_FANOUT_PARTITION_AMBIGUOUS"
  else do
    let disposition ← associationDisposition candidate (linked.map Prod.snd) (soleStatus linked)
      ("ASSOCIATION_QUERY_EVIDENCE" :: linkReasons linked)
    return (linked.map Prod.snd, disposition)

variable (flowRows : List FlowRow)

/-- Links of entries above the candidate in its file: never more than partial. -/
def legacyLinked (matched : List EntryFact) : Checked Association := do
  let missingFlow := matched.any fun entry => !entryCandidateHasFormalFlow candidate entry flowRows
  let flowReason := if missingFlow then ["FLOW_CODEQL_ROW_MISSING"] else []
  let links ← matched.mapM fun entry =>
    CandidateEntryLink.create candidate.growthId entry.entryId .partialLink
      [candidate.growthId, entry.entryId] ("ASSOCIATION_LEGACY_SOURCE_ORDER_PARTIAL" :: flowReason)
  let disposition ← associationDisposition candidate links
    (if links.length = 1 then .partialLink else .ambiguous)
    ("ASSOCIATION_CALL_GRAPH_UNAVAILABLE" :: flowReason)
  return (links, disposition)

/-- The entries whose handler is nearest above the candidate. -/
def nearestEntries (matched : List EntryFact) : List EntryFact :=
  let nearestLine := (matched.map fun entry => entry.handler.startLine.1).foldl max 0
  matched.filter fun entry => entry.handler.startLine.1 = nearestLine

def associateNearest (matched : List EntryFact) : Checked Association :=
  match matched with
  | [] | [_] => legacyLinked candidate flowRows matched
  | _ =>
    match canonicalMatch candidate (nearestEntries matched) with
    | .ok entry => legacyLinked candidate flowRows [entry]
    | .error (.analyzer error) =>
      if error.code = "ANALYSIS_GROWTH_ENTRY_AMBIGUOUS" then
        unlinked candidate .ambiguous "ASSOCIATION_ENTRY_FANOUT_PARTITION_AMBIGUOUS"
      else .error (.analyzer error)
    | .error raised => .error raised

variable (entries : EntryMap) (associationRows : List FlowRow)

/-- The entries of the candidate's file whose handler does not begin below it. -/
def entriesAbove : List EntryFact :=
  (entries.entries.filter fun entry => entry.handler.file.1 = candidate.site.file.1 &&
    entry.handler.startLine.1 ≤ candidate.site.startLine.1).insertionSort fun left right =>
      left.entryId ≤ right.entryId

def candidateAssociation : Checked Association := do
  let linked ← (rowMatches candidate entries associationRows).mapM (matchLink candidate flowRows)
  if linked ≠ [] then associateLinked candidate (collapse (fun pair => pair.2.linkId) linked)
  else
    match entriesAbove candidate entries with
    | [] => unlinked candidate .missing "ASSOCIATION_ENTRY_COVERAGE_UNPROVEN"
    | matched =>
      if oneValue (matched.map semanticKey) then do
        let canonical ← canonicalMatch candidate matched
        associateNearest candidate flowRows [canonical]
      else associateNearest candidate flowRows matched

end DosWeb.Production
