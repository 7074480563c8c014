import DosWeb.Conclude.Issuance
import DosWeb.Lifecycle.Evidence

/-!
The raw lifecycle rows of the database queries, as their decoder types them, and the
candidates that the lifecycle stage makes of them.
-/

namespace DosWeb.Production

open Identifiers Lifecycle

structure GuardRow where
  anchor : Site
  site : Site
  guardKind : String
  resourceDimension : String
  scope : String
  behavior : String
  dominatesGrowth : Bool
  rejectPathReachesGrowth : Bool
  configurationKey : String
  configurationValue : String
  representation : String
  phase : String
  coversMaterialization : Bool
  authorizationOnly : Bool
  evidence : String
  coverageStatus : Coverage

structure BoundRow where
  anchor : Site
  site : Site
  boundKind : String
  resourceDimension : String
  scope : String
  behavior : String
  receiver : String
  fieldPath : String
  resultChecked : Bool
  configurationKey : String
  configurationValue : String
  phase : String
  coversFlow : Bool
  requestEncoding : String
  queueResource : String
  productBound : Bool
  evidence : String
  coverageStatus : Coverage

structure ReleaseRow where
  anchor : Site
  site : Site
  releaseKind : String
  resourceDimension : String
  scope : String
  receiver : String
  keyIdentity : String
  synchronous : Bool
  normalPath : Bool
  exceptionalPath : Bool
  actualReduction : Bool
  afterGrowth : Bool
  transferOnly : Bool
  asyncKind : String
  evidence : String
  coverageStatus : Coverage

structure CoverageRow where
  anchor : Site
  family : Family
  coverageStatus : Coverage
  coverageNote : String

structure SummaryRow where
  anchor : Site
  family : Family
  candidate : Site
  callsite : Site
  receiver : Site
  argumentIndex : Int
  resourceDimension : String
  scope : String
  configurationKey : String
  configurationValue : String
  representation : String
  phase : String
  coversMaterialization : Bool
  dominatesGrowth : Bool
  rejectPathReachesGrowth : Bool
  evidence : String
  cfgRelation : CfgRelation
  coverageStatus : Coverage
  coverageNote : String

def sitePathValid (path : String) : Bool :=
  path ≠ "" && path.toList.head? ≠ some '/' && !(Entries.pathParts path.toList).contains ['.', '.']

def checkSite (site : Site) : Checked Unit := do
  require (sitePathValid site.1) (lifecycleInvalid "Lifecycle candidate path is invalid.")
  require (0 < site.2) (lifecycleInvalid "Lifecycle candidate line is invalid.")

def guardIdentity (guard : GuardCandidate) : List (String × PlainJson) :=
  [("site_file", .str guard.siteFile), ("site_start_line", .int guard.siteStartLine),
    ("kind", .str guard.kind), ("resource_dimension", .str guard.resourceDimension),
    ("scope", .str guard.scope), ("behavior", .str guard.behavior),
    ("dominates_growth", .bool guard.dominatesGrowth),
    ("reject_path_reaches_growth", .bool guard.rejectPathReachesGrowth),
    ("configuration_key", .str guard.configurationKey),
    ("configuration_value", .str guard.configurationValue),
    ("representation", .str guard.representation), ("phase", .str guard.phase),
    ("covers_materialization", .bool guard.coversMaterialization),
    ("authorization_only", .bool guard.authorizationOnly),
    ("evidence", .arr (guard.evidence.map .str)), ("coverage_status", .str guard.coverageStatus)]

def boundIdentity (bound : BoundCandidate) : List (String × PlainJson) :=
  [("site_file", .str bound.siteFile), ("site_start_line", .int bound.siteStartLine),
    ("kind", .str bound.kind), ("resource_dimension", .str bound.resourceDimension),
    ("scope", .str bound.scope), ("behavior", .str bound.behavior),
    ("receiver", .str bound.receiver), ("field_path", .str bound.fieldPath),
    ("result_checked", .bool bound.resultChecked),
    ("configuration_key", .str bound.configurationKey),
    ("configuration_value", .str bound.configurationValue), ("phase", .str bound.phase),
    ("covers_flow", .bool bound.coversFlow), ("request_encoding", .str bound.requestEncoding),
    ("queue_resource", .str bound.queueResource), ("product_bound", .bool bound.productBound),
    ("evidence", .arr (bound.evidence.map .str)), ("coverage_status", .str bound.coverageStatus)]

def releaseIdentity (release : ReleaseCandidate) : List (String × PlainJson) :=
  [("site_file", .str release.siteFile), ("site_start_line", .int release.siteStartLine),
    ("kind", .str release.kind), ("resource_dimension", .str release.resourceDimension),
    ("scope", .str release.scope), ("receiver", .str release.receiver),
    ("key_identity", .str release.keyIdentity), ("synchronous", .bool release.synchronous),
    ("normal_path", .bool release.normalPath), ("exceptional_path", .bool release.exceptionalPath),
    ("actual_reduction", .bool release.actualReduction),
    ("after_growth", .bool release.afterGrowth), ("transfer_only", .bool release.transferOnly),
    ("async_kind", .str release.asyncKind), ("evidence", .arr (release.evidence.map .str)),
    ("coverage_status", .str release.coverageStatus)]

/-- The guard of the given values, under the identifier of all of them. -/
def createGuard (values : GuardCandidate) : Checked GuardCandidate := do
  checkSite (values.siteFile, values.siteStartLine)
  let evidence ← lifecycleEvidence values.evidence
  let guard := { values with evidence }
  return { guard with guardId := stableIdentifier "guard" (guardIdentity guard) }

def createBound (values : BoundCandidate) : Checked BoundCandidate := do
  checkSite (values.siteFile, values.siteStartLine)
  let evidence ← lifecycleEvidence values.evidence
  let bound := { values with evidence }
  return { bound with boundId := stableIdentifier "bound" (boundIdentity bound) }

def createRelease (values : ReleaseCandidate) : Checked ReleaseCandidate := do
  checkSite (values.siteFile, values.siteStartLine)
  let evidence ← lifecycleEvidence values.evidence
  let release := { values with evidence }
  return { release with releaseId := stableIdentifier "release" (releaseIdentity release) }

def GuardRow.values (row : GuardRow) : GuardCandidate where
  guardId := ""
  siteFile := row.site.1
  siteStartLine := row.site.2
  kind := row.guardKind
  resourceDimension := row.resourceDimension
  scope := row.scope
  behavior := row.behavior
  dominatesGrowth := row.dominatesGrowth
  rejectPathReachesGrowth := row.rejectPathReachesGrowth
  configurationKey := row.configurationKey
  configurationValue := row.configurationValue
  representation := row.representation
  phase := row.phase
  coversMaterialization := row.coversMaterialization
  authorizationOnly := row.authorizationOnly
  evidence := [row.evidence]
  coverageStatus := row.coverageStatus.text

def BoundRow.values (row : BoundRow) : BoundCandidate where
  boundId := ""
  siteFile := row.site.1
  siteStartLine := row.site.2
  kind := row.boundKind
  resourceDimension := row.resourceDimension
  scope := row.scope
  behavior := row.behavior
  receiver := row.receiver
  fieldPath := row.fieldPath
  resultChecked := row.resultChecked
  configurationKey := row.configurationKey
  configurationValue := row.configurationValue
  phase := row.phase
  coversFlow := row.coversFlow
  requestEncoding := row.requestEncoding
  queueResource := row.queueResource
  productBound := row.productBound
  evidence := [row.evidence]
  coverageStatus := row.coverageStatus.text

def ReleaseRow.values (row : ReleaseRow) : ReleaseCandidate where
  releaseId := ""
  siteFile := row.site.1
  siteStartLine := row.site.2
  kind := row.releaseKind
  resourceDimension := row.resourceDimension
  scope := row.scope
  receiver := row.receiver
  keyIdentity := row.keyIdentity
  synchronous := row.synchronous
  normalPath := row.normalPath
  exceptionalPath := row.exceptionalPath
  actualReduction := row.actualReduction
  afterGrowth := row.afterGrowth
  transferOnly := row.transferOnly
  asyncKind := row.asyncKind
  evidence := [row.evidence]
  coverageStatus := row.coverageStatus.text

/-- A guard that rejects one wrapper away from the growth. -/
def SummaryRow.wrapper (row : SummaryRow) : GuardCandidate where
  guardId := ""
  siteFile := row.candidate.1
  siteStartLine := row.candidate.2
  kind := "input_validation"
  resourceDimension := row.resourceDimension
  scope := row.scope
  behavior := "reject"
  dominatesGrowth := row.dominatesGrowth
  rejectPathReachesGrowth := row.rejectPathReachesGrowth
  configurationKey := row.configurationKey
  configurationValue := row.configurationValue
  representation := row.representation
  phase := row.phase
  coversMaterialization := row.coversMaterialization
  authorizationOnly := false
  evidence := [row.evidence]
  coverageStatus := "complete"

/-- The candidates of a family with the sites of growth that each is anchored at. -/
structure Screened (α : Type) where
  candidates : List α
  anchors : List (String × Site)

/-- A later candidate takes the place of an earlier one with its identifier; the candidates
stand in the order of their identifiers. -/
def keptByIdentifier {α : Type} (identifier : α → String) (candidates : List α) : List α :=
  (candidates.foldl (fun kept candidate =>
    (kept.filter fun other => identifier other ≠ identifier candidate) ++ [candidate]) [])
    |>.insertionSort fun left right => identifier left ≤ identifier right

def createAll {ρ α : Type} (create : ρ → Checked α) : List ρ → Checked (List (ρ × α))
  | [] => .ok []
  | row :: rows => do
      let candidate ← create row
      let candidates ← createAll create rows
      return (row, candidate) :: candidates

def screen {ρ α : Type} (create : ρ → Checked α) (anchor : ρ → Site) (identifier : α → String)
    (rows : List ρ) : Checked (Screened α) := do
  let created ← createAll create rows
  return ⟨keptByIdentifier identifier (created.map Prod.snd),
    created.map fun item => (identifier item.2, anchor item.1)⟩

structure LifecycleRows where
  guards : List GuardRow
  bounds : List BoundRow
  releases : List ReleaseRow
  coverage : List CoverageRow
  summaries : List SummaryRow

def screenGuards (rows : LifecycleRows) : Checked (Screened GuardCandidate) :=
  screen (fun row => createGuard row.values) GuardRow.anchor GuardCandidate.guardId rows.guards

def screenBounds (rows : LifecycleRows) : Checked (Screened BoundCandidate) :=
  screen (fun row => createBound row.values) BoundRow.anchor BoundCandidate.boundId rows.bounds

def screenReleases (rows : LifecycleRows) : Checked (Screened ReleaseCandidate) :=
  screen (fun row => createRelease row.values) ReleaseRow.anchor ReleaseCandidate.releaseId
    rows.releases

end DosWeb.Production
