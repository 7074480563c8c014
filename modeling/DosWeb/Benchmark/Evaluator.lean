import DosWeb.Benchmark.Records
import DosWeb.Library.Owners
import Mathlib.Data.Prod.Lex

/-!
The open-discovery evaluation: what a scan found, classified after the seeds that are already
known are subtracted.
-/

namespace DosWeb.Benchmark

open Library.JsonRecord Library.JsonValue Library.OrderedSet

variable {F : Type}

/-- Each identifier, under the key it stands at, and the repository that claimed it. -/
abbrev Owners := List ((String × String) × String)

def claimAnalysisId (owners : Owners) (key : String) (value : Json F) (scope : String) :
    Checked (String × Owners) :=
  match filledText value with
  | none => .error (invalid s!"{key} is missing or invalid")
  | some text =>
    match Library.Owners.claim owners (key, text) scope with
    | some later => .ok (text, later)
    | none => .error (invalid s!"{key} has cross-repository ID reuse")

structure Entry (F : Type) where
  scope : String
  id : String
  record : Members F

def Entry.identity (entry : Entry F) : String × String := (entry.scope, entry.id)

def find (index : List (Entry F)) (scope id : String) : Option (Entry F) :=
  index.find? fun entry => entry.identity = (scope, id)

def indexRecord (key : String) (state : List (Entry F) × Owners) :
    Json F → Checked (List (Entry F) × Owners)
  | .obj record => do
      let scope ← recordScope record
      let (value, owners) ← claimAnalysisId state.2 key (get record key) scope
      require (find state.1 scope value).isNone (invalid s!"{key} is duplicated")
      return (state.1 ++ [⟨scope, value, record⟩], owners)
  | _ => .error (invalid "record must be a JSON object")

def recordIndex (records : List (Json F)) (key : String) (owners : Owners) :
    Checked (List (Entry F) × Owners) := records.foldlM (indexRecord key) ([], owners)

def checkProof (owners : Owners) (proof : Entry F) : Checked Owners := do
  let (_, owners) ← claimAnalysisId owners "growth_id" (get proof.record "growth_id") proof.scope
  require (named negativeProofKinds NegativeProofKind.text (get proof.record "kind")).isSome
    (invalid "negative proof kind is invalid")
  return owners

def statusOf (disposition : Members F) : Option DispositionStatus :=
  named discoveryDispositionStatuses DispositionStatus.text (get disposition "status")

def verdictOf (finding : Members F) : Option StaticVerdict :=
  named staticVerdicts StaticVerdict.text (get finding "verdict")

def checkReference (proofById : List (Entry F)) (scope growthId proofId : String) : Checked Unit :=
  match find proofById scope proofId with
  | none => .error (invalid "rejected disposition references a missing negative proof")
  | some proof =>
    require (isText growthId (get proof.record "growth_id"))
      (invalid "negative proof Growth ownership is inconsistent")

def checkReferences (proofById : List (Entry F)) (scope growthId : String)
    (status : DispositionStatus) (proofIds : List String) : Checked Unit :=
  if status = .rejected then do
    require (proofIds ≠ []) (invalid "rejected disposition requires a negative proof")
    proofIds.forM (checkReference proofById scope growthId)
  else
    require (proofIds = []) (invalid "non-rejected disposition carries a negative proof")

def placeDisposition (proofById : List (Entry F)) (state : List (Entry F) × Owners)
    (disposition : Entry F) : Checked (List (Entry F) × Owners) := do
  match statusOf disposition.record with
  | none => .error (invalid "disposition status is invalid")
  | some status =>
    let proofIds ← strictIdList disposition.record "negative_proof_ids" true
    let (growthId, owners) ← claimAnalysisId state.2 "growth_id"
      (get disposition.record "growth_id") disposition.scope
    require (find state.1 disposition.scope growthId).isNone
      (invalid "growth disposition is missing or duplicated")
    checkReferences proofById disposition.scope growthId status proofIds
    return (state.1 ++ [⟨disposition.scope, growthId, disposition.record⟩], owners)

def proofIdsOf (disposition : Members F) : List String :=
  match strictIdList disposition "negative_proof_ids" true with
  | .ok values => values
  | .error _ => []

def references (disposition : Entry F) : List (String × String) :=
  if statusOf disposition.record = some .rejected then
    (proofIdsOf disposition.record).map fun proofId => (disposition.scope, proofId)
  else []

def checkReferenced (dispositionsByGrowth : List (Entry F)) (proof : Entry F) : Checked Unit :=
  require ((dispositionsByGrowth.flatMap references).count proof.identity = 1)
    (invalid ("negative proof must be referenced exactly once by its same-Growth rejected " ++
      "disposition"))

def checkFinding (dispositionsByGrowth : List (Entry F)) (owners : Owners) (finding : Entry F) :
    Checked Owners := do
  let (growthId, owners) ← claimAnalysisId owners "growth_id" (get finding.record "growth_id")
    finding.scope
  match verdictOf finding.record with
  | none => .error (invalid "finding static verdict is invalid")
  | some verdict =>
    match find dispositionsByGrowth finding.scope growthId with
    | none => .error (invalid "finding growth disposition is missing")
    | some disposition => do
        let status := statusOf disposition.record
        require (status = some .formalEligible ∨ status = some .gapEligible)
          (invalid "finding may bind only a formal or gap disposition")
        require (status = some .gapEligible → verdict = .staticUnknown)
          (invalid "gap disposition may emit only static_unknown")
        return owners

def textOf : Json F → String
  | .str text => text
  | _ => ""

def growthIdOf (finding : Entry F) : String := textOf (get finding.record "growth_id")

def within (left right : List String) : Bool := left.all fun value => value ∈ right

def checkCarrier (findingById : List (Entry F)) (scope : String) (carrier : Carrier) :
    Checked Unit :=
  let mapped := (carrier.findingIds.filterMap (find findingById scope)).map growthIdOf
  require (carrier.findingIds = [] ∨ carrier.growthIds = [] ∨ within mapped carrier.growthIds)
    (invalid s!"seed {carrier.name} carrier has a conflicting finding/Growth chain")

/-- Sets of which one holds the other, or one is empty. -/
def comparable (left right : List String) : Bool :=
  left = [] || right = [] || within left right || within right left

def checkPair (left right : Carrier) : Checked Unit :=
  require (comparable left.findingIds right.findingIds && comparable left.growthIds right.growthIds)
    (invalid s!"seed {left.name}/{right.name} carriers conflict")

def checkPairs : List Carrier → Checked Unit
  | [] => .ok ()
  | left :: rest => do
      rest.forM (checkPair left)
      checkPairs rest

def sharesDimension (left right : Carrier) : Bool :=
  (left.findingIds ≠ [] && right.findingIds ≠ []) || (left.growthIds ≠ [] && right.growthIds ≠ [])

def adjacent (carriers : List Carrier) (index other : Nat) : Bool :=
  match carriers[index]?, carriers[other]? with
  | some left, some right => index ≠ other && sharesDimension left right
  | _, _ => false

def unreached (count : Nat) (reachable : List Nat) : List Nat :=
  (List.range count).filter fun node => node ∉ reachable

theorem unreached_fewer (count : Nat) (reachable fresh : List Nat)
    (within : ∀ node ∈ fresh, node ∈ unreached count reachable) (filled : fresh ≠ []) :
    (unreached count (reachable ++ fresh)).length < (unreached count reachable).length := by
  obtain ⟨node, member⟩ := List.exists_mem_of_ne_nil fresh filled
  have narrower : unreached count (reachable ++ fresh) =
      (unreached count reachable).filter fun other => other ∉ fresh := by
    rw [unreached, unreached, List.filter_filter]
    apply List.filter_congr
    intro other _
    simp [Bool.and_comm]
  rw [narrower]
  apply List.length_filter_lt_length_iff_exists.mpr
  exact ⟨node, within node member, by simp [member]⟩

/-- Follows the edges from the pending nodes to the nodes that are not reached yet. -/
def spread (carriers : List Carrier) (reachable : List Nat) : List Nat → List Nat
  | [] => reachable
  | current :: pending =>
    let fresh := (unreached carriers.length reachable).filter (adjacent carriers current)
    spread carriers (reachable ++ fresh) (fresh.reverse ++ pending)
  termination_by pending => ((unreached carriers.length reachable).length, pending.length)
  decreasing_by
    rcases eq_or_ne ((unreached carriers.length reachable).filter (adjacent carriers current)) []
      with empty | filled
    · rw [empty, List.append_nil]
      apply Prod.Lex.right
      simp
    · apply Prod.Lex.left
      apply unreached_fewer _ _ _ _ filled
      intro node member
      exact List.mem_of_mem_filter member

def validateSeedCarriers (carriers : List Carrier) (scope : String)
    (findingById : List (Entry F)) : Checked Unit := do
  carriers.forM (checkCarrier findingById scope)
  checkPairs carriers
  require (carriers.length ≤ 1 ∨ (spread carriers [0] [0]).length = carriers.length)
    (invalid "seed equivalent carriers are disconnected")

structure Seed where
  scope : String
  seedId : String
  status : SeedStatus
  findingIds : List String
  growthIds : List String
  deriving DecidableEq

def Seed.identity (seed : Seed) : String × String := (seed.scope, seed.seedId)

def claimAll (key scope : String) (owners : Owners) (values : List String) : Checked Owners :=
  values.foldlM (fun owners value => do
    let (_, owners) ← claimAnalysisId owners key (.str value : Json Empty) scope
    return owners) owners

def acceptSeed (findingById : List (Entry F)) (state : List Seed × Owners) :
    Json F → Checked (List Seed × Owners)
  | .obj record => do
      let scope ← recordScope record
      let seedId ← seedIdentity record
      require (state.1.all fun seed => seed.identity ≠ (scope, seedId))
        (invalid "scoped seed identity is duplicated")
      match named seedStatuses SeedStatus.text (get record "status") with
      | none => .error (invalid "seed status is invalid")
      | some status =>
        let carriers ← seedIdCarriers record
        validateSeedCarriers carriers scope findingById
        let findingIds := (carriers.flatMap Carrier.findingIds).dedup
        let growthIds := (carriers.flatMap Carrier.growthIds).dedup
        require (status.links ∨ (findingIds = [] ∧ growthIds = []))
          (invalid "non-linking seed status carries stale concrete IDs")
        let owners ← claimAll "finding_id" scope state.2 findingIds
        let owners ← claimAll "growth_id" scope owners growthIds
        let known := findingIds.filterMap (find findingById scope)
        require ((ordinaryMatchedVerdict status).all fun expected =>
            known.all fun finding => isText expected.text (get finding.record "verdict"))
          (invalid "ordinary matched seed status conflicts with its finding verdict")
        require (findingIds = [] ∨ growthIds = [] ∨ within (known.map growthIdOf) growthIds)
          (invalid "seed finding and Growth IDs must bind the same analysis chain")
        return (state.1 ++ [⟨scope, seedId, status, findingIds, growthIds⟩], owners)
  | _ => .error (invalid "seed record must be a JSON object")

/-- The seeds that are linked to an indexed record: those of its repository that name it. -/
def linking (seeds : List Seed) (ids : Seed → List String) (index : List (Entry F))
    (scope id : String) : List String :=
  if (find index scope id).isSome then
    (seeds.filter fun seed => seed.status.links && seed.scope = scope && id ∈ ids seed).map
      Seed.seedId
  else []

inductive DiscoveryClass where
  | seedLinkedStaticVulnerable
  | novelStaticVulnerable
  | novelBounded
  | sourceProvenNegative
  | unresolvedDiscovery
  deriving DecidableEq

def openDiscoveryClasses : List DiscoveryClass := [
  .seedLinkedStaticVulnerable, .novelStaticVulnerable, .novelBounded, .sourceProvenNegative,
  .unresolvedDiscovery]

structure Row where
  discoveryId : String
  target : Option String
  findingId : Option String
  growthId : Option String
  dispositionId : Option String
  staticVerdict : Option StaticVerdict
  dispositionStatus : Option DispositionStatus
  negativeProofIds : List String
  seedIds : List String
  classification : DiscoveryClass
  recallMiss : Bool
  seedStatus : Option SeedStatus
  deriving DecidableEq

def scopedId (scope localId : String) : String :=
  if scope ≠ "" then scope ++ "::" ++ localId else localId

def classify (status : Option DispositionStatus) (verdict : Option StaticVerdict)
    (seedIds : List String) : DiscoveryClass :=
  if status = some .rejected then .sourceProvenNegative
  else if status = some .inventoryUnresolved then .unresolvedDiscovery
  else if verdict = some .staticVulnerable then
    if seedIds ≠ [] then .seedLinkedStaticVulnerable else .novelStaticVulnerable
  else if verdict = some .boundedUnderModeledAssumptions ∧ seedIds = [] then .novelBounded
  else .unresolvedDiscovery

/-- A missing identifier counts under the name that Python gives the missing value. -/
def orNone (text : Option String) : String := text.getD "None"

def makeRow (findingById dispositionsByGrowth : List (Entry F)) (seeds : List Seed)
    (localId scope growthId : String) (finding disposition : Option (Entry F)) : Row :=
  let seedIds := sortedSet
    (linking seeds Seed.findingIds findingById scope (orNone (finding.map Entry.id)) ++
      linking seeds Seed.growthIds dispositionsByGrowth scope growthId)
  let status := disposition.bind fun entry => statusOf entry.record
  let verdict := finding.bind fun entry => verdictOf entry.record
  { discoveryId := scopedId scope localId
    target := if scope ≠ "" then some scope else none
    findingId := finding.map Entry.id
    growthId := some growthId
    dispositionId := disposition.map fun entry => textOf (get entry.record "disposition_id")
    staticVerdict := verdict
    dispositionStatus := status
    negativeProofIds := disposition.elim [] fun entry => proofIdsOf entry.record
    seedIds
    classification := classify status verdict seedIds
    recallMiss := false
    seedStatus := none }

def findingRow (findingById dispositionsByGrowth : List (Entry F)) (seeds : List Seed)
    (finding : Entry F) : Row :=
  makeRow findingById dispositionsByGrowth seeds finding.id finding.scope (growthIdOf finding)
    (some finding) (find dispositionsByGrowth finding.scope (growthIdOf finding))

def dispositionRow (findingById dispositionsByGrowth : List (Entry F)) (seeds : List Seed)
    (disposition : Entry F) : Row :=
  makeRow findingById dispositionsByGrowth seeds (textOf (get disposition.record "disposition_id"))
    disposition.scope disposition.id none (some disposition)

/-- Whether some finding is of the growth that a disposition is about. -/
def hasFinding (findings : List (Entry F)) (disposition : Entry F) : Bool :=
  findings.any fun finding => (finding.scope, growthIdOf finding) = disposition.identity

def missRow (seed : Seed) : Row where
  discoveryId := seed.scope ++ "::seed::" ++ seed.seedId
  target := some seed.scope
  findingId := none
  growthId := none
  dispositionId := none
  staticVerdict := none
  dispositionStatus := none
  negativeProofIds := []
  seedIds := [seed.seedId]
  classification := .unresolvedDiscovery
  recallMiss := true
  seedStatus := some seed.status

def linkedIn (rows : List Row) (seed : Seed) : Bool :=
  rows.any fun row => orNone row.target = seed.scope && seed.seedId ∈ row.seedIds

def inventoryRows (findings dispositionsByGrowth : List (Entry F)) (seeds : List Seed) : List Row :=
  findings.map (findingRow findings dispositionsByGrowth seeds) ++
    (dispositionsByGrowth.filter fun disposition => !hasFinding findings disposition).map
      (dispositionRow findings dispositionsByGrowth seeds)

def allRows (findings dispositionsByGrowth : List (Entry F)) (seeds : List Seed) : List Row :=
  let rows := inventoryRows findings dispositionsByGrowth seeds
  rows ++ (seeds.filter fun seed => !linkedIn rows seed).map missRow

def Row.key (row : Row) : String ×ₗ String := toLex (orNone row.target, row.discoveryId)

structure OpenDiscovery where
  schemaVersion : Nat
  discoveries : List Row
  categoryCounts : List (DiscoveryClass × Nat)
  deriving DecidableEq

def discovered (rows : List Row) : OpenDiscovery where
  schemaVersion := 1
  discoveries := rows.insertionSort fun left right => left.key ≤ right.key
  categoryCounts := openDiscoveryClasses.map fun category =>
    (category, rows.countP fun row => row.classification = category)

/-- Classifies what a scan found after the known seeds are subtracted. -/
def evaluateOpenDiscovery (findings dispositions negativeProofs seedMatches : List (Json F)) :
    Checked OpenDiscovery := do
  let (findingById, owners) ← recordIndex findings "finding_id" []
  let (dispositionById, owners) ← recordIndex dispositions "disposition_id" owners
  let (proofById, owners) ← recordIndex negativeProofs "negative_proof_id" owners
  let owners ← proofById.foldlM checkProof owners
  let (dispositionsByGrowth, owners) ←
    dispositionById.foldlM (placeDisposition proofById) ([], owners)
  proofById.forM (checkReferenced dispositionsByGrowth)
  let owners ← findingById.foldlM (checkFinding dispositionsByGrowth) owners
  let (seeds, _) ← seedMatches.foldlM (acceptSeed findingById) ([], owners)
  return discovered (allRows findingById dispositionsByGrowth seeds)

end DosWeb.Benchmark
