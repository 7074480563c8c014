import DosWeb.Errors
import DosWeb.Library.JsonRecord
import DosWeb.Library.Text

/-!
What the open-discovery evaluation reads of one record: the repository it belongs to, lists of
identifiers, and the three places where a seed may name findings and growths.
-/

namespace DosWeb.Benchmark

open Library.JsonRecord Library.JsonValue Library.OrderedSet

variable {F : Type}

def invalid (message : String) : Raised := .valueError ("open discovery " ++ message)

def repositoryChar (c : Char) : Bool := c.isAlphanum || c = '_' || c = '.' || c = '-'

def slashPair : List Char → List Char
  | '_' :: '_' :: rest => '/' :: rest
  | c :: rest => c :: slashPair rest
  | [] => []

def normalizeRepo : Json F → Option String
  | .str value =>
    let slashed := (Library.Text.strip value.toList).map fun c => if c = '\\' then '/' else c
    let normalized := if '/' ∈ slashed then slashed else slashPair slashed
    match Library.Text.partition '/' normalized with
    | some (owner, repository) =>
      if owner ≠ [] ∧ repository ≠ [] ∧ owner.all repositoryChar ∧
          repository.all repositoryChar then
        some (String.ofList (owner.map Char.toLower ++ '/' :: repository.map Char.toLower))
      else none
    | none => none
  | _ => none

def repositoryScopeAliases : List String := ["batch_target_name", "repository"]

def normalizedAlias (labelled : String × Json F) : Checked String :=
  match normalizeRepo labelled.2 with
  | some scope => .ok scope
  | none => .error (invalid s!"repository scope alias {labelled.1} is invalid")

def recordScope (record : Members F) : Checked String := do
  let aliases := repositoryScopeAliases.filterMap fun key =>
    (present record key).map fun value => (key, value)
  require (aliases ≠ []) (invalid "repository scope is missing")
  let normalized ← aliases.mapM normalizedAlias
  match onlyElement normalized with
  | some scope => .ok scope
  | none => .error (invalid "repository scope aliases conflict")

def strictIdList (record : Members F) (key : String) (required : Bool) : Checked (List String) :=
  match present record key with
  | none => do
      require (!required) (invalid s!"{key} must be a JSON list")
      return []
  | some (.arr items) =>
    match items.mapM filledText with
    | some values => do
        require values.Nodup (invalid s!"{key} must be a JSON list of unique non-empty strings")
        return values
    | none => .error (invalid s!"{key} must be a JSON list of unique non-empty strings")
  | some _ => .error (invalid s!"{key} must be a JSON list of unique non-empty strings")

/-- The identifier in a nested record, if there is one. -/
def optionalNestedId (record : Members F) (containerKey key : String) : Checked (List String) :=
  match get record containerKey with
  | .null => .ok []
  | .obj container =>
    match get container key with
    | .null => .ok []
    | value =>
      match filledText value with
      | some text => .ok [text]
      | none => .error (invalid s!"seed {containerKey}.{key} is malformed")
  | _ => .error (invalid s!"seed {containerKey} is malformed")

def candidateNestedId (record : Members F) (containerKey key : String) : Checked (List String) :=
  match get record "candidate" with
  | .null => .ok []
  | .obj candidate => optionalNestedId candidate containerKey key
  | _ => .error (invalid "seed candidate is malformed")

def seedIdentityKeys : List String := ["record_id", "case_id", "truth_id"]

def seedIdentity (record : Members F) : Checked String :=
  match seedIdentityKeys.find? fun key => (present record key).isSome with
  | some key =>
    match filledText (get record key) with
    | some text => .ok text
    | none => .error (invalid s!"seed {key} identity is invalid")
  | none => .error (invalid "seed identity is invalid")

/-- One of the places where a seed names findings and growths. -/
structure Carrier where
  name : String
  findingIds : List String
  growthIds : List String
  deriving DecidableEq

def Carrier.filled (carrier : Carrier) : Bool := carrier.findingIds ≠ [] || carrier.growthIds ≠ []

def seedIdCarriers (record : Members F) : Checked (List Carrier) := do
  let matchedFindings ← strictIdList record "matched_finding_ids" false
  let matchedGrowths ← strictIdList record "matched_growth_ids" false
  let chainFinding ← optionalNestedId record "chain" "finding_id"
  let chainGrowth ← optionalNestedId record "chain" "growth_id"
  let candidateFinding ← candidateNestedId record "finding" "finding_id"
  let candidateGrowth ← candidateNestedId record "growth" "growth_id"
  let carriers : List Carrier := [⟨"matched_ids", matchedFindings, matchedGrowths⟩,
    ⟨"chain", chainFinding, chainGrowth⟩, ⟨"candidate", candidateFinding, candidateGrowth⟩]
  return carriers.filter Carrier.filled

inductive DispositionStatus where
  | formalEligible
  | gapEligible
  | rejected
  | inventoryUnresolved
  deriving DecidableEq

def DispositionStatus.text : DispositionStatus → String
  | .formalEligible => "formal_eligible"
  | .gapEligible => "gap_eligible"
  | .rejected => "rejected"
  | .inventoryUnresolved => "inventory_unresolved"

def discoveryDispositionStatuses : List DispositionStatus :=
  [.formalEligible, .gapEligible, .rejected, .inventoryUnresolved]

inductive StaticVerdict where
  | staticVulnerable
  | boundedUnderModeledAssumptions
  | staticUnknown
  deriving DecidableEq

def StaticVerdict.text : StaticVerdict → String
  | .staticVulnerable => "static_vulnerable"
  | .boundedUnderModeledAssumptions => "bounded_under_modeled_assumptions"
  | .staticUnknown => "static_unknown"

def staticVerdicts : List StaticVerdict :=
  [.staticVulnerable, .boundedUnderModeledAssumptions, .staticUnknown]

inductive NegativeProofKind where
  | serverControlledSource
  | nonRetainedOwner
  | finiteKeyspace
  | generatedOrTestOnly
  | guaranteedSynchronousCleanup
  | effectiveLocalBound
  | falseEntryGrowthFlow
  | notEntryReachable
  deriving DecidableEq

def NegativeProofKind.text : NegativeProofKind → String
  | .serverControlledSource => "server_controlled_source"
  | .nonRetainedOwner => "non_retained_owner"
  | .finiteKeyspace => "finite_keyspace"
  | .generatedOrTestOnly => "generated_or_test_only"
  | .guaranteedSynchronousCleanup => "guaranteed_synchronous_cleanup"
  | .effectiveLocalBound => "effective_local_bound"
  | .falseEntryGrowthFlow => "false_entry_growth_flow"
  | .notEntryReachable => "not_entry_reachable"

def negativeProofKinds : List NegativeProofKind := [
  .serverControlledSource, .nonRetainedOwner, .finiteKeyspace, .generatedOrTestOnly,
  .guaranteedSynchronousCleanup, .effectiveLocalBound, .falseEntryGrowthFlow, .notEntryReachable]

inductive SeedStatus where
  | hit
  | matchedStaticUnknown
  | matchedBounded
  | noCandidate
  | targetNotRun
  | artifactMissing
  | truthInvalid
  | entryHit
  | entryAmbiguous
  | noEntryMatch
  | stageFailed
  | entryOnly
  | assetMissing
  | unsupportedScope
  | ambiguous
  | fullChainFinding
  | entryAndGrowthLinked
  | growthOnly
  | associationMissing
  | flowPartial
  | lifecycleUnknown
  | ambiguousTruthMatch
  deriving DecidableEq

def SeedStatus.text : SeedStatus → String
  | .hit => "hit"
  | .matchedStaticUnknown => "matched_static_unknown"
  | .matchedBounded => "matched_bounded"
  | .noCandidate => "no_candidate"
  | .targetNotRun => "target_not_run"
  | .artifactMissing => "artifact_missing"
  | .truthInvalid => "truth_invalid"
  | .entryHit => "entry_hit"
  | .entryAmbiguous => "entry_ambiguous"
  | .noEntryMatch => "no_entry_match"
  | .stageFailed => "stage_failed"
  | .entryOnly => "entry_only"
  | .assetMissing => "asset_missing"
  | .unsupportedScope => "unsupported_scope"
  | .ambiguous => "ambiguous"
  | .fullChainFinding => "full_chain_finding"
  | .entryAndGrowthLinked => "entry_and_growth_linked"
  | .growthOnly => "growth_only"
  | .associationMissing => "association_missing"
  | .flowPartial => "flow_partial"
  | .lifecycleUnknown => "lifecycle_unknown"
  | .ambiguousTruthMatch => "ambiguous_truth_match"

/-- The statuses of a seed that was linked to nothing. -/
def nonLinkingSeedStatuses : List SeedStatus := [
  .noCandidate, .targetNotRun, .artifactMissing, .truthInvalid, .entryHit, .entryAmbiguous,
  .noEntryMatch, .stageFailed, .entryOnly, .assetMissing, .unsupportedScope]

def matchedStatuses : List SeedStatus := [.hit, .matchedStaticUnknown, .matchedBounded]

def seedStatuses : List SeedStatus :=
  matchedStatuses ++ nonLinkingSeedStatuses ++ [.ambiguous, .fullChainFinding,
    .entryAndGrowthLinked, .growthOnly, .associationMissing, .flowPartial, .lifecycleUnknown,
    .ambiguousTruthMatch]

def SeedStatus.links (status : SeedStatus) : Bool := status ∉ nonLinkingSeedStatuses

def ordinaryMatchedVerdict : SeedStatus → Option StaticVerdict
  | .hit => some .staticVulnerable
  | .matchedStaticUnknown => some .staticUnknown
  | .matchedBounded => some .boundedUnderModeledAssumptions
  | _ => none

end DosWeb.Benchmark
