import DosWeb.Decoding
import DosWeb.Library.Grouping
import DosWeb.Lifecycle.Certificates
import DosWeb.Reachability.Models

/-!
Families of findings: what a report puts together, and how urgent it is.
-/

namespace DosWeb.Report

open Library Library.JsonRecord Library.OrderedSet Library.Grouping Identifiers
open Library.JsonValue (Members)
open Entries (EntryFact Framework Protocol HandlerFact RegistrationFact AuthContext)
open Conclude (StaticVerdictName)
open Lifecycle (StaticFinding LifecycleCertificate texts)
open Reachability (ReachabilityDecision ReachabilityStatus DeploymentStatus)

inductive FindingPriority where
  | p0
  | p1
  | p2
  | inventory
  deriving DecidableEq

def FindingPriority.text : FindingPriority → String
  | .p0 => "P0"
  | .p1 => "P1"
  | .p2 => "P2"
  | .inventory => "inventory"

def FindingPriority.rank : FindingPriority → Nat
  | .p0 => 0
  | .p1 => 1
  | .p2 => 2
  | .inventory => 3

inductive AmplificationClass where
  | superlinear
  | largeSingleRequest
  | concurrentRetention
  | queueInstability
  | highCardinalityRetention
  | lowAmplification
  | unknown
  deriving DecidableEq

def AmplificationClass.text : AmplificationClass → String
  | .superlinear => "superlinear"
  | .largeSingleRequest => "large_single_request"
  | .concurrentRetention => "concurrent_retention"
  | .queueInstability => "queue_instability"
  | .highCardinalityRetention => "high_cardinality_retention"
  | .lowAmplification => "low_amplification"
  | .unknown => "unknown"

def amplificationRank : AmplificationClass → Int
  | .superlinear => 6
  | .largeSingleRequest => 5
  | .queueInstability => 4
  | .concurrentRetention => 3
  | .highCardinalityRetention => 2
  | .lowAmplification => 1
  | .unknown => 0

def verdictNames : List StaticVerdictName :=
  [.staticVulnerable, .boundedUnderModeledAssumptions, .staticUnknown]

def priorities : List FindingPriority := [.p0, .p1, .p2, .inventory]

def reachabilityStatuses : List ReachabilityStatus :=
  [.ordinaryAttackerReachable, .notEntryReachable, .unknown]

def amplifications : List AmplificationClass :=
  [.superlinear, .largeSingleRequest, .concurrentRetention, .queueInstability,
    .highCardinalityRetention, .lowAmplification, .unknown]

def familyInvalid (message : String) : Raised :=
  .analyzer ⟨"ANALYSIS_FINDING_FAMILY_INVALID", message, []⟩

def orderedTexts (field : String) (values : List String) : Checked TextSet :=
  if ordered : values.Pairwise (· < ·) ∧ "" ∉ values then .ok ⟨values, ordered.1, ordered.2⟩
  else .error (familyInvalid ("Finding family " ++ field ++ " is malformed."))

abbrev FilledTexts := { texts : TextSet // texts.values ≠ [] }

def filledTexts (field : String) (values : List String) : Checked FilledTexts := do
  let ordered ← orderedTexts field values
  if filled : ordered.values ≠ [] then return ⟨ordered, filled⟩
  else .error (familyInvalid ("Finding family " ++ field ++ " is malformed."))

/-- The public record of a family, without its identifier. -/
structure FamilyParts where
  verdict : StaticVerdictName
  priority : FindingPriority
  primaryFindingId : String
  memberFindingIds : FilledTexts
  memberCertificateIds : FilledTexts
  entryIds : FilledTexts
  growthIds : FilledTexts
  resourceId : String
  reachabilityStatus : ReachabilityStatus
  amplificationClass : AmplificationClass
  reasonCodes : TextSet

def FamilyParts.semanticIdentity (parts : FamilyParts) : Members Empty :=
  [("verdict", .str parts.verdict.text), ("priority", .str parts.priority.text),
    ("primary_finding_id", .str parts.primaryFindingId),
    ("member_finding_ids", texts parts.memberFindingIds.1.values),
    ("member_certificate_ids", texts parts.memberCertificateIds.1.values),
    ("entry_ids", texts parts.entryIds.1.values), ("growth_ids", texts parts.growthIds.1.values),
    ("resource_id", .str parts.resourceId),
    ("reachability_status", .str parts.reachabilityStatus.text),
    ("amplification_class", .str parts.amplificationClass.text),
    ("reason_codes", texts parts.reasonCodes.values)]

structure FindingFamily where
  familyId : String
  parts : FamilyParts
  primaryMember : parts.primaryFindingId ∈ parts.memberFindingIds.1.values
  resourceStarts : Text.startsWith parts.resourceId "resource:" = true
  idCanonical : familyId = stableIdentifier "family" parts.semanticIdentity

/-- The last checks of the constructor, on collections that have passed theirs. -/
def FindingFamily.create (familyId : String) (parts : FamilyParts) : Checked FindingFamily :=
  if primaryMember : parts.primaryFindingId ∈ parts.memberFindingIds.1.values then
    if resourceStarts : Text.startsWith parts.resourceId "resource:" = true then
      if idCanonical : familyId = stableIdentifier "family" parts.semanticIdentity then
        .ok ⟨familyId, parts, primaryMember, resourceStarts, idCanonical⟩
      else .error (familyInvalid "Finding family identifier is not canonical.")
    else .error (familyInvalid "Finding family resource identifier is malformed.")
  else .error (familyInvalid "Finding family primary finding is not a member.")

def FindingFamily.toDict (family : FindingFamily) : Members Empty :=
  ("family_id", .str family.familyId) :: family.parts.semanticIdentity

def familyFields : List String := [
  "amplification_class", "entry_ids", "family_id", "growth_ids", "member_certificate_ids",
  "member_finding_ids", "primary_finding_id", "priority", "reachability_status", "reason_codes",
  "resource_id", "verdict"]

def familyCollections : List String := [
  "member_finding_ids", "member_certificate_ids", "entry_ids", "growth_ids", "reason_codes"]

def decodeTexts {α : Type} (read : String → List String → Checked α) (record : Members Empty)
    (field : String) : Decoded α :=
  match (arrayOf (JsonRecord.get record field)).bind fun items => items.mapM plainText with
  | some values => lifted (read field values)
  | none => .error (.raised (familyInvalid ("Finding family " ++ field ++ " is malformed.")))

def FindingFamily.fromDict (record : Members Empty) : Decoded FindingFamily := do
  let malformed (message : String) : Fault := .raised (familyInvalid message)
  insist (fieldSet record = familyFields) (malformed "Finding family record is malformed.")
  insist (familyCollections.all fun field => (arrayOf (JsonRecord.get record field)).isSome)
    (malformed "Finding family record collections are malformed.")
  let familyId := (plainText (JsonRecord.get record "family_id")).getD ""
  insist (Text.startsWith familyId "family:") (malformed "Finding family identifier is malformed.")
  let verdict ← decodeMember verdictNames StaticVerdictName.text
    (malformed "Finding family verdict or priority is malformed.") (JsonRecord.get record "verdict")
  let priority ← decodeMember priorities FindingPriority.text
    (malformed "Finding family verdict or priority is malformed.")
    (JsonRecord.get record "priority")
  let reachabilityStatus ← decodeMember reachabilityStatuses ReachabilityStatus.text
    (malformed "Finding family reachability is malformed.")
    (JsonRecord.get record "reachability_status")
  let amplificationClass ← decodeMember amplifications AmplificationClass.text
    (malformed "Finding family amplification is malformed.")
    (JsonRecord.get record "amplification_class")
  let memberFindingIds ← decodeTexts filledTexts record "member_finding_ids"
  let memberCertificateIds ← decodeTexts filledTexts record "member_certificate_ids"
  let entryIds ← decodeTexts filledTexts record "entry_ids"
  let growthIds ← decodeTexts filledTexts record "growth_ids"
  let reasonCodes ← decodeTexts orderedTexts record "reason_codes"
  let primaryFindingId := (plainText (JsonRecord.get record "primary_finding_id")).getD ""
  let resourceId := (plainText (JsonRecord.get record "resource_id")).getD ""
  lifted (FindingFamily.create familyId {
    verdict, priority, primaryFindingId, memberFindingIds, memberCertificateIds, entryIds,
    growthIds, resourceId, reachabilityStatus, amplificationClass, reasonCodes })

structure FamilyIdentity where
  framework : Framework
  protocol : Protocol
  registration : RegistrationFact
  handler : HandlerFact
  authContext : AuthContext
  deploymentStatus : DeploymentStatus
  resourceId : String
  reachabilityStatus : ReachabilityStatus
  verdict : StaticVerdictName
  deriving DecidableEq

def FamilyIdentity.toDict (identity : FamilyIdentity) : Members Empty :=
  [("framework", .str identity.framework.text), ("protocol", .str identity.protocol.text),
    ("registration", identity.registration.toDict), ("handler", identity.handler.toDict),
    ("auth_context", .str identity.authContext.text),
    ("deployment_status", .str identity.deploymentStatus.text),
    ("resource_id", .str identity.resourceId),
    ("reachability_status", .str identity.reachabilityStatus.text),
    ("verdict", .str identity.verdict.text)]

def priorityOf (verdict : StaticVerdictName) (reachabilityStatus : ReachabilityStatus)
    (amplificationClass : AmplificationClass) : FindingPriority :=
  if reachabilityStatus = .notEntryReachable then .inventory
  else if verdict = .staticVulnerable ∧ reachabilityStatus = .ordinaryAttackerReachable then .p0
  else if verdict = .staticUnknown ∧ amplificationClass ≠ .lowAmplification ∧
      amplificationClass ≠ .unknown then .p1
  else if verdict = .staticUnknown ∨ verdict = .boundedUnderModeledAssumptions then .p2
  else .inventory

structure Member where
  finding : StaticFinding
  certificate : LifecycleCertificate
  amplification : AmplificationClass
  identity : FamilyIdentity

def Member.primaryKey (member : Member) : Bool ×ₗ Nat ×ₗ Bool ×ₗ Nat ×ₗ Int ×ₗ String :=
  let gaps := member.certificate.coverageGaps.values
  let unresolved := member.certificate.unresolvedFacts.values
  toLex (decide (gaps ≠ []), toLex (gaps.length, toLex (decide (unresolved ≠ []),
    toLex (unresolved.length, toLex (-amplificationRank member.amplification,
      member.finding.findingId)))))

variable (entries : List (String × EntryFact)) (reachability : List (String × ReachabilityDecision))
  (amplificationClasses : List ((String × String) × String))

def resourceOf (certificate : LifecycleCertificate) : Option String :=
  ((objectOf certificate.resourcePoint).bind fun point =>
    plainText (JsonRecord.get point "resource_id")).filter fun resource =>
      Text.startsWith resource "resource:"

/-- The checks on a finding, and its place among the families. -/
def memberOf (certificates : List LifecycleCertificate) (finding : StaticFinding) :
    Checked Member := do
  match certificates.find? fun item => item.certificateId = finding.certificateId with
  | none => .error (familyInvalid "Finding family findings and certificates are not a bijection.")
  | some certificate => do
      require (finding.entryId = certificate.entryId && finding.growthId = certificate.growthId &&
          finding.verdict = certificate.verdict && finding.reasonCodes = certificate.reasonCodes)
        (familyInvalid "Finding family member disagrees with its certificate.")
      match entries.lookup finding.entryId with
      | none => .error (familyInvalid "Finding family member references an absent Entry.")
      | some entry =>
        match resourceOf certificate with
        | none => .error (familyInvalid "Finding family member has no canonical resource.")
        | some resourceId => do
            let reach := reachability.lookup entry.entryId
            let amplified := (amplificationClasses.lookup (finding.entryId, finding.growthId)).getD
              "unknown"
            match amplifications.find? fun item => item.text = amplified with
            | none => .error (familyInvalid "Finding family amplification is malformed.")
            | some amplification => do
                require (reach.all fun decision => decision.entryId = entry.entryId)
                  (familyInvalid "Finding family reachability references another Entry.")
                return {
                  finding, certificate, amplification
                  identity := {
                    framework := entry.framework
                    protocol := entry.protocol
                    registration := entry.registration
                    handler := entry.handler
                    authContext := (reach.map fun decision => decision.authContext).getD
                      entry.authContext
                    deploymentStatus := (reach.map fun decision =>
                      decision.deploymentStatus).getD .unknown
                    resourceId
                    reachabilityStatus := (reach.map fun decision => decision.status).getD .unknown
                    verdict := finding.verdict } }

def Member.groupKey (member : Member) : String :=
  stableIdentifier "family_group" member.identity.toDict

def sortedTexts (values : List String) : List String := values.insertionSort (· ≤ ·)

/-- The family of a group, of which the first member has opened it. -/
def familyOf (opener primary : Member) (ordered : List Member) : Checked FindingFamily := do
  let memberFindingIds ← filledTexts "member_finding_ids"
    (sortedTexts (ordered.map fun item => item.finding.findingId))
  let memberCertificateIds ← filledTexts "member_certificate_ids"
    (sortedTexts (ordered.map fun item => item.certificate.certificateId))
  let entryIds ← filledTexts "entry_ids"
    (sortedSet (ordered.map fun item => item.finding.entryId))
  let growthIds ← filledTexts "growth_ids"
    (sortedSet (ordered.map fun item => item.finding.growthId))
  let reasonCodes ← orderedTexts "reason_codes"
    (sortedSet (ordered.flatMap fun item => item.finding.reasonCodes.values))
  let parts : FamilyParts := {
    verdict := primary.finding.verdict
    priority := priorityOf primary.finding.verdict opener.identity.reachabilityStatus
      primary.amplification
    primaryFindingId := primary.finding.findingId
    memberFindingIds, memberCertificateIds, entryIds, growthIds
    resourceId := opener.identity.resourceId
    reachabilityStatus := opener.identity.reachabilityStatus
    amplificationClass := primary.amplification
    reasonCodes }
  FindingFamily.create (stableIdentifier "family" parts.semanticIdentity) parts

def orderedMembers (members : List Member) : List Member :=
  members.insertionSort fun left right => left.primaryKey ≤ right.primaryKey

def groupFamily (held : String × List Member) : Checked FindingFamily :=
  match held.2, orderedMembers held.2 with
  | opener :: _, primary :: rest => familyOf opener primary (primary :: rest)
  -- No group is empty.
  | _, _ => .error (familyInvalid "Finding family inputs are malformed.")

/-- Aggregates exact findings without route aliases or benchmark truth. -/
def buildFindingFamilies (findings : List StaticFinding) (certificates : List LifecycleCertificate) :
    Checked (List FindingFamily) := do
  require ((findings.map StaticFinding.findingId).Nodup &&
      (certificates.map LifecycleCertificate.certificateId).Nodup)
    (familyInvalid "Finding family inputs contain duplicate identifiers.")
  require (sortedSet (findings.map StaticFinding.certificateId) =
      sortedSet (certificates.map LifecycleCertificate.certificateId))
    (familyInvalid "Finding family findings and certificates are not a bijection.")
  let members ← findings.mapM (memberOf entries reachability amplificationClasses certificates)
  let families ← (group Member.groupKey members).mapM groupFamily
  return families.insertionSort fun left right => left.familyId ≤ right.familyId

end DosWeb.Report
