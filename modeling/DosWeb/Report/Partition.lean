import DosWeb.CanonicalMembers
import DosWeb.Conclude.Soundness
import DosWeb.Entries.RoundTrip
import DosWeb.Report.Families

/-!
The families of the findings: which findings they hold, and that order does not matter.
-/

namespace DosWeb.Report

open Library Library.JsonValue Library.JsonRecord Library.OrderedSet Library.Grouping Identifiers
open Entries (EntryFact HandlerFact RegistrationFact)
open Conclude (StaticVerdictName)
open Lifecycle (StaticFinding LifecycleCertificate texts texts_injective)
open Reachability (ReachabilityDecision ReachabilityStatus DeploymentStatus)

theorem ordered_texts_ok (field : String) (values : List String) (collected : TextSet) :
    orderedTexts field values = .ok collected ↔ collected.values = values := by
  unfold orderedTexts
  split
  · rename_i ordered
    constructor
    · intro same
      cases same
      rfl
    · intro same
      exact congrArg Except.ok (TextSet.ext_values _ _ same.symm)
  · rename_i unordered
    constructor
    · intro same
      cases same
    · rintro rfl
      exact absurd ⟨collected.ordered, collected.filled⟩ unordered

theorem filled_texts_ok (field : String) (values : List String) (collected : FilledTexts) :
    filledTexts field values = .ok collected ↔ collected.1.values = values := by
  simp only [filledTexts, bind_ok, ordered_texts_ok]
  constructor
  · intro read
    obtain ⟨ordered, same, filled⟩ := read
    split at filled
    · cases filled
      exact same
    · cases filled
  · intro same
    refine ⟨collected.1, same, ?_⟩
    rw [dif_pos collected.2]
    rfl

theorem create_ok (familyId : String) (parts : FamilyParts) (family : FindingFamily)
    (created : FindingFamily.create familyId parts = .ok family) :
    family.familyId = familyId ∧ family.parts = parts := by
  unfold FindingFamily.create at created
  split at created
  · split at created
    · split at created
      · cases created
        exact ⟨rfl, rfl⟩
      · cases created
    · cases created
  · cases created

theorem create_own (family : FindingFamily) :
    FindingFamily.create family.familyId family.parts = .ok family := by
  rw [FindingFamily.create, dif_pos family.primaryMember, dif_pos family.resourceStarts,
    dif_pos family.idCanonical]

theorem text_items (values : List String) :
    (values.map (Json.str : String → PlainJson)).mapM plainText = some values := by
  induction values with
  | nil => rfl
  | cons value values ih => simp [plainText, ih]

theorem decode_texts_own {α : Type} (read : String → List String → Checked α)
    (record : Members Empty) (field : String) (values : List String) (collected : α)
    (held : JsonRecord.get record field = texts values) (own : read field values = .ok collected) :
    decodeTexts read record field = .ok collected := by
  have items : ((arrayOf (texts values)).bind fun items => items.mapM plainText) = some values :=
    text_items values
  rw [decodeTexts, held, items]
  exact (lifted_ok _ _).mpr own

theorem family_start (family : FindingFamily) :
    Text.startsWith family.familyId "family:" = true := by
  rw [family.idCanonical]
  exact stable_identifier_starts "family" _

theorem from_dict_own (family : FindingFamily) :
    FindingFamily.fromDict family.toDict = .ok family := by
  have fields : fieldSet family.toDict = familyFields := by
    simp only [fieldSet, FindingFamily.toDict, FamilyParts.semanticIdentity, List.map_cons,
      List.map_nil]
    decide
  have filled (field : String) (collected : FilledTexts)
      (held : JsonRecord.get family.toDict field = texts collected.1.values) :
      decodeTexts filledTexts family.toDict field = .ok collected :=
    decode_texts_own _ _ _ _ _ held ((filled_texts_ok _ _ _).mpr rfl)
  have reasons : decodeTexts orderedTexts family.toDict "reason_codes" =
      .ok family.parts.reasonCodes :=
    decode_texts_own _ _ _ _ _ rfl ((ordered_texts_ok _ _ _).mpr rfl)
  simp only [FindingFamily.fromDict, bind_ok, insist_ok]
  refine ⟨(), by simpa using fields, (), ?_, (), family_start family, family.parts.verdict, ?_,
    family.parts.priority, ?_, family.parts.reachabilityStatus, ?_,
    family.parts.amplificationClass, ?_, family.parts.memberFindingIds, filled _ _ rfl,
    family.parts.memberCertificateIds, filled _ _ rfl, family.parts.entryIds, filled _ _ rfl,
    family.parts.growthIds, filled _ _ rfl, family.parts.reasonCodes, reasons, ?_⟩
  · rfl
  · apply decode_member_text
    · cases family.parts.verdict <;> decide
    · cases family.parts.verdict <;> decide
  · apply decode_member_text
    · cases family.parts.priority <;> decide
    · cases family.parts.priority <;> decide
  · apply decode_member_text
    · cases family.parts.reachabilityStatus <;> decide
    · cases family.parts.reachabilityStatus <;> decide
  · apply decode_member_text
    · cases family.parts.amplificationClass <;> decide
    · cases family.parts.amplificationClass <;> decide
  · exact (lifted_ok _ _).mpr (create_own family)

section

theorem identity_distinct (identity : FamilyIdentity) : DistinctKeys (.obj identity.toDict) := by
  simp [DistinctKeys, DistinctMembers, FamilyIdentity.toDict, RegistrationFact.toDict,
    HandlerFact.toDict]

attribute [ext] RegistrationFact HandlerFact

theorem registration_of_dict (left right : RegistrationFact)
    (same : JsonValue.normalize left.toDict = JsonValue.normalize right.toDict) : left = right := by
  have get := normal_get _ _ (by simp [DistinctKeys, DistinctMembers])
    (by simp [DistinctKeys, DistinctMembers]) same
  have kind : left.kind.text = right.kind.text := Json.str.inj (get "kind")
  have callable : left.callable.1 = right.callable.1 := Json.str.inj (get "callable")
  have file : left.file.1 = right.file.1 := Json.str.inj (get "file")
  have line : (left.startLine.1 : Int) = right.startLine.1 := Json.int.inj (get "start_line")
  exact RegistrationFact.ext (Entries.registration_text_injective _ _ kind) (Subtype.ext callable)
    (Subtype.ext file) (Subtype.ext (Int.ofNat.inj line))

theorem handler_of_dict (left right : HandlerFact)
    (same : JsonValue.normalize left.toDict = JsonValue.normalize right.toDict) : left = right := by
  have get := normal_get _ _ (by simp [DistinctKeys, DistinctMembers])
    (by simp [DistinctKeys, DistinctMembers]) same
  have callable : left.callable.1 = right.callable.1 := Json.str.inj (get "callable")
  have file : left.file.1 = right.file.1 := Json.str.inj (get "file")
  have line : (left.startLine.1 : Int) = right.startLine.1 := Json.int.inj (get "start_line")
  exact HandlerFact.ext (Subtype.ext callable) (Subtype.ext file) (Subtype.ext (Int.ofNat.inj line))

theorem deployment_text_injective (left right : DeploymentStatus) (same : left.text = right.text) :
    left = right := by
  cases left <;> cases right <;> first | rfl | exact absurd same (by decide)

theorem reachability_text_injective (left right : ReachabilityStatus)
    (same : left.text = right.text) : left = right := by
  cases left <;> cases right <;> first | rfl | exact absurd same (by decide)

theorem verdict_text_injective (left right : StaticVerdictName) (same : left.text = right.text) :
    left = right := by
  cases left <;> cases right <;> first | rfl | exact absurd same (by decide)

theorem identity_of_canonical (left right : FamilyIdentity)
    (same : canonicalJson (.obj left.toDict : PlainJson) = canonicalJson (.obj right.toDict)) :
    left = right := by
  have get := canonical_get _ _ (identity_distinct left) (identity_distinct right) same
  have framework : left.framework.text = right.framework.text := Json.str.inj (get "framework")
  have protocol : left.protocol.text = right.protocol.text := Json.str.inj (get "protocol")
  have registration := registration_of_dict _ _ (get "registration")
  have handler := handler_of_dict _ _ (get "handler")
  have context : left.authContext.text = right.authContext.text := Json.str.inj (get "auth_context")
  have deployment : left.deploymentStatus.text = right.deploymentStatus.text :=
    Json.str.inj (get "deployment_status")
  have resource : left.resourceId = right.resourceId := Json.str.inj (get "resource_id")
  have status : left.reachabilityStatus.text = right.reachabilityStatus.text :=
    Json.str.inj (get "reachability_status")
  have verdict : left.verdict.text = right.verdict.text := Json.str.inj (get "verdict")
  cases left
  cases right
  obtain rfl := Entries.framework_text_injective _ _ framework
  obtain rfl := Entries.protocol_text_injective _ _ protocol
  obtain rfl := Entries.auth_context_text_injective _ _ context
  obtain rfl := deployment_text_injective _ _ deployment
  obtain rfl := reachability_text_injective _ _ status
  obtain rfl := verdict_text_injective _ _ verdict
  cases registration
  cases handler
  cases resource
  rfl

end

section

variable (entries : List (String × EntryFact)) (reachability : List (String × ReachabilityDecision))
  (amplificationClasses : List ((String × String) × String)) (findings : List StaticFinding)
  (certificates : List LifecycleCertificate)

section

/-- What a finding's place among the families tells of it. -/
structure Placed (finding : StaticFinding) (member : Member) : Prop where
  reads : member.finding = finding
  certified : member.certificate ∈ certificates
  references : member.certificate.certificateId = finding.certificateId
  verdict : member.identity.verdict = finding.verdict
  resource : Text.startsWith member.identity.resourceId "resource:" = true

theorem member_placed (finding : StaticFinding) (member : Member)
    (found : memberOf entries reachability amplificationClasses certificates finding = .ok member) :
    Placed certificates finding member := by
  unfold memberOf at found
  split at found
  · cases found
  · rename_i certificate held
    obtain ⟨_, _, rest⟩ := bind_ok.mp found
    split at rest
    · cases rest
    · split at rest
      · cases rest
      · rename_i resourceId resource
        simp only at rest
        split at rest
        · cases rest
        · obtain ⟨_, _, same⟩ := bind_ok.mp rest
          cases same
          exact ⟨rfl, List.mem_of_find?_eq_some held, by simpa using List.find?_some held, rfl,
            (Option.filter_eq_some_iff.mp resource).2⟩

variable {entries reachability amplificationClasses certificates}

theorem placed_map {α : Type} {findings : List StaticFinding} {members : List Member}
    (placed : List.Forall₂ (fun finding member => memberOf entries reachability amplificationClasses
      certificates finding = .ok member) findings members)
    (idOf : Member → α) (own : StaticFinding → α)
    (agrees : ∀ finding member, Placed certificates finding member → idOf member = own finding) :
    members.map idOf = findings.map own := by
  induction placed with
  | nil => rfl
  | cons found _ ih =>
    rw [List.map_cons, List.map_cons, ih, agrees _ _ (member_placed _ _ _ _ _ _ found)]

theorem member_of_perm {entries' : List (String × EntryFact)}
    {reachability' : List (String × ReachabilityDecision)}
    {amplificationClasses' : List ((String × String) × String)}
    {certificates' : List LifecycleCertificate}
    (entriesPermuted : entries'.Perm entries) (entriesDistinct : (entries'.map Prod.fst).Nodup)
    (reachabilityPermuted : reachability'.Perm reachability)
    (reachabilityDistinct : (reachability'.map Prod.fst).Nodup)
    (classesPermuted : amplificationClasses'.Perm amplificationClasses)
    (classesDistinct : (amplificationClasses'.map Prod.fst).Nodup)
    (certificatesPermuted : certificates'.Perm certificates)
    (certificatesDistinct : (certificates'.map LifecycleCertificate.certificateId).Nodup) :
    memberOf entries' reachability' amplificationClasses' certificates' =
      memberOf entries reachability amplificationClasses certificates := by
  funext finding
  have sameEntry := lookup_perm _ _ entriesPermuted entriesDistinct
  have sameReach := lookup_perm _ _ reachabilityPermuted reachabilityDistinct
  have sameClass := lookup_perm _ _ classesPermuted classesDistinct
  have sameCertificate := find_perm LifecycleCertificate.certificateId _ _ certificatesPermuted
    certificatesDistinct
  simp only [memberOf, sameEntry, sameReach, sameClass, sameCertificate]

end

structure FamilyHolds (members : List Member) (family : FindingFamily) : Prop where
  findings : ∀ id, id ∈ family.parts.memberFindingIds.1.values ↔
    ∃ member ∈ members, member.finding.findingId = id
  certificates : ∀ id, id ∈ family.parts.memberCertificateIds.1.values ↔
    ∃ member ∈ members, member.certificate.certificateId = id

/-- The members from whom the record of a family is read. -/
structure FamilyRead (members : List Member) (opener primary : Member) (family : FindingFamily) :
    Prop where
  opens : members.head? = some opener
  elected : (orderedMembers members).head? = some primary
  family : familyOf opener primary (orderedMembers members) = .ok family

theorem group_family_read (held : String × List Member) (family : FindingFamily)
    (built : groupFamily held = .ok family) :
    ∃ opener primary, FamilyRead held.2 opener primary family := by
  unfold groupFamily at built
  split at built
  · rename_i opener _ primary rest members ordered
    refine ⟨opener, primary, ⟨by rw [members]; rfl, by rw [ordered]; rfl, ?_⟩⟩
    rw [ordered]
    exact built
  · cases built

theorem mem_ordered (members : List Member) (member : Member) :
    member ∈ orderedMembers members ↔ member ∈ members := List.mem_insertionSort _

theorem family_of_parts (opener primary : Member) (ordered : List Member) (family : FindingFamily)
    (built : familyOf opener primary ordered = .ok family) :
    family.parts.memberFindingIds.1.values =
        sortedTexts (ordered.map fun item => item.finding.findingId) ∧
      family.parts.memberCertificateIds.1.values =
        sortedTexts (ordered.map fun item => item.certificate.certificateId) ∧
      family.parts.primaryFindingId = primary.finding.findingId ∧
      family.parts.verdict = primary.finding.verdict ∧
      family.parts.reachabilityStatus = opener.identity.reachabilityStatus ∧
      family.parts.amplificationClass = primary.amplification ∧
      family.parts.priority = priorityOf primary.finding.verdict
        opener.identity.reachabilityStatus primary.amplification := by
  simp only [familyOf, bind_ok, filled_texts_ok] at built
  obtain ⟨findings, sameFindings, certificates, sameCertificates, _, _, _, _, _, _, created⟩ := built
  obtain ⟨_, parts⟩ := create_ok _ _ _ created
  rw [parts]
  exact ⟨sameFindings, sameCertificates, rfl, rfl, rfl, rfl, rfl⟩

theorem family_semantic (opener primary : Member) (ordered : List Member) (family : FindingFamily)
    (built : familyOf opener primary ordered = .ok family) : family.parts.semanticIdentity =
      [("verdict", .str primary.finding.verdict.text),
        ("priority", .str (priorityOf primary.finding.verdict opener.identity.reachabilityStatus
          primary.amplification).text), ("primary_finding_id", .str primary.finding.findingId),
        ("member_finding_ids",
          texts (sortedTexts (ordered.map fun item => item.finding.findingId))),
        ("member_certificate_ids",
          texts (sortedTexts (ordered.map fun item => item.certificate.certificateId))),
        ("entry_ids", texts (sortedSet (ordered.map fun item => item.finding.entryId))),
        ("growth_ids", texts (sortedSet (ordered.map fun item => item.finding.growthId))),
        ("resource_id", .str opener.identity.resourceId),
        ("reachability_status", .str opener.identity.reachabilityStatus.text),
        ("amplification_class", .str primary.amplification.text), ("reason_codes",
          texts (sortedSet (ordered.flatMap fun item => item.finding.reasonCodes.values)))] := by
  simp only [familyOf, bind_ok, filled_texts_ok, ordered_texts_ok] at built
  obtain ⟨_, findings, _, certificates, _, entries, _, growths, _, reasons, created⟩ := built
  rw [(create_ok _ _ _ created).2, FamilyParts.semanticIdentity, findings, certificates, entries,
    growths, reasons]

theorem family_read_holds (members : List Member) (opener primary : Member)
    (family : FindingFamily) (read : FamilyRead members opener primary family) :
    FamilyHolds members family := by
  obtain ⟨findings, certificates, _⟩ := family_of_parts _ _ _ _ read.family
  constructor
  · intro id
    rw [findings, sortedTexts, List.mem_insertionSort, List.mem_map]
    simp only [mem_ordered]
  · intro id
    rw [certificates, sortedTexts, List.mem_insertionSort, List.mem_map]
    simp only [mem_ordered]

theorem sorted_texts_ordered (values : List String) (distinct : values.Nodup) :
    (sortedTexts values).Pairwise (· < ·) := by
  have ordered : (sortedTexts values).Pairwise (· ≤ ·) := List.pairwise_insertionSort _ _
  have apart : (sortedTexts values).Pairwise (· ≠ ·) :=
    (List.perm_insertionSort _ _).nodup_iff.mpr distinct
  exact (ordered.and apart).imp fun both => lt_of_le_of_ne both.1 both.2

theorem filled_texts_total (field : String) (values : List String) (ordered : values.Pairwise (· < ·))
    (filled : "" ∉ values) (some_ : values ≠ []) :
    ∃ collected, filledTexts field values = .ok collected :=
  ⟨⟨⟨values, ordered, filled⟩, some_⟩, (filled_texts_ok _ _ _).mpr rfl⟩

theorem finding_filled (finding : StaticFinding) : finding.findingId ≠ "" := by
  rw [finding.idCanonical]
  exact stable_identifier_nonempty _ _

theorem certificate_filled (certificate : LifecycleCertificate) : certificate.certificateId ≠ "" := by
  rw [certificate.idCanonical]
  exact stable_identifier_nonempty _ _

theorem family_total (opener primary : Member) (ordered : List Member) (inside : primary ∈ ordered)
    (findings : (ordered.map fun item => item.finding.findingId).Nodup)
    (certificates : (ordered.map fun item => item.certificate.certificateId).Nodup)
    (resource : Text.startsWith opener.identity.resourceId "resource:" = true) :
    ∃ family, familyOf opener primary ordered = .ok family := by
  have some_ : ordered ≠ [] := List.ne_nil_of_mem inside
  have texts {values : List String} (filled : ∀ value ∈ values, value ≠ "") : "" ∉ values :=
    fun member => filled "" member rfl
  have findingsFilled : "" ∉ sortedTexts (ordered.map fun item => item.finding.findingId) :=
    texts fun value member => by
      rw [sortedTexts, List.mem_insertionSort] at member
      obtain ⟨item, _, rfl⟩ := List.mem_map.mp member
      exact finding_filled _
  have certificatesFilled :
      "" ∉ sortedTexts (ordered.map fun item => item.certificate.certificateId) :=
    texts fun value member => by
      rw [sortedTexts, List.mem_insertionSort] at member
      obtain ⟨item, _, rfl⟩ := List.mem_map.mp member
      exact certificate_filled _
  have entriesFilled : "" ∉ sortedSet (ordered.map fun item => item.finding.entryId) :=
    texts fun value member => by
      obtain ⟨item, _, rfl⟩ := List.mem_map.mp ((mem_sortedSet _ _).mp member)
      exact Text.startsWith_nonempty _ _ (by decide) item.finding.entryIdStarts
  have growthsFilled : "" ∉ sortedSet (ordered.map fun item => item.finding.growthId) :=
    texts fun value member => by
      obtain ⟨item, _, rfl⟩ := List.mem_map.mp ((mem_sortedSet _ _).mp member)
      exact Text.startsWith_nonempty _ _ (by decide) item.finding.growthIdStarts
  have reasonsFilled :
      "" ∉ sortedSet (ordered.flatMap fun item => item.finding.reasonCodes.values) :=
    texts fun value member => by
      obtain ⟨item, _, held⟩ := List.mem_flatMap.mp ((mem_sortedSet _ _).mp member)
      rintro rfl
      exact item.finding.reasonCodes.filled held
  have some_texts (read : Member → String) : sortedTexts (ordered.map read) ≠ [] :=
    List.ne_nil_of_mem ((List.mem_insertionSort _).mpr (List.mem_map_of_mem inside))
  have some_set (read : Member → String) : sortedSet (ordered.map read) ≠ [] :=
    List.ne_nil_of_mem ((mem_sortedSet _ _).mpr (List.mem_map_of_mem inside))
  obtain ⟨memberFindingIds, findingsOk⟩ := filled_texts_total "member_finding_ids" _
    (sorted_texts_ordered _ findings) findingsFilled (some_texts _)
  obtain ⟨memberCertificateIds, certificatesOk⟩ := filled_texts_total "member_certificate_ids" _
    (sorted_texts_ordered _ certificates) certificatesFilled (some_texts _)
  obtain ⟨entryIds, entriesOk⟩ := filled_texts_total "entry_ids" _ (sortedSet_increasing _)
    entriesFilled (some_set _)
  obtain ⟨growthIds, growthsOk⟩ := filled_texts_total "growth_ids" _ (sortedSet_increasing _)
    growthsFilled (some_set _)
  have reasonsOk := (ordered_texts_ok "reason_codes" _
    ⟨_, sortedSet_increasing (ordered.flatMap fun item => item.finding.reasonCodes.values),
      reasonsFilled⟩).mpr rfl
  have primaryMember : primary.finding.findingId ∈ memberFindingIds.1.values := by
    rw [(filled_texts_ok _ _ _).mp findingsOk, sortedTexts, List.mem_insertionSort]
    exact List.mem_map_of_mem inside
  rw [familyOf, findingsOk, certificatesOk, entriesOk, growthsOk, reasonsOk]
  simp only [bind, Except.bind, FindingFamily.create, primaryMember, resource, dite_true]
  exact ⟨_, rfl⟩

section

structure Aggregated (members : List Member) (built families : List FindingFamily) : Prop where
  findingsDistinct : (findings.map StaticFinding.findingId).Nodup
  certificatesDistinct : (certificates.map LifecycleCertificate.certificateId).Nodup
  bijection : sortedSet (findings.map StaticFinding.certificateId) =
    sortedSet (certificates.map LifecycleCertificate.certificateId)
  placed : List.Forall₂ (fun finding member => memberOf entries reachability amplificationClasses
    certificates finding = .ok member) findings members
  grouped : List.Forall₂ (fun held family => groupFamily held = .ok family)
    (group Member.groupKey members) built
  sorted : families = built.insertionSort fun left right => left.familyId ≤ right.familyId

theorem build_iff (families : List FindingFamily) :
    buildFindingFamilies entries reachability amplificationClasses findings certificates =
        .ok families ↔
      ∃ members built, Aggregated entries reachability amplificationClasses findings certificates
        members built families := by
  simp only [buildFindingFamilies, bind_ok, require_ok, mapM_ok, Bool.and_eq_true,
    decide_eq_true_eq, pure_ok]
  constructor
  · intro run
    obtain ⟨_, distinct, _, bijection, members, placed, built, grouped, sorted⟩ := run
    exact ⟨members, built, distinct.1, distinct.2, bijection, placed, grouped, sorted.symm⟩
  · intro run
    obtain ⟨members, built, held⟩ := run
    exact ⟨(), ⟨held.findingsDistinct, held.certificatesDistinct⟩, (), held.bijection, members,
      held.placed, built, held.grouped, held.sorted.symm⟩

variable {entries reachability amplificationClasses findings certificates} {members : List Member}
  {built families : List FindingFamily}
  (run : Aggregated entries reachability amplificationClasses findings certificates members built
    families)

include run

theorem run_member (member : Member) (inside : member ∈ members) :
    ∃ finding ∈ findings, Placed certificates finding member := by
  obtain ⟨finding, held, found⟩ := related_right run.placed member inside
  exact ⟨finding, held, member_placed _ _ _ _ _ _ found⟩

theorem run_findings : members.map Member.finding = findings :=
  (placed_map run.placed Member.finding id fun _ _ held => held.reads).trans (List.map_id _)

theorem run_same (left right : Member) (leftIn : left ∈ members) (rightIn : right ∈ members)
    (same : left.finding.findingId = right.finding.findingId) : left = right := by
  have distinct : (members.map fun member => member.finding.findingId).Nodup := by
    have held := run.findingsDistinct
    rwa [← run_findings run, List.map_map] at held
  exact List.inj_on_of_nodup_map distinct leftIn rightIn same

theorem mem_families (family : FindingFamily) : family ∈ families ↔ family ∈ built := by
  rw [run.sorted, List.mem_insertionSort]

theorem run_certificate (left right : Member) (leftIn : left ∈ members) (rightIn : right ∈ members)
    (same : left.certificate.certificateId = right.certificate.certificateId) : left = right := by
  obtain ⟨leftFinding, _, leftPlaced⟩ := run_member run left leftIn
  obtain ⟨rightFinding, _, rightPlaced⟩ := run_member run right rightIn
  apply run_same run left right leftIn rightIn
  rw [leftPlaced.reads, rightPlaced.reads, leftFinding.idCanonical, rightFinding.idCanonical,
    ← leftPlaced.references, ← rightPlaced.references, same]

omit run in
theorem same_group (left right : String × List Member)
    (leftIn : left ∈ group Member.groupKey members) (rightIn : right ∈ group Member.groupKey members)
    (same : left.1 = right.1) : left = right := by
  have leftItems := ((mem_group _ _ _).mp leftIn).1
  have rightItems := ((mem_group _ _ _).mp rightIn).1
  rw [← same, ← leftItems] at rightItems
  exact Prod.ext same rightItems.symm

omit run in
/-- A collection of a family that holds an identifier of each member of its group. -/
structure Collects (members : List Member) (idOf : Member → String)
    (collection : FindingFamily → List String) : Prop where
  apart : ∀ left ∈ members, ∀ right ∈ members, idOf left = idOf right → left = right
  holds : ∀ held family, groupFamily held = .ok family →
    ∀ id, id ∈ collection family ↔ ∃ member ∈ held.2, idOf member = id

theorem finding_collects : Collects members (fun member => member.finding.findingId)
    fun family => family.parts.memberFindingIds.1.values := by
  constructor
  · exact fun left leftIn right rightIn => run_same run left right leftIn rightIn
  · intro held family own
    obtain ⟨opener, primary, read⟩ := group_family_read held family own
    exact (family_read_holds _ _ _ _ read).findings

theorem certificate_collects : Collects members (fun member => member.certificate.certificateId)
    fun family => family.parts.memberCertificateIds.1.values := by
  constructor
  · exact fun left leftIn right rightIn => run_certificate run left right leftIn rightIn
  · intro held family own
    obtain ⟨opener, primary, read⟩ := group_family_read held family own
    exact (family_read_holds _ _ _ _ read).certificates

omit run in
theorem collects_member (idOf : Member → String) (collection : FindingFamily → List String)
    (collects : Collects members idOf collection) (held : String × List Member)
    (inside : held ∈ group Member.groupKey members) (family : FindingFamily)
    (own : groupFamily held = .ok family) (member : Member) (memberIn : member ∈ members) :
    idOf member ∈ collection family ↔ held.1 = member.groupKey := by
  have items := ((mem_group _ _ _).mp inside).1
  rw [collects.holds held family own]
  constructor
  · intro found
    obtain ⟨other, otherIn, same⟩ := found
    rw [items, List.mem_filter] at otherIn
    rw [← collects.apart other otherIn.1 member memberIn same]
    exact (of_decide_eq_true otherIn.2).symm
  · intro key
    refine ⟨member, ?_, rfl⟩
    rw [items, List.mem_filter]
    exact ⟨memberIn, by simpa using key.symm⟩

theorem member_family (member : Member) (memberIn : member ∈ members) :
    ∃ held ∈ group Member.groupKey members, held.1 = member.groupKey ∧
      ∃ family ∈ built, groupFamily held = .ok family := by
  have inside : (member.groupKey, members.filter fun item => item.groupKey = member.groupKey) ∈
      group Member.groupKey members := by
    rw [mem_group]
    exact ⟨rfl, List.ne_nil_of_mem (List.mem_filter.mpr ⟨memberIn, by simp⟩)⟩
  obtain ⟨family, own, same⟩ := related_left run.grouped _ inside
  exact ⟨_, inside, rfl, family, own, same⟩

theorem one_family (idOf : Member → String) (collection : FindingFamily → List String)
    (collects : Collects members idOf collection) (member : Member) (memberIn : member ∈ members) :
    ∃! family, family ∈ families ∧ idOf member ∈ collection family := by
  obtain ⟨held, inside, key, family, own, built_⟩ := member_family run member memberIn
  refine ⟨family, ⟨(mem_families run family).mpr own,
    (collects_member idOf collection collects held inside family built_ member memberIn).mpr key⟩,
    ?_⟩
  intro other found
  obtain ⟨group_, groupIn, otherBuilt⟩ := related_right run.grouped other
    ((mem_families run other).mp found.1)
  have otherKey := (collects_member idOf collection collects group_ groupIn other otherBuilt member
    memberIn).mp found.2
  rw [same_group group_ held groupIn inside (otherKey.trans key.symm), built_] at otherBuilt
  exact (Except.ok.inj otherBuilt).symm

theorem families_distinct : families.Nodup := by
  have holds := collects_member _ _ (finding_collects run)
  rw [run.sorted, (List.perm_insertionSort _ _).nodup_iff]
  apply related_nodup _ _ _ run.grouped (group_distinct _ _)
  intro left leftIn right rightIn family leftBuilt rightBuilt
  obtain ⟨member, inside⟩ := List.exists_mem_of_ne_nil _ ((mem_group _ _ _).mp leftIn).2
  rw [((mem_group _ _ _).mp leftIn).1, List.mem_filter] at inside
  have leftKey : left.1 = member.groupKey := (of_decide_eq_true inside.2).symm
  have held := (holds left leftIn family leftBuilt member inside.1).mpr leftKey
  have rightKey := (holds right rightIn family rightBuilt member inside.1).mp held
  exact same_group left right leftIn rightIn (leftKey.trans rightKey.symm)

theorem share_iff (left right : Member) (leftIn : left ∈ members) (rightIn : right ∈ members) :
    (∃ family ∈ families, left.finding.findingId ∈ family.parts.memberFindingIds.1.values ∧
        right.finding.findingId ∈ family.parts.memberFindingIds.1.values) ↔
      left.groupKey = right.groupKey := by
  have holds := collects_member _ _ (finding_collects run)
  constructor
  · intro shared
    obtain ⟨family, inside, leftHeld, rightHeld⟩ := shared
    obtain ⟨held, heldIn, own⟩ := related_right run.grouped family
      ((mem_families run family).mp inside)
    have leftKey := (holds held heldIn family own left leftIn).mp leftHeld
    have rightKey := (holds held heldIn family own right rightIn).mp rightHeld
    exact leftKey.symm.trans rightKey
  · intro same
    obtain ⟨held, inside, key, family, own, built_⟩ := member_family run left leftIn
    exact ⟨family, (mem_families run family).mpr own,
      (holds held inside family built_ left leftIn).mpr key,
      (holds held inside family built_ right rightIn).mpr (key.trans same)⟩

theorem held_findings (family : FindingFamily) (inside : family ∈ families) (id : String)
    (held : id ∈ family.parts.memberFindingIds.1.values) :
    ∃ member ∈ members, member.finding.findingId = id := by
  obtain ⟨group_, groupIn, own⟩ := related_right run.grouped family
    ((mem_families run family).mp inside)
  obtain ⟨member, memberIn, same⟩ := ((finding_collects run).holds group_ family own id).mp held
  rw [((mem_group _ _ _).mp groupIn).1, List.mem_filter] at memberIn
  exact ⟨member, memberIn.1, same⟩

end

section

theorem family_of_opener (left right primary : Member) (ordered : List Member)
    (same : left.identity = right.identity) :
    familyOf left primary ordered = familyOf right primary ordered := by
  simp only [familyOf, same]

theorem primary_key_apart (left right : Member) (same : left.primaryKey = right.primaryKey) :
    left.finding.findingId = right.finding.findingId := by
  have parts := toLex_inj.mp same
  have second := toLex_inj.mp (congrArg Prod.snd parts)
  have third := toLex_inj.mp (congrArg Prod.snd second)
  have fourth := toLex_inj.mp (congrArg Prod.snd third)
  have fifth := toLex_inj.mp (congrArg Prod.snd fourth)
  exact congrArg Prod.snd fifth

/-- A group of members with one identity makes one family in whatever order they stand. -/
theorem group_family_perm (left right : String × List Member) (permuted : left.2.Perm right.2)
    (apart : ∀ one ∈ right.2, ∀ other ∈ right.2, one.finding.findingId = other.finding.findingId →
      one = other) (common : ∀ one ∈ right.2, ∀ other ∈ right.2, one.identity = other.identity) :
    groupFamily left = groupFamily right := by
  have ordered : orderedMembers left.2 = orderedMembers right.2 :=
    sort_perm Member.primaryKey _ _ permuted fun one oneIn other otherIn same =>
      apart one oneIn other otherIn (primary_key_apart one other same)
  unfold groupFamily
  rw [ordered]
  cases leftItems : left.2 with
  | nil =>
    rw [leftItems] at permuted
    rw [permuted.nil_eq.symm]
  | cons opener others =>
    cases rightItems : right.2 with
    | nil =>
      rw [leftItems, rightItems] at permuted
      exact absurd permuted.eq_nil (List.cons_ne_nil _ _)
    | cons reopener reothers =>
      cases orderedMembers (reopener :: reothers) with
      | nil => rfl
      | cons primary rest =>
        apply family_of_opener
        apply common
        · rw [← permuted.mem_iff, leftItems]
          exact .head _
        · rw [rightItems]
          exact .head _

variable {entries entries' : List (String × EntryFact)}
  {reachability reachability' : List (String × ReachabilityDecision)}
  {amplificationClasses amplificationClasses' : List ((String × String) × String)}
  {findings findings' : List StaticFinding} {certificates certificates' : List LifecycleCertificate}
  {members : List Member} {built families : List FindingFamily}

theorem build_perm
    (run : Aggregated entries reachability amplificationClasses findings certificates members built
      families)
    (findingsPermuted : findings'.Perm findings) (certificatesPermuted : certificates'.Perm certificates)
    (alike : memberOf entries' reachability' amplificationClasses' certificates' =
      memberOf entries reachability amplificationClasses certificates)
    (groups : ∀ left ∈ members, ∀ right ∈ members, left.groupKey = right.groupKey →
      left.identity = right.identity)
    (identifiers : ∀ left ∈ families, ∀ right ∈ families, left.familyId = right.familyId →
      left = right) :
    buildFindingFamilies entries' reachability' amplificationClasses' findings' certificates' =
      .ok families := by
  obtain ⟨others, placed, membersPermuted⟩ := List.perm_comp_forall₂ findingsPermuted run.placed
  obtain ⟨regrouped, groupsPermuted, related⟩ := group_perm Member.groupKey members others
    membersPermuted
  obtain ⟨rebuilt, grouped, builtPermuted⟩ := List.perm_comp_forall₂ groupsPermuted run.grouped
  rw [build_iff]
  refine ⟨others, rebuilt, ?_, ?_, ?_, ?_, ?_, ?_⟩
  · exact ((findingsPermuted.map _).nodup_iff).mpr run.findingsDistinct
  · exact ((certificatesPermuted.map _).nodup_iff).mpr run.certificatesDistinct
  · rw [sortedSet_congr _ _ fun id => (findingsPermuted.map _).mem_iff,
      sortedSet_congr (certificates'.map _) _ fun id => (certificatesPermuted.map _).mem_iff]
    exact run.bijection
  · rw [alike]
    exact placed
  · apply related_trans _ _ _ _ _ _ related grouped
    intro held inside other family same own
    rw [← own]
    have original := groupsPermuted.mem_iff.mp inside
    have items := ((mem_group _ _ _).mp original).1
    apply group_family_perm other held same.2
    · intro one oneIn two twoIn equal
      rw [items, List.mem_filter] at oneIn twoIn
      exact run_same run one two oneIn.1 twoIn.1 equal
    · intro one oneIn two twoIn
      rw [items, List.mem_filter] at oneIn twoIn
      exact groups one oneIn.1 two twoIn.1
        ((of_decide_eq_true oneIn.2).trans (of_decide_eq_true twoIn.2).symm)
  · rw [run.sorted]
    apply (sort_perm FindingFamily.familyId _ _ builtPermuted _).symm
    intro left leftIn right rightIn
    exact identifiers left ((mem_families run left).mpr leftIn) right
      ((mem_families run right).mpr rightIn)

end

section

variable (families : List FindingFamily)

theorem parts_distinct (parts : FamilyParts) : DistinctKeys (.obj parts.semanticIdentity) := by
  have items (values : List String) : DistinctItems (values.map (Json.str : String → PlainJson)) :=
    (distinctItems_iff _).mpr fun item member => by
      obtain ⟨value, _, rfl⟩ := List.mem_map.mp member
      trivial
  simp [DistinctKeys, DistinctMembers, FamilyParts.semanticIdentity, texts, items]

theorem texts_normalize (values : List String) : JsonValue.normalize (texts values) = texts values := by
  rw [texts, JsonValue.normalize, normalizeItems_eq_map, List.map_map]
  rfl

structure Collisionless : Prop where
  groups : ∀ left ∈ findings, ∀ right ∈ findings, ∀ one other,
    memberOf entries reachability amplificationClasses certificates left = .ok one →
    memberOf entries reachability amplificationClasses certificates right = .ok other →
    IdentifierFree "family_group" one.identity.toDict other.identity.toDict
  families : ∀ left ∈ families, ∀ right ∈ families,
    IdentifierFree "family" left.parts.semanticIdentity right.parts.semanticIdentity

/-- Each finding and each certificate is in one family, findings share a family where they have
one identity, families are read back, and order does not matter. -/
theorem families_partition
    (accepted : buildFindingFamilies entries reachability amplificationClasses findings certificates =
      .ok families)
    (free : Collisionless entries reachability amplificationClasses findings certificates families) :
    families.Nodup ∧ (∀ finding ∈ findings, ∃! family, family ∈ families ∧
      finding.findingId ∈ family.parts.memberFindingIds.1.values) ∧
    (∀ certificate ∈ certificates, ∃! family, family ∈ families ∧
      certificate.certificateId ∈ family.parts.memberCertificateIds.1.values) ∧
    (∀ family ∈ families, ∀ id ∈ family.parts.memberFindingIds.1.values,
      ∃ finding ∈ findings, finding.findingId = id) ∧
    (∀ left ∈ findings, ∀ right ∈ findings, ∃ one other,
      memberOf entries reachability amplificationClasses certificates left = .ok one ∧
      memberOf entries reachability amplificationClasses certificates right = .ok other ∧
      ((∃ family ∈ families, left.findingId ∈ family.parts.memberFindingIds.1.values ∧
        right.findingId ∈ family.parts.memberFindingIds.1.values) ↔ one.identity = other.identity)) ∧
    (∀ family ∈ families, FindingFamily.fromDict family.toDict = .ok family) ∧
    ∀ entries' reachability' amplificationClasses' findings' certificates',
      entries'.Perm entries → (entries.map Prod.fst).Nodup →
      reachability'.Perm reachability → (reachability.map Prod.fst).Nodup →
      amplificationClasses'.Perm amplificationClasses → (amplificationClasses.map Prod.fst).Nodup →
      findings'.Perm findings → certificates'.Perm certificates →
        buildFindingFamilies entries' reachability' amplificationClasses' findings' certificates' =
          .ok families := by
  obtain ⟨members, built, run⟩ := (build_iff _ _ _ _ _ _).mp accepted
  have placedOf (finding : StaticFinding) (inside : finding ∈ findings) :
      ∃ member ∈ members, memberOf entries reachability amplificationClasses certificates finding =
        .ok member ∧ member.finding = finding := by
    obtain ⟨member, memberIn, own⟩ := related_left run.placed finding inside
    exact ⟨member, memberIn, own, (member_placed _ _ _ _ _ _ own).reads⟩
  have groups (left right : Member) (leftIn : left ∈ members) (rightIn : right ∈ members)
      (same : left.groupKey = right.groupKey) : left.identity = right.identity := by
    obtain ⟨one, oneIn, leftOwn⟩ := related_right run.placed left leftIn
    obtain ⟨other, otherIn, rightOwn⟩ := related_right run.placed right rightIn
    exact identity_of_canonical _ _
      (free.groups one oneIn other otherIn left right leftOwn rightOwn same)
  refine ⟨families_distinct run, ?_, ?_, ?_, ?_, fun family _ => from_dict_own family, ?_⟩
  · intro finding inside
    obtain ⟨member, memberIn, _, rfl⟩ := placedOf finding inside
    exact one_family run _ _ (finding_collects run) member memberIn
  · intro certificate inside
    have listed : certificate.certificateId ∈ findings.map StaticFinding.certificateId := by
      rw [← mem_sortedSet, run.bijection, mem_sortedSet]
      exact List.mem_map_of_mem inside
    obtain ⟨finding, findingIn, same⟩ := List.mem_map.mp listed
    obtain ⟨member, memberIn, own, _⟩ := placedOf finding findingIn
    rw [← same, ← (member_placed _ _ _ _ _ _ own).references]
    exact one_family run _ _ (certificate_collects run) member memberIn
  · intro family inside id held
    obtain ⟨member, memberIn, same⟩ := held_findings run family inside id held
    obtain ⟨finding, findingIn, placed⟩ := run_member run member memberIn
    exact ⟨finding, findingIn, by rw [← placed.reads, same]⟩
  · intro left leftIn right rightIn
    obtain ⟨one, oneIn, leftOwn, leftSame⟩ := placedOf left leftIn
    obtain ⟨other, otherIn, rightOwn, rightSame⟩ := placedOf right rightIn
    refine ⟨one, other, leftOwn, rightOwn, ?_⟩
    rw [← leftSame, ← rightSame, share_iff run one other oneIn otherIn]
    constructor
    · exact groups one other oneIn otherIn
    · intro same
      rw [Member.groupKey, Member.groupKey, same]
  · intro entries' reachability' amplificationClasses' findings' certificates' entriesPermuted
      entriesDistinct reachPermuted reachDistinct classesPermuted classesDistinct findingsPermuted
      certificatesPermuted
    have alike := member_of_perm entriesPermuted
      ((entriesPermuted.map _).nodup_iff.mpr entriesDistinct) reachPermuted
      ((reachPermuted.map _).nodup_iff.mpr reachDistinct) classesPermuted
      ((classesPermuted.map _).nodup_iff.mpr classesDistinct) certificatesPermuted
      ((certificatesPermuted.map _).nodup_iff.mpr run.certificatesDistinct)
    apply build_perm run findingsPermuted certificatesPermuted alike
    · exact fun left leftIn right rightIn => groups left right leftIn rightIn
    · intro left leftIn right rightIn same
      rw [left.idCanonical, right.idCanonical] at same
      have get := canonical_get _ _ (parts_distinct left.parts) (parts_distinct right.parts)
        (free.families left leftIn right rightIn same) "member_finding_ids"
      have ids : left.parts.memberFindingIds.1.values = right.parts.memberFindingIds.1.values := by
        have read : JsonValue.normalize (texts left.parts.memberFindingIds.1.values) =
            JsonValue.normalize (texts right.parts.memberFindingIds.1.values) := get
        rw [texts_normalize, texts_normalize] at read
        exact texts_injective _ _ read
      obtain ⟨member, memberIn, held⟩ := held_findings run left leftIn _ left.primaryMember
      obtain ⟨family, _, only⟩ := one_family run _ _ (finding_collects run) member memberIn
      have leftHeld : member.finding.findingId ∈ left.parts.memberFindingIds.1.values := by
        rw [held]
        exact left.primaryMember
      rw [only left ⟨leftIn, leftHeld⟩, only right ⟨rightIn, ids ▸ leftHeld⟩]

end

end

/-- A group of placed findings makes a family. -/
theorem group_total (held : String × List Member) (some_ : held.2 ≠ [])
    (findings : (held.2.map fun item => item.finding.findingId).Nodup)
    (certificates : (held.2.map fun item => item.certificate.certificateId).Nodup)
    (resource : ∀ member ∈ held.2, Text.startsWith member.identity.resourceId "resource:" = true) :
    ∃ family, groupFamily held = .ok family := by
  obtain ⟨key, items⟩ := held
  have permuted : (orderedMembers items).Perm items := List.perm_insertionSort _ _
  cases items with
  | nil => exact absurd rfl some_
  | cons opener later =>
    cases ordered : orderedMembers (opener :: later) with
    | nil =>
      rw [ordered] at permuted
      cases permuted.nil_eq
    | cons primary rest =>
      rw [ordered] at permuted
      obtain ⟨family, own⟩ := family_total opener primary (primary :: rest) (.head _)
        ((permuted.map _).nodup_iff.mpr findings) ((permuted.map _).nodup_iff.mpr certificates)
        (resource opener (.head _))
      refine ⟨family, ?_⟩
      rw [groupFamily, ordered]
      exact own

/-- Placed findings are aggregated, whichever families they fall into. -/
theorem placed_builds {entries : List (String × EntryFact)}
    {reachability : List (String × ReachabilityDecision)}
    {amplificationClasses : List ((String × String) × String)} (findings : List StaticFinding)
    (certificates : List LifecycleCertificate) (members : List Member)
    (distinct : (findings.map StaticFinding.findingId).Nodup)
    (certificatesDistinct : (certificates.map LifecycleCertificate.certificateId).Nodup)
    (bijection : findings.map StaticFinding.certificateId =
      certificates.map LifecycleCertificate.certificateId)
    (placed : List.Forall₂ (fun finding member => memberOf entries reachability
      amplificationClasses certificates finding = .ok member) findings members) :
    ∃ built families, Aggregated entries reachability amplificationClasses findings certificates
      members built families := by
  have findingsApart : (members.map fun item => item.finding.findingId).Nodup := by
    rw [placed_map placed _ StaticFinding.findingId fun _ _ held => by rw [held.reads]]
    exact distinct
  have certificatesApart : (members.map fun item => item.certificate.certificateId).Nodup := by
    rw [placed_map placed _ StaticFinding.certificateId fun _ _ held => held.references, bijection]
    exact certificatesDistinct
  have total : ∀ held ∈ group Member.groupKey members, ∃ family, groupFamily held = .ok family := by
    intro held inside
    obtain ⟨items, some_⟩ := (mem_group _ _ _).mp inside
    have part : held.2.Sublist members := items ▸ List.filter_sublist
    refine group_total held some_ (findingsApart.sublist (part.map _))
      (certificatesApart.sublist (part.map _)) ?_
    intro member memberIn
    obtain ⟨_, _, found⟩ := related_right placed member (part.subset memberIn)
    exact (member_placed _ _ _ _ _ _ found).resource
  obtain ⟨built, grouped⟩ := (forall_related _ _).mpr total
  exact ⟨built, _, distinct, certificatesDistinct, by rw [bijection], placed, grouped, rfl⟩

def undecided : Lifecycle.LifecycleDecisions where
  guard := ⟨.unknown, [], [], [], [], []⟩
  bound := ⟨.unknown, [], [], [], [], []⟩
  release := ⟨.unknown, .unknown, [], [], [], [], []⟩

def reviewed (resource growthId : String)
    (growthIdStarts : Text.startsWith growthId "growth:" = true) (coverageGaps : TextSet) :
    LifecycleCertificate where
  certificateId := stableIdentifier "certificate" _
  entryId := "entry:cache"
  growthId
  attackerInputs := [.obj []]
  resourcePoint := .obj [("resource_id", .str resource)]
  pathIds := ["flow:cache"]
  decisions := undecided
  assertions := [⟨.assertion1, .unknown, .empty, .empty, .empty⟩]
  verdict := .staticUnknown
  reasonCodes := .empty
  assumptions := .empty
  coverageGaps
  unresolvedFacts := .empty
  followUpMeasurements := .empty
  entryIdStarts := by decide
  growthIdStarts
  pathsRequired := by simp
  pathsStart := by simp; decide
  pathsOrdered := by simp
  inputsRequired := by simp
  assertionsRequired := by simp
  idCanonical := rfl

def reviewedEntries : List (String × EntryFact) := [("entry:cache", Entries.sampleEntry)]

def reviewedIdentity (resourceId : String) : FamilyIdentity where
  framework := Entries.sampleEntry.framework
  protocol := Entries.sampleEntry.protocol
  registration := Entries.sampleEntry.registration
  handler := Entries.sampleEntry.handler
  authContext := Entries.sampleEntry.authContext
  deploymentStatus := .unknown
  resourceId
  reachabilityStatus := .unknown
  verdict := .staticUnknown

def reviewedMember (resource : String) (certificate : LifecycleCertificate)
    (amplification : AmplificationClass) : Member :=
  ⟨StaticFinding.fromCertificate certificate, certificate, amplification, reviewedIdentity resource⟩

theorem reviewed_placed (resource growthId : String)
    (known : Text.startsWith resource "resource:" = true)
    (starts : Text.startsWith growthId "growth:" = true) (gaps : TextSet)
    (certificates : List LifecycleCertificate)
    (classes : List ((String × String) × String)) (amplification : AmplificationClass)
    (found : (certificates.find? fun item => item.certificateId =
      (reviewed resource growthId starts gaps).certificateId) =
        some (reviewed resource growthId starts gaps))
    (amplified : (amplifications.find? fun item => item.text =
      (classes.lookup ("entry:cache", growthId)).getD "unknown") = some amplification) :
    memberOf reviewedEntries [] classes certificates
        (StaticFinding.fromCertificate (reviewed resource growthId starts gaps)) =
      .ok (reviewedMember resource (reviewed resource growthId starts gaps) amplification) := by
  have own : resourceOf (reviewed resource growthId starts gaps) = some resource :=
    Option.filter_eq_some_iff.mpr ⟨rfl, known⟩
  have entry : reviewedEntries.lookup (reviewed resource growthId starts gaps).entryId =
      some Entries.sampleEntry := rfl
  have agrees (certificate : LifecycleCertificate) :
      ((StaticFinding.fromCertificate certificate).entryId = certificate.entryId &&
        (StaticFinding.fromCertificate certificate).growthId = certificate.growthId &&
        (StaticFinding.fromCertificate certificate).verdict = certificate.verdict &&
        (StaticFinding.fromCertificate certificate).reasonCodes = certificate.reasonCodes) = true := by
    simp [StaticFinding.fromCertificate]
  unfold memberOf
  rw [show certificates.find? (fun item => item.certificateId =
    (StaticFinding.fromCertificate (reviewed resource growthId starts gaps)).certificateId) =
      some (reviewed resource growthId starts gaps) from found]
  simp only [agrees, require, if_true, bind, Except.bind]
  rw [show reviewedEntries.lookup (StaticFinding.fromCertificate
    (reviewed resource growthId starts gaps)).entryId = some Entries.sampleEntry from entry]
  simp only [own]
  rw [show (amplifications.find? fun item => item.text = (classes.lookup
    ((StaticFinding.fromCertificate (reviewed resource growthId starts gaps)).entryId,
      (StaticFinding.fromCertificate (reviewed resource growthId starts gaps)).growthId)).getD
        "unknown") = some amplification from amplified]
  rfl

/-- A certificate without gaps, of a finding without amplification. -/
def plainCertificate : LifecycleCertificate :=
  reviewed "resource:cache" "growth:a" (by decide) .empty

/-- A certificate with a gap, of a finding that grows superlinearly. -/
def gappedCertificate : LifecycleCertificate :=
  reviewed "resource:cache" "growth:b" (by decide) (TextSet.single "gap" (by decide))

/-- A certificate of another resource. -/
def queueCertificate : LifecycleCertificate :=
  reviewed "resource:queue" "growth:c" (by decide) .empty

theorem reviewed_finding_id (certificate : LifecycleCertificate) (id : String)
    (own : certificate.certificateId = id) : (StaticFinding.fromCertificate certificate).findingId =
      stableIdentifier "finding" [("certificate_id", .str id)] := by
  rw [StaticFinding.idCanonical, ← own]
  rfl

theorem trio_certificate_ids :
    plainCertificate.certificateId = "certificate:46bde80a3eb063c3f3e5e3ff" ∧
      gappedCertificate.certificateId = "certificate:eeb60e463969dbe3442af293" ∧
      queueCertificate.certificateId = "certificate:4230477435b62626b86bc564" := by
  rw [plainCertificate.idCanonical, gappedCertificate.idCanonical, queueCertificate.idCanonical,
    identifier_codes, identifier_codes, identifier_codes]
  decide +kernel

theorem trio_finding_ids :
    (StaticFinding.fromCertificate plainCertificate).findingId =
        "finding:eb00ca520a22583d696fcf35" ∧
      (StaticFinding.fromCertificate gappedCertificate).findingId =
        "finding:e18851783894b578feab6b75" ∧
      (StaticFinding.fromCertificate queueCertificate).findingId =
        "finding:1974a1326960aa7d916eef63" := by
  obtain ⟨plain, gapped, queue⟩ := trio_certificate_ids
  rw [reviewed_finding_id _ _ plain, reviewed_finding_id _ _ gapped,
    reviewed_finding_id _ _ queue, identifier_codes, identifier_codes, identifier_codes]
  decide +kernel

def pairClasses : List ((String × String) × String) := [(("entry:cache", "growth:b"), "superlinear")]

def plainMember : Member := reviewedMember "resource:cache" plainCertificate .unknown

def gappedMember : Member := reviewedMember "resource:cache" gappedCertificate .superlinear

def queueMember : Member := reviewedMember "resource:queue" queueCertificate .unknown

def trioCertificates : List LifecycleCertificate :=
  [plainCertificate, gappedCertificate, queueCertificate]

def trioFindings : List StaticFinding := trioCertificates.map StaticFinding.fromCertificate

def trioMembers : List Member := [plainMember, gappedMember, queueMember]

theorem plain_placed (later : List LifecycleCertificate) :
    memberOf reviewedEntries [] pairClasses (plainCertificate :: later)
      (StaticFinding.fromCertificate plainCertificate) = .ok plainMember := by
  apply reviewed_placed
  · decide
  · rw [List.find?_cons_of_pos (by simp [plainCertificate])]
    rfl
  · rfl

theorem gapped_placed (later : List LifecycleCertificate) :
    memberOf reviewedEntries [] pairClasses (plainCertificate :: gappedCertificate :: later)
      (StaticFinding.fromCertificate gappedCertificate) = .ok gappedMember := by
  have apart : plainCertificate.certificateId ≠ gappedCertificate.certificateId := by
    obtain ⟨plain, gapped, -⟩ := trio_certificate_ids
    rw [plain, gapped]
    decide
  apply reviewed_placed
  · decide
  · rw [List.find?_cons_of_neg (by rw [decide_eq_true_eq]; exact apart),
      List.find?_cons_of_pos (by simp [gappedCertificate])]
    rfl
  · rfl

theorem queue_placed : memberOf reviewedEntries [] pairClasses trioCertificates
    (StaticFinding.fromCertificate queueCertificate) = .ok queueMember := by
  have others : ∀ item ∈ [plainCertificate, gappedCertificate],
      item.certificateId ≠ queueCertificate.certificateId := by
    simp [trio_certificate_ids]
  apply reviewed_placed
  · decide
  · rw [trioCertificates, List.find?_cons_of_neg
        (by rw [decide_eq_true_eq]; exact others _ (.head _)), List.find?_cons_of_neg
        (by rw [decide_eq_true_eq]; exact others _ (.tail _ (.head _))),
      List.find?_cons_of_pos (by simp [queueCertificate])]
    rfl
  · rfl

theorem trio_aggregated : ∃ built families, Aggregated reviewedEntries [] pairClasses trioFindings
    trioCertificates trioMembers built families := by
  apply placed_builds
  · simp [trioFindings, trioCertificates, trio_finding_ids]
  · simp [trioCertificates, trio_certificate_ids]
  · rfl
  · exact .cons (plain_placed _) (.cons (gapped_placed _) (.cons queue_placed .nil))

theorem pair_ordered : orderedMembers [plainMember, gappedMember] = [plainMember, gappedMember] := by
  have first : plainMember.primaryKey ≤ gappedMember.primaryKey := by
    simp only [Member.primaryKey, Prod.Lex.toLex_le_toLex]
    exact Or.inl (by decide)
  simp [orderedMembers, List.insertionSort, first]

/-- The record of a family of the trio, as its primary, its texts and its resource give it. -/
def trioFamily (primary : String) (findings certificates growths : List String)
    (resource : String) : Members Empty :=
  [("verdict", .str "static_unknown"), ("priority", .str "P2"),
    ("primary_finding_id", .str primary), ("member_finding_ids", texts findings),
    ("member_certificate_ids", texts certificates), ("entry_ids", texts ["entry:cache"]),
    ("growth_ids", texts growths), ("resource_id", .str resource),
    ("reachability_status", .str "unknown"), ("amplification_class", .str "unknown"),
    ("reason_codes", texts [])]

def cacheFamily : Members Empty := trioFamily "finding:eb00ca520a22583d696fcf35"
    ["finding:e18851783894b578feab6b75", "finding:eb00ca520a22583d696fcf35"]
    ["certificate:46bde80a3eb063c3f3e5e3ff", "certificate:eeb60e463969dbe3442af293"]
    ["growth:a", "growth:b"] "resource:cache"

def queueFamily : Members Empty :=
  trioFamily "finding:1974a1326960aa7d916eef63" ["finding:1974a1326960aa7d916eef63"]
    ["certificate:4230477435b62626b86bc564"] ["growth:c"] "resource:queue"

/-- The two resources are two groups, and their families have two names. -/
theorem trio_apart : plainMember.groupKey ≠ queueMember.groupKey ∧
    stableIdentifier "family" cacheFamily ≠ stableIdentifier "family" queueFamily := by
  rw [Member.groupKey, Member.groupKey, identifier_codes, identifier_codes, identifier_codes,
    identifier_codes]
  decide +kernel

theorem pair_key : gappedMember.groupKey = plainMember.groupKey := by
  have gapped : gappedMember.identity = reviewedIdentity "resource:cache" := rfl
  have plain : plainMember.identity = reviewedIdentity "resource:cache" := rfl
  rw [Member.groupKey, Member.groupKey, gapped, plain]

theorem trio_groups : group Member.groupKey trioMembers =
    [(plainMember.groupKey, [plainMember, gappedMember]),
      (queueMember.groupKey, [queueMember])] := by
  have split (one two three : Member) (same : two.groupKey = one.groupKey)
      (apart : one.groupKey ≠ three.groupKey) : group Member.groupKey [one, two, three] =
        [(one.groupKey, [one, two]), (three.groupKey, [three])] := by
    simp [group, place, same, apart]
  exact split _ _ _ pair_key trio_apart.1

theorem queue_semantic (family : FindingFamily)
    (built : groupFamily (queueMember.groupKey, [queueMember]) = .ok family) :
    family.parts.semanticIdentity = queueFamily := by
  have finding : queueMember.finding.findingId = _ := trio_finding_ids.2.2
  have certificate : queueMember.certificate.certificateId = _ := trio_certificate_ids.2.2
  rw [family_semantic queueMember queueMember [queueMember] family built]
  simp only [List.map_cons, List.map_nil, finding, certificate]
  decide

theorem cache_semantic (family : FindingFamily)
    (built : groupFamily (plainMember.groupKey, [plainMember, gappedMember]) = .ok family) :
    family.parts.semanticIdentity = cacheFamily := by
  have plain : plainMember.finding.findingId = _ := trio_finding_ids.1
  have gapped : gappedMember.finding.findingId = _ := trio_finding_ids.2.1
  have plainOwn : plainMember.certificate.certificateId = _ := trio_certificate_ids.1
  have gappedOwn : gappedMember.certificate.certificateId = _ := trio_certificate_ids.2.1
  rw [groupFamily, pair_ordered] at built
  rw [family_semantic _ _ _ family built]
  simp only [List.map_cons, List.map_nil, plain, gapped, plainOwn, gappedOwn]
  decide

theorem pair_free (lead : String) (one other : Members Empty)
    (apart : stableIdentifier lead one ≠ stableIdentifier lead other) :
    ∀ left ∈ [one, other], ∀ right ∈ [one, other], IdentifierFree lead left right := by
  intro left leftIn right rightIn same
  simp only [List.mem_cons, List.not_mem_nil, or_false] at leftIn rightIn
  rcases leftIn with rfl | rfl <;> rcases rightIn with rfl | rfl
  · rfl
  · exact absurd same apart
  · exact absurd same.symm apart
  · rfl

theorem trio_identities_free : ∀ left ∈ trioFindings, ∀ right ∈ trioFindings, ∀ one other,
    memberOf reviewedEntries [] pairClasses trioCertificates left = .ok one →
    memberOf reviewedEntries [] pairClasses trioCertificates right = .ok other →
    IdentifierFree "family_group" one.identity.toDict other.identity.toDict := by
  have known (finding : StaticFinding) (inside : finding ∈ trioFindings) (member : Member)
      (own : memberOf reviewedEntries [] pairClasses trioCertificates finding = .ok member) :
      member.identity.toDict ∈
        [(reviewedIdentity "resource:cache").toDict, (reviewedIdentity "resource:queue").toDict] := by
    obtain ⟨_, _, run⟩ := trio_aggregated
    obtain ⟨placed, placedIn, found⟩ := related_left run.placed finding inside
    rw [Except.ok.inj (own.symm.trans found)]
    simp only [trioMembers, List.mem_cons, List.not_mem_nil, or_false] at placedIn
    rcases placedIn with rfl | rfl | rfl
    · exact .head _
    · exact .head _
    · exact .tail _ (.head _)
  intro left leftIn right rightIn one other leftOwn rightOwn
  exact pair_free _ _ _ trio_apart.1 _ (known left leftIn one leftOwn) _
    (known right rightIn other rightOwn)

/-- Two findings of one resource and one of another make two families. -/
theorem trio_partition : ∃ families : List FindingFamily, families.length = 2 ∧ families.Nodup ∧
    ∀ finding ∈ trioFindings, ∃! family, family ∈ families ∧
      finding.findingId ∈ family.parts.memberFindingIds.1.values := by
  obtain ⟨built, families, run⟩ := trio_aggregated
  have two : built.length = 2 := by
    rw [← run.grouped.length_eq, trio_groups]
    rfl
  have semantic (family : FindingFamily) (inside : family ∈ families) :
      family.parts.semanticIdentity ∈ [cacheFamily, queueFamily] := by
    obtain ⟨held, heldIn, own⟩ := related_right run.grouped family
      ((mem_families run family).mp inside)
    rw [trio_groups] at heldIn
    simp only [List.mem_cons, List.not_mem_nil, or_false] at heldIn
    rcases heldIn with rfl | rfl
    · exact cache_semantic family own ▸ .head _
    · exact queue_semantic family own ▸ .tail _ (.head _)
  have partition := families_partition _ _ _ _ _ families
    ((build_iff _ _ _ _ _ _).mpr ⟨_, _, run⟩) ⟨trio_identities_free, fun left leftIn right rightIn =>
      pair_free _ _ _ trio_apart.2 _ (semantic left leftIn) _ (semantic right rightIn)⟩
  exact ⟨families, by rw [run.sorted, List.length_insertionSort, two], partition.1, partition.2.1⟩

end DosWeb.Report
