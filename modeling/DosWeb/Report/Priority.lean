import DosWeb.Report.Partition

/-!
How urgent a family is, against its findings on their own.
-/

namespace DosWeb.Report

open Library.OrderedSet Library.Grouping Identifiers
open Entries (EntryFact)
open Lifecycle (StaticFinding LifecycleCertificate)
open Reachability (ReachabilityDecision)

def Member.ownPriority (member : Member) : FindingPriority :=
  priorityOf member.finding.verdict member.identity.reachabilityStatus member.amplification

def faint (amplificationClass : AmplificationClass) : Bool :=
  amplificationClass = .lowAmplification || amplificationClass = .unknown

/-- An unknown verdict that an amplification raises, under a primary without one. -/
structure Demoted (member : Member) (family : FindingFamily) : Prop where
  unknown : member.finding.verdict = .staticUnknown
  reached : member.identity.reachabilityStatus ≠ .notEntryReachable
  strong : faint member.amplification = false
  primaryFaint : faint family.parts.amplificationClass = true

/-- Fewer coverage gaps, or as many and fewer unresolved facts. -/
def MoreComplete (left right : LifecycleCertificate) : Prop :=
  left.coverageGaps.values.length < right.coverageGaps.values.length ∨
    left.coverageGaps.values.length = right.coverageGaps.values.length ∧
      left.unresolvedFacts.values.length < right.unresolvedFacts.values.length

theorem priority_rank (verdict : Conclude.StaticVerdictName)
    (status : Reachability.ReachabilityStatus) (own elected : AmplificationClass) :
    (priorityOf verdict status own).rank < (priorityOf verdict status elected).rank ↔
      verdict = .staticUnknown ∧ status ≠ .notEntryReachable ∧ faint own = false ∧
        faint elected = true := by
  cases verdict <;> cases status <;> cases own <;> cases elected <;> decide

theorem filled_lt (left right : List String)
    (below : decide (left ≠ []) < decide (right ≠ [])) : left.length < right.length := by
  cases left with
  | nil =>
    cases right with
    | nil => exact absurd below (lt_irrefl _)
    | cons value rest => exact Nat.succ_pos _
  | cons value rest =>
    cases right with
    | nil | cons _ _ => exact absurd below (by simp)

theorem faint_rank (own elected : AmplificationClass) (strong : faint own = false)
    (faintElected : faint elected = true) : -amplificationRank own < -amplificationRank elected := by
  revert strong faintElected
  cases own <;> cases elected <;> decide

theorem elected_first (primary member : Member) (first : primary.primaryKey ≤ member.primaryKey)
    (primaryFaint : faint primary.amplification = true)
    (strong : faint member.amplification = false) :
    MoreComplete primary.certificate member.certificate := by
  have amplified := faint_rank _ _ strong primaryFaint
  simp only [Member.primaryKey, Prod.Lex.toLex_le_toLex] at first
  rcases first with gaps | ⟨_, gaps | ⟨sameGaps, unresolved | ⟨_, unresolved | ⟨_, rank⟩⟩⟩⟩
  · exact Or.inl (filled_lt _ _ gaps)
  · exact Or.inl gaps
  · exact Or.inr ⟨sameGaps, filled_lt _ _ unresolved⟩
  · exact Or.inr ⟨sameGaps, unresolved⟩
  · rcases rank with rank | ⟨rank, _⟩
    · omega
    · omega

section

variable (entries : List (String × EntryFact)) (reachability : List (String × ReachabilityDecision))
  (amplificationClasses : List ((String × String) × String)) (findings : List StaticFinding)
  (certificates : List LifecycleCertificate) (families : List FindingFamily)

structure Ranked (members : List Member) (member : Member) (family : FindingFamily) : Prop where
  ofPrimary : family.parts.priority = priorityOf member.finding.verdict
    member.identity.reachabilityStatus family.parts.amplificationClass
  demotes : member.ownPriority.rank < family.parts.priority.rank ↔ Demoted member family
  elected : ∃ primary ∈ members, primary.finding.findingId = family.parts.primaryFindingId ∧
    primary.amplification = family.parts.amplificationClass ∧
    (member.ownPriority.rank < family.parts.priority.rank →
      MoreComplete primary.certificate member.certificate)

theorem ordered_first (members : List Member) (primary member : Member) (rest : List Member)
    (elected : orderedMembers members = primary :: rest) (inside : member ∈ members) :
    primary.primaryKey ≤ member.primaryKey := by
  have sorted : (orderedMembers members).Pairwise fun left right =>
      left.primaryKey ≤ right.primaryKey := sorted_by_key Member.primaryKey members
  rw [← mem_ordered, elected] at inside
  rw [elected] at sorted
  rcases List.mem_cons.mp inside with rfl | later
  · exact le_rfl
  · exact (List.pairwise_cons.mp sorted).1 member later

/-- A family has the priority of its primary, and is less urgent than a finding of it exactly where
an unknown verdict has lost its amplification to a more complete primary. -/
theorem family_priority
    (accepted : buildFindingFamilies entries reachability amplificationClasses findings certificates =
      .ok families) (free : ∀ left ∈ findings, ∀ right ∈ findings, ∀ one other,
      memberOf entries reachability amplificationClasses certificates left = .ok one →
      memberOf entries reachability amplificationClasses certificates right = .ok other →
      IdentifierFree "family_group" one.identity.toDict other.identity.toDict) :
    ∃ members, List.Forall₂ (fun finding member => memberOf entries reachability
        amplificationClasses certificates finding = .ok member) findings members ∧
      ∀ member ∈ members, ∀ family ∈ families,
        member.finding.findingId ∈ family.parts.memberFindingIds.1.values →
          Ranked members member family := by
  obtain ⟨members, built, run⟩ := (build_iff _ _ _ _ _ _).mp accepted
  refine ⟨members, run.placed, fun member memberIn family familyIn holds => ?_⟩
  obtain ⟨held, heldIn, own⟩ := related_right run.grouped family
    ((mem_families run family).mp familyIn)
  obtain ⟨opener, primary, read⟩ := group_family_read held family own
  have items := ((mem_group _ _ _).mp heldIn).1
  have common (other : Member) (inside : other ∈ held.2) :
      other ∈ members ∧ other.identity = member.identity := by
    have key := (collects_member _ _ (finding_collects run) held heldIn family own member
      memberIn).mp holds
    rw [items, List.mem_filter] at inside
    refine ⟨inside.1, identity_of_canonical _ _ ?_⟩
    obtain ⟨left, leftIn, leftOwn⟩ := related_right run.placed other inside.1
    obtain ⟨right, rightIn, rightOwn⟩ := related_right run.placed member memberIn
    exact free left leftIn right rightIn other member leftOwn rightOwn
      ((of_decide_eq_true inside.2).trans key)
  have verdicts (other : Member) (inside : other ∈ members) :
      other.identity.verdict = other.finding.verdict := by
    obtain ⟨finding, _, placed⟩ := run_member run other inside
    rw [placed.verdict, placed.reads]
  obtain ⟨_, _, primaryId, _, _, amplification, priority⟩ := family_of_parts _ _ _ _ read.family
  obtain ⟨primary', elected⟩ := List.head?_eq_some_iff.mp read.elected
  have primaryIn : primary ∈ held.2 := by
    rw [← mem_ordered, elected]
    exact .head _
  obtain ⟨primaryMember, primarySame⟩ := common primary primaryIn
  have openerSame := (common opener (List.mem_of_mem_head? read.opens)).2
  have memberHeld : member ∈ held.2 := by
    rw [items, List.mem_filter]
    have key := (collects_member _ _ (finding_collects run) held heldIn family own member
      memberIn).mp holds
    exact ⟨memberIn, by simpa using key.symm⟩
  have ofPrimary : family.parts.priority = priorityOf member.finding.verdict
      member.identity.reachabilityStatus family.parts.amplificationClass := by
    rw [priority, openerSame, amplification, ← verdicts primary primaryMember, primarySame,
      verdicts member memberIn]
  have demotes : member.ownPriority.rank < family.parts.priority.rank ↔ Demoted member family := by
    rw [Member.ownPriority, ofPrimary, priority_rank]
    constructor
    · intro all
      exact ⟨all.1, all.2.1, all.2.2.1, all.2.2.2⟩
    · intro demoted
      exact ⟨demoted.unknown, demoted.reached, demoted.strong, demoted.primaryFaint⟩
  refine ⟨ofPrimary, demotes, primary, primaryMember, primaryId.symm, amplification.symm, ?_⟩
  intro below
  have demoted := demotes.mp below
  exact elected_first primary member (ordered_first _ _ _ _ elected memberHeld)
    (by rw [← amplification]; exact demoted.primaryFaint) demoted.strong

end

/-- The families of the trio have the priorities of their primaries. -/
theorem trio_priority : ∃ families, buildFindingFamilies reviewedEntries [] pairClasses trioFindings
      trioCertificates = .ok families ∧
    ∃ members, List.Forall₂ (fun finding member => memberOf reviewedEntries [] pairClasses
        trioCertificates finding = .ok member) trioFindings members ∧
      ∀ member ∈ members, ∀ family ∈ families,
        member.finding.findingId ∈ family.parts.memberFindingIds.1.values →
          Ranked members member family := by
  obtain ⟨built, families, run⟩ := trio_aggregated
  have accepted := (build_iff _ _ _ _ _ _).mpr ⟨_, _, run⟩
  exact ⟨families, accepted, family_priority _ _ _ _ _ _ accepted trio_identities_free⟩

def pairFindings : List StaticFinding :=
  [StaticFinding.fromCertificate plainCertificate, StaticFinding.fromCertificate gappedCertificate]

/-- A gap elects the finding without amplification, and the family falls below the other one. -/
theorem pair_demoted : ∃ family member,
    buildFindingFamilies reviewedEntries [] pairClasses pairFindings
        [plainCertificate, gappedCertificate] = .ok [family] ∧
      memberOf reviewedEntries [] pairClasses [plainCertificate, gappedCertificate]
        (StaticFinding.fromCertificate gappedCertificate) = .ok member ∧
      member.finding.findingId ∈ family.parts.memberFindingIds.1.values ∧
      family.parts.priority = .p2 ∧ member.ownPriority = .p1 := by
  have one (left right : Member) (same : right.groupKey = left.groupKey) :
      group Member.groupKey [left, right] = [(left.groupKey, [left, right])] := by
    simp [group, place, same]
  obtain ⟨built, families, run⟩ := placed_builds pairFindings [plainCertificate, gappedCertificate]
    [plainMember, gappedMember] (by simp [pairFindings, trio_finding_ids])
    (by simp [trio_certificate_ids]) rfl
    (.cons (plain_placed _) (.cons (gapped_placed _) .nil))
  have grouped := run.grouped
  rw [one _ _ pair_key] at grouped
  obtain ⟨family, later, own, none_, rfl⟩ := List.forall₂_cons_left_iff.mp grouped
  cases none_
  have accepted := (build_iff _ _ _ _ _ _).mpr ⟨_, _, run⟩
  rw [run.sorted] at accepted
  rw [groupFamily, pair_ordered] at own
  obtain ⟨findings, _, _, _, _, _, priority⟩ :=
    family_of_parts plainMember plainMember [plainMember, gappedMember] family own
  refine ⟨family, gappedMember, accepted, gapped_placed _, ?_, priority, rfl⟩
  rw [findings, sortedTexts, List.mem_insertionSort]
  exact .tail _ (.head _)

end DosWeb.Report
