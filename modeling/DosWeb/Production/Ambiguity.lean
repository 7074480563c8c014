import DosWeb.Conclude.Soundness
import DosWeb.Library.Grouping
import DosWeb.Production.AssociationLaws

/-!
When an association is ambiguous, and when it aborts.
-/

namespace DosWeb.Production

open Library Library.Keyed Library.OrderedSet Identifiers
open Entries (EntryFact sampleEntry sample_entry_id registrationSiteIdentity semanticKey narrowedBy narrowed_filled
  narrowed_mem narrowed_congr)
open Flows (FlowRow)
open Growth (CandidateEntryLink GrowthCandidate LinkStatus linkIdentity)

section

variable (candidate : GrowthCandidate) (entries : EntryMap) (associationRows flowRows : List FlowRow)

/-- Links of different contents have different identifiers. -/
def LinksApart : Prop := ∀ left ∈ rowMatches candidate entries associationRows,
    ∀ right ∈ rowMatches candidate entries associationRows, ∀ one other,
      matchLink candidate flowRows left = .ok one → matchLink candidate flowRows right = .ok other →
        IdentifierFree "candidate_link" (linkSemantics one.2) (linkSemantics other.2)

def Noted : Prop :=
  ∀ matched ∈ rowMatches candidate entries associationRows, matched.1.coverageNote ≠ ""

def Sole (entry : EntryFact) : Prop := rowMatches candidate entries associationRows ≠ [] ∧
    ∀ matched ∈ rowMatches candidate entries associationRows, matched.2 = entry

/-- The matches of a sole entry are all witnessed, or none of them is. -/
def Unmixed : Prop := ∀ entry, Sole candidate entries associationRows entry →
    ∀ left ∈ rowMatches candidate entries associationRows,
      ∀ right ∈ rowMatches candidate entries associationRows,
        witnessed candidate flowRows left = witnessed candidate flowRows right

/-- The matches of base pipeline registrations make one claim. -/
def BaseAlone : Prop :=
  ∃ base ∈ rowMatches candidate entries associationRows, nettyBase base.2 = true ∧
    ∀ other ∈ rowMatches candidate entries associationRows, nettyBase other.2 = true →
      SameClaim candidate flowRows other base

/-- Matches of one registration site and one status have different registration patterns, and no
base registration stands for them. -/
structure PatternsClash : Prop where
  site : ∀ left ∈ rowMatches candidate entries associationRows,
    ∀ right ∈ rowMatches candidate entries associationRows,
      registrationSiteIdentity left.2 = registrationSiteIdentity right.2
  status : ∀ left ∈ rowMatches candidate entries associationRows,
    ∀ right ∈ rowMatches candidate entries associationRows,
      matchStatus candidate flowRows left = matchStatus candidate flowRows right
  base : ¬ BaseAlone candidate entries associationRows flowRows
  patterns : ¬ ∀ left ∈ narrowedBy candidate.demandNames
      ((rowMatches candidate entries associationRows).map Prod.snd),
    ∀ right ∈ narrowedBy candidate.demandNames
      ((rowMatches candidate entries associationRows).map Prod.snd),
      left.registrationPatternId = right.registrationPatternId

/-- The association is returned, and that of a sole entry is not ambiguous: it is complete if a
match is witnessed, and partial otherwise. -/
structure Associates : Prop where
  returned : ∃ association,
    candidateAssociation candidate flowRows entries associationRows = .ok association
  settled : ∀ association,
    candidateAssociation candidate flowRows entries associationRows = .ok association →
      ∀ entry, Sole candidate entries associationRows entry → association.2.associationStatus =
          if ∃ matched ∈ rowMatches candidate entries associationRows,
            witnessed candidate flowRows matched = true then .complete else .partialLink

structure LinkedMatches (linked : List (EntryFact × CandidateEntryLink)) : Prop where
  distinct : linked.Nodup
  made : ∀ pair ∈ linked, ∃ matched ∈ rowMatches candidate entries associationRows,
    matchLink candidate flowRows matched = .ok pair
  reached : ∀ matched ∈ rowMatches candidate entries associationRows, ∃ pair ∈ linked,
    matchLink candidate flowRows matched = .ok pair

theorem matched_entry (matched : FlowRow × EntryFact)
    (inside : matched ∈ rowMatches candidate entries associationRows) :
    matched.2 ∈ entries.entries := by
  obtain ⟨row, _, held⟩ := List.mem_flatMap.mp inside
  obtain ⟨entry, listed, rfl⟩ := List.mem_map.mp held
  exact List.mem_of_mem_filter listed

theorem linked_of_rows (linked : List (EntryFact × CandidateEntryLink))
    (apart : LinksApart candidate entries associationRows flowRows)
    (ran : (rowMatches candidate entries associationRows).mapM (matchLink candidate flowRows) =
      .ok linked) : LinkedMatches candidate entries associationRows flowRows
      (collapse (fun pair => pair.2.linkId) linked) := by
  have all := mapM_ok.mp ran
  have made : ∀ pair ∈ linked, ∃ matched ∈ rowMatches candidate entries associationRows,
      matchLink candidate flowRows matched = .ok pair :=
    fun pair inside => Grouping.related_right all pair inside
  -- one identifier is one link, and the entry is the one that the map has under its identifier
  have identified : ∀ one ∈ linked, ∀ other ∈ linked, one.2.linkId = other.2.linkId →
      one = other := by
    intro one oneHeld other otherHeld same
    obtain ⟨left, leftHeld, leftMade⟩ := made one oneHeld
    obtain ⟨right, rightHeld, rightMade⟩ := made other otherHeld
    have links : one.2 = other.2 := by
      apply link_of_semantics
      apply apart left leftHeld right rightHeld one other leftMade rightMade
      rw [linkSemantics, linkSemantics, ← one.2.idCanonical, ← other.2.idCanonical, same]
    have leftKnown := (match_link_iff candidate flowRows left one).mp leftMade
    have rightKnown := (match_link_iff candidate flowRows right other).mp rightMade
    have entry : left.2 = right.2 := by
      apply List.inj_on_of_nodup_map entries.distinct
        (matched_entry candidate entries associationRows left leftHeld)
        (matched_entry candidate entries associationRows right rightHeld)
      rw [← leftKnown.2.2.2.1, ← rightKnown.2.2.2.1, links]
    exact Prod.ext (by rw [leftKnown.2.1, rightKnown.2.1, entry]) links
  refine ⟨collapse_nodup _ linked, ?_, ?_⟩
  · intro pair inside
    exact made pair (mem_collapse _ linked pair inside)
  · intro matched inside
    obtain ⟨pair, held, own⟩ := related_left all matched inside
    exact ⟨pair, (mem_collapse_iff _ linked identified pair).mpr held, own⟩

section

variable (linked : List (EntryFact × CandidateEntryLink))
  (known : LinkedMatches candidate entries associationRows flowRows linked)
include known

theorem linked_filled (some_ : rowMatches candidate entries associationRows ≠ []) : linked ≠ [] := by
  obtain ⟨matched, inside⟩ := List.exists_mem_of_ne_nil _ some_
  obtain ⟨pair, held, _⟩ := known.reached matched inside
  exact List.ne_nil_of_mem held

theorem linked_agree {α : Type} [DecidableEq α] (ofPair : EntryFact × CandidateEntryLink → α)
    (ofMatch : FlowRow × EntryFact → α)
    (related : ∀ matched pair, matchLink candidate flowRows matched = .ok pair →
      ofPair pair = ofMatch matched) (some_ : rowMatches candidate entries associationRows ≠ []) :
    oneValue (linked.map ofPair) = true ↔ ∀ left ∈ rowMatches candidate entries associationRows,
        ∀ right ∈ rowMatches candidate entries associationRows, ofMatch left = ofMatch right := by
  have filled := linked_filled candidate entries associationRows flowRows linked known some_
  rw [one_value_agree _ (by simpa using filled)]
  constructor
  · intro agree left leftHeld right rightHeld
    obtain ⟨one, oneHeld, oneMade⟩ := known.reached left leftHeld
    obtain ⟨other, otherHeld, otherMade⟩ := known.reached right rightHeld
    rw [← related left one oneMade, ← related right other otherMade]
    exact agree _ (List.mem_map_of_mem oneHeld) _ (List.mem_map_of_mem otherHeld)
  · intro agree left leftHeld right rightHeld
    obtain ⟨one, oneHeld, rfl⟩ := List.mem_map.mp leftHeld
    obtain ⟨other, otherHeld, rfl⟩ := List.mem_map.mp rightHeld
    obtain ⟨first, firstHeld, firstMade⟩ := known.made one oneHeld
    obtain ⟨second, secondHeld, secondMade⟩ := known.made other otherHeld
    rw [related first one firstMade, related second other secondMade]
    exact agree first firstHeld second secondHeld

theorem linked_entries (entry : EntryFact) : entry ∈ linked.map Prod.fst ↔
    entry ∈ (rowMatches candidate entries associationRows).map Prod.snd := by
  constructor
  · intro inside
    obtain ⟨pair, held, rfl⟩ := List.mem_map.mp inside
    obtain ⟨matched, own, made⟩ := known.made pair held
    rw [((match_link_iff candidate flowRows matched pair).mp made).2.1]
    exact List.mem_map_of_mem own
  · intro inside
    obtain ⟨matched, held, rfl⟩ := List.mem_map.mp inside
    obtain ⟨pair, own, made⟩ := known.reached matched held
    rw [← ((match_link_iff candidate flowRows matched pair).mp made).2.1]
    exact List.mem_map_of_mem own

theorem base_alone_iff : BaseAlone candidate entries associationRows flowRows ↔
    ∃ base, (linked.filter fun pair => nettyBase pair.1) = [base] := by
  have own : ∀ matched pair, matchLink candidate flowRows matched = .ok pair →
      nettyBase pair.1 = nettyBase matched.2 := by
    intro matched pair made
    rw [((match_link_iff candidate flowRows matched pair).mp made).2.1]
  rw [← List.length_eq_one_iff, length_one_iff _ (known.distinct.filter _)]
  constructor
  · intro alone
    obtain ⟨base, baseHeld, isBase, claims⟩ := alone
    obtain ⟨pair, pairHeld, pairMade⟩ := known.reached base baseHeld
    refine ⟨pair, List.mem_filter.mpr ⟨pairHeld, (own base pair pairMade).trans isBase⟩, ?_⟩
    intro other inside
    obtain ⟨otherHeld, otherBase⟩ := List.mem_filter.mp inside
    obtain ⟨matched, matchedHeld, matchedMade⟩ := known.made other otherHeld
    apply (same_claim_iff candidate flowRows matched base other pair matchedMade pairMade).mpr
    exact claims matched matchedHeld ((own matched other matchedMade).symm.trans otherBase)
  · intro single
    obtain ⟨pair, inside, only⟩ := single
    obtain ⟨pairHeld, pairBase⟩ := List.mem_filter.mp inside
    obtain ⟨base, baseHeld, baseMade⟩ := known.made pair pairHeld
    refine ⟨base, baseHeld, (own base pair baseMade).symm.trans pairBase, ?_⟩
    intro other otherHeld otherBase
    obtain ⟨link, linkHeld, linkMade⟩ := known.reached other otherHeld
    apply (same_claim_iff candidate flowRows other base link pair linkMade baseMade).mp
    exact only link (List.mem_filter.mpr ⟨linkHeld, (own other link linkMade).trans otherBase⟩)

section

variable (some_ : rowMatches candidate entries associationRows ≠ [])

include some_

theorem linked_site : (oneValue (linked.map fun pair => registrationSiteIdentity pair.1) = true) ↔
      ∀ left ∈ rowMatches candidate entries associationRows,
        ∀ right ∈ rowMatches candidate entries associationRows,
          registrationSiteIdentity left.2 = registrationSiteIdentity right.2 := by
  apply linked_agree candidate entries associationRows flowRows linked known
    (fun pair => registrationSiteIdentity pair.1) (fun matched => registrationSiteIdentity matched.2)
  · intro matched pair made
    rw [((match_link_iff candidate flowRows matched pair).mp made).2.1]
  · exact some_

theorem linked_status : (oneValue (linked.map fun pair => pair.2.status) = true) ↔
      ∀ left ∈ rowMatches candidate entries associationRows,
        ∀ right ∈ rowMatches candidate entries associationRows,
          matchStatus candidate flowRows left = matchStatus candidate flowRows right := by
  apply linked_agree candidate entries associationRows flowRows linked known
    (fun pair => pair.2.status) (matchStatus candidate flowRows)
  · intro matched pair made
    exact ((match_link_iff candidate flowRows matched pair).mp made).2.2.2.2.1
  · exact some_

theorem shared_site_iff : sharedSite linked = true ↔ 1 < linked.length ∧
      (∀ left ∈ rowMatches candidate entries associationRows,
        ∀ right ∈ rowMatches candidate entries associationRows,
          registrationSiteIdentity left.2 = registrationSiteIdentity right.2) ∧
      ∀ left ∈ rowMatches candidate entries associationRows,
        ∀ right ∈ rowMatches candidate entries associationRows,
          matchStatus candidate flowRows left = matchStatus candidate flowRows right := by
  have site := linked_site candidate entries associationRows flowRows linked known some_
  have status := linked_status candidate entries associationRows flowRows linked known some_
  rw [sharedSite, Bool.and_eq_true, Bool.and_eq_true, decide_eq_true_iff, and_assoc]
  exact and_congr_right fun _ => and_congr site status

theorem associate_linked_iff : (∃ association, associateLinked candidate linked = .ok association) ↔
      ¬ PatternsClash candidate entries associationRows flowRows := by
  have filled := linked_filled candidate entries associationRows flowRows linked known some_
  have shared := shared_site_iff candidate entries associationRows flowRows linked known some_
  have alone := base_alone_iff candidate entries associationRows flowRows linked known
  have same := linked_entries candidate entries associationRows flowRows linked known
  have narrowed := narrowed_congr candidate.demandNames _ _ same
  by_cases site : sharedSite linked = true
  · obtain ⟨_, sites, statuses⟩ := shared.mp site
    by_cases base : BaseAlone candidate entries associationRows flowRows
    · obtain ⟨pair, sole⟩ := alone.mp base
      obtain ⟨association, made, _⟩ := associate_base candidate linked site pair sole
      exact iff_of_true ⟨association, made⟩ fun clash => clash.base base
    · have several : ∀ pair, (linked.filter fun pair => nettyBase pair.1) ≠ [pair] :=
        fun pair sole => base (alone.mpr ⟨pair, sole⟩)
      have entrySites : ∀ left ∈ linked.map Prod.fst, ∀ right ∈ linked.map Prod.fst,
          registrationSiteIdentity left = registrationSiteIdentity right := by
        intro left leftHeld right rightHeld
        obtain ⟨one, oneHeld, rfl⟩ := List.mem_map.mp ((same left).mp leftHeld)
        obtain ⟨other, otherHeld, rfl⟩ := List.mem_map.mp ((same right).mp rightHeld)
        exact sites one oneHeld other otherHeld
      have found := canonical_match_iff candidate (linked.map Prod.fst) (by simpa using filled)
        entrySites
      simp only [narrowed] at found
      constructor
      · intro ran clash
        obtain ⟨association, made⟩ := ran
        apply associate_stuck candidate linked site several _ association made
        intro entry own
        exact clash.patterns (found.mp ⟨entry, own⟩)
      · intro clashless
        have agree := not_not.mp fun patterns => clashless ⟨sites, statuses, base, patterns⟩
        obtain ⟨entry, own⟩ := found.mpr agree
        obtain ⟨association, made, _⟩ := associate_other candidate linked site several entry own
        exact ⟨association, made⟩
  · obtain ⟨association, made, _⟩ := associate_unshared candidate linked (by simpa using site)
    refine iff_of_true ⟨association, made⟩ ?_
    intro clash
    have few : ¬ 1 < linked.length :=
      fun many => site (shared.mpr ⟨many, clash.site, clash.status⟩)
    have one : linked.length = 1 := by
      have positive := List.length_pos_iff.mpr filled
      omega
    obtain ⟨pair, rfl⟩ := List.length_eq_one_iff.mp one
    apply clash.patterns
    intro left leftHeld right rightHeld
    have leftOwn := (same left).mpr (narrowed_mem _ _ left leftHeld)
    have rightOwn := (same right).mpr (narrowed_mem _ _ right rightHeld)
    rw [List.map_singleton, List.mem_singleton] at leftOwn rightOwn
    rw [leftOwn, rightOwn]

theorem associate_status (status : LinkStatus)
    (sites : ∀ left ∈ rowMatches candidate entries associationRows,
      ∀ right ∈ rowMatches candidate entries associationRows, registrationSiteIdentity left.2 = registrationSiteIdentity right.2)
    (each : ∀ matched ∈ rowMatches candidate entries associationRows,
      matchStatus candidate flowRows matched = status)
    (association : Association) (ran : associateLinked candidate linked = .ok association) :
    association.2.associationStatus = statusOfLink status := by
  have filled := linked_filled candidate entries associationRows flowRows linked known some_
  have shared := shared_site_iff candidate entries associationRows flowRows linked known some_
  have pairs : ∀ pair ∈ linked, pair.2.status = status := by
    intro pair held
    obtain ⟨matched, own, made⟩ := known.made pair held
    rw [((match_link_iff candidate flowRows matched pair).mp made).2.2.2.2.1]
    exact each matched own
  by_cases site : sharedSite linked = true
  · by_cases base : ∃ pair, (linked.filter fun pair => nettyBase pair.1) = [pair]
    · obtain ⟨pair, sole⟩ := base
      obtain ⟨other, made, same⟩ := associate_base candidate linked site pair sole
      cases ran.symm.trans made
      have held : pair ∈ linked.filter fun pair => nettyBase pair.1 := by
        rw [sole]
        exact List.mem_singleton_self pair
      rw [same, pairs pair (List.mem_of_mem_filter held)]
    · have several : ∀ pair, (linked.filter fun pair => nettyBase pair.1) ≠ [pair] :=
        fun pair sole => base ⟨pair, sole⟩
      by_cases found : ∃ entry, canonicalMatch candidate (linked.map Prod.fst) = .ok entry
      · obtain ⟨entry, own⟩ := found
        obtain ⟨other, made, same⟩ := associate_other candidate linked site several entry own
        cases ran.symm.trans made
        obtain ⟨pair, held⟩ := List.exists_mem_of_ne_nil linked filled
        have merged : (if linked.all fun pair => pair.2.status = .complete then .complete
            else .partialLink) = status := by
          cases status with
          | complete => rw [if_pos (List.all_eq_true.mpr fun pair held => by simp [pairs pair held])]
          | partialLink =>
            rw [if_neg]
            intro all
            have own := List.all_eq_true.mp all pair held
            rw [pairs pair held] at own
            cases own
        rw [same, merged]
      · exact absurd ran (associate_stuck candidate linked site several
          (fun entry own => found ⟨entry, own⟩) association)
  · obtain ⟨other, made, single, _⟩ := associate_unshared candidate linked (by simpa using site)
    cases ran.symm.trans made
    have few : ¬ 1 < linked.length := by
      intro many
      refine site (shared.mpr ⟨many, sites, ?_⟩)
      intro left leftHeld right rightHeld
      rw [each left leftHeld, each right rightHeld]
    have one : linked.length = 1 := by
      have positive := List.length_pos_iff.mpr filled
      omega
    obtain ⟨pair, sole⟩ := List.length_eq_one_iff.mp one
    rw [single pair sole, pairs pair (by rw [sole]; exact List.mem_singleton_self pair)]

theorem associate_mixed (left right : FlowRow × EntryFact)
    (leftHeld : left ∈ rowMatches candidate entries associationRows)
    (rightHeld : right ∈ rowMatches candidate entries associationRows)
    (differ : matchStatus candidate flowRows left ≠ matchStatus candidate flowRows right) :
    ∃ association, associateLinked candidate linked = .ok association ∧
      association.2.associationStatus = .ambiguous := by
  have shared := shared_site_iff candidate entries associationRows flowRows linked known some_
  have unshared : sharedSite linked = false := by
    apply Bool.eq_false_iff.mpr
    intro site
    exact differ ((shared.mp site).2.2 left leftHeld right rightHeld)
  obtain ⟨association, made, _, several⟩ := associate_unshared candidate linked unshared
  refine ⟨association, made, several ?_⟩
  intro pair sole
  obtain ⟨one, oneHeld, oneMade⟩ := known.reached left leftHeld
  obtain ⟨other, otherHeld, otherMade⟩ := known.reached right rightHeld
  rw [sole, List.mem_singleton] at oneHeld otherHeld
  apply differ
  rw [← ((match_link_iff candidate flowRows left one).mp oneMade).2.2.2.2.1,
    ← ((match_link_iff candidate flowRows right other).mp otherMade).2.2.2.2.1, oneHeld, otherHeld]

end

end

theorem unmatched_total (none_ : rowMatches candidate entries associationRows = []) :
    ∃ association, candidateAssociation candidate flowRows entries associationRows =
      .ok association := by
  unfold candidateAssociation
  simp only [none_, List.mapM_nil, pure_bind, ne_eq, not_true_eq_false, if_false]
  split
  · obtain ⟨association, made, _⟩ := unlinked_total candidate .missing
      "ASSOCIATION_ENTRY_COVERAGE_UNPROVEN" (by decide)
    exact ⟨association, made⟩
  · rename_i some_
    split
    · rename_i one
      have filled : entriesAbove candidate entries ≠ [] := some_
      have kept := narrowed_filled candidate.demandNames _ filled
      have agree := (one_value_agree _ (by simpa using filled)).mp one
      obtain ⟨entry, found⟩ := canonical_match_of_one candidate _ filled (Or.inl (by
        apply (one_value_agree _ (by simpa using kept)).mpr
        intro left leftHeld right rightHeld
        obtain ⟨first, firstHeld, rfl⟩ := List.mem_map.mp leftHeld
        obtain ⟨second, secondHeld, rfl⟩ := List.mem_map.mp rightHeld
        exact agree _ (List.mem_map_of_mem (narrowed_mem _ _ first firstHeld)) _
          (List.mem_map_of_mem (narrowed_mem _ _ second secondHeld))))
      obtain ⟨association, made⟩ := associate_nearest_total candidate flowRows [entry]
      exact ⟨association, bind_ok.mpr ⟨entry, found, made⟩⟩
    · exact associate_nearest_total candidate flowRows _

theorem candidate_association_ok (some_ : rowMatches candidate entries associationRows ≠ [])
    (association : Association) :
    candidateAssociation candidate flowRows entries associationRows = .ok association ↔
      ∃ linked, (rowMatches candidate entries associationRows).mapM
          (matchLink candidate flowRows) = .ok linked ∧
        associateLinked candidate (collapse (fun pair => pair.2.linkId) linked) =
          .ok association := by
  unfold candidateAssociation
  rw [bind_ok]
  constructor
  · intro ran
    obtain ⟨linked, made, rest⟩ := ran
    refine ⟨linked, made, ?_⟩
    rw [if_pos] at rest
    · exact rest
    · intro none_
      rw [none_] at made
      exact some_ (List.forall₂_nil_right_iff.mp (mapM_ok.mp made))
  · intro ran
    obtain ⟨linked, made, rest⟩ := ran
    refine ⟨linked, made, ?_⟩
    rw [if_pos]
    · exact rest
    · intro none_
      rw [none_] at made
      exact some_ (List.forall₂_nil_right_iff.mp (mapM_ok.mp made))

/-- An association is returned where every match has a coverage note and no patterns clash. -/
theorem returned_iff (apart : LinksApart candidate entries associationRows flowRows) :
    (∃ association, candidateAssociation candidate flowRows entries associationRows =
      .ok association) ↔ Noted candidate entries associationRows ∧
        ¬ PatternsClash candidate entries associationRows flowRows := by
  by_cases some_ : rowMatches candidate entries associationRows = []
  · refine iff_of_true (unmatched_total candidate entries associationRows flowRows some_) ⟨?_, ?_⟩
    · intro matched inside
      rw [some_] at inside
      cases inside
    · intro clash
      apply clash.patterns
      rw [some_]
      intro left inside
      exact absurd (narrowed_mem _ _ left inside) List.not_mem_nil
  · simp only [candidate_association_ok candidate entries associationRows flowRows some_]
    constructor
    · intro ran
      obtain ⟨association, linked, made, rest⟩ := ran
      have known := linked_of_rows candidate entries associationRows flowRows linked apart made
      constructor
      · intro matched inside
        obtain ⟨pair, _, own⟩ := related_left (mapM_ok.mp made) matched inside
        exact (match_link_total candidate flowRows matched).mp ⟨pair, own⟩
      · exact (associate_linked_iff candidate entries associationRows flowRows _ known some_).mp
          ⟨association, rest⟩
    · intro both
      obtain ⟨noted, clashless⟩ := both
      obtain ⟨linked, made⟩ := mapM_total (matchLink candidate flowRows) _ fun matched inside =>
        (match_link_total candidate flowRows matched).mpr (noted matched inside)
      have known := linked_of_rows candidate entries associationRows flowRows linked apart made
      obtain ⟨association, rest⟩ := (associate_linked_iff candidate entries associationRows
        flowRows _ known some_).mpr clashless
      exact ⟨association, linked, made, rest⟩

/-- The association of a sole entry has the status of its matches where they are of one. -/
theorem settled_iff (apart : LinksApart candidate entries associationRows flowRows)
    (association : Association)
    (ran : candidateAssociation candidate flowRows entries associationRows = .ok association)
    (entry : EntryFact) (sole : Sole candidate entries associationRows entry) :
    (association.2.associationStatus = if ∃ matched ∈ rowMatches candidate entries associationRows,
        witnessed candidate flowRows matched = true then .complete else .partialLink) ↔
      ∀ left ∈ rowMatches candidate entries associationRows,
        ∀ right ∈ rowMatches candidate entries associationRows,
          witnessed candidate flowRows left = witnessed candidate flowRows right := by
  obtain ⟨linked, made, rest⟩ :=
    (candidate_association_ok candidate entries associationRows flowRows sole.1 _).mp ran
  have known := linked_of_rows candidate entries associationRows flowRows linked apart made
  constructor
  · intro settled left leftHeld right rightHeld
    by_contra differ
    obtain ⟨other, otherMade, ambiguous⟩ := associate_mixed candidate entries associationRows
      flowRows _ known sole.1 left right leftHeld rightHeld
      fun same => differ ((status_iff candidate flowRows left right).mp same)
    cases rest.symm.trans otherMade
    rw [ambiguous] at settled
    split at settled <;> cases settled
  · intro alike
    obtain ⟨first, firstHeld⟩ := List.exists_mem_of_ne_nil _ sole.1
    have status := associate_status candidate entries associationRows flowRows _ known sole.1
      (matchStatus candidate flowRows first)
      (fun left leftHeld right rightHeld => by rw [sole.2 left leftHeld, sole.2 right rightHeld])
      (fun matched inside => (status_iff candidate flowRows matched first).mpr
        (alike matched inside first firstHeld)) association rest
    rw [status, matchStatus]
    by_cases own : witnessed candidate flowRows first = true
    · rw [if_pos own, if_pos ⟨first, firstHeld, own⟩]
      rfl
    · rw [if_neg own, if_neg]
      · rfl
      · intro some_
        obtain ⟨matched, inside, held⟩ := some_
        exact own ((alike first firstHeld matched inside).trans held)

/-- An association is returned, and is ambiguous for several entries only, exactly where every
match has a coverage note, the matches of a sole entry are all witnessed or all not, and no
registration patterns clash. -/
theorem association_iff (apart : LinksApart candidate entries associationRows flowRows) :
    Associates candidate entries associationRows flowRows ↔
      Noted candidate entries associationRows ∧ Unmixed candidate entries associationRows flowRows ∧
      ¬ PatternsClash candidate entries associationRows flowRows := by
  have returned := returned_iff candidate entries associationRows flowRows apart
  constructor
  · intro associates
    obtain ⟨noted, clashless⟩ := returned.mp associates.returned
    obtain ⟨association, ran⟩ := associates.returned
    refine ⟨noted, ?_, clashless⟩
    intro entry sole
    apply (settled_iff candidate entries associationRows flowRows apart association ran entry
      sole).mp
    exact associates.settled association ran entry sole
  · intro all
    obtain ⟨noted, unmixed, clashless⟩ := all
    refine ⟨returned.mpr ⟨noted, clashless⟩, ?_⟩
    intro association ran entry sole
    exact (settled_iff candidate entries associationRows flowRows apart association ran entry
      sole).mpr (unmixed entry sole)

end

open Growth (sampleCandidate)

def otherPattern : String :=
  "entry-registration-coverage:spring_mvc:annotation_mapping:spring_spel_source_default_modeled_entry"

/-- The sample entry as another query models its registration. -/
def otherEntry : EntryFact where
  __ := sampleEntry
  entryId := "entry:0faca499b298f30267f6a433"
  registrationPatternId := otherPattern
  patternModeled := by decide +kernel
  idCanonical := by
    rw [identifier_codes]
    decide +kernel

theorem other_entry_id : otherEntry.entryId = "entry:0faca499b298f30267f6a433" := rfl

def sampleRow : FlowRow where
  sourceFile := "src/Cache.java"
  sourceStartLine := 9
  sinkFile := "src/Cache.java"
  sinkStartLine := 12
  attackerTarget := "key"
  attackerSource := "token"
  attackerSink := "token"
  callPath := "Cache.put"
  phaseSequence := "entry>growth"
  flowKind := "unmodeled"
  confidence := "partial"
  coverageStatus := "partial"
  coverageNote := "call_graph"

def soleMap : EntryMap := ⟨[sampleEntry], List.nodup_singleton _⟩

def twinMap : EntryMap where
  entries := [sampleEntry, otherEntry]
  distinct := by
    simp only [List.map_cons, List.map_nil, sample_entry_id, other_entry_id]
    decide

/-- The sample row leads to the sample candidate from each of the two entries. -/
theorem twin_facts : atSink sampleCandidate sampleRow = true ∧
    ∀ entry ∈ [sampleEntry, otherEntry], resolvesTo sampleRow entry = true ∧
      nettyBase entry = false ∧ Entries.readsOneOf sampleCandidate.demandNames entry = true := by
  decide +kernel

theorem sample_facts : resolvesTo sampleRow sampleEntry = true ∧ nettyBase sampleEntry = false ∧
    Entries.readsOneOf sampleCandidate.demandNames sampleEntry = true :=
  twin_facts.2 sampleEntry (.head _)

theorem other_facts : resolvesTo sampleRow otherEntry = true ∧ nettyBase otherEntry = false ∧
    Entries.readsOneOf sampleCandidate.demandNames otherEntry = true :=
  twin_facts.2 otherEntry (.tail _ (.head _))

/-- Two paths from one entry. -/
def soleRows : List FlowRow := [sampleRow, { sampleRow with callPath := "Cache.load>Cache.put" }]

theorem sole_matches : rowMatches sampleCandidate soleMap soleRows =
    soleRows.map fun row => (row, sampleEntry) := by
  have second : atSink sampleCandidate { sampleRow with callPath := "Cache.load>Cache.put" } = true ∧
      resolvesTo { sampleRow with callPath := "Cache.load>Cache.put" } sampleEntry = true :=
    ⟨twin_facts.1, sample_facts.1⟩
  simp [rowMatches, soleMap, soleRows, twin_facts.1, sample_facts.1, second]

theorem sole_matched (matched : FlowRow × EntryFact)
    (held : matched ∈ rowMatches sampleCandidate soleMap soleRows) :
    matched.2 = sampleEntry ∧ matched.1.coverageNote = "call_graph" ∧
      witnessed sampleCandidate [] matched = false ∧
      matchReasons sampleCandidate [] matched = ["call_graph", "FLOW_CODEQL_ROW_MISSING"] := by
  rw [sole_matches] at held
  simp only [soleRows, List.map_cons, List.map_nil, List.mem_cons, List.not_mem_nil, or_false] at held
  rcases held with rfl | rfl
  all_goals
    simp [witnessed, claimedComplete, matchReasons, formalFlowRowMatches, associationRowRoute,
      sampleRow]

theorem twin_matches : rowMatches sampleCandidate twinMap [sampleRow] =
    [(sampleRow, sampleEntry), (sampleRow, otherEntry)] := by
  simp [rowMatches, twinMap, twin_facts.1, sample_facts.1, other_facts.1]

theorem sole_apart : LinksApart sampleCandidate soleMap soleRows [] := by
  intro left leftHeld right rightHeld one other leftMade rightMade _
  obtain ⟨leftEntry, -, leftOpen, leftReasons⟩ := sole_matched left leftHeld
  obtain ⟨rightEntry, -, rightOpen, rightReasons⟩ := sole_matched right rightHeld
  obtain ⟨-, -, growth, own, status, evidence, reasons⟩ := (match_link_iff _ _ _ _).mp leftMade
  obtain ⟨-, -, growth', own', status', evidence', reasons'⟩ :=
    (match_link_iff _ _ _ _).mp rightMade
  rw [linkSemantics, linkSemantics, growth, own, status, evidence, reasons, growth', own', status',
    evidence', reasons', matchStatus, matchStatus, leftOpen, rightOpen, leftEntry, rightEntry,
    leftReasons, rightReasons]

/-- The rows of one entry without a witness give a partial association. -/
theorem association_sole : soleRows.length = 2 ∧
    Associates sampleCandidate soleMap soleRows [] := by
  refine ⟨rfl, (association_iff sampleCandidate soleMap soleRows [] sole_apart).mpr ⟨?_, ?_, ?_⟩⟩
  · intro matched held
    rw [(sole_matched matched held).2.1]
    decide
  · intro entry _ left leftHeld right rightHeld
    rw [(sole_matched left leftHeld).2.2.1, (sole_matched right rightHeld).2.2.1]
  · intro clash
    have sole (entry : EntryFact) (inside : entry ∈ narrowedBy sampleCandidate.demandNames
        ((rowMatches sampleCandidate soleMap soleRows).map Prod.snd)) : entry = sampleEntry := by
      obtain ⟨matched, held, rfl⟩ := List.mem_map.mp (narrowed_mem _ _ _ inside)
      exact (sole_matched matched held).1
    exact clash.patterns fun left leftIn right rightIn => by rw [sole left leftIn, sole right rightIn]

def twinLink (entryId : String) : String :=
  stableIdentifier "candidate_link" (linkIdentity "growth:25879b9a334a6a4e946cf705" entryId
    .partialLink (sortedSet ["growth:25879b9a334a6a4e946cf705", entryId])
    (sortedSet ["call_graph", "FLOW_CODEQL_ROW_MISSING"]))

theorem twin_links_differ :
    twinLink "entry:f022e57f3439f0a6a146d962" ≠ twinLink "entry:0faca499b298f30267f6a433" := by
  rw [twinLink, twinLink, identifier_codes, identifier_codes]
  decide +kernel

theorem sample_status (entry : EntryFact) :
    matchStatus sampleCandidate [] (sampleRow, entry) = .partialLink := rfl

theorem twin_link_id (entry : EntryFact) (pair : EntryFact × CandidateEntryLink)
    (made : matchLink sampleCandidate [] (sampleRow, entry) = .ok pair) :
    pair.2.linkId = twinLink entry.entryId := by
  obtain ⟨_, _, growth, own, status, evidence, reasons⟩ := (match_link_iff _ _ _ _).mp made
  have known : sampleCandidate.growthId = "growth:25879b9a334a6a4e946cf705" :=
    Conclude.sample_growth_id
  have codes : matchReasons sampleCandidate [] (sampleRow, entry) =
      ["call_graph", "FLOW_CODEQL_ROW_MISSING"] := by
    simp [matchReasons, formalFlowRowMatches, associationRowRoute, sampleRow]
  rw [pair.2.idCanonical, growth, own, status, evidence, reasons, known, sample_status, codes]
  rfl

theorem twin_apart : LinksApart sampleCandidate twinMap [sampleRow] [] := by
  intro left leftHeld right rightHeld one other leftMade rightMade same
  have ids : one.2.linkId = other.2.linkId := by
    rw [one.2.idCanonical, other.2.idCanonical]
    exact same
  rw [twin_matches] at leftHeld rightHeld
  simp only [List.mem_cons, List.not_mem_nil, or_false] at leftHeld rightHeld
  rcases leftHeld with rfl | rfl <;> rcases rightHeld with rfl | rfl
  · cases leftMade.symm.trans rightMade
    rfl
  · rw [twin_link_id _ _ leftMade, twin_link_id _ _ rightMade, sample_entry_id,
      other_entry_id] at ids
    exact absurd ids twin_links_differ
  · rw [twin_link_id _ _ leftMade, twin_link_id _ _ rightMade, sample_entry_id,
      other_entry_id] at ids
    exact absurd ids.symm twin_links_differ
  · cases leftMade.symm.trans rightMade
    rfl

theorem twin_site : registrationSiteIdentity otherEntry = registrationSiteIdentity sampleEntry := by
  unfold registrationSiteIdentity otherEntry
  rfl

theorem twin_clash : PatternsClash sampleCandidate twinMap [sampleRow] [] := by
  have site : ∀ matched ∈ rowMatches sampleCandidate twinMap [sampleRow],
      registrationSiteIdentity matched.2 = registrationSiteIdentity sampleEntry := by
    intro matched held
    rw [twin_matches] at held
    simp only [List.mem_cons, List.not_mem_nil, or_false] at held
    rcases held with same | same
    · rw [same]
    · rw [same]
      exact twin_site
  have status : ∀ matched ∈ rowMatches sampleCandidate twinMap [sampleRow],
      matchStatus sampleCandidate [] matched = .partialLink := by
    intro matched held
    rw [twin_matches] at held
    simp only [List.mem_cons, List.not_mem_nil, or_false] at held
    rcases held with same | same
    · rw [same]
      exact sample_status sampleEntry
    · rw [same]
      exact sample_status otherEntry
  constructor
  · intro left leftHeld right rightHeld
    rw [site left leftHeld, site right rightHeld]
  · intro left leftHeld right rightHeld
    rw [status left leftHeld, status right rightHeld]
  · intro alone
    obtain ⟨base, held, isBase, _⟩ := alone
    rw [twin_matches] at held
    simp only [List.mem_cons, List.not_mem_nil, or_false] at held
    rcases held with rfl | rfl
    · rw [sample_facts.2.1] at isBase
      cases isBase
    · rw [other_facts.2.1] at isBase
      cases isBase
  · intro agree
    rw [twin_matches] at agree
    have names : narrowedBy sampleCandidate.demandNames
        [sampleEntry, otherEntry] = [sampleEntry, otherEntry] := by
      simp [narrowedBy, sample_facts.2.2, other_facts.2.2]
    simp only [List.map_cons, List.map_nil, names] at agree
    have same := agree sampleEntry (by simp) otherEntry (by simp)
    revert same
    decide

/-- Two models of one registration abort the association. -/
theorem twin_patterns_abort : ¬ ∀ (candidate : GrowthCandidate) (entries : EntryMap)
    (associationRows flowRows : List FlowRow),
      Associates candidate entries associationRows flowRows := by
  intro claimed
  have returned := (claimed sampleCandidate twinMap [sampleRow] []).returned
  exact ((returned_iff _ _ _ _ twin_apart).mp returned).2 twin_clash

end DosWeb.Production
