import DosWeb.Lifecycle.Releases

namespace DosWeb.Lifecycle

open Library Library.OrderedSet Identifiers

inductive Family where
  | guard
  | bound
  | release
  deriving DecidableEq

def Family.text : Family → String
  | .guard => "guard"
  | .bound => "bound"
  | .release => "release"

def families : List Family := [.guard, .bound, .release]

/-- Coverage as the lifecycle stage publishes it, for rows and candidates alike. -/
inductive Coverage where
  | complete
  | partialCoverage
  | unsupported
  deriving DecidableEq

def Coverage.text : Coverage → String
  | .complete => "complete"
  | .partialCoverage => "partial"
  | .unsupported => "unsupported"

inductive CfgRelation where
  | oneWrapper
  | partialRelation
  deriving DecidableEq

abbrev Site := String × Nat

def lifecycleTextValid (value : String) : Bool :=
  value ≠ "" && !value.toList.contains (Char.ofNat 0) && (Text.utf8 value.toList).length ≤ 1024

theorem valid_id_text (value lead : String) (valid : Growth.validId value lead = true)
    (filled : value ≠ "") : lifecycleTextValid value = true := by
  simp only [Growth.validId, Bool.and_eq_true, decide_eq_true_eq, Growth.identifierShape] at valid
  obtain ⟨⟨short, _⟩, shape⟩ := valid
  split at shape
  · cases shape
  rename_i kind suffix found
  simp only [Bool.and_eq_true, List.all_eq_true] at shape
  have whole := Text.partition_shape _ _ _ _ found
  have printing : value.toList.contains (Char.ofNat 0) = false := by
    rw [List.contains_eq_mem, decide_eq_false_iff_not, whole]
    intro member
    rcases List.mem_append.mp member with inKind | inTail
    · exact absurd (shape.1.1.2 _ inKind) (by decide)
    · rcases List.mem_cons.mp inTail with same | inSuffix
      · exact absurd same (by decide)
      · exact absurd (shape.2 _ inSuffix) (by decide)
  have size : (Text.utf8 value.toList).length ≤ 1024 := by omega
  simp only [lifecycleTextValid, printing, filled, ne_eq, not_false_eq_true, size, decide_true,
    Bool.not_false, Bool.and_self]

theorem stable_identifier_text (lead start : String) (same : start = lead ++ ":")
    (identity : List (String × PlainJson)) (filled : lead.toList ≠ [])
    (short : lead.toList.length ≤ 200) (kinds : ∀ c ∈ lead.toList, Growth.kindChar c = true) :
    lifecycleTextValid (stableIdentifier lead identity) = true :=
  valid_id_text _ _ (Growth.stable_identifier_valid lead start same identity filled short kinds)
    (stable_identifier_nonempty _ _)

/-- The named texts of a record are non-empty and short. -/
def lifecycleTexts : List (String × String) → Checked Unit
  | [] => .ok ()
  | (name, value) :: fields => do
      require (lifecycleTextValid value) (lifecycleInvalid ("Lifecycle " ++ name ++ " is invalid."))
      lifecycleTexts fields

theorem lifecycle_texts_ok (fields : List (String × String))
    (valid : ∀ field ∈ fields, lifecycleTextValid field.2 = true) :
    lifecycleTexts fields = .ok () := by
  induction fields with
  | nil => rfl
  | cons field fields ih =>
    obtain ⟨own, others⟩ := List.forall_mem_cons.mp valid
    simp only [lifecycleTexts, own, require, if_true, ih others, bind, Except.bind]

/-- The evidence of a candidate: its distinct texts in order. -/
def lifecycleEvidence (values : List String) : Checked (List String) := do
  require (values ≠ [] && values.length ≤ 64) (lifecycleInvalid "Lifecycle evidence is invalid.")
  require ((sortedSet values).all fun item =>
      item ≠ "" && (Text.utf8 item.toList).length ≤ 256)
    (lifecycleInvalid "Lifecycle evidence is invalid.")
  return sortedSet values

structure LifecycleCoverage where
  entryId : String
  growthId : String
  pathId : String
  family : Family
  status : Coverage
  reason : String
  deriving DecidableEq

namespace LifecycleCoverage

def create (coverage : LifecycleCoverage) : Checked LifecycleCoverage := do
  lifecycleTexts [("entry_id", coverage.entryId), ("growth_id", coverage.growthId),
    ("path_id", coverage.pathId), ("reason", coverage.reason)]
  return coverage

end LifecycleCoverage

/-- A candidate that one wrapper away from the growth guards, bounds or releases it. -/
structure LifecycleSummary where
  entryId : String
  growthId : String
  pathId : String
  family : Family
  candidate : Site
  callsite : Site
  receiver : Site
  argumentIndex : Int
  resourceDimension : String
  scope : String
  configurationKey : String
  configurationValue : String
  representation : String
  phase : String
  coversMaterialization : Bool
  dominatesGrowth : Bool
  rejectPathReachesGrowth : Bool
  evidence : String
  cfgRelation : CfgRelation
  coverageStatus : Coverage
  coverageNote : String
  deriving DecidableEq

namespace LifecycleSummary

def create (summary : LifecycleSummary) : Checked LifecycleSummary := do
  lifecycleTexts [("entry_id", summary.entryId), ("growth_id", summary.growthId),
    ("path_id", summary.pathId), ("candidate_file", summary.candidate.1),
    ("callsite_file", summary.callsite.1), ("receiver_file", summary.receiver.1),
    ("resource_dimension", summary.resourceDimension), ("scope", summary.scope),
    ("configuration_key", summary.configurationKey),
    ("configuration_value", summary.configurationValue),
    ("representation", summary.representation), ("phase", summary.phase),
    ("evidence", summary.evidence), ("coverage_note", summary.coverageNote)]
  require (0 ≤ summary.argumentIndex) (lifecycleInvalid "Lifecycle summary location is invalid.")
  require (0 < summary.candidate.2 && 0 < summary.callsite.2 && 0 < summary.receiver.2)
    (lifecycleInvalid "Lifecycle summary source location is invalid.")
  return summary

end LifecycleSummary

structure LifecycleEvidence where
  entryId : String
  growthId : String
  pathId : String
  family : Family
  candidateId : String
  growthSite : Site
  candidateSite : Site
  resourceIdentity : String
  fieldIdentity : String
  keyIdentity : String
  sameCfg : Bool
  deriving DecidableEq

namespace LifecycleEvidence

def create (evidence : LifecycleEvidence) : Checked LifecycleEvidence := do
  lifecycleTexts [("entry_id", evidence.entryId), ("growth_id", evidence.growthId),
    ("path_id", evidence.pathId), ("candidate_id", evidence.candidateId),
    ("growth_file", evidence.growthSite.1), ("candidate_file", evidence.candidateSite.1),
    ("resource_identity", evidence.resourceIdentity), ("field_identity", evidence.fieldIdentity),
    ("key_identity", evidence.keyIdentity)]
  require (0 < evidence.growthSite.2 && 0 < evidence.candidateSite.2)
    (lifecycleInvalid "Lifecycle evidence location is invalid.")
  return evidence

end LifecycleEvidence

end DosWeb.Lifecycle
