import DosWeb.Reachability.Models

/-!
The deployment status that the gates of an entry settle, and when a gate that settles
nothing is passed over.
-/

namespace DosWeb.Reachability

open Library Library.OrderedSet

variable (lower : String → String) (configuration : List ModeledConfigurationFact)

/-- The effective known values of a key; values of two types differ. -/
def effectiveValues (key : String) : List ConfigurationValue :=
  configuration.filterMap fun fact =>
    if fact.status = .known ∧ fact.defaultEffective ∧ fact.key = key then fact.value else none

def configurationIndex (key : String) : Option ConfigurationValue :=
  onlyElement (effectiveValues configuration key)

def ConfigurationValue.shown : ConfigurationValue → String
  | .text value => value
  | .integer value => toString value
  | .flag true => "True"
  | .flag false => "False"

def deploymentValues : List DeploymentStatus :=
  [.defaultEnabled, .defaultDisabled, .optional, .unknown]

def deploymentValue (value : String) : Option DeploymentStatus :=
  deploymentValues.find? fun status => status.text = value

def asciiAlnum (c : Char) : Bool := ('A' ≤ c ∧ c ≤ 'Z') ∨ ('a' ≤ c ∧ c ≤ 'z') ∨ ('0' ≤ c ∧ c ≤ '9')

def simplePositiveProfile : List Char → Bool
  | [] => false
  | first :: rest => asciiAlnum first && rest.all fun c => asciiAlnum c || ['.', '_', '-'].contains c

/-- The profiles that a comma-separated text activates. -/
def activeProfiles (active : String) : List (List Char) :=
  ((Text.splitOn ',' active.toList).map Text.strip).filter (· ≠ [])

def requiredProfile (value : String) : List Char :=
  Text.strip (Text.removeLead value "profile:").toList

def profileStatus (value : String) : Option DeploymentStatus :=
  if simplePositiveProfile (requiredProfile value) then
    match configurationIndex configuration "spring.profiles.active" with
    | some (.text active) =>
      some (if requiredProfile value ∈ activeProfiles active then .defaultEnabled
        else .defaultDisabled)
    | _ => none
  else none

def conditionalStatus (value : String) : Option DeploymentStatus := do
  let (key, expected) ←
    Text.partition '=' (Text.removeLead value "conditional_property:").toList
  let actual ← configurationIndex configuration (String.ofList key)
  return if lower actual.shown = lower (String.ofList (Text.strip expected)) then .defaultEnabled
    else .defaultDisabled

def gateStatus (fact : EntrySecurityFact) : Option DeploymentStatus :=
  if fact.kind ≠ .deploymentGate ∨ fact.coverage ≠ .complete then none
  else match deploymentValue fact.value with
    | some status => some status
    | none =>
      if Text.startsWith fact.value "profile:" then profileStatus configuration fact.value
      else if Text.startsWith fact.value "conditional_property:" then
        conditionalStatus lower configuration fact.value
      else none

def resolveDeploymentStatus (facts : List EntrySecurityFact) : DeploymentStatus :=
  (onlyElement (facts.filterMap (gateStatus lower configuration))).getD .unknown

variable (value : String)

variable (status : DeploymentStatus)

theorem deployment_value_iff : deploymentValue value = some status ↔ value = status.text := by
  constructor
  · intro found
    have holds := List.find?_some found
    exact (of_decide_eq_true holds).symm
  · intro same
    subst same
    cases status <;> decide

/-- A complete gate that names a status, a simple profile while the active profiles are known,
or a known property. -/
def Settled (fact : EntrySecurityFact) : Prop := fact.coverage = .complete ∧
    ((∃ status : DeploymentStatus, fact.value = status.text) ∨
      Text.startsWith fact.value "profile:" = true ∧
        simplePositiveProfile (requiredProfile fact.value) = true ∧
        (∃ active, configurationIndex configuration "spring.profiles.active" =
          some (.text active)) ∨ Text.startsWith fact.value "conditional_property:" = true ∧
        ∃ key expected actual,
          Text.partition '=' (Text.removeLead fact.value "conditional_property:").toList =
            some (key, expected) ∧
          configurationIndex configuration (String.ofList key) = some actual)

/-- A complete gate that names the enabled status, a simple profile that is active, or a
known property with the expected value. -/
def Enables (fact : EntrySecurityFact) : Prop := fact.coverage = .complete ∧
    (fact.value = "default_enabled" ∨ Text.startsWith fact.value "profile:" = true ∧
        simplePositiveProfile (requiredProfile fact.value) = true ∧
        (∃ active, configurationIndex configuration "spring.profiles.active" =
          some (.text active) ∧ requiredProfile fact.value ∈ activeProfiles active) ∨
      Text.startsWith fact.value "conditional_property:" = true ∧ ∃ key expected actual,
          Text.partition '=' (Text.removeLead fact.value "conditional_property:").toList =
            some (key, expected) ∧
          configurationIndex configuration (String.ofList key) = some actual ∧
          lower actual.shown = lower (String.ofList (Text.strip expected)))

theorem profile_no_status (starts : Text.startsWith value "profile:" = true)
    (status : DeploymentStatus) : value ≠ status.text := by
  intro same
  subst same
  cases status <;> revert starts <;> decide

theorem conditional_no_status (starts : Text.startsWith value "conditional_property:" = true)
    (status : DeploymentStatus) : value ≠ status.text := by
  intro same
  subst same
  cases status <;> revert starts <;> decide

variable (fact : EntrySecurityFact)

theorem gate_status_iff : gateStatus lower configuration fact = some status ↔
      fact.kind = .deploymentGate ∧ fact.coverage = .complete ∧ (fact.value = status.text ∨
          Text.startsWith fact.value "profile:" = true ∧
            profileStatus configuration fact.value = some status ∨
          Text.startsWith fact.value "conditional_property:" = true ∧
            conditionalStatus lower configuration fact.value = some status) := by
  by_cases gate : fact.kind = .deploymentGate
  · by_cases complete : fact.coverage = .complete
    · simp only [gateStatus, gate, complete, true_and, ne_eq, not_true, or_self, if_false]
      cases named : deploymentValue fact.value with
      | some own =>
        have same := (deployment_value_iff _ _).mp named
        have noProfile : Text.startsWith fact.value "profile:" ≠ true :=
          fun starts => profile_no_status _ starts own same
        have noCondition : Text.startsWith fact.value "conditional_property:" ≠ true :=
          fun starts => conditional_no_status _ starts own same
        simp only [noProfile, noCondition, false_and, or_false, ← deployment_value_iff, named,
          Bool.false_eq_true]
      | none =>
        have unnamed : fact.value ≠ status.text :=
          fun same => by simp [(deployment_value_iff _ _).mpr same] at named
        by_cases profile : Text.startsWith fact.value "profile:" = true
        · have noCondition : Text.startsWith fact.value "conditional_property:" ≠ true :=
            fun starts => by simp [Text.startsWith_other _ _ "profile:" starts (by decide)] at profile
          simp only [unnamed, profile, noCondition, if_true, true_and, false_and, false_or,
            or_false, Bool.false_eq_true]
        · simp only [unnamed, profile, if_false, false_and, false_or, Bool.false_eq_true]
          by_cases conditional : Text.startsWith fact.value "conditional_property:" = true
          · simp only [conditional, if_true, true_and]
          · simp only [conditional, if_false, false_and, reduceCtorEq, Bool.false_eq_true]
    · simp [gateStatus, complete]
  · simp [gateStatus, gate]

theorem profile_status_iff : profileStatus configuration value = some status ↔
      simplePositiveProfile (requiredProfile value) = true ∧
        ∃ active, configurationIndex configuration "spring.profiles.active" = some (.text active) ∧
          status = if requiredProfile value ∈ activeProfiles active then .defaultEnabled
            else .defaultDisabled := by
  unfold profileStatus
  split
  · rename_i simple
    split
    · rename_i active known
      simp [simple, known, eq_comm]
    · rename_i other
      simp only [reduceCtorEq, simple, true_and, false_iff, not_exists, not_and]
      intro active known
      exact absurd known (other active)
  · rename_i compound
    simp [compound]

theorem conditional_status_iff : conditionalStatus lower configuration value = some status ↔
      ∃ key expected actual,
        Text.partition '=' (Text.removeLead value "conditional_property:").toList =
          some (key, expected) ∧
        configurationIndex configuration (String.ofList key) = some actual ∧
        status = if lower actual.shown = lower (String.ofList (Text.strip expected))
          then .defaultEnabled else .defaultDisabled := by
  unfold conditionalStatus
  constructor
  · intro found
    obtain ⟨⟨key, expected⟩, parted, rest⟩ := Option.bind_eq_some_iff.mp found
    obtain ⟨actual, known, same⟩ := Option.bind_eq_some_iff.mp rest
    exact ⟨key, expected, actual, parted, known, (Option.some_inj.mp same).symm⟩
  · intro shape
    obtain ⟨key, expected, actual, parted, known, same⟩ := shape
    simp [parted, known, same]

theorem gate_settled_iff : (∃ status, gateStatus lower configuration fact = some status) ↔
      fact.kind = .deploymentGate ∧ Settled configuration fact := by
  constructor
  · intro found
    obtain ⟨status, found⟩ := found
    obtain ⟨gate, complete, reading⟩ := (gate_status_iff _ _ _ _).mp found
    apply And.intro gate
    apply And.intro complete
    rcases reading with named | ⟨starts, profile⟩ | ⟨starts, conditional⟩
    · exact Or.inl ⟨status, named⟩
    · obtain ⟨simple, active, known, -⟩ := (profile_status_iff _ _ _).mp profile
      exact Or.inr (Or.inl ⟨starts, simple, active, known⟩)
    · obtain ⟨key, expected, actual, parted, known, -⟩ :=
        (conditional_status_iff _ _ _ _).mp conditional
      exact Or.inr (Or.inr ⟨starts, key, expected, actual, parted, known⟩)
  · intro settled
    obtain ⟨gate, complete, reading⟩ := settled
    rcases reading with ⟨status, named⟩ | ⟨starts, simple, active, known⟩ |
      ⟨starts, key, expected, actual, parted, known⟩
    · exact ⟨status, (gate_status_iff _ _ _ _).mpr ⟨gate, complete, Or.inl named⟩⟩
    · have profile := (profile_status_iff configuration fact.value _).mpr
        ⟨simple, active, known, rfl⟩
      exact ⟨_, (gate_status_iff _ _ _ _).mpr ⟨gate, complete, Or.inr (Or.inl ⟨starts, profile⟩)⟩⟩
    · have conditional := (conditional_status_iff lower configuration fact.value _).mpr
        ⟨key, expected, actual, parted, known, rfl⟩
      exact ⟨_, (gate_status_iff _ _ _ _).mpr
        ⟨gate, complete, Or.inr (Or.inr ⟨starts, conditional⟩)⟩⟩

theorem gate_enabled_iff : gateStatus lower configuration fact = some .defaultEnabled ↔
      fact.kind = .deploymentGate ∧ Enables lower configuration fact := by
  have branch : ∀ condition : Prop, ∀ [Decidable condition],
      DeploymentStatus.defaultEnabled = (if condition then .defaultEnabled else .defaultDisabled) ↔
        condition := by
    intro condition _
    split <;> simp_all
  rw [gate_status_iff, profile_status_iff, conditional_status_iff]
  simp only [branch, Enables, DeploymentStatus.text]

theorem resolve_enabled_iff (facts : List EntrySecurityFact) :
    resolveDeploymentStatus lower configuration facts = .defaultEnabled ↔
      (∃ fact ∈ facts, gateStatus lower configuration fact = some .defaultEnabled) ∧
        ∀ fact ∈ facts, ∀ status, gateStatus lower configuration fact = some status →
          status = .defaultEnabled := by
  have value : resolveDeploymentStatus lower configuration facts = .defaultEnabled ↔
      onlyElement (facts.filterMap (gateStatus lower configuration)) = some .defaultEnabled := by
    unfold resolveDeploymentStatus
    cases onlyElement (facts.filterMap (gateStatus lower configuration)) <;> simp
  rw [value, onlyElement_iff]
  simp only [List.mem_filterMap]
  constructor
  · intro only
    exact ⟨only.1, fun fact member status same => only.2 status ⟨fact, member, same⟩⟩
  · intro both
    apply And.intro both.1
    intro status found
    obtain ⟨fact, member, same⟩ := found
    exact both.2 fact member status same

theorem resolve_alone_iff : resolveDeploymentStatus lower configuration [fact] = .defaultEnabled ↔
      gateStatus lower configuration fact = some .defaultEnabled := by
  rw [resolve_enabled_iff]
  constructor
  · intro both
    obtain ⟨other, member, enabled⟩ := both.1
    rwa [List.mem_singleton.mp member] at enabled
  · intro enabled
    refine ⟨⟨fact, List.mem_singleton_self fact, enabled⟩, ?_⟩
    intro other member status same
    rw [List.mem_singleton.mp member, enabled] at same
    exact (Option.some_inj.mp same).symm

/-- No gate that settles nothing is passed over: every gate settles a status, or no gate
enables the entry, or a settled gate contradicts those that do. -/
def NoGateOverlooked (facts : List EntrySecurityFact) : Prop :=
  (∀ fact ∈ facts, fact.kind = .deploymentGate → Settled configuration fact) ∨
    (∀ fact ∈ facts, fact.kind = .deploymentGate → ¬ Enables lower configuration fact) ∨
    ∃ fact ∈ facts, fact.kind = .deploymentGate ∧ Settled configuration fact ∧
      ¬ Enables lower configuration fact

/-- The entry counts as enabled only by gates that are all complete and enabling, exactly when
no gate is overlooked. -/
theorem resolve_overlooks_nothing_iff (facts : List EntrySecurityFact) :
    (resolveDeploymentStatus lower configuration facts = .defaultEnabled →
      ∀ fact ∈ facts, fact.kind = .deploymentGate → fact.coverage = .complete ∧
        resolveDeploymentStatus lower configuration [fact] = .defaultEnabled) ↔
      NoGateOverlooked lower configuration facts := by
  simp only [resolve_alone_iff]
  rw [resolve_enabled_iff]
  constructor
  · intro closed
    by_contra overlooked
    simp only [NoGateOverlooked, not_or, not_forall, not_exists, not_and, not_not] at overlooked
    obtain ⟨⟨loose, looseMember, looseGate, unsettled⟩, ⟨fact, member, gate, enables⟩, agreed⟩ :=
      overlooked
    have enabled := (gate_enabled_iff lower configuration fact).mpr ⟨gate, enables⟩
    have all : ∀ other ∈ facts, ∀ status, gateStatus lower configuration other = some status →
        status = .defaultEnabled := by
      intro other otherMember status found
      have settled := (gate_settled_iff lower configuration other).mp ⟨status, found⟩
      have otherEnables := agreed other otherMember settled.1 settled.2
      have same := (gate_enabled_iff lower configuration other).mpr ⟨settled.1, otherEnables⟩
      exact Option.some_inj.mp (found.symm.trans same)
    have own := (closed ⟨⟨fact, member, enabled⟩, all⟩ loose looseMember looseGate).2
    exact unsettled ((gate_settled_iff lower configuration loose).mp ⟨_, own⟩).2
  · intro condition resolved fact member gate
    obtain ⟨⟨first, firstMember, enabled⟩, agreed⟩ := resolved
    have firstEnables := (gate_enabled_iff lower configuration first).mp enabled
    rcases condition with settled | none | ⟨other, otherMember, otherGate, settled, disabled⟩
    · obtain ⟨status, found⟩ := (gate_settled_iff lower configuration fact).mpr
        ⟨gate, settled fact member gate⟩
      rw [agreed fact member status found] at found
      exact ⟨((gate_status_iff _ _ _ _).mp found).2.1, found⟩
    · exact absurd firstEnables.2 (none first firstMember firstEnables.1)
    · obtain ⟨status, found⟩ := (gate_settled_iff lower configuration other).mpr
        ⟨otherGate, settled⟩
      rw [agreed other otherMember status found] at found
      exact absurd ((gate_enabled_iff lower configuration other).mp found).2 disabled

end DosWeb.Reachability
