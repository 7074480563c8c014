import DosWeb.Conclude.Soundness
import DosWeb.Library.Decimal

/-!
The conditions under which a flow verifies.
-/

namespace DosWeb.Flows

open Library Library.Gates Library.Decimal Identifiers
open Entries (EntryFact)
open Growth (GrowthCandidate VerifiedGrowthResult)

structure LineNumber (line : List Char) : Prop where
  filled : line ≠ []
  digits : Digits line
  positive : 1 ≤ value line
  bounded : value line ≤ 2147483647

structure RelativePath (path : List Char) : Prop where
  filled : path ≠ []
  relative : path.head? ≠ some '/'
  inside : ['.', '.'] ∉ Text.splitOn '/' path

structure Edge (edge source target : List Char) : Prop where
  filled : target ≠ []
  place : ∃ path line, edge = source ++ '~' :: (target ++ '@' :: (path ++ ':' :: line)) ∧
    RelativePath path ∧ LineNumber line

/-- Edges each of which leads on from the callable reached so far. -/
inductive Chain : List Char → List String → Prop where
  | nil (current : List Char) : Chain current []
  | cons (current target : List Char) (edge : String) (edges : List String) :
      Edge edge.toList current target → Chain target edges → Chain current (edge :: edges)

/-- Each separator of callables and of the place stands once in an edge. -/
def Separated (edge : String) : Prop := edge.toList.count '~' = 1 ∧ edge.toList.count '@' = 1

/-- The digits of an edge's line are digits from 0 to 9. -/
def PlainLine (edge : String) : Prop :=
  ∀ head line, edge.toList = head ++ ':' :: line → Text.isDigit line = true → Digits line

theorem partition_last (separator : Char) (head tail : List Char) (absent : separator ∉ tail) :
    Text.partitionLast separator (head ++ separator :: tail) = some (head, tail) := by
  have reversed : (head ++ separator :: tail).reverse =
      tail.reverse ++ separator :: head.reverse := by simp
  rw [Text.partitionLast, reversed, Text.partition_append separator _ _ (by simpa using absent)]
  simp

theorem digits_digit (line : List Char) (filled : line ≠ []) (plain : Digits line) :
    Text.isDigit line = true := by
  have each : ∀ c ∈ line, (Text.decimalValue c).isSome = true := by
    intro c member
    have bounds := digit_bounds c (plain c member)
    rw [Text.decimalValue, Option.isSome_map, List.find?_isSome]
    exact ⟨0x30, by decide, by simp; omega⟩
  simp only [Text.isDigit, Bool.and_eq_true, List.all_eq_true, Bool.or_eq_true, decide_eq_true_eq]
  exact ⟨filled, fun c member => Or.inl (each c member)⟩

theorem line_limit : Digits "2147483647".toList ∧ trimmed "2147483647".toList = "2147483647".toList ∧
    value "2147483647".toList = 2147483647 := by
  refine ⟨?_, by decide, by decide⟩
  unfold Digits
  simp

theorem line_number_iff (line : List Char) (plain : Text.isDigit line = true → Digits line) :
    LineNumber line ↔ Text.isDigit line = true ∧ trimmed line ≠ [] ∧
      ¬ (10 < (trimmed line).length ∨ ((trimmed line).length = 10 ∧
        "2147483647" < String.ofList (trimmed line))) := by
  have order : "2147483647" < String.ofList (trimmed line) ↔
      "2147483647".toList < trimmed line := by
    calc
      "2147483647" < String.ofList (trimmed line) ↔
          "2147483647".toList < (String.ofList (trimmed line)).toList := String.lt_iff_toList_lt
      _ ↔ "2147483647".toList < trimmed line := by rw [String.toList_ofList (l := trimmed line)]
  rw [order]
  constructor
  · intro number
    have within := (value_le_iff line "2147483647".toList number.digits line_limit.1
      line_limit.2.1 (by decide)).mp (by rw [line_limit.2.2]; exact number.bounded)
    exact ⟨digits_digit line number.filled number.digits,
      (value_pos_iff line number.digits).mp number.positive, within⟩
  · intro held
    obtain ⟨digit, filled, within⟩ := held
    have digits := plain digit
    refine ⟨?_, digits, (value_pos_iff line digits).mpr filled, ?_⟩
    · rintro rfl
      exact filled rfl
    · rw [← line_limit.2.2]
      exact (value_le_iff line "2147483647".toList digits line_limit.1 line_limit.2.1
        (by decide)).mpr within

theorem edge_parts (edge : String) (source target path line : List Char)
    (shape : edge.toList = source ++ '~' :: (target ++ '@' :: (path ++ ':' :: line)))
    (separated : Separated edge) (colon : ':' ∉ line) :
    Text.partitionLast '@' edge.toList = some (source ++ '~' :: target, path ++ ':' :: line) ∧
      Text.partition '~' (source ++ '~' :: target) = some (source, target) ∧
      Text.partitionLast ':' (path ++ ':' :: line) = some (path, line) := by
  obtain ⟨tildes, ats⟩ := separated
  rw [shape] at tildes ats
  simp only [List.count_append, List.count_cons, beq_iff_eq, Char.reduceEq, if_true, if_false,
    Nat.add_zero] at tildes ats
  have sourceFree : '~' ∉ source := List.count_eq_zero.mp (by omega)
  have placeFree : '@' ∉ path ++ ':' :: line := by
    apply List.count_eq_zero.mp
    simp only [List.count_append, List.count_cons, beq_iff_eq, Char.reduceEq, if_false]
    omega
  refine ⟨?_, Text.partition_append '~' _ _ sourceFree, partition_last ':' _ _ colon⟩
  rw [shape, ← partition_last '@' (source ++ '~' :: target) (path ++ ':' :: line) placeFree]
  simp

/-- The edges are bound exactly where they are a chain and their separators stand once. -/
theorem edges_bound_iff (current : List Char) (edges : List String)
    (plain : ∀ edge ∈ edges, PlainLine edge) : callEdgesAreBound current edges = .ok true ↔
      Chain current edges ∧ ∀ edge ∈ edges, Separated edge := by
  induction edges generalizing current with
  | nil => simp [callEdgesAreBound, Chain.nil]
  | cons edge edges ih =>
    obtain ⟨plainEdge, plainEdges⟩ := List.forall_mem_cons.mp plain
    constructor
    · intro bound
      unfold callEdgesAreBound at bound
      split at bound
      · cases bound
      rename_i once
      rw [not_or, not_not, not_not] at once
      split at bound
      · cases bound
      rename_i callables location cutPlace
      split at bound
      · cases bound
      rename_i source target cutCallables
      split at bound
      · cases bound
      rename_i path line cutLine
      simp only at bound
      split at bound
      · cases bound
      rename_i fine
      simp only [not_or, Bool.not_eq_false, not_not, ne_eq] at fine
      obtain ⟨same, targetFilled, pathFilled, relative, inside, digit, trimmedFilled, short,
        below⟩ := fine
      have placeShape := Text.partitionLast_shape _ _ _ _ cutPlace
      have callablesShape := Text.partition_shape _ _ _ _ cutCallables
      have lineShape := Text.partitionLast_shape _ _ _ _ cutLine
      have shape : edge.toList =
          source ++ '~' :: (target ++ '@' :: (path ++ ':' :: line)) := by
        rw [placeShape, callablesShape, lineShape]
        simp
      have number := (line_number_iff line (plainEdge (source ++ '~' :: (target ++ '@' :: path))
        line (by rw [shape]; simp))).mpr ⟨digit, trimmedFilled, by
          rw [not_or]
          exact ⟨short, below⟩⟩
      obtain ⟨chain, separated⟩ := (ih target plainEdges).mp bound
      refine ⟨.cons current target edge edges ⟨targetFilled, path, line, ?_,
        ⟨pathFilled, relative, inside⟩, number⟩ chain, List.forall_mem_cons.mpr ⟨once, separated⟩⟩
      rw [shape, same]
    · intro held
      obtain ⟨chain, separated⟩ := held
      obtain ⟨once, others⟩ := List.forall_mem_cons.mp separated
      cases chain with
      | cons _ target _ _ own rest =>
        obtain ⟨path, line, shape, relative, number⟩ := own.place
        obtain ⟨cutPlace, cutCallables, cutLine⟩ := edge_parts edge current target path line
          shape once fun member => absurd (number.digits ':' member) (by decide)
        obtain ⟨digit, trimmedFilled, within⟩ := (line_number_iff line fun _ =>
          number.digits).mp number
        rw [not_or] at within
        have next := (ih target plainEdges).mpr ⟨rest, others⟩
        rw [callEdgesAreBound, if_neg (by rw [not_or, not_not, not_not]; exact once), cutPlace]
        simp only [cutCallables, cutLine]
        rw [if_neg]
        · exact next
        · simp only [not_or, Bool.not_eq_false, ne_eq, not_not]
          exact ⟨trivial, own.filled, relative.filled, relative.relative, relative.inside,
            digit, trimmedFilled, within.1, within.2⟩

/-- What makes a flow between an entry and a growth a verified one. -/
structure FlowConditions (flow : FlowProof) (entry : EntryFact)
    (growthResult : VerifiedGrowthResult) (candidate : GrowthCandidate) : Prop where
  growthVerified : growthResult.status = .verified
  source : ∃ input ∈ entry.attackerInputs, input.name.1 = flow.attackerControl.source.1
  sink : ∃ demand ∈ candidate.demandInputs, demand.role = flow.attackerControl.target.role ∧
    expressionBindsDemand demand.name.1 flow.attackerControl.sink.1 = true
  short : flow.callPath.length ≤ 4
  distinct : flow.callPath.Nodup
  chained : ∃ first edges, flow.callPath = first :: edges ∧ (first = entry.handler.callable.1 ∨
      Text.startsWith first (entry.handler.callable.1 ++ "[") = true) ∧
    Chain entry.handler.callable.1.toList edges
  kind : flow.flowKind.1 = "data_flow" ∨ flow.flowKind.1 = "local_data_flow"
  complete : flow.coverageStatus = .complete
  proven : flow.confidence = .proven

def FlowStands (flow : FlowProof) (entries : List (String × EntryFact))
    (growth : List (String × VerifiedGrowthResult)) : Prop :=
  ∃ entry growthResult candidate, entries.lookup flow.entryId = some entry ∧
    growth.lookup flow.growthId = some growthResult ∧ growthResult.candidate = some candidate ∧
    FlowConditions flow entry growthResult candidate

/-- No step of the path is a placeholder and each edge holds its separators once. -/
structure PathGuarded (callPath : List String) : Prop where
  known : ∀ edge ∈ callPath, edge ≠ "unmodeled_flow" ∧ edge ≠ "unknown"
  separated : ∀ edge ∈ callPath.tail, Separated edge

section

variable (flow : FlowProof) (entry : EntryFact) (candidate : GrowthCandidate)

theorem semantics_mapped_iff : semanticsMapped flow entry candidate = true ↔
    (∃ input ∈ entry.attackerInputs, input.name.1 = flow.attackerControl.source.1) ∧
      ∃ demand ∈ candidate.demandInputs, demand.role = flow.attackerControl.target.role ∧
        expressionBindsDemand demand.name.1 flow.attackerControl.sink.1 = true := by
  simp only [semanticsMapped, Bool.and_eq_true, List.contains_iff_mem, List.mem_map,
    List.any_filter, List.any_eq_true, decide_eq_true_eq]

theorem entry_rooted_iff : entryRooted flow entry = true ↔ ∃ first edges,
    flow.callPath = first :: edges ∧ (first = entry.handler.callable.1 ∨
      Text.startsWith first (entry.handler.callable.1 ++ "[") = true) := by
  unfold entryRooted
  split
  · rename_i empty
    simp [empty]
  · rename_i first edges path
    simp [path]

theorem call_path_bound_iff (plain : ∀ edge ∈ flow.callPath.tail, PlainLine edge) :
    callPathBound flow entry = .ok true ↔ flow.callPath.length ≤ 4 ∧ flow.callPath.Nodup ∧
      Chain entry.handler.callable.1.toList flow.callPath.tail ∧ PathGuarded flow.callPath := by
  have known : (flow.callPath.all fun edge => edge ≠ "unmodeled_flow" && edge ≠ "unknown") =
      true ↔ ∀ edge ∈ flow.callPath, edge ≠ "unmodeled_flow" ∧ edge ≠ "unknown" := by simp
  have chained := edges_bound_iff entry.handler.callable.1.toList flow.callPath.tail plain
  unfold callPathBound
  split
  · rename_i guarded
    rw [chained]
    constructor
    · intro held
      exact ⟨guarded.1, guarded.2.1, held.1, known.mp guarded.2.2, held.2⟩
    · intro held
      exact ⟨held.2.2.1, held.2.2.2.separated⟩
  · rename_i unguarded
    constructor
    · intro bound
      cases bound
    · intro held
      exact absurd ⟨held.1, held.2.1, known.mpr held.2.2.2.known⟩ unguarded

theorem outcome_verified_iff (evidence : List String) (growthResult : VerifiedGrowthResult)
    (bound : Bool) (built : VerifiedFlow) (returned : flowOutcome flow evidence
      (run (flowGates flow entry candidate growthResult bound)) = .ok built) :
    built.status = .verified ↔
      ∀ gate ∈ flowGates flow entry candidate growthResult bound, gate.failure = none := by
  rw [← run_passes_iff]
  unfold flowOutcome at returned
  split at returned
  · rename_i passed ran
    rw [ran]
    simpa using (flow_result_ids _ _ _ _ _ _ _ returned).2
  · rename_i passed name status reasons unresolved ran
    rcases run_failed_mem _ name (status, reasons, unresolved) (congrArg Prod.snd ran) with
      ⟨gate, member, _, failure⟩
    have unverified := (flow_gate_failure _ _ _ _ _ gate member _ failure).1
    rw [ran, (flow_result_ids _ _ _ _ _ _ _ returned).2]
    simpa using unverified

theorem gates_pass_iff (growthResult : VerifiedGrowthResult) (bound : Bool) :
    (∀ gate ∈ flowGates flow entry candidate growthResult bound, gate.failure = none) ↔
      semanticsMapped flow entry candidate = true ∧ entryRooted flow entry = true ∧
        bound = true ∧ growthResult.status = .verified ∧
        (flow.flowKind.1 = "data_flow" ∨ flow.flowKind.1 = "local_data_flow") ∧
        flow.coverageStatus = .complete ∧ flow.confidence = .proven := by
  cases rooted : entryRooted flow entry <;>
    simp [flowGates, rooted]

end

/-- A flow whose lines are plain verifies exactly where its conditions hold and its path is
guarded. -/
theorem verify_flow_iff (flow : FlowProof) (entries : List (String × EntryFact))
    (growth : List (String × VerifiedGrowthResult)) (built : VerifiedFlow)
    (returned : verifyFlow flow entries growth = .ok built)
    (plain : ∀ edge ∈ flow.callPath.tail, PlainLine edge) :
    built.status = .verified ↔ FlowStands flow entries growth ∧ PathGuarded flow.callPath := by
  unfold verifyFlow at returned
  split at returned
  · cases returned
  rename_i entry entryFound
  split at returned
  · cases returned
  rename_i growthResult growthFound
  split at returned
  · cases returned
  simp only at returned
  split at returned
  · rename_i unknown
    have status := (flow_result_ids _ _ _ _ _ _ _ returned).2
    rw [status]
    constructor
    · intro verified
      cases verified
    · intro held
      obtain ⟨_, otherGrowth, other, _, found, known, _⟩ := held.1
      rw [growthFound] at found
      cases found
      rw [unknown] at known
      cases known
  rename_i candidate known
  obtain ⟨bound, checked, outcome⟩ := bind_ok.mp returned
  have mapped := semantics_mapped_iff flow entry candidate
  have rooted := entry_rooted_iff flow entry
  have path := call_path_bound_iff flow entry plain
  rw [outcome_verified_iff flow entry candidate _ growthResult bound built outcome, gates_pass_iff]
  constructor
  · intro passes
    obtain ⟨isMapped, isRooted, isBound, growthVerified, kind, complete, proven⟩ := passes
    rw [edgesChecked, if_pos (by rw [isMapped, isRooted]; rfl), isBound] at checked
    obtain ⟨source, sink⟩ := mapped.mp isMapped
    obtain ⟨first, edges, shape, start⟩ := rooted.mp isRooted
    obtain ⟨short, distinct, chain, guarded⟩ := path.mp checked
    rw [shape] at chain
    exact ⟨⟨entry, growthResult, candidate, entryFound, growthFound, known, growthVerified, source,
      sink, short, distinct, ⟨first, edges, shape, start, chain⟩, kind, complete, proven⟩, guarded⟩
  · intro held
    obtain ⟨⟨otherEntry, otherResult, otherCandidate, entryAgain, growthAgain, knownAgain,
      conditions⟩, guarded⟩ := held
    cases entryFound.symm.trans entryAgain
    cases growthFound.symm.trans growthAgain
    cases known.symm.trans knownAgain
    obtain ⟨first, edges, shape, start, chain⟩ := conditions.chained
    have isMapped := mapped.mpr ⟨conditions.source, conditions.sink⟩
    have isRooted := rooted.mpr ⟨first, edges, shape, start⟩
    have isBound := path.mpr ⟨conditions.short, conditions.distinct, by rw [shape]; exact chain,
      guarded⟩
    rw [edgesChecked, if_pos (by rw [isMapped, isRooted]; rfl), isBound] at checked
    cases checked
    exact ⟨isMapped, isRooted, rfl, conditions.growthVerified, conditions.kind,
      conditions.complete, conditions.proven⟩

section

variable (flow : FlowProof) (entry : EntryFact) (growthResult : VerifiedGrowthResult)
  (candidate : GrowthCandidate)

theorem verify_flow_sole (bound : Bool) (entryMatches : flow.entryId = entry.entryId)
    (growthMatches : flow.growthId = growthResult.growthId)
    (known : growthResult.candidate = some candidate)
    (checked : edgesChecked flow entry candidate = .ok bound) :
    verifyFlow flow [(entry.entryId, entry)] [(growthResult.growthId, growthResult)] =
      flowOutcome flow (flowEvidence flow entry growthResult)
        (run (flowGates flow entry candidate growthResult bound)) := by
  simp only [verifyFlow, entryMatches, growthMatches, List.lookup_cons_self, ne_eq,
    not_true_eq_false, or_self, if_false, known, checked, bind, Except.bind]

end

/-- The sample flow over one more call, whose edge names the given place. -/
def placedProof (place : String)
    (valid : validSequence ["Cache.put", "Cache.put~Cache.store@" ++ place] = true) : FlowProof :=
  { Conclude.sampleFlowProof with
    pathId := stableIdentifier "flow" _
    callPath := ["Cache.put", "Cache.put~Cache.store@" ++ place]
    callPathValid := valid
    pathIdCanonical := rfl }

def storeProof : FlowProof := placedProof "src/Cache.java:12" (by decide)

def scopedProof : FlowProof := placedProof "src/@cache/Cache.java:12" (by decide)

def placedEntries : List (String × EntryFact) :=
  [(Entries.sampleEntry.entryId, Entries.sampleEntry)]

def placedGrowths : List (String × VerifiedGrowthResult) :=
  [(Conclude.sampleGrowthResult.growthId, Conclude.sampleGrowthResult)]

theorem placed_mapped (place : String)
    (valid : validSequence ["Cache.put", "Cache.put~Cache.store@" ++ place] = true) :
    (∃ input ∈ Entries.sampleEntry.attackerInputs,
        input.name.1 = (placedProof place valid).attackerControl.source.1) ∧
      ∃ demand ∈ Growth.sampleCandidate.demandInputs,
        demand.role = (placedProof place valid).attackerControl.target.role ∧
          expressionBindsDemand demand.name.1 (placedProof place valid).attackerControl.sink.1 =
            true := by
  have bindsKey : expressionBindsDemand "token" "token" = true := by decide
  refine ⟨⟨_, List.mem_singleton_self _, ?_⟩, ⟨_, List.mem_singleton_self _, ?_, bindsKey⟩⟩
  · rfl
  · rfl

theorem placed_checked (place : String)
    (valid : validSequence ["Cache.put", "Cache.put~Cache.store@" ++ place] = true) (bound : Bool)
    (edges : callPathBound (placedProof place valid) Entries.sampleEntry = .ok bound) :
    edgesChecked (placedProof place valid) Entries.sampleEntry Growth.sampleCandidate =
      .ok bound := by
  have mapped : semanticsMapped (placedProof place valid) Entries.sampleEntry
      Growth.sampleCandidate = true := (semantics_mapped_iff _ _ _).mpr (placed_mapped place valid)
  have rooted : entryRooted (placedProof place valid) Entries.sampleEntry = true := by
    rw [entry_rooted_iff]
    refine ⟨"Cache.put", ["Cache.put~Cache.store@" ++ place], ?_, Or.inl ?_⟩
    · rfl
    · rfl
  rw [edgesChecked, if_pos (by rw [mapped, rooted]; rfl), edges]

theorem store_bound : callPathBound storeProof Entries.sampleEntry = .ok true := by
  rfl

theorem scoped_bound : callPathBound scopedProof Entries.sampleEntry = .ok false := by
  rfl

theorem placed_outcome (place : String)
    (valid : validSequence ["Cache.put", "Cache.put~Cache.store@" ++ place] = true) (bound : Bool)
    (edges : callPathBound (placedProof place valid) Entries.sampleEntry = .ok bound) :
    verifyFlow (placedProof place valid) placedEntries placedGrowths =
      flowOutcome (placedProof place valid)
        (flowEvidence (placedProof place valid) Entries.sampleEntry Conclude.sampleGrowthResult)
        (run (flowGates (placedProof place valid) Entries.sampleEntry Growth.sampleCandidate
          Conclude.sampleGrowthResult bound)) :=
  verify_flow_sole (placedProof place valid) Entries.sampleEntry Conclude.sampleGrowthResult
    Growth.sampleCandidate bound rfl rfl rfl (placed_checked place valid bound edges)

theorem plain_line (edge : String)
    (each : edge.toList.all (fun c => !Text.isDigit [c] || c.isDigit) = true) : PlainLine edge := by
  intro head line shape digit c member
  have own := List.all_eq_true.mp each c (by rw [shape]; simp [member])
  rw [Bool.or_eq_true, Bool.not_eq_true'] at own
  apply own.resolve_left
  rw [Bool.not_eq_false]
  simp only [Text.isDigit, Bool.and_eq_true, List.all_eq_true] at digit ⊢
  exact ⟨by simp, List.forall_mem_singleton.mpr (digit.2 c member)⟩

theorem store_verified : ∃ built, verifyFlow storeProof placedEntries placedGrowths = .ok built ∧
    (built.status = .verified ↔
      FlowStands storeProof placedEntries placedGrowths ∧ PathGuarded storeProof.callPath) := by
  have returned : ∃ built, verifyFlow storeProof placedEntries placedGrowths = .ok built := by
    rw [storeProof, placed_outcome _ _ true store_bound]
    exact ⟨_, rfl⟩
  obtain ⟨built, returned⟩ := returned
  refine ⟨built, returned, verify_flow_iff _ _ _ built returned ?_⟩
  intro edge member
  have sole : edge = "Cache.put~Cache.store@src/Cache.java:12" := List.mem_singleton.mp member
  rw [sole]
  apply plain_line
  decide

theorem scoped_edge : Edge "Cache.put~Cache.store@src/@cache/Cache.java:12".toList
    "Cache.put".toList "Cache.store".toList where
  filled := by decide
  place := by
    refine ⟨"src/@cache/Cache.java".toList, "12".toList, by decide, ⟨by decide, by decide, ?_⟩, ?_⟩
    · decide
    · refine ⟨by decide, ?_, by decide, by decide⟩
      unfold Digits
      simp

theorem scoped_stands : FlowStands scopedProof placedEntries placedGrowths := by
  refine ⟨Entries.sampleEntry, Conclude.sampleGrowthResult, Growth.sampleCandidate,
    List.lookup_cons_self, List.lookup_cons_self, rfl, ?_⟩
  obtain ⟨source, sink⟩ := placed_mapped "src/@cache/Cache.java:12" (by decide)
  exact {
    growthVerified := rfl
    source
    sink
    short := by decide
    distinct := by decide
    chained := ⟨"Cache.put", ["Cache.put~Cache.store@src/@cache/Cache.java:12"], rfl, Or.inl rfl,
      .cons _ "Cache.store".toList _ _ scoped_edge (.nil _)⟩
    kind := Or.inr rfl
    complete := rfl
    proven := rfl }

/-- The flow through that edge is not a verified one. -/
theorem scoped_unverified : ¬ ∀ flow entries growth built,
    verifyFlow flow entries growth = .ok built →
      (built.status = .verified ↔ FlowStands flow entries growth) := by
  intro claimed
  have outcome := placed_outcome "src/@cache/Cache.java:12" (by decide) false scoped_bound
  have returned : ∃ built, verifyFlow scopedProof placedEntries placedGrowths = .ok built := by
    rw [scopedProof, outcome]
    exact ⟨_, rfl⟩
  obtain ⟨built, returned⟩ := returned
  have verified := (claimed _ _ _ built returned).mpr scoped_stands
  rw [scopedProof, outcome] at returned
  have passes := (outcome_verified_iff _ _ _ _ _ _ built returned).mp verified
  exact absurd ((gates_pass_iff _ _ _ _ _).mp passes).2.2.1 Bool.false_ne_true

end DosWeb.Flows
