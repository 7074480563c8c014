import DosWeb.Production.Codecs

/-!
Which keyword values come back from a record, and which records are read strictly.
-/

namespace DosWeb.Production

open Library Library.JsonValue Library.JsonRecord Library.JsonText Library.OrderedSet
open Lifecycle (lifecycleInvalid lifecycleEvidence)

def Orderly {α : Type} (outcome : Decoded α) : Prop :=
  ∀ fault, outcome = .error fault → ∃ error, fault = .raised (.analyzer error)

section

variable {α β : Type}

theorem orderly_ok (value : α) : Orderly (.ok value) := nofun

theorem orderly_error (fault : Fault) :
    Orderly (.error fault : Decoded α) ↔ ∃ error, fault = .raised (.analyzer error) := by
  constructor
  · intro orderly
    exact orderly fault rfl
  · intro known other same
    cases same
    exact known

theorem orderly_invalid (message : String) :
    Orderly (.error (invalidCandidate message) : Decoded α) := (orderly_error _).mpr ⟨_, rfl⟩

theorem orderly_bind (first : Decoded α) (next : α → Decoded β) : Orderly (first >>= next) ↔
      Orderly first ∧ ∀ value, first = .ok value → Orderly (next value) := by
  cases first with
  | error fault =>
    change Orderly (.error fault) ↔ _
    rw [orderly_error, orderly_error]
    constructor
    · intro known
      exact ⟨known, nofun⟩
    · intro both
      exact both.1
  | ok value =>
    change Orderly (next value) ↔ _
    constructor
    · intro orderly
      refine ⟨orderly_ok value, ?_⟩
      intro other same
      cases same
      exact orderly
    · intro both
      exact both.2 value rfl

end

section

variable {F : Type}

theorem member_ok (values : Members F) (key : String) (value : Json F) :
    member values key = .ok value ↔ present values key = some value := by
  unfold member
  split <;> simp_all

theorem orderly_member (values : Members F) (key : String) :
    Orderly (member values key) ↔ present values key ≠ none := by
  unfold member
  split
  · rename_i value found
    simp [found, orderly_ok]
  · rename_i missing
    rw [orderly_error]
    simp [missing]

theorem read_site_ok (file line : Json F) (path : String) (number : Int) :
    readSite file line = .ok (path, number) ↔
      file = .str path ∧ sitePathValid path = true ∧ line = .int number ∧ 0 < number := by
  unfold readSite
  cases file with
  | str own =>
    simp only
    split
    · rename_i valid
      cases line with
      | int given =>
        simp only
        split
        · rename_i positive
          simp only [Except.ok.injEq, Prod.mk.injEq, Json.str.injEq, Json.int.injEq]
          constructor
          · intro same
            exact ⟨same.1, same.1 ▸ valid, same.2, same.2 ▸ positive⟩
          · intro same
            exact ⟨same.1, same.2.2.1⟩
        · rename_i negative
          simp only [reduceCtorEq, Json.int.injEq, false_iff]
          intro same
          rw [← same.2.2.1] at same
          exact negative same.2.2.2
      | _ => simp
    · rename_i invalid
      simp only [reduceCtorEq, Json.str.injEq, false_iff]
      intro same
      rw [← same.1] at same
      exact invalid same.2.1
  | _ => simp

theorem orderly_site (file line : Json F) : Orderly (readSite file line) := by
  unfold readSite
  split
  · split
    · split
      · split
        · exact orderly_ok _
        · exact orderly_invalid _
      · exact orderly_invalid _
    · exact orderly_invalid _
  · exact orderly_invalid _

/-- Texts only, numbers only or nulls only: lists whose distinct items can be put in order. -/
def Comparable (items : List (Json F)) : Prop :=
  (∃ texts : List String, items = texts.map .str) ∨ items.all isNumber = true ∨
    items.all isNull = true

theorem plain_texts_iff (items : List (Json F)) (texts : List String) :
    items.mapM plainText = some texts ↔ items = texts.map .str := by
  induction items generalizing texts with
  | nil =>
    rw [List.mapM_nil]
    constructor
    · intro same
      cases same
      rfl
    · intro same
      rw [List.map_eq_nil_iff.mp same.symm]
      rfl
  | cons item items ih =>
    rw [List.mapM_cons]
    simp only [some_bind, ih]
    constructor
    · intro read
      obtain ⟨text, own, others, rest, same⟩ := read
      cases same
      cases item with
      | str given =>
        cases own
        rw [rest, List.map_cons]
      | _ => cases own
    · intro same
      cases texts with
      | nil => cases same
      | cons text texts =>
        obtain ⟨own, rest⟩ := List.cons.inj same
        exact ⟨text, by rw [own]; rfl, texts, rest, rfl⟩

theorem texts_printed [FloatText F] (texts : List String) :
    printable maxIntegerDigits (.arr (texts.map .str) : Json F) = true := by
  rw [printable, JsonRoundTrip.printableItems_iff]
  intro item inside
  obtain ⟨text, _, rfl⟩ := List.mem_map.mp inside
  rfl

theorem evidence_cases (texts : List String) :
    (∃ evidence, lifecycleEvidence texts = .ok evidence) ∨
      lifecycleEvidence texts = .error (lifecycleInvalid "Lifecycle evidence is invalid.") := by
  unfold lifecycleEvidence require
  by_cases few : (texts ≠ [] && texts.length ≤ 64) = true
  · rw [if_pos few]
    by_cases valid : ((sortedSet texts).all fun item =>
        item ≠ "" && (Text.utf8 item.toList).length ≤ 256) = true
    · rw [if_pos valid]
      exact Or.inl ⟨sortedSet texts, rfl⟩
    · rw [if_neg valid]
      exact Or.inr rfl
  · rw [if_neg few]
    exact Or.inr rfl

theorem evidence_again (listed evidence : List String)
    (accepted : lifecycleEvidence listed = .ok evidence) :
    lifecycleEvidence evidence = .ok evidence ∧ evidence = sortedSet listed := by
  unfold lifecycleEvidence at accepted ⊢
  obtain ⟨_, within, next⟩ := bind_ok.mp accepted
  obtain ⟨_, valid, same⟩ := bind_ok.mp next
  rw [require_ok, Bool.and_eq_true, decide_eq_true_iff, decide_eq_true_iff] at within
  rw [require_ok] at valid
  cases same
  have filled : sortedSet listed ≠ [] := by
    rw [Ne, sortedSet_eq_nil]
    exact within.1
  have few : (sortedSet listed).length ≤ 64 := by
    calc
      (sortedSet listed).length = listed.dedup.length := by
        rw [sortedSet, List.length_insertionSort]
      _ ≤ listed.length := (List.dedup_sublist listed).length_le
      _ ≤ 64 := within.2
  refine ⟨?_, rfl⟩
  refine bind_ok.mpr ⟨(), ?_, bind_ok.mpr ⟨(), ?_, ?_⟩⟩
  · rw [require_ok, Bool.and_eq_true, decide_eq_true_iff, decide_eq_true_iff]
    exact ⟨filled, few⟩
  · rw [require_ok, sortedSet_idempotent]
    exact valid
  · rw [sortedSet_idempotent]
    rfl

theorem evidence_orderly (texts : List String) : Orderly (lifted (lifecycleEvidence texts)) := by
  rcases evidence_cases texts with accepted | refused
  · obtain ⟨evidence, same⟩ := accepted
    rw [same]
    exact orderly_ok evidence
  · rw [refused]
    exact orderly_invalid _

theorem read_evidence_ok (listed : Json F) (evidence : List String) :
    readEvidence listed = .ok evidence ↔ ∃ texts : List String, listed = .arr (texts.map .str) ∧
        lifecycleEvidence texts = .ok evidence := by
  constructor
  · intro read
    unfold readEvidence at read
    split at read
    · split at read
      · cases read
      · split at read
        · rename_i items _ _ texts plain
          exact ⟨texts, by rw [(plain_texts_iff items texts).mp plain], (lifted_ok _ _).mp read⟩
        · split at read <;> cases read
    · cases read
  · intro known
    obtain ⟨texts, rfl, accepted⟩ := known
    have bounds := accepted
    unfold lifecycleEvidence at bounds
    obtain ⟨_, within, _⟩ := bind_ok.mp bounds
    rw [require_ok, Bool.and_eq_true, decide_eq_true_iff, decide_eq_true_iff] at within
    have inside : ¬ ((texts.map .str : List (Json F)) = [] ∨ 64 < (texts.map .str :
        List (Json F)).length) := by
      rw [List.map_eq_nil_iff, List.length_map, not_or]
      exact ⟨within.1, not_lt.mpr within.2⟩
    rw [readEvidence, if_neg inside, (plain_texts_iff _ texts).mpr rfl]
    exact (lifted_ok _ _).mpr accepted

theorem orderly_evidence (listed : Json F) : Orderly (readEvidence listed) ↔
    ∀ items, listed = .arr items → items.length ≤ 64 → Comparable items := by
  unfold readEvidence
  cases listed with
  | arr items =>
    simp only [Json.arr.injEq, forall_eq']
    split
    · rename_i outside
      refine iff_of_true (orderly_invalid _) ?_
      intro within
      rcases outside with empty | many
      · exact Or.inl ⟨[], by rw [empty]; rfl⟩
      · omega
    · rename_i inside
      have within : items.length ≤ 64 := by
        rw [not_or] at inside
        omega
      split
      · rename_i texts plain
        refine iff_of_true (evidence_orderly texts) ?_
        intro _
        exact Or.inl ⟨texts, (plain_texts_iff items texts).mp plain⟩
      · rename_i mixed
        have textless : ¬ ∃ texts : List String, items = texts.map .str := by
          intro known
          obtain ⟨texts, same⟩ := known
          rw [(plain_texts_iff items texts).mpr same] at mixed
          cases mixed
        split
        · rename_i alike
          refine iff_of_true (orderly_invalid _) ?_
          intro _
          exact Or.inr (by simpa using alike)
        · rename_i apart
          rw [orderly_error]
          constructor
          · intro known
            obtain ⟨_, same⟩ := known
            cases same
          · intro comparable
            rcases comparable within with known | alike
            · exact absurd known textless
            · exact absurd (by simpa using alike) apart
  | _ => exact iff_of_true (orderly_invalid _) nofun

end

variable {F : Type} (str : Json F → String) (values : Members F)

/-- The fields are there up to the first flag that is no boolean. -/
def ReadInOrder : List (String × FieldKind) → Prop
  | [] => True
  | field :: fields => ∃ value, present values field.1 = some value ∧
      ((field.2 = .flag ∧ boolOf value = none) ∨ ReadInOrder fields)

/-- Every field is there, and every flag is a boolean. -/
def FieldsGiven (fields : List (String × FieldKind)) : Prop :=
  ∀ field ∈ fields, ∃ value, present values field.1 = some value ∧
    (field.2 = .flag → ∃ flag, value = .bool flag)

inductive ReadAs : FieldKind → Json F → Attribute → Prop where
  | text (value : Json F) : ReadAs .text value (.text (str value))
  | flag (flag : Bool) : ReadAs .flag (.bool flag) (.flag flag)

theorem read_field_ok (field : String × FieldKind) (own : Attribute) :
    readField str values field = .ok own ↔
      ∃ value, present values field.1 = some value ∧ ReadAs str field.2 value own := by
  obtain ⟨name, kind⟩ := field
  unfold readField
  rw [bind_ok]
  simp only [member_ok]
  constructor
  · intro read
    obtain ⟨value, found, accepted⟩ := read
    refine ⟨value, found, ?_⟩
    cases kind with
    | text =>
      cases accepted
      exact .text value
    | flag =>
      cases value with
      | bool flag =>
        cases accepted
        exact .flag flag
      | _ => cases accepted
  · intro read
    obtain ⟨value, found, own⟩ := read
    refine ⟨value, found, ?_⟩
    cases own <;> rfl

theorem orderly_field (field : String × FieldKind) :
    Orderly (readField str values field) ↔ present values field.1 ≠ none := by
  unfold readField
  rw [orderly_bind, orderly_member]
  constructor
  · intro both
    exact both.1
  · intro there
    refine ⟨there, ?_⟩
    intro value _
    split
    · exact orderly_ok _
    · split
      · exact orderly_ok _
      · exact orderly_invalid _

variable (fields : List (String × FieldKind))

theorem read_fields_ok (attributes : List Attribute) :
    readFields str values fields = .ok attributes ↔
      List.Forall₂ (fun field own => ∃ value, present values field.1 = some value ∧
        ReadAs str field.2 value own) fields attributes := by
  induction fields generalizing attributes with
  | nil =>
    constructor
    · intro read
      cases read
      exact .nil
    · intro all
      cases all
      rfl
  | cons field fields ih =>
    rw [readFields, bind_ok]
    constructor
    · intro read
      obtain ⟨own, first, rest⟩ := read
      obtain ⟨others, next, same⟩ := bind_ok.mp rest
      cases same
      exact .cons ((read_field_ok str values field own).mp first) ((ih others).mp next)
    · intro all
      cases all with
      | cons first rest =>
        refine ⟨_, (read_field_ok str values field _).mpr first, ?_⟩
        rw [(ih _).mpr rest]
        rfl

theorem fields_given_iff :
    (∃ attributes, readFields str values fields = .ok attributes) ↔ FieldsGiven values fields := by
  simp only [read_fields_ok]
  induction fields with
  | nil =>
    refine iff_of_true ⟨[], .nil⟩ ?_
    nofun
  | cons field fields ih =>
    unfold FieldsGiven at ih ⊢
    rw [List.forall_mem_cons, ← ih]
    constructor
    · intro read
      obtain ⟨attributes, all⟩ := read
      cases all with
      | cons first rest =>
        obtain ⟨value, found, own⟩ := first
        refine ⟨⟨value, found, ?_⟩, _, rest⟩
        intro flag
        rw [flag] at own
        cases own with
        | flag given => exact ⟨given, rfl⟩
    · intro both
      obtain ⟨⟨value, found, flag⟩, attributes, rest⟩ := both
      obtain ⟨name, kind⟩ := field
      cases kind with
      | text => exact ⟨_ :: attributes, .cons ⟨value, found, .text value⟩ rest⟩
      | flag =>
        obtain ⟨given, rfl⟩ := flag rfl
        exact ⟨_ :: attributes, .cons ⟨_, found, .flag given⟩ rest⟩

theorem orderly_fields : Orderly (readFields str values fields) ↔ ReadInOrder values fields := by
  induction fields with
  | nil => exact iff_of_true (orderly_ok _) trivial
  | cons field fields ih =>
    rw [readFields, orderly_bind, orderly_field, ReadInOrder]
    have rest : ∀ own, Orderly (readFields str values fields >>= fun others =>
        (return own :: others : Decoded (List Attribute))) ↔ ReadInOrder values fields := by
      intro own
      rw [orderly_bind, ih]
      exact and_iff_left fun others _ => orderly_ok _
    simp only [rest]
    constructor
    · intro both
      obtain ⟨value, found⟩ := Option.ne_none_iff_exists'.mp both.1
      refine ⟨value, found, ?_⟩
      by_cases refused : field.2 = .flag ∧ boolOf value = none
      · exact Or.inl refused
      · have own : ∃ own, readField str values field = .ok own := by
          simp only [read_field_ok]
          obtain ⟨name, kind⟩ := field
          cases kind with
          | text => exact ⟨_, value, found, .text value⟩
          | flag =>
            cases value with
            | bool flag => exact ⟨_, _, found, .flag flag⟩
            | _ => exact absurd ⟨rfl, rfl⟩ refused
        obtain ⟨own, read⟩ := own
        exact Or.inr (both.2 own read)
    · intro known
      obtain ⟨value, found, next⟩ := known
      refine ⟨by rw [found]; exact Option.some_ne_none value, ?_⟩
      intro own read
      rcases next with refused | next
      · obtain ⟨other, same, accepted⟩ := (read_field_ok str values field own).mp read
        cases found.symm.trans same
        obtain ⟨flag, none_⟩ := refused
        rw [flag] at accepted
        cases accepted
        cases none_
      · exact next

end DosWeb.Production
