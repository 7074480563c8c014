import DosWeb.Errors
import DosWeb.Library.FileTree
import DosWeb.Library.Segments

namespace DosWeb.Pipeline

open Library

inductive Stage where
  | entries
  | growth
  | flows
  | lifecycle
  | conclude
  | report
  deriving DecidableEq

def Stage.text : Stage → String
  | .entries => "entries"
  | .growth => "growth"
  | .flows => "flows"
  | .lifecycle => "lifecycle"
  | .conclude => "conclude"
  | .report => "report"

def stages : List Stage := [.entries, .growth, .flows, .lifecycle, .conclude, .report]

theorem stage_text_injective (left right : Stage) (same : left.text = right.text) :
    left = right := by
  revert same
  cases left <;> cases right <;> decide

/-- A part of a path that names something other than this or the parent directory. -/
structure PlainPart (part : String) : Prop where
  filled : part ≠ ""
  here : part ≠ "."
  up : part ≠ ".."
  single : '/' ∉ part.toList
  solid : Char.ofNat 0 ∉ part.toList

/-- The parts of a path; empty parts and those for the same directory are passed over. -/
def pathParts (raw : String) : List String :=
  ((raw.toList.splitOn '/').map String.ofList).filter fun part => part != "" && part != "."

/-- A path within the output root that names none of the pipeline's own files. -/
structure Relative where
  parts : List String
  filled : parts ≠ []
  plain : ∀ part ∈ parts, PlainPart part
  notRun : parts ≠ ["run.json"]
  notManifests : parts.head? ≠ some ".stage-manifests"
  notLock : parts.head? ≠ some ".pipeline.lock"

theorem relative_ext (left right : Relative) (same : left.parts = right.parts) : left = right := by
  cases left
  cases right
  simpa using same

instance : DecidableEq Relative := fun left right =>
  decidable_of_iff (left.parts = right.parts) ⟨relative_ext left right, fun same => same ▸ rfl⟩

def Relative.text (relative : Relative) : String := "/".intercalate relative.parts

theorem pathParts_plain (raw part : String) (member : part ∈ pathParts raw) (up : part ≠ "..")
    (solid : Char.ofNat 0 ∉ raw.toList) : PlainPart part := by
  simp only [pathParts, List.mem_filter, List.mem_map, Bool.and_eq_true, bne_iff_ne] at member
  rcases member with ⟨⟨characters, inside, rfl⟩, filled, here⟩
  have own := Segments.splitOn_part '/' raw.toList characters inside
  exact ⟨filled, here, up, by simpa using own.1, by simpa using fun zero => solid (own.2 zero)⟩

variable (relative : Relative)

theorem text_split : relative.text.toList.splitOn '/' = relative.parts.map String.toList := by
  rw [Relative.text, String.toList_intercalate]
  refine List.splitOn_intercalate '/' ?_ (by simpa using relative.filled)
  simpa using fun part member => (relative.plain part member).single

theorem pathParts_text : pathParts relative.text = relative.parts := by
  rw [pathParts, text_split, List.map_map]
  simp only [Function.comp_def, String.ofList_toList, List.map_id']
  refine List.filter_eq_self.mpr ?_
  intro part member
  simp [(relative.plain part member).filled, (relative.plain part member).here]

def invalidPath (message raw : String) : Raised :=
  .analyzer ⟨"ARTIFACT_INVALID_PATH", message, [("path", .str raw)]⟩

def safeRelative (raw : String) : Checked Relative :=
  if broken : raw = "" ∨ Char.ofNat 0 ∈ raw.toList then
    .error (invalidPath "Stage artifact path is invalid." raw)
  else if inside : raw.toList.head? = some '/' ∨ pathParts raw = [] ∨ ".." ∈ pathParts raw then
    .error (invalidPath "Stage artifact path must stay within the output root." raw)
  else if kept : pathParts raw = ["run.json"] ∨ (pathParts raw).head? = some ".stage-manifests" ∨
      (pathParts raw).head? = some ".pipeline.lock" then
    .error (invalidPath "Stage cannot overwrite pipeline metadata." raw)
  else
    .ok {
      parts := pathParts raw
      filled := fun empty => inside (Or.inr (Or.inl empty))
      plain := fun part member => pathParts_plain raw part member
        (fun up => inside (Or.inr (Or.inr (up ▸ member)))) (fun zero => broken (Or.inr zero))
      notRun := fun run => kept (Or.inl run)
      notManifests := fun manifests => kept (Or.inr (Or.inl manifests))
      notLock := fun lock => kept (Or.inr (Or.inr lock)) }

theorem safeRelative_parts (raw : String) (relative : Relative)
    (safe : safeRelative raw = .ok relative) : relative.parts = pathParts raw := by
  unfold safeRelative at safe
  split at safe
  · cases safe
  · split at safe
    · cases safe
    · split at safe
      · cases safe
      · cases safe
        rfl

end DosWeb.Pipeline
