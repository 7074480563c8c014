import DosWeb.Library.Frames
import DosWeb.Library.Sha256
import DosWeb.Library.Text
import Mathlib.Data.List.Nodup

/-!
The fingerprint of a source tree: the paths and the contents of its files in one digest. Names of
files are bytes; they are sorted as the texts that Python makes of them.
-/

namespace DosWeb.Batch.Corpus

/-- The code points of a name; a byte that is not part of UTF-8 becomes a surrogate. -/
def codePointsFrom : Nat → List UInt8 → List Nat
  | _, [] => []
  | skipped + 1, _ :: rest => codePointsFrom skipped rest
  | 0, byte :: rest =>
    match (byte :: rest).toByteArray.utf8DecodeChar? 0 with
    | some c => c.toNat :: codePointsFrom (c.utf8Size - 1) rest
    | none => (0xDC00 + byte.toNat) :: codePointsFrom 0 rest

def codePoints (name : List UInt8) : List Nat := codePointsFrom 0 name

def partsOf (path : List UInt8) : List (List UInt8) := path.splitOn 47

structure TreePath where
  text : List UInt8
  plain : ∀ part ∈ partsOf text, part ≠ [] ∧ part ≠ [46] ∧ part ≠ [46, 46]
  free : 0 ∉ text
  deriving DecidableEq

@[ext] theorem TreePath.ext {left right : TreePath} (same : left.text = right.text) :
    left = right := by
  cases left
  cases right
  cases same
  rfl

def TreePath.name (path : TreePath) : List UInt8 := (partsOf path.text).getLastD []

def excludedTreeParts : List (List UInt8) :=
  [".agents", ".git", ".gradle", ".idea", ".mvn", "build", "node_modules", "out", "target"].map
    fun part => Library.Text.utf8 part.toList

def analyzerOutputLead : List (List UInt8) :=
  ["results", "applications_static_analysis"].map fun part => Library.Text.utf8 part.toList

/-- Neither output of the analyzer nor below an excluded directory. -/
def TreePath.counted (path : TreePath) : Bool := (partsOf path.text).take 2 != analyzerOutputLead &&
    !(partsOf path.text).any fun part => excludedTreeParts.contains part

/-- What stands at a path: a file that may be unreadable, a symbolic link, a directory or another
special file, or something whose status cannot be read. -/
inductive Node where
  | file (content : Option (List UInt8))
  | link
  | other
  | gone
  deriving DecidableEq

def Below (upper lower : TreePath) : Prop := upper.text ++ [47] <+: lower.text

structure Source where
  nodes : List (TreePath × Node)
  distinct : (nodes.map Prod.fst).Nodup
  coherent : ∀ upper ∈ nodes, ∀ lower ∈ nodes, Below upper.1 lower.1 →
    upper.2 = .other ∨ upper.2 = .gone

/-- The reason and the path that a refusal of the corpus shows. -/
structure CorpusInvalid where
  reason : String
  path : List Nat
  deriving DecidableEq

def invalid {α : Type} (reason : String) (path : List UInt8) : Except CorpusInvalid α :=
  .error ⟨reason, (codePoints path).take 256⟩

def iterSourceFiles :
    List (TreePath × Node) → Except CorpusInvalid (List (TreePath × Option (List UInt8)))
  | [] => pure []
  | (path, node) :: rest =>
    if path.counted then
      match node with
      | .gone => invalid "SOURCE_STAT_FAILED" path.name
      | .link => invalid "SOURCE_SYMLINK_UNSUPPORTED" path.name
      | .other => iterSourceFiles rest
      | .file content => do
          let files ← iterSourceFiles rest
          pure ((path, content) :: files)
    else iterSourceFiles rest

def digested : List (TreePath × Option (List UInt8)) → Except CorpusInvalid (List UInt8)
  | [] => pure []
  | (path, none) :: _ => invalid "SOURCE_READ_FAILED" path.text
  | (path, some content) :: rest => do
      let later ← digested rest
      pure (path.text ++ 0 :: (content ++ 0 :: later))

def treeFingerprint (sha256 : List UInt8 → String) (source : Source) :
    Except CorpusInvalid String := do
  let files ← iterSourceFiles source.nodes
  let paths := files.mergeSort fun left right => codePoints left.1.text ≤ codePoints right.1.text
  let bytes ← digested paths
  pure (sha256 bytes)

/-- The source tree as a map from the paths of its files to their contents. -/
def Has (source : Source) (path : TreePath) (content : List UInt8) : Prop :=
  path.counted = true ∧ (path, .file (some content)) ∈ source.nodes

/-- Only trees with the same files and contents have the fingerprint. -/
def Identified (sha256 : List UInt8 → String) (source : Source) : Prop :=
  ∀ other : Source, treeFingerprint sha256 other = treeFingerprint sha256 source →
    ∀ path content, Has other path content ↔ Has source path content

/-- A further file that may stand next to a file and comes after it. -/
structure Joins (path further : TreePath) : Prop where
  counted : further.counted = true
  differs : further ≠ path
  later : codePoints path.text ≤ codePoints further.text
  apart : ¬ Below path further ∧ ¬ Below further path

/-- At most one file, and no path of a further file between two zero bytes of its content. -/
def Unsplittable (source : Source) : Prop :=
  (∀ path content path' content', Has source path content → Has source path' content' →
    path = path') ∧
    ∀ path content, Has source path content → ∀ further before after, Joins path further →
      content ≠ before ++ 0 :: (further.text ++ 0 :: after)

end DosWeb.Batch.Corpus
