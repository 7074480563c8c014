import DosWeb.Growth.Evidence
import DosWeb.Growth.RedactedLines
import DosWeb.Library.FileLines

/-!
The excerpt of a source file around a candidate's line: a run of its byte lines, redacted.
-/

namespace DosWeb.Growth

open Library Library.Pieces Library.FileLines Identifiers

def maxExcerptSourceBytes : Nat := 1048576

def maxPathBytes : Nat := 512

def redactionVersion : String := "1"

def excerptInvalid (reason field : String) : Raised := .analyzer ⟨"LLM_BOUNDED_SLICE_INVALID",
    "Source excerpt could not be derived from the pinned checkout.",
    [("reason", .str reason), ("field", .str field)]⟩

/-- A path that is relative and written as its parts are. -/
def normalizedPath (value : String) : Checked String := do
  let invalid := excerptInvalid "PATH_INVALID" "repo_relative_path"
  require (value ≠ "" && !value.toList.contains '\x00' && !value.toList.contains '\\') invalid
  require ((Text.utf8 value.toList).length ≤ maxPathBytes)
    (excerptInvalid "PATH_LIMIT" "repo_relative_path")
  let parts := (Text.splitOn '/' value.toList).filter fun part => part ≠ [] && part ≠ ['.']
  require (!Text.startsWith value "/" && parts ≠ [] && !parts.contains ['.', '.']) invalid
  require (['/'].intercalate parts = value.toList)
    (excerptInvalid "PATH_NOT_NORMALIZED" "repo_relative_path")
  return value

/-- An excerpt with the checks of its constructor that do not hold by the way it is made. -/
def AttestedExcerpt.create (path : String) (startLine endLine : Nat) (content : String)
    (blob original : List UInt8) (redactionEvents : List (Nat × String)) :
    Checked AttestedExcerpt :=
  if pathValid : excerptPath path = true then
    if linesValid : 1 ≤ startLine ∧ startLine ≤ endLine ∧ endLine ≤ maxLineNumber then
      if contentValid : content ≠ "" ∧ (Text.utf8 content.toList).length ≤ 16384 then
        if redactionsBounded : redactionEvents.length ≤ 256 then
          if redactionsValid : ∀ event ∈ redactionEvents,
              1 ≤ event.1 ∧ event.1 ≤ maxLineNumber ∧ event.2 ∈ redactionPatterns then
            .ok {
              excerptId := stableIdentifier "excerpt" [
                ("repo_relative_path", .str path), ("start_line", .int startLine),
                ("end_line", .int endLine), ("git_blob_sha256", .str (Sha256.hexdigest blob)),
                ("original_excerpt_sha256", .str (Sha256.hexdigest original)),
                ("excerpt_sha256", .str (Sha256.hexdigest (Text.utf8 content.toList)))]
              repoRelativePath := path
              startLine
              endLine
              content
              gitBlobSha256 := Sha256.hexdigest blob
              excerptSha256 := Sha256.hexdigest (Text.utf8 content.toList)
              originalExcerptSha256 := Sha256.hexdigest original
              redactionEvents
              redactionVersion := Growth.redactionVersion
              excerptIdValid := stable_identifier_valid "excerpt" "excerpt:" rfl _ (by decide)
                (by decide) (List.all_eq_true.mp (by decide))
              pathValid
              linesValid
              contentValid
              blobValid := digest_shape blob
              originalValid := digest_shape original
              contentHashed := rfl
              redactionsBounded
              redactionsValid
              versionValid := by decide }
          else .error sliceInvalid
        else .error sliceInvalid
      else .error sliceInvalid
    else .error sliceInvalid
  else .error sliceInvalid

def excerptStart (candidateLine contextLines : Int) : Nat :=
  (max 1 (candidateLine - contextLines)).toNat

def excerptEnd (count : Nat) (candidateLine contextLines : Int) : Nat :=
  (min (count : Int) (candidateLine + contextLines)).toNat

variable (isWord : Char → Bool) (readCheckoutFile : String → Checked (List UInt8))

def extractSourceExcerpt (repoRelativePath : String) (candidateLine contextLines : Int) :
    Checked AttestedExcerpt := do
  let path ← normalizedPath repoRelativePath
  require (1 ≤ candidateLine && candidateLine ≤ maxLineNumber)
    (excerptInvalid "CANDIDATE_LINE_INVALID" "candidate_line")
  require (0 ≤ contextLines && contextLines ≤ 256)
    (excerptInvalid "CONTEXT_LINES_INVALID" "context_lines")
  let blob ← readCheckoutFile path
  let lines := Bytes.splitLines blob
  require (candidateLine ≤ lines.length)
    (excerptInvalid "CANDIDATE_LOCATION_OUTSIDE_SOURCE" "candidate_line")
  let startLine := excerptStart candidateLine contextLines
  let endLine := excerptEnd lines.length candidateLine contextLines
  let original := (slice lines (startLine - 1) endLine).flatten
  match Bytes.decodeUtf8 original with
  | none => .error (excerptInvalid "SOURCE_NOT_UTF8" "repo_relative_path")
  | some originalContent => do
      let oversized := excerptInvalid "EXCERPT_SIZE_INVALID" "repo_relative_path"
      require (original ≠ [] && original.length ≤ maxExcerptSourceBytes) oversized
      let redacted ← redactSourceContent isWord originalContent startLine
      require ((Text.utf8 redacted.1).length ≤ maxExcerptSourceBytes) oversized
      AttestedExcerpt.create path startLine endLine (String.ofList redacted.1) blob original
        (redacted.2.map fun event => (event.line.toNat, event.patternId))

structure AttestedExcerpt.Holds (excerpt : AttestedExcerpt) (startLine endLine : Nat)
    (content : String) (redactionEvents : List (Nat × String)) : Prop where
  start : excerpt.startLine = startLine
  stop : excerpt.endLine = endLine
  text : excerpt.content = content
  events : excerpt.redactionEvents = redactionEvents

section

variable (path : String) (startLine endLine : Nat) (content : String) (blob original : List UInt8)
  (redactionEvents : List (Nat × String))

theorem AttestedExcerpt.create_ok (pathValid : excerptPath path = true)
    (linesValid : 1 ≤ startLine ∧ startLine ≤ endLine ∧ endLine ≤ maxLineNumber)
    (contentValid : content ≠ "" ∧ (Text.utf8 content.toList).length ≤ 16384)
    (redactionsBounded : redactionEvents.length ≤ 256)
    (redactionsValid : ∀ event ∈ redactionEvents, 1 ≤ event.1 ∧ event.1 ≤ maxLineNumber ∧
      event.2 ∈ redactionPatterns) :
    ∃ excerpt, AttestedExcerpt.create path startLine endLine content blob original
        redactionEvents = .ok excerpt ∧
      excerpt.Holds startLine endLine content redactionEvents := by
  unfold AttestedExcerpt.create
  rw [dif_pos pathValid, dif_pos linesValid, dif_pos contentValid, dif_pos redactionsBounded,
    dif_pos redactionsValid]
  exact ⟨_, rfl, rfl, rfl, rfl, rfl⟩

theorem AttestedExcerpt.created (excerpt : AttestedExcerpt)
    (made : AttestedExcerpt.create path startLine endLine content blob original redactionEvents =
      .ok excerpt) : excerpt.Holds startLine endLine content redactionEvents := by
  unfold AttestedExcerpt.create at made
  split at made
  · split at made
    · split at made
      · split at made
        · split at made
          · have same := Except.ok.inj made
            subst same
            exact ⟨rfl, rfl, rfl, rfl⟩
          · cases made
        · cases made
      · cases made
    · cases made
  · cases made

end

theorem encoded_lines (lines : List (List Char)) :
    (lines.map Text.utf8).flatten = Text.utf8 lines.flatten := by
  induction lines with
  | nil => rfl
  | cons line lines ih =>
    rw [List.map_cons, List.flatten_cons, List.flatten_cons, Bytes.utf8_append, ih]

theorem byte_slice (content : List Char) (first last : Nat) :
    (slice (Bytes.splitLines (Text.utf8 content)) first last).flatten =
      Text.utf8 (slice (fileLines content) first last).flatten := by
  rw [byte_lines, slice, ← List.map_take, ← List.map_drop, encoded_lines]
  rfl

theorem normalized_same (value path : String) (normal : normalizedPath value = .ok path) :
    path = value := by
  simp only [normalizedPath, bind_ok, require_ok, pure_ok] at normal
  obtain ⟨-, -, -, -, -, -, -, -, same⟩ := normal
  exact same.symm

theorem extract_ok (repoRelativePath : String) (candidateLine contextLines : Int)
    (content : List Char) (excerpt : AttestedExcerpt)
    (file : readCheckoutFile repoRelativePath = .ok (Text.utf8 content))
    (run : extractSourceExcerpt isWord readCheckoutFile repoRelativePath candidateLine
      contextLines = .ok excerpt) :
    let startLine := excerptStart candidateLine contextLines
    let endLine := excerptEnd (fileLines content).length candidateLine contextLines
    ∃ out events, redactSourceContent isWord
        (slice (fileLines content) (startLine - 1) endLine).flatten startLine = .ok (out, events) ∧
      excerpt.Holds startLine endLine (String.ofList out)
        (events.map fun event => (event.line.toNat, event.patternId)) := by
  intro startLine endLine
  simp only [extractSourceExcerpt, bind_ok, require_ok] at run
  obtain ⟨path, normal, -, -, -, -, blob, read, -, -, rest⟩ := run
  rw [normalized_same repoRelativePath path normal, file] at read
  cases read
  rw [byte_slice, Bytes.decodeUtf8_utf8, byte_lines, List.length_map] at rest
  simp only [bind_ok, require_ok] at rest
  obtain ⟨-, -, redacted, redaction, -, -, made⟩ := rest
  exact ⟨redacted.1, redacted.2, redaction, AttestedExcerpt.created _ _ _ _ _ _ _ _ made⟩

theorem extract_made (repoRelativePath : String) (candidateLine contextLines : Int)
    (content out : List Char) (events : List RedactionEvent)
    (normal : normalizedPath repoRelativePath = .ok repoRelativePath)
    (file : readCheckoutFile repoRelativePath = .ok (Text.utf8 content))
    (line : (1 ≤ candidateLine && candidateLine ≤ maxLineNumber) = true)
    (context : (0 ≤ contextLines && contextLines ≤ 256) = true)
    (inside : (candidateLine ≤ (fileLines content).length : Bool) = true)
    (original : List Char) (startLine endLine : Nat)
    (start : excerptStart candidateLine contextLines = startLine)
    (stop : excerptEnd (fileLines content).length candidateLine contextLines = endLine)
    (lines : (slice (fileLines content) (startLine - 1) endLine).flatten = original)
    (sized : (Text.utf8 original ≠ [] &&
      (Text.utf8 original).length ≤ maxExcerptSourceBytes) = true)
    (redacted : redactSourceContent isWord original startLine = .ok (out, events))
    (fits : ((Text.utf8 out).length ≤ maxExcerptSourceBytes : Bool) = true)
    (pathValid : excerptPath repoRelativePath = true)
    (linesValid : 1 ≤ startLine ∧ startLine ≤ endLine ∧ endLine ≤ maxLineNumber)
    (contentValid : String.ofList out ≠ "" ∧ (Text.utf8 (String.ofList out).toList).length ≤ 16384)
    (redactionsBounded : (events.map fun event =>
      (event.line.toNat, event.patternId)).length ≤ 256)
    (redactionsValid : ∀ event ∈ events.map fun event => (event.line.toNat, event.patternId),
      1 ≤ event.1 ∧ event.1 ≤ maxLineNumber ∧ event.2 ∈ redactionPatterns) :
    ∃ excerpt, extractSourceExcerpt isWord readCheckoutFile repoRelativePath candidateLine
        contextLines = .ok excerpt ∧ excerpt.Holds startLine endLine (String.ofList out)
        (events.map fun event => (event.line.toNat, event.patternId)) := by
  subst start stop lines
  obtain ⟨excerpt, made, holds⟩ := AttestedExcerpt.create_ok repoRelativePath _ _ _
    (Text.utf8 content) (Text.utf8 _) _ pathValid linesValid contentValid redactionsBounded
    redactionsValid
  refine ⟨excerpt, ?_, holds⟩
  simp only [extractSourceExcerpt, bind_ok, require_ok]
  refine ⟨repoRelativePath, normal, (), line, (), context, Text.utf8 content, file, (), ?_, ?_⟩
  · rw [byte_lines, List.length_map]
    exact inside
  · rw [byte_slice, Bytes.decodeUtf8_utf8, byte_lines, List.length_map]
    simp only [bind_ok, require_ok]
    exact ⟨(), sized, (out, events), redacted, (), fits, made⟩

end DosWeb.Growth
