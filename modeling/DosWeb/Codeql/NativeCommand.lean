import DosWeb.Library.Text
import Mathlib.Data.List.Infix
import Mathlib.Data.List.TakeWhile

/-!
The commands that a native build may run, as they are checked before a database is built.
-/

namespace DosWeb.Codeql

open Library

section

def nativeTools : List (List Char) := ["mvn", "mvnw", "gradle", "gradlew", "ant"].map String.toList

def forbiddenTokens : List (List Char) :=
  ["autobuild", "build-mode=none", "codeql_bounded_javac", "allow_compilation_failure", "bootrun",
    "run", "test", "integrationtest", "deploy", "publish", "docker"].map String.toList

def compositions : List (List Char) := ["|", ">", "<", "&&", ";", "`", "$("].map String.toList

def sourceOnly : List (List Char) :=
  ["build-mode=none", "codeql_bounded_javac", "allow_compilation_failure"].map String.toList

def exclusions : List (List Char) := ["-x", "--exclude-task"].map String.toList

def nativeInvalid (message : String) : String := "invalid native CodeQL build: " ++ message

/-- `Path.name` -/
def pathName (path : List Char) : List Char :=
  (((path.splitOn '/').filter fun part => part ≠ [] && part ≠ ['.']).getLast?).getD []

def lstrip (chars text : List Char) : List Char := text.dropWhile chars.contains

inductive BuildKind
  | maven
  | gradle
  | ant
  deriving DecidableEq

def BuildKind.text : BuildKind → String
  | .maven => "maven"
  | .gradle => "gradle"
  | .ant => "ant"

def byShell (words : List (List Char)) : Bool :=
  words.head?.map pathName = some "sh".toList && 1 < words.length

def executable (words : List (List Char)) : List Char :=
  pathName ((words.drop (if byShell words then 1 else 0)).headD [])

def toolOf (words : List (List Char)) : List Char := lstrip ['.', '/'] (executable words)

def inferredKind (tool : List Char) : BuildKind :=
  if tool ∈ ["mvn".toList, "mvnw".toList] then .maven
  else if tool ∈ ["gradle".toList, "gradlew".toList] then .gradle
  else .ant

variable (split : List Char → Option (List (List Char))) (fold : Char → List Char)

def commandWords (command : List Char) : Except String (List (List Char)) :=
  if Text.strip command = [] then .error (nativeInvalid "command is required")
  else
    match split command with
    | none => .error (nativeInvalid "command cannot be parsed")
    | some [] => .error (nativeInvalid "command is required")
    | some words => .ok words

def casefold (text : List Char) : List Char := text.flatMap fold

def taskName (word : List Char) : List Char := lstrip ['-', ':'] (casefold fold word)

/-- Each word but the first, with the one before it. -/
def followed (words : List (List Char)) : List (List Char × List Char) := words.zip words.tail

def excluded (words : List (List Char)) : List (List Char) :=
  ((followed words).filter fun pair => pair.1 ∈ exclusions).map fun pair => taskName fold pair.2

def compact (words : List (List Char)) : List (List Char) :=
  (words.take 1 ++ ((followed words).filter fun pair => pair.1 ∉ exclusions).map Prod.snd).map
    (taskName fold)

def validateNativeCommand (command : List Char) (kind : Option String) :
    Except String (BuildKind × List Char) := do
  let words ← commandWords split command
  let normalized := casefold fold ([' '].intercalate words)
  if toolOf words ∉ nativeTools then
    .error (nativeInvalid "only Maven, Gradle, or Ant commands are allowed")
  else if ∃ token ∈ compositions, token <:+: normalized then
    .error (nativeInvalid "shell composition is not allowed")
  else if ∃ token ∈ sourceOnly, token <:+: normalized then
    .error (nativeInvalid "source-only or bounded extraction is not allowed")
  else if ∃ name ∈ compact fold words, name ∉ excluded fold words ∧ name ∈ forbiddenTokens then
    .error (nativeInvalid
      "tests, application launch, deployment, and Docker tasks are not allowed")
  else if ∃ declared ∈ kind, declared ≠ (inferredKind (toolOf words)).text then
    .error (nativeInvalid "declared build kind does not match command")
  else .ok (inferredKind (toolOf words), Text.strip command)

end

section

variable (fold : Char → List Char) (words : List (List Char))

def operators : List (List Char) := ["|", ">", "<", ";", "&", "`", "$("].map String.toList

def forbiddenTasks : List (List Char) :=
  ["run", "bootrun", "test", "integrationtest", "deploy", "publish", "docker", "autobuild"].map
    String.toList

/-- What stands behind the last colon. -/
def lastSegment (text : List Char) : List Char := (text.reverse.takeWhile (· ≠ ':')).reverse

def ByGradle : Prop := inferredKind (toolOf words) = .gradle

instance : Decidable (ByGradle words) := inferInstanceAs (Decidable (_ = _))

/-- A task or goal: a word behind the executable that is no option, and for Gradle not the task
that an option excludes. -/
def TaskWord (word : List Char) : Prop :=
  ∃ before, (before, word) ∈ (followed words).drop (if byShell words then 1 else 0) ∧
    word.head? ≠ some '-' ∧ ¬ (ByGradle words ∧ before ∈ exclusions)

def Excluded (word : List Char) : Prop := ByGradle words ∧ taskName fold word ∈ excluded fold words

/-- The command runs a native tool, composes nothing and names no forbidden task. -/
structure OnlyBuilds : Prop where
  native : executable words ∈ nativeTools
  plain : ∀ word ∈ words, ∀ operator ∈ operators, ¬ operator <:+: word
  building : ∀ word, TaskWord words word →
    lastSegment (casefold fold word) ∈ forbiddenTasks → Excluded fold words word

/-- What the check lets through: a dot before the executable, a single ampersand, and a forbidden
task that is qualified or named by an option that the tool does not have. -/
structure Unnoticed : Prop where
  undotted : ∀ c ∈ (executable words).head?, c ∉ ['.', '/']
  single : ∀ word ∈ words, '&' ∉ word
  building : ∀ word, TaskWord words word →
    ':' ∈ taskName fold word ∨ ¬ ByGradle words ∧ taskName fold word ∈ excluded fold words →
    lastSegment (casefold fold word) ∈ forbiddenTasks → Excluded fold words word

end

section

theorem word_joined (words : List (List Char)) (word : List Char) (member : word ∈ words) :
    word <:+: [' '].intercalate words := by
  induction words with
  | nil => cases member
  | cons first rest ih =>
    cases rest with
    | nil =>
      rw [List.mem_singleton.mp member, List.intercalate_singleton]
    | cons second rest =>
      rw [List.intercalate_cons_cons, List.append_assoc]
      rcases List.mem_cons.mp member with rfl | later
      · exact (List.prefix_append word _).isInfix
      · exact ((ih later).trans (List.suffix_append [' '] _).isInfix).trans
          (List.suffix_append first _).isInfix

theorem tools_undotted (tool : List Char) (native : tool ∈ nativeTools) :
    ∀ c ∈ tool.head?, c ∉ ['.', '/'] := by
  have checked : ∀ tool ∈ nativeTools, (tool.head?.all fun c => c ∉ ['.', '/']) = true := by decide
  intro c own
  have held := checked tool native
  rw [Option.mem_def.mp own] at held
  exact of_decide_eq_true held

theorem lstrip_fixed (chars text : List Char) (other : ∀ c ∈ text.head?, c ∉ chars) :
    lstrip chars text = text := by
  cases text with
  | nil => rfl
  | cons c text =>
    have kept : ¬ chars.contains c = true := by simpa using other c rfl
    rw [lstrip, List.dropWhile_cons_of_neg kept]

/-- Without a colon behind the stripped characters the last segment ends in the stripped name. -/
theorem last_segment_name (text : List Char) (unqualified : ':' ∉ lstrip ['-', ':'] text) :
    ∃ dashes, lastSegment text = dashes ++ lstrip ['-', ':'] text ∧ ∀ c ∈ dashes, c = '-' := by
  have whole : text.takeWhile (['-', ':'] : List Char).contains ++ lstrip ['-', ':'] text = text :=
    List.takeWhile_append_dropWhile
  refine ⟨lastSegment (text.takeWhile (['-', ':'] : List Char).contains), ?_, fun c inside => ?_⟩
  · conv_lhs => rw [← whole]
    rw [lastSegment, List.reverse_append, List.takeWhile_append_of_pos, List.reverse_append,
      List.reverse_reverse]
    · rfl
    · intro c inside
      apply decide_eq_true
      rintro rfl
      exact unqualified (List.mem_reverse.mp inside)
  · have taken := List.mem_reverse.mp inside
    have other : c ≠ ':' := by simpa using List.mem_takeWhile_imp taken
    have stripped := List.mem_takeWhile_imp
      (List.mem_reverse.mp ((List.takeWhile_prefix _).subset taken))
    simpa [other] using stripped

theorem tasks_undashed (task : List Char) (forbidden : task ∈ forbiddenTasks) :
    task.head? ≠ some '-' := by
  simp only [forbiddenTasks, List.map_cons, List.map_nil, List.mem_cons, List.not_mem_nil,
    or_false] at forbidden
  rcases forbidden with rfl | rfl | rfl | rfl | rfl | rfl | rfl | rfl <;> decide

theorem task_forbidden (task : List Char) (forbidden : task ∈ forbiddenTasks) :
    task ∈ forbiddenTokens := by
  revert task
  decide

variable (split : List Char → Option (List (List Char))) (fold : Char → List Char)

/-- An unqualified forbidden task is found in the set of stripped words. -/
theorem unqualified_name (word : List Char) (unqualified : ':' ∉ taskName fold word)
    (forbidden : lastSegment (casefold fold word) ∈ forbiddenTasks) :
    taskName fold word ∈ forbiddenTokens := by
  obtain ⟨dashes, same, only⟩ := last_segment_name (casefold fold word) unqualified
  have none_ : dashes = [] := by
    cases dashes with
    | nil => rfl
    | cons c dashes =>
      have own := tasks_undashed _ forbidden
      rw [same, List.cons_append, List.head?_cons, only c (.head _)] at own
      exact absurd rfl own
  rw [none_, List.nil_append] at same
  rw [same] at forbidden
  exact task_forbidden _ forbidden

/-- What an accepted command was checked for. -/
structure Checked (words : List (List Char)) : Prop where
  native : toolOf words ∈ nativeTools
  joined : ∀ token ∈ compositions, ¬ token <:+: casefold fold ([' '].intercalate words)
  allowed : ∀ name ∈ compact fold words, name ∈ forbiddenTokens → name ∈ excluded fold words

theorem validate_checked (command : List Char) (kind : Option String)
    (outcome : BuildKind × List Char)
    (accepted : validateNativeCommand split fold command kind = .ok outcome)
    (words : List (List Char)) (read : commandWords split command = .ok words) :
    Checked fold words := by
  rw [validateNativeCommand, read] at accepted
  change (if _ then _ else _) = _ at accepted
  split_ifs at accepted with foreign composed bounded launched declared
  constructor
  · exact foreign
  · intro token member inside
    exact composed ⟨token, member, inside⟩
  · intro name member forbidden
    by_contra kept
    exact launched ⟨name, member, kept, forbidden⟩

theorem task_compact (words : List (List Char)) (before word : List Char)
    (pair : (before, word) ∈ followed words) (taken : before ∉ exclusions) :
    taskName fold word ∈ compact fold words := by
  apply List.mem_map_of_mem
  apply List.mem_append_right
  exact List.mem_map.mpr ⟨(before, word), List.mem_filter.mpr ⟨pair, decide_eq_true taken⟩, rfl⟩

theorem only_builds_iff (words : List (List Char)) (checked : Checked fold words)
    (fixed : ∀ c ∈ ['|', '>', '<', ';', '&', '`', '$', '('], fold c = [c]) :
    OnlyBuilds fold words ↔ Unnoticed fold words := by
  have composed (token : List Char) (member : token ∈ compositions)
      (same : casefold fold token = token) (word : List Char) (inside : word ∈ words) :
      ¬ token <:+: word := by
    intro within
    apply checked.joined token member
    rw [← same]
    exact (within.trans (word_joined words word inside)).flatMap fold
  constructor
  · intro builds
    exact {
      undotted := tools_undotted _ builds.native
      single := fun word member ampersand =>
        builds.plain word member ['&'] (by decide) ((List.singleton_infix_iff _ _).mpr ampersand)
      building := fun word task _ => builds.building word task }
  · intro unnoticed
    exact {
      native := by
        have native := checked.native
        rwa [toolOf, lstrip_fixed _ _ unnoticed.undotted] at native
      plain := by
        intro word member operator held
        simp only [operators, List.map_cons, List.map_nil, List.mem_cons, List.not_mem_nil,
          or_false] at held
        rcases held with rfl | rfl | rfl | rfl | rfl | rfl | rfl
        case inr.inr.inr.inr.inl =>
          intro within
          exact unnoticed.single word member ((List.singleton_infix_iff _ _).mp within)
        all_goals
          refine composed _ (by decide) ?_ word member
          simp [casefold, fixed]
      building := by
        intro word task forbidden
        by_cases qualified : ':' ∈ taskName fold word
        · exact unnoticed.building word task (Or.inl qualified) forbidden
        · have named := unqualified_name fold word qualified forbidden
          obtain ⟨before, pair, undashed, free⟩ := task
          have stands := List.mem_of_mem_drop pair
          have out : taskName fold word ∈ excluded fold words := by
            by_cases behind : before ∈ exclusions
            · exact List.mem_map.mpr ⟨(before, word),
                List.mem_filter.mpr ⟨stands, decide_eq_true behind⟩, rfl⟩
            · exact checked.allowed _ (task_compact fold words before word stands behind) named
          by_cases gradle : ByGradle words
          · exact ⟨gradle, out⟩
          · exact unnoticed.building word ⟨before, pair, undashed, free⟩ (Or.inr ⟨gradle, out⟩)
              forbidden }

end

/-- An accepted command only builds exactly where nothing of what the check passes over is in
it. -/
theorem native_command_iff (split : List Char → Option (List (List Char)))
    (fold : Char → List Char) (fixed : ∀ c ∈ ['|', '>', '<', ';', '&', '`', '$', '('], fold c = [c])
    (command : List Char) (kind : Option String) (outcome : BuildKind × List Char)
    (accepted : validateNativeCommand split fold command kind = .ok outcome) :
    ∃ words, commandWords split command = .ok words ∧
      (OnlyBuilds fold words ↔ Unnoticed fold words) := by
  cases read : commandWords split command with
  | error message => simp [validateNativeCommand, read, bind, Except.bind] at accepted
  | ok words =>
    exact ⟨words, rfl, only_builds_iff fold words
      (validate_checked split fold command kind outcome accepted words read) fixed⟩

def spaced (text : List Char) : Option (List (List Char)) := some (text.splitOn ' ')

def lowered (c : Char) : List Char := [c.toLower]

theorem lowered_fixed (c : Char) (operator : c ∈ ['|', '>', '<', ';', '&', '`', '$', '(']) :
    lowered c = [c] := by
  simp only [List.mem_cons, List.not_mem_nil, or_false] at operator
  rcases operator with rfl | rfl | rfl | rfl | rfl | rfl | rfl | rfl <;> rfl

theorem native_command_assemble :
    (∀ c ∈ ['|', '>', '<', ';', '&', '`', '$', '('], lowered c = [c]) ∧
    validateNativeCommand spaced lowered "sh ./gradlew assemble -x test".toList none =
      .ok (.gradle, "sh ./gradlew assemble -x test".toList) ∧
    ∃ words, commandWords spaced "sh ./gradlew assemble -x test".toList = .ok words ∧
      (OnlyBuilds lowered words ↔ Unnoticed lowered words) := by
  have accepted : validateNativeCommand spaced lowered "sh ./gradlew assemble -x test".toList
      none = .ok (.gradle, "sh ./gradlew assemble -x test".toList) := by decide
  exact ⟨lowered_fixed, accepted, native_command_iff spaced lowered lowered_fixed _ none _ accepted⟩

/-- A goal that is qualified by its plugin launches the application. -/
theorem qualified_launch_accepted : ¬ ∀ (split : List Char → Option (List (List Char)))
    (fold : Char → List Char) (_ : ∀ c ∈ ['|', '>', '<', ';', '&', '`', '$', '('], fold c = [c])
    (command : List Char) (kind : Option String) (outcome : BuildKind × List Char)
    (_ : validateNativeCommand split fold command kind = .ok outcome) (words : List (List Char))
    (_ : commandWords split command = .ok words), OnlyBuilds fold words := by
  intro admitted
  have builds := admitted spaced lowered lowered_fixed "mvn spring-boot:run".toList none
    (.maven, "mvn spring-boot:run".toList) (by decide)
    ["mvn".toList, "spring-boot:run".toList] (by decide)
  have task : TaskWord ["mvn".toList, "spring-boot:run".toList] "spring-boot:run".toList :=
    ⟨"mvn".toList, by decide, by decide, fun byGradle => absurd byGradle.1 (by decide)⟩
  exact absurd (builds.building _ task (by decide)).1 (by decide)

end DosWeb.Codeql
