import DosWeb.Library.Steps
import DosWeb.Llm.CacheEntries
import Mathlib.Data.List.AList

/-!
The directory of the contract cache: the programs that reserve room in it, publish entries and
read them back, one file-system step after another. The capacity lock keeps other processes away
while a reservation stands, so that whole calls follow each other.
-/

namespace DosWeb.Llm.Cache

open Library Library.JsonValue Library.JsonText

def maxCacheEntries : Nat := 256

def maxCacheTotalBytes : Nat := maxCacheEntries * maxCacheBytes

/-- A regular file; `safe` tells whether it is the user's own and closed to everybody else. -/
structure Stored where
  content : List UInt8
  safe : Bool

abbrev Directory := AList fun _ : String => Stored

def slice (text : String) (first count : Nat) : String :=
  String.ofList ((text.toList.drop first).take count)

def isEntry (name : String) : Bool := Text.endsWith name ".json" &&
    ((name.length = 69 && safeKey (slice name 0 64)) ||
      (name.length = 74 && Text.startsWith name "auth-" && safeKey (slice name 5 64)))

def hexText (text : String) : Bool := text.toList.all hexDigits.contains

def isTemporary (name : String) : Bool :=
  name.length = 102 && Text.startsWith name "." && hexText (slice name 1 64) &&
    slice name 65 1 = "." && hexText (slice name 66 32) && Text.endsWith name ".tmp"

def countedName (name : String) : Bool := isEntry name || isTemporary name

def token (number : Nat) : String :=
  let digits := Nat.toDigits 16 number
  String.ofList (List.replicate (32 - digits.length) '0' ++ digits)

def temporaryName (key : String) (number : Nat) : String := "." ++ key ++ "." ++ token number ++ ".tmp"

/-- What becomes of a file-system step; `spare` is what a write leaves over, and the number from
which a name is made. -/
inductive Outcome where
  | works (spare : Nat)
  | fails
  | failsAfter (spare : Nat)
  | crash

inductive Errno where
  | exists_
  | missing
  | other
  deriving DecidableEq

/-- What stops a program: the death of its process, an error of the system or one of the cache. -/
inductive Stop where
  | crash
  | os (error : Errno)
  | raised (raised : Raised)

/-- The directory with those that stood before it, the last first; where each put began to write,
with its size; and what was raised by puts under a reservation. -/
structure History where
  directory : Directory
  earlier : List Directory
  began : List (Directory × Nat)
  failures : List Raised

namespace History

variable (history : History)

def stood : List Directory := history.directory :: history.earlier

def move (directory : Directory) : History :=
  { history with directory := directory, earlier := history.stood }

def begin_ (size : Nat) : History :=
  { history with began := (history.directory, size) :: history.began }

def fail (raised : Raised) : History := { history with failures := raised :: history.failures }

end History

structure World where
  history : History
  outcomes : List Outcome

def World.directory (world : World) : Directory := world.history.directory

def World.move (world : World) (directory : Directory) : World :=
  { world with history := world.history.move directory }

abbrev Caching := EStateM Stop World

section

variable {α : Type}

def draw : Caching Outcome := do
  let world ← get
  match world.outcomes with
  | [] => return .works 0
  | outcome :: rest => do
      set { world with outcomes := rest }
      return outcome

def act (effect : Directory → Except Errno (α × Directory)) : Caching α := fun world =>
  match effect world.directory with
  | .error error => .error (.os error) world
  | .ok (value, directory) => .ok value (world.move directory)

def attempt (effect : Nat → Directory → Except Errno (α × Directory)) : Caching α := do
  match ← draw with
  | .crash => throw .crash
  | .fails => throw (.os .other)
  | .works spare => act (effect spare)
  | .failsAfter spare => do
      let _ ← act (effect spare)
      throw (.os .other)

def look (observe : Directory → α) : Caching α := do
  match ← draw with
  | .crash => throw .crash
  | .works _ => return observe (← get).directory
  | _ => throw (.os .other)

def onOsError (program : Caching α) (handler : Caching α) : Caching α := fun world =>
  match program world with
  | .error (.os _) after => handler after
  | result => result

def ofChecked (computation : Checked α) : Caching α := fun world =>
  match computation with
  | .ok value => .ok value world
  | .error raised => .error (.raised raised) world

def refuse (code message : String) : Caching α := throw (.raised (.analyzer ⟨code, message, []⟩))

def unsafe_ (message : String) : Caching α := refuse "LLM_CACHE_UNSAFE" message

def unavailable (message : String) : Caching α := refuse "LLM_CACHE_CAPACITY_UNAVAILABLE" message

def exhaustedError : Raised :=
  .analyzer ⟨"LLM_CACHE_CAPACITY_EXHAUSTED", "LLM cache capacity is exhausted.", []⟩

def exhausted : Caching α := throw (.raised exhaustedError)

def immutable : Caching α :=
  refuse "LLM_CACHE_CONFLICT" "LLM cache entries are immutable once published."

def lstat (name : String) : Caching (Option Stored) := look fun directory => directory.lookup name

def entryIsUnsafe (name : String) : Caching Bool := do
  return (← lstat name).any fun file => !file.safe

def entryExists (name : String) : Caching Bool := do
  return (← onOsError (lstat name) (unavailable "Could not inspect LLM cache entry.")).isSome

def requireSafe (name message : String) : Caching Unit := do
  if ← entryIsUnsafe name then unsafe_ message else return ()

/-- Whether an entry, or something unsafe, has the name. -/
def occupied (name : String) : Caching Bool := do
  if ← entryIsUnsafe name then return true else entryExists name

def requireAbsent (name : String) : Caching Unit := do
  if ← entryExists name then immutable else return ()

def sync : Caching Unit := look fun _ => ()

def opens : Caching Bool := onOsError (do sync; return true) (return false)

end

/-- Counts one name: the entries and the bytes so far. -/
def inspect (counts : Nat × Nat) (name : String) : Caching (Nat × Nat) := do
  if countedName name then
    match ← onOsError (lstat name) (unavailable "Could not inspect LLM cache capacity.") with
    | none => unavailable "Could not inspect LLM cache capacity."
    | some file =>
      if !file.safe then unsafe_ "LLM cache contains an unsafe entry."
      else
        let entries := counts.1 + if isEntry name then 1 else 0
        let total := counts.2 + file.content.length
        if maxCacheEntries < entries ∨ maxCacheTotalBytes < total then exhausted
        else return (entries, total)
  else return counts

def requireCacheCapacity (destination : String) (newSize : Nat) : Caching Unit := do
  let names ← onOsError (look AList.keys) (unavailable "Could not inspect LLM cache capacity.")
  let counts ← names.foldlM inspect (0, 0)
  let replacing := names.contains destination
  if (!replacing && maxCacheEntries ≤ counts.1) ||
      maxCacheTotalBytes < counts.2 + (if replacing then 0 else newSize) then exhausted
  else return ()

/-- Opens the lock file, which is made where there is none. -/
def openLock : Caching Unit := onOsError
    (attempt fun _ directory =>
      match directory.lookup ".capacity.lock" with
      | none => .ok ((), directory.insert ".capacity.lock" ⟨[], true⟩)
      | some file => if file.safe then .ok ((), directory) else .error .other)
    (refuse "LLM_CACHE_LOCK_FAILED" "LLM cache capacity lock is unsafe.")

/-- Takes the lock and asks for the room of the largest entry. -/
def admit_ (key : String) (allowExisting : Bool) (destination : String) : Caching Unit := do
  onOsError sync (unsafe_ "LLM cache directory is unsafe.")
  openLock
  sync
  requireSafe destination "LLM cache destination is unsafe."
  let exists_ ← entryExists destination
  if exists_ && !allowExisting then
    refuse "LLM_CACHE_CONFLICT" "An existing LLM cache entry could not be reused safely."
  else
    requireCacheCapacity (if exists_ then ".refresh-" ++ key else destination) maxCacheBytes

def capacityReservation {α : Type} (held : Option String) (key : String) (allowExisting : Bool)
    (entryPrefix : String) (body : Caching α) : Caching α := do
  ofChecked (require (safeKey key) (.valueError "invalid cache key"))
  ofChecked (require (["", "auth-"].contains entryPrefix) (.valueError "invalid cache entry prefix"))
  match held with
  | some other =>
    if other = entryPrefix ++ key then body
    else refuse "LLM_CACHE_LOCK_FAILED" "LLM cache lock order is invalid."
  | none => do
      admit_ key allowExisting (entryPrefix ++ key ++ ".json")
      body

def createExclusive (key : String) : Caching String :=
  attempt fun number directory =>
    if temporaryName key number ∈ directory then .error .exists_
    else
      .ok (temporaryName key number, directory.insert (temporaryName key number) ⟨[], true⟩)

def onExists {α : Type} (program again : Caching α) : Caching α := fun world =>
  match program world with
  | .error (.os .exists_) after => again after
  | result => result

def createPrivateTemporary (key : String) : Nat → Caching String
  | 0 => throw (.os .other)
  | tries + 1 =>
    onExists (do
      let name ← createExclusive key
      sync
      return name) (createPrivateTemporary key tries)

/-- Writes what the system takes of the data; the number of bytes taken. -/
def write (name : String) (data : List UInt8) : Caching Nat :=
  attempt fun spare directory =>
    match directory.lookup name with
    | none => .error .missing
    | some file =>
      .ok (data.length - spare, directory.insert name
        { file with content := file.content ++ data.take (data.length - spare) })

def writeAll (name : String) (data : List UInt8) : Caching Unit :=
  if _more : 0 < data.length then do
    let written ← write name data
    if _some : 0 < written then writeAll name (data.drop written)
    else throw (.os .other)
  else return ()
termination_by data.length
decreasing_by rw [List.length_drop]; omega

def link (source destination : String) : Caching Unit :=
  attempt fun _ directory =>
    match directory.lookup source, directory.lookup destination with
    | none, _ => .error .missing
    | some _, some _ => .error .exists_
    | some file, none => .ok ((), directory.insert destination file)

def unlink (name : String) : Caching Unit :=
  attempt fun _ directory =>
    if name ∈ directory then .ok ((), directory.erase name) else .error .missing

/-- Removes the temporary file where the body raises; the removal is tried once. -/
def retiring (name : String) (body : Caching Unit) : Caching Unit := fun world =>
  match body world with
  | .ok value after => .ok value after
  | .error .crash after => .error .crash after
  | .error stop after =>
    match unlink name after with
    | .error .crash last => .error .crash last
    | .error _ last => .error stop last
    | .ok _ last => .error stop last

def publish (key destination : String) (payload : List UInt8) (recheck : Caching Unit) :
    Caching Unit := do
  let name ← createPrivateTemporary key 16
  retiring name do
    writeAll name payload
    sync
    recheck
    link name destination
  unlink name
  sync

def begins (size : Nat) : Caching Unit := modify fun world =>
  { world with history := world.history.begin_ size }

def covered {α : Type} (program : Caching α) : Caching α := fun world =>
  match program world with
  | .error (.raised raised) after =>
    .error (.raised raised) { after with history := after.history.fail raised }
  | result => result

variable {F : Type} [FloatText F] (number : Json F → Json F → Bool) {discloses : String → Bool}
  (authenticationKey : List UInt8) (recursionLimit : Nat)

def recheckGrowth (destination : String) : Caching Unit := do
  requireSafe destination "LLM cache destination became unsafe."
  requireAbsent destination

def putReserved (put : GrowthPut (F := F) discloses) : Caching Bool := do
  if ← opens then
    onOsError (do
      let destination := put.key ++ ".json"
      requireSafe destination "LLM cache destination is unsafe."
      requireAbsent destination
      let payload ← ofChecked (serialize recursionLimit (put.entry authenticationKey)
        "LLM cache entry exceeds its byte limit.")
      begins payload.length
      requireCacheCapacity destination payload.length
      publish put.key destination payload (recheckGrowth destination)
      return true)
      (refuse "LLM_CACHE_WRITE_FAILED" "Could not publish LLM cache entry.")
  else return false

def put_ (held : Option String) (put : GrowthPut (F := F) discloses) : Caching Bool := do
  ofChecked (put.check number)
  if held = some put.key then covered (putReserved authenticationKey recursionLimit put)
  else
    capacityReservation held put.key false ""
      (covered (putReserved authenticationKey recursionLimit put))

def putAuthReserved (put : AuthPut F) : Caching Bool := do
  if ← opens then
    onOsError (do
      let destination := "auth-" ++ put.key ++ ".json"
      if ← occupied destination then return false
      else do
        let payload ← ofChecked (serialize recursionLimit (put.entry authenticationKey)
          "Auth cache entry exceeds its byte limit.")
        begins payload.length
        publish put.key destination payload (return ())
        return true)
      (refuse "LLM_CACHE_WRITE_FAILED" "Could not publish Auth Contract cache entry.")
  else return false

def putAuthRecord (held : Option String) (put : AuthPut F) : Caching Bool := do
  ofChecked put.check
  capacityReservation held put.key false "auth-"
    (covered (putAuthReserved authenticationKey recursionLimit put))

/-- What a process asks of the cache; the calls of a reservation's body come with it. -/
inductive Call (F : Type) (discloses : String → Bool) where
  | reserve (key : String) (allowExisting : Bool) (entryPrefix : String)
      (body : List (Call F discloses))
  | growth (put : GrowthPut (F := F) discloses)
  | auth (put : AuthPut F)

def rescued {α : Type} (program : Caching α) : Caching Unit := fun world =>
  match program world with
  | .ok _ after => .ok () after
  | .error .crash after => .error .crash after
  | .error _ after => .ok () after

mutual

def perform (held : Option String) : Call F discloses → Caching Unit
  | .reserve key allowExisting entryPrefix body =>
    rescued (capacityReservation held key allowExisting entryPrefix
      (performAll (some (entryPrefix ++ key)) body))
  | .growth put => rescued (put_ number authenticationKey recursionLimit held put)
  | .auth put => rescued (putAuthRecord authenticationKey recursionLimit held put)

def performAll (held : Option String) : List (Call F discloses) → Caching Unit
  | [] => return ()
  | call :: calls => do
      perform held call
      performAll held calls

end

/-- Calls of any processes one after another; one whose process dies frees the lock as it does. -/
def runAll (calls : List (Call F discloses)) (start : World) : World :=
  calls.foldl (fun world call =>
    match perform number authenticationKey recursionLimit none call world with
    | .ok _ after => after
    | .error _ after => after) start

variable (discloses) (tooDeep : List Char → Bool)

def readPrivateRegularFile (directory : Directory) (name : String) : Option (List UInt8) := do
  let file ← directory.lookup name
  guard file.safe
  return file.content

def authenticatedSnapshot (directory : Directory) (key : String) (identity : Dict F) :
    Option (GrowthCacheSnapshot discloses) := do
  guard (safeKey key)
  let content ← readPrivateRegularFile directory (key ++ ".json")
  strictGrowthEntry number discloses authenticationKey tooDeep key identity content

def getAuthRecord (directory : Directory) (key : String) (identity : Dict F) :
    Except Unread (Option (AuthRecord F)) :=
  if safeKey key then
    match readPrivateRegularFile directory ("auth-" ++ key ++ ".json") with
    | none => .ok none
    | some content => strictAuthRecord number authenticationKey tooDeep key identity content
  else .ok none

end DosWeb.Llm.Cache
