import DosWeb.Errors
import DosWeb.Library.JsonRecord

/-!
What a decoder of records raises: errors of the analyzer, and errors of the language that no
decoder of its own makes.
-/

namespace DosWeb

open Library.JsonValue Library.JsonRecord

inductive Fault where
  | raised (raised : Raised)
  | keyError (key : String)
  | typeError
  | nameError (name : String)
  deriving DecidableEq

abbrev Decoded := Except Fault

def lifted {α : Type} : Checked α → Decoded α
  | .ok value => .ok value
  | .error raised => .error (.raised raised)

def insist (condition : Bool) (fault : Fault) : Decoded Unit :=
  if condition then .ok () else .error fault

@[simp] theorem lifted_ok {α : Type} (computation : Checked α) (value : α) :
    lifted computation = .ok value ↔ computation = .ok value := by
  cases computation <;> simp [lifted]

@[simp] theorem insist_ok (condition : Bool) (fault : Fault) (nothing : Unit) :
    insist condition fault = .ok nothing ↔ condition = true := by
  unfold insist
  split <;> simp_all

/-- The member of an enumeration; a value that has no hash is not looked up. -/
def decodeMember {F α : Type} (members : List α) (text : α → String) (fault : Fault)
    (value : Json F) : Decoded α :=
  match value with
  | .arr _ => .error .typeError
  | .obj _ => .error .typeError
  | other =>
    match named members text other with
    | some member => .ok member
    | none => .error fault

theorem decode_member_text {F α : Type} (members : List α) (text : α → String) (fault : Fault)
    (member : α) (inside : member ∈ members)
    (apart : ∀ other ∈ members, text other = text member → other = member) :
    decodeMember members text fault (.str (text member) : Json F) = .ok member := by
  rw [decodeMember]
  · rw [named_text members text member inside apart]
  · nofun
  · nofun

end DosWeb
