import DosWeb.Artifacts.Jsonl
import DosWeb.Library.Lines

/-!
The reader that streams a file against the reader of a byte snapshot.
-/

namespace DosWeb.Artifacts

open Library Library.JsonValue Library.JsonText Library.Lines

section

variable {F : Type} [FloatText F] (recursionLimit : Nat) (artifactName : String)

def Agree {α : Type} (first second : Checked α) : Prop :=
  (∃ value, first = .ok value ∧ second = .ok value) ∨
    (∃ raised, first = .error raised) ∧ ∃ raised, second = .error raised

variable (sourceName : String)

end

end DosWeb.Artifacts
