import DosWeb.Library.Sha256
import Mathlib.Algebra.Group.Nat.Defs

/-!
Keyed hashing with SHA-256.
-/

namespace DosWeb.Library.Hmac

/-- The bytes of the digest that `Sha256.hexdigest` writes in hexadecimal. -/
def digest (bytes : List UInt8) : List UInt8 :=
  let words := Sha256.bigEndianWords (Sha256.pad bytes)
  let state := Sha256.compressBlocks (words.length / 16) Sha256.initial words
  [state.a, state.b, state.c, state.d, state.e, state.f, state.g, state.h].flatMap fun word =>
    [24, 16, 8, 0].map fun shift => UInt8.ofNat (word / 2 ^ shift)

/-- A key fills one block; a longer one is hashed first. -/
def block (key : List UInt8) : List UInt8 :=
  let short := if key.length > 64 then digest key else key
  short ++ List.replicate (64 - short.length) 0

def hexdigest (key message : List UInt8) : String :=
  Sha256.hexdigest ((block key).map (· ^^^ 0x5c) ++ digest ((block key).map (· ^^^ 0x36) ++ message))

/-- A code that goes with a message is one that was made for it with the key: `signed` is all that
was. -/
def Unforged (key : List UInt8) (signed : List (List UInt8)) (message : List UInt8)
    (code : String) : Prop := hexdigest key message = code → message ∈ signed

set_option maxRecDepth 4000 in
example : hexdigest ("key".toList.map fun c => UInt8.ofNat c.toNat)
    ("The quick brown fox jumps over the lazy dog".toList.map fun c => UInt8.ofNat c.toNat) =
      "f7bc83f430538424b13298e6aa6fb143ef4d59a14946175997479dbc2d1a3cd8" := by
  decide

end DosWeb.Library.Hmac
