import DosWeb.Library.Hex

/-!
SHA-256 of a byte string, on natural numbers below 2^32.
-/

namespace DosWeb.Library.Sha256

def word (value : Nat) : Nat := value % 4294967296

def rotateRight (count value : Nat) : Nat := (value >>> count) ||| word (value <<< (32 - count))

def complement (value : Nat) : Nat := 4294967295 - value

def roundConstants : List Nat := [
  0x428a2f98, 0x71374491, 0xb5c0fbcf, 0xe9b5dba5, 0x3956c25b, 0x59f111f1, 0x923f82a4, 0xab1c5ed5,
  0xd807aa98, 0x12835b01, 0x243185be, 0x550c7dc3, 0x72be5d74, 0x80deb1fe, 0x9bdc06a7, 0xc19bf174,
  0xe49b69c1, 0xefbe4786, 0x0fc19dc6, 0x240ca1cc, 0x2de92c6f, 0x4a7484aa, 0x5cb0a9dc, 0x76f988da,
  0x983e5152, 0xa831c66d, 0xb00327c8, 0xbf597fc7, 0xc6e00bf3, 0xd5a79147, 0x06ca6351, 0x14292967,
  0x27b70a85, 0x2e1b2138, 0x4d2c6dfc, 0x53380d13, 0x650a7354, 0x766a0abb, 0x81c2c92e, 0x92722c85,
  0xa2bfe8a1, 0xa81a664b, 0xc24b8b70, 0xc76c51a3, 0xd192e819, 0xd6990624, 0xf40e3585, 0x106aa070,
  0x19a4c116, 0x1e376c08, 0x2748774c, 0x34b0bcb5, 0x391c0cb3, 0x4ed8aa4a, 0x5b9cca4f, 0x682e6ff3,
  0x748f82ee, 0x78a5636f, 0x84c87814, 0x8cc70208, 0x90befffa, 0xa4506ceb, 0xbef9a3f7, 0xc67178f2]

structure State where
  a : Nat
  b : Nat
  c : Nat
  d : Nat
  e : Nat
  f : Nat
  g : Nat
  h : Nat

def initial : State :=
  ⟨0x6a09e667, 0xbb67ae85, 0x3c6ef372, 0xa54ff53a, 0x510e527f, 0x9b05688c, 0x1f83d9ab, 0x5be0cd19⟩

def round (state : State) (step : Nat × Nat) : State :=
  let high := rotateRight 6 state.e ^^^ rotateRight 11 state.e ^^^ rotateRight 25 state.e
  let choice := (state.e &&& state.f) ^^^ (complement state.e &&& state.g)
  let first := state.h + high + choice + step.1 + step.2
  let low := rotateRight 2 state.a ^^^ rotateRight 13 state.a ^^^ rotateRight 22 state.a
  let majority := (state.a &&& state.b) ^^^ (state.a &&& state.c) ^^^ (state.b &&& state.c)
  ⟨word (first + (low + majority)), state.a, state.b, state.c,
    word (state.d + first), state.e, state.f, state.g⟩

/-- Extends a message schedule that is held with its latest word first. -/
def extend : Nat → List Nat → List Nat
  | 0, words => words
  | count + 1, words =>
    let early := words.getD 14 0
    let late := words.getD 1 0
    let low := rotateRight 7 early ^^^ rotateRight 18 early ^^^ (early >>> 3)
    let high := rotateRight 17 late ^^^ rotateRight 19 late ^^^ (late >>> 10)
    extend count (word (words.getD 15 0 + low + words.getD 6 0 + high) :: words)

def add (left right : State) : State :=
  ⟨word (left.a + right.a), word (left.b + right.b), word (left.c + right.c),
    word (left.d + right.d), word (left.e + right.e), word (left.f + right.f),
    word (left.g + right.g), word (left.h + right.h)⟩

def compress (state : State) (block : List Nat) : State :=
  let schedule := (extend 48 block.reverse).reverse
  add state ((roundConstants.zip schedule).foldl round state)

def compressBlocks : Nat → State → List Nat → State
  | 0, state, _ => state
  | count + 1, state, words => compressBlocks count (compress state (words.take 16)) (words.drop 16)

def bigEndianWords : List Nat → List Nat
  | a :: b :: c :: d :: rest =>
    (((a * 256 + b) * 256 + c) * 256 + d) :: bigEndianWords rest
  | _ => []

def pad (bytes : List UInt8) : List Nat :=
  bytes.map UInt8.toNat ++ [128] ++ List.replicate ((119 - bytes.length % 64) % 64) 0 ++
    (List.range 8).map (fun place => (8 * bytes.length) >>> (56 - 8 * place) % 256)

def hexWord (value : Nat) : List Char :=
  (List.range 8).map fun place => hexDigit ((value >>> (28 - 4 * place)) % 16)

def hexdigest (bytes : List UInt8) : String :=
  let words := bigEndianWords (pad bytes)
  let state := compressBlocks (words.length / 16) initial words
  String.ofList ([state.a, state.b, state.c, state.d, state.e, state.f, state.g, state.h].flatMap
    hexWord)

theorem hexdigest_length (bytes : List UInt8) : (hexdigest bytes).length = 64 := by
  simp [hexdigest, hexWord]

theorem hexDigit_shape : ∀ value < 16, hexDigit value ∈ "0123456789abcdef".toList := by
  decide

theorem hexdigest_digits (bytes : List UInt8) (c : Char) (member : c ∈ (hexdigest bytes).toList) :
    c ∈ "0123456789abcdef".toList := by
  simp only [hexdigest, String.toList_ofList, List.mem_flatMap] at member
  rcases member with ⟨word, _, digit⟩
  simp only [hexWord, List.mem_map] at digit
  rcases digit with ⟨place, _, rfl⟩
  exact hexDigit_shape _ (Nat.mod_lt _ (by decide))

set_option maxRecDepth 4000 in
example : hexdigest [97, 98, 99] =
    "ba7816bf8f01cfea414140de5dae2223b00361a396177a9cb410ff61f20015ad" := by
  decide

end DosWeb.Library.Sha256
