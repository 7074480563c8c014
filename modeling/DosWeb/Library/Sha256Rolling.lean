import DosWeb.Library.Sha256

/-!
SHA-256 with a rolling window of sixteen words, where every word is a numeral before the next round
starts: the same digest, for proofs by evaluation.
-/

namespace DosWeb.Library.Sha256

def evaluated {α : Type} (value : Nat) (next : Nat → α) : α :=
  Nat.casesOn value (next 0) fun before => next before.succ

theorem evaluated_eq {α : Type} (value : Nat) (next : Nat → α) :
    evaluated value next = next value := by
  cases value <;> rfl

def turned (count value : Nat) : Nat := Nat.lor (Nat.shiftRight value count)
    (Nat.mod (Nat.shiftLeft value (Nat.sub 32 count)) 4294967296)

structure Window where
  w0 : Nat
  w1 : Nat
  w2 : Nat
  w3 : Nat
  w4 : Nat
  w5 : Nat
  w6 : Nat
  w7 : Nat
  w8 : Nat
  w9 : Nat
  w10 : Nat
  w11 : Nat
  w12 : Nat
  w13 : Nat
  w14 : Nat
  w15 : Nat

def Window.words : Window → List Nat
  | ⟨w0, w1, w2, w3, w4, w5, w6, w7, w8, w9, w10, w11, w12, w13, w14, w15⟩ =>
    [w0, w1, w2, w3, w4, w5, w6, w7, w8, w9, w10, w11, w12, w13, w14, w15]

def Window.next {α : Type} (window : Window) (rest : Window → α) : α :=
  match window with
  | ⟨w0, w1, w2, w3, w4, w5, w6, w7, w8, w9, w10, w11, w12, w13, w14, w15⟩ =>
    let low := Nat.xor (Nat.xor (turned 7 w1) (turned 18 w1)) (Nat.shiftRight w1 3)
    let high := Nat.xor (Nat.xor (turned 17 w14) (turned 19 w14)) (Nat.shiftRight w14 10)
    evaluated (Nat.mod (Nat.add (Nat.add (Nat.add w0 low) w9) high) 4294967296) fun w16 =>
      rest ⟨w1, w2, w3, w4, w5, w6, w7, w8, w9, w10, w11, w12, w13, w14, w15, w16⟩

def turn {α : Type} (state : State) (constant word : Nat) (rest : State → α) : α :=
  match state with
  | ⟨a, b, c, d, e, f, g, h⟩ =>
    let high := Nat.xor (Nat.xor (turned 6 e) (turned 11 e)) (turned 25 e)
    let choice := Nat.xor (Nat.land e f) (Nat.land (Nat.sub 4294967295 e) g)
    let low := Nat.xor (Nat.xor (turned 2 a) (turned 13 a)) (turned 22 a)
    let majority := Nat.xor (Nat.xor (Nat.land a b) (Nat.land a c)) (Nat.land b c)
    evaluated (Nat.add (Nat.add (Nat.add (Nat.add h high) choice) constant) word) fun first =>
    evaluated (Nat.mod (Nat.add first (Nat.add low majority)) 4294967296) fun top =>
    evaluated (Nat.mod (Nat.add d first) 4294967296) fun middle =>
      rest ⟨top, a, b, c, middle, e, f, g⟩

def turns (constants : List Nat) : State → Window → State := List.rec (fun state _ => state)
    (fun constant _ rest state window =>
      turn state constant window.w0 fun state => window.next fun window => rest state window)
    constants

def evaluatedState (state : State) (rest : State → State) : State :=
  match state with
  | ⟨a, b, c, d, e, f, g, h⟩ =>
    evaluated a fun a => evaluated b fun b => evaluated c fun c => evaluated d fun d =>
    evaluated e fun e => evaluated f fun f => evaluated g fun g => evaluated h fun h =>
      rest ⟨a, b, c, d, e, f, g, h⟩

def rollingBlocks : List Nat → State → State
  | w0 :: w1 :: w2 :: w3 :: w4 :: w5 :: w6 :: w7 :: w8 :: w9 :: w10 :: w11 :: w12 :: w13 :: w14 ::
      w15 :: rest, state =>
      evaluatedState (add state (turns roundConstants state
        ⟨w0, w1, w2, w3, w4, w5, w6, w7, w8, w9, w10, w11, w12, w13, w14, w15⟩))
        (rollingBlocks rest)
  | _, state => state

def evaluatedList {α : Type} : List Nat → (List Nat → α) → α
  | [], rest => rest []
  | value :: values, rest =>
    evaluated value fun value => evaluatedList values fun values => rest (value :: values)

def padCodes (bytes : List Nat) : List Nat :=
  bytes ++ [128] ++ List.replicate ((119 - bytes.length % 64) % 64) 0 ++
    (List.range 8).map (fun place => (8 * bytes.length) >>> (56 - 8 * place) % 256)

def rollingDigits (bytes : List Nat) : List Char :=
  evaluatedList bytes fun bytes =>
  evaluatedList (bigEndianWords (padCodes bytes)) fun words =>
  match rollingBlocks words initial with
  | ⟨a, b, c, d, e, f, g, h⟩ => [a, b, c, d, e, f, g, h].flatMap hexWord

def Window.shifted (window : Window) : Window := window.next id

theorem next_eq {α : Type} (window : Window) (rest : Window → α) :
    window.next rest = rest window.shifted := by
  simp only [Window.shifted, Window.next, evaluated_eq, id]

theorem turn_eq {α : Type} (state : State) (constant entry : Nat) (rest : State → α) :
    turn state constant entry rest = rest (round state (constant, entry)) := by
  simp only [turn, evaluated_eq]
  rfl

def stream : Nat → Window → List Nat
  | 0, _ => []
  | count + 1, window => window.w0 :: stream count window.shifted

theorem stream_words (window : Window) : stream 16 window = window.words := by
  simp only [stream, Window.shifted, Window.next, evaluated_eq, id, Window.words]

theorem extend_stream (count : Nat) (window : Window) (older : List Nat) :
    (extend count (window.words.reverse ++ older)).reverse =
      older.reverse ++ stream (count + 16) window := by
  induction count generalizing window older with
  | zero => rw [extend, List.reverse_append, List.reverse_reverse, stream_words]
  | succ count ih =>
    have one : extend (count + 1) (window.words.reverse ++ older) =
        extend count (window.shifted.words.reverse ++ window.w0 :: older) := by
      simp only [extend, Window.shifted, Window.next, evaluated_eq, id, Window.words]
      rfl
    rw [one, ih, List.reverse_cons, List.append_assoc]
    rfl

theorem turns_eq (constants : List Nat) (state : State) (window : Window) :
    turns constants state window =
      (constants.zip (stream constants.length window)).foldl round state := by
  induction constants generalizing state window with
  | nil => rfl
  | cons constant constants ih =>
    calc
      turns (constant :: constants) state window =
          turn state constant window.w0 fun state =>
            window.next fun window => turns constants state window := rfl
      _ = turns constants (round state (constant, window.w0)) window.shifted := by
            rw [turn_eq, next_eq]
      _ = _ := ih _ _

theorem compress_eq (state : State) (window : Window) :
    compress state window.words = add state (turns roundConstants state window) := by
  have schedule := extend_stream 48 window []
  rw [List.append_nil, List.reverse_nil, List.nil_append] at schedule
  rw [compress, schedule, turns_eq]
  rfl

theorem evaluated_state_eq (state : State) (rest : State → State) :
    evaluatedState state rest = rest state := by
  simp only [evaluatedState, evaluated_eq]

theorem sixteen_more (words : List Nat) (enough : 16 ≤ words.length) :
    ∃ window : Window, ∃ rest, words = window.words ++ rest := by
  match words, enough with
  | w0 :: w1 :: w2 :: w3 :: w4 :: w5 :: w6 :: w7 :: w8 :: w9 :: w10 :: w11 :: w12 :: w13 :: w14 ::
      w15 :: rest, _ =>
      exact ⟨⟨w0, w1, w2, w3, w4, w5, w6, w7, w8, w9, w10, w11, w12, w13, w14, w15⟩, rest, rfl⟩

theorem blocks_cons (window : Window) (rest : List Nat) (state : State) :
    rollingBlocks (window.words ++ rest) state =
      rollingBlocks rest (compress state window.words) := by
  calc
    rollingBlocks (window.words ++ rest) state =
        evaluatedState (add state (turns roundConstants state window)) (rollingBlocks rest) := rfl
    _ = rollingBlocks rest (compress state window.words) := by
          rw [evaluated_state_eq, compress_eq]

theorem blocks_eq (count : Nat) (words : List Nat) (state : State)
    (full : words.length / 16 = count) :
    rollingBlocks words state = compressBlocks count state words := by
  induction count generalizing words state with
  | zero =>
    rw [compressBlocks]
    unfold rollingBlocks
    split
    · simp only [List.length_cons] at full
      omega
    · rfl
  | succ count ih =>
    obtain ⟨window, rest, rfl⟩ := sixteen_more words (by omega)
    have sized : window.words.length = 16 := rfl
    rw [List.length_append, sized] at full
    rw [blocks_cons, compressBlocks, List.take_left' sized, List.drop_left' sized]
    exact ih rest _ (by omega)

theorem evaluated_list_eq {α : Type} (values : List Nat) (rest : List Nat → α) :
    evaluatedList values rest = rest values := by
  induction values generalizing rest with
  | nil => rfl
  | cons value values ih => rw [evaluatedList, evaluated_eq, ih]

theorem hexdigest_rolling (bytes : List UInt8) :
    hexdigest bytes = String.ofList (rollingDigits (bytes.map UInt8.toNat)) := by
  have padded : padCodes (bytes.map UInt8.toNat) = pad bytes := by
    rw [padCodes, pad, List.length_map]
  rw [rollingDigits, evaluated_list_eq, evaluated_list_eq, padded, blocks_eq _ _ _ rfl]
  rfl

end DosWeb.Library.Sha256
