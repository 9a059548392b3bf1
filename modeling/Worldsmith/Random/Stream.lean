/-!
# A stream of random words

ChaCha with eight rounds under a key that a seed determines. A stream is the key, the number of
the next block, and the words of the last block that have not been taken. Arithmetic on words
wraps.
-/

namespace Worldsmith

namespace ChaCha

/-- Rotate a word to the left. -/
def rotateLeft (x : UInt32) (n : UInt32) : UInt32 :=
  (x <<< n) ||| (x >>> (32 - n))

/-- Mix the four words of a state at some places. -/
def quarterRound (a b c d : Nat) (state : Array UInt32) : Array UInt32 :=
  let xa := state.getD a 0
  let xb := state.getD b 0
  let xc := state.getD c 0
  let xd := state.getD d 0
  let xa := xa + xb
  let xd := rotateLeft (xd ^^^ xa) 16
  let xc := xc + xd
  let xb := rotateLeft (xb ^^^ xc) 12
  let xa := xa + xb
  let xd := rotateLeft (xd ^^^ xa) 8
  let xc := xc + xd
  let xb := rotateLeft (xb ^^^ xc) 7
  (((state.setIfInBounds a xa).setIfInBounds b xb).setIfInBounds c xc).setIfInBounds d xd

/-- Two rounds: the columns of a state, then its diagonals. -/
def doubleRound (state : Array UInt32) : Array UInt32 :=
  state
    |> quarterRound 0 4 8 12 |> quarterRound 1 5 9 13
    |> quarterRound 2 6 10 14 |> quarterRound 3 7 11 15
    |> quarterRound 0 5 10 15 |> quarterRound 1 6 11 12
    |> quarterRound 2 7 8 13 |> quarterRound 3 4 9 14

/-- The words that begin every state. -/
def constants : List UInt32 := [0x61707865, 0x3320646e, 0x79622d32, 0x6b206574]

/-- The state that a block starts from. -/
def initial (key : List UInt32) (counter : UInt64) : Array UInt32 :=
  (constants ++ key ++ [counter.toUInt32, (counter >>> 32).toUInt32, 0, 0]).toArray

/-- The sixteen words of a block. -/
def block (key : List UInt32) (counter : UInt64) : List UInt32 :=
  let start := initial key counter
  let mixed := doubleRound (doubleRound (doubleRound (doubleRound start)))
  (mixed.zipWith (· + ·) start).toList

end ChaCha

/-- Random words to come. -/
structure Stream where
  key : List UInt32
  counter : UInt64
  ready : List UInt32

namespace Stream

/-- Words of a key: one step of a linear generator each, with the high bits of its state rotated
into place. -/
def keyWords : Nat → UInt64 → List UInt32
  | 0, _ => []
  | count + 1, state =>
    let state := state * 6364136223846793005 + 11634580027462260723
    let mixed := (((state >>> 18) ^^^ state) >>> 27).toUInt32
    let turn := (state >>> 59).toUInt32
    ChaCha.rotateLeft mixed ((32 - turn) % 32) :: keyWords count state

/-- The stream of a seed. -/
def ofSeed (seed : UInt64) : Stream := ⟨keyWords 8 seed, 0, []⟩

/-- Take a word of 32 bits. -/
def next32 (stream : Stream) : UInt32 × Stream :=
  match stream.ready with
  | word :: ready => (word, { stream with ready := ready })
  | [] =>
    match ChaCha.block stream.key stream.counter with
    | word :: ready => (word, { stream with counter := stream.counter + 1, ready := ready })
    | [] => (0, stream)

/-- Take a word of 64 bits, low half first. -/
def next64 (stream : Stream) : UInt64 × Stream :=
  let (low, stream) := stream.next32
  let (high, stream) := stream.next32
  (low.toUInt64 ||| (high.toUInt64 <<< 32), stream)

end Stream

end Worldsmith
