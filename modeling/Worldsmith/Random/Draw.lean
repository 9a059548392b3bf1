import Worldsmith.Random.Stream

/-!
# Random choices

Truth values, places in a list, orders and numbers, drawn from a stream of random words.
-/

namespace Worldsmith

namespace Stream

/-- True with a probability. Certainty takes no word from the stream. -/
def drawBool (probability : Float) (stream : Stream) : Bool × Stream :=
  if probability == 1.0 then (true, stream)
  else
    let (word, stream) := stream.next64
    (word < (probability * 18446744073709551616.0).toUInt64, stream)

/-- The number of leading zeros of a word of 32 bits. -/
def leadingZeros (n : Nat) : Nat :=
  if n = 0 then 32 else 31 - n.log2

/-- The greatest low half of a product for which every place is equally likely. -/
def zone (count : Nat) : Nat :=
  (count <<< leadingZeros count) % Nat.pow 2 32 - 1

/-- Multiply words by the number of places until the low half is within the zone; the high half is
the place. Each try succeeds at least half of the time, and after `tries` of them the last word
counts. -/
def drawPlace (count : Nat) : (tries : Nat) → Stream → Nat × Stream
  | 0, stream =>
    let (word, stream) := stream.next32
    (word.toNat * count / Nat.pow 2 32, stream)
  | tries + 1, stream =>
    let (word, stream) := stream.next32
    let product := word.toNat * count
    if product % Nat.pow 2 32 ≤ zone count then (product / Nat.pow 2 32, stream)
    else drawPlace count tries stream

/-- A number below `count`. -/
def drawIndex (count : Nat) (stream : Stream) : Nat × Stream :=
  drawPlace count 1000 stream

/-- Swap each place from `i` down to 1 with one at or before it. -/
def shuffleFrom {α : Type} : Nat → Array α → Stream → Array α × Stream
  | 0, xs, stream => (xs, stream)
  | i + 1, xs, stream =>
    let (j, stream) := stream.drawIndex (i + 2)
    shuffleFrom i (xs.swapIfInBounds (i + 1) j) stream

/-- Put a list in random order. -/
def shuffle {α : Type} (xs : Array α) (stream : Stream) : Array α × Stream :=
  shuffleFrom (xs.size - 1) xs stream

theorem swapIfInBounds_perm {α : Type} (xs : Array α) (i j : Nat) :
    (xs.swapIfInBounds i j).Perm xs := by
  rw [Array.swapIfInBounds_def]
  split
  · split
    · exact Array.swap_perm _ _
    · exact .rfl
  · exact .rfl

theorem shuffleFrom_perm {α : Type} (i : Nat) (xs : Array α) (stream : Stream) :
    (shuffleFrom i xs stream).1.Perm xs := by
  induction i generalizing xs stream with
  | zero => exact .rfl
  | succ i ih =>
    rw [shuffleFrom]
    generalize stream.drawIndex (i + 2) = drawn
    exact (ih _ _).trans (swapIfInBounds_perm xs (i + 1) drawn.1)

/-- A shuffled list has the same members, each as often. -/
theorem shuffle_perm {α : Type} (xs : Array α) (stream : Stream) :
    (stream.shuffle xs).1.Perm xs :=
  shuffleFrom_perm _ xs stream

/-- The number before a positive one among the doubles. -/
def previousFloat (x : Float) : Float :=
  Float.ofBits (x.toBits - 1)

/-- Lower a scale until its greatest multiple stays within the upper bound. -/
def fitScale (low high greatest : Float) : (tries : Nat) → Float → Float
  | 0, scale => scale
  | tries + 1, scale =>
    if high < scale * greatest + low then fitScale low high greatest tries (previousFloat scale)
    else scale

/-- A number between two bounds, both possible. -/
def drawBetween (low high : Float) (stream : Stream) : Float × Stream :=
  let unit := 1.0 / 4503599627370496.0
  let greatest := 1.0 - unit
  let scale := fitScale low high greatest 1000 ((high - low) / greatest)
  let (word, stream) := stream.next64
  ((word >>> 12).toFloat * unit * scale + low, stream)

end Stream

end Worldsmith
