import ConfidentialToken.Bytes

/-!
The stream of words of the ChaCha cipher with twelve rounds, a 64-bit block
counter and no nonce.
-/

namespace ConfidentialToken.ChaCha

/-- A position in the stream of a key. -/
structure Stream where
  /-- The eight words of the key. -/
  key : List UInt32
  /-- The number of the next block. -/
  block : UInt64
  /-- The words of the current block that are not read yet. -/
  pending : List UInt32

@[inline]
def rotateLeft (word : UInt32) (places : UInt32) : UInt32 :=
  (word <<< places) ||| (word >>> (32 - places))

def quarterRound (words : Array UInt32) (i j k l : Nat) : Array UInt32 :=
  let a := words.getD i 0
  let b := words.getD j 0
  let c := words.getD k 0
  let d := words.getD l 0
  let a := a + b
  let d := rotateLeft (d ^^^ a) 16
  let c := c + d
  let b := rotateLeft (b ^^^ c) 12
  let a := a + b
  let d := rotateLeft (d ^^^ a) 8
  let c := c + d
  let b := rotateLeft (b ^^^ c) 7
  words.setIfInBounds i a |>.setIfInBounds j b |>.setIfInBounds k c |>.setIfInBounds l d

/-- A round on the columns and a round on the diagonals. -/
def doubleRound (words : Array UInt32) : Array UInt32 :=
  let words := quarterRound words 0 4 8 12
  let words := quarterRound words 1 5 9 13
  let words := quarterRound words 2 6 10 14
  let words := quarterRound words 3 7 11 15
  let words := quarterRound words 0 5 10 15
  let words := quarterRound words 1 6 11 12
  let words := quarterRound words 2 7 8 13
  quarterRound words 3 4 9 14

/-- The words before the first round: constants, key, block number and an empty
nonce. -/
def initialWords (key : List UInt32) (block : UInt64) : List UInt32 :=
  ([0x61707865, 0x3320646e, 0x79622d32, 0x6b206574] : List UInt32) ++ key ++
    [block.toUInt32, (block >>> 32).toUInt32, 0, 0]

def blockWords (key : List UInt32) (block : UInt64) : List UInt32 :=
  let initial := initialWords key block
  let mixed := (List.range 6).foldl (fun words _ => doubleRound words) initial.toArray
  List.zipWith (· + ·) mixed.toList initial

namespace Stream

def keyWords : Bytes → List UInt32
  | b0 :: b1 :: b2 :: b3 :: rest =>
      (b0.toUInt32 ||| (b1.toUInt32 <<< 8) ||| (b2.toUInt32 <<< 16) |||
        (b3.toUInt32 <<< 24)) ::
        keyWords rest
  | _ => []

/-- The start of the stream of a key of thirty-two bytes. -/
def ofSeed (seed : Bytes) : Stream :=
  ⟨keyWords seed, 0, []⟩

def next (stream : Stream) : UInt32 × Stream :=
  match stream.pending with
  | word :: pending => (word, { stream with pending })
  | [] =>
      match blockWords stream.key stream.block with
      | word :: pending => (word, { stream with block := stream.block + 1, pending })
      | [] => (0, stream)

end Stream

end ConfidentialToken.ChaCha
