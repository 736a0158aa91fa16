import PatronGateway.Crypto.Modular

/-!
# SHA-2

The three hash functions of the family that are used: SHA-256, SHA-384 and
SHA-512.  They share one construction over words of 32 or 64 bits: a message is
padded and cut into blocks of sixteen words, each block is stretched into a
schedule, and every word of the schedule stirs eight working words once.  The
constants are the first bits of the fractional parts of square and cube roots of
primes.
-/

namespace PatronGateway
namespace Crypto
namespace Sha2

/-- The largest number whose power does not exceed a number, found bit by bit. -/
def root (k n : Nat) : Nat → Nat → Nat
  | 0, r => r
  | bits + 1, r => if (r + 2 ^ bits) ^ k ≤ n then root k n bits (r + 2 ^ bits) else root k n bits r

/-- Whether a number is prime. -/
def isPrime (n : Nat) : Bool :=
  2 ≤ n && (List.range n).all fun d => d < 2 || n % d != 0

/-- The first eighty primes. -/
def primes : List Nat := (List.range 410).filter isPrime

/-- The first 64 bits of the fractional part of a square root. -/
def squareRootBits (n : Nat) : Nat := root 2 (n * 2 ^ 128) 70 0 % 2 ^ 64

/-- The first 64 bits of the fractional part of a cube root. -/
def cubeRootBits (n : Nat) : Nat := root 3 (n * 2 ^ 192) 70 0 % 2 ^ 64

/-- The constants that are stirred in, one for each word of a schedule. -/
def roundBits : List Nat := primes.map cubeRootBits

/-- A member of the family: its word length, how many words a schedule has, the
amounts of its rotations and shifts, and the words that it starts from. -/
structure Variant where
  wordBits : Nat
  rounds : Nat
  upperA : List Nat
  upperE : List Nat
  lower15 : List Nat
  lower2 : List Nat
  start : List Nat
  digestBytes : Nat

namespace Variant

variable (v : Variant)

/-- A word. -/
abbrev Word := BitVec v.wordBits

/-- The exclusive or of three rotations. -/
def rotations (amounts : List Nat) (x : v.Word) : v.Word :=
  amounts.foldl (fun acc n => acc ^^^ x.rotateRight n) 0

/-- The exclusive or of two rotations and a shift, which comes last. -/
def mixed (amounts : List Nat) (x : v.Word) : v.Word :=
  v.rotations amounts.dropLast x ^^^ (x >>> amounts.getLast?.getD 0)

/-- The first bits of a constant. -/
def constant (bits : Nat) : v.Word := BitVec.ofNat _ (bits / 2 ^ (64 - v.wordBits))

/-- The next word of a schedule, from the sixteen words before it. -/
def nextWord (w : List v.Word) : v.Word :=
  v.mixed v.lower2 (w.getD 14 0) + w.getD 9 0 + v.mixed v.lower15 (w.getD 1 0) + w.getD 0 0

/-- Stretches a block into a schedule; the last sixteen words are kept apart. -/
def stretch : Nat → List v.Word → List v.Word → List v.Word
  | 0, done, window => done.reverse ++ window
  | n + 1, done, window =>
    let next := v.nextWord window
    stretch n (window.headD 0 :: done) (window.drop 1 ++ [next])

/-- Stirs one word of a schedule and its constant into the working words. -/
def stir (s : List v.Word) (p : v.Word × v.Word) : List v.Word :=
  match s with
  | [a, b, c, d, e, f, g, h] =>
    let t1 := h + v.rotations v.upperE e + ((e &&& f) ^^^ (~~~e &&& g)) + p.2 + p.1
    let t2 := v.rotations v.upperA a + ((a &&& b) ^^^ (a &&& c) ^^^ (b &&& c))
    [t1 + t2, a, b, c, d + t1, e, f, g]
  | s => s

/-- Takes one block into the state. -/
def absorb (constants : List v.Word) (state block : List v.Word) : List v.Word :=
  let schedule := v.stretch (v.rounds - 16) [] block
  List.zipWith (· + ·) state ((schedule.zip constants).foldl v.stir state)

/-- The bytes of a word. -/
def wordBytes : Nat := v.wordBits / 8

/-- The bytes of a block. -/
def blockBytes : Nat := 16 * v.wordBytes

/-- A message with its padding: a single bit, zeros, and the length in bits in
two words. -/
def pad (message : Bytes) : Bytes :=
  let tail := 2 * v.wordBytes
  let used := (message.length + 1 + tail) % v.blockBytes
  let zeros := if used = 0 then 0 else v.blockBytes - used
  message ++ 0x80 :: List.replicate zeros 0 ++ toBytes tail (8 * message.length)

/-- Cuts bytes into words. -/
def words (count : Nat) (bs : Bytes) : List v.Word :=
  (List.range count).map fun i =>
    BitVec.ofNat _ (ofBytes ((bs.drop (i * v.wordBytes)).take v.wordBytes))

/-- Takes several blocks into the state. -/
def absorbAll (constants : List v.Word) : Nat → List v.Word → Bytes → List v.Word
  | 0, state, _ => state
  | n + 1, state, bs =>
    absorbAll constants n (v.absorb constants state (v.words 16 bs)) (bs.drop v.blockBytes)

/-- The hash of a message. -/
def digest (message : Bytes) : Bytes :=
  let padded := v.pad message
  let constants := (roundBits.take v.rounds).map v.constant
  let state := v.absorbAll constants (padded.length / v.blockBytes) (v.start.map v.constant) padded
  (state.flatMap fun w => toBytes v.wordBytes w.toNat).take v.digestBytes

end Variant

/-- The square roots of the first eight primes. -/
def firstRoots : List Nat := (primes.take 8).map squareRootBits

/-- The square roots of the next eight primes. -/
def nextRoots : List Nat := ((primes.drop 8).take 8).map squareRootBits

/-- SHA-256. -/
def sha256 : Variant where
  wordBits := 32
  rounds := 64
  upperA := [2, 13, 22]
  upperE := [6, 11, 25]
  lower15 := [7, 18, 3]
  lower2 := [17, 19, 10]
  start := firstRoots
  digestBytes := 32

/-- SHA-512. -/
def sha512 : Variant where
  wordBits := 64
  rounds := 80
  upperA := [28, 34, 39]
  upperE := [14, 18, 41]
  lower15 := [1, 8, 7]
  lower2 := [19, 61, 6]
  start := firstRoots
  digestBytes := 64

/-- SHA-384. -/
def sha384 : Variant := { sha512 with start := nextRoots, digestBytes := 48 }

end Sha2

/-- The hash of a message under HMAC with a key. -/
def hmac (v : Sha2.Variant) (key message : Bytes) : Bytes :=
  let key := if v.blockBytes < key.length then v.digest key else key
  let key := key ++ List.replicate (v.blockBytes - key.length) 0
  v.digest (key.map (· ^^^ 0x5C) ++ v.digest (key.map (· ^^^ 0x36) ++ message))

end Crypto
end PatronGateway
