import Oompah.Foundation.Json

/-!
# SHA-256

The hash function, with words as natural numbers below `2 ^ 32`, and its hexadecimal text.
-/

namespace Oompah
namespace Foundation
namespace Sha256

def word (n : Nat) : Nat := n % 4294967296

def rotate (n x : Nat) : Nat := word (x >>> n ||| x <<< (32 - n))

/-- A chaining value. -/
structure State where
  a : Nat
  b : Nat
  c : Nat
  d : Nat
  e : Nat
  f : Nat
  g : Nat
  h : Nat

def State.words (s : State) : List Nat := [s.a, s.b, s.c, s.d, s.e, s.f, s.g, s.h]

def initial : State :=
  ⟨0x6a09e667, 0xbb67ae85, 0x3c6ef372, 0xa54ff53a, 0x510e527f, 0x9b05688c, 0x1f83d9ab, 0x5be0cd19⟩

def roundConstants : List Nat :=
  [0x428a2f98, 0x71374491, 0xb5c0fbcf, 0xe9b5dba5, 0x3956c25b, 0x59f111f1, 0x923f82a4, 0xab1c5ed5,
    0xd807aa98, 0x12835b01, 0x243185be, 0x550c7dc3, 0x72be5d74, 0x80deb1fe, 0x9bdc06a7, 0xc19bf174,
    0xe49b69c1, 0xefbe4786, 0x0fc19dc6, 0x240ca1cc, 0x2de92c6f, 0x4a7484aa, 0x5cb0a9dc, 0x76f988da,
    0x983e5152, 0xa831c66d, 0xb00327c8, 0xbf597fc7, 0xc6e00bf3, 0xd5a79147, 0x06ca6351, 0x14292967,
    0x27b70a85, 0x2e1b2138, 0x4d2c6dfc, 0x53380d13, 0x650a7354, 0x766a0abb, 0x81c2c92e, 0x92722c85,
    0xa2bfe8a1, 0xa81a664b, 0xc24b8b70, 0xc76c51a3, 0xd192e819, 0xd6990624, 0xf40e3585, 0x106aa070,
    0x19a4c116, 0x1e376c08, 0x2748774c, 0x34b0bcb5, 0x391c0cb3, 0x4ed8aa4a, 0x5b9cca4f, 0x682e6ff3,
    0x748f82ee, 0x78a5636f, 0x84c87814, 0x8cc70208, 0x90befffa, 0xa4506ceb, 0xbef9a3f7, 0xc67178f2]

/-- One round, on the sum of a word of the schedule and its constant. -/
def round (s : State) (input : Nat) : State :=
  let first := s.h + input + (rotate 6 s.e ^^^ rotate 11 s.e ^^^ rotate 25 s.e) +
    (s.e &&& s.f ^^^ (4294967295 ^^^ s.e) &&& s.g)
  let second := (rotate 2 s.a ^^^ rotate 13 s.a ^^^ rotate 22 s.a) +
    (s.a &&& s.b ^^^ s.a &&& s.c ^^^ s.b &&& s.c)
  ⟨word (first + second), s.a, s.b, s.c, word (s.d + first), s.e, s.f, s.g⟩

/-- The schedule with its newest word first. -/
def extend : Nat -> List Nat -> List Nat
  | 0, schedule => schedule
  | n + 1, schedule =>
    let old := schedule.getD 14 0
    let new := schedule.getD 1 0
    extend n (word (schedule.getD 15 0 + (rotate 7 old ^^^ rotate 18 old ^^^ old >>> 3) +
      schedule.getD 6 0 + (rotate 17 new ^^^ rotate 19 new ^^^ new >>> 10)) :: schedule)

def compress (s : State) (block : List Nat) : State :=
  let t := ((extend 48 block.reverse).reverse.zipWith Nat.add roundConstants).foldl round s
  ⟨word (s.a + t.a), word (s.b + t.b), word (s.c + t.c), word (s.d + t.d), word (s.e + t.e),
    word (s.f + t.f), word (s.g + t.g), word (s.h + t.h)⟩

/-- The message, a one bit, zeros and the length in bits fill whole blocks. -/
def pad (bytes : List Nat) : List Nat :=
  bytes ++ 128 :: List.replicate ((119 - bytes.length % 64) % 64) 0 ++
    [56, 48, 40, 32, 24, 16, 8, 0].map (fun shift => (8 * bytes.length) >>> shift % 256)

def words : List Nat -> List Nat
  | p :: q :: r :: s :: rest => (((p * 256 + q) * 256 + r) * 256 + s) :: words rest
  | _ => []

def absorb : Nat -> State -> List Nat -> State
  | 0, s, _ => s
  | blocks + 1, s, input => absorb blocks (compress s (input.take 16)) (input.drop 16)

def hexWord (n : Nat) : List Char :=
  [28, 24, 20, 16, 12, 8, 4, 0].map (fun shift => Json.hexDigit (n >>> shift))

/-- `hashlib.sha256(text.encode()).hexdigest()`. -/
def hexdigest (text : List Char) : List Char :=
  let input := words (pad ((text.flatMap String.utf8EncodeChar).map UInt8.toNat))
  (absorb (input.length / 16) initial input).words.flatMap hexWord

theorem mem_hexdigest {text : List Char} {c : Char} (h : c ∈ hexdigest text) :
    c ∈ "0123456789abcdef".toList := by
  rcases List.mem_flatMap.mp h with ⟨n, _, hword⟩
  rcases List.mem_map.mp hword with ⟨shift, _, rfl⟩
  have hdigits : forall n, n < 16 -> Json.hexDigit n ∈ "0123456789abcdef".toList := by decide
  have hsame : Json.hexDigit (n >>> shift) = Json.hexDigit (n >>> shift % 16) := by
    simp only [Json.hexDigit, Nat.mod_mod]
  rw [hsame]
  exact hdigits _ (Nat.mod_lt _ (by decide))

theorem length_hexdigest (text : List Char) : (hexdigest text).length = 64 := by
  simp [hexdigest, State.words, hexWord]

example : hexdigest "abc".toList =
    "ba7816bf8f01cfea414140de5dae2223b00361a396177a9cb410ff61f20015ad".toList := by
  decide +kernel

end Sha256
end Foundation
end Oompah
