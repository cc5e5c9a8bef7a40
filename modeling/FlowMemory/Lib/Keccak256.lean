import Mathlib.Data.List.Basic

/-! # Keccak-256

The hash function as a function on lists of bytes.  The state of the sponge is one number of 1600
bits: twenty-five **lanes** of 64 bits, the lowest first, five lanes to a **plane**.  A step on all
lanes at once is a shift of the whole number with masks. -/

namespace FlowMemory.Sponge

/-- The same plane five times. -/
def eachPlane (plane : ℕ) : ℕ := plane * (1 + 1 <<< 320 + 1 <<< 640 + 1 <<< 960 + 1 <<< 1280)

/-- Mix the parities of the columns into every lane. -/
def theta (s : ℕ) : ℕ :=
  let parity := (s ^^^ (s >>> 320) ^^^ (s >>> 640) ^^^ (s >>> 960) ^^^ (s >>> 1280)) % 1 <<< 320
  let low := 1 + 1 <<< 64 + 1 <<< 128 + 1 <<< 192 + 1 <<< 256
  let rotated := ((parity <<< 1) &&& (low * (1 <<< 64 - 2))) + ((parity >>> 63) &&& low)
  s ^^^ eachPlane (((parity <<< 64) % 1 <<< 320 + parity >>> 256) ^^^
    (rotated >>> 64 + (rotated % 1 <<< 64) <<< 256))

/-- The lane that moves to every place, and how far it is rotated. -/
def moves : List (ℕ × ℕ) :=
  [(0, 0), (6, 44), (12, 43), (18, 21), (24, 14), (3, 28), (9, 20), (10, 3), (16, 45), (22, 61),
    (1, 1), (7, 6), (13, 25), (19, 8), (20, 18), (4, 27), (5, 36), (11, 10), (17, 15), (23, 56),
    (2, 62), (8, 55), (14, 39), (15, 41), (21, 2)]

/-- Rotate lanes and put them in their places, the last place first. -/
def rhoPi (s : ℕ) : List (ℕ × ℕ) → ℕ
  | [] => 0
  | (source, distance) :: rest =>
    -- the functions on `ℕ` that the kernel computes at once, without their notation
    let shifted := ((s.shiftRight (Nat.mul 64 source)).mod 0x10000000000000000).shiftLeft distance
    Nat.add (Nat.mul (rhoPi s rest) 0x10000000000000000)
      (Nat.add (shifted.mod 0x10000000000000000) (shifted.div 0x10000000000000000))

/-- The next lane of the plane, in place of every lane. -/
def nextLane (s : ℕ) : ℕ :=
  ((s >>> 64) &&& eachPlane (1 <<< 256 - 1)) + ((s <<< 256) &&& eachPlane (1 <<< 320 - 1 <<< 256))

def chi (s : ℕ) : ℕ := s ^^^ (((1 <<< 1600 - 1) ^^^ nextLane s) &&& nextLane (nextLane s))

def roundConstants : List ℕ :=
  [0x1, 0x8082, 0x800000000000808a, 0x8000000080008000, 0x808b, 0x80000001, 0x8000000080008081,
    0x8000000000008009, 0x8a, 0x88, 0x80008009, 0x8000000a, 0x8000808b, 0x800000000000008b,
    0x8000000000008089, 0x8000000000008003, 0x8000000000008002, 0x8000000000000080, 0x800a,
    0x800000008000000a, 0x8000000080008081, 0x8000000000008080, 0x80000001, 0x8000000080008008]

def permute (s : ℕ) : ℕ := roundConstants.foldl (fun s c => chi (rhoPi (theta s) moves) ^^^ c) s

/-- The number of some bytes, the lowest first. -/
def ofBytes (bytes : List UInt8) : ℕ := bytes.foldr (fun b n => b.toNat + 256 * n) 0

/-- The lowest bytes of a number. -/
def toBytes : ℕ → ℕ → List UInt8
  | 0, _ => []
  | count + 1, n => UInt8.ofNat n :: toBytes count (n / 256)

/-- Take up blocks of 136 bytes.  The last one, which is not full, is padded. -/
def absorb : ℕ → ℕ → List UInt8 → ℕ
  | 0, s, bytes =>
    permute (s ^^^ ofBytes bytes ^^^ 1 <<< (8 * bytes.length) ^^^ 0x80 <<< (8 * 135))
  | blocks + 1, s, bytes =>
    absorb blocks (permute (s ^^^ ofBytes (bytes.take 136))) (bytes.drop 136)

def keccak256 (bytes : List UInt8) : List UInt8 :=
  toBytes 32 (absorb (bytes.length / 136) 0 bytes)

theorem length_toBytes (count n : ℕ) : (toBytes count n).length = count := by
  induction count generalizing n with
  | zero => rfl
  | succ count ih => exact congrArg (· + 1) (ih _)

theorem length_keccak256 (bytes : List UInt8) : (keccak256 bytes).length = 32 := length_toBytes 32 _

/-- The digest of the empty list. -/
example : ofBytes (keccak256 []).reverse =
    0xc5d2460186f7233c927e7db2dcc703c0e500b653ca82273b7bfad8045d85a470 := by
  decide +kernel

end FlowMemory.Sponge
