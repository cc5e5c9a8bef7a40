import Mathlib.Algebra.Group.Nat.Defs

/-! # Integers in double precision and their decimal text

A number in double precision has 53 significant bits.  Its decimal text has as few digits as are
needed to read the same number back, filled up with zeros, and an exponent from 10²¹ on.  Above 2⁵³
it may be the text of another integer. -/

namespace FlowMemory

/-- The number in double precision that is closest to an integer, the even one of two. -/
def toDouble (n : ℕ) : ℕ :=
  if n < 2 ^ 53 then n
  else
    let unit := 2 ^ (Nat.log2 n - 52)
    let low := n / unit
    let rest := n % unit
    (if 2 * rest < unit ∨ 2 * rest = unit ∧ low % 2 = 0 then low else low + 1) * unit

/-- A multiple of a power of ten that is read as `x`, the closest one of two. -/
def closestDecimal (x zeros : ℕ) : Option ℕ :=
  let unit := 10 ^ zeros
  let low := x / unit * unit
  let high := low + unit
  if toDouble low = x then
    if toDouble high = x ∧ (high - x < x - low ∨ high - x = x - low ∧ x / unit % 2 = 1) then some high
    else some low
  else if toDouble high = x then some high
  else none

/-- The decimal with the most zeros, at most the given number. -/
def shortestFrom (x : ℕ) : ℕ → ℕ
  | 0 => (closestDecimal x 0).getD x
  | zeros + 1 => (closestDecimal x (zeros + 1)).getD (shortestFrom x zeros)

def shortestDecimal (x : ℕ) : ℕ := shortestFrom x ((Nat.toDigits 10 x).length - 1)

/-- The digits without the zeros at the end, a point after the first, and the exponent. -/
def exponentText (x : ℕ) : List Char :=
  let digits := Nat.toDigits 10 (shortestDecimal x)
  let significant := (digits.reverse.dropWhile (· = '0')).reverse
  let mantissa := match significant with
    | [] => []
    | [d] => [d]
    | d :: ds => d :: '.' :: ds
  mantissa ++ ['e', '+'] ++ Nat.toDigits 10 (digits.length - 1)

/-- The decimal text of an integer in double precision. -/
def numberText (x : ℕ) : String :=
  String.ofList (if x < 10 ^ 21 then Nat.toDigits 10 (shortestDecimal x) else exponentText x)

/-- The text of a power of two is not its decimal text. -/
example : numberText (2 ^ 60) = "1152921504606847000" := by decide +kernel

end FlowMemory
