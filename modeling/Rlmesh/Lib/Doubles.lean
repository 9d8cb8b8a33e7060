import Mathlib
/-!
# Doubles as exact numbers

A double is a rational, an infinity or NaN. Comparisons and roundings are exact;
a cast to an integer type truncates and saturates, and takes NaN to zero.
-/
namespace Rlmesh.Lib

inductive Double where
  | finite (value : Rat)
  | posInf
  | negInf
  | nan
  deriving DecidableEq

namespace Double

def isFinite : Double → Bool
  | finite _ => true
  | _ => false

def isNan : Double → Bool
  | nan => true
  | _ => false

/-- `a > b`; NaN is greater than nothing, and nothing is greater than NaN. -/
def gt : Double → Double → Bool
  | finite a, finite b => decide (b < a)
  | posInf, finite _ => true
  | posInf, negInf => true
  | finite _, negInf => true
  | _, _ => false

def ceil : Double → Double
  | finite value => finite ⌈value⌉
  | other => other

def floor : Double → Double
  | finite value => finite ⌊value⌋
  | other => other

/-- The cast to an integer type whose values are `lo` to `hi`. -/
def toInt (lo hi : Int) : Double → Int
  | finite value => max lo (min (if value < 0 then ⌈value⌉ else ⌊value⌋) hi)
  | posInf => hi
  | negInf => lo
  | nan => 0

/-- A whole number in decimal, a fraction as a quotient. -/
def text : Double → String
  | finite value => if value.den = 1 then s!"{value.num}" else s!"{value.num}/{value.den}"
  | posInf => "inf"
  | negInf => "-inf"
  | nan => "NaN"

/-- The value of a bit pattern with `ew` exponent bits and `mw` fraction bits. -/
def ofBits (ew mw bits : Nat) : Double :=
  let negative := bits / 2 ^ (ew + mw) % 2 = 1
  let exponent := bits / 2 ^ mw % 2 ^ ew
  let fraction := bits % 2 ^ mw
  let scale : Int := 2 ^ (ew - 1) - 1 + mw
  let sign : Rat := if negative then -1 else 1
  if exponent = 2 ^ ew - 1 then
    if fraction ≠ 0 then nan else if negative then negInf else posInf
  else if exponent = 0 then finite (sign * fraction * 2 ^ (1 - scale))
  else finite (sign * (2 ^ mw + fraction) * 2 ^ (exponent - scale))

/-! ## Casts of whole numbers -/

theorem toInt_whole (lo hi n : Int) : (finite n).toInt lo hi = max lo (min n hi) := by
  have hround : (if ((n : Rat) < 0) then ⌈(n : Rat)⌉ else ⌊(n : Rat)⌋) = n := by
    rw [Int.ceil_intCast, Int.floor_intCast, ite_self]
  rw [toInt, hround]

theorem toInt_range {lo hi : Int} (hlo : lo ≤ 0) (hhi : 0 ≤ hi) (value : Double) :
    lo ≤ value.toInt lo hi ∧ value.toInt lo hi ≤ hi := by
  cases value with
  | finite value => rw [toInt]; omega
  | posInf => exact ⟨hlo.trans hhi, Int.le_refl hi⟩
  | negInf => exact ⟨Int.le_refl lo, hlo.trans hhi⟩
  | nan => exact ⟨hlo, hhi⟩

end Double

end Rlmesh.Lib
