/-!
# Binary64 arithmetic

Double precision numbers as exact values: a finite number is a sign, a mantissa
below `2 ^ 53` and a binary exponent.  Every operation computes its result
exactly on integers and then rounds it once, to the nearest number, a tie going
to the even mantissa.
-/

namespace Runbook

/-- The mantissa and exponent of a finite number in its one written form: the
mantissa is normalised unless the exponent is already the least one. -/
def Binary64.Canonical (mantissa : Nat) (exponent : Int) : Prop :=
  mantissa < Nat.pow 2 53 ∧ -1074 ≤ exponent ∧ exponent ≤ 971 ∧
    (Nat.pow 2 52 ≤ mantissa ∨ exponent = -1074)

instance (mantissa : Nat) (exponent : Int) :
    Decidable (Binary64.Canonical mantissa exponent) := by
  unfold Binary64.Canonical; infer_instance

/-- A double precision number.  The value of a finite one is its mantissa
times two to its exponent, with its sign. -/
inductive Binary64
  | nan
  | infinite (negative : Bool)
  | finite (negative : Bool) (mantissa : Nat) (exponent : Int)
      (canonical : Binary64.Canonical mantissa exponent)
deriving DecidableEq

namespace Binary64

def zero (negative : Bool) : Binary64 :=
  .finite negative 0 (-1074) (by decide)

instance : Inhabited Binary64 := ⟨zero false⟩

/-- The number with this mantissa and exponent; infinite if there is none,
which happens only beyond the largest exponent. -/
def ofParts (negative : Bool) (mantissa : Nat) (exponent : Int) : Binary64 :=
  if canonical : Canonical mantissa exponent then
    .finite negative mantissa exponent canonical
  else .infinite negative

/-- The integer nearest to a quotient, a tie going to the even one. -/
def roundDiv (numerator denominator : Nat) : Nat :=
  let quotient := numerator / denominator
  let twice := 2 * (numerator % denominator)
  if twice < denominator then quotient
  else if denominator < twice then quotient + 1
  else if quotient % 2 = 0 then quotient else quotient + 1

/-- The greatest `power` with `2 ^ power` at most the quotient of two positive
numbers. -/
def floorLog2 (numerator denominator : Nat) : Int :=
  let estimate : Int := (numerator.log2 : Int) - (denominator.log2 : Int)
  if denominator * Nat.pow 2 estimate.toNat ≤
      numerator * Nat.pow 2 (-estimate).toNat then
    estimate
  else estimate - 1

/-- The number nearest to a quotient; the denominator is positive. -/
def ofRatio (negative : Bool) (numerator denominator : Nat) : Binary64 :=
  if numerator = 0 then zero negative
  else
    let exponent := max (floorLog2 numerator denominator - 52) (-1074)
    let mantissa := roundDiv (numerator * Nat.pow 2 (-exponent).toNat)
      (denominator * Nat.pow 2 exponent.toNat)
    if mantissa = Nat.pow 2 53 then
      ofParts negative (Nat.pow 2 52) (exponent + 1)
    else ofParts negative mantissa exponent

/-- The number nearest to an integer multiple of a power of two. -/
def ofDyadic (negative : Bool) (mantissa : Nat) (exponent : Int) : Binary64 :=
  ofRatio negative (mantissa * Nat.pow 2 exponent.toNat)
    (Nat.pow 2 (-exponent).toNat)

def ofNat (value : Nat) : Binary64 :=
  ofRatio false value 1

def ofInt (value : Int) : Binary64 :=
  ofRatio (decide (value < 0)) value.natAbs 1

/-- The number nearest to `digits` times ten to `exponent`.  Exponents so
large or small that every digit is out of range are answered at once. -/
def ofDecimal (negative : Bool) (digits : Nat) (exponent : Int) : Binary64 :=
  if digits = 0 then zero negative
  else
    let magnitude := exponent + (Nat.toDigits 10 digits).length
    if 400 < magnitude then .infinite negative
    else if magnitude < -400 then zero negative
    else ofRatio negative (digits * Nat.pow 10 exponent.toNat)
      (Nat.pow 10 (-exponent).toNat)

def isFinite : Binary64 → Bool
  | .finite .. => true
  | _ => false

def isZero : Binary64 → Bool
  | .finite _ mantissa _ _ => mantissa == 0
  | _ => false

def neg : Binary64 → Binary64
  | .nan => .nan
  | .infinite negative => .infinite !negative
  | .finite negative mantissa exponent canonical =>
    .finite (!negative) mantissa exponent canonical

def signed (negative : Bool) (magnitude : Nat) : Int :=
  if negative then -(magnitude : Int) else magnitude

/-- The mantissa of a number on the grid of a smaller exponent. -/
def onGrid (mantissa : Nat) (exponent grid : Int) : Nat :=
  mantissa * Nat.pow 2 (exponent - grid).toNat

/-- The rounded sum.  An exact zero is negative only if both summands are. -/
def add : Binary64 → Binary64 → Binary64
  | .nan, _ => .nan
  | _, .nan => .nan
  | .infinite left, .infinite right =>
    if left = right then .infinite left else .nan
  | .infinite left, .finite .. => .infinite left
  | .finite .., .infinite right => .infinite right
  | .finite leftNegative leftMantissa leftExponent _,
      .finite rightNegative rightMantissa rightExponent _ =>
    let grid := min leftExponent rightExponent
    let sum := signed leftNegative (onGrid leftMantissa leftExponent grid) +
      signed rightNegative (onGrid rightMantissa rightExponent grid)
    if sum = 0 then zero (leftNegative && rightNegative)
    else ofDyadic (decide (sum < 0)) sum.natAbs grid

def sub (left right : Binary64) : Binary64 :=
  add left (neg right)

def mul : Binary64 → Binary64 → Binary64
  | .nan, _ => .nan
  | _, .nan => .nan
  | .infinite left, .infinite right => .infinite (left != right)
  | .infinite left, .finite right mantissa _ _ =>
    if mantissa = 0 then .nan else .infinite (left != right)
  | .finite left mantissa _ _, .infinite right =>
    if mantissa = 0 then .nan else .infinite (left != right)
  | .finite left leftMantissa leftExponent _,
      .finite right rightMantissa rightExponent _ =>
    ofDyadic (left != right) (leftMantissa * rightMantissa)
      (leftExponent + rightExponent)

def div : Binary64 → Binary64 → Binary64
  | .nan, _ => .nan
  | _, .nan => .nan
  | .infinite _, .infinite _ => .nan
  | .infinite left, .finite right _ _ _ => .infinite (left != right)
  | .finite left _ _ _, .infinite right => zero (left != right)
  | .finite left leftMantissa leftExponent _,
      .finite right rightMantissa rightExponent _ =>
    if rightMantissa = 0 then
      if leftMantissa = 0 then .nan else .infinite (left != right)
    else
      let shift := leftExponent - rightExponent
      ofRatio (left != right) (leftMantissa * Nat.pow 2 shift.toNat)
        (rightMantissa * Nat.pow 2 (-shift).toNat)

/-- The remainder of the quotient rounded toward zero; it is exact and has the
sign of the dividend. -/
def rem : Binary64 → Binary64 → Binary64
  | .nan, _ => .nan
  | _, .nan => .nan
  | .infinite _, _ => .nan
  | .finite negative mantissa exponent canonical, .infinite _ =>
    .finite negative mantissa exponent canonical
  | .finite leftNegative leftMantissa leftExponent _,
      .finite _ rightMantissa rightExponent _ =>
    if rightMantissa = 0 then .nan
    else
      let grid := min leftExponent rightExponent
      ofDyadic leftNegative
        (onGrid leftMantissa leftExponent grid %
          onGrid rightMantissa rightExponent grid)
        grid

/-- The order of two numbers; a `nan` has none.  The zeros are equal. -/
def compare? : Binary64 → Binary64 → Option Ordering
  | .nan, _ => none
  | _, .nan => none
  | .infinite left, .infinite right =>
    some (if left = right then .eq else if left then .lt else .gt)
  | .infinite left, .finite .. => some (if left then .lt else .gt)
  | .finite .., .infinite right => some (if right then .gt else .lt)
  | .finite leftNegative leftMantissa leftExponent _,
      .finite rightNegative rightMantissa rightExponent _ =>
    let grid := min leftExponent rightExponent
    some (compare
      (signed leftNegative (onGrid leftMantissa leftExponent grid))
      (signed rightNegative (onGrid rightMantissa rightExponent grid)))

/-- The integer a finite number is equal to, if it is integral. -/
def toInt? : Binary64 → Option Int
  | .finite negative mantissa exponent _ =>
    let divisor := Nat.pow 2 (-exponent).toNat
    if mantissa % divisor = 0 then
      some (signed negative (mantissa / divisor * Nat.pow 2 exponent.toNat))
    else none
  | _ => none

end Binary64

end Runbook
