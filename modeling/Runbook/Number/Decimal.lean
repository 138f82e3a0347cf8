import Runbook.Number.Binary64

/-!
# Shortest decimals and their notation

A finite number is written with the fewest decimal digits that read back to
it; of two candidates with equally many digits the nearer one is taken.  The
digits are found on ever finer decimal grids, by exact integer arithmetic.  How
they are laid out is a record of decisions, `Notation`.
-/

namespace Runbook

/-- The number `digits` times ten to `exponent`. -/
structure Decimal where
  digits : Nat
  exponent : Int
deriving DecidableEq

namespace Decimal

/-- The reals that round to `mantissa * 2 ^ exponent` lie between these two
multiples of `2 ^ (exponent - 2)`.  The gap below a power of two is halved. -/
def roundingInterval (mantissa : Nat) (exponent : Int) : Nat × Nat :=
  let below := if mantissa = Nat.pow 2 52 ∧ exponent ≠ -1074 then 1 else 2
  (4 * mantissa - below, 4 * mantissa + 2)

/-- Whether `digits * 10 ^ grid` reads back as `mantissa * 2 ^ exponent`; the
ends of the interval count when the mantissa is even. -/
def readsBack (mantissa : Nat) (exponent : Int) (digits : Nat) (grid : Int) :
    Bool :=
  let (low, high) := roundingInterval mantissa exponent
  let unit := exponent - 2
  let value := digits * Nat.pow 10 grid.toNat * Nat.pow 2 (-unit).toNat
  let scale := Nat.pow 10 (-grid).toNat * Nat.pow 2 unit.toNat
  if mantissa % 2 = 0 then low * scale ≤ value && value ≤ high * scale
  else low * scale < value && value < high * scale

/-- The two neighbours of the value on a decimal grid, tried in turn on ever
finer grids: the first grid with a neighbour that reads back decides. -/
def search (mantissa : Nat) (exponent : Int) : Nat → Int → Decimal
  | 0, _ =>
    ⟨mantissa * Nat.pow 2 exponent.toNat * Nat.pow 5 (-exponent).toNat,
      min exponent 0⟩
  | fuel + 1, grid =>
    let numerator :=
      mantissa * Nat.pow 2 exponent.toNat * Nat.pow 10 (-grid).toNat
    let denominator := Nat.pow 2 (-exponent).toNat * Nat.pow 10 grid.toNat
    let lower := numerator / denominator
    let lowerFits := readsBack mantissa exponent lower grid
    let upperFits := readsBack mantissa exponent (lower + 1) grid
    if lowerFits && upperFits then
      let twice := 2 * numerator
      let middle := (2 * lower + 1) * denominator
      if twice < middle then ⟨lower, grid⟩
      else if middle < twice then ⟨lower + 1, grid⟩
      else if lower % 2 = 0 then ⟨lower, grid⟩ else ⟨lower + 1, grid⟩
    else if lowerFits then ⟨lower, grid⟩
    else if upperFits then ⟨lower + 1, grid⟩
    else search mantissa exponent fuel (grid - 1)

/-- Move the zeros at the end of the digits into the exponent. -/
def dropZeros : Nat → Decimal → Decimal
  | 0, decimal => decimal
  | fuel + 1, decimal =>
    if decimal.digits ≠ 0 ∧ decimal.digits % 10 = 0 then
      dropZeros fuel ⟨decimal.digits / 10, decimal.exponent + 1⟩
    else decimal

/-- The shortest decimal that reads back as `mantissa * 2 ^ exponent`. -/
def shortest (mantissa : Nat) (exponent : Int) : Decimal :=
  if mantissa = 0 then ⟨0, 0⟩
  else
    let bits : Int := (mantissa.log2 : Int) + exponent + 2
    dropZeros 20
      (search mantissa exponent 40 (Int.fdiv (bits * 30103) 100000 + 1))

/-- The decisions about how a number is written. -/
structure Notation where
  /-- Decimal exponents that are written without an exponent. -/
  plainExponents : Int → Bool
  /-- Whether an integral number keeps a fraction of one zero. -/
  keepsFraction : Bool
  /-- Whether a positive exponent has a plus sign. -/
  plusSign : Bool
  /-- The text of what is not a number. -/
  nan : String
  infinity : String

def plain (keepsFraction : Bool) (decimal : Decimal) : List Char :=
  let digits := Nat.toDigits 10 decimal.digits
  if 0 ≤ decimal.exponent then
    digits ++ List.replicate decimal.exponent.toNat '0' ++
      (if keepsFraction then ['.', '0'] else [])
  else
    let places := decimal.exponent.natAbs
    if places < digits.length then
      digits.take (digits.length - places) ++ '.' ::
        digits.drop (digits.length - places)
    else '0' :: '.' :: List.replicate (places - digits.length) '0' ++ digits

def scientific (plusSign : Bool) (decimal : Decimal) : List Char :=
  let digits := Nat.toDigits 10 decimal.digits
  let exponent := decimal.exponent + digits.length - 1
  let sign : List Char :=
    if exponent < 0 then ['-'] else if plusSign then ['+'] else []
  let power := Nat.toDigits 10 exponent.natAbs
  match digits with
  | [] => []
  | [digit] => digit :: 'e' :: sign ++ power
  | digit :: rest => digit :: '.' :: rest ++ 'e' :: sign ++ power

def layout (style : Notation) (decimal : Decimal) : List Char :=
  let digits := Nat.toDigits 10 decimal.digits
  if decimal.digits = 0 ∨
      style.plainExponents (decimal.exponent + digits.length - 1) then
    plain style.keepsFraction decimal
  else scientific style.plusSign decimal

def intText (value : Int) : String :=
  String.ofList
    (if value < 0 then '-' :: Nat.toDigits 10 value.natAbs
      else Nat.toDigits 10 value.natAbs)

end Decimal

namespace Binary64

def render (style : Decimal.Notation) : Binary64 → String
  | .nan => style.nan
  | .infinite negative =>
    if negative then "-" ++ style.infinity else style.infinity
  | .finite negative mantissa exponent _ =>
    let digits := Decimal.layout style (Decimal.shortest mantissa exponent)
    String.ofList (if negative then '-' :: digits else digits)

/-- Numbers in running text: never an exponent, and an integral number has no
fraction. -/
def plainNotation : Decimal.Notation where
  plainExponents := fun _ => true
  keepsFraction := false
  plusSign := false
  nan := "NaN"
  infinity := "inf"

end Binary64

end Runbook
