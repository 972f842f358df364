-- Double-precision numbers as exact values: rounding a quotient to the nearest one, and
-- comparing two of them.

namespace Docstring

/-- A double-precision number: a mantissa below `2 ^ 53` times a power of two, or a value out of
range. -/
inductive Binary64 where
  | finite (negative : Bool) (mantissa : Nat) (exponent : Int)
  | infinite (negative : Bool)
  | nan
deriving DecidableEq, Repr

namespace Binary64

/-! ## Rounding -/

/-- The quotient of two natural numbers, rounded to the nearest one; a half goes to the even
neighbour. -/
def roundQuotient (num den : Nat) : Nat :=
  let floor := num / den
  let twice := 2 * (num % den)
  if twice > den then floor + 1
  else if twice = den then floor + floor % 2
  else floor

/-- `num / den * 2 ^ (-exponent)` as a quotient of natural numbers. -/
def scaled (num den : Nat) (exponent : Int) : Nat × Nat :=
  match exponent with
  | .ofNat e => (num, den * Nat.pow 2 e)
  | .negSucc e => (num * Nat.pow 2 (e + 1), den)

def minExponent : Int := -1074

def maxExponent : Int := 971

/-- The number nearest to `± num / den`; a half goes to the even mantissa. -/
def ofQuotient (negative : Bool) (num den : Nat) : Binary64 :=
  if num = 0 then .finite negative 0 minExponent
  else
    let guess : Int := (num.log2 : Int) - den.log2 - 53
    let guess := max guess minExponent
    let (n, d) := scaled num den guess
    let exponent := if n / d ≥ Nat.pow 2 53 then guess + 1 else guess
    let (n, d) := scaled num den exponent
    let mantissa := roundQuotient n d
    let (mantissa, exponent) :=
      if mantissa = Nat.pow 2 53 then (Nat.pow 2 52, exponent + 1) else (mantissa, exponent)
    if exponent > maxExponent then .infinite negative else .finite negative mantissa exponent

/-- An exponent of ten beyond which every number is out of range. -/
def decimalRange : Nat := 400

/-- The number nearest to `mantissa * 10 ^ exponent`. Exponents far out of range are settled without
the power, which would be huge. -/
def ofDecimal (negative : Bool) (mantissa : Nat) (exponent : Int) : Binary64 :=
  match exponent with
  | .ofNat e =>
    if decimalRange < e && 0 < mantissa then .infinite negative
    else ofQuotient negative (mantissa * Nat.pow 10 (min e decimalRange)) 1
  | .negSucc e =>
    if decimalRange + mantissa.log2 < e then ofQuotient negative 0 1
    else ofQuotient negative mantissa (Nat.pow 10 (e + 1))

/-- A natural number, rounded if it is large. -/
def ofNat (n : Nat) : Binary64 := ofQuotient false n 1

def zero : Binary64 := .finite false 0 minExponent

def one : Binary64 := ofNat 1

/-! ## Order -/

/-- A mantissa over the least exponent, with its sign: the values of finite numbers compare as
these integers do. -/
def weight (negative : Bool) (mantissa : Nat) (exponent : Int) : Int :=
  let size := mantissa * Nat.pow 2 (exponent - minExponent).toNat
  if negative then -(size : Int) else size

/-- Is the first number less than the second? Never with a NaN. -/
def less : Binary64 → Binary64 → Bool
  | .nan, _ => false
  | _, .nan => false
  | .infinite a, .infinite b => a && !b
  | .infinite a, .finite .. => a
  | .finite .., .infinite b => !b
  | .finite s m e, .finite t n f => weight s m e < weight t n f

/-- Is the first number at most the second? Never with a NaN. -/
def atMost (a b : Binary64) : Bool :=
  a != .nan && b != .nan && !less b a

end Binary64

end Docstring
