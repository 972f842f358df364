-- Decimal text of double-precision numbers: a fixed number of places, and the fewest digits that
-- read back as the same number.
import Docstring.Number.Binary64

namespace Docstring.Binary64

/-! ## Fixed places -/

/-- Digits with a point before the last `places` of them. -/
def pointed (digits places : Nat) : String :=
  let text := Nat.repr digits
  let padded := String.ofList (List.replicate (places + 1 - text.length) '0') ++ text
  let whole := padded.length - places
  let front := String.ofList (padded.toList.take whole)
  let back := String.ofList (padded.toList.drop whole)
  if places = 0 then front else front ++ "." ++ back

/-- The sign of a number as it is written. -/
def sign (negative : Bool) : String := if negative then "-" else ""

/-- The number with a fixed count of decimal places, correctly rounded from its exact value. -/
def fixed (places : Nat) : Binary64 → String
  | .nan => "NaN"
  | .infinite negative => sign negative ++ "inf"
  | .finite negative mantissa exponent =>
    let (num, den) := scaled (mantissa * Nat.pow 10 places) 1 (-exponent)
    sign negative ++ pointed (roundQuotient num den) places

/-! ## Fewest digits -/

/-- A decimal `digits * 10 ^ exponent`. -/
structure Decimal where
  digits : Nat
  exponent : Int
deriving DecidableEq, Repr

/-- The grid point nearest to a positive number among the multiples of `10 ^ exponent`, and the
one below it. -/
def gridNeighbours (mantissa : Nat) (exponent grid : Int) : List Nat :=
  let (num, den) := scaled mantissa 1 (-exponent)
  let (num, den) :=
    match grid with
    | .ofNat g => (num, den * Nat.pow 10 g)
    | .negSucc g => (num * Nat.pow 10 (g + 1), den)
  let nearest := roundQuotient num den
  [nearest, num / den, num / den + 1]

/-- The fewest digits that read back as the number: the first grid, from coarse to fine, that has
a point which rounds to it. -/
def shortestFrom (target : Binary64) (mantissa : Nat) (exponent : Int) (fuel : Nat) (grid : Int) :
    Decimal :=
  match fuel with
  | 0 => ⟨0, 0⟩
  | fuel + 1 =>
    match (gridNeighbours mantissa exponent grid).find? fun digits =>
      ofDecimal false digits grid == target with
    | some digits => ⟨digits, grid⟩
    | none => shortestFrom target mantissa exponent fuel (grid - 1)

/-- The decimal exponent of the first digit, or one more. -/
def leadingExponent (mantissa : Nat) (exponent : Int) : Int :=
  ((mantissa.log2 : Int) + exponent) * 30103 / 100000 + 1

/-- The decimal with the fewest digits that reads back as a finite number. -/
def shortest (mantissa : Nat) (exponent : Int) : Decimal :=
  if mantissa = 0 then ⟨0, 0⟩
  else
    shortestFrom (.finite false mantissa exponent) mantissa exponent 20
      (leadingExponent mantissa exponent)

/-- Zeros, as many as asked for. -/
def zeros (n : Nat) : String := String.ofList (List.replicate n '0')

/-- Digits in positional notation, with no point if the number is whole. -/
def Decimal.positional (d : Decimal) : String :=
  match d.exponent with
  | .ofNat e => if d.digits = 0 then "0" else Nat.repr d.digits ++ zeros e
  | .negSucc e => pointed d.digits (e + 1)

/-- The number in positional notation with the fewest digits. -/
def positional : Binary64 → String
  | .nan => "NaN"
  | .infinite negative => sign negative ++ "inf"
  | .finite negative mantissa exponent =>
    sign negative ++ (shortest mantissa exponent).positional

/-- The number as it stands in a JSON document: positional from `1e-5` up to `1e16` with a point
always, and with an exponent outside. -/
def jsonText : Binary64 → String
  | .nan => "null"
  | .infinite _ => "null"
  | .finite negative mantissa exponent =>
    let d := shortest mantissa exponent
    let length := (Nat.repr d.digits).length
    let point : Int := length + d.exponent
    let text :=
      if 0 ≤ d.exponent ∧ point ≤ 16 then d.positional ++ ".0"
      else if -5 < point ∧ point ≤ 16 then d.positional
      else
        let first := String.ofList ((Nat.repr d.digits).toList.take 1)
        let others := String.ofList ((Nat.repr d.digits).toList.drop 1)
        let power := point - 1
        let powerText := sign (power < 0) ++ Nat.repr power.natAbs
        if others.isEmpty then first ++ "e" ++ powerText
        else first ++ "." ++ others ++ "e" ++ powerText
    sign negative ++ text

end Docstring.Binary64
