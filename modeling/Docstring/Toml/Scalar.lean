-- TOML numbers, truth values and dates.
import Docstring.Toml.Basic

namespace Docstring.Toml

/-- Digits of a base, where single underscores may stand between them. Without the underscores; none
when an underscore stands elsewhere or there is no digit. -/
def digits? (isDigit : Char → Bool) : Text → Option Text
  | [] => none
  | [c] => if isDigit c then some [c] else none
  | c :: d :: rest =>
    if !isDigit c then none
    else if d = '_' then (digits? isDigit rest).map (c :: ·)
    else (digits? isDigit (d :: rest)).map (c :: ·)

/-- The value of a digit in any base up to sixteen. -/
def digitValue (c : Char) : Nat :=
  if c.isDigit then c.toNat - 48
  else if 'a' ≤ c && c ≤ 'f' then c.toNat - 87
  else c.toNat - 55

/-- The number that digits of a base stand for. -/
def valueOf (base : Nat) (digits : Text) : Nat :=
  digits.foldl (fun n c => base * n + digitValue c) 0

def isDecimal (c : Char) : Bool := c.isDigit

/-- A digit of a base that a letter after a zero announces. -/
def radix? (letter : Char) : Option (Nat × (Char → Bool)) :=
  if letter = 'x' then some (16, fun c => c.isDigit || ('a' ≤ c && c ≤ 'f') || ('A' ≤ c && c ≤ 'F'))
  else if letter = 'o' then some (8, fun c => '0' ≤ c && c ≤ '7')
  else if letter = 'b' then some (2, fun c => c = '0' || c = '1')
  else none

def splitSign : Text → Bool × Text
  | '-' :: rest => (true, rest)
  | '+' :: rest => (false, rest)
  | t => (false, t)

/-- The digits of a whole number, which has no needless zero in front. -/
def whole? (t : Text) : Option Text := do
  let digits ← digits? isDecimal t
  if digits.head? = some '0' && 1 < digits.length then none else some digits

/-- An integer that fits in 64 bits. -/
def bounded? (n : Int) : Option Toml :=
  if -(Int.pow 2 63) ≤ n && n < Int.pow 2 63 then some (.integer n) else none

def integer? (t : Text) : Option Toml :=
  match t with
  | '0' :: letter :: rest =>
    match radix? letter with
    | some (base, isDigit) => do
      let digits ← digits? isDigit rest
      bounded? (valueOf base digits)
    | none => none
  | _ => do
    let (isNegative, rest) := splitSign t
    let digits ← whole? rest
    let n : Int := valueOf 10 digits
    bounded? (if isNegative then -n else n)

/-- The value of an exponent after its letter. -/
def exponent? (t : Text) : Option Int := do
  let (isNegative, rest) := splitSign t
  let digits ← digits? isDecimal rest
  let n : Int := valueOf 10 digits
  return if isNegative then -n else n

/-- Reads a number with a fraction, an exponent, or both. -/
def decimal? (t : Text) : Option Toml := do
  let (isNegative, t) := splitSign t
  let isExponent := fun c : Char => c = 'e' || c = 'E'
  let front := t.takeWhile fun c => !isExponent c
  let exponent ←
    match t.drop front.length with
    | [] => some 0
    | _ :: power => exponent? power
  match Text.cutAt? (· == '.') front with
  | some (before, after) =>
    let whole ← whole? before
    let fraction ← digits? isDecimal after
    return .float (.ofDecimal isNegative (valueOf 10 (whole ++ fraction))
      (exponent - fraction.length))
  | none =>
    if front.length = t.length then none
    let whole ← whole? front
    return .float (.ofDecimal isNegative (valueOf 10 whole) exponent)

/-- Reads a number that is not finite. -/
def special? (t : Text) : Option Toml :=
  let (isNegative, rest) := splitSign t
  if rest = "inf".toList then some (.float (.infinite isNegative))
  else if rest = "nan".toList then some (.float .nan)
  else none

/-- Does a text follow a pattern in which a `0` stands for any digit? -/
def follows : Text → Text → Bool
  | [], _ => true
  | _ :: _, [] => false
  | '0' :: pattern, c :: rest => c.isDigit && follows pattern rest
  | p :: pattern, c :: rest => p = c && follows pattern rest

def moment? (t : Text) : Option Toml :=
  if follows "0000-00-00".toList t || follows "00:00:00".toList t then some (.moment t) else none

def scalar? (t : Text) : Option Toml :=
  if t = "true".toList then some (.bool true)
  else if t = "false".toList then some (.bool false)
  else integer? t <|> decimal? t <|> special? t <|> moment? t

def isScalarChar (c : Char) : Bool :=
  c.isAlphanum || c = '_' || c = '-' || c = '+' || c = '.' || c = ':'

end Docstring.Toml
