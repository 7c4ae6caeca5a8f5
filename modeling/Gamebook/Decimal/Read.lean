import Gamebook.Decimal.Shortest

/-!
# Reading decimals

Numerals with a fraction and an exponent, read as the nearest float; and whole numbers in a base.
-/

namespace Gamebook

namespace Decimal

private def digitsValue (digits : List Char) : Nat :=
  digits.foldl (fun acc c => acc * 10 + (c.toNat - 48)) 0

/-- Reads `digits`, `digits.digits`, `.digits` or `digits.`, each maybe with an exponent. An
exponent of more than nine digits counts as the greatest of nine. -/
def parse? (chars : List Char) : Option Decimal := do
  let whole := chars.takeWhile Char.isDigit
  let (fraction, rest) := match chars.dropWhile Char.isDigit with
    | '.' :: rest => (rest.takeWhile Char.isDigit, rest.dropWhile Char.isDigit)
    | rest => ([], rest)
  guard !(whole.isEmpty && fraction.isEmpty)
  let digits := digitsValue (whole ++ fraction)
  let scale : Int := -(fraction.length : Int)
  let exponentOf (negative : Bool) (rest : List Char) : Option Decimal := do
    guard (!rest.isEmpty && rest.all Char.isDigit)
    let magnitude := rest.dropWhile (· = '0')
    let e : Int := if 9 < magnitude.length then 999999999 else digitsValue magnitude
    some ⟨digits, scale + if negative then -e else e⟩
  match rest with
  | [] => some ⟨digits, scale⟩
  | c :: rest =>
    guard (c = 'e' || c = 'E')
    match rest with
    | '-' :: rest => exponentOf true rest
    | '+' :: rest => exponentOf false rest
    | rest => exponentOf false rest

/-- The float that a numeral denotes, with or without a sign. -/
def readFloat? : List Char → Option Float
  | '-' :: rest => (parse? rest).map (fun d => -d.toFloat)
  | '+' :: rest => (parse? rest).map toFloat
  | rest => (parse? rest).map toFloat

end Decimal

/-- The value of a digit, letters standing for ten and more. -/
def digitValue? (c : Char) : Option Nat :=
  if c.isDigit then some (c.toNat - 48)
  else if 'a' ≤ c ∧ c ≤ 'z' then some (c.toNat - 87)
  else if 'A' ≤ c ∧ c ≤ 'Z' then some (c.toNat - 55)
  else none

/-- Reads a natural number in a base; there must be digits, and nothing else. -/
def readNat? (base : Nat) (digits : List Char) : Option Nat :=
  if digits.isEmpty then none
  else digits.foldlM (fun acc c => do
    let d ← digitValue? c
    guard (d < base)
    some (acc * base + d)) 0

end Gamebook
