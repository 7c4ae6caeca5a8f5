import Gamebook.Decimal.Shortest

/-!
# Layouts of number texts

How the shortest digits of a float are laid out as text. A `Layout` is a record of decisions; the
four in use are `Layout.plain` (shown to players), `Layout.data` (inside JSON text),
`Layout.script` (numbers joined to strings by scripts) and `Layout.detail` (numbers inside the text
of a list).
-/

namespace Gamebook

/-- The decisions of one number format. -/
structure Layout where
  /-- Whether a number with these digits and this exponent of its leading digit is written
  without an exponent. -/
  positional : Nat → Int → Bool
  /-- Whole numbers end in `.0`. -/
  wholeMark : Bool
  /-- Exponents that are not negative carry a plus sign. -/
  plusSign : Bool
  /-- Zero keeps its sign. -/
  signedZero : Bool
  /-- Between two equally near shortest digits the greater wins, else the even one. -/
  tieUp : Bool

namespace Layout

/-- Never an exponent, nothing after a whole number. -/
def plain : Layout := ⟨fun _ _ => true, false, false, true, true⟩

/-- Positional from `1e-5` up to below `1e16`, whole numbers marked. -/
def data : Layout := ⟨fun _ e => -5 ≤ e && e ≤ 15, true, true, true, false⟩

/-- Positional from `1e-13` up to and including `1e13`, whole numbers marked, zero unsigned. -/
def script : Layout :=
  ⟨fun digits e => -13 ≤ e && (e ≤ 12 || (e == 13 && digits == 1)), true, false, false, true⟩

/-- Positional from `1e-4` up to below `1e16`, whole numbers marked. -/
def detail : Layout := ⟨fun _ e => -4 ≤ e && e ≤ 15, true, false, true, true⟩

end Layout

namespace Decimal

private def zeros (n : Nat) : String := String.ofList (List.replicate n '0')

/-- The exponent of the leading digit. -/
def leadingExponent (d : Decimal) : Int := d.exponent + (toString d.digits).length - 1

/-- The digits with a decimal point in their place. -/
def positionalText (d : Decimal) (wholeMark : Bool) : String :=
  let text := toString d.digits
  let before : Int := text.length + d.exponent
  if 0 ≤ d.exponent then text ++ zeros d.exponent.toNat ++ (if wholeMark then ".0" else "")
  else if 0 < before then
    let chars := text.toList
    String.ofList (chars.take before.toNat ++ '.' :: chars.drop before.toNat)
  else "0." ++ zeros (-before).toNat ++ text

/-- One digit, the point, the others, and the exponent. -/
def exponentText (d : Decimal) (plusSign : Bool) : String :=
  let mantissa := match (toString d.digits).toList with
    | first :: [] => String.ofList [first]
    | first :: rest => String.ofList (first :: '.' :: rest)
    | [] => ""
  let e := d.leadingExponent
  mantissa ++ "e" ++ (if plusSign && 0 ≤ e then "+" else "") ++ toString e

end Decimal

namespace Layout

/-- The text of a magnitude in this layout. -/
def magnitude (layout : Layout) (b : Binary) : String :=
  let d := b.shortest layout.tieUp
  if layout.positional d.digits d.leadingExponent then d.positionalText layout.wholeMark
  else d.exponentText layout.plusSign

/-- The text of a float in this layout. -/
def text (layout : Layout) (x : Float) : String :=
  match Binary.ofFloat? x with
  | some b =>
    let negative := Binary.signOf x && (layout.signedZero || b.mantissa ≠ 0)
    (if negative then "-" else "") ++ layout.magnitude b
  | none => if x.isNaN then "NaN" else if Binary.signOf x then "-inf" else "inf"

end Layout

end Gamebook
