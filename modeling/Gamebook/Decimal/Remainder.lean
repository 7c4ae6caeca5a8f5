import Gamebook.Decimal.Shortest

/-!
# Remainders of floats

The remainder of a division whose quotient is cut to a whole number. It is computed exactly on the
magnitudes; the result is always a float.
-/

namespace Gamebook

namespace Binary

/-- The float `m · 2^e`, for an `m` of at most 53 significant bits. -/
def scaled (m : Nat) (e : Int) : Float :=
  let surplus := m.log2 - 52
  (Float.ofNat (m >>> surplus)).scaleB (e + surplus)

/-- The magnitude of the remainder, as `m · 2^e`. -/
def remainder (a b : Binary) : Nat × Int :=
  let e := min a.exponent b.exponent
  let left := a.mantissa * Nat.pow 2 (a.exponent - e).toNat
  let right := b.mantissa * Nat.pow 2 (b.exponent - e).toNat
  (left % right, e)

end Binary

/-- What is left of `x` after taking away a whole number of `y`, with the sign of `x`. -/
def floatRemainder (x y : Float) : Float :=
  match Binary.ofFloat? x, Binary.ofFloat? y with
  | some a, some b =>
    if b.mantissa = 0 then 0.0 / 0.0
    else
      let (m, e) := a.remainder b
      let magnitude := Binary.scaled m e
      if Binary.signOf x then -magnitude else magnitude
  | some _, none => if y.isNaN then y else x
  | none, _ => 0.0 / 0.0

end Gamebook
