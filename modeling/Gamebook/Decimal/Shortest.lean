/-!
# Shortest decimal digits of a binary fraction

A finite float is `m · 2^q` with a natural number `m`. The reals that round to it form an interval
around it, whose ends belong to it exactly when `m` is even. `Binary.shortest` searches the decimal
grids with 1, 2, … 17 digits for a point of that interval; on each grid only the two neighbours of
the value can be the nearest point, so only those are tried.

* `Binary.ofFloat?` : sign and magnitude of a finite float.
* `Binary.shortest` : the fewest digits that read back, the nearest of those.
* `Binary.truncate`, `Binary.isNearlyWhole` : the whole part, and whether the rest is negligible.
-/

namespace Gamebook

/-- The magnitude `mantissa · 2^exponent` of a finite float. -/
structure Binary where
  mantissa : Nat
  exponent : Int
  /-- The next smaller float is only half as far away as the next greater one. -/
  narrowBelow : Bool := false
  deriving Repr, DecidableEq

/-- The number `digits · 10^exponent`. -/
structure Decimal where
  digits : Nat
  exponent : Int
  deriving Repr, DecidableEq

namespace Binary

/-- The sign (`true` for negative) of any float, read from its bits. -/
def signOf (x : Float) : Bool := x.toBits ≥ 0x8000000000000000

/-- The magnitude of a finite float; `none` for infinities and for what is not a number. -/
def ofFloat? (x : Float) : Option Binary :=
  let bits : Nat := x.toBits.toNat % 0x8000000000000000
  let biased : Nat := bits / 0x10000000000000
  let fraction : Nat := bits % 0x10000000000000
  if biased = 2047 then none
  else if biased = 0 then some ⟨fraction, -1074, false⟩
  else some ⟨fraction + 0x10000000000000, (biased : Int) - 1075, fraction = 0 && 1 < biased⟩

/-- `2 ^ k` where `k` is positive, else one. -/
private def twoTo (k : Int) : Nat := Nat.pow 2 k.toNat

private def tenTo (k : Int) : Nat := Nat.pow 10 k.toNat

/-- The part before the binary point. -/
def truncate (b : Binary) : Nat := b.mantissa * twoTo b.exponent / twoTo (-b.exponent)

/-- The part behind the binary point is smaller than `2^-52`. -/
def isNearlyWhole (b : Binary) : Bool :=
  let unit := twoTo (-b.exponent)
  (b.mantissa * twoTo b.exponent % unit) * 0x10000000000000 < unit

/-- Compares `c · 10^k` with `quarters · 2^(exponent - 2)`. -/
private def compareGrid (b : Binary) (c : Nat) (k : Int) (quarters : Nat) : Ordering :=
  compare (c * tenTo k * twoTo (2 - b.exponent))
    (quarters * twoTo (b.exponent - 2) * tenTo (-k))

/-- `c · 10^k` rounds to `b`. -/
def roundsTo (b : Binary) (c : Nat) (k : Int) : Bool :=
  let below := compareGrid b c k (4 * b.mantissa - if b.narrowBelow then 1 else 2)
  let above := compareGrid b c k (4 * b.mantissa + 2)
  let even := b.mantissa % 2 = 0
  (below = .gt || (even && below = .eq)) && (above = .lt || (even && above = .eq))

/-- The greatest `c` with `c · 10^k ≤ b`. -/
private def gridBelow (b : Binary) (k : Int) : Nat :=
  b.mantissa * twoTo b.exponent * tenTo (-k) / (twoTo (-b.exponent) * tenTo k)

/-- Of two neighbours `c` and `c + 1` on the grid `10^k`, the nearer one to `b`; `tieUp` decides an
exact tie, which otherwise goes to the even one. -/
private def nearer (b : Binary) (tieUp : Bool) (c : Nat) (k : Int) : Nat :=
  match compare ((2 * c + 1) * tenTo k * twoTo (-b.exponent))
      (2 * b.mantissa * twoTo b.exponent * tenTo (-k)) with
  | .lt => c + 1
  | .gt => c
  | .eq => if tieUp || c % 2 = 1 then c + 1 else c

/-- The decimal exponent of the leading digit, for a positive magnitude: the greatest `e` with
`10^e ≤ b`, found from `e` and the candidates above it. -/
private def leading (b : Binary) : Int :=
  let guess : Int := ((b.mantissa.log2 : Int) + b.exponent) * 30103 / 100000 - 1
  if gridBelow b (guess + 2) ≠ 0 then guess + 2
  else if gridBelow b (guess + 1) ≠ 0 then guess + 1
  else guess

/-- Tries the grids with `n`, `n + 1`, … digits, `fuel` of them. -/
private def search (b : Binary) (tieUp : Bool) (lead : Int) : Nat → Nat → Decimal
  | 0, n => ⟨gridBelow b (lead - n + 1), lead - n + 1⟩
  | fuel + 1, n =>
    let k := lead - n + 1
    let c := gridBelow b k
    match b.roundsTo c k, b.roundsTo (c + 1) k with
    | true, true => ⟨nearer b tieUp c k, k⟩
    | true, false => ⟨c, k⟩
    | false, true => ⟨c + 1, k⟩
    | false, false => search b tieUp lead fuel (n + 1)

/-- Moves the zeros at the end of the digits into the exponent. -/
private def dropZeros : Nat → Decimal → Decimal
  | 0, d => d
  | fuel + 1, d =>
    if d.digits ≠ 0 ∧ d.digits % 10 = 0 then dropZeros fuel ⟨d.digits / 10, d.exponent + 1⟩ else d

/-- The fewest digits that read back as `b`, and of those the nearest to `b`. -/
def shortest (b : Binary) (tieUp : Bool) : Decimal :=
  if b.mantissa = 0 then ⟨0, 0⟩ else dropZeros 18 (search b tieUp (leading b) 17 1)

end Binary

namespace Decimal

/-- The float nearest to the decimal. Exponents far outside the range of floats are cut off first,
so that no huge power is computed. -/
def toFloat (d : Decimal) : Float :=
  let size : Int := d.digits.log2
  if d.digits = 0 then 0.0
  else if 400 < d.exponent then Float.ofBits 0x7ff0000000000000
  else if d.exponent * 3 + size < -1100 then 0.0
  else Float.ofScientific d.digits (d.exponent < 0) d.exponent.natAbs

end Decimal

end Gamebook
