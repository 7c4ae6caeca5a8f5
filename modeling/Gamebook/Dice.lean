/-!
# Dice

A 32-bit generator, draws below a bound without bias, and sums of dice.

A raw draw is a function of the generator's state, and each draw moves the state by a fixed odd
step, so within `2^32` draws every state is passed once. `draw` takes raw draws until one lies below
the greatest multiple of the bound; the number of states bounds that search.

* `Dice.next` : one raw draw.
* `Dice.accept` : the first acceptable value of a stream of raw draws.
* `Dice.roll` : the sum of some rolls of one die.
-/

namespace Gamebook

namespace Dice

/-- What the state grows by with each raw draw. -/
def step : UInt32 := 0x6d2b79f5

/-- The number that a state stands for. -/
def scramble (state : UInt32) : UInt32 :=
  let a := (state ^^^ (state >>> 15)) * (state ||| 1)
  let b := a ^^^ (a + (a ^^^ (a >>> 7)) * (a ||| 61))
  b ^^^ (b >>> 14)

/-- One raw draw: its value and the state after it. -/
def next (state : UInt32) : UInt32 × UInt32 :=
  let moved := state + step
  (scramble moved, moved)

/-- The greatest multiple of the bound that is at most `2^32`. -/
def threshold (bound : UInt32) : Nat := 0x100000000 / bound.toNat * bound.toNat

/-- Takes raw values from a source until one lies below the threshold; gives its remainder, and
`none` if the source was asked `fuel` times in vain. -/
def accept {σ : Type} (source : σ → UInt32 × σ) (bound : UInt32) :
    Nat → σ → Option (UInt32 × σ)
  | 0, _ => none
  | fuel + 1, state =>
    let (candidate, after) := source state
    if candidate.toNat < threshold bound then some (candidate % bound, after)
    else accept source bound fuel after

/-- A value below a positive bound, every one equally likely. -/
def draw (bound : UInt32) (state : UInt32) : UInt32 × UInt32 :=
  (accept next bound 0x100000000 state).getD (0, state)

/-- The sum of `count` rolls, on top of `total`. A roll is one more than what is drawn for it. -/
def rollFrom (drawn : UInt32 → UInt32 × UInt32) : Nat → Nat → UInt32 → Nat × UInt32
  | 0, total, state => (total, state)
  | count + 1, total, state =>
    let (value, after) := drawn state
    rollFrom drawn count (total + (value.toNat + 1)) after

/-- The sum of `count` rolls of a die with `sides` sides. -/
def roll (count : Nat) (sides : UInt32) (state : UInt32) : Nat × UInt32 :=
  rollFrom (draw sides) count 0 state

/-- Why a dice helper refuses to work. -/
inductive Refusal where
  | sides (sides : Int64)
  | modifier (modifier : Int64)
  | bound
  deriving Repr, DecidableEq

/-- The wording of a refusal. -/
def Refusal.message : Refusal → String
  | sides n => "dice expects a positive number of sides, got " ++ toString n.toInt ++ "."
  | modifier n => "dice modifier " ++ toString n.toInt ++ " overflows the roll."
  | bound => "random(n) expects positive integer n."

/-- A number that a 64-bit integer can hold. -/
def int64? (n : Int) : Option Int64 :=
  if -0x8000000000000000 ≤ n ∧ n < 0x8000000000000000 then some (Int64.ofInt n) else none

/-- The number of sides or the bound, if it is positive and fits 32 bits. -/
def positive? (n : Int64) : Option UInt32 :=
  if 0 < n.toInt ∧ n.toInt < 0x100000000 then some (UInt32.ofNat n.toInt.toNat) else none

/-- The sum of `count` dice and a modifier. A negative count rolls nothing. -/
def checked (count sides modifier : Int64) (state : UInt32) : Except Refusal Int64 × UInt32 :=
  match positive? sides with
  | none => (.error (.sides sides), state)
  | some die =>
    let (total, after) := roll (min count.toInt.toNat 0xFFFFFFFF) die state
    match int64? (total + modifier.toInt) with
    | some n => (.ok n, after)
    | none => (.error (.modifier modifier), after)

/-- A number from zero up to below the bound. -/
def random (bound : Int64) (state : UInt32) : Except Refusal Int64 × UInt32 :=
  match positive? bound with
  | none => (.error .bound, state)
  | some b =>
    let (value, after) := draw b state
    (.ok (Int64.ofNat value.toNat), after)

end Dice

end Gamebook
