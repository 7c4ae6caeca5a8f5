import Gamebook.Proofs.Dice.Draws
import Mathlib.Algebra.Group.Action.Defs
import Mathlib.Algebra.Order.BigOperators.Group.List

/-!
# Totals of dice

The total of some dice is the sum of their rolls, each of which is a draw of its own. As long as the
greatest total fits 64 bits, so does every sum on the way, and a throw is refused only for its
number of sides or because the modifier takes the total out of range.

* `Dice.rolls` : the single rolls, and the state after them.
* `Dice.rolls_add` : rolling on continues the rolls.
* `Dice.checked_cases` : what a throw answers, from its rolls.
* `Dice.checked_totals` : totals, their range, and throws in two parts.
-/

namespace Gamebook

namespace Dice

/-! ## Single rolls -/

/-- What `count` rolls show one after the other, and the state after them. -/
def shown (drawn : UInt32 → UInt32 × UInt32) : Nat → UInt32 → List Nat × UInt32
  | 0, state => ([], state)
  | count + 1, state =>
    let rest := shown drawn count (drawn state).2
    (((drawn state).1.toNat + 1) :: rest.1, rest.2)

/-- What `count` dice show one after the other, and the state after them. -/
def rolls (die : UInt32) (count : Nat) (state : UInt32) : List Nat × UInt32 :=
  shown (draw die) count state

theorem rollFrom_eq (drawn : UInt32 → UInt32 × UInt32) (count total : Nat) (state : UInt32) :
    rollFrom drawn count total state =
      (total + (shown drawn count state).1.sum, (shown drawn count state).2) := by
  induction count generalizing total state with
  | zero => rfl
  | succ count ih =>
    rw [rollFrom, shown]
    obtain ⟨value, after⟩ := drawn state
    simp only [ih, List.sum_cons, Nat.add_assoc]

section Rolls

variable {die : UInt32}

/-- A total is the sum of the single rolls. -/
theorem roll_eq (count : Nat) (state : UInt32) :
    roll count die state = ((rolls die count state).1.sum, (rolls die count state).2) := by
  rw [roll, rollFrom_eq, Nat.zero_add, rolls]

theorem rolls_succ (count : Nat) (state : UInt32) :
    rolls die (count + 1) state =
      (((draw die state).1.toNat + 1) :: (rolls die count (draw die state).2).1,
        (rolls die count (draw die state).2).2) := by
  rw [rolls, shown, rolls]

theorem length_rolls (count : Nat) (state : UInt32) :
    (rolls die count state).1.length = count := by
  induction count generalizing state with
  | zero => rfl
  | succ count ih => rw [rolls_succ, List.length_cons, ih]

/-- A die shows one of its sides. -/
theorem mem_rolls (hdie : 0 < die) {count : Nat} {state : UInt32} {face : Nat}
    (h : face ∈ (rolls die count state).1) : 1 ≤ face ∧ face ≤ die.toNat := by
  induction count generalizing state with
  | zero => cases h
  | succ count ih =>
    rw [rolls_succ] at h
    cases h with
    | head =>
      have hlt : (draw die state).1.toNat < die.toNat := draw_lt state hdie
      omega
    | tail _ h => exact ih h

/-- Rolling on continues the rolls where the first ones have left off. -/
theorem rolls_add (first second : Nat) (state : UInt32) :
    rolls die (first + second) state =
      ((rolls die first state).1 ++ (rolls die second (rolls die first state).2).1,
        (rolls die second (rolls die first state).2).2) := by
  induction first generalizing state with
  | zero => rw [Nat.zero_add]; rfl
  | succ first ih =>
    rw [Nat.succ_add, rolls_succ, rolls_succ, ih]
    rfl

/-- Some rolls of a die, with the least and the greatest sum they can have. -/
theorem sum_rolls (hdie : 0 < die) (count : Nat) (state : UInt32) :
    count ≤ (rolls die count state).1.sum ∧ (rolls die count state).1.sum ≤ count * die.toNat := by
  have hlower := List.card_nsmul_le_sum (rolls die count state).1 1
    (fun face h => (mem_rolls hdie h).1)
  have hupper := List.sum_le_card_nsmul (rolls die count state).1 die.toNat
    (fun face h => (mem_rolls hdie h).2)
  rw [length_rolls, smul_eq_mul] at hlower hupper
  exact ⟨by omega, hupper⟩

/-- On the way to a total no sum is greater than the greatest total. -/
theorem sum_take_rolls (hdie : 0 < die) (count rolled : Nat) (state : UInt32) :
    ((rolls die count state).1.take rolled).sum ≤ count * die.toNat :=
  ((List.take_sublist _ _).sum_le_sum (fun _ _ => Nat.zero_le _)).trans
    (sum_rolls hdie count state).2

end Rolls

/-! ## Throws -/

/-- The number of dice that a count asks for. -/
def diceOf (count : Int64) : Nat := (max 0 (min count.toInt 0xFFFFFFFF)).toNat

theorem int64?_eq (n : Int) :
    int64? n = if -2 ^ 63 ≤ n ∧ n < 2 ^ 63 then some (Int64.ofInt n) else none := rfl

theorem positive?_eq_none_iff (n : Int64) :
    positive? n = none ↔ ¬(1 ≤ n.toInt ∧ n.toInt ≤ 0xFFFFFFFF) := by
  rw [positive?]
  split <;> simp <;> omega

theorem positive?_eq_some {n : Int64} {word : UInt32} (hpos : 0 < word)
    (h : n.toInt = word.toNat) : positive? n = some word := by
  have hpos' : 0 < word.toNat := hpos
  have hlt := word.toNat_lt
  rw [positive?, if_pos (by omega), h, Int.toNat_natCast, UInt32.ofNat_toNat]

/-- What a throw answers, from its rolls: their sum with the modifier, or a refusal if 64 bits
cannot hold that. -/
theorem checked_cases (count modifier : Int64) {sides : Int64} {die : UInt32} (hdie : 0 < die)
    (hsides : sides.toInt = die.toNat) (state : UInt32) :
    (∃ total : Int64, total.toInt = (rolls die (diceOf count) state).1.sum + modifier.toInt ∧
      checked count sides modifier state = (.ok total, (rolls die (diceOf count) state).2)) ∨
    (¬(-2 ^ 63 ≤ (rolls die (diceOf count) state).1.sum + modifier.toInt ∧
        (rolls die (diceOf count) state).1.sum + modifier.toInt < 2 ^ 63) ∧
      checked count sides modifier state =
        (.error (.modifier modifier), (rolls die (diceOf count) state).2)) := by
  have hcount : min count.toInt.toNat 0xFFFFFFFF = diceOf count := by
    rw [diceOf]
    omega
  rw [checked, positive?_eq_some hdie hsides]
  simp only [hcount, roll_eq]
  generalize (rolls die (diceOf count) state).1.sum + modifier.toInt = sum
  by_cases h : -2 ^ 63 ≤ sum ∧ sum < 2 ^ 63
  · exact .inl ⟨Int64.ofInt sum, Int64.toInt_ofInt_of_le h.1 h.2, by rw [int64?_eq, if_pos h]⟩
  · exact .inr ⟨h, by rw [int64?_eq, if_neg h]⟩

/-- What a throw of `count` dice comes to. -/
structure Totals (die : UInt32) (count : Nat) (modifier : Int64) (state : UInt32)
    (answer : Except Refusal Int64 × UInt32) : Prop where
  /-- There are as many rolls as dice. -/
  number : (rolls die count state).1.length = count
  /-- Each roll shows one of the sides. -/
  faces : ∀ face ∈ (rolls die count state).1, 1 ≤ face ∧ face ≤ die.toNat
  /-- The sum of the rolls, and every sum on the way, fits 64 bits. -/
  sums : ∀ rolled, ((rolls die count state).1.take rolled).sum < 2 ^ 63
  /-- The throw leaves the state behind its rolls. -/
  after : answer.2 = (rolls die count state).2
  /-- The answer is the sum of the rolls and the modifier. -/
  answers : ∀ total : Int64,
    answer.1 = .ok total ↔ total.toInt = (rolls die count state).1.sum + modifier.toInt
  /-- There is no answer exactly if 64 bits cannot hold it. -/
  refuses : answer.1 = .error (.modifier modifier) ↔
    ¬(-2 ^ 63 ≤ (rolls die count state).1.sum + modifier.toInt ∧
      (rolls die count state).1.sum + modifier.toInt < 2 ^ 63)
  /-- The answer lies between the least and the greatest total. -/
  range : ∀ total : Int64, answer.1 = .ok total →
    count + modifier.toInt ≤ total.toInt ∧ total.toInt ≤ count * die.toNat + modifier.toInt

section Throws

variable {count sides modifier : Int64} {die : UInt32}

theorem totals_checked (hdie : 0 < die) (hsides : sides.toInt = die.toNat)
    (hfits : diceOf count * die.toNat < 2 ^ 63) (state : UInt32) :
    Totals die (diceOf count) modifier state (checked count sides modifier state) := by
  obtain ⟨hleast, hgreatest⟩ := sum_rolls hdie (diceOf count) state
  have hnumber : (rolls die (diceOf count) state).1.length = diceOf count := length_rolls _ _
  have hfaces : ∀ face ∈ (rolls die (diceOf count) state).1, 1 ≤ face ∧ face ≤ die.toNat :=
    fun _ hface => mem_rolls hdie hface
  have hsums : ∀ rolled, ((rolls die (diceOf count) state).1.take rolled).sum < 2 ^ 63 :=
    fun rolled => (sum_take_rolls hdie _ rolled state).trans_lt hfits
  obtain ⟨answer, hanswer, heq⟩ | ⟨hout, heq⟩ := checked_cases count modifier hdie hsides state
  · have hanswers : ∀ total : Int64, answer = total ↔
        total.toInt = (rolls die (diceOf count) state).1.sum + modifier.toInt := by
      intro total
      rw [← hanswer, ← Int64.toInt_inj, eq_comm]
    have hlow := answer.le_toInt
    have hhigh := answer.toInt_lt
    rw [heq]
    refine ⟨hnumber, hfaces, hsums, rfl, fun total => ?_, ?_, fun total htotal => ?_⟩
    · rw [Except.ok.injEq, hanswers]
    · simp only [reduceCtorEq, false_iff, not_not]
      omega
    · rw [(hanswers total).mp (Except.ok.inj htotal)]
      omega
  · rw [heq]
    refine ⟨hnumber, hfaces, hsums, rfl, fun total => ?_, ?_, fun total htotal => ?_⟩
    · have hlow := total.le_toInt
      have hhigh := total.toInt_lt
      simp only [reduceCtorEq, false_iff]
      omega
    · simp only [true_iff]
      exact hout
    · cases htotal

/-- A throw without a modifier answers the sum of its rolls. -/
theorem checked_plain (hdie : 0 < die) (hsides : sides.toInt = die.toNat)
    (hfits : diceOf count * die.toNat < 2 ^ 63) (state : UInt32) :
    checked count sides 0 state =
      (.ok (Int64.ofInt (rolls die (diceOf count) state).1.sum),
        (rolls die (diceOf count) state).2) := by
  have hgreatest := (sum_rolls hdie (diceOf count) state).2
  obtain ⟨answer, hanswer, heq⟩ | ⟨hout, -⟩ := checked_cases count 0 hdie hsides state
  · rw [Int64.toInt_zero, Int.add_zero] at hanswer
    rw [heq, ← hanswer, Int64.ofInt_toInt]
  · rw [Int64.toInt_zero] at hout
    omega

theorem diceOf_add {first second : Int64} (hfirst : 0 ≤ first.toInt) (hsecond : 0 ≤ second.toInt)
    (h : first.toInt + second.toInt ≤ 0xFFFFFFFF) :
    diceOf (first + second) = diceOf first + diceOf second := by
  have hadd : (first + second).toInt = first.toInt + second.toInt := by
    rw [Int64.toInt_add]
    exact Int.bmod_eq_of_le (by omega) (by omega)
  simp only [diceOf, hadd]
  omega

/-- Throwing some dice and then some more comes to what throwing all of them at once comes to. -/
theorem checked_add {first second : Int64} (hdie : 0 < die) (hsides : sides.toInt = die.toNat)
    (hfirst : 0 ≤ first.toInt) (hsecond : 0 ≤ second.toInt)
    (hcount : first.toInt + second.toInt ≤ 0xFFFFFFFF)
    (hfits : diceOf (first + second) * die.toNat < 2 ^ 63) (state : UInt32) :
    ∃ one two middle last, checked first sides 0 state = (.ok one, middle) ∧
      checked second sides 0 middle = (.ok two, last) ∧
      checked (first + second) sides 0 state = (.ok (one + two), last) := by
  have hdice := diceOf_add hfirst hsecond hcount
  have hparts := hfits
  rw [hdice, Nat.add_mul] at hparts
  refine ⟨_, _, _, _, checked_plain hdie hsides (by omega) state,
    checked_plain hdie hsides (by omega) _, ?_⟩
  rw [checked_plain hdie hsides hfits, hdice, rolls_add, List.sum_append, Nat.cast_add,
    Int64.ofInt_add]

end Throws

/-- A throw is refused, with the state as it is, if a die cannot have that many sides. Else its
answer is the sum of its rolls and the modifier, as long as the greatest total fits 64 bits. Rolling
on after some rolls, and throwing on after a throw, comes to the same as all at once. -/
theorem checked_totals (count sides modifier : Int64) (state : UInt32) :
    (¬(1 ≤ sides.toInt ∧ sides.toInt ≤ 0xFFFFFFFF) →
      checked count sides modifier state = (.error (.sides sides), state)) ∧
    (∀ die : UInt32, 0 < die → sides.toInt = die.toNat → diceOf count * die.toNat < 2 ^ 63 →
      Totals die (diceOf count) modifier state (checked count sides modifier state)) ∧
    (∀ (die : UInt32) (first second : Nat),
      roll (first + second) die state =
        ((roll first die state).1 + (roll second die (roll first die state).2).1,
          (roll second die (roll first die state).2).2)) ∧
    ∀ (die : UInt32) (first second : Int64), 0 < die → sides.toInt = die.toNat →
      0 ≤ first.toInt → 0 ≤ second.toInt → first.toInt + second.toInt ≤ 0xFFFFFFFF →
      diceOf (first + second) * die.toNat < 2 ^ 63 →
      ∃ one two middle last, checked first sides 0 state = (.ok one, middle) ∧
        checked second sides 0 middle = (.ok two, last) ∧
        checked (first + second) sides 0 state = (.ok (one + two), last) := by
  refine ⟨fun h => ?_, fun die hdie hsides hfits => totals_checked hdie hsides hfits state,
    fun die first second => ?_, fun die first second hdie hsides hfirst hsecond hcount hfits =>
      checked_add hdie hsides hfirst hsecond hcount hfits state⟩
  · rw [checked, (positive?_eq_none_iff sides).mpr h]
  · simp only [roll_eq, rolls_add, List.sum_append]

/-- A die without sides, three dice with a modifier, and three dice in two throws. -/
theorem checked_totals_threeDice :
    checked 3 0 5 11 = (.error (.sides 0), 11) ∧
      Totals 6 (diceOf 3) (-2) 11 (checked 3 6 (-2) 11) ∧
      ∃ one two middle last, checked 2 6 0 11 = (.ok one, middle) ∧
        checked 1 6 0 middle = (.ok two, last) ∧ checked 3 6 0 11 = (.ok (one + two), last) :=
  ⟨(checked_totals 3 0 5 11).1 (by decide),
    (checked_totals 3 6 (-2) 11).2.1 6 (by decide) (by decide) (by decide),
    (checked_totals 2 6 0 11).2.2.2 6 2 1 (by decide) (by decide) (by decide) (by decide)
      (by decide) (by decide)⟩

example : (checked 1 6 9223372036854775807 1).1 = .error (.modifier 9223372036854775807) := by
  decide +kernel

end Dice

end Gamebook
