import Gamebook.Dice
import Mathlib.Data.Nat.Find
import Mathlib.Data.Set.Card

/-!
# Draws below a bound

A draw takes raw values until one lies below the threshold, and gives the remainder of that one.
Nothing counts down in this loop. It ends because the generator's state moves by an odd step: within
`2^32` raw values it passes every state, and the state zero stands for the raw value zero, which no
bound rejects. A draw is unbiased because the threshold is a multiple of the bound.

* `Dice.Draws` : the loop, without a limit, with the number of raw values it takes.
* `Dice.accept_eq_some_iff` : the first value below the threshold is taken, whatever the source.
* `Dice.exists_stateAfter_eq` : within `2^32` raw values the generator passes every state.
* `Dice.draw_ends` : a draw ends after at most `2^32` raw values, below the bound.
* `Dice.draws_unbiased` : the remainders of the accepted values are equally frequent.
-/

namespace Gamebook

namespace Dice

/-! ## Streams of raw values -/

section Source

variable {σ : Type} (source : σ → UInt32 × σ) (bound : UInt32)

/-- The state of the source after `n` raw values. -/
def stateAfter : Nat → σ → σ
  | 0, state => state
  | n + 1, state => stateAfter n (source state).2

/-- The raw value that the source gives after `n` others. -/
def rawAt (n : Nat) (state : σ) : UInt32 := (source (stateAfter source n state)).1

/-- Taking raw values until one lies below the threshold ends after some number of them. -/
inductive Draws : σ → Nat → UInt32 × σ → Prop where
  | takes {state : σ} (h : (source state).1.toNat < threshold bound) :
    Draws state 1 ((source state).1 % bound, (source state).2)
  | rejects {state : σ} {n : Nat} {result : UInt32 × σ}
    (h : threshold bound ≤ (source state).1.toNat) (rest : Draws (source state).2 n result) :
    Draws state (n + 1) result

/-- The raw value after `k` others is the first one below the threshold. -/
structure FirstBelow (k : Nat) (state : σ) : Prop where
  below : (rawAt source k state).toNat < threshold bound
  rejected : ∀ j < k, threshold bound ≤ (rawAt source j state).toNat

variable {source bound}

theorem firstBelow_zero {state : σ} :
    FirstBelow source bound 0 state ↔ (source state).1.toNat < threshold bound :=
  ⟨fun h => h.below, fun h => ⟨h, by intro j hj; omega⟩⟩

theorem firstBelow_succ {k : Nat} {state : σ} :
    FirstBelow source bound (k + 1) state ↔
      threshold bound ≤ (source state).1.toNat ∧ FirstBelow source bound k (source state).2 := by
  constructor
  · intro h
    exact ⟨h.rejected 0 (by omega), h.below, fun j hj => h.rejected (j + 1) (by omega)⟩
  · rintro ⟨hhead, h⟩
    refine ⟨h.below, fun j hj => ?_⟩
    cases j with
    | zero => exact hhead
    | succ j => exact h.rejected j (by omega)

/-- Some raw value below the threshold is the first one. -/
theorem exists_firstBelow {n : Nat} {state : σ}
    (h : (rawAt source n state).toNat < threshold bound) :
    ∃ k ≤ n, FirstBelow source bound k state := by
  have hsome : ∃ k, (rawAt source k state).toNat < threshold bound := ⟨n, h⟩
  refine ⟨Nat.find hsome, Nat.find_min' hsome h, Nat.find_spec hsome, fun j hj => ?_⟩
  exact Nat.le_of_not_lt (Nat.find_min hsome hj)

/-- The loop ends with the first raw value below the threshold, after as many as that takes. -/
theorem FirstBelow.draws {k : Nat} {state : σ} (h : FirstBelow source bound k state) :
    Draws source bound state (k + 1)
      (rawAt source k state % bound, stateAfter source (k + 1) state) := by
  induction k generalizing state with
  | zero => exact .takes (firstBelow_zero.mp h)
  | succ k ih =>
    obtain ⟨hhead, hrest⟩ := firstBelow_succ.mp h
    exact .rejects hhead (ih hrest)

/-- The loop takes all raw values up to the first one below the threshold, and no more. -/
theorem draws_iff {n : Nat} {state : σ} {result : UInt32 × σ} :
    Draws source bound state n result ↔
      ∃ k, n = k + 1 ∧ FirstBelow source bound k state ∧
        result = (rawAt source k state % bound, stateAfter source (k + 1) state) := by
  constructor
  · intro h
    induction h with
    | takes h => exact ⟨0, rfl, firstBelow_zero.mpr h, rfl⟩
    | rejects h _ ih =>
      obtain ⟨k, rfl, hk, rfl⟩ := ih
      exact ⟨k + 1, rfl, firstBelow_succ.mpr ⟨h, hk⟩, rfl⟩
  · rintro ⟨k, rfl, hk, rfl⟩
    exact hk.draws

theorem accept_succ (fuel : Nat) (state : σ) :
    accept source bound (fuel + 1) state =
      if (source state).1.toNat < threshold bound then
        some ((source state).1 % bound, (source state).2)
      else accept source bound fuel (source state).2 := rfl

/-- A search of limited length gives what the loop gives, if the loop ends in that many steps. -/
theorem accept_eq_some_iff {fuel : Nat} {state : σ} {result : UInt32 × σ} :
    accept source bound fuel state = some result ↔
      ∃ n ≤ fuel, Draws source bound state n result := by
  induction fuel generalizing state with
  | zero =>
    constructor
    · rintro ⟨⟩
    · rintro ⟨n, hn, h⟩
      cases h <;> omega
  | succ fuel ih =>
    rw [accept_succ]
    by_cases h : (source state).1.toNat < threshold bound
    · rw [if_pos h, Option.some_inj]
      constructor
      · rintro rfl
        exact ⟨1, by omega, .takes h⟩
      · rintro ⟨n, -, hn⟩
        cases hn with
        | takes _ => rfl
        | rejects hle _ => omega
    · rw [if_neg h, ih]
      constructor
      · rintro ⟨n, hn, hrest⟩
        exact ⟨n + 1, by omega, .rejects (by omega) hrest⟩
      · rintro ⟨n, hn, hdraws⟩
        cases hdraws with
        | takes hlt => exact absurd hlt h
        | rejects _ hrest => exact ⟨_, by omega, hrest⟩

end Source

/-! ## The period of the generator -/

/-- Each raw value moves the state by one step. -/
theorem stateAfter_next (n : Nat) (state : UInt32) :
    stateAfter next n state = state + UInt32.ofNat n * step := by
  induction n generalizing state with
  | zero => simp [stateAfter]
  | succ n ih =>
    rw [stateAfter, ih, UInt32.ofNat_add]
    simp only [next]
    grind

/-- What the step, which is odd, is multiplied with to give one. -/
def stepInverse : UInt32 := 0xdc58aa5d

theorem stepInverse_mul_step : stepInverse * step = 1 := by decide

/-- Within `2^32` raw values the generator passes every state. -/
theorem exists_stateAfter_eq (state target : UInt32) :
    ∃ n < 2 ^ 32, stateAfter next (n + 1) state = target := by
  let turns : UInt32 := (target - state) * stepInverse - 1
  refine ⟨turns.toNat, turns.toNat_lt, ?_⟩
  have hturns : UInt32.ofNat (turns.toNat + 1) = (target - state) * stepInverse := by
    rw [UInt32.ofNat_add, UInt32.ofNat_toNat]
    grind
  have hinverse := stepInverse_mul_step
  rw [stateAfter_next, hturns]
  grind

/-- The state zero stands for the raw value zero. -/
theorem scramble_zero : scramble 0 = 0 := by decide

/-! ## The threshold -/

section Threshold

variable {bound : UInt32}

theorem threshold_eq (bound : UInt32) :
    threshold bound = 2 ^ 32 / bound.toNat * bound.toNat := rfl

theorem threshold_le (bound : UInt32) : threshold bound ≤ 2 ^ 32 := Nat.div_mul_le_self _ _

theorem threshold_add_mod (bound : UInt32) :
    threshold bound + 2 ^ 32 % bound.toNat = 2 ^ 32 := by
  rw [threshold_eq, Nat.mul_comm]
  exact Nat.div_add_mod _ _

theorem threshold_pos (hb : 0 < bound) : 0 < threshold bound := by
  have hpos : 0 < bound.toNat := hb
  exact Nat.mul_pos (Nat.div_pos bound.toNat_lt.le hpos) hpos

/-- The threshold as words of 64 bits compute it. -/
def thresholdWord (bound : UInt32) : UInt64 :=
  ((0xFFFFFFFF : UInt32).toUInt64 + 1) / bound.toUInt64 * bound.toUInt64

/-- No step of computing the threshold leaves 64 bits. -/
theorem toNat_thresholdWord (bound : UInt32) : (thresholdWord bound).toNat = threshold bound := by
  have hall : ((0xFFFFFFFF : UInt32).toUInt64 + 1).toNat = 2 ^ 32 := rfl
  rw [thresholdWord, UInt64.toNat_mul, UInt64.toNat_div, UInt32.toNat_toUInt64, hall,
    ← threshold_eq]
  exact Nat.mod_eq_of_lt ((threshold_le bound).trans_lt (by decide))

/-- The members of a set of words are numbered from zero up. -/
theorem ncard_of_numbering {words : Set UInt32} {count : Nat} (number : Nat → Nat)
    (hlt : ∀ i < count, number i < 2 ^ 32)
    (hinj : ∀ i < count, ∀ j < count, number i = number j → i = j)
    (hmem : ∀ word, word ∈ words ↔ ∃ i < count, number i = word.toNat) : words.ncard = count := by
  have hnumber : ∀ i < count, (UInt32.ofNat (number i)).toNat = number i :=
    fun i hi => UInt32.toNat_ofNat_of_lt (hlt i hi)
  have himage : words = ((Finset.range count).image fun i => UInt32.ofNat (number i)) := by
    ext word
    simp only [hmem, Finset.coe_image, Set.mem_image, Finset.coe_range, Set.mem_Iio]
    constructor
    · rintro ⟨i, hi, hword⟩
      exact ⟨i, hi, by rw [hword, UInt32.ofNat_toNat]⟩
    · rintro ⟨i, hi, rfl⟩
      exact ⟨i, hi, (hnumber i hi).symm⟩
  rw [himage, Set.ncard_coe_finset, Finset.card_image_of_injOn, Finset.card_range]
  intro i hi j hj hij
  have hi' := Finset.mem_range.mp hi
  have hj' := Finset.mem_range.mp hj
  refine hinj i hi' j hj' ?_
  rw [← hnumber i hi', ← hnumber j hj']
  exact congrArg UInt32.toNat hij

/-- Below the threshold each remainder occurs once in every stretch as long as the bound. -/
theorem ncard_accepted {residue : UInt32} (h : residue < bound) :
    {raw : UInt32 | raw.toNat < threshold bound ∧ raw % bound = residue}.ncard =
      2 ^ 32 / bound.toNat := by
  have hresidue : residue.toNat < bound.toNat := h
  have hle := threshold_le bound
  -- A stretch below the threshold ends below it.
  have hstretch : ∀ i < 2 ^ 32 / bound.toNat,
      i * bound.toNat + residue.toNat < threshold bound := by
    intro i hi
    have hnext := Nat.mul_le_mul_right bound.toNat (Nat.succ_le_of_lt hi)
    rw [Nat.succ_mul, ← threshold_eq] at hnext
    omega
  refine ncard_of_numbering (fun i => i * bound.toNat + residue.toNat) ?_ ?_ ?_
  · intro i hi
    exact (hstretch i hi).trans_le hle
  · intro i _ j _ hij
    exact Nat.eq_of_mul_eq_mul_right (by omega) (Nat.add_right_cancel hij)
  · intro raw
    rw [Set.mem_ofPred_eq, ← UInt32.toNat_inj, UInt32.toNat_mod]
    constructor
    · rintro ⟨hlt, hmod⟩
      rw [threshold_eq, Nat.mul_comm] at hlt
      refine ⟨raw.toNat / bound.toNat, Nat.div_lt_of_lt_mul hlt, ?_⟩
      rw [← hmod, Nat.mul_comm]
      exact Nat.div_add_mod _ _
    · rintro ⟨i, hi, hraw⟩
      refine ⟨hraw ▸ hstretch i hi, ?_⟩
      rw [← hraw, Nat.mul_comm, Nat.mul_add_mod, Nat.mod_eq_of_lt hresidue]

theorem ncard_rejected (bound : UInt32) :
    {raw : UInt32 | threshold bound ≤ raw.toNat}.ncard = 2 ^ 32 % bound.toNat := by
  have hsum := threshold_add_mod bound
  refine ncard_of_numbering (fun i => threshold bound + i) (by omega) (by omega) ?_
  intro raw
  have hlt := raw.toNat_lt
  rw [Set.mem_ofPred_eq]
  constructor
  · intro hle
    exact ⟨raw.toNat - threshold bound, by omega, by omega⟩
  · rintro ⟨i, -, hraw⟩
    omega

/-- Less than half of all raw values are rejected. -/
theorem mod_lt_half (hb : 0 < bound) : 2 ^ 32 % bound.toNat < 2 ^ 31 := by
  have hpos : 0 < bound.toNat := hb
  have hlt := bound.toNat_lt
  by_cases hhalf : bound.toNat ≤ 2 ^ 31
  · exact (Nat.mod_lt _ hpos).trans_le hhalf
  · rw [Nat.mod_eq_sub_mod (by omega), Nat.mod_eq_of_lt (by omega)]
    omega

end Threshold

/-! ## Draws end, and are unbiased -/

variable {bound : UInt32}

/-- The generator comes to the raw value zero. -/
theorem exists_rawAt_eq_zero (state : UInt32) : ∃ n < 2 ^ 32, rawAt next n state = 0 := by
  obtain ⟨n, hn, hzero⟩ := exists_stateAfter_eq state 0
  have hmoved : stateAfter next n state + step = 0 := by
    rw [← hzero, stateAfter_next, stateAfter_next, UInt32.ofNat_add]
    grind
  refine ⟨n, hn, ?_⟩
  rw [rawAt, next]
  simp only [hmoved, scramble_zero]

/-- A draw gives the remainder of the first raw value below the threshold. -/
theorem draw_eq (state : UInt32) (hb : 0 < bound) :
    ∃ k < 2 ^ 32, FirstBelow next bound k state ∧
      draw bound state = (rawAt next k state % bound, stateAfter next (k + 1) state) := by
  obtain ⟨n, hn, hzero⟩ := exists_rawAt_eq_zero state
  have hbelow : (rawAt next n state).toNat < threshold bound := by
    rw [hzero]
    exact threshold_pos hb
  obtain ⟨k, hk, hfirst⟩ := exists_firstBelow hbelow
  refine ⟨k, by omega, hfirst, ?_⟩
  rw [draw, accept_eq_some_iff.mpr ⟨k + 1, by omega, hfirst.draws⟩, Option.getD_some]

theorem draw_lt (state : UInt32) (hb : 0 < bound) : (draw bound state).1 < bound := by
  obtain ⟨k, -, -, heq⟩ := draw_eq state hb
  rw [heq]
  exact UInt32.mod_lt _ hb

/-- A draw below a positive bound ends after at most `2^32` raw values, with a value below the
bound. -/
theorem draw_ends (bound state : UInt32) (hb : 0 < bound) :
    ∃ n ≤ 2 ^ 32, Draws next bound state n (draw bound state) ∧ (draw bound state).1 < bound := by
  obtain ⟨k, hk, hfirst, heq⟩ := draw_eq state hb
  exact ⟨k + 1, hk, heq ▸ hfirst.draws, draw_lt state hb⟩

/-- A bound for which nearly half of the raw values are rejected: from the state 11 it takes seven
of them. -/
theorem draw_ends_overHalf :
    (0 : UInt32) < 0x80000001 ∧
      ∃ n ≤ 2 ^ 32, Draws next 0x80000001 11 n (draw 0x80000001 11) ∧
        (draw 0x80000001 11).1 < 0x80000001 :=
  ⟨by decide, draw_ends 0x80000001 11 (by decide)⟩

/-- Drawing below a bound favours no value. -/
structure Unbiased (bound : UInt32) : Prop where
  /-- The loop gives the remainder of the first raw value below the threshold. -/
  first : ∀ {σ : Type} (source : σ → UInt32 × σ) (state : σ) (n : Nat) (result : UInt32 × σ),
    Draws source bound state n result ↔
      ∃ k, n = k + 1 ∧ FirstBelow source bound k state ∧
        result = (rawAt source k state % bound, stateAfter source (k + 1) state)
  /-- A search of limited length gives what the loop gives, if the loop ends in that many steps. -/
  search : ∀ {σ : Type} (source : σ → UInt32 × σ) (state : σ) (fuel : Nat) (result : UInt32 × σ),
    accept source bound fuel state = some result ↔
      ∃ n ≤ fuel, Draws source bound state n result
  /-- Each remainder belongs to as many accepted raw values as any other. -/
  even : ∀ residue < bound,
    {raw : UInt32 | raw.toNat < threshold bound ∧ raw % bound = residue}.ncard =
      2 ^ 32 / bound.toNat
  /-- Fewer raw values are rejected than there are values below the bound. -/
  few : {raw : UInt32 | threshold bound ≤ raw.toNat}.ncard < bound.toNat
  /-- Less than half of all raw values are rejected. -/
  minority : {raw : UInt32 | threshold bound ≤ raw.toNat}.ncard < 2 ^ 31
  /-- The threshold is computed without leaving 64 bits. -/
  fits : (thresholdWord bound).toNat = threshold bound ∧ threshold bound ≤ 2 ^ 32

/-- Draws below any positive bound are unbiased. -/
theorem draws_unbiased (bound : UInt32) (hb : 0 < bound) : Unbiased bound where
  first _ _ _ _ := draws_iff
  search _ _ _ _ := accept_eq_some_iff
  even _ hresidue := ncard_accepted hresidue
  few := by
    rw [ncard_rejected]
    exact Nat.mod_lt _ hb
  minority := by
    rw [ncard_rejected]
    exact mod_lt_half hb
  fits := ⟨toNat_thresholdWord bound, threshold_le bound⟩

/-- Of all raw values only one is rejected for the greatest bound. -/
theorem draws_unbiased_greatest :
    (0 : UInt32) < 0xFFFFFFFF ∧ Unbiased 0xFFFFFFFF ∧ threshold 0xFFFFFFFF = 0xFFFFFFFF :=
  ⟨by decide, draws_unbiased 0xFFFFFFFF (by decide), by decide⟩

example :
    accept (fun raws : List UInt32 => (raws.headD 0, raws.tail)) 10 2 [0xFFFFFFFF, 42] =
      some (2, []) := by decide

end Dice

end Gamebook
