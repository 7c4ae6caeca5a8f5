import Mathlib.Algebra.Order.Ring.Int

/-!
# Whole numbers as floats

A float has 53 significant bits, so a whole number of more bits becomes the nearest one that has no
more, and the even one of two. `Binary.nearest` computes that number; two whole numbers are equal as
floats exactly if it is the same for both.

The native float is described by its unpacked form: a sign, a mantissa and an exponent. `Stands`
says for which whole number such a form stands; it is kept by packing, and every whole number of at
most 64 bits becomes a form that stands for the nearest one.

* `Binary.nearest` : the whole number that the nearest float stands for.
* `Binary.stands_ofInt` : the float of a whole number stands for the nearest one.
* `Binary.ofInt_beq_iff` : two whole numbers are equal as floats.
* `Binary.nearest_eq_iff_of_lt` : below `2^53` floats keep whole numbers apart.
-/

namespace Gamebook

namespace Binary

/-! ## Rounding to 53 bits -/

/-- `m / 2 ^ bits`, rounded to the nearest whole number, and to the even one of two. -/
def roundedQuotient (m bits : Nat) : Nat :=
  let quotient := m / 2 ^ bits
  let rest := m % 2 ^ bits
  if 2 * rest < 2 ^ bits then quotient
  else if 2 ^ bits < 2 * rest then quotient + 1
  else quotient + quotient % 2

/-- The number of bits that a float has no room for. -/
def surplus (m : Nat) : Nat := m.log2 - 52

/-- The magnitude of the float nearest to a magnitude. -/
def nearestMagnitude (m : Nat) : Nat := roundedQuotient m (surplus m) * 2 ^ surplus m

/-- The whole number that the float nearest to a whole number stands for. -/
def nearest (n : Int) : Int := n.sign * nearestMagnitude n.natAbs

theorem roundedQuotient_zero (m : Nat) : roundedQuotient m 0 = m := by
  simp [roundedQuotient, Nat.mod_one]

/-- Rounding gives one of the two neighbours. -/
theorem roundedQuotient_bounds (m bits : Nat) :
    m / 2 ^ bits ≤ roundedQuotient m bits ∧ roundedQuotient m bits ≤ m / 2 ^ bits + 1 := by
  unfold roundedQuotient
  dsimp only
  split
  · omega
  · split <;> omega

/-- Zeros at the end of the binary digits do not matter. -/
theorem roundedQuotient_shift (m bits zeros : Nat) :
    roundedQuotient (m * 2 ^ zeros) (bits + zeros) = roundedQuotient m bits := by
  have hpos : 0 < 2 ^ zeros := Nat.two_pow_pos zeros
  have hlt : ∀ a b : Nat, 2 * (a * 2 ^ zeros) < b * 2 ^ zeros ↔ 2 * a < b := by
    intro a b
    rw [← Nat.mul_assoc, Nat.mul_lt_mul_right hpos]
  have hgt : ∀ a b : Nat, b * 2 ^ zeros < 2 * (a * 2 ^ zeros) ↔ b < 2 * a := by
    intro a b
    rw [← Nat.mul_assoc, Nat.mul_lt_mul_right hpos]
  unfold roundedQuotient
  dsimp only
  rw [Nat.pow_add, Nat.mul_div_mul_right _ _ hpos, Nat.mul_mod_mul_right]
  simp only [hlt, hgt]

/-- A number divided by its surplus bits has 53 bits. -/
theorem div_two_pow_bounds {m bits : Nat} (h : m.log2 = 52 + bits) :
    2 ^ 52 ≤ m / 2 ^ bits ∧ m / 2 ^ bits < 2 ^ 53 := by
  have hm : m ≠ 0 := by
    rintro rfl
    simp at h
    omega
  have hlow := Nat.log2_self_le hm
  have hhigh := Nat.lt_log2_self (n := m)
  rw [h] at hlow hhigh
  have hpos : 0 < 2 ^ bits := Nat.two_pow_pos bits
  constructor
  · rw [Nat.le_div_iff_mul_le hpos, ← Nat.pow_add]
    exact hlow
  · rw [Nat.div_lt_iff_lt_mul hpos, ← Nat.pow_add]
    exact hhigh.trans_le (Nat.pow_le_pow_right (by decide) (by omega))

theorem surplus_eq_zero {m : Nat} (h : m < 2 ^ 53) : surplus m = 0 := by
  rw [surplus, Nat.sub_eq_zero_iff_le]
  by_cases hm : m = 0
  · simp [hm]
  · exact Nat.le_of_lt_succ ((Nat.log2_lt hm).mpr h)

/-- A number of at most 53 bits is left as it is. -/
theorem nearestMagnitude_of_lt {m : Nat} (h : m < 2 ^ 53) : nearestMagnitude m = m := by
  rw [nearestMagnitude, surplus_eq_zero h, roundedQuotient_zero, Nat.pow_zero, Nat.mul_one]

/-- A number of more than 53 bits is not rounded to one of at most 53. -/
theorem le_nearestMagnitude {m : Nat} (h : 2 ^ 53 ≤ m) : 2 ^ 53 ≤ nearestMagnitude m := by
  have hlog : 53 ≤ m.log2 := (Nat.le_log2 (by omega)).mpr h
  obtain ⟨hlow, -⟩ := div_two_pow_bounds (show m.log2 = 52 + surplus m by rw [surplus]; omega)
  obtain ⟨hfloor, -⟩ := roundedQuotient_bounds m (surplus m)
  have hunit : 2 ^ 1 ≤ 2 ^ surplus m :=
    Nat.pow_le_pow_right (by decide) (by rw [surplus]; omega)
  rw [nearestMagnitude]
  exact (show 2 ^ 53 = 2 ^ 52 * 2 ^ 1 by rfl) ▸ Nat.mul_le_mul (hlow.trans hfloor) hunit

theorem natAbs_nearest (n : Int) : (nearest n).natAbs = nearestMagnitude n.natAbs := by
  rw [nearest, Int.natAbs_mul, Int.natAbs_natCast]
  by_cases hn : n = 0
  · simp [hn, nearestMagnitude_of_lt]
  · rw [Int.natAbs_sign_of_ne_zero hn, Nat.one_mul]

theorem nearest_of_lt {n : Int} (h : n.natAbs < 2 ^ 53) : nearest n = n := by
  rw [nearest, nearestMagnitude_of_lt h, Int.sign_mul_natAbs]

/-- Below `2^53` floats keep whole numbers apart. -/
theorem nearest_eq_iff_of_lt {a b : Int} (h : b.natAbs < 2 ^ 53) :
    nearest a = nearest b ↔ a = b := by
  refine ⟨fun heq => ?_, fun heq => heq ▸ rfl⟩
  rw [nearest_of_lt h] at heq
  by_cases ha : a.natAbs < 2 ^ 53
  · rwa [nearest_of_lt ha] at heq
  · have hle := le_nearestMagnitude (Nat.le_of_not_lt ha)
    rw [← natAbs_nearest, heq] at hle
    omega

theorem nearest_natCast (m : Nat) : nearest m = nearestMagnitude m := by
  rw [nearest, Int.natAbs_natCast]
  by_cases hm : m = 0
  · simp [hm, nearestMagnitude_of_lt]
  · rw [Int.sign_eq_one_of_pos (by omega), Int.one_mul]

theorem nearest_neg (n : Int) : nearest (-n) = -nearest n := by
  rw [nearest, nearest, Int.sign_neg, Int.natAbs_neg, Int.neg_mul]

theorem log2_mul_two_pow {m : Nat} (hm : m ≠ 0) (zeros : Nat) :
    (m * 2 ^ zeros).log2 = m.log2 + zeros := by
  have hpos := Nat.two_pow_pos zeros
  rw [Nat.log2_eq_iff (Nat.mul_ne_zero hm hpos.ne')]
  constructor
  · rw [Nat.pow_add]
    exact Nat.mul_le_mul_right _ (Nat.log2_self_le hm)
  · rw [Nat.add_right_comm, Nat.pow_add]
    exact Nat.mul_lt_mul_of_pos_right Nat.lt_log2_self hpos

/-! ## Native rounding -/

section Native

open Float.Model Float.Model.UnpackedFloat

/-- Shifting a mantissa to the right keeps in two bits how the rest compares with a half. -/
theorem shiftRight_exact (m bits : Nat) :
    ExtendedMantissa.ofMantissaAndAccuracy m .exact >>> bits =
      ⟨m / 2 ^ bits, decide (2 ^ bits ≤ 2 * (m % 2 ^ bits)),
        decide (2 * (m % 2 ^ bits) ≠ 0 ∧ 2 * (m % 2 ^ bits) ≠ 2 ^ bits)⟩ := by
  induction bits with
  | zero =>
    change ExtendedMantissa.mk m false false = _
    simp [Nat.mod_one]
  | succ bits ih =>
    change (ExtendedMantissa.ofMantissaAndAccuracy m .exact >>> bits).shiftRightOne = _
    have hrest : m % 2 ^ bits < 2 ^ bits := Nat.mod_lt _ (Nat.two_pow_pos bits)
    rw [ih, ExtendedMantissa.shiftRightOne, Nat.pow_succ, Nat.mod_mul, ← Nat.div_div_eq_div_mul]
    generalize m / 2 ^ bits = quotient
    generalize m % 2 ^ bits = rest at hrest ⊢
    generalize 2 ^ bits = unit at hrest ⊢
    -- The last bit of the quotient becomes the first bit of the rest.
    obtain hbit | hbit := Nat.mod_two_eq_zero_or_one quotient
    · rw [hbit, Nat.mul_zero, Nat.add_zero]
      congr 1
      · exact (decide_eq_false (by omega)).symm
      · rw [← Bool.decide_or]
        exact decide_eq_decide.mpr (by omega)
    · rw [hbit, Nat.mul_one]
      congr 1
      · exact (decide_eq_true (by omega)).symm
      · rw [← Bool.decide_or]
        exact decide_eq_decide.mpr (by omega)

/-- Shifting and rounding a mantissa divides it, rounded to the nearest. -/
theorem roundedMantissa_shiftRight (m bits : Nat) :
    (ExtendedMantissa.ofMantissaAndAccuracy m .exact >>> bits).roundedMantissa =
      roundedQuotient m bits := by
  rw [shiftRight_exact, roundedQuotient]
  generalize m / 2 ^ bits = quotient
  generalize m % 2 ^ bits = rest
  have hpos : 0 < 2 ^ bits := Nat.two_pow_pos bits
  generalize 2 ^ bits = unit at *
  obtain hlow | hhalf | hhigh := Nat.lt_trichotomy (2 * rest) unit
  · rw [if_pos hlow, decide_eq_false (by omega)]
    cases hzero : decide (2 * rest ≠ 0 ∧ 2 * rest ≠ unit) <;> rfl
  · rw [if_neg (by omega), if_neg (by omega), decide_eq_true (by omega), decide_eq_false (by omega)]
    rfl
  · rw [if_neg (by omega), if_pos hhigh, decide_eq_true (by omega), decide_eq_true (by omega)]
    rfl

/-- An unpacked float with all its 53 bits in use stands for a whole number. -/
inductive Stands : UnpackedFloat → Int → Prop where
  | zero (sign : Sign) : Stands (.zero sign) 0
  | finite (sign : Sign) {m k : Nat} {e : Int} (h : 0 < m) (hlow : 2 ^ 52 ≤ m) (hhigh : m < 2 ^ 53)
    (hbelow : -52 ≤ e) (habove : e ≤ 971) (hvalue : m * 2 ^ (e + 52).toNat = k * 2 ^ 52) :
    Stands (.finite sign m e h) (sign.apply k)

/-- A float has its lowest bit where its 53 bits end, or where the smallest float ends. -/
theorem targetExponent_eq (total : Int) :
    Format.binary64.targetExponent total = max (total - 53) (-1074) := rfl

/-- With 53 bits or more before the target exponent, a mantissa is shifted to it. -/
theorem shiftToTargetExponent_eq {m bits : Nat} (hlog : m.log2 = 52 + bits) (e : Int)
    (he : -1074 ≤ e + bits) :
    shiftToTargetExponent .binary64 m e .exact =
      (ExtendedMantissa.ofMantissaAndAccuracy m .exact >>> bits, e + bits) := by
  have htarget : Format.binary64.targetExponent (totalExponent m e) = e + bits := by
    rw [targetExponent_eq, totalExponent, hlog]
    omega
  have hamount : (e + bits - e).toNat = bits := by omega
  rw [shiftToTargetExponent, htarget, shiftToExponent, hamount]

/-- Rounding shifts twice, since rounding up can make the mantissa one bit longer. -/
theorem roundWithAccuracy_eq (sign : Sign) {m : Nat} {e e₁ e₂ : Int}
    {first second : ExtendedMantissa}
    (hfirst : shiftToTargetExponent .binary64 m e .exact = (first, e₁))
    (hsecond : shiftToTargetExponent .binary64 first.roundedMantissa e₁ .exact = (second, e₂))
    (hpos : 0 < second.mantissa) :
    roundWithAccuracy .binary64 sign m e .exact = .finite sign second.mantissa e₂ hpos := by
  rw [roundWithAccuracy, hfirst]
  dsimp only
  rw [hsecond]
  exact dif_neg (Nat.ne_of_gt hpos)

/-- A rounded mantissa has 53 bits, or is the first number with one more. -/
theorem exists_carry {m bits : Nat} (hlog : m.log2 = 52 + bits) :
    ∃ carry ≤ 1, (roundedQuotient m bits).log2 = 52 + carry ∧
      roundedQuotient m bits / 2 ^ carry * 2 ^ carry = roundedQuotient m bits := by
  obtain ⟨hlow, hhigh⟩ := div_two_pow_bounds hlog
  obtain ⟨hfloor, hceil⟩ := roundedQuotient_bounds m bits
  by_cases hfull : roundedQuotient m bits < 2 ^ 53
  · refine ⟨0, by omega, ?_, by simp⟩
    rw [Nat.log2_eq_iff (by omega)]
    omega
  · have hpower : roundedQuotient m bits = 2 ^ 53 := by omega
    exact ⟨1, by omega, by rw [hpower, Nat.log2_two_pow], by rw [hpower]; rfl⟩

/-- Rounding a mantissa to 53 bits gives a float that stands for its rounded value. -/
theorem stands_roundWithAccuracy (sign : Sign) (bits : Nat) {m k : Nat} {e : Int}
    (hlog : m.log2 = 52 + bits) (hbelow : -52 ≤ e + bits) (habove : e + bits ≤ 970)
    (hvalue : roundedQuotient m bits * 2 ^ (e + bits + 52).toNat = k * 2 ^ 52) :
    Stands (roundWithAccuracy .binary64 sign m e .exact) (sign.apply k) := by
  obtain ⟨carry, hcarry, hlog', hexact⟩ := exists_carry hlog
  obtain ⟨hlow, hhigh⟩ := div_two_pow_bounds hlog'
  have hfirst := shiftToTargetExponent_eq hlog e (by omega)
  have hsecond := shiftToTargetExponent_eq hlog' (e + bits) (by omega)
  rw [← roundedMantissa_shiftRight m bits] at hsecond
  have hmantissa : (ExtendedMantissa.ofMantissaAndAccuracy
      (ExtendedMantissa.ofMantissaAndAccuracy m .exact >>> bits).roundedMantissa .exact >>>
        carry).mantissa = roundedQuotient m bits / 2 ^ carry := by
    rw [shiftRight_exact, roundedMantissa_shiftRight]
  rw [roundWithAccuracy_eq sign hfirst hsecond (by omega)]
  refine .finite sign _ (by omega) (by omega) (by omega) (by omega) ?_
  have hexponent : (e + bits + carry + 52).toNat = carry + (e + bits + 52).toNat := by omega
  rw [hmantissa, hexponent, Nat.pow_add, ← Nat.mul_assoc, hexact, hvalue]

/-- The leading bit of a mantissa, which packing leaves out, is put back. -/
theorem toNat_leading {m : Nat} (hlow : 2 ^ 52 ≤ m) (hhigh : m < 2 ^ 53) :
    (1#1 ++ BitVec.ofNat 52 m).toNat = m := by
  rw [BitVec.toNat_append, ← Nat.shiftLeft_add_eq_or_of_lt (BitVec.isLt _), BitVec.toNat_ofNat,
    Nat.shiftLeft_eq]
  simp
  omega

/-- A mantissa of 53 bits is packed without its leading bit. -/
theorem pack_finite (sign : Sign) {m biased : Nat} {e : Int} (h : 0 < m) (hlog : m.log2 = 52)
    (hbiased : (e + 1023 + 52).toNat = biased) (hfits : ¬2 ^ 11 ≤ biased + 1) :
    pack .binary64 (.finite sign m e h) =
      packComponents .binary64 sign (BitVec.ofNat 11 biased) (BitVec.ofNat 52 m) := by
  subst hbiased
  exact (if_neg hfits).trans (if_pos (by rw [hlog]; rfl))

/-- The sign of a packed float, in front of its exponent and its mantissa, is read back. -/
theorem sign_packComponents (sign : Sign) (exponent : BitVec 11) (mantissa : BitVec 52) :
    Sign.ofBitVec (unpackSign (packComponents .binary64 sign exponent mantissa)) = sign := by
  have hsign : unpackSign (packComponents .binary64 sign exponent mantissa) =
      (sign.toBitVec ++ exponent ++ mantissa).extractLsb' 63 1 := rfl
  rw [hsign, BitVec.extractLsb'_append_eq_of_le (by decide),
    BitVec.extractLsb'_append_eq_of_le (by decide)]
  cases sign <;> rfl

/-- A packed float is read from its three parts, unless its exponent is one of the two that are
reserved. -/
theorem unpack_of_parts {b : BitVec Format.binary64.numBits} {sign : Sign} {exponent : BitVec 11}
    {mantissa : BitVec 52} (hsign : Sign.ofBitVec (unpackSign b) = sign)
    (hexponent : unpackExponent b = exponent) (hmantissa : unpackMantissa b = mantissa)
    (hzero : exponent ≠ 0#11) (hones : exponent ≠ -1#11) (hpos : 0 < (1#1 ++ mantissa).toNat) :
    unpack .binary64 b =
      .finite sign (1#1 ++ mantissa).toNat (exponent.toNat - 1075) hpos := by
  subst hsign hexponent hmantissa
  exact (if_neg hones).trans (if_neg hzero)

/-- Packing a float that stands for a whole number loses nothing. -/
theorem Stands.unpack_pack {f : UnpackedFloat} {n : Int} (h : Stands f n) :
    unpack .binary64 (pack .binary64 f) = f := by
  cases h with
  | zero sign => cases sign <;> rfl
  | @finite sign m k e h hlow hhigh hbelow habove hvalue =>
    obtain ⟨biased, hbiased⟩ : ∃ biased, (e + 1023 + 52).toNat = biased := ⟨_, rfl⟩
    have hexponent : (BitVec.ofNat 11 biased).toNat = biased := by
      rw [BitVec.toNat_ofNat, Nat.mod_eq_of_lt (by omega)]
    have hzero : BitVec.ofNat 11 biased ≠ 0#11 := by
      intro hzero
      rw [hzero] at hexponent
      simp at hexponent
      omega
    have hones : BitVec.ofNat 11 biased ≠ -1#11 := by
      intro hones
      rw [hones] at hexponent
      simp at hexponent
      omega
    have hlog : m.log2 = 52 := by
      rw [Nat.log2_eq_iff (by omega)]
      omega
    have hleading := toNat_leading hlow hhigh
    rw [pack_finite sign h hlog hbiased (by omega),
      unpack_of_parts (sign_packComponents ..) unpackExponent_packComponents
        unpackMantissa_packComponents hzero hones (hleading.symm ▸ h)]
    congr 1
    rw [hexponent]
    omega

/-- The float that an unpacked one is packed into. -/
def ofUnpacked (f : UnpackedFloat) : Float := .ofModel (.pack f)

/-- The unpacked form of a float. -/
def unpacked (x : Float) : UnpackedFloat := x.toModel.unpack

theorem Stands.unpacked_ofUnpacked {f : UnpackedFloat} {n : Int} (h : Stands f n) :
    unpacked (ofUnpacked f) = f := h.unpack_pack

theorem apply_neg (sign : Sign) (n : Int) : (-sign).apply n = -sign.apply n := by
  cases sign
  · exact (Int.neg_neg n).symm
  · rfl

/-- The opposite float stands for the opposite number. -/
theorem Stands.neg {f : UnpackedFloat} {n : Int} (h : Stands f n) : Stands f.neg (-n) := by
  cases h with
  | zero sign => exact .zero _
  | @finite sign m k e h hlow hhigh hbelow habove hvalue =>
    rw [← apply_neg]
    exact .finite _ h hlow hhigh hbelow habove hvalue

/-- A number has one mantissa of 53 bits. -/
theorem mantissa_unique {m m' x y : Nat} (hlow : 2 ^ 52 ≤ m) (hhigh : m < 2 ^ 53)
    (hlow' : 2 ^ 52 ≤ m') (hhigh' : m' < 2 ^ 53) (h : m * 2 ^ x = m' * 2 ^ y) :
    x = y ∧ m = m' := by
  have hle : ∀ {m m' x y : Nat}, m < 2 ^ 53 → 2 ^ 52 ≤ m' → m * 2 ^ x = m' * 2 ^ y → y ≤ x := by
    intro m m' x y hhigh hlow h
    by_contra hlt
    obtain ⟨d, rfl⟩ : ∃ d, y = x + 1 + d := ⟨y - (x + 1), by omega⟩
    have hshifted : m = m' * 2 ^ (1 + d) := by
      refine Nat.eq_of_mul_eq_mul_right (Nat.two_pow_pos x) ?_
      rw [h, Nat.add_assoc, Nat.add_comm, Nat.pow_add, Nat.mul_assoc]
    have hone : 2 ^ 1 ≤ 2 ^ (1 + d) := Nat.pow_le_pow_right (by decide) (by omega)
    have hgreat := Nat.mul_le_mul hlow hone
    omega
  obtain rfl : x = y := Nat.le_antisymm (hle hhigh' hlow h.symm) (hle hhigh hlow' h)
  exact ⟨rfl, Nat.eq_of_mul_eq_mul_right (Nat.two_pow_pos x) h⟩

/-- The number of a mantissa of 53 bits is not zero. -/
theorem number_pos {m k shift : Nat} (hlow : 2 ^ 52 ≤ m) (hvalue : m * 2 ^ shift = k * 2 ^ 52) :
    0 < k := by
  by_contra hzero
  obtain rfl : k = 0 := by omega
  have hpos : 0 < m * 2 ^ shift := Nat.mul_pos (by omega) (Nat.two_pow_pos _)
  omega

/-- Mantissas of 53 bits with their exponents are equal if the numbers are. -/
theorem mantissa_eq_iff {m m' k k' : Nat} {e e' : Int} (hlow : 2 ^ 52 ≤ m) (hhigh : m < 2 ^ 53)
    (hlow' : 2 ^ 52 ≤ m') (hhigh' : m' < 2 ^ 53) (hbelow : -52 ≤ e) (hbelow' : -52 ≤ e')
    (hvalue : m * 2 ^ (e + 52).toNat = k * 2 ^ 52)
    (hvalue' : m' * 2 ^ (e' + 52).toNat = k' * 2 ^ 52) : e = e' ∧ m = m' ↔ k = k' := by
  constructor
  · rintro ⟨rfl, rfl⟩
    exact Nat.eq_of_mul_eq_mul_right (Nat.two_pow_pos 52) (hvalue.symm.trans hvalue')
  · rintro rfl
    obtain ⟨hexponent, hmantissa⟩ :=
      mantissa_unique hlow hhigh hlow' hhigh' (hvalue.trans hvalue'.symm)
    exact ⟨by omega, hmantissa⟩

/-- Floats are equal if their signs, their exponents and their mantissas are. -/
theorem compare_finite_iff {sign sign' : Sign} {m m' : Nat} {e e' : Int} (h : 0 < m)
    (h' : 0 < m') :
    (UnpackedFloat.finite sign m e h).compare (.finite sign' m' e' h') = some .eq ↔
      sign = sign' ∧ e = e' ∧ m = m' := by
  cases sign <;> cases sign'
  case positive.positive =>
    change some ((compare e e').then (compare m m')) = some .eq ↔ _
    simp [Ordering.then_eq_eq]
  case negative.negative =>
    change some ((compare e e').then (compare m m')).swap = some .eq ↔ _
    simp [Ordering.then_eq_eq]
  all_goals exact ⟨nofun, nofun⟩

/-- Floats that stand for whole numbers are equal if the numbers are. -/
theorem Stands.beq_iff {f g : UnpackedFloat} {a b : Int} (hf : Stands f a) (hg : Stands g b) :
    f.beq g = true ↔ a = b := by
  change (f.compare g == some .eq) = true ↔ _
  rw [beq_iff_eq]
  cases hf with
  | zero sign =>
    cases hg with
    | zero sign' => exact ⟨fun _ => rfl, fun _ => rfl⟩
    | @finite sign' m' k' e' h' hlow' hhigh' hbelow' habove' hvalue' =>
      have hpos := number_pos hlow' hvalue'
      refine ⟨fun heq => ?_, fun heq => ?_⟩
      · cases sign' <;> cases heq
      · cases sign' <;> simp only [Sign.apply] at heq <;> omega
  | @finite sign m k e h hlow hhigh hbelow habove hvalue =>
    have hpos := number_pos hlow hvalue
    cases hg with
    | zero sign' =>
      refine ⟨fun heq => ?_, fun heq => ?_⟩
      · cases sign <;> cases heq
      · cases sign <;> simp only [Sign.apply] at heq <;> omega
    | @finite sign' m' k' e' h' hlow' hhigh' hbelow' habove' hvalue' =>
      have hpos' := number_pos hlow' hvalue'
      rw [compare_finite_iff,
        mantissa_eq_iff hlow hhigh hlow' hhigh' hbelow hbelow' hvalue hvalue']
      cases sign <;> cases sign' <;> simp [Sign.apply] <;> omega

/-! ## Whole numbers become floats -/

/-- The unpacked form of the float one. -/
def one : UnpackedFloat := .finite .positive (2 ^ 52) (-52) (by decide)

/-- Multiplying with one loses nothing. -/
theorem Stands.mul_one {f : UnpackedFloat} {n : Int} (h : Stands f n) :
    f.mul .binary64 one = f := by
  cases h with
  | zero sign => cases sign <;> rfl
  | @finite sign m k e h hlow hhigh hbelow habove hvalue =>
    have hlog : (m * 2 ^ 52).log2 = 52 + 52 := by
      rw [Nat.log2_eq_iff (by omega)]
      omega
    have hlog' : m.log2 = 52 + 0 := by
      rw [Nat.log2_eq_iff (by omega)]
      omega
    have hrounded : (ExtendedMantissa.ofMantissaAndAccuracy (m * 2 ^ 52) .exact >>>
        52).roundedMantissa = m := by
      rw [roundedMantissa_shiftRight, roundedQuotient_shift m 0 52, roundedQuotient_zero]
    have hfirst := shiftToTargetExponent_eq hlog (e + -52) (by omega)
    have hsecond : shiftToTargetExponent .binary64 (ExtendedMantissa.ofMantissaAndAccuracy
        (m * 2 ^ 52) .exact >>> 52).roundedMantissa (e + -52 + (52 : Nat)) .exact =
        (ExtendedMantissa.ofMantissaAndAccuracy m .exact >>> 0,
          e + -52 + (52 : Nat) + (0 : Nat)) := by
      rw [hrounded]
      exact shiftToTargetExponent_eq hlog' _ (by omega)
    have hproduct := roundWithAccuracy_eq (sign * .positive) hfirst hsecond h
    have hsign : sign * .positive = sign := by cases sign <;> rfl
    refine hproduct.trans ?_
    rw [hsign]
    congr 1
    omega

/-- Rounding a magnitude of at most 53 bits gives a float that stands for it. -/
theorem stands_round {m : Nat} (hpos : 0 < m) (h : m < 2 ^ 53) :
    Stands (UnpackedFloat.round .binary64 .positive m 0) m := by
  have hlog : m.log2 ≤ 52 := Nat.sub_eq_zero_iff_le.mp (surplus_eq_zero h)
  have htarget :
      Format.binary64.targetExponent (totalExponent m 0) = -((52 - m.log2 : Nat) : Int) := by
    rw [targetExponent_eq, totalExponent]
    omega
  have hamount : (0 - -((52 - m.log2 : Nat) : Int)).toNat = 52 - m.log2 := by omega
  rw [UnpackedFloat.round, htarget, decreaseExponent, hamount, Nat.shiftLeft_eq]
  refine stands_roundWithAccuracy .positive 0 ?_ ?_ ?_ ?_
  · rw [log2_mul_two_pow hpos.ne']
    omega
  · omega
  · omega
  · rw [roundedQuotient_zero, Nat.mul_assoc, ← Nat.pow_add]
    congr 2
    omega

theorem ofNat_eq_of_lt {m : Nat} (h : m < 2 ^ 53) :
    Float.ofNat m =
      ofUnpacked ((unpacked (ofUnpacked (.ofNat .binary64 m))).mul .binary64 one) := by
  have hword : m.toUInt64.toNat = m := UInt64.toNat_ofNat_of_lt (h.trans (by decide))
  have hone : unpacked Float.exactlyRepresentablePowersOfTen[0] = one := by rfl
  have hproduct : ∀ x y : Float, x * y = ofUnpacked ((unpacked x).mul .binary64 (unpacked y)) :=
    fun _ _ => rfl
  have hfloat : m.toUInt64.toFloat = ofUnpacked (.ofNat .binary64 m.toUInt64.toNat) := rfl
  change Float.ofScientific m false 0 = _
  rw [Float.ofScientific, dif_pos ⟨h, by decide⟩]
  dsimp only
  rw [if_neg (by decide), hproduct, hone, hfloat, hword]

theorem ofNat_eq_of_le {m : Nat} (h : 2 ^ 53 ≤ m) :
    Float.ofNat m =
      ofUnpacked (roundWithAccuracy .binary64 .positive (m * 2 ^ 53) (-53) .exact) := by
  have hunpacked : UnpackedFloat.ofScientific .binary64 m 0 =
      roundWithAccuracy .binary64 .positive (m <<< 53 * 1) (-53) .exact := by
    rw [UnpackedFloat.ofScientific, dif_neg (by omega), if_neg (by decide), if_neg,
      if_pos (by decide)]
    · rfl
    · change ¬(0 : Int) < -((2 ^ 11 : Int) + m.log2)
      omega
  change Float.ofScientific m false 0 = _
  rw [Float.ofScientific, dif_neg (by omega)]
  change ofUnpacked (UnpackedFloat.ofScientific .binary64 m 0) = _
  rw [hunpacked, Nat.mul_one, Nat.shiftLeft_eq]

/-- The float of a natural number stands for the nearest magnitude. -/
theorem stands_ofNat {m : Nat} (h : m < 2 ^ 64) :
    Stands (unpacked (Float.ofNat m)) (nearestMagnitude m) := by
  by_cases hsmall : m < 2 ^ 53
  · -- A number of at most 53 bits is read exactly, and then multiplied with one.
    have hread : Stands (.ofNat .binary64 m) m := by
      by_cases hzero : m = 0
      · subst hzero
        exact .zero .positive
      · have hsign : compare (m : Int) 0 = .gt := Int.compare_eq_gt.mpr (by omega)
        rw [UnpackedFloat.ofNat, UnpackedFloat.ofInt, UnpackedFloat.normalize, hsign]
        exact stands_round (by omega) hsmall
    rw [nearestMagnitude_of_lt hsmall, ofNat_eq_of_lt hsmall, hread.unpacked_ofUnpacked,
      hread.mul_one, hread.unpacked_ofUnpacked]
    exact hread
  · have hm : m ≠ 0 := by omega
    have hlow : 53 ≤ m.log2 := (Nat.le_log2 hm).mpr (by omega)
    have hhigh : m.log2 < 64 := (Nat.log2_lt hm).mpr h
    have hrounded : Stands (roundWithAccuracy .binary64 .positive (m * 2 ^ 53) (-53) .exact)
        (nearestMagnitude m) := by
      refine stands_roundWithAccuracy .positive (surplus m + 53) ?_ ?_ ?_ ?_
      · rw [log2_mul_two_pow hm, surplus]
        omega
      · rw [surplus]
        omega
      · rw [surplus]
        omega
      · rw [roundedQuotient_shift, nearestMagnitude, Nat.mul_assoc, ← Nat.pow_add]
        congr 2
        omega
    rw [ofNat_eq_of_le (by omega), hrounded.unpacked_ofUnpacked]
    exact hrounded

/-- The float of a whole number stands for the nearest one. -/
theorem stands_ofInt {n : Int} (h : n.natAbs < 2 ^ 64) :
    Stands (unpacked (Float.ofInt n)) (nearest n) := by
  cases n with
  | ofNat m =>
    rw [Int.ofNat_eq_natCast, nearest_natCast]
    exact stands_ofNat h
  | negSucc m =>
    have hopposite : Stands (unpacked (Float.ofNat (m + 1))).neg (-nearestMagnitude (m + 1)) :=
      (stands_ofNat h).neg
    rw [Int.negSucc_eq, nearest_neg, ← Nat.cast_succ, nearest_natCast]
    change Stands (unpacked (ofUnpacked (unpacked (Float.ofNat (m + 1))).neg)) _
    rw [hopposite.unpacked_ofUnpacked]
    exact hopposite

/-- Two whole numbers are equal as floats if the nearest ones with 53 bits are equal. -/
theorem ofInt_beq_iff {a b : Int} (ha : a.natAbs < 2 ^ 64) (hb : b.natAbs < 2 ^ 64) :
    (Float.ofInt a == Float.ofInt b) = true ↔ nearest a = nearest b :=
  (stands_ofInt ha).beq_iff (stands_ofInt hb)

end Native

end Binary

end Gamebook
