import ContractScan.Chain.Ether
import ContractScan.Proofs.Number.Plain
import ContractScan.Proofs.Number.Rounding
import Mathlib.Algebra.Order.Field.Basic

/-! # What the text of an amount says

    The text of an amount is a tidy decimal (`formatEther_denotes`).  The number
    of ethers it stands for is the amount rounded to 28 significant digits
    (`roundsTo_ethers`): all of it when 28 digits are enough
    (`ethers_eq_of_digits`), and never in the wrong order (`ethers_mono`).

    The digits of an amount decide how it is rounded: the unit is a power of ten
    that grows with their number, so an amount with more digits cannot be rounded
    below one with fewer (`roundSignificant_mono`). -/

namespace ContractScan.Chain

open ContractScan.Number

/-! ## The number of digits -/

section Digits

variable {m n k : Nat}

theorem digitCount_pos (n : Nat) : 0 < digitCount n := Nat.length_toDigits_pos

theorem digitCount_le_iff (hk : 0 < k) : digitCount n ≤ k ↔ n < 10 ^ k :=
  Nat.length_toDigits_le_iff (by decide) hk

theorem lt_pow_digitCount (n : Nat) : n < 10 ^ digitCount n :=
  (digitCount_le_iff (digitCount_pos n)).mp (Nat.le_refl _)

theorem pow_le_of_lt_digitCount (hn : 0 < n) (h : k < digitCount n) : 10 ^ k ≤ n := by
  cases k with
  | zero => exact hn
  | succ k =>
      rcases Nat.lt_or_ge n (10 ^ (k + 1)) with hlt | hge
      · have hle := (digitCount_le_iff (Nat.succ_pos k)).mpr hlt
        omega
      · exact hge

theorem digitCount_mono (h : m ≤ n) : digitCount m ≤ digitCount n :=
  (digitCount_le_iff (digitCount_pos n)).mpr (Nat.lt_of_le_of_lt h (lt_pow_digitCount n))

end Digits

/-! ## Rounding to significant digits -/

section Significant

variable {m n k : Nat}

theorem tenTo_eq_pow (n : Nat) : tenTo n = 10 ^ n := rfl

/-- A multiple of the unit is not changed. -/
theorem roundSignificant_of_dvd (h : 10 ^ (digitCount n - etherDigits) ∣ n) :
    roundSignificant n = n := by
  obtain ⟨q, hq⟩ := h
  rw [Nat.mul_comm] at hq
  have hunit : 0 < 10 ^ (digitCount n - etherDigits) := Nat.pow_pos (by decide)
  have hround : roundDiv n (10 ^ (digitCount n - etherDigits)) = q := by
    rw [congrArg (roundDiv · _) hq, roundDiv_mul_self hunit]
  rw [roundSignificant, tenTo_eq_pow, hround, ← hq]

/-- Digits that are enough, and zeros after them, are not changed. -/
theorem roundSignificant_of_digits (hm : m < 10 ^ etherDigits) (k : Nat) :
    roundSignificant (m * 10 ^ k) = m * 10 ^ k := by
  have hdigits : digitCount (m * 10 ^ k) ≤ etherDigits + k := by
    rw [digitCount_le_iff (by rw [etherDigits]; omega), Nat.pow_add]
    exact Nat.mul_lt_mul_of_pos_right hm (Nat.pow_pos (by decide))
  have hunit : 10 ^ (digitCount (m * 10 ^ k) - etherDigits) ∣ 10 ^ k :=
    Nat.pow_dvd_pow 10 (by omega)
  exact roundSignificant_of_dvd (Nat.dvd_trans hunit (Nat.dvd_mul_left _ _))

/-- A power of ten that is not below an amount is not below what it is rounded
    to. -/
theorem roundSignificant_le_pow (h : digitCount n ≤ k) : roundSignificant n ≤ 10 ^ k := by
  have hunit : 0 < 10 ^ (digitCount n - etherDigits) := Nat.pow_pos (by decide)
  have hpow : 10 ^ k = 10 ^ (k - (digitCount n - etherDigits)) * 10 ^ (digitCount n - etherDigits) := by
    rw [← Nat.pow_add]
    congr 1
    omega
  have hn : n ≤ 10 ^ k :=
    Nat.le_of_lt (Nat.lt_of_lt_of_le (lt_pow_digitCount n) (Nat.pow_le_pow_right (by decide) h))
  have hround := roundDiv_mono (10 ^ (digitCount n - etherDigits)) hn
  rw [hpow, roundDiv_mul_self hunit] at hround
  rw [roundSignificant, tenTo_eq_pow, hpow]
  exact Nat.mul_le_mul_right _ hround

/-- A power of ten that is not above an amount is not above what it is rounded
    to. -/
theorem pow_le_roundSignificant (hn : 0 < n) (h : k < digitCount n) :
    10 ^ k ≤ roundSignificant n := by
  have hle : 10 ^ k ≤ 10 ^ (digitCount n - 1) := Nat.pow_le_pow_right (by decide) (by omega)
  have hunit : 0 < 10 ^ (digitCount n - etherDigits) := Nat.pow_pos (by decide)
  have hexp : digitCount n - etherDigits ≤ digitCount n - 1 := by
    rw [etherDigits]
    omega
  have hpow : 10 ^ (digitCount n - 1) =
      10 ^ (digitCount n - 1 - (digitCount n - etherDigits)) *
        10 ^ (digitCount n - etherDigits) := by
    rw [← Nat.pow_add, Nat.sub_add_cancel hexp]
  have hround := roundDiv_mono (10 ^ (digitCount n - etherDigits))
    (pow_le_of_lt_digitCount hn (Nat.sub_lt (digitCount_pos n) Nat.one_pos))
  rw [hpow, roundDiv_mul_self hunit] at hround
  rw [roundSignificant, tenTo_eq_pow]
  exact hle.trans (hpow.le.trans (Nat.mul_le_mul_right _ hround))

/-- **THE ORDER IS KEPT**, also where a rounded amount gets one digit more. -/
theorem roundSignificant_mono (h : m ≤ n) : roundSignificant m ≤ roundSignificant n := by
  rcases Nat.lt_or_ge (digitCount m) (digitCount n) with hlt | hge
  · have hn : 0 < n := by
      rcases Nat.eq_zero_or_pos n with hzero | hpos
      · rw [Nat.le_antisymm (h.trans hzero.le) (Nat.zero_le m), hzero] at hlt
        exact absurd hlt (Nat.lt_irrefl _)
      · exact hpos
    exact (roundSignificant_le_pow (Nat.le_refl _)).trans (pow_le_roundSignificant hn hlt)
  · have hsame : digitCount m = digitCount n := Nat.le_antisymm (digitCount_mono h) hge
    rw [roundSignificant, roundSignificant, hsame]
    exact Nat.mul_le_mul_right _ (roundDiv_mono _ h)

/-- The last unit of an amount is told by the number of its digits. -/
theorem isLastUnit_digitCount (hn : 0 < n) :
    IsLastUnit etherDigits (n : ℚ) ((digitCount n : ℤ) - etherDigits) := by
  have hpos := digitCount_pos n
  have hleast := pow_le_of_lt_digitCount hn (Nat.sub_lt hpos Nat.one_pos)
  have hpred : ((digitCount n : ℤ) - etherDigits + etherDigits - 1) =
      ((digitCount n - 1 : Nat) : ℤ) := by
    omega
  rw [IsLastUnit, abs_of_nonneg (Nat.cast_nonneg n), hpred, sub_add_cancel, zpow_natCast,
    zpow_natCast]
  exact ⟨by exact_mod_cast hleast, by exact_mod_cast lt_pow_digitCount n⟩

/-- **ROUNDED TO 28 DIGITS**, a tie to the even one. -/
theorem roundsTo_roundSignificant (n : Nat) :
    RoundsTo etherDigits (n : ℚ) (roundSignificant n : ℚ) := by
  constructor
  · intro hn
    rw [Nat.cast_eq_zero.mp hn]
    exact Nat.cast_eq_zero.mpr (by decide +kernel)
  · intro hn
    have hpos : 0 < n := Nat.pos_of_ne_zero (Nat.cast_ne_zero.mp hn)
    have hunit := isLastUnit_digitCount hpos
    rcases Nat.lt_or_ge (digitCount n) etherDigits with hfew | hmany
    · -- few digits are kept as they are, and the last unit lies below them
      have hself : roundSignificant n = n :=
        roundSignificant_of_dvd (by rw [Nat.sub_eq_zero_of_le hfew.le]; exact Nat.one_dvd n)
      have hzpow : (0 : ℚ) < 10 ^ ((digitCount n : ℤ) - etherDigits) := zpow_pos (by norm_num) _
      refine ⟨_, (n : ℤ) * 10 ^ (etherDigits - digitCount n), hunit, ?_, ?_, ?_⟩
      · rw [hself]
        push_cast
        rw [← zpow_natCast (10 : ℚ) (etherDigits - digitCount n), Nat.cast_sub hfew.le, mul_assoc,
          ← zpow_add₀ (by norm_num), sub_add_sub_cancel', sub_self, zpow_zero, mul_one]
      · rw [hself, sub_self, abs_zero]
        exact (half_pos hzpow).le
      · rw [hself, sub_self, abs_zero]
        exact fun htie => absurd htie (half_pos hzpow).ne
    · have hunitPos := tenTo_pos (digitCount n - etherDigits)
      have hzpow : (10 : ℚ) ^ ((digitCount n : ℤ) - etherDigits) =
          (tenTo (digitCount n - etherDigits) : ℚ) := by
        rw [← Nat.cast_sub hmany, zpow_natCast, tenTo_eq_pow, Nat.cast_pow, Nat.cast_ofNat]
      refine ⟨_, roundDiv n (tenTo (digitCount n - etherDigits)), hunit, ?_, ?_, ?_⟩
      · rw [hzpow, roundSignificant, Nat.cast_mul, Int.cast_natCast]
      · rw [hzpow]
        exact abs_sub_roundDiv_le n hunitPos
      · rw [hzpow, Int.even_coe_nat]
        exact even_roundDiv_of_abs_eq hunitPos

end Significant

/-! ## The number of ethers -/

section Ethers

variable {wei wei' : Int}

/-- The number of ethers that an amount is rounded to. -/
def ethers (wei : Int) : ℚ :=
  (if wei < 0 then -(roundSignificant wei.natAbs : ℚ) else roundSignificant wei.natAbs) /
    10 ^ etherPlaces

theorem ethers_of_nonneg (n : Nat) :
    ethers (n : Int) = (roundSignificant n : ℚ) / 10 ^ etherPlaces := by
  rw [ethers, if_neg (Int.not_lt.mpr (Int.natCast_nonneg n)), Int.natAbs_natCast]

/-- An amount and its opposite are rounded alike. -/
theorem ethers_neg (wei : Int) : ethers (-wei) = -ethers wei := by
  rw [ethers, ethers, Int.natAbs_neg, ← neg_div]
  rcases lt_trichotomy wei 0 with hneg | rfl | hpos
  · rw [if_neg (by omega), if_pos hneg, neg_neg]
  · have hzero : roundSignificant 0 = 0 := by decide +kernel
    rw [neg_zero, if_neg (lt_irrefl _), Int.natAbs_zero, hzero, Nat.cast_zero, neg_zero]
  · rw [if_pos (by omega), if_neg (by omega)]

/-- What is no debt is no negative number of ethers. -/
theorem ethers_nonneg (n : Nat) : 0 ≤ ethers (n : Int) := by
  rw [ethers_of_nonneg]
  positivity

/-- **THE NUMBER OF ETHERS** is the amount over 10^18, rounded to 28 significant
    digits. -/
theorem roundsTo_ethers (wei : Int) :
    RoundsTo etherDigits ((wei : ℚ) / 10 ^ etherPlaces) (ethers wei) := by
  have hscale : ∀ q : ℚ, q * 10 ^ (-(etherPlaces : ℤ)) = q / 10 ^ etherPlaces := by
    intro q
    rw [zpow_neg, zpow_natCast, div_eq_mul_inv]
  have hnat : ∀ n : Nat,
      RoundsTo etherDigits ((n : ℚ) / 10 ^ etherPlaces) (ethers (n : Int)) := by
    intro n
    rw [ethers_of_nonneg, ← hscale, ← hscale]
    exact (roundsTo_roundSignificant n).scale _
  obtain ⟨n, rfl | rfl⟩ := wei.eq_nat_or_neg
  · rw [Int.cast_natCast]
    exact hnat n
  · rw [ethers_neg, Int.cast_neg, Int.cast_natCast, neg_div]
    exact (hnat n).neg

/-- **NOTHING IS LOST** of an amount that 28 digits are enough for. -/
theorem ethers_eq_of_digits {m : Int} (hm : m.natAbs < 10 ^ etherDigits) (k : Nat) :
    ethers (m * 10 ^ k) = ((m * 10 ^ k : Int) : ℚ) / 10 ^ etherPlaces := by
  obtain ⟨n, rfl | rfl⟩ := m.eq_nat_or_neg
  · rw [Int.natAbs_natCast] at hm
    have hcast : (n : Int) * 10 ^ k = ((n * 10 ^ k : Nat) : Int) := by push_cast; rfl
    rw [hcast, ethers_of_nonneg, roundSignificant_of_digits hm, Int.cast_natCast]
  · rw [Int.natAbs_neg, Int.natAbs_natCast] at hm
    have hcast : -(n : Int) * 10 ^ k = -((n * 10 ^ k : Nat) : Int) := by push_cast; ring
    rw [hcast, ethers_neg, ethers_of_nonneg, roundSignificant_of_digits hm, Int.cast_neg,
      Int.cast_natCast, neg_div]

/-- The case of an amount below 10^28. -/
theorem ethers_eq_of_lt (h : wei.natAbs < 10 ^ etherDigits) :
    ethers wei = (wei : ℚ) / 10 ^ etherPlaces := by
  simpa using ethers_eq_of_digits h 0

/-- **NO WRONG ORDER**: a greater amount has no lesser number of ethers. -/
theorem ethers_mono (h : wei ≤ wei') : ethers wei ≤ ethers wei' := by
  have hnat : ∀ {m n : Nat}, m ≤ n → ethers (m : Int) ≤ ethers (n : Int) := by
    intro m n hmn
    rw [ethers_of_nonneg, ethers_of_nonneg]
    have hround : (roundSignificant m : ℚ) ≤ roundSignificant n := by
      exact_mod_cast roundSignificant_mono hmn
    exact div_le_div_of_nonneg_right hround (by positivity)
  obtain ⟨m, rfl | rfl⟩ := wei.eq_nat_or_neg <;> obtain ⟨n, rfl | rfl⟩ := wei'.eq_nat_or_neg
  · exact hnat (by omega)
  · -- both are zero
    have hm : m = 0 := by omega
    have hn : n = 0 := by omega
    rw [hm, hn]
    exact le_refl _
  · rw [ethers_neg]
    exact (neg_nonpos.mpr (ethers_nonneg m)).trans (ethers_nonneg n)
  · rw [ethers_neg, ethers_neg]
    exact neg_le_neg (hnat (by omega))

end Ethers

/-! ## The text -/

section Text

variable {n : Nat}

/-- A number is written without a zero before other digits. -/
theorem head_toDigits (n : Nat) :
    (Nat.toDigits 10 n).head? = some '0' → Nat.toDigits 10 n = ['0'] := by
  induction n using Nat.strongRecOn with
  | ind n ih =>
      by_cases hn : n < 10
      · rw [Nat.toDigits_of_lt_base hn]
        intro h
        rw [Option.some.inj h]
      · -- the digits before the last are those of a number that is not zero
        obtain ⟨c, cs, hhead⟩ := List.exists_cons_of_ne_nil
          (Nat.toDigits_ne_nil (n := n / 10) (b := 10))
        rw [Nat.toDigits_of_base_le (by decide) (by omega), hhead]
        intro h
        have hone := ih (n / 10) (by omega) (hhead ▸ h)
        have hzero := congrArg (Nat.ofDigitChars 10 · 0) hone
        rw [Nat.ofDigitChars_ten_toDigits] at hzero
        have hquot : n / 10 = 0 := hzero
        omega

/-- Digits filled up to the places of an ether. -/
theorem paddedDigits_spec (hn : n < 10 ^ etherPlaces) :
    (∀ c ∈ paddedDigits etherPlaces n, c.isDigit = true) ∧
      placesValue (paddedDigits etherPlaces n) = (n : ℚ) / 10 ^ etherPlaces := by
  have hlength : (Nat.toDigits 10 n).length ≤ etherPlaces :=
    (Nat.length_toDigits_le_iff (by decide) (by decide)).mpr hn
  constructor
  · intro c hc
    rcases List.mem_append.mp hc with hfill | hdigit
    · rw [List.eq_of_mem_replicate hfill]
      decide
    · exact Nat.isDigit_of_mem_toDigits (by decide) (by decide) hdigit
  · rw [placesValue, paddedDigits, Nat.ofDigitChars_append, Nat.ofDigitChars_replicate_zero,
      Nat.mul_zero, Nat.ofDigitChars_ten_toDigits, List.length_append, List.length_replicate,
      Nat.sub_add_cancel hlength]

/-- The places of an amount are digits with its value, and no zero stands at
    their end but one that stands alone. -/
theorem fractionText_spec (hn : n < 10 ^ etherPlaces) :
    (∀ c ∈ fractionText n, c.isDigit = true) ∧ fractionText n ≠ [] ∧
      ((fractionText n).getLast? = some '0' → fractionText n = ['0']) ∧
      placesValue (fractionText n) = (n : ℚ) / 10 ^ etherPlaces := by
  obtain ⟨hdigits, hvalue⟩ := paddedDigits_spec hn
  obtain ⟨k, hzeros⟩ := exists_append_zeros (paddedDigits etherPlaces n)
  have hlast := List.head?_dropWhile_not (· == '0') (paddedDigits etherPlaces n).reverse
  unfold fractionText
  generalize ((paddedDigits etherPlaces n).reverse.dropWhile (· == '0')) = rest at hzeros hlast ⊢
  rw [hzeros] at hdigits hvalue
  rw [placesValue_append_zeros] at hvalue
  cases rest with
  | nil =>
      -- nothing is left: the value is zero, and so is that of one zero
      rw [← hvalue]
      show (∀ c ∈ ['0'], c.isDigit = true) ∧ ['0'] ≠ [] ∧ (_ → ['0'] = ['0']) ∧ placesValue ['0'] = _
      refine ⟨fun c hc => ?_, List.cons_ne_nil _ _, fun _ => rfl, ?_⟩
      · rw [List.mem_singleton.mp hc]
        rfl
      · simp [placesValue, Nat.ofDigitChars]
  | cons c cs =>
      have hfilled : ((c :: cs).reverse.isEmpty) = false := by simp
      rw [if_neg (by rw [hfilled]; exact Bool.false_ne_true)]
      refine ⟨fun d hd => hdigits d (List.mem_append_left _ hd), by simp, ?_, hvalue⟩
      rw [List.getLast?_reverse]
      intro hzero
      have hnot : (c == '0') = false := hlast
      rw [Option.some.inj hzero] at hnot
      exact absurd hnot (by decide)

/-- The decimal that an amount is written as. -/
def etherDecimal (wei : Int) : PlainDecimal where
  minus := decide (wei < 0)
  whole := Nat.toDigits 10 (roundSignificant wei.natAbs / weiPerEther)
  places := fractionText (roundSignificant wei.natAbs % weiPerEther)

theorem toList_formatEther (wei : Int) : (formatEther wei).toList = (etherDecimal wei).text := by
  simp only [formatEther, String.toList_ofList, PlainDecimal.text, etherDecimal,
    decide_eq_true_eq, List.append_assoc]

theorem rest_lt_pow (n : Nat) : n % weiPerEther < 10 ^ etherPlaces :=
  Nat.mod_lt n (tenTo_pos etherPlaces)

/-- **THE FORM**: an amount is written as a tidy decimal. -/
theorem isTidy_etherDecimal (wei : Int) : (etherDecimal wei).IsTidy := by
  obtain ⟨hdigits, hfilled, htrailing, -⟩ :=
    fractionText_spec (rest_lt_pow (roundSignificant wei.natAbs))
  exact ⟨fun c hc => Nat.isDigit_of_mem_toDigits (by decide) (by decide) hc, hdigits,
    Nat.toDigits_ne_nil, hfilled, head_toDigits _, htrailing⟩

theorem value_etherDecimal (wei : Int) : (etherDecimal wei).value = ethers wei := by
  have hplaces : placesValue (etherDecimal wei).places = _ :=
    (fractionText_spec (rest_lt_pow (roundSignificant wei.natAbs))).2.2.2
  have hmagnitude : (etherDecimal wei).magnitude =
      (roundSignificant wei.natAbs : ℚ) / 10 ^ etherPlaces := by
    have hdiv := Nat.div_add_mod (roundSignificant wei.natAbs) weiPerEther
    have hcast : (weiPerEther : ℚ) * (roundSignificant wei.natAbs / weiPerEther : Nat) +
        (roundSignificant wei.natAbs % weiPerEther : Nat) = roundSignificant wei.natAbs := by
      exact_mod_cast hdiv
    have hunit : (weiPerEther : ℚ) = 10 ^ etherPlaces := by
      rw [weiPerEther, tenTo_eq_pow, Nat.cast_pow, Nat.cast_ofNat]
    have hne : (10 : ℚ) ^ etherPlaces ≠ 0 := pow_ne_zero _ (by norm_num)
    rw [PlainDecimal.magnitude, hplaces, etherDecimal, Nat.ofDigitChars_ten_toDigits, ← hcast,
      hunit, add_div, mul_div_cancel_left₀ _ hne]
  have hminus : ((etherDecimal wei).minus = true) = (wei < 0) := decide_eq_true_eq
  rw [PlainDecimal.value, hmagnitude, ethers, apply_ite (· / (10 : ℚ) ^ etherPlaces), neg_div]
  simp only [hminus]

/-- **THE VALUE**: the text of an amount denotes its number of ethers. -/
theorem formatEther_denotes (wei : Int) : Denotes (formatEther wei) (ethers wei) :=
  ⟨etherDecimal wei, isTidy_etherDecimal wei, toList_formatEther wei, value_etherDecimal wei⟩

/-- Amounts below 10^28 with the same text are the same. -/
theorem eq_of_formatEther_eq {wei wei' : Int} (h : wei.natAbs < 10 ^ etherDigits)
    (h' : wei'.natAbs < 10 ^ etherDigits) (htext : formatEther wei = formatEther wei') :
    wei = wei' := by
  have hvalue := (formatEther_denotes wei).unique (htext ▸ formatEther_denotes wei')
  have hne : (10 : ℚ) ^ etherPlaces ≠ 0 := pow_ne_zero _ (by norm_num)
  rw [ethers_eq_of_lt h, ethers_eq_of_lt h', div_left_inj' hne] at hvalue
  exact Int.cast_inj.mp hvalue

end Text

end ContractScan.Chain
