import ContractScan.Number.Binary64
import Mathlib.Algebra.Order.Field.Rat
import Mathlib.Algebra.Order.Field.Power
import Mathlib.Tactic.Linarith
import Mathlib.Tactic.Ring

/-! # Rounding -- to the nearest, a tie to the even neighbour

    `roundDiv` gives a whole number that is nearest to a quotient; of two that
    are equally near it gives the even one (`roundDiv_nearest`,
    `even_roundDiv_of_tie`), and it keeps the order of what is divided
    (`roundDiv_mono`).

    `RoundsTo` says of rational numbers what it is to round to a number of
    significant digits: the unit is that of the last digit kept, whatever the
    size of the number.  It leaves no choice (`RoundsTo.unique`), and neither a
    sign nor a power of ten makes a difference to it. -/

namespace ContractScan.Number

/-! ## Quotients -/

section Quotients

variable {m n d : Nat}

/-- A quotient is rounded down when the rest is less than half, or half and the
    quotient even, and up when it is more than half, or half and the quotient
    odd. -/
theorem roundDiv_cases (n d : Nat) :
    (roundDiv n d = n / d ∧ 2 * (n % d) ≤ d ∧ (2 * (n % d) = d → n / d % 2 = 0)) ∨
      (roundDiv n d = n / d + 1 ∧ d ≤ 2 * (n % d) ∧ (2 * (n % d) = d → n / d % 2 = 1)) := by
  unfold roundDiv
  by_cases h : (decide (d < 2 * (n % d)) || (2 * (n % d) == d && n / d % 2 == 1)) = true
  · rw [if_pos h]
    right
    simp only [Bool.or_eq_true, decide_eq_true_eq, Bool.and_eq_true, beq_iff_eq] at h
    omega
  · rw [if_neg h]
    left
    simp only [Bool.or_eq_true, decide_eq_true_eq, Bool.and_eq_true, beq_iff_eq] at h
    omega

/-- A rounded quotient is off by half at most. -/
theorem roundDiv_nearest (n : Nat) (hd : 0 < d) :
    2 * (roundDiv n d * d) ≤ 2 * n + d ∧ 2 * n ≤ 2 * (roundDiv n d * d) + d := by
  have hlt : n % d < d := Nat.mod_lt n hd
  have hdiv : d * (n / d) + n % d = n := Nat.div_add_mod n d
  rw [Nat.mul_comm] at hdiv
  rcases roundDiv_cases n d with ⟨hround, hrest, -⟩ | ⟨hround, hrest, -⟩
  · rw [hround]
    omega
  · rw [hround, Nat.add_mul]
    omega

/-- A quotient that is off by half is rounded to an even number. -/
theorem even_roundDiv_of_tie (hd : 0 < d)
    (h : 2 * (roundDiv n d * d) = 2 * n + d ∨ 2 * n = 2 * (roundDiv n d * d) + d) :
    roundDiv n d % 2 = 0 := by
  have hlt : n % d < d := Nat.mod_lt n hd
  have hdiv : d * (n / d) + n % d = n := Nat.div_add_mod n d
  rw [Nat.mul_comm] at hdiv
  rcases roundDiv_cases n d with ⟨hround, hrest, htie⟩ | ⟨hround, hrest, htie⟩
  · rw [hround] at h ⊢
    omega
  · rw [hround, Nat.add_mul] at h
    rw [hround]
    omega

/-- What divides is rounded to the exact quotient. -/
theorem roundDiv_mul_self (hd : 0 < d) (k : Nat) : roundDiv (k * d) d = k := by
  rcases roundDiv_cases (k * d) d with ⟨hround, -, -⟩ | ⟨-, hrest, -⟩
  · rw [hround, Nat.mul_div_cancel k hd]
  · rw [Nat.mul_mod_left] at hrest
    omega

/-- **THE ORDER IS KEPT**: a greater number has no lesser rounded quotient. -/
theorem roundDiv_mono (d : Nat) (h : m ≤ n) : roundDiv m d ≤ roundDiv n d := by
  have hquot : m / d ≤ n / d := Nat.div_le_div_right h
  rcases Nat.lt_or_ge (m / d) (n / d) with hlt | hge
  · rcases roundDiv_cases m d with ⟨hm, -, -⟩ | ⟨hm, -, -⟩ <;>
      rcases roundDiv_cases n d with ⟨hn, -, -⟩ | ⟨hn, -, -⟩ <;> omega
  · -- the quotients are equal, so the rests are in order
    have heq : m / d = n / d := Nat.le_antisymm hquot hge
    have hm : d * (m / d) + m % d = m := Nat.div_add_mod m d
    have hn : d * (n / d) + n % d = n := Nat.div_add_mod n d
    rw [← heq] at hn
    rcases roundDiv_cases m d with ⟨hm, -, -⟩ | ⟨hm, hmrest, hmtie⟩ <;>
      rcases roundDiv_cases n d with ⟨hn, hnrest, hntie⟩ | ⟨hn, -, -⟩ <;> omega

/-- As rational numbers, a number and its rounded multiple are half a unit apart
    at most. -/
theorem abs_sub_roundDiv_le (n : Nat) (hd : 0 < d) :
    |(n : ℚ) - (roundDiv n d * d : Nat)| ≤ d / 2 := by
  obtain ⟨hlow, hhigh⟩ := roundDiv_nearest n hd
  have hlow' : 2 * ((roundDiv n d * d : Nat) : ℚ) ≤ 2 * n + d := by exact_mod_cast hlow
  have hhigh' : 2 * (n : ℚ) ≤ 2 * (roundDiv n d * d : Nat) + d := by exact_mod_cast hhigh
  rw [abs_le]
  constructor <;> linarith

/-- Where they are half a unit apart, the multiple is even. -/
theorem even_roundDiv_of_abs_eq (hd : 0 < d)
    (h : |(n : ℚ) - (roundDiv n d * d : Nat)| = d / 2) : Even (roundDiv n d) := by
  rw [Nat.even_iff]
  apply even_roundDiv_of_tie hd
  rcases abs_choice ((n : ℚ) - (roundDiv n d * d : Nat)) with habs | habs
  · right
    have htie : 2 * (n : ℚ) = 2 * (roundDiv n d * d : Nat) + d := by linarith
    exact_mod_cast htie
  · left
    have htie : 2 * ((roundDiv n d * d : Nat) : ℚ) = 2 * n + d := by linarith
    exact_mod_cast htie

end Quotients

/-! ## Significant digits -/

/-- The unit of the last of the significant digits of `x` is `10 ^ e`. -/
def IsLastUnit (digits : Nat) (x : ℚ) (e : ℤ) : Prop :=
  (10 : ℚ) ^ (e + digits - 1) ≤ |x| ∧ |x| < (10 : ℚ) ^ (e + digits)

/-- The number `r` is `x` rounded to significant digits: a multiple of the last
    unit, off by half a unit at most, and an even one if it is off by half. -/
structure RoundsTo (digits : Nat) (x r : ℚ) : Prop where
  zero : x = 0 → r = 0
  nearest : x ≠ 0 → ∃ e m : ℤ, IsLastUnit digits x e ∧ r = m * 10 ^ e ∧
    |x - r| ≤ 10 ^ e / 2 ∧ (|x - r| = 10 ^ e / 2 → Even m)

section Significant

variable {digits : Nat} {x r : ℚ}

/-- A number has one last unit. -/
theorem IsLastUnit.unique {e e' : ℤ} (h : IsLastUnit digits x e) (h' : IsLastUnit digits x e') :
    e = e' := by
  have hlt : e + digits - 1 < e' + digits :=
    (zpow_lt_zpow_iff_right₀ (by norm_num : (1 : ℚ) < 10)).mp (h.1.trans_lt h'.2)
  have hgt : e' + digits - 1 < e + digits :=
    (zpow_lt_zpow_iff_right₀ (by norm_num : (1 : ℚ) < 10)).mp (h'.1.trans_lt h.2)
  omega

/-- Of two neighbouring multiples of a unit that are both off by half a unit at
    most, both are off by half. -/
theorem not_both_even {u : ℚ} {m : ℤ} (hlow : |x - m * u| ≤ u / 2)
    (hhigh : |x - (m + 1 : ℤ) * u| ≤ u / 2) (hlowTie : |x - m * u| = u / 2 → Even m)
    (hhighTie : |x - (m + 1 : ℤ) * u| = u / 2 → Even (m + 1)) : False := by
  push_cast at hhigh hhighTie
  have hbelow := (abs_le.mp hlow).2
  have habove := (abs_le.mp hhigh).1
  have hx : x = m * u + u / 2 := by linarith
  have hu : 0 ≤ u / 2 := (abs_nonneg _).trans hlow
  have heven : Even m := by
    apply hlowTie
    rw [hx, add_sub_cancel_left, abs_of_nonneg hu]
  have hodd : Even (m + 1) := by
    apply hhighTie
    rw [hx, show m * u + u / 2 - (m + 1) * u = -(u / 2) by ring, abs_neg, abs_of_nonneg hu]
  exact (Int.even_add_one.mp hodd) heven

/-- **NO CHOICE** is left by rounding. -/
theorem RoundsTo.unique {r' : ℚ} (h : RoundsTo digits x r) (h' : RoundsTo digits x r') :
    r = r' := by
  by_cases hx : x = 0
  · rw [h.zero hx, h'.zero hx]
  · obtain ⟨e, m, hunit, hr, hnear, htie⟩ := h.nearest hx
    obtain ⟨e', m', hunit', hr', hnear', htie'⟩ := h'.nearest hx
    have he : e' = e := hunit'.unique hunit
    subst he
    have hpos : (0 : ℚ) < 10 ^ e' := zpow_pos (by norm_num) e'
    rw [hr] at hnear htie ⊢
    rw [hr'] at hnear' htie' ⊢
    -- two such multiples are at most one unit apart
    have hlow : (m' : ℚ) * 10 ^ e' < (m + 2) * 10 ^ e' := by
      have h1 := (abs_le.mp hnear).2
      have h2 := (abs_le.mp hnear').1
      linarith
    have hhigh : (m : ℚ) * 10 ^ e' < (m' + 2) * 10 ^ e' := by
      have h1 := (abs_le.mp hnear').2
      have h2 := (abs_le.mp hnear).1
      linarith
    have hlt : m' < m + 2 := by exact_mod_cast lt_of_mul_lt_mul_right hlow hpos.le
    have hgt : m < m' + 2 := by exact_mod_cast lt_of_mul_lt_mul_right hhigh hpos.le
    rcases (by omega : m' = m ∨ m' = m + 1 ∨ m = m' + 1) with heq | heq | heq
    · rw [heq]
    · subst heq
      exact (not_both_even hnear hnear' htie htie').elim
    · subst heq
      exact (not_both_even hnear' hnear htie' htie).elim

/-- The sign makes no difference. -/
theorem RoundsTo.neg (h : RoundsTo digits x r) : RoundsTo digits (-x) (-r) where
  zero hx := by rw [h.zero (neg_eq_zero.mp hx), neg_zero]
  nearest hx := by
    obtain ⟨e, m, ⟨hleast, hmost⟩, hr, hnear, htie⟩ := h.nearest (neg_ne_zero.mp hx)
    have hdist : |-x - -r| = |x - r| := by rw [← neg_sub', abs_neg]
    refine ⟨e, -m, ⟨?_, ?_⟩, ?_, ?_, ?_⟩
    · rwa [abs_neg]
    · rwa [abs_neg]
    · rw [hr]
      push_cast
      ring
    · rwa [hdist]
    · rw [hdist, even_neg]
      exact htie

/-- A power of ten makes no difference. -/
theorem RoundsTo.scale (h : RoundsTo digits x r) (k : ℤ) :
    RoundsTo digits (x * 10 ^ k) (r * 10 ^ k) := by
  have hpos : (0 : ℚ) < 10 ^ k := zpow_pos (by norm_num) k
  have hadd : ∀ a b : ℤ, (10 : ℚ) ^ (a + b) = 10 ^ a * 10 ^ b :=
    fun a b => zpow_add₀ (by norm_num) a b
  constructor
  · intro hx
    rw [h.zero ((mul_eq_zero.mp hx).resolve_right hpos.ne'), zero_mul]
  · intro hx
    obtain ⟨e, m, ⟨hleast, hmost⟩, hr, hnear, htie⟩ := h.nearest (left_ne_zero_of_mul hx)
    have hdist : |x * 10 ^ k - r * 10 ^ k| = |x - r| * 10 ^ k := by
      rw [← sub_mul, abs_mul, abs_of_pos hpos]
    have hhalf : (10 : ℚ) ^ (e + k) / 2 = 10 ^ e / 2 * 10 ^ k := by
      rw [hadd]
      ring
    refine ⟨e + k, m, ⟨?_, ?_⟩, ?_, ?_, ?_⟩
    · rw [abs_mul, abs_of_pos hpos, show e + k + digits - 1 = e + digits - 1 + k by ring, hadd]
      exact mul_le_mul_of_nonneg_right hleast hpos.le
    · rw [abs_mul, abs_of_pos hpos, show e + k + digits = e + digits + k by ring, hadd]
      exact mul_lt_mul_of_pos_right hmost hpos
    · rw [hr, hadd, mul_assoc]
    · rw [hdist, hhalf]
      exact mul_le_mul_of_nonneg_right hnear hpos.le
    · rw [hdist, hhalf]
      exact fun heq => htie (mul_right_cancel₀ hpos.ne' heq)

end Significant

end ContractScan.Number
