import Mathlib.Algebra.Order.Field.Rat
import Mathlib.Data.List.TakeWhile
import Mathlib.Tactic.Linarith
import Mathlib.Tactic.Ring

/-! # Plain decimals -- numbers written out with a point

    A plain decimal is a sign or none, digits, a point and digits.  It is TIDY
    when nothing in it is superfluous: no zero before other whole digits, and no
    zero after other places.  A text is a tidy decimal in one way at most, so it
    denotes one number (`Denotes.unique`).

    Zeros at the end of the places do not count (`placesValue_append_zeros`). -/

namespace ContractScan.Number

/-- A number written out: the digits before the point and those after it. -/
structure PlainDecimal where
  minus : Bool
  whole : List Char
  places : List Char

/-- What digits after a point add to a number. -/
def placesValue (ds : List Char) : ℚ := (Nat.ofDigitChars 10 ds 0 : ℚ) / 10 ^ ds.length

namespace PlainDecimal

/-- The written form. -/
def text (d : PlainDecimal) : List Char :=
  (if d.minus then ['-'] else []) ++ (d.whole ++ '.' :: d.places)

/-- The number without its sign. -/
def magnitude (d : PlainDecimal) : ℚ := (Nat.ofDigitChars 10 d.whole 0 : ℚ) + placesValue d.places

/-- The number. -/
def value (d : PlainDecimal) : ℚ := if d.minus then -d.magnitude else d.magnitude

/-- There are digits on both sides of the point, and none that is superfluous. -/
structure IsTidy (d : PlainDecimal) : Prop where
  whole_digits : ∀ c ∈ d.whole, c.isDigit = true
  places_digits : ∀ c ∈ d.places, c.isDigit = true
  whole_ne_nil : d.whole ≠ []
  places_ne_nil : d.places ≠ []
  leading : d.whole.head? = some '0' → d.whole = ['0']
  trailing : d.places.getLast? = some '0' → d.places = ['0']

/-- The part of a tidy text after the sign tells the digits on both sides of the
    point. -/
theorem digits_unique {d d' : PlainDecimal} (h : d.IsTidy) (h' : d'.IsTidy)
    (htext : d.whole ++ '.' :: d.places = d'.whole ++ '.' :: d'.places) :
    d.whole = d'.whole ∧ d.places = d'.places := by
  have hpoint : ∀ {ds : List Char}, (∀ c ∈ ds, c.isDigit = true) → ∀ c ∈ ds, (c != '.') = true := by
    intro ds hds c hc
    rw [bne_iff_ne]
    rintro rfl
    exact absurd (hds '.' hc) (by decide)
  have hcut : ∀ {ds : List Char} (rest : List Char), (∀ c ∈ ds, c.isDigit = true) →
      (ds ++ '.' :: rest).takeWhile (· != '.') = ds := by
    intro ds rest hds
    rw [List.takeWhile_append_of_pos (hpoint hds)]
    simp
  have hwhole : d.whole = d'.whole := by
    rw [← hcut d.places h.whole_digits, htext, hcut d'.places h'.whole_digits]
  rw [hwhole] at htext
  exact ⟨hwhole, List.tail_eq_of_cons_eq (List.append_cancel_left htext)⟩

/-- A digit comes first where no sign does. -/
theorem head_whole_ne_minus {d : PlainDecimal} (h : d.IsTidy) (rest : List Char) :
    ∀ cs : List Char, d.whole ++ rest ≠ '-' :: cs := by
  intro cs hcs
  cases hwhole : d.whole with
  | nil => exact h.whole_ne_nil hwhole
  | cons c ds =>
      rw [hwhole, List.cons_append] at hcs
      have hdigit := h.whole_digits c (hwhole ▸ List.mem_cons_self ..)
      rw [List.head_eq_of_cons_eq hcs] at hdigit
      exact absurd hdigit (by decide)

/-- **ONE READING**: tidy decimals with the same text are the same. -/
theorem text_injective {d d' : PlainDecimal} (h : d.IsTidy) (h' : d'.IsTidy)
    (htext : d.text = d'.text) : d = d' := by
  obtain ⟨minus, whole, places⟩ := d
  obtain ⟨minus', whole', places'⟩ := d'
  cases minus <;> cases minus'
  · obtain ⟨hwhole, hplaces⟩ := digits_unique h h' htext
    exact congrArg₂ (PlainDecimal.mk false) hwhole hplaces
  · exact absurd htext (head_whole_ne_minus h _ _)
  · exact absurd htext.symm (head_whole_ne_minus h' _ _)
  · obtain ⟨hwhole, hplaces⟩ := digits_unique h h' (List.tail_eq_of_cons_eq htext)
    exact congrArg₂ (PlainDecimal.mk true) hwhole hplaces

end PlainDecimal

/-- The text is a tidy decimal and stands for the number. -/
def Denotes (t : String) (q : ℚ) : Prop :=
  ∃ d : PlainDecimal, d.IsTidy ∧ t.toList = d.text ∧ d.value = q

/-- A text denotes one number. -/
theorem Denotes.unique {t : String} {q q' : ℚ} (h : Denotes t q) (h' : Denotes t q') : q = q' := by
  obtain ⟨d, hd, htext, hq⟩ := h
  obtain ⟨d', hd', htext', hq'⟩ := h'
  rw [← hq, ← hq', PlainDecimal.text_injective hd hd' (htext.symm.trans htext')]

/-! ## Places -/

/-- Zeros at the end of the places do not count. -/
theorem placesValue_append_zeros (ds : List Char) (k : Nat) :
    placesValue (ds ++ List.replicate k '0') = placesValue ds := by
  have hpos : (10 : ℚ) ^ k ≠ 0 := pow_ne_zero k (by norm_num)
  rw [placesValue, placesValue, Nat.ofDigitChars_append, Nat.ofDigitChars_replicate_zero,
    List.length_append, List.length_replicate, pow_add, mul_comm ((10 : ℚ) ^ ds.length)]
  push_cast
  exact mul_div_mul_left _ _ hpos

/-- Digits are what is left without the zeros at their end, and zeros. -/
theorem exists_append_zeros (ds : List Char) :
    ∃ k, ds = (ds.reverse.dropWhile (· == '0')).reverse ++ List.replicate k '0' := by
  refine ⟨(ds.reverse.takeWhile (· == '0')).length, ?_⟩
  have hzeros : ds.reverse.takeWhile (· == '0') =
      List.replicate (ds.reverse.takeWhile (· == '0')).length '0' := by
    rw [List.eq_replicate_iff]
    refine ⟨rfl, fun c hc => ?_⟩
    have hzero := List.mem_takeWhile_imp hc
    exact beq_iff_eq.mp hzero
  rw [← List.reverse_replicate, ← hzeros, ← List.reverse_append, List.takeWhile_append_dropWhile,
    List.reverse_reverse]

end ContractScan.Number
