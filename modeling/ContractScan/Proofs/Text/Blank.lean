import ContractScan.Text.Blank
import Mathlib.Data.List.TakeWhile

/-! # What trimming leaves

    Trimming takes from both ends what is to be cut off and leaves a part of the
    text, whose ends are then of another kind.  A text without anything to cut
    off stays, and one of nothing else goes.  What is left of a text is the one
    part of it that stands between blanks and has none at its own ends
    (`trims_iff`). -/

namespace ContractScan

open ContractScan.Text

/-- Blanks and nothing else. -/
def IsBlanks (w : List Char) : Prop := ∀ c ∈ w, isBlank c = true

instance (w : List Char) : Decidable (IsBlanks w) :=
  decidable_of_iff (w.all isBlank = true) List.all_eq_true

namespace Text

variable {p : Char → Bool} {s : List Char} {c : Char}

theorem dropWhile_of_head? (h : ∀ c, s.head? = some c → p c = false) : s.dropWhile p = s := by
  cases s with
  | nil => rfl
  | cons c cs =>
      rw [List.dropWhile_cons_of_neg]
      rw [h c rfl]
      exact Bool.false_ne_true

/-- Nothing is cut off a text whose ends are not to be cut off. -/
theorem trimBy_of_ends (hfirst : ∀ c, s.head? = some c → p c = false)
    (hlast : ∀ c, s.getLast? = some c → p c = false) : trimBy p s = s := by
  have hbehind : s.reverse.dropWhile p = s.reverse := by
    refine dropWhile_of_head? fun c hc => hlast c ?_
    rwa [List.head?_reverse] at hc
  rw [trimBy, dropWhile_of_head? hfirst, hbehind, List.reverse_reverse]

/-- Nothing is cut off a text without characters to cut off. -/
theorem trimBy_eq_self (h : ∀ c ∈ s, p c = false) : trimBy p s = s :=
  trimBy_of_ends (fun c hc => h c (List.mem_of_head? hc))
    fun c hc => h c (List.mem_of_getLast? hc)

theorem trimBy_eq_nil (h : ∀ c ∈ s, p c = true) : trimBy p s = [] := by
  rw [trimBy, List.dropWhile_eq_nil_iff.mpr h]
  rfl

/-- What is cut off behind leaves the front as it is. -/
theorem trimBy_prefix_dropWhile (p : Char → Bool) (s : List Char) : trimBy p s <+: s.dropWhile p := by
  rw [trimBy, ← List.reverse_suffix, List.reverse_reverse]
  exact List.dropWhile_suffix p

theorem mem_of_mem_trimBy (h : c ∈ trimBy p s) : c ∈ s :=
  (List.dropWhile_suffix p).mem ((trimBy_prefix_dropWhile p s).mem h)

/-- What is to be cut off at the ends makes no difference. -/
theorem trimBy_append {front back : List Char} (hfront : ∀ c ∈ front, p c = true)
    (hback : ∀ c ∈ back, p c = true) (s : List Char) :
    trimBy p (front ++ (s ++ back)) = trimBy p s := by
  have hrest : ∀ t : List Char, ((t ++ back).reverse.dropWhile p) = t.reverse.dropWhile p := by
    intro t
    rw [List.reverse_append]
    exact List.dropWhile_append_of_pos fun c hc => hback c (List.mem_reverse.mp hc)
  rw [trimBy, trimBy, List.dropWhile_append_of_pos hfront]
  by_cases hs : ∀ c ∈ s, p c = true
  · -- nothing is left, in front of `back` or without it
    rw [List.dropWhile_append_of_pos hs, List.dropWhile_eq_nil_iff.mpr hs,
      List.dropWhile_eq_nil_iff.mpr hback]
  · have hleft : (s.dropWhile p).isEmpty = false := by
      rw [List.isEmpty_eq_false_iff]
      exact mt List.dropWhile_eq_nil_iff.mp hs
    rw [List.dropWhile_append, hleft, if_neg Bool.false_ne_true, hrest]

/-- What is left at the start of a trimmed text is not cut off. -/
theorem head?_trimBy (h : (trimBy p s).head? = some c) : p c = false := by
  have hhead := List.head?_dropWhile_not p s
  obtain ⟨t, ht⟩ := trimBy_prefix_dropWhile p s
  rw [← ht, List.head?_append, h] at hhead
  simpa using hhead

/-- What is left at the end of a trimmed text is not cut off. -/
theorem getLast?_trimBy (h : (trimBy p s).getLast? = some c) : p c = false := by
  rw [trimBy, List.getLast?_reverse] at h
  have hhead := List.head?_dropWhile_not p (s.dropWhile p).reverse
  rw [h] at hhead
  simpa using hhead

/-! ## Texts between blanks -/

/-- `t` is what stands in `s` between the blanks at its ends. -/
structure Trims (s t : List Char) : Prop where
  cut : ∃ front back, (∀ c ∈ front, isBlank c = true) ∧ (∀ c ∈ back, isBlank c = true) ∧
    s = front ++ (t ++ back)
  head : ∀ c, t.head? = some c → isBlank c = false
  last : ∀ c, t.getLast? = some c → isBlank c = false

/-- **ONE TEXT STANDS BETWEEN THE BLANKS**, and trimming leaves it. -/
theorem trims_iff {s t : List Char} : Trims s t ↔ t = trim s := by
  constructor
  · intro h
    obtain ⟨front, back, hfront, hback, rfl⟩ := h.cut
    rw [trim, trimBy_append hfront hback, trimBy_of_ends h.head h.last]
  · rintro rfl
    refine ⟨⟨s.takeWhile isBlank, ((s.dropWhile isBlank).reverse.takeWhile isBlank).reverse,
      fun c hc => ?_, fun c hc => ?_, ?_⟩, fun c hc => head?_trimBy hc, fun c hc => getLast?_trimBy hc⟩
    · exact List.all_eq_true.mp List.all_takeWhile c hc
    · exact List.all_eq_true.mp List.all_takeWhile c (List.mem_reverse.mp hc)
    · rw [trim, trimBy, ← List.reverse_append, List.takeWhile_append_dropWhile, List.reverse_reverse,
        List.takeWhile_append_dropWhile]

/-- Nothing but blanks is what trims to nothing. -/
theorem trim_eq_nil_iff {s : List Char} : trim s = [] ↔ IsBlanks s := by
  constructor
  · intro h
    obtain ⟨front, back, hfront, hback, hcut⟩ := (trims_iff.mpr h.symm).cut
    rw [hcut]
    exact List.forall_mem_append.mpr ⟨hfront, hback⟩
  · exact trimBy_eq_nil

/-- What stands between blanks is left as it is. -/
theorem Trims.self {s t : List Char} (h : Trims s t) : Trims t t where
  cut := ⟨[], [], nofun, nofun, (List.append_nil t).symm⟩
  head := h.head
  last := h.last

end Text

end ContractScan
