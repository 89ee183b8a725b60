/-!
# Occurrence -- one text inside another

`occursIn w s` decides whether `w` stands somewhere in `s`. Main statement: it holds exactly when `s`
can be cut as `u ++ w ++ v`.
-/

namespace ContractScan.Text

/-- Whether `w` stands somewhere in the text. -/
def occursIn (w : List Char) : List Char → Bool
  | [] => w.isEmpty
  | c :: cs => w.isPrefixOf (c :: cs) || occursIn w cs

/-- `w` stands in `s` exactly when `s` is `w` with something before and something after. -/
theorem occursIn_iff (w s : List Char) : occursIn w s = true ↔ ∃ u v, s = u ++ w ++ v := by
  induction s with
  | nil =>
    simp only [occursIn, List.isEmpty_iff]
    constructor
    · intro h; exact ⟨[], [], by simp [h]⟩
    · rintro ⟨u, v, h⟩
      have hl := congrArg List.length h
      simp only [List.length_nil, List.length_append] at hl
      exact List.length_eq_zero_iff.mp (by omega)
  | cons c cs ih =>
    simp only [occursIn, Bool.or_eq_true, ih, List.isPrefixOf_iff_prefix]
    constructor
    · rintro (⟨v, h⟩ | ⟨u, v, h⟩)
      · exact ⟨[], v, by simpa using h.symm⟩
      · exact ⟨c :: u, v, by simp [h]⟩
    · rintro ⟨u, v, h⟩
      cases u with
      | nil => exact Or.inl ⟨v, by simpa using h.symm⟩
      | cons d u' =>
        simp only [List.cons_append, List.cons.injEq] at h
        exact Or.inr ⟨u', v, h.2⟩

end ContractScan.Text
