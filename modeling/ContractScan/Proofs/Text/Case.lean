import ContractScan.Proofs.Text.Lines
import ContractScan.Text.Case
import ContractScan.Text.Occurs
import Mathlib.Data.List.Basic

/-! # Words in the lower case of a text

    The lower case of a character depends on its neighbours for a sigma alone, and
    there are two small sigmas that it can become.  With these two taken for one,
    lower case goes character by character (`map_unfinal_lower`).

    **A KEYWORD IS FOUND IN THE PARTS**: one that has letters and digits of ASCII
    alone occurs in the lower case of joined lines exactly when it occurs in that
    of one of them (`infix_lower_joinLines_iff`). -/

namespace ContractScan.Text

/-! ## Both small sigmas taken for one -/

/-- The small sigma within a word in place of the one at its end. -/
def unfinal (c : Char) : Char := if c = 'ς' then 'σ' else c

/-- The lower case of a character, with the small sigmas taken for one. -/
def plainLower (c : Char) : List Char := (lowerAt [] c []).map unfinal

theorem map_unfinal_lowerAt (before : List Char) (c : Char) (after : List Char) :
    (lowerAt before c after).map unfinal = plainLower c := by
  rw [plainLower, lowerAt, lowerAt]
  by_cases hc : c = 'Σ'
  · rw [if_pos hc, if_pos hc]
    cases facesCased before && !facesCased after <;> rfl
  · rw [if_neg hc, if_neg hc]

theorem map_unfinal_lowerAfter (before s : List Char) :
    (lowerAfter before s).map unfinal = s.flatMap plainLower := by
  induction s generalizing before with
  | nil => rfl
  | cons c s ih =>
      rw [lowerAfter, List.map_append, map_unfinal_lowerAt, ih, List.flatMap_cons]

theorem map_unfinal_lower (s : List Char) : (lower s).map unfinal = s.flatMap plainLower :=
  map_unfinal_lowerAfter [] s

/-! ## Keywords -/

/-- A word of letters and digits of ASCII. -/
structure IsKeyword (w : List Char) : Prop where
  ne_nil : w ≠ []
  alphanum : ∀ c ∈ w, c.isAlphanum = true

section Keyword

variable {w s t l : List Char}

theorem IsKeyword.not_mem {c : Char} (hw : IsKeyword w) (hc : c.isAlphanum = false) : c ∉ w :=
  fun hmem => Bool.false_ne_true (hc.symm.trans (hw.alphanum c hmem))

/-- A keyword has no sigma, so it does not matter which one a text has. -/
theorem infix_map_unfinal_iff (hw : IsKeyword w) : w <:+: l.map unfinal ↔ w <:+: l := by
  have hkeep : ∀ {c d : Char}, unfinal c = d → d ∈ w → c = d := by
    intro c d hcd hd
    rw [unfinal] at hcd
    by_cases hc : c = 'ς'
    · rw [if_pos hc] at hcd
      exact absurd (hcd ▸ hd) (hw.not_mem (by decide))
    · rwa [if_neg hc] at hcd
  constructor
  · rintro ⟨u, v, huv⟩
    -- what is mapped to the keyword has no sigma either, so it is the keyword
    obtain ⟨l', v', rfl, hl', -⟩ := List.map_eq_append_iff.mp huv.symm
    obtain ⟨u', w', rfl, -, hw'⟩ := List.map_eq_append_iff.mp hl'
    have hsame : w' = w := by
      have hmap : w'.map unfinal = w'.map id := by
        refine List.map_congr_left fun c hc => ?_
        exact (hkeep rfl (hw' ▸ List.mem_map_of_mem hc)).symm
      rw [← hw', hmap, List.map_id]
    rw [hsame]
    exact ⟨u', v', rfl⟩
  · intro h
    have hmap : w.map unfinal = w := by
      refine (List.map_congr_left fun c hc => ?_).trans (List.map_id w)
      exact if_neg fun hsigma => hw.not_mem (by decide) (hsigma ▸ hc)
    rw [← hmap]
    exact h.map unfinal

theorem infix_lower_iff (hw : IsKeyword w) : w <:+: lower s ↔ w <:+: s.flatMap plainLower := by
  rw [← infix_map_unfinal_iff hw, map_unfinal_lower]

/-- **A KEYWORD IS FOUND IN THE PARTS** of a text that is joined by line feeds. -/
theorem infix_lower_joinLines_iff (hw : IsKeyword w) (ls : List (List Char)) :
    w <:+: lower (joinLines ls) ↔ ∃ l ∈ ls, w <:+: lower l := by
  have hnewline : plainLower '\n' = ['\n'] := by decide +kernel
  rw [infix_lower_iff hw, flatMap_joinLines hnewline,
    infix_joinLines_iff hw.ne_nil (hw.not_mem (by decide))]
  simp only [infix_lower_iff hw, List.mem_map, exists_exists_and_eq_and]

/-- What occurs in one of two texts occurs in both together. -/
theorem infix_lower_append (hw : IsKeyword w) (h : w <:+: lower s ∨ w <:+: lower t) :
    w <:+: lower (s ++ t) := by
  rw [infix_lower_iff hw, infix_lower_iff hw] at h
  rw [infix_lower_iff hw, List.flatMap_append]
  rcases h with h | h
  · exact h.trans (List.prefix_append _ _).isInfix
  · exact h.trans (List.suffix_append _ _).isInfix

end Keyword

/-! ## Letters of ASCII in another case -/

/-- Texts with the same characters but for the case of letters of ASCII. -/
def SameButCase (s t : List Char) : Prop := List.Forall₂ (fun c d => c.toLower = d.toLower) s t

instance (s t : List Char) : Decidable (SameButCase s t) :=
  inferInstanceAs (Decidable (List.Forall₂ (fun c d => c.toLower = d.toLower) s t))

theorem toLower_of_ge {c : Char} (h : 128 ≤ c.toNat) : c.toLower = c := by
  refine dif_neg ?_
  rintro ⟨-, hle⟩
  have hle : c.toNat ≤ 90 := UInt32.le_iff_toNat_le.mp hle
  omega

theorem toNat_toLower_lt {c : Char} (h : c.toNat < 128) : c.toLower.toNat < 128 := by
  have hall : ∀ n < 128, (Char.ofNat n).toLower.toNat < 128 := by decide +kernel
  have hc := hall c.toNat h
  rwa [Char.ofNat_toNat] at hc

theorem plainLower_of_lt {c : Char} (h : c.toNat < 128) : plainLower c = [unfinal c.toLower] := by
  have hsigma : c ≠ 'Σ' := by
    rintro rfl
    exact absurd h (by decide)
  rw [plainLower, lowerAt, if_neg hsigma, lowerChar, if_pos h]
  rfl

theorem plainLower_congr {c d : Char} (h : c.toLower = d.toLower) : plainLower c = plainLower d := by
  rcases Nat.lt_or_ge c.toNat 128 with hc | hc
  · rcases Nat.lt_or_ge d.toNat 128 with hd | hd
    · rw [plainLower_of_lt hc, plainLower_of_lt hd, h]
    · have hlt := toNat_toLower_lt hc
      rw [h, toLower_of_ge hd] at hlt
      omega
  · rcases Nat.lt_or_ge d.toNat 128 with hd | hd
    · have hlt := toNat_toLower_lt hd
      rw [← h, toLower_of_ge hc] at hlt
      omega
    · rw [toLower_of_ge hc, toLower_of_ge hd] at h
      rw [h]

theorem SameButCase.flatMap_plainLower {s t : List Char} (h : SameButCase s t) :
    s.flatMap plainLower = t.flatMap plainLower := by
  induction h with
  | nil => rfl
  | cons hcd _ ih => rw [List.flatMap_cons, List.flatMap_cons, plainLower_congr hcd, ih]

end ContractScan.Text
