import ContractScan.Chain.Address
import ContractScan.Proofs.Text.Blank

/-! # Which texts are addresses

    An address is written with forty-two characters and nothing else: `0x` and
    forty digits.  The test that a fetch makes lets a line feed pass after them
    (`isAddress_iff`), but it looks at a text whose blanks were cut off, and a
    line feed is a blank, so the two agree there (`isAddress_trimmed_iff`). -/

namespace ContractScan.Chain

open ContractScan.Text

/-- The digits of an address. -/
def addressDigits : List Char := "0123456789abcdefABCDEF".toList

/-- The text is `0x` and forty digits. -/
def IsAddress (t : String) : Prop :=
  ∃ ds, t.toList = '0' :: 'x' :: ds ∧ ds.length = 40 ∧ ∀ d ∈ ds, d ∈ addressDigits

/-- No digit of an address lies beyond ASCII. -/
theorem toNat_lt_of_isHexDigit {c : Char} (h : isHexDigit c = true) : c.toNat < 128 := by
  rcases Nat.lt_or_ge c.toNat 128 with hlt | hge
  · exact hlt
  · have hnone : asciiDigit? c = none := by
      simp only [asciiDigit?, Bool.and_eq_true, decide_eq_true_eq]
      rw [if_neg (by omega), if_neg (by omega), if_neg (by omega)]
    rw [isHexDigit, hnone] at h
    exact nomatch h

/-- The digits are those of base sixteen, in either case. -/
theorem isHexDigit_iff (c : Char) : isHexDigit c = true ↔ c ∈ addressDigits := by
  have hascii : ∀ n < 128, isHexDigit (Char.ofNat n) = true ↔ Char.ofNat n ∈ addressDigits := by
    decide +kernel
  have hbelow : addressDigits.all (·.toNat < 128) = true := by decide +kernel
  have hsame : c.toNat < 128 → (isHexDigit c = true ↔ c ∈ addressDigits) := by
    intro hlt
    have hc := hascii c.toNat hlt
    rwa [Char.ofNat_toNat] at hc
  constructor
  · intro h
    exact (hsame (toNat_lt_of_isHexDigit h)).mp h
  · intro h
    exact (hsame (of_decide_eq_true (List.all_eq_true.mp hbelow c h))).mpr h

/-- Forty digits after `0x` pass the exact test, and nothing else does. -/
theorem isExactAddress_iff (cs : List Char) :
    isExactAddress cs = true ↔
      ∃ ds, cs = '0' :: 'x' :: ds ∧ ds.length = 40 ∧ ∀ d ∈ ds, d ∈ addressDigits := by
  unfold isExactAddress
  split
  · rename_i ds
    simp [isHexDigit_iff]
  · rename_i hne
    constructor
    · intro h
      exact nomatch h
    · rintro ⟨ds, hcs, -⟩
      exact absurd hcs (hne ds)

/-- An address is written with forty-two characters, of which the last is no line
    feed. -/
theorem IsAddress.ends {t : String} (h : IsAddress t) :
    t.length = 42 ∧ t.toList.getLast? ≠ some '\n' := by
  obtain ⟨ds, hds, hlength, hdigits⟩ := h
  constructor
  · rw [← String.length_toList, hds, List.length_cons, List.length_cons, hlength]
  · have hne : ds ≠ [] := by
      rintro rfl
      exact nomatch hlength
    have hnone : '\n' ∉ addressDigits := by decide
    rw [hds, List.getLast?_cons_cons, List.getLast?_cons_of_ne_nil hne]
    intro hlast
    exact hnone (hdigits _ (List.mem_of_getLast? hlast))

/-- The test by itself lets an address pass, and an address with a line feed
    behind it. -/
theorem isAddress_iff (t : String) :
    isAddress t.toList = true ↔ IsAddress t ∨ ∃ u, IsAddress u ∧ t = u ++ "\n" := by
  rw [isAddress, Bool.or_eq_true, Bool.and_eq_true, isExactAddress_iff, isExactAddress_iff,
    beq_iff_eq]
  refine or_congr Iff.rfl ⟨?_, ?_⟩
  · rintro ⟨hlast, ds, hds, haddress⟩
    obtain ⟨u, hu⟩ := List.getLast?_eq_some_iff.mp hlast
    rw [hu, List.dropLast_concat] at hds
    refine ⟨String.ofList u, ⟨ds, by rw [String.toList_ofList, hds], haddress⟩, ?_⟩
    apply String.toList_injective
    rw [String.toList_append, String.toList_ofList, hu]
    rfl
  · rintro ⟨u, ⟨ds, hds, haddress⟩, rfl⟩
    rw [String.toList_append, show "\n".toList = ['\n'] from rfl, List.dropLast_concat]
    exact ⟨List.getLast?_concat, ds, hds, haddress⟩

/-- **NO LINE FEED PASSES**: of a trimmed text, the test accepts the addresses and
    nothing else. -/
theorem isAddress_trimmed_iff (t : String) :
    isAddress (trimmed t).toList = true ↔ IsAddress (trimmed t) := by
  have hlast : (trimmed t).toList.getLast? ≠ some '\n' := by
    intro h
    rw [trimmed, String.toList_ofList] at h
    have hblank := getLast?_trimBy h
    rw [isBlank_newline] at hblank
    exact nomatch hblank
  rw [isAddress_eq hlast, isExactAddress_iff]
  rfl

end ContractScan.Chain
