import ContractScan.Proofs.Text.Blank
import ContractScan.Text.Numeral

/-! # Numerals that are written are read

    A number in base sixteen is written with `0x` and its digits.  Reading takes
    blanks, a sign and the mark off first; none of them is mistaken for a digit,
    so what was written is read (`readHex_hexText`). -/

namespace ContractScan.Text

/-- The text of a number in base sixteen. -/
def hexText (n : Nat) : String := String.ofList ('0' :: 'x' :: Nat.toDigits 16 n)

section Digits

variable {d : Nat}

/-- What is known of the digits of base sixteen: each is read, none is an
    underscore and none is a blank. -/
theorem digitChar_spec (h : d < 16) :
    digitIn? 16 (Nat.digitChar d) = some d ∧ Nat.digitChar d ≠ '_' ∧
      isNumeralBlank (Nat.digitChar d) = false := by
  have hall : ∀ d < 16, digitIn? 16 (Nat.digitChar d) = some d ∧ Nat.digitChar d ≠ '_' ∧
      isNumeralBlank (Nat.digitChar d) = false := by
    decide +kernel
  exact hall d h

/-- Written digits are read one by one. -/
theorem readDigits_map_digitChar {ds : List Nat} (h : ∀ d ∈ ds, d < 16) (acc : List Nat) :
    readDigits 16 (ds.map Nat.digitChar) acc = some (acc.reverse ++ ds) := by
  induction ds generalizing acc with
  | nil => simp [readDigits]
  | cons d ds ih =>
      obtain ⟨hread, hmark, -⟩ := digitChar_spec (h d (List.mem_cons_self ..))
      have hrest := ih (fun e he => h e (List.mem_cons_of_mem d he)) (d :: acc)
      rw [List.map_cons, readDigits, hread]
      · simpa using hrest
      · intro c cs hc
        exact absurd hc hmark

/-- Written digits are a numeral. -/
theorem digits?_map_digitChar {ds : List Nat} (h : ∀ e ∈ d :: ds, e < 16) :
    digits? 16 ((d :: ds).map Nat.digitChar) = some (d :: ds) := by
  obtain ⟨hfirst, -, -⟩ := digitChar_spec (h d (List.mem_cons_self ..))
  have hrest := readDigits_map_digitChar (fun e he => h e (List.mem_cons_of_mem d he)) [d]
  rw [List.map_cons, digits?, hfirst]
  exact hrest

end Digits

/-- A number is written with digits that denote it. -/
theorem exists_digits (n : Nat) :
    ∃ d ds, Nat.toDigits 16 n = (d :: ds).map Nat.digitChar ∧ (∀ e ∈ d :: ds, e < 16) ∧
      ofDigits 16 (d :: ds) = n := by
  induction n using Nat.strongRecOn with
  | ind n ih =>
      by_cases hn : n < 16
      · refine ⟨n, [], Nat.toDigits_of_lt_base hn, by simpa using hn, ?_⟩
        simp [ofDigits]
      · obtain ⟨d, ds, hwritten, hdigits, hvalue⟩ := ih (n / 16) (by omega)
        refine ⟨d, ds ++ [n % 16], ?_, ?_, ?_⟩
        · rw [Nat.toDigits_of_base_le (by omega) (by omega), hwritten]
          simp
        · intro e he
          rw [← List.cons_append, List.mem_append, List.mem_singleton] at he
          rcases he with he | rfl
          · exact hdigits e he
          · omega
        · rw [ofDigits] at hvalue ⊢
          rw [← List.cons_append, List.foldl_append, hvalue, List.foldl_cons, List.foldl_nil]
          omega

/-- **WHAT IS WRITTEN IS READ** in base sixteen. -/
theorem readHex_hexText (n : Nat) : readHex (hexText n).toList = some (n : Int) := by
  obtain ⟨d, ds, hwritten, hdigits, hvalue⟩ := exists_digits n
  obtain ⟨-, hmark, -⟩ := digitChar_spec (hdigits d (List.mem_cons_self ..))
  have hblank : ∀ c ∈ '0' :: 'x' :: (d :: ds).map Nat.digitChar, isNumeralBlank c = false := by
    intro c hc
    rcases List.mem_cons.mp hc with rfl | hc
    · decide
    · rcases List.mem_cons.mp hc with rfl | hc
      · decide
      · obtain ⟨e, he, rfl⟩ := List.mem_map.mp hc
        exact (digitChar_spec (hdigits e he)).2.2
  have hsign : takeSign ('0' :: 'x' :: (d :: ds).map Nat.digitChar) =
      (false, '0' :: 'x' :: (d :: ds).map Nat.digitChar) := rfl
  have hmarked : takeHexMark ('0' :: 'x' :: (d :: ds).map Nat.digitChar) =
      (d :: ds).map Nat.digitChar := by
    rw [List.map_cons, takeHexMark]
    intro cs hcs
    exact absurd (List.head_eq_of_cons_eq hcs) hmark
  rw [hexText, String.toList_ofList, hwritten, readHex, trimBy_eq_self hblank, hsign]
  show (digits? 16 (takeHexMark _)).map _ = _
  rw [hmarked, digits?_map_digitChar hdigits, Option.map_some, hvalue]
  rfl

end ContractScan.Text
