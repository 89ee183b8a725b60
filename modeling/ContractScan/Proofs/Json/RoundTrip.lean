import ContractScan.Json.Writer
import ContractScan.Proofs.Json.Grammar

/-! # Reading what was written

    What is written keeps to the grammar.  A character is written in one of four
    forms (`writeChar_cases`), each of which is a rule for the characters of a
    text, and an object is written member by member with one blank behind each
    separator.

    **READING UNDOES WRITING**: a value that is written by the rules is read
    back (`read_write`), which holds of a text, and of an object if it holds of
    the values and no name stands twice. -/

namespace ContractScan.Json

open ContractScan.Text

/-! ## Texts -/

/-- A hexadecimal digit has the value that was written. -/
theorem hexValue?_hexDigit (n : Nat) : hexValue? (hexDigit n) = some (n % 16) := by
  have hall : ∀ k < 16, hexValue? (Nat.digitChar k) = some k := by decide
  exact hall (n % 16) (Nat.mod_lt n (by decide))

/-- The four digits of a unit. -/
theorem exists_writeUnit {n : Nat} (hn : n < 0x10000) :
    ∃ ds, writeUnit n = '\\' :: 'u' :: ds ∧ IsUnit ds n := by
  have hunit := IsUnit.mk (hexValue?_hexDigit (n / 4096)) (hexValue?_hexDigit (n / 256))
    (hexValue?_hexDigit (n / 16)) (hexValue?_hexDigit n)
  have hvalue : ((n / 4096 % 16 * 16 + n / 256 % 16) * 16 + n / 16 % 16) * 16 + n % 16 = n := by
    omega
  rw [hvalue] at hunit
  exact ⟨_, rfl, hunit⟩

/-- The four forms in which a character is written: an escape of one letter, the
    character itself, one unit, or two. -/
theorem writeChar_cases (c : Char) :
    (∃ x, writeChar c = ['\\', x] ∧ shortEscape? x = some c) ∨
      (writeChar c = [c] ∧ c ≠ '"' ∧ c ≠ '\\' ∧ ¬ c.toNat < 32) ∨
      (writeChar c = writeUnit c.toNat ∧ c.toNat < 0x10000) ∨
      (writeChar c = writeUnit (0xD800 + (c.toNat - 0x10000) / 0x400) ++
          writeUnit (0xDC00 + (c.toNat - 0x10000) % 0x400) ∧ 0x10000 ≤ c.toNat) := by
  by_cases hquote : c = '"'
  · exact Or.inl ⟨'"', by rw [hquote]; rfl, by rw [hquote]; rfl⟩
  by_cases hbackslash : c = '\\'
  · exact Or.inl ⟨'\\', by rw [hbackslash]; rfl, by rw [hbackslash]; rfl⟩
  by_cases hfeed : c = '\n'
  · exact Or.inl ⟨'n', by rw [hfeed]; rfl, by rw [hfeed]; rfl⟩
  by_cases hreturn : c = '\r'
  · exact Or.inl ⟨'r', by rw [hreturn]; rfl, by rw [hreturn]; rfl⟩
  by_cases htab : c = '\t'
  · exact Or.inl ⟨'t', by rw [htab]; rfl, by rw [htab]; rfl⟩
  by_cases hback : c = '\x08'
  · exact Or.inl ⟨'b', by rw [hback]; rfl, by rw [hback]; rfl⟩
  by_cases hform : c = '\x0c'
  · exact Or.inl ⟨'f', by rw [hform]; rfl, by rw [hform]; rfl⟩
  -- no short escape is left, and the code point decides among the other forms
  simp only [writeChar, if_neg hquote, if_neg hbackslash, if_neg hfeed, if_neg hreturn,
    if_neg htab, if_neg hback, if_neg hform]
  by_cases hplain : 32 ≤ c.toNat ∧ c.toNat < 127
  · exact Or.inr (Or.inl ⟨if_pos hplain, hquote, hbackslash, by omega⟩)
  · rw [if_neg hplain]
    by_cases hfirst : c.toNat < 0x10000
    · exact Or.inr (Or.inr (Or.inl ⟨if_pos hfirst, hfirst⟩))
    · exact Or.inr (Or.inr (Or.inr ⟨if_neg hfirst, by omega⟩))

theorem lt_of_isHighHalf {n : Nat} (h : isHighHalf n = true) : n < 0x10000 := by
  simp only [isHighHalf, Bool.and_eq_true, decide_eq_true_eq] at h
  omega

theorem lt_of_isLowHalf {n : Nat} (h : isLowHalf n = true) : n < 0x10000 := by
  simp only [isLowHalf, Bool.and_eq_true, decide_eq_true_eq] at h
  omega

/-- No character is half of a pair. -/
theorem charOfUnit_toNat (c : Char) :
    isHighHalf c.toNat = false ∧ charOfUnit c.toNat = c := by
  have hvalid : c.toNat < 0xD800 ∨ 0xDFFF < c.toNat := by
    rcases c.valid with hlow | hhigh
    · exact Or.inl hlow
    · exact Or.inr hhigh.1
  have hhigh : isHighHalf c.toNat = false := by
    simp only [isHighHalf, Bool.and_eq_false_iff, decide_eq_false_iff_not]
    omega
  have hlow : isLowHalf c.toNat = false := by
    simp only [isLowHalf, Bool.and_eq_false_iff, decide_eq_false_iff_not]
    omega
  refine ⟨hhigh, ?_⟩
  rw [charOfUnit, hhigh, hlow]
  exact Char.ofNat_toNat c

/-- The two halves of a character beyond the first plane are joined to it. -/
theorem joinHalves_toNat {c : Char} (h : 0x10000 ≤ c.toNat) :
    isHighHalf (0xD800 + (c.toNat - 0x10000) / 0x400) = true ∧
      isLowHalf (0xDC00 + (c.toNat - 0x10000) % 0x400) = true ∧
      joinHalves (0xD800 + (c.toNat - 0x10000) / 0x400)
        (0xDC00 + (c.toNat - 0x10000) % 0x400) = c := by
  have hmost : c.toNat < 0x110000 := by
    rcases c.valid with hlow | hhigh
    · exact Nat.lt_trans hlow (by decide)
    · exact hhigh.2
  refine ⟨?_, ?_, ?_⟩
  · simp only [isHighHalf, Bool.and_eq_true, decide_eq_true_eq]
    omega
  · simp only [isLowHalf, Bool.and_eq_true, decide_eq_true_eq]
    omega
  · have hsum : 0x10000 + (0xD800 + (c.toNat - 0x10000) / 0x400 - 0xD800) * 0x400 +
        (0xDC00 + (c.toNat - 0x10000) % 0x400 - 0xDC00) = c.toNat := by omega
    rw [joinHalves, hsum]
    exact Char.ofNat_toNat c

/-- A written character keeps to the rules, before any others that do. -/
theorem WritesChars.writeChar {c : Char} {cs s : List Char} (h : WritesChars cs s) :
    WritesChars (writeChar c ++ cs) (c :: s) := by
  rcases writeChar_cases c with ⟨x, hform, hshort⟩ | ⟨hform, hquote, hbackslash, hcontrol⟩ |
    ⟨hform, hfirst⟩ | ⟨hform, hbeyond⟩
  · rw [hform]
    exact .short hshort h
  · rw [hform]
    exact .plain hquote hbackslash hcontrol h
  · obtain ⟨hhigh, hchar⟩ := charOfUnit_toNat c
    obtain ⟨ds, hds, hunit⟩ := exists_writeUnit hfirst
    have halone : ¬ (isHighHalf c.toNat = true ∧ BeginsWithLowHalf cs) := by
      rw [hhigh]
      exact fun hboth => nomatch hboth.1
    have hwrites := WritesChars.unit hunit halone h
    rw [hchar] at hwrites
    rw [hform, hds]
    exact hwrites
  · obtain ⟨hhigh, hlow, hchar⟩ := joinHalves_toNat hbeyond
    obtain ⟨ds, hds, hunit⟩ := exists_writeUnit (lt_of_isHighHalf hhigh)
    obtain ⟨ds', hds', hunit'⟩ := exists_writeUnit (lt_of_isLowHalf hlow)
    have hwrites := WritesChars.pair hunit hhigh hunit' hlow h
    rw [hchar] at hwrites
    rw [hform, hds, hds', List.append_assoc]
    exact hwrites

theorem writesChars_writeChars (s : List Char) : WritesChars (writeChars s) s := by
  induction s with
  | nil => exact .nil
  | cons c s ih =>
      rw [writeChars, List.flatMap_cons, ← writeChars]
      exact ih.writeChar

/-! ## Values -/

/-- The value is written by the rules of the grammar, and no object in it has two
    members of one name. -/
structure KeepsRules (v : Json) : Prop where
  writes : Writes (write v) v
  merged : v.merge = v

theorem isGap_nil : IsGap [] := fun _ hc => nomatch hc

theorem isGap_blank : IsGap [' '] := by
  intro c hc
  rw [List.mem_singleton.mp hc]
  rfl

theorem keepsRules_str (s : String) : KeepsRules (.str s) where
  writes := by
    have htext := Writes.text (writesChars_writeChars s.toList)
    rw [String.ofList_toList] at htext
    exact htext
  merged := rfl

/-- A member is written by the rules if its value is. -/
theorem writesMember_write {f : String × Json} (h : KeepsRules f.2) :
    WritesMember (writeText f.1 ++ ':' :: ' ' :: write f.2) f := by
  have hmember := WritesMember.mk (writesChars_writeChars f.1.toList) isGap_nil isGap_blank h.writes
  rw [String.ofList_toList] at hmember
  have htext : writeText f.1 ++ ':' :: ' ' :: write f.2 =
      '"' :: (writeChars f.1.toList ++ '"' :: ([] ++ ':' :: ([' '] ++ write f.2))) := by
    rw [writeText, List.cons_append, List.append_assoc]
    rfl
  rw [htext]
  exact hmember

/-- Fields are written by the rules if their values are. -/
theorem writesMembers_writeFields {f : String × Json} {fs : Fields}
    (h : ∀ g ∈ f :: fs, KeepsRules g.2) :
    WritesMembers (writeFields (f :: fs)) (f :: fs) := by
  induction fs generalizing f with
  | nil =>
      have hlast := WritesMembers.last (writesMember_write (h f (List.mem_cons_self ..))) isGap_nil
      have htext : writeFields [f] = writeText f.1 ++ ':' :: ' ' :: write f.2 ++ [] := by
        show writeText f.1 ++ ':' :: ' ' :: (write f.2 ++ []) = _
        simp only [List.append_nil]
      rw [htext]
      exact hlast
  | cons g fs ih =>
      have hmore := WritesMembers.more (writesMember_write (h f (List.mem_cons_self ..))) isGap_nil
        isGap_blank (ih fun k hk => h k (List.mem_cons_of_mem f hk))
      have htext : writeFields (f :: g :: fs) = writeText f.1 ++ ':' :: ' ' :: write f.2 ++
          ([] ++ ',' :: ([' '] ++ writeFields (g :: fs))) := by
        show writeText f.1 ++ ':' :: ' ' :: (write f.2 ++ ',' :: ' ' :: writeFields (g :: fs)) = _
        simp only [List.append_assoc, List.cons_append, List.nil_append]
      rw [htext]
      exact hmore

theorem mergeMembers_eq_self {fs : Fields} (h : ∀ f ∈ fs, KeepsRules f.2) :
    mergeMembers fs = fs := by
  induction fs with
  | nil => rfl
  | cons f fs ih =>
      obtain ⟨hf, hrest⟩ := List.forall_mem_cons.mp h
      rw [mergeMembers, hf.merged, ih hrest]

/-- An object keeps the rules if its values do and no name stands twice. -/
theorem keepsRules_obj {fs : Fields} (hvalues : ∀ f ∈ fs, KeepsRules f.2)
    (hnames : (fs.map Prod.fst).Nodup) : KeepsRules (.obj fs) where
  writes := by
    cases fs with
    | nil => exact .emptyObject isGap_nil
    | cons f fs => exact .object isGap_nil (writesMembers_writeFields hvalues)
  merged := by rw [merge, mergeMembers_eq_self hvalues, Fields.merged_of_nodup hnames]

/-- **READING UNDOES WRITING**: what was written by the rules is read as the
    value. -/
theorem read_write {v : Json} (h : KeepsRules v) : read (write v) = .ok v := by
  refine read_eq_ok_iff.mpr ⟨v, ?_, h.merged.symm⟩
  exact ⟨[], write v, [], isGap_nil, h.writes, isGap_nil, (List.append_nil _).symm⟩

end ContractScan.Json
