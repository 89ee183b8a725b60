import ContractScan.Json.Reader
import ContractScan.Proofs.Text.Lines

/-! # Texts in quotes

    What stands between two quotes is a row of characters and escapes, and
    `WritesChars` has one rule for each form of them.  One rule looks ahead: the
    first half of a surrogate pair stands for itself only where the second half
    does not follow.

    **READ AND WRITTEN AGREE**: what is of the form is read up to the closing
    quote, whatever follows (`WritesChars.readText`), and what is read is of the
    form (`writesChars_of_readText`). -/

namespace ContractScan.Json

open ContractScan.Text

/-- Four hexadecimal digits and the unit of 16 bits that they stand for. -/
inductive IsUnit : List Char → Nat → Prop where
  | mk {a b c d : Char} {i j k l : Nat} : hexValue? a = some i → hexValue? b = some j →
      hexValue? c = some k → hexValue? d = some l →
      IsUnit [a, b, c, d] (((i * 16 + j) * 16 + k) * 16 + l)

/-- The characters begin with an escape of the second half of a pair. -/
def BeginsWithLowHalf (cs : List Char) : Prop :=
  ∃ ds n rest, IsUnit ds n ∧ isLowHalf n = true ∧ cs = '\\' :: 'u' :: (ds ++ rest)

/-- The characters between two quotes, and the text that they write. -/
inductive WritesChars : List Char → List Char → Prop where
  | nil : WritesChars [] []
  | plain {c : Char} {cs s : List Char} : c ≠ '"' → c ≠ '\\' → ¬ c.toNat < 32 →
      WritesChars cs s → WritesChars (c :: cs) (c :: s)
  | short {x c : Char} {cs s : List Char} : shortEscape? x = some c →
      WritesChars cs s → WritesChars ('\\' :: x :: cs) (c :: s)
  /-- A unit alone; the first half of a pair is alone only if the second does not
      follow. -/
  | unit {ds cs s : List Char} {n : Nat} : IsUnit ds n →
      ¬ (isHighHalf n = true ∧ BeginsWithLowHalf cs) →
      WritesChars cs s → WritesChars ('\\' :: 'u' :: (ds ++ cs)) (charOfUnit n :: s)
  | pair {ds ds' cs s : List Char} {n m : Nat} : IsUnit ds n → isHighHalf n = true →
      IsUnit ds' m → isLowHalf m = true → WritesChars cs s →
      WritesChars ('\\' :: 'u' :: (ds ++ '\\' :: 'u' :: (ds' ++ cs))) (joinHalves n m :: s)

section Units

variable {ds cs : List Char} {n : Nat}

theorem hexUnit?_eq_some_iff : hexUnit? cs = some n ↔
    ∃ ds c rest, IsUnit ds n ∧ cs = ds ++ c :: rest := by
  constructor
  · intro h
    unfold hexUnit? at h
    split at h
    · split at h
      · next ha hb hc hd =>
          rw [← Option.some.inj h]
          exact ⟨_, _, _, .mk ha hb hc hd, rfl⟩
      · exact nomatch h
    · exact nomatch h
  · rintro ⟨_, c, rest, ⟨ha, hb, hc, hd⟩, rfl⟩
    simp only [List.cons_append, List.nil_append, hexUnit?, ha, hb, hc, hd]

theorem IsUnit.length_eq (h : IsUnit ds n) : ds.length = 4 := by
  cases h
  rfl

theorem IsUnit.ne_quote (h : IsUnit ds n) : '"' ∉ ds := by
  have hall : ∀ d ∈ ds, (hexValue? d).isSome = true := by
    cases h with
    | mk ha hb hc hd => simp [ha, hb, hc, hd]
  intro hmem
  exact absurd (hall _ hmem) (by decide)

/-- The second half of a pair follows, and a character behind it. -/
def LowHalfFollows (cs : List Char) : Prop :=
  ∃ ds n c rest, IsUnit ds n ∧ isLowHalf n = true ∧ cs = '\\' :: 'u' :: (ds ++ c :: rest)

/-- Before a closing quote a second half follows if it stands there whole. -/
theorem lowHalfFollows_append_quote_iff {t : List Char} :
    LowHalfFollows (cs ++ '"' :: t) ↔ BeginsWithLowHalf cs := by
  constructor
  · rintro ⟨ds, n, c, rest, hunit, hlow, hcs⟩
    have hquote : '"' ∉ '\\' :: 'u' :: ds := by
      simp only [List.mem_cons, not_or]
      exact ⟨by decide, by decide, hunit.ne_quote⟩
    have hbegin : '\\' :: 'u' :: ds <+: cs ++ '"' :: t := by
      rw [hcs]
      exact ⟨c :: rest, rfl⟩
    obtain ⟨rest', hrest⟩ := (prefix_append_cons_iff hquote).mp hbegin
    exact ⟨ds, n, rest', hunit, hlow, hrest.symm⟩
  · rintro ⟨ds, n, rest, hunit, hlow, rfl⟩
    cases rest with
    | nil => exact ⟨ds, n, '"', t, hunit, hlow, by simp⟩
    | cons c rest => exact ⟨ds, n, c, rest ++ '"' :: t, hunit, hlow, by simp⟩

end Units

section Texts

variable {opened acc ds ds' cs s t : List Char} {n m used : Nat} {d : Char}

/-- A unit that is not completed to a pair. -/
theorem unitEscape_unit (hunit : IsUnit ds n) {c : Char} {rest : List Char}
    (halone : isHighHalf n = true → ∀ low, c :: rest = '\\' :: 'u' :: low →
      ∃ m, hexUnit? low = some m ∧ isLowHalf m = false) :
    unitEscape (ds ++ c :: rest) = .ok (charOfUnit n, 5) := by
  have hvalue : hexUnit? (ds ++ c :: rest) = some n :=
    hexUnit?_eq_some_iff.mpr ⟨ds, c, rest, hunit, rfl⟩
  have hrest : (ds ++ c :: rest).drop 4 = c :: rest := by
    rw [← hunit.length_eq, List.drop_left]
  simp only [unitEscape, hvalue, hrest]
  split
  · next hhigh =>
      split
      · next low hlow =>
          obtain ⟨m, hm, hno⟩ := halone hhigh low hlow
          simp [hm, hno]
      · rfl
  · rfl

theorem unitEscape_pair (hunit : IsUnit ds n) (hhigh : isHighHalf n = true)
    (hunit' : IsUnit ds' m) (hlow : isLowHalf m = true) (c : Char) (rest : List Char) :
    unitEscape (ds ++ '\\' :: 'u' :: (ds' ++ c :: rest)) = .ok (joinHalves n m, 11) := by
  have hvalue : hexUnit? (ds ++ '\\' :: 'u' :: (ds' ++ c :: rest)) = some n :=
    hexUnit?_eq_some_iff.mpr ⟨ds, _, _, hunit, rfl⟩
  have hvalue' : hexUnit? (ds' ++ c :: rest) = some m :=
    hexUnit?_eq_some_iff.mpr ⟨ds', c, rest, hunit', rfl⟩
  have hrest : (ds ++ '\\' :: 'u' :: (ds' ++ c :: rest)).drop 4 =
      '\\' :: 'u' :: (ds' ++ c :: rest) := by
    rw [← hunit.length_eq, List.drop_left]
  simp only [unitEscape, hvalue, hhigh, if_true, hrest, hvalue', hlow]

/-- A unit is read alone, or it is completed by the second half that follows. -/
theorem unitEscape_cases {digits : List Char} (h : unitEscape digits = .ok (d, used)) :
    (∃ ds n rest, digits = ds ++ rest ∧ IsUnit ds n ∧
        ¬ (isHighHalf n = true ∧ LowHalfFollows rest) ∧ d = charOfUnit n ∧ used = 5) ∨
      ∃ ds n ds' m rest, digits = ds ++ '\\' :: 'u' :: (ds' ++ rest) ∧ IsUnit ds n ∧
        isHighHalf n = true ∧ IsUnit ds' m ∧ isLowHalf m = true ∧ d = joinHalves n m ∧
        used = 11 := by
  cases hvalue : hexUnit? digits with
  | none =>
      simp only [unitEscape, hvalue] at h
      exact nomatch h
  | some n =>
      obtain ⟨ds, c, rest, hunit, rfl⟩ := hexUnit?_eq_some_iff.mp hvalue
      have hrest : (ds ++ c :: rest).drop 4 = c :: rest := by
        rw [← hunit.length_eq, List.drop_left]
      -- the second half is what the reader looks for
      have hfollows (hlow : LowHalfFollows (c :: rest)) :
          ∃ low m, c :: rest = '\\' :: 'u' :: low ∧ hexUnit? low = some m ∧ isLowHalf m = true := by
        obtain ⟨ds', m, c', rest', hunit', hlow, hcut⟩ := hlow
        exact ⟨_, m, hcut, hexUnit?_eq_some_iff.mpr ⟨ds', c', rest', hunit', rfl⟩, hlow⟩
      have halone (hno : ¬ (isHighHalf n = true ∧ LowHalfFollows (c :: rest)))
          (hd : .ok (charOfUnit n, 5) = (.ok (d, used) : Except ReadError (Char × Nat))) :
          ∃ ds' n' rest', ds ++ c :: rest = ds' ++ rest' ∧ IsUnit ds' n' ∧
            ¬ (isHighHalf n' = true ∧ LowHalfFollows rest') ∧ d = charOfUnit n' ∧ used = 5 := by
        obtain ⟨hchar, hused⟩ := Prod.mk.inj (Except.ok.inj hd)
        exact ⟨ds, n, c :: rest, rfl, hunit, hno, hchar.symm, hused.symm⟩
      simp only [unitEscape, hvalue, hrest] at h
      split at h
      · next hhigh =>
          split at h
          · next low hcut =>
              split at h
              · next m hm =>
                  split at h
                  · next hlow =>
                      obtain ⟨ds', c', rest', hunit', rfl⟩ := hexUnit?_eq_some_iff.mp hm
                      obtain ⟨hchar, hused⟩ := Prod.mk.inj (Except.ok.inj h)
                      exact Or.inr ⟨ds, n, ds', m, c' :: rest', by rw [hcut], hunit, hhigh,
                        hunit', hlow, hchar.symm, hused.symm⟩
                  · next hlow =>
                      refine Or.inl (halone (fun hboth => ?_) h)
                      obtain ⟨low', m', hcut', hm', hlow'⟩ := hfollows hboth.2
                      rw [hcut] at hcut'
                      obtain rfl : low = low' := (List.cons.inj (List.cons.inj hcut').2).2
                      rw [hm] at hm'
                      exact hlow (Option.some.inj hm' ▸ hlow')
              · next hnone =>
                  split at h
                  · exact nomatch h
                  · refine Or.inl (halone (fun hboth => ?_) h)
                    obtain ⟨low', m', hcut', hm', -⟩ := hfollows hboth.2
                    rw [hcut] at hcut'
                    obtain rfl : low = low' := (List.cons.inj (List.cons.inj hcut').2).2
                    rw [hnone] at hm'
                    exact nomatch hm'
          · next hother =>
              refine Or.inl (halone (fun hboth => ?_) h)
              obtain ⟨low, m, hcut, -, -⟩ := hfollows hboth.2
              exact hother low hcut
      · next hhigh => exact Or.inl (halone (fun hboth => hhigh hboth.1) h)

/-- The three forms of an escape that is read. -/
theorem escape_cases (h : escape opened cs = .ok (d, used)) :
    (∃ x rest, cs = x :: rest ∧ shortEscape? x = some d ∧ used = 1) ∨
      (∃ ds n rest, cs = 'u' :: (ds ++ rest) ∧ IsUnit ds n ∧
        ¬ (isHighHalf n = true ∧ LowHalfFollows rest) ∧ d = charOfUnit n ∧ used = 5) ∨
      (∃ ds n ds' m rest, cs = 'u' :: (ds ++ '\\' :: 'u' :: (ds' ++ rest)) ∧ IsUnit ds n ∧
        isHighHalf n = true ∧ IsUnit ds' m ∧ isLowHalf m = true ∧ d = joinHalves n m ∧
        used = 11) := by
  cases cs with
  | nil => exact nomatch h
  | cons c rest =>
      rw [escape] at h
      split at h
      · next hu =>
          rw [hu]
          rcases unitEscape_cases h with ⟨ds, n, rest', rfl, hunit⟩ |
            ⟨ds, n, ds', m, rest', rfl, hpair⟩
          · exact Or.inr (Or.inl ⟨ds, n, rest', rfl, hunit⟩)
          · exact Or.inr (Or.inr ⟨ds, n, ds', m, rest', rfl, hpair⟩)
      · split at h
        · next hshort =>
            obtain ⟨hchar, hused⟩ := Prod.mk.inj (Except.ok.inj h)
            exact Or.inl ⟨c, rest, rfl, hchar ▸ hshort, hused.symm⟩
        · exact nomatch h

/-- Characters that belong to an escape are passed over. -/
theorem readText_skip (opened acc used t : List Char) :
    readText opened used.length acc (used ++ t) = readText opened 0 acc t := by
  induction used with
  | nil => rfl
  | cons c used ih => exact ih

/-- An escape is read as the character it stands for. -/
theorem readText_escape {used : List Char} {k : Nat} (h : escape opened (used ++ t) = .ok (d, k))
    (hk : used.length = k) :
    readText opened 0 acc ('\\' :: (used ++ t)) = readText opened 0 (d :: acc) t := by
  rw [← readText_skip opened (d :: acc) used t, hk, readText, if_neg (by decide), if_pos rfl, h]

/-- Characters that begin with an escape of a unit have its digits. -/
theorem WritesChars.exists_unit (h : WritesChars ('\\' :: 'u' :: cs) s) :
    ∃ ds n rest, IsUnit ds n ∧ cs = ds ++ rest := by
  cases h with
  | plain _ hbackslash => exact absurd rfl hbackslash
  | short hshort => exact nomatch hshort
  | unit hunit => exact ⟨_, _, _, hunit, rfl⟩
  | pair hunit => exact ⟨_, _, _, hunit, rfl⟩

/-- Of an escape that begins before a quote, what is no quote stands before it. -/
theorem exists_of_append_quote {low : List Char} (h : cs ++ '"' :: t = '\\' :: 'u' :: low) :
    ∃ cs', cs = '\\' :: 'u' :: cs' ∧ low = cs' ++ '"' :: t := by
  cases cs with
  | nil => exact nomatch h
  | cons x cs =>
      cases cs with
      | nil => exact nomatch h
      | cons y cs =>
          obtain ⟨hx, h⟩ := List.cons.inj h
          obtain ⟨hy, h⟩ := List.cons.inj h
          exact ⟨cs, by rw [hx, hy], h.symm⟩

/-- What follows a unit that is alone does not complete it. -/
theorem WritesChars.not_completed (h : WritesChars cs s) (hno : ¬ BeginsWithLowHalf cs)
    {low : List Char} (hcut : cs ++ '"' :: t = '\\' :: 'u' :: low) :
    ∃ m, hexUnit? low = some m ∧ isLowHalf m = false := by
  obtain ⟨cs', rfl, rfl⟩ := exists_of_append_quote hcut
  obtain ⟨ds, m, rest, hunit, rfl⟩ := h.exists_unit
  obtain ⟨c, rest', hbehind⟩ :=
    List.exists_cons_of_ne_nil (List.append_ne_nil_of_right_ne_nil rest (List.cons_ne_nil '"' t))
  refine ⟨m, hexUnit?_eq_some_iff.mpr ⟨ds, c, rest', hunit, ?_⟩, ?_⟩
  · rw [List.append_assoc, hbehind]
  · rw [Bool.eq_false_iff]
    exact fun hlow => hno ⟨ds, m, rest, hunit, hlow, rfl⟩

/-- **CHARACTERS ARE READ** up to the closing quote. -/
theorem WritesChars.readText (h : WritesChars cs s) (opened acc t : List Char) :
    readText opened 0 acc (cs ++ '"' :: t) = .ok (String.ofList (acc.reverse ++ s), t) := by
  have hmore (c : Char) (s : List Char) : (c :: acc).reverse ++ s = acc.reverse ++ c :: s := by
    rw [List.reverse_cons, List.append_assoc, List.singleton_append]
  induction h generalizing acc with
  | nil =>
      rw [List.append_nil]
      rfl
  | @plain c cs s hquote hbackslash hcontrol _ ih =>
      rw [← hmore, ← ih (c :: acc) (fun c s => by simp), List.cons_append, Json.readText,
        if_neg hquote, if_neg hbackslash, if_neg hcontrol]
  | @short x c cs s hshort _ ih =>
      have hu : x ≠ 'u' := by
        rintro rfl
        exact nomatch hshort
      have hescape : escape opened ([x] ++ (cs ++ '"' :: t)) = .ok (c, 1) := by
        show escape opened (x :: (cs ++ '"' :: t)) = _
        rw [escape, if_neg hu, hshort]
      rw [← hmore, ← ih (c :: acc) (fun c s => by simp), ← readText_escape hescape rfl]
      rfl
  | @unit ds cs s n hunit halone hrest ih =>
      obtain ⟨c, rest, hbehind⟩ :=
        List.exists_cons_of_ne_nil (List.append_ne_nil_of_right_ne_nil cs (List.cons_ne_nil '"' t))
      have hescape : escape opened (('u' :: ds) ++ (cs ++ '"' :: t)) = .ok (charOfUnit n, 5) := by
        show unitEscape (ds ++ (cs ++ '"' :: t)) = _
        rw [hbehind]
        refine unitEscape_unit hunit fun hhigh low hcut => ?_
        exact hrest.not_completed (fun hlow => halone ⟨hhigh, hlow⟩) (hbehind.trans hcut)
      rw [← hmore, ← ih (_ :: acc) (fun c s => by simp),
        ← readText_escape hescape (by rw [List.length_cons, hunit.length_eq])]
      simp only [List.cons_append, List.append_assoc]
  | @pair ds ds' cs s n m hunit hhigh hunit' hlow _ ih =>
      obtain ⟨c, rest, hbehind⟩ :=
        List.exists_cons_of_ne_nil (List.append_ne_nil_of_right_ne_nil cs (List.cons_ne_nil '"' t))
      have hescape : escape opened (('u' :: (ds ++ '\\' :: 'u' :: ds')) ++ (cs ++ '"' :: t)) =
          .ok (joinHalves n m, 11) := by
        show unitEscape ((ds ++ '\\' :: 'u' :: ds') ++ (cs ++ '"' :: t)) = _
        rw [hbehind, List.append_assoc]
        exact unitEscape_pair hunit hhigh hunit' hlow c rest
      rw [← hmore, ← ih (_ :: acc) (fun c s => by simp), ← readText_escape hescape (by
        simp only [List.length_cons, List.length_append, hunit.length_eq, hunit'.length_eq])]
      simp only [List.cons_append, List.append_assoc]

/-- **WHAT IS READ AS CHARACTERS** up to a quote is of their form. -/
theorem writesChars_of_readText {r : List Char} {read : String}
    (h : readText opened 0 acc cs = .ok (read, r)) :
    ∃ w s, cs = w ++ '"' :: r ∧ WritesChars w s ∧ read = String.ofList (acc.reverse ++ s) := by
  -- an escape takes several characters at once, so the induction is on the length
  induction hlength : cs.length using Nat.strongRecOn generalizing cs acc with
  | ind length ih =>
      have hmore {c : Char} (taken : List Char) {rest : List Char} (hcs : cs = taken ++ rest)
          (hne : taken ≠ []) (hrest : readText opened 0 (c :: acc) rest = .ok (read, r))
          (hwrites : ∀ w s, rest = w ++ '"' :: r → WritesChars w s →
            WritesChars (taken ++ w) (c :: s)) :
          ∃ w s, cs = w ++ '"' :: r ∧ WritesChars w s ∧
            read = String.ofList (acc.reverse ++ s) := by
        have hshorter : rest.length < length := by
          have hpos := List.length_pos_of_ne_nil hne
          rw [← hlength, hcs, List.length_append]
          omega
        obtain ⟨w, s, hcut, hw, hread⟩ := ih rest.length hshorter hrest rfl
        refine ⟨taken ++ w, c :: s, ?_, hwrites w s hcut hw, ?_⟩
        · rw [hcs, hcut, List.append_assoc]
        · rw [hread, List.reverse_cons, List.append_assoc, List.singleton_append]
      cases cs with
      | nil => exact nomatch h
      | cons c rest =>
          rw [readText] at h
          split at h
          · next hquote =>
              obtain ⟨hread, hr⟩ := Prod.mk.inj (Except.ok.inj h)
              rw [hquote, hr]
              exact ⟨[], [], rfl, .nil, by rw [List.append_nil, hread]⟩
          · next hquote =>
              split at h
              · next hbackslash =>
                  rw [hbackslash] at hmore ⊢
                  split at h
                  · next d used hescape =>
                      rcases escape_cases hescape with ⟨x, rest', rfl, hshort, hk⟩ |
                        ⟨ds, n, rest', rfl, hunit, halone, hd, hk⟩ |
                        ⟨ds, n, ds', m, rest', rfl, hunit, hhigh, hunit', hlow, hd, hk⟩
                      · rw [hk] at h
                        exact hmore ['\\', x] rfl (List.cons_ne_nil _ _) h
                          fun w s _ hw => .short hshort hw
                      · have hused : ('u' :: ds).length = 5 := by
                          rw [List.length_cons, hunit.length_eq]
                        rw [hd, hk, ← List.cons_append, ← hused, readText_skip] at h
                        refine hmore ('\\' :: 'u' :: ds) rfl (List.cons_ne_nil _ _) h
                          fun w s hcut hw => .unit hunit (fun hboth => halone ?_) hw
                        rw [hcut, lowHalfFollows_append_quote_iff]
                        exact hboth
                      · have hused : ('u' :: (ds ++ '\\' :: 'u' :: ds')).length = 11 := by
                          simp only [List.length_cons, List.length_append, hunit.length_eq,
                            hunit'.length_eq]
                        have hcut : 'u' :: (ds ++ '\\' :: 'u' :: (ds' ++ rest')) =
                            'u' :: (ds ++ '\\' :: 'u' :: ds') ++ rest' := by simp
                        rw [hd, hk, hcut, ← hused, readText_skip] at h
                        refine hmore ('\\' :: 'u' :: (ds ++ '\\' :: 'u' :: ds'))
                          (by simp) (List.cons_ne_nil _ _) h fun w s _ hw => ?_
                        have hwrites := WritesChars.pair hunit hhigh hunit' hlow hw
                        simpa using hwrites
                  · exact nomatch h
              · next hbackslash =>
                  split at h
                  · exact nomatch h
                  · next hcontrol =>
                      exact hmore [c] rfl (List.cons_ne_nil _ _) h
                        fun w s _ hw => .plain hquote hbackslash hcontrol hw

end Texts

end ContractScan.Json
