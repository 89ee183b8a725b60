import ContractScan.Proofs.Json.Members
import ContractScan.Proofs.Json.Numeral
import ContractScan.Proofs.Json.Quoted

/-! # The grammar of JSON texts

    What a text denotes is said here without a reader.  The grammar has one rule
    for each form of a value.  It puts no bound on steps and carries nothing
    along, and an object keeps all its members as they are written until the last
    of its rules merges them.

    That the reader takes exactly these texts is shown by induction on the bound
    of its steps, once in each direction: `SoundAt` says what has been read with
    a bound, `CompleteAt` what can be read with it.  **THE LENGTH IS ENOUGH** as
    a bound.

    **THE READER DECIDES THE GRAMMAR**: `read_eq_ok_iff`. -/

namespace ContractScan.Json

open ContractScan.Text

/-! ## Gaps -/

/-- Separators and nothing else. -/
def IsGap (cs : List Char) : Prop := ∀ c ∈ cs, isSeparator c = true

theorem isGap_takeWhile (cs : List Char) : IsGap (cs.takeWhile isSeparator) := by
  intro c hc
  exact List.all_eq_true.mp (List.all_takeWhile (l := cs) (p := isSeparator)) c hc

/-- What is skipped is a gap. -/
theorem exists_gap_skip (cs : List Char) : ∃ gap, IsGap gap ∧ cs = gap ++ skip cs :=
  ⟨cs.takeWhile isSeparator, isGap_takeWhile cs, List.takeWhile_append_dropWhile.symm⟩

theorem skip_cons {c : Char} (h : isSeparator c = false) (t : List Char) :
    skip (c :: t) = c :: t := by
  rw [skip, List.dropWhile_cons_of_neg (by rw [h]; exact Bool.false_ne_true)]

/-- A gap is skipped up to what follows it. -/
theorem skip_gap {gap t : List Char} (hgap : IsGap gap) : skip (gap ++ t) = skip t := by
  rw [skip, List.dropWhile_append_of_pos hgap, ← skip]

theorem skip_gap_cons {gap t : List Char} {c : Char} (hgap : IsGap gap)
    (hc : isSeparator c = false) : skip (gap ++ c :: t) = c :: t := by
  rw [skip_gap hgap, skip_cons hc]

theorem skip_of_isGap {gap : List Char} (hgap : IsGap gap) : skip gap = [] := by
  rw [← List.append_nil gap, skip_gap hgap]
  rfl

/-! ## Values -/

mutual

/-- The value with the members of each of its objects merged. -/
def merge : Json → Json
  | .arr vs => .arr (mergeItems vs)
  | .obj ms => .obj (Fields.merged (mergeMembers ms))
  | v => v

/-- The items of a list, each merged. -/
def mergeItems : List Json → List Json
  | [] => []
  | v :: vs => merge v :: mergeItems vs

/-- The members of an object, each with its value merged. -/
def mergeMembers : List (String × Json) → List (String × Json)
  | [] => []
  | (k, v) :: ms => (k, merge v) :: mergeMembers ms

end

mutual

/-- The text of a value, from its first character to its last.  An object has its
    members as they are written. -/
inductive Writes : List Char → Json → Prop where
  | word {cs : List Char} {v : Json} : (cs, v) ∈ words → Writes cs v
  | number {cs : List Char} {v : Json} : WritesNumber cs v → Writes cs v
  | text {cs s : List Char} : WritesChars cs s →
      Writes ('"' :: (cs ++ ['"'])) (.str (String.ofList s))
  | emptyList {gap : List Char} : IsGap gap → Writes ('[' :: (gap ++ [']'])) (.arr [])
  | list {gap cs : List Char} {vs : List Json} : IsGap gap → WritesItems cs vs →
      Writes ('[' :: (gap ++ (cs ++ [']']))) (.arr vs)
  | emptyObject {gap : List Char} : IsGap gap → Writes ('\x7b' :: (gap ++ ['\x7d'])) (.obj [])
  | object {gap cs : List Char} {ms : List (String × Json)} : IsGap gap → WritesMembers cs ms →
      Writes ('\x7b' :: (gap ++ (cs ++ ['\x7d']))) (.obj ms)

/-- The items of a list, with the gap behind the last. -/
inductive WritesItems : List Char → List Json → Prop where
  | last {cs gap : List Char} {v : Json} : Writes cs v → IsGap gap → WritesItems (cs ++ gap) [v]
  | more {cs gap gap' rest : List Char} {v : Json} {vs : List Json} : Writes cs v → IsGap gap →
      IsGap gap' → WritesItems rest vs →
      WritesItems (cs ++ (gap ++ ',' :: (gap' ++ rest))) (v :: vs)

/-- A member of an object: a name and its value. -/
inductive WritesMember : List Char → String × Json → Prop where
  | mk {name k gap gap' cs : List Char} {v : Json} : WritesChars name k → IsGap gap →
      IsGap gap' → Writes cs v →
      WritesMember ('"' :: (name ++ '"' :: (gap ++ ':' :: (gap' ++ cs)))) (String.ofList k, v)

/-- The members of an object, with the gap behind the last. -/
inductive WritesMembers : List Char → List (String × Json) → Prop where
  | last {cs gap : List Char} {m : String × Json} : WritesMember cs m → IsGap gap →
      WritesMembers (cs ++ gap) [m]
  | more {cs gap gap' rest : List Char} {m : String × Json} {ms : List (String × Json)} :
      WritesMember cs m → IsGap gap → IsGap gap' → WritesMembers rest ms →
      WritesMembers (cs ++ (gap ++ ',' :: (gap' ++ rest))) (m :: ms)

end

/-- A text that denotes a value: the text of the value between two gaps. -/
def Denotes (cs : List Char) (v : Json) : Prop :=
  ∃ before w behind, IsGap before ∧ Writes w v ∧ IsGap behind ∧ cs = before ++ (w ++ behind)

/-! ## What is read is of the form -/

/-- What has been read with a bound is of its form, and merged. -/
structure SoundAt (n : Nat) : Prop where
  value : ∀ {cs r : List Char} {v : Json}, readValue n cs = .ok (v, r) →
    ∃ w raw, cs = w ++ r ∧ Writes w raw ∧ v = raw.merge
  items : ∀ {acc : List Json} {cs r : List Char} {v : Json}, readItems n acc cs = .ok (v, r) →
    ∃ w vs, cs = w ++ ']' :: r ∧ WritesItems w vs ∧ v = .arr (acc.reverse ++ mergeItems vs)
  fields : ∀ {acc : Fields} {cs r : List Char} {v : Json}, readFields n acc cs = .ok (v, r) →
    ∃ w ms, cs = w ++ '\x7d' :: r ∧ WritesMembers w ms ∧
      v = .obj (Fields.insertAll acc (mergeMembers ms))

section Sound

variable {n : Nat} {cs r : List Char} {v : Json}

theorem merge_of_mem_words {w : List Char} (h : (w, v) ∈ words) : v.merge = v := by
  simp only [words, List.mem_cons, List.not_mem_nil, or_false, Prod.mk.injEq] at h
  rcases h with ⟨-, rfl⟩ | ⟨-, rfl⟩ | ⟨-, rfl⟩ | ⟨-, rfl⟩ | ⟨-, rfl⟩ | ⟨-, rfl⟩ <;> rfl

theorem WritesNumber.merge_eq {w : List Char} (h : WritesNumber w v) : v.merge = v := by
  cases h <;> rfl

theorem writes_of_readScalar (h : readScalar cs = .ok (v, r)) :
    ∃ w, cs = w ++ r ∧ Writes w v ∧ v.merge = v := by
  rw [readScalar] at h
  split at h
  · next w hfind =>
      obtain ⟨rfl, rfl⟩ := Prod.mk.inj (Except.ok.inj h)
      have hbegin : w.1.isPrefixOf cs = true :=
        List.find?_some (p := fun w : List Char × Json => w.1.isPrefixOf cs) hfind
      have hcut := List.prefix_iff_eq_append.mp (List.isPrefixOf_iff_prefix.mp hbegin)
      have hword : (w.1, w.2) ∈ words := List.mem_of_find?_eq_some hfind
      exact ⟨w.1, hcut.symm, .word hword, merge_of_mem_words hword⟩
  · obtain ⟨w, hcs, hw⟩ := writesNumber_of_readNumber h
    exact ⟨w, hcs, .number hw, hw.merge_eq⟩

/-- What skipping leaves stands behind a gap. -/
theorem exists_gap_of_skip {rest behind : List Char} {c : Char} (h : skip rest = c :: behind) :
    ∃ gap, IsGap gap ∧ rest = gap ++ c :: behind := by
  obtain ⟨gap, hgap, hrest⟩ := exists_gap_skip rest
  exact ⟨gap, hgap, h ▸ hrest⟩

theorem SoundAt.readValue_succ (hn : SoundAt n) (h : readValue (n + 1) cs = .ok (v, r)) :
    ∃ w raw, cs = w ++ r ∧ Writes w raw ∧ v = raw.merge := by
  cases cs with
  | nil => exact nomatch h
  | cons c rest =>
      rw [readValue] at h
      split at h
      · next hquote =>
          split at h
          · next s r' hread =>
              obtain ⟨rfl, rfl⟩ := Prod.mk.inj (Except.ok.inj h)
              obtain ⟨w, s, rfl, hw, hs⟩ := writesChars_of_readText hread
              rw [hquote, hs]
              exact ⟨'"' :: (w ++ ['"']), _, by simp, .text hw, rfl⟩
          · exact nomatch h
      · split at h
        · next hbrace =>
            split at h
            · next r' hskip =>
                obtain ⟨rfl, rfl⟩ := Prod.mk.inj (Except.ok.inj h)
                obtain ⟨gap, hgap, rfl⟩ := exists_gap_of_skip hskip
                rw [hbrace]
                exact ⟨'\x7b' :: (gap ++ ['\x7d']), _, by simp, .emptyObject hgap, rfl⟩
            · obtain ⟨w, ms, hskip, hw, rfl⟩ := hn.fields h
              obtain ⟨gap, hgap, hrest⟩ := exists_gap_skip rest
              rw [hbrace, hrest, hskip]
              exact ⟨'\x7b' :: (gap ++ (w ++ ['\x7d'])), _, by simp, .object hgap hw, rfl⟩
        · split at h
          · next hbracket =>
              split at h
              · next r' hskip =>
                  obtain ⟨rfl, rfl⟩ := Prod.mk.inj (Except.ok.inj h)
                  obtain ⟨gap, hgap, rfl⟩ := exists_gap_of_skip hskip
                  rw [hbracket]
                  exact ⟨'[' :: (gap ++ [']']), _, by simp, .emptyList hgap, rfl⟩
              · obtain ⟨w, vs, hskip, hw, rfl⟩ := hn.items h
                obtain ⟨gap, hgap, hrest⟩ := exists_gap_skip rest
                rw [hbracket, hrest, hskip]
                exact ⟨'[' :: (gap ++ (w ++ [']'])), _, by simp, .list hgap hw, rfl⟩
          · obtain ⟨w, hcs, hw, hmerge⟩ := writes_of_readScalar h
            exact ⟨w, v, hcs, hw, hmerge.symm⟩

theorem SoundAt.readItems_succ {acc : List Json} (hn : SoundAt n)
    (h : readItems (n + 1) acc cs = .ok (v, r)) :
    ∃ w vs, cs = w ++ ']' :: r ∧ WritesItems w vs ∧ v = .arr (acc.reverse ++ mergeItems vs) := by
  rw [readItems] at h
  split at h
  · exact nomatch h
  · next first rest hread =>
      obtain ⟨w, raw, rfl, hw, rfl⟩ := hn.value hread
      obtain ⟨gap, hgap, hrest⟩ := exists_gap_skip rest
      split at h
      · next behind hskip =>
          obtain ⟨rfl, rfl⟩ := Prod.mk.inj (Except.ok.inj h)
          rw [hrest, hskip]
          exact ⟨w ++ gap, [raw], by simp, .last hw hgap, by simp [mergeItems]⟩
      · next behind hskip =>
          obtain ⟨rest', vs, hnext, hrest', rfl⟩ := hn.items h
          obtain ⟨gap', hgap', hbehind⟩ := exists_gap_skip behind
          rw [hrest, hskip, hbehind, hnext]
          exact ⟨w ++ (gap ++ ',' :: (gap' ++ rest')), raw :: vs, by simp,
            .more hw hgap hgap' hrest', by simp [mergeItems]⟩
      · exact nomatch h

theorem SoundAt.readFields_succ {acc : Fields} (hn : SoundAt n)
    (h : readFields (n + 1) acc cs = .ok (v, r)) :
    ∃ w ms, cs = w ++ '\x7d' :: r ∧ WritesMembers w ms ∧
      v = .obj (Fields.insertAll acc (mergeMembers ms)) := by
  rw [readFields.eq_def] at h
  split at h
  · next hzero => exact nomatch hzero
  · next m hm =>
      obtain rfl := Nat.succ.inj hm
      split at h
      · next rest =>
          split at h
          · exact nomatch h
          · next k behind hread =>
              obtain ⟨name, k, rfl, hname, rfl⟩ := writesChars_of_readText hread
              obtain ⟨gap, hgap, hbehind⟩ := exists_gap_skip behind
              split at h
              · next afterColon hskip =>
                  obtain ⟨gap', hgap', hafterColon⟩ := exists_gap_skip afterColon
                  split at h
                  · exact nomatch h
                  · next first afterValue hread =>
                      obtain ⟨w, raw, hw, hvalue, rfl⟩ := hn.value hread
                      obtain ⟨last, hlast, hafterValue⟩ := exists_gap_skip afterValue
                      have hmember := WritesMember.mk hname hgap hgap' hvalue
                      rw [hbehind, hskip, hafterColon, hw, hafterValue]
                      split at h
                      · next behind' hskip' =>
                          obtain ⟨rfl, rfl⟩ := Prod.mk.inj (Except.ok.inj h)
                          rw [hskip']
                          exact ⟨_, _, by simp, .last hmember hlast, rfl⟩
                      · next afterComma hskip' =>
                          obtain ⟨more, ms, hnext, hmore, rfl⟩ := hn.fields h
                          obtain ⟨first, hfirst, hafterComma⟩ := exists_gap_skip afterComma
                          rw [hskip', hafterComma, hnext]
                          exact ⟨_, _, by simp, .more hmember hlast hfirst hmore, rfl⟩
                      · exact nomatch h
              · exact nomatch h
      · exact nomatch h

/-- **WHAT IS READ IS OF THE FORM**, with any bound. -/
theorem soundAt (n : Nat) : SoundAt n := by
  induction n with
  | zero =>
      refine ⟨fun h => ?_, fun h => ?_, fun h => ?_⟩
      · rw [readValue] at h
        exact nomatch h
      · rw [readItems] at h
        exact nomatch h
      · rw [readFields] at h
        exact nomatch h
  | succ n ih => exact ⟨ih.readValue_succ, ih.readItems_succ, ih.readFields_succ⟩

end Sound

/-! ## What is of the form is read -/

/-- What is not longer than a bound is read with it, whatever follows. -/
structure CompleteAt (n : Nat) : Prop where
  value : ∀ {w t : List Char} {v : Json}, Writes w v → w.length ≤ n → EndsNumber t →
    readValue n (w ++ t) = .ok (v.merge, t)
  items : ∀ {w : List Char} {vs : List Json}, WritesItems w vs → w.length < n →
    ∀ acc t, readItems n acc (w ++ ']' :: t) = .ok (.arr (acc.reverse ++ mergeItems vs), t)
  fields : ∀ {w : List Char} {ms : List (String × Json)}, WritesMembers w ms → w.length < n →
    ∀ acc t, readFields n acc (w ++ '\x7d' :: t) =
      .ok (.obj (Fields.insertAll acc (mergeMembers ms)), t)

section Complete

variable {n : Nat} {w gap t : List Char} {v : Json}

theorem endsNumber_cons {c : Char} (hdigit : isDigit c = false) (hpoint : c ≠ '.')
    (hlower : c ≠ 'e') (hupper : c ≠ 'E') : EndsNumber (c :: t) := by
  intro d hd
  rw [← Option.some.inj hd]
  exact ⟨hdigit, hpoint, hlower, hupper⟩

/-- A gap ends a number as what follows the gap does. -/
theorem endsNumber_gap (hgap : IsGap gap) (ht : EndsNumber t) : EndsNumber (gap ++ t) := by
  cases gap with
  | nil => exact ht
  | cons c gap =>
      have hc : isSeparator c = true := hgap c (List.mem_cons_self ..)
      simp only [isSeparator, Bool.or_eq_true, decide_eq_true_eq] at hc
      rcases hc with ((rfl | rfl) | rfl) | rfl
      · exact endsNumber_cons rfl (by decide) (by decide) (by decide)
      · exact endsNumber_cons rfl (by decide) (by decide) (by decide)
      · exact endsNumber_cons rfl (by decide) (by decide) (by decide)
      · exact endsNumber_cons rfl (by decide) (by decide) (by decide)

/-- No word begins as a number does. -/
theorem begins_of_mem_words {x : List Char × Json} (h : x ∈ words) (t : List Char) :
    beginsAsNumber (x.1 ++ t) = false := by
  simp only [words, List.mem_cons, List.not_mem_nil, or_false] at h
  rcases h with rfl | rfl | rfl | rfl | rfl | rfl <;> rfl

theorem readScalar_of_writesNumber (h : WritesNumber w v) (ht : EndsNumber t) :
    readScalar (w ++ t) = .ok (v, t) := by
  have hnone : words.find? (fun x => x.1.isPrefixOf (w ++ t)) = none := by
    refine List.find?_eq_none.mpr fun x hx hbegin => ?_
    obtain ⟨rest, hrest⟩ := List.isPrefixOf_iff_prefix.mp hbegin
    have hnumber := h.begins t
    rw [← hrest, begins_of_mem_words hx] at hnumber
    exact nomatch hnumber
  rw [readScalar, hnone]
  exact h.readNumber ht

/-- A number begins with a character that begins nothing else. -/
theorem WritesNumber.exists_cons (h : WritesNumber w v) :
    ∃ c cs, w = c :: cs ∧ ∀ d, (∀ rest, beginsAsNumber (d :: rest) = false) → c ≠ d := by
  have hbegins := h.begins []
  rw [List.append_nil] at hbegins
  cases w with
  | nil => exact nomatch hbegins
  | cons c cs =>
      refine ⟨c, cs, rfl, ?_⟩
      rintro d hd rfl
      rw [hd cs] at hbegins
      exact nomatch hbegins

/-- The characters that no value begins with. -/
theorem Writes.exists_cons (h : Writes w v) :
    ∃ c cs, w = c :: cs ∧ isSeparator c = false ∧ c ≠ ']' := by
  cases h with
  | word hword =>
      simp only [words, List.mem_cons, List.not_mem_nil, or_false, Prod.mk.injEq] at hword
      rcases hword with ⟨rfl, -⟩ | ⟨rfl, -⟩ | ⟨rfl, -⟩ | ⟨rfl, -⟩ | ⟨rfl, -⟩ | ⟨rfl, -⟩ <;>
        exact ⟨_, _, rfl, rfl, by decide⟩
  | number hnumber =>
      obtain ⟨c, cs, rfl, hother⟩ := hnumber.exists_cons
      refine ⟨c, cs, rfl, ?_, hother ']' fun _ => rfl⟩
      simp only [isSeparator, hother ' ' fun _ => rfl, hother '\t' fun _ => rfl,
        hother '\n' fun _ => rfl, hother '\r' fun _ => rfl]
      rfl
  | _ => exact ⟨_, _, rfl, rfl, by decide⟩

theorem skip_writes (h : Writes w v) (hgap : IsGap gap) : skip (gap ++ (w ++ t)) = w ++ t := by
  obtain ⟨c, cs, rfl, hc, -⟩ := h.exists_cons
  exact skip_gap_cons hgap hc

theorem WritesItems.exists_cons {vs : List Json} (h : WritesItems w vs) :
    ∃ c cs, w = c :: cs ∧ isSeparator c = false ∧ c ≠ ']' := by
  cases h with
  | last hvalue _ =>
      obtain ⟨c, cs, rfl, hc⟩ := hvalue.exists_cons
      exact ⟨c, _, rfl, hc⟩
  | more hvalue _ _ _ =>
      obtain ⟨c, cs, rfl, hc⟩ := hvalue.exists_cons
      exact ⟨c, _, rfl, hc⟩

theorem WritesMembers.exists_cons {ms : List (String × Json)} (h : WritesMembers w ms) :
    ∃ cs, w = '"' :: cs := by
  cases h with
  | last hmember _ =>
      cases hmember
      exact ⟨_, rfl⟩
  | more hmember _ _ _ =>
      cases hmember
      exact ⟨_, rfl⟩

theorem CompleteAt.readValue_succ (hn : CompleteAt n) (h : Writes w v) (hlength : w.length ≤ n + 1)
    (ht : EndsNumber t) : readValue (n + 1) (w ++ t) = .ok (v.merge, t) := by
  cases h with
  | word hword =>
      simp only [words, List.mem_cons, List.not_mem_nil, or_false, Prod.mk.injEq] at hword
      rcases hword with ⟨rfl, rfl⟩ | ⟨rfl, rfl⟩ | ⟨rfl, rfl⟩ | ⟨rfl, rfl⟩ | ⟨rfl, rfl⟩ |
        ⟨rfl, rfl⟩ <;> rfl
  | number hnumber =>
      have hread := readScalar_of_writesNumber hnumber ht
      obtain ⟨c, cs, rfl, hother⟩ := hnumber.exists_cons
      rw [List.cons_append] at hread ⊢
      rw [readValue, if_neg (hother '"' fun _ => rfl), if_neg (hother '\x7b' fun _ => rfl),
        if_neg (hother '[' fun _ => rfl), hread, hnumber.merge_eq]
  | @text cs s hchars =>
      have hread := hchars.readText ('"' :: (cs ++ '"' :: t)) [] t
      simp only [List.cons_append, List.append_assoc, List.nil_append]
      rw [readValue, if_pos rfl, hread]
      rfl
  | emptyList hgap =>
      simp only [List.cons_append, List.append_assoc, List.nil_append]
      rw [readValue, if_neg (by decide), if_neg (by decide), if_pos rfl, skip_gap_cons hgap rfl]
      rfl
  | @list gap cs vs hgap hitems =>
      obtain ⟨c, rest, rfl, hc, hclosing⟩ := hitems.exists_cons
      have hread := hn.items hitems (by simp at hlength ⊢; omega) [] t
      simp only [List.cons_append, List.append_assoc, List.nil_append] at hread ⊢
      rw [readValue, if_neg (by decide), if_neg (by decide), if_pos rfl, skip_gap_cons hgap hc]
      split
      · next hcut => exact absurd (List.cons.inj hcut).1 hclosing
      · exact hread
  | emptyObject hgap =>
      simp only [List.cons_append, List.append_assoc, List.nil_append]
      rw [readValue, if_neg (by decide), if_pos rfl, skip_gap_cons hgap rfl]
      rfl
  | @object gap cs ms hgap hmembers =>
      obtain ⟨rest, rfl⟩ := hmembers.exists_cons
      have hread := hn.fields hmembers (by simp at hlength ⊢; omega) [] t
      simp only [List.cons_append, List.append_assoc, List.nil_append] at hread ⊢
      rw [readValue, if_neg (by decide), if_pos rfl, skip_gap_cons hgap rfl]
      exact hread

theorem CompleteAt.readItems_succ (hn : CompleteAt n) {vs : List Json} (h : WritesItems w vs)
    (hlength : w.length < n + 1) (acc : List Json) (t : List Char) :
    readItems (n + 1) acc (w ++ ']' :: t) =
      .ok (.arr (acc.reverse ++ mergeItems vs), t) := by
  cases h with
  | @last cs gap v hvalue hgap =>
      have hends : EndsNumber (gap ++ ']' :: t) :=
        endsNumber_gap hgap (endsNumber_cons rfl (by decide) (by decide) (by decide))
      have hskip : skip (gap ++ ']' :: t) = ']' :: t := skip_gap_cons hgap rfl
      have hread := hn.value hvalue (by simp at hlength; omega) hends
      rw [List.append_assoc, readItems, hread]
      simp only [hskip, List.reverse_cons, mergeItems]
  | @more cs gap gap' rest v vs hvalue hgap hgap' hitems =>
      have hends : EndsNumber (gap ++ ',' :: (gap' ++ (rest ++ ']' :: t))) :=
        endsNumber_gap hgap (endsNumber_cons rfl (by decide) (by decide) (by decide))
      have hskip : skip (gap ++ ',' :: (gap' ++ (rest ++ ']' :: t))) =
          ',' :: (gap' ++ (rest ++ ']' :: t)) := skip_gap_cons hgap rfl
      have hskip' : skip (gap' ++ (rest ++ ']' :: t)) = rest ++ ']' :: t := by
        obtain ⟨c, rest', rfl, hc, -⟩ := hitems.exists_cons
        exact skip_gap_cons hgap' hc
      have hread := hn.value hvalue (by simp at hlength; omega) hends
      have hmore := hn.items hitems (by simp at hlength; omega) (v.merge :: acc) t
      simp only [List.cons_append, List.append_assoc]
      rw [readItems, hread]
      simp only [hskip, hskip', hmore, List.reverse_cons, List.append_assoc,
        List.singleton_append, mergeItems]

/-- A member is read, and what stands behind it decides how to go on. -/
theorem CompleteAt.readFields_member (hn : CompleteAt n) {m : String × Json}
    (h : WritesMember w m) (hlength : w.length ≤ n) (ht : EndsNumber t) (acc : Fields) :
    readFields (n + 1) acc (w ++ t) =
      match skip t with
      | '\x7d' :: r => .ok (.obj (Fields.insert acc m.1 m.2.merge), r)
      | ',' :: r => readFields n (Fields.insert acc m.1 m.2.merge) (skip r)
      | r => .error (.malformed r) := by
  cases h with
  | @mk name k gap gap' cs v hname hgap hgap' hvalue =>
      have hread := hname.readText ('"' :: (name ++ '"' :: (gap ++ ':' :: (gap' ++ (cs ++ t))))) []
        (gap ++ ':' :: (gap' ++ (cs ++ t)))
      have hskip : skip (gap ++ ':' :: (gap' ++ (cs ++ t))) = ':' :: (gap' ++ (cs ++ t)) :=
        skip_gap_cons hgap rfl
      have hfirst := hn.value hvalue (by simp at hlength; omega) ht
      simp only [List.cons_append, List.append_assoc]
      rw [readFields, hread]
      simp only [hskip, skip_writes hvalue hgap', hfirst]
      rfl

theorem CompleteAt.readFields_succ (hn : CompleteAt n) {ms : List (String × Json)}
    (h : WritesMembers w ms) (hlength : w.length < n + 1) (acc : Fields) (t : List Char) :
    readFields (n + 1) acc (w ++ '\x7d' :: t) =
      .ok (.obj (Fields.insertAll acc (mergeMembers ms)), t) := by
  cases h with
  | @last cs gap m hmember hgap =>
      have hends : EndsNumber (gap ++ '\x7d' :: t) :=
        endsNumber_gap hgap (endsNumber_cons rfl (by decide) (by decide) (by decide))
      have hskip : skip (gap ++ '\x7d' :: t) = '\x7d' :: t := skip_gap_cons hgap rfl
      rw [List.append_assoc, hn.readFields_member hmember (by simp at hlength; omega) hends, hskip]
      rfl
  | @more cs gap gap' rest m ms hmember hgap hgap' hmembers =>
      have hends : EndsNumber (gap ++ ',' :: (gap' ++ (rest ++ '\x7d' :: t))) :=
        endsNumber_gap hgap (endsNumber_cons rfl (by decide) (by decide) (by decide))
      have hskip : skip (gap ++ ',' :: (gap' ++ (rest ++ '\x7d' :: t))) =
          ',' :: (gap' ++ (rest ++ '\x7d' :: t)) := skip_gap_cons hgap rfl
      have hskip' : skip (gap' ++ (rest ++ '\x7d' :: t)) = rest ++ '\x7d' :: t := by
        obtain ⟨rest', rfl⟩ := hmembers.exists_cons
        exact skip_gap_cons hgap' rfl
      have hshorter : rest.length < n := by
        simp at hlength
        omega
      have hmore := hn.fields hmembers hshorter (Fields.insert acc m.1 m.2.merge) t
      simp only [List.cons_append, List.append_assoc]
      rw [hn.readFields_member hmember (by simp at hlength; omega) hends, hskip]
      show readFields n _ (skip (gap' ++ (rest ++ '\x7d' :: t))) = _
      rw [hskip', hmore]
      rfl

/-- **WHAT IS OF THE FORM IS READ** with any bound that its length does not
    exceed. -/
theorem completeAt (n : Nat) : CompleteAt n := by
  induction n with
  | zero =>
      refine ⟨fun h hlength _ => ?_, fun _ hlength => ?_, fun _ hlength => ?_⟩
      · obtain ⟨c, cs, rfl, -⟩ := h.exists_cons
        exact nomatch hlength
      · exact absurd hlength (Nat.not_lt_zero _)
      · exact absurd hlength (Nat.not_lt_zero _)
  | succ n ih => exact ⟨ih.readValue_succ, ih.readItems_succ, ih.readFields_succ⟩

end Complete

/-! ## The whole text -/

/-- **THE READER DECIDES THE GRAMMAR**: a text is read as a value exactly when it
    denotes one whose merged form is that value. -/
theorem read_eq_ok_iff {cs : List Char} {v : Json} :
    read cs = .ok v ↔ ∃ raw, Denotes cs raw ∧ v = raw.merge := by
  constructor
  · intro h
    obtain ⟨before, hbefore, hcs⟩ := exists_gap_skip cs
    simp only [read] at h
    split at h
    · exact nomatch h
    · next first r hread =>
        obtain ⟨w, raw, hw, hwrites, hraw⟩ := (soundAt _).value hread
        obtain ⟨behind, hbehind, hr⟩ := exists_gap_skip r
        split at h
        · next hskip =>
            rw [hskip, List.append_nil] at hr
            rw [hw, hr] at hcs
            exact ⟨raw, ⟨before, w, behind, hbefore, hwrites, hbehind, hcs⟩,
              (Except.ok.inj h).symm.trans hraw⟩
        · exact nomatch h
  · rintro ⟨raw, ⟨before, w, behind, hbefore, hw, hbehind, rfl⟩, rfl⟩
    have hends : EndsNumber behind := by
      have hgap := endsNumber_gap (t := []) hbehind fun c hc => nomatch hc
      rwa [List.append_nil] at hgap
    have hlength : w.length ≤ 2 * (w ++ behind).length + 2 := by
      rw [List.length_append]
      omega
    simp only [read, skip_writes hw hbefore, (completeAt _).value hw hlength hends,
      skip_of_isGap hbehind]

/-! ## Objects -/

section Objects

variable (ms : List (String × Json))

theorem mergeMembers_eq_map : mergeMembers ms = ms.map fun m => (m.1, m.2.merge) := by
  induction ms with
  | nil => rfl
  | cons m ms ih => rw [mergeMembers, ih, List.map_cons]

theorem map_fst_mergeMembers : (mergeMembers ms).map Prod.fst = ms.map Prod.fst := by
  rw [mergeMembers_eq_map, List.map_map]
  rfl

/-- The value of a name is the one that was written last for it. -/
theorem find?_merged_mergeMembers (k : String) :
    Fields.find? (Fields.merged (mergeMembers ms)) k = (ms.reverse.lookup k).map merge := by
  rw [Fields.find?_merged, mergeMembers_eq_map, ← List.map_reverse]
  generalize ms.reverse = ms
  induction ms with
  | nil => rfl
  | cons m ms ih =>
      rw [List.map_cons, List.lookup_cons, List.lookup_cons, ih]
      cases k == m.1 <;> rfl

/-- Merging leaves what counts as absent as it is. -/
theorem isTruthy_merge (v : Json) : v.merge.isTruthy = v.isTruthy := by
  cases v with
  | arr vs => cases vs <;> rfl
  | obj ms =>
      cases ms with
      | nil => rfl
      | cons m ms =>
          have hnames := Fields.map_fst_merged (mergeMembers (m :: ms))
          rw [map_fst_mergeMembers, List.map_cons, List.eraseDups_cons] at hnames
          have hne : Fields.merged (mergeMembers (m :: ms)) ≠ [] := by
            intro hnil
            rw [hnil] at hnames
            exact nomatch hnames
          show (!(Fields.merged (mergeMembers (m :: ms))).isEmpty) = true
          rw [List.isEmpty_eq_false_iff.mpr hne]
          rfl
  | _ => rfl

/-- Merging makes no object of anything else. -/
theorem isObject_merge (v : Json) : v.merge.isObject = v.isObject := by
  cases v <;> rfl

theorem merge_eq_str_iff {v : Json} {t : String} : v.merge = .str t ↔ v = .str t := by
  cases v with
  | str u => exact Iff.rfl
  | _ => exact ⟨nofun, nofun⟩

theorem mergeItems_eq_map (vs : List Json) : mergeItems vs = vs.map merge := by
  induction vs with
  | nil => rfl
  | cons v vs ih => rw [mergeItems, ih, List.map_cons]

/-- A list is what a list merges to, item by item. -/
theorem merge_eq_arr_iff {v : Json} {items : List Json} :
    v.merge = .arr items ↔ ∃ vs, v = .arr vs ∧ items = vs.map merge := by
  cases v with
  | arr vs =>
      simp only [merge, mergeItems_eq_map, Json.arr.injEq, exists_eq_left']
      exact eq_comm
  | _ => exact ⟨nofun, fun ⟨_, h, _⟩ => nomatch h⟩

/-- A text is read as an object exactly when it writes one. -/
theorem read_eq_obj_iff {cs : List Char} {fs : Fields} :
    read cs = .ok (.obj fs) ↔
      ∃ ms, Denotes cs (.obj ms) ∧ fs = Fields.merged (mergeMembers ms) := by
  rw [read_eq_ok_iff]
  constructor
  · rintro ⟨raw, hraw, hmerge⟩
    cases raw with
    | obj ms => exact ⟨ms, hraw, Json.obj.inj hmerge⟩
    | _ => exact nomatch hmerge
  · rintro ⟨ms, hms, rfl⟩
    exact ⟨.obj ms, hms, rfl⟩

end Objects

end ContractScan.Json
