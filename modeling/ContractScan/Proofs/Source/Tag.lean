import ContractScan.Proofs.Rule.Meaning
import ContractScan.Proofs.Text.Blank
import ContractScan.Proofs.Text.Lines
import ContractScan.Source.Classification
import Mathlib.Data.Nat.Find

/-! # What a tag says

    The text of a tag is found by trials: runs of blanks behind the tag are taken
    from the longest one down, until one of them leaves something on its line.  A
    scanner needs no trials, since the character behind the whole run tells what
    comes out (`Scans`).

    **TRIALS AND SCAN AGREE** on every text (`capture_eq_some_iff`), and the trials
    are those of a greedy match (`capture_eq_some_iff_greedySplit`) of the pattern
    that is found wherever a tag has a text (`occursIn_tagPattern_iff`).  So a
    description is what the scanner reads for the first title that counts, else
    for the first notice (`describe_is_scanned`). -/

namespace ContractScan.Source

open ContractScan.Text

/-! ## Trials -/

section Trials

variable {rest t : List Char} {k : Nat}

/-- The run of `j` blanks that is taken is the longest one that leaves a text. -/
theorem textAfter_eq_some_iff :
    textAfter rest k = some t ↔ ∃ j, 0 < j ∧ j ≤ k ∧ restOfLine (rest.drop j) ≠ [] ∧
      trim (restOfLine (rest.drop j)) = t ∧ ∀ i, j < i → i ≤ k → restOfLine (rest.drop i) = [] := by
  induction k with
  | zero =>
      refine iff_of_false (fun h => nomatch h) ?_
      rintro ⟨j, hpos, hle, -⟩
      exact absurd hpos (Nat.not_lt.mpr hle)
  | succ k ih =>
      rw [textAfter]
      by_cases hempty : restOfLine (rest.drop (k + 1)) = []
      · rw [if_pos (List.isEmpty_iff.mpr hempty), ih]
        constructor
        · rintro ⟨j, hpos, hle, hline, ht, hlonger⟩
          refine ⟨j, hpos, Nat.le_succ_of_le hle, hline, ht, fun i hji hik => ?_⟩
          rcases Nat.le_succ_iff.mp hik with hi | hi
          · exact hlonger i hji hi
          · rw [hi]
            exact hempty
        · rintro ⟨j, hpos, hle, hline, ht, hlonger⟩
          have hjk : j ≤ k := by
            rcases Nat.le_succ_iff.mp hle with hj | hj
            · exact hj
            · rw [hj] at hline
              exact absurd hempty hline
          exact ⟨j, hpos, hjk, hline, ht, fun i hji hik => hlonger i hji (Nat.le_succ_of_le hik)⟩
      · rw [if_neg (mt List.isEmpty_iff.mp hempty)]
        constructor
        · intro h
          exact ⟨k + 1, Nat.succ_pos k, Nat.le_refl _, hempty, Option.some.inj h,
            fun i hki hik => absurd hki (Nat.not_lt.mpr hik)⟩
        · rintro ⟨j, -, hle, -, ht, hlonger⟩
          rcases Nat.lt_or_eq_of_le hle with hj | hj
          · exact absurd (hlonger (k + 1) hj (Nat.le_refl _)) hempty
          · rw [← ht, hj]

theorem textAfter_eq_none_iff :
    textAfter rest k = none ↔ ∀ j, 0 < j → j ≤ k → restOfLine (rest.drop j) = [] := by
  induction k with
  | zero => exact iff_of_true rfl fun j hpos hle => absurd hpos (Nat.not_lt.mpr hle)
  | succ k ih =>
      rw [textAfter]
      by_cases hempty : restOfLine (rest.drop (k + 1)) = []
      · rw [if_pos (List.isEmpty_iff.mpr hempty), ih]
        constructor
        · intro h j hpos hle
          rcases Nat.le_succ_iff.mp hle with hj | hj
          · exact h j hpos hj
          · rw [hj]
            exact hempty
        · exact fun h j hpos hle => h j hpos (Nat.le_succ_of_le hle)
      · rw [if_neg (mt List.isEmpty_iff.mp hempty)]
        refine iff_of_false (Option.some_ne_none _) fun h => hempty ?_
        exact h (k + 1) (Nat.succ_pos k) (Nat.le_refl _)

theorem restOfLine_ne_nil_iff {cs : List Char} :
    restOfLine cs ≠ [] ↔ ∃ c r, cs = c :: r ∧ c ≠ '\n' := by
  cases cs with
  | nil => simp [restOfLine]
  | cons c r => by_cases hc : c = '\n' <;> simp [restOfLine, hc]

end Trials

/-! ## The scanner -/

/-- What follows a tag, and the text that a scanner gives for it. -/
inductive Scans : List Char → List Char → Prop where
  /-- Behind a run of blanks the text goes to the end of the line. -/
  | text {w r : List Char} {c : Char} : w ≠ [] → IsBlanks w → isBlank c = false →
      Scans (w ++ c :: r) (trim (restOfLine (c :: r)))
  /-- A run of blanks up to the end counts unless all but the first are line
      feeds. -/
  | blank {b c : Char} {w : List Char} : IsBlanks (b :: w) → c ∈ w → c ≠ '\n' → Scans (b :: w) []

theorem ne_newline_of_not_isBlank {c : Char} (hc : isBlank c = false) : c ≠ '\n' := by
  rintro rfl
  exact Bool.false_ne_true (hc.symm.trans isBlank_newline)

theorem takeWhile_blanks {w r : List Char} {c : Char} (hw : IsBlanks w) (hc : isBlank c = false) :
    (w ++ c :: r).takeWhile isBlank = w := by
  rw [List.takeWhile_append_of_pos hw, List.takeWhile_cons_of_neg, List.append_nil]
  rw [hc]
  exact Bool.false_ne_true

/-- A text is blank, or goes on behind its blanks. -/
theorem isBlanks_or_exists (s : List Char) :
    IsBlanks s ∨ ∃ w c r, s = w ++ c :: r ∧ IsBlanks w ∧ isBlank c = false := by
  induction s with
  | nil => exact Or.inl nofun
  | cons d s ih =>
      cases hd : isBlank d with
      | false => exact Or.inr ⟨[], d, s, rfl, nofun, hd⟩
      | true =>
          rcases ih with hs | ⟨w, c, r, rfl, hw, hc⟩
          · exact Or.inl (List.forall_mem_cons.mpr ⟨hd, hs⟩)
          · exact Or.inr ⟨d :: w, c, r, rfl, List.forall_mem_cons.mpr ⟨hd, hw⟩, hc⟩

theorem capture_of_text {w r : List Char} {c : Char} (hne : w ≠ []) (hw : IsBlanks w)
    (hc : isBlank c = false) : capture (w ++ c :: r) = some (trim (restOfLine (c :: r))) := by
  rw [capture, takeWhile_blanks hw hc, textAfter_eq_some_iff]
  refine ⟨w.length, List.length_pos_iff.mpr hne, Nat.le_refl _, ?_, ?_, ?_⟩
  · rw [List.drop_left]
    exact restOfLine_ne_nil_iff.mpr ⟨c, r, rfl, ne_newline_of_not_isBlank hc⟩
  · rw [List.drop_left]
  · exact fun i hlt hle => absurd hlt (Nat.not_lt.mpr hle)

theorem capture_eq_none_of_not_isBlank {c : Char} {r : List Char} (hc : isBlank c = false) :
    capture (c :: r) = none := by
  rw [capture, List.takeWhile_cons_of_neg]
  · rfl
  · rw [hc]
    exact Bool.false_ne_true

/-- Of nothing but blanks the last one that is no line feed is what is left on a
    line, and it is trimmed away. -/
theorem capture_of_isBlanks_eq_some_iff {b : Char} {w t : List Char} (h : IsBlanks (b :: w)) :
    capture (b :: w) = some t ↔ t = [] ∧ ∃ c ∈ w, c ≠ '\n' := by
  have hcapture : capture (b :: w) = textAfter (b :: w) (w.length + 1) := by
    rw [capture, List.takeWhile_eq_self_iff.mpr h, List.length_cons]
  have hsome : ∀ t, capture (b :: w) = some t → t = [] ∧ ∃ c ∈ w, c ≠ '\n' := by
    intro t ht
    rw [hcapture] at ht
    obtain ⟨j, hpos, -, hline, rfl, -⟩ := textAfter_eq_some_iff.mp ht
    constructor
    · refine trimBy_eq_nil fun c hc => h c ?_
      exact List.mem_of_mem_drop ((List.takeWhile_prefix _).mem hc)
    · obtain ⟨c, r, hdrop, hc⟩ := restOfLine_ne_nil_iff.mp hline
      obtain ⟨i, rfl⟩ := Nat.exists_eq_succ_of_ne_zero (Nat.pos_iff_ne_zero.mp hpos)
      rw [List.drop_succ_cons] at hdrop
      exact ⟨c, List.mem_of_mem_drop (hdrop ▸ List.mem_cons_self ..), hc⟩
  refine ⟨hsome t, ?_⟩
  rintro ⟨rfl, c, hcw, hc⟩
  cases hnone : capture (b :: w) with
  | some t => rw [(hsome t hnone).1]
  | none =>
      -- the run that ends before such a character leaves it
      obtain ⟨u, v, rfl⟩ := List.append_of_mem hcw
      rw [hcapture] at hnone
      have hempty := textAfter_eq_none_iff.mp hnone (u.length + 1) (Nat.succ_pos _) (by simp)
      rw [List.drop_succ_cons, List.drop_left] at hempty
      exact absurd hempty (restOfLine_ne_nil_iff.mpr ⟨c, v, rfl, hc⟩)

/-- **TRIALS AND SCAN AGREE** on what follows a tag. -/
theorem capture_eq_some_iff {rest t : List Char} : capture rest = some t ↔ Scans rest t := by
  constructor
  · intro h
    rcases isBlanks_or_exists rest with hblank | ⟨w, c, r, rfl, hw, hc⟩
    · cases rest with
      | nil => exact nomatch h
      | cons b w =>
          obtain ⟨rfl, c, hcw, hc⟩ := (capture_of_isBlanks_eq_some_iff hblank).mp h
          exact .blank hblank hcw hc
    · cases w with
      | nil => exact nomatch (capture_eq_none_of_not_isBlank hc).symm.trans h
      | cons b w =>
          have hne : b :: w ≠ [] := List.cons_ne_nil b w
          rw [← Option.some.inj ((capture_of_text hne hw hc).symm.trans h)]
          exact .text hne hw hc
  · intro h
    cases h with
    | text hne hw hc => exact capture_of_text hne hw hc
    | blank hblank hcw hc => exact (capture_of_isBlanks_eq_some_iff hblank).mpr ⟨rfl, _, hcw, hc⟩

/-! ## The match that greed prefers -/

/-- The pattern of a tag: behind it at least one blank, and then at least one
    character of a line. -/
def tagPattern (tag : List Char) : Pattern :=
  .inSequence (Pattern.word tag ++ [.someBlanks, .repeated (.one .notNewline)])

/-- The tags, each with its pattern as it is written; the group in it has no part
    in matching. -/
def writtenTags : List (List Char × String) :=
  [(titleTag, "@title\\s+(.+)"), (noticeTag, "@notice\\s+(.+)")]

theorem compile_of_mem_writtenTags :
    ∀ entry ∈ writtenTags, Pattern.compile entry.2 0 = .ok (tagPattern entry.1) := by
  decide +kernel

/-- Behind a tag the pattern can match `w` as the blanks and `x` as the text. -/
structure Split (rest w x : List Char) : Prop where
  cut : w ++ x <+: rest
  blanks : w ≠ [] ∧ IsBlanks w
  text : x ≠ [] ∧ '\n' ∉ x

/-- The split that two greedy repetitions come to, the first one before the
    second one. -/
structure GreedySplit (rest w x : List Char) : Prop extends Split rest w x where
  mostBlanks : ∀ w' x', Split rest w' x' → w'.length ≤ w.length
  mostText : ∀ x', Split rest w x' → x'.length ≤ x.length

/-- What the pattern of a tag matches is the tag and a split behind it. -/
theorem takes_tagPattern (tag : List Char) :
    (tagPattern tag).Takes fun m => ∃ w x, m = tag ++ (w ++ x) ∧ Split (w ++ x) w x := by
  have htext : (Pattern.repeated (.one .notNewline)).Takes fun x => x ≠ [] ∧ '\n' ∉ x := by
    refine (Pattern.takes_repeated_one _).of_iff fun x => and_congr_right fun _ => ?_
    simp only [CharClass.holds_notNewline_iff]
    exact ⟨fun h hmem => h _ hmem rfl, fun h c hc hnewline => h (hnewline ▸ hc)⟩
  refine (Pattern.Takes.word_append tag (Pattern.takes_someBlanks.cons htext.last)).of_iff fun m => ?_
  constructor
  · rintro ⟨_, rfl, w, x, rfl, hw, hx⟩
    exact ⟨w, x, rfl, List.prefix_refl _, hw, hx⟩
  · rintro ⟨w, x, rfl, hsplit⟩
    exact ⟨_, rfl, w, x, rfl, hsplit.blanks, hsplit.text⟩

section Greed

variable {rest w x t : List Char}

/-- The blanks of a split are a run that leaves a text, and its text is from the
    start of what is left. -/
theorem Split.prefix_restOfLine (h : Split rest w x) :
    0 < w.length ∧ w.length ≤ (rest.takeWhile isBlank).length ∧
      x <+: restOfLine (rest.drop w.length) := by
  obtain ⟨after, rfl⟩ := h.cut
  refine ⟨List.length_pos_iff.mpr h.blanks.1, ?_, ?_⟩
  · rw [List.append_assoc, List.takeWhile_append_of_pos h.blanks.2, List.length_append]
    exact Nat.le_add_right ..
  · rw [List.append_assoc, List.drop_left]
    exact ⟨_, (firstLine_append h.text.2 after).symm⟩

theorem Split.restOfLine_ne_nil (h : Split rest w x) : restOfLine (rest.drop w.length) ≠ [] := by
  intro hnil
  have hprefix := h.prefix_restOfLine.2.2
  rw [hnil] at hprefix
  exact h.text.1 (List.prefix_nil.mp hprefix)

/-- Where there is a split something is captured. -/
theorem Split.exists_capture (h : Split rest w x) : ∃ t, capture rest = some t := by
  obtain ⟨hpos, hle, -⟩ := h.prefix_restOfLine
  cases hcapture : capture rest with
  | some t => exact ⟨t, rfl⟩
  | none =>
      have hempty := textAfter_eq_none_iff.mp hcapture w.length hpos hle
      exact absurd hempty h.restOfLine_ne_nil

theorem split_of_le {j : Nat} (hpos : 0 < j) (hle : j ≤ (rest.takeWhile isBlank).length)
    (hline : restOfLine (rest.drop j) ≠ []) :
    Split rest (rest.take j) (restOfLine (rest.drop j)) := by
  have hrun : rest.take j <+: rest.takeWhile isBlank :=
    List.prefix_of_prefix_length_le (List.take_prefix j rest) (List.takeWhile_prefix _)
      ((List.length_take_le j rest).trans hle)
  refine ⟨?_, ⟨?_, fun c hc => List.mem_takeWhile_imp (hrun.mem hc)⟩, hline,
    newline_not_mem_firstLine _⟩
  · conv => rhs; rw [← List.take_append_drop j rest]
    exact (List.prefix_append_right_inj _).mpr (List.takeWhile_prefix _)
  · rw [Ne, List.take_eq_nil_iff, not_or]
    refine ⟨Nat.pos_iff_ne_zero.mp hpos, ?_⟩
    rintro rfl
    exact hline (by rw [List.drop_nil]; rfl)

theorem length_take_of_le {j : Nat} (hle : j ≤ (rest.takeWhile isBlank).length) :
    (rest.take j).length = j :=
  List.length_take_of_le (hle.trans (List.takeWhile_prefix _).length_le)

/-- **TRIALS ARE GREED**: what they find is the text of the split that is
    preferred. -/
theorem capture_eq_some_iff_greedySplit :
    capture rest = some t ↔ ∃ w x, GreedySplit rest w x ∧ trim x = t := by
  rw [capture, textAfter_eq_some_iff]
  constructor
  · rintro ⟨j, hpos, hle, hline, ht, hlonger⟩
    refine ⟨_, _, ⟨split_of_le hpos hle hline, fun w' x' h' => ?_, fun x' h' => ?_⟩, ht⟩
    · have hle' := h'.prefix_restOfLine.2.1
      rw [length_take_of_le hle]
      by_contra hlt
      exact h'.restOfLine_ne_nil (hlonger w'.length (Nat.not_le.mp hlt) hle')
    · have hprefix := h'.prefix_restOfLine.2.2
      rw [length_take_of_le hle] at hprefix
      exact hprefix.length_le
  · rintro ⟨w, x, h, rfl⟩
    obtain ⟨hpos, hle, hprefix⟩ := h.prefix_restOfLine
    have hline := h.restOfLine_ne_nil
    have hw : rest.take w.length = w := by
      obtain ⟨after, rfl⟩ := h.cut
      rw [List.append_assoc, List.take_left]
    have hmost := h.mostText _ (hw ▸ split_of_le hpos hle hline)
    have hx : x = restOfLine (rest.drop w.length) := hprefix.eq_of_length_le hmost
    refine ⟨w.length, hpos, hle, hline, ?_, fun i hlt hi => ?_⟩
    · rw [hx]
    · by_contra hne
      have hless := h.mostBlanks _ _ (split_of_le (Nat.zero_lt_of_lt hlt) hi hne)
      rw [length_take_of_le hi] at hless
      exact absurd hlt (Nat.not_lt.mpr hless)

end Greed

/-! ## The first occurrence that counts -/

/-- A tag occurs in the text behind `before`, and what follows it has the text
    `t` in the sense of `R`; no occurrence further left has a text. -/
structure FirstText (R : List Char → List Char → Prop) (tag code before rest t : List Char) : Prop where
  cut : code = before ++ (tag ++ rest)
  text : R rest t
  first : ∀ before' rest' t', code = before' ++ (tag ++ rest') → R rest' t' →
    before.length ≤ before'.length

/-- No occurrence of the tag has a text. -/
def NoText (R : List Char → List Char → Prop) (tag code : List Char) : Prop :=
  ∀ before rest t, code = before ++ (tag ++ rest) → ¬R rest t

/-- What a tag says in a text: the text of its first occurrence that has one. -/
inductive Says (R : List Char → List Char → Prop) (tag code : List Char) : Option (List Char) → Prop where
  | found {before rest t : List Char} : FirstText R tag code before rest t → Says R tag code (some t)
  | missing : NoText R tag code → Says R tag code none

section First

variable {R : List Char → List Char → Prop} {tag code before rest t : List Char}

theorem exists_firstText_or_noText (R : List Char → List Char → Prop) (tag code : List Char) :
    (∃ before rest t, FirstText R tag code before rest t) ∨ NoText R tag code := by
  classical
  by_cases h : ∃ n before rest t, before.length = n ∧ code = before ++ (tag ++ rest) ∧ R rest t
  · obtain ⟨before, rest, t, hn, hcut, ht⟩ := Nat.find_spec h
    refine Or.inl ⟨before, rest, t, hcut, ht, fun before' rest' t' hcut' ht' => ?_⟩
    rw [hn]
    exact Nat.find_min' h ⟨before', rest', t', rfl, hcut', ht'⟩
  · exact Or.inr fun before rest t hcut ht => h ⟨_, before, rest, t, rfl, hcut, ht⟩

/-- What does not count here is passed over. -/
theorem tagText?_cons_of_not_scans {c : Char} {cs : List Char}
    (h : ∀ rest t, c :: cs = tag ++ rest → ¬Scans rest t) :
    tagText? tag (c :: cs) = tagText? tag cs := by
  rw [tagText?]
  split
  · rename_i hprefix
    obtain ⟨rest, hrest⟩ := List.isPrefixOf_iff_prefix.mp hprefix
    rw [← hrest, List.drop_left]
    cases hcapture : capture rest with
    | none => exact Option.none_or
    | some t => exact absurd (capture_eq_some_iff.mp hcapture) (h rest t hrest.symm)
  · rfl

theorem tagText?_of_firstText (h : FirstText Scans tag code before rest t) :
    tagText? tag code = some t := by
  induction before generalizing code with
  | nil =>
      have hcapture := capture_eq_some_iff.mpr h.text
      have hcut := h.cut
      cases code with
      | nil =>
          obtain ⟨-, rfl⟩ := List.append_eq_nil_iff.mp (List.append_eq_nil_iff.mp hcut.symm).2
          exact nomatch hcapture
      | cons c cs =>
          rw [tagText?, if_pos (List.isPrefixOf_iff_prefix.mpr ⟨rest, hcut.symm⟩), hcut]
          show (capture ((tag ++ rest).drop tag.length)).or _ = _
          rw [List.drop_left, hcapture, Option.some_or]
  | cons d before ih =>
      rw [h.cut, List.cons_append, tagText?_cons_of_not_scans]
      · refine ih ⟨rfl, h.text, fun before' rest' t' hcut' ht' => ?_⟩
        refine Nat.le_of_succ_le_succ (h.first (d :: before') rest' t' ?_ ht')
        rw [h.cut, List.cons_append, List.cons_append, hcut']
      · intro rest' t' hcut' ht'
        exact absurd (h.first [] rest' t' (h.cut.trans hcut') ht') (Nat.not_succ_le_zero _)

theorem tagText?_of_noText (h : NoText Scans tag code) : tagText? tag code = none := by
  induction code with
  | nil => rfl
  | cons c cs ih =>
      rw [tagText?_cons_of_not_scans fun rest t hcut => h [] rest t hcut]
      exact ih fun before rest t hcut => h (c :: before) rest t (by rw [hcut]; rfl)

/-- What is found for a tag is what it says to the scanner. -/
theorem says_tagText? (tag code : List Char) : Says Scans tag code (tagText? tag code) := by
  rcases exists_firstText_or_noText Scans tag code with ⟨before, rest, t, h⟩ | h
  · rw [tagText?_of_firstText h]
    exact .found h
  · rw [tagText?_of_noText h]
    exact .missing h

/-- A tag has a text exactly where its pattern is found. -/
theorem occursIn_tagPattern_iff :
    (tagPattern tag).occursIn code = true ↔ ∃ t, Says Scans tag code (some t) := by
  rw [(takes_tagPattern tag).occursIn_iff]
  constructor
  · rintro ⟨m, ⟨w, x, rfl, hsplit⟩, before, after, hcut⟩
    have hcode : code = before ++ (tag ++ (w ++ x ++ after)) := by
      rw [← hcut]
      simp only [List.append_assoc]
    have hrest : Split (w ++ x ++ after) w x :=
      ⟨List.prefix_append _ _, hsplit.blanks, hsplit.text⟩
    obtain ⟨t, ht⟩ := hrest.exists_capture
    rcases exists_firstText_or_noText Scans tag code with ⟨_, _, t', h⟩ | hno
    · exact ⟨t', .found h⟩
    · exact absurd (capture_eq_some_iff.mp ht) (hno before _ t hcode)
  · rintro ⟨t, hsays⟩
    cases hsays with
    | @found before rest _ h =>
        have hcapture := capture_eq_some_iff.mpr h.text
        obtain ⟨w, x, hgreedy, -⟩ := capture_eq_some_iff_greedySplit.mp hcapture
        obtain ⟨after, hafter⟩ := hgreedy.cut
        refine ⟨tag ++ (w ++ x), ⟨w, x, rfl, List.prefix_refl _, hgreedy.blanks, hgreedy.text⟩,
          before, after, ?_⟩
        rw [h.cut, ← hafter]
        simp only [List.append_assoc]

end First

/-! ## Texts without blanks at the ends -/

/-- A text within one line and without blanks at its ends. -/
structure IsTidy (t : List Char) : Prop where
  line : '\n' ∉ t
  head : ∀ c, t.head? = some c → isBlank c = false
  last : ∀ c, t.getLast? = some c → isBlank c = false

theorem isTidy_trim_restOfLine (cs : List Char) : IsTidy (trim (restOfLine cs)) where
  line h := newline_not_mem_firstLine cs (mem_of_mem_trimBy h)
  head _ := head?_trimBy
  last _ := getLast?_trimBy

theorem Scans.isTidy {rest t : List Char} (h : Scans rest t) : IsTidy t := by
  cases h with
  | text => exact isTidy_trim_restOfLine _
  | blank => exact ⟨nofun, nofun, nofun⟩

/-! ## Descriptions -/

/-- The description of a text whose tags have texts in the sense of `R`: what a
    title says, else what a notice says, else the generic line. -/
def IsDescription (R : List Char → List Char → Prop) (code : List Char)
    (contractType contractName description : String) : Prop :=
  ∃ title notice, Says R titleTag code title ∧ Says R noticeTag code notice ∧
    description = match title.or notice with
      | some t => String.ofList t
      | none => genericDescription contractType contractName

/-- What a greedy match captures behind a tag, trimmed. -/
def Captures (rest t : List Char) : Prop := ∃ w x, GreedySplit rest w x ∧ trim x = t

/-- **A DESCRIPTION IS SCANNED**: the pattern of a tag is found wherever the tag
    says something to the scanner, what a greedy match captures there is what the
    scanner reads, and the description is what it reads for the first title that
    counts, else for the first notice that counts, else the generic line.  What is
    read stays within a line and has no blanks at its ends. -/
theorem describe_is_scanned (code : List Char) (contractType contractName : String) :
    (∀ entry ∈ writtenTags, ∃ p, Pattern.compile entry.2 0 = .ok p ∧
        (p.occursIn code = true ↔ ∃ t, Says Scans entry.1 code (some t))) ∧
      (∀ rest t, Captures rest t ↔ Scans rest t) ∧
      IsDescription Scans code contractType contractName
        (describe code contractType contractName) ∧
      ∀ rest t, Scans rest t → IsTidy t := by
  refine ⟨fun entry h => ?_, fun rest t => ?_, ?_, fun rest t h => h.isTidy⟩
  · exact ⟨_, compile_of_mem_writtenTags entry h, occursIn_tagPattern_iff⟩
  · rw [Captures, ← capture_eq_some_iff_greedySplit, capture_eq_some_iff]
  · exact ⟨_, _, says_tagText? titleTag code, says_tagText? noticeTag code, rfl⟩

/-- A notice, and behind it a title with nothing but blanks. -/
def trailingTitle : List Char := "@notice N\n@title \t".toList

/-- The blank title at the end is found, counts and beats the notice before it. -/
theorem describe_trailing_title :
    (∃ p, Pattern.compile "@title\\s+(.+)" 0 = .ok p ∧ p.occursIn trailingTitle = true) ∧
      Captures " \t".toList [] ∧ IsTidy [] ∧ IsDescription Scans trailingTitle "T" "N" "" := by
  obtain ⟨hwritten, hgreed, hdescription, htidy⟩ := describe_is_scanned trailingTitle "T" "N"
  obtain ⟨p, hp, hfound⟩ := hwritten (titleTag, "@title\\s+(.+)") (List.mem_cons_self ..)
  have htext : Says Scans titleTag trailingTitle (some []) := by
    have hblank : tagText? titleTag trailingTitle = some [] := by decide +kernel
    rw [← hblank]
    exact says_tagText? titleTag trailingTitle
  have hblanks : IsBlanks " \t".toList := by decide
  have hscan : Scans " \t".toList [] :=
    .blank (c := '\t') hblanks (List.mem_singleton_self _) (by decide)
  have hempty : describe trailingTitle "T" "N" = "" := by decide +kernel
  rw [hempty] at hdescription
  exact ⟨⟨p, hp, hfound.mpr ⟨_, htext⟩⟩, (hgreed _ _).mpr hscan, htidy _ _ hscan, hdescription⟩

end ContractScan.Source
