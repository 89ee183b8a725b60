import ContractScan.Text.Lines
import Mathlib.Data.List.Basic
import Mathlib.Data.List.TakeWhile

/-! # Which line a place belongs to

    A text is cut in two at every place, and the place lies on the line whose
    number is the count of line feeds before it.  That line is made of what is
    behind the last line feed before the place and of what is up to the first
    one after it (`getElem?_lines_append`).

    Texts without line feeds are the lines of what they are joined to
    (`lines_joinLines`), and a word without one that stands in joined texts stands
    in one of them (`infix_joinLines_iff`). -/

namespace ContractScan.Text

/-- The text up to its first line feed. -/
def firstLine (t : List Char) : List Char := t.takeWhile (· != '\n')

/-- The text behind its last line feed. -/
def lastLine : List Char → List Char
  | [] => []
  | c :: cs => if c = '\n' ∨ '\n' ∈ cs then lastLine cs else c :: cs

theorem firstLine_cons {c : Char} (hc : c ≠ '\n') (t : List Char) :
    firstLine (c :: t) = c :: firstLine t :=
  List.takeWhile_cons_of_pos (bne_iff_ne.mpr hc)

theorem firstLine_append {v : List Char} (hv : '\n' ∉ v) (w : List Char) :
    firstLine (v ++ w) = v ++ firstLine w := by
  refine List.takeWhile_append_of_pos ?_
  intro c hc
  exact bne_iff_ne.mpr fun heq => hv (heq ▸ hc)

theorem firstLine_of_not_mem {v : List Char} (hv : '\n' ∉ v) : firstLine v = v := by
  have happend := firstLine_append hv []
  rwa [List.append_nil, show firstLine [] = [] from rfl, List.append_nil] at happend

theorem newline_not_mem_firstLine (t : List Char) : '\n' ∉ firstLine t := by
  intro hmem
  rw [firstLine] at hmem
  have hne := List.mem_takeWhile_imp hmem
  exact absurd hne (by decide)

theorem lastLine_of_mem {c : Char} {u : List Char} (h : '\n' ∈ u) :
    lastLine (c :: u) = lastLine u := if_pos (Or.inr h)

theorem lastLine_of_not_mem {u : List Char} (h : '\n' ∉ u) : lastLine u = u := by
  cases u with
  | nil => rfl
  | cons c u =>
      rw [lastLine, if_neg]
      rintro (hc | hu)
      · exact h (hc ▸ List.mem_cons_self ..)
      · exact h (List.mem_cons_of_mem c hu)

theorem lines_eq_cons (t : List Char) : ∃ ls, lines t = firstLine t :: ls := by
  induction t with
  | nil => exact ⟨[], rfl⟩
  | cons c t ih =>
      by_cases hc : c = '\n'
      · exact ⟨lines t, by rw [lines, if_pos hc, hc]; rfl⟩
      · obtain ⟨ls, hls⟩ := ih
        exact ⟨ls, by rw [lines, if_neg hc, hls, onFirst, firstLine_cons hc]⟩

/-- A character that is no line feed goes to the first line, and the others stay. -/
theorem lines_cons {c : Char} (hc : c ≠ '\n') (t : List Char) :
    ∃ ls, lines t = firstLine t :: ls ∧ lines (c :: t) = (c :: firstLine t) :: ls := by
  obtain ⟨ls, hls⟩ := lines_eq_cons t
  exact ⟨ls, hls, by rw [lines, if_neg hc, hls, onFirst]⟩

/-- **THE LINE OF A PLACE**: its number is the count of line feeds before the
    place, and it is made of the ends of the two parts that meet there. -/
theorem getElem?_lines_append (u t : List Char) :
    (lines (u ++ t))[u.count '\n']? = some (lastLine u ++ firstLine t) := by
  induction u with
  | nil =>
      obtain ⟨ls, hls⟩ := lines_eq_cons t
      show (lines t)[0]? = some (firstLine t)
      rw [hls]
      rfl
  | cons c u ih =>
      by_cases hc : c = '\n'
      · rw [hc, List.count_cons_self, lastLine, if_pos (Or.inl rfl)]
        exact ih
      · obtain ⟨ls, hls, hcons⟩ := lines_cons hc (u ++ t)
        rw [List.count_cons_of_ne hc, List.cons_append, hcons]
        rw [hls] at ih
        by_cases hu : '\n' ∈ u
        · -- only the first line has changed, and the place is not on it
          obtain ⟨k, hk⟩ := Nat.exists_eq_add_one_of_ne_zero
            (Nat.pos_iff_ne_zero.mp (List.count_pos_iff.mpr hu))
          rw [hk] at ih ⊢
          rw [lastLine_of_mem hu]
          exact ih
        · have hcu : '\n' ∉ c :: u := List.not_mem_cons_of_ne_of_not_mem (Ne.symm hc) hu
          rw [List.count_eq_zero_of_not_mem hu, lastLine_of_not_mem hcu, firstLine_append hu]
          rfl

/-- The line `l` of a text, with what is before it and what is behind it. -/
structure LineCut (s u l rest : List Char) : Prop where
  cut : s = u ++ (l ++ rest)
  begins : lastLine u = []
  whole : '\n' ∉ l
  ends : firstLine rest = []

theorem lineCut_of_getElem?_zero {s l : List Char} (h : (lines s)[0]? = some l) :
    ∃ rest, LineCut s [] l rest := by
  obtain ⟨ls, hls⟩ := lines_eq_cons s
  rw [hls] at h
  rw [← Option.some.inj h]
  have hs : s = firstLine s ++ s.dropWhile (· != '\n') := List.takeWhile_append_dropWhile.symm
  refine ⟨s.dropWhile (· != '\n'), hs, rfl, newline_not_mem_firstLine s, ?_⟩
  have happend := congrArg firstLine hs
  rw [firstLine_append (newline_not_mem_firstLine s)] at happend
  exact List.append_right_eq_self.mp happend.symm

/-- Every line stands somewhere in the text, behind as many line feeds as its
    number says. -/
theorem exists_lineCut {s l : List Char} {k : Nat} (h : (lines s)[k]? = some l) :
    ∃ u rest, LineCut s u l rest ∧ u.count '\n' = k := by
  induction s generalizing k with
  | nil =>
      cases k with
      | zero =>
          obtain ⟨rest, hl⟩ := lineCut_of_getElem?_zero h
          exact ⟨[], rest, hl, rfl⟩
      | succ k => exact nomatch h
  | cons c s ih =>
      cases k with
      | zero =>
          obtain ⟨rest, hl⟩ := lineCut_of_getElem?_zero h
          exact ⟨[], rest, hl, rfl⟩
      | succ k =>
          by_cases hc : c = '\n'
          · rw [lines, if_pos hc] at h
            obtain ⟨u, rest, hl, hu⟩ := ih h
            refine ⟨c :: u, rest, ⟨by rw [hl.cut]; rfl, ?_, hl.whole, hl.ends⟩, ?_⟩
            · rw [lastLine, if_pos (Or.inl hc), hl.begins]
            · rw [hc, List.count_cons_self, hu]
          · obtain ⟨ls, hls, hcons⟩ := lines_cons hc s
            have hrest : (lines s)[k + 1]? = some l := by
              rw [hcons] at h
              rw [hls]
              exact h
            obtain ⟨u, rest, hl, hu⟩ := ih hrest
            have hmem : '\n' ∈ u := List.count_pos_iff.mp (hu ▸ Nat.succ_pos k)
            refine ⟨c :: u, rest, ⟨by rw [hl.cut]; rfl, ?_, hl.whole, hl.ends⟩, ?_⟩
            · rw [lastLine_of_mem hmem, hl.begins]
            · rw [List.count_cons_of_ne hc, hu]

theorem newline_not_mem_of_mem_lines {s l : List Char} (h : l ∈ lines s) : '\n' ∉ l := by
  obtain ⟨k, hk⟩ := List.mem_iff_getElem?.mp h
  obtain ⟨u, rest, hline, _⟩ := exists_lineCut hk
  exact hline.whole

/-! ## Joined texts -/

section Joined

variable {l s t w : List Char} {ls ms : List (List Char)}

theorem lines_append_newline (hl : '\n' ∉ l) (t : List Char) : lines (l ++ '\n' :: t) = l :: lines t := by
  induction l with
  | nil => exact if_pos rfl
  | cons c l ih =>
      obtain ⟨hc, hrest⟩ := not_or.mp (mt List.mem_cons.mpr hl)
      rw [List.cons_append, lines, if_neg (Ne.symm hc), ih hrest, onFirst]

theorem lines_of_not_mem (hl : '\n' ∉ l) : lines l = [l] := by
  induction l with
  | nil => rfl
  | cons c l ih =>
      obtain ⟨hc, hrest⟩ := not_or.mp (mt List.mem_cons.mpr hl)
      rw [lines, if_neg (Ne.symm hc), ih hrest, onFirst]

/-- Cutting undoes joining, where there is something to join and nothing else to
    cut. -/
theorem lines_joinLines (hne : ls ≠ []) (h : ∀ l ∈ ls, '\n' ∉ l) : lines (joinLines ls) = ls := by
  induction ls with
  | nil => exact absurd rfl hne
  | cons l ls ih =>
      obtain ⟨hl, hrest⟩ := List.forall_mem_cons.mp h
      cases ls with
      | nil => exact lines_of_not_mem hl
      | cons m ls =>
          rw [joinLines, lines_append_newline hl, ih (List.cons_ne_nil m ls) hrest]

/-- To join texts is to put a line feed between them. -/
theorem joinLines_eq_intercalate (ls : List (List Char)) : joinLines ls = ['\n'].intercalate ls := by
  induction ls with
  | nil => rfl
  | cons l ls ih =>
      cases ls with
      | nil => exact List.intercalate_singleton.symm
      | cons m ls =>
          show l ++ '\n' :: joinLines (m :: ls) = _
          rw [ih, List.intercalate_cons_cons, List.append_assoc]
          rfl

theorem joinLines_append (hls : ls ≠ []) (hms : ms ≠ []) :
    joinLines (ls ++ ms) = joinLines ls ++ '\n' :: joinLines ms := by
  induction ls with
  | nil => exact absurd rfl hls
  | cons l ls ih =>
      cases ls with
      | nil =>
          obtain ⟨m, ms, rfl⟩ := List.exists_cons_of_ne_nil hms
          rfl
      | cons k ls =>
          have hrest := ih (List.cons_ne_nil k ls)
          show l ++ '\n' :: joinLines (k :: ls ++ ms) = (l ++ '\n' :: joinLines (k :: ls)) ++ _
          rw [hrest, List.append_assoc, List.cons_append]

theorem isPrefix_joinLines (ls ms : List (List Char)) : joinLines ls <+: joinLines (ls ++ ms) := by
  by_cases hls : ls = []
  · rw [hls]
    exact List.nil_prefix
  · by_cases hms : ms = []
    · have hjoined : joinLines (ls ++ ms) = joinLines ls := by rw [hms, List.append_nil]
      exact hjoined ▸ List.prefix_refl _
    · rw [joinLines_append hls hms]
      exact List.prefix_append _ _

theorem isSuffix_joinLines (ls ms : List (List Char)) : joinLines ms <:+ joinLines (ls ++ ms) := by
  by_cases hms : ms = []
  · rw [hms]
    exact List.nil_suffix
  · by_cases hls : ls = []
    · have hjoined : joinLines (ls ++ ms) = joinLines ms := by rw [hls, List.nil_append]
      exact hjoined ▸ List.suffix_refl _
    · rw [joinLines_append hls hms]
      exact (List.suffix_cons '\n' _).trans (List.suffix_append _ _)

/-- Neighbouring texts stand together in the joined ones. -/
theorem isInfix_joinLines (h : ls <:+: ms) : joinLines ls <:+: joinLines ms := by
  obtain ⟨before, after, rfl⟩ := h
  exact (isSuffix_joinLines before ls).isInfix.trans (isPrefix_joinLines _ after).isInfix

/-- Each of the joined texts is a part of the whole. -/
theorem infix_joinLines_of_mem {l : List Char} (h : l ∈ ls) : l <:+: joinLines ls := by
  obtain ⟨before, after, rfl⟩ := List.append_of_mem h
  have hpart : [l] <:+: before ++ l :: after := ⟨before, after, by rw [List.append_assoc]; rfl⟩
  exact isInfix_joinLines hpart

/-- What begins before a character that it does not have ends before it. -/
theorem prefix_append_cons_iff {c : Char} (hw : c ∉ w) : w <+: s ++ c :: t ↔ w <+: s := by
  constructor
  · intro h
    rcases List.prefix_or_prefix_of_prefix h (List.prefix_append s _) with hws | ⟨v, rfl⟩
    · exact hws
    · -- the word goes on behind `s`, and the next character is the one in question
      cases v with
      | nil => simp
      | cons d v =>
          have hv := (List.prefix_append_right_inj s).mp h
          obtain ⟨rfl, -⟩ := List.cons_prefix_cons.mp hv
          exact absurd (List.mem_append_right s (List.mem_cons_self ..)) hw
  · exact fun h => h.trans (List.prefix_append s _)

theorem infix_append_newline_iff (hne : w ≠ []) (hw : '\n' ∉ w) :
    w <:+: s ++ '\n' :: t ↔ w <:+: s ∨ w <:+: t := by
  induction s with
  | nil =>
      rw [List.nil_append, List.infix_cons_iff, List.infix_nil]
      refine or_congr_left (iff_of_false (fun h => ?_) hne)
      exact hne (List.prefix_nil.mp ((prefix_append_cons_iff (s := []) hw).mp h))
  | cons c s ih =>
      rw [List.cons_append, List.infix_cons_iff, ih, List.infix_cons_iff, or_assoc]
      exact or_congr_left (prefix_append_cons_iff (s := c :: s) hw)

/-- **A WORD IS FOUND IN THE PARTS** of a text that is joined by line feeds. -/
theorem infix_joinLines_iff (hne : w ≠ []) (hw : '\n' ∉ w) (ls : List (List Char)) :
    w <:+: joinLines ls ↔ ∃ l ∈ ls, w <:+: l := by
  induction ls with
  | nil =>
      refine iff_of_false (fun h => hne (List.infix_nil.mp h)) ?_
      rintro ⟨l, hl, -⟩
      exact nomatch hl
  | cons l ls ih =>
      cases ls with
      | nil => simp [joinLines]
      | cons m ls =>
          rw [List.exists_mem_cons_iff, ← ih, joinLines]
          exact infix_append_newline_iff hne hw

/-- What is done to single characters is done to the joined texts. -/
theorem flatMap_joinLines {f : Char → List Char} (hf : f '\n' = ['\n']) (ls : List (List Char)) :
    (joinLines ls).flatMap f = joinLines (ls.map (·.flatMap f)) := by
  induction ls with
  | nil => rfl
  | cons l ls ih =>
      cases ls with
      | nil => rfl
      | cons m ls =>
          rw [joinLines, List.flatMap_append, List.flatMap_cons, hf, ih]
          rfl

end Joined

end ContractScan.Text
