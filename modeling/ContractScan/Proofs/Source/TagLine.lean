import ContractScan.Proofs.Source.Tag

/-! # Tags that stray from their line

    A tag speaks for the line on which it stands, and one that is left blank
    there should be passed over.  But the blanks behind a tag are taken across
    line feeds, so a blank tag may count all the same: it then has the text of a
    line below, or at the end of a source an empty one (`Strays`).

    **A DESCRIPTION IS THAT OF A LINE** unless the tag that decides strays, and
    then it is what the tag has strayed to (`describe_by_line`). -/

namespace ContractScan.Source

open ContractScan.Text

/-- What follows a tag, if blanks and then a text are on the line of the tag, and
    this text. -/
structure Speaks (rest t : List Char) : Prop where
  blank : ∃ b r, rest = b :: r ∧ isBlank b = true
  onLine : ∃ c ∈ restOfLine rest, isBlank c = false
  eq : t = trim (restOfLine rest)

/-- What follows a tag that is blank on its line and counts, and the text for
    which it counts. -/
inductive Strays : List Char → List Char → Prop where
  /-- The blanks go on to a line with a text. -/
  | below {w r : List Char} {c : Char} : IsBlanks w → '\n' ∈ w → isBlank c = false →
      Strays (w ++ c :: r) (trim (restOfLine (c :: r)))
  /-- The blanks go on to the end. -/
  | atEnd {b c : Char} {w : List Char} : IsBlanks (b :: w) → c ∈ w → c ≠ '\n' → Strays (b :: w) []

/-! ## Speaking and straying -/

section Line

variable {rest w s t : List Char}

theorem trim_append_of_isBlanks (hw : IsBlanks w) (s : List Char) : trim (w ++ s) = trim s := by
  rw [trim, trim, trimBy, List.dropWhile_append_of_pos hw]
  rfl

/-- A line does not go on behind a line feed. -/
theorem restOfLine_append_of_mem (hw : '\n' ∈ w) (s : List Char) :
    restOfLine (w ++ s) = restOfLine w := by
  induction w with
  | nil => exact nomatch hw
  | cons c w ih =>
      by_cases hc : c = '\n'
      · rw [hc]
        rfl
      · have hmem : '\n' ∈ w := List.mem_of_ne_of_mem (Ne.symm hc) hw
        show firstLine (c :: (w ++ s)) = firstLine (c :: w)
        rw [firstLine_cons hc, firstLine_cons hc]
        exact congrArg (c :: ·) (ih hmem)

/-- No line that begins with blanks up to a line feed has anything else. -/
theorem not_mem_restOfLine {c : Char} (hw : IsBlanks w) (hline : '\n' ∈ w) (hc : isBlank c = false) :
    c ∉ restOfLine (w ++ s) := by
  intro hmem
  rw [restOfLine_append_of_mem hline] at hmem
  have hblank := hw c ((List.takeWhile_prefix _).mem hmem)
  exact absurd (hc.symm.trans hblank) Bool.false_ne_true

theorem Strays.scans (h : Strays rest t) : Scans rest t := by
  cases h with
  | below hw hline hc => exact .text (List.ne_nil_of_mem hline) hw hc
  | atEnd hblank hcw hc => exact .blank hblank hcw hc

theorem Speaks.scans (h : Speaks rest t) : Scans rest t := by
  obtain ⟨b, v, hbv, hb⟩ := h.blank
  obtain ⟨d, hd, hdb⟩ := h.onLine
  -- the run of blanks ends before the line does, since there is a text on the line
  rcases isBlanks_or_exists rest with hblank | ⟨w, c, r, rfl, hw, hc⟩
  · have hd' := hblank d ((List.takeWhile_prefix _).mem hd)
    exact absurd (hdb.symm.trans hd') Bool.false_ne_true
  · have hline : '\n' ∉ w := fun hmem => not_mem_restOfLine hw hmem hdb hd
    have hne : w ≠ [] := by
      rintro rfl
      obtain ⟨rfl, -⟩ := List.cons.inj hbv
      exact absurd (hc.symm.trans hb) Bool.false_ne_true
    have hrest : restOfLine (w ++ c :: r) = w ++ restOfLine (c :: r) := firstLine_append hline _
    rw [h.eq, hrest, trim_append_of_isBlanks hw]
    exact .text hne hw hc

theorem Scans.speaks_or_strays (h : Scans rest t) : Speaks rest t ∨ Strays rest t := by
  cases h with
  | blank hblank hcw hc => exact Or.inr (.atEnd hblank hcw hc)
  | @text w r c hne hw hc =>
      by_cases hline : '\n' ∈ w
      · exact Or.inr (.below hw hline hc)
      · have hrest : restOfLine (w ++ c :: r) = w ++ restOfLine (c :: r) := firstLine_append hline _
        obtain ⟨b, v, rfl⟩ := List.exists_cons_of_ne_nil hne
        refine Or.inl ⟨⟨b, v ++ c :: r, rfl, hw b (List.mem_cons_self ..)⟩, ⟨c, ?_, hc⟩, ?_⟩
        · rw [hrest, show restOfLine (c :: r) = c :: restOfLine r from
            firstLine_cons (ne_newline_of_not_isBlank hc) r]
          exact List.mem_append_right _ (List.mem_cons_self ..)
        · rw [hrest, trim_append_of_isBlanks hw]

/-- A tag that speaks has not strayed. -/
theorem Speaks.not_strays (h : Speaks rest t) : ¬Strays rest s := by
  obtain ⟨d, hd, hdb⟩ := h.onLine
  intro hstrays
  cases hstrays with
  | below hw hline _ => exact not_mem_restOfLine hw hline hdb hd
  | atEnd hblank _ _ =>
      have hd' := hblank d ((List.takeWhile_prefix _).mem hd)
      exact absurd (hdb.symm.trans hd') Bool.false_ne_true

end Line

/-! ## Descriptions by lines -/

/-- The tag that decides on the description strays, to the text `t`. -/
inductive StraysTo (code t : List Char) : Prop where
  | title {before rest : List Char} : FirstText Scans titleTag code before rest t → Strays rest t →
      StraysTo code t
  | notice {before rest : List Char} : NoText Scans titleTag code →
      FirstText Scans noticeTag code before rest t → Strays rest t → StraysTo code t

section Descriptions

variable {tag code before rest t : List Char} {contractType contractName : String}

/-- The first tag that counts, if it does not stray, is the first one to speak. -/
theorem FirstText.speaks (h : FirstText Scans tag code before rest t) (hstays : ¬Strays rest t) :
    FirstText Speaks tag code before rest t where
  cut := h.cut
  text := h.text.speaks_or_strays.resolve_right hstays
  first before' rest' t' hcut ht := h.first before' rest' t' hcut ht.scans

theorem NoText.speaks (h : NoText Scans tag code) : NoText Speaks tag code :=
  fun before rest t hcut ht => h before rest t hcut ht.scans

theorem exists_says (R : List Char → List Char → Prop) (tag code : List Char) :
    ∃ o, Says R tag code o := by
  rcases exists_firstText_or_noText R tag code with ⟨before, rest, t, h⟩ | h
  · exact ⟨some t, .found h⟩
  · exact ⟨none, .missing h⟩

theorem describe_of_title (h : FirstText Scans titleTag code before rest t) :
    describe code contractType contractName = String.ofList t := by
  rw [describe, tagged?, tagText?_of_firstText h, Option.some_or]

theorem describe_of_notice (hno : NoText Scans titleTag code)
    (h : FirstText Scans noticeTag code before rest t) :
    describe code contractType contractName = String.ofList t := by
  rw [describe, tagged?, tagText?_of_noText hno, tagText?_of_firstText h, Option.none_or]

theorem describe_of_no_tag (hno : NoText Scans titleTag code) (hnone : NoText Scans noticeTag code) :
    describe code contractType contractName = genericDescription contractType contractName := by
  rw [describe, tagged?, tagText?_of_noText hno, tagText?_of_noText hnone, Option.none_or]

end Descriptions

/-- Where a tag stands at one place alone, it is known what follows it. -/
theorem rest_of_only_place {tag code before rest : List Char} {n : Nat}
    (h : code = before ++ (tag ++ rest))
    (hplace : ∀ k < code.length + 1, tag <+: code.drop k → k = n) :
    rest = code.drop (n + tag.length) := by
  have hlength : before.length = n := by
    refine hplace before.length ?_ ?_
    · rw [h, List.length_append]
      exact Nat.lt_succ_of_le (Nat.le_add_right ..)
    · rw [h, List.drop_left]
      exact List.prefix_append tag rest
  rw [h, ← hlength, ← List.drop_drop, List.drop_left, List.drop_left]

/-- **A DESCRIPTION IS THAT OF A LINE** unless the tag that decides strays: it is
    the rest of the line of the first title that has a text on its line, else
    that of the first notice, else the generic line.  Where the tag strays, the
    description is what it has strayed to. -/
theorem describe_by_line (code : List Char) (contractType contractName : String) :
    ((∀ t, ¬StraysTo code t) →
        IsDescription Speaks code contractType contractName
          (describe code contractType contractName)) ∧
      ∀ t, StraysTo code t → describe code contractType contractName = String.ofList t := by
  constructor
  · intro hstays
    -- a title counts, or a notice alone, or neither
    rcases exists_firstText_or_noText Scans titleTag code with ⟨before, rest, t, h⟩ | hno
    · obtain ⟨notice, hnotice⟩ := exists_says Speaks noticeTag code
      have htitle := h.speaks fun hs => hstays t (.title h hs)
      exact ⟨some t, notice, .found htitle, hnotice, describe_of_title h⟩
    · rcases exists_firstText_or_noText Scans noticeTag code with ⟨before, rest, t, h⟩ | hnone
      · have hnotice := h.speaks fun hs => hstays t (.notice hno h hs)
        exact ⟨none, some t, .missing hno.speaks, .found hnotice, describe_of_notice hno h⟩
      · exact ⟨none, none, .missing hno.speaks, .missing hnone.speaks, describe_of_no_tag hno hnone⟩
  · intro t h
    cases h with
    | title h _ => exact describe_of_title h
    | notice hno h _ => exact describe_of_notice hno h

/-- A blank notice above a title. -/
def titleBelow : List Char := "@notice\n@title x".toList

/-- A blank title above a notice. -/
def noticeBelow : List Char := "@title \n@notice N".toList

theorem titleTag_of_titleBelow {before rest : List Char}
    (h : titleBelow = before ++ (titleTag ++ rest)) : rest = " x".toList := by
  rw [rest_of_only_place (n := 8) h (by decide +kernel)]
  rfl

theorem titleTag_of_noticeBelow {before rest : List Char}
    (h : noticeBelow = before ++ (titleTag ++ rest)) : rest = " \n@notice N".toList := by
  rw [rest_of_only_place (n := 0) h (by decide +kernel)]
  rfl

theorem noticeTag_of_noticeBelow {before rest : List Char}
    (h : noticeBelow = before ++ (noticeTag ++ rest)) : rest = " N".toList := by
  rw [rest_of_only_place (n := 8) h (by decide +kernel)]
  rfl

/-- A title with a text on its line decides, whatever the blank notice above it;
    a blank title strays to the notice below it. -/
theorem describe_title_below_notice :
    (∀ t, ¬StraysTo titleBelow t) ∧ IsDescription Speaks titleBelow "T" "N" "x" ∧
      StraysTo noticeBelow "@notice N".toList ∧ describe noticeBelow "T" "N" = "@notice N" := by
  have hspeaks : Speaks " x".toList "x".toList :=
    ⟨⟨' ', ['x'], rfl, by decide⟩, ⟨'x', by decide, by decide⟩, by decide⟩
  have hstays : ∀ t, ¬StraysTo titleBelow t := by
    intro t h
    cases h with
    | title h hstrays =>
        rw [titleTag_of_titleBelow h.cut] at hstrays
        exact hspeaks.not_strays hstrays
    | notice hno _ _ => exact hno "@notice\n".toList _ _ rfl hspeaks.scans
  have hblanks : IsBlanks " \n".toList := by decide
  have hstrays : Strays " \n@notice N".toList "@notice N".toList :=
    .below (c := '@') (r := "notice N".toList) hblanks (by decide) (by decide)
  have hfirst : FirstText Scans titleTag noticeBelow [] " \n@notice N".toList "@notice N".toList :=
    ⟨rfl, hstrays.scans, fun _ _ _ _ _ => Nat.zero_le _⟩
  have hx : describe titleBelow "T" "N" = "x" := by decide +kernel
  obtain ⟨hdescription, -⟩ := describe_by_line titleBelow "T" "N"
  obtain ⟨-, hstrayed⟩ := describe_by_line noticeBelow "T" "N"
  refine ⟨hstays, ?_, .title hfirst hstrays, hstrayed _ (.title hfirst hstrays)⟩
  rw [← hx]
  exact hdescription hstays

/-- A blank title takes the line below it for its text, with the mark of the
    notice that stands there. -/
theorem describe_strays_below_title :
    ¬∀ code contractType contractName,
      IsDescription Speaks code contractType contractName
        (describe code contractType contractName) := by
  intro hall
  obtain ⟨title, notice, htitle, hnotice, hdescription⟩ := hall noticeBelow "T" "N"
  have hstray : describe noticeBelow "T" "N" = "@notice N" := by decide +kernel
  rw [hstray] at hdescription
  cases htitle with
  | found h =>
      obtain ⟨d, hd, hdb⟩ := h.text.onLine
      rw [titleTag_of_noticeBelow h.cut] at hd
      have hblank : ∀ c ∈ restOfLine " \n@notice N".toList, isBlank c = true :=
        List.all_eq_true.mp (by decide +kernel)
      exact absurd (hdb.symm.trans (hblank d hd)) Bool.false_ne_true
  | missing =>
      cases hnotice with
      | missing => exact absurd hdescription (by decide +kernel)
      | found h =>
          have heq := h.text.eq
          rw [noticeTag_of_noticeBelow h.cut] at heq
          rw [heq] at hdescription
          exact absurd hdescription (by decide +kernel)

end ContractScan.Source
