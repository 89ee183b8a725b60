import ContractScan.Proofs.Analysis
import ContractScan.Proofs.Rule.Excerpt
import ContractScan.Proofs.Score

/-! # Excerpts are windows on the text

    All lines of a text, each after its number, make one long list, and an
    excerpt is a slice of it: as many lines as asked for on both sides of the
    first line that the pattern matches on its own, as far as there are any
    (`lines_excerpt`).  Everything else about excerpts is a fact about slices.

    How far the window reaches has no part in anything but the text of excerpts.
    A sweep that is looked at with the excerpts hidden is the same for every
    width, and so is the report, its score and its verdict among the rest.

    **WINDOWS AND NOTHING ELSE**: `excerpts_are_windows`. -/

namespace ContractScan

open ContractScan.Text

/-! ## Numbered lines -/

section Numbered

variable {l : List Char} {ls : List (List Char)}

theorem getElem?_numbered (number j : Nat) (ls : List (List Char)) :
    (numbered number ls)[j]? = ls[j]?.map (numberedLine (number + j)) := by
  induction ls generalizing number j with
  | nil => rfl
  | cons l ls ih =>
      cases j with
      | zero => rfl
      | succ j =>
          show (numbered (number + 1) ls)[j]? = ls[j]?.map (numberedLine (number + (j + 1)))
          rw [ih, Nat.add_assoc, Nat.add_comm 1 j]

/-- Cutting lines out and numbering them from their place is numbering all lines
    and cutting out the same. -/
theorem numbered_extract (ls : List (List Char)) (lo hi : Nat) :
    numbered (lo + 1) (ls.extract lo hi) = (numbered 1 ls).extract lo hi := by
  refine List.ext_getElem? fun j => ?_
  rw [getElem?_numbered, List.getElem?_take, List.getElem?_take, List.getElem?_drop,
    List.getElem?_drop, getElem?_numbered]
  split
  · rw [Nat.add_right_comm, Nat.add_comm 1 (lo + j), Nat.add_right_comm]
  · rfl

theorem length_numbered (number : Nat) (ls : List (List Char)) :
    (numbered number ls).length = ls.length := by
  induction ls generalizing number with
  | nil => rfl
  | cons l ls ih =>
      show (numbered (number + 1) ls).length + 1 = ls.length + 1
      rw [ih]

theorem isDigit_of_mem_toDigits {n : Nat} {c : Char} (h : c ∈ Nat.toDigits 10 n) :
    c.isDigit = true :=
  Nat.isDigit_of_mem_toDigits (by decide) (by decide) h

/-- An entry without its number and the mark behind that. -/
def afterNumber (entry : List Char) : List Char := (entry.dropWhile Char.isDigit).drop 3

/-- The number is cut off even if the line goes on with a digit. -/
theorem afterNumber_numberedLine (number : Nat) (l : List Char) :
    afterNumber (numberedLine number l) = l := by
  have hblank : ¬ (' ' : Char).isDigit = true := by decide
  rw [afterNumber, numberedLine, List.dropWhile_append_of_pos fun c => isDigit_of_mem_toDigits,
    List.dropWhile_cons_of_neg hblank]
  rfl

theorem map_afterNumber_numbered (number : Nat) (ls : List (List Char)) :
    (numbered number ls).map afterNumber = ls := by
  induction ls generalizing number with
  | nil => rfl
  | cons l ls ih =>
      rw [numbered, List.map_cons, afterNumber_numberedLine, ih]

theorem newline_not_mem_numberedLine (number : Nat) (hl : '\n' ∉ l) :
    '\n' ∉ numberedLine number l := by
  intro hmem
  rcases List.mem_append.mp hmem with hdigit | hmem
  · exact absurd (isDigit_of_mem_toDigits hdigit) (by decide)
  · simp [hl] at hmem

theorem newline_not_mem_of_mem_numbered (number : Nat) (h : ∀ l ∈ ls, '\n' ∉ l) :
    ∀ e ∈ numbered number ls, '\n' ∉ e := by
  induction ls generalizing number with
  | nil => exact fun e he => nomatch he
  | cons l ls ih =>
      obtain ⟨hl, hrest⟩ := List.forall_mem_cons.mp h
      exact List.forall_mem_cons.mpr ⟨newline_not_mem_numberedLine number hl, ih _ hrest⟩

end Numbered

/-! ## Slices -/

section Slices

variable {α : Type} {l : List α} {lo hi lo' hi' : Nat}

theorem isInfix_extract (lo hi : Nat) (l : List α) : l.extract lo hi <:+: l :=
  (List.take_prefix _ _).isInfix.trans (List.drop_suffix lo l).isInfix

theorem map_extract {β : Type} (f : α → β) (lo hi : Nat) (l : List α) :
    (l.extract lo hi).map f = (l.map f).extract lo hi := by
  show ((l.drop lo).take (hi - lo)).map f = _
  rw [List.map_take, List.map_drop]

theorem length_extract (hhi : hi ≤ l.length) : (l.extract lo hi).length = hi - lo := by
  show ((l.drop lo).take (hi - lo)).length = _
  rw [List.length_take, List.length_drop, Nat.min_eq_left (Nat.sub_le_sub_right hhi lo)]

theorem getElem?_extract {k : Nat} (hlo : lo ≤ k) (hhi : k < hi) :
    (l.extract lo hi)[k - lo]? = l[k]? := by
  show ((l.drop lo).take (hi - lo))[k - lo]? = _
  rw [List.getElem?_take_of_lt (by omega), List.getElem?_drop, Nat.add_sub_cancel' hlo]

/-- A slice is a part of every slice that begins no later and ends no sooner. -/
theorem extract_infix_extract (hlo : lo' ≤ lo) (hhi : hi ≤ hi') :
    l.extract lo hi <:+: l.extract lo' hi' := by
  have hcut : l.extract lo hi = (l.extract lo' hi').extract (lo - lo') (hi - lo') := by
    simp only [List.extract]
    rw [List.drop_take, List.drop_drop, List.take_take]
    have hstart : lo' + (lo - lo') = lo := by omega
    have hlength : min (hi - lo' - (lo - lo')) (hi' - lo' - (lo - lo')) = hi - lo := by omega
    rw [hstart, hlength]
  rw [hcut]
  exact isInfix_extract _ _ _

end Slices

/-! ## The window of an excerpt -/

/-- With `c` lines on both sides the window is what there is of them. -/
theorem window_natCast (c n i : Nat) : window c n i = (i - c, min n (i + c + 1)) := by
  have hstop : ¬ min (n : Int) (i + c + 1) < 0 := by omega
  simp only [window, if_neg hstop]
  refine Prod.ext ?_ ?_
  · show (max 0 ((i : Int) - c)).toNat = i - c
    omega
  · show (min (n : Int) (i + c + 1)).toNat = min n (i + c + 1)
    omega

/-- What an excerpt shows of a text whose line `i` matches, with `c` lines on both
    sides. -/
structure ShowsWindow (content : List Char) (i c : Nat) (text : String) : Prop where
  /-- There are as many entries as lines within reach. -/
  count : (lines text.toList).length = min (lines content).length (i + c + 1) - (i - c)
  /-- Each entry is the line of its place behind the number of it. -/
  entry : ∀ k, i - c ≤ k → k < min (lines content).length (i + c + 1) →
    ∃ l, (lines content)[k]? = some l ∧
      (lines text.toList)[k - (i - c)]? = some (Nat.toDigits 10 (k + 1) ++ (" | ".toList ++ l))
  /-- The line that matches is among them. -/
  matched : ∃ l, (lines content)[i]? = some l ∧
    Nat.toDigits 10 (i + 1) ++ (" | ".toList ++ l) ∈ lines text.toList
  short : (lines text.toList).length ≤ 2 * c + 1
  /-- Without their numbers the entries are neighbours in the text. -/
  block : (lines text.toList).map afterNumber <:+: lines content
  part : joinLines ((lines text.toList).map afterNumber) <:+: content
  /-- A window that is wide enough shows the text. -/
  whole : (lines content).length ≤ c → joinLines ((lines text.toList).map afterNumber) = content

section Windows

variable {content : List Char} {i c : Nat}

/-- **THE ENTRIES OF AN EXCERPT** are a slice of all numbered lines. -/
theorem lines_excerptOf (hi : i < (lines content).length) (c : Nat) :
    lines (excerptOf (lines content) (window c (lines content).length i)) =
      (numbered 1 (lines content)).extract (i - c) (min (lines content).length (i + c + 1)) := by
  have hentries : ∀ e ∈ (numbered 1 (lines content)).extract (i - c)
      (min (lines content).length (i + c + 1)), '\n' ∉ e := by
    intro e he
    have hlines : ∀ l ∈ lines content, '\n' ∉ l := fun l hl => newline_not_mem_of_mem_lines hl
    exact newline_not_mem_of_mem_numbered 1 hlines e ((isInfix_extract _ _ _).subset he)
  rw [window_natCast, excerptOf]
  show lines (joinLines (numbered (i - c + 1) ((lines content).extract (i - c)
    (min (lines content).length (i + c + 1))))) = _
  rw [numbered_extract, lines_joinLines ?_ hentries]
  -- the line that matches is one of them
  refine List.ne_nil_of_length_pos ?_
  rw [length_extract (by rw [length_numbered]; omega)]
  omega

theorem map_afterNumber_lines_excerptOf (hi : i < (lines content).length) (c : Nat) :
    (lines (excerptOf (lines content) (window c (lines content).length i))).map afterNumber =
      (lines content).extract (i - c) (min (lines content).length (i + c + 1)) := by
  rw [lines_excerptOf hi, map_extract, map_afterNumber_numbered]

theorem showsWindow_excerptAround (hi : i < (lines content).length) (c : Nat) :
    ShowsWindow content i c (Pattern.excerptAround content c i) := by
  have htext : (Pattern.excerptAround content c i).toList =
      excerptOf (lines content) (window c (lines content).length i) := String.toList_ofList
  have hcount : (lines (Pattern.excerptAround content c i).toList).length =
      min (lines content).length (i + c + 1) - (i - c) := by
    rw [htext, lines_excerptOf hi, length_extract (by rw [length_numbered]; omega)]
  have hentry : ∀ k, i - c ≤ k → k < min (lines content).length (i + c + 1) →
      ∃ l, (lines content)[k]? = some l ∧
        (lines (Pattern.excerptAround content c i).toList)[k - (i - c)]? =
          some (Nat.toDigits 10 (k + 1) ++ (" | ".toList ++ l)) := by
    intro k hlo hhi
    have hk : (lines content)[k]? = some (lines content)[k] := List.getElem?_eq_getElem (by omega)
    refine ⟨_, hk, ?_⟩
    rw [htext, lines_excerptOf hi, getElem?_extract hlo hhi, getElem?_numbered, hk,
      Nat.add_comm 1 k]
    rfl
  have hblock : (lines (Pattern.excerptAround content c i).toList).map afterNumber =
      (lines content).extract (i - c) (min (lines content).length (i + c + 1)) := by
    rw [htext, map_afterNumber_lines_excerptOf hi]
  refine ⟨hcount, hentry, ?_, ?_, ?_, ?_, ?_⟩
  · obtain ⟨l, hl, hentry⟩ := hentry i (Nat.sub_le i c) (by omega)
    exact ⟨l, hl, List.mem_of_getElem? hentry⟩
  · omega
  · rw [hblock]
    exact isInfix_extract _ _ _
  · have hpart := isInfix_joinLines (isInfix_extract (i - c)
      (min (lines content).length (i + c + 1)) (lines content))
    rw [joinLines_lines] at hpart
    rw [hblock]
    exact hpart
  · intro hwide
    have hstart : i - c = 0 := by omega
    have hstop : min (lines content).length (i + c + 1) = (lines content).length := by omega
    rw [hblock, hstart, hstop]
    show joinLines (((lines content).drop 0).take ((lines content).length - 0)) = content
    rw [List.drop_zero, Nat.sub_zero, List.take_length, joinLines_lines]

/-- A window is a block of the next wider one. -/
theorem isInfix_lines_excerptAround (hi : i < (lines content).length) (c : Nat) :
    lines (Pattern.excerptAround content c i).toList <:+:
      lines (Pattern.excerptAround content (c + 1 : Nat) i).toList := by
  have htext (c : Nat) : (Pattern.excerptAround content c i).toList =
      excerptOf (lines content) (window c (lines content).length i) := String.toList_ofList
  rw [htext, htext, lines_excerptOf hi, lines_excerptOf hi]
  exact extract_infix_extract (by omega) (by omega)

end Windows

/-! ## What does not depend on the width -/

/-- The finding without the text of its excerpt. -/
def Finding.hideExcerpt (f : Finding) : Finding := { f with snippet := f.snippet.map fun _ => "" }

/-- The analysis without the texts of its excerpts. -/
def Analysis.hideExcerpts (a : Analysis) : Analysis :=
  { a with findings := a.findings.map Finding.hideExcerpt }

/-- The report without the texts of its excerpts. -/
def Report.hideExcerpts (r : Report) : Report :=
  { r with findings := r.findings.map Finding.hideExcerpt }

section Widths

variable (content : List Char) (r : Rule) (rules : List Rule) (info : ContractInfo) (c c' : Int)

/-- Whether there is an excerpt is settled by the lines alone. -/
theorem excerpt_hidden (written : String) (flags : Nat) :
    (excerpt content written c flags).map (Option.map fun _ => "") =
      (excerpt content written c' flags).map (Option.map fun _ => "") := by
  rw [excerpt, excerpt]
  cases Pattern.compile written flags with
  | error e => rfl
  | ok p =>
      show Except.ok ((p.excerpt? c content).map fun _ => "") =
        Except.ok ((p.excerpt? c' content).map fun _ => "")
      simp only [Pattern.excerpt?, Option.map_map, Function.comp_def]

theorem findingOn?_hidden :
    (r.findingOn? content c).map (Option.map Finding.hideExcerpt) =
      (r.findingOn? content c').map (Option.map Finding.hideExcerpt) := by
  have hshow (c : Int) : (r.findingOn? content c).map (Option.map Finding.hideExcerpt) = (do
      if ← r.fires content then
        return some (r.finding (← (excerpt content r.pattern c r.flags).map (Option.map fun _ => "")))
      else
        return none) := by
    rw [Rule.findingOn?]
    cases r.fires content with
    | error e => rfl
    | ok fired =>
        cases fired with
        | false => rfl
        | true => cases excerpt content r.pattern c r.flags <;> rfl
  rw [hshow, hshow, excerpt_hidden content c c']

/-- **THE WIDTH SHOWS IN EXCERPTS ONLY**: with their texts hidden, a sweep is the
    same for every width. -/
theorem sweep_hidden :
    (Rule.sweep content c rules).map (List.map Finding.hideExcerpt) =
      (Rule.sweep content c' rules).map (List.map Finding.hideExcerpt) := by
  induction rules with
  | nil => rfl
  | cons r rules ih =>
      have hshow (c : Int) : (Rule.sweep content c (r :: rules)).map (List.map Finding.hideExcerpt) =
          (do
            let first ← (r.findingOn? content c).map (Option.map Finding.hideExcerpt)
            let rest ← (Rule.sweep content c rules).map (List.map Finding.hideExcerpt)
            return first.toList ++ rest) := by
        rw [Rule.sweep]
        cases r.findingOn? content c with
        | error e => rfl
        | ok first =>
            cases Rule.sweep content c rules with
            | error e => rfl
            | ok rest =>
                show Except.ok ((first.toList ++ rest).map Finding.hideExcerpt) =
                  Except.ok ((first.map Finding.hideExcerpt).toList ++ rest.map Finding.hideExcerpt)
                rw [List.map_append]
                cases first <;> rfl
      rw [hshow, hshow, ih, findingOn?_hidden content r c c']

theorem result_hidden :
    (Analyzer.analyze ⟨rules, c⟩ info).result.map Analysis.hideExcerpts =
      (Analyzer.analyze ⟨rules, c'⟩ info).result.map Analysis.hideExcerpts := by
  by_cases hlength : info.HasLength
  · by_cases hswept : info.IsSwept
    · obtain ⟨logs, hresult⟩ := Analyzer.results_of_swept hlength hswept
      rw [hresult, hresult]
      cases info.sourceCode with
      | str t =>
          have hshow (c : Int) :
              (Analyzer.scanSource ⟨rules, c⟩ (.str t) info.contractName logs).map
                  Analysis.hideExcerpts =
                ((Rule.sweep (Source.flatten t).toList c rules).map
                  (List.map Finding.hideExcerpt)).map fun fs =>
                    ⟨fs, (Source.classify (Source.flatten t).toList
                        info.contractName.display).contractType,
                      (Source.classify (Source.flatten t).toList
                        info.contractName.display).contractDescription, logs⟩ := by
            rw [Analyzer.scanSource_str]
            cases Rule.sweep (Source.flatten t).toList c rules <;> rfl
          rw [hshow, hshow, sweep_hidden _ rules c c']
      | _ => rfl
    · rw [Analyzer.analyze_eq_of_not_swept ⟨rules, c⟩ ⟨rules, c'⟩ hswept]
  · rw [Analyzer.result_of_no_length hlength, Analyzer.result_of_no_length hlength]

theorem cost_hidden (fs : List Finding) :
    Finding.cost (fs.map Finding.hideExcerpt) = Finding.cost fs := by
  induction fs with
  | nil => rfl
  | cons f fs ih =>
      show f.severity.penalty + Finding.cost (fs.map Finding.hideExcerpt) = _
      rw [ih, Finding.cost]

/-- Hiding excerpts does not change what a report says else. -/
theorem hideExcerpts_ofAnalysis (a : Analysis) :
    (Report.ofAnalysis a).hideExcerpts = Report.ofAnalysis a.hideExcerpts := by
  have hscore : Finding.score (a.findings.map Finding.hideExcerpt) = Finding.score a.findings := by
    rw [Finding.score, cost_hidden, Finding.score]
  simp only [Report.ofAnalysis, Report.hideExcerpts, Report.build, Analysis.hideExcerpts, hscore]

theorem generate_hidden :
    (Report.generate ⟨rules, c⟩ info).map Report.hideExcerpts =
      (Report.generate ⟨rules, c'⟩ info).map Report.hideExcerpts := by
  have hshow (c : Int) : (Report.generate ⟨rules, c⟩ info).map Report.hideExcerpts =
      ((Analyzer.analyze ⟨rules, c⟩ info).result.map Analysis.hideExcerpts).map
        Report.ofAnalysis := by
    rw [Report.generate]
    cases (Analyzer.analyze ⟨rules, c⟩ info).result with
    | error e => rfl
    | ok a => exact congrArg Except.ok (hideExcerpts_ofAnalysis a)
  rw [hshow, hshow, result_hidden rules info c c']

end Widths

end ContractScan
