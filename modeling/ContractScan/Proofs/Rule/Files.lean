import ContractScan.Proofs.Rule.Meaning
import ContractScan.Proofs.Rule.Window
import Mathlib.Data.List.Nodup

/-! # Findings in sources of several files

    The contents of several files are swept as one text, with a line feed
    between two neighbours.  What is found there follows from what is found in
    the parts.

    None of the built-in patterns asks for an edge (`edges_of_mem_readings`), so a
    match stays one whatever stands around it (`triggers_of_isInfix`,
    `suppressed_of_isInfix`).  A match that takes no line feed lies within one
    file, and so the rules made of words fire on joined files exactly when they
    fire on one of them (`fires_joinLines_iff`).  A version may be declared over a
    line break, and then a file that is put in between takes the finding away.

    **FILES ADD FINDINGS**: `findings_of_files`. -/

namespace ContractScan

open ContractScan.Text

/-! ## Patterns without edges -/

namespace Pattern

variable {p : Pattern} {s t : List Char}

/-- A pattern without edges takes what it takes of an empty neighbourhood. -/
theorem takes_of_edges_eq_nil (hp : p.edges = []) : p.Takes (Spans p none · []) := by
  have hmove {b b' : Option Char} {w a a' : List Char} (h : Spans p b w a) : Spans p b' w a' := by
    refine h.transfer (B := fun _ _ => True) (A := fun _ _ => True) (fun _ => trivial)
      (fun _ _ _ _ => trivial) ?_ trivial trivial
    intro e he
    rw [hp] at he
    exact nomatch he
  exact fun b w a => ⟨hmove, hmove⟩

theorem occursIn_of_isInfix (hp : p.edges = []) (hpart : s <:+: t) (h : p.occursIn s = true) :
    p.occursIn t = true := by
  have htakes := takes_of_edges_eq_nil hp
  obtain ⟨w, hw, hws⟩ := htakes.occursIn_iff.mp h
  exact htakes.occursIn_iff.mpr ⟨w, hw, hws.trans hpart⟩

/-- **A MATCH LIES WITHIN ONE OF THE JOINED TEXTS** if it is not empty and takes
    no line feed. -/
theorem occursIn_joinLines_iff (hp : p.edges = []) (hnewline : p.mayTake '\n' = false)
    (hempty : p.occursIn [] = false) (ls : List (List Char)) :
    p.occursIn (joinLines ls) = true ↔ ∃ l ∈ ls, p.occursIn l = true := by
  have htakes := takes_of_edges_eq_nil hp
  have hpart {w : List Char} (hw : Spans p none w []) :
      w <:+: joinLines ls ↔ ∃ l ∈ ls, w <:+: l := by
    refine infix_joinLines_iff ?_ (not_mem_of_spans hw hnewline) ls
    intro hnil
    have hoccurs : p.occursIn [] = true :=
      htakes.occursIn_iff.mpr ⟨w, hw, hnil ▸ List.infix_refl w⟩
    rw [hempty] at hoccurs
    exact nomatch hoccurs
  rw [htakes.occursIn_iff]
  constructor
  · rintro ⟨w, hw, hwls⟩
    obtain ⟨l, hl, hwl⟩ := (hpart hw).mp hwls
    exact ⟨l, hl, htakes.occursIn_iff.mpr ⟨w, hw, hwl⟩⟩
  · rintro ⟨l, hl, hoccurs⟩
    obtain ⟨w, hw, hwl⟩ := htakes.occursIn_iff.mp hoccurs
    exact ⟨w, hw, (hpart hw).mpr ⟨l, hl, hwl⟩⟩

end Pattern

namespace Rule

/-! ## Rules on parts of a text -/

/-- No pattern of the table asks for an edge or is found in an empty text. -/
theorem edges_of_mem_readings : ∀ x ∈ readings,
    x.2.1.edges = [] ∧ x.2.1.occursIn [] = false ∧ ∀ q ∈ x.2.2, q.edges = [] := by
  decide

/-- The patterns of a built-in rule. -/
theorem exists_readsAs {r : Rule} (hr : r ∈ table) :
    ∃ p q, r.ReadsAs p q ∧ p.edges = [] ∧ p.occursIn [] = false ∧ ∀ x ∈ q, x.edges = [] := by
  have htable : table = readings.map Prod.fst := rfl
  rw [htable] at hr
  obtain ⟨x, hx, rfl⟩ := List.mem_map.mp hr
  exact ⟨x.2.1, x.2.2, readsAs_of_mem_readings x hx, edges_of_mem_readings x hx⟩

section Parts

variable {r : Rule} {s t : List Char}

/-- What triggers a rule in a part triggers it in the whole. -/
theorem triggers_of_isInfix (hr : r ∈ table) (hpart : s <:+: t)
    (h : r.triggers s = .ok true) : r.triggers t = .ok true := by
  obtain ⟨p, q, hreads, hedges, -, -⟩ := exists_readsAs hr
  rw [hreads.triggers_eq, Except.ok.injEq] at h ⊢
  exact Pattern.occursIn_of_isInfix hedges hpart h

/-- What rules a finding out in a part rules it out in the whole. -/
theorem suppressed_of_isInfix (hr : r ∈ table) (hpart : s <:+: t)
    (h : r.suppressed s = .ok true) : r.suppressed t = .ok true := by
  obtain ⟨p, q, hreads, -, -, hedges⟩ := exists_readsAs hr
  rw [hreads.suppressed_eq, Except.ok.injEq, Option.any_eq_true] at h ⊢
  obtain ⟨x, hx, hoccurs⟩ := h
  exact ⟨x, hx, Pattern.occursIn_of_isInfix (hedges x hx) hpart hoccurs⟩

/-- Without a suppressor, a rule that fires on a part fires on the whole. -/
theorem fires_of_isInfix (hr : r ∈ table) (hno : r.suppressor = none) (hpart : s <:+: t)
    (h : r.fires s = .ok true) : r.fires t = .ok true := by
  have hquiet (content : List Char) : r.suppressed content = .ok false := by rw [suppressed, hno]
  obtain ⟨htrigger, -⟩ := fires_eq_true_iff.mp h
  exact fires_eq_true_iff.mpr ⟨triggers_of_isInfix hr hpart htrigger, hquiet t⟩

end Parts

/-! ## Rules on joined files -/

theorem suppressor_of_mem_drop_table : ∀ r ∈ table.drop 2, r.suppressor = none := by
  decide

/-- The rules made of words are the third to the seventh of the table. -/
theorem mem_drop_table_of_mem_wordRules {r : Rule} (hr : r ∈ wordRules) : r ∈ table.drop 2 := by
  have hplace : wordRules = (table.drop 2).take 5 := rfl
  rw [hplace] at hr
  exact List.mem_of_mem_take hr

theorem mem_table_of_mem_wordRules {r : Rule} (hr : r ∈ wordRules) : r ∈ table :=
  List.mem_of_mem_drop (mem_drop_table_of_mem_wordRules hr)

theorem suppressor_of_mem_wordRules {r : Rule} (hr : r ∈ wordRules) : r.suppressor = none :=
  suppressor_of_mem_drop_table r (mem_drop_table_of_mem_wordRules hr)

/-- **A WORD STANDS IN ONE FILE**: a rule made of words fires on joined files
    exactly when it fires on one of them. -/
theorem fires_joinLines_iff {r : Rule} (hr : r ∈ wordRules) (files : List (List Char)) :
    r.fires (joinLines files) = .ok true ↔ ∃ f ∈ files, r.fires f = .ok true := by
  obtain ⟨p, hp, -, hnewline⟩ := exists_pattern_of_mem_wordRules hr
  obtain ⟨p', q, hreads, hedges, hempty, -⟩ := exists_readsAs (mem_table_of_mem_wordRules hr)
  obtain rfl : p = p' := Except.ok.inj (hp.symm.trans hreads.1)
  have hfires (content : List Char) : r.fires content = .ok true ↔ p.occursIn content = true :=
    fires_iff_of_no_suppressor hp (suppressor_of_mem_wordRules hr)
  simp only [hfires]
  exact Pattern.occursIn_joinLines_iff hedges hnewline hempty files

/-- Files that are enlarged, reordered or joined by others keep their words. -/
theorem fires_joinLines_of_isInfix {r : Rule} (hr : r ∈ wordRules) {files files' : List (List Char)}
    (hkept : ∀ f ∈ files, ∃ f' ∈ files', f <:+: f') (h : r.fires (joinLines files) = .ok true) :
    r.fires (joinLines files') = .ok true := by
  obtain ⟨f, hf, hfires⟩ := (fires_joinLines_iff hr files).mp h
  obtain ⟨f', hf', hpart⟩ := hkept f hf
  refine (fires_joinLines_iff hr files').mpr ⟨f', hf', ?_⟩
  exact fires_of_isInfix (mem_table_of_mem_wordRules hr)
    (suppressor_of_mem_wordRules hr) hpart hfires

/-- The order of files has no part in whether a rule made of words fires. -/
theorem fires_joinLines_perm {r : Rule} (hr : r ∈ wordRules) {files files' : List (List Char)}
    (hperm : files.Perm files') :
    r.fires (joinLines files) = .ok true ↔ r.fires (joinLines files') = .ok true := by
  rw [fires_joinLines_iff hr, fires_joinLines_iff hr]
  constructor
  · rintro ⟨f, hf, hfires⟩
    exact ⟨f, hperm.mem_iff.mp hf, hfires⟩
  · rintro ⟨f, hf, hfires⟩
    exact ⟨f, hperm.mem_iff.mpr hf, hfires⟩

/-! ## Findings -/

/-- A sweep with the built-in rules has a finding of the rule. -/
def IsFound (r : Rule) (content : List Char) (c : Int) : Prop :=
  ∃ found snippet, sweep content c table = .ok found ∧ r.finding snippet ∈ found

/-- The findings of two built-in rules are told apart by their descriptions. -/
theorem eq_of_finding_eq {r s : Rule} (hr : r ∈ table) (hs : s ∈ table) {x y : Option String}
    (h : r.finding x = s.finding y) : r = s := by
  have hnames : (table.map Rule.description).Nodup := by decide +kernel
  have hname : r.description = s.description := congrArg Finding.description h
  exact List.inj_on_of_nodup_map hnames hr hs hname

/-- A built-in rule has a finding exactly where it fires. -/
theorem isFound_iff {r : Rule} (hr : r ∈ table) {content : List Char} {c : Int} :
    r.IsFound content c ↔ r.fires content = .ok true := by
  have hsweep := sweep_eq_of_isReadable isReadable_of_mem_table content c
  rw [← firesOn_iff]
  constructor
  · rintro ⟨found, snippet, hfound, hmem⟩
    rw [hsweep, Except.ok.injEq] at hfound
    rw [← hfound] at hmem
    obtain ⟨s, hs, hsame⟩ := List.mem_map.mp hmem
    obtain ⟨hstable, hfires⟩ := List.mem_filter.mp hs
    rw [← eq_of_finding_eq hstable hr hsame]
    exact hfires
  · intro hfires
    exact ⟨_, shownOn content c r, hsweep,
      List.mem_map_of_mem (List.mem_filter.mpr ⟨hr, hfires⟩)⟩

/-- With their excerpts hidden, the findings of the rules made of words are told
    by which of them fire: each has an excerpt. -/
theorem sweep_wordRules_hidden (content : List Char) (c : Int) :
    (sweep content c wordRules).map (List.map Finding.hideExcerpt) =
      .ok ((wordRules.filter (firesOn content)).map fun r => r.finding (some "")) := by
  have hreadable : ∀ r ∈ wordRules, r.isReadable = true :=
    fun r hr => isReadable_of_mem_table r (mem_table_of_mem_wordRules hr)
  rw [sweep_eq_of_isReadable hreadable]
  show Except.ok (((wordRules.filter (firesOn content)).map _).map Finding.hideExcerpt) = _
  rw [List.map_map]
  refine congrArg Except.ok (List.map_congr_left fun r hr => ?_)
  obtain ⟨hmem, hfires⟩ := List.mem_filter.mp hr
  obtain ⟨p, hp, hbound, hnewline⟩ := exists_pattern_of_mem_wordRules hmem
  obtain ⟨text, htext⟩ := exists_excerpt_of_fires hp hbound hnewline (firesOn_iff.mp hfires) c
  have hshown : shownOn content c r = some text := by rw [shownOn, htext]
  show (r.finding (shownOn content c r)).hideExcerpt = _
  rw [hshown]
  rfl

theorem sweep_wordRules_perm {files files' : List (List Char)} (hperm : files.Perm files')
    (c : Int) :
    (sweep (joinLines files) c wordRules).map (List.map Finding.hideExcerpt) =
      (sweep (joinLines files') c wordRules).map (List.map Finding.hideExcerpt) := by
  have hfilter : wordRules.filter (firesOn (joinLines files)) =
      wordRules.filter (firesOn (joinLines files')) := by
    refine List.filter_congr fun r hr => ?_
    rw [Bool.eq_iff_iff, firesOn_iff, firesOn_iff]
    exact fires_joinLines_perm hr hperm
  rw [sweep_wordRules_hidden, sweep_wordRules_hidden, hfilter]

/-- The guard is found wherever it stands. -/
theorem not_isFound_reentrancy {content : List Char} (h : "nonReentrant".toList <:+: content)
    (c : Int) : ¬ reentrancy.IsFound content c := by
  intro hfound
  have hfires := (isFound_iff (List.mem_cons_self ..)).mp hfound
  obtain ⟨-, hunguarded⟩ := fires_reentrancy_iff.mp hfires
  exact hunguarded h

/-- A rule without a suppressor keeps its finding in a larger text. -/
theorem IsFound.of_isInfix {r : Rule} (hr : r ∈ table.drop 2) {s t : List Char} {c : Int}
    (hpart : s <:+: t) (h : r.IsFound s c) : r.IsFound t c := by
  have htable : r ∈ table := List.mem_of_mem_drop hr
  rw [isFound_iff htable] at h ⊢
  exact fires_of_isInfix htable (suppressor_of_mem_drop_table r hr)
    hpart h

/-- **FILES ADD FINDINGS**: what triggers a built-in rule, or rules its finding
    out, does so within any larger text.  So a rule without a suppressor keeps its
    finding when text or files are put before or behind, and when the file that
    has it comes to stand among others.  The guard rules its finding out from any
    file.  A rule made of words has a finding in joined files exactly when it has
    one in a file, so it keeps it when files are enlarged or put anywhere, and
    the order of the files shows in excerpts only. -/
theorem findings_of_files :
    (∀ r ∈ table, ∀ u v w : List Char,
      (r.triggers v = .ok true → r.triggers (u ++ v ++ w) = .ok true) ∧
      (r.suppressed v = .ok true → r.suppressed (u ++ v ++ w) = .ok true)) ∧
    (∀ r ∈ table.drop 2, ∀ c : Int,
      (∀ u v w : List Char, r.IsFound v c → r.IsFound (u ++ v ++ w) c) ∧
      (∀ before files after : List (List Char), r.IsFound (joinLines files) c →
        r.IsFound (joinLines (before ++ files ++ after)) c) ∧
      ∀ files : List (List Char), ∀ f ∈ files, r.IsFound f c → r.IsFound (joinLines files) c) ∧
    (∀ c : Int,
      (∀ content, "nonReentrant".toList <:+: content → ¬ reentrancy.IsFound content c) ∧
      ∀ files : List (List Char), ∀ f ∈ files, "nonReentrant".toList <:+: f →
        ¬ reentrancy.IsFound (joinLines files) c) ∧
    (∀ r ∈ wordRules, ∀ files : List (List Char),
      (r.fires (joinLines files) = .ok true ↔ ∃ f ∈ files, r.fires f = .ok true) ∧
      ∀ c : Int, r.IsFound (joinLines files) c ↔ ∃ f ∈ files, r.IsFound f c) ∧
    (∀ r ∈ wordRules, ∀ (c : Int) (files files' : List (List Char)),
      (∀ f ∈ files, ∃ f' ∈ files', f <:+: f') →
      r.IsFound (joinLines files) c → r.IsFound (joinLines files') c) ∧
    ∀ (c : Int) (files files' : List (List Char)), files.Perm files' →
      (∀ r ∈ wordRules, r.IsFound (joinLines files) c ↔ r.IsFound (joinLines files') c) ∧
      (sweep (joinLines files) c wordRules).map (List.map Finding.hideExcerpt) =
        (sweep (joinLines files') c wordRules).map (List.map Finding.hideExcerpt) := by
  refine ⟨?_, ?_, ?_, ?_, ?_, ?_⟩
  · intro r hr u v w
    have hpart : v <:+: u ++ v ++ w := ⟨u, w, rfl⟩
    exact ⟨triggers_of_isInfix hr hpart, suppressed_of_isInfix hr hpart⟩
  · intro r hr c
    refine ⟨fun u v w => .of_isInfix hr ⟨u, w, rfl⟩, ?_, ?_⟩
    · intro before files after
      exact .of_isInfix hr (isInfix_joinLines ⟨before, after, rfl⟩)
    · exact fun files f hf => .of_isInfix hr (infix_joinLines_of_mem hf)
  · intro c
    refine ⟨fun content h => not_isFound_reentrancy h c, ?_⟩
    intro files f hf h
    exact not_isFound_reentrancy (h.trans (infix_joinLines_of_mem hf)) c
  · intro r hr files
    refine ⟨fires_joinLines_iff hr files, fun c => ?_⟩
    simp only [isFound_iff (mem_table_of_mem_wordRules hr)]
    exact fires_joinLines_iff hr files
  · intro r hr c files files' hkept
    simp only [isFound_iff (mem_table_of_mem_wordRules hr)]
    exact fires_joinLines_of_isInfix hr hkept
  · intro c files files' hperm
    refine ⟨fun r hr => ?_, sweep_wordRules_perm hperm c⟩
    rw [isFound_iff (mem_table_of_mem_wordRules hr), isFound_iff (mem_table_of_mem_wordRules hr)]
    exact fires_joinLines_perm hr hperm

theorem floatingPragma_mem_drop_table : floatingPragma ∈ table.drop 2 :=
  List.mem_of_getElem? (i := 5) rfl

/-- A declaration over a line break is found among other files, a guard in one
    file answers for the call in another, and a word is found in either order. -/
theorem findings_of_three_files :
    floatingPragma.IsFound (joinLines
      ["tx.origin".toList, "pragma\nsolidity >0;".toList, "nonReentrant".toList]) 2 ∧
    ¬ reentrancy.IsFound (joinLines [".call\x7bvalue:".toList, "nonReentrant".toList]) 2 ∧
    (txOrigin.IsFound (joinLines ["tx.".toList, "origin tx.origin".toList]) 2 ↔
      txOrigin.IsFound (joinLines ["origin tx.origin".toList, "tx.".toList]) 2) := by
  obtain ⟨-, hgrow, hguard, -, -, hperm⟩ := findings_of_files
  have hpragma : floatingPragma.IsFound "pragma\nsolidity >0;".toList 2 := by
    rw [isFound_iff (List.mem_of_mem_drop floatingPragma_mem_drop_table)]
    decide +kernel
  obtain ⟨-, -, hfile⟩ := hgrow floatingPragma floatingPragma_mem_drop_table 2
  obtain ⟨-, hguarded⟩ := hguard 2
  obtain ⟨hsame, -⟩ := hperm 2 ["tx.".toList, "origin tx.origin".toList]
    ["origin tx.origin".toList, "tx.".toList] (List.Perm.swap _ _ _)
  refine ⟨hfile _ _ ?_ hpragma, hguarded _ "nonReentrant".toList ?_ (List.infix_refl _),
    hsame txOrigin (List.mem_cons_self ..)⟩
  · exact List.mem_cons_of_mem _ (List.mem_cons_self ..)
  · exact List.mem_cons_of_mem _ (List.mem_cons_self ..)

/-- A file that is put between two others may take a finding away: the version is
    declared from the end of one file to the beginning of the next. -/
theorem finding_lost_between_files :
    ¬ ∀ r ∈ table.drop 2, ∀ (c : Int) (before after : List (List Char)) (file : List Char),
      r.IsFound (joinLines (before ++ after)) c →
      r.IsFound (joinLines (before ++ file :: after)) c := by
  intro hall
  have hrule := floatingPragma_mem_drop_table
  have hkept := hall floatingPragma hrule 2 ["pragma".toList] ["solidity ^0.8.0;".toList]
    "contract C \x7b\x7d".toList
  rw [isFound_iff (List.mem_of_mem_drop hrule), isFound_iff (List.mem_of_mem_drop hrule)] at hkept
  have hdeclared : floatingPragma.fires "pragma\nsolidity ^0.8.0;".toList = .ok true := by
    decide +kernel
  have hparted : floatingPragma.fires "pragma\ncontract C \x7b\x7d\nsolidity ^0.8.0;".toList =
      .ok false := by
    decide +kernel
  exact nomatch hparted.symm.trans (hkept hdeclared)

end Rule

end ContractScan
