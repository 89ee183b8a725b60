import ContractScan.Proofs.Analysis
import ContractScan.Proofs.Score
import Mathlib.Data.List.Basic

/-! # Rules do not know of each other

    A sweep puts the findings of its rules one after the other, so the sweep of
    two tables in a row is the two sweeps in a row (`sweep_append`).  The only
    thing one rule can do to another is to end the sweep: it BREAKS on a text
    when its pattern is not well formed, or its suppressor is not and the rule
    is triggered.

    Rules that are put into a table therefore add findings and touch none
    (`sweep_of_sublist`), and a report with more rules is never a better one. -/

namespace ContractScan

theorem Pattern.compile_eq_error_iff {written : String} {flags : Nat} {e : Fault} :
    Pattern.compile written flags = .error e ↔
      e = .badPattern ∧ Pattern.isWritten written flags = false := by
  rw [Pattern.compile, Pattern.isWritten]
  cases Pattern.read (.ofBits flags) written.toList with
  | some p =>
      constructor
      · intro h
        cases h
      · rintro ⟨_, h⟩
        cases h
  | none =>
      constructor
      · intro h
        exact ⟨(Except.error.inj h).symm, rfl⟩
      · rintro ⟨he, _⟩
        rw [he]

namespace Rule

/-! ## What ends a sweep -/

/-- The rule cannot be evaluated on the text: its pattern is not well formed, or
    its suppressor is not and is needed. -/
def Breaks (r : Rule) (content : List Char) : Prop :=
  Pattern.isWritten r.pattern r.flags = false ∨
    (r.triggers content = .ok true ∧
      ∃ s, r.suppressor = some s ∧ Pattern.isWritten s r.flags = false)

section Evaluation

variable {r : Rule} {content : List Char} {e : Fault}

theorem triggers_eq_error_iff :
    r.triggers content = .error e ↔
      e = .badPattern ∧ Pattern.isWritten r.pattern r.flags = false := by
  rw [triggers, bind_eq_error_iff, ← Pattern.compile_eq_error_iff]
  constructor
  · rintro (h | ⟨p, _, h⟩)
    · exact h
    · cases h
  · exact Or.inl

theorem suppressed_eq_error_iff :
    r.suppressed content = .error e ↔
      e = .badPattern ∧ ∃ s, r.suppressor = some s ∧ Pattern.isWritten s r.flags = false := by
  unfold suppressed
  cases r.suppressor with
  | none =>
      constructor
      · intro h
        cases h
      · rintro ⟨_, s, hs, _⟩
        cases hs
  | some s =>
      constructor
      · intro h
        rcases bind_eq_error_iff.mp h with hcompile | ⟨p, _, h⟩
        · obtain ⟨he, hs⟩ := Pattern.compile_eq_error_iff.mp hcompile
          exact ⟨he, s, rfl, hs⟩
        · cases h
      · rintro ⟨he, s', hs', hwritten⟩
        rw [← Option.some.inj hs'] at hwritten
        exact bind_eq_error_iff.mpr (Or.inl (Pattern.compile_eq_error_iff.mpr ⟨he, hwritten⟩))

/-- Rules fail in one way only, and they do where they break. -/
theorem fires_eq_error_iff :
    r.fires content = .error e ↔ e = .badPattern ∧ r.Breaks content := by
  rw [fires, bind_eq_error_iff, triggers_eq_error_iff]
  constructor
  · rintro (⟨he, htrigger⟩ | ⟨triggered, ht, h⟩)
    · exact ⟨he, Or.inl htrigger⟩
    · cases triggered with
      | false => cases h
      | true =>
          rcases bind_eq_error_iff.mp h with hsuppressed | ⟨b, _, h⟩
          · obtain ⟨he, hs⟩ := suppressed_eq_error_iff.mp hsuppressed
            exact ⟨he, Or.inr ⟨ht, hs⟩⟩
          · cases h
  · rintro ⟨he, htrigger | ⟨ht, hs⟩⟩
    · exact Or.inl ⟨he, htrigger⟩
    · refine Or.inr ⟨true, ht, ?_⟩
      exact bind_eq_error_iff.mpr (Or.inl (suppressed_eq_error_iff.mpr ⟨he, hs⟩))

theorem findingOn?_eq_error_iff {c : Int} :
    r.findingOn? content c = .error e ↔ e = .badPattern ∧ r.Breaks content := by
  rw [findingOn?, bind_eq_error_iff, fires_eq_error_iff]
  constructor
  · rintro (h | ⟨fired, hf, h⟩)
    · exact h
    · cases fired with
      | false => cases h
      | true =>
          -- the excerpt reads the trigger again, and that was possible before
          rcases bind_eq_error_iff.mp h with hexcerpt | ⟨s, _, h⟩
          · rcases bind_eq_error_iff.mp hexcerpt with hcompile | ⟨p, _, h⟩
            · obtain ⟨he, htrigger⟩ := Pattern.compile_eq_error_iff.mp hcompile
              exact ⟨he, Or.inl htrigger⟩
            · cases h
          · cases h
  · exact Or.inl

end Evaluation

/-! ## Sweeps of larger tables -/

section Tables

variable {content : List Char} {c : Int}

theorem sweep_cons_eq_ok_iff {r : Rule} {rs : List Rule} {fs : List Finding} :
    sweep content c (r :: rs) = .ok fs ↔
      ∃ first rest, r.findingOn? content c = .ok first ∧ sweep content c rs = .ok rest ∧
        fs = first.toList ++ rest := by
  rw [sweep, bind_eq_ok_iff]
  constructor
  · rintro ⟨first, hfirst, h⟩
    obtain ⟨rest, hrest, h⟩ := bind_eq_ok_iff.mp h
    exact ⟨first, rest, hfirst, hrest, (Except.ok.inj h).symm⟩
  · rintro ⟨first, rest, hfirst, hrest, hfs⟩
    refine ⟨first, hfirst, bind_eq_ok_iff.mpr ⟨rest, hrest, ?_⟩⟩
    rw [hfs]
    rfl

/-- Two tables in a row are swept one after the other. -/
theorem sweep_append (as bs : List Rule) :
    sweep content c (as ++ bs) = (do
      let fa ← sweep content c as
      let fb ← sweep content c bs
      return fa ++ fb) := by
  induction as with
  | nil =>
      show sweep content c bs = (do
        let fb ← sweep content c bs
        return [] ++ fb)
      cases sweep content c bs <;> rfl
  | cons r as ih =>
      show (do
        let first ← r.findingOn? content c
        let rest ← sweep content c (as ++ bs)
        return first.toList ++ rest) = (do
          let fa ← (do
            let first ← r.findingOn? content c
            let rest ← sweep content c as
            return first.toList ++ rest)
          let fb ← sweep content c bs
          return fa ++ fb)
      rw [ih]
      cases r.findingOn? content c with
      | error e => rfl
      | ok first =>
          cases sweep content c as with
          | error e => rfl
          | ok fa =>
              cases sweep content c bs with
              | error e => rfl
              | ok fb =>
                  show Except.ok (first.toList ++ (fa ++ fb)) =
                    Except.ok (first.toList ++ fa ++ fb)
                  rw [List.append_assoc]

/-- A sweep fails exactly when one of its rules breaks. -/
theorem sweep_eq_error_iff {rules : List Rule} {e : Fault} :
    sweep content c rules = .error e ↔ e = .badPattern ∧ ∃ r ∈ rules, r.Breaks content := by
  induction rules with
  | nil =>
      constructor
      · intro h
        cases h
      · rintro ⟨_, r, hr, _⟩
        cases hr
  | cons r rs ih =>
      rw [sweep, bind_eq_error_iff, findingOn?_eq_error_iff]
      constructor
      · rintro (⟨he, hbreaks⟩ | ⟨first, _, h⟩)
        · exact ⟨he, r, List.mem_cons_self .., hbreaks⟩
        · rcases bind_eq_error_iff.mp h with hrest | ⟨rest, _, h⟩
          · obtain ⟨he, s, hs, hbreaks⟩ := ih.mp hrest
            exact ⟨he, s, List.mem_cons_of_mem r hs, hbreaks⟩
          · cases h
      · rintro ⟨he, s, hs, hbreaks⟩
        cases hfirst : r.findingOn? content c with
        | error f => exact Or.inl ⟨he, (findingOn?_eq_error_iff.mp hfirst).2⟩
        | ok first =>
            -- the first rule does not break, so a later one does
            rcases List.mem_cons.mp hs with hsr | hs
            · rw [hsr] at hbreaks
              have hfault := findingOn?_eq_error_iff (c := c).mpr ⟨he, hbreaks⟩
              rw [hfirst] at hfault
              cases hfault
            · exact Or.inr ⟨first, rfl,
                bind_eq_error_iff.mpr (Or.inl (ih.mpr ⟨he, s, hs, hbreaks⟩))⟩

/-- **NOTHING IS LOST** in a larger table: what some of its rules find, all of
    them find too, in the same order. -/
theorem sweep_of_sublist {small large : List Rule} (h : small.Sublist large) {found : List Finding}
    (hlarge : sweep content c large = .ok found) :
    ∃ fs, sweep content c small = .ok fs ∧ fs.Sublist found := by
  induction h generalizing found with
  | slnil => exact ⟨found, hlarge, List.Sublist.refl _⟩
  | cons r _ ih =>
      obtain ⟨first, rest, _, hrest, hfound⟩ := sweep_cons_eq_ok_iff.mp hlarge
      obtain ⟨fs, hfs, hsub⟩ := ih hrest
      rw [hfound]
      exact ⟨fs, hfs, hsub.trans (List.sublist_append_right first.toList rest)⟩
  | cons_cons r _ ih =>
      obtain ⟨first, rest, hfirst, hrest, hfound⟩ := sweep_cons_eq_ok_iff.mp hlarge
      obtain ⟨fs, hfs, hsub⟩ := ih hrest
      rw [hfound]
      exact ⟨first.toList ++ fs, sweep_cons_eq_ok_iff.mpr ⟨first, fs, hfirst, hfs, rfl⟩,
        hsub.append_left first.toList⟩

end Tables

end Rule

/-! ## Reports with more rules -/

section Reports

variable {info : ContractInfo} {small large : List Rule} {c : Int}

/-- A scan with some of the rules finds some of what a scan with all of them
    finds. -/
theorem Analyzer.findings_of_sublist (h : small.Sublist large) {all : Analysis}
    (hlarge : (analyze ⟨large, c⟩ info).result = .ok all) :
    ∃ some, (analyze ⟨small, c⟩ info).result = .ok some ∧ some.findings.Sublist all.findings := by
  by_cases hlength : info.HasLength
  · by_cases hswept : info.IsSwept
    · obtain ⟨logs, hscan⟩ := result_of_swept (a := ⟨large, c⟩) hlength hswept
      obtain ⟨t, ht⟩ := text_of_scanSource (hscan.symm.trans hlarge)
      have hall : Rule.sweep (Source.flatten t).toList c large = .ok all.findings := by
        rw [← findings_of_swept (a := ⟨large, c⟩) hlength hswept ht, hlarge]
        rfl
      obtain ⟨fs, hfs, hsub⟩ := Rule.sweep_of_sublist h hall
      have hsmall := findings_of_swept (a := ⟨small, c⟩) hlength hswept ht
      rw [hfs] at hsmall
      obtain ⟨some, hsome, hfindings⟩ := map_eq_ok_iff.mp hsmall
      exact ⟨some, hsome, hfindings ▸ hsub⟩
    · rw [analyze_eq_of_not_swept ⟨small, c⟩ ⟨large, c⟩ hswept]
      exact ⟨all, hlarge, List.Sublist.refl _⟩
  · rw [result_of_no_length hlength] at hlarge
    cases hlarge

/-- **MORE RULES, NO BETTER REPORT**: where there is a report with all of the
    rules there is one with some of them, whose findings are among those of the
    first, whose score is no lower and whose verdict is no worse. -/
theorem Report.generate_of_sublist (h : small.Sublist large) {all : Report}
    (hlarge : generate ⟨large, c⟩ info = .ok all) :
    ∃ some, generate ⟨small, c⟩ info = .ok some ∧ some.findings.Sublist all.findings ∧
      all.score ≤ some.score ∧
      some.interpretation = (Verdict.ofScore some.score).text ∧
      all.interpretation = (Verdict.ofScore all.score).text ∧
      (Verdict.ofScore all.score).rank ≤ (Verdict.ofScore some.score).rank := by
  obtain ⟨a, ha, hall⟩ := map_eq_ok_iff.mp hlarge
  obtain ⟨b, hb, hsub⟩ := Analyzer.findings_of_sublist h ha
  have hscore : (Finding.score a.findings : Int) ≤ Finding.score b.findings :=
    Int.ofNat_le.mpr (Finding.score_le_of_sublist hsub)
  refine ⟨ofAnalysis b, map_eq_ok_iff.mpr ⟨b, hb, rfl⟩, ?_⟩
  rw [← hall]
  exact ⟨hsub, hscore, rfl, rfl, Verdict.rank_ofScore_le hscore⟩

end Reports

/-- A rule whose suppressor is not well formed. -/
def ruleWithOpenGroup : Rule where
  name := "Approval"
  pattern := "approve"
  suppressor := some "("
  severity := .critical
  description := "Approval"
  layman := "Approval"
  technical := "Approval"

/-- A contract whose source calls for two of three rules. -/
def contractWithTwoFindings : ContractInfo where
  address := .str "0x"
  isContract := .bool true
  bytecode := .str "0x60"
  isVerified := .bool true
  sourceCode := .str "tx.origin\nsuicide"

end ContractScan
