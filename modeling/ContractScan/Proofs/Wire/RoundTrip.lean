import ContractScan.Proofs.Report
import ContractScan.Proofs.Wire.Acceptance

/-! # What is written is read, and what is wrong is named

    A model is written under the names inside or under the names outside, and
    handed over as an object.  Whichever way it goes it is read as itself: a
    finding and a summary always, and a report exactly if its score is in range,
    which is all that a report can be refused for once its fields are told
    (`checkReport_ofReport_eq`, `checkReport_dump`).

    Data from elsewhere may be wrong at many places at once.  Each of them is
    named: a chain of fields keeps the issues of its links, and a list those of
    its items, so what is wrong with a nested finding is found again at the end
    of a longer path (`issue_of_nested`).

    **THERE AND BACK**: `wire_models_round_trip`. -/

namespace ContractScan.Wire

/-! ## There and back -/

/-- **A FINDING IS READ BACK** from what is written of it in either style. -/
theorem checkFinding_dump (k : KeyStyle) (f : Finding) :
    checkFinding (.value (dumpFinding k f)) = .valid f := by
  obtain ⟨tool, severity, description, location, layman, technical, snippet⟩ := f
  cases k <;> cases severity <;> cases snippet <;> rfl

/-- **A SUMMARY IS READ BACK**, whatever it says. -/
theorem ContractSummary.check_dump (k : KeyStyle) (c : ContractSummary) :
    ContractSummary.check (.value (c.dump k)) = .valid c := by
  cases k <;> rfl

/-- A report that was written is checked like one that is handed over. -/
theorem checkReport_dump (k : KeyStyle) (r : Report) :
    checkReport (.value (dumpReport k r)) = checkReport (.ofReport r) := by
  have hfindings : listOf checkFinding (.value (.arr (r.findings.map (dumpFinding k)))) =
      .valid r.findings := by
    show Checked.each checkFinding 0 ((r.findings.map (dumpFinding k)).map Datum.value) = _
    rw [List.map_map]
    exact Checked.each_map r.findings 0 fun f _ => checkFinding_dump k f
  rw [checkReport_ofReport_eq]
  refine TellsReport.checkReport_eq ?_ rfl
  -- the styles differ in two names, and a field is found under either of them
  cases k <;>
    exact ⟨congrArg (Checked.under (.field "findings")) hfindings, rfl, rfl, rfl, rfl,
      congrArg (Checked.under (.field "logs")) (listOf_texts r.logs)⟩

theorem checkScore_eq_ok_iff {n m : Int} : checkScore n = .ok m ↔ n = m ∧ 0 ≤ n ∧ n ≤ 100 := by
  by_cases hleast : n < 0
  · rw [checkScore, if_pos hleast]
    simp only [reduceCtorEq, false_iff]
    omega
  · by_cases hmost : 100 < n
    · rw [checkScore, if_neg hleast, if_pos hmost]
      simp only [reduceCtorEq, false_iff]
      omega
    · rw [checkScore, if_neg hleast, if_neg hmost, Except.ok.injEq]
      exact (and_iff_left (by omega)).symm

section Data

variable {α : Type} {d : Datum} {ps : List (String × Datum)}

theorem fromParts_eq_valid_iff {check : List (String × Datum) → Checked α} {a : α} :
    fromParts check d = .valid a ↔ ∃ ps, d.parts? = some ps ∧ check ps = .valid a := by
  rw [fromParts]
  cases d.parts? with
  | none => simp only [reduceCtorEq, false_and, exists_false]
  | some ps => simp only [Option.some.injEq, exists_eq_left']

/-- A required field is valid when it is found and what is found is accepted. -/
theorem required_eq_valid {n : FieldName} {check : Datum → Checked α} {a : α}
    (h : required ps n check = .valid a) : ∃ part, check part = .valid a := by
  unfold required at h
  split at h
  · exact nomatch h
  · exact nomatch h
  · exact ⟨_, Checked.under_eq_valid_iff.mp h⟩

/-- No report is accepted with a score out of range. -/
theorem score_of_checkReport {r : Report} (h : checkReport d = .valid r) :
    0 ≤ r.score ∧ r.score ≤ 100 := by
  obtain ⟨ps, -, hchain⟩ := fromParts_eq_valid_iff.mp h
  -- of the six links, from the last one back to the first, the score is the fifth
  simp only [Checked.seq_eq_valid_iff, Checked.map_eq_valid_iff] at hchain
  obtain ⟨_, _, ⟨_, _, ⟨_, _, ⟨_, _, ⟨_, score, ⟨findings, -, rfl⟩, hscore, rfl⟩, -, rfl⟩, -, rfl⟩,
    -, rfl⟩, -, rfl⟩ := hchain
  obtain ⟨part, hpart⟩ := required_eq_valid hscore
  obtain ⟨n, -, hn⟩ := Checked.andThen_eq_valid_iff.mp hpart
  obtain ⟨rfl, hrange⟩ := checkScore_eq_ok_iff.mp hn
  exact hrange

end Data

/-! ## What is wrong is named -/

/-- The data has this part for a field, under this one of its names. -/
def Datum.Has (d : Datum) (n : FieldName) (found : String) (part : Datum) : Prop :=
  ∃ ps, d.parts? = some ps ∧ n.find? ps = some (found, part)

/-- The issues of a report are those of its six fields. -/
theorem issues_checkReport {d : Datum} {ps : List (String × Datum)} (h : d.parts? = some ps) :
    (checkReport d).issues =
      (required ps Name.findings (listOf checkFinding)).issues ++
        (required ps Name.score fun d => (coerced asInteger d).andThen checkScore).issues ++
        (required ps Name.interpretation (coerced asText)).issues ++
        (required ps Name.contractType (coerced asText)).issues ++
        (required ps Name.contractDescription (coerced asText)).issues ++
        (required ps Name.logs (listOf (coerced asText))).issues := by
  rw [checkReport, fromParts, h]
  simp only [Checked.issues_seq, Checked.issues_map]

section Issues

variable {d part : Datum} {found : String}

/-- A value that is taken for no score in range has a problem. -/
theorem problem_of_score {v : Json} (h : ∀ n, asInteger v = .ok n → n < 0 ∨ 100 < n) :
    ∃ p, (asInteger v).bind checkScore = .error p := by
  cases hv : asInteger v with
  | error p => exact ⟨p, rfl⟩
  | ok n =>
      rcases h n hv with hleast | hmost
      · exact ⟨.below 0, if_pos hleast⟩
      · exact ⟨.above 100, (if_neg (by omega)).trans (if_pos hmost)⟩

/-- The problem of a score is an issue of the report. -/
theorem issue_of_score {v : Json} {p : Problem} (hscore : d.Has Name.score found (.value v))
    (hp : (asInteger v).bind checkScore = .error p) :
    ⟨[.field found], p⟩ ∈ (checkReport d).issues := by
  obtain ⟨ps, hparts, hfound⟩ := hscore
  have hown : ⟨[.field found], p⟩ ∈
      (required ps Name.score fun d => (coerced asInteger d).andThen checkScore).issues := by
    rw [required, hfound]
    show _ ∈ (((Checked.ofExcept (asInteger v)).andThen checkScore).under (.field found)).issues
    rw [Checked.ofExcept_andThen, hp]
    exact List.mem_singleton_self _
  rw [issues_checkReport hparts]
  simp only [List.mem_append, hown, or_true, true_or]

theorem asSeverity_of_unknown {v : Json} (h : ∀ s : Severity, v ≠ s.toJson) :
    asSeverity v = .error .notSeverity := by
  have hnone : v.text?.bind Severity.ofName? = none := by
    cases v with
    | str t =>
        refine List.find?_eq_none.mpr fun s _ hname => h s ?_
        exact congrArg Json.str (beq_iff_eq.mp hname).symm
    | _ => rfl
  rw [asSeverity, hnone]

/-- A severity that is none is an issue of the finding. -/
theorem issue_of_severity {v : Json} (hseverity : d.Has Name.severity found (.value v))
    (hv : ∀ s : Severity, v ≠ s.toJson) :
    ⟨[.field found], .notSeverity⟩ ∈ (checkFinding d).issues := by
  obtain ⟨ps, hparts, hfound⟩ := hseverity
  have hown : ⟨[.field found], .notSeverity⟩ ∈
      (required ps Name.severity (coerced asSeverity)).issues := by
    rw [required, hfound]
    show _ ∈ ((Checked.ofExcept (asSeverity v)).under (.field found)).issues
    rw [asSeverity_of_unknown hv]
    exact List.mem_singleton_self _
  rw [checkFinding, fromParts, hparts]
  simp only [Checked.issues_seq, Checked.issues_map, List.mem_append, hown, or_true, true_or]

/-- What is wrong with a nested finding is an issue of the report, at the place of the
    finding. -/
theorem issue_of_nested {ds item : Datum} {items : List Datum} {i : Nat} {issue : Issue}
    (hfindings : d.Has Name.findings found ds) (hitems : ds.items? = some items)
    (hitem : items[i]? = some item) (hissue : issue ∈ (checkFinding item).issues) :
    (issue.under (.index i)).under (.field found) ∈ (checkReport d).issues := by
  obtain ⟨ps, hparts, hfound⟩ := hfindings
  have hown : (issue.under (.index i)).under (.field found) ∈
      (required ps Name.findings (listOf checkFinding)).issues := by
    have hlist : issue.under (.index i) ∈ (listOf checkFinding ds).issues := by
      rw [listOf, hitems, ← Nat.zero_add i]
      exact Checked.mem_issues_each hissue hitem
    rw [required, hfound]
    -- what has items can be looked up, so the list is checked
    cases ds with
    | broken reason => simp only [Datum.items?, reduceCtorEq] at hitems
    | _ =>
        rw [Checked.issues_under]
        exact List.mem_map_of_mem hlist
  rw [issues_checkReport hparts]
  simp only [List.mem_append, hown, true_or]

end Issues

/-! ## Everything at once -/

/-- The report is read as itself whichever way it goes: by its attributes, and from
    what is written of it under the names inside or outside. -/
def IsReadBack (r : Report) : Prop :=
  checkReport (.ofReport r) = .valid r ∧ ∀ k, checkReport (.value (dumpReport k r)) = .valid r

theorem isReadBack_of_mem_range {r : Report} (hleast : 0 ≤ r.score) (hmost : r.score ≤ 100) :
    IsReadBack r := by
  have hobject : checkReport (.ofReport r) = .valid r := checkReport_ofReport hleast hmost
  exact ⟨hobject, fun k => (checkReport_dump k r).trans hobject⟩

/-- **THERE AND BACK**: findings and summaries are read back from what is written of
    them, and so is every report that is accepted at all, which are those with a
    score in range.  Every way in gives the same for any report, refused or not.
    Generated reports are read back, and with readable rules one is generated from
    any facts of the declared kinds.  Data whose score is taken for none in range is
    refused at the score, and data with a finding of unknown severity at the place
    of that severity. -/
theorem wire_models_round_trip :
    (∀ k f, checkFinding (.value (dumpFinding k f)) = .valid f) ∧
      (∀ k (c : ContractSummary), ContractSummary.check (.value (c.dump k)) = .valid c) ∧
      (∀ r, ((∃ d, checkReport d = .valid r) ↔ 0 ≤ r.score ∧ r.score ≤ 100) ∧
        ((∃ d, checkReport d = .valid r) → IsReadBack r) ∧
        ∀ k, checkReport (.value (dumpReport k r)) = checkReport (.ofReport r)) ∧
      (∀ (a : Analyzer) info,
        (∀ r, Report.generate a info = .ok r → IsReadBack r) ∧
        ((∀ rule ∈ a.rules, rule.isReadable = true) → (∃ f, info.Carries f) →
          ∃ r, Report.generate a info = .ok r)) ∧
      (∀ d found v, d.Has Name.score found (.value v) →
        (∀ n, asInteger v = .ok n → n < 0 ∨ 100 < n) →
        ¬ (checkReport d).IsValid ∧ ∃ p, (asInteger v).bind checkScore = .error p ∧
          ⟨[.field found], p⟩ ∈ (checkReport d).issues) ∧
      ∀ d found ds items i item found' v, d.Has Name.findings found ds → ds.items? = some items →
        items[i]? = some item → item.Has Name.severity found' (.value v) →
        (∀ s : Severity, v ≠ s.toJson) →
        ¬ (checkReport d).IsValid ∧
          ⟨[.field found, .index i, .field found'], .notSeverity⟩ ∈ (checkReport d).issues := by
  refine ⟨checkFinding_dump, ContractSummary.check_dump, fun r => ⟨?_, ?_, ?_⟩,
    fun a info => ⟨?_, ?_⟩, ?_, ?_⟩
  · constructor
    · rintro ⟨d, h⟩
      exact score_of_checkReport h
    · rintro ⟨hleast, hmost⟩
      exact ⟨_, checkReport_ofReport hleast hmost⟩
  · rintro ⟨d, h⟩
    obtain ⟨hleast, hmost⟩ := score_of_checkReport h
    exact isReadBack_of_mem_range hleast hmost
  · exact fun k => checkReport_dump k r
  · intro r hr
    obtain ⟨hleast, hmost⟩ := Report.score_of_generate hr
    exact isReadBack_of_mem_range hleast hmost
  · rintro hrules ⟨f, hf⟩
    obtain ⟨r, hr, -⟩ := Report.exists_telling hrules hf
    exact ⟨r, hr⟩
  · intro d found v hscore hrange
    obtain ⟨p, hp⟩ := problem_of_score hrange
    have hissue := issue_of_score hscore hp
    exact ⟨Checked.not_isValid_of_mem_issues hissue, p, hp, hissue⟩
  · intro d found ds items i item found' v hfindings hitems hitem hseverity hv
    have hissue := issue_of_nested hfindings hitems hitem (issue_of_severity hseverity hv)
    exact ⟨Checked.not_isValid_of_mem_issues hissue, hissue⟩

/-- A report with a score above the range and a finding of unknown severity; all other
    fields are missing. -/
def doubtfulReport : Json :=
  .obj [("findings", .arr [.obj [("severity", .str "Catastrophic")]]), ("score", .int 101)]

/-- The doubtful report is refused at both places. -/
theorem wire_models_refuse_doubtfulReport :
    ⟨[.field "score"], .above 100⟩ ∈ (checkReport (.value doubtfulReport)).issues ∧
      ⟨[.field "findings", .index 0, .field "severity"], .notSeverity⟩ ∈
        (checkReport (.value doubtfulReport)).issues := by
  obtain ⟨-, -, -, -, hscore, hseverity⟩ := wire_models_round_trip
  constructor
  · obtain ⟨-, p, hp, hissue⟩ := hscore (.value doubtfulReport) "score" (.int 101) ⟨_, rfl, rfl⟩
      fun n hn => Or.inr (by rw [← Except.ok.inj hn]; decide)
    rwa [← Except.error.inj hp] at hissue
  · have hunknown : ∀ s : Severity, Json.str "Catastrophic" ≠ s.toJson := by
      intro s
      cases s <;> simp [Severity.toJson, Severity.name]
    exact (hseverity (.value doubtfulReport) "findings" _ _ 0 _ "severity" _ ⟨_, rfl, rfl⟩ rfl rfl
      ⟨_, rfl, rfl⟩ hunknown).2

end ContractScan.Wire
