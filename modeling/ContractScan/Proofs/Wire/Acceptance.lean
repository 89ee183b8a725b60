import ContractScan.Proofs.Analysis
import ContractScan.Wire.Model

/-! # Data that a model accepts

    A model is a chain of checked fields.  A chain is valid exactly when each of
    its links is, and has the issues of all of them (`Checked.isValid_seq_iff`,
    `Checked.issues_seq`).  What the core hands over is read by attribute: a finding
    is always accepted, a report with a score in range is accepted as it is
    (`checkReport_ofReport`), and facts are accepted when each of the eight
    fields that are told has the kind it is declared with
    (`ContractSummary.check_isValid_iff`). -/

namespace ContractScan.Wire

namespace Checked

variable {α β : Type}

/-- A value is valid. -/
def IsValid (c : Checked α) : Prop := ∃ a, c = .valid a

theorem map_eq_valid_iff {f : α → β} {x : Checked α} {b : β} :
    f <$> x = .valid b ↔ ∃ a, x = .valid a ∧ f a = b := by
  cases x with
  | valid a =>
      show Checked.valid (f a) = _ ↔ _
      simp
  | invalid is => exact ⟨nofun, fun ⟨_, h, _⟩ => nomatch h⟩

theorem seq_eq_valid_iff {f : Checked (α → β)} {x : Checked α} {b : β} :
    f <*> x = .valid b ↔ ∃ g a, f = .valid g ∧ x = .valid a ∧ g a = b := by
  cases f with
  | valid g =>
      cases x with
      | valid a =>
          show Checked.valid (g a) = _ ↔ _
          simp
      | invalid is => exact ⟨nofun, fun ⟨_, _, _, h, _⟩ => nomatch h⟩
  | invalid is => cases x <;> exact ⟨nofun, fun ⟨_, _, h, _⟩ => nomatch h⟩

theorem isValid_map_iff (f : α → β) (x : Checked α) : (f <$> x).IsValid ↔ x.IsValid := by
  simp only [IsValid, map_eq_valid_iff]
  constructor
  · rintro ⟨b, a, ha, -⟩
    exact ⟨a, ha⟩
  · rintro ⟨a, ha⟩
    exact ⟨f a, a, ha, rfl⟩

/-- A link is added to a chain without harm exactly when it is valid itself. -/
theorem isValid_seq_iff (f : Checked (α → β)) (x : Checked α) :
    (f <*> x).IsValid ↔ f.IsValid ∧ x.IsValid := by
  simp only [IsValid, seq_eq_valid_iff]
  constructor
  · rintro ⟨b, g, a, hf, hx, -⟩
    exact ⟨⟨g, hf⟩, a, hx⟩
  · rintro ⟨⟨g, hf⟩, a, hx⟩
    exact ⟨g a, g, a, hf, hx, rfl⟩

theorem isValid_under_iff (step : PathStep) (x : Checked α) :
    (x.under step).IsValid ↔ x.IsValid := by
  cases x <;> simp [under, IsValid]

theorem isValid_ofExcept_iff (x : Except Problem α) :
    (ofExcept x).IsValid ↔ ∃ a, x = .ok a := by
  cases x <;> simp [ofExcept, IsValid]

theorem under_eq_valid_iff {step : PathStep} {x : Checked α} {a : α} :
    x.under step = .valid a ↔ x = .valid a := by
  cases x <;> simp [under]

theorem andThen_eq_valid_iff {c : Checked α} {f : α → Except Problem β} {b : β} :
    c.andThen f = .valid b ↔ ∃ a, c = .valid a ∧ f a = .ok b := by
  cases c with
  | valid a =>
      simp only [andThen, valid.injEq, exists_eq_left']
      cases f a <;> simp [ofExcept]
  | invalid is => exact ⟨nofun, fun ⟨_, h, _⟩ => nomatch h⟩

/-- A further check of a result that may fail is one check of the two. -/
theorem ofExcept_andThen (x : Except Problem α) (f : α → Except Problem β) :
    (ofExcept x).andThen f = ofExcept (x.bind f) := by
  cases x <;> rfl

/-! ### Issues along a chain -/

theorem issues_map (f : α → β) (x : Checked α) : (f <$> x).issues = x.issues := by
  cases x <;> rfl

/-- A chain keeps the issues of its links. -/
theorem issues_seq (f : Checked (α → β)) (x : Checked α) :
    (f <*> x).issues = f.issues ++ x.issues := by
  cases f <;> cases x <;> simp only [issues, List.append_nil, List.nil_append] <;> rfl

theorem issues_under (step : PathStep) (x : Checked α) :
    (x.under step).issues = x.issues.map (Issue.under step) := by
  cases x <;> rfl

theorem not_isValid_of_mem_issues {c : Checked α} {i : Issue} (h : i ∈ c.issues) : ¬ c.IsValid := by
  rintro ⟨a, rfl⟩
  exact nomatch h

/-- Items keep their issues, each under its index. -/
theorem mem_issues_each {check : β → Checked α} {y : β} {i : Issue} (h : i ∈ (check y).issues) :
    ∀ {ys : List β} {k n : Nat}, ys[k]? = some y →
      i.under (.index (n + k)) ∈ (each check n ys).issues := by
  intro ys
  induction ys with
  | nil =>
      intro k n hk
      exact nomatch hk
  | cons z ys ih =>
      intro k n hk
      show _ ∈ ((List.cons <$> (check z).under (.index n)) <*> each check (n + 1) ys).issues
      rw [issues_seq, issues_map, issues_under, List.mem_append]
      cases k with
      | zero =>
          rw [← Option.some.inj hk] at h
          exact Or.inl (List.mem_map_of_mem h)
      | succ k =>
          rw [show n + (k + 1) = n + 1 + k by omega]
          exact Or.inr (ih hk)

/-- Items that are each read as themselves are together read as themselves. -/
theorem each_map {check : β → Checked α} {data : α → β} :
    ∀ (xs : List α) (n : Nat), (∀ x ∈ xs, check (data x) = .valid x) →
      each check n (xs.map data) = .valid xs := by
  intro xs
  induction xs with
  | nil => intro n _; rfl
  | cons x xs ih =>
      intro n h
      rw [List.map_cons, each, h x (List.mem_cons_self ..),
        ih (n + 1) fun y hy => h y (List.mem_cons_of_mem x hy)]
      rfl

end Checked

/-! ## Findings and reports -/

/-- A finding is accepted as it is. -/
theorem checkFinding_ofFinding (f : Finding) : checkFinding (.ofFinding f) = .valid f := by
  obtain ⟨tool, severity, description, location, layman, technical, snippet⟩ := f
  cases severity <;> cases snippet <;> rfl

/-- Texts are accepted as they are. -/
theorem listOf_texts (ts : List String) :
    listOf (coerced asText) (Datum.texts ts) = .valid ts := by
  show Checked.each (coerced asText) 0 ((ts.map Json.str).map Datum.value) = .valid ts
  rw [List.map_map]
  exact Checked.each_map ts 0 fun t _ => rfl

/-- A score in range is accepted as it is. -/
theorem checkScore_of_mem_range {n : Int} (hleast : 0 ≤ n) (hmost : n ≤ 100) :
    checkScore n = .ok n := by
  rw [checkScore, if_neg (by omega), if_neg (by omega)]

/-- The fields of a report are told by these parts, and read as they are; of its score
    it is still asked whether it is in range. -/
structure TellsReport (ps : List (String × Datum)) (r : Report) : Prop where
  findings : required ps Name.findings (listOf checkFinding) = .valid r.findings
  score : required ps Name.score (fun d => (coerced asInteger d).andThen checkScore) =
    (Checked.ofExcept (checkScore r.score)).under (.field "score")
  interpretation : required ps Name.interpretation (coerced asText) = .valid r.interpretation
  contractType : required ps Name.contractType (coerced asText) = .valid r.contractType
  contractDescription :
    required ps Name.contractDescription (coerced asText) = .valid r.contractDescription
  logs : required ps Name.logs (listOf (coerced asText)) = .valid r.logs

/-- What comes of a report that is told: the report, or what is wrong with its
    score. -/
def scored (r : Report) : Checked Report :=
  (fun n => { r with score := n }) <$>
    (Checked.ofExcept (checkScore r.score)).under (.field "score")

theorem scored_of_mem_range {r : Report} (hleast : 0 ≤ r.score) (hmost : r.score ≤ 100) :
    scored r = .valid r := by
  rw [scored, checkScore_of_mem_range hleast hmost]
  rfl

/-- A report that is told is checked by its score alone. -/
theorem TellsReport.checkReport_eq {ps : List (String × Datum)} {d : Datum} {r : Report}
    (h : TellsReport ps r) (hparts : d.parts? = some ps) : checkReport d = scored r := by
  rw [checkReport, fromParts, hparts]
  show Report.mk
      <$> required ps Name.findings (listOf checkFinding)
      <*> required ps Name.score (fun d => (coerced asInteger d).andThen checkScore)
      <*> required ps Name.interpretation (coerced asText)
      <*> required ps Name.contractType (coerced asText)
      <*> required ps Name.contractDescription (coerced asText)
      <*> required ps Name.logs (listOf (coerced asText)) = _
  rw [h.findings, h.score, h.interpretation, h.contractType, h.contractDescription, h.logs, scored]
  cases checkScore r.score <;> rfl

/-- The attributes of a report tell it. -/
theorem checkReport_ofReport_eq (r : Report) : checkReport (.ofReport r) = scored r := by
  have hfindings : listOf checkFinding (.list (r.findings.map .ofFinding)) = .valid r.findings :=
    Checked.each_map r.findings 0 fun f _ => checkFinding_ofFinding f
  refine TellsReport.checkReport_eq ?_ rfl
  exact ⟨congrArg (Checked.under (.field "findings")) hfindings, rfl, rfl, rfl, rfl,
    congrArg (Checked.under (.field "logs")) (listOf_texts r.logs)⟩

/-- **A REPORT IS ACCEPTED AS IT IS**, provided its score is in range. -/
theorem checkReport_ofReport {r : Report} (hleast : 0 ≤ r.score) (hmost : r.score ≤ 100) :
    checkReport (.ofReport r) = .valid r := by
  rw [checkReport_ofReport_eq, scored_of_mem_range hleast hmost]

/-! ## Facts -/

/-- A field that is there is valid exactly when its value is taken for what it is
    declared as. -/
theorem isValid_required_iff {α : Type} {ps : List (String × Datum)} {n : FieldName}
    {found : String} {v : Json} (hfound : n.find? ps = some (found, .value v))
    (f : Json → Except Problem α) :
    (required ps n (coerced f)).IsValid ↔ ∃ a, f v = .ok a := by
  rw [required, hfound]
  show ((Checked.ofExcept (f v)).under (.field found)).IsValid ↔ _
  rw [Checked.isValid_under_iff, Checked.isValid_ofExcept_iff]

theorem asText_ok_iff (v : Json) : (∃ a, asText v = .ok a) ↔ ∃ t, v = .str t := by
  cases v <;> simp [asText]

theorem asObject_ok_iff (v : Json) : (∃ a, asObject v = .ok a) ↔ ∃ fs, v = .obj fs := by
  cases v <;> simp [asObject]

/-- The parts of facts, as a model looks them up. -/
def factParts (i : ContractInfo) : List (String × Datum) :=
  (Datum.ofContractInfo i).parts?.getD []

/-- The length of the code is told exactly when it has one. -/
theorem isValid_bytecodeSize_iff (i : ContractInfo) :
    (required (factParts i) Name.bytecodeSize (coerced asInteger)).IsValid ↔ i.HasLength := by
  unfold ContractInfo.HasLength
  cases hlength : i.bytecode.length? with
  | some n =>
      have hfound : Name.bytecodeSize.find? (factParts i) =
          some ("bytecode_size", .value (.int n)) := by
        simp only [factParts, Datum.ofContractInfo, hlength]
        rfl
      rw [isValid_required_iff hfound]
      exact ⟨fun _ => ⟨n, rfl⟩, fun _ => ⟨(n : Int), rfl⟩⟩
  | none =>
      have hfound : Name.bytecodeSize.find? (factParts i) =
          some ("bytecode_size", .broken (Datum.noLengthReason i.bytecode)) := by
        simp only [factParts, Datum.ofContractInfo, hlength]
        rfl
      rw [required, hfound]
      simp [Checked.IsValid]

/-- **WHEN FACTS ARE ACCEPTED**: each of the facts that are told has its kind, and
    the code has a length. -/
theorem ContractSummary.check_isValid_iff (i : ContractInfo) :
    (ContractSummary.check (.ofContractInfo i)).IsValid ↔
      (∃ t, i.address = .str t) ∧ (∃ b, asBool i.isContract = .ok b) ∧
        (∃ t, i.balance = .str t) ∧ i.HasLength ∧ (∃ b, asBool i.isVerified = .ok b) ∧
        (∃ t, i.contractName = .str t) ∧ (∃ t, i.creator = .str t) ∧
        ∃ fs, i.analytics = .obj fs := by
  -- facts have no outer names, so each is found under its inner one
  have haddress : Name.address.find? (factParts i) = some ("address", .value i.address) := rfl
  have hcontract : Name.isContract.find? (factParts i) =
      some ("is_contract", .value i.isContract) := rfl
  have hbalance : Name.balance.find? (factParts i) = some ("balance", .value i.balance) := rfl
  have hverified : Name.isVerified.find? (factParts i) =
      some ("is_verified", .value i.isVerified) := rfl
  have hname : Name.contractName.find? (factParts i) =
      some ("contract_name", .value i.contractName) := rfl
  have hcreator : Name.creator.find? (factParts i) = some ("creator", .value i.creator) := rfl
  have hanalytics : Name.analytics.find? (factParts i) =
      some ("analytics", .value i.analytics) := rfl
  show (ContractSummary.mk
      <$> required (factParts i) Name.address (coerced asText)
      <*> required (factParts i) Name.isContract (coerced asBool)
      <*> required (factParts i) Name.balance (coerced asText)
      <*> required (factParts i) Name.bytecodeSize (coerced asInteger)
      <*> required (factParts i) Name.isVerified (coerced asBool)
      <*> required (factParts i) Name.contractName (coerced asText)
      <*> required (factParts i) Name.creator (coerced asText)
      <*> required (factParts i) Name.analytics (coerced asObject)).IsValid ↔ _
  simp only [Checked.isValid_seq_iff, Checked.isValid_map_iff, and_assoc]
  rw [isValid_required_iff haddress, isValid_required_iff hcontract,
    isValid_required_iff hbalance, isValid_bytecodeSize_iff, isValid_required_iff hverified,
    isValid_required_iff hname, isValid_required_iff hcreator, isValid_required_iff hanalytics]
  simp only [asText_ok_iff, asObject_ok_iff]

end ContractScan.Wire
