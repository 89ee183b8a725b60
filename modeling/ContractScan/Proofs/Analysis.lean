import ContractScan.Proofs.Rule.Sweep
import ContractScan.Report

/-! # Scans that end well

    A scan uses three of the facts it is given: the code, whose length it tells,
    whether the source is published, and the source.  With rules that can be
    read nothing else can go wrong, so a condition on these three facts decides
    whether there is an analysis, and with it a report (`analyze_ok_iff`,
    `generate_ok_iff`). -/

namespace ContractScan

namespace ContractInfo

/-- The code has a length. -/
def HasLength (i : ContractInfo) : Prop := ∃ n, i.bytecode.length? = some n

/-- A scan of these facts looks at the source. -/
def IsSwept (i : ContractInfo) : Prop :=
  i.bytecode.isText Analysis.noCode = false ∧ i.isVerified.isTruthy = true ∧
    i.sourceCode.isTruthy = true

end ContractInfo

namespace Analyzer

open Analysis

variable {a : Analyzer} {info : ContractInfo}

/-- Only a text is classified and swept. -/
theorem text_of_scanSource {source name : Json} {logs : List String} {r : Analysis}
    (h : a.scanSource source name logs = .ok r) : ∃ t, source = .str t := by
  cases source with
  | str t => exact ⟨t, rfl⟩
  | _ => exact nomatch h

/-- A text is classified, and its findings are those of its sweep. -/
theorem scanSource_str (t : String) (name : Json) (logs : List String) :
    a.scanSource (.str t) name logs =
      (Rule.sweep (Source.flatten t).toList a.contextLines a.rules).map fun fs =>
        ⟨fs, (Source.classify (Source.flatten t).toList name.display).contractType,
          (Source.classify (Source.flatten t).toList name.display).contractDescription, logs⟩ := by
  rw [scanSource]
  simp only [sourceText, bind, Except.bind]
  cases Rule.sweep (Source.flatten t).toList a.contextLines a.rules <;> rfl

/-- With readable rules, a source is classified and swept exactly when it is a
    text. -/
theorem scanSource_ok_iff (hrules : ∀ r ∈ a.rules, r.isReadable = true) (source name : Json)
    (logs : List String) :
    (∃ r, a.scanSource source name logs = .ok r) ↔ ∃ t, source = .str t := by
  constructor
  · rintro ⟨r, hr⟩
    exact text_of_scanSource hr
  · rintro ⟨t, ht⟩
    obtain ⟨fs, hfs⟩ := Rule.sweep_ok hrules (Source.flatten t).toList a.contextLines
    rw [ht, scanSource_str, hfs]
    exact ⟨_, rfl⟩

/-! ## The endings of a scan -/

/-- Code without a length ends a scan at once. -/
theorem result_of_no_length (h : ¬ info.HasLength) :
    (a.analyze info).result = .error .noLength := by
  have hnone : info.bytecode.length? = none := by
    rw [Option.eq_none_iff_forall_ne_some]
    exact fun n hn => h ⟨n, hn⟩
  rw [analyze, ContractInfo.bytecodeSize, hnone]

/-- An address without code is a wallet, whatever else is said about it. -/
theorem analyze_of_wallet {n : Nat} (hn : info.bytecode.length? = some n)
    (hcode : info.bytecode.isText noCode = true) :
    a.analyze info =
      ⟨[startLine info.address, sizeLine n, noCodeLine],
        .ok (wallet [startLine info.address, sizeLine n, noCodeLine])⟩ := by
  simp only [analyze, ContractInfo.bytecodeSize, hn, hcode]
  rfl

/-- Code without a published source is reported as such. -/
theorem analyze_of_unpublished {n : Nat} (hn : info.bytecode.length? = some n)
    (hcode : info.bytecode.isText noCode = false)
    (hgate : (info.isVerified.isTruthy && info.sourceCode.isTruthy) = false) :
    a.analyze info =
      ⟨[startLine info.address, sizeLine n, unverifiedLine, doneLine],
        .ok (unverified [startLine info.address, sizeLine n, unverifiedLine, doneLine])⟩ := by
  simp only [analyze, ContractInfo.bytecodeSize, hn, hcode, hgate]
  rfl

/-- Code whose source is not looked at has none that is published. -/
theorem gate_of_not_swept (hcode : info.bytecode.isText noCode = false) (h : ¬ info.IsSwept) :
    (info.isVerified.isTruthy && info.sourceCode.isTruthy) = false := by
  rw [Bool.eq_false_iff]
  intro hboth
  obtain ⟨hverified, hsource⟩ := Bool.and_eq_true_iff.mp hboth
  exact h ⟨hcode, hverified, hsource⟩

/-- A source that is not looked at cannot end a scan. -/
theorem result_of_not_swept (hlength : info.HasLength) (h : ¬ info.IsSwept) :
    ∃ r, (a.analyze info).result = .ok r := by
  obtain ⟨n, hn⟩ := hlength
  cases hcode : info.bytecode.isText noCode with
  | true => exact ⟨_, by rw [analyze_of_wallet hn hcode]⟩
  | false => exact ⟨_, by rw [analyze_of_unpublished hn hcode (gate_of_not_swept hcode h)]⟩

/-- A source that is looked at decides how the scan ends.  The last line is
    reported only after the sweep. -/
theorem analyze_of_swept {n : Nat} (hn : info.bytecode.length? = some n) (h : info.IsSwept) :
    a.analyze info =
      match a.scanSource info.sourceCode info.contractName
          [startLine info.address, sizeLine n, verifiedLine, doneLine] with
      | .ok r => ⟨[startLine info.address, sizeLine n, verifiedLine, doneLine], .ok r⟩
      | .error e => ⟨[startLine info.address, sizeLine n, verifiedLine], .error e⟩ := by
  obtain ⟨hcode, hverified, hsource⟩ := h
  simp only [analyze, ContractInfo.bytecodeSize, hn, hcode, hverified, hsource]
  rfl

/-- The result of a scan that looks at the source is what the source gives, with
    the same lines for every analyzer. -/
theorem results_of_swept (hlength : info.HasLength) (h : info.IsSwept) :
    ∃ logs, ∀ a : Analyzer,
      (a.analyze info).result = a.scanSource info.sourceCode info.contractName logs := by
  obtain ⟨n, hn⟩ := hlength
  refine ⟨[startLine info.address, sizeLine n, verifiedLine, doneLine], fun a => ?_⟩
  rw [analyze_of_swept hn h]
  split
  · next hscan => exact hscan.symm
  · next hscan => exact hscan.symm

theorem result_of_swept (hlength : info.HasLength) (h : info.IsSwept) :
    ∃ logs, (a.analyze info).result = a.scanSource info.sourceCode info.contractName logs := by
  obtain ⟨logs, hresult⟩ := results_of_swept hlength h
  exact ⟨logs, hresult a⟩

/-- A text that is looked at gives the findings of its sweep. -/
theorem findings_of_swept (hlength : info.HasLength) (h : info.IsSwept) {t : String}
    (ht : info.sourceCode = .str t) :
    (a.analyze info).result.map Analysis.findings =
      Rule.sweep (Source.flatten t).toList a.contextLines a.rules := by
  obtain ⟨logs, hresult⟩ := result_of_swept (a := a) hlength h
  rw [hresult, ht, scanSource_str]
  cases Rule.sweep (Source.flatten t).toList a.contextLines a.rules <;> rfl

/-- The rules have no part in a scan that does not look at the source. -/
theorem analyze_eq_of_not_swept (a b : Analyzer) (h : ¬ info.IsSwept) :
    a.analyze info = b.analyze info := by
  cases hsize : info.bytecode.length? with
  | none => simp only [analyze, ContractInfo.bytecodeSize, hsize]
  | some n =>
      cases hcode : info.bytecode.isText noCode with
      | true => rw [analyze_of_wallet hsize hcode, analyze_of_wallet hsize hcode]
      | false =>
          have hgate := gate_of_not_swept hcode h
          rw [analyze_of_unpublished hsize hcode hgate, analyze_of_unpublished hsize hcode hgate]

/-- **WHEN A SCAN HAS AN ANALYSIS**: the code has a length, and the source is a
    text if it is looked at. -/
theorem analyze_ok_iff (hrules : ∀ r ∈ a.rules, r.isReadable = true) :
    (∃ r, (a.analyze info).result = .ok r) ↔
      info.HasLength ∧ (info.IsSwept → ∃ t, info.sourceCode = .str t) := by
  by_cases hlength : info.HasLength
  · by_cases hswept : info.IsSwept
    · obtain ⟨logs, hresult⟩ := result_of_swept (a := a) hlength hswept
      rw [hresult, scanSource_ok_iff hrules]
      exact ⟨fun h => ⟨hlength, fun _ => h⟩, fun h => h.2 hswept⟩
    · exact ⟨fun _ => ⟨hlength, fun h => absurd h hswept⟩,
        fun _ => result_of_not_swept hlength hswept⟩
  · rw [result_of_no_length hlength]
    constructor
    · rintro ⟨r, hr⟩
      exact nomatch hr
    · exact fun h => absurd h.1 hlength

/-! ## Sources that say the same -/

/-- Two sources that are flattened to one text give one scan, provided that
    neither of them counts as absent. -/
theorem analyze_congr_flatten (a : Analyzer) (info : ContractInfo) {s t : String} (hs : s ≠ "")
    (ht : t ≠ "") (h : Source.flatten s = Source.flatten t) :
    a.analyze { info with sourceCode := .str s } =
      a.analyze { info with sourceCode := .str t } := by
  have htruthy : (Json.str s).isTruthy = (Json.str t).isTruthy := by
    rw [Json.isTruthy, Json.isTruthy, bne_iff_ne.mpr hs, bne_iff_ne.mpr ht]
  have hscan : a.scanSource (.str s) = a.scanSource (.str t) := by
    funext name logs
    simp only [scanSource, sourceText, bind, Except.bind, h]
  simp only [analyze, ContractInfo.bytecodeSize, htruthy, hscan]

end Analyzer

/-! ## Reports -/

/-- A report is generated exactly when there is an analysis. -/
theorem Report.generate_ok_iff {a : Analyzer} {info : ContractInfo}
    (hrules : ∀ r ∈ a.rules, r.isReadable = true) :
    (∃ r, Report.generate a info = .ok r) ↔
      info.HasLength ∧ (info.IsSwept → ∃ t, info.sourceCode = .str t) := by
  rw [← Analyzer.analyze_ok_iff hrules, Report.generate]
  cases (a.analyze info).result <;> simp [Except.map]

/-- The score of a generated report is that of its findings. -/
theorem Report.score_eq_of_generate {a : Analyzer} {info : ContractInfo} {r : Report}
    (h : Report.generate a info = .ok r) : r.score = (Finding.score r.findings : Int) := by
  obtain ⟨analysis, -, rfl⟩ := map_eq_ok_iff.mp h
  rfl

/-- A generated report carries a score from 0 to 100. -/
theorem Report.score_of_generate {a : Analyzer} {info : ContractInfo} {r : Report}
    (h : Report.generate a info = .ok r) : 0 ≤ r.score ∧ r.score ≤ 100 := by
  have hmost : Finding.score r.findings ≤ 100 := Nat.sub_le maxScore _
  rw [Report.score_eq_of_generate h]
  omega

end ContractScan
