import ContractScan.Proofs.Network.Shares

/-! # Facts and reports agree

    A fetch and a scan decide twice whether there is a contract and whether its
    source is published, on different values and by different tests: a fetch
    compares the code with `0x` and asks whether a source was found, a scan
    compares the code once more and takes a source for absent that is empty.

    The facts that a fetch puts together are CONSISTENT: the answers to both
    questions are those that the code and the source give.  A report of
    consistent facts is one of three, and the facts tell which
    (`cases_of_consistent`).

    **NO CONTRADICTION**: `report_agrees_with_facts`. -/

namespace ContractScan

open Analysis

/-! ## Consistent facts -/

/-- Facts whose two answers are those of the code and the source, and that say
    nothing of an address without code. -/
structure ContractInfo.IsConsistent (i : ContractInfo) : Prop where
  isContract : i.isContract = .bool (!i.bytecode.isText noCode)
  isVerified : i.isVerified = .bool i.sourceCode.isTruthy
  sourceCode : i.sourceCode = .null ∨ i.sourceCode.isTruthy = true
  wallet : i.bytecode = .str noCode → i.sourceCode = .null ∧ i.contractName = .str "Unknown" ∧
    i.creator = .str "Unknown" ∧ i.analytics = .obj []

namespace Network

/-- A source that is found is present, and only then counts as published. -/
theorem isSome_eq_isTruthy (gets : List Reply) (n : Nat) (name : String) :
    (found? gets n name).isSome = ((found? gets n name).getD .null).isTruthy := by
  cases hfound : found? gets n name with
  | none => rfl
  | some v => exact (isTruthy_of_found? hfound).symm

/-- **FETCHED FACTS ARE CONSISTENT**, whatever was answered. -/
theorem isConsistent_of_ok {s : Settings} {address : String} {scripts : Scripts}
    {info : ContractInfo} (h : (fetch s address scripts).result = .ok info) :
    info.IsConsistent := by
  have hsource := (isFetched_of_ok h).source
  obtain ⟨⟨k, url, code, wei, first⟩, hok⟩ := exists_firstProvider_of_ok h
  rcases first.facts_of_ok hok with ⟨-, hinfo⟩ | ⟨hasks, summary, -, hinfo⟩
  · rw [hinfo]
    exact ⟨rfl, rfl, Or.inl rfl, fun _ => ⟨rfl, rfl, rfl, rfl⟩⟩
  · -- the explorer is asked only about an address with code
    have hcode : (stateOf code wei).bytecode ≠ .str "0x" := (asksExplorer_iff.mp hasks).1
    rw [hinfo] at hsource ⊢
    exact ⟨rfl, congrArg Json.bool (isSome_eq_isTruthy _ _ _), hsource,
      fun hwallet => absurd hwallet hcode⟩

end Network

/-! ## Three reports -/

/-- A report of an address without code. -/
structure Report.OfWallet (r : Report) : Prop where
  contractType : r.contractType = walletType
  findings : r.findings = []
  score : r.score = 100

/-- A report of a contract without a published source. -/
structure Report.OfUnpublished (r : Report) : Prop where
  contractType : r.contractType = "Unknown"
  findings : r.findings = [unverifiedFinding]
  score : r.score = 95

/-- A report of a published source: it is classified, and what is found is found
    by built-in rules. -/
structure Report.OfPublished (r : Report) : Prop where
  contractType : ∃ kind : Source.Kind, r.contractType = kind.label
  findings : ∀ f ∈ r.findings, ∃ rule ∈ Rule.table, ∃ snippet, f = rule.finding snippet

/-- No kind of a source is labelled as a wallet. -/
theorem Source.Kind.label_ne_walletType (kind : Source.Kind) : kind.label ≠ walletType := by
  cases kind <;> decide

/-- No rule finds that a source is not published. -/
theorem Rule.finding_ne_unverifiedFinding (rule : Rule) (snippet : Option String) :
    rule.finding snippet ≠ unverifiedFinding := by
  intro h
  have htool : Rule.tool = unverifiedFinding.tool := congrArg Finding.tool h
  exact absurd htool (by decide)

/-- Each kind is named by a step of the cascade, or is the default. -/
theorem Source.exists_step_or_general (kind : Source.Kind) :
    (∃ step ∈ Source.cascade, step.kind = kind) ∨ kind = .general := by
  cases kind <;> decide

/-- A text whose sweep has findings is scanned: these are what is found, and the
    kind is that of the text. -/
theorem Analyzer.scanSource_of_sweep {a : Analyzer} {t : String} {fs : List Finding}
    (h : Rule.sweep (Source.flatten t).toList a.contextLines a.rules = .ok fs) (name : Json)
    (logs : List String) :
    ∃ analysis, a.scanSource (.str t) name logs = .ok analysis ∧ analysis.findings = fs ∧
      analysis.contractType = (Source.Kind.ofCode (Source.flatten t).toList).label := by
  rw [scanSource_str, h]
  exact ⟨_, rfl, rfl, rfl⟩

namespace Report

variable {c : Int} {info : ContractInfo} {r : Report}

theorem OfPublished.unverifiedFinding_not_mem (h : r.OfPublished) :
    unverifiedFinding ∉ r.findings := by
  intro hmem
  obtain ⟨rule, -, snippet, hf⟩ := h.findings _ hmem
  exact rule.finding_ne_unverifiedFinding snippet hf.symm

theorem ofWallet_of_generate (h : generate { contextLines := c } info = .ok r)
    (hcode : info.bytecode.isText noCode = true) : r.OfWallet := by
  obtain ⟨⟨n, hn⟩, -⟩ := (generate_ok_iff Rule.isReadable_of_mem_table).mp ⟨r, h⟩
  rw [generate, Analyzer.analyze_of_wallet hn hcode] at h
  cases h
  exact ⟨rfl, rfl, rfl⟩

theorem ofUnpublished_of_generate (h : generate { contextLines := c } info = .ok r)
    (hcode : info.bytecode.isText noCode = false) (hnone : info.sourceCode.isTruthy = false) :
    r.OfUnpublished := by
  obtain ⟨⟨n, hn⟩, -⟩ := (generate_ok_iff Rule.isReadable_of_mem_table).mp ⟨r, h⟩
  have hgate : (info.isVerified.isTruthy && info.sourceCode.isTruthy) = false := by
    rw [hnone, Bool.and_false]
  rw [generate, Analyzer.analyze_of_unpublished hn hcode hgate] at h
  cases h
  exact ⟨rfl, rfl, rfl⟩

theorem ofPublished_of_generate (h : generate { contextLines := c } info = .ok r)
    (hswept : info.IsSwept) : r.OfPublished := by
  obtain ⟨hlength, htext⟩ := (generate_ok_iff Rule.isReadable_of_mem_table).mp ⟨r, h⟩
  obtain ⟨t, ht⟩ := htext hswept
  obtain ⟨logs, hresult⟩ := Analyzer.result_of_swept (a := { contextLines := c }) hlength hswept
  have hsweep := Rule.sweep_eq_of_isReadable Rule.isReadable_of_mem_table
    (Source.flatten t).toList c
  obtain ⟨analysis, hscan, hfindings, htype⟩ :=
    Analyzer.scanSource_of_sweep (a := { contextLines := c }) hsweep info.contractName logs
  have hr : ofAnalysis analysis = r := by
    rw [generate, hresult, ht, hscan] at h
    exact Except.ok.inj h
  rw [← hr]
  refine ⟨⟨_, htype⟩, ?_⟩
  intro f hf
  have hmem : f ∈ analysis.findings := hf
  rw [hfindings] at hmem
  obtain ⟨rule, hrule, hfinding⟩ := List.mem_map.mp hmem
  exact ⟨rule, (List.mem_filter.mp hrule).1, _, hfinding.symm⟩

/-- **ONE OF THREE**: a report of consistent facts is that of a wallet, of a contract
    without a published source or of a published source, and the two answers
    among the facts say so, too. -/
theorem cases_of_consistent (hinfo : info.IsConsistent)
    (h : generate { contextLines := c } info = .ok r) :
    (info.isContract = .bool false ∧ info.bytecode = .str noCode ∧
        info.isVerified = .bool false ∧ info.sourceCode = .null ∧ r.OfWallet) ∨
      (info.isContract = .bool true ∧ info.bytecode ≠ .str noCode ∧
        info.isVerified = .bool false ∧ info.sourceCode = .null ∧ r.OfUnpublished) ∨
      (info.isContract = .bool true ∧ info.bytecode ≠ .str noCode ∧
        info.isVerified = .bool true ∧ info.sourceCode ≠ .null ∧ r.OfPublished) := by
  have hcontract := hinfo.isContract
  have hverified := hinfo.isVerified
  cases hcode : info.bytecode.isText noCode with
  | true =>
      have hwallet : info.bytecode = .str noCode := Json.isText_iff.mp hcode
      obtain ⟨hsource, -⟩ := hinfo.wallet hwallet
      rw [hcode] at hcontract
      rw [hsource] at hverified
      exact Or.inl ⟨hcontract, hwallet, hverified, hsource, ofWallet_of_generate h hcode⟩
  | false =>
      have hnot : info.bytecode ≠ .str noCode := by
        intro hwallet
        exact nomatch hcode.symm.trans (Json.isText_iff.mpr hwallet)
      rw [hcode] at hcontract
      rcases hinfo.sourceCode with hsource | hpresent
      · rw [hsource] at hverified
        have hnone : info.sourceCode.isTruthy = false := by
          rw [hsource]
          rfl
        exact Or.inr (Or.inl ⟨hcontract, hnot, hverified, hsource,
          ofUnpublished_of_generate h hcode hnone⟩)
      · have hsource : info.sourceCode ≠ .null := by
          intro hnull
          rw [hnull] at hpresent
          exact nomatch hpresent
        rw [hpresent] at hverified
        have hswept : info.IsSwept := ⟨hcode, by rw [hverified]; rfl, hpresent⟩
        exact Or.inr (Or.inr ⟨hcontract, hnot, hverified, hsource,
          ofPublished_of_generate h hswept⟩)

end Report

namespace Network

/-- **NO CONTRADICTION**: whatever the providers and the explorer answer, a report of
    what was fetched says wallet exactly of an address without code, blames an
    unpublished source exactly of a contract that is not verified, and stands on
    the built-in rules and the kinds of sources exactly where there is a source. -/
theorem report_agrees_with_facts (s : Settings) (address : String) (scripts : Scripts) (c : Int)
    (info : ContractInfo) (r : Report) (h : (fetch s address scripts).result = .ok info)
    (hr : Report.generate { contextLines := c } info = .ok r) :
    ((info.isContract = .bool false ↔ info.bytecode = .str noCode) ∧
        (info.bytecode = .str noCode ↔ r.contractType = walletType) ∧
        (info.isContract = .bool false → r.findings = [] ∧ r.score = 100 ∧
          info.isVerified = .bool false ∧ info.sourceCode = .null ∧
          info.contractName = .str "Unknown" ∧ info.creator = .str "Unknown" ∧
          info.analytics = .obj [])) ∧
      ((info.isContract = .bool true ∧ info.isVerified = .bool false ↔
          r.findings = [unverifiedFinding]) ∧
        (r.findings = [unverifiedFinding] → r.contractType = "Unknown" ∧ r.score = 95)) ∧
      ((info.isVerified = .bool true ↔ info.sourceCode ≠ .null) ∧
        (info.isVerified = .bool true →
          (∀ f ∈ r.findings, ∃ rule ∈ Rule.table, ∃ snippet, f = rule.finding snippet) ∧
          unverifiedFinding ∉ r.findings ∧
          ((∃ step ∈ Source.cascade, r.contractType = step.kind.label) ∨
            r.contractType = Source.Kind.general.label))) := by
  have hinfo : info.IsConsistent := isConsistent_of_ok h
  rcases Report.cases_of_consistent hinfo hr with
    ⟨hcontract, hcode, hverified, hsource, hreport⟩ |
    ⟨hcontract, hcode, hverified, hsource, hreport⟩ |
    ⟨hcontract, hcode, hverified, hsource, hreport⟩
  · -- an address without code
    obtain ⟨-, hname, hcreator, hanalytics⟩ := hinfo.wallet hcode
    rw [hcontract, hverified, hreport.findings]
    refine ⟨⟨iff_of_true rfl hcode, iff_of_true hcode hreport.contractType, fun _ => ?_⟩,
      ⟨?_, nofun⟩, ?_, nofun⟩
    · exact ⟨rfl, hreport.score, rfl, hsource, hname, hcreator, hanalytics⟩
    · exact iff_of_false (fun hboth => nomatch hboth.1) (List.cons_ne_nil _ _).symm
    · exact iff_of_false nofun (not_not_intro hsource)
  · -- a contract without a published source
    have htype : r.contractType ≠ walletType := by
      rw [hreport.contractType]
      decide
    rw [hcontract, hverified, hreport.findings]
    refine ⟨⟨iff_of_false nofun hcode, iff_of_false hcode htype, nofun⟩,
      ⟨iff_of_true ⟨rfl, rfl⟩ rfl, fun _ => ⟨hreport.contractType, hreport.score⟩⟩, ?_, nofun⟩
    exact iff_of_false nofun (not_not_intro hsource)
  · -- a published source
    obtain ⟨kind, hkind⟩ := hreport.contractType
    have hnone : unverifiedFinding ∉ r.findings := hreport.unverifiedFinding_not_mem
    have htype : r.contractType ≠ walletType := hkind ▸ kind.label_ne_walletType
    have hfindings : r.findings ≠ [unverifiedFinding] := by
      intro hone
      exact hnone (hone ▸ List.mem_singleton_self _)
    rw [hcontract, hverified, hkind]
    refine ⟨⟨iff_of_false nofun hcode, iff_of_false hcode (hkind ▸ htype), nofun⟩,
      ⟨iff_of_false (fun hboth => nomatch hboth.2) hfindings, fun hone => absurd hone hfindings⟩,
      iff_of_true rfl hsource, fun _ => ⟨hreport.findings, hnone, ?_⟩⟩
    rcases Source.exists_step_or_general kind with ⟨step, hstep, rfl⟩ | rfl
    · exact Or.inl ⟨step, hstep, rfl⟩
    · exact Or.inr rfl

/-- A source that the explorer knows is reported as one. -/
theorem report_of_short_source :
    ∃ info r, (fetch keyedNodes sampleAddress ⟨halfThenWhole, shortSource⟩).result = .ok info ∧
      Report.generate { contextLines := 2 } info = .ok r ∧ info.isVerified = .bool true ∧
      unverifiedFinding ∉ r.findings ∧ r.contractType ≠ walletType := by
  have hsum : Chain.summarize (activityRows shortSource) = .ok noActivity := rfl
  let info := contractInfo (Text.trimmed sampleAddress) (stateOf (.str "0x61") 0)
    (factsWith shortSource noActivity)
  have hok : (fetch keyedNodes sampleAddress ⟨halfThenWhole, shortSource⟩).result = .ok info :=
    fetch_keyedNodes hsum
  have hwell : info.WellFormed :=
    (firstProvider_halfThenWhole.wellFormed_iff (exists_firstProvider_of_ok hok).2).mpr
      ⟨fun _ => ⟨"0x61", rfl⟩, fun _ => givesTexts_shortSource⟩
  obtain ⟨r, hr, -⟩ := ((isFetched_of_ok hok).reported_iff 2).mpr
    ⟨hwell.hasLength, hwell.isTextOrAbsent⟩
  obtain ⟨⟨-, hwallet, -⟩, -, -, hreport⟩ := report_agrees_with_facts keyedNodes
    sampleAddress ⟨halfThenWhole, shortSource⟩ 2 info r hok hr
  have hverified : info.isVerified = .bool true := by
    have hfound : (found? shortSource 0 "SourceCode").isSome = true := by decide +kernel
    exact congrArg Json.bool hfound
  have hcode : info.bytecode ≠ .str noCode := by
    intro hwallet
    exact absurd (Json.str.inj hwallet) (by decide)
  exact ⟨info, r, hok, hr, hverified, (hreport hverified).2.1, mt hwallet.mpr hcode⟩

end Network

end ContractScan
