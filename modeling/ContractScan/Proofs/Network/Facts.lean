import ContractScan.Proofs.Network.Fetch
import ContractScan.Proofs.Wire.Acceptance

/-! # What fetched facts are fit for

    A fetch hands on four values as others gave them: the code, the source, the
    name and the creator.  It tests them for presence and never for their kind,
    so the facts are well formed exactly when those who gave them gave texts.
    The other five facts are of the right kind whatever is answered
    (`isFetched_of_ok`), and a source that is present is always scanned.

    **NO KIND IS CHECKED ON THE WAY IN**: `fetched_facts_wellFormed_iff`.  Well
    formed facts are scanned, scored and told without a fault. -/

namespace ContractScan

/-- Facts whose untrusted values have the kinds they are declared with. -/
structure ContractInfo.WellFormed (i : ContractInfo) : Prop where
  bytecode : ∃ t, i.bytecode = .str t
  contractName : ∃ t, i.contractName = .str t
  creator : ∃ t, i.creator = .str t
  sourceCode : i.sourceCode = .null ∨ ∃ t, t ≠ "" ∧ i.sourceCode = .str t

/-- What holds of fetched facts whatever is answered. -/
structure ContractInfo.IsFetched (i : ContractInfo) : Prop where
  address : ∃ t, i.address = .str t
  isContract : ∃ b, i.isContract = .bool b
  isVerified : ∃ b, i.isVerified = .bool b
  balance : ∃ t, i.balance = .str t
  analytics : ∃ fs, i.analytics = .obj fs
  source : i.sourceCode = .null ∨ i.sourceCode.isTruthy = true
  swept : i.sourceCode.isTruthy = true → i.IsSwept

namespace Network

open ContractScan.Text

/-- What is present of a field of the first row of the explorer's answer number
    `n`. -/
def found? (gets : List Reply) (n : Nat) (name : String) : Option Json :=
  firstField? (lookupRows? (replyTo gets n)) name

/-- A text, or nothing. -/
def IsTextIfAny (v : Option Json) : Prop := ∀ w, v = some w → ∃ t, w = .str t

theorem isTextIfAny_of_all {v : Option Json} (h : v.all (·.text?.isSome) = true) :
    IsTextIfAny v := by
  rintro w rfl
  obtain ⟨t, ht⟩ := Option.isSome_iff_exists.mp h
  exact ⟨t, Json.text?_eq_some_iff.mp ht⟩

/-- The explorer's answers give texts for what is present of source, name and
    creator. -/
structure GivesTexts (gets : List Reply) : Prop where
  source : IsTextIfAny (found? gets 0 "SourceCode")
  name : IsTextIfAny (found? gets 0 "ContractName")
  creator : IsTextIfAny (found? gets 1 "contractCreator")

/-- A field that is found counts as present. -/
theorem isTruthy_of_found? {gets : List Reply} {n : Nat} {name : String} {v : Json}
    (h : found? gets n name = some v) : v.isTruthy = true := by
  unfold found? firstField? at h
  split at h
  · exact (Option.filter_eq_some_iff.mp h).2
  · exact nomatch h

/-- With a text in place of nothing, a text comes out exactly of a text or
    nothing. -/
theorem getD_eq_str_iff (v : Option Json) (t : String) :
    (∃ u, v.getD (.str t) = .str u) ↔ IsTextIfAny v := by
  cases v <;> simp [IsTextIfAny]

/-- A source is none or a text that is not empty, exactly when what is found is a
    text or nothing. -/
theorem source_wellFormed_iff {gets : List Reply} {n : Nat} {name : String} :
    ((found? gets n name).getD .null = .null ∨
        ∃ t, t ≠ "" ∧ (found? gets n name).getD .null = .str t) ↔
      IsTextIfAny (found? gets n name) := by
  cases hfound : found? gets n name with
  | none => simp [IsTextIfAny]
  | some v =>
      have htruthy : v.isTruthy = true := isTruthy_of_found? hfound
      constructor
      · rintro (hnull | ⟨t, -, ht⟩) w hw
        · rw [show v = .null from hnull] at htruthy
          exact nomatch htruthy
        · exact ⟨t, (Option.some.inj hw).symm.trans ht⟩
      · intro h
        obtain ⟨t, ht⟩ := h v rfl
        refine Or.inr ⟨t, ?_, ht⟩
        rintro rfl
        rw [ht] at htruthy
        exact nomatch htruthy

section Fetched

variable {s : Settings} {address : String} {scripts : Scripts} {info : ContractInfo}

/-- **FIVE FACTS ARE SAFE**: whatever is answered, the facts that are not handed
    on from others have their kinds, and a source that is present is swept. -/
theorem isFetched_of_ok (h : (fetch s address scripts).result = .ok info) : info.IsFetched := by
  obtain ⟨⟨k, url, code, wei, first⟩, hok⟩ := exists_firstProvider_of_ok h
  rcases first.facts_of_ok hok with ⟨-, hinfo⟩ | ⟨hasks, summary, -, hinfo⟩
  · rw [hinfo]
    exact ⟨⟨_, rfl⟩, ⟨_, rfl⟩, ⟨_, rfl⟩, ⟨_, rfl⟩, ⟨_, rfl⟩, Or.inl rfl,
      fun htruthy => nomatch htruthy⟩
  · have hcode : (stateOf code wei).bytecode.isText "0x" = false := by
      rw [asksExplorer, Bool.and_eq_true_iff, Bool.not_eq_true'] at hasks
      exact hasks.1
    rw [hinfo]
    -- only the source depends on what the explorer said
    refine ⟨⟨_, rfl⟩, ⟨_, rfl⟩, ⟨_, rfl⟩, ⟨_, rfl⟩, ⟨_, rfl⟩, ?_, ?_⟩
    · show (found? scripts.gets 0 "SourceCode").getD .null = .null ∨
        ((found? scripts.gets 0 "SourceCode").getD .null).isTruthy = true
      cases hfound : found? scripts.gets 0 "SourceCode" with
      | none => exact Or.inl rfl
      | some v => exact Or.inr (isTruthy_of_found? hfound)
    · intro htruthy
      refine ⟨hcode, ?_, htruthy⟩
      show (found? scripts.gets 0 "SourceCode").isSome = true
      cases hfound : found? scripts.gets 0 "SourceCode" with
      | some v => rfl
      | none =>
          have hnull : ((found? scripts.gets 0 "SourceCode").getD .null).isTruthy = true := htruthy
          rw [hfound] at hnull
          exact nomatch hnull

/-- Fetched facts are well formed exactly when code, source, name and creator
    were given as texts. -/
theorem FirstProvider.wellFormed_iff {k : Nat} {url : String} {code : Json} {wei : Int}
    (first : FirstProvider s.rpcUrls scripts.posts k url code wei)
    (hok : (fetchChecked s address scripts).result = .ok info) :
    info.WellFormed ↔ code.IsTextOrAbsent ∧
      (asksExplorer s (stateOf code wei) = true → GivesTexts scripts.gets) := by
  have hcode : (∃ t, info.bytecode = .str t) ↔ code.IsTextOrAbsent := by
    rw [(first.state_of_ok hok).1, Json.orElse_eq_str_iff]
  rcases first.facts_of_ok hok with ⟨hquiet, hinfo⟩ | ⟨hasks, summary, -, hinfo⟩
  · -- the explorer is not asked, so the code alone is of a foreign kind
    rw [hquiet, ← hcode]
    constructor
    · exact fun h => ⟨h.bytecode, fun hasks => nomatch hasks⟩
    · rintro ⟨hbytecode, -⟩
      rw [hinfo] at hbytecode ⊢
      exact ⟨hbytecode, ⟨_, rfl⟩, ⟨_, rfl⟩, Or.inl rfl⟩
  · have hname : (∃ t, info.contractName = .str t) ↔
        IsTextIfAny (found? scripts.gets 0 "ContractName") := by
      rw [hinfo]
      exact getD_eq_str_iff _ _
    have hcreator : (∃ t, info.creator = .str t) ↔
        IsTextIfAny (found? scripts.gets 1 "contractCreator") := by
      rw [hinfo]
      exact getD_eq_str_iff _ _
    have hsource : (info.sourceCode = .null ∨ ∃ t, t ≠ "" ∧ info.sourceCode = .str t) ↔
        IsTextIfAny (found? scripts.gets 0 "SourceCode") := by
      rw [hinfo]
      exact source_wellFormed_iff
    rw [← hcode]
    constructor
    · exact fun h => ⟨h.bytecode, fun _ => ⟨hsource.mp h.sourceCode, hname.mp h.contractName,
        hcreator.mp h.creator⟩⟩
    · rintro ⟨hbytecode, hgives⟩
      have htexts := hgives hasks
      exact ⟨hbytecode, hname.mpr htexts.name, hcreator.mpr htexts.creator,
        hsource.mpr htexts.source⟩

end Fetched

end Network

/-! ## What the core makes of fetched facts -/

namespace ContractInfo.IsFetched

variable {info : ContractInfo}

/-- Fetched facts are reported exactly when the code has a length and the source
    is a text or absent; what is reported is accepted. -/
theorem reported_iff (h : info.IsFetched) (c : Int) :
    (∃ r, Report.generate { contextLines := c } info = .ok r ∧
        Wire.checkReport (.ofReport r) = .valid r) ↔
      info.HasLength ∧ info.sourceCode.IsTextOrAbsent := by
  -- a source that is present is swept, so the two conditions on it are one
  have hsource : (info.IsSwept → ∃ t, info.sourceCode = .str t) ↔
      info.sourceCode.IsTextOrAbsent := by
    constructor
    · exact fun hswept htruthy => hswept (h.swept htruthy)
    · exact fun htext hswept => htext hswept.2.2
  rw [← hsource, ← Report.generate_ok_iff (a := { contextLines := c }) Rule.isReadable_of_mem_table]
  constructor
  · rintro ⟨r, hr, -⟩
    exact ⟨r, hr⟩
  · rintro ⟨r, hr⟩
    obtain ⟨hleast, hmost⟩ := Report.score_of_generate hr
    exact ⟨r, hr, Wire.checkReport_ofReport hleast hmost⟩

/-- Fetched facts are accepted exactly when the code has a length, and name and
    creator are texts. -/
theorem accepted_iff (h : info.IsFetched) :
    (Wire.ContractSummary.check (.ofContractInfo info)).IsValid ↔
      info.HasLength ∧ (∃ t, info.contractName = .str t) ∧ ∃ t, info.creator = .str t := by
  have hcontract : ∃ b, Wire.asBool info.isContract = .ok b := by
    obtain ⟨b, hb⟩ := h.isContract
    exact ⟨b, by rw [hb]; rfl⟩
  have hverified : ∃ b, Wire.asBool info.isVerified = .ok b := by
    obtain ⟨b, hb⟩ := h.isVerified
    exact ⟨b, by rw [hb]; rfl⟩
  rw [Wire.ContractSummary.check_isValid_iff]
  constructor
  · rintro ⟨-, -, -, hlength, -, hname, hcreator, -⟩
    exact ⟨hlength, hname, hcreator⟩
  · rintro ⟨hlength, hname, hcreator⟩
    exact ⟨h.address, hcontract, h.balance, hlength, hverified, hname, hcreator, h.analytics⟩

end ContractInfo.IsFetched

/-- The code of well formed facts has a length. -/
theorem ContractInfo.WellFormed.hasLength {info : ContractInfo} (h : info.WellFormed) :
    info.HasLength := by
  obtain ⟨t, ht⟩ := h.bytecode
  exact ⟨t.length, by rw [ht]; rfl⟩

/-- The source of well formed facts is a text or absent. -/
theorem ContractInfo.WellFormed.isTextOrAbsent {info : ContractInfo} (h : info.WellFormed) :
    info.sourceCode.IsTextOrAbsent := by
  intro htruthy
  rcases h.sourceCode with hnull | ⟨t, -, ht⟩
  · rw [hnull] at htruthy
    exact nomatch htruthy
  · exact ⟨t, ht⟩

namespace Network

/-- **NO KIND IS CHECKED ON THE WAY IN**: fetched facts are well formed exactly
    when the provider's code is a text or absent and the explorer, if it is
    asked, gives texts.  What is then needed of them is listed: a report needs
    the length of the code and a source that can be read, a summary the length,
    the name and the creator.  Well formed facts have all of it. -/
theorem fetched_facts_wellFormed_iff (s : Settings) (address : String) (scripts : Scripts)
    (info : ContractInfo) (h : (fetch s address scripts).result = .ok info) :
    (∃ k url code wei, FirstProvider s.rpcUrls scripts.posts k url code wei ∧
        (info.WellFormed ↔ code.IsTextOrAbsent ∧
          (asksExplorer s (stateOf code wei) = true → GivesTexts scripts.gets))) ∧
      (∀ c, (∃ r, Report.generate { contextLines := c } info = .ok r ∧
          Wire.checkReport (.ofReport r) = .valid r) ↔
        info.HasLength ∧ info.sourceCode.IsTextOrAbsent) ∧
      ((∃ m, Wire.ContractSummary.check (.ofContractInfo info) = .valid m) ↔
        info.HasLength ∧ (∃ t, info.contractName = .str t) ∧ ∃ t, info.creator = .str t) ∧
      (info.WellFormed →
        (∀ c, ∃ r, Report.generate { contextLines := c } info = .ok r ∧
          Wire.checkReport (.ofReport r) = .valid r) ∧
        ∃ m, Wire.ContractSummary.check (.ofContractInfo info) = .valid m) := by
  obtain ⟨⟨k, url, code, wei, first⟩, hok⟩ := exists_firstProvider_of_ok h
  have hfetched : info.IsFetched := isFetched_of_ok h
  refine ⟨⟨k, url, code, wei, first, first.wellFormed_iff hok⟩, hfetched.reported_iff,
    hfetched.accepted_iff, fun hwell => ⟨fun c => ?_, ?_⟩⟩
  · exact (hfetched.reported_iff c).mpr ⟨hwell.hasLength, hwell.isTextOrAbsent⟩
  · exact hfetched.accepted_iff.mpr ⟨hwell.hasLength, hwell.contractName, hwell.creator⟩

/-- An explorer that knows a source and nothing else. -/
def shortSource : List Reply :=
  [answered "\x7b\"status\": \"1\", \"result\": [\x7b\"SourceCode\": \"a\"\x7d]\x7d"]

theorem givesTexts_shortSource : GivesTexts shortSource :=
  ⟨isTextIfAny_of_all (by decide +kernel), isTextIfAny_of_all (by decide +kernel),
    isTextIfAny_of_all (by decide +kernel)⟩

/-- A provider and an explorer that give texts are scanned and told. -/
theorem fetched_facts_of_short_source :
    ∃ info, (fetch keyedNodes sampleAddress ⟨halfThenWhole, shortSource⟩).result = .ok info ∧
      info.WellFormed ∧
      (∀ c, ∃ r, Report.generate { contextLines := c } info = .ok r ∧
        Wire.checkReport (.ofReport r) = .valid r) ∧
      ∃ m, Wire.ContractSummary.check (.ofContractInfo info) = .valid m := by
  have hasks : asksExplorer keyedNodes (stateOf (.str "0x61") 0) = true := by decide
  have hsum : Chain.summarize (activityRows shortSource) = .ok ⟨0, 0, 0, none⟩ := rfl
  let info := contractInfo (Text.trimmed sampleAddress) (stateOf (.str "0x61") 0)
    (factsWith shortSource ⟨0, 0, 0, none⟩)
  have hok : (fetchChecked keyedNodes (Text.trimmed sampleAddress)
      ⟨halfThenWhole, shortSource⟩).result = .ok info := by
    rw [fetchChecked_of_asks (firstProvider_halfThenWhole.run_eq _) rfl hasks, hsum]
  have hwell := (firstProvider_halfThenWhole.wellFormed_iff hok).mpr
    ⟨fun _ => ⟨"0x61", rfl⟩, fun _ => givesTexts_shortSource⟩
  rw [← fetch_eq_fetchChecked isAddress_sampleAddress] at hok
  exact ⟨info, hok, hwell, (fetched_facts_wellFormed_iff keyedNodes sampleAddress
    ⟨halfThenWhole, shortSource⟩ info hok).2.2.2 hwell⟩

/-- A provider that gives a truth value as the code. -/
def truthAsCode : List Reply :=
  [answered "\x7b\"result\": true\x7d", answered "\x7b\"result\": \"0x0\"\x7d"]

/-- The provider gives its state, with a code that has no length. -/
theorem exists_firstProvider_truthAsCode :
    ∃ code, FirstProvider twoNodes.rpcUrls truthAsCode 0 "https://first.test" code 0 ∧
      code.isTruthy = true ∧ code.length? = none := by
  have hseen : (callResult codeCall (replyTo truthAsCode 0)).toOption.map
      (fun v => (v.isTruthy, v.length?)) = some (true, none) := by decide +kernel
  cases hcode : callResult codeCall (replyTo truthAsCode 0) with
  | error e =>
      rw [hcode] at hseen
      exact nomatch hseen
  | ok code =>
      rw [hcode] at hseen
      have hkind : (code.isTruthy, code.length?) = (true, none) := Option.some.inj hseen
      refine ⟨code, ⟨rfl, ⟨hcode, "0x0", ?_, by decide +kernel⟩, ?_⟩, congrArg Prod.fst hkind,
        congrArg Prod.snd hkind⟩
      · exact callResult_eq_str (by decide +kernel)
      · exact fun j hj => absurd hj (Nat.not_lt_zero j)

/-- The facts are fetched, but they are not well formed, and they can neither be
    reported nor told. -/
theorem fetched_facts_of_truth_as_code :
    ∃ info, (fetch twoNodes sampleAddress ⟨truthAsCode, []⟩).result = .ok info ∧
      ¬ info.WellFormed ∧ Report.generate {} info = .error .noLength ∧
      ∀ m, Wire.ContractSummary.check (.ofContractInfo info) ≠ .valid m := by
  obtain ⟨code, first, htruthy, hnone⟩ := exists_firstProvider_truthAsCode
  have hquiet : asksExplorer twoNodes (stateOf code 0) = false := Bool.and_false _
  let info := contractInfo (Text.trimmed sampleAddress) (stateOf code 0) {}
  have hok : (fetchChecked twoNodes (Text.trimmed sampleAddress) ⟨truthAsCode, []⟩).result =
      .ok info := by
    rw [fetchChecked_of_quiet (first.run_eq _) rfl hquiet]
  have hlength : ¬ info.HasLength := by
    rintro ⟨n, hn⟩
    rw [(first.state_of_ok hok).1, Json.orElse, if_pos htruthy, hnone] at hn
    cases hn
  rw [← fetch_eq_fetchChecked isAddress_sampleAddress] at hok
  refine ⟨info, hok, fun hwell => hlength hwell.hasLength, ?_, ?_⟩
  · rw [Report.generate, Analyzer.result_of_no_length hlength]
    rfl
  · intro m hm
    exact hlength ((isFetched_of_ok hok).accepted_iff.mp ⟨m, hm⟩).1

end Network

end ContractScan
