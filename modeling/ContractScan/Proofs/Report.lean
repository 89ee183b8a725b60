import ContractScan.Proofs.Rule.Independence

/-! # How a report ends

    A scan reads five of the facts it is given.  When these have the kinds they
    are declared with (`ContractInfo.Carries`), a sweep that breaks is the only
    thing that can go wrong, and readable rules do not break.  Then there is a
    report, and it tells one of three things: that there is no code, that no
    source is published, or what the sweep of the source found.

    The listener is kept in step on both ways out: it hears the lines of the
    report, and all of them but the last when the sweep breaks.

    **THREE ENDINGS AND ONE FAULT**: `typed_facts_end_in_three_ways`. -/

namespace ContractScan

open Analysis

/-- The values that a scan reads, each of the kind it is declared with. -/
structure TypedFacts where
  address : String
  code : String
  isVerified : Bool
  source : Option String
  name : String

/-- The facts a scan reads are these values; the other facts may be anything. -/
structure ContractInfo.Carries (i : ContractInfo) (f : TypedFacts) : Prop where
  address : i.address = .str f.address
  bytecode : i.bytecode = .str f.code
  isVerified : i.isVerified = .bool f.isVerified
  sourceCode : i.sourceCode = f.source.elim .null .str
  contractName : i.contractName = .str f.name

namespace TypedFacts

/-- The source to scan is `t`: there is code, and `t` is published and not
    empty. -/
structure Publishes (f : TypedFacts) (t : String) : Prop where
  code : f.code ≠ noCode
  isVerified : f.isVerified = true
  source : f.source = some t
  filled : t ≠ ""

/-- The lines with which every scan begins. -/
def begun (f : TypedFacts) : List String := [startLine (.str f.address), sizeLine f.code.length]

/-- The lines of a scan that looks at the source. -/
def sweptLines (f : TypedFacts) : List String := f.begun ++ [verifiedLine, doneLine]

variable {f : TypedFacts}

/-- A source is absent when it is not published, or there is none, or it is
    empty. -/
theorem absent_or_publishes (hcode : f.code ≠ noCode) :
    (f.isVerified = false ∨ f.source = none ∨ f.source = some "") ∨ ∃ t, f.Publishes t := by
  cases hverified : f.isVerified with
  | false => exact Or.inl (Or.inl rfl)
  | true =>
      cases hsource : f.source with
      | none => exact Or.inl (Or.inr (Or.inl rfl))
      | some t =>
          by_cases ht : t = ""
          · exact Or.inl (Or.inr (Or.inr (congrArg some ht)))
          · exact Or.inr ⟨t, hcode, hverified, hsource, ht⟩

theorem not_publishes_of_absent {t : String}
    (h : f.isVerified = false ∨ f.source = none ∨ f.source = some "") : ¬ f.Publishes t := by
  intro hpublishes
  rcases h with hverified | hnone | hempty
  · exact nomatch hverified.symm.trans hpublishes.isVerified
  · exact nomatch hnone.symm.trans hpublishes.source
  · exact hpublishes.filled (Option.some.inj (hempty.symm.trans hpublishes.source)).symm

end TypedFacts

namespace Report

/-- The report that there is no code. -/
structure TellsNoCode (f : TypedFacts) (r : Report) : Prop where
  code : f.code = noCode
  findings : r.findings = []
  contractType : r.contractType = walletType
  contractDescription : r.contractDescription = walletDescription
  logs : r.logs = f.begun ++ [noCodeLine]

/-- The report that no source is published. -/
structure TellsNoSource (f : TypedFacts) (r : Report) : Prop where
  code : f.code ≠ noCode
  source : f.isVerified = false ∨ f.source = none ∨ f.source = some ""
  findings : r.findings = [unverifiedFinding]
  contractType : r.contractType = "Unknown"
  contractDescription : r.contractDescription = "No description available."
  logs : r.logs = f.begun ++ [unverifiedLine, doneLine]

/-- The report of what the sweep of the source `t` found. -/
structure TellsSweep (a : Analyzer) (f : TypedFacts) (t : String) (r : Report) : Prop where
  publishes : f.Publishes t
  findings : Rule.sweep (Source.flatten t).toList a.contextLines a.rules = .ok r.findings
  classification :
    Source.classify (Source.flatten t).toList f.name = ⟨r.contractType, r.contractDescription⟩
  logs : r.logs = f.sweptLines

end Report

/-! ## The three endings -/

section Endings

variable {a : Analyzer} {info : ContractInfo} {f : TypedFacts}

theorem ContractInfo.Carries.length? (h : info.Carries f) :
    info.bytecode.length? = some f.code.length := by
  rw [h.bytecode]
  rfl

/-- Code is absent when it is the text of an absent one. -/
theorem ContractInfo.Carries.isText_noCode (h : info.Carries f) :
    info.bytecode.isText noCode = (f.code == noCode) := by
  rw [h.bytecode]
  rfl

theorem ContractInfo.Carries.isSwept {t : String} (h : info.Carries f) (ht : f.Publishes t) :
    info.IsSwept := by
  refine ⟨?_, ?_, ?_⟩
  · rw [h.isText_noCode]
    exact beq_false_of_ne ht.code
  · rw [h.isVerified, ht.isVerified]
    rfl
  · rw [h.sourceCode, ht.source]
    exact bne_iff_ne.mpr ht.filled

/-- Both questions about a source come out negative when it is absent. -/
theorem ContractInfo.Carries.gate_eq_false (h : info.Carries f)
    (habsent : f.isVerified = false ∨ f.source = none ∨ f.source = some "") :
    (info.isVerified.isTruthy && info.sourceCode.isTruthy) = false := by
  rw [h.isVerified, h.sourceCode]
  rcases habsent with hverified | hnone | hempty
  · rw [hverified]
    rfl
  · rw [hnone]
    exact Bool.and_false _
  · rw [hempty]
    exact Bool.and_false _

/-- Typed facts without code. -/
theorem Analyzer.analyze_of_noCode (a : Analyzer) (h : info.Carries f) (hcode : f.code = noCode) :
    a.analyze info = ⟨f.begun ++ [noCodeLine], .ok (wallet (f.begun ++ [noCodeLine]))⟩ := by
  have htext : info.bytecode.isText noCode = true := by
    rw [h.isText_noCode, hcode]
    exact beq_self_eq_true noCode
  rw [analyze_of_wallet h.length? htext, h.address]
  rfl

/-- Typed facts without a source. -/
theorem Analyzer.analyze_of_absent (a : Analyzer) (h : info.Carries f) (hcode : f.code ≠ noCode)
    (habsent : f.isVerified = false ∨ f.source = none ∨ f.source = some "") :
    a.analyze info =
      ⟨f.begun ++ [unverifiedLine, doneLine],
        .ok (unverified (f.begun ++ [unverifiedLine, doneLine]))⟩ := by
  have htext : info.bytecode.isText noCode = false := by
    rw [h.isText_noCode]
    exact beq_false_of_ne hcode
  rw [analyze_of_unpublished h.length? htext (h.gate_eq_false habsent), h.address]
  rfl

/-- Typed facts with a source: the sweep decides, and a fault of it comes before
    the last line. -/
theorem Analyzer.analyze_of_publishes (a : Analyzer) (h : info.Carries f) {t : String}
    (ht : f.Publishes t) :
    a.analyze info =
      match Rule.sweep (Source.flatten t).toList a.contextLines a.rules with
      | .ok fs =>
        ⟨f.sweptLines, .ok ⟨fs, (Source.classify (Source.flatten t).toList f.name).contractType,
          (Source.classify (Source.flatten t).toList f.name).contractDescription, f.sweptLines⟩⟩
      | .error e => ⟨f.sweptLines.take 3, .error e⟩ := by
  have hsource : info.sourceCode = .str t := by
    rw [h.sourceCode, ht.source]
    rfl
  rw [analyze_of_swept h.length? (h.isSwept ht), hsource, scanSource_str, h.address,
    h.contractName]
  cases Rule.sweep (Source.flatten t).toList a.contextLines a.rules <;> rfl

/-- **THE ONLY FAULT** of a scan of typed facts is a rule that breaks on a
    published source, and then all lines but the last were heard. -/
theorem Analyzer.result_eq_error_iff (h : info.Carries f) {e : Fault} :
    (a.analyze info).result = .error e ↔
      e = .badPattern ∧ ∃ t, f.Publishes t ∧
        ∃ rule ∈ a.rules, rule.Breaks (Source.flatten t).toList := by
  by_cases hcode : f.code = noCode
  · rw [a.analyze_of_noCode h hcode]
    exact iff_of_false nofun fun ⟨_, t, ht, _⟩ => ht.code hcode
  · rcases f.absent_or_publishes hcode with habsent | ⟨t, ht⟩
    · rw [a.analyze_of_absent h hcode habsent]
      exact iff_of_false nofun fun ⟨_, t, ht, _⟩ =>
        TypedFacts.not_publishes_of_absent habsent ht
    · -- there is one source, so the rules break on it or nowhere
      have hunique : (∃ u, f.Publishes u ∧
          ∃ rule ∈ a.rules, rule.Breaks (Source.flatten u).toList) ↔
            ∃ rule ∈ a.rules, rule.Breaks (Source.flatten t).toList := by
        constructor
        · rintro ⟨u, hu, hbreaks⟩
          rwa [Option.some.inj (hu.source.symm.trans ht.source)] at hbreaks
        · exact fun hbreaks => ⟨t, ht, hbreaks⟩
      rw [hunique, ← Rule.sweep_eq_error_iff (c := a.contextLines), a.analyze_of_publishes h ht]
      cases Rule.sweep (Source.flatten t).toList a.contextLines a.rules with
      | ok fs => exact iff_of_false nofun nofun
      | error e' =>
          exact ⟨fun herror => congrArg Except.error (Except.error.inj herror),
            fun herror => congrArg Except.error (Except.error.inj herror)⟩

/-- What the listener hears of a scan that fails: all lines but the last. -/
theorem Analyzer.heard_of_error (h : info.Carries f) {e : Fault}
    (herror : (a.analyze info).result = .error e) :
    (a.analyze info).heard = f.sweptLines.take 3 := by
  obtain ⟨-, t, ht, -⟩ := (a.result_eq_error_iff h).mp herror
  rw [a.analyze_of_publishes h ht] at herror ⊢
  cases hsweep : Rule.sweep (Source.flatten t).toList a.contextLines a.rules with
  | ok fs =>
      rw [hsweep] at herror
      exact nomatch herror
  | error e' => rfl

/-- With readable rules there is a report, it tells one of three things, and the
    listener heard its lines. -/
theorem Report.exists_telling (hrules : ∀ rule ∈ a.rules, rule.isReadable = true)
    (h : info.Carries f) :
    ∃ r, generate a info = .ok r ∧ (a.analyze info).heard = r.logs ∧
      (r.TellsNoCode f ∨ r.TellsNoSource f ∨ ∃ t, r.TellsSweep a f t) := by
  by_cases hcode : f.code = noCode
  · rw [generate, a.analyze_of_noCode h hcode]
    exact ⟨_, rfl, rfl, Or.inl ⟨hcode, rfl, rfl, rfl, rfl⟩⟩
  · rcases f.absent_or_publishes hcode with habsent | ⟨t, ht⟩
    · rw [generate, a.analyze_of_absent h hcode habsent]
      exact ⟨_, rfl, rfl, Or.inr (Or.inl ⟨hcode, habsent, rfl, rfl, rfl, rfl⟩)⟩
    · obtain ⟨fs, hfs⟩ := Rule.sweep_ok hrules (Source.flatten t).toList a.contextLines
      rw [generate, a.analyze_of_publishes h ht, hfs]
      exact ⟨_, rfl, rfl, Or.inr (Or.inr ⟨t, ht, hfs, rfl, rfl⟩)⟩

end Endings

/-! ## The three exclude each other -/

namespace Report

variable {a : Analyzer} {f : TypedFacts} {t : String} {r : Report}

theorem TellsNoCode.not_tellsNoSource (h : r.TellsNoCode f) : ¬ r.TellsNoSource f :=
  fun hother => hother.code h.code

theorem TellsNoCode.not_tellsSweep (h : r.TellsNoCode f) : ¬ r.TellsSweep a f t :=
  fun hother => hother.publishes.code h.code

theorem TellsNoSource.not_tellsSweep (h : r.TellsNoSource f) : ¬ r.TellsSweep a f t :=
  fun hother => TypedFacts.not_publishes_of_absent h.source hother.publishes

end Report

/-! ## Scores of the built-in table -/

/-- What all built-in rules together cost; each of them counts once, however
    often its pattern occurs. -/
theorem Rule.cost_of_sweep_table {content : List Char} {c : Int} {fs : List Finding}
    (h : sweep content c table = .ok fs) : Finding.cost fs ≤ 43 := by
  rw [sweep_eq_of_isReadable isReadable_of_mem_table] at h
  have hfs := Except.ok.inj h
  rw [← hfs]
  exact Finding.cost_le_of_sublist (List.filter_sublist.map _)

/-- A report by the built-in rules has a score of at least 57. -/
theorem Report.score_ge_of_table {a : Analyzer} {info : ContractInfo} {f : TypedFacts} {r : Report}
    (htable : a.rules = Rule.table) (hr : generate a info = .ok r)
    (h : r.TellsNoCode f ∨ r.TellsNoSource f ∨ ∃ t, r.TellsSweep a f t) : 57 ≤ r.score := by
  have hcost : Finding.cost r.findings ≤ 43 := by
    rcases h with hnoCode | hnoSource | ⟨t, hsweep⟩
    · rw [hnoCode.findings]
      decide
    · rw [hnoSource.findings]
      decide
    · have hfindings := hsweep.findings
      rw [htable] at hfindings
      exact Rule.cost_of_sweep_table hfindings
  have hmax : maxScore = 100 := rfl
  rw [score_eq_of_generate hr, Finding.score]
  omega

/-- What a scan reads of a contract whose source calls for two rules. -/
def factsWithTwoFindings : TypedFacts where
  address := "0x"
  code := "0x60"
  isVerified := true
  source := some "tx.origin\nsuicide"
  name := "Unknown"

end ContractScan
