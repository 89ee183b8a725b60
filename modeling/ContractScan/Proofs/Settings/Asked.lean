import ContractScan.Proofs.Settings.Rules

/-! # The settings that values ask for

    A setting is what its value is taken for, and its default without one.  A default
    passes its own rule, so it does not matter that defaults are not checked
    (`setting_of_takenFor`).  The four settings with a rule are checked apart from the
    others: what they give is `Ruled.checked`, and their issues are the same whatever
    else is wrong (`filter_isRuledIssue_checkKnown`). -/

namespace ContractScan.Settings

open ContractScan.Text ContractScan.Wire

/-! ## One setting -/

/-- A value is taken for `a`; without a value, `a` is the default. -/
inductive TakenFor {α : Type} (take : Json → Checked α) (default : α) : Option Json → α → Prop where
  | value {v : Json} {a : α} : take v = .valid a → TakenFor take default (some v) a
  | default : TakenFor take default none default

section Setting

variable {α : Type} {fs fs' : Fields} {name : String} {default a b : α} {take : Json → Checked α}
  {rule : α → Except Problem α} {check : Json → Checked α}

/-- A setting with a rule is what its value is taken for, checked by the rule; a default
    that passes the rule may be checked as well. -/
theorem setting_of_takenFor (hdefault : rule default = .ok default)
    (h : TakenFor take default (Fields.find? fs name) a) :
    setting fs name default (fun v => (take v).andThen rule) =
      (Checked.ofExcept (rule a)).under (.field name) := by
  rw [setting]
  generalize Fields.find? fs name = value at h
  cases h with
  | value htake =>
      show ((take _).andThen rule).under (.field name) = _
      rw [htake]
      rfl
  | default =>
      rw [hdefault]
      rfl

theorem exists_takenFor_of_valid (hdefault : rule default = .ok default)
    (h : setting fs name default (fun v => (take v).andThen rule) = .valid b) :
    ∃ a, TakenFor take default (Fields.find? fs name) a ∧ rule a = .ok b := by
  rw [setting] at h
  cases hvalue : Fields.find? fs name with
  | none =>
      rw [hvalue] at h
      obtain rfl := Checked.valid.inj h
      exact ⟨_, .default, hdefault⟩
  | some v =>
      rw [hvalue] at h
      obtain ⟨a, htake, hrule⟩ := Checked.andThen_eq_valid_iff.mp (Checked.under_eq_valid_iff.mp h)
      exact ⟨a, .value htake, hrule⟩

theorem setting_congr (h : Fields.find? fs name = Fields.find? fs' name) :
    setting fs name default check = setting fs' name default check := by
  rw [setting, h, ← setting]

end Setting

/-! ## All settings -/

/-- Each setting of a configuration is what its value was taken for. -/
structure Settles (fs : Fields) (t : Settings) : Prop where
  appEnv : setting fs "app_env" ({} : Settings).appEnv (.ofExcept ∘ asText) = .valid t.appEnv
  appDebug : setting fs "app_debug" ({} : Settings).appDebug (.ofExcept ∘ asBool) = .valid t.appDebug
  logLevel : setting fs "log_level" ({} : Settings).logLevel
    (fun v => (Checked.ofExcept (asText v)).andThen checkLevel) = .valid t.logLevel
  rpcUrls : setting fs "rpc_urls" ({} : Settings).rpcUrls
    (fun v => (asTexts v).andThen checkUrls) = .valid t.rpcUrls
  explorerUrl : setting fs "etherscan_api_url" ({} : Settings).explorerUrl
    (.ofExcept ∘ asText) = .valid t.explorerUrl
  chainId : setting fs "chain_id" ({} : Settings).chainId (.ofExcept ∘ asInteger) = .valid t.chainId
  explorerKey : setting fs "etherscan_api_key" ({} : Settings).explorerKey
    (.ofExcept ∘ asOptionalText) = .valid t.explorerKey
  timeoutSeconds : setting fs "http_timeout_seconds" ({} : Settings).timeoutSeconds
    (.ofExcept ∘ asNumber) = .valid t.timeoutSeconds
  recentTxLimit : setting fs "recent_tx_limit" ({} : Settings).recentTxLimit
    (fun v => (Checked.ofExcept (asInteger v)).andThen (checkCount "recent_tx_limit")) =
      .valid t.recentTxLimit
  snippetContextLines : setting fs "snippet_context_lines" ({} : Settings).snippetContextLines
    (fun v => (Checked.ofExcept (asInteger v)).andThen (checkCount "snippet_context_lines")) =
      .valid t.snippetContextLines
  corsOrigins : setting fs "cors_origins" ({} : Settings).corsOrigins asTexts = .valid t.corsOrigins

theorem checkKnown_eq_valid_iff {fs : Fields} {t : Settings} :
    checkKnown fs = .valid t ↔ Settles fs t := by
  constructor
  · intro h
    simp only [checkKnown, Checked.seq_eq_valid_iff, Checked.map_eq_valid_iff] at h
    -- the eleven links, from the last one back to the first
    obtain ⟨_, _, ⟨_, _, ⟨_, _, ⟨_, _, ⟨_, _, ⟨_, _, ⟨_, _, ⟨_, _, ⟨_, _, ⟨_, _, ⟨_, h1, rfl⟩, h2, rfl⟩,
      h3, rfl⟩, h4, rfl⟩, h5, rfl⟩, h6, rfl⟩, h7, rfl⟩, h8, rfl⟩, h9, rfl⟩, h10, rfl⟩, h11, rfl⟩ := h
    exact ⟨h1, h2, h3, h4, h5, h6, h7, h8, h9, h10, h11⟩
  · rintro ⟨h1, h2, h3, h4, h5, h6, h7, h8, h9, h10, h11⟩
    simp only [checkKnown, h1, h2, h3, h4, h5, h6, h7, h8, h9, h10, h11]
    rfl

/-! ## The issues of the four -/

/-- Whether an issue is about a setting with a rule. -/
def isRuledIssue (i : Issue) : Bool :=
  match i.path with
  | .field name :: _ => ruledNames.contains name
  | _ => false

section Issues

variable {α : Type} {fs fs' : Fields} {name : String} {default : α} {check : Json → Checked α}

theorem isRuledIssue_of_mem {i : Issue} (h : i ∈ (setting fs name default check).issues) :
    isRuledIssue i = ruledNames.contains name := by
  rw [setting] at h
  cases hvalue : Fields.find? fs name with
  | none =>
      rw [hvalue] at h
      exact nomatch h
  | some v =>
      rw [hvalue] at h
      have h : i ∈ ((check v).under (.field name)).issues := h
      rw [Checked.issues_under] at h
      obtain ⟨j, -, rfl⟩ := List.mem_map.mp h
      rfl

theorem filter_of_ruled (h : name ∈ ruledNames) :
    (setting fs name default check).issues.filter isRuledIssue =
      (setting fs name default check).issues :=
  List.filter_eq_self.mpr fun _ hi =>
    (isRuledIssue_of_mem hi).trans (List.contains_iff_mem.mpr h)

theorem filter_of_not_ruled (h : name ∉ ruledNames) :
    (setting fs name default check).issues.filter isRuledIssue = [] :=
  List.filter_eq_nil_iff.mpr fun _ hi => by
    rw [isRuledIssue_of_mem hi]
    exact mt List.contains_iff_mem.mp h

end Issues

/-! ## What was asked for -/

/-- The values of the four settings are taken for these; what has no value has its
    default. -/
structure Ruled.IsAsked (value? : String → Option Json) (r : Ruled) : Prop where
  level : TakenFor (fun v => Checked.ofExcept (asText v)) ({} : Settings).logLevel
    (value? "log_level") r.level
  urls : TakenFor asTexts ({} : Settings).rpcUrls (value? "rpc_urls") r.urls
  txLimit : TakenFor (fun v => Checked.ofExcept (asInteger v)) ({} : Settings).recentTxLimit
    (value? "recent_tx_limit") r.txLimit
  contextLines : TakenFor (fun v => Checked.ofExcept (asInteger v))
    ({} : Settings).snippetContextLines (value? "snippet_context_lines") r.contextLines

theorem Ruled.IsAsked.congr {value? value'? : String → Option Json} {r : Ruled}
    (h : r.IsAsked value?) (hsame : ∀ n ∈ ruledNames, value? n = value'? n) : r.IsAsked value'? where
  level := hsame "log_level" (by decide) ▸ h.level
  urls := hsame "rpc_urls" (by decide) ▸ h.urls
  txLimit := hsame "recent_tx_limit" (by decide) ▸ h.txLimit
  contextLines := hsame "snippet_context_lines" (by decide) ▸ h.contextLines

/-- The four settings of a configuration. -/
def ruled (t : Settings) : Ruled where
  level := t.logLevel
  urls := t.rpcUrls
  txLimit := t.recentTxLimit
  contextLines := t.snippetContextLines

/-- A configuration with the four settings put in. -/
def Ruled.over (r : Ruled) (t : Settings) : Settings :=
  { t with
    logLevel := r.level, rpcUrls := r.urls, recentTxLimit := r.txLimit
    snippetContextLines := r.contextLines }

theorem checkLevel_default : checkLevel ({} : Settings).logLevel = .ok ({} : Settings).logLevel := by
  rfl

theorem checkUrls_default : checkUrls ({} : Settings).rpcUrls = .ok ({} : Settings).rpcUrls := by
  rfl

theorem checkCount_default {name : String} {n : Int} (h : 0 ≤ n) : checkCount name n = .ok n := by
  rw [checkCount_eq, if_pos h]

theorem ite_eq_ok_iff {α : Type} {holds : Prop} [Decidable holds] {a b : α} {p : Problem} :
    (if holds then Except.ok a else .error p) = .ok b ↔ holds ∧ a = b := by
  by_cases h : holds
  · rw [if_pos h, Except.ok.injEq]
    exact (and_iff_right h).symm
  · rw [if_neg h]
    exact iff_of_false nofun fun hand => h hand.1

section Fields

variable {fs fs' : Fields} {t t' : Settings} {asked : Ruled}

/-- The four settings are checked as their rules say. -/
theorem Ruled.IsAsked.settings_eq (h : asked.IsAsked (Fields.find? fs)) :
    setting fs "log_level" ({} : Settings).logLevel
        (fun v => (Checked.ofExcept (asText v)).andThen checkLevel) =
      (Checked.ofExcept (checkLevel asked.level)).under (.field "log_level") ∧
    setting fs "rpc_urls" ({} : Settings).rpcUrls (fun v => (asTexts v).andThen checkUrls) =
      (Checked.ofExcept (checkUrls asked.urls)).under (.field "rpc_urls") ∧
    setting fs "recent_tx_limit" ({} : Settings).recentTxLimit
        (fun v => (Checked.ofExcept (asInteger v)).andThen (checkCount "recent_tx_limit")) =
      (Checked.ofExcept (checkCount "recent_tx_limit" asked.txLimit)).under
        (.field "recent_tx_limit") ∧
    setting fs "snippet_context_lines" ({} : Settings).snippetContextLines
        (fun v => (Checked.ofExcept (asInteger v)).andThen (checkCount "snippet_context_lines")) =
      (Checked.ofExcept (checkCount "snippet_context_lines" asked.contextLines)).under
        (.field "snippet_context_lines") :=
  ⟨setting_of_takenFor checkLevel_default h.level, setting_of_takenFor checkUrls_default h.urls,
    setting_of_takenFor (checkCount_default (by decide)) h.txLimit,
    setting_of_takenFor (checkCount_default (by decide)) h.contextLines⟩

/-- The issue of a rule is named under its setting. -/
theorem issues_of_rule {α : Type} {x : Except Problem α} {holds : Prop} [Decidable holds] {a : α}
    {text : String} (h : x = if holds then .ok a else .error (.rule text)) (name : String) :
    ((Checked.ofExcept x).under (.field name)).issues = issueUnless holds name text := by
  rw [h, issueUnless]
  by_cases hholds : holds
  · rw [if_pos hholds, if_pos hholds]
    rfl
  · rw [if_neg hholds, if_neg hholds]
    rfl

/-- What comes of the four settings when all others are as in a configuration. -/
def Ruled.checked (asked : Ruled) (t : Settings) : Checked Settings :=
  (fun level urls txLimit contextLines => (Ruled.mk level urls txLimit contextLines).over t)
    <$> (Checked.ofExcept (checkLevel asked.level)).under (.field "log_level")
    <*> (Checked.ofExcept (checkUrls asked.urls)).under (.field "rpc_urls")
    <*> (Checked.ofExcept (checkCount "recent_tx_limit" asked.txLimit)).under
      (.field "recent_tx_limit")
    <*> (Checked.ofExcept (checkCount "snippet_context_lines" asked.contextLines)).under
      (.field "snippet_context_lines")

theorem Ruled.issues_checked (asked : Ruled) (t : Settings) : (asked.checked t).issues = asked.issues := by
  rw [checked, Checked.issues_seq, Checked.issues_seq, Checked.issues_seq, Checked.issues_map,
    issues_of_rule (checkLevel_eq asked.level), issues_of_rule (checkUrls_eq asked.urls),
    issues_of_rule (checkCount_eq "recent_tx_limit" asked.txLimit),
    issues_of_rule (checkCount_eq "snippet_context_lines" asked.contextLines)]
  rfl

theorem Ruled.checked_of_normalizesTo {kept : Ruled} (h : asked.NormalizesTo kept) (t : Settings) :
    asked.checked t = .valid (kept.over t) := by
  obtain ⟨hissues, rfl⟩ := normalizesTo_iff.mp h
  obtain ⟨hlevel, hurls, htxLimit, hcontextLines⟩ := issues_eq_nil_iff.mp hissues
  rw [checked, checkLevel_eq, if_pos hlevel, checkUrls_eq, if_pos hurls,
    checkCount_eq, if_pos htxLimit, checkCount_eq, if_pos hcontextLines]
  rfl

/-- Where all other settings are as in a configuration, only the four are left to check. -/
theorem checkKnown_of_settles (h' : Settles fs' t')
    (hsame : ∀ n, n ∉ ruledNames → Fields.find? fs n = Fields.find? fs' n)
    (h : asked.IsAsked (Fields.find? fs)) : checkKnown fs = asked.checked t' := by
  obtain ⟨hlevel, hurls, htxLimit, hcontextLines⟩ := h.settings_eq
  simp only [checkKnown, Ruled.checked, hlevel, hurls, htxLimit, hcontextLines,
    setting_congr (hsame "app_env" (by decide)), h'.appEnv,
    setting_congr (hsame "app_debug" (by decide)), h'.appDebug,
    setting_congr (hsame "etherscan_api_url" (by decide)), h'.explorerUrl,
    setting_congr (hsame "chain_id" (by decide)), h'.chainId,
    setting_congr (hsame "etherscan_api_key" (by decide)), h'.explorerKey,
    setting_congr (hsame "http_timeout_seconds" (by decide)), h'.timeoutSeconds,
    setting_congr (hsame "cors_origins" (by decide)), h'.corsOrigins]
  cases checkLevel asked.level <;> cases checkUrls asked.urls <;>
    cases checkCount "recent_tx_limit" asked.txLimit <;>
      cases checkCount "snippet_context_lines" asked.contextLines <;> rfl

/-- **THE ISSUES OF THE FOUR** are the rules that are broken, whatever else is wrong. -/
theorem filter_isRuledIssue_checkKnown (h : asked.IsAsked (Fields.find? fs)) :
    (checkKnown fs).issues.filter isRuledIssue = asked.issues := by
  obtain ⟨hlevel, hurls, htxLimit, hcontextLines⟩ := h.settings_eq
  rw [← asked.issues_checked {}, Ruled.checked, ← hlevel, ← hurls, ← htxLimit, ← hcontextLines]
  simp (disch := decide) only [checkKnown, Checked.issues_seq, Checked.issues_map,
    List.filter_append, filter_of_ruled, filter_of_not_ruled, List.append_nil, List.nil_append]

/-- What is kept of the four is what was asked for, normalized. -/
theorem Settles.exists_isAsked (h : Settles fs t) :
    ∃ asked : Ruled, asked.IsAsked (Fields.find? fs) ∧ asked.NormalizesTo t.ruled := by
  obtain ⟨level, hlevel, hlevelRule⟩ := exists_takenFor_of_valid checkLevel_default h.logLevel
  obtain ⟨urls, hurls, hurlsRule⟩ := exists_takenFor_of_valid checkUrls_default h.rpcUrls
  obtain ⟨txLimit, htxLimit, htxLimitRule⟩ :=
    exists_takenFor_of_valid (checkCount_default (by decide)) h.recentTxLimit
  obtain ⟨contextLines, hcontextLines, hcontextLinesRule⟩ :=
    exists_takenFor_of_valid (checkCount_default (by decide)) h.snippetContextLines
  refine ⟨⟨level, urls, txLimit, contextLines⟩, ⟨hlevel, hurls, htxLimit, hcontextLines⟩, ?_⟩
  rw [checkLevel_eq, ite_eq_ok_iff] at hlevelRule
  rw [checkUrls_eq, ite_eq_ok_iff] at hurlsRule
  rw [checkCount_eq, ite_eq_ok_iff] at htxLimitRule hcontextLinesRule
  rw [Ruled.normalizesTo_iff, Ruled.issues_eq_nil_iff, ruled, ← hlevelRule.2, ← hurlsRule.2,
    ← htxLimitRule.2, ← hcontextLinesRule.2]
  exact ⟨⟨hlevelRule.1, hurlsRule.1, htxLimitRule.1, hcontextLinesRule.1⟩, rfl⟩

end Fields

end ContractScan.Settings
