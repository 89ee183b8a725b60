import ContractScan.Proofs.Settings.Sources
import ContractScan.Proofs.Text.Blank
import ContractScan.Proofs.Wire.Acceptance
import Mathlib.Data.List.Forall2

/-! # What the rules of the settings keep

    Four settings have a rule of their own.  What is asked for them is kept in one
    form: the level in upper case, the nodes that are not blank, trimmed and in
    order, the two counts as they are.  A rule that is broken is an issue at its
    setting (`Ruled.issues`), and what is kept is kept again as it is
    (`NormalizesTo.self`). -/

namespace ContractScan.Settings

open ContractScan.Text ContractScan.Wire

/-- The four settings that have a rule, as they are asked for or as they are kept. -/
structure Ruled where
  level : String
  urls : List String
  txLimit : Int
  contextLines : Int

/-- The names of the four, in the order of the settings. -/
def ruledNames : List String :=
  ["log_level", "rpc_urls", "recent_tx_limit", "snippet_context_lines"]

/-- A text in upper case. -/
def upperText (t : String) : String := String.ofList (upper t.toList)

/-- What is kept of what was asked for, when no rule is broken. -/
structure Ruled.NormalizesTo (asked kept : Ruled) : Prop where
  level : kept.level = upperText asked.level
  known : kept.level ∈ levelNames
  /-- Each node that is not blank is kept between its blanks, in the same order. -/
  urls : List.Forall₂ (fun u v => Trims u.toList v.toList)
    (asked.urls.filter fun u => ¬ IsBlanks u.toList) kept.urls
  urls_ne_nil : kept.urls ≠ []
  txLimit : kept.txLimit = asked.txLimit
  txLimit_nonneg : 0 ≤ kept.txLimit
  contextLines : kept.contextLines = asked.contextLines
  contextLines_nonneg : 0 ≤ kept.contextLines

/-- The rule of a setting is broken: the level is unknown, all nodes are blank, or the
    count is negative. -/
def Ruled.Breaks (r : Ruled) (name : String) : Prop :=
  (name = "log_level" ∧ upperText r.level ∉ levelNames) ∨
    (name = "rpc_urls" ∧ ∀ u ∈ r.urls, IsBlanks u.toList) ∨
    (name = "recent_tx_limit" ∧ r.txLimit < 0) ∨
    (name = "snippet_context_lines" ∧ r.contextLines < 0)

instance (r : Ruled) (name : String) : Decidable (r.Breaks name) :=
  inferInstanceAs (Decidable (_ ∨ _))

/-- The issue of a rule that is broken; none if it holds. -/
def issueUnless (holds : Prop) [Decidable holds] (name text : String) : List Issue :=
  if holds then [] else [⟨[.field name], .rule text⟩]

/-- The rules that are broken, in the order of the settings. -/
def Ruled.issues (r : Ruled) : List Issue :=
  issueUnless (upperText r.level ∈ levelNames) "log_level"
      ("log_level must be a logging level name, got " ++ quoted r.level) ++
    issueUnless (∃ u ∈ r.urls, ¬ IsBlanks u.toList) "rpc_urls"
      "rpc_urls must contain at least one JSON-RPC endpoint" ++
    issueUnless (0 ≤ r.txLimit) "recent_tx_limit" "recent_tx_limit must not be negative" ++
    issueUnless (0 ≤ r.contextLines) "snippet_context_lines"
      "snippet_context_lines must not be negative"

/-! ## One rule -/

theorem checkLevel_eq (t : String) :
    checkLevel t = if upperText t ∈ levelNames then .ok (upperText t)
      else .error (.rule ("log_level must be a logging level name, got " ++ quoted t)) := by
  rw [checkLevel, upperText]
  by_cases h : String.ofList (upper t.toList) ∈ levelNames
  · rw [if_pos h]
    exact if_pos (List.contains_iff_mem.mpr h)
  · rw [if_neg h]
    exact if_neg (mt List.contains_iff_mem.mp h)

theorem trimmed_eq_empty_iff (u : String) : trimmed u = "" ↔ IsBlanks u.toList := by
  rw [trimmed, ← trim_eq_nil_iff]
  constructor
  · intro h
    have hlist := congrArg String.toList h
    rwa [String.toList_ofList] at hlist
  · intro h
    rw [h]

/-- The nodes that are not blank, trimmed. -/
def keptUrls (urls : List String) : List String :=
  (urls.filter fun u => ¬ IsBlanks u.toList).map trimmed

theorem filter_map_trimmed (urls : List String) :
    (urls.map trimmed).filter (· != "") = keptUrls urls := by
  rw [keptUrls, List.filter_map]
  congr 1
  refine List.filter_congr fun u _ => ?_
  rw [Bool.eq_iff_iff, decide_eq_true_iff, ← trimmed_eq_empty_iff]
  exact bne_iff_ne

theorem keptUrls_ne_nil_iff {urls : List String} :
    keptUrls urls ≠ [] ↔ ∃ u ∈ urls, ¬ IsBlanks u.toList := by
  rw [keptUrls, ne_eq, List.map_eq_nil_iff, List.filter_eq_nil_iff]
  simp only [decide_eq_true_iff, not_not, not_forall, exists_prop]

theorem checkUrls_eq (urls : List String) :
    checkUrls urls = if ∃ u ∈ urls, ¬ IsBlanks u.toList then .ok (keptUrls urls)
      else .error (.rule "rpc_urls must contain at least one JSON-RPC endpoint") := by
  rw [checkUrls, filter_map_trimmed]
  by_cases h : ∃ u ∈ urls, ¬ IsBlanks u.toList
  · rw [if_pos h]
    exact if_neg (mt List.isEmpty_iff.mp (keptUrls_ne_nil_iff.mpr h))
  · rw [if_neg h]
    exact if_pos (List.isEmpty_iff.mpr (not_not.mp (mt keptUrls_ne_nil_iff.mp h)))

theorem checkCount_eq (name : String) (n : Int) :
    checkCount name n = if 0 ≤ n then .ok n else .error (.rule (name ++ " must not be negative")) := by
  rw [checkCount]
  by_cases h : 0 ≤ n
  · rw [if_pos h, if_neg (by omega)]
  · rw [if_neg h, if_pos (by omega)]

/-! ## The four together -/

/-- What is kept of what was asked for, whether or not a rule is broken. -/
def Ruled.normalized (asked : Ruled) : Ruled where
  level := upperText asked.level
  urls := keptUrls asked.urls
  txLimit := asked.txLimit
  contextLines := asked.contextLines

theorem issueUnless_eq_nil_iff {holds : Prop} [Decidable holds] {name text : String} :
    issueUnless holds name text = [] ↔ holds := by
  by_cases h : holds
  · exact iff_of_true (if_pos h) h
  · rw [issueUnless, if_neg h]
    exact iff_of_false (List.cons_ne_nil _ _) h

theorem Ruled.issues_eq_nil_iff {r : Ruled} :
    r.issues = [] ↔ upperText r.level ∈ levelNames ∧ (∃ u ∈ r.urls, ¬ IsBlanks u.toList) ∧
      0 ≤ r.txLimit ∧ 0 ≤ r.contextLines := by
  simp only [issues, List.append_eq_nil_iff, issueUnless_eq_nil_iff, and_assoc]

theorem trims_trimmed_iff {u v : String} : Trims u.toList v.toList ↔ trimmed u = v := by
  rw [trims_iff, trimmed]
  constructor
  · intro h
    rw [← h, String.ofList_toList]
  · intro h
    rw [← h, String.toList_ofList]

/-- Nodes that are each kept between their blanks are the trimmed ones. -/
theorem forall₂_trims_iff {us vs : List String} :
    List.Forall₂ (fun u v => Trims u.toList v.toList) us vs ↔ vs = us.map trimmed := by
  simp only [trims_trimmed_iff]
  rw [← List.forall₂_map_left_iff, List.forall₂_eq_eq_eq, eq_comm]

/-- Only the four settings have a rule to break. -/
theorem Ruled.Breaks.mem_ruledNames {r : Ruled} {name : String} (h : r.Breaks name) :
    name ∈ ruledNames := by
  rcases h with ⟨rfl, -⟩ | ⟨rfl, -⟩ | ⟨rfl, -⟩ | ⟨rfl, -⟩ <;> decide

/-- A setting is named by its issue exactly when its rule is broken. -/
theorem Ruled.path_issueUnless {r : Ruled} {holds : Prop} [Decidable holds] {name : String}
    (h : r.Breaks name ↔ ¬ holds) (text : String) :
    (issueUnless holds name text).map Issue.path =
      ([name].filter fun n => r.Breaks n).map fun n => [.field n] := by
  by_cases hholds : holds
  · rw [issueUnless, if_pos hholds, List.filter_singleton, decide_eq_false fun hb => h.mp hb hholds]
    rfl
  · rw [issueUnless, if_neg hholds, List.filter_singleton, decide_eq_true (h.mpr hholds)]
    rfl

theorem filter_breaks_names (r : Ruled) :
    (names.filter fun n => r.Breaks n) = ruledNames.filter fun n => r.Breaks n := by
  have hruled : (names.filter fun n => n ∈ ruledNames) = ruledNames := by decide
  rw [← hruled, List.filter_filter]
  refine List.filter_congr fun n _ => ?_
  rw [Bool.eq_iff_iff, Bool.and_eq_true_iff, decide_eq_true_iff, decide_eq_true_iff]
  exact (and_iff_left_of_imp Ruled.Breaks.mem_ruledNames).symm

/-- **THE ISSUES NAME THE BROKEN RULES**, in the order of the settings. -/
theorem Ruled.path_issues (r : Ruled) :
    r.issues.map Issue.path = (names.filter fun n => r.Breaks n).map fun n => [.field n] := by
  have hlevel : r.Breaks "log_level" ↔ ¬ upperText r.level ∈ levelNames := by
    simp [Breaks]
  have hurls : r.Breaks "rpc_urls" ↔ ¬ ∃ u ∈ r.urls, ¬ IsBlanks u.toList := by
    simp [Breaks]
  have htxLimit : r.Breaks "recent_tx_limit" ↔ ¬ 0 ≤ r.txLimit := by
    simp [Breaks]
  have hcontextLines : r.Breaks "snippet_context_lines" ↔ ¬ 0 ≤ r.contextLines := by
    simp [Breaks]
  have hcut : ruledNames = ["log_level"] ++ ["rpc_urls"] ++ ["recent_tx_limit"] ++
    ["snippet_context_lines"] := rfl
  rw [filter_breaks_names, hcut]
  simp only [issues, List.map_append, List.filter_append, path_issueUnless hlevel,
    path_issueUnless hurls, path_issueUnless htxLimit, path_issueUnless hcontextLines]

/-- Building fails at a rule exactly when there is an issue. -/
theorem Ruled.exists_breaks_iff {r : Ruled} : (∃ n, r.Breaks n) ↔ r.issues ≠ [] := by
  rw [ne_eq, ← List.map_eq_nil_iff (f := Issue.path), path_issues, filter_breaks_names,
    List.map_eq_nil_iff, List.filter_eq_nil_iff]
  simp only [decide_eq_true_iff, not_forall, not_not, exists_prop]
  exact exists_congr fun n => (and_iff_right_of_imp Breaks.mem_ruledNames).symm

/-- **WHAT IS KEPT** is one thing, and there is something to keep exactly when no rule
    is broken. -/
theorem Ruled.normalizesTo_iff {asked kept : Ruled} :
    asked.NormalizesTo kept ↔ asked.issues = [] ∧ kept = asked.normalized := by
  rw [issues_eq_nil_iff]
  constructor
  · intro h
    have hurls : kept.urls = keptUrls asked.urls := forall₂_trims_iff.mp h.urls
    refine ⟨⟨h.level ▸ h.known, keptUrls_ne_nil_iff.mp (hurls ▸ h.urls_ne_nil),
      h.txLimit ▸ h.txLimit_nonneg, h.contextLines ▸ h.contextLines_nonneg⟩, ?_⟩
    obtain ⟨level, urls, txLimit, contextLines⟩ := kept
    obtain rfl := h.level
    obtain rfl := hurls
    obtain rfl := h.txLimit
    obtain rfl := h.contextLines
    rfl
  · rintro ⟨⟨hlevel, hurls, htxLimit, hcontextLines⟩, rfl⟩
    exact ⟨rfl, hlevel, forall₂_trims_iff.mpr rfl, keptUrls_ne_nil_iff.mpr hurls, rfl, htxLimit, rfl,
      hcontextLines⟩

/-- A level that is known is in upper case. -/
theorem upperText_of_mem_levelNames : ∀ n ∈ levelNames, upperText n = n := by
  decide +kernel

/-- No node that is kept is blank, or has blanks at its ends. -/
theorem Ruled.NormalizesTo.tidy {asked kept : Ruled} (h : asked.NormalizesTo kept) :
    ∀ v ∈ kept.urls, ¬ IsBlanks v.toList ∧ Trims v.toList v.toList := by
  have hurls : kept.urls = keptUrls asked.urls := forall₂_trims_iff.mp h.urls
  intro v hv
  rw [hurls] at hv
  obtain ⟨u, hu, rfl⟩ := List.mem_map.mp hv
  have hu : ¬ IsBlanks u.toList := by simpa using (List.mem_filter.mp hu).2
  have hself : Trims (trimmed u).toList (trimmed u).toList := (trims_trimmed_iff.mpr rfl).self
  refine ⟨fun hblanks => hu ?_, hself⟩
  rw [← trimmed_eq_empty_iff, trims_trimmed_iff.mp hself] at hblanks
  exact (trimmed_eq_empty_iff u).mp hblanks

/-- **WHAT IS KEPT IS KEPT AGAIN** as it is. -/
theorem Ruled.NormalizesTo.self {asked kept : Ruled} (h : asked.NormalizesTo kept) :
    kept.NormalizesTo kept := by
  have hall : (kept.urls.filter fun u => ¬ IsBlanks u.toList) = kept.urls :=
    List.filter_eq_self.mpr fun v hv => decide_eq_true (h.tidy v hv).1
  refine ⟨(upperText_of_mem_levelNames _ h.known).symm, h.known, ?_, h.urls_ne_nil, rfl,
    h.txLimit_nonneg, rfl, h.contextLines_nonneg⟩
  rw [hall, List.forall₂_same]
  exact fun v hv => (h.tidy v hv).2

end ContractScan.Settings
