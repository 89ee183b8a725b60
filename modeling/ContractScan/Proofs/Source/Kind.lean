import ContractScan.Proofs.Text.Case
import ContractScan.Source.Kind
import Mathlib.Data.List.Basic

/-! # Which kind a source is of

    The kind of a source is settled by the keywords that occur in its files, and
    by nothing else: not by their order, not by the case of letters, and not by
    what stands where two files meet.

    **THE FIRST CONDITION THAT HOLDS NAMES THE KIND** (`kind_of_files`), so more
    text never leads further down the cascade. -/

namespace ContractScan.Source

open ContractScan.Text

/-! ## The conditions of the cascade -/

/-- The conditions in their order, each with the label of its kind. -/
def conditions (mentions : String → Prop) : List (Prop × String) :=
  [(mentions "router" ∧ mentions "swap", "DeFi Router / DEX"),
   (mentions "pair" ∧ mentions "liquidity", "DeFi Liquidity Pair"),
   (mentions "erc721" ∨ mentions "erc1155" ∨ mentions "nft", "NFT / Gaming"),
   (mentions "erc20" ∧ (mentions "token" ∨ mentions "coin"), "ERC20 Token"),
   (mentions "governance" ∨ mentions "dao" ∨ mentions "proposal", "DAO / Governance"),
   (mentions "staking" ∨ mentions "reward", "Staking / Yield"),
   (mentions "proxy" ∨ mentions "implementation", "Proxy Contract")]

/-- The label of the first condition that holds; a last label if none does. -/
inductive IsFirst : List (Prop × String) → String → Prop where
  | here {p : Prop} {label : String} {cs : List (Prop × String)} : p → IsFirst ((p, label) :: cs) label
  | later {p : Prop} {label l : String} {cs : List (Prop × String)} : ¬p → IsFirst cs l →
      IsFirst ((p, label) :: cs) l
  | last : IsFirst [] "General Utility / Unclassified"

/-- The words that the cascade asks for. -/
def keywords : List String := cascade.flatMap (·.needs.flatten)

/-- A keyword occurs in one of the files, whatever its case there. -/
def Mentions (files : List (List Char)) (word : String) : Prop :=
  ∃ file ∈ files, word.toList <:+: lower file

theorem isKeyword_of_mem {word : String} (h : word ∈ keywords) : IsKeyword word.toList := by
  have hall : ∀ w ∈ keywords, w.toList ≠ [] ∧ w.toList.all (·.isAlphanum) = true := by
    decide +kernel
  obtain ⟨hne, halphanum⟩ := hall word h
  exact ⟨hne, List.all_eq_true.mp halphanum⟩

theorem occursIn_iff_infix {w s : List Char} : occursIn w s = true ↔ w <:+: s := by
  rw [occursIn_iff]
  exact ⟨fun ⟨u, v, h⟩ => ⟨u, v, h.symm⟩, fun ⟨u, v, h⟩ => ⟨u, v, h.symm⟩⟩

/-- Only keywords matter to the conditions. -/
theorem conditions_congr {p q : String → Prop} (h : ∀ w ∈ keywords, (p w ↔ q w)) :
    conditions p = conditions q := by
  have heq : ∀ w ∈ keywords, p w = q w := fun w hw => propext (h w hw)
  simp (disch := decide +kernel) only [conditions, heq]

theorem IsFirst.unique {cs : List (Prop × String)} {l l' : String} (h : IsFirst cs l)
    (h' : IsFirst cs l') : l = l' := by
  induction h with
  | here hp =>
      cases h' with
      | here => rfl
      | later hnot => exact absurd hp hnot
  | later hnot _ ih =>
      cases h' with
      | here hp => exact absurd hp hnot
      | later _ hl => exact ih hl
  | last =>
      cases h'
      rfl

/-! ## The cascade -/

section Cascade

variable {occurs occurs' : String → Bool} {r : KindRule} {steps : List KindRule}

/-- The kind of the first of several steps whose needs are met. -/
def firstOf (occurs : String → Bool) (steps : List KindRule) : Kind :=
  match steps.find? (·.met occurs) with
  | some r => r.kind
  | none => .general

/-- The labels of the kinds in the order of the steps, the one without a step at
    the end. -/
def labelsOf (steps : List KindRule) : List String := steps.map (·.kind.label) ++ [Kind.general.label]

theorem firstOf_cons_of_met (h : r.met occurs = true) : firstOf occurs (r :: steps) = r.kind := by
  have hfind : (r :: steps).find? (·.met occurs) = some r := List.find?_cons_of_pos h
  rw [firstOf, hfind]

theorem firstOf_cons_of_not_met (h : ¬r.met occurs = true) :
    firstOf occurs (r :: steps) = firstOf occurs steps := by
  have hfind : (r :: steps).find? (·.met occurs) = steps.find? (·.met occurs) :=
    List.find?_cons_of_neg h
  rw [firstOf, hfind, firstOf]

theorem isFirst_firstOf (occurs : String → Bool) (steps : List KindRule) :
    IsFirst (steps.map fun r => (r.met occurs = true, r.kind.label)) (firstOf occurs steps).label := by
  induction steps with
  | nil => exact .last
  | cons r steps ih =>
      by_cases hr : r.met occurs = true
      · rw [firstOf_cons_of_met hr]
        exact .here hr
      · rw [firstOf_cons_of_not_met hr]
        exact .later hr ih

theorem label_firstOf_mem (occurs : String → Bool) (steps : List KindRule) :
    (firstOf occurs steps).label ∈ labelsOf steps := by
  induction steps with
  | nil => exact List.mem_singleton_self _
  | cons r steps ih =>
      by_cases hr : r.met occurs = true
      · rw [firstOf_cons_of_met hr]
        exact List.mem_cons_self ..
      · rw [firstOf_cons_of_not_met hr]
        exact List.mem_cons_of_mem _ ih

/-- The label stands at the place of the first step whose needs are met. -/
theorem idxOf_label_firstOf (h : (labelsOf steps).Nodup) :
    (labelsOf steps).idxOf (firstOf occurs steps).label = steps.findIdx (·.met occurs) := by
  induction steps with
  | nil => exact List.idxOf_cons_self
  | cons r steps ih =>
      obtain ⟨hnot, hnodup⟩ := List.nodup_cons.mp h
      show (r.kind.label :: labelsOf steps).idxOf _ = _
      by_cases hr : r.met occurs = true
      · rw [firstOf_cons_of_met hr, List.idxOf_cons_self, List.findIdx_cons, hr]
        rfl
      · rw [firstOf_cons_of_not_met hr, List.idxOf_cons_ne, ih hnodup, List.findIdx_cons,
          Bool.eq_false_iff.mpr hr]
        · rfl
        · -- the label of this step would come again further down
          intro heq
          have hmem := label_firstOf_mem occurs steps
          rw [← heq] at hmem
          exact hnot hmem

/-- What occurs besides does not keep needs from being met. -/
theorem KindRule.met_mono (h : ∀ w ∈ r.needs.flatten, occurs w = true → occurs' w = true)
    (hr : r.met occurs = true) : r.met occurs' = true := by
  rw [KindRule.met, List.all_eq_true] at hr ⊢
  intro need hneed
  obtain ⟨w, hw, hoccurs⟩ := List.any_eq_true.mp (hr need hneed)
  exact List.any_eq_true.mpr ⟨w, hw, h w (List.mem_flatten.mpr ⟨need, hneed, hw⟩) hoccurs⟩

theorem idxOf_label_firstOf_le (hnodup : (labelsOf steps).Nodup)
    (h : ∀ w ∈ steps.flatMap (·.needs.flatten), occurs w = true → occurs' w = true) :
    (labelsOf steps).idxOf (firstOf occurs' steps).label ≤
      (labelsOf steps).idxOf (firstOf occurs steps).label := by
  rw [idxOf_label_firstOf hnodup, idxOf_label_firstOf hnodup]
  refine List.findIdx_le_findIdx fun r hr hmet => ?_
  exact KindRule.met_mono (fun w hw => h w (List.mem_flatMap.mpr ⟨r, hr, hw⟩)) hmet

end Cascade

/-! ## Sources -/

theorem ofCode_eq_firstOf (code : List Char) :
    Kind.ofCode code = firstOf (fun w => occursIn w.toList (lower code)) cascade := rfl

theorem conditions_eq (occurs : String → Bool) :
    conditions (occurs · = true) = cascade.map fun r => (r.met occurs = true, r.kind.label) := by
  simp [conditions, cascade, KindRule.met, Kind.label]

theorem isFirst_ofCode (code : List Char) :
    IsFirst (conditions fun w => w.toList <:+: lower code) (Kind.ofCode code).label := by
  have hfirst := isFirst_firstOf (fun w => occursIn w.toList (lower code)) cascade
  rw [← conditions_eq, conditions_congr fun w _ => occursIn_iff_infix] at hfirst
  rw [ofCode_eq_firstOf]
  exact hfirst

theorem isFirst_of_files (files : List (List Char)) :
    IsFirst (conditions (Mentions files)) (Kind.ofCode (joinLines files)).label := by
  have hfirst := isFirst_ofCode (joinLines files)
  rw [conditions_congr fun w hw => infix_lower_joinLines_iff (isKeyword_of_mem hw) files] at hfirst
  exact hfirst

section Files

variable {files files' : List (List Char)}

theorem label_congr (h : ∀ w ∈ keywords, (Mentions files w ↔ Mentions files' w)) :
    (Kind.ofCode (joinLines files)).label = (Kind.ofCode (joinLines files')).label := by
  have hfirst := isFirst_of_files files
  rw [conditions_congr h] at hfirst
  exact hfirst.unique (isFirst_of_files files')

theorem mentions_perm (h : files.Perm files') (word : String) :
    Mentions files word ↔ Mentions files' word := by
  simp only [Mentions, h.mem_iff]

theorem mentions_of_sameButCase (h : List.Forall₂ SameButCase files files') {word : String}
    (hw : IsKeyword word.toList) : Mentions files word ↔ Mentions files' word := by
  simp only [Mentions, infix_lower_iff hw]
  induction h with
  | nil => exact Iff.rfl
  | cons hfile _ ih =>
      rw [List.exists_mem_cons_iff, List.exists_mem_cons_iff, hfile.flatMap_plainLower, ih]

end Files

theorem idxOf_label_append_le {a b s : List Char} (h : s = a ∨ s = b) :
    (labelsOf cascade).idxOf (Kind.ofCode (a ++ b)).label ≤
      (labelsOf cascade).idxOf (Kind.ofCode s).label := by
  rw [ofCode_eq_firstOf, ofCode_eq_firstOf]
  refine idxOf_label_firstOf_le (by decide +kernel) fun w hw hoccurs => ?_
  have hinfix := occursIn_iff_infix.mp hoccurs
  refine occursIn_iff_infix.mpr (infix_lower_append (isKeyword_of_mem hw) ?_)
  rcases h with rfl | rfl
  · exact Or.inl hinfix
  · exact Or.inr hinfix

/-- **THE KIND OF FILES** is named by the first condition that holds for the
    keywords that occur in one of them.  It does not depend on the order of the
    files and on the case of letters of ASCII; and with more text the label
    stands at the same place of the cascade or before. -/
theorem kind_of_files :
    (∀ files, IsFirst (conditions (Mentions files)) (Kind.ofCode (joinLines files)).label) ∧
      (∀ files files' : List (List Char), files.Perm files' →
        (Kind.ofCode (joinLines files)).label = (Kind.ofCode (joinLines files')).label) ∧
      (∀ files files', List.Forall₂ SameButCase files files' →
        (Kind.ofCode (joinLines files)).label = (Kind.ofCode (joinLines files')).label) ∧
      ∀ a b, (labelsOf cascade).idxOf (Kind.ofCode (a ++ b)).label ≤
          (labelsOf cascade).idxOf (Kind.ofCode a).label ∧
        (labelsOf cascade).idxOf (Kind.ofCode (a ++ b)).label ≤
          (labelsOf cascade).idxOf (Kind.ofCode b).label := by
  refine ⟨isFirst_of_files, fun files files' h => ?_, fun files files' h => ?_, fun a b => ?_⟩
  · exact label_congr fun w _ => mentions_perm h w
  · exact label_congr fun w hw => mentions_of_sameButCase h (isKeyword_of_mem hw)
  · exact ⟨idxOf_label_append_le (Or.inl rfl), idxOf_label_append_le (Or.inr rfl)⟩

/-- Two files, which need each other for a router, with a capital sigma between
    letters and a dotted capital letter. -/
def routerFiles : List (List Char) := ["ROUTER Σ".toList, "İ Swap".toList]

/-- The same files, the other way round and in another case. -/
def recasedFiles : List (List Char) := ["İ sWAP".toList, "router Σ".toList]

theorem kind_of_router_files :
    IsFirst (conditions (Mentions routerFiles)) "DeFi Router / DEX" ∧
      (Kind.ofCode (joinLines recasedFiles)).label = "DeFi Router / DEX" ∧
      (labelsOf cascade).idxOf "DeFi Router / DEX" ≤
        (labelsOf cascade).idxOf (Kind.ofCode "ROUTER Σ".toList).label := by
  obtain ⟨hfirst, hperm, hcase, happend⟩ := kind_of_files
  have hlabel : (Kind.ofCode (joinLines routerFiles)).label = "DeFi Router / DEX" := by decide +kernel
  have hswap : routerFiles.Perm routerFiles.reverse := (List.reverse_perm routerFiles).symm
  have hrecased : List.Forall₂ SameButCase routerFiles.reverse recasedFiles := by
    decide +kernel
  have hrouter := (happend "ROUTER Σ".toList ('\n' :: "İ Swap".toList)).1
  refine ⟨?_, ?_, ?_⟩
  · rw [← hlabel]
    exact hfirst routerFiles
  · rw [← hcase _ _ hrecased, ← hperm _ _ hswap, hlabel]
  · rw [← hlabel]
    exact hrouter

end ContractScan.Source
