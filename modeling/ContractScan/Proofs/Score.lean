import ContractScan.Score
import Mathlib.Tactic.SplitIfs

/-! # More findings, no better score

    A finding costs something or nothing, so a list of findings costs no more
    than one that holds it, and has no lower score; only the empty list has the
    full score.  The verdict follows the score: `rank` orders the verdicts, and
    a lower number never has a better one.

    The same holds of severities that come from outside, once none of them is a
    list or an object.  What is taken away one by one is their sum, and the only
    clamp that does anything is the one at 0.

    **A SCORE IS A CLAMPED SUM**: `score_is_clamped_sum`. -/

namespace ContractScan

/-- Every finding costs something. -/
theorem Severity.penalty_pos (s : Severity) : 0 < s.penalty := by
  cases s <;> decide

namespace Finding

theorem cost_le_of_sublist {fs gs : List Finding} (h : fs.Sublist gs) : cost fs ≤ cost gs := by
  induction h with
  | slnil => exact Nat.le_refl _
  | cons g _ ih => exact Nat.le_trans ih (Nat.le_add_left _ g.severity.penalty)
  | cons_cons g _ ih => exact Nat.add_le_add_left ih g.severity.penalty

/-- **NO FINDING RAISES A SCORE.** -/
theorem score_le_of_sublist {fs gs : List Finding} (h : fs.Sublist gs) : score gs ≤ score fs :=
  Nat.sub_le_sub_left (cost_le_of_sublist h) maxScore

theorem cost_eq_zero_iff (fs : List Finding) : cost fs = 0 ↔ fs = [] := by
  cases fs with
  | nil => exact iff_of_true rfl rfl
  | cons f fs =>
      have hpos : 0 < f.severity.penalty := f.severity.penalty_pos
      rw [cost]
      exact iff_of_false (by omega) (List.cons_ne_nil f fs)

/-- **ONLY NOTHING IS PERFECT**: the full score is that of no findings. -/
theorem score_eq_maxScore_iff (fs : List Finding) : score fs = maxScore ↔ fs = [] := by
  have hpos : 0 < maxScore := by decide
  rw [← cost_eq_zero_iff, score]
  omega

end Finding

namespace Verdict

/-- The place of a verdict among the three; a better one has a greater rank. -/
def rank : Verdict → Nat
  | .excellent => 2
  | .decent => 1
  | .bad => 0

theorem rank_ofScore (s : Int) :
    (ofScore s).rank = if 90 ≤ s then 2 else if 70 ≤ s then 1 else 0 := by
  simp only [ofScore, byThresholds, decide_eq_true_eq]
  split
  · rfl
  · split <;> rfl

/-- **NO LOWER SCORE HAS A BETTER VERDICT.** -/
theorem rank_ofScore_le {s t : Int} (h : s ≤ t) : (ofScore s).rank ≤ (ofScore t).rank := by
  rw [rank_ofScore, rank_ofScore]
  split_ifs <;> omega

end Verdict

/-! ## Severities from outside -/

/-- A list or an object: a value that cannot be looked up. -/
def Json.IsCompound (v : Json) : Prop := (∃ items, v = .arr items) ∨ ∃ fields, v = .obj fields

theorem Json.not_isCompound_str (s : String) : ¬ (Json.str s).IsCompound := by
  rintro (⟨items, h⟩ | ⟨fields, h⟩)
  · exact nomatch h
  · exact nomatch h

/-- What severities cost together: so much for each of the four names, and
    nothing for any other value. -/
def penalties (severities : List Json) : Nat :=
  20 * severities.countP (·.isText "Critical") + 10 * severities.countP (·.isText "High") +
    5 * severities.countP (·.isText "Medium") + severities.countP (·.isText "Low")

section Severities

variable {v : Json} {xs ys : List Json}

theorem penalties_append (xs ys : List Json) :
    penalties (xs ++ ys) = penalties xs + penalties ys := by
  simp only [penalties, List.countP_append]
  omega

theorem penalties_perm (h : xs.Perm ys) : penalties xs = penalties ys := by
  simp only [penalties, h.countP_eq]

theorem penaltyOf_of_isCompound (h : v.IsCompound) : penaltyOf v = .error .unrankable := by
  rcases h with ⟨items, rfl⟩ | ⟨fields, rfl⟩
  · rfl
  · rfl

theorem penaltyOf_of_not_isCompound (h : ¬ v.IsCompound) : penaltyOf v = .ok (penalties [v]) := by
  cases v with
  | arr items => exact absurd (Or.inl ⟨items, rfl⟩) h
  | obj fields => exact absurd (Or.inr ⟨fields, rfl⟩) h
  | str s =>
      rw [penaltyOf]
      cases hs : Severity.ofName? s with
      | some severity =>
          have hname : severity.name = s := by simpa using List.find?_some hs
          rw [← hname]
          cases severity <;> rfl
      | none =>
          have hother : ∀ severity : Severity, s ≠ severity.name := by
            intro severity heq
            rw [heq, Severity.ofName?_name] at hs
            exact nomatch hs
          have hcritical := hother .critical
          have hhigh := hother .high
          have hmedium := hother .medium
          have hlow := hother .low
          simp only [Severity.name] at hcritical hhigh hmedium hlow
          simp [penalties, Json.isText, hcritical, hhigh, hmedium, hlow]
  | _ => rfl

/-! ## What is taken away -/

theorem deduct_of_compound (h : ∃ v ∈ xs, v.IsCompound) (left : Int) :
    deduct left xs = .error .unrankable := by
  induction xs generalizing left with
  | nil =>
      obtain ⟨v, hv, _⟩ := h
      exact nomatch hv
  | cons x xs ih =>
      by_cases hx : x.IsCompound
      · rw [deduct, penaltyOf_of_isCompound hx]
        rfl
      · -- the value that cannot be looked up comes later
        have hrest : ∃ v ∈ xs, v.IsCompound := by
          obtain ⟨v, hv, hcompound⟩ := h
          rcases List.mem_cons.mp hv with heq | hmem
          · rw [heq] at hcompound
            exact absurd hcompound hx
          · exact ⟨v, hmem, hcompound⟩
        rw [deduct, penaltyOf_of_not_isCompound hx]
        exact ih hrest _

/-- What is taken away one by one is taken away together. -/
theorem deduct_of_plain (h : ∀ v ∈ xs, ¬ v.IsCompound) (left : Int) :
    deduct left xs = .ok (left - penalties xs) := by
  induction xs generalizing left with
  | nil =>
      show Except.ok left = Except.ok (left - (0 : Nat))
      rw [Int.natCast_zero, Int.sub_zero]
  | cons x xs ih =>
      obtain ⟨hx, hrest⟩ := List.forall_mem_cons.mp h
      have hsum : penalties (x :: xs) = penalties [x] + penalties xs := penalties_append [x] xs
      rw [deduct, penaltyOf_of_not_isCompound hx]
      show deduct (left - penalties [x]) xs = _
      rw [ih hrest, hsum, Int.natCast_add, Int.sub_sub]

/-! ## The score -/

/-- Only a score without findings is raised, and that is the full one already. -/
theorem settledScore_isEmpty (xs : List Json) :
    settledScore xs.isEmpty (maxScore - penalties xs) =
      settledScore false (maxScore - penalties xs) := by
  cases xs with
  | nil => rfl
  | cons x xs => rfl

/-- Of the two clamps only the lower one does anything. -/
theorem settledScore_of_penalties (n : Nat) :
    settledScore false ((maxScore : Int) - n) = maxScore - n := by
  simp only [settledScore, Bool.false_and, Bool.false_eq_true, if_false]
  omega

theorem scoreOf_of_compound (h : ∃ v ∈ xs, v.IsCompound) : scoreOf xs = .error .unrankable := by
  rw [scoreOf, deduct_of_compound h]
  rfl

theorem scoreOf_of_plain (h : ∀ v ∈ xs, ¬ v.IsCompound) :
    scoreOf xs = .ok (maxScore - penalties xs) := by
  rw [scoreOf, deduct_of_plain h]
  show Except.ok (settledScore xs.isEmpty (maxScore - penalties xs)) = _
  rw [settledScore_isEmpty, settledScore_of_penalties]

theorem compound_or_plain (xs : List Json) :
    (∃ v ∈ xs, v.IsCompound) ∨ ∀ v ∈ xs, ¬ v.IsCompound := by
  by_cases h : ∃ v ∈ xs, v.IsCompound
  · exact Or.inl h
  · exact Or.inr fun v hv hcompound => h ⟨v, hv, hcompound⟩

/-- **THE ONLY FAULT** of a score is a value that cannot be looked up. -/
theorem scoreOf_eq_error_iff {e : Fault} :
    scoreOf xs = .error e ↔ e = .unrankable ∧ ∃ v ∈ xs, v.IsCompound := by
  rcases compound_or_plain xs with hcompound | hplain
  · rw [scoreOf_of_compound hcompound, Except.error.injEq]
    exact ⟨fun he => ⟨he.symm, hcompound⟩, fun he => he.1.symm⟩
  · rw [scoreOf_of_plain hplain]
    exact iff_of_false nofun fun ⟨_, v, hv, hcompound⟩ => hplain v hv hcompound

theorem scoreOf_eq_ok_iff {s : Nat} :
    scoreOf xs = .ok s ↔ (∀ v ∈ xs, ¬ v.IsCompound) ∧ s = maxScore - penalties xs := by
  rcases compound_or_plain xs with hcompound | hplain
  · rw [scoreOf_of_compound hcompound]
    obtain ⟨v, hv, hv'⟩ := hcompound
    exact iff_of_false nofun fun h => h.1 v hv hv'
  · rw [scoreOf_of_plain hplain, Except.ok.injEq]
    exact ⟨fun hs => ⟨hplain, hs.symm⟩, fun h => h.2.symm⟩

/-- The order of the severities does not matter. -/
theorem scoreOf_perm (h : xs.Perm ys) : scoreOf xs = scoreOf ys := by
  rcases compound_or_plain xs with hcompound | hplain
  · obtain ⟨v, hv, hv'⟩ := hcompound
    rw [scoreOf_of_compound ⟨v, hv, hv'⟩, scoreOf_of_compound ⟨v, h.mem_iff.mp hv, hv'⟩]
  · have hplain' : ∀ v ∈ ys, ¬ v.IsCompound := fun v hv => hplain v (h.mem_iff.mpr hv)
    rw [scoreOf_of_plain hplain, scoreOf_of_plain hplain', penalties_perm h]

/-- The clamp at 0 commutes with cutting a list in two: a part that is worth 0
    leaves nothing of the other. -/
theorem maxScore_sub_add (m n : Nat) :
    maxScore - (m + n) = maxScore - m + (maxScore - n) - maxScore := by
  omega

theorem scoreOf_append (xs ys : List Json) :
    scoreOf (xs ++ ys) = (do
      let a ← scoreOf xs
      let b ← scoreOf ys
      return a + b - maxScore) := by
  rcases compound_or_plain xs with ⟨v, hv, hv'⟩ | hxs
  · rw [scoreOf_of_compound ⟨v, hv, hv'⟩,
      scoreOf_of_compound ⟨v, List.mem_append_left ys hv, hv'⟩]
    rfl
  · rcases compound_or_plain ys with ⟨v, hv, hv'⟩ | hys
    · rw [scoreOf_of_plain hxs, scoreOf_of_compound ⟨v, hv, hv'⟩,
        scoreOf_of_compound ⟨v, List.mem_append_right xs hv, hv'⟩]
      rfl
    · rw [scoreOf_of_plain hxs, scoreOf_of_plain hys,
        scoreOf_of_plain (List.forall_mem_append.mpr ⟨hxs, hys⟩), penalties_append,
        maxScore_sub_add]
      rfl

/-- More severities, no better score. -/
theorem scoreOf_le_of_append {c : Nat} (h : scoreOf (xs ++ ys) = .ok c) :
    ∃ a, scoreOf xs = .ok a ∧ c ≤ a := by
  rw [scoreOf_append] at h
  obtain ⟨a, ha, h⟩ := bind_eq_ok_iff.mp h
  obtain ⟨b, hb, h⟩ := bind_eq_ok_iff.mp h
  obtain ⟨_, hmost⟩ := scoreOf_eq_ok_iff.mp hb
  have hc : a + b - maxScore = c := Except.ok.inj h
  exact ⟨a, ha, by omega⟩

end Severities

theorem penalties_toJson (s : Severity) : penalties [s.toJson] = s.penalty := by
  cases s <;> rfl

theorem penalties_findings (fs : List Finding) :
    penalties (fs.map fun f => f.severity.toJson) = Finding.cost fs := by
  induction fs with
  | nil => rfl
  | cons f fs ih =>
      show penalties ([f.severity.toJson] ++ fs.map fun f => f.severity.toJson) = _
      rw [penalties_append, penalties_toJson, ih, Finding.cost]

/-- The findings of a report are scored as their severities are. -/
theorem scoreOf_findings (fs : List Finding) :
    scoreOf (fs.map fun f => f.severity.toJson) = .ok (Finding.score fs) := by
  have hplain : ∀ v ∈ fs.map fun f => f.severity.toJson, ¬ v.IsCompound := by
    intro v hv
    obtain ⟨f, _, hf⟩ := List.mem_map.mp hv
    rw [← hf]
    exact Json.not_isCompound_str f.severity.name
  rw [scoreOf_of_plain hplain, penalties_findings, Finding.score]

/-- **A SCORE IS A CLAMPED SUM**: it fails for a wrong type exactly when some
    severity is a list or an object, wherever that stands, and else it is 100
    less all penalties, or 0.  It lies between the two, the order does not matter,
    the score of two lists in a row follows from their scores, more severities
    never give a better score or verdict, and raising the score of an empty list
    changes nothing.  Reports score their findings in this way. -/
theorem score_is_clamped_sum :
    (∀ xs, (∃ e, scoreOf xs = .error e ∧ e.kind = .wrongType) ↔ ∃ v ∈ xs, v.IsCompound) ∧
      (∀ xs, (∀ v ∈ xs, ¬ v.IsCompound) →
        ∃ s, scoreOf xs = .ok s ∧ (s : Int) = max 0 (100 - penalties xs)) ∧
      (∀ xs s, scoreOf xs = .ok s → 0 ≤ s ∧ s ≤ 100) ∧
      (∀ xs ys : List Json, xs.Perm ys → scoreOf xs = scoreOf ys) ∧
      (∀ xs ys a b, scoreOf xs = .ok a → scoreOf ys = .ok b →
        ∃ c, scoreOf (xs ++ ys) = .ok c ∧ (c : Int) = max 0 (a + b - 100)) ∧
      (∀ xs ys c, scoreOf (xs ++ ys) = .ok c → ∃ a, scoreOf xs = .ok a ∧ c ≤ a ∧
        (Verdict.ofScore c).rank ≤ (Verdict.ofScore a).rank) ∧
      (∀ xs, scoreOf xs = (deduct maxScore xs).map (settledScore false)) ∧
      ∀ fs : List Finding,
        scoreOf (fs.map fun f => f.severity.toJson) = .ok (Finding.score fs) := by
  have hmax : maxScore = 100 := rfl
  refine ⟨?_, ?_, ?_, fun xs ys => scoreOf_perm, ?_, ?_, ?_, scoreOf_findings⟩
  · intro xs
    simp only [scoreOf_eq_error_iff]
    exact ⟨fun ⟨_, ⟨_, hcompound⟩, _⟩ => hcompound, fun h => ⟨_, ⟨rfl, h⟩, rfl⟩⟩
  · intro xs hplain
    exact ⟨_, scoreOf_of_plain hplain, by omega⟩
  · intro xs s h
    obtain ⟨_, hs⟩ := scoreOf_eq_ok_iff.mp h
    exact ⟨Nat.zero_le s, by omega⟩
  · intro xs ys a b ha hb
    refine ⟨a + b - maxScore, ?_, by omega⟩
    rw [scoreOf_append, ha, hb]
    rfl
  · intro xs ys c h
    obtain ⟨a, ha, hle⟩ := scoreOf_le_of_append h
    exact ⟨a, ha, hle, Verdict.rank_ofScore_le (Int.ofNat_le.mpr hle)⟩
  · intro xs
    rcases compound_or_plain xs with hcompound | hplain
    · rw [scoreOf_of_compound hcompound, deduct_of_compound hcompound]
      rfl
    · rw [scoreOf_of_plain hplain, deduct_of_plain hplain, ← settledScore_of_penalties]
      rfl

/-- Severities that leave nothing. -/
def exhaustingSeverities : List Json := List.replicate 6 (.str "Critical")

/-- A value that cannot be looked up fails behind an exhausted score too, and
    other severities cost nothing there. -/
theorem score_of_exhausted :
    (∃ e, scoreOf (exhaustingSeverities ++ [.arr []]) = .error e ∧ e.kind = .wrongType) ∧
      (∃ s, scoreOf exhaustingSeverities = .ok s ∧ (s : Int) = max 0 (100 - 120)) ∧
      (∃ c, scoreOf (exhaustingSeverities ++ [.str "Low", .str "low"]) = .ok c ∧
        (c : Int) = max 0 (0 + 99 - 100)) ∧
      scoreOf [.str "Low", .str "low"] = scoreOf [.str "low", .str "Low"] := by
  obtain ⟨hfails, hsum, -, hperm, happend, -⟩ := score_is_clamped_sum
  have hplain : ∀ v ∈ exhaustingSeverities, ¬ v.IsCompound := by
    intro v hv
    rw [List.eq_of_mem_replicate hv]
    exact Json.not_isCompound_str "Critical"
  have hlow : scoreOf [.str "Low", .str "low"] = .ok 99 := by rfl
  have hnone : scoreOf exhaustingSeverities = .ok 0 := by rfl
  have hswap : [Json.str "Low", .str "low"].Perm [.str "low", .str "Low"] := .swap _ _ _
  exact ⟨(hfails _).mpr ⟨.arr [], List.mem_append_right _ (List.mem_singleton_self _),
      Or.inl ⟨[], rfl⟩⟩,
    hsum _ hplain, happend _ _ _ _ hnone hlow, hperm _ _ hswap⟩

end ContractScan
