import ContractScan.Pattern.Lemmas
import ContractScan.Pattern.Reader
import ContractScan.Text.Blank

/-! # Patterns that take the same stretches everywhere

    Without edges, what a pattern matches is a set of stretches, and the place
    where a stretch stands has no part in it.  `Takes` names that set, and there
    is one rule for each way in which such patterns are put together.

    **OCCURRENCE IS A QUESTION OF PARTS**: a pattern that takes the stretches of a
    kind occurs in a text exactly when one of them is a part of it
    (`Takes.occursIn_iff`). -/

namespace ContractScan

open ContractScan.Text

/-! ## Classes -/

namespace CharClass

/-- The class of the listed characters. -/
def listed (cs : List Char) : CharClass := ⟨cs.map fun c => (c.toNat, c.toNat), false⟩

theorem holds_listed_iff {cs : List Char} {d : Char} : (listed cs).holds d = true ↔ d ∈ cs := by
  simp only [holds, listed, Bool.bne_false, List.any_map, List.any_eq_true, Function.comp,
    Bool.and_eq_true, decide_eq_true_eq]
  constructor
  · rintro ⟨c, hc, hle, hge⟩
    rw [← Char.toNat_inj.mp (Nat.le_antisymm hle hge)]
    exact hc
  · intro hd
    exact ⟨d, hd, Nat.le_refl _, Nat.le_refl _⟩

theorem holds_single_iff {c d : Char} : (single c).holds d = true ↔ d = c := by
  show (listed [c]).holds d = true ↔ d = c
  rw [holds_listed_iff, List.mem_singleton]

theorem holds_notNewline_iff {c : Char} : notNewline.holds c = true ↔ c ≠ '\n' := by
  have hnegated : notNewline.holds c = !(single '\n').holds c := by
    show (_ != true) = !(_ != false)
    rw [Bool.bne_true, Bool.bne_false]
    rfl
  rw [hnegated, Bool.not_eq_true', Bool.eq_false_iff, Ne, holds_single_iff]

/-- The blanks of a pattern are the blanks of a text. -/
theorem holds_blankRanges (c : Char) :
    (CharClass.mk Pattern.blankRanges false).holds c = isBlank c := by
  rw [Bool.eq_iff_iff]
  simp only [holds, Pattern.blankRanges, isBlank, isPlainBlank, isWideBlank, List.any_cons,
    List.any_nil, Bool.or_false, Bool.bne_false, Bool.or_eq_true, Bool.and_eq_true,
    decide_eq_true_eq, beq_iff_eq]
  omega

end CharClass

namespace Pattern

/-- The pattern matches the stretches of a kind, wherever they stand. -/
def Takes (p : Pattern) (L : List Char → Prop) : Prop := ∀ b w a, Spans p b w a ↔ L w

variable {p q : Pattern} {ps : List Pattern} {L M : List Char → Prop}

theorem Takes.occursIn_iff (hp : p.Takes L) {text : List Char} :
    p.occursIn text = true ↔ ∃ w, L w ∧ w <:+: text := by
  rw [occursIn_iff_spans]
  constructor
  · rintro ⟨u, v, w, htext, hspans⟩
    refine ⟨v, (hp _ _ _).mp hspans, u, w, ?_⟩
    rw [htext, List.append_assoc]
  · rintro ⟨v, hv, u, w, htext⟩
    refine ⟨u, v, w, ?_, (hp _ _ _).mpr hv⟩
    rw [← htext, List.append_assoc]

theorem Takes.of_iff (hp : p.Takes L) (h : ∀ w, L w ↔ M w) : p.Takes M :=
  fun b w a => (hp b w a).trans (h w)

/-! ## One rule for each form -/

theorem takes_one (s : CharClass) : (Pattern.one s).Takes fun w => ∃ c, s.holds c = true ∧ w = [c] :=
  fun _ _ _ => spans_one_iff

theorem takes_single (c : Char) : (Pattern.one (.single c)).Takes (· = [c]) := by
  refine (takes_one _).of_iff fun w => ?_
  simp only [CharClass.holds_single_iff, exists_eq_left]

theorem takes_listed (cs : List Char) :
    (Pattern.one (.listed cs)).Takes fun w => ∃ c, c ∈ cs ∧ w = [c] :=
  (takes_one _).of_iff fun w => by simp only [CharClass.holds_listed_iff]

theorem Takes.alt (hp : p.Takes L) (hq : q.Takes M) : (Pattern.alt p q).Takes fun w => L w ∨ M w := by
  intro b w a
  rw [spans_alt_iff, hp, hq]

theorem Takes.seq (hp : p.Takes L) (hq : q.Takes M) :
    (Pattern.seq p q).Takes fun w => ∃ u v, w = u ++ v ∧ L u ∧ M v := by
  intro b w a
  rw [spans_seq_iff]
  constructor
  · rintro ⟨u, v, hw, hu, hv⟩
    exact ⟨u, v, hw, (hp _ _ _).mp hu, (hq _ _ _).mp hv⟩
  · rintro ⟨u, v, hw, hu, hv⟩
    exact ⟨u, v, hw, (hp _ _ _).mpr hu, (hq _ _ _).mpr hv⟩

theorem takes_many_one (s : CharClass) :
    (Pattern.many (.one s)).Takes fun w => ∀ c ∈ w, s.holds c = true := by
  intro b w a
  induction w generalizing b with
  | nil =>
      constructor
      · intro _ c hc
        exact nomatch hc
      · intro _
        exact .manyNil b a
  | cons c w ih =>
      rw [spans_many_cons_iff]
      constructor
      · rintro ⟨u, v, hw, hone, hmany⟩
        obtain ⟨d, hd, hcu⟩ := spans_one_iff.mp hone
        obtain ⟨hcd, hu⟩ := List.cons.inj hcu
        rw [hu] at hw hmany
        rw [← hcd] at hd
        rw [List.nil_append] at hw
        rw [← hw] at hmany
        exact List.forall_mem_cons.mpr ⟨hd, (ih (some c)).mp hmany⟩
      · intro h
        obtain ⟨hc, hw⟩ := List.forall_mem_cons.mp h
        exact ⟨[], w, rfl, .one b _ hc, (ih (some c)).mpr hw⟩

theorem takes_repeated_one (s : CharClass) :
    (repeated (.one s)).Takes fun w => w ≠ [] ∧ ∀ c ∈ w, s.holds c = true := by
  intro b w a
  rw [repeated, (takes_one s).seq (takes_many_one s)]
  constructor
  · rintro ⟨u, v, hw, ⟨c, hc, hu⟩, hv⟩
    rw [hw, hu]
    exact ⟨List.cons_ne_nil c v, List.forall_mem_cons.mpr ⟨hc, hv⟩⟩
  · rintro ⟨hne, hw⟩
    cases w with
    | nil => exact absurd rfl hne
    | cons c w =>
        obtain ⟨hc, hw⟩ := List.forall_mem_cons.mp hw
        exact ⟨[c], w, rfl, ⟨c, hc, rfl⟩, hw⟩

/-- The empty pattern behind the last item changes nothing. -/
theorem spans_inSequence_cons_iff {b : Option Char} {w a : List Char} :
    Spans (inSequence (p :: ps)) b w a ↔ Spans (.seq p (inSequence ps)) b w a := by
  cases ps with
  | cons q qs => exact Iff.rfl
  | nil =>
      rw [spans_seq_iff]
      constructor
      · intro h
        exact ⟨w, [], (List.append_nil w).symm, h, .empty _ a⟩
      · rintro ⟨u, v, hw, hu, hv⟩
        rw [spans_empty_iff.mp hv, List.append_nil] at hw
        rw [spans_empty_iff.mp hv] at hu
        rw [hw]
        exact hu

theorem Takes.cons (hp : p.Takes L) (hps : (inSequence ps).Takes M) :
    (inSequence (p :: ps)).Takes fun w => ∃ u v, w = u ++ v ∧ L u ∧ M v := by
  intro b w a
  rw [spans_inSequence_cons_iff]
  exact hp.seq hps b w a

theorem Takes.last (hp : p.Takes L) : (inSequence [p]).Takes L := hp

theorem takes_nil : (inSequence []).Takes (· = []) := fun _ _ _ => spans_empty_iff

/-- The items that take the characters of a word one by one. -/
def word (s : List Char) : List Pattern := s.map fun c => .one (.single c)

theorem Takes.word_append (s : List Char) (hps : (inSequence ps).Takes M) :
    (inSequence (word s ++ ps)).Takes fun w => ∃ v, w = s ++ v ∧ M v := by
  induction s with
  | nil =>
      intro b w a
      rw [show word [] ++ ps = ps from rfl, hps]
      constructor
      · exact fun h => ⟨w, rfl, h⟩
      · rintro ⟨v, hv, h⟩
        rw [hv]
        exact h
  | cons c s ih =>
      intro b w a
      show Spans (inSequence (.one (.single c) :: (word s ++ ps))) b w a ↔ _
      rw [(takes_single c).cons ih]
      constructor
      · rintro ⟨u, v, hw, hu, t, hv, ht⟩
        exact ⟨t, by rw [hw, hu, hv]; rfl, ht⟩
      · rintro ⟨t, hw, ht⟩
        exact ⟨[c], s ++ t, hw, rfl, t, rfl, ht⟩

theorem takes_word (s : List Char) : (inSequence (word s)).Takes (· = s) := by
  intro b w a
  rw [← List.append_nil (word s), takes_nil.word_append s]
  constructor
  · rintro ⟨v, hw, hv⟩
    rw [hw, hv, List.append_nil]
  · intro hw
    exact ⟨[], by rw [hw, List.append_nil], rfl⟩

end Pattern

end ContractScan
