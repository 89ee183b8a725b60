import ContractScan.Pattern.Search

/-!
# What the search finds -- residues against spans

The search is right because its two parts are: `matchesEmpty` holds exactly where the empty stretch is
spanned (`matchesEmpty_iff`), and a stretch that begins with `c` is spanned exactly when a residue of `c`
spans what follows (`spans_cons_iff`). By induction over the text, `occursIn` holds exactly when some
stretch of the text is spanned where it stands (`occursIn_iff_spans`).
-/

namespace ContractScan.Pattern

/-- The last character of two stretches in a row. -/
theorem lastOf_append (b : Option Char) (v w : List Char) :
    lastOf b (v ++ w) = lastOf (lastOf b v) w := by
  induction v generalizing b with
  | nil => rfl
  | cons c v ih => exact ih (some c)

/-! ## Spans, constructor by constructor -/

/-- The empty pattern spans the empty stretch alone. -/
theorem spans_empty_iff {b : Option Char} {w a : List Char} : Spans .empty b w a ↔ w = [] := by
  constructor
  · intro h
    cases h
    rfl
  · intro h
    rw [h]
    exact .empty b a

/-- A class spans one character of it. -/
theorem spans_one_iff {s : CharClass} {b : Option Char} {w a : List Char} :
    Spans (.one s) b w a ↔ ∃ c, s.holds c = true ∧ w = [c] := by
  constructor
  · intro h
    cases h with
    | one _ _ hc => exact ⟨_, hc, rfl⟩
  · intro h
    obtain ⟨c, hc, hw⟩ := h
    rw [hw]
    exact .one b a hc

/-- An edge spans the empty stretch where it holds. -/
theorem spans_edge_iff {e : Edge} {b : Option Char} {w a : List Char} :
    Spans (.edge e) b w a ↔ w = [] ∧ e.holds b a = true := by
  constructor
  · intro h
    cases h with
    | edge he => exact ⟨rfl, he⟩
  · intro h
    obtain ⟨hw, he⟩ := h
    rw [hw]
    exact .edge he

/-- A sequence spans a stretch that can be cut in two. -/
theorem spans_seq_iff {p q : Pattern} {b : Option Char} {w a : List Char} :
    Spans (.seq p q) b w a ↔
      ∃ u v, w = u ++ v ∧ Spans p b u (v ++ a) ∧ Spans q (lastOf b u) v a := by
  constructor
  · intro h
    cases h with
    | seq hp hq => exact ⟨_, _, rfl, hp, hq⟩
  · intro h
    obtain ⟨u, v, hw, hp, hq⟩ := h
    rw [hw]
    exact .seq hp hq

/-- A choice spans what one of its sides does. -/
theorem spans_alt_iff {p q : Pattern} {b : Option Char} {w a : List Char} :
    Spans (.alt p q) b w a ↔ Spans p b w a ∨ Spans q b w a := by
  constructor
  · intro h
    cases h with
    | altLeft hp => exact Or.inl hp
    | altRight hq => exact Or.inr hq
  · intro h
    exact h.elim .altLeft .altRight

/-- The first turn of a repetition that takes anything. Turns that take nothing are passed over. -/
theorem many_split {r : Pattern} {b : Option Char} {s a : List Char} (h : Spans r b s a) :
    ∀ p c w, r = .many p → s = c :: w →
      ∃ u v, w = u ++ v ∧ Spans p b (c :: u) (v ++ a) ∧ Spans (.many p) (lastOf (some c) u) v a := by
  induction h with
  | manyNil => intro p c w _ hs; cases hs
  | @manyCons p' b v w' a hp hm _ ih =>
    intro p c w hr hs
    cases hr
    cases v with
    | nil => exact ih p' c w rfl hs
    | cons d v =>
      cases hs
      exact ⟨v, w', rfl, hp, hm⟩
  | _ => intro p c w hr; cases hr

/-- A repetition spans a stretch that is not empty by a turn that takes its first character. -/
theorem spans_many_cons_iff {p : Pattern} {b : Option Char} {c : Char} {w a : List Char} :
    Spans (.many p) b (c :: w) a ↔
      ∃ u v, w = u ++ v ∧ Spans p b (c :: u) (v ++ a) ∧ Spans (.many p) (lastOf (some c) u) v a := by
  constructor
  · intro h
    exact many_split h p c w rfl rfl
  · intro h
    obtain ⟨u, v, hw, hp, hm⟩ := h
    rw [hw]
    exact .manyCons (v := c :: u) hp hm

/-- Leaving an empty pattern out of a sequence changes nothing. -/
theorem spans_andThen_iff {p q : Pattern} {b : Option Char} {w a : List Char} :
    Spans (andThen p q) b w a ↔ Spans (.seq p q) b w a := by
  by_cases h : p = .empty
  · rw [andThen, if_pos h, h, spans_seq_iff]
    constructor
    · intro hq
      exact ⟨[], w, rfl, .empty b _, hq⟩
    · intro hs
      obtain ⟨u, v, hw, hu, hq⟩ := hs
      rw [spans_empty_iff] at hu
      rw [hu] at hw hq
      rw [hw]
      exact hq
  · rw [andThen, if_neg h]

/-! ## The two parts of the search -/

/-- `matchesEmpty` holds exactly where the empty stretch is spanned. -/
theorem matchesEmpty_iff {p : Pattern} {b : Option Char} {a : List Char} :
    matchesEmpty b a p = true ↔ Spans p b [] a := by
  induction p generalizing b a with
  | empty => simp [matchesEmpty, spans_empty_iff]
  | one s => simp [matchesEmpty, spans_one_iff]
  | edge e => simp [matchesEmpty, spans_edge_iff]
  | seq p q ihp ihq =>
    rw [matchesEmpty, Bool.and_eq_true, ihp, ihq, spans_seq_iff]
    constructor
    · intro h
      exact ⟨[], [], rfl, h.1, h.2⟩
    · intro h
      obtain ⟨u, v, hw, hp, hq⟩ := h
      obtain ⟨hu, hv⟩ := List.append_eq_nil_iff.mp hw.symm
      rw [hu, hv] at hp hq
      exact ⟨hp, hq⟩
  | alt p q ihp ihq => rw [matchesEmpty, Bool.or_eq_true, ihp, ihq, spans_alt_iff]
  | many p => simp [matchesEmpty, Spans.manyNil]

/-- A stretch that begins with `c` is spanned exactly when a residue of `c` spans what follows. -/
theorem spans_cons_iff {p : Pattern} {b : Option Char} {c : Char} {w a : List Char} :
    Spans p b (c :: w) a ↔ ∃ q ∈ residues b c (w ++ a) p, Spans q (some c) w a := by
  induction p generalizing b c w a with
  | empty => simp [residues, spans_empty_iff]
  | one s =>
    rw [spans_one_iff, residues]
    by_cases hc : s.holds c = true
    · rw [if_pos hc]
      constructor
      · intro h
        obtain ⟨d, _, hd⟩ := h
        obtain ⟨_, hw⟩ := List.cons.inj hd
        exact ⟨.empty, List.mem_singleton.mpr rfl, spans_empty_iff.mpr hw⟩
      · intro h
        obtain ⟨q, hq, hs⟩ := h
        rw [List.mem_singleton.mp hq, spans_empty_iff] at hs
        exact ⟨c, hc, by rw [hs]⟩
    · rw [if_neg hc]
      constructor
      · intro h
        obtain ⟨d, hd, hw⟩ := h
        obtain ⟨hcd, _⟩ := List.cons.inj hw
        exact absurd (hcd ▸ hd) hc
      · intro h
        obtain ⟨q, hq, _⟩ := h
        cases hq
  | edge e => simp [residues, spans_edge_iff]
  | seq p q ihp ihq =>
    rw [spans_seq_iff, residues]
    constructor
    · intro h
      obtain ⟨u, v, hw, hp, hq⟩ := h
      cases u with
      | nil =>
        have hv : v = c :: w := hw.symm
        rw [hv] at hp hq
        obtain ⟨r, hr, hs⟩ := ihq.mp hq
        have he : matchesEmpty b (c :: (w ++ a)) p = true := matchesEmpty_iff.mpr hp
        refine ⟨r, List.mem_append_right _ ?_, hs⟩
        rw [if_pos he]
        exact hr
      | cons d u =>
        obtain ⟨hd, hcut⟩ := List.cons.inj hw
        have hw' : w = u ++ v := hcut
        subst hd hw'
        obtain ⟨r, hr, hs⟩ := ihp.mp hp
        refine ⟨andThen r q, List.mem_append_left _ (List.mem_map.mpr ⟨r, ?_, rfl⟩), ?_⟩
        · rw [List.append_assoc]
          exact hr
        · exact spans_andThen_iff.mpr (.seq hs hq)
    · intro h
      obtain ⟨t, ht, hs⟩ := h
      cases List.mem_append.mp ht with
      | inl hm =>
        obtain ⟨r, hr, hrt⟩ := List.mem_map.mp hm
        rw [← hrt, spans_andThen_iff, spans_seq_iff] at hs
        obtain ⟨u, v, hw, hu, hv⟩ := hs
        subst hw
        rw [List.append_assoc] at hr
        exact ⟨c :: u, v, rfl, ihp.mpr ⟨r, hr, hu⟩, hv⟩
      | inr hm =>
        by_cases he : matchesEmpty b (c :: (w ++ a)) p = true
        · rw [if_pos he] at hm
          exact ⟨[], c :: w, rfl, matchesEmpty_iff.mp he, ihq.mpr ⟨t, hm, hs⟩⟩
        · rw [if_neg he] at hm
          cases hm
  | alt p q ihp ihq =>
    rw [spans_alt_iff, residues, ihp, ihq]
    constructor
    · intro h
      cases h with
      | inl h =>
        obtain ⟨r, hr, hs⟩ := h
        exact ⟨r, List.mem_append_left _ hr, hs⟩
      | inr h =>
        obtain ⟨r, hr, hs⟩ := h
        exact ⟨r, List.mem_append_right _ hr, hs⟩
    · intro h
      obtain ⟨r, hr, hs⟩ := h
      cases List.mem_append.mp hr with
      | inl hr => exact Or.inl ⟨r, hr, hs⟩
      | inr hr => exact Or.inr ⟨r, hr, hs⟩
  | many p ih =>
    rw [spans_many_cons_iff, residues]
    constructor
    · intro h
      obtain ⟨u, v, hw, hp, hm⟩ := h
      subst hw
      obtain ⟨r, hr, hs⟩ := ih.mp hp
      refine ⟨andThen r (.many p), List.mem_map.mpr ⟨r, ?_, rfl⟩, ?_⟩
      · rw [List.append_assoc]
        exact hr
      · exact spans_andThen_iff.mpr (.seq hs hm)
    · intro h
      obtain ⟨t, ht, hs⟩ := h
      obtain ⟨r, hr, hrt⟩ := List.mem_map.mp ht
      rw [← hrt, spans_andThen_iff, spans_seq_iff] at hs
      obtain ⟨u, v, hw, hu, hv⟩ := hs
      subst hw
      rw [List.append_assoc] at hr
      exact ⟨u, v, rfl, ih.mpr ⟨r, hr, hu⟩, hv⟩

/-! ## The search -/

/-- A match begun at the first place of the rest or before. -/
def LiveMatch (live : List Pattern) (b : Option Char) (rest : List Char) : Prop :=
  ∃ q ∈ live, ∃ v w, rest = v ++ w ∧ Spans q b v w

/-- A live match either takes nothing or is one of a residue. -/
theorem liveMatch_cons_iff {live : List Pattern} {b : Option Char} {c : Char} {cs : List Char} :
    LiveMatch live b (c :: cs) ↔
      live.any (matchesEmpty b (c :: cs)) = true ∨
        LiveMatch (live.flatMap (residues b c cs)) (some c) cs := by
  constructor
  · intro h
    obtain ⟨q, hq, v, w, hvw, hs⟩ := h
    cases v with
    | nil =>
      have hw : w = c :: cs := hvw.symm
      rw [hw] at hs
      exact Or.inl (List.any_eq_true.mpr ⟨q, hq, matchesEmpty_iff.mpr hs⟩)
    | cons d v =>
      obtain ⟨hd, hcs⟩ := List.cons.inj hvw
      subst hd hcs
      obtain ⟨r, hr, hrs⟩ := spans_cons_iff.mp hs
      exact Or.inr ⟨r, List.mem_flatMap.mpr ⟨q, hq, hr⟩, v, w, rfl, hrs⟩
  · intro h
    cases h with
    | inl h =>
      obtain ⟨q, hq, he⟩ := List.any_eq_true.mp h
      exact ⟨q, hq, [], c :: cs, rfl, matchesEmpty_iff.mp he⟩
    | inr h =>
      obtain ⟨r, hr, v, w, hvw, hs⟩ := h
      obtain ⟨q, hq, hrq⟩ := List.mem_flatMap.mp hr
      subst hvw
      exact ⟨q, hq, c :: v, w, rfl, spans_cons_iff.mpr ⟨r, hrq, hs⟩⟩

/-- At the end of the text a live match takes nothing. -/
theorem liveMatch_nil_iff {live : List Pattern} {b : Option Char} :
    LiveMatch live b [] ↔ live.any (matchesEmpty b []) = true := by
  constructor
  · intro h
    obtain ⟨q, hq, v, w, hvw, hs⟩ := h
    obtain ⟨hv, hw⟩ := List.append_eq_nil_iff.mp hvw.symm
    rw [hv, hw] at hs
    exact List.any_eq_true.mpr ⟨q, hq, matchesEmpty_iff.mpr hs⟩
  · intro h
    obtain ⟨q, hq, he⟩ := List.any_eq_true.mp h
    exact ⟨q, hq, [], [], rfl, matchesEmpty_iff.mp he⟩

/-- Live matches are told by the members alone. -/
theorem LiveMatch.congr {l m : List Pattern} {b : Option Char} {rest : List Char}
    (h : ∀ q, q ∈ l ↔ q ∈ m) : LiveMatch l b rest ↔ LiveMatch m b rest := by
  constructor
  · intro hl
    obtain ⟨q, hq, hs⟩ := hl
    exact ⟨q, (h q).mp hq, hs⟩
  · intro hm
    obtain ⟨q, hq, hs⟩ := hm
    exact ⟨q, (h q).mpr hq, hs⟩

/-- The search from a place on: a live match, or a match of `p` begun here or later. -/
theorem found_iff {p : Pattern} {live : List Pattern} {b : Option Char} {rest : List Char} :
    found p live b rest = true ↔
      LiveMatch live b rest ∨
        ∃ u v w, rest = u ++ (v ++ w) ∧ Spans p (lastOf b u) v w := by
  induction rest generalizing live b with
  | nil =>
    rw [found, liveMatch_nil_iff]
    simp only [Bool.or_false, Bool.or_eq_true]
    constructor
    · intro h
      cases h with
      | inl h => exact Or.inr ⟨[], [], [], rfl, matchesEmpty_iff.mp h⟩
      | inr h => exact Or.inl h
    · intro h
      cases h with
      | inl h => exact Or.inr h
      | inr h =>
        obtain ⟨u, v, w, hr, hs⟩ := h
        obtain ⟨hu, hvw⟩ := List.append_eq_nil_iff.mp hr.symm
        obtain ⟨hv, hw⟩ := List.append_eq_nil_iff.mp hvw
        rw [hu, hv, hw] at hs
        exact Or.inl (matchesEmpty_iff.mpr hs)
  | cons c cs ih =>
    have hmem : LiveMatch ((p :: live).flatMap (residues b c cs)).eraseDups (some c) cs ↔
        LiveMatch ((p :: live).flatMap (residues b c cs)) (some c) cs :=
      LiveMatch.congr fun q => List.mem_eraseDups
    have hall : LiveMatch (p :: live) b (c :: cs) ↔
        (matchesEmpty b (c :: cs) p = true ∨ live.any (matchesEmpty b (c :: cs)) = true) ∨
          LiveMatch ((p :: live).flatMap (residues b c cs)) (some c) cs := by
      rw [liveMatch_cons_iff, List.any_cons, Bool.or_eq_true]
    rw [found]
    simp only [Bool.or_eq_true]
    rw [ih, hmem, ← or_assoc, ← hall]
    constructor
    · intro h
      cases h with
      | inl h =>
        obtain ⟨q, hq, v, w, hvw, hs⟩ := h
        cases List.mem_cons.mp hq with
        | inl hqp =>
          rw [hqp] at hs
          exact Or.inr ⟨[], v, w, hvw, hs⟩
        | inr hql => exact Or.inl ⟨q, hql, v, w, hvw, hs⟩
      | inr h =>
        obtain ⟨u, v, w, hr, hs⟩ := h
        exact Or.inr ⟨c :: u, v, w, by rw [hr]; rfl, hs⟩
    · intro h
      cases h with
      | inl h =>
        obtain ⟨q, hq, hs⟩ := h
        exact Or.inl ⟨q, List.mem_cons_of_mem p hq, hs⟩
      | inr h =>
        obtain ⟨u, v, w, hr, hs⟩ := h
        cases u with
        | nil => exact Or.inl ⟨p, List.mem_cons_self, v, w, hr, hs⟩
        | cons d u =>
          obtain ⟨hd, hcs⟩ := List.cons.inj hr
          subst hd
          exact Or.inr ⟨u, v, w, hcs, hs⟩

/-- A pattern occurs in a text exactly when it spans some stretch of it where that stands. -/
theorem occursIn_iff_spans {p : Pattern} {text : List Char} :
    occursIn p text = true ↔
      ∃ u v w, text = u ++ (v ++ w) ∧ Spans p (lastOf none u) v w := by
  rw [occursIn, found_iff]
  constructor
  · intro h
    cases h with
    | inl h =>
      obtain ⟨q, hq, _⟩ := h
      cases hq
    | inr h => exact h
  · intro h
    exact Or.inr h

end ContractScan.Pattern
