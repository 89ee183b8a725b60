import ContractScan.Proofs.Pattern.Written
import ContractScan.Proofs.Rule.Sweep
import Mathlib.Order.WellFounded

/-! # Excerpts show the matches that stay on a line

    A rule is triggered by a match anywhere in the text, and its excerpt is made
    from the lines one by one.  For a line-bound pattern the two differ in one
    thing only: a match that crosses a line break gives no excerpt.  Where some
    match stays on a line, the excerpt is made around THE FIRST OF THEM
    (`firstLine?_of_firstLineMatch`). -/

namespace ContractScan

open ContractScan.Text

namespace Pattern

/-! ## The first match on a line -/

/-- A match on a line with none before it. -/
structure FirstLineMatch (p : Pattern) (text u v w : List Char) : Prop
    extends LineMatch p text u v w where
  first : ∀ u' v' w', p.LineMatch text u' v' w' → u.length ≤ u'.length

variable {p : Pattern} {text u v w : List Char}

theorem exists_firstLineMatch (h : ∃ u v w, p.LineMatch text u v w) :
    ∃ u v w, p.FirstLineMatch text u v w := by
  obtain ⟨u, v, w, hmatch⟩ := h
  -- among the places where a match begins there is a least one
  obtain ⟨n, ⟨u, v, w, hmatch, hn⟩, hleast⟩ := Nat.lt_wfRel.wf.has_min
    {n | ∃ u v w, p.LineMatch text u v w ∧ u.length = n} ⟨u.length, u, v, w, hmatch, rfl⟩
  refine ⟨u, v, w, hmatch, ?_⟩
  intro u' v' w' hmatch'
  rw [hn]
  exact Nat.le_of_not_lt (hleast u'.length ⟨u', v', w', hmatch', rfl⟩)

/-- The first match stands on the first line that has one. -/
theorem FirstLineMatch.count_le (h : p.FirstLineMatch text u v w) {u' v' w' : List Char}
    (h' : p.LineMatch text u' v' w') : u.count '\n' ≤ u'.count '\n' := by
  have hu : u <+: text := ⟨v ++ w, h.cut.symm⟩
  have hu' : u' <+: text := ⟨v' ++ w', h'.cut.symm⟩
  have hprefix : u <+: u' := List.prefix_of_prefix_length_le hu hu' (h.first u' v' w' h')
  exact hprefix.sublist.count_le '\n'

/-- **THE LINE THAT IS CHOSEN** is that of the first match on a line. -/
theorem firstLine?_of_firstLineMatch (hp : p.isLineBound = true)
    (h : p.FirstLineMatch text u v w) : p.firstLine? (lines text) = some (u.count '\n') := by
  obtain ⟨l, hl, hoccurs⟩ := h.toLineMatch.occursIn_line hp
  obtain ⟨hlt, hget⟩ := List.getElem?_eq_some_iff.mp hl
  refine List.findIdx?_eq_some_iff_getElem.mpr ⟨hlt, hget ▸ hoccurs, ?_⟩
  intro j hj hoccurs'
  have hl' : (lines text)[j]? = some (lines text)[j] := List.getElem?_eq_getElem _
  obtain ⟨u', v', w', hmatch, hcount⟩ := LineMatch.of_line hp hl' hoccurs'
  have hle := h.count_le hmatch
  omega

/-- No line is chosen exactly when no match stays on a line. -/
theorem firstLine?_eq_none_iff (hp : p.isLineBound = true) :
    p.firstLine? (lines text) = none ↔ ¬ ∃ u v w, p.LineMatch text u v w := by
  constructor
  · rintro hnone ⟨u, v, w, hmatch⟩
    obtain ⟨l, hl, hoccurs⟩ := hmatch.occursIn_line hp
    have hno := List.findIdx?_eq_none_iff.mp hnone l (List.mem_of_getElem? hl)
    rw [hoccurs] at hno
    exact nomatch hno
  · intro hno
    refine List.findIdx?_eq_none_iff.mpr ?_
    intro l hmem
    obtain ⟨k, hk⟩ := List.mem_iff_getElem?.mp hmem
    rw [Bool.eq_false_iff]
    intro hoccurs
    obtain ⟨u, v, w, hmatch, _⟩ := LineMatch.of_line hp hk hoccurs
    exact hno ⟨u, v, w, hmatch⟩

/-! ## The excerpt -/

/-- The excerpt of a text around the line with the index. -/
def excerptAround (content : List Char) (c : Int) (k : Nat) : String :=
  String.ofList (excerptOf (lines content) (window c (lines content).length k))

theorem excerpt?_of_firstLineMatch (hp : p.isLineBound = true)
    (h : p.FirstLineMatch text u v w) (c : Int) :
    p.excerpt? c text = some (excerptAround text c (u.count '\n')) := by
  rw [excerpt?, firstLine?_of_firstLineMatch hp h]
  rfl

theorem excerpt?_isSome_iff (hp : p.isLineBound = true) (c : Int) :
    (p.excerpt? c text).isSome = true ↔ ∃ u v w, p.LineMatch text u v w := by
  rw [excerpt?, Option.isSome_map, ← Option.ne_none_iff_isSome, Ne, firstLine?_eq_none_iff hp,
    not_not]

theorem excerpt?_eq_some_iff (hp : p.isLineBound = true) (c : Int) {shown : String} :
    p.excerpt? c text = some shown ↔
      ∃ u v w, p.FirstLineMatch text u v w ∧ shown = excerptAround text c (u.count '\n') := by
  constructor
  · intro h
    have hsome : (p.excerpt? c text).isSome = true := by rw [h]; rfl
    obtain ⟨u, v, w, hfirst⟩ := exists_firstLineMatch ((excerpt?_isSome_iff hp c).mp hsome)
    rw [excerpt?_of_firstLineMatch hp hfirst] at h
    exact ⟨u, v, w, hfirst, (Option.some.inj h).symm⟩
  · rintro ⟨u, v, w, hfirst, hshown⟩
    rw [excerpt?_of_firstLineMatch hp hfirst, hshown]

/-- There is no excerpt exactly when every match crosses a line break. -/
theorem excerpt?_eq_none_iff (hp : p.isLineBound = true) (c : Int) :
    p.excerpt? c text = none ↔ ∀ u v w, p.MatchIn text u v w → '\n' ∈ v := by
  rw [excerpt?, Option.map_eq_none_iff, firstLine?_eq_none_iff hp]
  constructor
  · intro h u v w hmatch
    by_contra hwhole
    exact h ⟨u, v, w, hmatch, hwhole⟩
  · rintro h ⟨u, v, w, hmatch⟩
    exact hmatch.whole (h u v w hmatch.toMatchIn)

/-! ## Patterns that take no line feed -/

/-- Whether some class of the pattern holds the character. -/
def mayTake (c : Char) : Pattern → Bool
  | .empty => false
  | .one s => s.holds c
  | .edge _ => false
  | .seq p q => mayTake c p || mayTake c q
  | .alt p q => mayTake c p || mayTake c q
  | .many p => mayTake c p

theorem not_mem_of_spans {c : Char} {b : Option Char} {a : List Char} (h : Spans p b w a)
    (hc : p.mayTake c = false) : c ∉ w := by
  induction h with
  | @one s d _ _ hd =>
      intro hmem
      have hno : s.holds c = false := hc
      rw [List.mem_singleton.mp hmem, hd] at hno
      exact nomatch hno
  | seq _ _ ihp ihq =>
      obtain ⟨hcp, hcq⟩ := Bool.or_eq_false_iff.mp hc
      exact fun hmem => (List.mem_append.mp hmem).elim (ihp hcp) (ihq hcq)
  | altLeft _ ih => exact ih (Bool.or_eq_false_iff.mp hc).1
  | altRight _ ih => exact ih (Bool.or_eq_false_iff.mp hc).2
  | manyCons _ _ ihp ihq => exact fun hmem => (List.mem_append.mp hmem).elim (ihp hc) (ihq hc)
  | _ => exact List.not_mem_nil

end Pattern

/-! ## Rules and their excerpts -/

namespace Rule

/-- The built-in rules whose patterns are made of words alone. -/
def wordRules : List Rule :=
  [txOrigin, selfDestruct, delegateCall, weakRandomness, blockTimestamp]

theorem exists_pattern_of_mem_wordRules {r : Rule} (hr : r ∈ wordRules) :
    ∃ p, Pattern.compile r.pattern r.flags = .ok p ∧ p.isLineBound = true ∧
      p.mayTake '\n' = false := by
  have hall : ∀ r ∈ wordRules, (Pattern.read (.ofBits r.flags) r.pattern.toList).any
      (fun p => p.isLineBound && !p.mayTake '\n') = true := by
    decide +kernel
  obtain ⟨p, hp, hboth⟩ := (Option.any_eq_true _ _).mp (hall r hr)
  obtain ⟨hbound, hnewline⟩ := Bool.and_eq_true_iff.mp hboth
  rw [Bool.not_eq_true'] at hnewline
  exact ⟨p, Pattern.compile_eq_ok_iff.mpr hp, hbound, hnewline⟩

theorem excerpt_of_compile {r : Rule} {p : Pattern}
    (hp : Pattern.compile r.pattern r.flags = .ok p) (content : List Char) (c : Int) :
    excerpt content r.pattern c r.flags = .ok (p.excerpt? c content) := by
  rw [excerpt, hp]
  rfl

/-- Where the matches take no line feed, a rule that fires shows one of them. -/
theorem exists_excerpt_of_fires {r : Rule} {p : Pattern}
    (hp : Pattern.compile r.pattern r.flags = .ok p) (hbound : p.isLineBound = true)
    (hnewline : p.mayTake '\n' = false) {content : List Char} (h : r.fires content = .ok true)
    (c : Int) : ∃ text, excerpt content r.pattern c r.flags = .ok (some text) := by
  obtain ⟨htrigger, _⟩ := fires_eq_true_iff.mp h
  rw [triggers_of_compile hp] at htrigger
  obtain ⟨u, v, w, hmatch⟩ := Pattern.occursIn_iff_matchIn.mp (Except.ok.inj htrigger)
  have hline : p.LineMatch content u v w :=
    ⟨hmatch, Pattern.not_mem_of_spans hmatch.spans hnewline⟩
  have hsome := (Pattern.excerpt?_isSome_iff hbound c).mpr ⟨u, v, w, hline⟩
  obtain ⟨text, htext⟩ := Option.isSome_iff_exists.mp hsome
  exact ⟨text, by rw [excerpt_of_compile hp, htext]⟩

end Rule

end ContractScan
