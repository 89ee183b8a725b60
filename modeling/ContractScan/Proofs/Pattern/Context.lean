import ContractScan.Pattern.Lemmas
import ContractScan.Proofs.Text.Lines

/-! # What a match sees of the text around it

    Classes look at the stretch itself, and only edges look at its neighbours.
    So a match can be moved to other surroundings as soon as its edges can:
    `Spans.transfer` is the one induction over matches, for any two relations
    between what stands before and what stands after.

    A pattern is LINE-BOUND when its edges are those that a line feed settles as
    the end of the text does.  A match of such a pattern that takes no line feed
    is a match of its line (`LineMatch.occursIn_line`), and every match of a line
    is one of the text (`LineMatch.of_line`). -/

namespace ContractScan

open ContractScan.Text

namespace Pattern

/-- The edges that a pattern asks for. -/
def edges : Pattern → List Edge
  | .empty => []
  | .one _ => []
  | .edge e => [e]
  | .seq p q => edges p ++ edges q
  | .alt p q => edges p ++ edges q
  | .many p => edges p

/-! ## Moving a match -/

section Transfer

variable {B : Option Char → Option Char → Prop} {A : List Char → List Char → Prop}

theorem lastOf_transfer (hB : ∀ b, B b b) {b b' : Option Char} (hb : B b b') (v : List Char) :
    B (lastOf b v) (lastOf b' v) := by
  cases v with
  | nil => exact hb
  | cons c v => exact hB (lastOf (some c) v)

theorem append_transfer (hA : ∀ c a a', A a a' → A (c :: a) (c :: a')) {a a' : List Char}
    (ha : A a a') (v : List Char) : A (v ++ a) (v ++ a') := by
  induction v with
  | nil => exact ha
  | cons c v ih => exact hA c (v ++ a) (v ++ a') ih

/-- **ONLY EDGES SEE THE NEIGHBOURS**: a match goes over to surroundings that are
    related to its own, provided that every edge of the pattern does. -/
theorem Spans.transfer (hB : ∀ b, B b b) (hA : ∀ c a a', A a a' → A (c :: a) (c :: a'))
    {p : Pattern} {b b' : Option Char} {w a a' : List Char} (h : Spans p b w a)
    (hedges : ∀ e ∈ p.edges, ∀ b b' a a', B b b' → A a a' → e.holds b a = true →
      e.holds b' a' = true)
    (hb : B b b') (ha : A a a') : Spans p b' w a' := by
  induction h generalizing b' a' with
  | empty => exact .empty b' a'
  | one _ _ hc => exact .one b' a' hc
  | edge he => exact .edge (hedges _ (List.mem_singleton_self _) _ _ _ _ hb ha he)
  | seq _ _ ihp ihq =>
      refine .seq (ihp ?_ hb (append_transfer hA ha _)) (ihq ?_ (lastOf_transfer hB hb _) ha)
      · exact fun e he => hedges e (List.mem_append_left _ he)
      · exact fun e he => hedges e (List.mem_append_right _ he)
  | altLeft _ ih =>
      exact .altLeft (ih (fun e he => hedges e (List.mem_append_left _ he)) hb ha)
  | altRight _ ih =>
      exact .altRight (ih (fun e he => hedges e (List.mem_append_right _ he)) hb ha)
  | manyNil => exact .manyNil b' a'
  | manyCons _ _ ihp ihq =>
      exact .manyCons (ihp hedges hb (append_transfer hA ha _))
        (ihq hedges (lastOf_transfer hB hb _) ha)

end Transfer

end Pattern

/-! ## Places on a line -/

/-- What stands before a place on its line: nothing at its beginning. -/
def lineBefore (b : Option Char) : Option Char := b.filter (· != '\n')

/-- The kinds of edges that a line feed settles as the end of the text does. -/
def Edge.isLineBound : Edge → Bool
  | .lineStart => true
  | .lineEnd => true
  | .wordEdge => true
  | _ => false

section Neighbours

variable (g : Option Char → Bool)

/-- A question that a line feed answers as the beginning of the text does. -/
theorem apply_lineBefore (hg : g none = g (some '\n')) (b : Option Char) :
    g (lineBefore b) = g b := by
  cases b with
  | none => rfl
  | some c =>
      by_cases hc : c = '\n'
      · rw [hc]
        exact hg
      · rw [lineBefore, Option.filter_some, if_pos (bne_iff_ne.mpr hc)]

/-- A question that a line feed answers as the end of the text does. -/
theorem apply_head?_firstLine (hg : g none = g (some '\n')) (a : List Char) :
    g (firstLine a).head? = g a.head? := by
  cases a with
  | nil => rfl
  | cons c a =>
      by_cases hc : c = '\n'
      · rw [hc]
        exact hg
      · rw [firstLine_cons hc]
        rfl

end Neighbours

/-- A line-bound edge is told by the line alone. -/
theorem Edge.holds_line {e : Edge} (he : e.isLineBound = true) (b : Option Char) (a : List Char) :
    e.holds (lineBefore b) (firstLine a) = e.holds b a := by
  cases e with
  | lineStart => exact apply_lineBefore (·.all (· == '\n')) rfl b
  | lineEnd => exact apply_head?_firstLine (·.all (· == '\n')) rfl a
  | wordEdge =>
      have hbefore := apply_lineBefore (·.any isWordChar) rfl b
      have hafter := apply_head?_firstLine (·.any isWordChar) rfl a
      simp only [Edge.holds, hbefore, hafter]
  | _ => exact nomatch he

namespace Pattern

/-- Whether all edges of the pattern are line-bound. -/
def isLineBound (p : Pattern) : Bool := p.edges.all Edge.isLineBound

/-- Matches of a line-bound pattern are told by the line alone. -/
theorem spans_congr_line {p : Pattern} (hp : p.isLineBound = true) {b b' : Option Char}
    {w a a' : List Char} (hb : lineBefore b = lineBefore b') (ha : firstLine a = firstLine a')
    (h : Spans p b w a) : Spans p b' w a' := by
  refine h.transfer (B := fun b b' => lineBefore b = lineBefore b')
    (A := fun a a' => firstLine a = firstLine a') (fun _ => rfl) ?_ ?_ hb ha
  · intro c a a' ha
    by_cases hc : c = '\n'
    · rw [hc]
      rfl
    · rw [firstLine_cons hc, firstLine_cons hc, ha]
  · intro e he b b' a a' hb ha hholds
    have hbound : e.isLineBound = true := List.all_eq_true.mp hp e he
    rw [← Edge.holds_line hbound, hb, ha, Edge.holds_line hbound] at hholds
    exact hholds

theorem lineBefore_lastOf_lastLine (u : List Char) :
    lineBefore (lastOf none (lastLine u)) = lineBefore (lastOf none u) := by
  induction u with
  | nil => rfl
  | cons c u ih =>
      by_cases h : c = '\n' ∨ '\n' ∈ u
      · rw [lastLine, if_pos h, ih]
        cases u with
        | nil =>
            rcases h with hc | hmem
            · rw [hc]
              rfl
            · cases hmem
        | cons d u => rfl
      · rw [lastLine, if_neg h]

/-- The pattern matches the stretch `v` of a text, between `u` and `w`. -/
structure MatchIn (p : Pattern) (text u v w : List Char) : Prop where
  cut : text = u ++ (v ++ w)
  spans : Spans p (lastOf none u) v w

/-- A match that lies on one line. -/
structure LineMatch (p : Pattern) (text u v w : List Char) : Prop extends MatchIn p text u v w where
  whole : '\n' ∉ v

theorem occursIn_iff_matchIn {p : Pattern} {text : List Char} :
    p.occursIn text = true ↔ ∃ u v w, p.MatchIn text u v w := by
  rw [occursIn_iff_spans]
  constructor
  · rintro ⟨u, v, w, hcut, hspans⟩
    exact ⟨u, v, w, hcut, hspans⟩
  · rintro ⟨u, v, w, hmatch⟩
    exact ⟨u, v, w, hmatch.cut, hmatch.spans⟩

/-- A match of a line is a match of the text. -/
theorem LineMatch.of_line {p : Pattern} (hp : p.isLineBound = true) {text l : List Char} {k : Nat}
    (hl : (lines text)[k]? = some l) (hoccurs : p.occursIn l = true) :
    ∃ u v w, p.LineMatch text u v w ∧ u.count '\n' = k := by
  obtain ⟨u, rest, hline, hcount⟩ := exists_lineCut hl
  obtain ⟨x, v, z, hcut, hspans⟩ := occursIn_iff_matchIn.mp hoccurs
  obtain ⟨hx, hvz⟩ := not_or.mp (mt List.mem_append.mpr (hcut ▸ hline.whole))
  obtain ⟨hv, hz⟩ := not_or.mp (mt List.mem_append.mpr hvz)
  have hbefore : lineBefore (lastOf none x) = lineBefore (lastOf none (u ++ x)) := by
    rw [lastOf_append]
    refine lastOf_transfer (B := fun b b' => lineBefore b = lineBefore b') (fun _ => rfl) ?_ x
    rw [← lineBefore_lastOf_lastLine, hline.begins]
    rfl
  have hafter : firstLine z = firstLine (z ++ rest) := by
    rw [firstLine_append hz, hline.ends, List.append_nil, firstLine_of_not_mem hz]
  refine ⟨u ++ x, v, z ++ rest, ⟨⟨?_, spans_congr_line hp hbefore hafter hspans⟩, hv⟩, ?_⟩
  · rw [hline.cut, hcut]
    simp only [List.append_assoc]
  · rw [List.count_append, hcount, List.count_eq_zero_of_not_mem hx, Nat.add_zero]

/-- A match that takes no line feed is a part of its line. -/
theorem LineMatch.getElem?_lines {p : Pattern} {text u v w : List Char}
    (h : p.LineMatch text u v w) :
    (lines text)[u.count '\n']? = some (lastLine u ++ (v ++ firstLine w)) := by
  rw [h.cut, getElem?_lines_append, firstLine_append h.whole]

/-- A match of the text that lies on one line is a match of that line. -/
theorem LineMatch.occursIn_line {p : Pattern} (hp : p.isLineBound = true) {text u v w : List Char}
    (h : p.LineMatch text u v w) :
    ∃ l, (lines text)[u.count '\n']? = some l ∧ p.occursIn l = true := by
  refine ⟨_, h.getElem?_lines, occursIn_iff_matchIn.mpr ⟨lastLine u, v, firstLine w, rfl, ?_⟩⟩
  exact spans_congr_line hp (lineBefore_lastOf_lastLine u).symm List.takeWhile_idem.symm h.spans

end Pattern

end ContractScan
