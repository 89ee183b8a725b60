import ContractScan.Proofs.Pattern.Context
import ContractScan.Rule.Basic

/-! # Edges of written patterns

    A pattern asks for the edges that its text writes and for no others: the
    groups that are open while it is read only ever hold edges of the units read
    so far (`onlyEdges_of_assemble`).  So it can be told from the text whether a
    pattern is line-bound. -/

namespace ContractScan.Pattern

/-! ## Edges of the parts and of the whole -/

theorem edges_inSequence {ps : List Pattern} {e : Edge} (h : e ∈ (inSequence ps).edges) :
    ∃ q ∈ ps, e ∈ q.edges := by
  induction ps with
  | nil => exact nomatch h
  | cons p ps ih =>
      cases ps with
      | nil => exact ⟨p, List.mem_cons_self .., h⟩
      | cons q qs =>
          rcases List.mem_append.mp h with hp | hrest
          · exact ⟨p, List.mem_cons_self .., hp⟩
          · obtain ⟨r, hr, he⟩ := ih hrest
            exact ⟨r, List.mem_cons_of_mem p hr, he⟩

theorem edges_anyOf {p : Pattern} {ps : List Pattern} {e : Edge} (h : e ∈ (anyOf p ps).edges) :
    ∃ q ∈ p :: ps, e ∈ q.edges := by
  induction ps generalizing p with
  | nil => exact ⟨p, List.mem_cons_self .., h⟩
  | cons q qs ih =>
      rcases List.mem_append.mp h with hp | hrest
      · exact ⟨p, List.mem_cons_self .., hp⟩
      · obtain ⟨r, hr, he⟩ := ih hrest
        exact ⟨r, List.mem_cons_of_mem p hr, he⟩

/-- What the group holds asks for edges of one kind only. -/
def Group.OnlyEdges (P : Edge → Prop) (g : Group) : Prop :=
  ∀ q ∈ g.items ++ g.alternatives, ∀ e ∈ q.edges, P e

section Groups

variable {P : Edge → Prop} {g : Group}

theorem Group.OnlyEdges.push (hg : g.OnlyEdges P) {p : Pattern} (hp : ∀ e ∈ p.edges, P e)
    (s : Repeatable) : (g.push p s).OnlyEdges P := by
  intro q hq
  rcases List.mem_cons.mp hq with hqp | hq
  · rw [hqp]
    exact hp
  · exact hg q hq

theorem Group.OnlyEdges.sequence (hg : g.OnlyEdges P) :
    ∀ e ∈ (inSequence g.items.reverse).edges, P e := by
  intro e he
  obtain ⟨q, hq, he⟩ := edges_inSequence he
  exact hg q (List.mem_append_left _ (List.mem_reverse.mp hq)) e he

theorem Group.OnlyEdges.close (hg : g.OnlyEdges P) : ∀ e ∈ g.close.edges, P e := by
  intro e he
  unfold Group.close at he
  split at he
  · exact nomatch he
  · rename_i p ps hps
    obtain ⟨q, hq, he⟩ := edges_anyOf he
    rw [← hps] at hq
    rcases List.mem_cons.mp (List.mem_reverse.mp hq) with hqs | hq
    · rw [hqs] at he
      exact hg.sequence e he
    · exact hg q (List.mem_append_right _ hq) e he

/-- Repeating an item adds no edge. -/
theorem Group.OnlyEdges.repeatLast (hg : g.OnlyEdges P) {f : Pattern → Pattern}
    (hf : ∀ p, ∀ e ∈ (f p).edges, e ∈ p.edges) {h : Group} (hlast : g.repeatLast f = some h) :
    h.OnlyEdges P := by
  unfold Group.repeatLast at hlast
  split at hlast
  · rename_i p ps _ hitems
    rw [← Option.some.inj hlast]
    intro q hq e he
    rcases List.mem_cons.mp hq with hqp | hq
    · rw [hqp] at he
      exact hg p (by rw [hitems]; exact List.mem_cons_self ..) e (hf p e he)
    · exact hg q (by rw [hitems]; exact List.mem_cons_of_mem p hq) e he
  · exact nomatch hlast

end Groups

theorem onlyEdges_of_assemble {P : Edge → Prop} {g : Group} {outer : List Group}
    {ts : List Token} {p : Pattern} (h : assemble g outer ts = some p)
    (hts : ∀ e, .edge e ∈ ts → P e) (hg : g.OnlyEdges P) (houter : ∀ h ∈ outer, h.OnlyEdges P) :
    ∀ e ∈ p.edges, P e := by
  induction ts generalizing g outer with
  | nil =>
      cases outer with
      | nil =>
          rw [← Option.some.inj h]
          exact hg.close
      | cons _ _ => exact nomatch h
  | cons t ts ih =>
      have hrest : ∀ e, .edge e ∈ ts → P e := fun e he => hts e (List.mem_cons_of_mem t he)
      cases t with
      | charIn s =>
          rw [assemble] at h
          exact ih h hrest (hg.push (fun e he => by exact nomatch he) .yes) houter
      | edge e =>
          rw [assemble] at h
          refine ih h hrest (hg.push ?_ .no) houter
          intro e' he'
          rw [List.mem_singleton.mp he']
          exact hts e (List.mem_cons_self ..)
      | openGroup =>
          rw [assemble] at h
          refine ih h hrest (fun q hq => nomatch hq) ?_
          intro k hk
          rcases List.mem_cons.mp hk with hkg | hk
          · rw [hkg]
            exact hg
          · exact houter k hk
      | closeGroup =>
          cases outer with
          | nil => exact nomatch h
          | cons k outer =>
              rw [assemble] at h
              refine ih h hrest ((houter k (List.mem_cons_self ..)).push hg.close .yes) ?_
              exact fun j hj => houter j (List.mem_cons_of_mem k hj)
      | bar =>
          rw [assemble] at h
          refine ih h hrest ?_ houter
          intro q hq
          rcases List.mem_cons.mp hq with hqs | hq
          · rw [hqs]
            exact hg.sequence
          · exact hg q (List.mem_append_right _ hq)
      | star =>
          rw [assemble] at h
          obtain ⟨k, hk, h⟩ := Option.bind_eq_some_iff.mp h
          exact ih h hrest (hg.repeatLast (f := .many) (fun q e he => he) hk) houter
      | plus =>
          rw [assemble] at h
          obtain ⟨k, hk, h⟩ := Option.bind_eq_some_iff.mp h
          refine ih h hrest (hg.repeatLast (fun q e he => ?_) hk) houter
          exact (List.mem_append.mp he).elim id id
      | mark =>
          rw [assemble] at h
          split at h
          · exact ih h hrest hg houter
          · obtain ⟨k, hk, h⟩ := Option.bind_eq_some_iff.mp h
            refine ih h hrest (hg.repeatLast (fun q e he => ?_) hk) houter
            exact (List.mem_append.mp he).elim id fun hnone => nomatch hnone

/-! ## Edges of the units -/

/-- A unit that is no edge of the text alone. -/
def Token.StaysOnLines (t : Token) : Prop := t ≠ .edge .textStart ∧ t ≠ .edge .textEnd

section Units

variable {o : Options}

theorem staysOnLines_charIn (s : CharClass) : (Token.charIn s).StaysOnLines := ⟨nofun, nofun⟩

theorem staysOnLines_plainToken (ho : o.multiLine = true) (c : Char) :
    (plainToken o c).StaysOnLines := by
  simp only [plainToken, ho, if_true]
  repeat' split
  all_goals exact ⟨nofun, nofun⟩

theorem staysOnLines_of_escapeToken? {c : Char} {t : Token} (h : escapeToken? o c = some t) :
    t.StaysOnLines := by
  unfold escapeToken? at h
  split at h
  · rw [← Option.some.inj h]
    exact ⟨nofun, nofun⟩
  · split at h
    · rw [← Option.some.inj h]
      exact ⟨nofun, nofun⟩
    · split at h
      · rw [← Option.some.inj h]
        exact staysOnLines_charIn _
      · obtain ⟨d, _, hd⟩ := Option.map_eq_some_iff.mp h
        rw [← hd]
        exact staysOnLines_charIn _

theorem staysOnLines_of_insideStep {negated first : Bool} {rs : List (Nat × Nat)} {q : Pending}
    {c : Char} {t : Token} {next : Place}
    (h : insideStep o negated first rs q c = some (some t, next)) : t.StaysOnLines := by
  unfold insideStep at h
  split at h
  · rw [← Option.some.inj (Prod.mk.inj (Option.some.inj h)).1]
    exact staysOnLines_charIn _
  · split at h
    · exact nomatch h
    · obtain ⟨_, _, hd⟩ := Option.map_eq_some_iff.mp h
      exact nomatch hd

theorem staysOnLines_of_outsideStep (ho : o.multiLine = true) {c : Char} {t : Token} {next : Place}
    (h : outsideStep o c = (some t, next)) : t.StaysOnLines := by
  unfold outsideStep at h
  split at h
  · exact nomatch h
  · split at h
    · exact nomatch h
    · rw [← Option.some.inj (Prod.mk.inj h).1]
      exact staysOnLines_plainToken ho c

/-- Where `^` and `$` stand at every line, no unit is an edge of the text alone. -/
theorem staysOnLines_of_tokenStep (ho : o.multiLine = true) {place next : Place} {c : Char}
    {t : Token} (h : tokenStep o place c = some (some t, next)) : t.StaysOnLines := by
  cases place with
  | outside => exact staysOnLines_of_outsideStep ho (Option.some.inj h)
  | groupOpened =>
      rw [tokenStep] at h
      split at h
      · exact nomatch h
      · exact staysOnLines_of_outsideStep ho (Option.some.inj h)
  | groupMark =>
      rw [tokenStep] at h
      split at h
      · exact nomatch h
      · exact nomatch h
  | escape =>
      obtain ⟨t', ht', heq⟩ := Option.map_eq_some_iff.mp h
      rw [← Option.some.inj (Prod.mk.inj heq).1]
      exact staysOnLines_of_escapeToken? ht'
  | opened =>
      rw [tokenStep] at h
      split at h
      · exact nomatch h
      · exact staysOnLines_of_insideStep h
  | inside negated first rs q => exact staysOnLines_of_insideStep h
  | insideEscape negated rs q =>
      obtain ⟨_, _, heq⟩ := Option.map_eq_some_iff.mp h
      exact nomatch heq

theorem staysOnLines_of_mem_tokensFrom (ho : o.multiLine = true) {place : Place} {cs : List Char}
    {ts : List Token} (h : tokensFrom o place cs = some ts) : ∀ t ∈ ts, t.StaysOnLines := by
  induction cs generalizing place ts with
  | nil =>
      cases place with
      | outside =>
          rw [← Option.some.inj h]
          intro t ht
          exact nomatch ht
      | _ => exact nomatch h
  | cons c cs ih =>
      rw [tokensFrom] at h
      obtain ⟨⟨first, next⟩, hstep, h⟩ := Option.bind_eq_some_iff.mp h
      obtain ⟨rest, hrest, hts⟩ := Option.map_eq_some_iff.mp h
      rw [← hts]
      intro t ht
      rcases List.mem_append.mp ht with hfirst | ht
      · rw [Option.mem_toList.mp hfirst] at hstep
        exact staysOnLines_of_tokenStep ho hstep
      · exact ih hrest t ht

end Units

theorem compile_eq_ok_iff {written : String} {flags : Nat} {p : Pattern} :
    Pattern.compile written flags = .ok p ↔ read (.ofBits flags) written.toList = some p := by
  rw [Pattern.compile]
  cases read (.ofBits flags) written.toList with
  | none => exact ⟨nofun, nofun⟩
  | some q => rw [Except.ok.injEq, Option.some.injEq]

/-- The text of a pattern asks for edges of lines and of words only: no `\B`
    stands in it, and `^` and `$` only where they are meant for every line. -/
def WritesLineBound (written : String) (flags : Nat) : Prop :=
  ∃ ts, tokensFrom (.ofBits flags) .outside written.toList = some ts ∧
    .edge .notWordEdge ∉ ts ∧
    (flags.testBit 3 = true ∨ (.edge .textStart ∉ ts ∧ .edge .textEnd ∉ ts))

instance (written : String) (flags : Nat) : Decidable (WritesLineBound written flags) :=
  inferInstanceAs (Decidable (∃ ts ∈ tokensFrom (.ofBits flags) .outside written.toList,
    .edge .notWordEdge ∉ ts ∧
    (flags.testBit 3 = true ∨ (.edge .textStart ∉ ts ∧ .edge .textEnd ∉ ts))))

/-- A pattern whose text asks for edges of lines and words only is line-bound. -/
theorem isLineBound_of_compile {written : String} {flags : Nat} {p : Pattern}
    (h : Pattern.compile written flags = .ok p) (hw : WritesLineBound written flags) :
    p.isLineBound = true := by
  obtain ⟨ts, hts, hword, htext⟩ := hw
  have hread : assemble {} [] ts = some p := by
    have hread := compile_eq_ok_iff.mp h
    rw [read, hts] at hread
    exact hread
  have hlines : ∀ t ∈ ts, t.StaysOnLines := by
    rcases htext with hflag | ⟨hstart, hend⟩
    · exact staysOnLines_of_mem_tokensFrom (o := .ofBits flags) hflag hts
    · intro t ht
      exact ⟨fun heq => hstart (heq ▸ ht), fun heq => hend (heq ▸ ht)⟩
  refine List.all_eq_true.mpr (onlyEdges_of_assemble hread ?_ (fun q hq => nomatch hq)
    (fun g hg => nomatch hg))
  intro e he
  cases e with
  | textStart => exact absurd rfl (hlines _ he).1
  | textEnd => exact absurd rfl (hlines _ he).2
  | notWordEdge => exact absurd he hword
  | _ => rfl

end ContractScan.Pattern
