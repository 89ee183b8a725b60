import ContractScan.Rule.Sweep

/-! # Sweeps that have findings

    The only fault of a sweep is a pattern that cannot be read.  A rule is
    READABLE when neither of its patterns is such a one.  A table of readable
    rules has findings on every text: those of the rules that fire, in order
    (`sweep_eq_of_isReadable`).  The built-in table is one
    (`isReadable_of_mem_table`). -/

namespace ContractScan

/-- Whether a text writes a pattern. -/
def Pattern.isWritten (written : String) (flags : Nat) : Bool :=
  (Pattern.read (.ofBits flags) written.toList).isSome

/-- A written pattern is compiled. -/
theorem Pattern.compile_of_isWritten {written : String} {flags : Nat}
    (h : Pattern.isWritten written flags = true) :
    ∃ p, Pattern.compile written flags = .ok p := by
  obtain ⟨p, hp⟩ := Option.isSome_iff_exists.mp h
  exact ⟨p, by rw [Pattern.compile, hp]⟩

namespace Rule

/-- Whether both patterns of a rule can be read. -/
def isReadable (r : Rule) : Bool :=
  Pattern.isWritten r.pattern r.flags && r.suppressor.all (Pattern.isWritten · r.flags)

/-! ## Evaluation -/

section Evaluation

variable {r : Rule} {content : List Char}

theorem triggers_of_compile {p : Pattern} (hp : Pattern.compile r.pattern r.flags = .ok p) :
    r.triggers content = .ok (p.occursIn content) := by
  rw [triggers, hp]
  rfl

theorem suppressed_of_compile {s : String} {q : Pattern} (hs : r.suppressor = some s)
    (hq : Pattern.compile s r.flags = .ok q) : r.suppressed content = .ok (q.occursIn content) := by
  rw [suppressed, hs]
  show (Pattern.compile s r.flags >>= _) = _
  rw [hq]
  rfl

/-- A rule fires exactly when it is triggered and not suppressed. -/
theorem fires_eq_true_iff :
    r.fires content = .ok true ↔
      r.triggers content = .ok true ∧ r.suppressed content = .ok false := by
  rw [fires, bind_eq_ok_iff]
  constructor
  · rintro ⟨triggered, ht, h⟩
    cases triggered with
    | false => exact nomatch h
    | true =>
        obtain ⟨suppressed, hs, h⟩ := bind_eq_ok_iff.mp h
        cases suppressed with
        | false => exact ⟨ht, hs⟩
        | true => exact nomatch h
  · rintro ⟨ht, hs⟩
    exact ⟨true, ht, bind_eq_ok_iff.mpr ⟨false, hs, rfl⟩⟩

theorem fires_iff_of_no_suppressor {p : Pattern}
    (hp : Pattern.compile r.pattern r.flags = .ok p) (hs : r.suppressor = none) :
    r.fires content = .ok true ↔ p.occursIn content = true := by
  rw [fires_eq_true_iff, triggers_of_compile hp, suppressed, hs, Except.ok.injEq]
  exact and_iff_left rfl

end Evaluation

section Readable

variable {r : Rule}

/-- A readable rule is triggered or not. -/
theorem triggers_ok (h : r.isReadable = true) (content : List Char) :
    ∃ b, r.triggers content = .ok b := by
  obtain ⟨p, hp⟩ := Pattern.compile_of_isWritten (Bool.and_eq_true_iff.mp h).1
  exact ⟨p.occursIn content, triggers_of_compile hp⟩

/-- A readable rule is suppressed or not. -/
theorem suppressed_ok (h : r.isReadable = true) (content : List Char) :
    ∃ b, r.suppressed content = .ok b := by
  have hall := (Bool.and_eq_true_iff.mp h).2
  cases hs : r.suppressor with
  | none => exact ⟨false, by rw [suppressed, hs]⟩
  | some written =>
      rw [hs] at hall
      obtain ⟨p, hp⟩ := Pattern.compile_of_isWritten hall
      exact ⟨p.occursIn content, suppressed_of_compile hs hp⟩

/-- A readable rule fires or does not. -/
theorem fires_ok (h : r.isReadable = true) (content : List Char) :
    ∃ b, r.fires content = .ok b := by
  obtain ⟨triggered, ht⟩ := triggers_ok h content
  obtain ⟨suppressed, hs⟩ := suppressed_ok h content
  rw [fires, ht, hs]
  cases triggered with
  | true => exact ⟨!suppressed, rfl⟩
  | false => exact ⟨false, rfl⟩

end Readable

/-- Whether the rule fires on the text. -/
def firesOn (content : List Char) (r : Rule) : Bool :=
  match r.fires content with
  | .ok fired => fired
  | .error _ => false

theorem firesOn_iff {r : Rule} {content : List Char} :
    firesOn content r = true ↔ r.fires content = .ok true := by
  rw [firesOn]
  cases r.fires content with
  | ok fired => rw [Except.ok.injEq]
  | error e => exact ⟨nofun, nofun⟩

/-- The excerpt that the rule shows of the text, if any. -/
def shownOn (content : List Char) (c : Int) (r : Rule) : Option String :=
  match excerpt content r.pattern c r.flags with
  | .ok snippet => snippet
  | .error _ => none

theorem excerpt_of_isReadable {r : Rule} (h : r.isReadable = true) (content : List Char) (c : Int) :
    excerpt content r.pattern c r.flags = .ok (shownOn content c r) := by
  obtain ⟨p, hp⟩ := Pattern.compile_of_isWritten (Bool.and_eq_true_iff.mp h).1
  rw [shownOn, excerpt, hp]
  rfl

/-- **THE FINDINGS OF READABLE RULES** are those of the rules that fire, in the
    order of the table. -/
theorem sweep_eq_of_isReadable {rules : List Rule} (h : ∀ r ∈ rules, r.isReadable = true)
    (content : List Char) (c : Int) :
    sweep content c rules =
      .ok ((rules.filter (firesOn content)).map fun r => r.finding (shownOn content c r)) := by
  induction rules with
  | nil => rfl
  | cons r rest ih =>
      have hr := h r (List.mem_cons_self ..)
      obtain ⟨fired, hf⟩ := fires_ok hr content
      have hrest := ih fun s hs => h s (List.mem_cons_of_mem r hs)
      have hfirst : r.findingOn? content c =
          .ok (if fired then some (r.finding (shownOn content c r)) else none) := by
        rw [findingOn?, hf, excerpt_of_isReadable hr]
        cases fired <;> rfl
      rw [sweep, hfirst, hrest, List.filter_cons, firesOn, hf]
      cases fired <;> rfl

/-- **NO FAULT IN A READABLE TABLE**: readable rules have findings on every text. -/
theorem sweep_ok {rules : List Rule} (h : ∀ r ∈ rules, r.isReadable = true) (content : List Char)
    (c : Int) : ∃ fs, sweep content c rules = .ok fs :=
  ⟨_, sweep_eq_of_isReadable h content c⟩

/-- The built-in rules can be read. -/
theorem isReadable_of_mem_table : ∀ r ∈ table, r.isReadable = true := by
  decide +kernel

end Rule

end ContractScan
