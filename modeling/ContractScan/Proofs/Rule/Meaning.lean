import ContractScan.Proofs.Pattern.Takes
import ContractScan.Proofs.Rule.Sweep
import ContractScan.Proofs.Text.Blank
import Mathlib.Data.List.Basic

/-! # What the built-in rules say

    Each pattern of the built-in table is put together from words, blanks and
    stretches of one line, so it can be said without patterns when it occurs in a
    text: `readings` lists the patterns, and `meanings` gives the condition of each
    rule.

    **THE TABLE MEANS WHAT IT SAYS**: on every text the findings are those of the
    rules whose condition holds, in the order of the table and each at most once
    (`sweep_table_of_meanings`). -/

namespace ContractScan

open ContractScan.Text

/-! ## The conditions -/

namespace Rule

/-- A low-level call: its options may begin on a later line. -/
def MakesCall (content : List Char) : Prop :=
  ∃ w, IsBlanks w ∧ ".call".toList ++ (w ++ ['\x7b']) <:+: content

/-- A low-level call with a value on the line where its options begin. -/
def SendsValue (content : List Char) : Prop :=
  ∃ w x, IsBlanks w ∧ '\n' ∉ x ∧
    ".call".toList ++ (w ++ '\x7b' :: (x ++ "value:".toList)) <:+: content

/-- A condition that names a success on the line where it begins. -/
def TestsSuccess (content : List Char) : Prop :=
  ∃ k w x, (k = "require".toList ∨ k = "if".toList) ∧ IsBlanks w ∧ '\n' ∉ x ∧
    k ++ (w ++ '(' :: (x ++ "success".toList)) <:+: content

/-- A version of the compiler that begins with a sign of comparison. -/
def FloatsVersion (content : List Char) : Prop :=
  ∃ w x c, w ≠ [] ∧ IsBlanks w ∧ x ≠ [] ∧ IsBlanks x ∧ (c = '^' ∨ c = '>' ∨ c = '<') ∧
    "pragma".toList ++ (w ++ ("solidity".toList ++ (x ++ [c]))) <:+: content

/-- The built-in rules and what each of them says about a text. -/
def meanings (content : List Char) : List (Rule × Prop) :=
  [(reentrancy, SendsValue content ∧ ¬ "nonReentrant".toList <:+: content),
   (uncheckedCall, MakesCall content ∧ ¬ TestsSuccess content),
   (txOrigin, "tx.origin".toList <:+: content),
   (selfDestruct, "selfdestruct".toList <:+: content ∨ "suicide".toList <:+: content),
   (delegateCall, "delegatecall".toList <:+: content),
   (weakRandomness,
    "block.difficulty".toList <:+: content ∨ "block.prevrandao".toList <:+: content),
   (blockTimestamp, "block.timestamp".toList <:+: content),
   (floatingPragma, FloatsVersion content)]

end Rule

/-! ## The patterns -/

namespace Pattern

/-- `\s*` -/
def blanks : Pattern := .many (.one ⟨blankRanges, false⟩)

/-- `\s+` -/
def someBlanks : Pattern := repeated (.one ⟨blankRanges, false⟩)

/-- `.*` -/
def restOfLine : Pattern := .many (.one .notNewline)

/-- The pattern of a word. -/
def ofWord (s : String) : Pattern := inSequence (word s.toList)

/-- `\.call\s*\{` -/
def call : Pattern := inSequence (word ".call".toList ++ [blanks, .one (.single '\x7b')])

/-- `\.call\s*\{.*value:` -/
def callWithValue : Pattern :=
  inSequence (word ".call".toList ++
    blanks :: .one (.single '\x7b') :: restOfLine :: word "value:".toList)

/-- `(require|if\s*)\s*\(.*success` -/
def testOfSuccess : Pattern :=
  inSequence (.alt (ofWord "require") (inSequence (word "if".toList ++ [blanks])) ::
    blanks :: .one (.single '(') :: restOfLine :: word "success".toList)

/-- `pragma\s+solidity\s+[\^><]` -/
def floatingVersion : Pattern :=
  inSequence (word "pragma".toList ++
    someBlanks :: (word "solidity".toList ++ [someBlanks, .one (.listed ['^', '>', '<'])]))

variable {content : List Char}

theorem takes_blanks : blanks.Takes IsBlanks :=
  (takes_many_one _).of_iff fun w => by simp only [CharClass.holds_blankRanges, IsBlanks]

theorem takes_someBlanks : someBlanks.Takes fun w => w ≠ [] ∧ IsBlanks w :=
  (takes_repeated_one _).of_iff fun w => by simp only [CharClass.holds_blankRanges, IsBlanks]

theorem takes_restOfLine : restOfLine.Takes ('\n' ∉ ·) := by
  refine (takes_many_one _).of_iff fun w => ?_
  simp only [CharClass.holds_notNewline_iff]
  constructor
  · exact fun h hmem => h '\n' hmem rfl
  · intro h c hc hnewline
    exact h (hnewline ▸ hc)

/-! ## Where they occur -/

theorem occursIn_ofWord_iff {s : String} :
    (ofWord s).occursIn content = true ↔ s.toList <:+: content := by
  rw [ofWord, (takes_word _).occursIn_iff]
  simp only [exists_eq_left]

theorem occursIn_either_iff {s t : String} :
    (alt (ofWord s) (ofWord t)).occursIn content = true ↔
      s.toList <:+: content ∨ t.toList <:+: content := by
  rw [ofWord, ofWord, ((takes_word _).alt (takes_word _)).occursIn_iff]
  simp only [or_and_right, exists_or, exists_eq_left]

theorem occursIn_call_iff : call.occursIn content = true ↔ Rule.MakesCall content := by
  have htakes := Takes.word_append ".call".toList (takes_blanks.cons (takes_single '\x7b').last)
  refine htakes.occursIn_iff.trans ?_
  constructor
  · rintro ⟨_, ⟨_, rfl, w, _, rfl, hw, rfl⟩, hpart⟩
    exact ⟨w, hw, hpart⟩
  · rintro ⟨w, hw, hpart⟩
    exact ⟨_, ⟨_, rfl, w, _, rfl, hw, rfl⟩, hpart⟩

theorem occursIn_callWithValue_iff :
    callWithValue.occursIn content = true ↔ Rule.SendsValue content := by
  have hrest := takes_restOfLine.cons (takes_word "value:".toList)
  have htakes := Takes.word_append ".call".toList
    (takes_blanks.cons ((takes_single '\x7b').cons hrest))
  refine htakes.occursIn_iff.trans ?_
  constructor
  · rintro ⟨_, ⟨_, rfl, w, _, rfl, hw, _, _, rfl, rfl, x, _, rfl, hx, rfl⟩, hpart⟩
    exact ⟨w, x, hw, hx, hpart⟩
  · rintro ⟨w, x, hw, hx, hpart⟩
    exact ⟨_, ⟨_, rfl, w, _, rfl, hw, _, _, rfl, rfl, x, _, rfl, hx, rfl⟩, hpart⟩

theorem takes_testWord :
    (alt (ofWord "require") (inSequence (word "if".toList ++ [blanks]))).Takes fun t =>
      t = "require".toList ∨ ∃ v, t = "if".toList ++ v ∧ IsBlanks v :=
  (takes_word _).alt (Takes.word_append _ takes_blanks.last)

/-- The blanks behind the word are taken before the parenthesis or with the word. -/
theorem occursIn_testOfSuccess_iff :
    testOfSuccess.occursIn content = true ↔ Rule.TestsSuccess content := by
  have hrest := takes_restOfLine.cons (takes_word "success".toList)
  have htakes := takes_testWord.cons (takes_blanks.cons ((takes_single '(').cons hrest))
  refine htakes.occursIn_iff.trans ?_
  constructor
  · rintro ⟨_, ⟨k, _, rfl, hk, w, _, rfl, hw, _, _, rfl, rfl, x, _, rfl, hx, rfl⟩, hpart⟩
    rcases hk with rfl | ⟨v, rfl, hv⟩
    · exact ⟨_, w, x, Or.inl rfl, hw, hx, hpart⟩
    · have hvw : IsBlanks (v ++ w) := List.forall_mem_append.mpr ⟨hv, hw⟩
      refine ⟨_, v ++ w, x, Or.inr rfl, hvw, hx, ?_⟩
      rw [List.append_assoc v, ← List.append_assoc]
      exact hpart
  · rintro ⟨k, w, x, hk, hw, hx, hpart⟩
    refine ⟨_, ⟨k, _, rfl, ?_, w, _, rfl, hw, _, _, rfl, rfl, x, _, rfl, hx, rfl⟩, hpart⟩
    rcases hk with rfl | rfl
    · exact Or.inl rfl
    · exact Or.inr ⟨[], rfl, nofun⟩

theorem occursIn_floatingVersion_iff :
    floatingVersion.occursIn content = true ↔ Rule.FloatsVersion content := by
  have hsign := takes_someBlanks.cons (takes_listed ['^', '>', '<']).last
  have htakes := Takes.word_append "pragma".toList
    (takes_someBlanks.cons (Takes.word_append "solidity".toList hsign))
  refine htakes.occursIn_iff.trans ?_
  constructor
  · rintro ⟨_, ⟨_, rfl, w, _, rfl, ⟨hw, hwb⟩, _, rfl, x, _, rfl, ⟨hx, hxb⟩, c, hc, rfl⟩, hpart⟩
    refine ⟨w, x, c, hw, hwb, hx, hxb, ?_, hpart⟩
    simpa using hc
  · rintro ⟨w, x, c, hw, hwb, hx, hxb, hc, hpart⟩
    refine ⟨_, ⟨_, rfl, w, _, rfl, ⟨hw, hwb⟩, _, rfl, x, _, rfl, ⟨hx, hxb⟩, c, ?_, rfl⟩, hpart⟩
    simpa using hc

end Pattern

/-! ## The rules -/

namespace Rule

variable {content : List Char}

/-- A value is sent by a call. -/
theorem MakesCall.of_sendsValue (h : SendsValue content) : MakesCall content := by
  obtain ⟨w, x, hw, _, hpart⟩ := h
  refine ⟨w, hw, List.IsInfix.trans ?_ hpart⟩
  exact ⟨[], x ++ "value:".toList, by simp⟩

/-- The patterns of a rule are these: the one that triggers it, and the one that
    suppresses it if there is one. -/
def ReadsAs (r : Rule) (p : Pattern) (q : Option Pattern) : Prop :=
  Pattern.compile r.pattern r.flags = .ok p ∧
    r.suppressor.map (Pattern.compile · r.flags) = q.map .ok

instance (r : Rule) (p : Pattern) (q : Option Pattern) : Decidable (r.ReadsAs p q) :=
  inferInstanceAs (Decidable (_ ∧ _))

/-- The built-in rules and their patterns. -/
def readings : List (Rule × Pattern × Option Pattern) :=
  [(reentrancy, .callWithValue, some (.ofWord "nonReentrant")),
   (uncheckedCall, .call, some .testOfSuccess),
   (txOrigin, .ofWord "tx.origin", none),
   (selfDestruct, .alt (.ofWord "selfdestruct") (.ofWord "suicide"), none),
   (delegateCall, .ofWord "delegatecall", none),
   (weakRandomness, .alt (.ofWord "block.difficulty") (.ofWord "block.prevrandao"), none),
   (blockTimestamp, .ofWord "block.timestamp", none),
   (floatingPragma, .floatingVersion, none)]

theorem readsAs_of_mem_readings : ∀ x ∈ readings, x.1.ReadsAs x.2.1 x.2.2 := by
  decide +kernel

section Readings

variable {r : Rule} {p : Pattern} {q : Option Pattern}

theorem readsAs_of_getElem? {i : Nat} (h : readings[i]? = some (r, p, q)) : r.ReadsAs p q :=
  readsAs_of_mem_readings _ (List.mem_of_getElem? h)

theorem ReadsAs.triggers_eq (h : r.ReadsAs p q) :
    r.triggers content = .ok (p.occursIn content) :=
  triggers_of_compile h.1

theorem ReadsAs.suppressed_eq (h : r.ReadsAs p q) :
    r.suppressed content = .ok (q.any (·.occursIn content)) := by
  have hsuppressor := h.2
  cases hs : r.suppressor with
  | none =>
      rw [hs] at hsuppressor
      cases q with
      | none =>
          rw [suppressed, hs]
          rfl
      | some q => cases hsuppressor
  | some s =>
      rw [hs] at hsuppressor
      cases q with
      | none => cases hsuppressor
      | some q => exact suppressed_of_compile hs (Option.some.inj hsuppressor)

/-- A rule that nothing suppresses fires where its pattern occurs. -/
theorem ReadsAs.fires_iff (h : r.ReadsAs p none) :
    r.fires content = .ok true ↔ p.occursIn content = true := by
  rw [fires_eq_true_iff, h.triggers_eq, h.suppressed_eq, Except.ok.injEq]
  exact and_iff_left rfl

theorem ReadsAs.fires_iff_of_suppressor {q : Pattern} (h : r.ReadsAs p (some q)) :
    r.fires content = .ok true ↔ p.occursIn content = true ∧ ¬ q.occursIn content = true := by
  rw [fires_eq_true_iff, h.triggers_eq, h.suppressed_eq, Except.ok.injEq, Except.ok.injEq,
    Bool.not_eq_true]
  exact Iff.rfl

end Readings

theorem compile_reentrancy :
    Pattern.compile reentrancy.pattern reentrancy.flags = .ok Pattern.callWithValue :=
  (readsAs_of_getElem? (i := 0) rfl).1

theorem compile_uncheckedCall :
    Pattern.compile uncheckedCall.pattern uncheckedCall.flags = .ok Pattern.call :=
  (readsAs_of_getElem? (i := 1) rfl).1

theorem fires_reentrancy_iff :
    reentrancy.fires content = .ok true ↔
      SendsValue content ∧ ¬ "nonReentrant".toList <:+: content := by
  rw [(readsAs_of_getElem? (i := 0) rfl).fires_iff_of_suppressor,
    Pattern.occursIn_callWithValue_iff, Pattern.occursIn_ofWord_iff]

theorem fires_uncheckedCall_iff :
    uncheckedCall.fires content = .ok true ↔ MakesCall content ∧ ¬ TestsSuccess content := by
  rw [(readsAs_of_getElem? (i := 1) rfl).fires_iff_of_suppressor, Pattern.occursIn_call_iff,
    Pattern.occursIn_testOfSuccess_iff]

/-- Each rule of the table fires where its condition holds. -/
theorem fires_iff_of_mem_meanings {m : Rule × Prop} (hm : m ∈ meanings content) :
    m.1.fires content = .ok true ↔ m.2 := by
  simp only [meanings, List.mem_cons, List.not_mem_nil, or_false] at hm
  rcases hm with rfl | rfl | rfl | rfl | rfl | rfl | rfl | rfl
  · exact fires_reentrancy_iff
  · exact fires_uncheckedCall_iff
  · exact (readsAs_of_getElem? (i := 2) rfl).fires_iff.trans Pattern.occursIn_ofWord_iff
  · exact (readsAs_of_getElem? (i := 3) rfl).fires_iff.trans Pattern.occursIn_either_iff
  · exact (readsAs_of_getElem? (i := 4) rfl).fires_iff.trans Pattern.occursIn_ofWord_iff
  · exact (readsAs_of_getElem? (i := 5) rfl).fires_iff.trans Pattern.occursIn_either_iff
  · exact (readsAs_of_getElem? (i := 6) rfl).fires_iff.trans Pattern.occursIn_ofWord_iff
  · exact (readsAs_of_getElem? (i := 7) rfl).fires_iff.trans
      Pattern.occursIn_floatingVersion_iff

theorem nodup_table : table.Nodup := by
  decide +kernel

/-- **THE TABLE MEANS WHAT IT SAYS**: on every text the findings are those of the
    rules whose condition holds, in the order of the table, none of them twice.
    Where the sending of a value is found, the call is found as well. -/
theorem sweep_table_of_meanings (content : List Char) (c : Int) :
    (meanings content).map Prod.fst = table ∧
    (∃ kept : List Rule, kept.Sublist table ∧ kept.Nodup ∧
      (∀ m ∈ meanings content, m.1 ∈ kept ↔ m.2) ∧
      ∃ shown : Rule → Option String,
        (∀ r ∈ kept, excerpt content r.pattern c r.flags = .ok (shown r)) ∧
        sweep content c table = .ok (kept.map fun r => r.finding (shown r))) ∧
    (reentrancy.triggers content = .ok true → uncheckedCall.triggers content = .ok true) := by
  refine ⟨rfl, ?_, ?_⟩
  · refine ⟨table.filter (firesOn content), List.filter_sublist, nodup_table.filter _, ?_,
      shownOn content c, ?_, sweep_eq_of_isReadable isReadable_of_mem_table content c⟩
    · intro m hm
      have htable : m.1 ∈ table := List.mem_map_of_mem hm
      rw [List.mem_filter, firesOn_iff, fires_iff_of_mem_meanings hm]
      exact and_iff_right htable
    · intro r hr
      exact excerpt_of_isReadable (isReadable_of_mem_table r (List.mem_of_mem_filter hr)) content c
  · rw [triggers_of_compile compile_reentrancy, triggers_of_compile compile_uncheckedCall,
      Except.ok.injEq, Except.ok.injEq, Pattern.occursIn_callWithValue_iff,
      Pattern.occursIn_call_iff]
    exact MakesCall.of_sendsValue

end Rule

end ContractScan
