import ContractScan.Settings.Cache
import Mathlib.Data.List.Induction

/-! # Which call settled the settings

    The calls so far decide what is kept, and of them only those since the cache was
    last cleared: it is what the earliest of these built that could build anything
    (`after_eq_firstBuilt`).  The invariant is the same before and after each call,
    whether the call finds settings, builds some or fails, and whether it clears the
    cache or not.

    A call that fails has found nothing and leaves nothing, so the calls behind it
    answer as if it had never been made (`run_handOn`).

    **THE FIRST SUCCESS COUNTS**: `calls_give_first_success`. -/

namespace ContractScan

/-! ## Calls since the last clear -/

/-- The calls since the cache was last cleared, beginning with the one that cleared
    it. -/
def sinceClear (calls : List CacheCall) : List CacheCall :=
  calls.foldl (fun since c => if c.clears then [c] else since ++ [c]) []

/-- The calls before `c` that count for it: those since the last clear, and none if `c`
    clears the cache itself. -/
def CacheCall.earlier (c : CacheCall) (before : List CacheCall) : List CacheCall :=
  if c.clears then [] else sinceClear before

/-- Calls begin where the cache was last cleared, or else at the start. -/
structure StartAtClear (past calls : List CacheCall) : Prop where
  /-- The first of them clears the cache, unless nothing went before. -/
  head_clears : past = [] ∨ ∃ c ∈ calls.head?, c.clears = true
  /-- None behind the first clears it again. -/
  tail_keeps : ∀ c ∈ calls.tail, c.clears = false

theorem StartAtClear.concat {past calls : List CacheCall} {c : CacheCall}
    (h : StartAtClear past calls) (hc : c.clears = false) :
    StartAtClear past (calls ++ [c]) := by
  cases calls with
  | nil => exact ⟨h.head_clears.imp_right nofun, nofun⟩
  | cons d calls =>
      refine ⟨h.head_clears, fun e he => ?_⟩
      rcases List.mem_append.mp he with he | he
      · exact h.tail_keeps e he
      · rw [List.mem_singleton.mp he, hc]

theorem sinceClear_concat (before : List CacheCall) (c : CacheCall) :
    sinceClear (before ++ [c]) = c.earlier before ++ [c] := by
  rw [sinceClear, List.foldl_append, ← sinceClear, CacheCall.earlier]
  cases h : c.clears <;> simp [h]

theorem exists_startAtClear (calls : List CacheCall) :
    ∃ past, calls = past ++ sinceClear calls ∧ StartAtClear past (sinceClear calls) := by
  induction calls using List.reverseRecOn with
  | nil => exact ⟨[], rfl, .inl rfl, nofun⟩
  | append_singleton before c ih =>
      rw [sinceClear_concat, CacheCall.earlier]
      cases hc : c.clears with
      | true => exact ⟨before, rfl, .inr ⟨c, rfl, hc⟩, nofun⟩
      | false =>
          obtain ⟨past, hcut, hstart⟩ := ih
          refine ⟨past, ?_, hstart.concat hc⟩
          rw [if_neg Bool.false_ne_true, ← List.append_assoc, ← hcut]

/-- What the first of calls built that could build anything. -/
def firstBuilt (calls : List CacheCall) : Option Settings :=
  calls.findSome? fun c => c.build.toOption

theorem firstBuilt_concat (calls : List CacheCall) (c : CacheCall) :
    firstBuilt (calls ++ [c]) = (firstBuilt calls).or c.build.toOption := by
  rw [firstBuilt, List.findSome?_append, List.findSome?_singleton, firstBuilt]

theorem toOption_build_eq_none_iff {c : CacheCall} :
    c.build.toOption = none ↔ ∃ e, c.build = .error e := by
  cases c.build <;> simp [Except.toOption]

theorem firstBuilt_of_failing {calls : List CacheCall}
    (h : ∀ c ∈ calls, ∃ e, c.build = .error e) : firstBuilt calls = none :=
  List.findSome?_eq_none_iff.mpr fun c hc => toOption_build_eq_none_iff.mpr (h c hc)

theorem firstBuilt_of_first_success {failed rest : List CacheCall} {d : CacheCall} {s : Settings}
    (hfailed : ∀ f ∈ failed, ∃ e, f.build = .error e) (hd : d.build = .ok s) :
    firstBuilt (failed ++ d :: rest) = some s :=
  List.findSome?_eq_some_iff.mpr ⟨failed, d, rest, rfl, by rw [hd]; rfl,
    fun f hf => toOption_build_eq_none_iff.mpr (hfailed f hf)⟩

/-- The calls behind a call `c` when `c` is not made: the first of them clears the cache if `c`
    did. -/
def CacheCall.handOn (c : CacheCall) : List CacheCall → List CacheCall
  | [] => []
  | d :: behind => { d with clears := c.clears || d.clears } :: behind

namespace SettingsCache

variable (kept : SettingsCache) (c : CacheCall) (before behind : List CacheCall)

/-- What is kept after calls. -/
def after (kept : SettingsCache) (calls : List CacheCall) : SettingsCache :=
  calls.foldl (fun kept c => (SettingsCache.call kept c).2) kept

/-- What a call finds in the cache. -/
def found (kept : SettingsCache) (c : CacheCall) : SettingsCache := if c.clears then none else kept

/-! ## One call -/

/-- **THE STEP LEMMA**: what is found answers the call and is kept; else the call builds,
    and keeps what it built. -/
theorem call_eq :
    SettingsCache.call kept c =
      ((found kept c).elim c.build .ok, (found kept c).or c.build.toOption) := by
  rw [call, ← found]
  cases found kept c with
  | some s => rfl
  | none => cases c.build <;> rfl

theorem after_concat :
    after kept (before ++ [c]) = (found (after kept before) c).or c.build.toOption := by
  rw [after, List.foldl_append, ← after]
  exact congrArg Prod.snd (call_eq (after kept before) c)

/-! ## A run of calls -/

/-- **THE INVARIANT**: what is kept is what the first success since the last clear
    built. -/
theorem after_eq_firstBuilt (calls : List CacheCall) :
    after none calls = firstBuilt (sinceClear calls) := by
  induction calls using List.reverseRecOn with
  | nil => rfl
  | append_singleton before c ih =>
      rw [after_concat, sinceClear_concat, firstBuilt_concat, found, ih, CacheCall.earlier]
      cases c.clears <;> rfl

theorem found_eq_firstBuilt :
    found (after none before) c = firstBuilt (c.earlier before) := by
  rw [found, after_eq_firstBuilt, CacheCall.earlier]
  cases c.clears <;> rfl

theorem length_run (calls : List CacheCall) : (run kept calls).length = calls.length := by
  induction calls generalizing kept with
  | nil => rfl
  | cons c calls ih => exact congrArg (· + 1) (ih _)

theorem run_append :
    run kept (before ++ behind) = run kept before ++ run (after kept before) behind := by
  induction before generalizing kept with
  | nil => rfl
  | cons c before ih => exact congrArg (_ :: ·) (ih _)

/-- The answer of one call amid others: what the first success before it built, or else
    what it builds itself. -/
theorem run_split :
    run none (before ++ c :: behind) =
      run none before ++ (firstBuilt (c.earlier before)).elim c.build .ok ::
        run (after none (before ++ [c])) behind := by
  have hstep := call_eq (after none before) c
  rw [run_append, run, hstep, ← after_concat, found_eq_firstBuilt]

/-- What the answer of one call is, read off its place. -/
theorem getElem?_run :
    (run none (before ++ c :: behind))[before.length]? =
      some ((firstBuilt (c.earlier before)).elim c.build .ok) := by
  have hlength := length_run none before
  rw [run_split, List.getElem?_append_right (Nat.le_of_eq hlength), hlength, Nat.sub_self]
  rfl

/-! ## A call left out -/

theorem run_handOn : run kept (c.handOn behind) = run (found kept c) behind := by
  cases behind with
  | nil => rfl
  | cons d behind =>
      have hfound : found kept { d with clears := c.clears || d.clears } =
          found (found kept c) d := by
        unfold found
        cases c.clears <;> cases d.clears <;> rfl
      rw [CacheCall.handOn, run, run, call_eq, call_eq, hfound]
      rfl

/-- A call that fails has found nothing and leaves nothing. -/
theorem getElem?_run_error {e : SettingsError}
    (h : (run none (before ++ c :: behind))[before.length]? = some (.error e)) :
    found (after none before) c = none ∧ c.build = .error e := by
  rw [getElem?_run, Option.some.injEq, ← found_eq_firstBuilt] at h
  cases hfound : found (after none before) c with
  | some s => exact nomatch hfound ▸ h
  | none => exact ⟨rfl, by rwa [hfound] at h⟩

theorem eraseIdx_run (h : found (after none before) c = none)
    (hc : after none (before ++ [c]) = none) :
    (run none (before ++ c :: behind)).eraseIdx before.length =
      run none (before ++ c.handOn behind) := by
  have hlength := length_run none before
  rw [run_append none before (c.handOn behind), run_handOn, h, run_split, hc,
    List.eraseIdx_append_of_length_le (Nat.le_of_eq hlength), hlength, Nat.sub_self]
  rfl

end SettingsCache

open SettingsCache

/-- **THE FIRST SUCCESS COUNTS**: each call gives what the first of the calls since the
    last clear built that could build anything, whatever its own surroundings are.  If
    all of them failed, it gives what its own surroundings give.  A call that fails
    leaves the cache empty, and no other call answers differently for it. -/
theorem calls_give_first_success (before behind : List CacheCall) (c : CacheCall) :
    (run none (before ++ c :: behind)).length = (before ++ c :: behind).length ∧
    (∃ past, before = past ++ c.earlier before ∧ StartAtClear past (c.earlier before ++ [c])) ∧
    (∀ failed d rest s, c.earlier before = failed ++ d :: rest →
      (∀ f ∈ failed, ∃ e, f.build = .error e) → d.build = .ok s →
      (run none (before ++ c :: behind))[before.length]? = some (.ok s)) ∧
    ((∀ f ∈ c.earlier before, ∃ e, f.build = .error e) →
      (run none (before ++ c :: behind))[before.length]? = some c.build) ∧
    ∀ e, (run none (before ++ c :: behind))[before.length]? = some (.error e) →
      c.build = .error e ∧ after none (before ++ [c]) = none ∧
      (run none (before ++ c :: behind)).eraseIdx before.length =
        run none (before ++ c.handOn behind) := by
  refine ⟨length_run none _, ?_, ?_, ?_, ?_⟩
  · obtain ⟨past, hcut, hstart⟩ := exists_startAtClear (before ++ [c])
    rw [sinceClear_concat] at hcut hstart
    rw [← List.append_assoc] at hcut
    exact ⟨past, List.append_cancel_right hcut, hstart⟩
  · intro failed d rest s hearlier hfailed hd
    rw [getElem?_run, hearlier, firstBuilt_of_first_success hfailed hd]
    rfl
  · intro hfailed
    rw [getElem?_run, firstBuilt_of_failing hfailed]
    rfl
  · intro e h
    obtain ⟨hfound, hc⟩ := getElem?_run_error c before behind h
    have hempty : after none (before ++ [c]) = none := by
      rw [after_concat, hfound, hc]
      rfl
    exact ⟨hc, hempty, eraseIdx_run c before behind hfound hempty⟩

/-- A call where the environment asks for a level. -/
def callAt (level : String) (clears : Bool) : CacheCall := ⟨clears, [("LOG_LEVEL", level)]⟩

/-- Calls that fail, succeed, and ask for something else; then the cache is cleared by a
    call that fails, and one more succeeds. -/
def fiveCalls : List CacheCall :=
  [callAt "chatty" false, callAt "debug" false, callAt "error" false, callAt "chatty" true,
    callAt "info" false]

/-- The third call gives what the second built, though the first failed and its own
    environment asks for another level.  The fourth could be left out, if only the fifth
    cleared the cache. -/
theorem answers_to_fiveCalls :
    (∃ e, (callAt "chatty" false).build = .error e) ∧
    (callAt "debug" false).build = .ok { logLevel := "DEBUG" } ∧
    (run none fiveCalls)[2]? = some (.ok { logLevel := "DEBUG" }) ∧
    ∃ e, (run none fiveCalls)[3]? = some (.error e) ∧
      (callAt "chatty" true).build = .error e ∧ after none (fiveCalls.take 4) = none ∧
      (run none fiveCalls).eraseIdx 3 =
        run none [callAt "chatty" false, callAt "debug" false, callAt "error" false,
          callAt "info" true] := by
  have hchatty : ∃ e, (callAt "chatty" false).build = .error e := ⟨_, rfl⟩
  have hdebug : (callAt "debug" false).build = .ok { logLevel := "DEBUG" } := rfl
  have hthird := (calls_give_first_success (fiveCalls.take 2) (fiveCalls.drop 3)
    (callAt "error" false)).2.2.1
  have hfourth := calls_give_first_success (fiveCalls.take 3) (fiveCalls.drop 4)
    (callAt "chatty" true)
  obtain ⟨-, -, -, hbuilds, hfails⟩ := hfourth
  have hanswer := hbuilds nofun
  refine ⟨hchatty, hdebug, ?_, _, hanswer, hfails _ hanswer⟩
  refine hthird [callAt "chatty" false] _ [] _ rfl (fun f hf => ?_) hdebug
  rw [List.mem_singleton.mp hf]
  exact hchatty

end ContractScan
