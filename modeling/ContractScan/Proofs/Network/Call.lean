import ContractScan.Proofs.Network.Answer

/-! # Which replies answer a call

    A reply answers a call when it tells an object that has a result and no
    error, even an error of null.  Names are searched before anything is taken
    out, and a list or a text may pass for an object at first: it has the item or
    the word.  It fails when the part is to be taken out of it, in a way after
    which the next provider is asked.

    `readCall` makes every operation by itself, each with all the trouble that it
    can make.  Two kinds never come up, since nothing is taken out that was not
    found and nothing but an object is asked for a field: reading comes to what
    `callResult` decides (`readCall_eq`).  So a provider that is asked in this way
    is passed over or gives the state, as `askProvider` has it
    (`tryProvider_eq`).

    **RESULTS AND NOTHING ELSE**: `calls_take_results_only`. -/

namespace ContractScan.Network

/-- Looks for what a reported error says: an object is asked for its message. -/
def readDetail (error : Json) : Except Trouble Json :=
  if error.isObject then error.ask "message" else .ok error

/-- Looks into the answer to a call, one operation after the other. -/
def readAnswer (method : String) (answer : Json) : Except Trouble Json := do
  if ← answer.search "error" then
    let detail ← readDetail (← answer.take "error")
    throw ⟨.refusal, some (method ++ " error: " ++ detail.display)⟩
  else if ← answer.search "result" then
    answer.take "result"
  else
    throw ⟨.refusal, some (method ++ " returned no result")⟩

/-- Receives the reply to a call and looks into it. -/
def readCall (method : String) (r : Reply) : Except Trouble Json := do
  readAnswer method (← r.receive)

/-- The kinds of trouble after which the next provider is asked. -/
def tolerated : List TroubleKind := [.exchange, .refusal, .badValue, .wrongType]

/-- Reads an amount of wei from a text in hexadecimal digits. -/
def readWei (v : Json) : Except Trouble Int :=
  match v with
  | .str s =>
    match Text.readHex s.toList with
    | some wei => .ok wei
    | none => .error ⟨.badValue, none⟩
  | _ => .error ⟨.wrongType, none⟩

/-- Asks one provider for code and balance, one operation after the other. -/
def readProvider (replies : List Reply) : Except Trouble ChainState := do
  let (first, replies) := takeReply replies
  let code ← readCall codeCall first
  let (second, _) := takeReply replies
  let wei ← readWei (← readCall balanceCall second)
  return ⟨code.orElse (.str "0x"), Chain.formatEther wei⟩

/-- The state that a provider gives, or none after trouble that is tolerated; any
    other trouble ends the asking of providers. -/
def tryProvider (replies : List Reply) : Except Trouble (Option ChainState) :=
  match readProvider replies with
  | .ok state => .ok (some state)
  | .error t => if t.kind ∈ tolerated then .ok none else .error t

/-- The reply tells an object without an error, and its last result is `v`. -/
def GivesResult (r : Reply) (v : Json) : Prop :=
  ∃ ms raw, r.Tells (.obj ms) ∧ (∀ m ∈ ms, m.1 ≠ "error") ∧ Fields.IsLast ms "result" raw ∧
    raw.merge = v

section Answer

variable {method : String} {answer v : Json} {r : Reply}

/-- What is no object gives no result: a name cannot be searched in it, or not be
    taken out of it, or is not found. -/
theorem resultOf_of_not_object (method : String) {answer : Json} (h : answer.isObject = false) :
    ∃ e, resultOf method answer = .error e ∧ (e.kind = .wrongType ∨ e.kind = .refusal) := by
  unfold resultOf
  split
  · -- the error is found, and would have to be taken out
    split
    · exact nomatch h
    · exact ⟨_, rfl, Or.inl rfl⟩
  · -- the result is found, and would have to be taken out
    split
    · exact nomatch h
    · exact ⟨_, rfl, Or.inl rfl⟩
  · exact ⟨_, rfl, Or.inr rfl⟩
  · exact ⟨_, rfl, Or.inl rfl⟩

/-- A result is given by objects that have one and have no error. -/
theorem resultOf_eq_ok_iff :
    resultOf method answer = .ok v ↔
      ∃ fs, answer = .obj fs ∧ Fields.find? fs "error" = none ∧
        Fields.find? fs "result" = some v := by
  cases hobject : answer.isObject with
  | false =>
      obtain ⟨e, he, -⟩ := resultOf_of_not_object method hobject
      rw [he]
      refine iff_of_false nofun ?_
      rintro ⟨fs, rfl, -⟩
      exact nomatch hobject
  | true =>
      obtain ⟨fs, rfl⟩ : ∃ fs, answer = .obj fs := by
        cases answer with
        | obj fs => exact ⟨fs, rfl⟩
        | _ => exact nomatch hobject
      simp only [resultOf, mentions?, Fields.has, Json.obj.injEq, exists_eq_left']
      cases Fields.find? fs "error" <;> cases Fields.find? fs "result" <;> simp

/-- The detail of an error can be had whatever the error is. -/
theorem readDetail_eq (error : Json) : readDetail error = .ok (errorDetail error) := by
  cases error <;> rfl

/-- Taken one by one, the operations come to what is decided at once. -/
theorem readAnswer_eq (method : String) (answer : Json) :
    readAnswer method answer = (resultOf method answer).mapError NodeError.trouble := by
  cases answer with
  | obj fs =>
      simp only [readAnswer, resultOf, mentions?, Json.search, Fields.has, Json.take]
      cases herror : Fields.find? fs "error" with
      | some e =>
          -- the error is taken out, since it was found, and only its wording is left to do
          show (readDetail e >>= fun detail =>
            .error ⟨.refusal, some (method ++ " error: " ++ detail.display)⟩) = _
          rw [readDetail_eq]
          rfl
      | none => cases Fields.find? fs "result" <;> rfl
  | arr xs =>
      simp only [readAnswer, resultOf, mentions?, Json.search, Json.take]
      cases xs.any (·.isText "error") <;> cases xs.any (·.isText "result") <;> rfl
  | str s =>
      simp only [readAnswer, resultOf, mentions?, Json.search, Json.take]
      cases Text.occursIn "error".toList s.toList <;>
        cases Text.occursIn "result".toList s.toList <;> rfl
  | _ => rfl

/-- **STEP BY STEP**: reading a reply to a call comes to what the call gives, trouble
    and wording included. -/
theorem readCall_eq (method : String) (r : Reply) :
    readCall method r = (callResult method r).mapError NodeError.trouble := by
  rw [readCall, callResult, Reply.receive]
  cases r.value with
  | error e => rfl
  | ok answer => exact readAnswer_eq method answer

theorem callResult_eq_ok_iff : callResult method r = .ok v ↔ GivesResult r v := by
  have hvalue : callResult method r = .ok v ↔
      ∃ fs, r.value = .ok (.obj fs) ∧ Fields.find? fs "error" = none ∧
        Fields.find? fs "result" = some v := by
    rw [callResult]
    cases r.value with
    | error e => exact ⟨nofun, fun ⟨_, h, _⟩ => nomatch h⟩
    | ok answer => simp only [resultOf_eq_ok_iff, Except.ok.injEq]
  rw [hvalue]
  constructor
  · rintro ⟨fs, hobject, herror, hresult⟩
    obtain ⟨ms, htells, rfl⟩ := value_eq_obj_iff_tells.mp hobject
    obtain ⟨raw, hlast, hv⟩ := find?_merged_eq_some_iff.mp hresult
    exact ⟨ms, raw, htells, find?_merged_eq_none_iff.mp herror, hlast, hv⟩
  · rintro ⟨ms, raw, htells, herror, hlast, hv⟩
    exact ⟨_, value_eq_obj_iff_tells.mpr ⟨ms, htells, rfl⟩, find?_merged_eq_none_iff.mpr herror,
      find?_merged_eq_some_iff.mpr ⟨raw, hlast, hv⟩⟩

/-- No call makes trouble that ends the asking of providers. -/
theorem NodeError.kind_mem_tolerated (e : NodeError) : e.kind ∈ tolerated := by
  cases e with
  | noValue e => cases e <;> simp [kind, ReplyError.kind, tolerated]
  | _ => simp [kind, tolerated]

/-- Trouble with a call is that of one of its errors. -/
theorem readCall_eq_error_iff {t : Trouble} :
    readCall method r = .error t ↔ ∃ e, callResult method r = .error e ∧ e.trouble = t := by
  rw [readCall_eq]
  cases callResult method r <;> simp [Except.mapError]

end Answer

theorem balanceText?_of_readWei {v : Json} :
    balanceText? v = (readWei v).toOption.map Chain.formatEther := by
  cases v with
  | str s =>
      simp only [balanceText?, readWei]
      cases Text.readHex s.toList <;> rfl
  | _ => rfl

theorem kind_mem_tolerated_of_readWei {v : Json} {t : Trouble} (h : readWei v = .error t) :
    t.kind ∈ tolerated := by
  unfold readWei at h
  split at h
  · split at h
    · exact nomatch h
    · cases h
      decide
  · cases h
    decide

/-- **NO TROUBLE ENDS THE ASKING**: a provider gives the state, or it is passed over,
    whatever it replies. -/
theorem tryProvider_eq (address url : String) (replies : List Reply) :
    tryProvider replies = .ok (askProvider address url replies).state := by
  rw [tryProvider, readProvider, askProvider]
  simp only [readCall_eq]
  -- the call for the code, then the call for the balance, then the amount
  cases callResult codeCall (takeReply replies).1 with
  | error e =>
      show (if e.kind ∈ tolerated then _ else _) = _
      rw [if_pos e.kind_mem_tolerated]
  | ok code =>
      cases callResult balanceCall (takeReply (takeReply replies).2).1 with
      | error e =>
          show (if e.kind ∈ tolerated then _ else _) = _
          rw [if_pos e.kind_mem_tolerated]
      | ok v =>
          simp only [Except.mapError, bind, Except.bind, balanceText?_of_readWei]
          cases hwei : readWei v with
          | ok wei => rfl
          | error t =>
              show (if t.kind ∈ tolerated then _ else _) = _
              rw [if_pos (kind_mem_tolerated_of_readWei hwei)]
              rfl

end ContractScan.Network
