import ContractScan.Network.Explorer
import ContractScan.Network.Node
import ContractScan.Proofs.Json.Grammar

/-! # Answers, and what goes wrong with them

    What an answer tells is said about its text, the members of its objects as
    they are written (`Reply.Tells`), and a value is had from a reply exactly
    when it tells one (`value_eq_ok_iff_tells`), however deep its lists and
    objects go.

    A value that was had is looked into by operations that not every value has.
    A name is searched in an object, a list or a text and means something else in
    each of them; a part is taken out by its name; a field is asked of an object.
    An operation that fails does so in a way of its own (`TroubleKind`), and
    those who asked carry on after some kinds of trouble and not after others. -/

namespace ContractScan

/-- A body has a value when its characters are had and read. -/
theorem Json.readBytes_eq_ok_iff {body : Json.Bytes} {v : Json} :
    Json.readBytes body = .ok v ↔ ∃ cs, Json.decode body = some cs ∧ Json.read cs = .ok v := by
  rw [Json.readBytes]
  cases Json.decode body with
  | none => exact ⟨nofun, nofun⟩
  | some cs =>
      simp only [Option.some.injEq, exists_eq_left']
      cases Json.read cs with
      | ok w => simp only [Except.ok.injEq]
      | error e => cases e <;> exact ⟨nofun, nofun⟩

namespace Network

/-! ## What a reply tells -/

/-- Rows are the objects of the list that a granted answer holds. -/
theorem rowsOf?_eq_some_iff {answer : Json} {rows : List Json} :
    rowsOf? answer = some rows ↔
      ∃ fs all, answer = .obj fs ∧ Fields.find? fs "status" = some (.str "1") ∧
        Fields.find? fs "result" = some (.arr all) ∧ all.filter Json.isObject = rows := by
  constructor
  · intro h
    unfold rowsOf? at h
    split at h
    · rename_i fs
      split at h
      · rename_i all hstatus hresult
        exact ⟨fs, all, rfl, hstatus, hresult, Option.some.inj h⟩
      · exact nomatch h
    · exact nomatch h
  · rintro ⟨fs, all, rfl, hstatus, hresult, rfl⟩
    simp only [rowsOf?, hstatus, hresult]

theorem isSuccess_iff {status : Int} : isSuccess status = true ↔ 200 ≤ status ∧ status ≤ 299 := by
  rw [isSuccess, Bool.and_eq_true, decide_eq_true_iff, decide_eq_true_iff]

/-- A reply that gives a value is an answer of success with a body that is read. -/
theorem value_eq_ok_iff {r : Reply} {v : Json} :
    r.value = .ok v ↔ ∃ status body, r = .answer status body ∧ (200 ≤ status ∧ status ≤ 299) ∧
      Json.readBytes body = .ok v := by
  constructor
  · intro h
    cases r with
    | failure f => exact nomatch h
    | answer status body =>
        by_cases hsuccess : isSuccess status = true
        · rw [Reply.value, if_pos hsuccess] at h
          cases hbody : Json.readBytes body with
          | error e =>
              rw [hbody] at h
              exact nomatch h
          | ok w =>
              rw [hbody] at h
              cases h
              exact ⟨status, body, rfl, isSuccess_iff.mp hsuccess, hbody⟩
        · rw [Reply.value, if_neg hsuccess] at h
          exact nomatch h
  · rintro ⟨status, body, rfl, hstatus, hbody⟩
    rw [Reply.value, if_pos (isSuccess_iff.mpr hstatus), hbody]
    rfl

/-- A look-up has rows when its reply gives a value that gives them. -/
theorem lookupRows?_eq_some_iff_value {r : Reply} {rows : List Json} :
    lookupRows? r = some rows ↔ ∃ answer, r.value = .ok answer ∧ rowsOf? answer = some rows := by
  rw [lookupRows?]
  cases r.value with
  | error e => simp only [reduceCtorEq, false_and, exists_false]
  | ok answer => simp only [Except.ok.injEq, exists_eq_left']

/-- A look-up has rows when it is answered by success and a body that gives
    rows. -/
theorem lookupRows?_eq_some_iff {r : Reply} {rows : List Json} :
    lookupRows? r = some rows ↔
      ∃ status body answer, r = .answer status body ∧ (200 ≤ status ∧ status ≤ 299) ∧
        Json.readBytes body = .ok answer ∧ rowsOf? answer = some rows := by
  rw [lookupRows?_eq_some_iff_value]
  constructor
  · rintro ⟨answer, hvalue, hrows⟩
    obtain ⟨status, body, hr, hstatus, hbody⟩ := value_eq_ok_iff.mp hvalue
    exact ⟨status, body, answer, hr, hstatus, hbody, hrows⟩
  · rintro ⟨status, body, answer, hr, hstatus, hbody, hrows⟩
    exact ⟨answer, value_eq_ok_iff.mpr ⟨status, body, hr, hstatus, hbody⟩, hrows⟩

/-- The reply is an answer of success, and its text denotes this value, whose
    objects have their members as they are written. -/
def Reply.Tells (r : Reply) (raw : Json) : Prop :=
  ∃ status body cs, r = .answer status body ∧ (200 ≤ status ∧ status ≤ 299) ∧
    Json.decode body = some cs ∧ Json.Denotes cs raw

/-- **A VALUE IS HAD FROM WHAT TELLS ONE**, with the members of its objects
    merged. -/
theorem value_eq_ok_iff_tells {r : Reply} {v : Json} :
    r.value = .ok v ↔ ∃ raw, r.Tells raw ∧ v = raw.merge := by
  rw [value_eq_ok_iff]
  constructor
  · rintro ⟨status, body, hr, hstatus, hbody⟩
    obtain ⟨cs, hcs, hread⟩ := Json.readBytes_eq_ok_iff.mp hbody
    obtain ⟨raw, hraw, hv⟩ := Json.read_eq_ok_iff.mp hread
    exact ⟨raw, ⟨status, body, cs, hr, hstatus, hcs, hraw⟩, hv⟩
  · rintro ⟨raw, ⟨status, body, cs, hr, hstatus, hcs, hraw⟩, hv⟩
    exact ⟨status, body, hr, hstatus,
      Json.readBytes_eq_ok_iff.mpr ⟨cs, hcs, Json.read_eq_ok_iff.mpr ⟨raw, hraw, hv⟩⟩⟩

/-- An object is had from what tells an object. -/
theorem value_eq_obj_iff_tells {r : Reply} {fs : Fields} :
    r.value = .ok (.obj fs) ↔
      ∃ ms, r.Tells (.obj ms) ∧ fs = Fields.merged (Json.mergeMembers ms) := by
  rw [value_eq_ok_iff_tells]
  constructor
  · rintro ⟨raw, htells, hmerge⟩
    cases raw with
    | obj ms => exact ⟨ms, htells, Json.obj.inj hmerge⟩
    | _ => exact nomatch hmerge
  · rintro ⟨ms, htells, rfl⟩
    exact ⟨.obj ms, htells, rfl⟩

/-- A field has the value that was written last for it. -/
theorem find?_merged_eq_some_iff {ms : List (String × Json)} {k : String} {v : Json} :
    Fields.find? (Fields.merged (Json.mergeMembers ms)) k = some v ↔
      ∃ raw, Fields.IsLast ms k raw ∧ raw.merge = v := by
  simp only [Json.find?_merged_mergeMembers, Option.map_eq_some_iff,
    Fields.lookup_reverse_eq_some_iff]

/-- A field is absent when no member has its name. -/
theorem find?_merged_eq_none_iff {ms : List (String × Json)} {k : String} :
    Fields.find? (Fields.merged (Json.mergeMembers ms)) k = none ↔ ∀ m ∈ ms, m.1 ≠ k := by
  rw [Json.find?_merged_mergeMembers, Option.map_eq_none_iff, Fields.lookup_reverse_eq_none_iff]

/-! ## Trouble -/

/-- What those who asked tell apart of what goes wrong. -/
inductive TroubleKind where
  /-- There is no answer, or it is not one of success. -/
  | exchange
  /-- The answer was understood, and it does not give what was asked for. -/
  | refusal
  /-- A text is not of the form in which it was to be read. -/
  | badValue
  /-- A value was used as one of another type. -/
  | wrongType
  /-- An object was looked up under a name that it does not have. -/
  | noSuchName
  /-- A value was asked for what only objects have. -/
  | noSuchOperation
  deriving DecidableEq, Repr

/-- What goes wrong, with its wording if it has one of its own. -/
structure Trouble where
  kind : TroubleKind
  message? : Option String := none

/-- The kind of trouble that a reply makes. -/
def ReplyError.kind : ReplyError → TroubleKind
  | .failed _ => .exchange
  | .badStatus => .exchange
  | .badBody _ => .badValue

/-- The kind of trouble that a call makes. -/
def NodeError.kind : NodeError → TroubleKind
  | .noValue e => e.kind
  | .reported .. => .refusal
  | .noResult _ => .refusal
  | .notAnObject => .wrongType

/-- The trouble that a call makes. -/
def NodeError.trouble (e : NodeError) : Trouble := ⟨e.kind, e.message?⟩

/-! ## Looking into a value -/

/-- Receives a reply and reads its body. -/
def Reply.receive (r : Reply) : Except Trouble Json := r.value.mapError fun e => ⟨e.kind, none⟩

end Network

namespace Json

open Network (Trouble)

/-- Searches a name: among the names of an object, the items of a list, or within
    a text. -/
def search (v : Json) (name : String) : Except Trouble Bool :=
  match v with
  | .obj fs => .ok (Fields.has fs name)
  | .arr xs => .ok (xs.any (·.isText name))
  | .str s => .ok (Text.occursIn name.toList s.toList)
  | _ => .error ⟨.wrongType, none⟩

/-- Takes out what stands under a name; lists and texts have numbered parts only. -/
def take (v : Json) (name : String) : Except Trouble Json :=
  match v with
  | .obj fs =>
    match Fields.find? fs name with
    | some w => .ok w
    | none => .error ⟨.noSuchName, none⟩
  | _ => .error ⟨.wrongType, none⟩

/-- Asks an object for a field, which is null if it is not there. -/
def ask (v : Json) (name : String) : Except Trouble Json :=
  match v.field? name with
  | some w => .ok w
  | none => .error ⟨.noSuchOperation, none⟩

end Json

end ContractScan
