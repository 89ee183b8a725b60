import ContractScan.Proofs.Network.Answer
import ContractScan.Proofs.Network.Requests

/-! # What a look-up asks, and what it makes of the reply

    A look-up asks under the names it was given, in the order in which they were
    given, and has network and key put in: in their places if they were given,
    and else behind the rest.  What was given under other names is left alone.

    A reply is looked into in two steps.  What it takes to have a value is
    forgiven, and nothing else is (`readLookup`).  So looking into the value must
    not fail at all, and it does not: a field is asked of objects only
    (`readLookup_eq`).

    **ROWS OR NOTHING**: `lookups_give_rows`. -/

namespace ContractScan.Network

/-! ## The query -/

/-- The names under which a look-up asks: those it was given, and then network and
    key if they are not among them. -/
def lookupNames (given : Fields) : List String :=
  given.map Prod.fst ++ ["chainid", "apikey"].filter (· ∉ given.map Prod.fst)

/-- The texts for which a look-up asks under a name: network and key as they are
    configured, everything else as it was given. -/
def lookupTexts (s : Settings) (given : Fields) (name : String) : List String :=
  if name = "chainid" then [toString s.chainId]
  else if name = "apikey" then [s.explorerKey.getD ""]
  else (Fields.valuesOf given name).flatMap paramTexts

section Query

variable {s : Settings} {given : Fields}

theorem map_fst_lookupFields : (lookupFields s given).map Prod.fst = lookupNames given := by
  rw [lookupFields, Fields.map_fst_insert, Fields.map_fst_insert, lookupNames]
  by_cases hnetwork : "chainid" ∈ given.map Prod.fst <;>
    by_cases hkey : "apikey" ∈ given.map Prod.fst <;>
    simp [hnetwork, hkey]

theorem nodup_map_fst_lookupFields (h : (given.map Prod.fst).Nodup) :
    ((lookupFields s given).map Prod.fst).Nodup :=
  Fields.nodup_insertAll [("chainid", .int s.chainId), ("apikey", s.explorerKey.elim .null .str)] h

theorem texts_lookup_eq (h : (given.map Prod.fst).Nodup) (name : String) :
    (lookup s given).texts name = lookupTexts s given name := by
  by_cases hnetwork : name = "chainid"
  · rw [lookupTexts, if_pos hnetwork, hnetwork,
      texts_network (Fields.length_valuesOf_le_one h _)]
  · by_cases hkey : name = "apikey"
    · rw [lookupTexts, if_neg hnetwork, if_pos hkey, hkey,
        texts_key (Fields.length_valuesOf_le_one h _)]
    · rw [lookupTexts, if_neg hnetwork, if_neg hkey, texts_given hnetwork hkey]

/-- **THE QUERY**: name by name, each with its texts. -/
theorem lookup_eq (h : (given.map Prod.fst).Nodup) :
    lookup s given = .get s.explorerUrl
      ((lookupNames given).flatMap fun name => (lookupTexts s given name).map (name, ·)) := by
  have hnames : ((lookupFields s given).map Prod.fst).Nodup := nodup_map_fst_lookupFields h
  rw [lookup, ← map_fst_lookupFields (s := s), List.flatMap_map]
  congr 1
  -- a field has the only value of its name, so its texts are all texts of that name
  refine List.flatMap_congr fun f hf => ?_
  rw [← texts_lookup_eq h, texts_lookup, Fields.valuesOf_of_mem hnames hf, List.flatMap_singleton]

end Query

/-! ## The rows -/

/-- The reply tells an object whose last status is the text of a one, and whose last
    result is this list. -/
def Grants (r : Reply) (all : List Json) : Prop :=
  ∃ ms, r.Tells (.obj ms) ∧ Fields.IsLast ms "status" (.str "1") ∧
    Fields.IsLast ms "result" (.arr all)

/-- The items that are objects, in order, each with its members merged. -/
def objectsOf (all : List Json) : List Json := (all.filter Json.isObject).map Json.merge

/-- Rows are merged before or after the objects are picked. -/
theorem filter_isObject_map_merge (all : List Json) :
    (all.map Json.merge).filter Json.isObject = objectsOf all := by
  rw [List.filter_map, objectsOf]
  exact congrArg (List.map Json.merge) (List.filter_congr fun v _ => Json.isObject_merge v)

/-- A look-up has the objects among the rows that are granted. -/
theorem lookupRows?_eq_some_iff_grants {r : Reply} {rows : List Json} :
    lookupRows? r = some rows ↔ ∃ all, Grants r all ∧ rows = objectsOf all := by
  rw [lookupRows?_eq_some_iff_value]
  constructor
  · rintro ⟨answer, hvalue, hrows⟩
    obtain ⟨fs, merged, rfl, hstatus, hresult, rfl⟩ := rowsOf?_eq_some_iff.mp hrows
    obtain ⟨ms, htells, rfl⟩ := value_eq_obj_iff_tells.mp hvalue
    obtain ⟨status, hlast, hone⟩ := find?_merged_eq_some_iff.mp hstatus
    obtain ⟨result, hlast', hlist⟩ := find?_merged_eq_some_iff.mp hresult
    obtain rfl := Json.merge_eq_str_iff.mp hone
    obtain ⟨all, rfl, rfl⟩ := Json.merge_eq_arr_iff.mp hlist
    exact ⟨all, ⟨ms, htells, hlast, hlast'⟩, filter_isObject_map_merge all⟩
  · rintro ⟨all, ⟨ms, htells, hlast, hlast'⟩, rfl⟩
    have hstatus := find?_merged_eq_some_iff.mpr ⟨_, hlast, Json.merge_eq_str_iff.mpr rfl⟩
    have hresult :=
      find?_merged_eq_some_iff.mpr ⟨_, hlast', Json.merge_eq_arr_iff.mpr ⟨all, rfl, rfl⟩⟩
    exact ⟨_, value_eq_obj_iff_tells.mpr ⟨ms, htells, rfl⟩,
      rowsOf?_eq_some_iff.mpr ⟨_, _, rfl, hstatus, hresult, filter_isObject_map_merge all⟩⟩

/-! ## One operation after the other -/

/-- Looks into the answer to a look-up. -/
def readRows (answer : Json) : Except Trouble (Option (List Json)) := do
  if answer.isObject then
    let result ← answer.ask "result"
    let status ← answer.ask "status"
    match status.isText "1", result with
    | true, .arr rows => return some (rows.filter Json.isObject)
    | _, _ =>
      -- the message is asked for on the way out, to be noted with the failure
      let _ ← answer.ask "message"
      return none
  else
    return none

/-- The kinds of trouble with a reply after which a look-up has no rows. -/
def forgiven : List TroubleKind := [.exchange, .badValue]

/-- Receives the reply to a look-up and looks into it.  Trouble is forgiven while the
    reply is received, and not later. -/
def readLookup (r : Reply) : Except Trouble (Option (List Json)) :=
  match r.receive with
  | .error t => if t.kind ∈ forgiven then .ok none else .error t
  | .ok answer => readRows answer

/-- A field that is asked for is a text only if it is there. -/
theorem isText_getD_null_iff {field : Option Json} {t : String} :
    (field.getD .null).isText t = true ↔ field = some (.str t) := by
  rw [Json.isText_iff]
  cases field <;> simp

/-- Nothing that is asked of an answer can fail, and what is had are its rows. -/
theorem readRows_eq (answer : Json) : readRows answer = .ok (rowsOf? answer) := by
  cases answer with
  | obj fs =>
      by_cases hone : Fields.find? fs "status" = some (.str "1")
      · cases hresult : Fields.find? fs "result" with
        | none =>
            simp only [readRows, Json.isObject, Json.ask, Json.field?, rowsOf?, hone, hresult]
            rfl
        | some result =>
            simp only [readRows, Json.isObject, Json.ask, Json.field?, rowsOf?, hone, hresult]
            cases result <;> rfl
      · -- whatever the result is, the status alone decides
        have hnot : Json.isText ((Fields.find? fs "status").getD .null) "1" = false :=
          Bool.eq_false_iff.mpr (mt isText_getD_null_iff.mp hone)
        have hnone : rowsOf? (.obj fs) = none := by
          rw [Option.eq_none_iff_forall_ne_some]
          intro rows hrows
          obtain ⟨_, _, hfs, hstatus, -⟩ := rowsOf?_eq_some_iff.mp hrows
          cases hfs
          exact hone hstatus
        simp only [readRows, Json.isObject, Json.ask, Json.field?, hnone, bind, Except.bind, hnot]
        rfl
  | _ => rfl

theorem ReplyError.kind_mem_forgiven (e : ReplyError) : e.kind ∈ forgiven := by
  cases e <;> simp [kind, forgiven]

/-- **A LOOK-UP NEVER FAILS**: read one operation after the other, a reply gives rows or
    none. -/
theorem readLookup_eq (r : Reply) : readLookup r = .ok (lookupRows? r) := by
  rw [readLookup, Reply.receive, lookupRows?]
  cases r.value with
  | error e =>
      show (if e.kind ∈ forgiven then _ else _) = _
      rw [if_pos e.kind_mem_forgiven]
  | ok answer => exact readRows_eq answer

/-- Parameters that have a key already, and no network. -/
def keyedParams : Fields := [("apikey", .str "other"), ("tag", .arr [.int 1, .null])]

end ContractScan.Network
