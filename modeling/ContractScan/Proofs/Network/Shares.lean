import ContractScan.Proofs.Network.Answer
import ContractScan.Proofs.Network.Facts
import ContractScan.Proofs.Network.Requests

/-! # What each look-up accounts for

    The three replies of the explorer fill disjoint parts of the facts: the
    first says whether the source is published, what it is and what it is
    called, the second who made the contract, the third what happened of late.
    Nothing passes from one look-up to the next, so two fetches whose scripts
    differ in one reply differ in the facts of that reply alone.

    A reply is of no use exactly when it has no row (`unusable_iff`); it then
    leaves its own facts as they are without an explorer, and no others.

    **EVERY LOOK-UP FOR ITSELF**: `lookups_fill_their_own_facts`. -/

namespace ContractScan.Network

open ContractScan.Text

/-- Two scripts have the same replies but for number `n`. -/
def AgreeBut (n : Nat) (gets gets' : List Reply) : Prop :=
  ∀ m, m ≠ n → replyTo gets m = replyTo gets' m

/-! ## Replies of no use -/

/-- The reply says nothing about an address. -/
inductive Unusable : Reply → Prop where
  | failed (f : Failure) : Unusable (.failure f)
  | refused {status : Int} (body : Json.Bytes) :
      ¬ (200 ≤ status ∧ status ≤ 299) → Unusable (.answer status body)
  | undecodable (status : Int) {body : Json.Bytes} {e : Json.BodyError} :
      Json.readBytes body = .error e → Unusable (.answer status body)
  | notObject (status : Int) {body : Json.Bytes} {v : Json} :
      Json.readBytes body = .ok v → v.isObject = false → Unusable (.answer status body)
  /-- The explorer says that it has nothing to say. -/
  | declined (status : Int) {body : Json.Bytes} {fs : Fields} :
      Json.readBytes body = .ok (.obj fs) → Fields.find? fs "status" ≠ some (.str "1") →
      Unusable (.answer status body)
  | noList (status : Int) {body : Json.Bytes} {fs : Fields} :
      Json.readBytes body = .ok (.obj fs) → (∀ rows, Fields.find? fs "result" ≠ some (.arr rows)) →
      Unusable (.answer status body)
  | noRow (status : Int) {body : Json.Bytes} {fs : Fields} {rows : List Json} :
      Json.readBytes body = .ok (.obj fs) → Fields.find? fs "result" = some (.arr rows) →
      (∀ row ∈ rows, row.isObject = false) → Unusable (.answer status body)

/-- A reply of no use gives no row. -/
theorem Unusable.rows_eq_nil {r : Reply} (h : Unusable r) {rows : List Json}
    (hrows : lookupRows? r = some rows) : rows = [] := by
  obtain ⟨status, body, answer, rfl, hstatus, hbody, hanswer⟩ := lookupRows?_eq_some_iff.mp hrows
  obtain ⟨fs, all, rfl, hgranted, hlist, rfl⟩ := rowsOf?_eq_some_iff.mp hanswer
  cases h with
  | refused _ hnot => exact absurd hstatus hnot
  | undecodable _ herror => cases hbody.symm.trans herror
  | notObject _ hread hv =>
      cases hbody.symm.trans hread
      exact nomatch hv
  | declined _ hread hnot =>
      cases hbody.symm.trans hread
      exact absurd hgranted hnot
  | noList _ hread hnot =>
      cases hbody.symm.trans hread
      exact absurd hlist (hnot all)
  | noRow _ hread hrows hnone =>
      cases hbody.symm.trans hread
      cases hlist.symm.trans hrows
      rw [List.filter_eq_nil_iff]
      intro row hrow
      rw [hnone row hrow]
      exact Bool.false_ne_true

/-- An answer that gives no row is of no use. -/
theorem unusable_of_answer {status : Int} {body : Json.Bytes}
    (h : ∀ rows, lookupRows? (.answer status body) = some rows → rows = []) :
    Unusable (.answer status body) := by
  by_cases hstatus : 200 ≤ status ∧ status ≤ 299
  · cases hbody : Json.readBytes body with
    | error e => exact .undecodable status hbody
    | ok v =>
        cases v with
        | obj fs =>
            by_cases hgranted : Fields.find? fs "status" = some (.str "1")
            · by_cases hlist : ∃ all, Fields.find? fs "result" = some (.arr all)
              · obtain ⟨all, hall⟩ := hlist
                have hnone := h (all.filter Json.isObject) (lookupRows?_eq_some_iff.mpr
                  ⟨status, body, .obj fs, rfl, hstatus, hbody,
                    rowsOf?_eq_some_iff.mpr ⟨fs, all, rfl, hgranted, hall, rfl⟩⟩)
                refine .noRow status hbody hall ?_
                intro row hrow
                exact Bool.not_eq_true _ ▸ List.filter_eq_nil_iff.mp hnone row hrow
              · exact .noList status hbody (not_exists.mp hlist)
            · exact .declined status hbody hgranted
        | _ => exact .notObject status hbody rfl
  · exact .refused body hstatus

/-- **NO ROW, NO USE**: a reply is of no use exactly when it gives no row. -/
theorem unusable_iff (r : Reply) :
    Unusable r ↔ ∀ rows, lookupRows? r = some rows → rows = [] := by
  constructor
  · intro h rows hrows
    exact h.rows_eq_nil hrows
  · intro h
    cases r with
    | failure f => exact .failed f
    | answer status body => exact unusable_of_answer h

/-- With no row there is no field. -/
theorem firstField?_of_unusable {r : Reply} (h : Unusable r) (name : String) :
    firstField? (lookupRows? r) name = none := by
  cases hrows : lookupRows? r with
  | none => rfl
  | some rows =>
      rw [h.rows_eq_nil hrows]
      rfl

/-- With no row there is no transaction. -/
theorem activityRows_of_unusable {gets : List Reply} (h : Unusable (replyTo gets 2)) :
    activityRows gets = [] := by
  cases hrows : lookupRows? (replyTo gets 2) with
  | none => rw [activityRows, hrows, Option.getD_none]
  | some rows => rw [activityRows, hrows, Option.getD_some, h.rows_eq_nil hrows]

/-- The summary of no transactions. -/
def noActivity : Chain.Activity := ⟨0, 0, 0, none⟩

/-- What an explorer says whose transactions cannot be had. -/
theorem summary_of_unusable {gets : List Reply} (h : Unusable (replyTo gets 2))
    {summary : Chain.Activity} (hsum : Chain.summarize (activityRows gets) = .ok summary) :
    summary = noActivity := by
  rw [activityRows_of_unusable h] at hsum
  exact (Except.ok.inj hsum).symm

/-! ## Two explorers, one answer apart -/

section Apart

variable {gets gets' : List Reply} {summary summary' : Chain.Activity}

/-- Scripts that agree on the third reply agree on the transactions. -/
theorem summary_eq {n : Nat} (h : AgreeBut n gets gets') (hn : 2 ≠ n)
    (hsum : Chain.summarize (activityRows gets) = .ok summary)
    (hsum' : Chain.summarize (activityRows gets') = .ok summary') : summary = summary' := by
  rw [activityRows, h 2 hn] at hsum
  exact Except.ok.inj (hsum.symm.trans hsum')

variable (address : String) (state : ChainState)

theorem contractInfo_of_source_apart (h : AgreeBut 0 gets gets') (hsum : summary = summary') :
    let info := contractInfo address state (factsWith gets summary)
    let info' := contractInfo address state (factsWith gets' summary')
    info' = { info with
      isVerified := info'.isVerified
      sourceCode := info'.sourceCode
      contractName := info'.contractName } := by
  simp only [contractInfo, factsWith, h 1 (by decide), hsum]

theorem contractInfo_of_creation_apart (h : AgreeBut 1 gets gets') (hsum : summary = summary') :
    let info := contractInfo address state (factsWith gets summary)
    let info' := contractInfo address state (factsWith gets' summary')
    info' = { info with creator := info'.creator } := by
  simp only [contractInfo, factsWith, h 0 (by decide), hsum]

theorem contractInfo_of_activity_apart (h : AgreeBut 2 gets gets') :
    let info := contractInfo address state (factsWith gets summary)
    let info' := contractInfo address state (factsWith gets' summary')
    info' = { info with analytics := info'.analytics } := by
  simp only [contractInfo, factsWith, h 0 (by decide), h 1 (by decide)]

end Apart

/-- What a fetch asks does not depend on what the explorer answers. -/
theorem requests_eq (s : Settings) (address : String) (replies gets gets' : List Reply) :
    (fetch s address ⟨replies, gets⟩).requests = (fetch s address ⟨replies, gets'⟩).requests := by
  by_cases haddress : Chain.IsAddress (trimmed address)
  · rw [fetch_of_isAddress haddress, fetch_of_isAddress haddress, requests_fetchChecked,
      requests_fetchChecked]
  · rw [fetch_of_not_isAddress haddress, fetch_of_not_isAddress haddress]

section Pair

variable {s : Settings} {address : String} {replies gets gets' : List Reply}
  {info info' : ContractInfo}

/-- Two fetches that differ in the explorer's answers alone have the same state,
    and either both have the explorer's say or neither. -/
theorem facts_of_pair (h : (fetch s address ⟨replies, gets⟩).result = .ok info)
    (h' : (fetch s address ⟨replies, gets'⟩).result = .ok info') :
    ∃ state,
      (info = contractInfo (trimmed address) state {} ∧ info' = info ∧
          ∀ r ∈ (fetch s address ⟨replies, gets⟩).requests, r.isPost = true) ∨
        ∃ summary summary', Chain.summarize (activityRows gets) = .ok summary ∧
          Chain.summarize (activityRows gets') = .ok summary' ∧
          info = contractInfo (trimmed address) state (factsWith gets summary) ∧
          info' = contractInfo (trimmed address) state (factsWith gets' summary') := by
  obtain ⟨⟨k, url, code, wei, first⟩, hok⟩ := exists_firstProvider_of_ok h
  obtain ⟨-, hok'⟩ := exists_firstProvider_of_ok h'
  -- the providers are asked first, so both fetches have the same first provider
  have first' : FirstProvider s.rpcUrls (Scripts.mk replies gets').posts k url code wei := first
  refine ⟨stateOf code wei, ?_⟩
  rcases first.facts_of_ok hok with ⟨hquiet, hinfo⟩ | ⟨hasks, summary, hsum, hinfo⟩
  · left
    rcases first'.facts_of_ok hok' with ⟨-, hinfo'⟩ | ⟨hasks, -⟩
    · refine ⟨hinfo, hinfo'.trans hinfo.symm, ?_⟩
      intro r hr
      by_cases haddress : Chain.IsAddress (trimmed address)
      · rw [fetch_of_isAddress haddress, fetchChecked_of_quiet rfl
          (by rw [first.run_eq]) hquiet] at hr
        exact isPost_of_mem_askProviders hr
      · rw [fetch_of_not_isAddress haddress] at hr
        exact absurd hr List.not_mem_nil
    · exact nomatch hquiet.symm.trans hasks
  · right
    rcases first'.facts_of_ok hok' with ⟨hquiet, -⟩ | ⟨-, summary', hsum', hinfo'⟩
    · exact nomatch hquiet.symm.trans hasks
    · exact ⟨summary, summary', hsum, hsum', hinfo, hinfo'⟩

end Pair

/-- **EVERY LOOK-UP FOR ITSELF**: the explorer's answers decide neither what is
    asked nor the address, the code, the balance and whether it is a contract.
    Scripts that differ in one answer give facts that differ in the share of
    that answer alone, and an answer of no use leaves its share empty, whatever
    the others are. -/
theorem lookups_fill_their_own_facts (s : Settings) (address : String)
    (replies gets gets' : List Reply) (info info' : ContractInfo)
    (h : (fetch s address ⟨replies, gets⟩).result = .ok info)
    (h' : (fetch s address ⟨replies, gets'⟩).result = .ok info') :
    let asked := (fetch s address ⟨replies, gets⟩).requests
    (fetch s address ⟨replies, gets'⟩).requests = asked ∧
      (info'.address = info.address ∧ info'.bytecode = info.bytecode ∧
        info'.balance = info.balance ∧ info'.isContract = info.isContract) ∧
      (AgreeBut 0 gets gets' → info' = { info with
        isVerified := info'.isVerified
        sourceCode := info'.sourceCode
        contractName := info'.contractName }) ∧
      (AgreeBut 1 gets gets' → info' = { info with creator := info'.creator }) ∧
      (AgreeBut 2 gets gets' → info' = { info with analytics := info'.analytics }) ∧
      (Unusable (replyTo gets 0) → info.isVerified = .bool false ∧ info.sourceCode = .null ∧
        info.contractName = .str "Unknown") ∧
      (Unusable (replyTo gets 1) → info.creator = .str "Unknown") ∧
      (Unusable (replyTo gets 2) → (∃ r ∈ asked, r.isPost = false) →
        info.analytics = noActivity.toJson) := by
  intro asked
  refine ⟨requests_eq s address replies gets' gets, ?_⟩
  obtain ⟨state, ⟨hinfo, hsame, hposts⟩ | ⟨summary, summary', hsum, hsum', hinfo, hinfo'⟩⟩ :=
    facts_of_pair h h'
  · -- the explorer is not asked: the facts are the same, and nothing is known from it
    subst hsame hinfo
    refine ⟨⟨rfl, rfl, rfl, rfl⟩, fun _ => rfl, fun _ => rfl, fun _ => rfl,
      fun _ => ⟨rfl, rfl, rfl⟩, fun _ => rfl, ?_⟩
    rintro - ⟨r, hr, hget⟩
    exact nomatch (hposts r hr).symm.trans hget
  · rw [hinfo, hinfo']
    refine ⟨⟨rfl, rfl, rfl, rfl⟩, ?_, ?_, ?_, ?_, ?_, ?_⟩
    · intro hapart
      exact contractInfo_of_source_apart _ state hapart
        (summary_eq hapart (by decide) hsum hsum')
    · intro hapart
      exact contractInfo_of_creation_apart _ state hapart
        (summary_eq hapart (by decide) hsum hsum')
    · intro hapart
      exact contractInfo_of_activity_apart _ state hapart
    · intro hnone
      have hfields := firstField?_of_unusable hnone
      simp [contractInfo, factsWith, hfields]
    · intro hnone
      have hfields := firstField?_of_unusable hnone
      simp [contractInfo, factsWith, hfields]
    · intro hnone _
      rw [summary_of_unusable hnone hsum]
      rfl

/-- A fetch with a key and two nodes, the second of which gives the state. -/
theorem fetch_keyedNodes {gets : List Reply} {summary : Chain.Activity}
    (hsum : Chain.summarize (activityRows gets) = .ok summary) :
    (fetch keyedNodes sampleAddress ⟨halfThenWhole, gets⟩).result =
      .ok (contractInfo (trimmed sampleAddress) (stateOf (.str "0x61") 0)
        (factsWith gets summary)) := by
  have hasks : asksExplorer keyedNodes (stateOf (.str "0x61") 0) = true := by decide
  rw [fetch_eq_fetchChecked isAddress_sampleAddress,
    fetchChecked_of_asks (firstProvider_halfThenWhole.run_eq _) rfl hasks, hsum]

/-- An explorer that knows a source, and one that does not answer, agree on all
    but the source, which the second leaves empty. -/
theorem lookups_with_and_without_source :
    ∃ info info', (fetch keyedNodes sampleAddress ⟨halfThenWhole, []⟩).result = .ok info ∧
      (fetch keyedNodes sampleAddress ⟨halfThenWhole, shortSource⟩).result = .ok info' ∧
      AgreeBut 0 [] shortSource ∧ info'.creator = info.creator ∧
      info'.analytics = info.analytics ∧ info.isVerified = .bool false ∧
      info'.isVerified = .bool true := by
  have hnone : Chain.summarize (activityRows []) = .ok noActivity := rfl
  have hsource : Chain.summarize (activityRows shortSource) = .ok noActivity := rfl
  have hapart : AgreeBut 0 [] shortSource := by
    intro m hm
    obtain ⟨n, rfl⟩ := Nat.exists_eq_succ_of_ne_zero hm
    rfl
  obtain ⟨-, -, hshare, -, -, hempty, -⟩ := lookups_fill_their_own_facts keyedNodes sampleAddress
    halfThenWhole [] shortSource _ _ (fetch_keyedNodes hnone) (fetch_keyedNodes hsource)
  refine ⟨_, _, fetch_keyedNodes hnone, fetch_keyedNodes hsource, hapart, ?_, ?_, ?_, ?_⟩
  · rw [hshare hapart]
  · rw [hshare hapart]
  · exact (hempty (.failed .connect)).1
  · have hfound : (found? shortSource 0 "SourceCode").isSome = true := by decide +kernel
    exact congrArg Json.bool hfound

end ContractScan.Network
