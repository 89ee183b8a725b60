import ContractScan.Proofs.Chain.Activity
import ContractScan.Proofs.Network.Fetch

/-! # What an explorer can do to a fetch

    The replies to the look-ups of source and creator never end a fetch,
    whatever they are.  The reply to the look-up of transactions ends it in one
    case only: it lists rows that do not add up.  So the success of a fetch with
    explorer is decided by the third reply alone, by a condition on its rows
    (`explored_fetch_ok_iff`). -/

namespace ContractScan.Network

open ContractScan.Text

/-- The rows that count are objects. -/
theorem isObject_of_rowsOf? {answer : Json} {rows : List Json} (h : rowsOf? answer = some rows) :
    ∀ row ∈ rows, row.isObject = true := by
  unfold rowsOf? at h
  split at h
  · split at h
    · have hrows := Option.some.inj h
      intro row hrow
      rw [← hrows] at hrow
      exact (List.mem_filter.mp hrow).2
    · exact nomatch h
  · exact nomatch h

/-- The rows of the transactions are objects. -/
theorem isObject_of_mem_activityRows {gets : List Reply} :
    ∀ row ∈ activityRows gets, row.isObject = true := by
  unfold activityRows lookupRows?
  cases (replyTo gets 2).value with
  | error e => exact fun row hrow => nomatch hrow
  | ok v =>
      cases hrows : rowsOf? v with
      | none =>
          intro row hrow
          simp [hrows] at hrow
      | some rows => simpa [hrows] using isObject_of_rowsOf? hrows

/-- Whether the explorer is asked: there is a code and a key that is not empty. -/
theorem asksExplorer_of_key {s : Settings} {state : ChainState} {key : String}
    (hkey : s.explorerKey = some key) (hfilled : key ≠ "")
    (hcode : state.bytecode.isText "0x" = false) : asksExplorer s state = true := by
  simp [asksExplorer, hkey, hfilled, hcode]

/-- **THE EXPLORER'S SHARE**: once a provider gave code and balance and there is
    a key, a fetch succeeds exactly when the rows of the explorer's third answer
    add up; in every other case it ends with one of four faults. -/
theorem explored_fetch_ok_iff (s : Settings) (address : String) (scripts : Scripts) (k : Nat)
    (url : String) (code : Json) (wei : Int) (key : String)
    (haddress : Chain.isAddress (trimmed address).toList = true)
    (hkey : s.explorerKey = some key) (hfilled : key ≠ "")
    (first : FirstProvider s.rpcUrls scripts.posts k url code wei)
    (hcode : (code.orElse (.str "0x")).isText "0x" = false) :
    ((∃ info, (fetch s address scripts).result = .ok info) ↔
        Chain.Summable (activityRows scripts.gets)) ∧
      ∀ e, (fetch s address scripts).result = .error e →
        e = .summary .notText ∨ e = .summary .infiniteInstant ∨ e = .summary .yearOutOfRange ∨
          e = .summary .clockOverflow := by
  have hasks : asksExplorer s (stateOf code wei) = true := asksExplorer_of_key hkey hfilled hcode
  rw [fetch_eq_fetchChecked haddress]
  constructor
  · rw [← Chain.summarize_ok_iff isObject_of_mem_activityRows,
      fetchChecked_of_asks (first.run_eq (trimmed address)) rfl hasks]
    cases Chain.summarize (activityRows scripts.gets) with
    | ok summary => exact ⟨fun _ => ⟨summary, rfl⟩, fun _ => ⟨_, rfl⟩⟩
    | error f =>
        constructor
        · rintro ⟨info, hinfo⟩
          exact nomatch hinfo
        · rintro ⟨summary, hsummary⟩
          exact nomatch hsummary
  · intro e herror
    obtain ⟨-, f, he, hfault⟩ := first.error_of_error herror
    rw [he]
    rcases Chain.fault_of_summarize_error isObject_of_mem_activityRows hfault with
      hf | hf | hf | hf <;> simp [hf]

/-- An explorer that answers the third look-up alone, with a row of a sender that
    is absent and a time that is none. -/
def vagueRow : List Reply :=
  [.failure .timeout, .answer 500 [],
   answered "\x7b\"status\": \"1\", \"result\": [\x7b\"from\": 0, \"timeStamp\": []\x7d]\x7d"]

/-- The row counts as a transaction of nobody at no time. -/
theorem summable_vagueRow : Chain.Summable (activityRows vagueRow) := by
  have hsum : Chain.summarize (activityRows vagueRow) = .ok ⟨1, 0, 0, none⟩ := by decide +kernel
  exact (Chain.summarize_ok_iff isObject_of_mem_activityRows).mp ⟨_, hsum⟩

/-- A row that says nothing, after two look-ups without an answer, leaves a fetch
    alone. -/
theorem explored_fetch_vague_row :
    Chain.isAddress (trimmed sampleAddress).toList = true ∧
      keyedNodes.explorerKey = some "key" ∧ "key" ≠ "" ∧
      FirstProvider keyedNodes.rpcUrls halfThenWhole 1 "https://second.test" (.str "0x61") 0 ∧
      ((Json.str "0x61").orElse (.str "0x")).isText "0x" = false ∧
      ∃ info, (fetch keyedNodes sampleAddress ⟨halfThenWhole, vagueRow⟩).result = .ok info := by
  have hcode : ((Json.str "0x61").orElse (.str "0x")).isText "0x" = false := by decide
  refine ⟨isAddress_sampleAddress, rfl, by decide, firstProvider_halfThenWhole, hcode, ?_⟩
  exact (explored_fetch_ok_iff keyedNodes sampleAddress ⟨halfThenWhole, vagueRow⟩ 1
    "https://second.test" (.str "0x61") 0 "key" isAddress_sampleAddress rfl (by decide)
    firstProvider_halfThenWhole hcode).1.mpr summable_vagueRow

/-- An explorer that lists a transaction after the year 9999. -/
def lateRow : List Reply :=
  [.failure .timeout, .answer 500 [],
   answered "\x7b\"status\": \"1\", \"result\": [\x7b\"timeStamp\": 253402300800\x7d]\x7d"]

/-- Not every explorer leaves a fetch alone. -/
theorem explored_fetch_late_row :
    ¬ ∀ gets, ∃ info, (fetch keyedNodes sampleAddress ⟨halfThenWhole, gets⟩).result = .ok info := by
  intro hall
  obtain ⟨info, hinfo⟩ := hall lateRow
  have hsum : Chain.summarize (activityRows lateRow) = .error .yearOutOfRange := by decide +kernel
  rw [fetch_eq_fetchChecked isAddress_sampleAddress,
    fetchChecked_of_asks (firstProvider_halfThenWhole.run_eq (trimmed sampleAddress)) rfl
      (asksExplorer_of_key rfl (by decide) (by decide)), hsum] at hinfo
  exact nomatch hinfo

end ContractScan.Network
