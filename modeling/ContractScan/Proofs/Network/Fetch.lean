import ContractScan.Network.Fetch
import ContractScan.Proofs.Network.Failover
import Mathlib.Data.Nat.Find

/-! # Runs of a fetch

    A fetch of a checked address has three endings, one equation for each:
    no provider gives the state (`fetchChecked_of_none`), the state alone is
    reported (`fetchChecked_of_quiet`), or the explorer's three replies are
    added to it (`fetchChecked_of_asks`).  Nothing else in this folder opens
    `fetchChecked`.

    **THE FAILOVER LAW** is `fetch_reports_first_provider`: the state comes from
    the first provider in the list that gives both code and balance, the posts
    are exactly those of the failures before it and its own two, and the only
    failure that replies of providers can cause is that nobody qualifies. -/

namespace ContractScan.Network

open ContractScan.Text

/-- Whether a request is a post. -/
def Request.isPost : Request → Bool
  | .post .. => true
  | .get .. => false

/-- The rows that the explorer gives for the transactions of an address: its
    third answer. -/
def activityRows (gets : List Reply) : List Json := (lookupRows? (replyTo gets 2)).getD []

/-- What three replies of the explorer say, when its transactions add up. -/
def factsWith (gets : List Reply) (summary : Chain.Activity) : ExplorerFacts where
  isVerified := (firstField? (lookupRows? (replyTo gets 0)) "SourceCode").isSome
  sourceCode := (firstField? (lookupRows? (replyTo gets 0)) "SourceCode").getD .null
  contractName :=
    (firstField? (lookupRows? (replyTo gets 0)) "ContractName").getD (.str "Unknown")
  creator := (firstField? (lookupRows? (replyTo gets 1)) "contractCreator").getD (.str "Unknown")
  analytics := summary.toJson

/-- Only the third answer of the explorer can be at fault. -/
theorem explorerFacts_eq (gets : List Reply) :
    explorerFacts (replyTo gets 0) (replyTo gets 1) (replyTo gets 2) =
      (Chain.summarize (activityRows gets)).map (factsWith gets) := by
  rw [explorerFacts, activityRows]
  cases Chain.summarize ((lookupRows? (replyTo gets 2)).getD []) <;> rfl

/-! ## The endings of a fetch -/

section Endings

variable {s : Settings} {address : String} {scripts : Scripts} {run : ChainRun}

/-- Nobody gives the state. -/
theorem fetchChecked_of_none (hrun : askProviders address s.rpcUrls scripts.posts = run)
    (hstate : run.state = none) :
    fetchChecked s address scripts =
      ⟨.error .noProvider, run.requests, ⟨run.rest, scripts.gets⟩⟩ := by
  simp only [fetchChecked, hrun, hstate]

/-- The state is reported without the explorer. -/
theorem fetchChecked_of_quiet (hrun : askProviders address s.rpcUrls scripts.posts = run)
    {state : ChainState} (hstate : run.state = some state)
    (hquiet : asksExplorer s state = false) :
    fetchChecked s address scripts =
      ⟨.ok (contractInfo address state {}), run.requests, ⟨run.rest, scripts.gets⟩⟩ := by
  simp only [fetchChecked, hrun, hstate, hquiet]
  rfl

/-- The state is reported with what the explorer says, unless its transactions
    do not add up. -/
theorem fetchChecked_of_asks (hrun : askProviders address s.rpcUrls scripts.posts = run)
    {state : ChainState} (hstate : run.state = some state)
    (hasks : asksExplorer s state = true) :
    fetchChecked s address scripts =
      ⟨match Chain.summarize (activityRows scripts.gets) with
        | .ok summary => .ok (contractInfo address state (factsWith scripts.gets summary))
        | .error f => .error (.summary f),
        run.requests ++ lookups s address, ⟨run.rest, scripts.gets.drop 3⟩⟩ := by
  have hfirst : takeReply scripts.gets = (replyTo scripts.gets 0, scripts.gets.drop 1) :=
    takeReply_drop scripts.gets 0
  have hsecond : takeReply (scripts.gets.drop 1) = (replyTo scripts.gets 1, scripts.gets.drop 2) :=
    takeReply_drop scripts.gets 1
  have hthird : takeReply (scripts.gets.drop 2) = (replyTo scripts.gets 2, scripts.gets.drop 3) :=
    takeReply_drop scripts.gets 2
  simp only [fetchChecked, hrun, hstate, hasks, hfirst, hsecond, hthird, explorerFacts_eq]
  cases Chain.summarize (activityRows scripts.gets) <;> rfl

end Endings

/-! ## The failover law -/

/-- Provider number `k`, which is `url`, is the first that gives a state, and it
    gives `code` and `wei`. -/
structure FirstProvider (urls : List String) (replies : List Reply) (k : Nat) (url : String)
    (code : Json) (wei : Int) : Prop where
  listed : urls[k]? = some url
  gives : GivesState replies (firstPost replies 0 k) code wei
  earlier : ∀ j < k, ¬ HasState replies (firstPost replies 0 j)

/-- Either some provider is the first, or there is none. -/
theorem firstProvider_or_none (urls : List String) (replies : List Reply) :
    (∃ k url code wei, FirstProvider urls replies k url code wei) ∨
      ∀ k < urls.length, ¬ HasState replies (firstPost replies 0 k) := by
  by_cases h : ∃ k, k < urls.length ∧ HasState replies (firstPost replies 0 k)
  · -- the least such number is that of the first provider
    left
    classical
    obtain ⟨hlt, code, wei, hgives⟩ := Nat.find_spec h
    refine ⟨Nat.find h, urls[Nat.find h], code, wei, List.getElem?_eq_getElem hlt, hgives, ?_⟩
    intro j hj hstate
    exact Nat.find_min h hj ⟨Nat.lt_trans hj hlt, hstate⟩
  · right
    intro k hk hstate
    exact h ⟨k, hk, hstate⟩

/-- The state of the first provider. -/
def stateOf (code : Json) (wei : Int) : ChainState :=
  ⟨code.orElse (.str "0x"), Chain.formatEther wei⟩

section First

variable {urls : List String} {replies : List Reply} {k : Nat} {url : String} {code : Json}
  {wei : Int}

theorem FirstProvider.lt_length (h : FirstProvider urls replies k url code wei) :
    k < urls.length := by
  obtain ⟨hlt, -⟩ := List.getElem?_eq_some_iff.mp h.listed
  exact hlt

/-- There is one first provider that gives a state. -/
theorem FirstProvider.index_unique {k' : Nat} {url' : String} {code' : Json} {wei' : Int}
    (h : FirstProvider urls replies k url code wei)
    (h' : FirstProvider urls replies k' url' code' wei') : k = k' := by
  rcases Nat.lt_trichotomy k k' with hlt | heq | hgt
  · exact absurd ⟨code, wei, h.gives⟩ (h'.earlier k hlt)
  · exact heq
  · exact absurd ⟨code', wei', h'.gives⟩ (h.earlier k' hgt)

/-- The run over the providers when one of them gives the state. -/
theorem FirstProvider.run_eq (h : FirstProvider urls replies k url code wei) (address : String) :
    askProviders address urls replies =
      ⟨some (stateOf code wei),
        failedAttempts address replies 0 (urls.take k) ++ attempt address url,
        replies.drop (firstPost replies 0 k + 2)⟩ :=
  askProviders_of_first (n := 0) h.listed h.gives h.earlier

/-- The run over the providers when none of them gives the state. -/
theorem run_eq_of_none (hnone : ∀ k < urls.length, ¬ HasState replies (firstPost replies 0 k))
    (address : String) :
    askProviders address urls replies =
      ⟨none, failedAttempts address replies 0 urls,
        replies.drop (firstPost replies 0 urls.length)⟩ :=
  askProviders_of_none (n := 0) hnone

/-- As many posts as `firstPost` counts go to the providers before the first
    that gives the state. -/
theorem FirstProvider.length_failedAttempts (h : FirstProvider urls replies k url code wei)
    (address : String) :
    (failedAttempts address replies 0 (urls.take k)).length = firstPost replies 0 k := by
  have hcount := Network.length_failedAttempts address replies 0 (urls.take k)
  rw [Nat.zero_add, List.length_take, Nat.min_eq_left (Nat.le_of_lt h.lt_length)] at hcount
  exact hcount

end First

/-! ## Which requests are posts -/

theorem isPost_of_mem_attempt {address url : String} {r : Request} (h : r ∈ attempt address url) :
    r.isPost = true := by
  rcases List.mem_cons.mp h with hcode | hrest
  · rw [hcode]
    rfl
  · rw [List.mem_singleton.mp hrest]
    rfl

theorem isPost_of_mem_failedAttempts {address : String} {replies : List Reply} {n : Nat}
    {urls : List String} {r : Request} (h : r ∈ failedAttempts address replies n urls) :
    r.isPost = true := by
  induction urls generalizing n with
  | nil => exact nomatch h
  | cons url urls ih =>
      rw [failedAttempts_cons] at h
      rcases List.mem_append.mp h with hhead | htail
      · exact isPost_of_mem_attempt (List.mem_of_mem_take hhead)
      · exact ih htail

/-- The posts of the winner and of the failures before it, whatever look-ups
    follow them. -/
theorem filter_isPost_winner (address url : String) (replies : List Reply) (urls : List String)
    (gets : List Request) (hgets : ∀ r ∈ gets, r.isPost = false) :
    (failedAttempts address replies 0 urls ++ attempt address url ++ gets).filter Request.isPost =
      failedAttempts address replies 0 urls ++ attempt address url := by
  have hposts : ∀ r ∈ failedAttempts address replies 0 urls ++ attempt address url,
      r.isPost = true := by
    intro r hr
    rcases List.mem_append.mp hr with hfailed | hwon
    · exact isPost_of_mem_failedAttempts hfailed
    · exact isPost_of_mem_attempt hwon
  have hnone : gets.filter Request.isPost = [] := by
    rw [List.filter_eq_nil_iff]
    intro r hr
    rw [hgets r hr]
    exact Bool.false_ne_true
  rw [List.filter_append, List.filter_eq_self.mpr hposts, hnone, List.append_nil]

/-- The look-ups about an address are gets. -/
theorem isPost_of_mem_lookups {s : Settings} {address : String} {r : Request}
    (h : r ∈ lookups s address) : r.isPost = false := by
  simp only [lookups, List.mem_cons, List.not_mem_nil, or_false] at h
  rcases h with h | h | h <;> rw [h] <;> rfl

/-! ## A fetch whose state is given -/

section Given

variable {s : Settings} {address : String} {scripts : Scripts} {k : Nat} {url : String}
  {code : Json} {wei : Int}

/-- The posts of a fetch whose state is given by provider number `k`. -/
theorem FirstProvider.posts_eq (h : FirstProvider s.rpcUrls scripts.posts k url code wei) :
    (fetchChecked s address scripts).requests.filter Request.isPost =
      failedAttempts address scripts.posts 0 (s.rpcUrls.take k) ++
        attempt address url := by
  cases hasks : asksExplorer s (stateOf code wei) with
  | false =>
      rw [fetchChecked_of_quiet (h.run_eq address) rfl hasks]
      have hfilter := filter_isPost_winner address url scripts.posts (s.rpcUrls.take k) []
        (fun r hr => nomatch hr)
      rw [List.append_nil] at hfilter
      exact hfilter
  | true =>
      rw [fetchChecked_of_asks (h.run_eq address) rfl hasks]
      exact filter_isPost_winner address url scripts.posts (s.rpcUrls.take k)
        (lookups s address) (fun r hr => isPost_of_mem_lookups hr)

/-- The facts of a fetch: the state alone, or the state and what the explorer
    says. -/
theorem FirstProvider.facts_of_ok (h : FirstProvider s.rpcUrls scripts.posts k url code wei)
    {info : ContractInfo} (hok : (fetchChecked s address scripts).result = .ok info) :
    (asksExplorer s (stateOf code wei) = false ∧
        info = contractInfo address (stateOf code wei) {}) ∨
      (asksExplorer s (stateOf code wei) = true ∧
        ∃ summary, Chain.summarize (activityRows scripts.gets) = .ok summary ∧
          info = contractInfo address (stateOf code wei) (factsWith scripts.gets summary)) := by
  cases hasks : asksExplorer s (stateOf code wei) with
  | false =>
      rw [fetchChecked_of_quiet (h.run_eq address) rfl hasks] at hok
      cases hok
      exact Or.inl ⟨rfl, rfl⟩
  | true =>
      rw [fetchChecked_of_asks (h.run_eq address) rfl hasks] at hok
      cases hsum : Chain.summarize (activityRows scripts.gets) with
      | error f => simp [hsum] at hok
      | ok summary =>
          simp only [hsum] at hok
          cases hok
          exact Or.inr ⟨rfl, summary, rfl, rfl⟩

/-- The facts of a fetch carry the state that provider number `k` gave. -/
theorem FirstProvider.state_of_ok (h : FirstProvider s.rpcUrls scripts.posts k url code wei)
    {info : ContractInfo} (hok : (fetchChecked s address scripts).result = .ok info) :
    info.bytecode = code.orElse (.str "0x") ∧ info.balance = .str (Chain.formatEther wei) := by
  rcases h.facts_of_ok hok with ⟨-, hinfo⟩ | ⟨-, summary, -, hinfo⟩ <;> rw [hinfo] <;>
    exact ⟨rfl, rfl⟩

/-- Once the state is given, a fetch fails only at the explorer's transactions. -/
theorem FirstProvider.error_of_error (h : FirstProvider s.rpcUrls scripts.posts k url code wei)
    {e : FetchError} (herror : (fetchChecked s address scripts).result = .error e) :
    asksExplorer s (stateOf code wei) = true ∧
      ∃ f, e = .summary f ∧ Chain.summarize (activityRows scripts.gets) = .error f := by
  cases hasks : asksExplorer s (stateOf code wei) with
  | false =>
      rw [fetchChecked_of_quiet (h.run_eq address) rfl hasks] at herror
      exact nomatch herror
  | true =>
      rw [fetchChecked_of_asks (h.run_eq address) rfl hasks] at herror
      cases hsum : Chain.summarize (activityRows scripts.gets) with
      | ok summary => simp [hsum] at herror
      | error f =>
          simp only [hsum] at herror
          cases herror
          exact ⟨rfl, f, rfl, rfl⟩

end Given

/-- A fetch of a text that trims to an address is a fetch of that address. -/
theorem fetch_eq_fetchChecked {s : Settings} {address : String} {scripts : Scripts}
    (h : Chain.isAddress (trimmed address).toList = true) :
    fetch s address scripts = fetchChecked s (trimmed address) scripts := by
  rw [fetch, if_pos h]

/-- When no provider gives the state, every one of them was asked in vain. -/
theorem fetchChecked_of_noProvider {s : Settings} {address : String} {scripts : Scripts}
    (hnone : ∀ k < s.rpcUrls.length, ¬ HasState scripts.posts (firstPost scripts.posts 0 k)) :
    fetchChecked s address scripts =
      ⟨.error .noProvider, failedAttempts address scripts.posts 0 s.rpcUrls,
        ⟨scripts.posts.drop (firstPost scripts.posts 0 s.rpcUrls.length), scripts.gets⟩⟩ := by
  rw [fetchChecked_of_none (run_eq_of_none hnone address) rfl]

/-- Facts come from a checked address and a provider that gives the state. -/
theorem exists_firstProvider_of_ok {s : Settings} {address : String} {scripts : Scripts}
    {info : ContractInfo} (hok : (fetch s address scripts).result = .ok info) :
    (∃ k url code wei, FirstProvider s.rpcUrls scripts.posts k url code wei) ∧
      (fetchChecked s (trimmed address) scripts).result = .ok info := by
  by_cases haddress : Chain.isAddress (trimmed address).toList = true
  · rw [fetch_eq_fetchChecked haddress] at hok
    refine ⟨?_, hok⟩
    rcases firstProvider_or_none s.rpcUrls scripts.posts with hfirst | hnone
    · exact hfirst
    · rw [fetchChecked_of_noProvider hnone] at hok
      exact nomatch hok
  · rw [fetch, if_neg haddress] at hok
    exact nomatch hok

/-- An answer with a text as its body. -/
def answered (body : String) : Reply := .answer 200 (Json.encode body)

/-- An address. -/
def sampleAddress : String := "0xabababababababababababababababababababab"

/-- A configuration with a second node. -/
def twoNodes : Settings := { rpcUrls := ["https://first.test", "https://second.test"] }

/-- Two nodes, and a key for the explorer. -/
def keyedNodes : Settings := { twoNodes with explorerKey := some "key" }

/-- A provider that gives a code and no balance, then one that gives both. -/
def halfThenWhole : List Reply :=
  [answered "\x7b\"result\": \"0x6080\"\x7d", answered "\x7b\"result\": \"zz\"\x7d",
   answered "\x7b\"result\": \"0x61\"\x7d", answered "\x7b\"result\": \"0x0\"\x7d"]

/-- A call that can be seen to have a text as its result. -/
theorem callResult_eq_str {method t : String} {r : Reply}
    (h : (callResult method r).toOption.bind Json.text? = some t) :
    callResult method r = .ok (.str t) := by
  cases hresult : callResult method r with
  | error e =>
      rw [hresult] at h
      exact nomatch h
  | ok v =>
      rw [hresult] at h
      rw [Json.text?_eq_some_iff.mp h]

/-- The second provider is the first that gives the state. -/
theorem firstProvider_halfThenWhole :
    FirstProvider twoNodes.rpcUrls halfThenWhole 1 "https://second.test" (.str "0x61") 0 where
  listed := rfl
  gives := by
    have hstart : firstPost halfThenWhole 0 1 = 2 := by decide +kernel
    rw [hstart]
    exact ⟨callResult_eq_str (by decide +kernel), "0x0", callResult_eq_str (by decide +kernel),
      by decide +kernel⟩
  earlier := by
    intro j hj
    have hzero : j = 0 := by omega
    subst hzero
    rintro ⟨code, wei, -, text, hbalance, hwei⟩
    have hanswer : callResult balanceCall (replyTo halfThenWhole 1) = .ok (.str "zz") :=
      callResult_eq_str (by decide +kernel)
    have htext : Json.str "zz" = .str text := Except.ok.inj (hanswer.symm.trans hbalance)
    have hunread : readHex "zz".toList = none := by decide +kernel
    rw [← Json.str.inj htext, hunread] at hwei
    exact nomatch hwei

theorem isAddress_sampleAddress : Chain.isAddress (trimmed sampleAddress).toList = true := by
  decide +kernel

end ContractScan.Network
