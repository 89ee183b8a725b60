import ContractScan.Proofs.Chain.Address
import ContractScan.Proofs.Network.Fetch

/-! # The requests of a fetch

    A fetch asks in two phases: posts to the providers, then either nothing or
    three gets to the explorer.  Which of the two it is depends on the replies
    to the posts alone, so no answer of the explorer can skip, repeat or reorder
    a look-up, and a fetch that fails at the explorer has asked for all three.

    A look-up is told by what its query holds under each name.  Network and key
    are put in last and in place of what was given under their names, so each
    query holds them exactly once (`texts_network`, `texts_key`).

    **THE ORDER OF REQUESTS** is `fetch_posts_then_lookups`. -/

namespace ContractScan

namespace Fields

/-- All values of a name, in order. -/
def valuesOf (fs : Fields) (name : String) : List Json :=
  (fs.filter (·.1 == name)).map (·.2)

theorem valuesOf_cons_self (name : String) (v : Json) (fs : Fields) :
    valuesOf ((name, v) :: fs) name = v :: valuesOf fs name := by
  simp [valuesOf]

theorem valuesOf_cons_of_ne {k name : String} (h : k ≠ name) (v : Json) (fs : Fields) :
    valuesOf ((k, v) :: fs) name = valuesOf fs name := by
  simp [valuesOf, h]

/-- A name that is there once at most has one value after it was given one. -/
theorem valuesOf_insert_self {fs : Fields} {name : String} (h : (valuesOf fs name).length ≤ 1)
    (v : Json) : valuesOf (insert fs name v) name = [v] := by
  induction fs with
  | nil => exact valuesOf_cons_self name v []
  | cons f rest ih =>
      obtain ⟨k, w⟩ := f
      by_cases hk : k = name
      · subst hk
        rw [valuesOf_cons_self, List.length_cons] at h
        have hrest : valuesOf rest k = [] := List.length_eq_zero_iff.mp (by omega)
        rw [insert, if_pos rfl, valuesOf_cons_self, hrest]
      · rw [valuesOf_cons_of_ne hk] at h
        rw [insert, if_neg hk, valuesOf_cons_of_ne hk]
        exact ih h

/-- The values of a name are left alone when another one is given a value. -/
theorem valuesOf_insert_of_ne {name other : String} (h : other ≠ name) (fs : Fields) (v : Json) :
    valuesOf (insert fs name v) other = valuesOf fs other := by
  induction fs with
  | nil => exact valuesOf_cons_of_ne h.symm v []
  | cons f rest ih =>
      obtain ⟨k, w⟩ := f
      by_cases hk : k = name
      · subst hk
        rw [insert, if_pos rfl, valuesOf_cons_of_ne h.symm, valuesOf_cons_of_ne h.symm]
      · rw [insert, if_neg hk]
        by_cases hother : k = other
        · subst hother
          rw [valuesOf_cons_self, valuesOf_cons_self, ih]
        · rw [valuesOf_cons_of_ne hother, valuesOf_cons_of_ne hother, ih]

theorem valuesOf_of_not_mem {fs : Fields} {name : String} (h : name ∉ fs.map Prod.fst) :
    valuesOf fs name = [] := by
  refine List.map_eq_nil_iff.mpr (List.filter_eq_nil_iff.mpr fun f hf hname => h ?_)
  rw [← beq_iff_eq.mp hname]
  exact List.mem_map_of_mem hf

/-- Where no name stands twice, a field has the only value of its name. -/
theorem valuesOf_of_mem {fs : Fields} (hnames : (fs.map Prod.fst).Nodup) {f : String × Json}
    (h : f ∈ fs) : valuesOf fs f.1 = [f.2] := by
  induction fs with
  | nil => exact nomatch h
  | cons g fs ih =>
      obtain ⟨hnew, hrest⟩ := List.nodup_cons.mp hnames
      rcases List.mem_cons.mp h with rfl | hmem
      · rw [show f :: fs = (f.1, f.2) :: fs from rfl, valuesOf_cons_self, valuesOf_of_not_mem hnew]
      · have hne : g.1 ≠ f.1 := fun heq => hnew (heq ▸ List.mem_map_of_mem hmem)
        rw [show g :: fs = (g.1, g.2) :: fs from rfl, valuesOf_cons_of_ne hne, ih hrest hmem]

theorem length_valuesOf_le_one {fs : Fields} (hnames : (fs.map Prod.fst).Nodup) (name : String) :
    (valuesOf fs name).length ≤ 1 := by
  by_cases hname : name ∈ fs.map Prod.fst
  · obtain ⟨f, hf, rfl⟩ := List.mem_map.mp hname
    rw [valuesOf_of_mem hnames hf]
    exact Nat.le_refl 1
  · rw [valuesOf_of_not_mem hname]
    exact Nat.zero_le 1

end Fields

namespace Network

open ContractScan.Text

/-- Where a request goes. -/
def Request.url : Request → String
  | .post url _ => url
  | .get url _ => url

/-- The texts that the query of a request holds under a name. -/
def Request.texts (name : String) : Request → List String
  | .post .. => []
  | .get _ params => (params.filter (·.1 == name)).map (·.2)

/-! ## The query of a look-up -/

/-- A query holds what its fields hold, each value as its texts. -/
theorem texts_of_fields (name : String) (fs : Fields) :
    (((fs.flatMap fun f => (paramTexts f.2).map fun t => (f.1, t)).filter (·.1 == name)).map
        (·.2)) = (Fields.valuesOf fs name).flatMap paramTexts := by
  induction fs with
  | nil => rfl
  | cons f rest ih =>
      obtain ⟨k, v⟩ := f
      rw [List.flatMap_cons, List.filter_append, List.map_append, ih]
      by_cases hk : k = name
      · subst hk
        simp [Fields.valuesOf_cons_self, List.filter_map, Function.comp_def]
      · simp [Fields.valuesOf_cons_of_ne hk, hk]

section Lookup

variable {s : Settings} {given : Fields}

theorem texts_lookup (name : String) :
    (lookup s given).texts name = (Fields.valuesOf (lookupFields s given) name).flatMap paramTexts :=
  texts_of_fields name (lookupFields s given)

/-- What was given under another name than those of network and key is asked
    as it was given. -/
theorem texts_given {name : String} (hnetwork : name ≠ "chainid") (hkey : name ≠ "apikey") :
    (lookup s given).texts name = (Fields.valuesOf given name).flatMap paramTexts := by
  rw [texts_lookup, lookupFields, Fields.valuesOf_insert_of_ne hkey,
    Fields.valuesOf_insert_of_ne hnetwork]

/-- **ONE NETWORK**: a look-up names the configured network and no other, whatever
    it was given. -/
theorem texts_network (h : (Fields.valuesOf given "chainid").length ≤ 1) :
    (lookup s given).texts "chainid" = [toString s.chainId] := by
  have hne : "chainid" ≠ "apikey" := by decide
  rw [texts_lookup, lookupFields, Fields.valuesOf_insert_of_ne hne, Fields.valuesOf_insert_self h]
  rfl

/-- **ONE KEY**: a look-up carries the configured key and no other, whatever it was
    given; it is the empty text if none is configured. -/
theorem texts_key (h : (Fields.valuesOf given "apikey").length ≤ 1) :
    (lookup s given).texts "apikey" = [s.explorerKey.getD ""] := by
  have hne : "apikey" ≠ "chainid" := by decide
  rw [← Fields.valuesOf_insert_of_ne hne given (.int s.chainId)] at h
  rw [texts_lookup, lookupFields, Fields.valuesOf_insert_self h]
  cases s.explorerKey <;> rfl

end Lookup

/-- The request asks the explorer for an action on an address, on the configured
    network and with the key. -/
structure IsLookup (s : Settings) (key address action : String) (r : Request) : Prop where
  isGet : r.isPost = false
  url : r.url = s.explorerUrl
  action : r.texts "action" = [action]
  /-- The look-up of a creator takes a list of addresses, under a name of its own. -/
  address : r.texts "address" ++ r.texts "contractaddresses" = [address]
  network : r.texts "chainid" = [toString s.chainId]
  key : r.texts "apikey" = [key]

/-- The look-ups of source, creator and latest transactions, in this order. -/
def AreLookups (s : Settings) (key address : String) (rs : List Request) : Prop :=
  ∃ source creation activity, rs = [source, creation, activity] ∧
    IsLookup s key address "getsourcecode" source ∧
    IsLookup s key address "getcontractcreation" creation ∧
    IsLookup s key address "txlist" activity ∧
    activity.texts "page" = ["1"] ∧ activity.texts "offset" = [toString s.recentTxLimit] ∧
    activity.texts "sort" = ["desc"]

theorem isLookup_of_given {s : Settings} {key address action : String} {given : Fields}
    (hkey : s.explorerKey = some key)
    (haction : Fields.valuesOf given "action" = [.str action])
    (haddress : Fields.valuesOf given "address" ++ Fields.valuesOf given "contractaddresses" =
      [.str address])
    (hnetwork : Fields.valuesOf given "chainid" = []) (hnone : Fields.valuesOf given "apikey" = []) :
    IsLookup s key address action (lookup s given) where
  isGet := rfl
  url := rfl
  action := by
    rw [texts_given (by decide) (by decide), haction]
    rfl
  address := by
    rw [texts_given (by decide) (by decide), texts_given (by decide) (by decide),
      ← List.flatMap_append, haddress]
    rfl
  network := texts_network (by simp [hnetwork])
  key := by rw [texts_key (by simp [hnone]), hkey]; rfl

theorem areLookups_lookups {s : Settings} {key : String} (hkey : s.explorerKey = some key)
    (address : String) : AreLookups s key address (lookups s address) := by
  refine ⟨_, _, _, rfl, ?_, ?_, ?_, ?_, ?_, ?_⟩
  · exact isLookup_of_given hkey rfl rfl rfl rfl
  · exact isLookup_of_given hkey rfl rfl rfl rfl
  · exact isLookup_of_given hkey rfl rfl rfl rfl
  · exact texts_given (by decide) (by decide)
  · exact texts_given (by decide) (by decide)
  · exact texts_given (by decide) (by decide)

/-! ## The two phases -/

/-- Providers are asked by posts. -/
theorem isPost_of_mem_askProviders {address : String} {urls : List String} {replies : List Reply}
    {r : Request} (h : r ∈ (askProviders address urls replies).requests) : r.isPost = true := by
  rcases firstProvider_or_none urls replies with ⟨k, url, code, wei, first⟩ | hnone
  · rw [first.run_eq address] at h
    rcases List.mem_append.mp h with hfailed | hwon
    · exact isPost_of_mem_failedAttempts hfailed
    · exact isPost_of_mem_attempt hwon
  · rw [run_eq_of_none hnone address] at h
    exact isPost_of_mem_failedAttempts h

/-- A state is that of the first provider that gives one. -/
theorem state_eq_some_iff {address : String} {urls : List String} {replies : List Reply}
    {state : ChainState} :
    (askProviders address urls replies).state = some state ↔
      ∃ k url code wei, FirstProvider urls replies k url code wei ∧ stateOf code wei = state := by
  constructor
  · intro h
    rcases firstProvider_or_none urls replies with ⟨k, url, code, wei, first⟩ | hnone
    · rw [first.run_eq address] at h
      exact ⟨k, url, code, wei, first, Option.some.inj h⟩
    · rw [run_eq_of_none hnone address] at h
      exact nomatch h
  · rintro ⟨k, url, code, wei, first, hstate⟩
    rw [first.run_eq address, hstate]

/-- Whether the explorer is asked: there is a code, and there is a key that is not
    empty. -/
theorem asksExplorer_iff {s : Settings} {state : ChainState} :
    asksExplorer s state = true ↔
      state.bytecode ≠ .str "0x" ∧ ∃ key, s.explorerKey = some key ∧ key ≠ "" := by
  rw [asksExplorer, Bool.and_eq_true_iff, Bool.not_eq_true', ← Bool.not_eq_true, Json.isText_iff]
  refine and_congr_right fun _ => ?_
  cases s.explorerKey <;> simp

/-- The requests of a fetch: those to the providers, and the look-ups if the
    explorer is asked. -/
theorem requests_fetchChecked (s : Settings) (address : String) (scripts : Scripts) :
    (fetchChecked s address scripts).requests =
      (askProviders address s.rpcUrls scripts.posts).requests ++
        if (askProviders address s.rpcUrls scripts.posts).state.any (asksExplorer s) then
          lookups s address
        else [] := by
  cases hstate : (askProviders address s.rpcUrls scripts.posts).state with
  | none =>
      rw [fetchChecked_of_none rfl hstate]
      simp
  | some state =>
      cases hasks : asksExplorer s state with
      | false =>
          rw [fetchChecked_of_quiet rfl hstate hasks]
          simp [hasks]
      | true =>
          rw [fetchChecked_of_asks rfl hstate hasks]
          simp [hasks]

/-- The posts decide whether the explorer is asked. -/
theorem any_asksExplorer_iff {s : Settings} {replies : List Reply} (address : String) :
    (askProviders address s.rpcUrls replies).state.any (asksExplorer s) = true ↔
      (∃ k url code wei, FirstProvider s.rpcUrls replies k url code wei ∧
        code.orElse (.str "0x") ≠ .str "0x") ∧
      ∃ key, s.explorerKey = some key ∧ key ≠ "" := by
  rw [Option.any_eq_true]
  constructor
  · rintro ⟨state, hstate, hasks⟩
    obtain ⟨k, url, code, wei, first, rfl⟩ := state_eq_some_iff.mp hstate
    obtain ⟨hcode, hkey⟩ := asksExplorer_iff.mp hasks
    exact ⟨⟨k, url, code, wei, first, hcode⟩, hkey⟩
  · rintro ⟨⟨k, url, code, wei, first, hcode⟩, hkey⟩
    exact ⟨stateOf code wei, state_eq_some_iff.mpr ⟨k, url, code, wei, first, rfl⟩,
      asksExplorer_iff.mpr ⟨hcode, hkey⟩⟩

/-- Of a text that is no address nothing is asked. -/
theorem fetch_of_not_isAddress {s : Settings} {address : String}
    (h : ¬ Chain.IsAddress (trimmed address)) (scripts : Scripts) :
    fetch s address scripts = ⟨.error .invalidAddress, [], scripts⟩ := by
  rw [fetch, if_neg (mt (Chain.isAddress_trimmed_iff address).mp h)]

/-- A fetch of a text that trims to an address is a fetch of that address. -/
theorem fetch_of_isAddress {s : Settings} {address : String}
    (h : Chain.IsAddress (trimmed address)) (scripts : Scripts) :
    fetch s address scripts = fetchChecked s (trimmed address) scripts :=
  fetch_eq_fetchChecked ((Chain.isAddress_trimmed_iff address).mpr h)

/-- A provider is asked for the code first. -/
theorem head?_requests_askProvider (address url : String) (replies : List Reply) :
    (askProvider address url replies).requests.head? = some (addressCall url codeCall address) := by
  simp only [askProvider]
  cases callResult codeCall (takeReply replies).1 with
  | error e => rfl
  | ok code => cases callResult balanceCall (takeReply (takeReply replies).2).1 <;> rfl

/-- **THE FIRST PROVIDER IS ALWAYS ASKED**: the first request about an address goes to
    the first node of the list. -/
theorem head?_requests_fetch {s : Settings} {address url : String}
    (h : Chain.IsAddress (trimmed address)) (hurl : s.rpcUrls.head? = some url)
    (scripts : Scripts) :
    (fetch s address scripts).requests.head? =
      some (addressCall url codeCall (trimmed address)) := by
  obtain ⟨urls, hurls⟩ := List.head?_eq_some_iff.mp hurl
  have hfirst := head?_requests_askProvider (trimmed address) url scripts.posts
  have hasked : (askProviders (trimmed address) s.rpcUrls scripts.posts).requests.head? =
      some (addressCall url codeCall (trimmed address)) := by
    rw [hurls, askProviders]
    split
    · exact hfirst
    · rw [List.head?_append, hfirst]
      rfl
  rw [fetch_of_isAddress h, requests_fetchChecked, List.head?_append, hasked]
  rfl

end Network

end ContractScan
