import ContractScan.Proofs.Network.Requests

/-! # The gate before a fetch

    A text passes the gate when an address stands between the blanks at its
    ends.  The test behind the gate is too generous by one line feed, and only
    since the blanks are cut off first nothing passes but an address.

    What has passed is handed on as it is: to every post, to every look-up and
    into the facts.  That is shown for the requests of one provider, then along
    the list of providers, and for the three look-ups apart, whose last one names
    the address in the same way as the first.

    **NOTHING BUT ADDRESSES IS ASKED ABOUT**: `only_addresses_pass`. -/

namespace ContractScan.Network

open ContractScan.Text

/-- The request is about this address and no other: a post asks for its latest
    state, and a query has it as the only address. -/
def Request.IsAbout (address : String) : Request → Prop
  | .post _ body => body.field? "params" = some (.arr [.str address, .str "latest"])
  | .get url params =>
      (Request.get url params).texts "address" ++
        (Request.get url params).texts "contractaddresses" = [address]

theorem isAbout_of_mem_attempt {address url : String} {r : Request} (h : r ∈ attempt address url) :
    r.IsAbout address := by
  rcases List.mem_cons.mp h with hcode | hrest
  · rw [hcode]
    rfl
  · rw [List.mem_singleton.mp hrest]
    rfl

theorem mem_attempt_of_mem_askProvider {address url : String} {replies : List Reply} {r : Request}
    (h : r ∈ (askProvider address url replies).requests) : r ∈ attempt address url := by
  rw [← List.drop_zero (l := replies)] at h
  by_cases hstate : HasState replies 0
  · obtain ⟨code, wei, hgives⟩ := hstate
    rwa [askProvider_of_givesState hgives] at h
  · rw [askProvider_of_not_hasState hstate] at h
    exact List.mem_of_mem_take h

/-- Every request to providers is one of the two posts to some provider. -/
theorem exists_attempt_of_mem_askProviders {address : String} {r : Request} :
    ∀ {urls : List String} {replies : List Reply},
      r ∈ (askProviders address urls replies).requests → ∃ url ∈ urls, r ∈ attempt address url := by
  intro urls
  induction urls with
  | nil =>
      intro replies h
      exact nomatch h
  | cons url urls ih =>
      intro replies h
      rw [askProviders] at h
      cases hstate : (askProvider address url replies).state with
      | some state =>
          simp only [hstate] at h
          exact ⟨url, List.mem_cons_self .., mem_attempt_of_mem_askProvider h⟩
      | none =>
          -- the providers behind it are asked with the replies that are left
          simp only [hstate] at h
          rcases List.mem_append.mp h with hhead | htail
          · exact ⟨url, List.mem_cons_self .., mem_attempt_of_mem_askProvider hhead⟩
          · obtain ⟨other, hmem, hr⟩ := ih htail
            exact ⟨other, List.mem_cons_of_mem _ hmem, hr⟩

/-- A look-up that is given one address is about it. -/
theorem isAbout_lookup {s : Settings} {given : Fields} {address : String}
    (h : Fields.valuesOf given "address" ++ Fields.valuesOf given "contractaddresses" =
      [.str address]) : (lookup s given).IsAbout address := by
  show (lookup s given).texts "address" ++ (lookup s given).texts "contractaddresses" = [address]
  rw [texts_given (by decide) (by decide), texts_given (by decide) (by decide),
    ← List.flatMap_append, h]
  rfl

theorem isAbout_of_mem_lookups {s : Settings} {address : String} {r : Request}
    (h : r ∈ lookups s address) : r.IsAbout address := by
  simp only [lookups, List.mem_cons, List.not_mem_nil, or_false] at h
  rcases h with h | h | h <;> rw [h] <;> exact isAbout_lookup rfl

section Checked

variable {s : Settings} {address : String} {scripts : Scripts}

/-- Every request of a fetch is about the address that was checked. -/
theorem isAbout_of_mem_requests {r : Request} (h : r ∈ (fetchChecked s address scripts).requests) :
    r.IsAbout address := by
  rw [requests_fetchChecked] at h
  rcases List.mem_append.mp h with hpost | hget
  · obtain ⟨url, -, hr⟩ := exists_attempt_of_mem_askProviders hpost
    exact isAbout_of_mem_attempt hr
  · split at hget
    · exact isAbout_of_mem_lookups hget
    · exact nomatch hget

/-- A checked address is not refused any more. -/
theorem fetchChecked_ne_invalidAddress :
    (fetchChecked s address scripts).result ≠ .error .invalidAddress := by
  intro herror
  rcases firstProvider_or_none s.rpcUrls scripts.posts with ⟨k, url, code, wei, first⟩ | hnone
  · obtain ⟨-, f, hf, -⟩ := first.error_of_error herror
    exact nomatch hf
  · rw [fetchChecked_of_noProvider hnone] at herror
    exact nomatch herror

/-- The facts are about the address that was checked. -/
theorem address_of_ok {info : ContractInfo}
    (hok : (fetchChecked s address scripts).result = .ok info) : info.address = .str address := by
  rcases firstProvider_or_none s.rpcUrls scripts.posts with ⟨k, url, code, wei, first⟩ | hnone
  · rcases first.facts_of_ok hok with ⟨-, hinfo⟩ | ⟨-, summary, -, hinfo⟩ <;> rw [hinfo] <;> rfl
  · rw [fetchChecked_of_noProvider hnone] at hok
    exact nomatch hok

end Checked

/-- **NOTHING BUT ADDRESSES IS ASKED ABOUT**: let `exact` be what stands in a text
    between the blanks at its ends.  If that is no address, the fetch says so,
    asks nothing and uses no reply, and it says so in no other case.  If it is
    one, every request and the facts are about it: forty-two characters, the last
    of them no line feed, although the test by itself lets one pass. -/
theorem only_addresses_pass (s : Settings) (text : String) (scripts : Scripts) :
    let exact := trimmed text
    let run := fetch s text scripts
    (∀ t : String, Trims text.toList t.toList ↔ t = exact) ∧
      (run.result = .error .invalidAddress ↔ ¬ Chain.IsAddress exact) ∧
      (¬ Chain.IsAddress exact → run.requests = [] ∧ run.rest = scripts) ∧
      (Chain.IsAddress exact →
        exact.length = 42 ∧ exact.toList.getLast? ≠ some '\n' ∧
        (∀ r ∈ run.requests, r.IsAbout exact) ∧
        ∀ info, run.result = .ok info → info.address = .str exact) ∧
      ∀ t : String, Chain.isAddress t.toList = true ↔
        Chain.IsAddress t ∨ ∃ u, Chain.IsAddress u ∧ t = u ++ "\n" := by
  intro exact run
  have htrims : ∀ t : String, Trims text.toList t.toList ↔ t = exact := by
    intro t
    rw [trims_iff, ← String.toList_inj, show exact.toList = trim text.toList from
      String.toList_ofList]
  refine ⟨htrims, ?_, ?_, ?_, Chain.isAddress_iff⟩
  · by_cases haddress : Chain.IsAddress exact
    · have hchecked : run = fetchChecked s exact scripts := fetch_of_isAddress haddress scripts
      rw [hchecked]
      exact iff_of_false fetchChecked_ne_invalidAddress (not_not_intro haddress)
    · have hrefused := fetch_of_not_isAddress (s := s) haddress scripts
      exact iff_of_true (congrArg FetchRun.result hrefused) haddress
  · intro haddress
    have hrefused := fetch_of_not_isAddress (s := s) haddress scripts
    exact ⟨congrArg FetchRun.requests hrefused, congrArg FetchRun.rest hrefused⟩
  · intro haddress
    have hchecked : run = fetchChecked s exact scripts := fetch_of_isAddress haddress scripts
    rw [hchecked]
    exact ⟨haddress.ends.1, haddress.ends.2, fun r hr => isAbout_of_mem_requests hr,
      fun info hok => address_of_ok hok⟩

end ContractScan.Network
