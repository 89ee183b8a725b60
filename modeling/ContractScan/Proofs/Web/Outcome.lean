import ContractScan.Proofs.Network.Shares
import ContractScan.Web.App

/-! # What comes of a request for an analysis

    Four layers can refuse a request for an analysis: the check of its body, the
    check of the address, the providers, and whatever goes wrong after them.
    They refuse in this order, each with a status of its own, and a layer is
    reached only when those before it let the request pass.  So the endings
    exclude each other (`Ending`), and each status tells one of them.

    The address is checked twice, by its length as it was sent and by its form
    after it was trimmed: blanks count for the first and not for the second.

    **EVERY REQUEST ENDS ONE WAY**: `ending_of_analyze_request`.  The statuses
    follow from it (`analyze_request_outcome`). -/

namespace ContractScan.Web

open ContractScan.Network ContractScan.Text ContractScan.Wire

/-! ## Bodies -/

/-- The body is an object whose address is this text, of 1 to 100 characters. -/
def AsksFor (v : Json) (address : String) : Prop :=
  ∃ fs, v = .obj fs ∧ Fields.find? fs "address" = some (.str address) ∧
    1 ≤ address.length ∧ address.length ≤ 100

/-- A body asks for one address at most. -/
theorem AsksFor.unique {v : Json} {a b : String} (ha : AsksFor v a) (hb : AsksFor v b) : a = b := by
  obtain ⟨fs, rfl, hfinda, -⟩ := ha
  obtain ⟨gs, hgs, hfindb, -⟩ := hb
  cases hgs
  exact Json.str.inj (Option.some.inj (hfinda.symm.trans hfindb))

theorem checkAddress_eq_ok_iff {s t : String} :
    checkAddress s = .ok t ↔ s = t ∧ 1 ≤ s.length ∧ s.length ≤ 100 := by
  by_cases hshort : s.length < 1
  · rw [checkAddress, if_pos hshort]
    exact iff_of_false nofun (by omega)
  · by_cases hlong : 100 < s.length
    · rw [checkAddress, if_neg hshort, if_pos hlong]
      exact iff_of_false nofun (by omega)
    · rw [checkAddress, if_neg hshort, if_neg hlong, Except.ok.injEq]
      exact (and_iff_left (by omega)).symm

/-- The parts of an object are its fields. -/
theorem partOf?_fields (fs : Fields) (name : String) :
    partOf? (fs.map fun f => (f.1, Datum.value f.2)) name =
      (Fields.find? fs name).map Datum.value := by
  induction fs with
  | nil => rfl
  | cons f rest ih =>
      obtain ⟨k, v⟩ := f
      by_cases hk : k = name
      · subst hk
        simp [partOf?, Fields.find?]
      · rw [Fields.find?, if_neg hk, ← ih]
        simp [partOf?, hk]

/-- The address of a request has one name, inside and outside. -/
theorem find?_address (fs : Fields) :
    Name.address.find? (fs.map fun f => (f.1, Datum.value f.2)) =
      (Fields.find? fs "address").map fun v => ("address", Datum.value v) := by
  rw [FieldName.find?, partOf?_fields, partOf?_fields]
  simp only [Name.address, FieldName.word]
  cases Fields.find? fs "address" <;> rfl

/-- A request is taken from the fields of an object exactly when the address
    among them is a text of the right length. -/
theorem checkParts_eq_valid_iff {fs : Fields} {a : String} :
    AnalyzeRequest.checkParts (fs.map fun f => (f.1, Datum.value f.2)) = .valid ⟨a⟩ ↔
      Fields.find? fs "address" = some (.str a) ∧ 1 ≤ a.length ∧ a.length ≤ 100 := by
  rw [AnalyzeRequest.checkParts, required, find?_address]
  cases Fields.find? fs "address" with
  | none =>
      constructor
      · intro h
        cases h
      · rintro ⟨h, -⟩
        cases h
  | some w =>
      cases w with
      | str s =>
          have hcheck : AnalyzeRequest.mk <$> (Checked.ofExcept (checkAddress s)).under
              (.field "address") = .valid ⟨a⟩ ↔ checkAddress s = .ok a := by
            cases checkAddress s with
            | ok t =>
                show Checked.valid (AnalyzeRequest.mk t) = .valid ⟨a⟩ ↔ _
                simp
            | error e =>
                constructor <;>
                  · intro h
                    cases h
          refine hcheck.trans (checkAddress_eq_ok_iff.trans ?_)
          constructor
          · rintro ⟨rfl, hlength⟩
            exact ⟨rfl, hlength⟩
          · rintro ⟨hs, hlength⟩
            cases hs
            exact ⟨rfl, hlength⟩
      | _ =>
          constructor
          · intro h
            cases h
          · rintro ⟨h, -⟩
            cases h

/-- What the check of a body gives is what the body asks for. -/
theorem valid_iff_asksFor {v : Json} {a : String} :
    fromParts AnalyzeRequest.checkParts (.value v) = .valid ⟨a⟩ ↔ AsksFor v a := by
  cases v with
  | obj fs =>
      refine checkParts_eq_valid_iff.trans ⟨fun h => ⟨fs, rfl, h⟩, ?_⟩
      rintro ⟨gs, hgs, h⟩
      cases hgs
      exact h
  | _ =>
      refine iff_of_false nofun ?_
      rintro ⟨gs, hgs, -⟩
      exact nomatch hgs

/-- A body that is read is not empty. -/
theorem isEmpty_of_readBytes {body : Json.Bytes} {v : Json} (h : Json.readBytes body = .ok v) :
    body.isEmpty = false := by
  cases body with
  | nil => exact nomatch h
  | cons b bs => rfl

section Body

variable {r : HttpRequest} {v : Json} (htype : isJsonType (r.header? "content-type") = true)
  (hbody : Json.readBytes r.body = .ok v)

include htype hbody

theorem readBody_of_asksFor {a : String} (h : AsksFor v a) : readBody r = .ok ⟨a⟩ := by
  simp only [readBody, isEmpty_of_readBytes hbody, Bool.false_eq_true, if_false, htype, if_true,
    hbody, valid_iff_asksFor.mpr h, Checked.under]

theorem readBody_of_not_asksFor (h : ∀ a, ¬ AsksFor v a) :
    ∃ issues, readBody r = .error (unprocessable issues) := by
  cases hcheck : fromParts AnalyzeRequest.checkParts (.value v) with
  | valid q => exact absurd (valid_iff_asksFor.mp hcheck) (h q.address)
  | invalid issues =>
      refine ⟨issues.map (Issue.under (.field "body")), ?_⟩
      simp only [readBody, isEmpty_of_readBytes hbody, Bool.false_eq_true, if_false, htype, if_true,
        hbody, hcheck, Checked.under]

end Body

/-- A body that is refused is refused by one of two statuses. -/
theorem status_of_readBody {r : HttpRequest} {refused : HttpResponse}
    (h : readBody r = .error refused) : refused.status = 422 ∨ refused.status = 400 := by
  unfold readBody at h
  split at h
  · cases h
    exact Or.inl rfl
  · split at h
    · split at h
      · split at h
        · exact nomatch h
        · cases h
          exact Or.inl rfl
      · cases h
        exact Or.inl rfl
      · cases h
        exact Or.inr rfl
    · cases h
      exact Or.inl rfl

/-! ## Routes -/

/-- The path of the analysis leads to one route. -/
theorem routes_analyze (app : Settings) :
    (routes app).filter (·.path == "/api/analyze") = [⟨"/api/analyze", ["POST"], .analyze⟩] := by
  cases happ : app.isProduction <;> simp only [routes, happ] <;> decide

theorem dispatch_analyze {r : HttpRequest} (hmethod : r.method = "POST")
    (hpath : r.path = "/api/analyze") (app services : Settings) (scripts : Scripts) :
    dispatch app services scripts r = Endpoint.analyze.serve services scripts r := by
  rw [dispatch, hpath, routes_analyze, hmethod]
  rfl

/-- A request that does not ask for permission is served as its route serves it, but
    for the headers. -/
theorem handle_eq_dispatch {r : HttpRequest} (hmethod : r.method ≠ "OPTIONS")
    (app services : Settings) (scripts : Scripts) :
    ∃ headers failed, handle app services scripts r =
      ⟨(dispatch app services scripts r).response.withHeaders headers,
        (dispatch app services scripts r).requests, failed⟩ := by
  have hsame : ∀ served : Served,
      served = ⟨served.response.withHeaders [], served.requests, served.failed⟩ := by
    intro served
    rw [HttpResponse.withHeaders, List.append_nil]
  rw [handle]
  cases r.header? "origin" with
  | none => exact ⟨[], _, hsame _⟩
  | some origin =>
      simp only [if_neg hmethod]
      split
      · exact ⟨[], _, hsame _⟩
      · exact ⟨_, _, rfl⟩

/-! ## What is told -/

/-- A finding under its names outside. -/
def findingImage (f : Finding) : Json :=
  .obj [("tool", .str f.tool), ("severity", .str f.severity.name),
    ("description", .str f.description), ("location", .str f.location), ("layman", .str f.layman),
    ("technical", .str f.technical), ("snippet", f.snippet.elim .null .str)]

/-- A report under its names outside, findings and progress in order. -/
def reportImage (r : Report) : Json :=
  .obj [("findings", .arr (r.findings.map findingImage)), ("score", .int r.score),
    ("interpretation", .str r.interpretation), ("contractType", .str r.contractType),
    ("contractDescription", .str r.contractDescription), ("logs", .arr (r.logs.map .str))]

/-- Facts under their names outside: the length of the code stands for the code, and
    the source is not told. -/
def factsImage (i : ContractInfo) (size : Nat) : Json :=
  .obj [("address", i.address), ("isContract", i.isContract), ("balance", i.balance),
    ("bytecodeSize", .int size), ("isVerified", i.isVerified), ("contractName", i.contractName),
    ("creator", i.creator), ("analytics", i.analytics)]

/-- Facts that are accepted are told as they are. -/
theorem dump_of_check {info : ContractInfo} (hfetched : info.IsFetched) {facts : ContractSummary}
    (hcheck : ContractSummary.check (.ofContractInfo info) = .valid facts) :
    ∃ n, info.bytecode.length? = some n ∧ facts.dump .camel = factsImage info n := by
  obtain ⟨⟨n, hn⟩, ⟨name, hname⟩, creator, hcreator⟩ := hfetched.accepted_iff.mp ⟨facts, hcheck⟩
  obtain ⟨address, haddress⟩ := hfetched.address
  obtain ⟨contract, hcontract⟩ := hfetched.isContract
  obtain ⟨verified, hverified⟩ := hfetched.isVerified
  obtain ⟨balance, hbalance⟩ := hfetched.balance
  obtain ⟨analytics, hanalytics⟩ := hfetched.analytics
  have hvalid : ContractSummary.check (.ofContractInfo info) =
      .valid ⟨address, contract, balance, n, verified, name, creator, analytics⟩ := by
    simp only [Datum.ofContractInfo, ContractInfo.toFields, haddress, hcontract, hbalance, hn,
      hverified, hname, hcreator, hanalytics]
    rfl
  cases hvalid.symm.trans hcheck
  refine ⟨n, hn, ?_⟩
  simp only [factsImage, haddress, hcontract, hbalance, hverified, hname, hcreator, hanalytics]
  rfl

/-- **THE ANSWER** about fetched facts tells the facts and their report. -/
theorem dump_of_answerFor {services : Settings} {info : ContractInfo}
    (hfetched : info.IsFetched) {answer : AnalyzeResponse}
    (h : answerFor services info = some answer) :
    ∃ n report, info.bytecode.length? = some n ∧
      Report.generate { contextLines := services.snippetContextLines } info = .ok report ∧
      answer.dump .camel =
        .obj [("info", factsImage info n), ("analysis", reportImage report)] := by
  rw [answerFor] at h
  cases hreport : Report.generate { contextLines := services.snippetContextLines } info with
  | error e =>
      rw [hreport] at h
      exact nomatch h
  | ok report =>
      obtain ⟨hleast, hmost⟩ := Report.score_of_generate hreport
      simp only [hreport, checkReport_ofReport hleast hmost] at h
      cases hcheck : ContractSummary.check (.ofContractInfo info) with
      | invalid issues =>
          rw [hcheck] at h
          exact nomatch h
      | valid facts =>
          rw [hcheck] at h
          obtain ⟨n, hn, hdump⟩ := dump_of_check hfetched hcheck
          refine ⟨n, report, hn, rfl, ?_⟩
          rw [← Option.some.inj h, ← hdump]
          rfl

/-- Well formed facts have an answer. -/
theorem exists_answerFor {info : ContractInfo} (hfetched : info.IsFetched)
    (hwell : info.WellFormed) (services : Settings) :
    ∃ answer, answerFor services info = some answer := by
  obtain ⟨report, hreport, hanalysis⟩ := (hfetched.reported_iff services.snippetContextLines).mpr
    ⟨hwell.hasLength, hwell.isTextOrAbsent⟩
  obtain ⟨facts, hfacts⟩ := hfetched.accepted_iff.mpr
    ⟨hwell.hasLength, hwell.contractName, hwell.creator⟩
  exact ⟨⟨facts, report⟩, by simp only [answerFor, hreport, hfacts, hanalysis]⟩

/-! ## Endings -/

/-- The endings of a fetch: there is no address, nobody gives the state, or
    somebody does, and then there are facts unless the transactions do not add
    up. -/
theorem endings_of_fetch (s : Settings) (address : String) (scripts : Scripts) :
    (¬ Chain.IsAddress (trimmed address) ∧
        fetch s address scripts = ⟨.error .invalidAddress, [], scripts⟩) ∨
      Chain.IsAddress (trimmed address) ∧
        (((∀ k < s.rpcUrls.length, ¬ HasState scripts.posts (firstPost scripts.posts 0 k)) ∧
            (fetch s address scripts).result = .error .noProvider) ∨
          (∃ k < s.rpcUrls.length, HasState scripts.posts (firstPost scripts.posts 0 k)) ∧
            ((∃ f, (fetch s address scripts).result = .error (.summary f)) ∨
              ∃ info, (fetch s address scripts).result = .ok info)) := by
  by_cases haddress : Chain.IsAddress (trimmed address)
  · right
    rw [fetch_of_isAddress haddress]
    refine ⟨haddress, ?_⟩
    rcases firstProvider_or_none s.rpcUrls scripts.posts with ⟨k, url, code, wei, first⟩ | hnone
    · right
      refine ⟨⟨k, first.lt_length, code, wei, first.gives⟩, ?_⟩
      cases hresult : (fetchChecked s (trimmed address) scripts).result with
      | ok info => exact Or.inr ⟨info, rfl⟩
      | error e =>
          obtain ⟨-, f, hf, -⟩ := first.error_of_error hresult
          exact Or.inl ⟨f, by rw [hf]⟩
    · left
      rw [fetchChecked_of_noProvider hnone]
      exact ⟨hnone, rfl⟩
  · left
    exact ⟨haddress, fetch_of_not_isAddress haddress scripts⟩

/-- How a request with the body `v` ends. -/
inductive Ending (services : Settings) (scripts : Scripts) (v : Json) (status : Nat)
    (content : Content) (requests : List Request) : Prop where
  /-- The body does not ask for an address. -/
  | unread : (∀ a, ¬ AsksFor v a) → status = 422 → requests = [] →
      Ending services scripts v status content requests
  /-- What it asks for is no address. -/
  | noAddress {a : String} : AsksFor v a → ¬ Chain.IsAddress (trimmed a) → status = 400 →
      requests = [] → Ending services scripts v status content requests
  /-- No provider gives the state of the address. -/
  | noProvider {a : String} : AsksFor v a → Chain.IsAddress (trimmed a) →
      (∀ k < services.rpcUrls.length, ¬ HasState scripts.posts (firstPost scripts.posts 0 k)) →
      status = 502 → Ending services scripts v status content requests
  /-- There are no facts, or some of them are of a wrong kind. -/
  | failed {a : String} : AsksFor v a → Chain.IsAddress (trimmed a) →
      (∃ k < services.rpcUrls.length, HasState scripts.posts (firstPost scripts.posts 0 k)) →
      (∀ info, (fetch services a scripts).result = .ok info → ¬ info.WellFormed) →
      status = 500 → Ending services scripts v status content requests
  /-- The facts and their report are told. -/
  | told {a : String} {info : ContractInfo} {n : Nat} {report : Report} :
      AsksFor v a → Chain.IsAddress (trimmed a) →
      (∃ k < services.rpcUrls.length, HasState scripts.posts (firstPost scripts.posts 0 k)) →
      (fetch services a scripts).result = .ok info → info.bytecode.length? = some n →
      Report.generate { contextLines := services.snippetContextLines } info = .ok report →
      status = 200 →
      content = .json (.obj [("info", factsImage info n), ("analysis", reportImage report)]) →
      Ending services scripts v status content requests

section Status

variable {services : Settings} {scripts : Scripts} {v : Json} {status : Nat} {content : Content}
  {requests : List Request}

/-- Only a body that does not ask for an address is answered by 422, and nothing is
    asked then. -/
theorem Ending.unread_iff (h : Ending services scripts v status content requests) :
    (status = 422 ↔ ¬ ∃ a, AsksFor v a) ∧ ((¬ ∃ a, AsksFor v a) → requests = []) := by
  cases h with
  | unread hnone hstatus hrequests =>
      exact ⟨iff_of_true hstatus (not_exists.mpr hnone), fun _ => hrequests⟩
  | noAddress ha _ hstatus _ | noProvider ha _ _ hstatus | failed ha _ _ _ hstatus
  | told ha _ _ _ _ _ hstatus _ =>
      refine ⟨iff_of_false (by omega) (not_not_intro ⟨_, ha⟩), ?_⟩
      intro hnone
      exact absurd ⟨_, ha⟩ hnone

/-- The status of the answer to a body that asks for an address: 400 if it is none,
    502 if no provider gives its state, and otherwise 200 if the facts are told. -/
theorem Ending.of_asksFor (h : Ending services scripts v status content requests) {a : String}
    (ha : AsksFor v a) :
    (status = 400 ↔ ¬ Chain.IsAddress (trimmed a)) ∧
      (¬ Chain.IsAddress (trimmed a) → requests = []) ∧
      (Chain.IsAddress (trimmed a) → (status = 502 ↔
        ∀ k < services.rpcUrls.length, ¬ HasState scripts.posts (firstPost scripts.posts 0 k))) ∧
      (status = 200 → ∃ info n report, (fetch services a scripts).result = .ok info ∧
        info.bytecode.length? = some n ∧
        Report.generate { contextLines := services.snippetContextLines } info = .ok report ∧
        content = .json (.obj [("info", factsImage info n), ("analysis", reportImage report)])) ∧
      ∀ info, (fetch services a scripts).result = .ok info → info.WellFormed → status = 200 := by
  cases h with
  | unread hnone => exact absurd ha (hnone a)
  | noAddress hb hnot hstatus hrequests =>
      obtain rfl := ha.unique hb
      refine ⟨iff_of_true hstatus hnot, fun _ => hrequests, fun haddress => absurd haddress hnot,
        by omega, ?_⟩
      intro info hok
      rw [fetch_of_not_isAddress hnot] at hok
      exact nomatch hok
  | noProvider hb haddress hnone hstatus =>
      obtain rfl := ha.unique hb
      refine ⟨iff_of_false (by omega) (not_not_intro haddress), fun hnot => absurd haddress hnot,
        fun _ => iff_of_true hstatus hnone, by omega, ?_⟩
      intro info hok
      obtain ⟨⟨k, url, code, wei, first⟩, -⟩ := exists_firstProvider_of_ok hok
      exact absurd ⟨code, wei, first.gives⟩ (hnone k first.lt_length)
  | failed hb haddress hstate hnone hstatus =>
      obtain rfl := ha.unique hb
      obtain ⟨k, hk, hgives⟩ := hstate
      refine ⟨iff_of_false (by omega) (not_not_intro haddress), fun hnot => absurd haddress hnot,
        fun _ => iff_of_false (by omega) (fun hall => hall k hk hgives), by omega, ?_⟩
      intro info hok hwell
      exact absurd hwell (hnone info hok)
  | told hb haddress hstate hfetch hn hreport hstatus hcontent =>
      obtain rfl := ha.unique hb
      obtain ⟨k, hk, hgives⟩ := hstate
      refine ⟨iff_of_false (by omega) (not_not_intro haddress), fun hnot => absurd haddress hnot,
        fun _ => iff_of_false (by omega) (fun hall => hall k hk hgives), ?_, fun _ _ _ => hstatus⟩
      intro _
      exact ⟨_, _, _, hfetch, hn, hreport, hcontent⟩

end Status

/-- What is served to a request for an address ends one way. -/
theorem ending_of_serveAnalysis (services : Settings) (scripts : Scripts) {v : Json} {a : String}
    (h : AsksFor v a) :
    let served := serveAnalysis services scripts ⟨a⟩
    Ending services scripts v served.response.status served.response.content served.requests := by
  intro served
  rcases endings_of_fetch services a scripts with
    ⟨hnot, hfetch⟩ | ⟨haddress, ⟨hnone, hfetch⟩ | ⟨hstate, ⟨f, hfetch⟩ | ⟨info, hfetch⟩⟩⟩
  · simp only [served, serveAnalysis, hfetch]
    exact .noAddress h hnot rfl rfl
  · simp only [served, serveAnalysis, hfetch]
    exact .noProvider h haddress hnone rfl
  · have hnone : ∀ info, (fetch services a scripts).result = .ok info → ¬ info.WellFormed := by
      intro info hok
      exact nomatch hfetch.symm.trans hok
    simp only [served, serveAnalysis, hfetch]
    exact .failed h haddress hstate hnone rfl
  · cases hanswer : answerFor services info with
    | none =>
        have hnone : ∀ i, (fetch services a scripts).result = .ok i → ¬ i.WellFormed := by
          intro i hok hwell
          cases hfetch.symm.trans hok
          obtain ⟨answer, hsome⟩ := exists_answerFor (isFetched_of_ok hfetch) hwell services
          exact nomatch hanswer.symm.trans hsome
        simp only [served, serveAnalysis, hfetch, hanswer]
        exact .failed h haddress hstate hnone rfl
    | some answer =>
        obtain ⟨n, report, hn, hreport, hdump⟩ :=
          dump_of_answerFor (isFetched_of_ok hfetch) hanswer
        simp only [served, serveAnalysis, hfetch, hanswer]
        exact .told h haddress hstate hfetch hn hreport rfl (congrArg Content.json hdump)

/-- A request for an analysis is served as its body is worth, but for the headers. -/
theorem exists_handle_eq (app services : Settings) (scripts : Scripts) {r : HttpRequest}
    (hmethod : r.method = "POST") (hpath : r.path = "/api/analyze") :
    let routed := Endpoint.analyze.serve services scripts r
    ∃ headers failed, handle app services scripts r =
      ⟨routed.response.withHeaders headers, routed.requests, failed⟩ := by
  have hask : r.method ≠ "OPTIONS" := by
    rw [hmethod]
    decide
  rw [← dispatch_analyze hmethod hpath app]
  exact handle_eq_dispatch hask app services scripts

/-- What the route serves ends one way. -/
theorem ending_of_serve (services : Settings) (scripts : Scripts) {r : HttpRequest} {v : Json}
    (htype : isJsonType (r.header? "content-type") = true)
    (hbody : Json.readBytes r.body = .ok v) :
    let routed := Endpoint.analyze.serve services scripts r
    Ending services scripts v routed.response.status routed.response.content routed.requests := by
  intro routed
  by_cases h : ∃ a, AsksFor v a
  · obtain ⟨a, ha⟩ := h
    have hrouted : routed = serveAnalysis services scripts ⟨a⟩ := by
      simp only [routed, Endpoint.serve, readBody_of_asksFor htype hbody ha]
    rw [hrouted]
    exact ending_of_serveAnalysis services scripts ha
  · have hnone : ∀ a, ¬ AsksFor v a := not_exists.mp h
    obtain ⟨issues, hissues⟩ := readBody_of_not_asksFor htype hbody hnone
    have hrouted : routed = { response := unprocessable issues } := by
      simp only [routed, Endpoint.serve, hissues]
    rw [hrouted]
    exact .unread hnone rfl rfl

/-- **EVERY REQUEST ENDS ONE WAY**: a request for an analysis with a body that is read
    comes to one of the endings, whatever its headers are. -/
theorem ending_of_analyze_request (app services : Settings) (scripts : Scripts) {r : HttpRequest}
    {v : Json} (hmethod : r.method = "POST") (hpath : r.path = "/api/analyze")
    (htype : isJsonType (r.header? "content-type") = true)
    (hbody : Json.readBytes r.body = .ok v) :
    let served := handle app services scripts r
    Ending services scripts v served.response.status served.response.content served.requests := by
  intro served
  obtain ⟨headers, failed, hserved⟩ := exists_handle_eq app services scripts hmethod hpath
  unfold served
  rw [hserved]
  exact ending_of_serve services scripts htype hbody

/-- A body that cannot be read, or is not said to be JSON, is refused before anything
    is asked of the outside world, too. -/
theorem refused_request_asks_nothing (app services : Settings) (scripts : Scripts)
    {r : HttpRequest} (hmethod : r.method = "POST") (hpath : r.path = "/api/analyze")
    {refused : HttpResponse} (hbody : readBody r = .error refused) :
    let served := handle app services scripts r
    (served.response.status = 422 ∨ served.response.status = 400) ∧ served.requests = [] := by
  intro served
  have hstatus : refused.status = 422 ∨ refused.status = 400 := status_of_readBody hbody
  obtain ⟨headers, failed, hserved⟩ := exists_handle_eq app services scripts hmethod hpath
  have hrouted : Endpoint.analyze.serve services scripts r = { response := refused } := by
    rw [Endpoint.serve, hbody]
  unfold served
  rw [hserved, hrouted]
  exact ⟨hstatus, rfl⟩

/-- A request for an address with blanks around it. -/
def paddedRequest : HttpRequest where
  method := "POST"
  target := "/api/analyze?from=test"
  headers := [("Origin", "http://localhost:3000")]
  body := Json.encode ("\x7b\"address\": \" " ++ sampleAddress ++ " \"\x7d")

/-- What a body can be seen to ask for. -/
theorem exists_asksFor_of_text {body : Json.Bytes} {a : String}
    (h : ((Json.readBytes body).toOption.bind (Json.field? · "address")).bind Json.text? = some a)
    (hlength : 1 ≤ a.length ∧ a.length ≤ 100) :
    ∃ v, Json.readBytes body = .ok v ∧ AsksFor v a := by
  cases hbody : Json.readBytes body with
  | error e =>
      rw [hbody] at h
      exact nomatch h
  | ok v =>
      rw [hbody] at h
      cases v with
      | obj fs =>
          have htext : (Fields.find? fs "address").getD .null = .str a :=
            Json.text?_eq_some_iff.mp h
          cases hfind : Fields.find? fs "address" with
          | none =>
              rw [hfind] at htext
              exact nomatch htext
          | some w =>
              rw [hfind] at htext
              exact ⟨.obj fs, rfl, fs, rfl, hfind.trans (congrArg some htext), hlength⟩
      | _ => exact nomatch h

end ContractScan.Web
