import ContractScan.Network.Session
import ContractScan.Proofs.Network.Requests

/-! # What a session carries from step to step

    The steps of a session share the scripts, and nothing else.  Each fetch uses
    up one reply for each request it made, posts and gets apart, also a fetch
    that is refused, that finds no provider, that leaves a provider halfway, or
    that fails after its look-ups (`rest_fetch`).  So the scripts that a step
    finds are told by the requests made before it, and a step that makes no
    request finds and leaves nothing.

    **NOTHING ELSE IS CARRIED**: `session_carries_only_replies`. -/

namespace ContractScan.Network

open ContractScan.Text

/-! ## Replies are used up one by one -/

/-- The scripts that are left after requests: one reply is gone for each. -/
def Scripts.after (s : Scripts) (rs : List Request) : Scripts :=
  ⟨s.posts.drop (rs.countP Request.isPost), s.gets.drop (rs.countP fun r => !r.isPost)⟩

@[simp] theorem Scripts.after_nil (s : Scripts) : s.after [] = s := rfl

/-- Requests one after the other use up the replies of both. -/
theorem Scripts.after_append (s : Scripts) (rs qs : List Request) :
    s.after (rs ++ qs) = (s.after rs).after qs := by
  simp only [after, List.countP_append, List.drop_drop]

/-- Posts leave the gets alone. -/
theorem Scripts.after_of_posts {s : Scripts} {rs : List Request}
    (h : ∀ r ∈ rs, r.isPost = true) : s.after rs = ⟨s.posts.drop rs.length, s.gets⟩ := by
  have hposts : rs.countP Request.isPost = rs.length := List.countP_eq_length.mpr h
  have hgets : (rs.countP fun r => !r.isPost) = 0 := by
    rw [List.countP_eq_zero]
    intro r hr
    rw [h r hr]
    exact Bool.false_ne_true
  rw [after, hposts, hgets]
  rfl

/-- Asking providers uses up as many replies as it makes posts. -/
theorem rest_askProviders (address : String) (urls : List String) (replies : List Reply) :
    (askProviders address urls replies).rest =
      replies.drop (askProviders address urls replies).requests.length := by
  rcases firstProvider_or_none urls replies with ⟨k, url, code, wei, first⟩ | hnone
  · rw [first.run_eq address, List.length_append, first.length_failedAttempts address]
    rfl
  · have hcount := length_failedAttempts address replies 0 urls
    rw [Nat.zero_add] at hcount
    rw [run_eq_of_none hnone address, hcount]

/-- The replies left by the providers, seen as what is left of both scripts. -/
theorem after_askProviders (address : String) (urls : List String) (scripts : Scripts) :
    scripts.after (askProviders address urls scripts.posts).requests =
      ⟨(askProviders address urls scripts.posts).rest, scripts.gets⟩ := by
  rw [Scripts.after_of_posts fun r hr => isPost_of_mem_askProviders hr, rest_askProviders]

theorem after_lookups (scripts : Scripts) (s : Settings) (address : String) :
    scripts.after (lookups s address) = ⟨scripts.posts, scripts.gets.drop 3⟩ := rfl

theorem rest_fetchChecked (s : Settings) (address : String) (scripts : Scripts) :
    (fetchChecked s address scripts).rest =
      scripts.after (fetchChecked s address scripts).requests := by
  cases hstate : (askProviders address s.rpcUrls scripts.posts).state with
  | none => rw [fetchChecked_of_none rfl hstate, after_askProviders]
  | some state =>
      cases hasks : asksExplorer s state with
      | false => rw [fetchChecked_of_quiet rfl hstate hasks, after_askProviders]
      | true =>
          -- the three look-ups follow the posts, whether or not their answers add up
          rw [fetchChecked_of_asks rfl hstate hasks, Scripts.after_append, after_askProviders,
            after_lookups]

/-- **ONE REPLY FOR EACH REQUEST**: a fetch leaves the replies that its requests did
    not use, however it ends. -/
theorem rest_fetch (s : Settings) (address : String) (scripts : Scripts) :
    (fetch s address scripts).rest = scripts.after (fetch s address scripts).requests := by
  by_cases h : Chain.IsAddress (trimmed address)
  · rw [fetch_of_isAddress h, rest_fetchChecked]
  · rw [fetch_of_not_isAddress h]
    rfl

/-! ## One step -/

/-- Whether a step asks the outside world. -/
def SessionStep.asks : SessionStep → Bool
  | .analyze _ => false
  | .report _ => false
  | .fetch _ => true
  | .pipeline _ => true

/-- The requests that a step made. -/
def StepOutcome.requests : StepOutcome → List Request
  | .scanned _ => []
  | .reported _ => []
  | .fetched _ rs => rs
  | .piped _ rs => rs

namespace Services

variable {v : Services}

/-- What comes of a step that is the first on the scripts. -/
def alone (v : Services) (step : SessionStep) (scripts : Scripts) : StepOutcome :=
  (v.step step scripts).1

/-- Services that take one step only. -/
theorem run_singleton (step : SessionStep) (scripts : Scripts) :
    v.run [step] scripts = [v.alone step scripts] := rfl

/-- **THE STEP LEMMA**: a step leaves the replies that its requests did not use. -/
theorem step_eq (step : SessionStep) (scripts : Scripts) :
    v.step step scripts =
      (v.alone step scripts, scripts.after (v.alone step scripts).requests) := by
  cases step with
  | analyze facts => rfl
  | report facts => rfl
  | fetch address => exact congrArg (Prod.mk _) (rest_fetch v.settings address scripts)
  | pipeline address => exact congrArg (Prod.mk _) (rest_fetch v.settings address scripts)

theorem run_cons (step : SessionStep) (steps : List SessionStep) (scripts : Scripts) :
    v.run (step :: steps) scripts =
      v.alone step scripts ::
        v.run steps (scripts.after (v.alone step scripts).requests) := by
  rw [run, step_eq]

/-- A step that asks nobody makes no request. -/
theorem requests_of_not_asks {step : SessionStep} (h : step.asks = false) (scripts : Scripts) :
    (v.alone step scripts).requests = [] := by
  cases step with
  | analyze facts => rfl
  | report facts => rfl
  | fetch address => exact nomatch h
  | pipeline address => exact nomatch h

/-- A step that asks nobody comes out the same on all scripts. -/
theorem alone_of_not_asks {step : SessionStep} (h : step.asks = false)
    (scripts scripts' : Scripts) : v.alone step scripts = v.alone step scripts' := by
  cases step with
  | analyze facts => rfl
  | report facts => rfl
  | fetch address => exact nomatch h
  | pipeline address => exact nomatch h

/-! ## A whole session -/

/-- The requests of the first `i` steps. -/
def requestsBefore (v : Services) (steps : List SessionStep) (scripts : Scripts) (i : Nat) :
    List Request :=
  ((v.run steps scripts).take i).flatMap StepOutcome.requests

/-- **THE RUN LEMMA**: each step comes out as on its own, on the replies that the
    requests before it did not use. -/
theorem getElem?_run (steps : List SessionStep) (scripts : Scripts) (i : Nat) :
    (v.run steps scripts)[i]? =
      steps[i]?.map fun step => v.alone step (scripts.after (v.requestsBefore steps scripts i)) := by
  induction steps generalizing scripts i with
  | nil => rfl
  | cons step steps ih =>
      cases i with
      | zero =>
          rw [run_cons]
          rfl
      | succ i =>
          have hbefore : v.requestsBefore (step :: steps) scripts (i + 1) =
              (v.alone step scripts).requests ++
                v.requestsBefore steps (scripts.after (v.alone step scripts).requests) i := by
            rw [requestsBefore, run_cons, List.take_succ_cons, List.flatMap_cons]
            rfl
          rw [hbefore, Scripts.after_append, run_cons, List.getElem?_cons_succ,
            List.getElem?_cons_succ]
          exact ih _ i

theorem length_run (steps : List SessionStep) (scripts : Scripts) :
    (v.run steps scripts).length = steps.length := by
  induction steps generalizing scripts with
  | nil => rfl
  | cons step steps ih => rw [run_cons, List.length_cons, List.length_cons, ih]

/-- The steps that ask, each with what came of it. -/
def asking (v : Services) (steps : List SessionStep) (scripts : Scripts) :
    List (SessionStep × StepOutcome) :=
  (steps.zip (v.run steps scripts)).filter (·.1.asks)

theorem asking_cons (step : SessionStep) (steps : List SessionStep) (scripts : Scripts) :
    v.asking (step :: steps) scripts =
      if step.asks then
        (step, v.alone step scripts) ::
          v.asking steps (scripts.after (v.alone step scripts).requests)
      else v.asking steps (scripts.after (v.alone step scripts).requests) := by
  rw [asking, run_cons, List.zip_cons_cons, List.filter_cons]
  rfl

/-- The steps that ask come out as in the session that has no other steps. -/
theorem asking_eq (steps : List SessionStep) (scripts : Scripts) :
    v.asking steps scripts =
      (steps.filter SessionStep.asks).zip (v.run (steps.filter SessionStep.asks) scripts) := by
  induction steps generalizing scripts with
  | nil => rfl
  | cons step steps ih =>
      rw [asking_cons, List.filter_cons, ih]
      cases hasks : step.asks with
      | true => rw [if_pos rfl, if_pos rfl, run_cons, List.zip_cons_cons]
      | false =>
          -- the step is left out, and the next one finds the scripts as it did
          rw [if_neg Bool.false_ne_true, if_neg Bool.false_ne_true, requests_of_not_asks hasks,
            Scripts.after_nil]

end Services

/-- **NOTHING ELSE IS CARRIED**: in a session, a scan or a report comes out as it
    does without any other step, and a fetch as it does when it is the first on
    the scripts without the replies that the requests before it used.  Two
    sessions with the same fetches in the same order agree on what comes of
    them, wherever scans and reports stand in between. -/
theorem session_carries_only_replies (v : Services) (steps : List SessionStep)
    (scripts : Scripts) :
    (v.run steps scripts).length = steps.length ∧
      (∀ (i : Nat) (facts : Fields), steps[i]? = some (.analyze facts) →
        (v.run steps scripts)[i]? =
          some (.scanned ((ContractInfo.ofFields facts).map v.analyzer.analyze)) ∧
        ∀ fresh, v.run [.analyze facts] fresh =
          [.scanned ((ContractInfo.ofFields facts).map v.analyzer.analyze)]) ∧
      (∀ (i : Nat) (facts : Fields), steps[i]? = some (.report facts) →
        (v.run steps scripts)[i]? =
          some (.reported (ContractInfo.ofFields facts >>= Report.generate v.analyzer)) ∧
        ∀ fresh, v.run [.report facts] fresh =
          [.reported (ContractInfo.ofFields facts >>= Report.generate v.analyzer)]) ∧
      (∀ (i : Nat) (step : SessionStep), steps[i]? = some step →
        ∃ outcome, (v.run steps scripts)[i]? = some outcome ∧
          v.run [step] (scripts.after (v.requestsBefore steps scripts i)) = [outcome]) ∧
      ∀ steps', steps'.filter SessionStep.asks = steps.filter SessionStep.asks →
        v.asking steps' scripts = v.asking steps scripts := by
  have hat : ∀ (i : Nat) (step : SessionStep), steps[i]? = some step → (v.run steps scripts)[i]? =
      some (v.alone step (scripts.after (v.requestsBefore steps scripts i))) := by
    intro i step hstep
    rw [Services.getElem?_run, hstep]
    rfl
  refine ⟨Services.length_run steps scripts, ?_, ?_, ?_, ?_⟩
  · exact fun i facts hstep => ⟨hat i _ hstep, fun fresh => rfl⟩
  · exact fun i facts hstep => ⟨hat i _ hstep, fun fresh => rfl⟩
  · exact fun i step hstep => ⟨_, hat i step hstep, Services.run_singleton step _⟩
  · intro steps' hsame
    rw [Services.asking_eq, Services.asking_eq, hsame]

/-- A second fetch finds no replies after a provider that was left halfway and one
    that gave its state, and a scan in between does not show. -/
theorem session_after_halfway_provider :
    let v : Services := ⟨{}, twoNodes⟩
    let steps : List SessionStep := [.fetch sampleAddress, .analyze [], .fetch sampleAddress]
    v.run [.fetch sampleAddress] ⟨[], []⟩ = ((v.run steps ⟨halfThenWhole, []⟩)[2]?).toList ∧
      v.asking steps ⟨halfThenWhole, []⟩ =
        v.asking [.fetch sampleAddress, .fetch sampleAddress] ⟨halfThenWhole, []⟩ := by
  intro v steps
  obtain ⟨-, -, -, hfresh, hasking⟩ := session_carries_only_replies v steps ⟨halfThenWhole, []⟩
  obtain ⟨outcome, hat, hrun⟩ := hfresh 2 (.fetch sampleAddress) rfl
  have hposts : (v.requestsBefore steps ⟨halfThenWhole, []⟩ 2).countP Request.isPost = 4 := by
    decide +kernel
  have hleft : Scripts.after ⟨halfThenWhole, []⟩ (v.requestsBefore steps ⟨halfThenWhole, []⟩ 2) =
      ⟨[], []⟩ := by
    rw [Scripts.after, hposts, List.drop_nil]
    rfl
  rw [hleft] at hrun
  rw [hrun, hat]
  exact ⟨rfl, (hasking [.fetch sampleAddress, .fetch sampleAddress] rfl).symm⟩

end ContractScan.Network
