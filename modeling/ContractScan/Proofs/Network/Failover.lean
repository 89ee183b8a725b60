import ContractScan.Network.Node

/-! # Failover -- which provider's state is reported

    Providers are asked in list order on one shared script of replies.  A
    provider that fails uses up one reply (it gave no code) or two (it gave a
    code and no balance), so the place of every later reply depends on how the
    earlier providers failed.  `firstPost` says where a provider's replies
    begin; `GivesState` says what they have to be.

    Two statements together describe every run: `askProviders_of_first` (the
    first provider that gives both wins, and nobody after it is asked) and
    `askProviders_of_none` (nobody gives both).  Both fix the state, the
    requests and the replies that are left. -/

namespace ContractScan.Network

open ContractScan.Text

/-- The reply to request number `n` of a script, counted from zero.  Past the
    end of the script there is no connection. -/
def replyTo (replies : List Reply) (n : Nat) : Reply :=
  (replies[n]?).getD (.failure .connect)

/-- Taking a reply from what is left after `n` replies gives reply `n`. -/
theorem takeReply_drop (replies : List Reply) (n : Nat) :
    takeReply (replies.drop n) = (replyTo replies n, replies.drop (n + 1)) := by
  by_cases h : n < replies.length
  · rw [List.drop_eq_getElem_cons h]
    simp [takeReply, replyTo, List.getElem?_eq_getElem h]
  · have hn : replies.length ≤ n := by omega
    rw [List.drop_of_length_le hn, List.drop_of_length_le (by omega : replies.length ≤ n + 1)]
    simp [takeReply, replyTo, List.getElem?_eq_none hn]

/-! ## One provider -/

/-- The provider whose first post is post number `n` gives `code` and `wei`: its
    code call succeeds, and its balance call succeeds with a text that writes a
    hexadecimal integer. -/
def GivesState (replies : List Reply) (n : Nat) (code : Json) (wei : Int) : Prop :=
  callResult codeCall (replyTo replies n) = .ok code ∧
    ∃ text : String, callResult balanceCall (replyTo replies (n + 1)) = .ok (.str text) ∧
      readHex text.toList = some wei

/-- The provider whose first post is post number `n` gives a state. -/
def HasState (replies : List Reply) (n : Nat) : Prop :=
  ∃ code wei, GivesState replies n code wei

/-- The two posts that ask one provider for code and balance. -/
def attempt (address url : String) : List Request :=
  [addressCall url codeCall address, addressCall url balanceCall address]

/-- How many posts a provider gets that gives no state: the second only if the
    first was answered by a code. -/
def failedPosts (replies : List Reply) (n : Nat) : Nat :=
  match callResult codeCall (replyTo replies n) with
  | .ok _ => 2
  | .error _ => 1

/-- A balance is read from a text that writes a hexadecimal integer, and from
    nothing else. -/
theorem balanceText?_eq_some {v : Json} {balance : String} :
    balanceText? v = some balance ↔
      ∃ text wei, v = .str text ∧ readHex text.toList = some wei ∧
        Chain.formatEther wei = balance := by
  cases v with
  | str text => simp [balanceText?, Option.map_eq_some_iff]
  | _ => simp [balanceText?]

/-- A provider that gives the state gets both posts. -/
theorem askProvider_of_givesState {address url : String} {replies : List Reply} {n : Nat}
    {code : Json} {wei : Int} (h : GivesState replies n code wei) :
    askProvider address url (replies.drop n) =
      ⟨some ⟨code.orElse (.str "0x"), Chain.formatEther wei⟩, attempt address url,
        replies.drop (n + 2)⟩ := by
  obtain ⟨hcode, text, hbalance, hwei⟩ := h
  have htext : balanceText? (.str text) = some (Chain.formatEther wei) :=
    balanceText?_eq_some.mpr ⟨text, wei, rfl, hwei, rfl⟩
  simp only [askProvider, takeReply_drop, hcode, hbalance, htext]
  rfl

/-- A provider that gives no state gets one post or two, and leaves nothing but
    the replies after them. -/
theorem askProvider_of_not_hasState {address url : String} {replies : List Reply} {n : Nat}
    (h : ¬ HasState replies n) :
    askProvider address url (replies.drop n) =
      ⟨none, (attempt address url).take (failedPosts replies n),
        replies.drop (n + failedPosts replies n)⟩ := by
  cases hcode : callResult codeCall (replyTo replies n) with
  | error e =>
      have hposts : failedPosts replies n = 1 := by simp [failedPosts, hcode]
      rw [hposts]
      simp only [askProvider, takeReply_drop, hcode]
      rfl
  | ok code =>
      have hposts : failedPosts replies n = 2 := by simp [failedPosts, hcode]
      rw [hposts]
      cases hbalance : callResult balanceCall (replyTo replies (n + 1)) with
      | error e =>
          simp only [askProvider, takeReply_drop, hcode, hbalance]
          rfl
      | ok v =>
          have hnone : balanceText? v = none := by
            rw [Option.eq_none_iff_forall_ne_some]
            intro balance hsome
            obtain ⟨text, wei, hv, hwei, -⟩ := balanceText?_eq_some.mp hsome
            rw [hv] at hbalance
            exact h ⟨code, wei, hcode, text, hbalance, hwei⟩
          simp only [askProvider, takeReply_drop, hcode, hbalance, hnone]
          rfl

/-! ## A list of providers -/

/-- The number of the first post to provider number `k`, when the asking begins
    with post number `n` and no provider before it gives the state. -/
def firstPost (replies : List Reply) : Nat → Nat → Nat
  | n, 0 => n
  | n, k + 1 => firstPost replies (n + failedPosts replies n) k

/-- The posts to providers none of which gives the state, the first of them
    being post number `n`. -/
def failedAttempts (address : String) (replies : List Reply) (n : Nat) (urls : List String) :
    List Request :=
  (urls.mapIdx fun k url =>
    (attempt address url).take (failedPosts replies (firstPost replies n k))).flatten

theorem failedAttempts_cons (address : String) (replies : List Reply) (n : Nat) (url : String)
    (urls : List String) :
    failedAttempts address replies n (url :: urls) =
      (attempt address url).take (failedPosts replies n) ++
        failedAttempts address replies (n + failedPosts replies n) urls := by
  simp only [failedAttempts, List.mapIdx_cons, List.flatten_cons]
  rfl

/-- A provider without a state gets one post or two. -/
theorem failedPosts_le (replies : List Reply) (n : Nat) :
    1 ≤ failedPosts replies n ∧ failedPosts replies n ≤ 2 := by
  unfold failedPosts
  split <;> omega

/-- **THE NUMBERING IS RIGHT**: as many posts as `firstPost` counts stand before
    the first post to the provider after `urls`. -/
theorem length_failedAttempts (address : String) (replies : List Reply) (n : Nat)
    (urls : List String) :
    n + (failedAttempts address replies n urls).length = firstPost replies n urls.length := by
  induction urls generalizing n with
  | nil => rfl
  | cons url urls ih =>
      have hle := (failedPosts_le replies n).2
      have htake : ((attempt address url).take (failedPosts replies n)).length
          = failedPosts replies n := by
        rw [List.length_take]
        exact Nat.min_eq_left hle
      rw [failedAttempts_cons, List.length_append, htake, ← Nat.add_assoc]
      exact ih (n + failedPosts replies n)

/-- The first provider that gives the state wins: those before it get the posts
    of a failure each, it gets both, and those after it get none. -/
theorem askProviders_of_first {address url : String} {replies : List Reply} {n k : Nat}
    {urls : List String} {code : Json} {wei : Int} (hurl : urls[k]? = some url)
    (hgives : GivesState replies (firstPost replies n k) code wei)
    (hearlier : ∀ j < k, ¬ HasState replies (firstPost replies n j)) :
    askProviders address urls (replies.drop n) =
      ⟨some ⟨code.orElse (.str "0x"), Chain.formatEther wei⟩,
        failedAttempts address replies n (urls.take k) ++ attempt address url,
        replies.drop (firstPost replies n k + 2)⟩ := by
  induction urls generalizing n k with
  | nil => simp at hurl
  | cons first urls ih =>
      cases k with
      | zero =>
          have hfirst : first = url := by simpa using hurl
          subst hfirst
          have hhead : GivesState replies n code wei := hgives
          simp only [askProviders, askProvider_of_givesState hhead]
          rfl
      | succ k =>
          -- the head of the list fails, and the rest is the same statement further on
          have hhead : ¬ HasState replies n := hearlier 0 (Nat.succ_pos k)
          have hrest := ih (n := n + failedPosts replies n) (by simpa using hurl) hgives
            (fun j hj => hearlier (j + 1) (Nat.succ_lt_succ hj))
          simp only [askProviders, askProvider_of_not_hasState hhead, hrest]
          rw [List.take_succ_cons, failedAttempts_cons, List.append_assoc]
          rfl

/-- When no provider gives the state, every one of them gets the posts of a
    failure and there is no state. -/
theorem askProviders_of_none {address : String} {replies : List Reply} {n : Nat}
    {urls : List String}
    (h : ∀ k < urls.length, ¬ HasState replies (firstPost replies n k)) :
    askProviders address urls (replies.drop n) =
      ⟨none, failedAttempts address replies n urls,
        replies.drop (firstPost replies n urls.length)⟩ := by
  induction urls generalizing n with
  | nil => rfl
  | cons url urls ih =>
      have hhead : ¬ HasState replies n := h 0 (Nat.succ_pos urls.length)
      have hrest := ih (n := n + failedPosts replies n)
        (fun k hk => h (k + 1) (Nat.succ_lt_succ hk))
      simp only [askProviders, askProvider_of_not_hasState hhead, hrest]
      rw [failedAttempts_cons]
      rfl

end ContractScan.Network
