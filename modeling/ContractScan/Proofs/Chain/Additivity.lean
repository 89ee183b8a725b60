import ContractScan.Proofs.Chain.Instant
import Mathlib.Data.Set.Card

/-! # Summaries of reordered and of joined rows

    A summary is told by four things that have no order: how many rows there are,
    how many of them failed, which senders there are and which time is the latest.
    `Tallies` says what it is to them, and `FailsAs` does the same for the kind of
    a failure, although senders are looked at before times.

    **ORDER HAS NO PART IN IT**: rows in another order have the same summary, or
    both fail with one kind of fault (`summarize_perm`).

    **SUMMARIES ADD UP**: those of two parts determine all but the number of
    senders of the whole, and that one is the size of a union
    (`summaries_add_up`). -/

namespace ContractScan.Chain

open ContractScan.Text

/-! ## What rows hold -/

/-- The row has a sender, and `s` is its lower case. -/
def SentBy (row : Json) (s : List Char) : Prop :=
  ∃ text, row.field? "from" = some (.str text) ∧ text ≠ "" ∧ s = lower text.toList

/-- The senders of rows. -/
def senders (rows : List Json) : Set (List Char) := {s | ∃ row ∈ rows, SentBy row s}

/-- The latest of the times that are read from rows. -/
def lastTime? (rows : List Json) : Option Int :=
  latest? (rows.filterMap fun row => (instantOf row).toOption.join)

/-- The summary `a` counts what the rows hold. -/
structure Tallies (rows : List Json) (a : Activity) : Prop where
  txCount : a.txCount = rows.length
  uniqueSenders : a.uniqueSenders = (senders rows).ncard
  failedTxCount : a.failedTxCount = rows.countP isFailed
  /-- The last activity tells the latest time, and is missing with it. -/
  lastActivity : Option.Rel TellsInstant a.lastActivity (lastTime? rows)

theorem sentBy_iff {row : Json} {s : List Char} : SentBy row s ↔ senderOf row = .ok (some s) := by
  cases hfield : row.field? "from" with
  | none => simp [SentBy, senderOf, rowField, hfield, bind, Except.bind]
  | some v =>
      have hrow : rowField row "from" = .ok v := by rw [rowField, hfield]
      simp only [SentBy, senderOf, hrow, hfield, bind, Except.bind]
      by_cases hv : v.isTruthy = true
      · rw [if_pos hv]
        cases v with
        | str name =>
            constructor
            · rintro ⟨text, htext, -, rfl⟩
              rw [Json.str.inj (Option.some.inj htext)]
              rfl
            · intro h
              exact ⟨name, rfl, bne_iff_ne.mp hv, (Option.some.inj (Except.ok.inj h)).symm⟩
        | _ =>
            constructor
            · rintro ⟨text, htext, -⟩
              cases htext
            · intro h
              cases h
      · rw [if_neg hv]
        constructor
        · rintro ⟨text, htext, hne, -⟩
          rw [Option.some.inj htext] at hv
          exact absurd (bne_iff_ne.mpr hne) hv
        · intro h
          cases h

/-! ## Senders, each once -/

section Distinct

variable {α : Type} [BEq α] [LawfulBEq α]

theorem nodup_eraseDups (l : List α) : l.eraseDups.Nodup := by
  match l with
  | [] => exact List.nodup_nil
  | x :: l =>
      rw [List.eraseDups_cons, List.nodup_cons]
      -- `x` is taken out of the rest before repetitions are
      refine ⟨?_, nodup_eraseDups _⟩
      simp [List.mem_eraseDups]
termination_by l.length
decreasing_by exact Nat.lt_succ_of_le (List.length_filter_le _ _)

/-- Without repetitions a list is as long as its members are many. -/
theorem length_eraseDups (l : List α) : l.eraseDups.length = {x | x ∈ l}.ncard := by
  classical
  have hset : {x | x ∈ l} = (l.eraseDups.toFinset : Set α) := by
    ext x
    simp [List.mem_eraseDups]
  rw [hset, Set.ncard_coe_finset, List.toFinset_card_of_nodup (nodup_eraseDups l)]

end Distinct

theorem senders_eq (rows : List Json) :
    senders rows = {s | s ∈ rows.filterMap fun row => (senderOf row).toOption.join} := by
  ext s
  simp only [senders, Set.mem_ofPred_eq, List.mem_filterMap, sentBy_iff]
  refine exists_congr fun row => and_congr_right fun _ => ?_
  cases senderOf row <;> simp [Except.toOption]

theorem finite_senders (rows : List Json) : (senders rows).Finite := by
  rw [senders_eq]
  exact List.finite_toSet _

theorem ncard_senders_le (rows : List Json) : (senders rows).ncard ≤ rows.length := by
  classical
  rw [senders_eq, ← List.coe_toFinset, Set.ncard_coe_finset]
  exact (List.toFinset_card_le _).trans (List.length_filterMap_le _ _)

theorem senders_append (xs ys : List Json) : senders (xs ++ ys) = senders xs ∪ senders ys := by
  ext s
  simp only [senders, List.mem_append, or_and_right, exists_or, Set.mem_union, Set.mem_ofPred_eq]

/-! ## The latest time -/

theorem latest?_append (ts us : List Int) :
    latest? (ts ++ us) = max (latest? ts) (latest? us) := by
  cases ts with
  | nil => exact (Option.max_none_left).symm
  | cons t ts =>
      cases us with
      | nil => rw [List.append_nil]; exact (Option.max_none_right).symm
      | cons u us =>
          show some ((ts ++ u :: us).foldl max t) = max (some (ts.foldl max t)) (some (us.foldl max u))
          rw [List.foldl_append, List.foldl_cons, List.foldl_assoc, Option.max_some_some]

theorem lastTime?_append (xs ys : List Json) :
    lastTime? (xs ++ ys) = max (lastTime? xs) (lastTime? ys) := by
  rw [lastTime?, List.filterMap_append, latest?_append, lastTime?, lastTime?]

/-- The latest time of the whole is that of a part. -/
theorem lastTime?_append_eq_or (xs ys : List Json) :
    lastTime? (xs ++ ys) = lastTime? xs ∨ lastTime? (xs ++ ys) = lastTime? ys := by
  rw [lastTime?_append]
  cases lastTime? xs with
  | none => exact Or.inr Option.max_none_left
  | some t =>
      cases lastTime? ys with
      | none => exact Or.inl Option.max_none_right
      | some u =>
          rw [Option.max_some_some]
          exact (max_choice t u).imp (congrArg some) (congrArg some)

theorem latest?_perm {ts us : List Int} (h : ts.Perm us) : latest? ts = latest? us := by
  refine Option.ext fun t => ?_
  simp only [latest?_eq_some_iff, h.mem_iff]

/-- The latest time is written exactly as the text that tells it. -/
theorem latestText_eq_ok_iff {ts : List Int} {last : Option String} :
    latestText ts = .ok last ↔ Option.Rel TellsInstant last (latest? ts) := by
  rw [latestText]
  cases latest? ts with
  | none =>
      constructor
      · intro h
        rw [← Except.ok.inj h]
        exact .none
      · rintro ⟨⟩
        rfl
  | some t =>
      show (instantText t).map some = _ ↔ _
      rw [map_eq_ok_iff]
      constructor
      · rintro ⟨s, hs, rfl⟩
        exact .some (instantText_eq_ok_iff.mp hs)
      · rintro (hs | -)
        exact ⟨_, instantText_eq_ok_iff.mpr hs, rfl⟩

theorem latestText_eq_error_iff {ts : List Int} {e : Fault} :
    latestText ts = .error e ↔ ∃ t, latest? ts = some t ∧ instantText t = .error e := by
  rw [latestText]
  cases latest? ts with
  | none => simp
  | some t =>
      show (instantText t).map some = _ ↔ _
      cases htext : instantText t <;> simp [htext, Except.map]

/-- A time is told by one text, and no time by none. -/
theorem rel_tellsInstant_unique {x y : Option String} {t : Option Int}
    (hx : Option.Rel TellsInstant x t) (hy : Option.Rel TellsInstant y t) : x = y := by
  cases hx with
  | none =>
      cases hy
      rfl
  | some hs =>
      cases hy with
      | some hs' => rw [hs.text_unique hs']

/-! ## A summary is a tally -/

/-- What is collected from the results is collected from the rows. -/
theorem filterMap_of_forRows {α : Type} {f : Json → Except Fault (Option α)} {rows : List Json}
    {xs : List (Option α)} (h : forRows f rows = .ok xs) :
    xs.filterMap id = rows.filterMap fun row => (f row).toOption.join := by
  induction rows generalizing xs with
  | nil =>
      rw [← Except.ok.inj h]
      rfl
  | cons row rows ih =>
      obtain ⟨y, ys, hy, hys, rfl⟩ := forRows_cons_eq_ok_iff.mp h
      rw [List.filterMap_cons, List.filterMap_cons, ih hys, hy]
      rfl

section Tally

variable {rows rows' : List Json} {a b : Activity}

theorem tallies_of_summarize (h : summarize rows = .ok a) : Tallies rows a := by
  simp only [summarize, bind_eq_ok_iff] at h
  obtain ⟨names, hnames, instants, hinstants, last, hlast, hpure⟩ := h
  obtain rfl := Except.ok.inj hpure
  refine ⟨rfl, ?_, rfl, ?_⟩
  · rw [senders_eq, ← filterMap_of_forRows hnames]
    exact length_eraseDups _
  · rw [lastTime?, ← filterMap_of_forRows hinstants]
    exact latestText_eq_ok_iff.mp hlast

theorem Tallies.unique (ha : Tallies rows a) (hb : Tallies rows b) : a = b := by
  have hlast := rel_tellsInstant_unique ha.lastActivity hb.lastActivity
  cases a
  cases b
  simp only [Activity.mk.injEq]
  exact ⟨ha.txCount.trans hb.txCount.symm, ha.uniqueSenders.trans hb.uniqueSenders.symm,
    ha.failedTxCount.trans hb.failedTxCount.symm, hlast⟩

theorem Tallies.perm (ha : Tallies rows a) (h : rows.Perm rows') : Tallies rows' a where
  txCount := ha.txCount.trans h.length_eq
  uniqueSenders := by
    have hsenders : senders rows = senders rows' := by simp only [senders, h.mem_iff]
    rw [← hsenders]
    exact ha.uniqueSenders
  failedTxCount := ha.failedTxCount.trans (h.countP_eq _)
  lastActivity := by
    rw [lastTime?, ← latest?_perm (h.filterMap _)]
    exact ha.lastActivity

end Tally

/-! ## A failure has a kind that no order changes -/

theorem kind_of_senderOf_error {row : Json} {e : Fault} (h : senderOf row = .error e) :
    e.kind = .noSuchOperation := by
  cases hfield : row.field? "from" with
  | none =>
      have hrow : rowField row "from" = .error .notObject := by rw [rowField, hfield]
      simp only [senderOf, hrow, bind, Except.bind] at h
      rw [← Except.error.inj h]
      rfl
  | some v =>
      rw [fault_of_senderOf_error hfield h]
      rfl

/-- A row whose sender was looked at is an object, so its time can only be
    infinite. -/
theorem kind_of_instantOf_error {row : Json} {e : Fault} {x : Option (List Char)}
    (hsender : senderOf row = .ok x) (h : instantOf row = .error e) : e.kind = .overflow := by
  cases row with
  | obj fs =>
      obtain ⟨v, hv⟩ := field?_of_isObject (show (Json.obj fs).isObject = true from rfl) "timeStamp"
      rw [fault_of_instantOf_error hv h]
      rfl
  | _ => exact nomatch hsender

/-- A summary of the rows fails with a fault of the kind. -/
inductive FailsAs (rows : List Json) : FaultKind → Prop where
  /-- A sender is no text, or a row is no object. -/
  | sender : (∃ row ∈ rows, ∃ e, senderOf row = .error e) → FailsAs rows .noSuchOperation
  /-- All senders are well, and a time is infinite. -/
  | time : (∀ row ∈ rows, ∃ x, senderOf row = .ok x) →
      (∃ row ∈ rows, ∃ e, instantOf row = .error e) → FailsAs rows .overflow
  /-- All senders and all times are well, and the latest time cannot be written. -/
  | latest {t : Int} {e : Fault} : (∀ row ∈ rows, ∃ x, senderOf row = .ok x) →
      (∀ row ∈ rows, ∃ x, instantOf row = .ok x) → lastTime? rows = some t →
      instantText t = .error e → FailsAs rows e.kind

section Failure

variable {rows rows' : List Json} {k k' : FaultKind}

theorem not_error_of_ok {α : Type} {f : Json → Except Fault α}
    (h : ∀ row ∈ rows, ∃ x, f row = .ok x) : ¬∃ row ∈ rows, ∃ e, f row = .error e := by
  rintro ⟨row, hrow, e, he⟩
  obtain ⟨x, hx⟩ := h row hrow
  exact nomatch he.symm.trans hx

theorem failsAs_of_summarize {e : Fault} (h : summarize rows = .error e) : FailsAs rows e.kind := by
  simp only [summarize, bind_eq_error_iff] at h
  rcases h with hsender | ⟨names, hnames, htime | ⟨instants, hinstants, hlast | ⟨last, -, hpure⟩⟩⟩
  · obtain ⟨row, hrow, he⟩ := exists_of_forRows_error hsender
    rw [kind_of_senderOf_error he]
    exact .sender ⟨row, hrow, e, he⟩
  · have hsenders := (forRows_ok_iff rows).mp ⟨names, hnames⟩
    obtain ⟨row, hrow, he⟩ := exists_of_forRows_error htime
    obtain ⟨x, hx⟩ := hsenders row hrow
    rw [kind_of_instantOf_error hx he]
    exact .time hsenders ⟨row, hrow, e, he⟩
  · have hsenders := (forRows_ok_iff rows).mp ⟨names, hnames⟩
    have htimes := (forRows_ok_iff rows).mp ⟨instants, hinstants⟩
    obtain ⟨t, hlatest, htext⟩ := latestText_eq_error_iff.mp hlast
    rw [filterMap_of_forRows hinstants] at hlatest
    exact .latest hsenders htimes hlatest htext
  · cases hpure

theorem not_failsAs_of_summarize {a : Activity} (h : summarize rows = .ok a) : ¬FailsAs rows k := by
  simp only [summarize, bind_eq_ok_iff] at h
  obtain ⟨names, hnames, instants, hinstants, last, hlast, -⟩ := h
  have hsenders := (forRows_ok_iff rows).mp ⟨names, hnames⟩
  have htimes := (forRows_ok_iff rows).mp ⟨instants, hinstants⟩
  intro hfails
  cases hfails with
  | sender hbad => exact not_error_of_ok hsenders hbad
  | time _ hbad => exact not_error_of_ok htimes hbad
  | latest _ _ hlatest htext =>
      rw [lastTime?, ← filterMap_of_forRows hinstants] at hlatest
      rw [latestText_eq_error_iff.mpr ⟨_, hlatest, htext⟩] at hlast
      cases hlast

theorem FailsAs.unique (h : FailsAs rows k) (h' : FailsAs rows k') : k = k' := by
  -- where one looks further than the other, a row would be well and fail
  cases h with
  | sender hbad =>
      cases h' with
      | sender => rfl
      | time hsenders | latest hsenders => exact absurd hbad (not_error_of_ok hsenders)
  | time hsenders hbad =>
      cases h' with
      | sender hbad' => exact absurd hbad' (not_error_of_ok hsenders)
      | time => rfl
      | latest _ htimes => exact absurd hbad (not_error_of_ok htimes)
  | latest hsenders htimes hlatest htext =>
      cases h' with
      | sender hbad => exact absurd hbad (not_error_of_ok hsenders)
      | time _ hbad => exact absurd hbad (not_error_of_ok htimes)
      | latest _ _ hlatest' htext' =>
          rw [Option.some.inj (hlatest.symm.trans hlatest')] at htext
          rw [Except.error.inj (htext.symm.trans htext')]

theorem FailsAs.perm (h : FailsAs rows k) (hperm : rows.Perm rows') : FailsAs rows' k := by
  have hlast : lastTime? rows' = lastTime? rows := by
    rw [lastTime?, lastTime?, latest?_perm (hperm.filterMap _)]
  cases h with
  | sender hbad =>
      refine .sender ?_
      simpa only [hperm.mem_iff] using hbad
  | time hwell hbad =>
      refine .time ?_ ?_
      · simpa only [hperm.mem_iff] using hwell
      · simpa only [hperm.mem_iff] using hbad
  | latest hsenders htimes hlatest htext =>
      refine .latest ?_ ?_ (hlast.trans hlatest) htext
      · simpa only [hperm.mem_iff] using hsenders
      · simpa only [hperm.mem_iff] using htimes

end Failure

/-! ## Rows in another order -/

section Order

variable {rows rows' : List Json}

theorem summarize_of_perm {a : Activity} (h : rows.Perm rows') (ha : summarize rows = .ok a) :
    summarize rows' = .ok a := by
  cases hb : summarize rows' with
  | ok b => rw [((tallies_of_summarize ha).perm h).unique (tallies_of_summarize hb)]
  | error e => exact absurd ((failsAs_of_summarize hb).perm h.symm) (not_failsAs_of_summarize ha)

/-- **ORDER HAS NO PART IN A SUMMARY**: rows in another order have the same
    summary, or fail with a fault of the same kind. -/
theorem summarize_perm (h : rows.Perm rows') :
    (∃ a, summarize rows = .ok a ∧ summarize rows' = .ok a) ∨
      ∃ e e', summarize rows = .error e ∧ summarize rows' = .error e' ∧ e.kind = e'.kind := by
  cases ha : summarize rows with
  | ok a => exact Or.inl ⟨a, rfl, summarize_of_perm h ha⟩
  | error e =>
      cases hb : summarize rows' with
      | ok b => exact nomatch ha.symm.trans (summarize_of_perm h.symm hb)
      | error e' =>
          have hkind := (failsAs_of_summarize ha).perm h
          exact Or.inr ⟨e, e', rfl, rfl, hkind.unique (failsAs_of_summarize hb)⟩

end Order

/-! ## Rows in two parts -/

section Parts

variable {xs ys : List Json} {a b c : Activity} {k : FaultKind}

theorem Tallies.le_txCount (h : Tallies xs a) :
    a.failedTxCount ≤ a.txCount ∧ a.uniqueSenders ≤ a.txCount := by
  rw [h.txCount, h.failedTxCount, h.uniqueSenders]
  exact ⟨List.countP_le_length, ncard_senders_le xs⟩

/-- Where the whole fails, a part fails. -/
theorem FailsAs.of_append (h : FailsAs (xs ++ ys) k) : FailsAs xs k ∨ FailsAs ys k := by
  cases h with
  | sender hbad =>
      obtain ⟨row, hrow, hfault⟩ := hbad
      rcases List.mem_append.mp hrow with hx | hy
      · exact Or.inl (.sender ⟨row, hx, hfault⟩)
      · exact Or.inr (.sender ⟨row, hy, hfault⟩)
  | time hwell hbad =>
      obtain ⟨row, hrow, hfault⟩ := hbad
      obtain ⟨hwellx, hwelly⟩ := List.forall_mem_append.mp hwell
      rcases List.mem_append.mp hrow with hx | hy
      · exact Or.inl (.time hwellx ⟨row, hx, hfault⟩)
      · exact Or.inr (.time hwelly ⟨row, hy, hfault⟩)
  | latest hsenders htimes hlatest htext =>
      obtain ⟨hsendersx, hsendersy⟩ := List.forall_mem_append.mp hsenders
      obtain ⟨htimesx, htimesy⟩ := List.forall_mem_append.mp htimes
      rcases lastTime?_append_eq_or xs ys with hx | hy
      · exact Or.inl (.latest hsendersx htimesx (hx.symm.trans hlatest) htext)
      · exact Or.inr (.latest hsendersy htimesy (hy.symm.trans hlatest) htext)

theorem exists_summarize_append (ha : summarize xs = .ok a) (hb : summarize ys = .ok b) :
    ∃ c, summarize (xs ++ ys) = .ok c := by
  cases hc : summarize (xs ++ ys) with
  | ok c => exact ⟨c, rfl⟩
  | error e =>
      rcases (failsAs_of_summarize hc).of_append with hx | hy
      · exact absurd hx (not_failsAs_of_summarize ha)
      · exact absurd hy (not_failsAs_of_summarize hb)

/-- The summaries of two parts and of the whole. -/
structure AddUp (xs ys : List Json) (a b c : Activity) : Prop where
  txCount : c.txCount = a.txCount + b.txCount
  failedTxCount : c.failedTxCount = a.failedTxCount + b.failedTxCount
  /-- The senders are those of both parts together. -/
  uniqueSenders : a.uniqueSenders = (senders xs).ncard ∧ b.uniqueSenders = (senders ys).ncard ∧
    c.uniqueSenders = (senders xs ∪ senders ys).ncard
  max_le : max a.uniqueSenders b.uniqueSenders ≤ c.uniqueSenders
  le_add : c.uniqueSenders ≤ a.uniqueSenders + b.uniqueSenders
  /-- The last activity is the later one of both parts. -/
  lastActivity : ∃ t t' : Option Int, Option.Rel TellsInstant a.lastActivity t ∧
    Option.Rel TellsInstant b.lastActivity t' ∧ Option.Rel TellsInstant c.lastActivity (max t t')
  lastActivity_eq_none_iff : c.lastActivity = none ↔ a.lastActivity = none ∧ b.lastActivity = none

theorem rel_eq_none_iff {x : Option String} {t : Option Int} (h : Option.Rel TellsInstant x t) :
    x = none ↔ t = none := by
  cases h with
  | none => exact iff_of_true rfl rfl
  | some _ => exact iff_of_false (Option.some_ne_none _) (Option.some_ne_none _)

theorem Tallies.addUp (ha : Tallies xs a) (hb : Tallies ys b) (hc : Tallies (xs ++ ys) c) :
    AddUp xs ys a b c := by
  have hsenders : c.uniqueSenders = (senders xs ∪ senders ys).ncard := by
    rw [hc.uniqueSenders, senders_append]
  have hfinite := (finite_senders xs).union (finite_senders ys)
  have hlast := hc.lastActivity
  rw [lastTime?_append] at hlast
  refine ⟨?_, ?_, ⟨ha.uniqueSenders, hb.uniqueSenders, hsenders⟩, ?_, ?_,
    ⟨_, _, ha.lastActivity, hb.lastActivity, hlast⟩, ?_⟩
  · rw [hc.txCount, ha.txCount, hb.txCount, List.length_append]
  · rw [hc.failedTxCount, ha.failedTxCount, hb.failedTxCount, List.countP_append]
  · rw [hsenders, ha.uniqueSenders, hb.uniqueSenders]
    exact max_le (Set.ncard_le_ncard Set.subset_union_left hfinite)
      (Set.ncard_le_ncard Set.subset_union_right hfinite)
  · rw [hsenders, ha.uniqueSenders, hb.uniqueSenders]
    exact Set.ncard_union_le _ _
  · rw [rel_eq_none_iff hlast, rel_eq_none_iff ha.lastActivity, rel_eq_none_iff hb.lastActivity]
    exact Option.max_eq_none_iff

end Parts

/-- **SUMMARIES HAVE NO ORDER AND ADD UP**: rows in another order have the same
    summary or fail in the same way; in a summary no count exceeds that of the
    rows; and where two parts have summaries the whole has one, with the sums of
    the counts, the union of the senders and the later last activity. -/
theorem summaries_add_up :
    (∀ rows rows' : List Json, rows.Perm rows' →
      (∃ a, summarize rows = .ok a ∧ summarize rows' = .ok a) ∨
        ∃ e e', summarize rows = .error e ∧ summarize rows' = .error e' ∧ e.kind = e'.kind) ∧
    (∀ rows a, summarize rows = .ok a →
      a.failedTxCount ≤ a.txCount ∧ a.uniqueSenders ≤ a.txCount) ∧
    ∀ xs ys a b, summarize xs = .ok a → summarize ys = .ok b →
      ∃ c, summarize (xs ++ ys) = .ok c ∧ AddUp xs ys a b c := by
  refine ⟨fun rows rows' h => summarize_perm h, fun rows a ha => ?_, fun xs ys a b ha hb => ?_⟩
  · exact (tallies_of_summarize ha).le_txCount
  · obtain ⟨c, hc⟩ := exists_summarize_append ha hb
    exact ⟨c, hc, (tallies_of_summarize ha).addUp (tallies_of_summarize hb)
      (tallies_of_summarize hc)⟩

/-- Two rows, one of them failed. -/
def earlyRows : List Json :=
  [.obj [("from", .str "0xAB"), ("isError", .str "1"), ("timeStamp", .str "86400")],
   .obj [("from", .str "0xCD"), ("timeStamp", .int 5)]]

/-- A row of a sender of `earlyRows`, without a time that can be read. -/
def undatedRows : List Json := [.obj [("from", .str "0xab"), ("timeStamp", .str "soon")]]

/-- Two rows that are unusable in different ways. -/
def faultyRows : List Json := [.int 7, .obj [("from", .int 7)]]

/-- Two pages with a sender in common add up, in either order, and two unusable
    rows fail in one way, in either order. -/
theorem summaries_of_pages_with_common_sender :
    (∃ c, summarize (earlyRows ++ undatedRows) = .ok c ∧
      AddUp earlyRows undatedRows ⟨2, 2, 1, some "1970-01-02T00:00:00+00:00"⟩ ⟨1, 1, 0, none⟩ c ∧
      c.failedTxCount ≤ c.txCount ∧ c.uniqueSenders ≤ c.txCount ∧
      summarize (undatedRows ++ earlyRows) = .ok c) ∧
    ∃ e e', summarize faultyRows = .error e ∧ summarize faultyRows.reverse = .error e' ∧ e ≠ e' ∧
      e.kind = e'.kind := by
  obtain ⟨horder, hbounds, hparts⟩ := summaries_add_up
  have hearly : summarize earlyRows = .ok ⟨2, 2, 1, some "1970-01-02T00:00:00+00:00"⟩ := by
    decide +kernel
  have hundated : summarize undatedRows = .ok ⟨1, 1, 0, none⟩ := by decide +kernel
  have hfaulty : summarize faultyRows = .error .notObject := by decide +kernel
  have hreverse : summarize faultyRows.reverse = .error .notText := by decide +kernel
  constructor
  · obtain ⟨c, hc, hadd⟩ := hparts _ _ _ _ hearly hundated
    have hperm : (earlyRows ++ undatedRows).Perm (undatedRows ++ earlyRows) := List.perm_append_comm
    rcases horder _ _ hperm with ⟨d, hd, hd'⟩ | ⟨e, -, he, -⟩
    · obtain rfl := Except.ok.inj (hc.symm.trans hd)
      exact ⟨c, hc, hadd, (hbounds _ c hc).1, (hbounds _ c hc).2, hd'⟩
    · exact nomatch hc.symm.trans he
  · rcases horder _ _ (List.reverse_perm faultyRows).symm with ⟨d, hd, -⟩ | ⟨e, e', he, he', hkind⟩
    · exact nomatch hfaulty.symm.trans hd
    · refine ⟨e, e', he, he', ?_, hkind⟩
      rw [← Except.error.inj (hfaulty.symm.trans he), ← Except.error.inj (hreverse.symm.trans he')]
      decide

end ContractScan.Chain
