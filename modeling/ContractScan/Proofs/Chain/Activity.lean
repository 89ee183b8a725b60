import ContractScan.Chain.Activity
import Mathlib.Data.List.MinMax

/-! # When transactions add up

    A summary of rows fails at three places: a sender that is present and no
    text, a time that is an infinite number, and a latest time that no calendar
    date stands for.  `Summable` says that none of them occurs, row by row and
    without mention of the order in which the rows are gone through.

    **THE CONDITION IS EXACT**: `summarize_ok_iff`.  What a failure can be is
    listed by `fault_of_summarize_error`. -/

namespace ContractScan.Chain

/-! ## Going through rows -/

section Rows

variable {α : Type} {f : Json → Except Fault α}

theorem forRows_cons_eq_ok_iff {row : Json} {rows : List Json} {xs : List α} :
    forRows f (row :: rows) = .ok xs ↔
      ∃ y ys, f row = .ok y ∧ forRows f rows = .ok ys ∧ y :: ys = xs := by
  simp only [forRows, bind_eq_ok_iff]
  constructor
  · rintro ⟨y, hy, ys, hys, hxs⟩
    exact ⟨y, ys, hy, hys, Except.ok.inj hxs⟩
  · rintro ⟨y, ys, hy, hys, hxs⟩
    exact ⟨y, hy, ys, hys, congrArg Except.ok hxs⟩

/-- Going through rows succeeds exactly when every row does. -/
theorem forRows_ok_iff (rows : List Json) :
    (∃ xs, forRows f rows = .ok xs) ↔ ∀ row ∈ rows, ∃ x, f row = .ok x := by
  induction rows with
  | nil => simp [forRows]
  | cons row rows ih =>
      rw [List.forall_mem_cons, ← ih]
      constructor
      · rintro ⟨xs, hxs⟩
        obtain ⟨y, ys, hy, hys, -⟩ := forRows_cons_eq_ok_iff.mp hxs
        exact ⟨⟨y, hy⟩, ys, hys⟩
      · rintro ⟨⟨y, hy⟩, ys, hys⟩
        exact ⟨y :: ys, forRows_cons_eq_ok_iff.mpr ⟨y, ys, hy, hys, rfl⟩⟩

/-- The results are those of the rows. -/
theorem mem_forRows_iff {rows : List Json} {xs : List α} (h : forRows f rows = .ok xs) (x : α) :
    x ∈ xs ↔ ∃ row ∈ rows, f row = .ok x := by
  induction rows generalizing xs with
  | nil =>
      have hxs : [] = xs := Except.ok.inj h
      simp [← hxs]
  | cons row rows ih =>
      obtain ⟨y, ys, hy, hys, hxs⟩ := forRows_cons_eq_ok_iff.mp h
      rw [← hxs, List.mem_cons, ih hys]
      simp [hy, eq_comm]

/-- A failure is that of a row. -/
theorem exists_of_forRows_error {rows : List Json} {e : Fault} (h : forRows f rows = .error e) :
    ∃ row ∈ rows, f row = .error e := by
  induction rows with
  | nil => exact nomatch h
  | cons row rows ih =>
      simp only [forRows, bind_eq_error_iff] at h
      rcases h with hrow | ⟨x, -, hrest | ⟨xs, -, hpure⟩⟩
      · exact ⟨row, List.mem_cons_self .., hrow⟩
      · obtain ⟨r, hr, hfr⟩ := ih hrest
        exact ⟨r, List.mem_cons_of_mem _ hr, hfr⟩
      · exact nomatch hpure

end Rows

/-! ## One row -/

/-- A row's time reads as `t`. -/
def TimeIs (row : Json) (t : Int) : Prop := instantOf row = .ok (some t)

/-- The sender of an object is looked at without fault if it is a text or
    absent. -/
theorem senderOf_ok_iff {row v : Json} (h : row.field? "from" = some v) :
    (∃ x, senderOf row = .ok x) ↔ v.IsTextOrAbsent := by
  have hrow : rowField row "from" = .ok v := by rw [rowField, h]
  simp only [senderOf, hrow, bind, Except.bind, Json.IsTextOrAbsent]
  by_cases hv : v.isTruthy = true
  · simp only [hv, if_true]
    cases v <;> simp [pure, Except.pure, throw, throwThe, MonadExceptOf.throw]
  · simp [hv, pure, Except.pure]

/-- The time of an object is looked at without fault unless it is infinite. -/
theorem instantOf_ok_iff {row v : Json} (h : row.field? "timeStamp" = some v) :
    (∃ x, instantOf row = .ok x) ↔ ∀ negative, v ≠ .float (.infinite negative) := by
  have hrow : rowField row "timeStamp" = .ok v := by rw [rowField, h]
  simp only [instantOf, hrow, bind, Except.bind]
  cases v with
  | float x => cases x <;> simp [readInstant]
  | _ => simp [readInstant]

/-- The only fault of a sender is that it is no text. -/
theorem fault_of_senderOf_error {row v : Json} (h : row.field? "from" = some v) {e : Fault}
    (he : senderOf row = .error e) : e = .notText := by
  have hrow : rowField row "from" = .ok v := by rw [rowField, h]
  simp only [senderOf, hrow, bind, Except.bind] at he
  by_cases hv : v.isTruthy = true
  · simp only [hv, if_true] at he
    cases v <;> simp_all [pure, Except.pure, throw, throwThe, MonadExceptOf.throw]
  · simp [hv, pure, Except.pure] at he

/-- The only fault of a time is that it is infinite. -/
theorem fault_of_instantOf_error {row v : Json} (h : row.field? "timeStamp" = some v) {e : Fault}
    (he : instantOf row = .error e) : e = .infiniteInstant := by
  have hrow : rowField row "timeStamp" = .ok v := by rw [rowField, h]
  simp only [instantOf, hrow, bind, Except.bind] at he
  cases v with
  | float x => cases x <;> simp_all [readInstant]
  | _ => simp [readInstant] at he

/-! ## The latest time -/

/-- The seconds since 1970 that a date of the years 1 to 9999 stands for. -/
def InCalendar (t : Int) : Prop := -62135596800 ≤ t ∧ t ≤ 253402300799

theorem inCalendar_iff (t : Int) :
    InCalendar t ↔ 0 ≤ t + secondsBefore1970 ∧ t + secondsBefore1970 < secondsOfCalendar := by
  rw [InCalendar, secondsBefore1970, secondsOfCalendar]
  omega

/-- An instant of the calendar is written as the moment made from its seconds. -/
theorem instantText_of_inCalendar {t : Int} (h : InCalendar t) :
    instantText t = .ok (Moment.ofSecondsSinceYear1 (t + secondsBefore1970).toNat).text := by
  have hclock : clockBound = 9223372036854775808 := by decide
  have hrange : ¬(t < -clockBound ∨ clockBound ≤ t) := by
    rw [hclock]
    rw [InCalendar] at h
    omega
  rw [instantText, if_neg hrange]
  exact if_pos ((inCalendar_iff t).mp h)

/-- An instant has a written form exactly when it lies in the calendar. -/
theorem instantText_ok_iff (t : Int) : (∃ text, instantText t = .ok text) ↔ InCalendar t := by
  refine ⟨?_, fun h => ⟨_, instantText_of_inCalendar h⟩⟩
  rintro ⟨text, htext⟩
  rw [instantText] at htext
  split at htext
  · exact nomatch htext
  · by_contra hout
    simp only [if_neg (mt (inCalendar_iff t).mpr hout)] at htext
    exact nomatch htext

/-- The latest of several instants is the greatest of them. -/
theorem latest?_eq_some_iff {ts : List Int} {t : Int} :
    latest? ts = some t ↔ t ∈ ts ∧ ∀ u ∈ ts, u ≤ t := by
  have hmax : latest? ts = ts.max? := by cases ts <;> rfl
  rw [hmax]
  exact List.max?_eq_some_iff

/-- The latest of several instants is written without fault exactly when it lies
    in the calendar. -/
theorem latestText_ok_iff (ts : List Int) :
    (∃ text, latestText ts = .ok text) ↔ ∀ t, latest? ts = some t → InCalendar t := by
  cases hlatest : latest? ts with
  | none => simp [latestText, hlatest]
  | some t =>
      rw [show (∀ u, some t = some u → InCalendar u) ↔ InCalendar t by simp]
      rw [← instantText_ok_iff]
      simp only [latestText, hlatest]
      cases instantText t <;> simp [Except.map]

/-- A latest instant without a written form is out of the calendar, or out of
    the clock. -/
theorem fault_of_latestText_error {ts : List Int} {e : Fault} (h : latestText ts = .error e) :
    e = .yearOutOfRange ∨ e = .clockOverflow := by
  cases hlatest : latest? ts with
  | none => simp [latestText, hlatest] at h
  | some t =>
      simp only [latestText, hlatest, instantText] at h
      split at h
      · exact Or.inr (Except.error.inj h).symm
      · split at h
        · exact nomatch h
        · exact Or.inl (Except.error.inj h).symm

/-! ## The summary -/

/-- The time `t` is read from a row, and from no row a later one. -/
def IsLatestTime (rows : List Json) (t : Int) : Prop :=
  (∃ row ∈ rows, TimeIs row t) ∧ ∀ row ∈ rows, ∀ u, TimeIs row u → u ≤ t

/-- Rows that add up to a summary. -/
structure Summable (rows : List Json) : Prop where
  /-- What is present as a sender is a text. -/
  senders : ∀ row ∈ rows, ∀ v, row.field? "from" = some v → v.IsTextOrAbsent
  /-- No time is an infinite number. -/
  times : ∀ row ∈ rows, ∀ v, row.field? "timeStamp" = some v →
    ∀ negative, v ≠ .float (.infinite negative)
  /-- The latest time has a date. -/
  latest : ∀ t, IsLatestTime rows t → InCalendar t

/-- An object has every field, if only as null. -/
theorem field?_of_isObject {row : Json} (h : row.isObject = true) (name : String) :
    ∃ v, row.field? name = some v := by
  cases row with
  | obj fs => exact ⟨_, rfl⟩
  | _ => exact nomatch h

section Read

variable {rows : List Json} {instants : List (Option Int)}

/-- The times that were read are those of the rows. -/
theorem mem_instants_iff (h : forRows instantOf rows = .ok instants) (t : Int) :
    t ∈ instants.filterMap id ↔ ∃ row ∈ rows, TimeIs row t := by
  simp only [List.mem_filterMap, id, exists_eq_right]
  exact mem_forRows_iff h (some t)

/-- The latest of the times that were read is the latest time of the rows. -/
theorem isLatestTime_iff (h : forRows instantOf rows = .ok instants) (t : Int) :
    latest? (instants.filterMap id) = some t ↔ IsLatestTime rows t := by
  rw [latest?_eq_some_iff, IsLatestTime, mem_instants_iff h]
  refine and_congr_right fun _ => ?_
  constructor
  · intro hle row hrow u hu
    exact hle u ((mem_instants_iff h u).mpr ⟨row, hrow, hu⟩)
  · intro hle u hu
    obtain ⟨row, hrow, hread⟩ := (mem_instants_iff h u).mp hu
    exact hle row hrow u hread

/-- Where no time is the latest, none was read. -/
theorem not_timeIs_of_latest?_eq_none (h : forRows instantOf rows = .ok instants)
    (hnone : latest? (instants.filterMap id) = none) : ∀ row ∈ rows, ∀ t, ¬TimeIs row t := by
  intro row hrow t hread
  have hmem := (mem_instants_iff h t).mpr ⟨row, hrow, hread⟩
  obtain ⟨u, us, hcons⟩ := List.exists_cons_of_ne_nil (List.ne_nil_of_mem hmem)
  rw [hcons] at hnone
  exact absurd hnone (Option.some_ne_none _)

end Read

/-- **WHEN ROWS ADD UP**: rows that are objects have a summary exactly when every
    sender is a text or absent, no time is infinite, and the latest time has a
    date. -/
theorem summarize_ok_iff {rows : List Json} (hobjects : ∀ row ∈ rows, row.isObject = true) :
    (∃ a, summarize rows = .ok a) ↔ Summable rows := by
  have hsenders : (∃ xs, forRows senderOf rows = .ok xs) ↔
      ∀ row ∈ rows, ∀ v, row.field? "from" = some v → v.IsTextOrAbsent := by
    rw [forRows_ok_iff]
    refine forall₂_congr fun row hrow => ?_
    obtain ⟨v, hv⟩ := field?_of_isObject (hobjects row hrow) "from"
    rw [senderOf_ok_iff hv, hv]
    simp
  have hinstants : (∃ xs, forRows instantOf rows = .ok xs) ↔
      ∀ row ∈ rows, ∀ v, row.field? "timeStamp" = some v →
        ∀ negative, v ≠ .float (.infinite negative) := by
    rw [forRows_ok_iff]
    refine forall₂_congr fun row hrow => ?_
    obtain ⟨v, hv⟩ := field?_of_isObject (hobjects row hrow) "timeStamp"
    rw [instantOf_ok_iff hv, hv]
    simp
  -- senders, times and the latest time are looked at one after the other
  simp only [summarize, bind_eq_ok_iff]
  constructor
  · rintro ⟨a, senders, hs, instants, ht, last, hl, -⟩
    have hcal := (latestText_ok_iff _).mp ⟨last, hl⟩
    exact ⟨hsenders.mp ⟨senders, hs⟩, hinstants.mp ⟨instants, ht⟩,
      fun t hlatest => hcal t ((isLatestTime_iff ht t).mpr hlatest)⟩
  · intro h
    obtain ⟨senders, hs⟩ := hsenders.mpr h.senders
    obtain ⟨instants, ht⟩ := hinstants.mpr h.times
    obtain ⟨last, hl⟩ := (latestText_ok_iff (instants.filterMap id)).mpr
      (fun t hlatest => h.latest t ((isLatestTime_iff ht t).mp hlatest))
    exact ⟨_, senders, hs, instants, ht, last, hl, rfl⟩

/-- **WHAT CAN BE WRONG WITH ROWS**: a sender, an infinite time, or a latest
    time without a date. -/
theorem fault_of_summarize_error {rows : List Json} (hobjects : ∀ row ∈ rows, row.isObject = true)
    {e : Fault} (h : summarize rows = .error e) :
    e = .notText ∨ e = .infiniteInstant ∨ e = .yearOutOfRange ∨ e = .clockOverflow := by
  simp only [summarize, bind_eq_error_iff] at h
  rcases h with hs | ⟨senders, -, ht | ⟨instants, -, hl | ⟨last, -, hpure⟩⟩⟩
  · obtain ⟨row, hrow, hfault⟩ := exists_of_forRows_error hs
    obtain ⟨v, hv⟩ := field?_of_isObject (hobjects row hrow) "from"
    exact Or.inl (fault_of_senderOf_error hv hfault)
  · obtain ⟨row, hrow, hfault⟩ := exists_of_forRows_error ht
    obtain ⟨v, hv⟩ := field?_of_isObject (hobjects row hrow) "timeStamp"
    exact Or.inr (Or.inl (fault_of_instantOf_error hv hfault))
  · exact Or.inr (Or.inr (fault_of_latestText_error hl))
  · exact nomatch hpure

end ContractScan.Chain
