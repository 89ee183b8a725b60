import ContractScan.Proofs.Chain.Activity
import ContractScan.Proofs.Chain.Calendar
import Mathlib.Data.List.Induction

/-! # What the text of an instant says

    A text tells an instant if it is a date and a time of day written with a
    fixed number of digits each, the date exists, and what they stand for is that
    many seconds after the start of 1970 (`TellsInstant`).  This is said without
    the code that writes.

    **WRITING IS TELLING**: an instant is written as a text exactly if the text
    tells it (`instantText_eq_ok_iff`).  So every instant of the calendar has one
    text and every text one instant, and texts have the order of their instants
    (`TellsInstant.lt_iff`), because the digits of a part are padded and the parts
    stand in the order of their weight.

    The last activity of a summary is then the greatest of the texts of its rows:
    `last_activity_is_greatest`. -/

namespace ContractScan.Chain

/-! ## Digits of fixed width -/

/-- Characters that are so many decimal digits and stand for the number. -/
structure IsNumeral (width n : Nat) (ds : List Char) : Prop where
  length : ds.length = width
  digits : ∀ c ∈ ds, c.isDigit = true
  value : Nat.ofDigitChars 10 ds 0 = n

section Digits

variable {width m n : Nat} {rest rest' ds : List Char}

/-- The digits of a number are a numeral if they are enough. -/
theorem isNumeral_fixedDigits (h : n < 10 ^ width) : IsNumeral width n (fixedDigits width n) := by
  induction width generalizing n with
  | zero =>
      have hzero : n = 0 := Nat.lt_one_iff.mp h
      subst hzero
      exact ⟨rfl, by simp [fixedDigits], rfl⟩
  | succ width ih =>
      have hlast : n % 10 < 10 := Nat.mod_lt n (by decide)
      have hrest := ih (Nat.div_lt_of_lt_mul (by rwa [Nat.pow_succ, Nat.mul_comm] at h))
      refine ⟨?_, ?_, ?_⟩
      · rw [fixedDigits, List.length_append, hrest.length, List.length_singleton]
      · intro c hc
        rw [fixedDigits, List.mem_append, List.mem_singleton] at hc
        rcases hc with hc | rfl
        · exact hrest.digits c hc
        · rw [Nat.isDigit_digitChar, decide_eq_true hlast]
      · rw [fixedDigits, Nat.ofDigitChars_append, hrest.value,
          Nat.ofDigitChars_cons_digitChar_of_lt_ten hlast, Nat.ofDigitChars_nil]
        omega

/-- A decimal digit is the digit of its value. -/
theorem digitChar_of_isDigit {c : Char} (h : c.isDigit = true) :
    c.toNat - '0'.toNat < 10 ∧ Nat.digitChar (c.toNat - '0'.toNat) = c := by
  have hzero : '0'.toNat = 48 := rfl
  have hbounds : 48 ≤ c.toNat ∧ c.toNat ≤ 57 := by
    simpa [Char.isDigit, UInt32.le_iff_toNat_le] using h
  have hlt : c.toNat - '0'.toNat < 10 := by omega
  refine ⟨hlt, Char.toNat_inj.mp ?_⟩
  rw [Nat.toNat_digitChar_of_lt_ten hlt]
  omega

/-- A numeral is written in one way. -/
theorem IsNumeral.eq_fixedDigits (h : IsNumeral width n ds) : ds = fixedDigits width n := by
  obtain ⟨rfl, hdigits, rfl⟩ := h
  induction ds using List.reverseRecOn with
  | nil => rfl
  | append_singleton ds c ih =>
      obtain ⟨hlt, hchar⟩ := digitChar_of_isDigit (hdigits c (by simp))
      have hrest := ih fun d hd => hdigits d (List.mem_append_left [c] hd)
      rw [List.length_append, List.length_singleton, Nat.ofDigitChars_append, Nat.ofDigitChars_cons,
        Nat.ofDigitChars_nil, fixedDigits, Nat.mul_add_div (by decide), Nat.div_eq_of_lt hlt,
        Nat.add_zero, ← hrest, Nat.mul_add_mod, Nat.mod_eq_of_lt hlt, hchar]

/-- Digits have the order of their numbers. -/
theorem digitChar_lt (h : m < n) (hn : n < 10) : Nat.digitChar m < Nat.digitChar n := by
  have hall : ∀ j < 10, ∀ i < j, Nat.digitChar i < Nat.digitChar j := by decide
  exact hall n hn m h

/-- Of two texts that begin with as many digits, the one with the smaller number
    is the smaller; with the same number, what follows decides. -/
theorem fixedDigits_append_lt (hn : n < 10 ^ width) (h : m < n ∨ m = n ∧ rest < rest') :
    fixedDigits width m ++ rest < fixedDigits width n ++ rest' := by
  rcases h with h | ⟨rfl, h⟩
  · induction width generalizing m n rest rest' with
    | zero =>
        have hzero : n = 0 := Nat.lt_one_iff.mp hn
        omega
    | succ width ih =>
        rw [fixedDigits, fixedDigits, List.append_assoc, List.append_assoc]
        rcases Nat.lt_or_eq_of_le (Nat.div_le_div_right (Nat.le_of_lt h) (c := 10)) with hlt | heq
        · exact ih (Nat.div_lt_of_lt_mul (by rwa [Nat.pow_succ, Nat.mul_comm] at hn)) hlt
        · have hlast : Nat.digitChar (m % 10) < Nat.digitChar (n % 10) :=
            digitChar_lt (by omega) (Nat.mod_lt n (by decide))
          rw [heq]
          exact List.append_left_lt (List.cons_lt_cons_iff.mpr (Or.inl hlast))
  · exact List.append_left_lt h

end Digits

/-! ## The text of a moment -/

/-- The text is date and time of day of the moment, each part with its number of
    digits. -/
def IsWritten (s : String) (m : Moment) : Prop :=
  ∃ year month day hour minute second,
    s.toList = year ++ '-' :: (month ++ '-' :: (day ++ 'T' :: (hour ++ ':' :: (minute ++ ':' ::
      (second ++ "+00:00".toList))))) ∧
    IsNumeral 4 m.year year ∧ IsNumeral 2 m.month month ∧ IsNumeral 2 m.day day ∧
    IsNumeral 2 m.hour hour ∧ IsNumeral 2 m.minute minute ∧ IsNumeral 2 m.second second

theorem toList_text (m : Moment) :
    m.text.toList = fixedDigits 4 m.year ++ '-' :: (fixedDigits 2 m.month ++ '-' ::
      (fixedDigits 2 m.day ++ 'T' :: (fixedDigits 2 m.hour ++ ':' :: (fixedDigits 2 m.minute ++
        ':' :: (fixedDigits 2 m.second ++ "+00:00".toList))))) := by
  rw [Moment.text, String.toList_ofList]
  simp only [List.append_assoc, List.cons_append]

/-- A moment is written in one way. -/
theorem IsWritten.eq_text {s : String} {m : Moment} (h : IsWritten s m) : s = m.text := by
  obtain ⟨year, month, day, hour, minute, second, hs, hyear, hmonth, hday, hhour, hminute, hsecond⟩ := h
  rw [← String.toList_inj, hs, toList_text, hyear.eq_fixedDigits, hmonth.eq_fixedDigits,
    hday.eq_fixedDigits, hhour.eq_fixedDigits, hminute.eq_fixedDigits, hsecond.eq_fixedDigits]

/-- No month has more than 31 days. -/
theorem monthLength_le (year month : Nat) : monthLength year month ≤ 31 := by
  have hall : ∀ l ∈ monthLengths year, l ≤ 31 := by
    simp only [monthLengths, List.forall_mem_cons]
    split <;> simp
  rw [monthLength, List.getD_eq_getElem?_getD]
  cases hget : (monthLengths year)[month - 1]? with
  | none => exact Nat.zero_le 31
  | some l => exact hall l (List.mem_of_getElem? hget)

namespace Moment

/-- The parts of a moment that exists have enough digits. -/
structure Fits (m : Moment) : Prop where
  year : m.year < 10 ^ 4
  month : m.month < 10 ^ 2
  day : m.day < 10 ^ 2
  hour : m.hour < 10 ^ 2
  minute : m.minute < 10 ^ 2
  second : m.second < 10 ^ 2

variable {m m' : Moment}

theorem IsValid.fits (h : m.IsValid) : m.Fits where
  year := Nat.lt_of_le_of_lt h.year.2 (by decide)
  month := Nat.lt_of_le_of_lt h.month.2 (by decide)
  day := Nat.lt_of_le_of_lt (Nat.le_trans h.day.2 (monthLength_le m.year m.month)) (by decide)
  hour := Nat.lt_trans h.hour (by decide)
  minute := Nat.lt_trans h.minute (by decide)
  second := Nat.lt_trans h.second (by decide)

/-- What is written for a moment that exists is read as this moment. -/
theorem isWritten_text (h : m.Fits) : IsWritten m.text m :=
  ⟨_, _, _, _, _, _, toList_text m, isNumeral_fixedDigits h.year, isNumeral_fixedDigits h.month,
    isNumeral_fixedDigits h.day, isNumeral_fixedDigits h.hour, isNumeral_fixedDigits h.minute,
    isNumeral_fixedDigits h.second⟩

/-- An earlier moment has the smaller text. -/
theorem text_lt_of_before (h' : m'.Fits) (hbefore : m.Before m') : m.text < m'.text := by
  have hmark : ∀ (c : Char) {l l' : List Char}, l < l' → c :: l < c :: l' :=
    fun c _ _ hlt => List.cons_lt_cons_iff.mpr (Or.inr ⟨rfl, hlt⟩)
  rw [String.lt_iff, toList_text, toList_text]
  -- one part after the other, as long as they are the same
  refine fixedDigits_append_lt h'.year (hbefore.imp_right (And.imp_right fun hmonth => hmark '-' ?_))
  refine fixedDigits_append_lt h'.month (hmonth.imp_right (And.imp_right fun hday => hmark '-' ?_))
  refine fixedDigits_append_lt h'.day (hday.imp_right (And.imp_right fun hhour => hmark 'T' ?_))
  refine fixedDigits_append_lt h'.hour (hhour.imp_right (And.imp_right fun hmin => hmark ':' ?_))
  refine fixedDigits_append_lt h'.minute (hmin.imp_right (And.imp_right fun hsec => hmark ':' ?_))
  exact fixedDigits_append_lt h'.second (Or.inl hsec)

/-- Texts have the order of the seconds. -/
theorem text_lt_iff (h : m.IsValid) (h' : m'.IsValid) :
    m.text < m'.text ↔ m.seconds < m'.seconds := by
  rw [seconds_lt_iff h h']
  refine ⟨fun hlt => ?_, text_lt_of_before h'.fits⟩
  rcases before_or_eq_or_before m m' with hbefore | rfl | hafter
  · exact hbefore
  · exact absurd hlt (String.lt_irrefl _)
  · exact absurd hlt (String.lt_asymm (text_lt_of_before h.fits hafter))

end Moment

/-! ## The text of an instant -/

/-- The text is the written form of a moment that exists and is that many seconds
    after the start of 1970. -/
def TellsInstant (s : String) (t : Int) : Prop :=
  ∃ m : Moment, m.IsValid ∧ IsWritten s m ∧ m.instant = t

section Instants

variable {s s' : String} {t t' : Int}

/-- An instant of the calendar is told by what is written for it. -/
theorem exists_tellsInstant (h : InCalendar t) : ∃ s, instantText t = .ok s ∧ TellsInstant s t := by
  obtain ⟨hlow, hhigh⟩ := (inCalendar_iff t).mp h
  have hcast : ((t + secondsBefore1970).toNat : Int) = t + secondsBefore1970 :=
    Int.toNat_of_nonneg hlow
  rw [← hcast] at hhigh
  obtain ⟨hvalid, hseconds⟩ := Moment.ofSecondsSinceYear1_spec hhigh
  refine ⟨_, instantText_of_inCalendar h, _, hvalid, Moment.isWritten_text hvalid.fits, ?_⟩
  rw [Moment.instant, hseconds, Moment.seconds_epoch, hcast, Int.add_sub_cancel]

/-- Texts have the order of the instants they tell. -/
theorem TellsInstant.lt_iff (h : TellsInstant s t) (h' : TellsInstant s' t') :
    s < s' ↔ t < t' := by
  obtain ⟨m, hvalid, hwritten, rfl⟩ := h
  obtain ⟨m', hvalid', hwritten', rfl⟩ := h'
  rw [hwritten.eq_text, hwritten'.eq_text, Moment.text_lt_iff hvalid hvalid', Moment.instant,
    Moment.instant]
  omega

/-- An instant is told by one text. -/
theorem TellsInstant.text_unique (h : TellsInstant s t) (h' : TellsInstant s' t) : s = s' := by
  obtain ⟨m, hvalid, hwritten, hm⟩ := h
  obtain ⟨m', hvalid', hwritten', hm'⟩ := h'
  have hseconds : m.seconds = m'.seconds := by
    rw [Moment.instant] at hm hm'
    omega
  rw [hwritten.eq_text, hwritten'.eq_text, Moment.seconds_injective hvalid hvalid' hseconds]

/-- Only instants of the calendar are told. -/
theorem TellsInstant.inCalendar (h : TellsInstant s t) : InCalendar t := by
  obtain ⟨m, hvalid, -, rfl⟩ := h
  rw [inCalendar_iff, Moment.instant, Moment.seconds_epoch, Int.sub_add_cancel]
  exact ⟨Int.natCast_nonneg m.seconds, hvalid.seconds_lt⟩

/-- **WRITING IS TELLING**: what is written for an instant is the text that tells
    it. -/
theorem instantText_eq_ok_iff : instantText t = .ok s ↔ TellsInstant s t := by
  constructor
  · intro h
    obtain ⟨text, htext, htells⟩ := exists_tellsInstant ((instantText_ok_iff t).mp ⟨s, h⟩)
    rwa [Except.ok.inj (h.symm.trans htext)]
  · intro h
    obtain ⟨text, htext, htells⟩ := exists_tellsInstant h.inCalendar
    rwa [h.text_unique htells]

example : instantText 951782400 = .ok "2000-02-29T00:00:00+00:00" := by decide +kernel

end Instants

/-! ## The last activity -/

/-- The last activity is missing if no time is read, and otherwise tells the
    latest time. -/
theorem lastActivity_of_summarize {rows : List Json} {a : Activity} (h : summarize rows = .ok a) :
    (a.lastActivity = none ↔ ∀ row ∈ rows, ∀ t, ¬TimeIs row t) ∧
      ∀ s, a.lastActivity = some s → ∃ t, IsLatestTime rows t ∧ TellsInstant s t := by
  simp only [summarize, bind_eq_ok_iff] at h
  obtain ⟨senders, -, instants, hinstants, last, hlast, hpure⟩ := h
  obtain rfl := Except.ok.inj hpure
  cases hlatest : latest? (instants.filterMap id) with
  | none =>
      simp only [latestText, hlatest, Except.ok.injEq] at hlast
      subst hlast
      refine ⟨iff_of_true rfl (not_timeIs_of_latest?_eq_none hinstants hlatest), fun s hs => ?_⟩
      exact absurd hs.symm (Option.some_ne_none s)
  | some t =>
      have htime := (isLatestTime_iff hinstants t).mp hlatest
      obtain ⟨⟨row, hrow, hread⟩, -⟩ := id htime
      simp only [latestText, hlatest] at hlast
      obtain ⟨s, hs, rfl⟩ := map_eq_ok_iff.mp hlast
      refine ⟨iff_of_false (Option.some_ne_none s) fun hnone => hnone row hrow t hread, ?_⟩
      rintro s' hs'
      obtain rfl := Option.some.inj hs'
      exact ⟨t, htime, instantText_eq_ok_iff.mp hs⟩

/-- A row of nothing but a time of the calendar has a summary. -/
theorem summarize_of_time {t : Int} (h : InCalendar t) :
    ∃ a s, summarize [.obj [("timeStamp", .int t)]] = .ok a ∧ a.lastActivity = some s ∧
      TellsInstant s t := by
  obtain ⟨s, hs, htells⟩ := exists_tellsInstant h
  have hlast : latestText [t] = .ok (some s) := map_eq_ok_iff.mpr ⟨s, hs, rfl⟩
  refine ⟨⟨1, 0, 0, some s⟩, s, ?_, rfl, htells⟩
  exact bind_eq_ok_iff.mpr ⟨[none], rfl, bind_eq_ok_iff.mpr ⟨[some t], rfl,
    bind_eq_ok_iff.mpr ⟨some s, hlast, rfl⟩⟩⟩

/-- **THE LAST ACTIVITY IS THE RIGHT INSTANT**: rows whose times are all of the
    calendar have a summary unless a sender is no text or a time infinite; then
    the last activity is missing exactly if no time is read, and is otherwise the
    greatest of the texts of the rows.  The text of a row with a time of the
    calendar is the one that tells this instant, and later instants have greater
    texts. -/
theorem last_activity_is_greatest (rows : List Json)
    (hobjects : ∀ row ∈ rows, row.isObject = true)
    (htimes : ∀ row ∈ rows, ∀ t, TimeIs row t → InCalendar t) :
    ((∃ a, summarize rows = .ok a) ↔
        (∀ row ∈ rows, ∀ v, row.field? "from" = some v → v.IsTextOrAbsent) ∧
          ∀ row ∈ rows, ∀ v, row.field? "timeStamp" = some v →
            ∀ negative, v ≠ .float (.infinite negative)) ∧
      (∀ a, summarize rows = .ok a →
        (a.lastActivity = none ↔ ∀ row ∈ rows, ∀ t, ¬TimeIs row t) ∧
        ∀ s, a.lastActivity = some s →
          (∃ row ∈ rows, ∃ t, TimeIs row t ∧ TellsInstant s t) ∧
          ∀ row ∈ rows, ∀ t s', TimeIs row t → TellsInstant s' t → s' ≤ s) ∧
      (∀ t, InCalendar t → ∃ a s, summarize [.obj [("timeStamp", .int t)]] = .ok a ∧
        a.lastActivity = some s ∧ TellsInstant s t) ∧
      ∀ s s' t t', TellsInstant s t → TellsInstant s' t' → t < t' → s < s' := by
  refine ⟨?_, ?_, fun t => summarize_of_time, fun s s' t t' h h' => (h.lt_iff h').mpr⟩
  · rw [summarize_ok_iff hobjects]
    constructor
    · exact fun h => ⟨h.senders, h.times⟩
    · rintro ⟨hsenders, hfinite⟩
      refine ⟨hsenders, hfinite, fun t hlatest => ?_⟩
      obtain ⟨⟨row, hrow, hread⟩, -⟩ := hlatest
      exact htimes row hrow t hread
  · intro a ha
    obtain ⟨hnone, hsome⟩ := lastActivity_of_summarize ha
    refine ⟨hnone, fun s hs => ?_⟩
    obtain ⟨t, ⟨⟨row, hrow, hread⟩, hlatest⟩, htells⟩ := hsome s hs
    refine ⟨⟨row, hrow, t, hread, htells⟩, fun row' hrow' t' s' hread' htells' => ?_⟩
    have hle := hlatest row' hrow' t' hread'
    rw [← String.not_lt, htells.lt_iff htells']
    exact Int.not_lt.mpr hle

/-- Two rows with the last second before 1970 and the first second after. -/
def rowsAround1970 : List Json := [.obj [("timeStamp", .int 0)], .obj [("timeStamp", .int (-1))]]

/-- The last activity around the start of 1970 is its first second. -/
theorem last_activity_around_1970 :
    TellsInstant "1969-12-31T23:59:59+00:00" (-1) ∧ TellsInstant "1970-01-01T00:00:00+00:00" 0 ∧
      "1969-12-31T23:59:59+00:00" < "1970-01-01T00:00:00+00:00" ∧
      ∃ a, summarize rowsAround1970 = .ok a ∧ a.lastActivity ≠ none ∧
        ∀ s, a.lastActivity = some s → "1970-01-01T00:00:00+00:00" ≤ s := by
  have hbefore : TellsInstant "1969-12-31T23:59:59+00:00" (-1) :=
    instantText_eq_ok_iff.mp (by decide +kernel)
  have hafter : TellsInstant "1970-01-01T00:00:00+00:00" 0 :=
    instantText_eq_ok_iff.mp (by decide +kernel)
  have htimes : ∀ row ∈ rowsAround1970, ∀ t, TimeIs row t → InCalendar t := by
    simp only [rowsAround1970, List.forall_mem_cons]
    refine ⟨?_, ?_, by simp⟩
    · rintro t ⟨⟩
      exact ⟨by decide, by decide⟩
    · rintro t ⟨⟩
      exact ⟨by decide, by decide⟩
  have hfirst : TimeIs (.obj [("timeStamp", .int 0)]) 0 := rfl
  have hsummary : ∃ a, summarize rowsAround1970 = .ok a :=
    ⟨⟨2, 0, 0, some "1970-01-01T00:00:00+00:00"⟩, by decide +kernel⟩
  obtain ⟨-, hlast, -, horder⟩ := last_activity_is_greatest rowsAround1970 (by decide) htimes
  obtain ⟨a, ha⟩ := hsummary
  obtain ⟨hnone, hsome⟩ := hlast a ha
  refine ⟨hbefore, hafter, horder _ _ _ _ hbefore hafter (by decide), a, ha, ?_, ?_⟩
  · intro hmissing
    exact hnone.mp hmissing _ (List.mem_cons_self ..) 0 hfirst
  · intro s hs
    exact (hsome s hs).2 _ (List.mem_cons_self ..) 0 _ hfirst hafter

/-- A row whose time is an infinite number. -/
def endlessRow : List Json := [.obj [("timeStamp", .float (.infinite false))]]

/-- Not all rows without a time are summarized as rows without a time. -/
theorem no_last_activity_of_endless_row :
    ¬∀ rows : List Json, (∀ row ∈ rows, row.isObject = true) →
      (∀ row ∈ rows, ∀ t, TimeIs row t → InCalendar t) →
      ∃ a, summarize rows = .ok a ∧
        (a.lastActivity = none ↔ ∀ row ∈ rows, ∀ t, ¬TimeIs row t) := by
  intro hall
  have hfault : summarize endlessRow = .error .infiniteInstant := by decide +kernel
  have htimes : ∀ row ∈ endlessRow, ∀ t, TimeIs row t → InCalendar t := by
    intro row hrow t ht
    rw [List.mem_singleton.mp hrow] at ht
    exact nomatch ht
  obtain ⟨a, ha, -⟩ := hall endlessRow (by decide) htimes
  exact nomatch hfault.symm.trans ha

end ContractScan.Chain
