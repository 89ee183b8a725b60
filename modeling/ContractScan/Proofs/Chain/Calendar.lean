import ContractScan.Chain.Calendar
import Mathlib.Algebra.Ring.Nat

/-! # Days and dates

    Seconds become a date by division, with the cycles of 400, 100, 4 and 1
    years one within the other.  What a date stands for is said here without
    division: the lengths of the years before it, of the months before it, and
    the days before it in its month are added up (`Moment.days`).

    **THE TWO AGREE**: a moment made from seconds is a date that exists, and the
    seconds added up are those it was made from (`ofSecondsSinceYear1_spec`).
    Among dates that exist, an earlier one has fewer seconds
    (`Moment.seconds_lt_of_before`), so the seconds tell the date
    (`Moment.seconds_injective`). -/

namespace ContractScan.Chain

/-! ## Years -/

/-- The days of a year: every fourth year has a day more, but of the hundredth
    years only every fourth. -/
def yearLength (year : Nat) : Nat :=
  if 4 ∣ year ∧ (¬100 ∣ year ∨ 400 ∣ year) then 366 else 365

theorem yearLength_ge (year : Nat) : 365 ≤ yearLength year := by
  rw [yearLength]
  split <;> omega

/-- The days of the first years. -/
def daysOfYears : Nat → Nat
  | 0 => 0
  | years + 1 => daysOfYears years + yearLength (years + 1)

theorem isLeap_iff (year : Nat) :
    isLeap year = true ↔ 4 ∣ year ∧ (¬100 ∣ year ∨ 400 ∣ year) := by
  simp [isLeap, Nat.dvd_iff_mod_eq_zero]

/-- The months of a year make up the year. -/
theorem sum_monthLengths (year : Nat) : (monthLengths year).sum = yearLength year := by
  by_cases h : isLeap year = true
  · rw [yearLength, if_pos ((isLeap_iff year).mp h)]
    simp [monthLengths, h]
  · rw [yearLength, if_neg (mt (isLeap_iff year).mpr h)]
    simp [monthLengths, h]

/-- The days of the first years, counted by leap years. -/
theorem daysOfYears_add (years : Nat) :
    daysOfYears years + years / 100 = 365 * years + years / 4 + years / 400 := by
  induction years with
  | zero => rfl
  | succ years ih =>
      rw [daysOfYears, yearLength]
      split
      · omega
      · omega

/-- The first years have fewer days than more of them. -/
theorem daysOfYears_mono {years years' : Nat} (h : years ≤ years') :
    daysOfYears years ≤ daysOfYears years' := by
  induction h with
  | refl => exact Nat.le_refl _
  | step _ ih => exact Nat.le_add_right_of_le ih

section Cycles

variable {a b c e : Nat}

/-- The days of full cycles of 400, 100, 4 and 1 years. -/
theorem daysOfYears_cycles (hb : b ≤ 3) (hc : c ≤ 24) (he : e ≤ 3) :
    daysOfYears (400 * a + 100 * b + 4 * c + e) = 146097 * a + 36524 * b + 1461 * c + 365 * e := by
  have hcount := daysOfYears_add (400 * a + 100 * b + 4 * c + e)
  have hfours : (400 * a + 100 * b + 4 * c + e) / 4 = 100 * a + 25 * b + c := by omega
  have hhundreds : (400 * a + 100 * b + 4 * c + e) / 100 = 4 * a + b := by omega
  have hfourths : (400 * a + 100 * b + 4 * c + e) / 400 = a := by omega
  rw [hfours, hhundreds, hfourths] at hcount
  omega

/-- The year after full cycles has a day more if it is the last of four, and not
    the last of a hundred that are not the last of four hundred. -/
theorem yearLength_cycles (hc : c ≤ 24) (hlast : c = 24 → b = 3) :
    yearLength (400 * a + 100 * b + 4 * c + 3 + 1) = 366 := by
  rw [yearLength, if_pos]
  omega

end Cycles

/-- A day number is taken apart into full cycles and a day of a year.  The day
    after 365 others occurs only where the cycle of four years ends within its
    hundred, or with its four hundred. -/
theorem yearAndDay_cycles (n : Nat) :
    ∃ a b c e day, yearAndDay n = (400 * a + 100 * b + 4 * c + e + 1, day) ∧
      146097 * a + 36524 * b + 1461 * c + 365 * e + day = n ∧ b ≤ 3 ∧ c ≤ 24 ∧ e ≤ 3 ∧
      day ≤ 365 ∧ (day = 365 → e = 3 ∧ (c = 24 → b = 3)) := by
  obtain ⟨a, ha⟩ : ∃ a, a = n / 146097 := ⟨_, rfl⟩
  obtain ⟨b, hb⟩ : ∃ b, b = min (n % 146097 / 36524) 3 := ⟨_, rfl⟩
  obtain ⟨r, hr⟩ : ∃ r, r = n % 146097 - b * 36524 := ⟨_, rfl⟩
  obtain ⟨c, hc⟩ : ∃ c, c = r / 1461 := ⟨_, rfl⟩
  obtain ⟨e, he⟩ : ∃ e, e = min (r % 1461 / 365) 3 := ⟨_, rfl⟩
  have hcut : yearAndDay n = (400 * a + 100 * b + 4 * c + e + 1, r % 1461 - e * 365) := by
    rw [yearAndDay, ← ha, ← hb, ← hr, ← hc, ← he]
  have hhundred : n = 146097 * a + 36524 * b + r ∧ b ≤ 3 ∧ r ≤ 36524 ∧ (r = 36524 → b = 3) := by
    omega
  have hfour : r = 1461 * c + r % 1461 ∧ c ≤ 24 ∧ (c = 24 → r % 1461 = 1460 → r = 36524) := by
    omega
  have hone : e ≤ 3 ∧ e * 365 ≤ r % 1461 ∧ r % 1461 - e * 365 ≤ 365 ∧
      (r % 1461 - e * 365 = 365 → e = 3 ∧ r % 1461 = 1460) := by
    omega
  refine ⟨a, b, c, e, _, hcut, ?_, hhundred.2.1, hfour.2.1, hone.1, hone.2.2.1, ?_⟩
  · omega
  · intro hday
    obtain ⟨hlast, hend⟩ := hone.2.2.2 hday
    exact ⟨hlast, fun hc24 => hhundred.2.2.2 (hfour.2.2 hc24 hend)⟩

/-- A day is in the year that its number is taken apart into. -/
theorem yearAndDay_spec (n : Nat) :
    ∃ year day, yearAndDay n = (year, day) ∧ 1 ≤ year ∧ daysOfYears (year - 1) + day = n ∧
      day < yearLength year := by
  obtain ⟨a, b, c, e, day, hcut, hsum, hb, hc, he, hle, hleap⟩ := yearAndDay_cycles n
  refine ⟨_, day, hcut, Nat.le_add_left 1 _, ?_, ?_⟩
  · rw [Nat.add_sub_cancel, daysOfYears_cycles hb hc he, hsum]
  · rcases Nat.lt_or_eq_of_le hle with hlt | hday
    · exact Nat.lt_of_lt_of_le hlt (yearLength_ge _)
    · obtain ⟨rfl, hlast⟩ := hleap hday
      rw [hday, yearLength_cycles hc hlast]
      exact Nat.lt_succ_self 365

/-! ## Months -/

/-- The days of a month of a year. -/
def monthLength (year month : Nat) : Nat := (monthLengths year).getD (month - 1) 0

/-- The days of a year before a month. -/
def daysBeforeMonth (year month : Nat) : Nat := ((monthLengths year).take (month - 1)).sum

/-- A day within months is in the month that the walk through them ends at. -/
theorem monthAndDay_spec {lengths : List Nat} {d : Nat} (month : Nat) (h : d < lengths.sum) :
    ∃ i day, i < lengths.length ∧ monthAndDay month lengths d = (month + i, day + 1) ∧
      day < lengths.getD i 0 ∧ (lengths.take i).sum + day = d := by
  induction lengths generalizing month d with
  | nil => exact absurd h (Nat.not_lt_zero d)
  | cons l lengths ih =>
      by_cases hd : d < l
      · refine ⟨0, d, Nat.zero_lt_succ _, ?_, hd, Nat.zero_add d⟩
        cases lengths with
        | nil => rfl
        | cons l' lengths => simp [monthAndDay, hd]
      · rw [List.sum_cons] at h
        obtain ⟨i, day, hi, hwalk, hlt, hsum⟩ := ih (month + 1) (d := d - l) (by omega)
        refine ⟨i + 1, day, Nat.succ_lt_succ hi, ?_, hlt, ?_⟩
        · cases lengths with
          | nil => exact absurd hi (Nat.not_lt_zero i)
          | cons l' lengths =>
              simp only [monthAndDay, if_neg hd, hwalk]
              rw [Nat.add_assoc, Nat.add_comm 1 i]
        · rw [List.take_succ_cons, List.sum_cons]
          omega

/-- A month is over before a later one begins, and the year after its last. -/
theorem sum_take_add_getD_le {lengths : List Nat} {i j : Nat} (hij : i < j) :
    (lengths.take i).sum + lengths.getD i 0 ≤ (lengths.take j).sum := by
  induction lengths generalizing i j with
  | nil => simp
  | cons l lengths ih =>
      obtain ⟨j, rfl⟩ := Nat.exists_eq_succ_of_ne_zero (Nat.ne_zero_of_lt hij)
      cases i with
      | zero => simp
      | succ i =>
          have hrest := ih (Nat.lt_of_succ_lt_succ hij)
          simp only [List.take_succ_cons, List.sum_cons, List.getD_cons_succ]
          omega

theorem daysBeforeMonth_add_le (year : Nat) {month month' : Nat} (hpos : 1 ≤ month)
    (h : month < month') :
    daysBeforeMonth year month + monthLength year month ≤ daysBeforeMonth year month' :=
  sum_take_add_getD_le (by omega)

theorem daysBeforeMonth_add_le_yearLength (year : Nat) {month : Nat} (hpos : 1 ≤ month)
    (h : month ≤ 12) :
    daysBeforeMonth year month + monthLength year month ≤ yearLength year := by
  rw [← sum_monthLengths, ← List.take_of_length_le (l := monthLengths year) (i := 12) (Nat.le_refl _)]
  exact sum_take_add_getD_le (by omega)

/-! ## Moments -/

namespace Moment

/-- The date is one of the calendar, and the time one of a day. -/
structure IsValid (m : Moment) : Prop where
  year : 1 ≤ m.year ∧ m.year ≤ 9999
  month : 1 ≤ m.month ∧ m.month ≤ 12
  day : 1 ≤ m.day ∧ m.day ≤ monthLength m.year m.month
  hour : m.hour < 24
  minute : m.minute < 60
  second : m.second < 60

/-- The days from the start of the year 1 to that date. -/
def days (m : Moment) : Nat :=
  daysOfYears (m.year - 1) + daysBeforeMonth m.year m.month + (m.day - 1)

/-- The seconds from the start of the year 1 to that moment. -/
def seconds (m : Moment) : Nat := 86400 * m.days + 3600 * m.hour + 60 * m.minute + m.second

/-- The start of the year 1970. -/
def epoch : Moment := ⟨1970, 1, 1, 0, 0, 0⟩

/-- The seconds from the start of the year 1970 to that moment. -/
def instant (m : Moment) : Int := m.seconds - epoch.seconds

theorem seconds_epoch : (epoch.seconds : Int) = secondsBefore1970 := by
  have hcount := daysOfYears_add 1969
  have hmonths : daysBeforeMonth 1970 1 = 0 := rfl
  simp only [seconds, days, epoch, hmonths, secondsBefore1970, Nat.reduceSub]
  omega

/-- **SECONDS BECOME THEIR DATE**: the moment made from seconds within the
    calendar exists, and it is that many seconds after the start. -/
theorem ofSecondsSinceYear1_spec {n : Nat} (h : (n : Int) < secondsOfCalendar) :
    (ofSecondsSinceYear1 n).IsValid ∧ (ofSecondsSinceYear1 n).seconds = n := by
  rw [secondsOfCalendar] at h
  obtain ⟨year, d, hcut, hyear, hdays, hd⟩ := yearAndDay_spec (n / 86400)
  rw [← sum_monthLengths] at hd
  obtain ⟨i, day, hi, hwalk, hday, hsum⟩ := monthAndDay_spec 1 hd
  have hmoment : ofSecondsSinceYear1 n =
      ⟨year, 1 + i, day + 1, n % 86400 / 3600, n % 86400 % 3600 / 60, n % 86400 % 60⟩ := by
    simp only [ofSecondsSinceYear1, hcut, hwalk]
  have hmonth : 1 + i - 1 = i := Nat.add_sub_cancel_left 1 i
  have hlast : year ≤ 9999 := by
    have hcount := daysOfYears_add (year - 1)
    omega
  rw [hmoment]
  constructor
  · exact {
      year := ⟨hyear, hlast⟩
      month := ⟨Nat.le_add_right 1 i, Nat.add_comm 1 i ▸ hi⟩
      day := ⟨Nat.le_add_left 1 day, by rw [monthLength, hmonth]; exact hday⟩
      hour := Nat.div_lt_of_lt_mul (Nat.mod_lt n (by decide))
      minute := Nat.div_lt_of_lt_mul (Nat.mod_lt _ (by decide))
      second := Nat.mod_lt _ (by decide) }
  · simp only [seconds, days, daysBeforeMonth, hmonth, Nat.add_sub_cancel]
    omega

/-! ## The order of moments -/

/-- A moment is before another if it is so in the first of their parts that
    differ. -/
def Before (m m' : Moment) : Prop :=
  m.year < m'.year ∨ m.year = m'.year ∧
    (m.month < m'.month ∨ m.month = m'.month ∧
      (m.day < m'.day ∨ m.day = m'.day ∧
        (m.hour < m'.hour ∨ m.hour = m'.hour ∧
          (m.minute < m'.minute ∨ m.minute = m'.minute ∧ m.second < m'.second))))

/-- Of two moments one is before the other, or they are the same. -/
theorem before_or_eq_or_before (m m' : Moment) : m.Before m' ∨ m = m' ∨ m'.Before m := by
  obtain ⟨year, month, day, hour, minute, second⟩ := m
  obtain ⟨year', month', day', hour', minute', second'⟩ := m'
  simp only [Before, Moment.mk.injEq]
  omega

variable {m m' : Moment}

/-- A date is within its year. -/
theorem IsValid.daysBeforeMonth_add_day_lt (h : m.IsValid) :
    daysBeforeMonth m.year m.month + (m.day - 1) < yearLength m.year := by
  have hmonth := daysBeforeMonth_add_le_yearLength m.year h.month.1 h.month.2
  have hday := h.day
  omega

/-- A time is within its day. -/
theorem IsValid.clock_lt (h : m.IsValid) : 3600 * m.hour + 60 * m.minute + m.second < 86400 := by
  have hhour := h.hour
  have hminute := h.minute
  have hsecond := h.second
  omega

/-- A moment that exists is within the calendar. -/
theorem IsValid.seconds_lt (h : m.IsValid) : (m.seconds : Int) < secondsOfCalendar := by
  have hclock := h.clock_lt
  have hdate := h.daysBeforeMonth_add_day_lt
  have hyears := daysOfYears_mono h.year.2
  rw [← Nat.sub_add_cancel h.year.1, daysOfYears, Nat.sub_add_cancel h.year.1] at hyears
  have hcount := daysOfYears_add 9999
  simp only [seconds, days, secondsOfCalendar]
  omega

/-- An earlier date has fewer days before it, and an earlier time on one date
    fewer seconds. -/
theorem seconds_lt_of_before (h : m.IsValid) (h' : m'.IsValid) (hbefore : m.Before m') :
    m.seconds < m'.seconds := by
  have hclock := h.clock_lt
  have hday := h.day
  have hday' := h'.day
  rcases hbefore with hyear | ⟨hyear, hmonth | ⟨hmonth, hdate⟩⟩
  · have hin := h.daysBeforeMonth_add_day_lt
    have hyears : daysOfYears (m.year - 1) + yearLength m.year ≤ daysOfYears (m'.year - 1) := by
      have hpos := h.year.1
      have hle := daysOfYears_mono (show m.year - 1 + 1 ≤ m'.year - 1 by omega)
      rwa [daysOfYears, Nat.sub_add_cancel hpos] at hle
    simp only [seconds, days]
    omega
  · have hmonths := daysBeforeMonth_add_le m.year h.month.1 hmonth
    rw [hyear] at hmonths hday
    simp only [seconds, days, hyear]
    omega
  · have hminute := h.minute
    have hsecond := h.second
    rcases hdate with hlt | ⟨heq, hlt⟩
    · simp only [seconds, days, hyear, hmonth]
      omega
    · simp only [seconds, days, hyear, hmonth, heq]
      omega

/-- Seconds have the order of the moments. -/
theorem seconds_lt_iff (h : m.IsValid) (h' : m'.IsValid) : m.seconds < m'.seconds ↔ m.Before m' := by
  refine ⟨fun hlt => ?_, seconds_lt_of_before h h'⟩
  rcases before_or_eq_or_before m m' with hbefore | rfl | hafter
  · exact hbefore
  · exact absurd hlt (Nat.lt_irrefl _)
  · exact absurd hlt (Nat.lt_asymm (seconds_lt_of_before h' h hafter))

/-- The seconds tell the moment. -/
theorem seconds_injective (h : m.IsValid) (h' : m'.IsValid) (heq : m.seconds = m'.seconds) :
    m = m' := by
  rcases before_or_eq_or_before m m' with hbefore | hsame | hafter
  · exact absurd heq (Nat.ne_of_lt (seconds_lt_of_before h h' hbefore))
  · exact hsame
  · exact absurd heq (Nat.ne_of_gt (seconds_lt_of_before h' h hafter))

end Moment

end ContractScan.Chain
