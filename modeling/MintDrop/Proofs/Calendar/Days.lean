import Mathlib.Logic.Function.Iterate
import Mathlib.Order.Monotone.Basic
import Mathlib.Tactic.Common
import Mathlib.Tactic.IntervalCases
import MintDrop.Calendar.Date

/-!
# The count of days

`Date.next` is the day after a day, and `Date.DaysFromEpoch` counts such steps from or to 1 January 1970.  A step adds
one to `Date.dayNumber` (`dayNumber_next`), which tells days apart (`eq_of_dayNumber_eq`), so that it is the count
(`daysFromEpoch_iff`).
-/

namespace MintDrop.Date

/-- Whether the calendar has the day. -/
def InCalendar (d : Date) : Prop :=
  1 ≤ d.month ∧ d.month ≤ 12 ∧ 1 ≤ d.day ∧ d.day ≤ monthLength d.year d.month

instance (d : Date) : Decidable d.InCalendar := inferInstanceAs (Decidable (_ ∧ _ ∧ _ ∧ _))

/-- The day after a day. -/
def next (d : Date) : Date :=
  if d.day < monthLength d.year d.month then ⟨d.year, d.month, d.day + 1⟩
  else if d.month < 12 then ⟨d.year, d.month + 1, 1⟩
  else ⟨d.year + 1, 1, 1⟩

/-- The day from which days are counted. -/
def epoch : Date := ⟨1970, 1, 1⟩

/-- Whether a day is so many days after 1 January 1970, or before it if the number is negative. -/
def DaysFromEpoch (d : Date) (n : ℤ) : Prop := next^[n.toNat] epoch = next^[(-n).toNat] d

variable {d a b : Date} {year year' : ℤ} {month : ℕ}

/-! ### Years -/

/-- The number of days of a year. -/
def yearLength (year : ℤ) : ℕ := if isLeap year then 366 else 365

theorem daysBeforeYear_succ (year : ℤ) : daysBeforeYear (year + 1) = daysBeforeYear year + yearLength year := by
  unfold daysBeforeYear yearLength isLeap
  split_ifs with hleap
  · simp only [Bool.and_eq_true, Bool.or_eq_true, decide_eq_true_eq] at hleap
    omega
  · simp only [Bool.and_eq_true, Bool.or_eq_true, decide_eq_true_eq] at hleap
    omega

theorem daysBeforeYear_mono (h : year ≤ year') : daysBeforeYear year ≤ daysBeforeYear year' := by
  unfold daysBeforeYear
  omega

/-! ### Months -/

theorem daysBeforeMonth_eq_sum (year : ℤ) (month : ℕ) :
    daysBeforeMonth year month = ((List.range' 1 (month - 1)).map (monthLength year)).sum := rfl

theorem daysBeforeMonth_succ (h : 1 ≤ month) :
    daysBeforeMonth year (month + 1) = daysBeforeMonth year month + monthLength year month := by
  rw [daysBeforeMonth_eq_sum, daysBeforeMonth_eq_sum, show month + 1 - 1 = month - 1 + 1 by omega,
    List.range'_1_concat, show 1 + (month - 1) = month by omega]
  simp

theorem daysBeforeMonth_mono (year : ℤ) : Monotone (daysBeforeMonth year) := by
  apply monotone_nat_of_le_succ
  intro month
  by_cases h : 1 ≤ month
  · rw [daysBeforeMonth_succ h]
    omega
  · rw [show month = 0 by omega]
    exact Nat.le_refl 0

theorem daysBeforeMonth_thirteen (year : ℤ) : daysBeforeMonth year 13 = yearLength year := by
  unfold yearLength
  by_cases h : isLeap year <;> simp [daysBeforeMonth, monthLength, List.range', h]

theorem one_le_monthLength (h : 1 ≤ month) (h' : month ≤ 12) : 1 ≤ monthLength year month := by
  by_cases hleap : isLeap year <;> interval_cases month <;> simp [monthLength, hleap]

/-- No month but the twelve has days. -/
theorem month_of_one_le_monthLength (h : 1 ≤ monthLength year month) : 1 ≤ month ∧ month ≤ 12 := by
  unfold monthLength at h
  split at h
  all_goals omega

/-! ### Days -/

theorem isValid_iff (h : 0 ≤ d.year) (h' : d.year < 10000) : d.isValid ↔ d.InCalendar := by
  simp only [isValid, InCalendar, Bool.and_eq_true, decide_eq_true_eq]
  constructor
  · rintro ⟨⟨-, hday⟩, hlast⟩
    obtain ⟨hfirst, htwelve⟩ := month_of_one_le_monthLength (Nat.le_trans hday hlast)
    exact ⟨hfirst, htwelve, hday, hlast⟩
  · rintro ⟨-, -, hday, hlast⟩
    have hlow : minYear ≤ d.year := Int.le_trans (by decide) h
    have hhigh : d.year ≤ maxYear := Int.le_trans (Int.le_of_lt h') (by decide)
    exact ⟨⟨⟨hlow, hhigh⟩, hday⟩, hlast⟩

theorem inCalendar_newYear (year : ℤ) : InCalendar ⟨year, 1, 1⟩ :=
  ⟨Nat.le_refl 1, Nat.le_add_left 1 11, Nat.le_refl 1, Nat.le_add_left 1 30⟩

theorem inCalendar_next (h : d.InCalendar) : d.next.InCalendar := by
  obtain ⟨hmonth, htwelve, hday, hlast⟩ := h
  unfold next
  split_ifs with hsame hyear
  · exact ⟨hmonth, htwelve, Nat.le_add_left 1 d.day, hsame⟩
  · exact ⟨Nat.le_add_left 1 d.month, hyear, Nat.le_refl 1, one_le_monthLength (Nat.le_add_left 1 d.month) hyear⟩
  · exact inCalendar_newYear (d.year + 1)

/-- A day later is counted as one more. -/
theorem dayNumber_next (h : d.InCalendar) : d.next.dayNumber = d.dayNumber + 1 := by
  obtain ⟨hmonth, htwelve, hday, hlast⟩ := h
  unfold next
  split_ifs with hsame hyear
  · simp only [dayNumber]
    omega
  · have hsucc := @daysBeforeMonth_succ d.year d.month hmonth
    simp only [dayNumber]
    omega
  · have hsucc := @daysBeforeMonth_succ d.year d.month hmonth
    have hthirteen := daysBeforeMonth_thirteen d.year
    have hnextYear := daysBeforeYear_succ d.year
    have hjanuary : daysBeforeMonth (d.year + 1) 1 = 0 := rfl
    rw [show d.month + 1 = 13 by omega] at hsucc
    simp only [dayNumber]
    omega

theorem daysBeforeMonth_add_day_le (h : d.InCalendar) :
    daysBeforeMonth d.year d.month + d.day ≤ daysBeforeMonth d.year (d.month + 1) := by
  rw [daysBeforeMonth_succ h.1]
  exact Nat.add_le_add_left h.2.2.2 _

/-- The days of a year are counted between its beginning and that of the next year. -/
theorem dayNumber_bounds (h : d.InCalendar) :
    daysBeforeYear d.year - 719162 ≤ d.dayNumber ∧ d.dayNumber < daysBeforeYear (d.year + 1) - 719162 := by
  have hle := daysBeforeMonth_add_day_le h
  have hyear := daysBeforeMonth_mono d.year (show d.month + 1 ≤ 13 by have := h.2.1; omega)
  have hday := h.2.2.1
  rw [daysBeforeMonth_thirteen] at hyear
  rw [daysBeforeYear_succ]
  unfold dayNumber
  omega

theorem year_le_of_dayNumber_le (ha : a.InCalendar) (hb : b.InCalendar) (h : a.dayNumber ≤ b.dayNumber) :
    a.year ≤ b.year := by
  by_contra hlt
  have hmono := daysBeforeYear_mono (show b.year + 1 ≤ a.year by omega)
  have hbelow := (dayNumber_bounds ha).1
  have habove := (dayNumber_bounds hb).2
  omega

theorem month_le_of_dayNumber_le (ha : a.InCalendar) (hb : b.InCalendar) (hyear : a.year = b.year)
    (h : a.dayNumber ≤ b.dayNumber) : a.month ≤ b.month := by
  by_contra hlt
  have hmono := daysBeforeMonth_mono b.year (show b.month + 1 ≤ a.month by omega)
  have hle := daysBeforeMonth_add_day_le hb
  have hday := ha.2.2.1
  unfold dayNumber at h
  rw [hyear] at h
  omega

/-- The count tells days apart. -/
theorem eq_of_dayNumber_eq (ha : a.InCalendar) (hb : b.InCalendar) (h : a.dayNumber = b.dayNumber) : a = b := by
  have hyear : a.year = b.year :=
    Int.le_antisymm (year_le_of_dayNumber_le ha hb (by omega)) (year_le_of_dayNumber_le hb ha (by omega))
  have hmonth : a.month = b.month :=
    Nat.le_antisymm (month_le_of_dayNumber_le ha hb hyear (by omega))
      (month_le_of_dayNumber_le hb ha hyear.symm (by omega))
  have hday : a.day = b.day := by
    unfold dayNumber at h
    rw [hyear, hmonth] at h
    omega
  cases a
  cases b
  simp_all

/-! ### Counting -/

theorem iterate_next (h : d.InCalendar) (n : ℕ) :
    (next^[n] d).InCalendar ∧ (next^[n] d).dayNumber = d.dayNumber + n := by
  induction n with
  | zero => exact ⟨h, by simp⟩
  | succ n ih =>
      obtain ⟨hday, hcount⟩ := ih
      rw [Function.iterate_succ_apply']
      refine ⟨inCalendar_next hday, ?_⟩
      rw [dayNumber_next hday, hcount]
      push_cast
      omega

/-- The number of a day is the count of the days from 1 January 1970 to it. -/
theorem daysFromEpoch_iff (h : d.InCalendar) {n : ℤ} : d.DaysFromEpoch n ↔ n = d.dayNumber := by
  have hepoch : epoch.InCalendar := by decide
  have hzero : epoch.dayNumber = 0 := by decide
  obtain ⟨hforth, hcount⟩ := iterate_next hepoch n.toNat
  obtain ⟨hback, hcount'⟩ := iterate_next h (-n).toNat
  unfold DaysFromEpoch
  constructor
  · intro heq
    rw [heq, hcount', hzero] at hcount
    omega
  · intro hn
    apply eq_of_dayNumber_eq hforth hback
    rw [hcount, hcount', hzero]
    omega

end MintDrop.Date

namespace MintDrop.Moment

theorem isValid_date {m : Moment} (h : m.isValid) : m.date.isValid := by
  simp only [isValid, Bool.and_eq_true] at h
  exact h.1.1.1.1.1

end MintDrop.Moment
