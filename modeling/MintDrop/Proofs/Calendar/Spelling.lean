import Mathlib.Data.Nat.Digits.Defs
import MintDrop.Proofs.Calendar.Days
import MintDrop.Proofs.Calendar.Formats

/-!
# Spellings of a moment

A `Spelling` writes a day of the years 0 to 9999 in digits, alone or with a time of day, and then with a blank between
them or with a `T` and a zone.  If the calendar has the day, its text names the moment that is written, whichever
spelling it is, and otherwise nothing (`spellings_agree`).
-/

namespace MintDrop.Calendar

variable {cs rest : List Char} {least width n : ℕ}

/-! ### Digits -/

/-- A number in decimal, with zeros before it up to a width. -/
def padded (width n : ℕ) : List Char := List.leftpad width '0' (Nat.toDigits 10 n)

theorem isDigit_of_mem_padded {c : Char} (h : c ∈ padded width n) : c.isDigit := by
  rcases List.mem_append.1 h with h | h
  · rw [List.eq_of_mem_replicate h]
    rfl
  · exact Nat.isDigit_of_mem_toDigits (by decide) (by decide) h

theorem ofDigits_padded (width n : ℕ) : Natural.ofDigits (padded width n) = n := by
  show Nat.ofDigitChars 10 (List.replicate _ '0' ++ Nat.toDigits 10 n) 0 = n
  rw [Nat.ofDigitChars_append, Nat.ofDigitChars_replicate_zero, Nat.mul_zero, Nat.ofDigitChars_ten_toDigits]

theorem length_padded (hwidth : 0 < width) (h : n < 10 ^ width) : (padded width n).length = width := by
  rw [padded, List.length_leftpad]
  exact Nat.max_eq_left (Nat.toDigits_length 10 n width hwidth h)

theorem number_padded (hwidth : 0 < width) (h : n < 10 ^ width) (rest : List Char) :
    number width width (padded width n ++ rest) = some (n, rest) := by
  have hlength := length_padded hwidth h
  have hdigits : ∀ c ∈ padded width n, c.isDigit := fun c hc => isDigit_of_mem_padded hc
  rw [number_append hdigits hlength.ge hlength.le fun hlt => absurd hlt (by omega), ofDigits_padded]

theorem twoDigits_padded {bound : ℕ} (i : Fin bound) (hbound : bound ≤ 100) (rest : List Char) :
    twoDigits (padded 2 i ++ rest) = some (i.val, rest) :=
  number_padded (by decide) (Nat.lt_of_lt_of_le i.isLt hbound) rest

/-- A text that ends with a number does not end with a blank. -/
theorem isBlank_of_suffix_padded (h : padded width n <:+ cs) : ∀ c ∈ cs.getLast?, Text.isBlank c = false := by
  obtain ⟨before, rfl⟩ := h
  have hne : padded width n ≠ [] := List.append_ne_nil_of_right_ne_nil _ Nat.toDigits_ne_nil
  intro c hc
  rw [List.getLast?_append_of_ne_nil before hne] at hc
  exact isBlank_of_isDigit (isDigit_of_mem_padded (List.mem_of_getLast? hc))

/-! ### What is written -/

/-- The numbers of a written day, which the calendar may not have. -/
structure WrittenDay where
  year : Fin 10000
  month : Fin 100
  day : Fin 100

namespace WrittenDay

def date (d : WrittenDay) : Date := ⟨d.year.val, d.month, d.day⟩

/-- Year, month and day with hyphens between them. -/
def chars (d : WrittenDay) : List Char := padded 4 d.year ++ '-' :: padded 2 d.month ++ '-' :: padded 2 d.day

variable (d : WrittenDay)

theorem year_date : 0 ≤ d.date.year ∧ d.date.year < 10000 := by
  have hyear := d.year.isLt
  simp only [date]
  omega

theorem number_chars (rest : List Char) : number 4 4 (d.chars ++ rest) =
    some (d.year.val, '-' :: (padded 2 d.month ++ '-' :: (padded 2 d.day ++ rest))) := by
  simp only [chars, List.append_assoc, List.cons_append]
  exact number_padded (by decide) d.year.isLt _

theorem dateFields_chars (rest : List Char) : dateFields (d.chars ++ rest) = some (d.date, rest) :=
  dateFields_of_fixed (d.number_chars rest) (twoDigits_padded d.month (by decide) _)
    (twoDigits_padded d.day (by decide) rest)

theorem suffix_chars : padded 2 d.day <:+ d.chars := (List.suffix_cons _ _).trans (List.suffix_append _ _)

end WrittenDay

/-- A time of day. -/
structure WrittenTime where
  hour : Fin 24
  minute : Fin 60
  second : Fin 60

namespace WrittenTime

def midnight : WrittenTime := ⟨0, 0, 0⟩

def clock (t : WrittenTime) : Clock := ⟨t.hour, t.minute, t.second⟩

/-- The seconds from midnight. -/
def seconds (t : WrittenTime) : ℕ := 3600 * t.hour + 60 * t.minute + t.second

/-- Hour, minute and second with colons between them. -/
def chars (t : WrittenTime) : List Char := padded 2 t.hour ++ ':' :: padded 2 t.minute ++ ':' :: padded 2 t.second

variable (t : WrittenTime)

theorem isValid_clock : t.clock.isValid := by
  have hsecond : t.second.val ≤ 60 := Nat.le_of_lt t.second.isLt
  simp [clock, Clock.isValid, t.hour.isLt, t.minute.isLt, hsecond]

theorem seconds_clock : t.clock.seconds = t.seconds := by
  have hsecond := t.second.isLt
  simp only [clock, Clock.seconds, seconds]
  omega

theorem seconds_lt : t.seconds < 86400 := by
  have hhour := t.hour.isLt
  have hminute := t.minute.isLt
  have hsecond := t.second.isLt
  unfold seconds
  omega

theorem twoDigits_chars (rest : List Char) : twoDigits (t.chars ++ rest) =
    some (t.hour.val, ':' :: (padded 2 t.minute ++ ':' :: (padded 2 t.second ++ rest))) := by
  simp only [chars, List.append_assoc, List.cons_append]
  exact twoDigits_padded t.hour (by decide) _

theorem clockFields_chars (rest : List Char) : clockFields (t.chars ++ rest) = some (t.clock, rest) :=
  clockFields_of_fixed (t.twoDigits_chars rest) (twoDigits_padded t.minute (by decide) _)
    (twoDigits_padded t.second (by decide) rest)

theorem suffix_chars : padded 2 t.second <:+ t.chars := (List.suffix_cons _ _).trans (List.suffix_append _ _)

end WrittenTime

/-- Universal time, or the hours and minutes by which local time is ahead of it or behind. -/
inductive WrittenZone
  | universal
  | offset (behind : Bool) (hours : Fin 24) (minutes : Fin 60)

namespace WrittenZone

/-- The seconds by which local time is ahead. -/
def seconds : WrittenZone → ℤ
  | universal => 0
  | offset behind hours minutes => (if behind then -1 else 1) * (3600 * hours.val + 60 * minutes.val)

/-- A `Z`, or hours and minutes behind a sign and with a colon between them. -/
def chars : WrittenZone → List Char
  | universal => ['Z']
  | offset behind hours minutes => (if behind then '-' else '+') :: padded 2 hours ++ ':' :: padded 2 minutes

theorem seconds_bounds (z : WrittenZone) : -86400 < z.seconds ∧ z.seconds < 86400 := by
  cases z with
  | universal => decide
  | offset behind hours minutes =>
      have hhours := hours.isLt
      have hminutes := minutes.isLt
      cases behind <;> simp only [seconds, Bool.false_eq_true, if_true, if_false] <;> omega

theorem fraction_chars (z : WrittenZone) : fraction z.chars = some ((), z.chars) := by
  cases z with
  | universal => rfl
  | offset behind hours minutes => cases behind <;> rfl

theorem offset3339_chars (z : WrittenZone) : offset3339 z.chars = some (z.seconds, []) := by
  cases z with
  | universal => rfl
  | offset behind hours minutes =>
      have hhours := twoDigits_padded hours (by decide) (':' :: padded 2 minutes)
      have hminutes := twoDigits_padded minutes (by decide) []
      rw [List.append_nil] at hminutes
      cases behind with
      | false => simp [chars, offset3339, sign, hhours, char, offsetMinutes, hminutes, minutes.isLt, seconds]
      | true => simp [chars, offset3339, sign, hhours, char, offsetMinutes, hminutes, minutes.isLt, seconds]

theorem isBlank_of_suffix_chars {z : WrittenZone} (h : z.chars <:+ cs) :
    ∀ c ∈ cs.getLast?, Text.isBlank c = false := by
  cases z with
  | universal =>
      obtain ⟨before, rfl⟩ := h
      intro c hc
      rw [chars, List.getLast?_concat] at hc
      cases hc
      rfl
  | offset behind hours minutes =>
      exact isBlank_of_suffix_padded (((List.suffix_cons _ _).trans (List.suffix_append _ _)).trans h)

end WrittenZone

/-- What is written after a day: nothing, a time after a blank, or a time after a `T` and a zone. -/
inductive WrittenRest
  | nothing
  | spaced (t : WrittenTime)
  | zoned (t : WrittenTime) (z : WrittenZone)

namespace WrittenRest

/-- The time of day, which is midnight where there is none. -/
def time : WrittenRest → WrittenTime
  | nothing => .midnight
  | spaced t => t
  | zoned t _ => t

/-- The zone, which is universal time where there is none. -/
def zone : WrittenRest → WrittenZone
  | nothing => .universal
  | spaced _ => .universal
  | zoned _ z => z

def chars : WrittenRest → List Char
  | nothing => []
  | spaced t => ' ' :: t.chars
  | zoned t z => 'T' :: (t.chars ++ z.chars)

end WrittenRest

/-- A day and what is written after it. -/
structure Spelling where
  day : WrittenDay
  rest : WrittenRest

namespace Spelling

def date (s : Spelling) : Date := s.day.date

/-- The seconds from the beginning of 1970 to the moment that is written. -/
def seconds (s : Spelling) : ℤ := 86400 * s.date.dayNumber + s.rest.time.seconds - s.rest.zone.seconds

def chars (s : Spelling) : List Char := s.day.chars ++ s.rest.chars

def text (s : Spelling) : String := String.ofList s.chars

def moment (s : Spelling) : Moment := ⟨s.date, s.rest.time.clock, s.rest.zone.seconds⟩

variable (s : Spelling)

/-! ### Moments -/

theorem seconds_moment : s.moment.seconds = s.seconds := by
  rw [moment, Moment.seconds, s.rest.time.seconds_clock]
  rfl

theorem isValid_date : s.date.isValid ↔ s.date.InCalendar := Date.isValid_iff s.day.year_date.1 s.day.year_date.2

/-- The days of four years' digits are far from the ends of the calendar. -/
theorem dayNumber_range (h : s.date.InCalendar) : -1000000 < s.date.dayNumber ∧ s.date.dayNumber < 3000000 := by
  obtain ⟨hlow, hhigh⟩ : 0 ≤ s.date.year ∧ s.date.year < 10000 := s.day.year_date
  have hday := Date.dayNumber_bounds h
  have hfirst := Date.daysBeforeYear_mono hlow
  have hlast := Date.daysBeforeYear_mono (Int.add_one_le_of_lt hhigh)
  rw [show Date.daysBeforeYear 0 = -366 by decide] at hfirst
  rw [show Date.daysBeforeYear 10000 = 3652059 by decide] at hlast
  omega

/-- A written moment exists if the calendar has its day. -/
theorem isValid_moment (h : s.date.InCalendar) : s.moment.isValid := by
  have hdate := s.isValid_date.2 h
  have hclock := s.rest.time.isValid_clock
  obtain ⟨hbehind, hahead⟩ := s.rest.zone.seconds_bounds
  obtain ⟨hlow, hhigh⟩ := s.dayNumber_range h
  have hfirst : Date.dayNumber ⟨Date.minYear, 1, 1⟩ < -2000000 := by decide
  have hlast : 4000000 < Date.dayNumber ⟨Date.maxYear + 1, 1, 1⟩ := by decide
  have htime := s.rest.time.seconds_lt
  have hseconds := s.seconds_moment
  unfold seconds at hseconds
  simp only [Moment.isValid, Bool.and_eq_true, decide_eq_true_eq]
  exact ⟨⟨⟨⟨⟨hdate, hclock⟩, hbehind⟩, hahead⟩, by omega⟩, by omega⟩

/-- A day that the calendar has is read in one of the formats. -/
theorem exists_format (h : s.date.InCalendar) : ∃ format ∈ formats, format s.chars = some s.moment := by
  have hvalid := s.isValid_moment h
  obtain ⟨d, rest⟩ := s
  cases rest with
  | nothing =>
      refine ⟨dateOnly, by simp [formats], finish_eq_some_iff.2 ⟨?_, hvalid⟩⟩
      simp only [chars, WrittenRest.chars, d.dateFields_chars, bind, Option.bind, pure]
      rfl
  | spaced t =>
      refine ⟨dateTime, by simp [formats], finish_eq_some_iff.2 ⟨?_, hvalid⟩⟩
      have hclock := t.clockFields_chars []
      rw [List.append_nil, ← clockFields_blank (c := ' ') rfl] at hclock
      simp only [chars, WrittenRest.chars, d.dateFields_chars, hclock, bind, Option.bind, pure]
      rfl
  | zoned t z =>
      refine ⟨rfc3339, by simp [formats], finish_eq_some_iff.2 ⟨?_, hvalid⟩⟩
      simp only [chars, WrittenRest.chars, d.number_chars, twoDigits_padded d.month (by decide),
        twoDigits_padded d.day (by decide), char, timeMark, t.twoDigits_chars, twoDigits_padded t.minute (by decide),
        twoDigits_padded t.second (by decide), z.fraction_chars, z.offset3339_chars, bind, Option.bind, if_true, pure]
      rfl

theorem moment?_chars : moment? s.chars = if s.date.InCalendar then some s.moment else none := by
  split_ifs with h
  · exact moment?_eq_some_iff.2 (s.exists_format h)
  · apply Option.eq_none_iff_forall_ne_some.2
    intro m hm
    obtain ⟨hday, hvalid⟩ := date_of_moment? (s.day.dateFields_chars s.rest.chars) hm
    have hdate := Moment.isValid_date hvalid
    rw [hday] at hdate
    exact h (s.isValid_date.1 hdate)

/-! ### Texts -/

theorem head?_chars : ∀ c ∈ s.chars.head?, c.isDigit := by
  obtain ⟨c, tail, heq, hc⟩ := exists_digit_of_number (by decide) (s.day.number_chars s.rest.chars)
  rw [chars, heq]
  rintro _ ⟨⟩
  exact hc

theorem getLast?_chars : ∀ c ∈ s.chars.getLast?, Text.isBlank c = false := by
  obtain ⟨d, rest⟩ := s
  cases rest with
  | nothing =>
      rw [chars, WrittenRest.chars, List.append_nil]
      exact isBlank_of_suffix_padded d.suffix_chars
  | spaced t =>
      exact isBlank_of_suffix_padded (t.suffix_chars.trans ((List.suffix_cons _ _).trans (List.suffix_append _ _)))
  | zoned t z =>
      exact WrittenZone.isBlank_of_suffix_chars
        ((List.suffix_append _ _).trans ((List.suffix_cons _ _).trans (List.suffix_append _ _)))

/-- Blanks around the text do not matter. -/
theorem parseSeconds?_padded (now : ℤ) {text : String} (h : Text.Padded text s.text) :
    parseSeconds? now text = if s.date.InCalendar then some s.seconds else none := by
  obtain ⟨before, after, hblank, htext⟩ := h
  have htrim : Text.trimChars text.toList = s.chars := by
    rw [htext, show s.text.toList = s.chars from String.toList_ofList]
    exact Text.trimChars_around hblank (fun c hc => isBlank_of_isDigit (s.head?_chars c hc)) s.getLast?_chars
  have hnow : s.chars ≠ ['n', 'o', 'w'] := by
    intro heq
    have hdigit := s.head?_chars 'n' (by rw [heq]; rfl)
    exact absurd hdigit (by decide)
  simp only [parseSeconds?, htrim, if_neg hnow, s.moment?_chars]
  split_ifs
  · rw [Option.map_some, seconds_moment]
  · rfl

end Spelling

/-- Whatever blanks are around a spelling, it names the moment that is written, by the number of days from 1970 to its
day, or nothing if the calendar does not have the day; and whatever the text, the formats can be tried in any order. -/
theorem spellings_agree (now : ℤ) (s : Spelling) {text : String} (h : Text.Padded text s.text) :
    parseSeconds? now text = (if s.date.InCalendar then some s.seconds else none) ∧
      (s.date.InCalendar → ∀ days, s.date.DaysFromEpoch days ↔ days = s.date.dayNumber) ∧
      ∀ order : List (List Char → Option Moment), order.Perm formats →
        ∀ cs, order.findSome? (· cs) = moment? cs := by
  refine ⟨s.parseSeconds?_padded now h, fun hday days => ?_, fun order horder cs => ?_⟩
  · exact Date.daysFromEpoch_iff hday
  · exact findSome?_eq_moment? horder cs

/-- The last second of 29 February 2024 in a zone ahead by five hours and a half. -/
theorem spellings_agree_leapDay : parseSeconds? 0 " 2024-02-29T23:59:59+05:30\n" = some 1709231399 := by
  have htext : Text.Padded " 2024-02-29T23:59:59+05:30\n"
      (Spelling.text ⟨⟨2024, 2, 29⟩, .zoned ⟨23, 59, 59⟩ (.offset false 5 30)⟩) :=
    ⟨[' '], ['\n'], List.all_eq_true.1 rfl, by decide⟩
  exact (spellings_agree 0 _ htext).1.trans (by decide)

end MintDrop.Calendar
