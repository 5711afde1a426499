import Mathlib.Data.List.Basic
import Mathlib.Data.List.DropRight
import Mathlib.Data.List.TakeDrop
import MintDrop.Calendar.Formats
import MintDrop.Proofs.Text.Blank

/-!
# A text follows one format at most

Three of the four formats begin with a year and a hyphen, which `rfc2822` does not read (`rfc2822_eq_none`).  What
`rfc3339` reads is read by the scanners of the other two as well (`exists_of_rfc3339`), but `dateOnly` leaves the time
of day and `dateTime` the offset.  So no two formats accept a text (`pairwise_exclusive`), and the order in which they
are tried does not matter (`findSome?_eq_moment?`).
-/

namespace MintDrop.Calendar

open Text (trimLeft isBlank)

variable {cs ds rest : List Char} {least most width n : ℕ} {m : Moment}

/-! ### Numbers -/

theorem isBlank_of_isDigit {c : Char} (h : c.isDigit) : isBlank c = false := by
  obtain ⟨hlow, hhigh⟩ := Char.isDigit_iff_toNat.1 h
  have hlow' : 48 ≤ c.toNat := hlow
  have hhigh' : c.toNat ≤ 57 := hhigh
  simp [isBlank]
  omega

/-- Digits are read up to where they end, or up to the number of them that may be taken. -/
theorem number_append (hdigits : ∀ c ∈ ds, c.isDigit) (hleast : least ≤ ds.length) (hmost : ds.length ≤ most)
    (hend : ds.length < most → ∀ c ∈ rest.head?, c.isDigit = false) :
    number least most (ds ++ rest) = some (Natural.ofDigits ds, rest) := by
  have hrun : (digitRun (ds ++ rest)).1.take most = ds := by
    rw [digitRun, List.span_eq_takeWhile_dropWhile, List.takeWhile_append_of_pos hdigits]
    by_cases hlt : ds.length < most
    · have hnone : rest.takeWhile Char.isDigit = [] := by
        cases rest with
        | nil => rfl
        | cons c rest => exact List.takeWhile_cons_of_neg (by simp [hend hlt c rfl])
      rw [hnone, List.append_nil, List.take_of_length_le hmost]
    · exact List.take_left' (by omega)
  unfold number
  simp only [hrun]
  rw [if_neg (by omega), List.drop_left]

theorem of_number_eq_some (h : number least most cs = some (n, rest)) :
    ∃ ds, cs = ds ++ rest ∧ (∀ c ∈ ds, c.isDigit) ∧ least ≤ ds.length ∧ ds.length ≤ most ∧
      n = Natural.ofDigits ds := by
  unfold number at h
  simp only [digitRun, List.span_eq_takeWhile_dropWhile] at h
  split_ifs at h with hshort
  obtain ⟨rfl, rfl⟩ := Prod.mk.inj (Option.some.inj h)
  refine ⟨_, ?_, fun c hc => ?_, Nat.le_of_not_lt hshort, List.length_take_le most _, rfl⟩
  · have htaken : (cs.takeWhile Char.isDigit).take most <+: cs :=
      (List.take_prefix most _).trans (List.takeWhile_prefix _)
    conv_lhs => rw [← List.take_append_drop ((cs.takeWhile Char.isDigit).take most).length cs]
    rw [← List.prefix_iff_eq_take.1 htaken]
  · exact List.mem_takeWhile_imp (List.mem_of_mem_take hc)

/-- A number of a fixed width is read as well if it may be shorter. -/
theorem number_of_width (hleast : least ≤ width) (h : number width width cs = some (n, rest)) :
    number least width cs = some (n, rest) := by
  obtain ⟨ds, rfl, hdigits, hlow, hhigh, rfl⟩ := of_number_eq_some h
  exact number_append hdigits (Nat.le_trans hleast hlow) hhigh fun hlt => by omega

theorem exists_digit_of_number (hleast : 1 ≤ least) (h : number least most cs = some (n, rest)) :
    ∃ c tail, cs = c :: tail ∧ c.isDigit := by
  obtain ⟨ds, rfl, hdigits, hlow, -, -⟩ := of_number_eq_some h
  cases ds with
  | nil => exact absurd hlow (by simp only [List.length_nil]; omega)
  | cons c ds => exact ⟨c, ds ++ rest, rfl, hdigits c List.mem_cons_self⟩

theorem trimLeft_of_number (hleast : 1 ≤ least) (h : number least most cs = some (n, rest)) : trimLeft cs = cs := by
  obtain ⟨c, tail, rfl, hc⟩ := exists_digit_of_number hleast h
  apply Text.trimLeft_of_head?
  rintro d ⟨⟩
  exact isBlank_of_isDigit hc

theorem shortNumber_of_twoDigits (h : twoDigits cs = some (n, rest)) : shortNumber cs = some (n, rest) := by
  rw [shortNumber, trimLeft_of_number (by decide) h]
  exact number_of_width (by decide) h

theorem signedYear_of_number (h : number 4 4 cs = some (n, rest)) : signedYear cs = some ((n : ℤ), rest) := by
  have hnumber := number_of_width (show 1 ≤ 4 by decide) h
  obtain ⟨c, tail, rfl, hc⟩ := exists_digit_of_number (by decide) h
  unfold signedYear
  rw [trimLeft_of_number (by decide) h]
  split
  · rename_i heq
    cases heq
    exact absurd hc (by decide)
  · rename_i heq
    cases heq
    exact absurd hc (by decide)
  · rw [hnumber]
    rfl

theorem char_eq_some_iff {c : Char} {u : Unit} : char c cs = some (u, rest) ↔ cs = c :: rest := by
  cases cs with
  | nil => simp [char]
  | cons d cs =>
      simp only [char]
      split_ifs with heq
      · simp [heq]
      · simp [heq]

/-! ### Days and times of day -/

theorem finish_eq_some_iff {found : Option (Moment × List Char)} :
    finish found = some m ↔ found = some (m, []) ∧ m.isValid := by
  unfold finish
  split
  · split_ifs with hvalid
    · simp only [Option.some.injEq, Prod.mk.injEq, and_true]
      exact ⟨fun h => ⟨h, h ▸ hvalid⟩, And.left⟩
    · simp only [Option.some.injEq, Prod.mk.injEq, and_true, false_iff]
      rintro ⟨rfl, h⟩
      exact hvalid h
  · rename_i hne
    simp only [reduceCtorEq, false_iff]
    rintro ⟨h, -⟩
    exact hne m h

/-- Year, month and day in fixed widths are read as a date. -/
theorem dateFields_of_fixed {year month day : ℕ} {afterYear afterMonth : List Char}
    (hyear : number 4 4 cs = some (year, '-' :: afterYear))
    (hmonth : twoDigits afterYear = some (month, '-' :: afterMonth)) (hday : twoDigits afterMonth = some (day, rest)) :
    dateFields cs = some (⟨year, month, day⟩, rest) := by
  simp only [dateFields, signedYear_of_number hyear, char, shortNumber_of_twoDigits hmonth,
    shortNumber_of_twoDigits hday, bind, Option.bind, if_true, pure]

/-- Hour, minute and second in fixed widths are read as a time of day. -/
theorem clockFields_of_fixed {hour minute second : ℕ} {afterHour afterMinute : List Char}
    (hhour : twoDigits cs = some (hour, ':' :: afterHour))
    (hminute : twoDigits afterHour = some (minute, ':' :: afterMinute))
    (hsecond : twoDigits afterMinute = some (second, rest)) :
    clockFields cs = some (⟨hour, minute, second⟩, rest) := by
  simp only [clockFields, shortNumber_of_twoDigits hhour, char, shortNumber_of_twoDigits hminute,
    shortNumber_of_twoDigits hsecond, bind, Option.bind, if_true, pure]

/-- A blank before a time of day does not matter. -/
theorem clockFields_blank {c : Char} (h : isBlank c) : clockFields (c :: cs) = clockFields cs := by
  have hshort : shortNumber (c :: cs) = shortNumber cs := by
    unfold shortNumber trimLeft
    rw [List.dropWhile_cons_of_pos h]
  simp only [clockFields, hshort]

/-- After the mark between day and time, `dateTime` reads the time if the mark is a blank, and nothing if it is a
letter. -/
theorem clockFields_of_timeMark {u : Unit} (h : timeMark cs = some (u, rest)) :
    clockFields cs = none ∨ clockFields cs = clockFields rest := by
  unfold timeMark at h
  split at h
  · exact Or.inl rfl
  · exact Or.inl rfl
  · cases h
    exact Or.inr (clockFields_blank rfl)
  · cases h

/-! ### The formats apart -/

/-- What `rfc3339` accepts is a day, a mark, a time of day and more. -/
theorem exists_of_rfc3339 (h : rfc3339 cs = some m) :
    m.isValid ∧ ∃ marked clock after, dateFields cs = some (m.date, marked) ∧ timeMark marked = some ((), clock) ∧
      clockFields clock = some (m.clock, after) ∧ after ≠ [] := by
  obtain ⟨hread, hvalid⟩ := finish_eq_some_iff.1 h
  simp only [Option.bind_eq_bind, Option.bind_eq_some_iff, Prod.exists, char_eq_some_iff, pure, Option.some.injEq,
    Prod.mk.injEq] at hread
  obtain ⟨year, _, hyear, _, _, rfl, month, _, hmonth, _, _, rfl, day, marked, hday, ⟨⟩, clock, hmark, hour, _, hhour,
    _, _, rfl, minute, _, hminute, _, _, rfl, second, after, hsecond, ⟨⟩, _, hfraction, offset, _, hoffset, rfl, rfl⟩ :=
    hread
  refine ⟨hvalid, marked, clock, after, dateFields_of_fixed hyear hmonth hday, hmark,
    clockFields_of_fixed hhour hminute hsecond, ?_⟩
  -- an offset is not empty
  rintro rfl
  cases hfraction
  cases hoffset

theorem exists_of_dateTime (h : dateTime cs = some m) :
    m.isValid ∧ ∃ rest, dateFields cs = some (m.date, rest) ∧ clockFields rest = some (m.clock, []) := by
  obtain ⟨hread, hvalid⟩ := finish_eq_some_iff.1 h
  simp only [Option.bind_eq_bind, Option.bind_eq_some_iff, Prod.exists, pure, Option.some.injEq,
    Prod.mk.injEq] at hread
  obtain ⟨date, rest, hdate, clock, _, hclock, rfl, rfl⟩ := hread
  exact ⟨hvalid, rest, hdate, hclock⟩

theorem exists_of_dateOnly (h : dateOnly cs = some m) : m.isValid ∧ dateFields cs = some (m.date, []) := by
  obtain ⟨hread, hvalid⟩ := finish_eq_some_iff.1 h
  simp only [Option.bind_eq_bind, Option.bind_eq_some_iff, Prod.exists, pure, Option.some.injEq,
    Prod.mk.injEq] at hread
  obtain ⟨date, rest, hdate, rfl, rfl⟩ := hread
  exact ⟨hvalid, hdate⟩

/-! ### Days first -/

/-- No day of the week begins with a character before the letters. -/
theorem weekdayPart_of_head? (h : ∀ c ∈ cs.head?, c.toNat < 'A'.toNat) : weekdayPart cs = some (none, cs) := by
  have hnames : ∀ name ∈ weekdays, name.toList.head?.all ('A'.toNat ≤ Char.toNat ·) := by decide
  have hnone : abbreviation weekdays cs = none := by
    unfold abbreviation
    split
    · rename_i c _ _ _
      have hc : c.toNat < 'A'.toNat := h c rfl
      have hlower : c.toLower = c := dif_neg fun hupper => absurd hc (Nat.not_lt.2 (UInt32.le_iff_toNat_le.1 hupper.1))
      rw [Option.map_eq_none_iff, List.idxOf?_eq_none_iff, hlower]
      intro hmem
      have hfirst := hnames _ hmem
      rw [String.toList_ofList] at hfirst
      exact absurd (of_decide_eq_true hfirst) (Nat.not_le.2 hc)
    · rfl
  unfold weekdayPart
  rw [hnone]

/-- Where `rfc2822` does not begin with a letter, it begins with a number and a blank after it. -/
theorem exists_of_rfc2822 (hhead : ∀ c ∈ (trimLeft cs).head?, c.toNat < 'A'.toNat) (h : rfc2822 cs = some m) :
    ∃ day after, number 1 2 (trimLeft cs) = some (day, after) ∧ ∃ c ∈ after.head?, isBlank c := by
  have hsame : trimLeft (trimLeft cs) = trimLeft cs := List.dropWhile_idempotent isBlank cs
  unfold rfc2822 at h
  rw [weekdayPart_of_head? hhead] at h
  obtain ⟨_, ⟨⟩, h⟩ := Option.bind_eq_some_iff.1 h
  obtain ⟨⟨day, after⟩, hday, h⟩ := Option.bind_eq_some_iff.1 h
  obtain ⟨_, hblanks, -⟩ := Option.bind_eq_some_iff.1 h
  rw [hsame] at hday
  refine ⟨day, after, hday, ?_⟩
  by_contra hnone
  have hkept : trimLeft after = after := Text.trimLeft_of_head? (by simpa using hnone)
  simp only [blanks, hkept, Nat.lt_irrefl, if_false, reduceCtorEq] at hblanks

/-- A number that ends within digits before a hyphen is not followed by a blank. -/
theorem isBlank_of_number {day : ℕ} {after : List Char} (hdigits : ∀ c ∈ ds, c.isDigit)
    (h : number least most (ds ++ '-' :: rest) = some (day, after)) : ∀ c ∈ after.head?, isBlank c = false := by
  obtain ⟨ds', hread, hdigits', -⟩ := of_number_eq_some h
  intro c hc
  rcases List.append_eq_append_iff.1 hread with ⟨more, rfl, hmore⟩ | ⟨more, rfl, rfl⟩
  · cases more with
    | nil =>
        obtain rfl : after = '-' :: rest := hmore.symm
        cases hc
        rfl
    | cons d more =>
        -- the number would contain the hyphen
        obtain ⟨rfl, -⟩ := List.cons.inj hmore
        have hhyphen := hdigits' _ (List.mem_append_right ds List.mem_cons_self)
        exact absurd hhyphen (by decide)
  · cases more with
    | nil =>
        cases hc
        rfl
    | cons d more =>
        cases hc
        exact isBlank_of_isDigit (hdigits c (by simp))

theorem rfc2822_eq_none_of_sign {c : Char} {tail : List Char} (hc : c.toNat < '0'.toNat)
    (hhead : trimLeft cs = c :: tail) : rfc2822 cs = none := by
  apply Option.eq_none_iff_forall_ne_some.2
  intro m hm
  have hletter : ∀ d ∈ (trimLeft cs).head?, d.toNat < 'A'.toNat := by
    rw [hhead]
    rintro _ ⟨⟩
    exact Nat.lt_trans hc (by decide)
  obtain ⟨day, after, hday, -⟩ := exists_of_rfc2822 hletter hm
  obtain ⟨d, _, hhead', hdigit⟩ := exists_digit_of_number (by decide) hday
  obtain ⟨rfl, -⟩ := List.cons.inj (hhead.symm.trans hhead')
  exact absurd (Char.isDigit_iff_toNat.1 hdigit).1 (Nat.not_le.2 hc)

theorem rfc2822_eq_none_of_number (h : number 1 most (trimLeft cs) = some (n, '-' :: rest)) : rfc2822 cs = none := by
  apply Option.eq_none_iff_forall_ne_some.2
  intro m hm
  have hletter : ∀ d ∈ (trimLeft cs).head?, d.toNat < 'A'.toNat := by
    obtain ⟨c, tail, hhead, hdigit⟩ := exists_digit_of_number (Nat.le_refl 1) h
    rw [hhead]
    rintro _ ⟨⟩
    exact Nat.lt_of_le_of_lt (Char.isDigit_iff_toNat.1 hdigit).2 (by decide)
  obtain ⟨day, after, hday, c, hc, hblank⟩ := exists_of_rfc2822 hletter hm
  obtain ⟨ds, hread, hdigits, -⟩ := of_number_eq_some h
  rw [hread] at hday
  rw [isBlank_of_number hdigits hday c hc] at hblank
  cases hblank

/-- What begins with a date does not begin with a day of the week or of the month. -/
theorem rfc2822_eq_none {date : Date × List Char} (h : dateFields cs = some date) : rfc2822 cs = none := by
  simp only [dateFields, Option.bind_eq_bind, Option.bind_eq_some_iff, Prod.exists, char_eq_some_iff] at h
  obtain ⟨year, _, hyear, _, rest, rfl, -⟩ := h
  unfold signedYear at hyear
  split at hyear
  · rename_i hhead
    exact rfc2822_eq_none_of_sign (by decide) hhead
  · rename_i hhead
    exact rfc2822_eq_none_of_sign (by decide) hhead
  · simp only [Option.map_eq_some_iff, Prod.exists, Prod.mk.injEq] at hyear
    obtain ⟨n, _, hnumber, -, rfl⟩ := hyear
    exact rfc2822_eq_none_of_number hnumber

/-! ### The formats together -/

/-- The formats in the order in which they are tried. -/
def formats : List (List Char → Option Moment) := [rfc3339, rfc2822, dateTime, dateOnly]

/-- Whether no text is in both formats. -/
def Exclusive (p q : List Char → Option Moment) : Prop := ∀ cs, p cs = none ∨ q cs = none

theorem Exclusive.symm {p q : List Char → Option Moment} (h : Exclusive p q) : Exclusive q p := fun cs => (h cs).symm

theorem exclusive_of {p q : List Char → Option Moment} (h : ∀ cs m, p cs = some m → q cs = none) : Exclusive p q := by
  intro cs
  cases hp : p cs with
  | none => exact Or.inl rfl
  | some m => exact Or.inr (h cs m hp)

theorem dateOnly_eq_none {date : Date} (h : dateFields cs = some (date, rest)) (hrest : rest ≠ []) :
    dateOnly cs = none := by
  apply Option.eq_none_iff_forall_ne_some.2
  intro m hm
  have hdate := (exists_of_dateOnly hm).2
  rw [h] at hdate
  cases hdate
  exact hrest rfl

theorem exclusive_rfc3339_dateTime : Exclusive rfc3339 dateTime := by
  apply exclusive_of
  intro cs m h
  obtain ⟨-, marked, clock, after, hdate, hmark, hclock, hafter⟩ := exists_of_rfc3339 h
  apply Option.eq_none_iff_forall_ne_some.2
  intro m' hm'
  obtain ⟨-, rest, hdate', hclock'⟩ := exists_of_dateTime hm'
  obtain ⟨-, rfl⟩ := Prod.mk.inj (Option.some.inj (hdate.symm.trans hdate'))
  rcases clockFields_of_timeMark hmark with hnone | hsame
  · rw [hnone] at hclock'
    cases hclock'
  · rw [hsame, hclock] at hclock'
    exact hafter (Prod.mk.inj (Option.some.inj hclock')).2

/-- No text is in two of the formats. -/
theorem pairwise_exclusive : formats.Pairwise Exclusive := by
  have h3339 : ∀ cs m, rfc3339 cs = some m → rfc2822 cs = none ∧ dateOnly cs = none := by
    intro cs m h
    obtain ⟨-, marked, clock, after, hdate, hmark, -⟩ := exists_of_rfc3339 h
    exact ⟨rfc2822_eq_none hdate, dateOnly_eq_none hdate (by rintro rfl; cases hmark)⟩
  have hdateTime : ∀ cs m, dateTime cs = some m → rfc2822 cs = none ∧ dateOnly cs = none := by
    intro cs m h
    obtain ⟨-, rest, hdate, hclock⟩ := exists_of_dateTime h
    exact ⟨rfc2822_eq_none hdate, dateOnly_eq_none hdate (by rintro rfl; cases hclock)⟩
  have hdateOnly : Exclusive dateOnly rfc2822 := exclusive_of fun cs m h => rfc2822_eq_none (exists_of_dateOnly h).2
  simp only [formats, List.pairwise_cons, List.forall_mem_cons, List.not_mem_nil, false_implies, implies_true, and_true,
    List.Pairwise.nil]
  exact ⟨⟨exclusive_of fun cs m h => (h3339 cs m h).1, exclusive_rfc3339_dateTime,
      exclusive_of fun cs m h => (h3339 cs m h).2⟩,
    ⟨(exclusive_of fun cs m h => (hdateTime cs m h).1).symm, hdateOnly.symm⟩,
    exclusive_of fun cs m h => (hdateTime cs m h).2⟩

/-- Where formats exclude each other, the first that accepts a text is any that does. -/
theorem findSome?_eq_some_iff {order : List (List Char → Option Moment)} (h : order.Pairwise Exclusive) :
    order.findSome? (· cs) = some m ↔ ∃ format ∈ order, format cs = some m := by
  constructor
  · exact List.exists_of_findSome?_eq_some
  · rintro ⟨format, hmem, hm⟩
    obtain ⟨before, after, rfl⟩ := List.append_of_mem hmem
    refine List.findSome?_eq_some_iff.2 ⟨before, format, after, rfl, hm, fun other hother => ?_⟩
    have hexclusive := (List.pairwise_append.1 h).2.2 other hother format List.mem_cons_self cs
    rw [hm] at hexclusive
    exact hexclusive.resolve_right (Option.some_ne_none m)

theorem moment?_eq_findSome? (cs : List Char) : moment? cs = formats.findSome? (· cs) := by
  simp only [moment?, formats, List.findSome?_cons, List.findSome?_nil]
  cases rfc3339 cs <;> cases rfc2822 cs <;> cases dateTime cs <;> cases dateOnly cs <;> rfl

theorem moment?_eq_some_iff : moment? cs = some m ↔ ∃ format ∈ formats, format cs = some m := by
  rw [moment?_eq_findSome?, findSome?_eq_some_iff pairwise_exclusive]

/-- The formats may be tried in any order. -/
theorem findSome?_eq_moment? {order : List (List Char → Option Moment)} (h : order.Perm formats) (cs : List Char) :
    order.findSome? (· cs) = moment? cs := by
  have hpairwise : order.Pairwise Exclusive := (h.pairwise_iff Exclusive.symm).2 pairwise_exclusive
  ext m
  rw [findSome?_eq_some_iff hpairwise, moment?_eq_some_iff]
  simp only [h.mem_iff]

/-- A text that begins with a date names a moment of that day. -/
theorem date_of_moment? {date : Date} (hdate : dateFields cs = some (date, rest)) (h : moment? cs = some m) :
    m.date = date ∧ m.isValid := by
  have hday : m.isValid ∧ ∃ rest, dateFields cs = some (m.date, rest) := by
    obtain ⟨format, hmem, hm⟩ := moment?_eq_some_iff.1 h
    simp only [formats, List.mem_cons, List.not_mem_nil, or_false] at hmem
    rcases hmem with rfl | rfl | rfl | rfl
    · obtain ⟨hvalid, marked, _, _, hread, -⟩ := exists_of_rfc3339 hm
      exact ⟨hvalid, marked, hread⟩
    · rw [rfc2822_eq_none hdate] at hm
      cases hm
    · obtain ⟨hvalid, rest, hread, -⟩ := exists_of_dateTime hm
      exact ⟨hvalid, rest, hread⟩
    · obtain ⟨hvalid, hread⟩ := exists_of_dateOnly hm
      exact ⟨hvalid, [], hread⟩
  obtain ⟨hvalid, rest', hread⟩ := hday
  rw [hdate] at hread
  cases hread
  exact ⟨rfl, hvalid⟩

end MintDrop.Calendar
