import FlowCheck.Proofs.Request.FieldRule
import FlowCheck.Proofs.Text.Trim

/-!
# Which texts are dates

A date is announced as an RFC 3339 timestamp or as `YYYY-MM-DD`.  Both are layouts of digits of
fixed widths around a day of the Gregorian calendar, and both are accepted; the check lets more
through (`FieldRule.dated_accepts_iff`).  The minus of an offset may be the typographic one, and
a plain date may be written loosely: blanks in front of its numbers, one digit where two are
announced, up to four digits for the year, and any number of them behind a sign.

The reading functions take a text apart from the left, one part and the rest at a time.  Each has
one lemma for either direction: what it has read is a part of the announced shape, and such a part
is read as itself when the rest cannot be taken for more of it.  The layouts follow part by part.
What is announced can be told from the rest of what is accepted by looking at the characters
(`Format.IsTidy`).
-/

namespace FlowCheck

/-! ## The calendar -/

namespace Calendar

/-- Every fourth year, of the full centuries every fourth. -/
def IsLeap (year : Int) : Prop := 4 ∣ year ∧ (100 ∣ year → 400 ∣ year)

/-- A day of the Gregorian calendar. -/
structure IsDay (y : Int) (m d : Nat) : Prop where
  month : 1 ≤ m ∧ m ≤ 12
  day : 1 ≤ d ∧ d ≤ 31
  short : m ∈ [4, 6, 9, 11] → d ≤ 30
  february : m = 2 → d ≤ 28 ∨ d = 29 ∧ IsLeap y

theorem isLeapYear_iff {year : Int} : isLeapYear year = true ↔ IsLeap year := by
  simp only [isLeapYear, IsLeap, Bool.and_eq_true, Bool.or_eq_true, decide_eq_true_eq,
    Int.dvd_iff_emod_eq_zero]
  exact and_congr_right fun _ => Decidable.imp_iff_not_or.symm

theorem isDay_iff {year : Int} {month day : Nat} :
    isDay year month day = true ↔ IsDay year month day := by
  have hfields : IsDay year month day ↔ (1 ≤ month ∧ month ≤ 12) ∧ (1 ≤ day ∧ day ≤ 31) ∧
      (month ∈ [4, 6, 9, 11] → day ≤ 30) ∧ (month = 2 → day ≤ 28 ∨ day = 29 ∧ IsLeap year) :=
    ⟨fun h => ⟨h.month, h.day, h.short, h.february⟩, fun ⟨hm, hd, hs, hf⟩ => ⟨hm, hd, hs, hf⟩⟩
  rw [hfields, ← isLeapYear_iff]
  simp only [isDay, daysIn, Bool.and_eq_true, decide_eq_true_eq, List.mem_cons, List.not_mem_nil,
    or_false]
  by_cases hleap : isLeapYear year = true
  · simp only [hleap, if_true, and_true, decide_eq_true_eq]
    split_ifs <;> omega
  · simp only [hleap, Bool.false_eq_true, if_false, and_false, or_false, decide_eq_true_eq]
    split_ifs <;> omega

end Calendar

namespace Format

open Numeral (valueOf)
open Text (AllBlank isBlank trimStart)

/-! ## Parts -/

/-- A row of digits, as long as the bounds say. -/
structure Digits (least most : Nat) (ds : List Char) : Prop where
  length_ge : least ≤ ds.length
  length_le : ds.length ≤ most
  digit : ∀ c ∈ ds, c.isDigit = true

namespace Digits

variable {least most : Nat} {ds : List Char}

/-- A row of digits is one for wider bounds too. -/
theorem mono (h : Digits least most ds) {fewer more : Nat} (hfewer : fewer ≤ least)
    (hmore : most ≤ more) : Digits fewer more ds :=
  ⟨hfewer.trans h.length_ge, h.length_le.trans hmore, h.digit⟩

/-- A number of fixed width has that width. -/
theorem length_eq {width : Nat} (h : Digits width width ds) : ds.length = width :=
  Nat.le_antisymm h.length_le h.length_ge

/-- The first character of a row of digits. -/
theorem head (h : Digits least most ds) (hleast : 0 < least) (rest : List Char) :
    ∀ c ∈ (ds ++ rest).head?, c.isDigit = true := by
  cases ds with
  | nil => exact absurd h.length_ge (Nat.not_le.2 hleast)
  | cons d ds =>
    intro c hc
    obtain rfl := Option.some.inj hc
    exact h.digit _ List.mem_cons_self

theorem notMem (h : Digits least most ds) {c : Char} (hc : c.isDigit = false) : c ∉ ds := by
  intro hmem
  rw [h.digit c hmem] at hc
  contradiction

end Digits

/-- The text does not go on with a digit. -/
def NoDigitAhead (rest : List Char) : Prop := ∀ c ∈ rest.head?, c.isDigit = false

theorem noDigitAhead_nil : NoDigitAhead [] := nofun

theorem noDigitAhead_cons {c : Char} (hc : c.isDigit = false) (rest : List Char) :
    NoDigitAhead (c :: rest) := by
  intro d hd
  obtain rfl := Option.some.inj hd
  exact hc

variable {least most : Nat} {cs ds rest : List Char}

theorem takeWhile_append_of_noDigitAhead (hds : ∀ c ∈ ds, c.isDigit = true)
    (hrest : NoDigitAhead rest) : (ds ++ rest).takeWhile Char.isDigit = ds := by
  rw [List.takeWhile_append_of_pos hds]
  cases rest with
  | nil => simp
  | cons c rest => simp [hrest c rfl]

/-- What is read as a number are digits in front of the rest. -/
theorem exists_digits_of_digits? {n : Nat} (h : digits? least most cs = some (n, rest)) :
    ∃ ds, Digits least most ds ∧ valueOf ds = n ∧ cs = ds ++ rest := by
  unfold digits? at h
  obtain ⟨hlength, heq⟩ := Option.ite_none_left_eq_some.1 h
  obtain ⟨rfl, rfl⟩ := Prod.mk.inj (Option.some.inj heq)
  have hprefix : (cs.take most).takeWhile Char.isDigit <+: cs :=
    (List.takeWhile_prefix _).trans (List.take_prefix _ _)
  refine ⟨_, ⟨Nat.le_of_not_lt hlength, ?_, fun c hc => List.mem_takeWhile_imp hc⟩, rfl, ?_⟩
  · exact (List.takeWhile_prefix _).length_le.trans (List.length_take_le _ _)
  · exact (List.prefix_iff_eq_append.1 hprefix).symm

/-- Digits are read when there are as many as may be, or when no digit follows. -/
theorem digits?_append (h : Digits least most ds) (hend : ds.length = most ∨ NoDigitAhead rest) :
    digits? least most (ds ++ rest) = some (valueOf ds, rest) := by
  have hread : ((ds ++ rest).take most).takeWhile Char.isDigit = ds := by
    rw [List.take_append, List.take_of_length_le h.length_le]
    refine takeWhile_append_of_noDigitAhead h.digit ?_
    rcases hend with hfull | hahead
    · simpa [hfull] using noDigitAhead_nil
    · cases hleft : most - ds.length with
      | zero => exact noDigitAhead_nil
      | succ k =>
        cases rest with
        | nil => exact noDigitAhead_nil
        | cons c rest => exact noDigitAhead_cons (hahead c rfl) _
  simp only [digits?, hread, if_neg (Nat.not_lt.2 h.length_ge), List.drop_left]

/-- A number of fixed width ends by itself. -/
theorem digits?_fixed_eq_some_iff {n width : Nat} : digits? width width cs = some (n, rest) ↔
    ∃ ds, Digits width width ds ∧ valueOf ds = n ∧ cs = ds ++ rest := by
  refine ⟨exists_digits_of_digits?, ?_⟩
  rintro ⟨ds, hds, rfl, rfl⟩
  exact digits?_append hds (.inl hds.length_eq)

theorem afterOne?_eq_some_iff {allowed : List Char} :
    afterOne? allowed cs = some rest ↔ ∃ c ∈ allowed, cs = c :: rest := by
  cases cs with
  | nil => simp [afterOne?]
  | cons c cs =>
    rw [afterOne?, Option.ite_none_right_eq_some, List.contains_iff_mem]
    constructor
    · rintro ⟨hc, heq⟩
      exact ⟨c, hc, by rw [Option.some.inj heq]⟩
    · rintro ⟨d, hd, heq⟩
      obtain ⟨rfl, rfl⟩ := List.cons.inj heq
      exact ⟨hd, rfl⟩

/-- Nothing, or a point and digits. -/
def IsFraction (cs : List Char) : Prop :=
  cs = [] ∨ ∃ ds, cs = '.' :: ds ∧ ds ≠ [] ∧ ∀ c ∈ ds, c.isDigit = true

theorem exists_fraction_of_afterFraction? (h : afterFraction? cs = some rest) :
    ∃ fraction, IsFraction fraction ∧ cs = fraction ++ rest := by
  unfold afterFraction? at h
  split at h
  · next cs =>
    obtain ⟨hhead, heq⟩ := Option.ite_none_right_eq_some.1 h
    obtain rfl := Option.some.inj heq
    refine ⟨'.' :: cs.takeWhile Char.isDigit,
      .inr ⟨_, rfl, ?_, fun c hc => List.mem_takeWhile_imp hc⟩, ?_⟩
    · cases cs with
      | nil => contradiction
      | cons c cs =>
        have hc : c.isDigit = true := hhead
        simp [hc]
    · rw [List.cons_append, List.takeWhile_append_dropWhile]
  · exact ⟨[], .inl rfl, Option.some.inj h⟩

theorem afterFraction?_append {fraction : List Char} (h : IsFraction fraction)
    (hdigit : NoDigitAhead rest) (hpoint : ∀ c ∈ rest.head?, c ≠ '.') :
    afterFraction? (fraction ++ rest) = some rest := by
  rcases h with rfl | ⟨ds, rfl, hne, hds⟩
  · rw [List.nil_append]
    unfold afterFraction?
    split
    · exact absurd rfl (hpoint '.' rfl)
    · rfl
  · obtain ⟨d, ds, rfl⟩ := List.exists_cons_of_ne_nil hne
    have hd : d.isDigit = true := hds d List.mem_cons_self
    have hdrop : (d :: ds ++ rest).dropWhile Char.isDigit = rest := by
      rw [List.dropWhile_append_of_pos hds]
      cases rest with
      | nil => rfl
      | cons c rest => simp [hdigit c rfl]
    rw [List.cons_append, afterFraction?, hdrop, List.cons_append, List.head?_cons,
      Option.any_some, if_pos hd]

/-! ## Timestamps -/

/-- The letter `Z`, or a sign, hours and minutes of less than a day. -/
def IsOffset (signs cs : List Char) : Prop :=
  cs = ['Z'] ∨ cs = ['z'] ∨ ∃ sign hours minutes, cs = sign :: (hours ++ ':' :: minutes) ∧
    sign ∈ signs ∧ Digits 2 2 hours ∧ Digits 2 2 minutes ∧ valueOf hours < 24 ∧
      valueOf minutes < 60

/-- The signs that are read in an offset: plus, hyphen, and the typographic minus. -/
def readSigns : List Char := ['+', '-', '\u2212']

theorem mem_readSigns_iff {sign : Char} :
    sign ∈ readSigns ↔ sign = '+' ∨ sign = '-' ∨ sign = '\u2212' := by
  simp [readSigns]

/-- Reading ends with a verdict, or in the middle with none. -/
theorem getD_false_eq_true_iff {o : Option Bool} : o.getD false = true ↔ o = some true := by
  cases o <;> simp

theorem isOffset_iff : isOffset cs = true ↔ IsOffset readSigns cs := by
  simp only [isOffset, IsOffset, Bool.or_eq_true, decide_eq_true_eq, or_assoc,
    getD_false_eq_true_iff, Option.bind_eq_bind, Option.bind_eq_some_iff, Prod.exists,
    digits?_fixed_eq_some_iff, afterOne?_eq_some_iff, Option.pure_def, Option.some.injEq,
    Bool.and_eq_true, List.isEmpty_iff]
  refine or_congr_right (or_congr_right ⟨?_, ?_⟩)
  · rintro ⟨_, ⟨sign, hsign, rfl⟩, _, _, ⟨hours, hhours, rfl, rfl⟩, _, ⟨colon, hcolon, rfl⟩,
      _, _, ⟨minutes, hminutes, rfl, rfl⟩, ⟨rfl, hlt⟩, hlt'⟩
    obtain rfl := List.mem_singleton.1 hcolon
    exact ⟨sign, hours, minutes, by rw [List.append_nil], hsign, hhours, hminutes, hlt, hlt'⟩
  · rintro ⟨sign, hours, minutes, rfl, hsign, hhours, hminutes, hlt, hlt'⟩
    have hend : minutes = minutes ++ [] := by rw [List.append_nil]
    exact ⟨_, ⟨sign, hsign, rfl⟩, _, _, ⟨hours, hhours, rfl, rfl⟩, minutes,
      ⟨':', List.mem_singleton_self _, rfl⟩, _, [], ⟨minutes, hminutes, rfl, hend⟩,
      ⟨rfl, hlt⟩, hlt'⟩

theorem IsOffset.mono {signs more : List Char} (h : IsOffset signs cs) (hsub : signs ⊆ more) :
    IsOffset more cs := by
  rcases h with h | h | ⟨sign, hours, minutes, h, hsign, hparts⟩
  · exact .inl h
  · exact .inr (.inl h)
  · exact .inr (.inr ⟨sign, hours, minutes, h, hsub hsign, hparts⟩)

/-- An offset starts with a letter or a sign. -/
theorem IsOffset.head (h : IsOffset readSigns cs) :
    ∀ c ∈ cs.head?, c.isDigit = false ∧ c ≠ '.' := by
  rcases h with rfl | rfl | ⟨sign, hours, minutes, rfl, hsign, -⟩
  · simp
  · simp
  · intro c hc
    obtain rfl := Option.some.inj hc
    rcases mem_readSigns_iff.1 hsign with rfl | rfl | rfl <;> decide

/-- The parts of a timestamp as they are written. -/
structure Timestamp where
  year : List Char
  month : List Char
  day : List Char
  separator : Char
  hour : List Char
  minute : List Char
  second : List Char
  fraction : List Char
  offset : List Char

namespace Timestamp

def chars (t : Timestamp) : List Char :=
  t.year ++ '-' :: (t.month ++ '-' :: (t.day ++ t.separator :: (t.hour ++ ':' ::
    (t.minute ++ ':' :: (t.second ++ (t.fraction ++ t.offset))))))

/-- A day of the calendar and a time of day, the signs of offsets left open.  A blank may stand in
the place of the letter between them, and second 60 is a leap second at any minute. -/
structure WellFormed (signs : List Char) (t : Timestamp) : Prop where
  year : Digits 4 4 t.year
  month : Digits 2 2 t.month
  day : Digits 2 2 t.day
  calendar : Calendar.IsDay (valueOf t.year) (valueOf t.month) (valueOf t.day)
  separator : t.separator ∈ ['T', 't', ' ']
  hour : Digits 2 2 t.hour
  minute : Digits 2 2 t.minute
  second : Digits 2 2 t.second
  clock : valueOf t.hour < 24 ∧ valueOf t.minute < 60 ∧ valueOf t.second ≤ 60
  fraction : IsFraction t.fraction
  offset : IsOffset signs t.offset

end Timestamp

/-- An RFC 3339 timestamp, the signs of offsets left open. -/
def IsTimestamp (signs cs : List Char) : Prop :=
  ∃ t : Timestamp, t.WellFormed signs ∧ cs = t.chars

theorem isTimestamp_iff : isTimestamp cs = true ↔ IsTimestamp readSigns cs := by
  simp only [isTimestamp, getD_false_eq_true_iff, Option.bind_eq_bind, Option.bind_eq_some_iff,
    Prod.exists, digits?_fixed_eq_some_iff, afterOne?_eq_some_iff, Option.pure_def,
    Option.some.injEq, Bool.and_eq_true, decide_eq_true_eq, Calendar.isDay_iff, isOffset_iff]
  constructor
  · rintro ⟨_, _, ⟨year, hyear, rfl, rfl⟩, _, ⟨hyphen, hhyphen, rfl⟩,
      _, _, ⟨month, hmonth, rfl, rfl⟩, _, ⟨hyphen', hhyphen', rfl⟩,
      _, _, ⟨day, hday, rfl, rfl⟩, _, ⟨separator, hseparator, rfl⟩,
      _, _, ⟨hour, hhour, rfl, rfl⟩, _, ⟨colon, hcolon, rfl⟩,
      _, _, ⟨minute, hminute, rfl, rfl⟩, _, ⟨colon', hcolon', rfl⟩,
      _, _, ⟨second, hsecond, rfl, rfl⟩, offset, hafter,
      ⟨⟨⟨hcalendar, hlt⟩, hlt'⟩, hle⟩, hoffset⟩
    obtain rfl := List.mem_singleton.1 hhyphen
    obtain rfl := List.mem_singleton.1 hhyphen'
    obtain rfl := List.mem_singleton.1 hcolon
    obtain rfl := List.mem_singleton.1 hcolon'
    obtain ⟨fraction, hfraction, rfl⟩ := exists_fraction_of_afterFraction? hafter
    exact ⟨⟨year, month, day, separator, hour, minute, second, fraction, offset⟩,
      ⟨hyear, hmonth, hday, hcalendar, hseparator, hhour, hminute, hsecond, ⟨hlt, hlt', hle⟩,
        hfraction, hoffset⟩, rfl⟩
  · rintro ⟨t, h, rfl⟩
    obtain ⟨hlt, hlt', hle⟩ := h.clock
    have hfraction : afterFraction? (t.fraction ++ t.offset) = some t.offset :=
      afterFraction?_append h.fraction (fun c hc => (h.offset.head c hc).1)
        fun c hc => (h.offset.head c hc).2
    exact ⟨_, _, ⟨t.year, h.year, rfl, rfl⟩, _, ⟨'-', List.mem_singleton_self _, rfl⟩,
      _, _, ⟨t.month, h.month, rfl, rfl⟩, _, ⟨'-', List.mem_singleton_self _, rfl⟩,
      _, _, ⟨t.day, h.day, rfl, rfl⟩, _, ⟨t.separator, h.separator, rfl⟩,
      _, _, ⟨t.hour, h.hour, rfl, rfl⟩, _, ⟨':', List.mem_singleton_self _, rfl⟩,
      _, _, ⟨t.minute, h.minute, rfl, rfl⟩, _, ⟨':', List.mem_singleton_self _, rfl⟩,
      _, _, ⟨t.second, h.second, rfl, rfl⟩, t.offset, hfraction,
      ⟨⟨⟨h.calendar, hlt⟩, hlt'⟩, hle⟩, h.offset⟩

/-! ## Plain dates -/

/-- The parts of a plain date as they are written, with the blanks in front of its numbers. -/
structure PlainDate where
  beforeYear : List Char
  sign : Option Char
  year : List Char
  beforeMonth : List Char
  month : List Char
  beforeDay : List Char
  day : List Char

namespace PlainDate

def chars (d : PlainDate) : List Char :=
  d.beforeYear ++ (d.sign.toList ++ d.year) ++ '-' ::
    (d.beforeMonth ++ d.month ++ '-' :: (d.beforeDay ++ d.day))

/-- The year that is meant. -/
def yearValue (d : PlainDate) : Int :=
  if d.sign = some '-' then -(valueOf d.year : Int) else valueOf d.year

/-- What is accepted as a plain date. -/
structure WellFormed (d : PlainDate) : Prop where
  beforeYear : AllBlank d.beforeYear
  sign : d.sign ∈ [none, some '+', some '-']
  year : Digits 1 d.year.length d.year
  unsigned : d.sign = none → d.year.length ≤ 4
  beforeMonth : AllBlank d.beforeMonth
  month : Digits 1 2 d.month
  beforeDay : AllBlank d.beforeDay
  day : Digits 1 2 d.day
  range : -262143 ≤ d.yearValue ∧ d.yearValue ≤ 262142
  calendar : Calendar.IsDay d.yearValue (valueOf d.month) (valueOf d.day)

theorem WellFormed.sign_cases {d : PlainDate} (h : d.WellFormed) :
    d.sign = none ∨ d.sign = some '+' ∨ d.sign = some '-' := by
  simpa using h.sign

end PlainDate

/-- A date with unpadded numbers, blanks and signs. -/
def IsLooseDate (cs : List Char) : Prop := ∃ d : PlainDate, d.WellFormed ∧ cs = d.chars

theorem isBlank_of_isDigit {c : Char} (h : c.isDigit = true) : isBlank c = false :=
  Text.isBlank_eq_false_of_class (p := Char.isDigit) (by decide) h

/-- Blanks in front of a number are passed over. -/
theorem trimStart_append_digits {before : List Char} (hbefore : AllBlank before)
    (h : Digits least most ds) (hleast : 0 < least) (rest : List Char) :
    trimStart (before ++ ds ++ rest) = ds ++ rest := by
  have hhead : ∀ c ∈ (ds ++ rest).head?, isBlank c = false := fun c hc =>
    isBlank_of_isDigit (h.head hleast rest c hc)
  rw [List.append_assoc, Text.trimStart_append_of_head hbefore hhead]

theorem exists_year_of_year? {y : Int} (h : year? cs = some (y, rest)) :
    ∃ sign ds, sign ∈ [none, some '+', some '-'] ∧ Digits 1 ds.length ds ∧
      (sign = none → ds.length ≤ 4) ∧
      (if sign = some '-' then -(valueOf ds : Int) else valueOf ds) = y ∧
      cs = sign.toList ++ ds ++ rest := by
  unfold year? at h
  split at h
  all_goals
    obtain ⟨⟨n, rest'⟩, hdigits, heq⟩ := Option.map_eq_some_iff.1 h
    obtain ⟨rfl, rfl⟩ := Prod.mk.inj heq
    obtain ⟨ds, hds, rfl, rfl⟩ := exists_digits_of_digits? hdigits
  · exact ⟨some '-', ds, by simp, ⟨hds.length_ge, le_rfl, hds.digit⟩, nofun, rfl, rfl⟩
  · exact ⟨some '+', ds, by simp, ⟨hds.length_ge, le_rfl, hds.digit⟩, nofun, rfl, rfl⟩
  · exact ⟨none, ds, by simp, ⟨hds.length_ge, le_rfl, hds.digit⟩, fun _ => hds.length_le, rfl, rfl⟩

theorem year?_append {sign : Option Char} (hsign : sign ∈ [none, some '+', some '-'])
    (hds : Digits 1 ds.length ds) (hunsigned : sign = none → ds.length ≤ 4)
    (hrest : NoDigitAhead rest) : year? (sign.toList ++ ds ++ rest) =
      some (if sign = some '-' then -(valueOf ds : Int) else valueOf ds, rest) := by
  have hlong : digits? 1 (ds ++ rest).length (ds ++ rest) = some (valueOf ds, rest) :=
    digits?_append (hds.mono le_rfl (by simp)) (.inr hrest)
  obtain rfl | rfl | rfl : sign = none ∨ sign = some '+' ∨ sign = some '-' := by simpa using hsign
  · have hshort : digits? 1 4 (ds ++ rest) = some (valueOf ds, rest) :=
      digits?_append (hds.mono le_rfl (hunsigned rfl)) (.inr hrest)
    have hhead := hds.head Nat.one_pos rest
    rw [Option.toList_none, List.nil_append]
    unfold year?
    split
    · next heq => exact absurd (hhead '-' (by rw [heq]; rfl)) (by decide)
    · next heq => exact absurd (hhead '+' (by rw [heq]; rfl)) (by decide)
    · rw [hshort]
      rfl
  · simp only [Option.toList_some, List.cons_append, List.nil_append, year?, hlong]
    rfl
  · simp only [Option.toList_some, List.cons_append, List.nil_append, year?, hlong]
    rfl

theorem isPlainDate_iff : isPlainDate cs = true ↔ IsLooseDate cs := by
  simp only [isPlainDate, getD_false_eq_true_iff, Option.bind_eq_bind, Option.bind_eq_some_iff,
    Prod.exists, afterOne?_eq_some_iff, Option.pure_def, Option.some.injEq, Bool.and_eq_true,
    List.isEmpty_iff, Calendar.isDay_iff, Calendar.isYear, decide_eq_true_eq]
  constructor
  · rintro ⟨_, _, hreadYear, afterYear, ⟨hyphen, hhyphen, rfl⟩, _, _, hreadMonth, afterMonth,
      ⟨hyphen', hhyphen', rfl⟩, _, _, hreadDay, ⟨rfl, hrange⟩, hcalendar⟩
    obtain rfl := List.mem_singleton.1 hhyphen
    obtain rfl := List.mem_singleton.1 hhyphen'
    obtain ⟨sign, year, hsign, hdigits, hunsigned, rfl, hcs⟩ := exists_year_of_year? hreadYear
    obtain ⟨month, hmonth, rfl, hafterYear⟩ := exists_digits_of_digits? hreadMonth
    obtain ⟨day, hday, rfl, hafterMonth⟩ := exists_digits_of_digits? hreadDay
    obtain ⟨beforeYear, hbeforeYear, hcs'⟩ := Text.exists_eq_append_trimStart cs
    obtain ⟨beforeMonth, hbeforeMonth, hafterYear'⟩ := Text.exists_eq_append_trimStart afterYear
    obtain ⟨beforeDay, hbeforeDay, hafterMonth'⟩ := Text.exists_eq_append_trimStart afterMonth
    refine ⟨⟨beforeYear, sign, year, beforeMonth, month, beforeDay, day⟩,
      ⟨hbeforeYear, hsign, hdigits, hunsigned, hbeforeMonth, hmonth, hbeforeDay, hday, hrange,
        hcalendar⟩, ?_⟩
    rw [hcs', hcs, hafterYear', hafterYear, hafterMonth', hafterMonth]
    simp [PlainDate.chars]
  · rintro ⟨d, h, rfl⟩
    have hyphen : ∀ rest, NoDigitAhead ('-' :: rest) := noDigitAhead_cons (by decide)
    have htrim : trimStart d.chars = d.sign.toList ++ d.year ++ '-' ::
        (d.beforeMonth ++ d.month ++ '-' :: (d.beforeDay ++ d.day)) := by
      rw [PlainDate.chars, List.append_assoc d.beforeYear]
      refine Text.trimStart_append_of_head h.beforeYear fun c hc => ?_
      rcases h.sign_cases with hs | hs | hs <;> rw [hs] at hc
      · exact isBlank_of_isDigit (h.year.head Nat.one_pos _ c hc)
      · obtain rfl := Option.some.inj hc
        decide
      · obtain rfl := Option.some.inj hc
        decide
    have hreadYear : year? (trimStart d.chars) = some (d.yearValue, _) :=
      htrim ▸ year?_append h.sign h.year h.unsigned (hyphen _)
    have hreadMonth : digits? 1 2 (trimStart (d.beforeMonth ++ d.month ++ '-' ::
        (d.beforeDay ++ d.day))) = some (valueOf d.month, '-' :: (d.beforeDay ++ d.day)) := by
      rw [trimStart_append_digits h.beforeMonth h.month Nat.one_pos]
      exact digits?_append h.month (.inr (hyphen _))
    have hreadDay : digits? 1 2 (trimStart (d.beforeDay ++ d.day)) = some (valueOf d.day, []) := by
      have htrimDay := trimStart_append_digits h.beforeDay h.day Nat.one_pos []
      rw [List.append_nil] at htrimDay
      rw [htrimDay]
      exact digits?_append h.day (.inr noDigitAhead_nil)
    exact ⟨_, _, hreadYear, _, ⟨'-', List.mem_singleton_self _, rfl⟩, _, _, hreadMonth, _,
      ⟨'-', List.mem_singleton_self _, rfl⟩, _, _, hreadDay, ⟨rfl, h.range⟩, h.calendar⟩

theorem isDate_iff : isDate cs = true ↔ IsTimestamp readSigns cs ∨ IsLooseDate cs := by
  rw [isDate, Bool.or_eq_true, isTimestamp_iff, isPlainDate_iff]

/-! ## What is announced -/

/-- Four digits, two digits and two digits with hyphens between them, naming a day. -/
def IsFullDate (cs : List Char) : Prop :=
  ∃ year month day, Digits 4 4 year ∧ Digits 2 2 month ∧ Digits 2 2 day ∧
    Calendar.IsDay (valueOf year) (valueOf month) (valueOf day) ∧
      cs = year ++ '-' :: (month ++ '-' :: day)

/-- An RFC 3339 timestamp or `YYYY-MM-DD`.  The timestamp is read in the widest sense: a blank may
stand for the `T`, and second 60 counts at any minute, whether a leap second fell there or not. -/
def IsAnnounced (cs : List Char) : Prop := IsTimestamp ['+', '-'] cs ∨ IsFullDate cs

/-- Without the typographic minus, and, unless there is a time of day, with a digit in front and
no blank among ten characters. -/
structure IsTidy (cs : List Char) : Prop where
  minus : '\u2212' ∉ cs
  head : ':' ∉ cs → ∀ c ∈ cs.head?, c.isDigit = true
  noBlank : ':' ∉ cs → ∀ c ∈ cs, isBlank c = false
  length : ':' ∉ cs → cs.length = 10

theorem foldl_valueOf_lt (ds : List Char) (hds : ∀ c ∈ ds, c.isDigit = true) (n : Nat) :
    ds.foldl (fun n d => n * 10 + (d.toNat - '0'.toNat)) n < (n + 1) * 10 ^ ds.length := by
  induction ds generalizing n with
  | nil => simp
  | cons d ds ih =>
    have hd : d.toNat - '0'.toNat ≤ 9 := by
      have hdigit := hds d List.mem_cons_self
      simp only [Char.isDigit, Bool.and_eq_true, decide_eq_true_eq] at hdigit
      have hmost : d.toNat ≤ 57 := hdigit.2
      exact Nat.sub_le_of_le_add hmost
    calc (d :: ds).foldl (fun n d => n * 10 + (d.toNat - '0'.toNat)) n
        < (n * 10 + (d.toNat - '0'.toNat) + 1) * 10 ^ ds.length :=
          ih (fun c hc => hds c (List.mem_cons_of_mem _ hc)) _
      _ ≤ ((n + 1) * 10) * 10 ^ ds.length := Nat.mul_le_mul_right _ (by omega)
      _ = (n + 1) * 10 ^ (d :: ds).length := by
        rw [List.length_cons, Nat.pow_succ, Nat.mul_assoc, Nat.mul_comm 10]

/-- A row of digits is worth less than its length in digits allows. -/
theorem Digits.valueOf_lt (h : Digits least most ds) : valueOf ds < 10 ^ most := by
  have hlt := foldl_valueOf_lt ds h.digit 0
  rw [Nat.zero_add, Nat.one_mul] at hlt
  exact hlt.trans_le (Nat.pow_le_pow_right (by decide) h.length_le)

/-- A full date is a plain date that leaves out nothing and adds nothing. -/
theorem IsFullDate.isLooseDate (h : IsFullDate cs) : IsLooseDate cs := by
  obtain ⟨year, month, day, hyear, hmonth, hday, hcalendar, rfl⟩ := h
  have hvalue := hyear.valueOf_lt
  refine ⟨⟨[], none, year, [], month, [], day⟩, ?_, rfl⟩
  exact
    { beforeYear := Text.allBlank_nil
      sign := List.mem_cons_self
      year := hyear.mono (by decide) hyear.length_eq.ge
      unsigned := fun _ => hyear.length_le
      beforeMonth := Text.allBlank_nil
      month := hmonth.mono (by decide) le_rfl
      beforeDay := Text.allBlank_nil
      day := hday.mono (by decide) le_rfl
      range := by
        have hyearValue : PlainDate.yearValue ⟨[], none, year, [], month, [], day⟩ = valueOf year :=
          rfl
        rw [hyearValue]
        omega
      calendar := hcalendar }

theorem IsFullDate.isTidy (h : IsFullDate cs) : IsTidy cs := by
  obtain ⟨year, month, day, hyear, hmonth, hday, -, rfl⟩ := h
  have hchars : ∀ c ∈ year ++ '-' :: (month ++ '-' :: day), c.isDigit = true ∨ c = '-' := by
    intro c hc
    simp only [List.mem_append, List.mem_cons] at hc
    rcases hc with hc | rfl | hc | rfl | hc
    · exact .inl (hyear.digit c hc)
    · exact .inr rfl
    · exact .inl (hmonth.digit c hc)
    · exact .inr rfl
    · exact .inl (hday.digit c hc)
  refine ⟨fun hminus => ?_, fun _ => hyear.head (by decide) _, fun _ c hc => ?_, fun _ => ?_⟩
  · rcases hchars _ hminus with h | h <;> exact absurd h (by decide)
  · rcases hchars c hc with h | rfl
    · exact isBlank_of_isDigit h
    · decide
  · simp [hyear.length_eq, hmonth.length_eq, hday.length_eq]

/-- Only a time of day has colons. -/
theorem PlainDate.WellFormed.colon_notMem {d : PlainDate} (h : d.WellFormed) : ':' ∉ d.chars := by
  have hblank : ∀ {before : List Char}, AllBlank before → ':' ∉ before := fun hbefore hmem =>
    absurd (hbefore _ hmem) (by decide)
  have hsign : ':' ∉ d.sign.toList := by
    rcases h.sign_cases with hs | hs | hs <;> rw [hs] <;> decide
  simp only [PlainDate.chars, List.mem_append, List.mem_cons, not_or]
  exact ⟨⟨hblank h.beforeYear, hsign, h.year.notMem (by decide)⟩, by decide,
    ⟨hblank h.beforeMonth, h.month.notMem (by decide)⟩, by decide, hblank h.beforeDay,
    h.day.notMem (by decide)⟩

theorem Timestamp.colon_mem (t : Timestamp) : ':' ∈ t.chars := by
  simp [Timestamp.chars]

/-- A row of blanks in a text without blanks is empty. -/
theorem eq_nil_of_allBlank {before : List Char} (hbefore : AllBlank before)
    (hcs : ∀ c ∈ cs, isBlank c = false) (hsub : before ⊆ cs) : before = [] := by
  refine List.eq_nil_iff_forall_not_mem.2 fun c hc => ?_
  have hnone := hcs c (hsub hc)
  rw [hbefore c hc] at hnone
  contradiction

/-- A tidy plain date has all its digits: eight of them beside the two hyphens. -/
theorem isFullDate_of_isTidy (h : IsLooseDate cs) (htidy : IsTidy cs) : IsFullDate cs := by
  obtain ⟨d, hd, rfl⟩ := h
  have hnoBlank := htidy.noBlank hd.colon_notMem
  have hyear : d.beforeYear = [] :=
    eq_nil_of_allBlank hd.beforeYear hnoBlank fun c hc => by simp [PlainDate.chars, hc]
  have hmonth : d.beforeMonth = [] :=
    eq_nil_of_allBlank hd.beforeMonth hnoBlank fun c hc => by simp [PlainDate.chars, hc]
  have hday : d.beforeDay = [] :=
    eq_nil_of_allBlank hd.beforeDay hnoBlank fun c hc => by simp [PlainDate.chars, hc]
  have hhead := htidy.head hd.colon_notMem
  have hsign : d.sign = none := by
    rcases hd.sign_cases with hs | hs | hs
    · exact hs
    · exact absurd (hhead '+' (by simp [PlainDate.chars, hyear, hs])) (by decide)
    · exact absurd (hhead '-' (by simp [PlainDate.chars, hyear, hs])) (by decide)
  have hchars : d.chars = d.year ++ '-' :: (d.month ++ '-' :: d.day) := by
    simp [PlainDate.chars, hyear, hmonth, hday, hsign]
  have hlength := htidy.length hd.colon_notMem
  rw [hchars] at hlength
  simp only [List.length_append, List.length_cons] at hlength
  have hyearMost := hd.unsigned hsign
  have hmonthMost := hd.month.length_le
  have hdayMost := hd.day.length_le
  have hvalue : d.yearValue = valueOf d.year := by simp [PlainDate.yearValue, hsign]
  exact ⟨d.year, d.month, d.day, ⟨by omega, by omega, hd.year.digit⟩,
    ⟨by omega, by omega, hd.month.digit⟩, ⟨by omega, by omega, hd.day.digit⟩,
    hvalue ▸ hd.calendar, hchars⟩

/-- An offset without the typographic minus is one of the announced offsets. -/
theorem isOffset_announced_iff :
    IsOffset ['+', '-'] cs ↔ IsOffset readSigns cs ∧ '\u2212' ∉ cs := by
  constructor
  · intro h
    refine ⟨h.mono (by decide), ?_⟩
    rcases h with rfl | rfl | ⟨sign, hours, minutes, rfl, hsign, hhours, hminutes, -⟩
    · decide
    · decide
    · have hplain : '\u2212' ≠ sign := fun heq => absurd (heq ▸ hsign) (by decide)
      simp only [List.mem_cons, List.mem_append, not_or]
      exact ⟨hplain, hhours.notMem (by decide), by decide, hminutes.notMem (by decide)⟩
  · rintro ⟨rfl | rfl | ⟨sign, hours, minutes, rfl, hsign, hparts⟩, hminus⟩
    · exact .inl rfl
    · exact .inr (.inl rfl)
    · refine .inr (.inr ⟨sign, hours, minutes, rfl, ?_, hparts⟩)
      rcases mem_readSigns_iff.1 hsign with h | h | rfl
      · exact List.mem_cons.2 (.inl h)
      · exact List.mem_cons_of_mem _ (List.mem_singleton.2 h)
      · exact absurd List.mem_cons_self hminus

/-- The typographic minus can be part of the offset only. -/
theorem Timestamp.WellFormed.minus_mem_iff {signs : List Char} {t : Timestamp}
    (h : t.WellFormed signs) : '\u2212' ∈ t.chars ↔ '\u2212' ∈ t.offset := by
  have hseparator : '\u2212' ≠ t.separator := fun heq => absurd (heq ▸ h.separator) (by decide)
  have hfraction : '\u2212' ∉ t.fraction := by
    rcases h.fraction with heq | ⟨ds, heq, -, hds⟩
    · simp [heq]
    · rw [heq, List.mem_cons, not_or]
      exact ⟨by decide, fun hmem => absurd (hds _ hmem) (by decide)⟩
  simp [Timestamp.chars, h.year.notMem, h.month.notMem, h.day.notMem, h.hour.notMem,
    h.minute.notMem, h.second.notMem, hseparator, hfraction]

theorem isTimestamp_announced_iff :
    IsTimestamp ['+', '-'] cs ↔ IsTimestamp readSigns cs ∧ '\u2212' ∉ cs := by
  constructor
  · rintro ⟨t, h, rfl⟩
    obtain ⟨hoffset, hminus⟩ := isOffset_announced_iff.1 h.offset
    exact ⟨⟨t, { h with offset := hoffset }, rfl⟩, mt h.minus_mem_iff.1 hminus⟩
  · rintro ⟨⟨t, h, rfl⟩, hminus⟩
    exact ⟨t, { h with
      offset := isOffset_announced_iff.2 ⟨h.offset, mt h.minus_mem_iff.2 hminus⟩ }, rfl⟩

/-- What is announced is accepted, and is the tidy part of what is accepted. -/
theorem isAnnounced_iff : IsAnnounced cs ↔ isDate cs = true ∧ IsTidy cs := by
  rw [isDate_iff, IsAnnounced]
  constructor
  · rintro (htime | hdate)
    · obtain ⟨hread, hminus⟩ := isTimestamp_announced_iff.1 htime
      have hcolon : ':' ∈ cs := by
        obtain ⟨t, -, rfl⟩ := hread
        exact t.colon_mem
      exact ⟨.inl hread, hminus, absurd hcolon, absurd hcolon, absurd hcolon⟩
    · exact ⟨.inr hdate.isLooseDate, hdate.isTidy⟩
  · rintro ⟨htime | hdate, htidy⟩
    · exact .inl (isTimestamp_announced_iff.2 ⟨htime, htidy.minus⟩)
    · exact .inr (isFullDate_of_isTidy hdate htidy)

end Format

/-! ## Fields of type date -/

namespace FieldRule

variable {rule : FieldRule}

/-- The rule that asks for a date, and for the rest asks the same. -/
def dated (rule : FieldRule) : FieldRule := { rule with fieldType := some .date }

theorem dated_reports_type_iff_isDate {text : String} :
    rule.dated.Reports .type (.str text) ↔ Format.isDate text.toList = false := by
  have htype : rule.dated.typeProblem? (.str text) =
      if Format.isDate text.toList then none else some .date := rfl
  rw [reports_type_str_iff, htype]
  cases Format.isDate text.toList <;> simp

/-- A text is taken for a date when it is a timestamp, its offset written with any of three signs,
or a plain date, however loosely written.  Of these the tidy ones are those that are announced. -/
theorem dated_accepts_iff (rule : FieldRule) (text : String) :
    (¬ rule.dated.Reports .type (.str text) ↔
      Format.IsTimestamp ['+', '-', '\u2212'] text.toList ∨ Format.IsLooseDate text.toList) ∧
    (Format.IsAnnounced text.toList ↔
      ¬ rule.dated.Reports .type (.str text) ∧ Format.IsTidy text.toList) := by
  rw [dated_reports_type_iff_isDate, Bool.not_eq_false, Format.isAnnounced_iff]
  exact ⟨Format.isDate_iff, Iff.rfl⟩

/-- A month of one digit is accepted, and not announced. -/
theorem dated_accepts_unpadded_month :
    let rule : FieldRule := ⟨"d", none, none, none, none, none, none, none, none, [], none⟩
    rule.dated.finding? (.str "2024-2-29") = none ∧
      ¬ Format.IsAnnounced "2024-2-29".toList := by
  refine ⟨by decide, fun h => ?_⟩
  exact absurd ((Format.isAnnounced_iff.1 h).2.length (by decide)) (by decide)

end FieldRule

end FlowCheck
