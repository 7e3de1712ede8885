import FlowCheck.Number.Numeral
import FlowCheck.Text.Blank

/-!
# Dates

Two written forms of a day: a full timestamp, whose parts have fixed widths, and a plain date, whose
numbers may be unpadded, stand behind blanks and, for the year, carry a sign.  Either way the
day has to exist in the Gregorian calendar.

## Main definitions

* `Calendar.isDay` : year, month and day name a day
* `isTimestamp` : `2024-02-29T10:00:00.5+01:00`
* `isPlainDate` : `2024-2-29`
-/

namespace FlowCheck

/-! ## The calendar -/

namespace Calendar

def isLeapYear (year : Int) : Bool :=
  year % 4 = 0 && (year % 100 ≠ 0 || year % 400 = 0)

/-- The number of days of a month, none for a month that does not exist. -/
def daysIn (year : Int) (month : Nat) : Nat :=
  if month = 2 then (if isLeapYear year then 29 else 28)
  else if month = 4 ∨ month = 6 ∨ month = 9 ∨ month = 11 then 30
  else if 1 ≤ month ∧ month ≤ 12 then 31
  else 0

def isDay (year : Int) (month day : Nat) : Bool := 1 ≤ day && day ≤ daysIn year month

/-- The years that dates can have. -/
def isYear (year : Int) : Bool := -262143 ≤ year && year ≤ 262142

end Calendar

namespace Format

/-! ## Reading parts -/

/-- A number of `least` to `most` digits, as many as there are. -/
def digits? (least most : Nat) (cs : List Char) : Option (Nat × List Char) :=
  let ds := (cs.take most).takeWhile Char.isDigit
  if ds.length < least then none else some (Numeral.valueOf ds, cs.drop ds.length)

/-- What follows one of some characters. -/
def afterOne? (allowed : List Char) : List Char → Option (List Char)
  | [] => none
  | c :: cs => if allowed.contains c then some cs else none

/-! ## Timestamps -/

/-- A fraction of a second is a point and at least one digit. -/
def afterFraction? : List Char → Option (List Char)
  | '.' :: cs =>
    if cs.head?.any Char.isDigit then some (cs.dropWhile Char.isDigit) else none
  | cs => some cs

/-- The letter `Z`, or a sign, hours and minutes of less than a day; the minus may be the
typographic one. -/
def isOffset (cs : List Char) : Bool :=
  cs = ['Z'] || cs = ['z'] || (do
    let cs ← afterOne? ['+', '-', '\u2212'] cs
    let (hours, cs) ← digits? 2 2 cs
    let cs ← afterOne? [':'] cs
    let (minutes, cs) ← digits? 2 2 cs
    pure (cs.isEmpty && hours < 24 && minutes < 60)).getD false

/-- Date and time of day with an offset.  Second 60 is the leap second of any minute. -/
def isTimestamp (cs : List Char) : Bool :=
  (do
    let (year, cs) ← digits? 4 4 cs
    let cs ← afterOne? ['-'] cs
    let (month, cs) ← digits? 2 2 cs
    let cs ← afterOne? ['-'] cs
    let (day, cs) ← digits? 2 2 cs
    let cs ← afterOne? ['T', 't', ' '] cs
    let (hour, cs) ← digits? 2 2 cs
    let cs ← afterOne? [':'] cs
    let (minute, cs) ← digits? 2 2 cs
    let cs ← afterOne? [':'] cs
    let (second, cs) ← digits? 2 2 cs
    let cs ← afterFraction? cs
    pure (Calendar.isDay year month day && hour < 24 && minute < 60 && second ≤ 60 &&
      isOffset cs)).getD false

/-! ## Plain dates -/

/-- A year: four digits at most, or a sign and any number of them. -/
def year? (cs : List Char) : Option (Int × List Char) :=
  match cs with
  | '-' :: cs => (digits? 1 cs.length cs).map fun r => (-(r.1 : Int), r.2)
  | '+' :: cs => (digits? 1 cs.length cs).map fun r => ((r.1 : Int), r.2)
  | cs => (digits? 1 4 cs).map fun r => ((r.1 : Int), r.2)

/-- Year, month and day with hyphens between them, blanks allowed in front of each number. -/
def isPlainDate (cs : List Char) : Bool :=
  (do
    let (year, cs) ← year? (Text.trimStart cs)
    let cs ← afterOne? ['-'] cs
    let (month, cs) ← digits? 1 2 (Text.trimStart cs)
    let cs ← afterOne? ['-'] cs
    let (day, cs) ← digits? 1 2 (Text.trimStart cs)
    pure (cs.isEmpty && Calendar.isYear year && Calendar.isDay year month day)).getD false

def isDate (cs : List Char) : Bool := isTimestamp cs || isPlainDate cs

end Format
end FlowCheck
