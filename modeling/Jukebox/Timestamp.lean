import Jukebox.Text.Blank
import Jukebox.Text.Case
import Jukebox.Text.Number

/-!
# Timestamps

Points in time as date and time of day. They are written in one form and read in many: the parts may have
blanks between them, and the offset from universal time may be written in several ways.

## Main definitions

* `Jukebox.Timestamp`: nanoseconds since the start of 1970.
* `Jukebox.Timestamp.text`: the written form.
* `Jukebox.Timestamp.parse?`: the point in time that a text stands for.
-/

namespace Jukebox

/-- Nanoseconds since the start of 1970, universal time. -/
abbrev Timestamp := Int

namespace Timestamp

/-- The number of days from the start of the year zero to the start of a year. -/
def daysBeforeYear (y : Int) : Int :=
  365 * y + (y - 1) / 4 - (y - 1) / 100 + (y - 1) / 400

/-- The days from the start of the year zero to the start of 1970. -/
def epochDays : Int := daysBeforeYear 1970

/-- The year has a leap day. -/
def isLeap (y : Int) : Bool :=
  y % 4 = 0 && (y % 100 ≠ 0 || y % 400 = 0)

def monthLengths (y : Int) : List Nat :=
  [31, if isLeap y then 29 else 28, 31, 30, 31, 30, 31, 31, 30, 31, 30, 31]

/-- The day, counted from the start of 1970, of a date, if there is such a date. -/
def dayOfDate? (y : Int) (month day : Nat) : Option Int := do
  let lengths := monthLengths y
  if month = 0 then none
  let length ← lengths[month - 1]?
  if day = 0 ∨ length < day ∨ y < -262143 ∨ 262142 < y then none
  let before : Nat := (lengths.take (month - 1)).foldl (· + ·) 0
  some (daysBeforeYear y + before + (day - 1) - epochDays)

/-- The month and the day in it of the `n`-th day of a year, from months of the given lengths on. -/
def monthOfDay : Nat → List Nat → Nat → Nat × Nat
  | month, [], n => (month, n + 1)
  | month, length :: lengths, n =>
    if n < length then (month, n + 1) else monthOfDay (month + 1) lengths (n - length)

/-- The year, the month and the day of a day counted from the start of the year zero. -/
def dateOfDay (days : Int) : Int × Nat × Nat :=
  let guess := 400 * days / 146097
  let year := if daysBeforeYear (guess + 1) ≤ days then guess + 1 else guess
  let (month, day) := monthOfDay 1 (monthLengths year) (days - daysBeforeYear year).toNat
  (year, month, day)

/-- The fraction of a second, in as many groups of three digits as it needs. -/
def fractionText (nanos : Nat) : String :=
  if nanos = 0 then ""
  else if nanos % 1000000 = 0 then "." ++ Text.pad 3 (nanos / 1000000)
  else if nanos % 1000 = 0 then "." ++ Text.pad 6 (nanos / 1000)
  else "." ++ Text.pad 9 nanos

/-- The written form, in universal time. -/
def text (t : Timestamp) : String :=
  let seconds := t / 1000000000
  let (year, month, day) := dateOfDay (seconds / 86400 + epochDays)
  let ofDay := (seconds % 86400).toNat
  let yearText := (if 9999 < year then "+" else "") ++ Text.pad 4 year.toNat
  yearText ++ "-" ++ Text.pad 2 month ++ "-" ++ Text.pad 2 day ++ "T" ++ Text.pad 2 (ofDay / 3600) ++
    ":" ++ Text.pad 2 (ofDay / 60 % 60) ++ ":" ++ Text.pad 2 (ofDay % 60) ++
    fractionText (t % 1000000000).toNat ++ "Z"

/-- The number of some decimal digits. -/
def number (digits : List Char) : Nat :=
  digits.foldl (fun n c => n * 10 + (c.toNat - 0x30)) 0

/-- Reads one digit or more, but no more than `most`. -/
def takeNumber? (most : Nat) (s : List Char) : Option (Nat × List Char) :=
  let digits := (s.take most).takeWhile Char.isDigit
  if digits.isEmpty then none else some (number digits, s.drop digits.length)

/-- Reads a number of two digits at most, behind blanks. -/
def takePart? (s : List Char) : Option (Nat × List Char) :=
  takeNumber? 2 (Text.trimStart s)

/-- Reads a character behind blanks. -/
def dropMark? (mark : Char) (s : List Char) : Option (List Char) :=
  match Text.trimStart s with
  | c :: rest => if c = mark then some rest else none
  | [] => none

/-- Reads a year: four digits at most, or any number behind a sign. -/
def takeYear? (s : List Char) : Option (Int × List Char) :=
  match Text.trimStart s with
  | '-' :: rest => (takeNumber? rest.length rest).map fun (n, rest) => (-n, rest)
  | '+' :: rest => (takeNumber? rest.length rest).map fun (n, rest) => (n, rest)
  | s => (takeNumber? 4 s).map fun (n, rest) => (n, rest)

/-- Reads the fraction of a second, which need not be there, in nanoseconds. Digits beyond the ninth do
not count. -/
def takeFraction? : List Char → Option (Nat × List Char)
  | '.' :: rest =>
    let digits := rest.takeWhile Char.isDigit
    let used := digits.take 9
    if digits.isEmpty then none
    else some (number used * Nat.pow 10 (9 - used.length), rest.drop digits.length)
  | s => some (0, s)

/-- Reads exactly two digits. -/
def takeTwo? : List Char → Option (Nat × List Char)
  | a :: b :: rest => if a.isDigit && b.isDigit then some (number [a, b], rest) else none
  | _ => none

/-- Reads hours and minutes of an offset, with colons and blanks between them, in seconds. -/
def takeHours? (s : List Char) : Option (Nat × List Char) := do
  let (hours, s) ← takeTwo? s
  let (minutes, s) ← takeTwo? (s.dropWhile fun c => c = ':' || Text.isBlank c)
  if 59 < minutes then none else some (hours * 3600 + minutes * 60, s)

/-- Reads an offset from universal time in seconds: a name of universal time, or hours and minutes
behind a sign. -/
def takeOffset? (s : List Char) : Option (Int × List Char) :=
  if Text.sameAscii "UTC".toList (s.take 3) then some (0, s.drop 3)
  else
    match s with
    | 'Z' :: rest | 'z' :: rest => some (0, rest)
    | '+' :: rest => (takeHours? rest).map fun (n, rest) => (n, rest)
    | '-' :: rest | '−' :: rest => (takeHours? rest).map fun (n, rest) => (-n, rest)
    | _ => none

/-- The nanoseconds of a time of day. The sixtieth second is a leap second. -/
def timeOfDay? (hour minute second nanos : Nat) : Option Nat :=
  if 23 < hour ∨ 59 < minute ∨ 60 < second then none
  else some (((hour * 60 + minute) * 60 + second) * 1000000000 + nanos)

/-- The point in time that a text stands for. -/
def parse? (s : List Char) : Option Timestamp := do
  let (year, s) ← takeYear? s
  let (month, s) ← takePart? (← dropMark? '-' s)
  let (day, s) ← takePart? (← dropMark? '-' s)
  let separator ← s.head?
  if separator ≠ 't' ∧ separator ≠ 'T' ∧ separator ≠ ' ' then none
  let (hour, s) ← takePart? s.tail
  let (minute, s) ← takePart? (← dropMark? ':' s)
  let (second, s) ← takePart? (← dropMark? ':' s)
  let (nanos, s) ← takeFraction? s
  let (offset, s) ← takeOffset? (Text.trimStart s)
  if !(Text.trimStart s).isEmpty ∨ offset ≤ -86400 ∨ 86400 ≤ offset then none
  let days ← dayOfDate? year month day
  let ofDay ← timeOfDay? hour minute second nanos
  some ((days * 86400 - offset) * 1000000000 + ofDay)

end Timestamp

end Jukebox
