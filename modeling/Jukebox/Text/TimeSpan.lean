/-!
# Lengths of time in words

A length of time as a list of units, the largest first, such as `1day 2h 30m`. A year has 365.25 days
and a month is a twelfth of it.

## Main definitions

* `Jukebox.Text.timeSpan`: a number of seconds in units.
* `Jukebox.Text.clockTime`: a number of seconds as on a clock face.
-/

namespace Jukebox.Text

/-- A unit of time: its length in seconds, its name, and what is added to the name when there are
several. -/
structure TimeUnit where
  seconds : Nat
  name : String
  plural : String

/-- The units in use, the largest first. -/
def timeUnits : List TimeUnit := [
  ⟨31557600, "year", "s"⟩, ⟨2630016, "month", "s"⟩, ⟨86400, "day", "s"⟩,
  ⟨3600, "h", ""⟩, ⟨60, "m", ""⟩, ⟨1, "s", ""⟩]

/-- The parts of `seconds` in the given units, leaving out those that are zero. -/
def timeParts : List TimeUnit → Nat → List String
  | [], _ => []
  | u :: units, seconds =>
    let n := seconds / u.seconds
    let rest := timeParts units (seconds % u.seconds)
    if n = 0 then rest
    else (toString n ++ u.name ++ if n = 1 then "" else u.plural) :: rest

/-- A number of seconds in units, separated by spaces. -/
def timeSpan (seconds : Nat) : String :=
  if seconds = 0 then "0s" else " ".intercalate (timeParts timeUnits seconds)

def twoDigits (n : Nat) : String :=
  if n < 10 then "0" ++ toString n else toString n

/-- A number of seconds as minutes and seconds, with the hours in front if there are any. -/
def clockTime (seconds : Nat) : String :=
  let hours := seconds / 3600
  let minutes := seconds % 3600 / 60
  let rest := ":" ++ twoDigits (seconds % 60)
  if hours = 0 then toString minutes ++ rest
  else toString hours ++ ":" ++ twoDigits minutes ++ rest

end Jukebox.Text
