/-!
# Span tables

A property of characters whose value changes at listed points only. Such tables are written as text: for
each point, its distance from the point before in hexadecimal digits, a colon, and the value from there
on.

## Main definitions

* `Jukebox.Text.SpanTable`: the points and the values from there on.
* `Jukebox.Text.SpanTable.read`: reads the written form.
* `Jukebox.Text.SpanTable.get?`: the value at a code point.
-/

namespace Jukebox.Text

/-- The value of a hexadecimal digit. -/
def hexDigit? (c : Char) : Option Nat :=
  let n := c.toNat
  if 0x30 ≤ n ∧ n ≤ 0x39 then some (n - 0x30)
  else if 0x61 ≤ n ∧ n ≤ 0x66 then some (n - 0x61 + 10)
  else if 0x41 ≤ n ∧ n ≤ 0x46 then some (n - 0x41 + 10)
  else none

/-- The number written in hexadecimal digits. A character that is none counts as zero. -/
def hexNumber (digits : List Char) : Nat :=
  digits.foldl (fun n c => n * 16 + (hexDigit? c).getD 0) 0

/-- The two sides of the first colon in an item of a table. -/
def sides (item : List Char) : List Char × List Char :=
  (item.takeWhile (· ≠ ':'), (item.dropWhile (· ≠ ':')).drop 1)

/-- The items of a table, which spaces separate, line by line. -/
def items (lines : List String) : List (List Char × List Char) :=
  lines.flatMap fun line => (line.toList.splitOnP (· = ' ')).map sides

/-- The points at which a property changes, in order, with the values from there on. -/
structure SpanTable (β : Type) where
  points : Array (Nat × β)

namespace SpanTable

variable {β : Type}

/-- Reads the written form of a table. -/
def read (value : List Char → β) (lines : List String) : SpanTable β :=
  let step := fun (at_ : Nat × Array (Nat × β)) (item : List Char × List Char) =>
    let point := at_.1 + hexNumber item.1
    (point, at_.2.push (point, value item.2))
  ⟨((items lines).foldl step (0, #[])).2⟩

/-- The last index from `low` on, and below `high`, whose point is not beyond `n`. -/
def search (points : Array (Nat × β)) (n low high : Nat) : Nat :=
  if low + 1 < high then
    let mid := (low + high) / 2
    if points[mid]?.any (·.1 ≤ n) then search points n mid high else search points n low mid
  else low
termination_by high - low

/-- The value at a code point. -/
def get? (t : SpanTable β) (n : Nat) : Option β :=
  t.points[search t.points n 0 t.points.size]?.map Prod.snd

end SpanTable

end Jukebox.Text
