/-!
# Punycode

Letters beyond ASCII written with ASCII letters alone. The characters that are ASCII come first, followed
by a hyphen; the others are written as the gaps between their code points and places, in digits of base
36 whose thresholds adapt to the gaps already written.

## Main definitions

* `Jukebox.Url.Punycode.encode`: the ASCII form of a text.
* `Jukebox.Url.Punycode.decode?`: the text of an ASCII form.

## Design notes

Each loop has a measure: digits make the number smaller, and reading makes the rest of the text shorter.
-/

namespace Jukebox.Url.Punycode

/-- The letter or digit with a value below 36. -/
def digitChar (v : Nat) : Char :=
  if v < 26 then Char.ofNat (0x61 + v) else Char.ofNat (0x30 + (v - 26))

/-- The value of a letter of any case or of a digit. -/
def digitValue? (c : Char) : Option Nat :=
  let n := c.toNat
  if 0x61 ≤ n ∧ n ≤ 0x7A then some (n - 0x61)
  else if 0x41 ≤ n ∧ n ≤ 0x5A then some (n - 0x41)
  else if 0x30 ≤ n ∧ n ≤ 0x39 then some (n - 0x30 + 26)
  else none

/-- Below the threshold, a digit is the last one of its number. `place` grows by 36 with each digit. -/
def threshold (bias place : Nat) : Nat :=
  if place ≤ bias then 1 else min (place - bias) 26

theorem threshold_pos (bias place : Nat) : 0 < threshold bias place := by
  unfold threshold
  split <;> omega

/-- Scales a gap down, and tells by how many digits. -/
def scale (delta count : Nat) : Nat × Nat :=
  if 455 < delta then scale (delta / 35) (count + 36) else (delta, count)
termination_by delta
decreasing_by omega

/-- The bias after a gap `delta` was written, with `points` characters now in the text. -/
def adapt (delta points : Nat) (isFirst : Bool) : Nat :=
  let halved := if isFirst then delta / 700 else delta / 2
  let (scaled, count) := scale (halved + halved / points) 0
  count + 36 * scaled / (scaled + 38)

def gapDigits (bias place delta : Nat) : List Char :=
  let t := threshold bias place
  if delta < t then [digitChar delta]
  else
    digitChar (t + (delta - t) % (36 - t)) :: gapDigits bias (place + 36) ((delta - t) / (36 - t))
termination_by delta
decreasing_by
  have hpos := threshold_pos bias place
  have hle := Nat.div_le_self (delta - threshold bias place) (36 - threshold bias place)
  omega

/-- What has been written, and the numbers the next digits depend on. -/
structure Writer where
  digits : List Char := []
  delta : Nat := 0
  bias : Nat := 72
  written : Nat

/-- Passes a character of the text while writing the places of the code point `point`. -/
def Writer.pass (basic point : Nat) (w : Writer) (c : Char) : Writer :=
  if c.toNat < point then { w with delta := w.delta + 1 }
  else if c.toNat = point then
    { digits := w.digits ++ gapDigits w.bias 36 w.delta
      delta := 0
      bias := adapt w.delta (w.written + 1) (w.written == basic)
      written := w.written + 1 }
  else w

/-- Writes the places of each of the code points, which are in order; `from_` is the first one that is
not yet written. -/
def writePoints (text : List Char) (basic : Nat) : List Nat → Nat → Writer → Writer
  | [], _, w => w
  | point :: points, from_, w =>
    let w := { w with delta := w.delta + (point - from_) * (w.written + 1) }
    let w := text.foldl (Writer.pass basic point) w
    writePoints text basic points (point + 1) { w with delta := w.delta + 1 }

/-- The code points beyond ASCII that occur in a text, in order. -/
def points (text : List Char) : List Nat :=
  ((text.map Char.toNat).filter (0x80 ≤ ·)).mergeSort.eraseDups

/-- The ASCII form of a text. -/
def encode (text : List Char) : List Char :=
  let basic := text.filter (·.toNat < 0x80)
  let w := writePoints text basic.length (points text) 0x80 { written := basic.length }
  (if basic.isEmpty then [] else basic ++ ['-']) ++ w.digits

/-- The numbers that occur in reading a gap stay below this one. -/
def gapBound : Nat := 0x100000000

/-- Reads the digits of one gap on top of `value`, with the rest of the text. A gap whose numbers reach
the bound is refused. -/
def readGap? (bias : Nat) : List Char → Nat → Nat → Nat → Option (Nat × List Char)
  | [], _, _, _ => none
  | c :: rest, place, weight, value =>
    match digitValue? c with
    | none => none
    | some d =>
      let t := threshold bias place
      if gapBound ≤ value + d * weight then none
      else if d < t then some (value + d * weight, rest)
      else if gapBound ≤ weight * (36 - t) then none
      else readGap? bias rest (place + 36) (weight * (36 - t)) (value + d * weight)

/-- The digits of a gap are taken off the text. -/
theorem length_of_readGap? {bias : Nat} {s rest : List Char} {place weight value n : Nat}
    (h : readGap? bias s place weight value = some (n, rest)) : rest.length < s.length := by
  induction s generalizing place weight value with
  | nil => simp [readGap?] at h
  | cons c s ih =>
    rw [readGap?] at h
    split at h
    · contradiction
    · dsimp only at h
      split at h
      · contradiction
      · split at h
        · simp only [Option.some.injEq, Prod.mk.injEq] at h
          simp [← h.2]
        · split at h
          · contradiction
          · have := ih h
            simp only [List.length_cons]
            omega

/-- Reads all gaps and puts the characters in their places. -/
def readGaps? (digits : List Char) (point index bias : Nat) (isFirst : Bool) (text : List Char) :
    Option (List Char) :=
  if digits.isEmpty then some text
  else
    match _h : readGap? bias digits 36 1 0 with
    | none => none
    | some (gap, rest) =>
      let size := text.length + 1
      let place := index + gap
      let point := point + place / size
      if point < 0xD800 ∨ (0xE000 ≤ point ∧ point < 0x110000) then
        readGaps? rest point (place % size + 1) (adapt gap size isFirst) false
          (text.take (place % size) ++ Char.ofNat point :: text.drop (place % size))
      else none
termination_by digits.length
decreasing_by exact length_of_readGap? _h

/-- The text of an ASCII form. -/
def decode? (s : List Char) : Option (List Char) :=
  let tail := (s.reverse.takeWhile (· ≠ '-')).reverse
  let basic := s.take (s.length - tail.length - 1)
  readGaps? tail 0x80 0 72 true basic

end Jukebox.Url.Punycode
