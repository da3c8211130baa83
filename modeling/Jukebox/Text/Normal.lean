import Std.Data.HashMap
import Jukebox.Text.NormalTable
import Jukebox.Text.SpanTable

/-!
# Composed form

The normal form of a text in which characters and the marks on them are written as one character
wherever there is one: decompose everything, put the marks on each character in order, and compose again.

## Main definitions

* `Jukebox.Text.combiningClass`: the class by which marks are put in order.
* `Jukebox.Text.decompose`: the full decomposition of a text, marks in order.
* `Jukebox.Text.compose`: the composition of a decomposed text.
* `Jukebox.Text.composed`: the normal form.
-/

namespace Jukebox.Text

/-- The characters of a dotted list of hexadecimal code points. -/
def dottedChars (s : List Char) : List Char :=
  (s.splitOnP (· = '.')).map fun digits => Char.ofNat (hexNumber digits)

/-- The combining classes. -/
def combiningTable : SpanTable Nat :=
  SpanTable.read hexNumber combiningData

/-- The class by which marks are put in order. It is zero for a character that is no mark. -/
def combiningClass (c : Char) : Nat :=
  if c.toNat < 0x300 then 0 else (combiningTable.get? c.toNat).getD 0

/-- The full decompositions. -/
def decompositionTable : Std.HashMap Nat (List Char) :=
  (items decompositionData).foldl (fun m item => m.insert (hexNumber item.1) (dottedChars item.2)) ∅

/-- The texts of two characters that compose into one. -/
def compositionTable : Std.HashMap String Char :=
  (items compositionData).foldl
    (fun m item => m.insert (String.ofList (dottedChars item.1)) (Char.ofNat (hexNumber item.2))) ∅

/-- The full decomposition of one character. A Hangul syllable decomposes by rule. -/
def decomposeChar (c : Char) : List Char :=
  let n := c.toNat
  if n < 0xC0 then [c]
  else if 0xAC00 ≤ n ∧ n ≤ 0xD7A3 then
    let index := n - 0xAC00
    let lead := Char.ofNat (0x1100 + index / 588)
    let vowel := Char.ofNat (0x1161 + index % 588 / 28)
    if index % 28 = 0 then [lead, vowel] else [lead, vowel, Char.ofNat (0x11A7 + index % 28)]
  else (decompositionTable.get? n).getD [c]

/-- Puts a mark in its place behind the marks of its class, given what comes before it, backwards. -/
def insertMark (c : Char) : List Char → List Char
  | [] => [c]
  | d :: before =>
    if combiningClass c ≠ 0 ∧ combiningClass c < combiningClass d then d :: insertMark c before
    else c :: d :: before

/-- The full decomposition of a text, with the marks on each character in order. -/
def decompose (s : List Char) : List Char :=
  ((s.flatMap decomposeChar).foldl (fun before c => insertMark c before) []).reverse

/-- The character that two characters compose to. Hangul syllables compose by rule. -/
def composePair? (a b : Char) : Option Char :=
  let m := a.toNat
  let n := b.toNat
  if 0x1100 ≤ m ∧ m ≤ 0x1112 ∧ 0x1161 ≤ n ∧ n ≤ 0x1175 then
    some (Char.ofNat (0xAC00 + ((m - 0x1100) * 21 + (n - 0x1161)) * 28))
  else if 0xAC00 ≤ m ∧ m ≤ 0xD7A3 ∧ (m - 0xAC00) % 28 = 0 ∧ 0x11A8 ≤ n ∧ n ≤ 0x11C2 then
    some (Char.ofNat (m + (n - 0x11A7)))
  else compositionTable.get? (String.ofList [a, b])

/-- Composition under way: what is finished, the character that may still compose, and the marks after
it that did not, the latest first. -/
structure Composing where
  finished : List Char := []
  base : Option Char := none
  marks : List Char := []

/-- What has been read so far, the latest character first. -/
def Composing.all (p : Composing) : List Char :=
  p.marks ++ (p.base.toList ++ p.finished)

/-- Reads one more character. It composes with the base unless a mark of its class or a higher one
stands between them. -/
def Composing.step (p : Composing) (c : Char) : Composing :=
  let blocked := p.marks.head?.any fun d => combiningClass c ≤ combiningClass d
  match if blocked then none else p.base.bind (composePair? · c) with
  | some composite => { p with base := some composite }
  | none =>
    if combiningClass c = 0 then { finished := p.all, base := some c }
    else { p with marks := c :: p.marks }

/-- The composition of a decomposed text. -/
def compose (s : List Char) : List Char :=
  (s.foldl Composing.step {}).all.reverse

/-- The normal form. ASCII is in normal form. -/
def composed (s : List Char) : List Char :=
  if s.all (·.toNat < 0x80) then s else compose (decompose s)

end Jukebox.Text
