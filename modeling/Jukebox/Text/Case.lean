import Jukebox.Text.CaseTable

/-!
# Letter case

The lower-case form of a text by the Unicode rules. Each letter has a form of its own, with two
exceptions: the dotted capital I becomes two characters, and a capital sigma that ends a word becomes
the final sigma.

## Main definitions

* `Jukebox.Text.lowerChar`: the lower-case form of one character.
* `Jukebox.Text.lower`: the lower-case form of a text.
* `Jukebox.Text.lowerAscii`: the lower-case form of an ASCII letter; all else stays.
* `Jukebox.Text.sameAscii`: equality up to the case of ASCII letters.
-/

namespace Jukebox.Text

/-- The code point lies in one of the spans. -/
def inSpans (spans : List (Nat × Nat)) (c : Char) : Bool :=
  spans.any fun span => span.1 ≤ c.toNat && c.toNat ≤ span.2

/-- The character is an upper-case, lower-case or title-case letter. -/
def isCased (c : Char) : Bool :=
  inSpans casedSpans c

/-- Casing looks through the character. -/
def isCaseIgnorable (c : Char) : Bool :=
  inSpans caseIgnorableSpans c

/-- The lower-case form of an ASCII letter; all else stays. -/
def lowerAscii (c : Char) : Char :=
  if 'A' ≤ c ∧ c ≤ 'Z' then Char.ofNat (c.toNat + 32) else c

/-- The lower-case form of one character, taken by itself. -/
def lowerChar (c : Char) : List Char :=
  if c.toNat < 0x80 then [lowerAscii c]
  else if c = 'İ' then ['i', '\u0307']
  else
    match caseRuns.find? (·.holds c.toNat) with
    | some run => [Char.ofNat (c.toNat + run.shift).toNat]
    | none => [c]

/-- The first character that casing does not look through is cased. -/
def meetsCased (s : List Char) : Bool :=
  (s.dropWhile isCaseIgnorable).head?.any isCased

/-- The lower-case form of the text `s` that follows `seen`, the latter read backwards. A capital
sigma ends a word if a cased character comes before it and none after it. -/
def lowerAfter (seen : List Char) : List Char → List Char
  | [] => []
  | c :: rest =>
    if c = 'Σ' then
      (if meetsCased seen && !meetsCased rest then 'ς' else 'σ') :: lowerAfter (c :: seen) rest
    else lowerChar c ++ lowerAfter (c :: seen) rest

/-- The lower-case form of a text. -/
def lower (s : List Char) : List Char :=
  lowerAfter [] s

/-- The two texts differ at most in the case of ASCII letters. -/
def sameAscii (s t : List Char) : Bool :=
  s.map lowerAscii == t.map lowerAscii

/-- Every ASCII character has one lower-case form, the ASCII one. -/
theorem lowerChar_of_ascii {c : Char} (h : c.toNat < 0x80) : lowerChar c = [lowerAscii c] := by
  simp [lowerChar, h]

end Jukebox.Text
