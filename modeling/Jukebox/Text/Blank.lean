/-!
# Blank characters

White space in the sense of the Unicode property, and the three readings of a text that ignore it:
trimmed, collapsed and split into words.

## Main definitions

* `Jukebox.Text.isBlank`: the character is white space.
* `Jukebox.Text.trim`: the text without the blanks at its two ends.
* `Jukebox.Text.collapse`: each run of blanks written as one space.
* `Jukebox.Text.words`: the maximal runs of characters that are not blank.
-/

namespace Jukebox.Text

/-- The character has the property White_Space. -/
def isBlank (c : Char) : Bool :=
  let n := c.toNat
  (9 ≤ n && n ≤ 13) || n == 0x20 || n == 0x85 || n == 0xA0 || n == 0x1680 ||
    (0x2000 ≤ n && n ≤ 0x200A) || n == 0x2028 || n == 0x2029 || n == 0x202F || n == 0x205F ||
    n == 0x3000

/-- The text from its first character that is not blank. -/
def trimStart (s : List Char) : List Char :=
  s.dropWhile isBlank

/-- The text up to its last character that is not blank. -/
def trimEnd (s : List Char) : List Char :=
  (s.reverse.dropWhile isBlank).reverse

/-- The text without the blanks at its two ends. -/
def trim (s : List Char) : List Char :=
  trimEnd (trimStart s)

/-- Each run of blanks is written as one space. -/
def collapse : List Char → List Char
  | [] => []
  | c :: rest =>
    if isBlank c then
      if rest.head?.any isBlank then collapse rest else ' ' :: collapse rest
    else c :: collapse rest

/-- The maximal runs of characters that are not blank, in order. -/
def words (s : List Char) : List (List Char) :=
  (s.splitOnP isBlank).filter (· ≠ [])

theorem isBlank_of_printable {c : Char} (h₁ : 0x20 < c.toNat) (h₂ : c.toNat < 0x80) :
    isBlank c = false := by
  simp only [isBlank, Bool.or_eq_false_iff, Bool.and_eq_false_iff, decide_eq_false_iff_not,
    beq_eq_false_iff_ne]
  omega

/-- A text that does not begin with a blank is trimmed at its start as it is. -/
theorem trimStart_cons {c : Char} (h : isBlank c = false) (s : List Char) : trimStart (c :: s) = c :: s := by
  rw [trimStart, List.dropWhile_cons, h]
  rfl

/-- The first character of a text trimmed at its start is not blank. -/
theorem isBlank_of_head?_trimStart {s : List Char} {c : Char} (h : (trimStart s).head? = some c) :
    isBlank c = false := by
  induction s with
  | nil => simp [trimStart] at h
  | cons d rest ih =>
    by_cases hd : isBlank d
    · exact ih (by simpa [trimStart, hd] using h)
    · simp only [trimStart, List.dropWhile_cons, hd] at h
      simp_all

/-- Nothing is left after a trimmed start exactly if all of the text is blank. -/
theorem trimStart_eq_nil_iff {s : List Char} : trimStart s = [] ↔ ∀ c ∈ s, isBlank c = true := by
  induction s with
  | nil => simp [trimStart]
  | cons d rest ih =>
    by_cases hd : isBlank d
    · have h : trimStart (d :: rest) = trimStart rest := by simp [trimStart, hd]
      simp [h, ih, hd]
    · simp [trimStart, hd]

/-- Nothing is left up to a trimmed end exactly if all of the text is blank. -/
theorem trimEnd_eq_nil_iff {s : List Char} : trimEnd s = [] ↔ ∀ c ∈ s, isBlank c = true := by
  have h : trimEnd s = [] ↔ trimStart s.reverse = [] := List.reverse_eq_nil_iff
  simp [h, trimStart_eq_nil_iff]

end Jukebox.Text
