import Jukebox.Proofs.Text.Words
import Jukebox.Text.Case

/-!
# Lower case and blanks

Lower-casing goes word by word, although a capital sigma looks at the letters around it. A blank is no letter, and
casing does not look past it; nor does a letter turn into a blank.

## Main results

- `Text.lower_append_blank` — a text is lower-cased on both sides of a blank by itself
- `Text.lower_intercalate` — words joined by spaces are lower-cased one by one
- `Text.words_lower` — the words of a text in lower case
- `Text.infix_lower_of_ascii` — a piece in ASCII is lower-cased letter by letter
- `Text.ascii_of_lower` — a text is in ASCII if its lower-case form has certain letters only
-/

namespace Jukebox.Text

variable {b c : Char} {s t w : List Char}

-- ════════════════════════════════════════════════════════════════════════
-- On both sides of a blank
-- ════════════════════════════════════════════════════════════════════════

theorem isCased_of_isBlank (hb : isBlank b = true) : isCased b = false :=
  of_isBlank (P := fun b => isCased b = false) hb (by decide +kernel)

theorem isCaseIgnorable_of_isBlank (hb : isBlank b = true) : isCaseIgnorable b = false :=
  of_isBlank (P := fun b => isCaseIgnorable b = false) hb (by decide +kernel)

theorem lowerChar_of_isBlank (hb : isBlank b = true) : lowerChar b = [b] :=
  of_isBlank (P := fun b => lowerChar b = [b]) hb (by decide +kernel)

/-- Casing does not look past a blank. -/
theorem meetsCased_append_blank (hb : isBlank b = true) (s t : List Char) :
    meetsCased (s ++ b :: t) = meetsCased s := by
  have hstop : (b :: t).dropWhile isCaseIgnorable = b :: t := by
    rw [List.dropWhile_cons, isCaseIgnorable_of_isBlank hb]
    rfl
  rw [meetsCased, List.dropWhile_append, hstop, meetsCased]
  cases h : s.dropWhile isCaseIgnorable with
  | nil => simp [isCased_of_isBlank hb]
  | cons c s => simp

/-- What stands in front of a blank does not affect the letters behind it. -/
theorem lowerAfter_blank (hb : isBlank b = true) (s seen seen' : List Char) :
    lowerAfter (seen ++ b :: seen') s = lowerAfter seen s := by
  induction s generalizing seen with
  | nil => rfl
  | cons c s ih =>
    rw [lowerAfter, lowerAfter, meetsCased_append_blank hb, ← List.cons_append, ih (c :: seen)]

theorem lowerAfter_append_blank (hb : isBlank b = true) (s t seen : List Char) :
    lowerAfter seen (s ++ b :: t) = lowerAfter seen s ++ b :: lower t := by
  induction s generalizing seen with
  | nil =>
    have hsigma : b ≠ 'Σ' := by
      rintro rfl
      cases hb
    have hrest : lowerAfter (b :: seen) t = lower t := lowerAfter_blank hb t [] seen
    change lowerAfter seen (b :: t) = b :: lower t
    rw [lowerAfter, if_neg hsigma, lowerChar_of_isBlank hb, hrest]
    rfl
  | cons c s ih =>
    rw [List.cons_append, lowerAfter, lowerAfter, ih, meetsCased_append_blank hb]
    split
    · rfl
    · rw [List.append_assoc]

/-- A text is lower-cased on both sides of a blank by itself. -/
theorem lower_append_blank (hb : isBlank b = true) (s t : List Char) :
    lower (s ++ b :: t) = lower s ++ b :: lower t :=
  lowerAfter_append_blank hb s t []

theorem lower_intercalate (ws : List (List Char)) :
    lower ([' '].intercalate ws) = [' '].intercalate (ws.map lower) := by
  induction ws with
  | nil => rfl
  | cons w ws ih =>
    cases ws with
    | nil => rw [List.intercalate_singleton, List.map_cons, List.map_nil, List.intercalate_singleton]
    | cons w' ws =>
      rw [List.map_cons, List.map_cons, List.intercalate_cons_cons, List.intercalate_cons_cons, List.append_assoc,
        List.singleton_append, lower_append_blank (by decide), ih, List.append_assoc]
      rfl

-- ════════════════════════════════════════════════════════════════════════
-- Words
-- ════════════════════════════════════════════════════════════════════════

/-- No run of letters has a blank among its lower-case forms. -/
theorem shift_notMem_blankPoints :
    ∀ r ∈ caseRuns, ∀ n ∈ blankPoints, ¬ ((r.first : Int) + r.shift ≤ n ∧ (n : Int) ≤ r.last + r.shift) := by
  decide +kernel

theorem isBlank_lowerAscii (hc : isBlank c = false) (hascii : c.toNat < 0x80) : isBlank (lowerAscii c) = false :=
  of_ascii (P := fun c => isBlank c = false → isBlank (lowerAscii c) = false) hascii (by decide +kernel) hc

/-- The lower-case forms of a character. Beyond ASCII they come from the table of runs, unless the character is the
dotted capital I or stays as it is. -/
theorem mem_lowerChar_cases {d : Char} (hd : d ∈ lowerChar c) :
    c.toNat < 0x80 ∧ d = lowerAscii c ∨ d = 'i' ∨ d = '\u0307' ∨ ¬ c.toNat < 0x80 ∧ d = c ∨
      ∃ r ∈ caseRuns, r.holds c.toNat = true ∧ d = Char.ofNat (c.toNat + r.shift).toNat := by
  unfold lowerChar at hd
  split at hd
  · next hascii => exact .inl ⟨hascii, List.mem_singleton.1 hd⟩
  · next hbeyond =>
    split at hd
    · obtain rfl | hd := List.mem_cons.1 hd
      · exact .inr (.inl rfl)
      · exact .inr (.inr (.inl (List.mem_singleton.1 hd)))
    · split at hd
      · next r hr =>
        have hholds := List.find?_some hr
        exact .inr (.inr (.inr (.inr ⟨r, List.mem_of_find?_eq_some hr, hholds, List.mem_singleton.1 hd⟩)))
      · exact .inr (.inr (.inr (.inl ⟨hbeyond, List.mem_singleton.1 hd⟩)))

/-- A form from the table is none of some characters that no run leads to. -/
theorem shifted_notMem {points : List Nat} (hpos : ∀ n ∈ points, 0 < n)
    (hruns : ∀ r ∈ caseRuns, ∀ n ∈ points, ¬ ((r.first : Int) + r.shift ≤ n ∧ (n : Int) ≤ r.last + r.shift))
    {r : CaseRun} (hr : r ∈ caseRuns) (hholds : r.holds c.toNat = true) :
    (Char.ofNat (c.toNat + r.shift).toNat).toNat ∉ points := by
  intro hmem
  obtain hn | hzero := toNat_ofNat_or (c.toNat + r.shift).toNat
  · rw [hn] at hmem
    have hnot := hruns r hr _ hmem
    have := hpos _ hmem
    simp only [CaseRun.holds, Bool.and_eq_true, decide_eq_true_eq] at hholds
    omega
  · rw [hzero] at hmem
    exact Nat.lt_irrefl 0 (hpos 0 hmem)

/-- Lower-casing makes no blanks. -/
theorem isBlank_of_mem_lowerChar {d : Char} (hc : isBlank c = false) (hd : d ∈ lowerChar c) : isBlank d = false := by
  obtain ⟨hascii, rfl⟩ | rfl | rfl | ⟨-, rfl⟩ | ⟨r, hr, hholds, rfl⟩ := mem_lowerChar_cases hd
  · exact isBlank_lowerAscii hc hascii
  · decide
  · decide
  · exact hc
  · apply Bool.eq_false_iff.2
    intro hblank
    exact shifted_notMem (by decide) shift_notMem_blankPoints hr hholds (toNat_mem_blankPoints hblank)

theorem lowerChar_ne_nil (c : Char) : lowerChar c ≠ [] := by
  unfold lowerChar
  split
  · exact List.cons_ne_nil _ _
  · split
    · exact List.cons_ne_nil _ _
    · split <;> exact List.cons_ne_nil _ _

theorem isBlank_of_mem_lowerAfter (hs : ∀ c ∈ s, isBlank c = false) (seen : List Char) :
    ∀ d ∈ lowerAfter seen s, isBlank d = false := by
  induction s generalizing seen with
  | nil => exact fun d hd => nomatch hd
  | cons c s ih =>
    obtain ⟨hc, hs⟩ := List.forall_mem_cons.1 hs
    intro d hd
    rw [lowerAfter] at hd
    split at hd
    · obtain rfl | hd := List.mem_cons.1 hd
      · split <;> decide
      · exact ih hs _ d hd
    · obtain hd | hd := List.mem_append.1 hd
      · exact isBlank_of_mem_lowerChar hc hd
      · exact ih hs _ d hd

theorem lower_eq_nil_iff : lower s = [] ↔ s = [] := by
  cases s with
  | nil => exact iff_of_true rfl rfl
  | cons c s =>
    rw [lower, lowerAfter]
    split
    · simp
    · simp [lowerChar_ne_nil]

/-- A word stays one when it is lower-cased. -/
theorem IsWord.lower (h : IsWord w) : IsWord (lower w) :=
  ⟨mt lower_eq_nil_iff.1 h.1, isBlank_of_mem_lowerAfter h.2 []⟩

theorem words_lower_of_free (hs : ∀ c ∈ s, isBlank c = false) : words (lower s) = (words s).map lower := by
  rw [words_of_free hs, words_of_free (s := lower s) (isBlank_of_mem_lowerAfter hs [])]
  by_cases hnil : s = []
  · rw [if_pos hnil, if_pos (lower_eq_nil_iff.2 hnil)]
    rfl
  · rw [if_neg hnil, if_neg (mt lower_eq_nil_iff.1 hnil)]
    rfl

/-- The words of a text in lower case are its words, each in lower case. -/
theorem words_lower (s : List Char) : words (lower s) = (words s).map lower := by
  induction s using blank_induction with
  | hfree s hs => exact words_lower_of_free hs
  | hblank w b t hw hb ih =>
    rw [lower_append_blank hb, words_append_blank hb, words_append_blank hb, words_lower_of_free hw, ih,
      List.map_append]

-- ════════════════════════════════════════════════════════════════════════
-- Pieces in ASCII
-- ════════════════════════════════════════════════════════════════════════

theorem toNat_lowerAscii_lt (h : c.toNat < 0x80) : (lowerAscii c).toNat < 0x80 :=
  of_ascii (P := fun c => (lowerAscii c).toNat < 0x80) h (by decide +kernel)

theorem exists_lowerAfter_append (s t seen : List Char) :
    ∃ front seen', lowerAfter seen (s ++ t) = front ++ lowerAfter seen' t := by
  induction s generalizing seen with
  | nil => exact ⟨[], seen, rfl⟩
  | cons c s ih =>
    obtain ⟨front, seen', h⟩ := ih (c :: seen)
    rw [List.cons_append, lowerAfter, h]
    split
    · exact ⟨_ :: front, seen', rfl⟩
    · exact ⟨lowerChar c ++ front, seen', (List.append_assoc _ _ _).symm⟩

theorem lowerAfter_ascii_append (hw : ∀ c ∈ w, c.toNat < 0x80) (t seen : List Char) :
    ∃ seen', lowerAfter seen (w ++ t) = w.map lowerAscii ++ lowerAfter seen' t := by
  induction w generalizing seen with
  | nil => exact ⟨seen, rfl⟩
  | cons c w ih =>
    obtain ⟨hc, hw⟩ := List.forall_mem_cons.1 hw
    obtain ⟨seen', h⟩ := ih hw (c :: seen)
    have hsigma : c ≠ 'Σ' := by
      rintro rfl
      exact absurd hc (by decide)
    refine ⟨seen', ?_⟩
    rw [List.cons_append, lowerAfter, if_neg hsigma, lowerChar_of_ascii hc, h]
    rfl

/-- A text in ASCII is lower-cased letter by letter. -/
theorem lower_of_ascii (hw : ∀ c ∈ w, c.toNat < 0x80) : lower w = w.map lowerAscii := by
  obtain ⟨seen, h⟩ := lowerAfter_ascii_append hw [] []
  rw [List.append_nil] at h
  exact h.trans (List.append_nil _)

/-- If no run leads to some letters of ASCII, what they are the lower-case forms of is in ASCII. -/
theorem ascii_of_lower {points : List Nat} (hascii : ∀ n ∈ points, 0 < n ∧ n < 0x80 ∧ n ≠ 'i'.toNat)
    (hruns : ∀ r ∈ caseRuns, ∀ n ∈ points, ¬ ((r.first : Int) + r.shift ≤ n ∧ (n : Int) ≤ r.last + r.shift))
    (h : ∀ d ∈ lower s, d.toNat ∈ points) : ∀ c ∈ s, c.toNat < 0x80 := by
  have hchar : ∀ c, (∀ d ∈ lowerChar c, d.toNat ∈ points) → c.toNat < 0x80 := by
    intro c hforms
    obtain ⟨d, forms, hd⟩ := List.exists_cons_of_ne_nil (lowerChar_ne_nil c)
    have hmem : d ∈ lowerChar c := by rw [hd]; exact List.mem_cons_self
    have hpoint := hforms d hmem
    obtain ⟨hlt, -⟩ | rfl | rfl | ⟨hbeyond, rfl⟩ | ⟨r, hr, hholds, rfl⟩ := mem_lowerChar_cases hmem
    · exact hlt
    · exact absurd rfl (hascii _ hpoint).2.2
    · exact absurd (hascii _ hpoint).2.1 (by decide)
    · exact absurd (hascii _ hpoint).2.1 hbeyond
    · exact absurd hpoint (shifted_notMem (fun n hn => (hascii n hn).1) hruns hr hholds)
  have hall : ∀ seen, (∀ d ∈ lowerAfter seen s, d.toNat ∈ points) → ∀ c ∈ s, c.toNat < 0x80 := by
    clear h
    induction s with
    | nil => exact fun _ _ => nofun
    | cons c s ih =>
      intro seen h
      rw [lowerAfter] at h
      split at h
      · -- a sigma stays beyond ASCII
        have hsigma := (hascii _ (h _ List.mem_cons_self)).2.1
        split at hsigma <;> exact absurd hsigma (by decide)
      · obtain ⟨hforms, hrest⟩ := List.forall_mem_append.1 h
        exact List.forall_mem_cons.2 ⟨hchar c hforms, ih _ hrest⟩
  exact hall [] h

/-- A piece of a text in ASCII is lower-cased letter by letter, whatever stands around it. -/
theorem infix_lower_of_ascii (hw : ∀ c ∈ w, c.toNat < 0x80) (h : w <:+: s) : w.map lowerAscii <:+: lower s := by
  obtain ⟨front, back, rfl⟩ := h
  obtain ⟨front', seen, hfront⟩ := exists_lowerAfter_append front (w ++ back) []
  obtain ⟨seen', hpiece⟩ := lowerAfter_ascii_append hw back seen
  refine ⟨front', lowerAfter seen' back, ?_⟩
  rw [lower, List.append_assoc front, hfront, hpiece, List.append_assoc]

end Jukebox.Text
