import Jukebox.Text.Blank
import Mathlib.Data.List.Chain

/-!
# Words of a text

A text is read as words with blanks between them. Nothing else of the blanks counts once the text is trimmed and
collapsed.

## Main definitions

- `Text.IsWord` — some characters, none of which is a blank
- `Text.IsTidy` — the only blanks are single spaces with something on both sides

## Main results

- `Text.of_ascii`, `Text.of_isBlank` — a fact about characters from their code points, one by one
- `Text.words_intercalate` — words joined by spaces are read back
- `Text.collapse_trim` — a text trimmed and collapsed is its words, joined by spaces
- `Text.isTidy_intercalate` — words joined by spaces are tidy
- `Text.infix_trim_iff` — what does not begin or end with a blank is not affected by trimming
-/

namespace Jukebox.Text

variable {b c : Char} {s t w : List Char} {ws : List (List Char)}

-- ════════════════════════════════════════════════════════════════════════
-- Characters by their code points
-- ════════════════════════════════════════════════════════════════════════

/-- What holds of the characters of ASCII one by one holds of each of them. -/
theorem of_ascii {P : Char → Prop} (h : c.toNat < 0x80) (hall : ∀ n < 0x80, P (Char.ofNat n)) : P c := by
  have hc := hall c.toNat h
  rwa [Char.ofNat_toNat] at hc

theorem toNat_ofNat_or (n : Nat) : (Char.ofNat n).toNat = n ∨ Char.ofNat n = '\x00' := by
  by_cases hvalid : n.isValidChar
  · left
    rw [Char.ofNat, dif_pos hvalid]
    rfl
  · right
    rw [Char.ofNat, dif_neg hvalid]
    rfl

/-- The code points of all blanks. -/
def blankPoints : List Nat :=
  [9, 10, 11, 12, 13, 0x20, 0x85, 0xA0, 0x1680, 0x2000, 0x2001, 0x2002, 0x2003, 0x2004, 0x2005, 0x2006, 0x2007,
    0x2008, 0x2009, 0x200A, 0x2028, 0x2029, 0x202F, 0x205F, 0x3000]

theorem toNat_mem_blankPoints (h : isBlank c = true) : c.toNat ∈ blankPoints := by
  simp only [isBlank, Bool.or_eq_true, Bool.and_eq_true, decide_eq_true_eq, beq_iff_eq] at h
  simp only [blankPoints, List.mem_cons, List.not_mem_nil, or_false]
  omega

/-- What holds of the few blanks one by one holds of every blank. -/
theorem of_isBlank {P : Char → Prop} (h : isBlank c = true) (hall : ∀ n ∈ blankPoints, P (Char.ofNat n)) : P c := by
  have hc := hall c.toNat (toNat_mem_blankPoints h)
  rwa [Char.ofNat_toNat] at hc

-- ════════════════════════════════════════════════════════════════════════
-- Words
-- ════════════════════════════════════════════════════════════════════════

/-- Every text is free of blanks, or splits at its first blank. -/
theorem blank_induction {P : List Char → Prop} (hfree : ∀ w, (∀ c ∈ w, isBlank c = false) → P w)
    (hblank : ∀ w b t, (∀ c ∈ w, isBlank c = false) → isBlank b = true → P t → P (w ++ b :: t)) (s : List Char) :
    P s := by
  -- the characters before the first blank are collected in `w`
  have hall : ∀ w, (∀ c ∈ w, isBlank c = false) → P (w ++ s) := by
    induction s with
    | nil =>
      intro w hw
      rw [List.append_nil]
      exact hfree w hw
    | cons c s ih =>
      intro w hw
      cases hc : isBlank c with
      | true => exact hblank w c s hw hc (ih [] (by simp))
      | false =>
        rw [List.append_cons]
        apply ih
        intro d hd
        obtain hd | hd := List.mem_append.1 hd
        · exact hw d hd
        · rw [List.mem_singleton.1 hd, hc]
  exact hall [] (by simp)

/-- Some characters, none of which is a blank. -/
def IsWord (w : List Char) : Prop := w ≠ [] ∧ ∀ c ∈ w, isBlank c = false

theorem words_nil : words [] = [] := rfl

/-- A blank separates words. -/
theorem words_append_blank (hb : isBlank b = true) (s t : List Char) : words (s ++ b :: t) = words s ++ words t := by
  rw [words, List.splitOnP_append_cons s t hb, List.filter_append]
  rfl

theorem words_blank_cons (hb : isBlank b = true) (t : List Char) : words (b :: t) = words t :=
  words_append_blank hb [] t

/-- Without blanks there is one word at most. -/
theorem words_of_free (hs : ∀ c ∈ s, isBlank c = false) : words s = if s = [] then [] else [s] := by
  rw [words, List.splitOnP_eq_singleton hs]
  split
  · next h => rw [h]; rfl
  · next h => simp [h]

theorem IsWord.words (h : IsWord w) : words w = [w] := by
  rw [words_of_free h.2, if_neg h.1]

theorem isWord_of_mem_words : w ∈ words s → IsWord w := by
  induction s using blank_induction with
  | hfree s hs =>
    rw [words_of_free hs]
    split
    · intro h
      cases h
    · next hne =>
      intro h
      rw [List.mem_singleton.1 h]
      exact ⟨hne, hs⟩
  | hblank u b t hu hb ih =>
    rw [words_append_blank hb, words_of_free hu, List.mem_append]
    rintro (h | h)
    · split at h
      · cases h
      · next hne =>
        rw [List.mem_singleton.1 h]
        exact ⟨hne, hu⟩
    · exact ih h

/-- Words joined by spaces are read back. -/
theorem words_intercalate (h : ∀ w ∈ ws, IsWord w) : words ([' '].intercalate ws) = ws := by
  induction ws with
  | nil => rfl
  | cons w ws ih =>
    obtain ⟨hw, hws⟩ := List.forall_mem_cons.1 h
    cases ws with
    | nil => rw [List.intercalate_singleton, hw.words]
    | cons w' ws =>
      rw [List.intercalate_cons_cons, List.append_assoc, List.singleton_append, words_append_blank (by decide),
        hw.words, ih hws]
      rfl

-- ════════════════════════════════════════════════════════════════════════
-- Trimmed and collapsed
-- ════════════════════════════════════════════════════════════════════════

theorem trimEnd_append (s t : List Char) :
    trimEnd (s ++ t) = if trimEnd t = [] then trimEnd s else s ++ trimEnd t := by
  rw [trimEnd, List.reverse_append, List.dropWhile_append]
  by_cases h : t.reverse.dropWhile isBlank = [] <;> simp [h, trimEnd]

theorem trimStart_eq_self (h : ∀ c, s.head? = some c → isBlank c = false) : trimStart s = s := by
  cases s with
  | nil => rfl
  | cons c s => exact trimStart_cons (h c rfl) s

theorem trimEnd_of_free (hs : ∀ c ∈ s, isBlank c = false) : trimEnd s = s := by
  have hreverse : s.reverse.dropWhile isBlank = s.reverse :=
    trimStart_eq_self fun c hc => hs c (List.mem_reverse.1 (List.mem_of_head? hc))
  rw [trimEnd, hreverse, List.reverse_reverse]

/-- A text has no words exactly if nothing is left of it when it is trimmed. -/
theorem words_eq_nil_iff : words s = [] ↔ trimEnd s = [] := by
  rw [trimEnd_eq_nil_iff]
  induction s using blank_induction with
  | hfree s hs =>
    rw [words_of_free hs]
    cases s with
    | nil => simp
    | cons c s => simp [hs c List.mem_cons_self]
  | hblank w b t hw hb ih =>
    rw [words_append_blank hb, words_of_free hw, List.append_eq_nil_iff, ih]
    cases w with
    | nil => simp [hb]
    | cons c w => simp [hw c List.mem_cons_self]

theorem collapse_append_of_free (hs : ∀ c ∈ s, isBlank c = false) (t : List Char) :
    collapse (s ++ t) = s ++ collapse t := by
  induction s with
  | nil => rfl
  | cons c s ih =>
    obtain ⟨hc, hs⟩ := List.forall_mem_cons.1 hs
    rw [List.cons_append, collapse, hc, if_neg Bool.false_ne_true, ih hs]
    rfl

theorem collapse_of_free (hs : ∀ c ∈ s, isBlank c = false) : collapse s = s := by
  simpa [collapse] using collapse_append_of_free hs []

/-- The space that a collapsed text begins with, if blanks stand before its first word. -/
def leadingSpace (s : List Char) : List Char :=
  if s.head?.any isBlank ∧ words s ≠ [] then [' '] else []

theorem collapse_blank_cons (hb : isBlank b = true) (t : List Char) :
    collapse (b :: t) = if t.head?.any isBlank then collapse t else ' ' :: collapse t := by
  rw [collapse, if_pos hb]

theorem trimEnd_blank_cons (hb : isBlank b = true) (t : List Char) :
    trimEnd (b :: t) = if trimEnd t = [] then [] else b :: trimEnd t := by
  have hsingle : trimEnd [b] = [] := trimEnd_eq_nil_iff.2 (by simp [hb])
  rw [← List.singleton_append, trimEnd_append, hsingle]
  rfl

theorem head?_trimEnd (h : trimEnd s ≠ []) : (trimEnd s).head? = s.head? := by
  cases s with
  | nil => rfl
  | cons c s =>
    rw [← List.singleton_append, trimEnd_append] at h ⊢
    split at h
    · next hnil =>
      rw [if_pos hnil]
      cases hc : isBlank c with
      | true => exact absurd (trimEnd_eq_nil_iff.2 (by simp [hc])) h
      | false => rw [trimEnd_of_free (by simp [hc])]; rfl
    · next hne => rw [if_neg hne]; rfl

/-- A text that is trimmed at its end only keeps a space in front of its words. -/
theorem collapse_trimEnd (s : List Char) : collapse (trimEnd s) = leadingSpace s ++ [' '].intercalate (words s) := by
  induction s using blank_induction with
  | hfree s hs =>
    rw [trimEnd_of_free hs, collapse_of_free hs, leadingSpace, words_of_free hs]
    cases s with
    | nil => rfl
    | cons c s => simp [hs c List.mem_cons_self]
  | hblank w b t hw hb ih =>
    have hwords : words (w ++ b :: t) = words w ++ words t := words_append_blank hb w t
    rw [trimEnd_append, trimEnd_blank_cons hb, leadingSpace, hwords, words_of_free hw]
    by_cases hnil : trimEnd t = []
    · -- nothing follows but blanks
      rw [if_pos hnil, if_pos rfl, trimEnd_of_free hw, words_eq_nil_iff.2 hnil]
      cases w with
      | nil => simp [collapse]
      | cons c w => simp [collapse_of_free hw, hw c List.mem_cons_self]
    · -- one space remains of the blanks in front of the next word
      have hne : words t ≠ [] := mt words_eq_nil_iff.1 hnil
      have hspace : collapse (b :: trimEnd t) = ' ' :: [' '].intercalate (words t) := by
        rw [collapse_blank_cons hb, head?_trimEnd hnil, ih, leadingSpace]
        cases t.head?.any isBlank <;> simp [hne]
      rw [if_neg hnil, if_neg (List.cons_ne_nil b _), collapse_append_of_free hw, hspace]
      cases w with
      | nil => simp [hb, hne]
      | cons c w =>
        obtain ⟨v, vs, hvs⟩ := List.exists_cons_of_ne_nil hne
        simp [hw c List.mem_cons_self, hvs]

/-- Nothing counts in front of the words. -/
theorem words_trimStart (s : List Char) : words (trimStart s) = words s := by
  induction s with
  | nil => rfl
  | cons c s ih =>
    cases hc : isBlank c with
    | true =>
      have hs : trimStart (c :: s) = trimStart s := by simp [trimStart, hc]
      rw [hs, ih, words_blank_cons hc]
    | false => rw [trimStart_cons hc]

/-- A text trimmed and collapsed is its words, joined by spaces. -/
theorem collapse_trim (s : List Char) : collapse (trim s) = [' '].intercalate (words s) := by
  have hlead : leadingSpace (trimStart s) = [] := by
    apply if_neg
    rintro ⟨h, -⟩
    cases hhead : (trimStart s).head? with
    | none => simp [hhead] at h
    | some c => simp [hhead, isBlank_of_head?_trimStart hhead] at h
  rw [trim, collapse_trimEnd, hlead, words_trimStart]
  rfl

/-- The only blanks are single spaces, none of them at an end. -/
structure IsTidy (s : List Char) : Prop where
  starts : ∀ c, s.head? = some c → isBlank c = false
  ends : ∀ c, s.getLast? = some c → isBlank c = false
  single : s.IsChain fun c d => isBlank c = false ∨ isBlank d = false
  spaces : ∀ c ∈ s, isBlank c = true → c = ' '

theorem isTidy_nil : IsTidy [] where
  starts _ h := nomatch h
  ends _ h := nomatch h
  single := .nil
  spaces _ h := nomatch h

theorem IsWord.isTidy (h : IsWord w) : IsTidy w where
  starts c hc := h.2 c (List.mem_of_head? hc)
  ends c hc := h.2 c (List.mem_of_getLast? hc)
  single := (List.pairwise_of_forall_mem_list fun c hc _ _ => .inl (h.2 c hc)).isChain
  spaces c hc hblank := absurd hblank (by simp [h.2 c hc])

/-- A word can be put in front of a tidy text, with a space between them. -/
theorem IsTidy.append_word (hs : IsTidy s) (hne : s ≠ []) (hw : IsWord w) : IsTidy (w ++ ' ' :: s) where
  starts c hc := by
    obtain ⟨d, w', rfl⟩ := List.exists_cons_of_ne_nil hw.1
    exact hw.isTidy.starts c hc
  ends c hc := by
    obtain ⟨d, s', rfl⟩ := List.exists_cons_of_ne_nil hne
    apply hs.ends c
    rwa [List.getLast?_append_cons, List.getLast?_cons_cons] at hc
  single := by
    have hspace : (' ' :: s).IsChain fun c d => isBlank c = false ∨ isBlank d = false :=
      List.isChain_cons.2 ⟨fun d hd => .inr (hs.starts d hd), hs.single⟩
    exact hw.isTidy.single.append hspace fun c hc _ _ => .inl (hw.isTidy.ends c hc)
  spaces c hc hblank := by
    obtain hc | hc := List.mem_append.1 hc
    · exact hw.isTidy.spaces c hc hblank
    · obtain rfl | hc := List.mem_cons.1 hc
      · rfl
      · exact hs.spaces c hc hblank

/-- Words joined by spaces are tidy. -/
theorem isTidy_intercalate (h : ∀ w ∈ ws, IsWord w) : IsTidy ([' '].intercalate ws) := by
  induction ws with
  | nil => exact isTidy_nil
  | cons w ws ih =>
    obtain ⟨hw, hws⟩ := List.forall_mem_cons.1 h
    cases ws with
    | nil => rw [List.intercalate_singleton]; exact hw.isTidy
    | cons w' ws =>
      rw [List.intercalate_cons_cons, List.append_assoc, List.singleton_append]
      refine (ih hws).append_word ?_ hw
      intro hnil
      have hread := words_intercalate hws
      rw [hnil, words_nil] at hread
      cases hread

theorem infix_trimStart_iff {piece : List Char} (hfirst : ∀ c, piece.head? = some c → isBlank c = false) :
    piece <:+: trimStart s ↔ piece <:+: s := by
  induction s with
  | nil => exact Iff.rfl
  | cons c s ih =>
    cases hc : isBlank c with
    | false => rw [trimStart_cons hc]
    | true =>
      have hs : trimStart (c :: s) = trimStart s := by simp [trimStart, hc]
      rw [hs, ih, List.infix_cons_iff, or_iff_right_of_imp]
      intro hprefix
      cases piece with
      | nil => exact List.nil_infix
      | cons d piece =>
        obtain rfl := (List.cons_prefix_cons.1 hprefix).1
        rw [hfirst d rfl] at hc
        cases hc

/-- What does not begin or end with a blank is found in a text exactly if it is found in the trimmed text. -/
theorem infix_trim_iff {piece : List Char} (hfirst : ∀ c, piece.head? = some c → isBlank c = false)
    (hlast : ∀ c, piece.getLast? = some c → isBlank c = false) : piece <:+: trim s ↔ piece <:+: s := by
  have hreverse : trimEnd (trimStart s) = (trimStart (trimStart s).reverse).reverse := rfl
  rw [trim, hreverse, ← List.reverse_infix, List.reverse_reverse, infix_trimStart_iff (by simpa using hlast),
    List.reverse_infix, infix_trimStart_iff hfirst]

end Jukebox.Text
