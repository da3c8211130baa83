import Jukebox.Proofs.Text.Words
import Jukebox.Text.Search
import Mathlib.Data.List.TakeWhile

/-!
# Trimmed texts

Trimming takes away the blanks in front of a text and behind it, and nothing else. What is left neither begins nor
ends with a blank, and there is only one such way to read a text.

## Main definitions

- `Text.AllBlank` — there is nothing but blanks
- `Text.IsTrimmed` — no blank stands at an end

## Main results

- `Text.trim_trim` — trimming a second time changes nothing
- `Text.trim_eq_iff` — a text is what it is trimmed to, with blanks around it
- `Text.splitAt?_append` — a text is split at its first blank
-/

namespace Jukebox.Text

variable {b : Char} {s t w front back : List Char}

/-- There is nothing but blanks. -/
def AllBlank (s : List Char) : Prop := ∀ c ∈ s, isBlank c = true

/-- No blank stands at an end. -/
structure IsTrimmed (s : List Char) : Prop where
  starts : ∀ c, s.head? = some c → isBlank c = false
  ends : ∀ c, s.getLast? = some c → isBlank c = false

theorem IsTrimmed.trimEnd_eq (h : IsTrimmed s) : trimEnd s = s := by
  have hreverse : trimStart s.reverse = s.reverse := trimStart_eq_self (by simpa using h.ends)
  change (trimStart s.reverse).reverse = s
  rw [hreverse, List.reverse_reverse]

theorem IsTrimmed.trim_eq (h : IsTrimmed s) : trim s = s := by
  rw [trim, trimStart_eq_self h.starts, h.trimEnd_eq]

/-- No blanks are left over behind a trimmed text. -/
theorem IsTrimmed.eq_nil_of_append (h : IsTrimmed (s ++ back)) (hback : AllBlank back) : back = [] := by
  by_contra hne
  have hlast := h.ends (back.getLast hne) (by rw [List.getLast?_append, List.getLast?_eq_some_getLast hne]; rfl)
  rw [hback _ (List.getLast_mem hne)] at hlast
  cases hlast

theorem isTrimmed_trim (s : List Char) : IsTrimmed (trim s) where
  starts c hc := by
    have hne : trimEnd (trimStart s) ≠ [] := by
      intro hnil
      rw [trim, hnil] at hc
      cases hc
    rw [trim, head?_trimEnd hne] at hc
    exact isBlank_of_head?_trimStart hc
  ends c hc := by
    rw [trim, trimEnd, List.getLast?_reverse] at hc
    exact isBlank_of_head?_trimStart hc

/-- Trimming a second time changes nothing. -/
theorem trim_trim (s : List Char) : trim (trim s) = trim s := (isTrimmed_trim s).trim_eq

theorem exists_trimStart (s : List Char) : ∃ front, AllBlank front ∧ s = front ++ trimStart s :=
  ⟨s.takeWhile isBlank, fun _ hc => List.mem_takeWhile_imp hc, List.takeWhile_append_dropWhile.symm⟩

theorem exists_trimEnd (s : List Char) : ∃ back, AllBlank back ∧ s = trimEnd s ++ back := by
  obtain ⟨front, hfront, hs⟩ := exists_trimStart s.reverse
  refine ⟨front.reverse, fun c hc => hfront c (List.mem_reverse.1 hc), ?_⟩
  have hreverse := congrArg List.reverse hs
  rwa [List.reverse_reverse, List.reverse_append] at hreverse

theorem trimStart_append (hfront : AllBlank front) (s : List Char) : trimStart (front ++ s) = trimStart s :=
  List.dropWhile_append_of_pos hfront

theorem trimEnd_append_blank (hback : AllBlank back) (s : List Char) : trimEnd (s ++ back) = trimEnd s := by
  rw [trimEnd_append, if_pos (trimEnd_eq_nil_iff.2 hback)]

/-- A text is what it is trimmed to, with blanks in front and behind. -/
theorem trim_eq_iff : trim s = t ↔
    IsTrimmed t ∧ ∃ front back, AllBlank front ∧ AllBlank back ∧ s = front ++ (t ++ back) := by
  constructor
  · rintro rfl
    obtain ⟨front, hfront, hs⟩ := exists_trimStart s
    obtain ⟨back, hback, hstart⟩ := exists_trimEnd (trimStart s)
    refine ⟨isTrimmed_trim s, front, back, hfront, hback, ?_⟩
    rw [trim, ← hstart, ← hs]
  · rintro ⟨ht, front, back, hfront, hback, rfl⟩
    rw [trim, trimStart_append hfront]
    cases t with
    | nil =>
      have hnothing : trimStart back = [] := trimStart_eq_nil_iff.2 hback
      rw [List.nil_append, hnothing]
      rfl
    | cons c t => rw [List.cons_append, trimStart_cons (ht.starts c rfl), ← List.cons_append,
        trimEnd_append_blank hback, ht.trimEnd_eq]

/-- A text is split at its first blank. -/
theorem splitAt?_append (hw : ∀ c ∈ w, isBlank c = false) (hb : isBlank b = true) (t : List Char) :
    splitAt? isBlank (w ++ b :: t) = some (w, t) := by
  have hfree : ∀ c ∈ w, (!isBlank c) = true := fun c hc => by rw [hw c hc]; rfl
  rw [splitAt?, List.dropWhile_append_of_pos hfree, List.takeWhile_append_of_pos hfree, List.dropWhile_cons,
    List.takeWhile_cons, hb]
  simp

end Jukebox.Text
