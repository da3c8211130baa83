/-!
# Searching in a text

Looking for a piece of text inside another: at its front, at its end, or anywhere.

## Main definitions

* `Jukebox.Text.dropFront?`: what follows a given beginning.
* `Jukebox.Text.dropBack?`: what precedes a given ending.
* `Jukebox.Text.contains`: the piece occurs somewhere.
* `Jukebox.Text.splitAt?`: the text before and after the first character of a kind.
-/

namespace Jukebox.Text

/-- What follows `front` in a text that begins with it. -/
def dropFront? : List Char → List Char → Option (List Char)
  | [], s => some s
  | _ :: _, [] => none
  | p :: ps, c :: s => if p = c then dropFront? ps s else none

/-- What precedes `back` in a text that ends with it. -/
def dropBack? (back s : List Char) : Option (List Char) :=
  (dropFront? back.reverse s.reverse).map List.reverse

def endsWith (back s : List Char) : Bool :=
  back.reverse.isPrefixOf s.reverse

/-- The piece occurs somewhere in the text. -/
def contains (piece : List Char) : List Char → Bool
  | [] => piece.isEmpty
  | c :: rest => piece.isPrefixOf (c :: rest) || contains piece rest

/-- The text before and after the first character for which `p` holds; that character is in neither
part. -/
def splitAt? (p : Char → Bool) (s : List Char) : Option (List Char × List Char) :=
  match s.dropWhile (fun c => !p c) with
  | [] => none
  | _ :: after => some (s.takeWhile (fun c => !p c), after)

/-- A text begins with `front` exactly if it is `front` followed by what `dropFront?` finds. -/
theorem dropFront?_eq_some_iff {front s rest : List Char} :
    dropFront? front s = some rest ↔ s = front ++ rest := by
  induction front generalizing s with
  | nil => simp [dropFront?]
  | cons p ps ih =>
    cases s with
    | nil => simp [dropFront?]
    | cons c s =>
      by_cases h : p = c
      · simp [dropFront?, h, ih]
      · simp [dropFront?, h, Ne.symm h]

/-- A text ends with `back` exactly if it is what `dropBack?` finds followed by `back`. -/
theorem dropBack?_eq_some_iff {back s rest : List Char} :
    dropBack? back s = some rest ↔ s = rest ++ back := by
  simp only [dropBack?, Option.map_eq_some_iff, dropFront?_eq_some_iff]
  constructor
  · rintro ⟨t, ht, rfl⟩
    simpa using congrArg List.reverse ht
  · rintro rfl
    exact ⟨rest.reverse, by simp, by simp⟩

/-- A piece is contained in a text exactly if it is one of its segments. -/
theorem contains_eq_true_iff {piece s : List Char} :
    contains piece s = true ↔ piece <:+: s := by
  induction s with
  | nil => simp [contains]
  | cons c rest ih =>
    rw [contains, Bool.or_eq_true, List.isPrefixOf_iff_prefix, ih, List.infix_cons_iff]

/-- Splitting at a character puts the text back together around it. -/
theorem splitAt?_eq_some {p : Char → Bool} {s before after : List Char}
    (h : splitAt? p s = some (before, after)) :
    ∃ c, p c = true ∧ s = before ++ c :: after ∧ ∀ d ∈ before, p d = false := by
  induction s generalizing before with
  | nil => simp [splitAt?] at h
  | cons c rest ih =>
    by_cases hc : p c
    · simp only [splitAt?, List.dropWhile_cons, List.takeWhile_cons, hc] at h
      simp at h
      obtain ⟨rfl, rfl⟩ := h
      exact ⟨c, hc, by simp, by simp⟩
    · have hrest : ∃ b, splitAt? p rest = some (b, after) ∧ before = c :: b := by
        simp only [splitAt?, List.dropWhile_cons, List.takeWhile_cons, hc] at h ⊢
        simp at h
        split at h <;> simp_all
      obtain ⟨b, hb, rfl⟩ := hrest
      obtain ⟨d, hd, hs, hall⟩ := ih hb
      refine ⟨d, hd, by simp [hs], ?_⟩
      intro e he
      rcases List.mem_cons.1 he with rfl | he
      · simpa using hc
      · exact hall e he

end Jukebox.Text
