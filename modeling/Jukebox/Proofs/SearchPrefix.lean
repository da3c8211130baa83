import Jukebox.Query

/-!
# Search prefixes and web addresses

A text that starts with a search prefix names one provider only, and it is no web address. Both facts
come from the first letters of the text: those of the prefixes tell the providers apart, and none of
them is the letter that the two web schemes start with.

## Main results

- `Provider.searchTerms?_eq_some_iff` — a text asks for a provider if it is the prefix of the provider
  in letters of any case, with the terms behind it
- `Provider.ofSearch?_eq_some_iff` — the order of the providers does not matter for search prefixes
- `Provider.isWebAddress_of_searchTerms?` — a text behind a search prefix is no web address
-/

namespace Jukebox

namespace Text

/-- Dropping characters of a kind from both ends of a text keeps a first character of another kind. -/
theorem exists_dropEnds_cons {p : Char → Bool} {c : Char} (hc : p c = false) (s : List Char) :
    ∃ t, (((c :: s).dropWhile p).reverse.dropWhile p).reverse = c :: t := by
  have hfront : (c :: s).dropWhile p = c :: s := by
    rw [List.dropWhile_cons, hc]
    rfl
  rw [hfront, List.reverse_cons, List.dropWhile_append]
  split
  · exact ⟨[], by simp [hc]⟩
  · exact ⟨(s.reverse.dropWhile p).reverse, by simp⟩

theorem exists_trim_cons {c : Char} (hc : isBlank c = false) (s : List Char) :
    ∃ t, trim (c :: s) = c :: t :=
  exists_dropEnds_cons hc s

/-- A character whose lower-case form is a letter of the alphabet is a printable ASCII character. -/
theorem printable_of_lowerAscii {c : Char} (h₁ : 'a' ≤ lowerAscii c) (h₂ : lowerAscii c ≤ 'z') :
    0x20 < c.toNat ∧ c.toNat < 0x80 := by
  unfold lowerAscii at h₁ h₂
  split at h₁
  · next h =>
    have hA : 65 ≤ c.toNat := h.1
    have hZ : c.toNat ≤ 90 := h.2
    omega
  · next h =>
    rw [if_neg h] at h₂
    have ha : 97 ≤ c.toNat := h₁
    have hz : c.toNat ≤ 122 := h₂
    omega

end Text

namespace WebUrl

/-- The characters of an address that count start with its first printable one. -/
theorem exists_significant_cons {c : Char} (hc : 0x20 < c.toNat) (s : List Char) :
    ∃ t, significant (c :: s) = c :: t := by
  have houter : isOuterBlank c = false := by
    simp only [isOuterBlank, decide_eq_false_iff_not]
    omega
  have hinner : isInnerBlank c = false := by
    simp only [isInnerBlank, Bool.or_eq_false_iff, beq_eq_false_iff_ne]
    refine ⟨⟨?_, ?_⟩, ?_⟩ <;> rintro rfl <;> revert hc <;> decide
  obtain ⟨t, ht⟩ := Text.exists_dropEnds_cons houter s
  refine ⟨t.filter (!isInnerBlank ·), ?_⟩
  simp only [significant]
  rw [ht, List.filter_cons, hinner]
  rfl

theorem lowerAscii_of_takeScheme? {c : Char} {s : List Char} {r : WebScheme × List Char}
    (h : takeScheme? (c :: s) = some r) : Text.lowerAscii c = 'h' := by
  unfold takeScheme? at h
  obtain ⟨⟨front, rest⟩, hsplit, h⟩ := Option.bind_eq_some_iff.1 h
  obtain ⟨colon, hcolon, hs, -⟩ := Text.splitAt?_eq_some hsplit
  have hfront : ∃ t, front.map Text.lowerAscii = 'h' :: t := by
    simp only at h
    split at h
    · next heq => exact ⟨_, by simpa using congrArg String.toList heq⟩
    · next heq => exact ⟨_, by simpa using congrArg String.toList heq⟩
    · cases h
  obtain ⟨t, ht⟩ := hfront
  cases front with
  | nil => simp at ht
  | cons d ds =>
    obtain ⟨rfl, -⟩ : c = d ∧ _ := by simpa using hs
    simpa using (List.cons.inj ht).1

end WebUrl

/-- A web address that starts with a letter starts with that of the web schemes. -/
theorem lowerAscii_of_isWebAddress {c : Char} {s : List Char} (h₁ : 'a' ≤ Text.lowerAscii c)
    (h₂ : Text.lowerAscii c ≤ 'z') (h : isWebAddress (c :: s) = true) : Text.lowerAscii c = 'h' := by
  obtain ⟨hlow, hhigh⟩ := Text.printable_of_lowerAscii h₁ h₂
  obtain ⟨t, ht⟩ := Text.exists_trim_cons (Text.isBlank_of_printable hlow hhigh) s
  obtain ⟨t', ht'⟩ := WebUrl.exists_significant_cons hlow t
  rw [isWebAddress, ht, WebUrl.isValid, WebUrl.parse?, ht'] at h
  obtain ⟨r, hr⟩ := Option.isSome_iff_exists.1 h
  obtain ⟨scheme, hscheme, -⟩ := Option.bind_eq_some_iff.1 hr
  exact WebUrl.lowerAscii_of_takeScheme? hscheme

namespace Provider

/-- A text asks for a provider exactly if it is the search prefix of the provider, in ASCII letters of
any case, followed by the terms. -/
theorem searchTerms?_eq_some_iff {p : Provider} {s terms : List Char} :
    p.searchTerms? s = some terms ↔
      ∃ front head, p.searchPrefix = some front ∧ s = head ++ terms ∧
        head.map Text.lowerAscii = front.toList.map Text.lowerAscii := by
  unfold searchTerms?
  constructor
  · intro h
    obtain ⟨front, hfront, h⟩ := Option.bind_eq_some_iff.1 h
    simp only [Text.sameAscii, beq_iff_eq] at h
    split at h
    · next heq =>
      obtain rfl := Option.some.inj h
      exact ⟨front, s.take front.toList.length, hfront, (List.take_append_drop _ s).symm, heq.symm⟩
    · cases h
  · rintro ⟨front, head, hfront, rfl, hhead⟩
    have hlen : head.length = front.toList.length := by simpa using congrArg List.length hhead
    rw [hfront]
    simp only [Option.bind_eq_bind, Option.bind_some, ← hlen, List.take_left, List.drop_left,
      Text.sameAscii, hhead, BEq.rfl, if_true]

/-- The three letters that a search prefix starts with. -/
def sign? (p : Provider) : Option (List Char) :=
  p.searchPrefix.map fun front => front.toList.take 3

theorem eq_of_sign? {p q : Provider} {s : List Char} (hp : p.sign? = some s) (hq : q.sign? = some s) :
    p = q := by
  have h : p.sign? = q.sign? := hp.trans hq.symm
  have hsome : p.sign?.isSome = true := by rw [hp]; rfl
  clear hp hq
  revert h hsome
  cases p <;> cases q <;> decide

/-- A search prefix starts with a letter, which is not that of the web schemes. -/
theorem head_of_sign? {p : Provider} {c : Char} {s : List Char} (h : p.sign? = some (c :: s)) :
    'a' ≤ c ∧ c ≤ 'z' ∧ c ≠ 'h' := by
  have hall : p.sign?.all fun t => t.head?.all fun c => 'a' ≤ c ∧ c ≤ 'z' ∧ c ≠ 'h' := by
    cases p <;> decide
  simpa [h] using hall

/-- A text that asks for a provider starts with the three letters of its prefix. -/
theorem sign?_of_searchTerms? {p : Provider} {s terms : List Char}
    (h : p.searchTerms? s = some terms) : p.sign? = some ((s.map Text.lowerAscii).take 3) := by
  obtain ⟨front, head, hfront, rfl, hhead⟩ := searchTerms?_eq_some_iff.1 h
  have hall : p.searchPrefix.all fun front =>
      3 ≤ front.toList.length ∧ front.toList.map Text.lowerAscii = front.toList := by
    cases p <;> decide
  obtain ⟨hlen, hlower⟩ : 3 ≤ front.toList.length ∧ front.toList.map Text.lowerAscii = front.toList := by
    simpa only [hfront, Option.all_some, decide_eq_true_eq] using hall
  rw [List.map_append, hhead, hlower, List.take_append_of_le_length hlen, sign?, hfront]
  rfl

/-- A text asks for one provider at most. -/
theorem eq_of_searchTerms? {p q : Provider} {s terms terms' : List Char}
    (hp : p.searchTerms? s = some terms) (hq : q.searchTerms? s = some terms') : p = q :=
  eq_of_sign? (sign?_of_searchTerms? hp) (sign?_of_searchTerms? hq)

/-- Looking through all providers finds the one that a text asks for, wherever it stands among them. -/
theorem ofSearch?_eq_some_iff {p : Provider} {s terms : List Char} :
    ofSearch? s = some (p, terms) ↔ p.searchTerms? s = some terms := by
  constructor
  · intro h
    obtain ⟨q, -, hq⟩ := List.exists_of_findSome?_eq_some h
    obtain ⟨t, ht, heq⟩ := Option.map_eq_some_iff.1 hq
    obtain ⟨rfl, rfl⟩ := Prod.mk.inj heq
    exact ht
  · intro h
    have hsome : (ofSearch? s).isSome = true := by
      rw [ofSearch?, List.findSome?_isSome_iff]
      exact ⟨p, mem_all p, by rw [h]; rfl⟩
    obtain ⟨⟨q, t⟩, hq⟩ := Option.isSome_iff_exists.1 hsome
    obtain ⟨q', -, hq'⟩ := List.exists_of_findSome?_eq_some hq
    obtain ⟨t', ht', heq⟩ := Option.map_eq_some_iff.1 hq'
    obtain ⟨rfl, rfl⟩ := Prod.mk.inj heq
    obtain rfl := eq_of_searchTerms? ht' h
    rw [hq, Option.some.inj (ht'.symm.trans h)]

/-- A provider that answers searches is asked by its prefix with any terms behind it. -/
theorem searchTerms?_append {p : Provider} {front : String} (h : p.searchPrefix = some front)
    (terms : List Char) : p.searchTerms? (front.toList ++ terms) = some terms :=
  searchTerms?_eq_some_iff.2 ⟨front, front.toList, h, rfl, rfl⟩

/-- Only a provider that answers searches can be asked by a prefix. -/
theorem isSearchable_of_searchTerms? {p : Provider} {s terms : List Char}
    (h : p.searchTerms? s = some terms) : p.isSearchable = true := by
  obtain ⟨front, -, hfront, -⟩ := searchTerms?_eq_some_iff.1 h
  rw [isSearchable_iff, hfront]
  rfl

theorem isWebAddress_of_searchTerms? {p : Provider} {s terms : List Char}
    (h : p.searchTerms? s = some terms) : isWebAddress s = false := by
  have hsign := sign?_of_searchTerms? h
  cases s with
  | nil => cases p <;> revert hsign <;> decide
  | cons c s =>
    obtain ⟨hlow, hhigh, hne⟩ := head_of_sign? hsign
    cases haddress : isWebAddress (c :: s) with
    | false => rfl
    | true => exact absurd (lowerAscii_of_isWebAddress hlow hhigh haddress) hne

theorem ofSearch?_of_isWebAddress {s : List Char} (h : isWebAddress s = true) :
    ofSearch? s = none := by
  cases hsearch : ofSearch? s with
  | none => rfl
  | some found =>
    have hnot := isWebAddress_of_searchTerms? (ofSearch?_eq_some_iff.1 hsearch)
    rw [h] at hnot
    cases hnot

end Provider

end Jukebox
