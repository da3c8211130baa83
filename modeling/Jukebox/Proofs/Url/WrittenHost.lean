import Jukebox.Proofs.Text.Lower
import Jukebox.Proofs.Text.Utf8
import Jukebox.Proofs.Url.DomainName
import Jukebox.Url.Basic

/-!
# Hosts as they are written

The host of an address is read off one piece of its text. If that piece is in ASCII and without percent signs, the
host belongs to no other domains than what stands there.

## Main definitions

- `WebUrl.writtenHost` — the piece of an address that the host is read off
- `WebUrl.IsPlain` — the host can be seen in the text

## Main results

- `WebUrl.parse?_writtenHost` — the host is that of the piece
- `WebUrl.infix_writtenHost` — the piece is one of the text
- `WebUrl.IsPlain.infix_lower` — a domain that a host belongs to occurs in the text, if the host can be seen there
-/

namespace Jukebox

namespace Url

variable {s : List Char}

/-- Without percent signs there is nothing to decode. -/
theorem percentDecode_of_notMem (h : '%' ∉ s) : percentDecode s = s.flatMap String.utf8EncodeChar := by
  induction s with
  | nil => rfl
  | cons c s ih =>
    rw [List.mem_cons, not_or] at h
    have hdecode : percentDecode (c :: s) = String.utf8EncodeChar c ++ percentDecode s := by
      rw [percentDecode]
      rintro h' l rest rfl
      exact absurd rfl h.1
    rw [hdecode, ih h.2, List.flatMap_cons]

/-- The name can be seen: nothing of it is encoded, and it is in ASCII. -/
def IsPlainHost (s : List Char) : Prop := '%' ∉ s ∧ isAscii s = true

instance (s : List Char) : Decidable (IsPlainHost s) := inferInstanceAs (Decidable (_ ∧ _))

/-- A name that can be seen is read as it stands. -/
theorem Host.domainToAscii?_of_parse? (hs : IsPlainHost s) {n : String} (h : Host.parse? s = some (.domain n)) :
    domainToAscii? s = some n.toList := by
  have hdecode : Bytes.toString? (percentDecode s) = some (String.ofList s) := by
    rw [percentDecode_of_notMem hs.1, ← Bytes.ofString_ofList, Bytes.toString?_ofString]
  -- a number in brackets is no domain, so the text was read as a name
  have hname : parseName? s = some (.domain n) := by
    unfold Host.parse? at h
    split at h
    · next rest =>
      split at h
      · obtain ⟨pieces, -, hpieces⟩ := Option.map_eq_some_iff.1 h
        cases hpieces
      · cases h
    · exact h
  unfold parseName? at hname
  obtain ⟨decoded, hdecoded, hrest⟩ := Option.bind_eq_some_iff.1 hname
  obtain ⟨name, hascii, hhost⟩ := Option.bind_eq_some_iff.1 hrest
  rw [← Option.some.inj (hdecode.symm.trans hdecoded), String.toList_ofList (l := s)] at hascii
  split at hhost
  · cases hhost
  · split at hhost
    · obtain ⟨number, -, hnumber⟩ := Option.map_eq_some_iff.1 hhost
      cases hnumber
    · cases hhost
      rw [hascii, String.toList_ofList]

end Url

namespace WebUrl

open Url

variable {s rest : List Char} {url : WebUrl}

/-- What stands for the host behind a scheme: between the user part and the port. -/
def hostPart (rest : List Char) : List Char :=
  (splitPort false (splitUser ((rest.dropWhile isSlash).takeWhile (!endsAuthority ·))).2).1

/-- The piece of an address that the host is read off. -/
def writtenHost (s : List Char) : List Char :=
  match takeScheme? (significant s) with
  | some (_, rest) => hostPart rest
  | none => []

/-- The host is that of the piece. -/
theorem parse?_writtenHost (h : parse? s = some url) : Host.parse? (writtenHost s) = some url.host := by
  rw [parse?] at h
  obtain ⟨⟨scheme, rest⟩, hscheme, h⟩ := Option.bind_eq_some_iff.1 h
  obtain ⟨host, hhost, h⟩ := Option.bind_eq_some_iff.1 h
  obtain ⟨port, -, h⟩ := Option.bind_eq_some_iff.1 h
  rw [writtenHost, hscheme, ← Option.some.inj h]
  exact hhost

theorem prefix_splitPort (inBrackets : Bool) (s : List Char) : (splitPort inBrackets s).1 <+: s := by
  induction s generalizing inBrackets with
  | nil => exact List.prefix_rfl
  | cons c s ih =>
    rw [splitPort]
    split
    · exact List.nil_prefix
    · exact (List.cons_prefix_cons.2 ⟨rfl, ih _⟩)

theorem suffix_splitUser (s : List Char) : (splitUser s).2 <:+ s := by
  rw [splitUser, ← List.reverse_prefix, List.reverse_reverse]
  exact List.takeWhile_prefix _

theorem infix_hostPart (rest : List Char) : hostPart rest <:+: rest := by
  have hauthority : (rest.dropWhile isSlash).takeWhile (!endsAuthority ·) <:+: rest :=
    (List.takeWhile_prefix _).isInfix.trans (List.dropWhile_suffix _).isInfix
  exact ((prefix_splitPort false _).isInfix.trans (suffix_splitUser _).isInfix).trans hauthority

/-- If no character is passed over within the text, the characters that count are a piece of it. -/
theorem infix_significant (h : s.any isInnerBlank = false) : significant s <:+: s := by
  have hends : ((s.dropWhile isOuterBlank).reverse.dropWhile isOuterBlank).reverse <:+: s := by
    refine List.IsInfix.trans ?_ (List.dropWhile_suffix isOuterBlank).isInfix
    rw [← List.reverse_infix, List.reverse_reverse]
    exact (List.dropWhile_suffix isOuterBlank).isInfix
  have hall : significant s = ((s.dropWhile isOuterBlank).reverse.dropWhile isOuterBlank).reverse := by
    apply List.filter_eq_self.2
    intro c hc
    simpa using List.any_eq_false.1 h c (hends.subset hc)
  rw [hall]
  exact hends

/-- The piece that the host is read off is one of the text. -/
theorem infix_writtenHost (h : s.any isInnerBlank = false) : writtenHost s <:+: s := by
  rw [writtenHost]
  cases hscheme : takeScheme? (significant s) with
  | none => exact List.nil_infix
  | some found =>
    obtain ⟨scheme, rest⟩ := found
    have hrest : rest <:+: significant s := by
      unfold takeScheme? at hscheme
      obtain ⟨⟨front, rest'⟩, hsplit, hscheme⟩ := Option.bind_eq_some_iff.1 hscheme
      obtain ⟨colon, -, hs, -⟩ := Text.splitAt?_eq_some hsplit
      have heq : rest' = rest := by
        simp only at hscheme
        split at hscheme <;> cases hscheme <;> rfl
      rw [hs, ← heq]
      exact ⟨front ++ [colon], [], by simp⟩
    exact ((infix_hostPart rest).trans hrest).trans (infix_significant h)

/-- The host can be seen in the text: it stands there in one piece, nothing of it is encoded, and it is in
ASCII. -/
def IsPlain (s : List Char) : Prop := writtenHost s <:+: s ∧ IsPlainHost (writtenHost s)

instance (s : List Char) : Decidable (IsPlain s) :=
  decidable_of_iff (Text.contains (writtenHost s) s = true ∧ IsPlainHost (writtenHost s))
    (and_congr_left fun _ => Text.contains_eq_true_iff)

/-- Only a tab or a line end can break up the host. -/
theorem isPlain_iff (h : s.any isInnerBlank = false) : IsPlain s ↔ IsPlainHost (writtenHost s) :=
  and_iff_right (infix_writtenHost h)

/-- A domain that the host belongs to occurs in the lower-case text, if the host can be seen there. -/
theorem IsPlain.infix_lower (hs : IsPlain s) (h : parse? s = some url) {name : String}
    (hname : url.host = .domain name) {domain : List Char} (hdomain : labels domain <:+ labels name.toList)
    (hplain : ∀ label ∈ labels domain, ¬ punycodeFront <+: label) : domain <:+: Text.lower s := by
  have hhost := parse?_writtenHost h
  rw [hname] at hhost
  have hsuffix := suffix_of_domainToAscii? hs.2.2 (Host.domainToAscii?_of_parse? hs.2 hhost) hdomain hplain
  have hascii : ∀ c ∈ writtenHost s, c.toNat < 0x80 := fun c hc =>
    of_decide_eq_true (List.all_eq_true.1 hs.2.2 c hc)
  exact hsuffix.isInfix.trans (Text.infix_lower_of_ascii hascii hs.1)

end WebUrl

end Jukebox
