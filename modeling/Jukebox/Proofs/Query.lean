import Jukebox.Proofs.SearchPrefix
import Jukebox.Proofs.Text.Lower

/-!
# Searches for plain words

A word of small letters is its own normal form, so that searches for different words have different fingerprints.

## Main definitions

- `Text.IsPlain` — all characters are small letters
- `Query.ofLength` — a search for a word of so many letters

## Main results

- `Query.fingerprint_new` — the fingerprint of a search for a plain word
- `Query.fingerprint_ofLength_injective` — there is no end of fingerprints
-/

namespace Jukebox

namespace Text

/-- All characters are small letters. -/
def IsPlain (s : List Char) : Prop := ∀ c ∈ s, 'a' ≤ c ∧ c ≤ 'z'

variable {s : List Char}

theorem IsPlain.toNat {c : Char} (h : 'a' ≤ c ∧ c ≤ 'z') : 0x61 ≤ c.toNat ∧ c.toNat ≤ 0x7A :=
  ⟨Char.le_def.1 h.1, Char.le_def.1 h.2⟩

theorem IsPlain.isBlank (h : IsPlain s) {c : Char} (hc : c ∈ s) : isBlank c = false := by
  obtain ⟨hlow, hhigh⟩ := IsPlain.toNat (h c hc)
  exact isBlank_of_printable (Nat.lt_of_lt_of_le (by decide) hlow) (Nat.lt_of_le_of_lt hhigh (by decide))

theorem IsPlain.trim (h : IsPlain s) : trim s = s := by
  rw [Text.trim, trimStart_eq_self fun c hc => h.isBlank (List.mem_of_head? hc), trimEnd_of_free fun _ => h.isBlank]

theorem IsPlain.collapse (h : IsPlain s) : collapse s = s := collapse_of_free fun _ => h.isBlank

theorem IsPlain.lowerAscii {c : Char} (h : 'a' ≤ c ∧ c ≤ 'z') : lowerAscii c = c := if_neg fun hcapital => by
  have hle : c.toNat ≤ 0x5A := Char.le_def.1 hcapital.2
  have hlow := (IsPlain.toNat h).1
  omega

theorem IsPlain.lower (h : IsPlain s) : lower s = s := by
  have hascii : ∀ c ∈ s, c.toNat < 0x80 := fun c hc =>
    Nat.lt_of_le_of_lt (IsPlain.toNat (h c hc)).2 (by decide)
  rw [lower_of_ascii hascii, List.map_congr_left fun c hc => IsPlain.lowerAscii (h c hc), List.map_id']

end Text

namespace Query

/-- A search for a plain word that does not begin like a web address. -/
theorem fingerprint_new {c : Char} {s : List Char} (h : Text.IsPlain (c :: s)) (hc : c ≠ 'h') (p : Provider) :
    (new (c :: s) p).fingerprint = p.name ++ ":" ++ String.ofList (c :: s) := by
  have hsmall : Text.lowerAscii c = c := Text.IsPlain.lowerAscii (h c List.mem_cons_self)
  have hsearch : isWebAddress (c :: s) = false := by
    rw [Bool.eq_false_iff]
    intro haddress
    obtain ⟨hlow, hhigh⟩ := h c List.mem_cons_self
    have hh := lowerAscii_of_isWebAddress (hsmall.symm ▸ hlow) (hsmall.symm ▸ hhigh) haddress
    exact hc (hsmall.symm.trans hh)
  have hnormal : (new (c :: s) p).normal = String.ofList (c :: s) := by
    simp only [normal, new, hsearch, String.toList_ofList, Bool.false_eq_true, if_false, h.trim, h.collapse, h.lower]
  rw [fingerprint, hnormal]
  rfl

/-- A search for a word of one letter more. -/
def ofLength (n : Nat) : Query := new (List.replicate (n + 1) 'a') .youtube

theorem fingerprint_ofLength (n : Nat) :
    (ofLength n).fingerprint = "youtube:" ++ String.ofList (List.replicate (n + 1) 'a') := by
  have hplain : Text.IsPlain (List.replicate (n + 1) 'a') := fun c hc => by
    rw [List.eq_of_mem_replicate hc]
    decide
  exact fingerprint_new hplain (by decide) .youtube

/-- There is no end of fingerprints. -/
theorem fingerprint_ofLength_injective {m n : Nat} (h : (ofLength m).fingerprint = (ofLength n).fingerprint) :
    m = n := by
  rw [fingerprint_ofLength, fingerprint_ofLength] at h
  have hlength := congrArg String.length h
  simpa using hlength

end Query

end Jukebox
