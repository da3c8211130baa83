import Jukebox.Proofs.Text.Lower
import Jukebox.Query

/-!
# Fingerprints of searches

A fingerprint is the name of a provider and a normal form. No name holds the colon between them, so the two can be
told apart again. The normal form of a search is its words in lower case, joined by spaces, and the words can be
read back from it. So two searches have the same fingerprint exactly if they look for the same words at the same
provider.

## Main definitions

- `Query.terms` — the words that are searched for, in lower case

## Main results

- `Query.fingerprint_eq_iff` — a fingerprint tells the provider and the normal form
- `Query.normal_of_isSearch` — the normal form of a search
- `Query.fingerprint_eq_iff_of_isSearch` — when two searches are the same
-/

namespace Jukebox

namespace Provider

theorem colon_notMem_name (p : Provider) : ':' ∉ p.name.toList := by
  cases p <;> decide

theorem name_injective {p q : Provider} (h : p.name = q.name) : p = q := by
  revert h
  cases p <;> cases q <;> decide

end Provider

namespace Query

variable {q r : Query}

/-- The words that are searched for, in lower case. -/
def terms (q : Query) : List (List Char) := (Text.words q.text.toList).map Text.lower

theorem toList_fingerprint (q : Query) : q.fingerprint.toList = q.provider.name.toList ++ ':' :: q.normal.toList := by
  rw [fingerprint, String.toList_append, String.toList_append, List.append_assoc]
  rfl

/-- What stands before the first colon of a fingerprint is the name of the provider. -/
theorem takeWhile_fingerprint (q : Query) : q.fingerprint.toList.takeWhile (· ≠ ':') = q.provider.name.toList := by
  rw [toList_fingerprint, List.takeWhile_append_of_pos, List.takeWhile_cons]
  · simp
  · intro c hc
    have hne : c ≠ ':' := fun h => q.provider.colon_notMem_name (h ▸ hc)
    simpa using hne

/-- A fingerprint tells the provider and the normal form. -/
theorem fingerprint_eq_iff : q.fingerprint = r.fingerprint ↔ q.provider = r.provider ∧ q.normal = r.normal := by
  constructor
  · intro h
    have hname : q.provider.name.toList = r.provider.name.toList := by
      rw [← takeWhile_fingerprint, ← takeWhile_fingerprint, h]
    have hlist := congrArg String.toList h
    rw [toList_fingerprint, toList_fingerprint, hname] at hlist
    refine ⟨Provider.name_injective (String.toList_inj.1 hname), String.toList_inj.1 ?_⟩
    exact (List.cons.inj (List.append_cancel_left hlist)).2
  · rintro ⟨hprovider, hnormal⟩
    rw [fingerprint, fingerprint, hprovider, hnormal]

/-- The normal form of a search is its words in lower case, joined by spaces. -/
theorem normal_of_isSearch (h : q.isSearch = true) : q.normal.toList = [' '].intercalate q.terms := by
  have haddress : q.isAddress = false := by simpa [isSearch] using h
  simp only [normal, haddress, Bool.false_eq_true, if_false, String.toList_ofList]
  rw [Text.collapse_trim, Text.lower_intercalate]
  rfl

theorem isWord_of_mem_terms : ∀ w ∈ q.terms, Text.IsWord w := by
  intro w hw
  obtain ⟨v, hv, rfl⟩ := List.mem_map.1 hw
  exact (Text.isWord_of_mem_words hv).lower

theorem words_normal (h : q.isSearch = true) : Text.words q.normal.toList = q.terms := by
  rw [normal_of_isSearch h, Text.words_intercalate isWord_of_mem_terms]

/-- Two searches have the same fingerprint exactly if they are at the same provider and look for the same words,
up to the case of letters. It makes no difference whether the words are taken first or the text is lower-cased
first. The normal form in the fingerprint is those words with single spaces between them, and with no other blanks
anywhere. -/
theorem fingerprint_eq_iff_of_isSearch (hq : q.isSearch = true) (hr : r.isSearch = true) :
    (q.fingerprint = r.fingerprint ↔ q.provider = r.provider ∧ q.terms = r.terms) ∧
    q.terms = Text.words (Text.lower q.text.toList) ∧
    q.normal.toList = [' '].intercalate q.terms ∧
    Text.words q.normal.toList = q.terms ∧ Text.IsTidy q.normal.toList := by
  refine ⟨?_, (Text.words_lower _).symm, normal_of_isSearch hq, words_normal hq, ?_⟩
  · rw [fingerprint_eq_iff]
    refine and_congr_right fun _ => ⟨fun h => ?_, fun h => ?_⟩
    · rw [← words_normal hq, h, words_normal hr]
    · apply String.toList_inj.1
      rw [normal_of_isSearch hq, normal_of_isSearch hr, h]
  · rw [normal_of_isSearch hq]
    exact Text.isTidy_intercalate isWord_of_mem_terms

/-- A capital sigma at the end of a word is the small final sigma, wherever the word stands. -/
theorem fingerprint_of_two_spellings :
    (new " ΟΔΥΣΣΕΥΣ\u2003 LoFi".toList .youtube).isSearch = true ∧
    (new "οδυσσευς\tlofi\n".toList .youtube).isSearch = true ∧
    (new " ΟΔΥΣΣΕΥΣ\u2003 LoFi".toList .youtube).fingerprint = (new "οδυσσευς\tlofi\n".toList .youtube).fingerprint :=
  ⟨by decide +kernel, by decide +kernel,
    (fingerprint_eq_iff_of_isSearch (by decide +kernel) (by decide +kernel)).1.2 ⟨rfl, by decide +kernel⟩⟩

end Query

end Jukebox
