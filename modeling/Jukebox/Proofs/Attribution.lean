import Jukebox.Loader.Extractor
import Jukebox.Loader.Route
import Jukebox.Proofs.Engine.Resolve
import Jukebox.Proofs.SearchPrefix

/-!
# Attribution of requests

The engine checks the provider of a query, and the loaders tell from the text of the request alone to
whom it belongs. The two agree on every search, and on every address that is at the provider whose domain
it mentions. They disagree on one kind of input: an address behind the search prefix of another provider.
It is sent without the prefix, so that nothing of the checked provider is left in the request.

## Main definitions

- `Query.IsAttributed` — the loaders take the request for one of the provider of the query
- `Query.HidesAddress` — behind a search prefix stands an address of another provider

## Main results

- `Query.isAttributed_ofInput_iff` — which inputs are attributed to the provider that is checked
-/

namespace Jukebox

namespace Query

variable {x : Extractor} {q : Query}

/-- The loaders take the request for one of the provider of the query: the extractor takes its tracks for
those of the provider, and the request goes to the probe exactly if the provider is that of bare
addresses. -/
def IsAttributed (x : Extractor) (q : Query) : Prop :=
  (x.target q.request).2 = q.provider ∧
    (Route.ofRequest q.request.toList = .probe ↔ q.provider = .http)

/-- Behind the search prefix of a provider stands an address of another one. -/
def HidesAddress (input : List Char) : Prop :=
  ∃ p terms, Provider.ofSearch? (unwrap input) = some (p, terms) ∧
    isWebAddress (Text.trim terms) = true ∧ Provider.ofText (Text.trim terms) ≠ p

-- ════════════════════════════════════════════════════════════════════════
-- Searches and addresses
-- ════════════════════════════════════════════════════════════════════════

/-- A request goes to the probe exactly if it is an address of no provider. -/
theorem ofRequest_eq_probe_iff {request : List Char} :
    Route.ofRequest request = .probe ↔
      isWebAddress request = true ∧ Provider.ofText request = .http := by
  unfold Route.ofRequest
  split
  · next h => simpa using h
  · next h => simpa using h

/-- A search is sent behind the prefix of its provider, which both loaders recognise. -/
theorem isAttributed_of_search (hsearch : q.isAddress = false)
    (hsearchable : q.provider.isSearchable = true) : q.IsAttributed x := by
  obtain ⟨front, hfront⟩ := Option.isSome_iff_exists.1 (Provider.isSearchable_iff.1 hsearchable)
  have hrequest : q.request.toList = front.toList ++ q.text.toList := by
    unfold request isSearch
    rw [hfront, hsearch, hsearchable]
    exact String.toList_append
  have hterms := Provider.searchTerms?_append hfront q.text.toList
  constructor
  · unfold Extractor.target
    rw [hrequest, Provider.ofSearch?_eq_some_iff.2 hterms]
  · rw [ofRequest_eq_probe_iff, hrequest, Provider.isWebAddress_of_searchTerms? hterms]
    refine iff_of_false (fun h => nomatch h.1) fun hhttp => ?_
    rw [hhttp] at hsearchable
    cases hsearchable

/-- An address is sent as it stands, and the loaders take it for one of the provider whose domain it
mentions. -/
theorem isAttributed_iff_of_address (haddress : q.isAddress = true)
    (hvalid : isWebAddress q.text.toList = true) :
    q.IsAttributed x ↔ Provider.ofText q.text.toList = q.provider := by
  unfold IsAttributed Extractor.target
  rw [ofRequest_eq_probe_iff, request_of_isAddress haddress, hvalid,
    Provider.ofSearch?_of_isWebAddress hvalid]
  refine ⟨And.left, fun h => ⟨h, ?_⟩⟩
  rw [h]
  exact and_iff_right rfl

theorem isAddress_new (text : List Char) (p : Provider) :
    (new text p).isAddress = isWebAddress text := rfl

/-- A query for a text is attributed unless the text is an address of another provider, if terms go to
providers that answer searches. -/
theorem isAttributed_new_iff {text : List Char} {p : Provider}
    (hsearchable : isWebAddress text = false → p.isSearchable = true) :
    (new text p).IsAttributed x ↔ (isWebAddress text = true → Provider.ofText text = p) := by
  have htext : (new text p).text.toList = text := String.toList_ofList
  cases haddress : isWebAddress text with
  | false =>
    refine iff_of_true ?_ fun h => nomatch h
    exact isAttributed_of_search ((isAddress_new text p).trans haddress) (hsearchable haddress)
  | true =>
    have hvalid : isWebAddress (new text p).text.toList = true := by rw [htext, haddress]
    rw [isAttributed_iff_of_address ((isAddress_new text p).trans haddress) hvalid, htext]
    exact ⟨fun h _ => h, fun h => h rfl⟩

-- ════════════════════════════════════════════════════════════════════════
-- Inputs
-- ════════════════════════════════════════════════════════════════════════

/-- An input is an address, or terms behind a search prefix, or neither. -/
theorem ofInput_cases (input : List Char) (preferred : Provider) :
    (isWebAddress (unwrap input) = true ∧
      ofInput input preferred = new (unwrap input) (Provider.ofText (unwrap input))) ∨
    (∃ p terms, Provider.ofSearch? (unwrap input) = some (p, terms) ∧
      ofInput input preferred = new (Text.trim terms) p) ∨
    (isWebAddress (unwrap input) = false ∧ Provider.ofSearch? (unwrap input) = none ∧
      ofInput input preferred = new (unwrap input) preferred) := by
  unfold ofInput
  cases haddress : isWebAddress (unwrap input) with
  | true =>
    refine .inl ⟨rfl, ?_⟩
    simp only [haddress, if_true]
  | false =>
    cases hsearch : Provider.ofSearch? (unwrap input) with
    | none =>
      refine .inr (.inr ⟨rfl, rfl, ?_⟩)
      simp only [haddress, hsearch, if_false, Bool.false_eq_true]
    | some found =>
      obtain ⟨p, terms⟩ := found
      refine .inr (.inl ⟨p, terms, rfl, ?_⟩)
      simp only [haddress, hsearch, if_false, Bool.false_eq_true]

/-- An input is attributed to the provider of its query unless it hides an address. -/
theorem isAttributed_ofInput_iff_not_hidesAddress (x : Extractor) (input : List Char)
    {preferred : Provider} (hpreferred : preferred.isSearchable = true) :
    (ofInput input preferred).IsAttributed x ↔ ¬ HidesAddress input := by
  rcases ofInput_cases input preferred with
    ⟨haddress, hq⟩ | ⟨p, terms, hsearch, hq⟩ | ⟨haddress, hsearch, hq⟩
  · rw [hq, isAttributed_new_iff (fun h => nomatch haddress.symm.trans h)]
    refine iff_of_true (fun _ => rfl) ?_
    rintro ⟨p, terms, hsearch, -⟩
    rw [Provider.ofSearch?_of_isWebAddress haddress] at hsearch
    cases hsearch
  · have hsearchable := Provider.isSearchable_of_searchTerms? (Provider.ofSearch?_eq_some_iff.1 hsearch)
    rw [hq, isAttributed_new_iff fun _ => hsearchable]
    constructor
    · rintro h ⟨p', terms', hsearch', haddress, hne⟩
      obtain ⟨rfl, rfl⟩ := Prod.mk.inj (Option.some.inj (hsearch.symm.trans hsearch'))
      exact hne (h haddress)
    · intro h haddress
      exact Decidable.byContradiction fun hne => h ⟨p, terms, hsearch, haddress, hne⟩
  · rw [hq, isAttributed_new_iff fun _ => hpreferred]
    refine iff_of_true (fun h => nomatch haddress.symm.trans h) ?_
    rintro ⟨p, terms, hsearch', -⟩
    rw [hsearch] at hsearch'
    cases hsearch'

theorem isAddress_ofInput_of_hidesAddress {input : List Char} (preferred : Provider)
    (h : HidesAddress input) : (ofInput input preferred).isAddress = true := by
  obtain ⟨p, terms, hsearch, haddress, -⟩ := h
  rcases ofInput_cases input preferred with ⟨hvalid, -⟩ | ⟨p', terms', hsearch', hq⟩ | ⟨-, hnone, -⟩
  · rw [Provider.ofSearch?_of_isWebAddress hvalid] at hsearch
    cases hsearch
  · obtain ⟨rfl, rfl⟩ := Prod.mk.inj (Option.some.inj (hsearch'.symm.trans hsearch))
    rw [hq, isAddress_new, haddress]
  · rw [hnone] at hsearch
    cases hsearch

/-- A search at the partner of its provider is attributed to the partner. -/
theorem isAttributed_withProvider {p : Provider} (hsearch : q.isAddress = false)
    (hp : q.provider.partner = some p) : (q.withProvider p).IsAttributed x := by
  refine isAttributed_of_search hsearch ?_
  change p.isSearchable = true
  revert hp
  cases q.provider <;> cases p <;> decide

/-- The loaders take what is sent for an input for a request of the provider that was checked, unless the
input hides an address behind the search prefix of another provider. This holds of the query in the
input, of a search at the partner of its provider, and of whatever a request of the engine sends. -/
theorem isAttributed_ofInput_iff (x : Extractor) (input : List Char) {preferred : Provider}
    (hpreferred : preferred.isSearchable = true) :
    ((ofInput input preferred).IsAttributed x ↔ ¬ HidesAddress input) ∧
    ((ofInput input preferred).isSearch = true → ∀ p,
      (ofInput input preferred).provider.partner = some p →
        ((ofInput input preferred).withProvider p).IsAttributed x) ∧
    (∀ answer useCache (e : Engine) t,
      (e.resolve answer useCache (ofInput input preferred)).1.sent = some t →
        t = (e.resolve answer useCache (ofInput input preferred)).1.query.request ∧
        ((e.resolve answer useCache (ofInput input preferred)).1.query.IsAttributed x ↔
          ¬ HidesAddress input)) := by
  have hattributed := isAttributed_ofInput_iff_not_hidesAddress x input hpreferred
  refine ⟨hattributed, ?_, ?_⟩
  · intro hsearch p hp
    exact isAttributed_withProvider (by simpa [isSearch] using hsearch) hp
  · intro answer useCache e t hsent
    refine ⟨(Engine.sent_eq_some hsent).2, ?_⟩
    rcases Engine.resolve_query answer useCache (ofInput input preferred) e with
      hq | ⟨hsearch, p, hp, -, hq⟩
    · rw [← hq]
      exact hattributed
    · rw [← hq]
      refine iff_of_true (isAttributed_withProvider hsearch hp) fun hhides => ?_
      rw [isAddress_ofInput_of_hidesAddress preferred hhides] at hsearch
      cases hsearch

/-- An address of YouTube behind the search prefix of SoundCloud is checked at SoundCloud and loaded from
YouTube. -/
theorem not_isAttributed_hidden :
    Provider.youtube.isSearchable = true ∧ HidesAddress "scsearch:https://youtu.be/a".toList ∧
      ¬ (ofInput "scsearch:https://youtu.be/a".toList .youtube).IsAttributed {} := by
  have hhides : HidesAddress "scsearch:https://youtu.be/a".toList :=
    ⟨.soundcloud, "https://youtu.be/a".toList, by decide +kernel, by decide +kernel, by decide +kernel⟩
  exact ⟨by decide, hhides,
    fun h => (isAttributed_ofInput_iff {} _ (by decide)).1.1 h hhides⟩

end Query

end Jukebox
