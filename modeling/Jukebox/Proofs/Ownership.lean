import Jukebox.Proofs.Fingerprint
import Jukebox.Proofs.Text.Trim
import Jukebox.Proofs.Url.WrittenHost
import Mathlib.Data.List.TakeWhile

/-!
# Owners of addresses

The host of an address belongs to a provider if it is one of its domains or lies below one. An address is not
attributed by its host, though, but to the first provider of which its text mentions a domain. Wherever the host
can be seen in the text, its owner is mentioned, so that only an earlier provider can come before it.

## Main definitions

- `Provider.ofHost` — the owner of a host
- `Provider.before` — the providers that are asked earlier
- `Provider.IsMentioned` — a domain of the provider occurs in the text

## Main results

- `Provider.ofText_eq_iff` — which provider a text is attributed to
- `Provider.isMentioned_ofHost` — the owner of a host that can be seen is mentioned
- `Query.provider_ofInput_of_address` — the provider and the fingerprint of an address
-/

namespace Jukebox

namespace Url.Host

/-- A number does not end in a small letter. -/
theorem getLast?_ipv4Text {n : Nat} {c : Char} (h : (ipv4Text n).toList.getLast? = some c) : c < 'a' := by
  -- the last part of the number ends the text, and it is there even if it is zero
  have htext : ∃ front, (ipv4Text n).toList = front ++ Nat.toDigits 10 (n / Nat.pow 256 0 % 256) := by
    simp only [ipv4Text, String.toList_intercalate, List.map_cons, List.map_nil, Nat.toString_eq_ofList_toDigits,
      String.toList_ofList, List.intercalate_cons_cons, List.intercalate_singleton]
    rw [← List.append_assoc, ← List.append_assoc]
    exact ⟨_, rfl⟩
  obtain ⟨front, hfront⟩ := htext
  rw [hfront, List.getLast?_append_of_ne_nil _ Nat.toDigits_ne_nil] at h
  have hdigit := Nat.isDigit_of_mem_toDigits (by decide) (by decide) (List.mem_of_getLast? h)
  have hle : c.toNat ≤ 0x39 := (Char.isDigit_iff_toNat.1 hdigit).2
  exact Char.lt_def.2 (Nat.lt_of_le_of_lt hle (by decide))

theorem getLast?_ipv6Text {pieces : List Nat} {c : Char} (h : (text (.ipv6 pieces)).toList.getLast? = some c) :
    c < 'a' := by
  have hlast : (text (.ipv6 pieces)).toList.getLast? = some ']' := by
    rw [text, String.toList_append, String.toList_append]
    exact List.getLast?_concat
  rw [Option.some.inj (h.symm.trans hlast)]
  decide

end Url.Host

namespace Provider

variable {p : Provider} {s : List Char} {host : String}

/-- The host is a domain of the provider, or lies below one. -/
def ownsHost (p : Provider) (host : String) : Bool :=
  p.domains.any fun domain => host == domain || Text.endsWith ("." ++ domain).toList host.toList

/-- The owner of a host. A host of nobody is at a bare address. -/
def ofHost (host : String) : Provider := (all.find? (·.ownsHost host)).getD http

/-- The providers that are asked before this one. -/
def before (p : Provider) : List Provider := all.takeWhile (· ≠ p)

/-- A domain of the provider occurs in the text, in letters of any case. -/
def IsMentioned (p : Provider) (s : List Char) : Prop := ∃ domain ∈ p.domains, domain.toList <:+: Text.lower s

-- ════════════════════════════════════════════════════════════════════════
-- The first provider that is mentioned
-- ════════════════════════════════════════════════════════════════════════

/-- What is found first has been asked for, unless it is where nothing is found. -/
theorem of_getD_find? {f : Provider → Bool} (h : (all.find? f).getD http = p) (hp : p ≠ http) : f p = true := by
  cases hfind : all.find? f with
  | none =>
    rw [hfind] at h
    exact absurd h.symm hp
  | some found =>
    rw [hfind] at h
    exact h ▸ List.find?_some hfind

theorem owns_iff_isMentioned : p.owns s = true ↔ p.IsMentioned s := by
  simp only [owns, ownsLower, IsMentioned, List.any_eq_true, Text.contains_eq_true_iff]

theorem ne_of_mem_before {p' : Provider} (h : p' ∈ p.before) : p' ≠ p := by
  simpa using List.mem_takeWhile_imp h

/-- The providers are those before, this one, and the others. -/
theorem exists_all_eq (p : Provider) : ∃ after, all = p.before ++ p :: after := by
  cases p <;> exact ⟨_, rfl⟩

/-- Bare addresses are asked last. -/
theorem all_eq : all = http.before ++ [http] := rfl

/-- A text that mentions a provider is attributed to it unless an earlier one is mentioned. -/
theorem ofText_eq_getD (h : p ≠ http → p.IsMentioned s) : ofText s = (p.before.find? (·.owns s)).getD p := by
  change (all.find? (·.owns s)).getD http = _
  by_cases hp : p = http
  · rw [hp, all_eq, List.find?_append]
    cases http.before.find? (·.owns s) <;> rfl
  · obtain ⟨after, hafter⟩ := exists_all_eq p
    have hfind : (p :: after).find? (·.owns s) = some p :=
      List.find?_cons_of_pos (owns_iff_isMentioned.2 (h hp))
    rw [hafter, List.find?_append, hfind]
    cases p.before.find? (·.owns s) <;> rfl

/-- A text is attributed to a provider exactly if it mentions it, and no earlier one. -/
theorem ofText_eq_iff : ofText s = p ↔ (p ≠ http → p.IsMentioned s) ∧ ∀ p' ∈ p.before, ¬ p'.IsMentioned s := by
  constructor
  · intro h
    have hmentioned : p ≠ http → p.IsMentioned s := fun hp => owns_iff_isMentioned.1 (of_getD_find? h hp)
    refine ⟨hmentioned, fun p' hp' hmention => ?_⟩
    rw [ofText_eq_getD hmentioned] at h
    cases hfind : p.before.find? (·.owns s) with
    | none => exact List.find?_eq_none.1 hfind p' hp' (owns_iff_isMentioned.2 hmention)
    | some found =>
      rw [hfind] at h
      exact ne_of_mem_before (List.mem_of_find?_eq_some hfind) h
  · rintro ⟨hmentioned, hbefore⟩
    have hnone : p.before.find? (·.owns s) = none :=
      List.find?_eq_none.2 fun p' hp' howns => hbefore p' hp' (owns_iff_isMentioned.1 howns)
    rw [ofText_eq_getD hmentioned, hnone]
    rfl

-- ════════════════════════════════════════════════════════════════════════
-- Owners of hosts
-- ════════════════════════════════════════════════════════════════════════

/-- Label by label, a host belongs to a domain of its owner. -/
theorem labels_of_ownsHost (h : p.ownsHost host = true) :
    ∃ domain ∈ p.domains, Url.labels domain.toList <:+ Url.labels host.toList := by
  obtain ⟨domain, hmem, hdomain⟩ := List.any_eq_true.1 h
  refine ⟨domain, hmem, ?_⟩
  obtain heq | hends := Bool.or_eq_true _ _ ▸ hdomain
  · exact beq_iff_eq.1 heq ▸ List.suffix_rfl
  · rw [Text.endsWith, List.isPrefixOf_iff_prefix, List.reverse_prefix, String.toList_append] at hends
    obtain ⟨front, hfront⟩ := hends
    rw [← hfront]
    exact ⟨_, (Url.labels_append front domain.toList).symm⟩

theorem not_punycode_of_mem_domains {domain : String} (h : domain ∈ p.domains) :
    ∀ label ∈ Url.labels domain.toList, ¬ Url.punycodeFront <+: label := by
  have hall : (p.domains.all fun d => (Url.labels d.toList).all fun label => !Url.punycodeFront.isPrefixOf label) =
      true := by
    cases p <;> decide
  intro label hlabel hprefix
  have hnot := List.all_eq_true.1 (List.all_eq_true.1 hall domain h) label hlabel
  rw [List.isPrefixOf_iff_prefix.2 hprefix] at hnot
  cases hnot

/-- Domains end in a small letter. -/
theorem getLast?_of_mem_domains {domain : String} (h : domain ∈ p.domains) :
    ∃ c, domain.toList.getLast? = some c ∧ 'a' ≤ c := by
  have hall : (p.domains.all fun d => d.toList.getLast?.any ('a' ≤ ·)) = true := by cases p <;> decide
  have hlast := List.all_eq_true.1 hall domain h
  obtain ⟨c, hc, hletter⟩ := (Option.any_eq_true _ _).1 hlast
  exact ⟨c, hc, of_decide_eq_true hletter⟩

/-- Numbers belong to nobody. -/
theorem eq_domain_of_ownsHost {host : Url.Host} (h : p.ownsHost host.text = true) : ∃ name, host = .domain name := by
  obtain ⟨domain, hmem, hlabels⟩ := labels_of_ownsHost h
  obtain ⟨c, hlast, hletter⟩ := getLast?_of_mem_domains hmem
  obtain ⟨front, hfront⟩ := Url.suffix_of_labels hlabels
  have hend : host.text.toList.getLast? = some c := by rw [← hfront, List.getLast?_append, hlast]; rfl
  cases host with
  | domain name => exact ⟨name, rfl⟩
  | ipv4 n => exact absurd (Url.Host.getLast?_ipv4Text hend) (Char.not_lt.2 hletter)
  | ipv6 pieces => exact absurd (Url.Host.getLast?_ipv6Text hend) (Char.not_lt.2 hletter)

/-- The owner of a host that can be seen in an address is mentioned in it. -/
theorem isMentioned_ofHost {url : WebUrl} (hs : WebUrl.IsPlain s) (h : WebUrl.parse? s = some url)
    (howner : ofHost url.host.text ≠ http) : (ofHost url.host.text).IsMentioned s := by
  have howns : (ofHost url.host.text).ownsHost url.host.text = true := of_getD_find? rfl howner
  obtain ⟨name, hname⟩ := eq_domain_of_ownsHost howns
  obtain ⟨domain, hmem, hlabels⟩ := labels_of_ownsHost howns
  rw [hname] at hlabels
  exact ⟨domain, hmem, hs.infix_lower h hname hlabels (not_punycode_of_mem_domains hmem)⟩

end Provider

namespace Query

variable {input : List Char} {url : WebUrl}

theorem trim_unwrap (input : List Char) : Text.trim (unwrap input) = unwrap input := Text.trim_trim _

theorem isWebAddress_unwrap (h : WebUrl.parse? (unwrap input) = some url) : isWebAddress (unwrap input) = true := by
  rw [isWebAddress, trim_unwrap, WebUrl.isValid, h]
  rfl

/-- An input that can be read as an address is attributed by its text. -/
theorem ofInput_of_address (preferred : Provider) (h : WebUrl.parse? (unwrap input) = some url) :
    ofInput input preferred = new (unwrap input) (Provider.ofText (unwrap input)) := by
  rw [ofInput]
  exact if_pos (isWebAddress_unwrap h)

theorem provider_new (s : List Char) (p : Provider) : (new s p).provider = p := rfl

theorem normal_ofInput_of_address (preferred : Provider) (h : WebUrl.parse? (unwrap input) = some url) :
    (ofInput input preferred).normal = url.text := by
  rw [ofInput_of_address preferred h]
  simp only [normal, new, isWebAddress_unwrap h, if_true, String.toList_ofList, trim_unwrap, h]

/-- An address is attributed to the first provider of which its text mentions a domain, wherever in the text that
is. So it comes to the owner of its host exactly if the text mentions the owner and no earlier provider. If the host
can be seen in the text, the owner is mentioned, and the address comes to it or to the first of the earlier
providers that are mentioned besides. Inputs with the same address have the same normal form, and so the same
fingerprint exactly if they come to the same provider. A host can be seen if it is in ASCII and without percent
signs, unless tabs or line ends are in the way. -/
theorem provider_ofInput_of_address (preferred : Provider) (h : WebUrl.parse? (unwrap input) = some url) :
    (∀ p, (ofInput input preferred).provider = p ↔
      (p ≠ .http → p.IsMentioned (unwrap input)) ∧ ∀ p' ∈ p.before, ¬ p'.IsMentioned (unwrap input)) ∧
    (WebUrl.IsPlain (unwrap input) → (ofInput input preferred).provider =
      ((Provider.ofHost url.host.text).before.find? (·.owns (unwrap input))).getD (Provider.ofHost url.host.text)) ∧
    (ofInput input preferred).normal = url.text ∧
    (∀ input' preferred', WebUrl.parse? (unwrap input') = some url →
      ((ofInput input preferred).fingerprint = (ofInput input' preferred').fingerprint ↔
        (ofInput input preferred).provider = (ofInput input' preferred').provider)) ∧
    ((unwrap input).any WebUrl.isInnerBlank = false →
      (WebUrl.IsPlain (unwrap input) ↔ Url.IsPlainHost (WebUrl.writtenHost (unwrap input)))) := by
  have hprovider : (ofInput input preferred).provider = Provider.ofText (unwrap input) := by
    rw [ofInput_of_address preferred h, provider_new]
  refine ⟨fun p => ?_, fun hplain => ?_, normal_ofInput_of_address preferred h, fun input' preferred' h' => ?_,
    WebUrl.isPlain_iff⟩
  · rw [hprovider]
    exact Provider.ofText_eq_iff
  · rw [hprovider]
    exact Provider.ofText_eq_getD (Provider.isMentioned_ofHost hplain h)
  · rw [fingerprint_eq_iff, normal_ofInput_of_address preferred h, normal_ofInput_of_address preferred' h']
    exact and_iff_left rfl

/-- An address at SoundCloud that mentions YouTube behind its path comes to YouTube, however its port is written. -/
theorem soundcloud_mentioning_youtube :
    ∃ url, WebUrl.parse? (unwrap " <https://SoundCloud.com:443/a?next=youtube.com>".toList) = some url ∧
      WebUrl.IsPlain (unwrap " <https://SoundCloud.com:443/a?next=youtube.com>".toList) ∧
      Provider.ofHost url.host.text = .soundcloud ∧
      (ofInput " <https://SoundCloud.com:443/a?next=youtube.com>".toList .bandcamp).provider = .youtube ∧
      (ofInput " <https://SoundCloud.com:443/a?next=youtube.com>".toList .bandcamp).fingerprint =
        (ofInput "https://soundcloud.com/a?next=youtube.com".toList .vimeo).fingerprint := by
  have hparse : WebUrl.parse? (unwrap " <https://SoundCloud.com:443/a?next=youtube.com>".toList) =
      some ⟨.https, "", "", .domain "soundcloud.com", none, ["a"], some "next=youtube.com", none⟩ := by
    decide +kernel
  have hplain : WebUrl.IsPlain (unwrap " <https://SoundCloud.com:443/a?next=youtube.com>".toList) := by
    decide +kernel
  obtain ⟨-, howner, -, hsame, -⟩ := provider_ofInput_of_address .bandcamp hparse
  have hprovider := (howner hplain).trans (show _ = Provider.youtube by decide +kernel)
  refine ⟨_, hparse, hplain, by decide +kernel, hprovider, ?_⟩
  exact (hsame _ .vimeo (by decide +kernel)).2 (hprovider.trans (by decide +kernel))

/-- A provider cannot be told by the host, nor by the address that an input is read as: a domain in the query of an
address counts, and an encoded host does not. -/
theorem not_attributed_by_host :
    ¬ (∀ input preferred url, WebUrl.parse? (unwrap input) = some url →
      (ofInput input preferred).provider = Provider.ofHost url.host.text) ∧
    ¬ (∀ input input' preferred url, WebUrl.parse? (unwrap input) = some url →
      WebUrl.parse? (unwrap input') = some url →
      (ofInput input preferred).fingerprint = (ofInput input' preferred).fingerprint) := by
  constructor
  · intro h
    have hhost := h "https://example.com/?u=youtube.com".toList .youtube
      ⟨.https, "", "", .domain "example.com", none, [""], some "u=youtube.com", none⟩ (by decide +kernel)
    revert hhost
    decide +kernel
  · intro h
    have hfingerprint := h "https://youtube.com/a".toList "https://youtu%62e.com/a".toList .youtube
      ⟨.https, "", "", .domain "youtube.com", none, ["a"], none, none⟩ (by decide +kernel) (by decide +kernel)
    revert hfingerprint
    decide +kernel

end Query

end Jukebox
