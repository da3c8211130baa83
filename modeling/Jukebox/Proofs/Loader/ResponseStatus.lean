import Jukebox.Loader.Probe
import Jukebox.Proofs.Classification
import Jukebox.Proofs.Text.Lower
import Jukebox.Proofs.Text.Number
import Mathlib.Data.List.Infix

/-!
# What the status of an answer says

A server that answers with a status beyond the successful ones has refused the request, and the status says why.
The failure gets its kind from the status only where that is the status of a rate limit or of an overload. For all
others the message is searched, and the address stands in the message: an address that looks like a sign of
throttling is taken for one. Nothing else in the message ever looks like a sign, nor does it together with the end
of the address.

## Main definitions

- `Probe.Response.IsRefusal` — the status is that of a failure
- `Probe.Response.verdict` — the error that the status stands for
- `Probe.IsMisread` — the address is taken for the reason of a refusal

## Main results

- `Text.infix_append_free_iff` — a piece does not reach across characters that it does not have
- `Probe.outcome_eq_failed_iff` — which answers are failures, and which failures they are
- `Probe.kindOfMessage?_refused` — the message gives away what the address gives away
- `Probe.verdict_missed_iff_misread` — exactly when the status does not decide
-/

namespace Jukebox

namespace Text

variable {piece s t mid : List Char}

-- ════════════════════════════════════════════════════════════════════════
-- Pieces of a text in parts
-- ════════════════════════════════════════════════════════════════════════

/-- A piece none of whose ends begins what follows does not reach into it. -/
theorem infix_append_apart_iff (h : ∀ back ∈ piece.tails, back ≠ [] → ¬ back <+: t) :
    piece <:+: s ++ t ↔ piece <:+: s ∨ piece <:+: t := by
  rw [List.infix_append_iff_ne_nil]
  refine or_congr_right (or_iff_left ?_)
  rintro ⟨front, back, -, hback, rfl, -, hprefix⟩
  exact h back ((List.mem_tails _ _).2 (List.suffix_append front back)) hback hprefix

/-- No piece begins with a character that it does not have. -/
theorem eq_nil_of_prefix_free {c : Char} (hc : c ∉ piece) (h : piece <+: c :: t) : piece = [] := by
  cases piece with
  | nil => rfl
  | cons d piece =>
    obtain ⟨rfl, -⟩ := List.cons_prefix_cons.1 h
    exact absurd List.mem_cons_self hc

theorem infix_free_append_iff (hfree : ∀ c ∈ mid, c ∉ piece) : piece <:+: mid ++ t ↔ piece <:+: t := by
  induction mid with
  | nil => exact Iff.rfl
  | cons c mid ih =>
    obtain ⟨hc, hfree⟩ := List.forall_mem_cons.1 hfree
    rw [List.cons_append, List.infix_cons_iff, ih hfree]
    refine or_iff_right_of_imp fun hprefix => ?_
    rw [eq_nil_of_prefix_free hc hprefix]
    exact List.nil_infix

/-- A piece does not reach across characters that it does not have. -/
theorem infix_append_free_iff (hmid : mid ≠ []) (hfree : ∀ c ∈ mid, c ∉ piece) :
    piece <:+: s ++ (mid ++ t) ↔ piece <:+: s ∨ piece <:+: t := by
  rw [infix_append_apart_iff, infix_free_append_iff hfree]
  intro back hsuffix hback hprefix
  obtain ⟨c, mid, rfl⟩ := List.exists_cons_of_ne_nil hmid
  have hc : c ∉ back := fun hmem =>
    hfree c List.mem_cons_self (((List.mem_tails _ _).1 hsuffix).subset hmem)
  exact hback (eq_nil_of_prefix_free hc hprefix)

end Text

namespace Probe

open LoadFailure

variable {address : String} {status : Nat} {r : Response} {f : LoadFailure}

/-- The status is that of a failure. A missing page is none. -/
def Response.IsRefusal (r : Response) : Prop :=
  (r.status < 200 ∨ 300 ≤ r.status) ∧ r.status ≠ 404 ∧ r.status ≠ 410

/-- The error that the status of a refusal stands for, whatever the address. -/
def Response.verdict (r : Response) (f : LoadFailure) : ResolveError :=
  if r.status = 429 then .throttled f else if r.status = 503 then .overloaded f else .rejected f

/-- The status leaves the reason to the message, and the address in it looks like a sign of throttling. -/
def IsMisread (address : String) (r : Response) : Prop :=
  r.status ≠ 429 ∧ r.status ≠ 503 ∧ ShowsSign address

/-- What is said of an address that answered with a status. -/
def refused (address : String) (status : Nat) : String := address ++ " answered " ++ statusText status

/-- The failure for the status of a refusal. -/
def refusal (address : String) (status : Nat) : LoadFailure :=
  if status = 429 then { kind := .rateLimited, message := "rate limit reached for " ++ address }
  else if status = 503 then { kind := .overloaded, message := address ++ " answered 503" }
  else { kind := .other, message := refused address status }

-- ════════════════════════════════════════════════════════════════════════
-- Which answers are failures
-- ════════════════════════════════════════════════════════════════════════

theorem content_ne_failed {contentType : Option String} : content address contentType ≠ .failed f := by
  rw [content]
  split <;> simp

/-- An answer is a failure exactly if it is a refusal, and the status then says which. -/
theorem outcome_eq_failed_iff : outcome address r = .failed f ↔ r.IsRefusal ∧ f = refusal address r.status := by
  rw [outcome, refusal, Response.IsRefusal]
  split
  · next hmissing => simp; omega
  · next hfound =>
    rw [not_or] at hfound
    split
    · next hlimit => simp [hlimit, eq_comm]
    · next hlimit =>
      split
      · next hoverload => simp [hoverload, eq_comm]
      · next hoverload =>
        split
        · next hrefused => simp [hrefused, hfound, refused, eq_comm]
        · next hsuccess => simp [hsuccess, content_ne_failed]

-- ════════════════════════════════════════════════════════════════════════
-- What is said of an address
-- ════════════════════════════════════════════════════════════════════════

/-- No phrase looks like a sign. -/
theorem phrase_inconspicuous :
    ∀ phrase ∈ "<unknown status code>" :: phrases.map Prod.snd,
      phrase.toList.Forall (·.toNat < 0x80) ∧
      Text.contains overloadSign.toList phrase.toList = false ∧
      Text.contains rateLimitSign.toList (' ' :: phrase.toList.map Text.lowerAscii) = false := by
  decide +kernel

/-- The phrase of a status. -/
def phrase (status : Nat) : String := (phrases.lookup status).getD "<unknown status code>"

theorem phrase_mem (status : Nat) : phrase status ∈ "<unknown status code>" :: phrases.map Prod.snd := by
  rw [phrase]
  cases hlookup : phrases.lookup status with
  | none => exact List.mem_cons_self
  | some text =>
    obtain ⟨before, after, heq, -⟩ := List.lookup_eq_some_iff.1 hlookup
    refine List.mem_cons_of_mem _ (List.mem_map.2 ⟨(status, text), ?_, rfl⟩)
    rw [heq]
    exact List.mem_append_right _ List.mem_cons_self

theorem toList_refused (address : String) (status : Nat) :
    (refused address status).toList =
      address.toList ++ (" answered ".toList ++ (Nat.toDigits 10 status ++ ' ' :: (phrase status).toList)) := by
  simp only [refused, statusText, String.toList_append, List.append_assoc, Nat.toString_eq_repr, Nat.toList_repr]
  rfl

/-- Of the statuses, which have three digits, only that of an overload shows its sign. -/
theorem eq_of_infix_toDigits (hlt : status < 1000) (h : overloadSign.toList <:+: Nat.toDigits 10 status) :
    status = 503 := by
  have hlength : (Nat.toDigits 10 status).length ≤ overloadSign.toList.length :=
    (Nat.length_toDigits_le_iff (by decide) (by decide)).2 hlt
  have hdigits : overloadSign.toList = Nat.toDigits 10 status := h.eq_of_length_le hlength
  rw [← Nat.ofDigitChars_ten_toDigits (n := status), ← hdigits]
  rfl

/-- The message shows an overload only if the address does. -/
theorem showsOverload_refused_iff (hlt : status < 1000) (hne : status ≠ 503) :
    ShowsOverload (refused address status) ↔ ShowsOverload address := by
  obtain ⟨-, hphrase, -⟩ := phrase_inconspicuous _ (phrase_mem status)
  have hdigits : ¬ overloadSign.toList <:+: Nat.toDigits 10 status := fun h => hne (eq_of_infix_toDigits hlt h)
  rw [← Bool.not_eq_true, Text.contains_eq_true_iff] at hphrase
  have hblank : ∀ c ∈ [' '], c ∉ overloadSign.toList := List.forall_mem_singleton.2 (by decide)
  have hanswered : ∀ c ∈ " answered ".toList, c ∉ overloadSign.toList := List.forall_iff_forall_mem.1 (by decide)
  have hrest : ¬ overloadSign.toList <:+: Nat.toDigits 10 status ++ ([' '] ++ (phrase status).toList) := by
    rw [Text.infix_append_free_iff (by decide) hblank]
    exact not_or.2 ⟨hdigits, hphrase⟩
  rw [ShowsOverload, toList_refused]
  exact (Text.infix_append_free_iff (by decide) hanswered).trans (or_iff_left hrest)

theorem lowerAscii_notMem_rateLimitSign {c : Char} (h : c.isDigit = true) :
    Text.lowerAscii c ∉ rateLimitSign.toList :=
  Text.of_ascii (P := fun c => c.isDigit = true → Text.lowerAscii c ∉ rateLimitSign.toList)
    (Text.toNat_lt_of_isDigit h) (by decide +kernel) h

/-- Behind the address all is in ASCII, and a blank stands between. -/
theorem lower_refused (address : String) (status : Nat) :
    Text.lower (refused address status).toList =
      Text.lower address.toList ++ " answered ".toList ++
        ((Nat.toDigits 10 status).map Text.lowerAscii ++ ' ' :: (phrase status).toList.map Text.lowerAscii) := by
  obtain ⟨hphrase, -, -⟩ := phrase_inconspicuous _ (phrase_mem status)
  have hascii : ∀ c ∈ "answered ".toList ++ (Nat.toDigits 10 status ++ ' ' :: (phrase status).toList),
      c.toNat < 0x80 := by
    simp only [List.forall_mem_append, List.forall_mem_cons]
    refine ⟨List.forall_iff_forall_mem.1 (by decide), fun c hc => ?_, by decide, List.forall_iff_forall_mem.1 hphrase⟩
    exact Text.toNat_lt_of_isDigit (Text.isDigit_of_mem_toDigits hc)
  have hblank : (refused address status).toList =
      address.toList ++ ' ' :: ("answered ".toList ++ (Nat.toDigits 10 status ++ ' ' :: (phrase status).toList)) :=
    toList_refused address status
  rw [hblank, Text.lower_append_blank (by decide), Text.lower_of_ascii hascii, List.map_append, List.map_append,
    List.append_assoc]
  rfl

/-- The message shows a rate limit only if the address does. -/
theorem showsRateLimit_refused_iff : ShowsRateLimit (refused address status) ↔ ShowsRateLimit address := by
  obtain ⟨-, -, hphrase⟩ := phrase_inconspicuous _ (phrase_mem status)
  rw [← Bool.not_eq_true, Text.contains_eq_true_iff] at hphrase
  have hne : (Nat.toDigits 10 status).map Text.lowerAscii ≠ [] := mt List.map_eq_nil_iff.1 Nat.toDigits_ne_nil
  have hdigits : ∀ c ∈ (Nat.toDigits 10 status).map Text.lowerAscii, c ∉ rateLimitSign.toList := by
    intro c hc
    obtain ⟨d, hd, rfl⟩ := List.mem_map.1 hc
    exact lowerAscii_notMem_rateLimitSign (Text.isDigit_of_mem_toDigits hd)
  -- the sign has blanks of its own, so what keeps it from reaching into `" answered "` is how its words begin
  have hapart : ∀ back ∈ rateLimitSign.toList.tails, back ≠ [] → ¬ back <+: " answered ".toList := by
    decide +kernel
  have hanswered : ¬ rateLimitSign.toList <:+: " answered ".toList := by decide +kernel
  rw [ShowsRateLimit, lower_refused]
  refine (Text.infix_append_free_iff hne hdigits).trans ((or_iff_left hphrase).trans ?_)
  exact (Text.infix_append_apart_iff hapart).trans (or_iff_left hanswered)

/-- The message gives away what the address gives away. -/
theorem kindOfMessage?_refused (hlt : status < 1000) (hne : status ≠ 503) :
    kindOfMessage? (refused address status) = kindOfMessage? address :=
  kindOfMessage?_congr (showsOverload_refused_iff hlt hne) showsRateLimit_refused_iff

-- ════════════════════════════════════════════════════════════════════════
-- The error
-- ════════════════════════════════════════════════════════════════════════

/-- The two statuses with a kind of their own decide, and for any other the address does. -/
theorem effectiveKind_of_outcome (hlt : r.status < 1000) (h : outcome address r = .failed f) :
    f.effectiveKind =
      if r.status = 429 then .rateLimited
      else if r.status = 503 then .overloaded
      else (kindOfMessage? address).getD .other := by
  obtain ⟨-, rfl⟩ := outcome_eq_failed_iff.1 h
  rw [effectiveKind_eq, refusal]
  split
  · rfl
  · split
    · rfl
    · next hne =>
      have hmessages : ({ kind := .other, message := refused address r.status } : LoadFailure).messages =
          [refused address r.status] := rfl
      rw [if_pos rfl, hmessages, List.findSome?_singleton, kindOfMessage?_refused hlt hne]

/-- Exactly the refusals are failures, and a failure ends with the error that the status stands for unless the
address is taken for the reason. Then it ends with that of an overload if the address shows its sign, and else with
that of a rate limit. So the status of a rate limit and that of an overload decide whatever the address is, and any
other status, of at most three digits, only as long as the address looks like neither sign. -/
theorem verdict_missed_iff_misread (address : String) {r : Response} (hstatus : r.status < 1000) :
    ((∃ f, outcome address r = .failed f) ↔ r.IsRefusal) ∧
    ∀ f, outcome address r = .failed f →
      (f.classify ≠ r.verdict f ↔ IsMisread address r) ∧
      (IsMisread address r → ShowsOverload address → f.classify = .overloaded f) ∧
      (IsMisread address r → ¬ ShowsOverload address → f.classify = .throttled f) := by
  constructor
  · simp only [outcome_eq_failed_iff, exists_and_left, exists_eq, and_true]
  intro f hf
  have hkind := effectiveKind_of_outcome hstatus hf
  rw [Response.verdict, IsMisread]
  by_cases hlimit : r.status = 429
  · rw [if_pos hlimit] at hkind
    simp [classify_eq_throttled_iff.2 hkind, hlimit]
  rw [if_neg hlimit] at hkind
  by_cases hoverload : r.status = 503
  · rw [if_pos hoverload] at hkind
    simp [classify_eq_overloaded_iff.2 hkind, hoverload]
  -- any other status leaves it to the address
  rw [if_neg hoverload] at hkind
  obtain ⟨hshows, hfound⟩ | ⟨hsign, hshows, hfound⟩ | ⟨hsign, hfound⟩ := kindOfMessage?_cases address
  · rw [hfound] at hkind
    simp [classify_eq_overloaded_iff.2 hkind, hlimit, hoverload, hshows, ShowsSign]
  · rw [hfound] at hkind
    simp [classify_eq_throttled_iff.2 hkind, hlimit, hoverload, hshows, hsign]
  · rw [hfound] at hkind
    simp [classify_eq_rejected_iff.2 hkind, hlimit, hoverload, hsign]

/-- The address of a file with the status of an overload for a name. -/
def numbered : String := "http://example.com/503.mp3"

/-- What a server says that does not let the request pass. -/
def forbidden : Response where
  status := 403
  contentType := none

/-- A forbidden file with the number of an overload in its name is taken for an overload. -/
theorem forbidden_taken_for_overload :
    forbidden.status < 1000 ∧ WebUrl.isValid numbered.toList = true ∧
      ∃ f, outcome numbered forbidden = .failed f ∧ forbidden.verdict f = .rejected f ∧ f.classify = .overloaded f := by
  have hstatus : forbidden.status < 1000 := by decide
  have hshows : ShowsOverload numbered := Text.contains_eq_true_iff.1 (by decide +kernel)
  have hmisread : IsMisread numbered forbidden := ⟨by decide, by decide, .inl hshows⟩
  obtain ⟨hfails, hdecides⟩ := verdict_missed_iff_misread numbered hstatus
  obtain ⟨f, hf⟩ := hfails.2 ⟨.inr (by decide), by decide, by decide⟩
  exact ⟨hstatus, by decide +kernel, f, hf, rfl, (hdecides f hf).2.1 hmisread hshows⟩

end Probe
end Jukebox
