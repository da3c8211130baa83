import Jukebox.Loader.Extractor
import Jukebox.Proofs.Classification
import Jukebox.Proofs.Text.Words
import Jukebox.Proofs.Throttling

/-!
# Error statuses of the extractor

The extractor tells what went wrong in its error output, where an error of a server is mentioned with its status.
Only the first status decides what kind of failure that is. The message of the failure is the whole output, and is
searched for signs of throttling later; but one of them is the status of an overload, and the status of a rate
limit is none. So an overload is noticed wherever it is mentioned, and a rate limit may be missed behind another
error.

## Main definitions

- `Extractor.StatusAt` — a status is mentioned at some place of a text
- `Extractor.Mentions`, `Extractor.IsFirstStatus` — a status is mentioned anywhere, or before all others
- `Extractor.IsOvershadowed` — another status is mentioned first, and nothing else tells of throttling

## Main results

- `Extractor.errorStatus?_eq_some_iff` — the status that is read is the first one
- `Extractor.isThrottling_failureOfErrors_iff` — which error output is taken for throttling
- `Extractor.throttling_is_missed_iff_overshadowed` — what becomes of a mention of throttling
-/

namespace Jukebox

namespace Extractor

variable {s status status' : List Char} {i : Nat}

/-- What stands in front of a status. -/
def statusFront : List Char := "HTTP Error ".toList

/-- A status has three digits, which may be of any script. -/
def IsStatus (status : List Char) : Prop := status.length = 3 ∧ status.all Text.isAnyDigit = true

/-- The status is mentioned in the text from the place `i` on. -/
def StatusAt (s : List Char) (i : Nat) (status : List Char) : Prop :=
  IsStatus status ∧ statusFront ++ status <+: s.drop i

/-- The status is mentioned somewhere in the text. -/
def Mentions (status s : List Char) : Prop := statusFront ++ status <:+: s

/-- The status is mentioned in the text, and no other before it. -/
def IsFirstStatus (status s : List Char) : Prop :=
  ∃ i, StatusAt s i status ∧ ∀ j < i, ∀ status', ¬ StatusAt s j status'

/-- The text mentions another status before it comes to that of a rate limit, if it ever does, and no sign of
throttling that is looked for in messages. -/
def IsOvershadowed (s : List Char) : Prop :=
  (∃ status, IsFirstStatus status s ∧ status ≠ "429".toList) ∧ ¬ LoadFailure.ShowsSign (String.ofList s)

-- ════════════════════════════════════════════════════════════════════════
-- The first status
-- ════════════════════════════════════════════════════════════════════════

theorem StatusAt.unique (h : StatusAt s i status) (h' : StatusAt s i status') : status = status' := by
  obtain ⟨t, ht⟩ := h.2
  obtain ⟨t', ht'⟩ := h'.2
  rw [List.append_assoc] at ht ht'
  have heq := List.append_cancel_left (ht.trans ht'.symm)
  exact (List.append_inj heq (h.1.1.trans h'.1.1.symm)).1

theorem not_statusAt_nil : ¬ StatusAt [] i status := by
  rintro ⟨-, h⟩
  rw [List.drop_nil, List.prefix_nil] at h
  cases h

theorem IsFirstStatus.unique (h : IsFirstStatus status s) (h' : IsFirstStatus status' s) : status = status' := by
  obtain ⟨i, hi, hbefore⟩ := h
  obtain ⟨j, hj, hbefore'⟩ := h'
  have hij : i = j := by
    apply Nat.le_antisymm
    · exact Nat.le_of_not_lt fun hlt => hbefore j hlt status' hj
    · exact Nat.le_of_not_lt fun hlt => hbefore' i hlt status hi
  subst hij
  exact hi.unique hj

/-- A status at the very front is the first. -/
theorem isFirstStatus_of_zero (h : StatusAt s 0 status) : IsFirstStatus status s :=
  ⟨0, h, fun _ hj => nomatch hj⟩

/-- If there is no status at the very front, the first one is that of the rest. -/
theorem isFirstStatus_cons_iff {c : Char} (h : ∀ status', ¬ StatusAt (c :: s) 0 status') :
    IsFirstStatus status (c :: s) ↔ IsFirstStatus status s := by
  constructor
  · rintro ⟨i, hi, hbefore⟩
    cases i with
    | zero => exact absurd hi (h status)
    | succ i => exact ⟨i, hi, fun j hj => hbefore (j + 1) (Nat.succ_lt_succ hj)⟩
  · rintro ⟨i, hi, hbefore⟩
    refine ⟨i + 1, hi, fun j hj => ?_⟩
    cases j with
    | zero => exact h
    | succ j => exact hbefore j (Nat.lt_of_succ_lt_succ hj)

theorem statusAt_zero_iff :
    StatusAt s 0 status ↔ ∃ a b d t, Text.dropFront? statusFront s = some (a :: b :: d :: t) ∧
      [a, b, d].all Text.isAnyDigit = true ∧ status = [a, b, d] := by
  constructor
  · rintro ⟨⟨hlength, hdigits⟩, t, ht⟩
    obtain ⟨a, b, d, rfl⟩ := List.length_eq_three.1 hlength
    refine ⟨a, b, d, t, ?_, hdigits, rfl⟩
    rw [Text.dropFront?_eq_some_iff, ← List.drop_zero (l := s), ← ht, List.append_assoc]
    rfl
  · rintro ⟨a, b, d, t, hdrop, hdigits, rfl⟩
    refine ⟨⟨rfl, hdigits⟩, t, ?_⟩
    rw [Text.dropFront?_eq_some_iff] at hdrop
    rw [List.drop_zero, hdrop, List.append_assoc]
    rfl

theorem errorStatus?_of_statusAt (h : StatusAt s 0 status) : errorStatus? s = some status := by
  cases s with
  | nil => exact (not_statusAt_nil h).elim
  | cons c s =>
    obtain ⟨a, b, d, t, hdrop, hdigits, rfl⟩ := statusAt_zero_iff.1 h
    have hfront : Text.dropFront? "HTTP Error ".toList (c :: s) = some (a :: b :: d :: t) := hdrop
    rw [errorStatus?, hfront]
    exact if_pos hdigits

theorem errorStatus?_cons {c : Char} (h : ∀ status', ¬ StatusAt (c :: s) 0 status') :
    errorStatus? (c :: s) = errorStatus? s := by
  rw [errorStatus?]
  split
  · next a b d t hdrop =>
    split
    · next hdigits => exact absurd (statusAt_zero_iff.2 ⟨a, b, d, t, hdrop, hdigits, rfl⟩) (h _)
    · rfl
  · rfl

/-- The status that is read is the first one. -/
theorem errorStatus?_eq_some_iff : errorStatus? s = some status ↔ IsFirstStatus status s := by
  induction s with
  | nil =>
    refine iff_of_false (fun h => nomatch h) ?_
    rintro ⟨i, hi, -⟩
    exact not_statusAt_nil hi
  | cons c s ih =>
    by_cases hfront : ∃ status', StatusAt (c :: s) 0 status'
    · obtain ⟨status', hstatus'⟩ := hfront
      rw [errorStatus?_of_statusAt hstatus', Option.some.injEq]
      constructor
      · rintro rfl
        exact isFirstStatus_of_zero hstatus'
      · exact (isFirstStatus_of_zero hstatus').unique
    · rw [not_exists] at hfront
      rw [errorStatus?_cons hfront, ih, isFirstStatus_cons_iff hfront]

/-- What is mentioned is either the first status or stands behind it. -/
theorem Mentions.exists_isFirstStatus (h : Mentions status s) (hstatus : IsStatus status) :
    ∃ status', IsFirstStatus status' s := by
  induction s with
  | nil =>
    rw [Mentions, List.infix_nil] at h
    cases h
  | cons c s ih =>
    by_cases hfront : ∃ status', StatusAt (c :: s) 0 status'
    · obtain ⟨status', hstatus'⟩ := hfront
      exact ⟨status', isFirstStatus_of_zero hstatus'⟩
    · rw [not_exists] at hfront
      obtain hprefix | hinfix := List.infix_cons_iff.1 h
      · exact absurd ⟨hstatus, hprefix⟩ (hfront status)
      · obtain ⟨status', hfirst⟩ := ih hinfix
        exact ⟨status', (isFirstStatus_cons_iff hfront).2 hfirst⟩

theorem IsFirstStatus.mentions (h : IsFirstStatus status s) : Mentions status s := by
  obtain ⟨i, ⟨-, hprefix⟩, -⟩ := h
  exact hprefix.isInfix.trans (List.drop_suffix i s).isInfix

-- ════════════════════════════════════════════════════════════════════════
-- The failure
-- ════════════════════════════════════════════════════════════════════════

/-- An overload is a sign in the message wherever its status is mentioned. -/
theorem Mentions.showsOverload (h : Mentions "503".toList s) : LoadFailure.ShowsOverload (String.ofList s) := by
  have hstatus : "503".toList <:+: s := (List.suffix_append statusFront "503".toList).isInfix.trans h
  rwa [LoadFailure.ShowsOverload, String.toList_ofList (l := s)]

/-- A failure is known by its kind to be throttling exactly if the first status is one of the two for it. -/
theorem kind_failureOfErrors_ne_other_iff :
    (failureOfErrors s).kind ≠ .other ↔ errorStatus? s = some "429".toList ∨ errorStatus? s = some "503".toList := by
  have hread : ∀ {status : List Char} {text : String},
      (some status).map String.ofList = some text → some status = some text.toList := by
    intro status text h
    rw [← Option.some.inj h, String.toList_ofList]
  rw [failureOfErrors]
  dsimp only
  cases errorStatus? s with
  | none => simp
  | some status =>
    split
    · next h => exact iff_of_true (by decide) (.inl (hread h))
    · next h => exact iff_of_true (by decide) (.inr (hread h))
    · next h₁ h₂ =>
      refine iff_of_false (fun h => h rfl) ?_
      rintro (h | h)
      · exact h₁ (by rw [h]; rfl)
      · exact h₂ (by rw [h]; rfl)

/-- The message of the failure shows what the output shows; the wording for an empty output shows nothing. -/
theorem showsSign_message_iff :
    LoadFailure.ShowsSign (failureOfErrors s).message ↔ LoadFailure.ShowsSign (String.ofList s) := by
  cases s with
  | nil =>
    refine iff_of_false ?_ ?_
    · exact LoadFailure.kindOfMessage?_eq_none_iff.1 (by decide +kernel)
    · exact LoadFailure.kindOfMessage?_eq_none_iff.1 (by decide +kernel)
  | cons c s => exact Iff.rfl

/-- The error output is taken for throttling exactly if its first status is that of a rate limit, or if it shows
anywhere one of the signs that messages are searched for. -/
theorem isThrottling_failureOfErrors_iff :
    (failureOfErrors s).classify.isThrottling = true ↔
      IsFirstStatus "429".toList s ∨ LoadFailure.ShowsSign (String.ofList s) := by
  have hmessages : (failureOfErrors s).messages = [(failureOfErrors s).message] := rfl
  rw [LoadFailure.isThrottling_classify_iff_showsSign, kind_failureOfErrors_ne_other_iff, errorStatus?_eq_some_iff,
    errorStatus?_eq_some_iff, hmessages]
  simp only [List.mem_singleton, exists_eq_left, showsSign_message_iff]
  constructor
  · rintro ((hfirst | hfirst) | hsign)
    · exact .inl hfirst
    · exact .inr (.inl hfirst.mentions.showsOverload)
    · exact .inr hsign
  · rintro (hfirst | hsign)
    · exact .inl (.inl hfirst)
    · exact .inr hsign

theorem isStatus_rateLimit : IsStatus "429".toList := ⟨rfl, by decide +kernel⟩

theorem isStatus_overload : IsStatus "503".toList := ⟨rfl, by decide +kernel⟩

/-- A mention of a rate limit is missed exactly if another status comes first and there is no other sign. -/
theorem isThrottling_eq_false_iff_isOvershadowed (h : Mentions "429".toList s) :
    (failureOfErrors s).classify.isThrottling = false ↔ IsOvershadowed s := by
  rw [← Bool.not_eq_true, isThrottling_failureOfErrors_iff, not_or, IsOvershadowed]
  refine and_congr_left fun _ => ?_
  obtain ⟨status, hfirst⟩ := h.exists_isFirstStatus isStatus_rateLimit
  constructor
  · intro hnot
    refine ⟨status, hfirst, ?_⟩
    rintro rfl
    exact hnot hfirst
  · rintro ⟨status', hfirst', hne⟩ hlimit
    exact hne (hfirst'.unique hlimit)

/-- No digit of any script is a blank. -/
theorem isAnyDigit_of_isBlank {c : Char} (h : Text.isBlank c = true) : Text.isAnyDigit c = false :=
  Text.of_isBlank (P := fun c => Text.isAnyDigit c = false) h (by decide +kernel)

theorem IsStatus.isBlank (h : IsStatus status) {c : Char} (hc : c ∈ status) : Text.isBlank c = false := by
  rw [← Bool.not_eq_true]
  intro hblank
  have hdigit := List.all_eq_true.1 h.2 c hc
  rw [isAnyDigit_of_isBlank hblank] at hdigit
  cases hdigit

/-- Trimming the error output does not affect what statuses it mentions. -/
theorem mentions_printed_iff {bytes : Bytes} (h : IsStatus status) :
    Mentions status (printed bytes) ↔ Mentions status bytes.toStringLossy.toList := by
  have hne : status ≠ [] := by
    rintro rfl
    cases h.1
  refine Text.infix_trim_iff ?_ ?_
  · intro c hc
    obtain rfl : 'H' = c := Option.some.inj hc
    decide
  · intro c hc
    rw [List.getLast?_append_of_ne_nil _ hne] at hc
    exact h.isBlank (List.mem_of_getLast? hc)

end Extractor

namespace Service

variable {s : Service} {step : Step} {answer : String → Reply} {useCache : Bool} {q : Query} {t : String} {delay : Nat}
  {f : LoadFailure}

/-- What a failure that is reported in time does to the cooldowns. -/
theorem step_cooldown_of_failure (hrequest : step.request? = some (answer, useCache, q))
    (hsent : (s.engine.resolve answer useCache q).1.sent = some t)
    (hreply : answer t = .reports delay (.failed f))
    (hintime : (answer t).isInTime s.engine.settings.timeoutMs = true) :
    (f.classify.isThrottling = true →
      (s.engine.resolve answer useCache q).1.query.provider ∈ s.engine.cooldown.tracked →
        s.engine.coolsUntil ≤
          (s.step step).engine.cooldown.deadline (s.engine.resolve answer useCache q).1.query.provider) ∧
    (f.classify.isThrottling = false → (s.step step).engine.cooldown = s.engine.cooldown) := by
  constructor
  · intro hthrottling
    refine ((s.deadline_step_le_iff step _ _).1 le_rfl).2 ?_
    exact ⟨answer, useCache, q, t, delay, f, hrequest, hsent, rfl, hreply, hintime,
      LoadFailure.isThrottling_classify_iff.1 hthrottling⟩
  · intro hnot
    apply step_cooldown_of_not_throttles
    rintro p ⟨answer', useCache', q', t', delay', f', hrequest', hsent', -, hreply', -, hf'⟩
    cases hrequest.symm.trans hrequest'
    cases hsent.symm.trans hsent'
    cases hreply.symm.trans hreply'
    rw [LoadFailure.isThrottling_classify_iff.2 hf'] at hnot
    cases hnot

end Service

namespace Extractor

/-- An overload that a failed run mentions anywhere in its error output is taken for throttling. A rate limit that
it mentions is missed exactly if another status comes first and nothing else tells of throttling. What is taken for
throttling makes a watched provider be avoided, and what is not leaves all cooldowns alone. -/
theorem throttling_is_missed_iff_overshadowed (x : Extractor) {run : Finished} (hfailed : run.exit ≠ .code 0) :
    ∃ f, (∀ p, x.outcome p (some run) = .failed f) ∧
      (Mentions "503".toList run.errors.toStringLossy.toList → f.classify.isThrottling = true) ∧
      (Mentions "429".toList run.errors.toStringLossy.toList →
        (f.classify.isThrottling = false ↔ IsOvershadowed (printed run.errors))) ∧
      (f.classify.isThrottling = true ↔ IsFirstStatus "429".toList (printed run.errors) ∨
        LoadFailure.ShowsSign (String.ofList (printed run.errors))) ∧
      ∀ (s : Service) step answer useCache q t delay p, step.request? = some (answer, useCache, q) →
        (s.engine.resolve answer useCache q).1.sent = some t →
        answer t = .reports delay (x.outcome p (some run)) →
        (answer t).isInTime s.engine.settings.timeoutMs = true →
        (f.classify.isThrottling = true →
          (s.engine.resolve answer useCache q).1.query.provider ∈ s.engine.cooldown.tracked →
            s.engine.coolsUntil ≤
              (s.step step).engine.cooldown.deadline (s.engine.resolve answer useCache q).1.query.provider) ∧
        (f.classify.isThrottling = false → (s.step step).engine.cooldown = s.engine.cooldown) := by
  have hrun : ∀ p, x.outcome p (some run) = .failed (failureOfErrors (printed run.errors)) := fun p => if_neg hfailed
  refine ⟨_, hrun, ?_, ?_, isThrottling_failureOfErrors_iff, ?_⟩
  · intro hmentions
    rw [← mentions_printed_iff isStatus_overload] at hmentions
    exact isThrottling_failureOfErrors_iff.2 (.inr (.inl hmentions.showsOverload))
  · intro hmentions
    rw [← mentions_printed_iff isStatus_rateLimit] at hmentions
    exact isThrottling_eq_false_iff_isOvershadowed hmentions
  · intro s step answer useCache q t delay p hrequest hsent hreply hintime
    rw [hrun] at hreply
    exact Service.step_cooldown_of_failure hrequest hsent hreply hintime

/-- A run that meets a missing page first and a rate limit later. -/
def overshadowedRun : Finished where
  exit := .code 1
  output := []
  errors := Bytes.ofString "HTTP Error 404: Not Found\nHTTP Error 429: Too Many Requests\n"

/-- A rate limit behind a missing page is missed. -/
theorem rate_limit_behind_missing_page :
    overshadowedRun.exit ≠ .code 0 ∧ Mentions "429".toList overshadowedRun.errors.toStringLossy.toList ∧
      ∃ f, (∀ p, ({} : Extractor).outcome p (some overshadowedRun) = .failed f) ∧ f.classify.isThrottling = false := by
  have hfailed : overshadowedRun.exit ≠ .code 0 := by decide
  have hmentions : Mentions "429".toList overshadowedRun.errors.toStringLossy.toList :=
    Text.contains_eq_true_iff.1 (by decide +kernel)
  obtain ⟨f, hf, -, hlimit, -⟩ := throttling_is_missed_iff_overshadowed {} hfailed
  refine ⟨hfailed, hmentions, f, hf, (hlimit hmentions).2 ⟨⟨"404".toList, ?_, by decide⟩, ?_⟩⟩
  · exact errorStatus?_eq_some_iff.1 (by decide +kernel)
  · exact LoadFailure.kindOfMessage?_eq_none_iff.1 (by decide +kernel)

end Extractor

end Jukebox
