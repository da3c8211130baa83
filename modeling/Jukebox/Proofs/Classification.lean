import Jukebox.Failure

/-!
# Classification of failures

A loader that knows why it failed is believed. If it does not know, the messages of the failure and of its
causes are read from the outside in, and the first that gives anything away decides. A message that shows both
signs counts for an overload, but a sign further out always counts before one further in.

## Main definitions

- `LoadFailure.messages` — the messages of a failure and of its causes, outermost first
- `LoadFailure.ShowsOverload`, `LoadFailure.ShowsRateLimit` — the two signs in a message
- `LoadFailure.IsDecisive` — the outermost message that shows a sign

## Main results

- `LoadFailure.findSome?_messages_eq_some_iff` — what the search through the messages finds
- `LoadFailure.isThrottling_classify_iff_showsSign` — which failures count as throttling
- `LoadFailure.classify_decided_outermost` — which error a failure becomes
-/

namespace Jukebox.LoadFailure

variable {f : LoadFailure} {m : String}

/-- The messages of a failure and of its causes, the outermost first. -/
def messages (f : LoadFailure) : List String := f.message :: f.causes

/-- The message mentions the status of an overload. -/
def ShowsOverload (m : String) : Prop := "503".toList <:+: m.toList

/-- The message mentions, in letters of any case, that a rate limit is reached. -/
def ShowsRateLimit (m : String) : Prop := "rate limit reached".toList <:+: Text.lower m.toList

/-- The message shows one of the two signs, or both. -/
def ShowsSign (m : String) : Prop := ShowsOverload m ∨ ShowsRateLimit m

/-- The message is the outermost of the failure that shows a sign. -/
def IsDecisive (f : LoadFailure) (m : String) : Prop :=
  ShowsSign m ∧ ∃ outer inner, f.messages = outer ++ m :: inner ∧ ∀ m' ∈ outer, ¬ ShowsSign m'

-- ════════════════════════════════════════════════════════════════════════
-- One message
-- ════════════════════════════════════════════════════════════════════════

theorem contains_overloadSign_iff :
    Text.contains overloadSign.toList m.toList = true ↔ ShowsOverload m :=
  Text.contains_eq_true_iff

theorem contains_rateLimitSign_iff :
    Text.contains rateLimitSign.toList (Text.lower m.toList) = true ↔ ShowsRateLimit m :=
  Text.contains_eq_true_iff

/-- A message shows an overload, or only a rate limit, or nothing. -/
theorem kindOfMessage?_cases (m : String) :
    (ShowsOverload m ∧ kindOfMessage? m = some .overloaded) ∨
    (ShowsSign m ∧ ¬ ShowsOverload m ∧ kindOfMessage? m = some .rateLimited) ∨
    (¬ ShowsSign m ∧ kindOfMessage? m = none) := by
  simp only [kindOfMessage?]
  split
  · next h => exact .inl ⟨contains_overloadSign_iff.1 h, rfl⟩
  · next hoverload =>
    replace hoverload := mt contains_overloadSign_iff.2 hoverload
    split
    · next h => exact .inr (.inl ⟨.inr (contains_rateLimitSign_iff.1 h), hoverload, rfl⟩)
    · next hlimit =>
      exact .inr (.inr ⟨not_or.2 ⟨hoverload, mt contains_rateLimitSign_iff.2 hlimit⟩, rfl⟩)

theorem kindOfMessage?_eq_none_iff : kindOfMessage? m = none ↔ ¬ ShowsSign m := by
  obtain ⟨hm, heq⟩ | ⟨hm, -, heq⟩ | ⟨hm, heq⟩ := kindOfMessage?_cases m
  · simp [heq, ShowsSign, hm]
  · simp [heq, hm]
  · simp [heq, hm]

theorem kindOfMessage?_eq_overloaded_iff : kindOfMessage? m = some .overloaded ↔ ShowsOverload m := by
  obtain ⟨hm, heq⟩ | ⟨-, hm, heq⟩ | ⟨hm, heq⟩ := kindOfMessage?_cases m
  · simp [heq, hm]
  · simp [heq, hm]
  · simpa [heq] using fun h => hm (.inl h)

/-- The sign of a rate limit counts in a message only if the message does not show an overload as well. -/
theorem kindOfMessage?_eq_rateLimited_iff :
    kindOfMessage? m = some .rateLimited ↔ ShowsSign m ∧ ¬ ShowsOverload m := by
  obtain ⟨hm, heq⟩ | ⟨hm, hnot, heq⟩ | ⟨hm, heq⟩ := kindOfMessage?_cases m
  · simp [heq, hm]
  · simp [heq, hm, hnot]
  · simp [heq, hm]

theorem kindOfMessage?_ne_other : kindOfMessage? m ≠ some .other := by
  obtain ⟨-, heq⟩ | ⟨-, -, heq⟩ | ⟨-, heq⟩ := kindOfMessage?_cases m <;> simp [heq]

/-- A message counts for the signs it shows. -/
theorem kindOfMessage?_congr {m m' : String} (hoverload : ShowsOverload m ↔ ShowsOverload m')
    (hlimit : ShowsRateLimit m ↔ ShowsRateLimit m') : kindOfMessage? m = kindOfMessage? m' := by
  rw [← contains_overloadSign_iff, ← contains_overloadSign_iff, ← Bool.eq_iff_iff] at hoverload
  rw [← contains_rateLimitSign_iff, ← contains_rateLimitSign_iff, ← Bool.eq_iff_iff] at hlimit
  simp only [kindOfMessage?, hoverload, hlimit]

-- ════════════════════════════════════════════════════════════════════════
-- All messages
-- ════════════════════════════════════════════════════════════════════════

/-- The search through the messages finds what the decisive one gives away. -/
theorem findSome?_messages_eq_some_iff {kind : FailureKind} :
    f.messages.findSome? kindOfMessage? = some kind ↔ ∃ m, f.IsDecisive m ∧ kindOfMessage? m = some kind := by
  rw [List.findSome?_eq_some_iff]
  constructor
  · rintro ⟨outer, m, inner, hmessages, hm, houter⟩
    refine ⟨m, ⟨?_, outer, inner, hmessages, fun m' hm' => kindOfMessage?_eq_none_iff.1 (houter m' hm')⟩, hm⟩
    apply Classical.byContradiction
    intro hnone
    rw [kindOfMessage?_eq_none_iff.2 hnone] at hm
    cases hm
  · rintro ⟨m, ⟨-, outer, inner, hmessages, houter⟩, hm⟩
    exact ⟨outer, m, inner, hmessages, hm, fun m' hm' => kindOfMessage?_eq_none_iff.2 (houter m' hm')⟩

theorem findSome?_messages_eq_none_iff :
    f.messages.findSome? kindOfMessage? = none ↔ ∀ m ∈ f.messages, ¬ ShowsSign m := by
  simp only [List.findSome?_eq_none_iff, kindOfMessage?_eq_none_iff]

/-- What a loader says of a failure counts; only if it does not know, the messages are searched. -/
theorem effectiveKind_eq (f : LoadFailure) :
    f.effectiveKind =
      if f.kind = .other then (f.messages.findSome? kindOfMessage?).getD .other else f.kind := by
  rw [effectiveKind]
  cases f.kind <;> rfl

theorem effectiveKind_eq_iff {kind : FailureKind} (hkind : kind ≠ .other) :
    f.effectiveKind = kind ↔
      f.kind = kind ∨ f.kind = .other ∧ ∃ m, f.IsDecisive m ∧ kindOfMessage? m = some kind := by
  rw [effectiveKind_eq, ← findSome?_messages_eq_some_iff]
  split
  · next hother =>
    rw [hother]
    cases hfound : f.messages.findSome? kindOfMessage? with
    | none => simp [hkind.symm]
    | some found => simp [hkind.symm]
  · next hknown => simp [hknown]

theorem effectiveKind_eq_other_iff :
    f.effectiveKind = .other ↔ f.kind = .other ∧ ∀ m ∈ f.messages, ¬ ShowsSign m := by
  rw [effectiveKind_eq, ← findSome?_messages_eq_none_iff]
  split
  · next hother =>
    cases hfound : f.messages.findSome? kindOfMessage? with
    | none => simp [hother]
    | some found =>
      obtain ⟨m, -, hm⟩ := findSome?_messages_eq_some_iff.1 hfound
      have hfoundkind : found ≠ .other := fun h => kindOfMessage?_ne_other (h ▸ hm)
      simp [hfoundkind]
  · next hknown => simp [hknown]

-- ════════════════════════════════════════════════════════════════════════
-- The error
-- ════════════════════════════════════════════════════════════════════════

theorem classify_eq_overloaded_iff : f.classify = .overloaded f ↔ f.effectiveKind = .overloaded := by
  rw [classify]
  cases f.effectiveKind <;> simp

theorem classify_eq_throttled_iff : f.classify = .throttled f ↔ f.effectiveKind = .rateLimited := by
  rw [classify]
  cases f.effectiveKind <;> simp

theorem classify_eq_rejected_iff : f.classify = .rejected f ↔ f.effectiveKind = .other := by
  rw [classify]
  cases f.effectiveKind <;> simp

/-- A failure counts as throttling exactly if the loader knows it to be that, or any of its messages shows a sign. -/
theorem isThrottling_classify_iff_showsSign :
    f.classify.isThrottling = true ↔ f.kind ≠ .other ∨ ∃ m ∈ f.messages, ShowsSign m := by
  have hkind : f.classify.isThrottling = true ↔ f.effectiveKind ≠ .other := by
    rw [classify]
    cases f.effectiveKind <;> simp [ResolveError.isThrottling]
  rw [hkind, Ne, effectiveKind_eq_other_iff, Classical.not_and_iff_not_or_not]
  simp only [Classical.not_forall, Classical.not_not, exists_prop]

/-- The chain of causes that an error tells is that of the failure it was made from. -/
theorem causes_classify (f : LoadFailure) : f.classify.causes = f.messages := by
  rw [ResolveError.causes, failure?_classify]
  rfl

/-- A failure becomes an error that keeps it unchanged, with its kind, its message and all its causes. Which
error that is follows from the kind that the loader reports, whatever the messages; only if the loader does not
know the kind, the outermost message with a sign decides, and there an overload counts before a rate limit. The
failure is a mere rejection exactly if no message at all shows a sign. -/
theorem classify_decided_outermost (f : LoadFailure) :
    f.classify.failure? = some f ∧ f.classify.causes = f.messages ∧
    (f.classify = .overloaded f ↔
      f.kind = .overloaded ∨ f.kind = .other ∧ ∃ m, f.IsDecisive m ∧ ShowsOverload m) ∧
    (f.classify = .throttled f ↔
      f.kind = .rateLimited ∨ f.kind = .other ∧ ∃ m, f.IsDecisive m ∧ ¬ ShowsOverload m) ∧
    (f.classify = .rejected f ↔ f.kind = .other ∧ ∀ m ∈ f.messages, ¬ ShowsSign m) := by
  refine ⟨failure?_classify f, causes_classify f, ?_, ?_, ?_⟩
  · rw [classify_eq_overloaded_iff, effectiveKind_eq_iff (by decide)]
    simp only [kindOfMessage?_eq_overloaded_iff]
  · rw [classify_eq_throttled_iff, effectiveKind_eq_iff (by decide)]
    simp only [kindOfMessage?_eq_rateLimited_iff]
    refine or_congr_right (and_congr_right fun _ => exists_congr fun m => and_congr_right fun hm => ?_)
    exact and_iff_right hm.1
  · rw [classify_eq_rejected_iff, effectiveKind_eq_other_iff]

/-- A rate limit in the outer message counts before an overload in its cause. -/
example :
    (⟨.other, "Rate limit reached", ["answered 503"]⟩ : LoadFailure).classify.isThrottling = true ∧
      (⟨.other, "Rate limit reached", ["answered 503"]⟩ : LoadFailure).classify.message =
        "upstream is actively throttling requests" := by
  decide +kernel

end Jukebox.LoadFailure
