import Jukebox.Proofs.LateLoad

/-!
# Where cooldowns come from

Cooldowns have a single source. A query has to be sent, the loader has to report in time that it cannot keep
up, and the provider has to be watched and not to be avoided for longer already. It is the provider at which
the query was sent in the end, which need not be the one that was asked for. Whatever else a step comes to
leaves all cooldowns alone, and the caller learns of every failure.

## Main definitions

- `Engine.coolsUntil` — until when a provider is avoided that cannot keep up now
- `Engine.Ends` — how a request ends and what it does to the cooldowns, told by what was sent
- `Service.Throttles` — the loader reports in time that a provider cannot keep up

## Main results

- `Engine.resolve_ends` — every request ends in one of these ways
- `Service.step_cooldown_ne_iff` — when a step changes the cooldowns
- `Service.deadline_run_le_iff` — the cooldowns after a run
- `Service.cools_exactly_what_throttles` — when, where and how the cooldowns change
-/

namespace Jukebox

namespace LoadFailure

/-- An upstream cannot keep up exactly if it is overloaded or limits the rate of requests. -/
theorem isThrottling_classify_iff {f : LoadFailure} :
    f.classify.isThrottling = true ↔ f.classify = .overloaded f ∨ f.classify = .throttled f := by
  unfold classify
  cases f.effectiveKind <;> simp [ResolveError.isThrottling]

theorem classify_dropped : Engine.dropped.classify = .rejected Engine.dropped := by
  decide +kernel

end LoadFailure

theorem Cooldown.trigger_eq (now ms : Nat) (p : Provider) (c : Cooldown) :
    (c.trigger now ms p).2 =
      if c.deadline p < min (now + ms) horizon then c.record p (min (now + ms) horizon) else c := by
  unfold trigger
  simp only
  split <;> rfl

namespace Cooldown

variable {c : Cooldown} {p p' : Provider} {t : Nat}

/-- Recording another point in time is a change. -/
theorem record_ne (h : c.deadline p < t) : c.record p t ≠ c := by
  intro heq
  have hdeadline : (c.record p t).deadline p = c.deadline p := by rw [heq]
  rw [record_deadline, if_pos rfl] at hdeadline
  omega

end Cooldown

namespace Engine

variable {answer : String → Reply} {useCache : Bool} {q : Query} {e : Engine} {t : String}

/-- Until when a provider is avoided that turns out, now, to be unable to keep up. -/
def coolsUntil (e : Engine) : Nat := min (e.wallMs + e.settings.cooldownMs) Cooldown.horizon

/-- How a request ends, and which cooldowns it leaves behind, told by what was sent and what the loader does
with it. -/
structure Ends (answer : String → Reply) (e : Engine) (r : Resolution) (c : Cooldown) : Prop where
  /-- What is not sent was answered from the cache, or was refused. -/
  unsent : r.sent = none → c = e.cooldown ∧
    ((∃ p, r.result = .ok p) ∨ ∃ error, error.isPreDispatch = true ∧ r.result = .error error)
  /-- The timeout passes, whatever the loader reports later. -/
  late : ∀ t, r.sent = some t → (answer t).isInTime e.settings.timeoutMs = false →
    c = e.cooldown ∧ r.result = .error (.timedOut e.settings.timeoutMs)
  /-- The loader gives up. -/
  drops : ∀ t delay, r.sent = some t → (answer t).isInTime e.settings.timeoutMs = true →
    answer t = .drops delay → c = e.cooldown ∧ r.result = .error (.rejected dropped)
  /-- The loader finds something, which may be nothing at all. -/
  finds : ∀ t delay outcome, r.sent = some t → (answer t).isInTime e.settings.timeoutMs = true →
    answer t = .reports delay outcome → (∀ f, outcome ≠ .failed f) →
      c = e.cooldown ∧ ∃ p, r.result = .ok p
  /-- The loader fails, and it depends on the failure and the provider whether that starts a cooldown. -/
  fails : ∀ t delay f, r.sent = some t → (answer t).isInTime e.settings.timeoutMs = true →
    answer t = .reports delay (.failed f) → r.result = .error f.classify ∧
      c = if f.classify.isThrottling = true ∧ e.cooldown.tracks r.query.provider = true ∧
          e.cooldown.deadline r.query.provider < e.coolsUntil then
        e.cooldown.record r.query.provider e.coolsUntil else e.cooldown

-- ════════════════════════════════════════════════════════════════════════
-- One request
-- ════════════════════════════════════════════════════════════════════════

/-- What is not sent was answered or refused. -/
theorem result_of_not_sent (h : (e.resolve answer useCache q).1.sent = none) :
    (∃ p, (e.resolve answer useCache q).1.result = .ok p) ∨
      ∃ error, error.isPreDispatch = true ∧ (e.resolve answer useCache q).1.result = .error error := by
  cases hresult : (e.resolve answer useCache q).1.result with
  | ok p => exact .inl ⟨p, rfl⟩
  | error error => exact .inr ⟨error, (resolve_error hresult).1.1 h, rfl⟩

/-- What a query does to the cooldowns that is sent. -/
theorem resolve_cooldown_of_sent (h : (e.resolve answer useCache q).1.sent = some t) :
    (e.resolve answer useCache q).2.cooldown =
      if (answer t).isInTime e.settings.timeoutMs then
        match loaded (answer t) (e.resolve answer useCache q).1.query with
        | .ok _ => e.cooldown
        | .error f =>
          if f.classify.isThrottling = true ∧
              e.cooldown.tracks (e.resolve answer useCache q).1.query.provider = true ∧
              e.cooldown.deadline (e.resolve answer useCache q).1.query.provider < e.coolsUntil then
            e.cooldown.record (e.resolve answer useCache q).1.query.provider e.coolsUntil
          else e.cooldown
      else e.cooldown := by
  rw [resolve_cooldown, h, Option.isSome_some, if_pos rfl, cooldownAfter, throttles, ← (sent_eq_some h).2,
    Cooldown.trigger_eq]
  cases (answer t).isInTime e.settings.timeoutMs with
  | false => rfl
  | true =>
    rw [loaded]
    cases ((answer t).outcome?.getD (.failed dropped)).accept (e.resolve answer useCache q).1.query with
    | ok p => rfl
    | error f =>
      simp only [Bool.true_and, if_true, Bool.and_eq_true, coolsUntil]
      grind

/-- Every request ends in one of these ways. -/
theorem resolve_ends (answer : String → Reply) (useCache : Bool) (q : Query) (e : Engine) :
    e.Ends answer (e.resolve answer useCache q).1 (e.resolve answer useCache q).2.cooldown where
  unsent h := by
    refine ⟨?_, result_of_not_sent h⟩
    rw [resolve_cooldown, h]
    rfl
  late t h hlate := by
    rw [resolve_cooldown_of_sent h, (resolve_of_sent h).2.1, hlate]
    exact ⟨rfl, rfl⟩
  drops t delay h hintime hdrops := by
    have hloaded : loaded (answer t) (e.resolve answer useCache q).1.query = .error dropped := by
      rw [hdrops]
      rfl
    rw [resolve_cooldown_of_sent h, (resolve_of_sent h).2.1, hintime, hloaded, ← LoadFailure.classify_dropped]
    refine ⟨?_, rfl⟩
    simp only [LoadFailure.classify_dropped]
    rfl
  finds t delay outcome h hintime hreports hfound := by
    have hloaded : ∃ p, loaded (answer t) (e.resolve answer useCache q).1.query = .ok p := by
      rw [hreports]
      cases outcome with
      | track track => exact ⟨_, rfl⟩
      | playlist p => exact ⟨_, rfl⟩
      | noMatches => exact ⟨_, rfl⟩
      | failed f => exact absurd rfl (hfound f)
    obtain ⟨p, hp⟩ := hloaded
    rw [resolve_cooldown_of_sent h, (resolve_of_sent h).2.1, hintime, hp]
    exact ⟨rfl, p, rfl⟩
  fails t delay f h hintime hfails := by
    have hloaded : loaded (answer t) (e.resolve answer useCache q).1.query = .error f := by
      rw [hfails]
      rfl
    rw [resolve_cooldown_of_sent h, (resolve_of_sent h).2.1, hintime, hloaded]
    exact ⟨rfl, rfl⟩

end Engine

namespace Service

variable {s : Service} {step : Step} {p : Provider}

/-- The step sends a query at the provider, and the loader reports in time that it cannot keep up. -/
def Throttles (s : Service) (step : Step) (p : Provider) : Prop :=
  ∃ answer useCache q t delay f, step.request? = some (answer, useCache, q) ∧
    (s.engine.resolve answer useCache q).1.sent = some t ∧
    (s.engine.resolve answer useCache q).1.query.provider = p ∧
    answer t = .reports delay (.failed f) ∧ (answer t).isInTime s.engine.settings.timeoutMs = true ∧
    (f.classify = .overloaded f ∨ f.classify = .throttled f)

-- ════════════════════════════════════════════════════════════════════════
-- One step
-- ════════════════════════════════════════════════════════════════════════

/-- A report that a provider cannot keep up is recorded if the provider is watched and not avoided for longer
already. -/
theorem step_cooldown_of_throttles (h : s.Throttles step p) :
    (s.step step).engine.cooldown =
      if p ∈ s.engine.cooldown.tracked ∧ s.engine.cooldown.deadline p < s.engine.coolsUntil then
        s.engine.cooldown.record p s.engine.coolsUntil
      else s.engine.cooldown := by
  obtain ⟨answer, useCache, q, t, delay, f, hrequest, hsent, rfl, hfails, hintime, hf⟩ := h
  rw [step_cooldown, hrequest]
  refine ((s.engine.resolve_ends answer useCache q).fails t delay f hsent hintime hfails).2.trans ?_
  rw [LoadFailure.isThrottling_classify_iff.2 hf]
  simp only [Cooldown.tracks, true_and, List.contains_iff_mem]

/-- A step that reports nothing of that kind changes no cooldown. -/
theorem step_cooldown_of_not_throttles (h : ∀ p, ¬ s.Throttles step p) :
    (s.step step).engine.cooldown = s.engine.cooldown := by
  rw [step_cooldown]
  cases hrequest : step.request? with
  | none => rfl
  | some request =>
    obtain ⟨answer, useCache, q⟩ := request
    have hends := s.engine.resolve_ends answer useCache q
    change (s.engine.resolve answer useCache q).2.cooldown = _
    cases hsent : (s.engine.resolve answer useCache q).1.sent with
    | none => exact (hends.unsent hsent).1
    | some t =>
      cases hintime : (answer t).isInTime s.engine.settings.timeoutMs with
      | false => exact (hends.late t hsent hintime).1
      | true =>
        cases hreply : answer t with
        | reports delay outcome =>
          by_cases hfound : ∀ f, outcome ≠ .failed f
          · exact (hends.finds t delay outcome hsent hintime hreply hfound).1
          · obtain ⟨f, hf⟩ := not_forall_not.1 hfound
            rw [hf] at hreply
            refine (hends.fails t delay f hsent hintime hreply).2.trans ?_
            -- the failure is none of those that throttle, or else the step would report it
            have hthrottling : f.classify.isThrottling = false := by
              refine Bool.eq_false_iff.2 fun hthrottling =>
                h (s.engine.resolve answer useCache q).1.query.provider ?_
              exact ⟨answer, useCache, q, t, delay, f, hrequest, hsent, rfl, hreply, hintime,
                LoadFailure.isThrottling_classify_iff.1 hthrottling⟩
            rw [hthrottling, if_neg fun hboth => Bool.false_ne_true hboth.1]
        | drops delay => exact (hends.drops t delay hsent hintime hreply).1
        | forgets =>
          rw [hreply] at hintime
          cases hintime
        | hangs =>
          rw [hreply] at hintime
          cases hintime

/-- A step reports of one provider at most. -/
theorem Throttles.unique {p' : Provider} (h : s.Throttles step p) (h' : s.Throttles step p') : p = p' := by
  obtain ⟨answer, useCache, q, t, delay, f, hrequest, -, hp, -⟩ := h
  obtain ⟨answer', useCache', q', t', delay', f', hrequest', -, hp', -⟩ := h'
  rw [hrequest] at hrequest'
  cases hrequest'
  exact hp.symm.trans hp'

/-- A step changes the cooldowns exactly if a watched provider cannot keep up that is not avoided for so long
already. -/
theorem step_cooldown_ne_iff (s : Service) (step : Step) :
    (s.step step).engine.cooldown ≠ s.engine.cooldown ↔ ∃ p, s.Throttles step p ∧
      p ∈ s.engine.cooldown.tracked ∧ s.engine.cooldown.deadline p < s.engine.coolsUntil := by
  constructor
  · intro hchanged
    by_cases h : ∃ p, s.Throttles step p
    · obtain ⟨p, hp⟩ := h
      rw [step_cooldown_of_throttles hp] at hchanged
      refine ⟨p, hp, ?_⟩
      by_contra hnot
      rw [if_neg hnot] at hchanged
      exact hchanged rfl
    · exact absurd (step_cooldown_of_not_throttles (not_exists.1 h)) hchanged
  · rintro ⟨p, hp, hlater⟩
    rw [step_cooldown_of_throttles hp, if_pos hlater]
    exact Cooldown.record_ne hlater.2

-- ════════════════════════════════════════════════════════════════════════
-- Runs
-- ════════════════════════════════════════════════════════════════════════

theorem tracked_step (s : Service) (step : Step) :
    (s.step step).engine.cooldown.tracked = s.engine.cooldown.tracked := by
  by_cases h : ∃ p, s.Throttles step p
  · obtain ⟨p, hp⟩ := h
    rw [step_cooldown_of_throttles hp]
    split <;> rfl
  · rw [step_cooldown_of_not_throttles (not_exists.1 h)]

/-- After a step a provider is avoided as long as before, or as long as the step demands, whichever is
longer. -/
theorem deadline_step_le_iff (s : Service) (step : Step) (p : Provider) (b : Nat) :
    (s.step step).engine.cooldown.deadline p ≤ b ↔ s.engine.cooldown.deadline p ≤ b ∧
      (s.Throttles step p → p ∈ s.engine.cooldown.tracked → s.engine.coolsUntil ≤ b) := by
  by_cases h : ∃ p', s.Throttles step p'
  · obtain ⟨p', hp'⟩ := h
    rw [step_cooldown_of_throttles hp']
    by_cases hp : p = p'
    · subst hp
      by_cases htracked : p ∈ s.engine.cooldown.tracked
      · by_cases hlater : s.engine.cooldown.deadline p < s.engine.coolsUntil
        · rw [if_pos ⟨htracked, hlater⟩, Cooldown.record_deadline, if_pos rfl]
          exact ⟨fun hle => ⟨by omega, fun _ _ => hle⟩, fun hle => hle.2 hp' htracked⟩
        · rw [if_neg fun hboth => hlater hboth.2]
          exact ⟨fun hle => ⟨hle, fun _ _ => by omega⟩, fun hle => hle.1⟩
      · rw [if_neg fun hboth => htracked hboth.1]
        exact ⟨fun hle => ⟨hle, fun _ hmem => absurd hmem htracked⟩, fun hle => hle.1⟩
    · have hother : (if p' ∈ s.engine.cooldown.tracked ∧ s.engine.cooldown.deadline p' < s.engine.coolsUntil
          then s.engine.cooldown.record p' s.engine.coolsUntil else s.engine.cooldown).deadline p =
            s.engine.cooldown.deadline p := by
        split
        · rw [Cooldown.record_deadline, if_neg hp]
        · rfl
      rw [hother]
      exact ⟨fun hle => ⟨hle, fun hthrottles => absurd (hthrottles.unique hp') hp⟩, fun hle => hle.1⟩
  · rw [step_cooldown_of_not_throttles (not_exists.1 h)]
    exact ⟨fun hle => ⟨hle, fun hthrottles => absurd ⟨p, hthrottles⟩ h⟩, fun hle => hle.1⟩

/-- After a run a provider is avoided until the latest of the points in time that were recorded at the
beginning or demanded by a step of the run. -/
theorem deadline_run_le_iff (s : Service) (steps : List Step) (p : Provider) (b : Nat) :
    (s.run steps).engine.cooldown.deadline p ≤ b ↔ s.engine.cooldown.deadline p ≤ b ∧
      ∀ before step after, steps = before ++ step :: after → (s.run before).Throttles step p →
        p ∈ s.engine.cooldown.tracked → (s.run before).engine.coolsUntil ≤ b := by
  induction steps generalizing s with
  | nil =>
    refine ⟨fun hle => ⟨hle, fun before step after h => ?_⟩, fun hle => hle.1⟩
    exact absurd h (List.append_ne_nil_of_right_ne_nil before (List.cons_ne_nil step after)).symm
  | cons first steps ih =>
    change ((s.step first).run steps).engine.cooldown.deadline p ≤ b ↔ _
    rw [ih (s.step first), deadline_step_le_iff, tracked_step]
    constructor
    · rintro ⟨⟨hstart, hfirst⟩, hrest⟩
      refine ⟨hstart, fun before step after h => ?_⟩
      rcases List.cons_eq_append_iff.1 h with ⟨rfl, hcons⟩ | ⟨before, rfl, hsteps⟩
      · obtain ⟨rfl, -⟩ := List.cons.inj hcons
        exact hfirst
      · exact hrest before step after hsteps
    · rintro ⟨hstart, hall⟩
      refine ⟨⟨hstart, hall [] first steps rfl⟩, fun before step after h => ?_⟩
      exact hall (first :: before) step after (by rw [h, List.cons_append])

/-- A request of a user that ends in an error comes to its wording. -/
theorem submission_of_error {answer : String → Reply} {useCache : Bool} {q : Query} {submission : Submission}
    {error : ResolveError} (hrequest : step.request? = some (answer, useCache, q))
    (hsubmission : s.submission? step = some submission)
    (herror : (s.engine.resolve answer useCache q).1.result = .error error) :
    submission = .failed error.message := by
  cases step with
  | submit answer' preferred requester guild input =>
    obtain rfl := Option.some.inj hsubmission
    cases hrequest
    simp only [Intake.submit, Intake.settle, herror]
  | resolve answer' useCache' q' => cases hsubmission
  | wait ms => cases hsubmission
  | sleep micros => cases hsubmission

/-- A step changes the cooldowns exactly if it sends a query, the loader reports in time that it cannot keep
up, and the provider at which the query was sent is watched and not avoided for so long already; all that
changes then is that the provider is avoided for the length of a cooldown, counted from the beginning of the
step and not from the report. In all other cases the cooldowns stay as they are, and in every case of failure
the caller learns of it. So a provider is avoided, after any run, until the latest of the points in time that
such reports demanded. -/
theorem cools_exactly_what_throttles (s : Service) :
    (s.engine.wallMs + s.engine.settings.cooldownMs ≤ Cooldown.horizon →
      s.engine.coolsUntil = s.engine.wallMs + s.engine.settings.cooldownMs) ∧
    (∀ step, (s.step step).engine.cooldown ≠ s.engine.cooldown ↔ ∃ p, s.Throttles step p ∧
      p ∈ s.engine.cooldown.tracked ∧ s.engine.cooldown.deadline p < s.engine.coolsUntil) ∧
    (∀ step p, s.Throttles step p → (s.step step).engine.cooldown ≠ s.engine.cooldown →
      (s.step step).engine.cooldown = s.engine.cooldown.record p s.engine.coolsUntil) ∧
    (∀ step answer useCache q, step.request? = some (answer, useCache, q) →
      s.engine.Ends answer (s.engine.resolve answer useCache q).1 (s.step step).engine.cooldown ∧
      ∀ submission error, s.submission? step = some submission →
        (s.engine.resolve answer useCache q).1.result = .error error → submission = .failed error.message) ∧
    (∀ steps p b, (s.run steps).engine.cooldown.deadline p ≤ b ↔ s.engine.cooldown.deadline p ≤ b ∧
      ∀ before step after, steps = before ++ step :: after → (s.run before).Throttles step p →
        p ∈ s.engine.cooldown.tracked → (s.run before).engine.coolsUntil ≤ b) := by
  refine ⟨fun hle => Nat.min_eq_left hle, s.step_cooldown_ne_iff, ?_, ?_, s.deadline_run_le_iff⟩
  · intro step p hp hchanged
    rw [step_cooldown_of_throttles hp] at hchanged ⊢
    split at hchanged
    · next hlater => rw [if_pos hlater]
    · exact absurd rfl hchanged
  · intro step answer useCache q hrequest
    refine ⟨?_, fun submission error => submission_of_error hrequest⟩
    rw [step_cooldown, hrequest]
    exact s.engine.resolve_ends answer useCache q

end Service

end Jukebox
