import Jukebox.Proofs.Engine.Resolve
import Jukebox.Proofs.Metrics

/-!
# What a request counts

## Main definitions

- `Engine.Resolution.counts` — the counters that a request increases, in order
- `Engine.Resolution.outcome` — how a request ended

## Main results

- `Engine.resolve_metrics` — a request increases the counters that its resolution tells, and no others
- `Engine.Resolution.counts_eq` — a request is counted once, under its outcome
-/

namespace Jukebox

namespace Engine

/-- An answer from the loader is counted with its tracks, unless there are none. -/
def answerCounts : Except ResolveError Playlist → List (Counter × UInt64)
  | .ok p =>
    if p.isEmpty then [] else [(.tracksLoaded, UInt64.ofNat p.length), (Outcome.live.counter, 1)]
  | .error _ => []

/-- An error is counted, and so is an answer without tracks. -/
def endCounts : Except ResolveError Playlist → List (Counter × UInt64)
  | .ok p => if p.isEmpty then [(Outcome.empty.counter, 1)] else []
  | .error _ => [(.loadFailures, 1), (Outcome.exception.counter, 1)]

/-- The counters that a request increases, in the order in which it does: the request itself, where the
answer comes from, and how it ends. -/
def Resolution.counts (r : Resolution) : List (Counter × UInt64) :=
  (.requestsIssued, 1) ::
    (match r.result, r.sent with
      | .error _, _ => []
      | .ok _, none => [(.cacheHits, 1), (Outcome.cache.counter, 1)]
      | .ok p, some _ => answerCounts (.ok p)) ++ endCounts r.result

variable {answer : String → Reply} {useCache : Bool} {q : Query} {e : Engine}

theorem countEnd_eq (result : Except ResolveError Playlist) (e : Engine) :
    e.countEnd result = { e with metrics := e.metrics.addAll (endCounts result) } := by
  cases result with
  | error _ => rfl
  | ok p =>
    simp only [countEnd, endCounts]
    split <;> rfl

theorem countEnd_metrics (result : Except ResolveError Playlist) (e : Engine) :
    (e.countEnd result).metrics = e.metrics.addAll (endCounts result) := by
  rw [countEnd_eq]

theorem load_metrics (answer : String → Reply) (q : Query) (e : Engine) :
    (e.load answer q).2.metrics = e.metrics.addAll (answerCounts (e.dispatch answer q).1) := by
  have hdispatch := e.dispatch_metrics answer q
  unfold load
  rcases hsent : e.dispatch answer q with ⟨error | p, e'⟩
  · rw [hsent] at hdispatch
    exact hdispatch
  · rw [hsent] at hdispatch
    rw [← hdispatch]
    simp only [answerCounts, welcome]
    split <;> rfl

/-- A request increases the counters that its resolution tells, and no others. -/
theorem resolve_metrics (answer : String → Reply) (useCache : Bool) (q : Query) (e : Engine) :
    (e.resolve answer useCache q).2.metrics =
      e.metrics.addAll (e.resolve answer useCache q).1.counts := by
  rcases resolve_cases useCache q e with
    ⟨error, q', -, hr⟩ | ⟨q', p, tier, cache, -, -, -, hr⟩ | ⟨q', cache, -, -, hr⟩
  · rw [hr]
    rfl
  · rw [hr, countEnd_metrics]
    rfl
  · rw [hr, countEnd_metrics, load_metrics, load_result, ← Metrics.addAll_append]
    unfold Resolution.counts
    cases (dispatch answer q' (count .requestsIssued { e with cache })).1 <;> rfl

-- ════════════════════════════════════════════════════════════════════════
-- Outcomes
-- ════════════════════════════════════════════════════════════════════════

/-- How a request ended. What was not sent, and is no error, was answered from the cache. -/
def Resolution.outcome (r : Resolution) : Outcome :=
  match r.result, r.sent with
  | .error _, _ => .exception
  | .ok _, none => .cache
  | .ok p, some _ => if p.isEmpty then .empty else .live

/-- How many tracks the loader answered with. -/
def Resolution.loadedTracks (r : Resolution) : Nat :=
  match r.result, r.sent with
  | .ok p, some _ => p.length
  | .ok _, none | .error _, _ => 0

/-- The counters that tell of the outcome of a request that has loaded so many tracks. -/
def outcomeCounts (loaded : Nat) (outcome : Outcome) : List (Counter × UInt64) :=
  match outcome with
  | .cache => [(.cacheHits, 1), (Outcome.cache.counter, 1)]
  | .live => [(.tracksLoaded, UInt64.ofNat loaded), (Outcome.live.counter, 1)]
  | .empty => [(Outcome.empty.counter, 1)]
  | .exception => [(.loadFailures, 1), (Outcome.exception.counter, 1)]

/-- A request is counted once, under its outcome. An empty playlist from the cache would be counted under two,
but the cache never answers with one. -/
theorem Resolution.counts_eq {r : Resolution}
    (h : ∀ p, r.result = .ok p → r.sent = none → p.isEmpty = false) :
    r.counts = (.requestsIssued, 1) :: outcomeCounts r.loadedTracks r.outcome := by
  obtain ⟨result, q, sent⟩ := r
  unfold counts outcome loadedTracks
  rcases result with error | p
  · rfl
  · cases sent with
    | none =>
      have hsome := h p rfl rfl
      simp [endCounts, hsome, outcomeCounts]
    | some t => cases hempty : p.isEmpty <;> simp [answerCounts, endCounts, hempty, outcomeCounts]

variable (loaded : Nat) (o o' : Outcome)

theorem growth_requestsIssued :
    Metrics.growth .requestsIssued ((.requestsIssued, 1) :: outcomeCounts loaded o) = 1 := by
  cases o <;> rfl

theorem growth_outcome :
    Metrics.growth o'.counter ((.requestsIssued, 1) :: outcomeCounts loaded o) = if o = o' then 1 else 0 := by
  cases o <;> cases o' <;> rfl

theorem growth_cacheHits :
    Metrics.growth .cacheHits ((.requestsIssued, 1) :: outcomeCounts loaded o) =
      if o = .cache then 1 else 0 := by
  cases o <;> rfl

theorem growth_loadFailures :
    Metrics.growth .loadFailures ((.requestsIssued, 1) :: outcomeCounts loaded o) =
      if o = .exception then 1 else 0 := by
  cases o <;> rfl

theorem growth_tracksLoaded :
    Metrics.growth .tracksLoaded ((.requestsIssued, 1) :: outcomeCounts loaded o) =
      UInt64.ofNat (if o = .live then loaded else 0) := by
  cases o with
  | live =>
    change 0 + (UInt64.ofNat loaded + (0 + 0)) = UInt64.ofNat loaded
    rw [UInt64.zero_add, UInt64.add_zero, UInt64.add_zero]
  | cache | empty | exception => rfl

/-- Only what the loader answers brings tracks. -/
theorem Resolution.loadedTracks_eq (r : Resolution) :
    (if r.outcome = .live then r.loadedTracks else 0) = r.loadedTracks := by
  obtain ⟨result, q, sent⟩ := r
  unfold outcome loadedTracks
  rcases result with error | p
  · rfl
  · cases sent with
    | none => rfl
    | some t =>
      cases hempty : p.isEmpty with
      | false => simp [hempty]
      | true =>
        have hlength : p.length = 0 := List.length_eq_zero_iff.2 (List.isEmpty_iff.1 hempty)
        simp [hempty, hlength]

-- ════════════════════════════════════════════════════════════════════════
-- What a request does not count
-- ════════════════════════════════════════════════════════════════════════

theorem intakeFailures_notMem_endCounts (result : Except ResolveError Playlist) :
    .intakeFailures ∉ (endCounts result).map Prod.fst := by
  cases result with
  | error _ =>
    change .intakeFailures ∉ [Counter.loadFailures, Outcome.exception.counter]
    decide
  | ok p =>
    simp only [endCounts]
    split <;> decide

theorem intakeFailures_notMem_answerCounts (result : Except ResolveError Playlist) :
    .intakeFailures ∉ (answerCounts result).map Prod.fst := by
  cases result with
  | error _ => exact List.not_mem_nil
  | ok p =>
    simp only [answerCounts]
    split
    · exact List.not_mem_nil
    · change .intakeFailures ∉ [Counter.tracksLoaded, Outcome.live.counter]
      decide

/-- Requests of users that queue nothing are not counted by the engine. -/
theorem Resolution.intakeFailures_notMem_counts (r : Resolution) :
    .intakeFailures ∉ r.counts.map Prod.fst := by
  rw [counts, List.map_append, List.map_cons, List.mem_append, List.mem_cons, not_or, not_or]
  refine ⟨⟨by decide, ?_⟩, intakeFailures_notMem_endCounts _⟩
  split
  · exact List.not_mem_nil
  · decide
  · exact intakeFailures_notMem_answerCounts _

theorem resolve_intakeFailures (answer : String → Reply) (useCache : Bool) (q : Query) (e : Engine) :
    (e.resolve answer useCache q).2.metrics.get .intakeFailures = e.metrics.get .intakeFailures := by
  rw [resolve_metrics]
  exact Metrics.get_addAll_of_notMem (Resolution.intakeFailures_notMem_counts _) _

end Engine

end Jukebox
