import Jukebox.Proofs.Cache.Tiers
import Jukebox.Proofs.Chronicle
import Mathlib.Algebra.Ring.Nat

/-!
# The balance of the counters

Every request is counted when it is made, and once more under its outcome: it was answered from the cache or
by the loader, the loader found nothing, or it ended in an error. The other counters go along with these. So
the counters of a service balance after every run, and each says how many requests ended in which way. What
becomes of loads that are late is not counted.

## Main definitions

- `Service.along` — what the steps of a run yield
- `Service.resolutions`, `Service.submissions` — how the requests of a run end

## Main results

- `Service.step_metrics` — what a step counts
- `Service.noneEmpty_run` — a service that starts without empty playlists in its cache never has any there
- `Service.get_run` — a counter grows by what the steps of a run yield for it
- `Service.counters_balance` — the counters after a run
-/

namespace Jukebox

namespace Engine

@[simp] theorem finish_metrics (l : LateLoad) (e : Engine) : (e.finish l).metrics = e.metrics :=
  apply_settle _ (·.metrics) (fun _ _ _ => rfl) (fun _ _ => rfl) l

end Engine

namespace Intake

/-- What the request of a user counts in the end: a failure, if it queues nothing. -/
def counts (submission : Submission) : List (Counter × UInt64) :=
  if succeeded submission then [] else [(.intakeFailures, 1)]

theorem submit_metrics (answer : String → Reply) (preferred : Provider) (requester : Id) (input : String)
    (player : Player) (e : Engine) :
    (submit answer preferred requester input player e).2.2.1.metrics = e.metrics.addAll
      ((e.resolve answer true (Query.ofInput input.toList preferred)).1.counts ++
        counts (submit answer preferred requester input player e).1) := by
  rw [Metrics.addAll_append, ← Engine.resolve_metrics]
  unfold submit counts
  simp only
  split <;> rfl

end Intake

namespace Service

variable {s : Service}

-- ════════════════════════════════════════════════════════════════════════
-- What a run yields
-- ════════════════════════════════════════════════════════════════════════

/-- What the steps of a run yield, each for the service as the steps before have left it. -/
def along {α : Type} (yield : Service → Step → Option α) (s : Service) : List Step → List α
  | [] => []
  | step :: steps => (yield s step).toList ++ (s.step step).along yield steps

/-- How the requests of a run end, those of users included. -/
def resolutions (s : Service) (steps : List Step) : List Engine.Resolution :=
  s.along resolution? steps

/-- What becomes of the requests of users in a run. -/
def submissions (s : Service) (steps : List Step) : List Submission :=
  s.along submission? steps

theorem length_resolutions (s : Service) (steps : List Step) :
    (s.resolutions steps).length = steps.countP (·.request?.isSome) := by
  induction steps generalizing s with
  | nil => rfl
  | cons step steps ih =>
    have hrest := ih (s.step step)
    rw [resolutions] at hrest ⊢
    rw [along, List.length_append, hrest, List.countP_cons, Nat.add_comm, resolution?]
    cases step.request? <;> rfl

-- ════════════════════════════════════════════════════════════════════════
-- No empty playlist in the cache
-- ════════════════════════════════════════════════════════════════════════

theorem Passes.noneEmpty {s' : Service} {log : List Event} (hpasses : s.Passes log s')
    (h : s.engine.cache.NoneEmpty) : s'.engine.cache.NoneEmpty :=
  hpasses.cache (fun now q _ hc => hc.lookup now q) (fun now q p _ hc => hc.store now q p) h

/-- A service that starts without empty playlists in its cache never has any there. -/
theorem noneEmpty_run (h : s.engine.cache.NoneEmpty) (steps : List Step) :
    (s.run steps).engine.cache.NoneEmpty :=
  (s.passes_run steps).noneEmpty h

-- ════════════════════════════════════════════════════════════════════════
-- What a step counts
-- ════════════════════════════════════════════════════════════════════════

/-- A step counts what its request tells, and a failure if it is the request of a user that queues nothing. -/
theorem step_metrics (s : Service) (step : Step) :
    (s.step step).engine.metrics = s.engine.metrics.addAll
      ((s.resolution? step).toList.flatMap Engine.Resolution.counts ++
        (s.submission? step).toList.flatMap Intake.counts) := by
  cases step with
  | resolve answer useCache q =>
    change (s.engine.resolve answer useCache q).2.metrics = _
    rw [Engine.resolve_metrics]
    simp [resolution?, Step.request?, submission?]
  | submit answer preferred requester guild input =>
    change (Intake.submit answer preferred requester input (s.roster.player guild) s.engine).2.2.1.metrics = _
    rw [Intake.submit_metrics]
    simp [resolution?, Step.request?, submission?]
  | wait ms => exact Engine.elapse_metrics _ _
  | sleep micros => rfl

/-- What a request tells of its outcome holds of every request, once no playlist in the cache is empty. -/
theorem counts_resolution? (h : s.engine.cache.NoneEmpty) {step : Step} {r : Engine.Resolution}
    (hr : s.resolution? step = some r) :
    r.counts = (.requestsIssued, 1) :: Engine.outcomeCounts r.loadedTracks r.outcome := by
  refine Engine.Resolution.counts_eq fun p hp hsent => ?_
  obtain ⟨answer, useCache, q, -, rfl⟩ := resolution?_eq_some_iff.1 hr
  rcases Engine.resolve_cases useCache q s.engine with
    ⟨error, q', -, hresolve⟩ | ⟨q', p', tier, cache, -, -, hlookup, hresolve⟩ | ⟨q', cache, -, -, hresolve⟩
  · rw [hresolve] at hp
    cases hp
  · rw [hresolve] at hp
    obtain rfl := Except.ok.inj hp
    exact h.of_lookup (congrArg Prod.fst hlookup)
  · rw [hresolve, Engine.load_result] at hsent
    cases hsent

/-- What a step lets a counter grow by, apart from the failures of users' requests. -/
theorem get_step {c : Counter} (hc : c ≠ .intakeFailures) (s : Service) (step : Step) :
    (s.step step).engine.metrics.get c =
      s.engine.metrics.get c + Metrics.growth c ((s.resolution? step).toList.flatMap Engine.Resolution.counts) := by
  have hsubmission : Metrics.growth c ((s.submission? step).toList.flatMap Intake.counts) = 0 := by
    refine Metrics.growth_of_notMem fun hmem => hc ?_
    obtain ⟨⟨d, n⟩, hd, rfl⟩ := List.mem_map.1 hmem
    obtain ⟨submission, -, hd⟩ := List.mem_flatMap.1 hd
    unfold Intake.counts at hd
    split at hd
    · cases hd
    · rw [List.mem_singleton.1 hd]
  rw [step_metrics, Metrics.get_addAll, Metrics.growth_append, hsubmission, UInt64.add_zero]

theorem get_intakeFailures_step (s : Service) (step : Step) :
    (s.step step).engine.metrics.get .intakeFailures = s.engine.metrics.get .intakeFailures +
      UInt64.ofNat ((s.submission? step).toList.countP fun x => !Intake.succeeded x) := by
  have hrequest : Metrics.growth .intakeFailures
      ((s.resolution? step).toList.flatMap Engine.Resolution.counts) = 0 := by
    refine Metrics.growth_of_notMem fun hmem => ?_
    obtain ⟨increase, hincrease, heq⟩ := List.mem_map.1 hmem
    obtain ⟨r, -, hr⟩ := List.mem_flatMap.1 hincrease
    exact r.intakeFailures_notMem_counts (heq ▸ List.mem_map_of_mem hr)
  rw [step_metrics, Metrics.get_addAll, Metrics.growth_append, hrequest, UInt64.zero_add]
  refine congrArg (s.engine.metrics.get .intakeFailures + ·) ?_
  cases s.submission? step with
  | none => rfl
  | some submission => cases submission <;> rfl

-- ════════════════════════════════════════════════════════════════════════
-- What a run counts
-- ════════════════════════════════════════════════════════════════════════

/-- A counter grows in a run by what the steps of the run yield for it, if it does so in every step. -/
theorem get_run {α : Type} {c : Counter} {yield : Service → Step → Option α} {total : List α → Nat}
    (happend : ∀ xs ys, total (xs ++ ys) = total xs + total ys)
    (hstep : ∀ s step, s.engine.cache.NoneEmpty → (s.step step).engine.metrics.get c =
      s.engine.metrics.get c + UInt64.ofNat (total (yield s step).toList))
    (h : s.engine.cache.NoneEmpty) (steps : List Step) :
    (s.run steps).engine.metrics.get c =
      s.engine.metrics.get c + UInt64.ofNat (total (s.along yield steps)) := by
  induction steps generalizing s with
  | nil =>
    have hnil : total [] = 0 := Nat.left_eq_add.1 (happend [] [])
    rw [along, hnil]
    exact (UInt64.add_zero _).symm
  | cons step steps ih =>
    have hrest := ih ((s.passes_step step).noneEmpty h)
    rw [hstep s step h, UInt64.add_assoc, ← UInt64.ofNat_add, ← happend] at hrest
    exact hrest

/-- A counter of the engine grows in a run by what the requests of the run tell of their outcomes. -/
theorem get_run_of_growth {c : Counter} (hc : c ≠ .intakeFailures) {total : List Engine.Resolution → Nat}
    (happend : ∀ xs ys, total (xs ++ ys) = total xs + total ys)
    (htotal : ∀ r : Engine.Resolution,
      Metrics.growth c ((.requestsIssued, 1) :: Engine.outcomeCounts r.loadedTracks r.outcome) =
        UInt64.ofNat (total [r]))
    (h : s.engine.cache.NoneEmpty) (steps : List Step) :
    (s.run steps).engine.metrics.get c =
      s.engine.metrics.get c + UInt64.ofNat (total (s.resolutions steps)) := by
  refine get_run happend (fun s step h => ?_) h steps
  rw [get_step hc]
  refine congrArg (s.engine.metrics.get c + ·) ?_
  cases hr : s.resolution? step with
  | none =>
    have hnil : total [] = 0 := Nat.left_eq_add.1 (happend [] [])
    rw [Option.toList_none, List.flatMap_nil, hnil]
    rfl
  | some r => rw [Option.toList_some, List.flatMap_singleton, counts_resolution? h hr, htotal]

/-- A counter that grows by one with each request of some outcome counts these requests. -/
theorem get_run_of_outcome {c : Counter} (hc : c ≠ .intakeFailures) (o : Outcome)
    (hgrowth : ∀ loaded o', Metrics.growth c ((.requestsIssued, 1) :: Engine.outcomeCounts loaded o') =
      if o' = o then 1 else 0)
    (h : s.engine.cache.NoneEmpty) (steps : List Step) :
    (s.run steps).engine.metrics.get c =
      s.engine.metrics.get c + UInt64.ofNat ((s.resolutions steps).countP (·.outcome = o)) := by
  refine get_run_of_growth hc (fun _ _ => List.countP_append) (fun r => ?_) h steps
  rw [hgrowth]
  by_cases ho : r.outcome = o <;> simp [ho]

theorem requestsIssued_run (h : s.engine.cache.NoneEmpty) (steps : List Step) :
    (s.run steps).engine.metrics.get .requestsIssued =
      s.engine.metrics.get .requestsIssued + UInt64.ofNat (s.resolutions steps).length :=
  get_run_of_growth (by decide) (fun _ _ => List.length_append)
    (fun r => Engine.growth_requestsIssued r.loadedTracks r.outcome) h steps

theorem tracksLoaded_run (h : s.engine.cache.NoneEmpty) (steps : List Step) :
    (s.run steps).engine.metrics.get .tracksLoaded =
      s.engine.metrics.get .tracksLoaded + UInt64.ofNat ((s.resolutions steps).map (·.loadedTracks)).sum := by
  let total : List Engine.Resolution → Nat := fun ended => (ended.map (·.loadedTracks)).sum
  have happend : ∀ xs ys, total (xs ++ ys) = total xs + total ys := fun xs ys => by
    simp only [total, List.map_append, List.sum_append]
  refine get_run_of_growth (by decide) happend (fun r => ?_) h steps
  rw [Engine.growth_tracksLoaded, r.loadedTracks_eq]
  rfl

/-- Every request has one outcome. -/
theorem length_eq_countP_outcome (ended : List Engine.Resolution) :
    ended.length = ended.countP (·.outcome = .cache) + ended.countP (·.outcome = .live) +
      ended.countP (·.outcome = .empty) + ended.countP (·.outcome = .exception) := by
  induction ended with
  | nil => rfl
  | cons r ended ih =>
    simp only [List.length_cons, List.countP_cons, ih]
    cases r.outcome <;> simp <;> omega

/-- The counters of a service that starts to count, after any run, if its cache starts without empty playlists,
as a new one does. Each request is counted once when it is made, and once under its outcome. Those that were
answered from the cache, and the errors, are counted a second time; the tracks that were loaded are counted as
well, and so are the requests of users that queued nothing. The end of a late load is not counted. -/
theorem counters_balance (hmetrics : s.engine.metrics = {}) (hcache : s.engine.cache.NoneEmpty)
    (steps : List Step) :
    let total := fun c => (s.run steps).engine.metrics.get c
    let ended := s.resolutions steps
    total .requestsIssued = UInt64.ofNat (steps.countP (·.request?.isSome)) ∧
    total .requestsIssued = total Outcome.cache.counter + total Outcome.live.counter +
      total Outcome.empty.counter + total Outcome.exception.counter ∧
    (∀ o : Outcome, total o.counter = UInt64.ofNat (ended.countP (·.outcome = o))) ∧
    total .cacheHits = total Outcome.cache.counter ∧
    total .loadFailures = total Outcome.exception.counter ∧
    total .tracksLoaded = UInt64.ofNat (ended.map (·.loadedTracks)).sum ∧
    total .intakeFailures = UInt64.ofNat ((s.submissions steps).countP fun x => !Intake.succeeded x) ∧
    s.Passes (s.chronicle steps) (s.run steps) ∧
    ∀ (s₁ : Service) (l : LateLoad), (s₁.perform (.ended l)).engine.metrics = s₁.engine.metrics := by
  intro total ended
  have hzero : ∀ c n, s.engine.metrics.get c + n = n := fun c n => by
    rw [hmetrics]
    exact UInt64.zero_add n
  have hrequests : total .requestsIssued = UInt64.ofNat ended.length :=
    (requestsIssued_run hcache steps).trans (hzero _ _)
  have houtcome : ∀ o : Outcome, total o.counter = UInt64.ofNat (ended.countP (·.outcome = o)) := fun o =>
    (get_run_of_outcome (by cases o <;> decide) o (fun n o' => Engine.growth_outcome n o' o) hcache steps).trans
      (hzero _ _)
  refine ⟨?_, ?_, houtcome, ?_, ?_, ?_, ?_, s.passes_run steps, fun s₁ l => s₁.engine.finish_metrics l⟩
  · rw [hrequests, length_resolutions]
  · rw [hrequests, length_eq_countP_outcome, UInt64.ofNat_add, UInt64.ofNat_add, UInt64.ofNat_add]
    simp only [houtcome]
  · rw [houtcome]
    exact (get_run_of_outcome (by decide) .cache Engine.growth_cacheHits hcache steps).trans (hzero _ _)
  · rw [houtcome]
    exact (get_run_of_outcome (by decide) .exception Engine.growth_loadFailures hcache steps).trans (hzero _ _)
  · exact (tracksLoaded_run hcache steps).trans (hzero _ _)
  · exact (get_run (fun _ _ => List.countP_append) (fun s step _ => s.get_intakeFailures_step step) hcache
      steps).trans (hzero _ _)

/-- A request is answered by the loader, the same terms of a user from the cache, but there is no room in the
queue, and a third request times out before its load arrives. -/
theorem counters_after_late_load :
    let steps := [probing 0 "a", .submit (fun _ => .forgets) .youtube Id.one Id.one " A", probing 5000 "b",
      .wait 5000]
    let total := fun c => ((initial []).run steps).engine.metrics.get c
    (initial []).engine.metrics = {} ∧ (initial []).engine.cache.NoneEmpty ∧
      total .requestsIssued = 3 ∧ (∀ o : Outcome, total o.counter = if o = .empty then 0 else 1) ∧
      total .cacheHits = total Outcome.cache.counter ∧ total .loadFailures = total Outcome.exception.counter ∧
      total .tracksLoaded = 1 ∧ total .intakeFailures = 1 := by
  intro steps total
  have hcache : (initial []).engine.cache.NoneEmpty := ResultCache.Holds.of_empty rfl
  obtain ⟨hrequests, -, houtcome, hhits, hfailures, hloaded, hintake, -, -⟩ :=
    counters_balance (s := initial []) rfl hcache steps
  have hended : ((initial []).resolutions steps).map (·.outcome) = [.live, .cache, .exception] := by
    decide +kernel
  refine ⟨rfl, hcache, hrequests, fun o => (houtcome o).trans ?_, hhits, hfailures, hloaded.trans ?_,
    hintake.trans ?_⟩
  · have hcount : ((initial []).resolutions steps).countP (·.outcome = o) =
        [Outcome.live, .cache, .exception].countP (· = o) := by
      rw [← hended, List.countP_map]
      rfl
    rw [hcount]
    cases o <;> rfl
  · decide +kernel
  · decide +kernel

end Service

end Jukebox
