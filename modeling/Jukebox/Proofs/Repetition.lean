import Jukebox.Proofs.Memory

/-!
# Repeated requests

What the loader has answered is in memory when the same is asked again, as long as it is alive and has neither
been replaced nor displaced by others. Then nothing is sent: whichever way the two queries have come to their
provider, and however their texts are written, the second request ends like the first.

## Main results

- `Engine.resolve_of_found` — how a request ends that may ask a cache which knows the answer
- `Service.events_of_answer` — when the answer of the loader is kept
- `Service.repeated_request_is_not_sent` — how a request ends whose answer is in memory from an earlier one
-/

namespace Jukebox

namespace Engine

variable {answer : String → Reply} {useCache : Bool} {q q' : Query} {e : Engine} {p : Playlist}

-- ════════════════════════════════════════════════════════════════════════
-- Requests that the cache answers
-- ════════════════════════════════════════════════════════════════════════

/-- An admitted query that the cache knows is answered from there, and not sent. -/
theorem resolve_of_found {tier : Tier} (hadmission : e.admission q = .ok q')
    (hfound : (e.cache.lookup e.wall q').1 = some (p, tier)) (answer : String → Reply) :
    (e.resolve answer true q).1 = ⟨.ok p, q', none⟩ := by
  rcases resolve_cases true q e with
    ⟨error, q₁, hrefused, -⟩ | ⟨q₁, p₁, tier₁, cache, hadmitted, -, hlookup, hr⟩ |
      ⟨q₁, cache, hadmitted, hmisses, -⟩
  · rw [hadmission] at hrefused
    cases hrefused
  · obtain rfl := Except.ok.inj (hadmission.symm.trans hadmitted)
    rw [hlookup] at hfound
    obtain ⟨rfl, -⟩ := Prod.mk.inj (Option.some.inj hfound)
    rw [hr]
  · obtain rfl := Except.ok.inj (hadmission.symm.trans hadmitted)
    have hnone : e.cache.lookup e.wall q' = (none, cache) := hmisses
    rw [hnone] at hfound
    cases hfound

/-- A request that is answered with tracks from the cache is counted as that, and nothing else is. -/
theorem resolve_metrics_of_hit (hr : (e.resolve answer useCache q).1 = ⟨.ok p, q', none⟩)
    (hsome : p.isEmpty = false) :
    (e.resolve answer useCache q).2.metrics =
      e.metrics.addAll [(.requestsIssued, 1), (.cacheHits, 1), (Outcome.cache.counter, 1)] := by
  rw [resolve_metrics, hr, Resolution.counts_eq]
  · rfl
  · intro p' hp' _
    rw [← Except.ok.inj hp']
    exact hsome

-- ════════════════════════════════════════════════════════════════════════
-- Requests that the loader answers
-- ════════════════════════════════════════════════════════════════════════

/-- Tracks from the loader come in time, and are kept at the end of the load. -/
theorem loadEvents_of_answer (hresult : (e.load answer q).1.result = .ok p) (hsome : p.isEmpty = false) :
    ∃ loading, e.loadEvents answer q = loading ++ [.kept q p] := by
  rw [load_answer] at hresult
  unfold loadEvents
  simp only
  split at hresult
  · next hintime =>
    rw [if_pos hintime]
    cases hloaded : loaded (answer q.request) q with
    | error f =>
      rw [hloaded] at hresult
      cases hresult
    | ok p' =>
      rw [hloaded] at hresult
      obtain rfl := Except.ok.inj hresult
      rw [doneEvents, hsome, if_neg Bool.false_ne_true]
      exact ⟨_, (List.append_assoc _ [_] [_]).symm⟩
  · cases hresult

/-- Of a request that is answered by the loader nothing is left once the answer is kept, but to count how it
ended. -/
theorem requestEvents_of_answer {t : String} (hsent : (e.resolve answer useCache q).1.sent = some t)
    (hresult : (e.resolve answer useCache q).1.result = .ok p) (hsome : p.isEmpty = false) :
    ∃ loading, e.requestEvents answer useCache q =
      loading ++ [.kept (e.resolve answer useCache q).1.query p, .counted (endCounts (.ok p))] := by
  rcases resolve_cases useCache q e with
    ⟨error, q', -, hr⟩ | ⟨q', p', tier, cache, -, -, -, hr⟩ | ⟨q', cache, hadmission, hmisses, hr⟩
  · rw [hr] at hsent
    cases hsent
  · rw [hr] at hsent
    cases hsent
  · have hquery : (e.resolve answer useCache q).1.query = q' := by rw [hr, load_result]
    have hload : ((count .requestsIssued { e with cache }).load answer q').1.result = .ok p := by
      rw [← hresult, hr]
    obtain ⟨asking, -, hasking⟩ := answerEvents_of_misses (e := e.count .requestsIssued) hmisses answer
    obtain ⟨loading, hloading⟩ := loadEvents_of_answer hload hsome
    refine ⟨.counted [(.requestsIssued, 1)] :: asking ++ loading, ?_⟩
    have hanswer : (e.count .requestsIssued).answerEvents answer useCache q' =
        asking ++ (loading ++ [.kept q' p]) := hasking.trans (congrArg (asking ++ ·) hloading)
    rw [requestEvents, hresult, hquery, hadmission]
    simp only
    rw [hanswer]
    simp only [List.cons_append, List.append_assoc, List.nil_append]

end Engine

namespace Service

variable {s : Service} {first second : Step} {r : Engine.Resolution} {p : Playlist}

/-- The answer of the loader to the request of a step is kept, and nothing else comes into memory after that
before the step ends. -/
theorem events_of_answer (hr : s.resolution? first = some r) {t : String} (hsent : r.sent = some t)
    (hresult : r.result = .ok p) (hsome : p.isEmpty = false) :
    ∃ before after, s.events first = before ++ .kept r.query p :: after ∧
      ∀ promotes, Event.storedKeys promotes after = [] := by
  obtain ⟨answer, useCache, q, hrequest, rfl⟩ := resolution?_eq_some_iff.1 hr
  obtain ⟨loading, hloading⟩ := Engine.requestEvents_of_answer hsent hresult hsome
  obtain ⟨settling, hevents, hsettling⟩ := events_of_request? (s := s) hrequest
  refine ⟨loading, .counted (Engine.endCounts (.ok p)) :: settling, ?_, fun promotes => ?_⟩
  · rw [hevents, hloading, List.append_assoc]
    rfl
  · refine List.filterMap_eq_nil_iff.2 fun event hevent => ?_
    rcases List.mem_cons.1 hevent with rfl | hevent
    · rfl
    · rcases hsettling event hevent with ⟨counts, rfl⟩ | ⟨player, rfl⟩
      · rfl
      · rfl

/-- What the loader has answered is in memory after other steps, as long as it is alive and fits, and until
another playlist comes for the same fingerprint. -/
theorem known?_of_answer {capacity : Nat} {lifetime : Option Nat}
    (hstart : s.engine.cache.memory = .empty capacity lifetime) {before : List Step} {t : String}
    (hr : (s.run before).resolution? first = some r) (hsent : r.sent = some t) (hresult : r.result = .ok p)
    (hsome : p.isEmpty = false) {between : List Step} {since : List String}
    (hsince : Event.storedKeys s.engine.cache.promotes (((s.run before).step first).chronicle between) = since)
    (hother : r.query.fingerprint ∉ since) (hroom : since.toFinset.card < max 1 capacity)
    (hage : ∀ d, lifetime = some d →
      (s.run (before ++ first :: between)).engine.wall - (s.run before).engine.wall ≤ d)
    {q : Query} (hq : q.fingerprint = r.query.fingerprint) :
    (s.run (before ++ first :: between)).known? q = some (p, .memory) := by
  obtain ⟨asking, ending, hevents, hending⟩ := events_of_answer hr hsent hresult hsome
  have hlog : s.chronicle (before ++ first :: between) = (s.chronicle before ++ asking) ++
      .kept r.query p :: (ending ++ ((s.run before).step first).chronicle between) := by
    rw [chronicle_append, chronicle, hevents, List.append_assoc, List.append_assoc]
    rfl
  -- the answer is kept after the step has begun
  have hstep := (s.run before).passes_step first
  rw [hevents] at hstep
  obtain ⟨s₁, hasking, -⟩ := hstep.of_append
  have hwall := hasking.wall_le
  have hkeys : Event.storedKeys s.engine.cache.promotes
      (ending ++ ((s.run before).step first).chronicle between) = since := by
    rw [Event.storedKeys_append, hending, List.nil_append, hsince]
  have hstored : (Event.kept r.query p).stored? s.engine.cache.promotes = some (q.fingerprint, p) := by
    rw [Event.stored?, hsome, hq]
    rfl
  rw [← hq] at hother
  rw [← hkeys] at hother hroom
  refine ((s.passes_run _).lookup_eq_some_iff hstart).2 ⟨_, _, _, s₁, hlog, (s.passes_run before).append hasking,
    hstored, hother, hroom, fun d hd => ?_⟩
  have hold := hage d hd
  omega

/-- What is asked again is not sent again. After a run in which the loader has answered a request with tracks,
let no other playlist have come into memory for the fingerprint of that request, and fewer others than there
is room for, and let the answer be no older than the lifetime, counted from the beginning of the request that it
answered. Then any request that may ask the cache, and has the same fingerprint once it is admitted, ends with
the same tracks, whatever the loader would answer now. It sends nothing, and is counted as an answer from the
cache only. -/
theorem repeated_request_is_not_sent {capacity : Nat} {lifetime : Option Nat}
    (hstart : s.engine.cache.memory = .empty capacity lifetime) (before : List Step) {t : String}
    (hr : (s.run before).resolution? first = some r) (hsent : r.sent = some t) (hresult : r.result = .ok p)
    (hsome : p.isEmpty = false) (between : List Step) :
    let s₁ := s.run before
    let s₂ := s.run (before ++ first :: between)
    let since := Event.storedKeys s.engine.cache.promotes ((s₁.step first).chronicle between)
    r.query.fingerprint ∉ since → since.toFinset.card < max 1 capacity →
      (∀ d, lifetime = some d → s₂.engine.wall - s₁.engine.wall ≤ d) →
      ∀ (answer : String → Reply) (q q' : Query), s₂.engine.admission q = .ok q' →
        q'.fingerprint = r.query.fingerprint →
        (s₂.engine.resolve answer true q).1 = ⟨.ok p, q', none⟩ ∧
          (s₂.engine.resolve answer true q).2.metrics = s₂.engine.metrics.addAll
            [(.requestsIssued, 1), (.cacheHits, 1), (Outcome.cache.counter, 1)] := by
  intro s₁ s₂ since hother hroom hage answer q q' hadmission hq
  have hknown : s₂.known? q' = some (p, .memory) :=
    known?_of_answer hstart hr hsent hresult hsome rfl hother hroom hage hq
  have hend := Engine.resolve_of_found hadmission hknown answer
  exact ⟨hend, Engine.resolve_metrics_of_hit hend hsome⟩

/-- A search that has left a disabled provider for its partner has answered a later search there, for the same
terms in capitals and among blanks, until the lifetime ends. -/
theorem search_is_not_sent_after_failover :
    let s := { initial [] with engine := { (initial []).engine with
      settings := { disabled := [.youtube] }
      cache := { (initial []).engine.cache with memory := .empty 1 (some 1000) } } }
    let later := Query.new " A ".toList .soundcloud
    let s₂ := s.run [probing 0 "a", .sleep 1000]
    (s.resolution? (probing 0 "a")).bind (·.sent) = some "scsearch:a" ∧
      (s₂.engine.resolve (fun _ => .hangs) true later).1 = ⟨.ok (Playlist.single (sample "a")), later, none⟩ ∧
      (s₂.engine.resolve (fun _ => .hangs) true later).2.metrics = s₂.engine.metrics.addAll
        [(.requestsIssued, 1), (.cacheHits, 1), (Outcome.cache.counter, 1)] := by
  intro s later s₂
  let r := (s.engine.resolve (fun _ => .reports 0 (.track (sample "a"))) false (probe .youtube)).1
  have hr : (s.run []).resolution? (probing 0 "a") = some r := rfl
  have hsent : r.sent = some "scsearch:a" := by decide +kernel
  have hresult : r.result = .ok (Playlist.single (sample "a")) := by decide +kernel
  have hadmission : s₂.engine.admission later = .ok later :=
    Engine.admission_eq_ok_iff.2 (.inl ⟨by decide +kernel, by decide +kernel, rfl⟩)
  refine ⟨hsent, repeated_request_is_not_sent rfl [] hr hsent hresult rfl [.sleep 1000] ?_ ?_ ?_ (fun _ => .hangs)
    later later hadmission ?_⟩
  · exact List.not_mem_nil
  · decide
  · intro d hd
    obtain rfl : 1000 = d := Option.some.inj hd
    decide +kernel
  · decide +kernel

end Service

end Jukebox
