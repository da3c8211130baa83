import Jukebox.Proofs.Cache.Storing
import Jukebox.Proofs.Chronicle

/-!
# What becomes of a load

A request waits for the load that it has sent until the timeout. A load that is done by then answers the
request. Any other ends in the background, at its arrival or with its grace, whatever the service does in
the meantime: at the moment of its end it changes the cache or is aborted, and nothing else happens.

## Main definitions

- `Event.isReport` — what comes of the load of a request until the timeout
- `Service.EndsLate` — what the end of a load does to a service

## Main results

- `LoadOutcome.firstOnly_of_accept` — a search that keeps only the first track keeps no other
- `Service.events_of_load?` — how a request is answered that sends a load, and what it does with the load
- `Service.count_endings_run` — how often a load ends in a run
- `Service.load_answers_or_ends_late` — what becomes of a load

## Design notes

Loads are told apart by their query, their reply and the times at which they were sent and will end. Two
loads that agree in all of this could only be sent while the timeout is zero. They are counted, so that
what is said of a load holds for each of them.

The times at which loads are sent and end are those of the clock that waiting moves. What a late load leaves in
the cache is dated by the wall clock, which stands still from the beginning to the end of a step.
-/

namespace Jukebox

namespace Event

/-- What comes of the load of a request until the timeout. -/
def isReport : Event → Bool
  | missed _ | failed _ _ | kept _ _ => true
  | counted _ | asked _ _ | ended _ | reached _ | offered _ | slept _ => false

theorem misses_filter_isReport (log : List Event) : misses (log.filter isReport) = misses log := by
  unfold misses
  rw [List.filterMap_filter]
  refine List.filterMap_congr fun event _ => ?_
  cases event <;> rfl

theorem misses_append (log log' : List Event) : misses (log ++ log') = misses log ++ misses log' :=
  List.filterMap_append

end Event

/-- A search that keeps only the first track has nothing but that left to keep. -/
theorem LoadOutcome.firstOnly_of_accept {outcome : LoadOutcome} {q : Query} {p : Playlist}
    (h : outcome.accept q = .ok p) (hq : q.keepsOnlyFirst = true) : p.firstOnly = p := by
  cases outcome with
  | track t =>
    obtain rfl := Except.ok.inj h
    rfl
  | playlist reported =>
    rw [accept, if_pos hq] at h
    obtain rfl := Except.ok.inj h
    exact reported.firstOnly_firstOnly
  | noMatches =>
    obtain rfl := Except.ok.inj h
    rfl
  | failed f => cases h

namespace Reply

variable {reply : Reply} {timeout : Nat}

theorem isInTime_of_lt {delay : Nat} (h : reply.delay? = some delay) (hlt : delay < timeout) :
    reply.isInTime timeout = true := by
  rw [isInTime, h, Option.any_some, Bool.or_eq_true]
  exact .inr (decide_eq_true hlt)

theorem not_isInTime (h : ∀ delay, reply.delay? = some delay → timeout < delay) :
    reply.isInTime timeout = false := by
  cases hdelay : reply.delay? with
  | none => rw [isInTime, hdelay, Option.any_none]
  | some delay =>
    have hlt := h delay hdelay
    have hpos : delay ≠ 0 := by omega
    rw [isInTime, hdelay, Option.any_some, decide_eq_false hpos, decide_eq_false (by omega), Bool.or_false]

end Reply

namespace LateLoad

variable {l : LateLoad} {delay : Nat}

theorem arrives_iff (h : l.reply.delay? = some delay) :
    l.arrives = true ↔ l.sentAt + delay ≤ l.graceEnd := by
  rw [arrives, h, Option.any_some, decide_eq_true_iff]

theorem endsAt_of_arrives (h : l.reply.delay? = some delay) (harrives : l.arrives = true) :
    l.endsAt = l.sentAt + delay := by
  rw [endsAt, if_pos harrives, h, Option.getD_some]

theorem endsAt_of_not_arrives (harrives : l.arrives = false) : l.endsAt = l.graceEnd := by
  rw [endsAt, harrives, if_neg Bool.false_ne_true]

theorem not_arrives (h : ∀ delay, l.reply.delay? = some delay → l.graceEnd < l.sentAt + delay) :
    l.arrives = false := by
  cases hdelay : l.reply.delay? with
  | none => rw [arrives, hdelay, Option.any_none]
  | some delay =>
    rw [arrives, hdelay, Option.any_some, decide_eq_false_iff_not]
    exact Nat.not_le.2 (h delay hdelay)

theorem sentAt_le_endsAt (h : l.sentAt ≤ l.graceEnd) : l.sentAt ≤ l.endsAt := by
  unfold endsAt
  split
  · exact Nat.le_add_right _ _
  · exact h

end LateLoad

namespace Engine

variable {answer : String → Reply} {useCache : Bool} {q : Query} {e : Engine}

theorem filter_isReport_waitEvents (time : Nat) (e : Engine) :
    (e.waitEvents time).filter Event.isReport = [] := by
  unfold waitEvents
  rw [List.filter_append, List.filter_map]
  have hended : Event.isReport ∘ Event.ended = fun _ => false := rfl
  rw [hended, List.filter_false]
  rfl

theorem misses_doneEvents (q : Query) (result : Except LoadFailure Playlist) :
    Event.misses (doneEvents q result) = [] := by
  cases result with
  | error f => rfl
  | ok p =>
    simp only [doneEvents]
    split <;> rfl

theorem filter_isReport_loadEvents (answer : String → Reply) (q : Query) (e : Engine) :
    (e.loadEvents answer q).filter Event.isReport =
      if (answer q.request).isInTime e.settings.timeoutMs then
        (doneEvents q (loaded (answer q.request) q)).filter Event.isReport
      else [.missed (e.lateLoad (answer q.request) q)] := by
  unfold loadEvents
  simp only
  split
  · rw [List.filter_append, filter_isReport_waitEvents, List.nil_append]
  · unfold lateEvents
    rw [List.filter_append, filter_isReport_waitEvents, List.nil_append, List.filter_cons_of_pos rfl,
      filter_isReport_waitEvents]

/-- A query that the cache does not answer is sent once the cache has been asked. -/
theorem answerEvents_of_misses {cache : ResultCache} (h : Misses useCache q e cache)
    (answer : String → Reply) :
    ∃ asking, asking.filter Event.isReport = [] ∧
      e.answerEvents answer useCache q = asking ++ loadEvents answer q { e with cache } := by
  unfold Misses at h
  unfold answerEvents
  cases useCache with
  | false =>
    rw [if_neg Bool.false_ne_true] at h ⊢
    rw [h]
    exact ⟨[], rfl, rfl⟩
  | true =>
    rw [if_pos rfl] at h ⊢
    rw [h]
    exact ⟨[.asked q none], rfl, rfl⟩

theorem load_answer (answer : String → Reply) (q : Query) (e : Engine) :
    (e.load answer q).1.result =
      if (answer q.request).isInTime e.settings.timeoutMs then
        (loaded (answer q.request) q).mapError LoadFailure.classify
      else .error (.timedOut e.settings.timeoutMs) := by
  cases hintime : (answer q.request).isInTime e.settings.timeoutMs with
  | true =>
    rw [load_of_isInTime hintime, if_pos rfl]
    cases loaded (answer q.request) q <;> rfl
  | false =>
    rw [load_of_not_isInTime hintime]
    rfl

/-- How a request is answered that sends a load, and what comes of the load until the timeout. -/
theorem resolve_of_sent {t : String} (h : (e.resolve answer useCache q).1.sent = some t) :
    let r := (e.resolve answer useCache q).1
    t = r.query.request ∧
      r.result = (if (answer t).isInTime e.settings.timeoutMs then
          (loaded (answer t) r.query).mapError LoadFailure.classify
        else .error (.timedOut e.settings.timeoutMs)) ∧
      (e.requestEvents answer useCache q).filter Event.isReport =
        if (answer t).isInTime e.settings.timeoutMs then
          (doneEvents r.query (loaded (answer t) r.query)).filter Event.isReport
        else [.missed (e.lateLoad (answer t) r.query)] := by
  rcases resolve_cases useCache q e with
    ⟨error, q', -, hr⟩ | ⟨q', p, tier, cache, -, -, -, hr⟩ | ⟨q', cache, hadmission, hmisses, hr⟩
  · rw [hr] at h
    cases h
  · rw [hr] at h
    cases h
  · have hresult := load_answer answer q' (count .requestsIssued { e with cache })
    obtain ⟨asking, hasking, hanswer⟩ := answerEvents_of_misses (e := e.count .requestsIssued) hmisses answer
    have hevents := congrArg (List.filter Event.isReport) hanswer
    rw [List.filter_append, hasking, filter_isReport_loadEvents] at hevents
    have hquery : (e.resolve answer useCache q).1.query = q' := by rw [hr, load_result]
    have hsent : (e.resolve answer useCache q).1.sent = some q'.request := by rw [hr, load_result]
    obtain rfl := Option.some.inj (hsent.symm.trans h)
    refine ⟨?_, ?_, ?_⟩
    · rw [hquery]
    · rw [hquery, hr]
      exact hresult
    · rw [hquery, requestEvents, hadmission, List.cons_append, List.filter_cons_of_neg Bool.false_ne_true,
        List.filter_append, hevents]
      exact List.append_nil _

end Engine

namespace Service

variable {s s' s₁ : Service} {step : Step} {l : LateLoad} {before after : List Event}

theorem load?_eq_some_iff : s.load? step = some l ↔ ∃ answer useCache q t,
    step.request? = some (answer, useCache, q) ∧ (s.engine.resolve answer useCache q).1.sent = some t ∧
      s.engine.lateLoad (answer t) (s.engine.resolve answer useCache q).1.query = l := by
  simp only [load?, Option.bind_eq_some_iff, Prod.exists, Option.map_eq_some_iff, exists_and_left]

/-- The events of a step begin with those of its request. After these something is counted at most, and a player
is offered what was found. -/
theorem events_of_request? {answer : String → Reply} {useCache : Bool} {q : Query}
    (h : step.request? = some (answer, useCache, q)) :
    ∃ settling, s.events step = s.engine.requestEvents answer useCache q ++ settling ∧
      ∀ event ∈ settling, (∃ counts, event = .counted counts) ∨ ∃ player, event = .offered player := by
  cases step with
  | resolve answer' useCache' q' =>
    cases h
    exact ⟨[], (List.append_nil _).symm, fun event hevent => nomatch hevent⟩
  | submit answer' preferred requester guild input =>
    cases h
    refine ⟨_, rfl, fun event hevent => ?_⟩
    rcases List.mem_append.1 hevent with hcounted | hoffered
    · split at hcounted
      · cases hcounted
      · exact .inl ⟨_, List.mem_singleton.1 hcounted⟩
    · exact .inr ⟨_, List.mem_singleton.1 hoffered⟩
  | wait ms => cases h
  | sleep micros => cases h

/-- The request of a step accounts for all that comes of its load until the timeout. -/
theorem filter_isReport_events {answer : String → Reply} {useCache : Bool} {q : Query}
    (h : step.request? = some (answer, useCache, q)) :
    (s.events step).filter Event.isReport =
      (s.engine.requestEvents answer useCache q).filter Event.isReport := by
  obtain ⟨settling, hevents, hsettling⟩ := events_of_request? (s := s) h
  have hnone : settling.filter Event.isReport = [] := by
    refine List.filter_eq_nil_iff.2 fun event hevent => ?_
    rcases hsettling event hevent with ⟨counts, rfl⟩ | ⟨player, rfl⟩
    · exact Bool.false_ne_true
    · exact Bool.false_ne_true
  rw [hevents, List.filter_append, hnone, List.append_nil]

/-- How a request is answered that sends a load, and what comes of the load until the timeout. -/
theorem events_of_load? (h : s.load? step = some l) : ∃ r, s.resolution? step = some r ∧
    r.sent = some r.query.request ∧ l = s.engine.lateLoad l.reply r.query ∧
    r.result = (if l.reply.isInTime s.engine.settings.timeoutMs then
        (Engine.loaded l.reply r.query).mapError LoadFailure.classify
      else .error (.timedOut s.engine.settings.timeoutMs)) ∧
    (s.events step).filter Event.isReport =
      if l.reply.isInTime s.engine.settings.timeoutMs then
        (Engine.doneEvents r.query (Engine.loaded l.reply r.query)).filter Event.isReport
      else [.missed l] := by
  obtain ⟨answer, useCache, q, t, hrequest, hsent, rfl⟩ := load?_eq_some_iff.1 h
  obtain ⟨ht, hresult, hevents⟩ := Engine.resolve_of_sent hsent
  refine ⟨(s.engine.resolve answer useCache q).1, ?_, ?_, rfl, hresult, ?_⟩
  · exact resolution?_eq_some_iff.2 ⟨answer, useCache, q, hrequest, rfl⟩
  · rw [hsent, ht]
  · rw [filter_isReport_events hrequest, hevents]
    rfl

/-- A load that misses the timeout ends, in a run that begins with its request, as soon as the clock shows
the time of its end, and only once: of all loads that are like it as many have ended then as were waiting
or have become late. -/
theorem count_endings_run (hload : s.load? step = some l)
    (hlate : l.reply.isInTime s.engine.settings.timeoutMs = false) (later : List Step) :
    (Event.endings (s.chronicle (step :: later))).count l =
      if l.endsAt ≤ (s.run (step :: later)).engine.clock then
        s.engine.late.count l + 1 + (Event.misses ((s.step step).chronicle later)).count l
      else 0 := by
  obtain ⟨r, -, -, -, -, hevents⟩ := events_of_load? hload
  rw [hlate, if_neg Bool.false_ne_true] at hevents
  have hpasses := s.passes_run (step :: later)
  -- a load that is sent leaves none behind that should have ended, and no later step does
  have hpunctual : (s.run (step :: later)).engine.Punctual := by
    refine punctual_run (punctual_step fun hnone => ?_) later
    rw [hload] at hnone
    cases hnone
  have hmisses : Event.misses (s.chronicle (step :: later)) =
      l :: Event.misses ((s.step step).chronicle later) := by
    rw [chronicle, Event.misses_append, ← Event.misses_filter_isReport, hevents]
    rfl
  have hcount := hpasses.count_late l
  rw [hmisses, List.count_cons_self] at hcount
  split
  · next hends =>
    have hgone : (s.run (step :: later)).engine.late.count l = 0 := by
      refine List.count_eq_zero.2 fun hwaiting => ?_
      have hlt := hpunctual l hwaiting
      omega
    omega
  · next hends => exact List.count_eq_zero.2 fun hended => hends (hpasses.endsAt_le hended)

/-- A load that is waiting when its time comes ends at that time. -/
theorem Passes.clock_le_of_ended (h : s.Passes (before ++ .ended l :: after) s')
    (hbefore : s.Passes before s₁) (hl : l ∈ s.engine.late → s.engine.clock ≤ l.endsAt) :
    s₁.engine.clock ≤ l.endsAt := by
  obtain ⟨s₂, h₂, hrest⟩ := h.of_append
  obtain rfl : s₂ = s₁ := h₂.eq_foldl.trans hbefore.eq_foldl.symm
  cases hrest with
  | cons hfits _ => exact hbefore.clock_le_endsAt hl hfits.1

/-- Nothing that happens changes how much memory has room for. -/
theorem Passes.capacity_eq {log : List Event} (h : s.Passes log s') :
    s'.engine.cache.memory.capacity = s.engine.cache.memory.capacity :=
  h.cache (P := fun c => c.memory.capacity = s.engine.cache.memory.capacity)
    (fun now q c hc => (c.capacity_lookup now q).trans hc) (fun now q p c hc => (c.capacity_store now q p).trans hc) rfl

theorem perform_ended_of_arrives (h : l.arrives = true) (hclock : s.engine.clock ≤ l.endsAt) :
    s.perform (.ended l) = { s with engine := { s.engine with
      clock := l.endsAt
      late := s.engine.late.erase l
      cache := match l.playlist? with
        | some p => (s.engine.cache.store s.engine.wall l.query p).2
        | none => s.engine.cache } } := by
  have hfinish := s.engine.finish_of_arrives h
  rw [Nat.max_eq_right hclock] at hfinish
  exact congrArg (fun e => { s with engine := e }) hfinish

theorem perform_ended_of_not_arrives (h : l.arrives = false) (hclock : s.engine.clock ≤ l.endsAt) :
    s.perform (.ended l) = { s with engine := { s.engine with
      clock := l.endsAt
      late := s.engine.late.erase l
      aborted := s.engine.aborted ++ [l] } } := by
  have hfinish := s.engine.finish_of_not_arrives h
  rw [Nat.max_eq_right hclock] at hfinish
  exact congrArg (fun e => { s with engine := e }) hfinish

/-- What the end of a load does to a service. Times are counted from when the load was sent. -/
structure EndsLate (timeout grace : Nat) (l : LateLoad) (s : Service) : Prop where
  /-- The load ends at its time. -/
  clock_le : s.engine.clock ≤ l.endsAt
  /-- A report within the grace leaves its playlist in the cache, unless it is empty or a failure. -/
  reports : ∀ delay outcome, l.reply = .reports delay outcome → timeout < delay → delay < timeout + grace →
    l.endsAt = l.sentAt + delay ∧ s.perform (.ended l) = { s with engine := { s.engine with
      clock := l.endsAt
      late := s.engine.late.erase l
      cache := match outcome.accept l.query with
        | .ok p => if p.isEmpty then s.engine.cache else (s.engine.cache.store s.engine.wall l.query p).2
        | .error _ => s.engine.cache } }
  /-- What it leaves there is found, and is the first track alone for a search that keeps only that. -/
  stores : ∀ delay outcome p, l.reply = .reports delay outcome → timeout < delay → delay < timeout + grace →
    outcome.accept l.query = .ok p → p.isEmpty = false →
      (l.query.keepsOnlyFirst = true → p.firstOnly = p ∧ p.length = 1) ∧
      (0 < s.engine.cache.memory.capacity →
        s.engine.cache.Gains s.engine.wall l.query p (s.perform (.ended l)).engine.cache)
  /-- A load that gives up within the grace changes nothing. -/
  drops : ∀ delay, l.reply = .drops delay → timeout < delay → delay < timeout + grace →
    l.endsAt = l.sentAt + delay ∧ s.perform (.ended l) = { s with engine := { s.engine with
      clock := l.endsAt
      late := s.engine.late.erase l } }
  /-- A load that is not done by the end of the grace is aborted then. -/
  aborts : (∀ delay, l.reply.delay? = some delay → timeout + grace < delay) →
    l.endsAt = l.sentAt + timeout + grace ∧ s.perform (.ended l) = { s with engine := { s.engine with
      clock := l.endsAt
      late := s.engine.late.erase l
      aborted := s.engine.aborted ++ [l] } }

/-- A load that reports within the grace leaves its playlist in the cache when it ends. -/
theorem perform_ended_of_reports {timeout grace delay : Nat} {outcome : LoadOutcome}
    (hgrace : l.graceEnd = l.sentAt + timeout + grace) (hclock : s.engine.clock ≤ l.endsAt)
    (hreply : l.reply = .reports delay outcome) (hlt : delay < timeout + grace) :
    l.endsAt = l.sentAt + delay ∧ s.perform (.ended l) = { s with engine := { s.engine with
      clock := l.endsAt
      late := s.engine.late.erase l
      cache := match outcome.accept l.query with
        | .ok p => if p.isEmpty then s.engine.cache else (s.engine.cache.store s.engine.wall l.query p).2
        | .error _ => s.engine.cache } } := by
  have hdelay : l.reply.delay? = some delay := by rw [hreply]; rfl
  have harrives : l.arrives = true := (LateLoad.arrives_iff hdelay).2 (by omega)
  have hplaylist : l.playlist? = match outcome.accept l.query with
      | .ok p => if p.isEmpty then none else some p
      | .error _ => none := by
    rw [LateLoad.playlist?, hreply]
    rfl
  refine ⟨LateLoad.endsAt_of_arrives hdelay harrives, ?_⟩
  rw [perform_ended_of_arrives harrives hclock, hplaylist]
  cases outcome.accept l.query with
  | error f => rfl
  | ok p =>
    by_cases hempty : p.isEmpty = true
    · simp only [if_pos hempty]
    · simp only [if_neg hempty]

/-- The end of a load does what its reply says, if it comes at its time. -/
theorem endsLate_of_clock_le {timeout grace : Nat} (hgrace : l.graceEnd = l.sentAt + timeout + grace)
    (hclock : s.engine.clock ≤ l.endsAt) : s.EndsLate timeout grace l where
  clock_le := hclock
  reports := fun _ _ hreply _ hlt => perform_ended_of_reports hgrace hclock hreply hlt
  stores := by
    intro delay outcome p hreply _ hlt haccept hp
    refine ⟨fun hfirst => ?_, fun hcapacity => ?_⟩
    · have hcut := LoadOutcome.firstOnly_of_accept haccept hfirst
      have hlength := p.length_firstOnly
      rw [hcut] at hlength
      have hpos : 0 < p.length := List.length_pos_iff.2 (List.isEmpty_eq_false_iff.1 hp)
      exact ⟨hcut, by omega⟩
    · rw [(perform_ended_of_reports hgrace hclock hreply hlt).2]
      simp only [haccept, hp, Bool.false_eq_true, if_false]
      exact ResultCache.gains_store hcapacity hp s.engine.wall l.query
  drops := by
    intro delay hreply _ hlt
    have hdelay : l.reply.delay? = some delay := by rw [hreply]; rfl
    have harrives : l.arrives = true := (LateLoad.arrives_iff hdelay).2 (by omega)
    have hplaylist : l.playlist? = none := by
      rw [LateLoad.playlist?, hreply]
      rfl
    refine ⟨LateLoad.endsAt_of_arrives hdelay harrives, ?_⟩
    rw [perform_ended_of_arrives harrives hclock, hplaylist]
  aborts := by
    intro h
    have harrives := l.not_arrives fun delay hdelay => by
      have hlt := h delay hdelay
      omega
    refine ⟨?_, perform_ended_of_not_arrives harrives hclock⟩
    rw [LateLoad.endsAt_of_not_arrives harrives, hgrace]

/-- What becomes of a load, in whatever run its request begins. A report before the timeout answers the
request. Otherwise the request has timed out, and nothing else comes of it: it keeps nothing and starts no
cooldown. The load ends once, as soon as the clock shows the time of its end, and is aborted once, if it is
not done by the end of the grace. Whatever happens before and after, its end does to the service what its
reply says, and nothing else: a playlist that it leaves in the cache is found there, since memory never loses
its room. -/
theorem load_answers_or_ends_late (hload : s.load? step = some l) (later : List Step) :
    let timeout := s.engine.settings.timeoutMs
    let grace := s.engine.settings.graceMs
    let log := s.chronicle (step :: later)
    let s' := s.run (step :: later)
    s.Passes log s' ∧ ∃ r, s.resolution? step = some r ∧ r.sent = some r.query.request ∧
      l.query = r.query ∧ l.sentAt = s.engine.clock ∧
      (∀ delay outcome, l.reply = .reports delay outcome → delay < timeout →
        r.result = (outcome.accept r.query).mapError LoadFailure.classify ∧
          Event.misses (s.events step) = []) ∧
      ((∀ delay, l.reply.delay? = some delay → timeout < delay) →
        r.result = .error (.timedOut timeout) ∧ (s.events step).filter Event.isReport = [.missed l] ∧
          (Event.endings log).count l =
            if l.endsAt ≤ s'.engine.clock then
              s.engine.late.count l + 1 + (Event.misses ((s.step step).chronicle later)).count l
            else 0) ∧
      (∀ before after s₁, log = before ++ .ended l :: after → s.Passes before s₁ →
        s₁.EndsLate timeout grace l ∧
          s₁.engine.cache.memory.capacity = s.engine.cache.memory.capacity) ∧
      ((∀ delay, l.reply.delay? = some delay → timeout + grace < delay) →
        s'.engine.aborted.count l = s.engine.aborted.count l + (Event.endings log).count l) := by
  intro timeout grace log s'
  obtain ⟨r, hr, hsent, hl, hresult, hevents⟩ := events_of_load? hload
  have hpasses : s.Passes log s' := s.passes_run (step :: later)
  have hsentAt : l.sentAt = s.engine.clock := by rw [hl]; rfl
  have hgrace : l.graceEnd = l.sentAt + timeout + grace := by rw [hl]; rfl
  have hquery : l.query = r.query := by rw [hl]; rfl
  refine ⟨hpasses, r, hr, hsent, hquery, hsentAt, ?_, ?_, ?_, ?_⟩
  · intro delay outcome hreply hlt
    have hdelay : l.reply.delay? = some delay := by rw [hreply]; rfl
    have hintime := Reply.isInTime_of_lt hdelay hlt
    rw [if_pos hintime] at hresult hevents
    constructor
    · rw [hresult, hreply]
      rfl
    · rw [← Event.misses_filter_isReport, hevents, Event.misses_filter_isReport,
        Engine.misses_doneEvents]
  · intro h
    have hlate := Reply.not_isInTime h
    rw [hlate, if_neg Bool.false_ne_true] at hresult hevents
    exact ⟨hresult, hevents, count_endings_run hload hlate later⟩
  · intro before after s₁ hlog hbefore
    rw [hlog] at hpasses
    refine ⟨endsLate_of_clock_le hgrace (hpasses.clock_le_of_ended hbefore fun _ => ?_), hbefore.capacity_eq⟩
    rw [← hsentAt]
    exact LateLoad.sentAt_le_endsAt (by omega)
  · intro h
    refine hpasses.count_aborted (l.not_arrives fun delay hdelay => ?_)
    have hlt := h delay hdelay
    omega

/-- The end of a load moves the clock, but not the one that ages are told by. -/
theorem known?_reached_ended (time : Nat) (l : LateLoad) (q : Query) (s : Service) :
    ((s.perform (.ended l)).perform (.reached time)).known? q =
      ((s.perform (.ended l)).engine.cache.lookup s.engine.wall q).1 := by
  change ((s.perform (.ended l)).engine.cache.lookup (s.engine.finish l).wall q).1 = _
  rw [Engine.finish_wall]

/-- A load that takes longer than the timeout and is done within the grace ends once while the service
waits for it. What it has brought is found then, and was not before. -/
theorem slow_load_ends_once :
    let step := probing 5000 "a"
    let s₁ := (initial []).run [step]
    ∃ l r, (initial []).load? step = some l ∧ (initial []).resolution? step = some r ∧
      r.result = .error (.timedOut 3000) ∧
        (Event.endings ((initial []).chronicle [step, .wait 5000])).count l = 1 ∧
        s₁.known? (probe .youtube) = none ∧
        (s₁.step (.wait 5000)).known? (probe .youtube) = some (Playlist.single (sample "a"), .memory) := by
  intro step s₁
  let l := (initial []).engine.lateLoad (.reports 5000 (.track (sample "a"))) (probe .youtube)
  have hload : (initial []).load? step = some l := by decide +kernel
  obtain ⟨hpasses, r, hr, -, -, -, -, hlate, hends, -⟩ := load_answers_or_ends_late hload [.wait 5000]
  obtain ⟨hresult, -, hcount⟩ := hlate fun delay hdelay => by
    obtain rfl : 5000 = delay := Option.some.inj hdelay
    decide
  have hendsAt : l.endsAt = 5000 := by decide +kernel
  have hclock : ((initial []).run [step, .wait 5000]).engine.clock = s₁.engine.clock + 5000 := Engine.elapse_clock _ _
  have hover : l.endsAt ≤ ((initial []).run [step, .wait 5000]).engine.clock := by
    rw [hclock, hendsAt]
    exact Nat.le_add_left _ _
  have hmisses : Event.misses (((initial []).step step).chronicle [.wait 5000]) = [] := by
    rw [← Event.misses_filter_isReport]
    unfold chronicle events chronicle
    rw [List.append_nil, Engine.filter_isReport_waitEvents]
    rfl
  -- the load is the only one that ends while the service waits
  have hending : s₁.engine.ending (s₁.engine.clock + 5000) = [l] := by decide +kernel
  have hlog : (initial []).chronicle [step, .wait 5000] =
      (initial []).chronicle [step] ++ .ended l :: [.reached (s₁.engine.clock + 5000)] := by
    rw [← List.singleton_append, chronicle_append, chronicle_wait, hending]
    rfl
  have hbefore : (initial []).Passes ((initial []).chronicle [step]) s₁ := (initial []).passes_run [step]
  obtain ⟨hend, hcapacity⟩ := hends _ _ _ hlog hbefore
  obtain ⟨-, hgains⟩ := hend.stores 5000 _ _ rfl (by decide) (by decide) rfl rfl
  have hlifetime : s₁.engine.cache.memory.lifetime = none := by decide +kernel
  have hfound := ((hgains (hcapacity ▸ Nat.one_pos)).found s₁.engine.wall (probe .youtube) rfl).2
    fun _ h => nomatch hlifetime.symm.trans h
  rw [if_pos hover, hmisses] at hcount
  refine ⟨l, r, hload, hr, hresult, hcount, by decide +kernel, ?_⟩
  have hafter : s₁.step (.wait 5000) = (s₁.perform (.ended l)).perform (.reached (s₁.engine.clock + 5000)) := by
    have hrun := hpasses.eq_foldl
    rw [hlog, List.foldl_append, ← hbefore.eq_foldl] at hrun
    exact hrun
  rw [hafter, known?_reached_ended]
  exact hfound

end Service

end Jukebox
