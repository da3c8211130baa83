import Jukebox.Proofs.Event

/-!
# Chronicles of runs

Every step of a service is a sequence of events, and the chronicle of a run tells all its events in order.
The service passes through them: each event can happen when its turn comes, and together they make of the
service what the run does.

## Main definitions

- `Engine.ending` — the late loads that end by some time, in the order in which they do
- `Engine.loadEvents`, `Engine.requestEvents` — the events of a request
- `Service.events`, `Service.chronicle` — the events of a step, and of a run
- `Engine.Punctual` — no load is waiting that should have ended

## Main results

- `Service.passes_step`, `Service.passes_run` — a step, and a run, passes through its events
- `Service.punctual_step`, `Service.punctual_run` — and leaves no load waiting that should have ended
-/

namespace Jukebox

namespace Engine

variable {e : Engine} {l : LateLoad} {time : Nat}

-- ════════════════════════════════════════════════════════════════════════
-- Waiting
-- ════════════════════════════════════════════════════════════════════════

/-- The late loads that end by some time, in the order in which they end. -/
def ending (time : Nat) (e : Engine) : List LateLoad :=
  (e.late.filter fun l => l.endsAt ≤ time).mergeSort fun a b => a.endsAt ≤ b.endsAt

/-- The events while the clock moves to a time. -/
def waitEvents (time : Nat) (e : Engine) : List Event :=
  (e.ending time).map .ended ++ [.reached time]

/-- No load is waiting that should have ended. -/
def Punctual (e : Engine) : Prop := ∀ l ∈ e.late, e.clock < l.endsAt

theorem ending_perm (time : Nat) (e : Engine) :
    (e.ending time).Perm (e.late.filter fun l => l.endsAt ≤ time) :=
  List.mergeSort_perm _ _

theorem mem_ending_iff : l ∈ e.ending time ↔ l ∈ e.late ∧ l.endsAt ≤ time := by
  rw [(ending_perm time e).mem_iff, List.mem_filter, decide_eq_true_iff]

theorem pairwise_ending (time : Nat) (e : Engine) :
    (e.ending time).Pairwise fun a b => a.endsAt ≤ b.endsAt := by
  let earlier : LateLoad → LateLoad → Bool := fun a b => a.endsAt ≤ b.endsAt
  have htrans : ∀ a b c, earlier a b → earlier b c → earlier a c := by
    intro a b c hab hbc
    simp only [earlier, decide_eq_true_iff] at hab hbc ⊢
    omega
  have htotal : ∀ a b, earlier a b || earlier b a := by
    intro a b
    simp only [earlier, Bool.or_eq_true, decide_eq_true_iff]
    omega
  have hsorted := List.pairwise_mergeSort htrans htotal (e.late.filter fun l => l.endsAt ≤ time)
  exact hsorted.imp fun h => of_decide_eq_true h

theorem settle_with (clock : Nat) (late : List LateLoad) (l : LateLoad) (e : Engine) :
    settle { e with clock, late } l = { settle e l with clock, late } := by
  unfold settle
  split
  · split <;> rfl
  · rfl

theorem foldl_settle_with (clock : Nat) (late loads : List LateLoad) (e : Engine) :
    loads.foldl settle { e with clock, late } = { loads.foldl settle e with clock, late } := by
  induction loads generalizing e with
  | nil => rfl
  | cons l loads ih => rw [List.foldl_cons, List.foldl_cons, settle_with, ih]

/-- The engine after late loads have ended one after another. -/
def finishAll (loads : List LateLoad) (e : Engine) : Engine :=
  loads.foldl (fun e l => e.finish l) e

/-- Loads that end one after another end as they do all at once, and none of them waits any longer. -/
theorem finishAll_eq (loads : List LateLoad) (e : Engine) :
    e.finishAll loads =
      { loads.foldl settle e with clock := (e.finishAll loads).clock, late := e.late.diff loads } := by
  induction loads generalizing e with
  | nil => rfl
  | cons l loads ih =>
    -- the clock and the waiting loads can be set before the other loads end or after that
    have hsettle : loads.foldl settle (e.finish l) = { loads.foldl settle (e.settle l) with
        clock := max e.clock l.endsAt, late := e.late.erase l } := by
      rw [finish, settle_with, foldl_settle_with]
    have hrest := ih (e.finish l)
    rw [finish_late, ← List.diff_cons, hsettle] at hrest
    exact hrest

theorem diff_filter (p : LateLoad → Bool) (loads : List LateLoad) :
    loads.diff (loads.filter p) = loads.filter fun l => !p l := by
  induction loads with
  | nil => rfl
  | cons l loads ih =>
    by_cases h : p l = true
    · rw [List.filter_cons_of_pos h, List.diff_cons, List.erase_cons_head, ih,
        List.filter_cons_of_neg (by simp [h])]
    · rw [List.filter_cons_of_neg h, List.cons_diff_of_not_mem, ih, List.filter_cons_of_pos (by simp [h])]
      exact fun hl => h (List.mem_filter.1 hl).2

theorem finishAll_ending_late (time : Nat) (e : Engine) :
    (e.finishAll (e.ending time)).late = e.late.filter fun l => !(l.endsAt ≤ time) := by
  rw [finishAll_eq, (ending_perm time e).diff_left, diff_filter]

theorem finishAll_clock_le {loads : List LateLoad} (hclock : e.clock ≤ time)
    (hloads : ∀ l ∈ loads, l.endsAt ≤ time) : (e.finishAll loads).clock ≤ time := by
  induction loads generalizing e with
  | nil => exact hclock
  | cons l loads ih =>
    refine ih ?_ fun x hx => hloads x (List.mem_cons_of_mem l hx)
    rw [finish_clock]
    exact Nat.max_le.2 ⟨hclock, hloads l List.mem_cons_self⟩

/-- While the clock moves to a time, the loads that end by then end one after another. -/
theorem elapse_eq_finishAll (time : Nat) (e : Engine) :
    e.elapse time = { e.finishAll (e.ending time) with clock := time } := by
  rw [finishAll_eq, (ending_perm time e).diff_left, diff_filter]
  exact foldl_settle_with time (e.late.filter fun l => !(l.endsAt ≤ time)) (e.ending time) e

@[simp] theorem elapse_clock (time : Nat) (e : Engine) : (e.elapse time).clock = time := by
  rw [elapse_eq_finishAll]

@[simp] theorem elapse_late (time : Nat) (e : Engine) :
    (e.elapse time).late = e.late.filter fun l => !(l.endsAt ≤ time) := by
  rw [elapse_eq_finishAll]
  exact finishAll_ending_late time e

theorem punctual_elapse (time : Nat) (e : Engine) : (e.elapse time).Punctual := by
  intro l hl
  rw [elapse_late, List.mem_filter] at hl
  rw [elapse_clock]
  simpa using hl.2

-- ════════════════════════════════════════════════════════════════════════
-- The events of a request
-- ════════════════════════════════════════════════════════════════════════

/-- The load of a query that was sent just now, as it will be if it misses the timeout. -/
def lateLoad (reply : Reply) (q : Query) (e : Engine) : LateLoad :=
  { query := q, reply, sentAt := e.clock, graceEnd := e.clock + e.settings.timeoutMs + e.settings.graceMs }

/-- What a load that is done in time comes to. -/
def loaded (reply : Reply) (q : Query) : Except LoadFailure Playlist :=
  (reply.outcome?.getD (.failed dropped)).accept q

def doneEvents (q : Query) : Except LoadFailure Playlist → List Event
  | .ok p => if p.isEmpty then [] else [.counted (answerCounts (.ok p)), .kept q p]
  | .error f => [.failed q.provider f.classify]

/-- The events until the load of a query misses the timeout. -/
def lateEvents (reply : Reply) (q : Query) (e : Engine) : List Event :=
  let timeout := e.clock + e.settings.timeoutMs
  let load := e.lateLoad reply q
  let waited := e.elapse timeout
  e.waitEvents timeout ++ .missed load :: waitEvents timeout { waited with late := waited.late ++ [load] }

/-- The events from sending a query to its answer or the timeout. -/
def loadEvents (answer : String → Reply) (q : Query) (e : Engine) : List Event :=
  let reply := answer q.request
  if reply.isInTime e.settings.timeoutMs then
    e.waitEvents (e.clock + reply.delay?.getD 0) ++ doneEvents q (loaded reply q)
  else e.lateEvents reply q

def answerEvents (answer : String → Reply) (useCache : Bool) (q : Query) (e : Engine) : List Event :=
  if useCache then
    let (found, cache) := e.cache.lookup e.wall q
    .asked q found ::
      if found.isSome then [.counted [(.cacheHits, 1), (Outcome.cache.counter, 1)]]
      else loadEvents answer q { e with cache }
  else e.loadEvents answer q

/-- The events of a request. -/
def requestEvents (answer : String → Reply) (useCache : Bool) (q : Query) (e : Engine) : List Event :=
  .counted [(.requestsIssued, 1)] ::
    (match e.admission q with
      | .error _ => []
      | .ok q' => (e.count .requestsIssued).answerEvents answer useCache q') ++
    [.counted (endCounts (e.resolve answer useCache q).1.result)]

theorem load_of_isInTime {answer : String → Reply} {q : Query}
    (h : (answer q.request).isInTime e.settings.timeoutMs = true) :
    e.load answer q =
      let done := e.elapse (e.clock + (answer q.request).delay?.getD 0)
      match loaded (answer q.request) q with
      | .ok p => (⟨.ok p, q, some q.request⟩, done.welcome q p)
      | .error f => (⟨.error f.classify, q, some q.request⟩, done.coolDown q.provider f.classify) := by
  unfold load dispatch loaded
  simp only [h, if_true]
  cases ((answer q.request).outcome?.getD (.failed dropped)).accept q <;> rfl

theorem load_of_not_isInTime {answer : String → Reply} {q : Query}
    (h : (answer q.request).isInTime e.settings.timeoutMs = false) :
    e.load answer q =
      let timeout := e.clock + e.settings.timeoutMs
      let waited := e.elapse timeout
      (⟨.error (.timedOut e.settings.timeoutMs), q, some q.request⟩,
        elapse timeout { waited with late := waited.late ++ [e.lateLoad (answer q.request) q] }) := by
  unfold load dispatch
  simp only [h, Bool.false_eq_true, if_false, elapse_settings]
  rfl

theorem timeout_le_endsAt {reply : Reply} (q : Query) (h : reply.isInTime e.settings.timeoutMs = false) :
    e.clock + e.settings.timeoutMs ≤ (e.lateLoad reply q).endsAt := by
  have hgrace : e.clock + e.settings.timeoutMs ≤ (e.lateLoad reply q).graceEnd := Nat.le_add_right _ _
  unfold LateLoad.endsAt
  split
  · next harrives =>
    obtain ⟨delay, hdelay, -⟩ := (Option.any_eq_true _ _).1 harrives
    have hreply : reply.delay? = some delay := hdelay
    rw [Reply.isInTime, hreply] at h
    have hlate : e.settings.timeoutMs ≤ delay := by
      simp only [Option.any_some, Bool.or_eq_false_iff, decide_eq_false_iff_not, Nat.not_lt] at h
      exact h.2
    rw [hdelay]
    exact Nat.add_le_add_left hlate _
  · exact hgrace

theorem punctual_load (answer : String → Reply) (q : Query) (e : Engine) :
    (e.load answer q).2.Punctual := by
  have hwelcome : ∀ e q p, (welcome q p e).Punctual = e.Punctual := by
    intro e q p
    unfold welcome
    split <;> rfl
  rw [apply_load Punctual hwelcome]
  rcases dispatch_cases answer q e with ⟨p, hr⟩ | ⟨f, hr⟩ | ⟨load, hr⟩
  · rw [hr]
    exact punctual_elapse _ _
  · rw [hr, coolDown_eq]
    exact punctual_elapse _ e
  · rw [hr]
    exact punctual_elapse _ _

/-- A request leaves no load waiting that should have ended, unless it sends nothing and there was one. -/
theorem punctual_resolve {answer : String → Reply} {useCache : Bool} {q : Query}
    (h : (e.resolve answer useCache q).1.sent = none → e.Punctual) :
    (e.resolve answer useCache q).2.Punctual := by
  rcases resolve_cases useCache q e with
    ⟨error, q', -, hr⟩ | ⟨q', p, tier, cache, -, -, -, hr⟩ | ⟨q', cache, -, -, hr⟩
  · rw [hr] at h ⊢
    rw [countEnd_eq]
    exact h rfl
  · rw [hr] at h ⊢
    rw [countEnd_eq]
    exact h rfl
  · rw [hr, countEnd_eq]
    exact punctual_load answer q' _

end Engine

/-- The events once a request of a user has been settled. -/
def Intake.events (settled : Submission × Player) : List Event :=
  (if succeeded settled.1 then [] else [.counted [(.intakeFailures, 1)]]) ++ [.offered settled.2]

namespace Service

variable {s : Service}

/-- The events of a step. -/
def events (s : Service) : Step → List Event
  | .resolve answer useCache q => s.engine.requestEvents answer useCache q
  | .submit answer preferred requester guild input =>
    let q := Query.ofInput input.toList preferred
    s.engine.requestEvents answer true q ++
      Intake.events (Intake.settle requester (s.engine.resolve answer true q).1 (s.roster.player guild))
  | .wait ms => s.engine.waitEvents (s.engine.clock + ms)
  | .sleep micros => [.slept micros]

/-- The events of a run. -/
def chronicle (s : Service) : List Step → List Event
  | [] => []
  | step :: steps => s.events step ++ (s.step step).chronicle steps

theorem chronicle_append (s : Service) (steps steps' : List Step) :
    s.chronicle (steps ++ steps') = s.chronicle steps ++ (s.run steps).chronicle steps' := by
  induction steps generalizing s with
  | nil => rfl
  | cons step steps ih =>
    rw [List.cons_append, chronicle, ih, chronicle, List.append_assoc]
    rfl

/-- While a service waits, nothing happens but that loads end. -/
theorem chronicle_wait (ms : Nat) (s : Service) : s.chronicle [.wait ms] =
    (s.engine.ending (s.engine.clock + ms)).map .ended ++ [.reached (s.engine.clock + ms)] :=
  List.append_nil _

-- ════════════════════════════════════════════════════════════════════════
-- Passing through the events
-- ════════════════════════════════════════════════════════════════════════

/-- Loads that are waiting can end one after another in the order of their ends, if no other load should
end before them. -/
theorem passes_endings {loads rest : List LateLoad}
    (hsorted : loads.Pairwise fun a b => a.endsAt ≤ b.endsAt)
    (hwaiting : s.engine.late.Perm (loads ++ rest)) (hfirst : ∀ l ∈ loads, ∀ x ∈ rest, l.endsAt ≤ x.endsAt) :
    s.Passes (loads.map .ended) { s with engine := s.engine.finishAll loads } := by
  induction loads generalizing s with
  | nil => exact .nil s
  | cons l loads ih =>
    obtain ⟨hle, hsorted⟩ := List.pairwise_cons.1 hsorted
    refine .cons ⟨hwaiting.symm.subset List.mem_cons_self, fun x hx => ?_⟩ ?_
    · rcases List.mem_cons.1 (hwaiting.subset hx) with rfl | hx
      · exact Nat.le_refl _
      · rcases List.mem_append.1 hx with hx | hx
        · exact hle x hx
        · exact hfirst l List.mem_cons_self x hx
    · refine ih (s := { s with engine := s.engine.finish l }) hsorted ?_ fun x hx =>
        hfirst x (List.mem_cons_of_mem l hx)
      have hrest := hwaiting.erase l
      rwa [List.cons_append, List.erase_cons_head, ← Engine.finish_late] at hrest

theorem passes_wait {time : Nat} (hclock : s.engine.clock ≤ time) :
    s.Passes (s.engine.waitEvents time) { s with engine := s.engine.elapse time } := by
  -- the loads that end by then come before all others, which are left
  have hwaiting : s.engine.late.Perm
      (s.engine.ending time ++ s.engine.late.filter fun l => !(l.endsAt ≤ time)) :=
    (List.filter_append_perm (fun l => decide (l.endsAt ≤ time)) s.engine.late).symm.trans
      ((s.engine.ending_perm time).symm.append_right _)
  have hrest : ∀ x ∈ s.engine.late.filter fun l => !(l.endsAt ≤ time), time < x.endsAt :=
    fun x hx => by simpa using (List.mem_filter.1 hx).2
  have hendings := passes_endings (s.engine.pairwise_ending time) hwaiting fun l hl x hx =>
    (Engine.mem_ending_iff.1 hl).2.trans (hrest x hx).le
  rw [Engine.elapse_eq_finishAll]
  refine hendings.append (.cons ⟨?_, fun l hl => hrest l ?_⟩ (.nil _))
  · exact Engine.finishAll_clock_le hclock fun l hl => (Engine.mem_ending_iff.1 hl).2
  · rw [← Engine.finishAll_ending_late]
    exact hl

theorem passes_load (s : Service) (answer : String → Reply) (q : Query) :
    s.Passes (s.engine.loadEvents answer q) { s with engine := (s.engine.load answer q).2 } := by
  unfold Engine.loadEvents
  cases hintime : (answer q.request).isInTime s.engine.settings.timeoutMs with
  | true =>
    rw [Engine.load_of_isInTime hintime]
    simp only [hintime, if_true]
    refine (passes_wait (Nat.le_add_right _ _)).append ?_
    unfold Engine.doneEvents
    cases Engine.loaded (answer q.request) q with
    | error f =>
      simp only
      rw [Engine.coolDown_eq]
      exact .cons trivial (.nil _)
    | ok p =>
      simp only [Engine.answerCounts, Engine.welcome]
      split
      · exact .nil _
      · exact .cons trivial (.cons trivial (.nil _))
  | false =>
    rw [Engine.load_of_not_isInTime hintime]
    simp only [hintime, Bool.false_eq_true, if_false]
    have htimeout : ∀ e : Engine, (e.elapse (s.engine.clock + s.engine.settings.timeoutMs)).clock =
        s.engine.clock + s.engine.settings.timeoutMs := fun e => e.elapse_clock _
    refine (passes_wait (Nat.le_add_right _ _)).append (.cons ?_ (passes_wait ?_))
    · exact (htimeout s.engine).le.trans (Engine.timeout_le_endsAt q hintime)
    · exact (htimeout s.engine).le

theorem passes_answer (s : Service) (answer : String → Reply) (useCache : Bool) (q : Query) :
    s.Passes (s.engine.answerEvents answer useCache q)
      { s with engine := (s.engine.answerAdmitted answer useCache q).2 } := by
  unfold Engine.answerEvents Engine.answerAdmitted
  cases useCache with
  | false => exact passes_load s answer q
  | true =>
    simp only [if_true]
    refine .cons rfl ?_
    cases (s.engine.cache.lookup s.engine.wall q).1 with
    | some hit => exact .cons trivial (.nil _)
    | none => exact passes_load _ answer q

theorem passes_request (s : Service) (answer : String → Reply) (useCache : Bool) (q : Query) :
    s.Passes (s.engine.requestEvents answer useCache q)
      { s with engine := (s.engine.resolve answer useCache q).2 } := by
  have hend : ∀ (e : Engine) result, { s with engine := e }.Passes
      [.counted (Engine.endCounts result)] { s with engine := e.countEnd result } := by
    intro e result
    rw [Engine.countEnd_eq]
    exact .cons trivial (.nil _)
  have hcount : (s.engine.count .requestsIssued).admission q = s.engine.admission q := rfl
  unfold Engine.requestEvents Engine.resolve
  rw [List.cons_append]
  refine .cons (s := s) trivial ?_
  simp only [hcount]
  cases s.engine.admission q with
  | error refusal => exact hend _ _
  | ok q' => exact (passes_answer _ answer useCache q').append (hend _ _)

theorem passes_step (s : Service) (step : Step) : s.Passes (s.events step) (s.step step) := by
  cases step with
  | resolve answer useCache q => exact passes_request s answer useCache q
  | submit answer preferred requester guild input =>
    refine (passes_request s answer true (Query.ofInput input.toList preferred)).append ?_
    simp only [Service.step, Intake.submit, Intake.events]
    cases Intake.succeeded (Intake.settle requester _ (s.roster.player guild)).1 with
    | true => exact .cons trivial (.nil _)
    | false => exact .cons trivial (.cons trivial (.nil _))
  | wait ms => exact passes_wait (Nat.le_add_right _ _)
  | sleep micros => exact .cons trivial (.nil _)

theorem passes_run (s : Service) (steps : List Step) : s.Passes (s.chronicle steps) (s.run steps) := by
  induction steps generalizing s with
  | nil => exact .nil s
  | cons step steps ih => exact (passes_step s step).append (ih (s.step step))

-- ════════════════════════════════════════════════════════════════════════
-- Overdue loads
-- ════════════════════════════════════════════════════════════════════════

/-- The load that the request of a step sends, if it sends one. -/
def load? (s : Service) (step : Step) : Option LateLoad :=
  step.request?.bind fun (answer, useCache, q) =>
    let r := (s.engine.resolve answer useCache q).1
    r.sent.map fun t => s.engine.lateLoad (answer t) r.query

/-- A step leaves no load waiting that should have ended, and cleans up after others if it sends a load. -/
theorem punctual_step {step : Step} (h : s.load? step = none → s.engine.Punctual) :
    (s.step step).engine.Punctual := by
  cases step with
  | resolve answer useCache q =>
    exact Engine.punctual_resolve fun hsent => h (by simp [load?, Step.request?, hsent])
  | submit answer preferred requester guild input =>
    have hrequest : (s.engine.resolve answer true (Query.ofInput input.toList preferred)).2.Punctual :=
      Engine.punctual_resolve fun hsent => h (by simp [load?, Step.request?, hsent])
    simp only [Service.step, Intake.submit]
    split
    · exact hrequest
    · exact hrequest
  | wait ms => exact Engine.punctual_elapse _ _
  | sleep micros => exact h rfl

theorem punctual_run (h : s.engine.Punctual) (steps : List Step) : (s.run steps).engine.Punctual := by
  induction steps generalizing s with
  | nil => exact h
  | cons step steps ih => exact ih (punctual_step fun _ => h)

end Service

end Jukebox
