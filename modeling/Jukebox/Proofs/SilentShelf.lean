import Jukebox.Proofs.Cache.Tiers
import Jukebox.Proofs.LateLoad

/-!
# Services with a silent shelf

A shelf on which no call succeeds is the same as none. The same happens to both services in every step, so that
they stay alike but for the shelf, and nothing that a step shows tells them apart. Whoever chooses the steps,
and what the loader does in them, by what has been shown so far, chooses the same for both.

## Main definitions

- `Service.withShelf` — the service with another shelf
- `Report` — what a step shows of a service
- `Service.interact` — steps that are chosen by what the ones before have shown

## Main results

- `Service.perform_withShelf` — an event does the same with one silent shelf as with another
- `Service.step_withShelf`, `Service.report_withShelf` — and so does a step, and shows the same
- `Service.broken_shelf_is_invisible` — a service with a broken shelf is the same as one without a shelf
-/

namespace Jukebox

namespace ResultCache

variable {c : ResultCache} {shelf : Shelf}

theorem lookup_with_shelf (hc : c.shelf.IsSilent) (hshelf : shelf.IsSilent) (now : Nat) (q : Query) :
    lookup now q { c with shelf } = ((c.lookup now q).1, { (c.lookup now q).2 with shelf }) := by
  rw [lookup_of_isSilent hc, lookup_of_isSilent (c := { c with shelf }) hshelf]

theorem store_with_shelf (hc : c.shelf.IsSilent) (hshelf : shelf.IsSilent) (now : Nat) (q : Query)
    (p : Playlist) : (store now q p { c with shelf }).2 = { (c.store now q p).2 with shelf } := by
  rw [store_of_isSilent hc, store_of_isSilent (c := { c with shelf }) hshelf]

end ResultCache

-- ════════════════════════════════════════════════════════════════════════
-- Engines
-- ════════════════════════════════════════════════════════════════════════

namespace Engine

/-- The engine with another shelf. -/
def withShelf (shelf : Shelf) (e : Engine) : Engine :=
  { e with cache := { e.cache with shelf } }

variable {e : Engine} {shelf : Shelf}

theorem finish_withShelf (he : e.cache.shelf.IsSilent) (hshelf : shelf.IsSilent) (l : LateLoad) :
    (e.withShelf shelf).finish l = (e.finish l).withShelf shelf := by
  cases harrives : l.arrives with
  | false =>
    rw [finish_of_not_arrives e harrives, finish_of_not_arrives (e.withShelf shelf) harrives]
    rfl
  | true =>
    rw [finish_of_arrives e harrives, finish_of_arrives (e.withShelf shelf) harrives]
    cases l.playlist? with
    | none => rfl
    | some p => simp only [withShelf, ResultCache.store_with_shelf he hshelf]

theorem finish_shelf (he : e.cache.shelf.IsSilent) (l : LateLoad) :
    (e.finish l).cache.shelf = e.cache.shelf := by
  cases harrives : l.arrives with
  | false => rw [finish_of_not_arrives e harrives]
  | true =>
    rw [finish_of_arrives e harrives]
    cases l.playlist? with
    | none => rfl
    | some p => simp only [ResultCache.store_of_isSilent he]

/-- How a load ends, as far as the request knows, depends on the loader and the settings. -/
theorem load_withShelf (answer : String → Reply) (q : Query) (shelf : Shelf) (e : Engine) :
    ((e.withShelf shelf).load answer q).1 = (e.load answer q).1 := by
  have hresult : ((e.withShelf shelf).load answer q).1.result = (e.load answer q).1.result := by
    rw [load_answer, load_answer]
    rfl
  rw [load_result, load_result] at hresult ⊢
  exact congrArg (Resolution.mk · q (some q.request)) hresult

/-- The request of an admitted query ends alike: both caches know the same, or the loader decides. -/
theorem answerAdmitted_withShelf (he : e.cache.shelf.IsSilent) (hshelf : shelf.IsSilent) (answer : String → Reply)
    (useCache : Bool) (q : Query) :
    ((e.withShelf shelf).answerAdmitted answer useCache q).1 = (e.answerAdmitted answer useCache q).1 := by
  cases useCache with
  | false => exact load_withShelf answer q shelf e
  | true =>
    have hlookup := ResultCache.lookup_with_shelf he hshelf e.wall q
    simp only [answerAdmitted, if_true]
    rw [show (e.withShelf shelf).cache.lookup (e.withShelf shelf).wall q = _ from hlookup]
    cases (e.cache.lookup e.wall q).1 with
    | some hit => rfl
    | none => exact load_withShelf answer q shelf { e with cache := (e.cache.lookup e.wall q).2 }

theorem resolve_withShelf (he : e.cache.shelf.IsSilent) (hshelf : shelf.IsSilent) (answer : String → Reply)
    (useCache : Bool) (q : Query) :
    ((e.withShelf shelf).resolve answer useCache q).1 = (e.resolve answer useCache q).1 := by
  have hadmission : ((e.withShelf shelf).count .requestsIssued).admission q =
      (e.count .requestsIssued).admission q := rfl
  unfold resolve
  simp only [hadmission]
  cases (e.count .requestsIssued).admission q with
  | error refusal => rfl
  | ok q' => exact answerAdmitted_withShelf (e := e.count .requestsIssued) he hshelf answer useCache q'

theorem loadEvents_withShelf (answer : String → Reply) (q : Query) (shelf : Shelf) (e : Engine) :
    (e.withShelf shelf).loadEvents answer q = e.loadEvents answer q := by
  -- which loads end in the meantime is told by the clock and the list of late loads
  unfold loadEvents lateEvents waitEvents ending
  simp only [elapse_late]
  rfl

theorem answerEvents_withShelf (he : e.cache.shelf.IsSilent) (hshelf : shelf.IsSilent) (answer : String → Reply)
    (useCache : Bool) (q : Query) :
    (e.withShelf shelf).answerEvents answer useCache q = e.answerEvents answer useCache q := by
  cases useCache with
  | false => exact loadEvents_withShelf answer q shelf e
  | true =>
    have hlookup := ResultCache.lookup_with_shelf he hshelf e.wall q
    simp only [answerEvents, if_true]
    rw [show (e.withShelf shelf).cache.lookup (e.withShelf shelf).wall q = _ from hlookup]
    cases (e.cache.lookup e.wall q).1 with
    | some hit => rfl
    | none =>
      have hload := loadEvents_withShelf answer q shelf { e with cache := (e.cache.lookup e.wall q).2 }
      exact congrArg (.asked q none :: ·) hload

theorem requestEvents_withShelf (he : e.cache.shelf.IsSilent) (hshelf : shelf.IsSilent) (answer : String → Reply)
    (useCache : Bool) (q : Query) :
    (e.withShelf shelf).requestEvents answer useCache q = e.requestEvents answer useCache q := by
  have hadmission : (e.withShelf shelf).admission q = e.admission q := rfl
  have hanswer : ∀ q', ((e.withShelf shelf).count .requestsIssued).answerEvents answer useCache q' =
      (e.count .requestsIssued).answerEvents answer useCache q' := fun q' =>
    answerEvents_withShelf (e := e.count .requestsIssued) he hshelf answer useCache q'
  unfold requestEvents
  simp only [hadmission, hanswer, resolve_withShelf he hshelf answer useCache q]

end Engine

-- ════════════════════════════════════════════════════════════════════════
-- Services
-- ════════════════════════════════════════════════════════════════════════

namespace Service

/-- The service with another shelf. -/
def withShelf (shelf : Shelf) (s : Service) : Service :=
  { s with engine := s.engine.withShelf shelf }

variable {s s' : Service} {shelf : Shelf} {log : List Event}

/-- An event does the same to services with silent shelves. -/
theorem perform_withShelf (hs : s.engine.cache.shelf.IsSilent) (hshelf : shelf.IsSilent) (event : Event) :
    (s.withShelf shelf).perform event = (s.perform event).withShelf shelf := by
  cases event with
  | asked q found =>
    simp only [perform, withShelf, Engine.withShelf, ResultCache.lookup_with_shelf hs hshelf]
  | kept q p =>
    simp only [perform, withShelf, Engine.withShelf, Engine.keep, ResultCache.store_with_shelf hs hshelf]
  | ended l => exact congrArg (fun engine => { s with engine }) (Engine.finish_withShelf hs hshelf l)
  | failed p error =>
    simp only [perform, Engine.coolDown_cooldown]
    rfl
  | counted | reached | missed | offered | slept => rfl

theorem perform_shelf (hs : s.engine.cache.shelf.IsSilent) (event : Event) :
    (s.perform event).engine.cache.shelf = s.engine.cache.shelf := by
  cases event with
  | asked q found => simp only [perform, ResultCache.lookup_of_isSilent hs]
  | kept q p => simp only [perform, Engine.keep, ResultCache.store_of_isSilent hs]
  | ended l => exact Engine.finish_shelf hs l
  | counted | reached | missed | failed | offered | slept => rfl

/-- What happens to a service with a silent shelf can happen with any other silent shelf, and comes to the same. -/
theorem Passes.withShelf (h : s.Passes log s') (hs : s.engine.cache.shelf.IsSilent) (hshelf : shelf.IsSilent) :
    (s.withShelf shelf).Passes log (s'.withShelf shelf) ∧ s'.engine.cache.shelf = s.engine.cache.shelf := by
  induction h with
  | nil s => exact ⟨.nil _, rfl⟩
  | @cons s s' event log hfits _ ih =>
    have hkept := perform_shelf hs event
    obtain ⟨hrest, hshelf'⟩ := ih (hkept ▸ hs)
    rw [← perform_withShelf hs hshelf event] at hrest
    refine ⟨.cons ?_ hrest, hshelf'.trans hkept⟩
    cases event with
    | asked q found =>
      have hlookup := ResultCache.lookup_with_shelf hs hshelf s.engine.wall q
      exact (congrArg Prod.fst hlookup).trans hfits
    | counted | ended | reached | missed | failed | kept | offered | slept => exact hfits

theorem events_withShelf (hs : s.engine.cache.shelf.IsSilent) (hshelf : shelf.IsSilent) (step : Step) :
    (s.withShelf shelf).events step = s.events step := by
  cases step with
  | resolve answer useCache q => exact Engine.requestEvents_withShelf hs hshelf answer useCache q
  | submit answer preferred requester guild input =>
    have hrequest := Engine.requestEvents_withShelf hs hshelf answer true (.ofInput input.toList preferred)
    have hend := Engine.resolve_withShelf hs hshelf answer true (.ofInput input.toList preferred)
    unfold events withShelf
    simp only [hrequest, hend]
  | wait ms => rfl
  | sleep micros => rfl

/-- A step does the same to services with silent shelves, and leaves the shelf alone. -/
theorem step_withShelf (hs : s.engine.cache.shelf.IsSilent) (hshelf : shelf.IsSilent) (step : Step) :
    (s.withShelf shelf).step step = (s.step step).withShelf shelf ∧
      (s.step step).engine.cache.shelf = s.engine.cache.shelf := by
  obtain ⟨hpasses, hkept⟩ := (s.passes_step step).withShelf hs hshelf
  refine ⟨?_, hkept⟩
  rw [((s.withShelf shelf).passes_step step).eq_foldl, events_withShelf hs hshelf]
  exact hpasses.eq_foldl.symm

theorem resolution?_withShelf (hs : s.engine.cache.shelf.IsSilent) (hshelf : shelf.IsSilent) (step : Step) :
    (s.withShelf shelf).resolution? step = s.resolution? step := by
  cases hrequest : step.request? with
  | none => simp only [resolution?, hrequest, Option.map_none]
  | some request =>
    obtain ⟨answer, useCache, q⟩ := request
    simp only [resolution?, hrequest, Option.map_some]
    exact congrArg some (Engine.resolve_withShelf hs hshelf answer useCache q)

theorem submission?_withShelf (hs : s.engine.cache.shelf.IsSilent) (hshelf : shelf.IsSilent) (step : Step) :
    (s.withShelf shelf).submission? step = s.submission? step := by
  cases step with
  | submit answer preferred requester guild input =>
    have hend := Engine.resolve_withShelf hs hshelf answer true (.ofInput input.toList preferred)
    exact congrArg (fun r => some (Intake.settle requester r (s.roster.player guild)).1) hend
  | resolve answer useCache q => rfl
  | wait ms => rfl
  | sleep micros => rfl

end Service

-- ════════════════════════════════════════════════════════════════════════
-- What a service shows
-- ════════════════════════════════════════════════════════════════════════

/-- What a step shows of a service: how its request ends, with the text that was sent, what becomes of the request
of a user, and what the step leaves of the service but for the shelf. -/
structure Report where
  resolution : Option Engine.Resolution
  submission : Option Submission
  memory : Recent String Playlist
  metrics : Metrics
  cooldown : Cooldown
  late : List LateLoad
  aborted : List LateLoad
  roster : Roster

namespace Service

/-- What a step shows. -/
def report (s : Service) (step : Step) : Report :=
  let s' := s.step step
  { resolution := s.resolution? step
    submission := s.submission? step
    memory := s'.engine.cache.memory
    metrics := s'.engine.metrics
    cooldown := s'.engine.cooldown
    late := s'.engine.late
    aborted := s'.engine.aborted
    roster := s'.roster }

/-- So many steps, each chosen by what the ones before have shown: the service after them, and what they have
shown. -/
def interact (plan : List Report → Step) (s : Service) : Nat → Service × List Report
  | 0 => (s, [])
  | n + 1 =>
    let (s, reports) := s.interact plan n
    (s.step (plan reports), reports ++ [s.report (plan reports)])

variable {s : Service} {shelf : Shelf}

theorem report_withShelf (hs : s.engine.cache.shelf.IsSilent) (hshelf : shelf.IsSilent) (step : Step) :
    (s.withShelf shelf).report step = s.report step := by
  unfold report
  rw [(step_withShelf hs hshelf step).1, resolution?_withShelf hs hshelf, submission?_withShelf hs hshelf]
  rfl

/-- Services with silent shelves show the same, and stay alike but for the shelf. -/
theorem interact_withShelf (hs : s.engine.cache.shelf.IsSilent) (hshelf : shelf.IsSilent)
    (plan : List Report → Step) (n : Nat) :
    (s.withShelf shelf).interact plan n =
        ((s.interact plan n).1.withShelf shelf, (s.interact plan n).2) ∧
      (s.interact plan n).1.engine.cache.shelf = s.engine.cache.shelf := by
  induction n with
  | zero => exact ⟨rfl, rfl⟩
  | succ n ih =>
    obtain ⟨hinteract, hkept⟩ := ih
    rw [← hkept] at hs
    obtain ⟨hstep, hkept'⟩ := step_withShelf hs hshelf (plan (s.interact plan n).2)
    refine ⟨?_, hkept'.trans hkept⟩
    simp only [interact, hinteract, hstep, report_withShelf hs hshelf]

/-- A shelf on which every call fails is invisible. Whatever state a service is in, whether it promotes or not,
and however the steps and what the loader does in them are chosen by what has been shown so far: the service
with such a shelf shows the same in each step as the service without a shelf, and the two are alike in the end
but for the shelf. -/
theorem broken_shelf_is_invisible (s : Service) (lifetime lifetime' : Nat)
    (directory directory' : Option Directory) (plan : List Report → Step) (n : Nat) :
    let broken : Shelf := { kind := .broken, lifetime, directory }
    let absent : Shelf := { kind := .absent, lifetime := lifetime', directory := directory' }
    ((s.withShelf broken).interact plan n).2 = ((s.withShelf absent).interact plan n).2 ∧
      ((s.withShelf broken).interact plan n).1 =
        ((s.withShelf absent).interact plan n).1.withShelf broken := by
  intro broken absent
  have hbroken : broken.IsSilent := .inr rfl
  have habsent : (s.withShelf absent).engine.cache.shelf.IsSilent := .inl rfl
  obtain ⟨hinteract, -⟩ := interact_withShelf habsent hbroken plan n
  have hs : (s.withShelf absent).withShelf broken = s.withShelf broken := rfl
  rw [hs] at hinteract
  rw [hinteract]
  exact ⟨rfl, rfl⟩

end Service

end Jukebox
