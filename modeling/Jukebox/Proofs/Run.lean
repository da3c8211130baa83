import Jukebox.Intake
import Jukebox.Player.Roster
import Jukebox.Proofs.Engine.Cooling

/-!
# Runs

One engine serves the players of all guilds. A run is any sequence of requests and of time that passes
between them, on either clock; the loader may do something else at every step.

## Main definitions

- `Service` — the engine with the players of all guilds
- `Step` — a request, or time that passes
- `Service.run` — the service after a sequence of steps
- `Service.resolution?` — how the request of a step ends, if the step is one
- `Service.submission?` — what becomes of the request of a user
- `Service.known?` — what the cache knows for a query
- `Service.initial` — a service that has done nothing yet

## Main results

- `Service.step_cooldown` — what a step does to the cooldowns
- `Service.watches_run` — a service that starts without cooldowns only ever cools watched providers

## Design notes

The wall clock only moves between steps. However long the reply to a request takes, a cooldown that it starts
lasts from the beginning of the request, and what it keeps is as old as the request. What a late load brings is
dated by the wall clock in the step in which the load ends.
-/

namespace Jukebox

/-- The engine with the players of all guilds. -/
structure Service where
  engine : Engine
  roster : Roster

/-- A step of a service: a request made of the engine, a request of a user for the player of a guild, or
time that passes on one of the clocks. -/
inductive Step where
  | resolve (answer : String → Reply) (useCache : Bool) (q : Query)
  | submit (answer : String → Reply) (preferred : Provider) (requester guild : Id) (input : String)
  | wait (ms : Nat)
  | sleep (micros : Nat)

/-- The request that a step makes of the engine: what the loader does, whether the cache may be asked, and
the query. -/
def Step.request? : Step → Option ((String → Reply) × Bool × Query)
  | resolve answer useCache q => some (answer, useCache, q)
  | submit answer preferred _ _ input => some (answer, true, Query.ofInput input.toList preferred)
  | wait _ | sleep _ => none

namespace Service

/-- The service after a step. -/
def step (s : Service) : Step → Service
  | .resolve answer useCache q => { s with engine := (s.engine.resolve answer useCache q).2 }
  | .submit answer preferred requester guild input =>
    let (_, player, engine, _) :=
      Intake.submit answer preferred requester input (s.roster.player guild) s.engine
    { engine, roster := s.roster.put player }
  | .wait ms => { s with engine := s.engine.elapse (s.engine.clock + ms) }
  | .sleep micros => { s with engine := { s.engine with wall := s.engine.wall + micros } }

/-- The service after a sequence of steps. -/
def run (s : Service) (steps : List Step) : Service :=
  steps.foldl step s

/-- How the request of a step ends, if the step is one. -/
def resolution? (s : Service) (step : Step) : Option Engine.Resolution :=
  step.request?.map fun (answer, useCache, q) => (s.engine.resolve answer useCache q).1

/-- What becomes of the request of a user, if the step is one. -/
def submission? (s : Service) : Step → Option Submission
  | .submit answer preferred requester guild input =>
    some (Intake.submit answer preferred requester input (s.roster.player guild) s.engine).1
  | .resolve .. | .wait _ | .sleep _ => none

/-- What the cache knows for a query. -/
def known? (q : Query) (s : Service) : Option (Playlist × Tier) :=
  (s.engine.cache.lookup s.engine.wall q).1

end Service

namespace Service

variable {s : Service} {tracked : List Provider}

theorem resolution?_eq_some_iff {step : Step} {r : Engine.Resolution} :
    s.resolution? step = some r ↔ ∃ answer useCache q, step.request? = some (answer, useCache, q) ∧
      (s.engine.resolve answer useCache q).1 = r := by
  simp only [resolution?, Option.map_eq_some_iff, Prod.exists]

-- ════════════════════════════════════════════════════════════════════════
-- Cooldowns along a run
-- ════════════════════════════════════════════════════════════════════════

theorem step_cooldown (s : Service) (step : Step) :
    (s.step step).engine.cooldown =
      match step.request? with
      | some (answer, useCache, q) => (s.engine.resolve answer useCache q).2.cooldown
      | none => s.engine.cooldown := by
  cases step with
  | resolve answer useCache q => rfl
  | submit answer preferred requester guild input =>
    simp only [Service.step, Intake.submit, Step.request?]
    split <;> rfl
  | wait ms => exact Engine.elapse_cooldown _ _
  | sleep micros => rfl

theorem watches_step (h : s.engine.cooldown.Watches tracked) (step : Step) :
    (s.step step).engine.cooldown.Watches tracked := by
  rw [step_cooldown]
  split
  · exact Engine.watches_resolve h _ _ _
  · exact h

/-- A service that starts without cooldowns only ever cools watched providers. -/
theorem watches_run (h : s.engine.cooldown.Watches tracked) (steps : List Step) :
    (s.run steps).engine.cooldown.Watches tracked := by
  induction steps generalizing s with
  | nil => exact h
  | cons step steps ih => exact ih (watches_step h step)

-- ════════════════════════════════════════════════════════════════════════
-- The beginning of a run
-- ════════════════════════════════════════════════════════════════════════

/-- A service with the usual settings at the beginning of time, which has cached nothing and watches the
given providers. -/
def initial (tracked : List Provider) : Service where
  engine :=
    { settings := {}
      cache :=
        { memory := Recent.empty 1 none
          shelf := { kind := .absent, lifetime := 0, directory := none }
          promotes := false }
      cooldown := { tracked }
      wall := 0 }
  roster := { maxQueue := 0 }

/-- A search for one letter. -/
def probe (p : Provider) : Query := Query.new "a".toList p

/-- A track of which nothing but the title is known. -/
def sample (title : String) : Track :=
  { title, author := "", lengthMs := 0, identifier := title, isStream := false, uri := none, source := "" }

/-- A request for the probe, which the loader answers after some time with a sample. -/
def probing (delay : Nat) (title : String) : Step :=
  .resolve (fun _ => .reports delay (.track (sample title))) false (probe .youtube)

theorem isAddress_probe (p : Provider) : (probe p).isAddress = false := by
  have haddress : isWebAddress "a".toList = false := by decide +kernel
  exact haddress

end Service

end Jukebox
