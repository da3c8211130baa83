import Jukebox.Proofs.Engine.Counts
import Jukebox.Proofs.Run
import Mathlib.Data.List.Perm.Subperm
import Mathlib.Data.List.Sort

/-!
# What happens to a service

A step of a service is made of events that follow one another: something is counted, the cache is asked, a
late load ends, the clock reaches a time. Each event changes the service in one way, and can only happen
to some services. So what a run does to a service is known from the events that it passes through.

## Main definitions

- `Event` — something that happens to a service
- `Service.perform` — the service after an event
- `Event.Fits` — the event can happen to the service
- `Service.Passes` — events that happen to a service one after another, and the service afterwards
- `Event.endings`, `Event.misses` — the late loads that end in some events, and the loads that become late

## Main results

- `Service.Passes.clock_le` — the clock never goes back
- `Service.Passes.count_late` — a load that becomes late waits until it ends, and ends once
- `Service.Passes.endsAt_le` — no load ends before its time
-/

namespace Jukebox

/-- The engine after a late load has ended. The clock then shows the time at which it ends, unless it was
late already. -/
def Engine.finish (l : LateLoad) (e : Engine) : Engine :=
  settle { e with clock := max e.clock l.endsAt, late := e.late.erase l } l

namespace Engine

variable (l : LateLoad) (e : Engine)

@[simp] theorem finish_clock : (e.finish l).clock = max e.clock l.endsAt :=
  apply_settle _ (·.clock) (fun _ _ _ => rfl) (fun _ _ => rfl) l

@[simp] theorem finish_late : (e.finish l).late = e.late.erase l :=
  apply_settle _ (·.late) (fun _ _ _ => rfl) (fun _ _ => rfl) l

@[simp] theorem finish_wall : (e.finish l).wall = e.wall :=
  apply_settle _ (·.wall) (fun _ _ _ => rfl) (fun _ _ => rfl) l

theorem finish_of_arrives {l : LateLoad} (h : l.arrives = true) :
    e.finish l = { e with
      clock := max e.clock l.endsAt
      late := e.late.erase l
      cache := match l.playlist? with
        | some p => (e.cache.store e.wall l.query p).2
        | none => e.cache } := by
  unfold finish settle
  rw [if_pos h]
  cases l.playlist? <;> rfl

theorem finish_of_not_arrives {l : LateLoad} (h : l.arrives = false) :
    e.finish l = { e with
      clock := max e.clock l.endsAt
      late := e.late.erase l
      aborted := e.aborted ++ [l] } := by
  unfold finish settle
  rw [h]
  rfl

end Engine

/-- Something that happens to a service. -/
inductive Event where
  /-- Counters are increased. -/
  | counted (counts : List (Counter × UInt64))
  /-- The cache is asked, and knows the answer or not. -/
  | asked (q : Query) (found : Option (Playlist × Tier))
  /-- A late load ends. -/
  | ended (l : LateLoad)
  /-- The clock reaches a time. -/
  | reached (time : Nat)
  /-- A load misses the timeout, and is late from then on. -/
  | missed (l : LateLoad)
  /-- The load of a request fails in time. -/
  | failed (p : Provider) (error : ResolveError)
  /-- The playlist that the load of a request brought in time is kept. -/
  | kept (q : Query) (p : Playlist)
  /-- A player has been offered tracks. -/
  | offered (player : Player)
  /-- Time passes on the wall clock. -/
  | slept (micros : Nat)

namespace Event

def ended? : Event → Option LateLoad
  | ended l => some l
  | _ => none

/-- The load that becomes late, if the event is that. -/
def missed? : Event → Option LateLoad
  | missed l => some l
  | _ => none

def endings (log : List Event) : List LateLoad := log.filterMap ended?

/-- The loads that become late in some events. -/
def misses (log : List Event) : List LateLoad := log.filterMap missed?

theorem endings_cons (event : Event) (log : List Event) :
    endings (event :: log) = event.ended?.toList ++ endings log := by
  rw [endings, endings, List.filterMap_eq_flatMap_toList, List.filterMap_eq_flatMap_toList,
    List.flatMap_cons]

theorem misses_cons (event : Event) (log : List Event) :
    misses (event :: log) = event.missed?.toList ++ misses log := by
  rw [misses, misses, List.filterMap_eq_flatMap_toList, List.filterMap_eq_flatMap_toList,
    List.flatMap_cons]

/-- The event can happen to the service: the cache knows what it is said to know, of the loads that are
waiting the one ends whose time comes first, and the clock does not pass the end of a load that is still
waiting. -/
def Fits (s : Service) : Event → Prop
  | asked q found => (s.engine.cache.lookup s.engine.wall q).1 = found
  | ended l => l ∈ s.engine.late ∧ ∀ other ∈ s.engine.late, l.endsAt ≤ other.endsAt
  | reached time => s.engine.clock ≤ time ∧ ∀ l ∈ s.engine.late, time < l.endsAt
  | missed l => s.engine.clock ≤ l.endsAt
  | counted _ | failed _ _ | kept _ _ | offered _ | slept _ => True

end Event

namespace Service

/-- The service after an event. -/
def perform (s : Service) : Event → Service
  | .counted counts => { s with engine := { s.engine with metrics := s.engine.metrics.addAll counts } }
  | .asked q _ =>
    { s with engine := { s.engine with cache := (s.engine.cache.lookup s.engine.wall q).2 } }
  | .ended l => { s with engine := s.engine.finish l }
  | .reached time => { s with engine := { s.engine with clock := time } }
  | .missed l => { s with engine := { s.engine with late := s.engine.late ++ [l] } }
  | .failed p error =>
    { s with engine := { s.engine with cooldown := (s.engine.coolDown p error).cooldown } }
  | .kept q p => { s with engine := s.engine.keep q p }
  | .offered player => { s with roster := s.roster.put player }
  | .slept micros => { s with engine := { s.engine with wall := s.engine.wall + micros } }

/-- The events happen to the service one after another, each fitting the service that the ones before have
made of it. -/
inductive Passes : Service → List Event → Service → Prop where
  | nil (s : Service) : Passes s [] s
  | cons {s s' : Service} {event : Event} {log : List Event} (hfits : event.Fits s)
      (hrest : Passes (s.perform event) log s') : Passes s (event :: log) s'

variable {s s' s'' : Service} {event : Event} {log log' : List Event} {l : LateLoad}

theorem clock_le_perform (h : event.Fits s) : s.engine.clock ≤ (s.perform event).engine.clock := by
  cases event with
  | ended l =>
    change _ ≤ (s.engine.finish l).clock
    rw [Engine.finish_clock]
    exact Nat.le_max_left _ _
  | reached time => exact h.1
  | counted | asked | missed | failed | kept | offered | slept => exact Nat.le_refl _

/-- A load waits from the event that makes it late to the event that ends it. -/
theorem count_late_perform (h : event.Fits s) (l : LateLoad) :
    (s.perform event).engine.late.count l + event.ended?.toList.count l =
      s.engine.late.count l + event.missed?.toList.count l := by
  cases event with
  | ended ending =>
    change (s.engine.finish ending).late.count l + [ending].count l = _
    have hpos : 0 < s.engine.late.count ending := List.count_pos_iff.2 h.1
    rw [Engine.finish_late, List.count_erase, List.count_singleton]
    by_cases heq : ending = l
    · subst heq
      simp only [BEq.rfl, if_true, Event.missed?, Option.toList_none, List.count_nil]
      omega
    · simp [heq, Event.missed?]
  | missed load =>
    change (s.engine.late ++ [load]).count l + 0 = s.engine.late.count l + [load].count l
    rw [List.count_append, Nat.add_zero]
  | counted | asked | reached | failed | kept | offered | slept => rfl

/-- A load that does not arrive is aborted by the event that ends it. -/
theorem count_aborted_perform (hl : l.arrives = false) (s : Service) (event : Event) :
    (s.perform event).engine.aborted.count l =
      s.engine.aborted.count l + event.ended?.toList.count l := by
  cases event with
  | ended ending =>
    change (s.engine.finish ending).aborted.count l = _ + [ending].count l
    cases harrives : ending.arrives with
    | true =>
      have hne : ending ≠ l := by
        rintro rfl
        rw [hl] at harrives
        cases harrives
      rw [Engine.finish_of_arrives _ harrives, List.count_singleton, beq_eq_false_iff_ne.2 hne]
      rfl
    | false => rw [Engine.finish_of_not_arrives _ harrives, List.count_append]
  | counted | asked | reached | missed | failed | kept | offered | slept => rfl

/-- What looking up and storing leave true of a cache stays true of it, whatever happens to the service. -/
theorem cache_perform {P : ResultCache → Prop} (hlookup : ∀ now q c, P c → P (c.lookup now q).2)
    (hstore : ∀ now q p c, P c → P (c.store now q p).2) (h : P s.engine.cache) (event : Event) :
    P (s.perform event).engine.cache := by
  cases event with
  | asked q found => exact hlookup s.engine.wall q s.engine.cache h
  | kept q p => exact hstore s.engine.wall q p s.engine.cache h
  | ended l =>
    change P (s.engine.finish l).cache
    cases harrives : l.arrives with
    | false =>
      rw [Engine.finish_of_not_arrives _ harrives]
      exact h
    | true =>
      rw [Engine.finish_of_arrives _ harrives]
      cases l.playlist? with
      | none => exact h
      | some p => exact hstore s.engine.wall l.query p s.engine.cache h
  | counted | reached | missed | failed | offered | slept => exact h

/-- A load that is waiting after an event is not overdue, if it was not before or was not waiting. -/
theorem clock_le_endsAt_perform (h : event.Fits s) (hl : l ∈ s.engine.late → s.engine.clock ≤ l.endsAt)
    (hwaiting : l ∈ (s.perform event).engine.late) : (s.perform event).engine.clock ≤ l.endsAt := by
  cases event with
  | ended ending =>
    change l ∈ (s.engine.finish ending).late at hwaiting
    change (s.engine.finish ending).clock ≤ _
    rw [Engine.finish_late] at hwaiting
    rw [Engine.finish_clock]
    have hmem := List.mem_of_mem_erase hwaiting
    exact Nat.max_le.2 ⟨hl hmem, h.2 l hmem⟩
  | reached time => exact (h.2 l hwaiting).le
  | missed load =>
    rcases List.mem_append.1 hwaiting with hmem | hmem
    · exact hl hmem
    · rw [List.mem_singleton.1 hmem]
      exact h
  | counted | asked | failed | kept | offered | slept => exact hl hwaiting

namespace Passes

theorem append (h : s.Passes log s') (h' : s'.Passes log' s'') : s.Passes (log ++ log') s'' := by
  induction h with
  | nil s => exact h'
  | cons hfits _ ih => exact .cons hfits (ih h')

theorem eq_foldl (h : s.Passes log s') : s' = log.foldl perform s := by
  induction h with
  | nil s => rfl
  | cons _ _ ih => exact ih

theorem of_append (h : s.Passes (log ++ log') s'') : ∃ s', s.Passes log s' ∧ s'.Passes log' s'' := by
  induction log generalizing s with
  | nil => exact ⟨s, .nil s, h⟩
  | cons event log ih =>
    cases h with
    | cons hfits hrest =>
      obtain ⟨s', h₁, h₂⟩ := ih hrest
      exact ⟨s', .cons hfits h₁, h₂⟩

theorem cache {P : ResultCache → Prop} (hlookup : ∀ now q c, P c → P (c.lookup now q).2)
    (hstore : ∀ now q p c, P c → P (c.store now q p).2) (hpasses : s.Passes log s') (h : P s.engine.cache) :
    P s'.engine.cache := by
  induction hpasses with
  | nil s => exact h
  | cons _ _ ih => exact ih (cache_perform hlookup hstore h _)

-- ════════════════════════════════════════════════════════════════════════
-- Late loads
-- ════════════════════════════════════════════════════════════════════════

theorem clock_le (h : s.Passes log s') : s.engine.clock ≤ s'.engine.clock := by
  induction h with
  | nil s => exact Nat.le_refl _
  | cons hfits _ ih => exact Nat.le_trans (clock_le_perform hfits) ih

/-- A load that becomes late waits until it ends, and ends once: as often as it was waiting or has become
late, it has ended or is waiting. -/
theorem count_late (h : s.Passes log s') (l : LateLoad) :
    s'.engine.late.count l + (Event.endings log).count l =
      s.engine.late.count l + (Event.misses log).count l := by
  induction h with
  | nil s => rfl
  | @cons s s' event log hfits _ ih =>
    have hstep := count_late_perform hfits l
    rw [Event.endings_cons, Event.misses_cons, List.count_append, List.count_append]
    omega

/-- A load that does not arrive is aborted as often as it ends. -/
theorem count_aborted (h : s.Passes log s') (hl : l.arrives = false) :
    s'.engine.aborted.count l = s.engine.aborted.count l + (Event.endings log).count l := by
  induction h with
  | nil s => rfl
  | @cons s s' event log _ _ ih =>
    rw [ih, count_aborted_perform hl, Event.endings_cons, List.count_append, Nat.add_assoc]

/-- A load that is waiting is not overdue, if it was not when it began to wait. -/
theorem clock_le_endsAt (h : s.Passes log s') (hl : l ∈ s.engine.late → s.engine.clock ≤ l.endsAt)
    (hwaiting : l ∈ s'.engine.late) : s'.engine.clock ≤ l.endsAt := by
  induction h with
  | nil s => exact hl hwaiting
  | cons hfits _ ih => exact ih (clock_le_endsAt_perform hfits hl) hwaiting

/-- No load ends before its time. -/
theorem endsAt_le (h : s.Passes log s') (hl : l ∈ Event.endings log) : l.endsAt ≤ s'.engine.clock := by
  induction h with
  | nil s => cases hl
  | @cons s s' event log hfits hrest ih =>
    obtain ⟨ending, hmem, hending⟩ := List.mem_filterMap.1 hl
    rcases List.mem_cons.1 hmem with rfl | hmem
    · cases ending <;> simp only [Event.ended?, reduceCtorEq, Option.some.injEq] at hending
      subst hending
      refine Nat.le_trans ?_ hrest.clock_le
      change _ ≤ (s.engine.finish _).clock
      rw [Engine.finish_clock]
      exact Nat.le_max_right _ _
    · exact ih (List.mem_filterMap.2 ⟨ending, hmem, hending⟩)

end Passes

end Service

end Jukebox
