import Jukebox.Proofs.Cache.Recent

/-!
# What a map of recent entries finds

Calls of a map come at moments of a clock, through any of its handles: a clone of a handle has a capacity
and a lifetime of its own, and shares the entries and the counters. What a call finds is determined by
what was stored before, and by nothing else that was done with the map.

## Main definitions

- `Recent.Call`, `Recent.run` — calls of a map, and the map after a sequence of them
- `Recent.Use`, `Recent.Handles` — calls through handles, and the making of clones
- `Recent.IsLastInsert`, `Recent.insertedSince` — the last value stored under a key, and the other keys
  stored since

## Main results

- `Recent.reflects_run` — the map after a sequence of calls holds what their insertions leave
- `Recent.handles_run` — all handles show one and the same map
- `Recent.get_eq_some_iff_isLastInsert` — what is found, by the calls that were made
-/

namespace Jukebox

namespace Recent

variable {κ ν : Type}

/-- A call of a map. -/
inductive Call (κ ν : Type) where
  | insert (key : κ) (value : ν)
  | get (key : κ)
  | sweep

/-- The entry that a call stores, if it stores one. -/
def Call.inserted? (lifetime : Option Nat) (now : Nat) : Call κ ν → Option (Entry κ ν)
  | insert key value => some ⟨key, value, now, lifetime⟩
  | get _ | sweep => none

/-- What calls have stored, the newest entry first. -/
def history (lifetime : Option Nat) (calls : List (Nat × Call κ ν)) : List (Entry κ ν) :=
  (calls.filterMap fun (now, call) => call.inserted? lifetime now).reverse

variable [DecidableEq κ]

/-- The map after a call. -/
def perform (now : Nat) (call : Call κ ν) (c : Recent κ ν) : Recent κ ν :=
  match call with
  | .insert key value => (c.insert now key value).2
  | .get key => (c.get now key).2
  | .sweep => (c.sweep now).2

/-- The map after calls at their moments. -/
def run (c : Recent κ ν) (calls : List (Nat × Call κ ν)) : Recent κ ν :=
  calls.foldl (fun c (now, call) => c.perform now call) c

-- ════════════════════════════════════════════════════════════════════════
-- Handles
-- ════════════════════════════════════════════════════════════════════════

/-- The map as each handle shows it. Handles are numbered. -/
abbrev Handles (κ ν : Type) := Nat → Recent κ ν

/-- Something done with handles: one of them becomes a clone of another, or a call is made through one. -/
inductive Use (κ ν : Type) where
  | clone (original copy : Nat)
  | through (handle : Nat) (now : Nat) (call : Call κ ν)

/-- The call that is made, with its moment, if one is. -/
def Use.call? : Use κ ν → Option (Nat × Call κ ν)
  | clone _ _ => none
  | through _ now call => some (now, call)

/-- The handles after something was done with them. A call changes what all handles share; its capacity and
its lifetime are each handle's own. -/
def Handles.perform (handles : Handles κ ν) : Use κ ν → Handles κ ν
  | .clone original copy => fun i => if i = copy then handles original else handles i
  | .through handle now call => fun i =>
    { (handles handle).perform now call with
      capacity := (handles i).capacity
      lifetime := (handles i).lifetime }

/-- The handles after a sequence of uses. -/
def Handles.run (handles : Handles κ ν) (uses : List (Use κ ν)) : Handles κ ν :=
  uses.foldl Handles.perform handles

/-- The handles once a handle has become a clone of another. -/
def Handles.clone (original copy : Nat) (handles : Handles κ ν) : Handles κ ν :=
  fun i => if i = copy then handles original else handles i

/-- The handles once what they share was changed through one of them. -/
def Handles.share (change : Recent κ ν → Recent κ ν) (handle : Nat) (handles : Handles κ ν) : Handles κ ν :=
  fun i => { change (handles handle) with
    capacity := (handles i).capacity
    lifetime := (handles i).lifetime }

omit [DecidableEq κ] in
theorem Handles.clone_same (original copy : Nat) (c : Recent κ ν) :
    Handles.clone original copy (fun _ => c) = fun _ => c := by
  funext i
  exact ite_self c

omit [DecidableEq κ] in
/-- Handles that show one map go on to do so, if a change leaves its capacity and its lifetime alone. -/
theorem Handles.share_same (change : Recent κ ν → Recent κ ν) {c : Recent κ ν}
    (hcapacity : (change c).capacity = c.capacity) (hlifetime : (change c).lifetime = c.lifetime) (handle : Nat) :
    Handles.share change handle (fun _ => c) = fun _ => change c := by
  funext i
  simp only [Handles.share, ← hcapacity, ← hlifetime]

theorem apply_perform {β : Type} (f : Recent κ ν → β)
    (hf : ∀ (c : Recent κ ν) entries hits misses evictions expiredRemovals,
      f { c with entries, hits, misses, evictions, expiredRemovals } = f c)
    (now : Nat) (call : Call κ ν) (c : Recent κ ν) : f (c.perform now call) = f c := by
  cases call with
  | insert key value => exact hf c _ c.hits c.misses _ c.expiredRemovals
  | get key =>
    simp only [perform, get]
    split
    · exact hf c c.entries c.hits _ c.evictions c.expiredRemovals
    · split
      · exact hf c _ c.hits _ c.evictions _
      · exact hf c c.entries _ c.misses c.evictions c.expiredRemovals
  | sweep => exact hf c _ c.hits c.misses c.evictions _

@[simp] theorem perform_capacity (now : Nat) (call : Call κ ν) (c : Recent κ ν) :
    (c.perform now call).capacity = c.capacity :=
  apply_perform (·.capacity) (fun _ _ _ _ _ _ => rfl) now call c

@[simp] theorem perform_lifetime (now : Nat) (call : Call κ ν) (c : Recent κ ν) :
    (c.perform now call).lifetime = c.lifetime :=
  apply_perform (·.lifetime) (fun _ _ _ _ _ _ => rfl) now call c

@[simp] theorem run_capacity (c : Recent κ ν) (calls : List (Nat × Call κ ν)) :
    (c.run calls).capacity = c.capacity := by
  induction calls generalizing c with
  | nil => rfl
  | cons first calls ih => exact (ih _).trans (perform_capacity first.1 first.2 c)

/-- All handles show one and the same map: that after the calls that were made through any of them. -/
theorem handles_run (c : Recent κ ν) (uses : List (Use κ ν)) (handle : Nat) :
    Handles.run (fun _ => c) uses handle = c.run (uses.filterMap Use.call?) := by
  induction uses generalizing c with
  | nil => rfl
  | cons use uses ih =>
    cases use with
    | clone original copy =>
      rw [Handles.run, List.foldl_cons, List.filterMap_cons_none rfl]
      change Handles.run (Handles.clone original copy fun _ => c) uses handle = _
      rw [Handles.clone_same]
      exact ih c
    | through i now call =>
      have hsame : Handles.perform (fun _ => c) (.through i now call) =
          fun _ => c.perform now call :=
        Handles.share_same (perform now call) (perform_capacity now call c) (perform_lifetime now call c) i
      have hcall : Use.call? (.through i now call) = some (now, call) := rfl
      rw [Handles.run, List.foldl_cons, hsame, List.filterMap_cons_some hcall, run, List.foldl_cons]
      exact ih (c.perform now call)

-- ════════════════════════════════════════════════════════════════════════
-- Runs and their history
-- ════════════════════════════════════════════════════════════════════════

omit [DecidableEq κ] in
theorem history_cons (lifetime : Option Nat) (now : Nat) (call : Call κ ν) (calls : List (Nat × Call κ ν)) :
    history lifetime ((now, call) :: calls) =
      history lifetime calls ++ (call.inserted? lifetime now).toList := by
  unfold history
  cases call <;> simp [Call.inserted?]

theorem Reflects.perform {c : Recent κ ν} {now : Nat} {before : List (Entry κ ν)}
    (h : c.Reflects now before) (call : Call κ ν) :
    (c.perform now call).Reflects now ((call.inserted? c.lifetime now).toList ++ before) := by
  cases call with
  | insert key value => exact h.insert key value
  | get key => exact h.get key
  | sweep => exact h.sweep

theorem Reflects.run {c : Recent κ ν} {start now : Nat} {before : List (Entry κ ν)}
    (h : c.Reflects start before) {calls : List (Nat × Call κ ν)}
    (hclock : (start :: (calls.map Prod.fst ++ [now])).Pairwise (· ≤ ·)) :
    (c.run calls).Reflects now (history c.lifetime calls ++ before) := by
  induction calls generalizing c start before with
  | nil => exact h.later (List.rel_of_pairwise_cons hclock List.mem_cons_self)
  | cons first calls ih =>
    obtain ⟨time, call⟩ := first
    have hle : start ≤ time := List.rel_of_pairwise_cons hclock List.mem_cons_self
    have hnext := ih ((h.later hle).perform call) (List.Pairwise.of_cons hclock)
    rw [perform_lifetime] at hnext
    rwa [history_cons, List.append_assoc]

/-- The map after calls that come one after the other holds what their insertions leave. -/
theorem reflects_run (capacity : Nat) (lifetime : Option Nat) {now : Nat} {calls : List (Nat × Call κ ν)}
    (hclock : (calls.map Prod.fst ++ [now]).Pairwise (· ≤ ·)) :
    ((empty capacity lifetime).run calls).Reflects now (history lifetime calls) := by
  have hstart : (0 :: (calls.map Prod.fst ++ [now])).Pairwise (· ≤ ·) :=
    List.pairwise_cons.2 ⟨fun _ _ => Nat.zero_le _, hclock⟩
  have h := (Reflects.empty (κ := κ) (ν := ν) capacity lifetime 0).run hstart
  rwa [List.append_nil] at h

omit [DecidableEq κ] in
theorem mem_history_iff {lifetime : Option Nat} {e : Entry κ ν} {calls : List (Nat × Call κ ν)} :
    e ∈ history lifetime calls ↔
      e.lifetime = lifetime ∧ (e.storedAt, .insert e.key e.value) ∈ calls := by
  simp only [history, List.mem_reverse, List.mem_filterMap, Prod.exists]
  constructor
  · rintro ⟨now, call, hmem, hentry⟩
    cases call with
    | insert key value =>
      obtain rfl := Option.some.inj hentry
      exact ⟨rfl, hmem⟩
    | get key => cases hentry
    | sweep => cases hentry
  · rintro ⟨rfl, hmem⟩
    exact ⟨_, _, hmem, rfl⟩

-- ════════════════════════════════════════════════════════════════════════
-- The last insertion of a key
-- ════════════════════════════════════════════════════════════════════════

/-- The last value stored under a key, and the moment at which it was stored. -/
def IsLastInsert (key : κ) (value : ν) (time : Nat) (calls : List (Nat × Call κ ν)) : Prop :=
  (time, .insert key value) ∈ calls ∧
    ∀ time' value', (time', .insert key value') ∈ calls → time' ≤ time

/-- The key under which a call stores a value, if it does. -/
def Call.key? : Call κ ν → Option κ
  | insert key _ => some key
  | get _ | sweep => none

/-- The keys other than `key` under which a value was stored after a moment. -/
def insertedSince (time : Nat) (key : κ) (calls : List (Nat × Call κ ν)) : Finset κ :=
  ((calls.filter fun (now, _) => time < now).filterMap fun (_, call) => call.key?).toFinset.erase key

theorem mem_insertedSince_iff {time : Nat} {key other : κ} {calls : List (Nat × Call κ ν)} :
    other ∈ insertedSince time key calls ↔
      other ≠ key ∧ ∃ now value, time < now ∧ (now, .insert other value) ∈ calls := by
  simp only [insertedSince, Finset.mem_erase, List.mem_toFinset, List.mem_filterMap, List.mem_filter,
    decide_eq_true_iff, Prod.exists]
  refine and_congr_right fun _ => ?_
  constructor
  · rintro ⟨now, call, ⟨hmem, hlt⟩, hkey⟩
    cases call with
    | insert k value =>
      obtain rfl := Option.some.inj hkey
      exact ⟨now, value, hlt, hmem⟩
    | get k => cases hkey
    | sweep => cases hkey
  · rintro ⟨now, value, hlt, hmem⟩
    exact ⟨now, _, ⟨hmem, hlt⟩, rfl⟩

omit [DecidableEq κ] in
/-- If no two calls come at one moment, what was stored after an entry is what stands before it in the
history. -/
theorem mem_newer_iff {lifetime : Option Nat} {calls : List (Nat × Call κ ν)}
    (hclock : (calls.map Prod.fst).Pairwise (· < ·)) {newer older : List (Entry κ ν)} {e x : Entry κ ν}
    (hsplit : history lifetime calls = newer ++ e :: older) :
    x ∈ newer ↔ x ∈ history lifetime calls ∧ e.storedAt < x.storedAt := by
  have hsorted : (history lifetime calls).Pairwise fun newer older => older.storedAt < newer.storedAt := by
    rw [history, List.pairwise_reverse, List.pairwise_filterMap]
    refine (List.pairwise_map.1 hclock).imp fun {first second} hlt e he e' he' => ?_
    obtain ⟨now, call⟩ := first
    obtain ⟨now', call'⟩ := second
    cases call <;> cases call' <;> simp only [Call.inserted?, reduceCtorEq, Option.some.injEq] at he he'
    subst he he'
    exact hlt
  rw [hsplit] at hsorted ⊢
  obtain ⟨-, htail, hcross⟩ := List.pairwise_append.1 hsorted
  constructor
  · exact fun hx => ⟨List.mem_append_left _ hx, hcross x hx e List.mem_cons_self⟩
  · rintro ⟨hx, hlt⟩
    rcases List.mem_append.1 hx with hx | hx
    · exact hx
    · rcases List.mem_cons.1 hx with rfl | hx
      · exact absurd hlt (Nat.lt_irrefl _)
      · have hgt := List.rel_of_pairwise_cons htail hx
        omega

/-- If no two calls come at one moment, an entry is among the `n` latest exactly if it is the last one of
its key, and fewer than `n` other keys were stored after it. -/
theorem mem_take_latest_history_iff {lifetime : Option Nat} {calls : List (Nat × Call κ ν)}
    (hclock : (calls.map Prod.fst).Pairwise (· < ·)) {e : Entry κ ν} {n : Nat} :
    e ∈ (latest (history lifetime calls)).take n ↔ e.lifetime = lifetime ∧
      IsLastInsert e.key e.value e.storedAt calls ∧ (insertedSince e.storedAt e.key calls).card < n := by
  rw [mem_take_latest_iff]
  constructor
  · rintro ⟨newer, older, hsplit, hkey, hcard⟩
    have he : e ∈ history lifetime calls := by
      rw [hsplit]
      exact List.mem_append_right _ List.mem_cons_self
    obtain ⟨hlifetime, hcall⟩ := mem_history_iff.1 he
    -- whatever was stored after `e` is among the newer entries
    have hsince : ∀ {time other value}, e.storedAt < time → (time, Call.insert other value) ∈ calls →
        other ∈ keys newer := by
      intro time other value hlt hmem
      let x : Entry κ ν := ⟨other, value, time, lifetime⟩
      have hx : x ∈ newer := (mem_newer_iff hclock hsplit).2 ⟨mem_history_iff.2 ⟨rfl, hmem⟩, hlt⟩
      exact List.mem_map_of_mem hx
    refine ⟨hlifetime, ⟨hcall, fun time value hmem => ?_⟩, ?_⟩
    · by_contra hlt
      exact hkey (hsince (Nat.lt_of_not_le hlt) hmem)
    · refine Nat.lt_of_le_of_lt (Finset.card_le_card fun other hother => ?_) hcard
      obtain ⟨-, time, value, hlt, hmem⟩ := mem_insertedSince_iff.1 hother
      exact List.mem_toFinset.2 (hsince hlt hmem)
  · rintro ⟨hlifetime, ⟨hcall, hlast⟩, hcard⟩
    obtain ⟨newer, older, hsplit⟩ := List.append_of_mem (mem_history_iff.2 ⟨hlifetime, hcall⟩)
    have hkey : e.key ∉ keys newer := by
      intro hmem
      obtain ⟨x, hx, hxkey⟩ := List.mem_map.1 hmem
      obtain ⟨hx, hlt⟩ := (mem_newer_iff hclock hsplit).1 hx
      have hle := hlast x.storedAt x.value (hxkey ▸ (mem_history_iff.1 hx).2)
      omega
    refine ⟨newer, older, hsplit, hkey, Nat.lt_of_le_of_lt (Finset.card_le_card fun other hother => ?_) hcard⟩
    have hother := List.mem_toFinset.1 hother
    obtain ⟨x, hx, rfl⟩ := List.mem_map.1 hother
    obtain ⟨hx, hlt⟩ := (mem_newer_iff hclock hsplit).1 hx
    exact mem_insertedSince_iff.2
      ⟨fun heq => hkey (heq ▸ hother), x.storedAt, x.value, hlt, (mem_history_iff.1 hx).2⟩

/-- What a call finds, whatever was done before with the handles of a map and through whichever of them the
call is made, if no two calls come at one moment: the last value stored under the key, unless it has
outlived the lifetime or as many other keys have been stored since as there is room for. -/
theorem get_eq_some_iff_isLastInsert (capacity : Nat) (lifetime : Option Nat) (uses : List (Use κ ν))
    (handle now : Nat) (key : κ) (value : ν)
    (hclock : ((uses.filterMap Use.call?).map Prod.fst ++ [now]).Pairwise (· < ·)) :
    ((Handles.run (fun _ => empty capacity lifetime) uses handle).get now key).1 = some value ↔
      ∃ time, IsLastInsert key value time (uses.filterMap Use.call?) ∧
        (∀ d, lifetime = some d → now - time ≤ d) ∧
          (insertedSince time key (uses.filterMap Use.call?)).card < max 1 capacity := by
  have hcalls := (List.pairwise_append.1 hclock).1
  have hreflects := reflects_run (κ := κ) (ν := ν) capacity lifetime (hclock.imp Nat.le_of_lt)
  have hcapacity : (empty capacity lifetime : Recent κ ν).capacity = max 1 capacity :=
    Nat.max_comm capacity 1
  rw [handles_run, hreflects.get_eq_some_iff, run_capacity, hcapacity]
  constructor
  · rintro ⟨e, he, rfl, rfl, halive⟩
    obtain ⟨rfl, hlast, hroom⟩ := (mem_take_latest_history_iff hcalls).1 he
    exact ⟨e.storedAt, hlast, Entry.isAlive_iff.1 halive, hroom⟩
  · rintro ⟨time, hlast, hage, hroom⟩
    exact ⟨⟨key, value, time, lifetime⟩, (mem_take_latest_history_iff hcalls).2 ⟨rfl, hlast, hroom⟩, rfl, rfl,
      Entry.isAlive_iff.2 hage⟩

/-- Three keys are stored through two handles with room for two. A third call finds the second key, and the
first one is gone. -/
theorem get_after_three_insertions :
    let uses : List (Use Nat Nat) := [.through 0 1 (.insert 1 10), .clone 0 1, .through 1 2 (.insert 2 20),
      .through 0 3 (.get 1), .through 1 4 .sweep, .through 0 5 (.insert 3 30)]
    ((Handles.run (fun _ => empty 2 (some 10)) uses 1).get 6 2).1 = some 20 ∧
      ((Handles.run (fun _ => empty 2 (some 10)) uses 1).get 6 1).1 ≠ some 10 := by
  intro uses
  have hclock : ((uses.filterMap Use.call?).map Prod.fst ++ [6]).Pairwise (· < ·) := by decide
  constructor
  · refine (get_eq_some_iff_isLastInsert 2 (some 10) uses 1 6 2 20 hclock).2 ⟨2, ⟨?_, ?_⟩, ?_, by decide⟩
    · simp [uses, Use.call?]
    · simp [uses, Use.call?]
    · simp
  · intro hfound
    obtain ⟨time, ⟨hmem, -⟩, -, hroom⟩ :=
      (get_eq_some_iff_isLastInsert 2 (some 10) uses 1 6 1 10 hclock).1 hfound
    have htime : time = 1 := by simpa [uses, Use.call?] using hmem
    subst htime
    exact absurd hroom (by decide)

end Recent

end Jukebox
