import Jukebox.Engine

/-!
# What the steps of the engine leave alone

The engine is one state with many parts, and each of its steps touches few of them. The lemmas here say
which parts a step leaves as they were, so that no later proof opens the step for that.

## Main results

- `Engine.apply_elapse` — letting time pass for late loads changes the cache, the clock and the lists of
  loads only
- `Engine.dispatch_cases` — what sending a query can come to
-/

namespace Jukebox

namespace Engine

variable (e : Engine)

-- ════════════════════════════════════════════════════════════════════════
-- Counting
-- ════════════════════════════════════════════════════════════════════════

@[simp] theorem count_settings (c : Counter) : (e.count c).settings = e.settings := rfl

@[simp] theorem count_cache (c : Counter) : (e.count c).cache = e.cache := rfl

@[simp] theorem count_cooldown (c : Counter) : (e.count c).cooldown = e.cooldown := rfl

@[simp] theorem count_wall (c : Counter) : (e.count c).wall = e.wall := rfl

theorem apply_countEnd {β : Type} (f : Engine → β) (hcount : ∀ e c, f (count c e) = f e)
    (result : Except ResolveError Playlist) : f (e.countEnd result) = f e := by
  unfold countEnd
  split
  · split
    · exact hcount e _
    · rfl
  · rw [hcount, hcount]

@[simp] theorem countEnd_settings (result : Except ResolveError Playlist) :
    (e.countEnd result).settings = e.settings :=
  e.apply_countEnd (·.settings) (fun _ _ => rfl) result

@[simp] theorem countEnd_cache (result : Except ResolveError Playlist) :
    (e.countEnd result).cache = e.cache :=
  e.apply_countEnd (·.cache) (fun _ _ => rfl) result

@[simp] theorem countEnd_cooldown (result : Except ResolveError Playlist) :
    (e.countEnd result).cooldown = e.cooldown :=
  e.apply_countEnd (·.cooldown) (fun _ _ => rfl) result

@[simp] theorem countEnd_wall (result : Except ResolveError Playlist) :
    (e.countEnd result).wall = e.wall :=
  e.apply_countEnd (·.wall) (fun _ _ => rfl) result

-- ════════════════════════════════════════════════════════════════════════
-- Late loads
-- ════════════════════════════════════════════════════════════════════════

/-- The end of a late load can only store a playlist or add to the aborted loads. -/
theorem apply_settle {β : Type} (f : Engine → β) (hkeep : ∀ e q p, f (keep q p e) = f e)
    (habort : ∀ (e : Engine) aborted, f { e with aborted } = f e) (l : LateLoad) :
    f (e.settle l) = f e := by
  unfold settle
  split
  · split
    · exact hkeep e _ _
    · rfl
  · exact habort e _

/-- Letting time pass changes the cache, the clock and the lists of loads only: whatever storing a
playlist and those three leave alone stays. -/
theorem apply_elapse {β : Type} (f : Engine → β) (hkeep : ∀ e q p, f (keep q p e) = f e)
    (hloads : ∀ (e : Engine) clock late aborted, f { e with clock, late, aborted } = f e)
    (time : Nat) : f (e.elapse time) = f e := by
  -- the loads that end are settled one after another, from the engine with the clock moved
  have hfold : ∀ (due : List LateLoad) (e : Engine), f (due.foldl settle e) = f e := by
    intro due
    induction due with
    | nil => exact fun _ => rfl
    | cons l due ih =>
      intro e
      rw [List.foldl_cons, ih]
      exact e.apply_settle f hkeep (fun e aborted => hloads e e.clock e.late aborted) l
  unfold elapse
  rw [hfold]
  exact hloads e time _ e.aborted

@[simp] theorem elapse_settings (time : Nat) : (e.elapse time).settings = e.settings :=
  e.apply_elapse (·.settings) (fun _ _ _ => rfl) (fun _ _ _ _ => rfl) time

@[simp] theorem elapse_cooldown (time : Nat) : (e.elapse time).cooldown = e.cooldown :=
  e.apply_elapse (·.cooldown) (fun _ _ _ => rfl) (fun _ _ _ _ => rfl) time

@[simp] theorem elapse_metrics (time : Nat) : (e.elapse time).metrics = e.metrics :=
  e.apply_elapse (·.metrics) (fun _ _ _ => rfl) (fun _ _ _ _ => rfl) time

@[simp] theorem elapse_wall (time : Nat) : (e.elapse time).wall = e.wall :=
  e.apply_elapse (·.wall) (fun _ _ _ => rfl) (fun _ _ _ _ => rfl) time

-- ════════════════════════════════════════════════════════════════════════
-- Sending
-- ════════════════════════════════════════════════════════════════════════

/-- A failure can change a cooldown, and nothing else. -/
theorem coolDown_eq (p : Provider) (error : ResolveError) :
    e.coolDown p error = { e with cooldown := (e.coolDown p error).cooldown } := by
  unfold coolDown
  split <;> rfl

/-- Sending a query comes to a playlist, to a failure that may start a cooldown, or to the timeout, with
the load among the late ones. -/
theorem dispatch_cases (answer : String → Reply) (q : Query) (e : Engine) :
    (∃ p, e.dispatch answer q = (.ok p, e.elapse (e.clock + (answer q.request).delay?.getD 0))) ∨
    (∃ f, e.dispatch answer q = (.error (LoadFailure.classify f),
      (e.elapse (e.clock + (answer q.request).delay?.getD 0)).coolDown q.provider f.classify)) ∨
    (∃ load, e.dispatch answer q = (.error (.timedOut e.settings.timeoutMs),
      elapse (e.clock + e.settings.timeoutMs)
        { e.elapse (e.clock + e.settings.timeoutMs) with
          late := (e.elapse (e.clock + e.settings.timeoutMs)).late ++ [load] })) := by
  unfold dispatch
  simp only
  split
  · split
    · next p _ => exact .inl ⟨p, rfl⟩
    · next f _ => exact .inr (.inl ⟨f, rfl⟩)
  · rw [elapse_settings]
    exact .inr (.inr ⟨_, rfl⟩)

/-- Sending a query changes neither what storing a playlist leaves alone, nor what the loads and the
cooldowns are no part of. -/
theorem apply_dispatch {β : Type} (f : Engine → β) (hkeep : ∀ e q p, f (keep q p e) = f e)
    (hloads : ∀ (e : Engine) clock late aborted, f { e with clock, late, aborted } = f e)
    (hcooldown : ∀ (e : Engine) cooldown, f { e with cooldown } = f e)
    (answer : String → Reply) (q : Query) : f (e.dispatch answer q).2 = f e := by
  rcases dispatch_cases answer q e with ⟨p, h⟩ | ⟨failure, h⟩ | ⟨load, h⟩
  · rw [h, e.apply_elapse f hkeep hloads]
  · rw [h, coolDown_eq, hcooldown, e.apply_elapse f hkeep hloads]
  · rw [h, apply_elapse _ f hkeep hloads]
    exact (hloads _ _ _ _).trans (e.apply_elapse f hkeep hloads _)

@[simp] theorem dispatch_settings (answer : String → Reply) (q : Query) :
    (e.dispatch answer q).2.settings = e.settings :=
  e.apply_dispatch (·.settings) (fun _ _ _ => rfl) (fun _ _ _ _ => rfl) (fun _ _ => rfl) answer q

@[simp] theorem dispatch_metrics (answer : String → Reply) (q : Query) :
    (e.dispatch answer q).2.metrics = e.metrics :=
  e.apply_dispatch (·.metrics) (fun _ _ _ => rfl) (fun _ _ _ _ => rfl) (fun _ _ => rfl) answer q

@[simp] theorem dispatch_wall (answer : String → Reply) (q : Query) :
    (e.dispatch answer q).2.wall = e.wall :=
  e.apply_dispatch (·.wall) (fun _ _ _ => rfl) (fun _ _ _ _ => rfl) (fun _ _ => rfl) answer q

@[simp] theorem welcome_cooldown (q : Query) (p : Playlist) :
    (e.welcome q p).cooldown = e.cooldown := by
  unfold welcome
  split <;> rfl

@[simp] theorem welcome_settings (q : Query) (p : Playlist) :
    (e.welcome q p).settings = e.settings := by
  unfold welcome
  split <;> rfl

@[simp] theorem welcome_wall (q : Query) (p : Playlist) : (e.welcome q p).wall = e.wall := by
  unfold welcome
  split <;> rfl

end Engine

end Jukebox
