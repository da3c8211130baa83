import Jukebox.Proofs.Engine.Resolve

/-!
# How cooldowns come about

A request changes a cooldown only by sending a query to a watched provider that answers in time that it
cannot keep up. The cooldown is then that of the provider, and it only ever gets longer.

## Main definitions

- `Cooldown.Watches` — only watched providers have ever been left alone
- `Engine.throttles` — the loader answers in time that it cannot keep up

## Main results

- `Engine.resolve_cooldown` — what a request does to the cooldowns
-/

namespace Jukebox

/-- Signals of these providers count, and no other provider has ever been left alone. -/
structure Cooldown.Watches (tracked : List Provider) (c : Cooldown) : Prop where
  tracked_eq : c.tracked = tracked
  deadline_eq_zero : ∀ p, p ∉ tracked → c.deadline p = 0

namespace Cooldown

variable {tracked : List Provider} {c : Cooldown} {now ms : Nat} {p p' : Provider}

theorem isActive_iff : c.isActive now p = true ↔ now < c.deadline p := by
  unfold isActive remaining?
  split
  · next h => exact iff_of_true rfl h
  · next h => exact iff_of_false Bool.false_ne_true h

theorem record_deadline (p p' : Provider) (t : Nat) (c : Cooldown) :
    (c.record p t).deadline p' = if p' = p then t else c.deadline p' := rfl

@[simp] theorem trigger_tracked (now ms : Nat) (p : Provider) (c : Cooldown) :
    (c.trigger now ms p).2.tracked = c.tracked := by
  unfold trigger
  simp only
  split <;> rfl

/-- Triggering a cooldown moves the point in time of its provider forward, and no other. -/
theorem trigger_deadline (now ms : Nat) (p p' : Provider) (c : Cooldown) :
    (c.trigger now ms p).2.deadline p' =
      if p' = p then max (c.deadline p) (min (now + ms) horizon) else c.deadline p' := by
  unfold trigger
  simp only
  split
  · next hlater =>
    unfold record
    simp only
    rw [Nat.max_eq_right (Nat.le_of_lt hlater)]
  · next hlater =>
    rw [Nat.max_eq_left (Nat.not_lt.1 hlater)]
    split
    · next heq => rw [heq]
    · rfl

theorem watches_new (tracked : List Provider) : Watches tracked { tracked } :=
  ⟨rfl, fun _ _ => rfl⟩

theorem Watches.mem_of_isActive (h : c.Watches tracked) (hactive : c.isActive now p = true) :
    p ∈ tracked := by
  refine Decidable.byContradiction fun hp => ?_
  have hdeadline := isActive_iff.1 hactive
  rw [h.deadline_eq_zero p hp] at hdeadline
  exact Nat.not_lt_zero now hdeadline

theorem Watches.tracks_iff (h : c.Watches tracked) : c.tracks p = true ↔ p ∈ tracked := by
  rw [tracks, List.contains_iff_mem, h.tracked_eq]

theorem Watches.trigger (h : c.Watches tracked) (hp : c.tracks p = true) (now ms : Nat) :
    (c.trigger now ms p).2.Watches tracked := by
  rw [h.tracks_iff] at hp
  refine ⟨(trigger_tracked now ms p c).trans h.tracked_eq, fun p' hp' => ?_⟩
  have hne : p' ≠ p := fun heq => hp' (heq ▸ hp)
  rw [trigger_deadline, if_neg hne]
  exact h.deadline_eq_zero p' hp'

end Cooldown

namespace Engine

variable {tracked : List Provider} {answer : String → Reply} {useCache : Bool} {q : Query} {e : Engine} {p : Provider}

/-- The loader answers in time that it cannot keep up. -/
def throttles (answer : String → Reply) (q : Query) (e : Engine) : Bool :=
  (answer q.request).isInTime e.settings.timeoutMs &&
    match ((answer q.request).outcome?.getD (.failed dropped)).accept q with
    | .ok _ => false
    | .error f => f.classify.isThrottling

/-- The cooldowns once a query was sent: that of a watched provider is triggered if it cannot keep up. -/
def cooldownAfter (answer : String → Reply) (q : Query) (e : Engine) : Cooldown :=
  if e.throttles answer q && e.cooldown.tracks q.provider then
    (e.cooldown.trigger e.wallMs e.settings.cooldownMs q.provider).2
  else e.cooldown

/-- Starting a cooldown depends on whether the provider is watched and cannot keep up. -/
theorem coolDown_cooldown (p : Provider) (error : ResolveError) (e : Engine) :
    (e.coolDown p error).cooldown =
      if error.isThrottling && e.cooldown.tracks p then
        (e.cooldown.trigger e.wallMs e.settings.cooldownMs p).2
      else e.cooldown := by
  unfold coolDown
  split <;> rfl

theorem dispatch_cooldown (answer : String → Reply) (q : Query) (e : Engine) :
    (e.dispatch answer q).2.cooldown = e.cooldownAfter answer q := by
  unfold dispatch cooldownAfter throttles
  simp only
  cases (answer q.request).isInTime e.settings.timeoutMs with
  | false => simp
  | true =>
    cases ((answer q.request).outcome?.getD (.failed dropped)).accept q with
    | ok p => simp
    | error f => simp [coolDown_cooldown, wallMs]

/-- What a request does to the cooldowns: nothing unless it sends a query. -/
theorem resolve_cooldown (answer : String → Reply) (useCache : Bool) (q : Query) (e : Engine) :
    (e.resolve answer useCache q).2.cooldown =
      if (e.resolve answer useCache q).1.sent.isSome then
        e.cooldownAfter answer (e.resolve answer useCache q).1.query
      else e.cooldown := by
  rcases resolve_cases useCache q e with
    ⟨error, q', -, hr⟩ | ⟨q', p, tier, cache, -, -, -, hr⟩ | ⟨q', cache, -, -, hr⟩
  · rw [hr]
    exact countEnd_cooldown _ _
  · rw [hr]
    exact countEnd_cooldown _ _
  · rw [hr, countEnd_cooldown, load_cooldown, load_result, dispatch_cooldown]
    rfl

theorem watches_resolve (h : e.cooldown.Watches tracked) (answer : String → Reply) (useCache : Bool)
    (q : Query) : (e.resolve answer useCache q).2.cooldown.Watches tracked := by
  rw [resolve_cooldown]
  split
  · unfold cooldownAfter
    split
    · next hcools => exact h.trigger (Bool.and_eq_true_iff.1 hcools).2 _ _
    · exact h
  · exact h

end Engine

end Jukebox
