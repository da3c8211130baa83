import Jukebox.Player.Roster
import Jukebox.Proofs.Player.Invariant
import Mathlib.Data.List.Nodup

/-!
# Rosters

A roster holds one player for each guild at most, and every player has become what it is by what was done with it.
It is known from the player that is found for each guild.

## Main definitions

- `Roster.Reachable` — the players are those of different guilds, each after some run

## Main results

- `Roster.find?_put` — what is found once a player was stored
- `Roster.Reachable.find?_eq_some_iff` — the player of a guild is the one that belongs to it
- `Roster.sorted_perm` — the players in order are the players
-/

namespace Jukebox

theorem Id.eq_of_val_eq {a b : Id} (h : a.val = b.val) : a = b := by
  obtain ⟨a, ha⟩ := a
  obtain ⟨b, hb⟩ := b
  obtain rfl : a = b := h
  rfl

namespace Roster

/-- The players belong to different guilds, and something was done with each since it was new. -/
structure Reachable (r : Roster) : Prop where
  nodup : (r.players.map Player.guild).Nodup
  reached : ∀ p ∈ r.players, ∃ actions, p = (Player.new p.guild r.maxQueue).run actions

variable {r : Roster} {p : Player} {guild : Id}

/-- Of players of different guilds, the one that is found for a guild is the one that belongs to it. -/
theorem Reachable.find?_eq_some_iff (h : r.Reachable) : r.find? guild = some p ↔ p ∈ r.players ∧ p.guild = guild := by
  unfold find?
  constructor
  · intro hfound
    exact ⟨List.mem_of_find?_eq_some hfound, by simpa using List.find?_some hfound⟩
  · rintro ⟨hp, rfl⟩
    have hsome : (r.players.find? fun x => x.guild = p.guild).isSome = true :=
      List.find?_isSome.2 ⟨p, hp, decide_eq_true rfl⟩
    obtain ⟨x, hx⟩ := Option.isSome_iff_exists.1 hsome
    have hguild : x.guild = p.guild := by simpa using List.find?_some hx
    rw [hx, List.inj_on_of_nodup_map h.nodup (List.mem_of_find?_eq_some hx) hp hguild]

/-- A player of a reachable roster is sound. -/
theorem Reachable.sound (h : r.Reachable) (hp : p ∈ r.players) : p.Sound r.maxQueue := by
  obtain ⟨actions, hrun⟩ := h.reached p hp
  rw [hrun]
  exact Player.sound_run p.guild r.maxQueue actions

theorem sorted_perm (r : Roster) : r.sorted.Perm r.players := List.mergeSort_perm r.players _

theorem maxQueue_put (p : Player) (r : Roster) : (r.put p).maxQueue = r.maxQueue := by
  unfold put
  split <;> rfl

/-- Storing a player makes a difference to its guild alone. -/
theorem find?_put (p : Player) (guild : Id) (r : Roster) :
    (r.put p).find? guild = if guild = p.guild then some p else r.find? guild := by
  obtain ⟨maxQueue, players⟩ := r
  have hreplaced : ∀ guild, (players.map fun q => if q.guild = p.guild then p else q).find?
      (fun q => decide (q.guild = guild)) = if guild = p.guild then
        (players.find? fun q => decide (q.guild = guild)).map fun _ => p
      else players.find? fun q => decide (q.guild = guild) := by
    intro guild
    induction players with
    | nil => simp
    | cons q players ih =>
      rw [List.map_cons, List.find?_cons, List.find?_cons, ih]
      by_cases hq : q.guild = p.guild
      · by_cases hguild : guild = p.guild
        · simp [hq, hguild]
        · simp [hq, hguild, Ne.symm hguild]
      · by_cases hguild : guild = p.guild
        · simp [hq, hguild]
        · simp [hq, hguild]
  unfold put find?
  cases hfound : players.find? fun q => decide (q.guild = p.guild) with
  | some old =>
    simp only [Option.isSome_some, if_true, hreplaced]
    by_cases hguild : guild = p.guild
    · rw [if_pos hguild, if_pos hguild, hguild, hfound, Option.map_some]
    · rw [if_neg hguild, if_neg hguild]
  | none =>
    simp only [Option.isSome_none, Bool.false_eq_true, if_false, List.find?_append]
    by_cases hguild : guild = p.guild
    · simp [hguild, hfound]
    · simp [hguild, Ne.symm hguild]

end Roster

end Jukebox
