import Jukebox.Proofs.Player.Invariant
import Jukebox.Proofs.Session.Snapshot

/-!
# What snapshots keep

A player goes on after a snapshot was taken of it, and the snapshot stays what it was. Replayed into a new player at
any later time it brings back what the player was doing then: the first track that can be written plays, where it was
if it played already, and the others follow as far as the new queue has room for them.

## Main definitions

- `Recording` — a player and the snapshots that were taken of it
- `Recording.Step`, `Recording.run` — the player goes on or a snapshot is taken, and the recording after some steps

## Main results

- `Snapshot.report_capture` — how many tracks a snapshot keeps
- `Player.playing_revived` — what plays when a player is brought back
- `Recording.taken_run` — later steps leave the snapshots that were taken as they are
- `Recording.capture_replays` — what a snapshot that was taken earlier brings back
- `Recording.replays_with_less_room` — a player that is brought back with a smaller queue
-/

namespace Jukebox

-- ════════════════════════════════════════════════════════════════════════
-- Capturing
-- ════════════════════════════════════════════════════════════════════════

namespace Snapshot

/-- A snapshot keeps the tracks that can be written and drops the others. -/
theorem report_capture (p : Player) : (capture p).2 =
    ⟨p.representable.length, p.line.countP fun item => !item.isRepresentable⟩ := by
  have hplaying : (capture p).1.playing.toList.length =
      (p.queue.current.filter QueueItem.isRepresentable).toList.length := by
    rw [playing_capture, Option.length_toList, Option.length_toList, Option.isSome_filter, Option.isSome_bind]
    simp only [Entry.isSome_ofItem?]
  have hkept : (capture p).2.kept = p.representable.length := by
    rw [Player.representable_eq, List.length_append, ← hplaying, ← Entry.length_filterMap_ofItem? p.queue.pending 0]
    rfl
  have hdropped : (capture p).2.dropped = p.line.countP fun item => !item.isRepresentable := by
    have hrest : (capture p).2.dropped = p.line.length - (capture p).2.kept := rfl
    have hcount : p.representable.length = p.line.countP QueueItem.isRepresentable :=
      List.countP_eq_length_filter.symm
    have hsplit := List.length_eq_countP_add_countP QueueItem.isRepresentable (l := p.line)
    simp only [Bool.not_eq_true, Bool.decide_eq_false] at hsplit
    omega
  rw [← hkept, ← hdropped]

end Snapshot

/-- The first track that is left plays, where it was if it played before, and otherwise from its beginning. -/
theorem Player.playing_revived (p : Player) (guild : Id) (maxQueue : Nat) :
    (p.revived guild maxQueue).playing = p.representable.head?.map fun first =>
      (first, if p.queue.current = some first then p.positionMs else 0) := by
  rw [playing, revived]
  cases hleft : p.representable with
  | nil => rfl
  | cons first rest => simp only [List.head?_cons, Option.map_some, current_eq_head_iff hleft]

-- ════════════════════════════════════════════════════════════════════════
-- Going on
-- ════════════════════════════════════════════════════════════════════════

/-- A player and the snapshots that were taken of it, the first one first. -/
structure Recording where
  player : Player
  taken : List Snapshot

namespace Recording

/-- Something is done with the player, or a snapshot is taken of it. -/
inductive Step where
  | act (action : Player.Action)
  | capture

/-- The recording after a step. -/
def perform (r : Recording) : Step → Recording
  | .act action => { r with player := r.player.perform action }
  | .capture => { r with taken := r.taken ++ [(Snapshot.capture r.player).1] }

/-- The recording after a sequence of steps. -/
def run (r : Recording) (steps : List Step) : Recording :=
  steps.foldl perform r

theorem taken_perform (step : Step) (r : Recording) : r.taken <+: (r.perform step).taken := by
  cases step with
  | act action => exact List.prefix_rfl
  | capture => exact List.prefix_append _ _

/-- Later steps leave the snapshots that were taken as they are. -/
theorem taken_run (steps : List Step) (r : Recording) : r.taken <+: (r.run steps).taken := by
  induction steps generalizing r with
  | nil => exact List.prefix_rfl
  | cons step steps ih => exact (taken_perform step r).trans (ih (r.perform step))

/-- A snapshot that was taken is found at any later time. -/
theorem getElem?_taken_capture (p : Player) (taken : List Snapshot) (later : List Step) :
    (run ⟨p, taken⟩ (.capture :: later)).taken[taken.length]? = some (Snapshot.capture p).1 := by
  obtain ⟨more, hmore⟩ := taken_run later (perform ⟨p, taken⟩ .capture)
  have htaken : (run ⟨p, taken⟩ (.capture :: later)).taken = taken ++ (Snapshot.capture p).1 :: more :=
    hmore.symm.trans (List.append_assoc ..)
  rw [htaken, List.getElem?_append_right (Nat.le_refl _), Nat.sub_self, List.getElem?_cons_zero]

/-- Whatever was done with a player before, a snapshot keeps those of its tracks that can be written and drops the
others. Whatever is done with it afterwards, the snapshot stays the same. Replayed into a new player it is taken as far
as there is room: one track plays and the others are pending in their order, all of them for the users who asked for
them. The volume and the channels are those of the player. The track that plays is the first one that was kept. It is
where it was if it played before, and at its beginning otherwise. -/
theorem capture_replays (guild fresh : Id) (maxQueue : Nat) {room : Nat} (hroom : 0 < room)
    (actions : List Player.Action) (taken : List Snapshot) (later : List Step) :
    let p := (Player.new guild maxQueue).run actions
    let kept := p.representable
    ∃ s q, Snapshot.capture p = (s, ⟨kept.length, p.line.countP fun item => !item.isRepresentable⟩) ∧
      (run ⟨p, taken⟩ (.capture :: later)).taken[taken.length]? = some s ∧
      s.restore (Player.new fresh room) = (⟨min kept.length (room + 1), kept.length - (room + 1)⟩, q) ∧
      q.volume = p.volume ∧ q.voice = p.voice ∧ q.text = p.text ∧
      q.playing = kept.head?.map (fun first => (first, if p.queue.current = some first then p.positionMs else 0)) ∧
      q.queue.pending = kept.tail.take room := by
  intro p kept
  have hvolume : p.volume ≤ Player.maxVolume := (Player.sound_run guild maxQueue actions).volume_le
  refine ⟨(Snapshot.capture p).1, p.revived fresh room, ?_, getElem?_taken_capture p taken later,
    Snapshot.restore_capture hvolume hroom fresh, rfl, rfl, rfl, p.playing_revived fresh room, rfl⟩
  rw [← Snapshot.report_capture]

/-- A player that plays a lost track far into it, and is brought back with room for one pending track while it has gone
on to something else: of the three tracks that are left the first one starts, one is pending and one is dropped. -/
theorem replays_with_less_room :
    let two : Id := ⟨2, by decide⟩
    let lost : Track := ⟨"lost", "author", 1000, "id", false, none, "local"⟩
    let track (title : String) : Track := ⟨title, "author", 1000, "id", false, none, "youtube"⟩
    let p := (Player.new .one 3).run [.resumeAt lost two 700, .enqueue [track "a", track "b"] two,
      .enqueue [track "c"] .one, .setVolume 80, .setChannels none (some two)]
    let later : List Step := [.act .stop, .capture, .act (.enqueue [track "d"] .one), .act (.setVolume 20)]
    p.playing = some (⟨lost, two⟩, 700) ∧ 0 < 1 ∧
      ∃ s q, Snapshot.capture p = (s, ⟨3, 1⟩) ∧
        (run ⟨p, []⟩ (.capture :: later)).taken[0]? = some s ∧
        s.restore (Player.new two 1) = (⟨2, 1⟩, q) ∧
        q.volume = 80 ∧ q.voice = none ∧ q.text = some two ∧
        q.playing = some (⟨track "a", two⟩, 0) ∧ q.queue.pending = [⟨track "b", two⟩] := by
  intro two lost track p later
  have hkept : p.representable = [⟨track "a", two⟩, ⟨track "b", two⟩, ⟨track "c", .one⟩] := by decide +kernel
  have hlost : (p.line.countP fun item => !item.isRepresentable) = 1 := by decide +kernel
  have hreplays := capture_replays .one two 3 Nat.one_pos [.resumeAt lost two 700,
    .enqueue [track "a", track "b"] two, .enqueue [track "c"] .one, .setVolume 80, .setChannels none (some two)]
    [] later
  change ∃ s q, Snapshot.capture p = (s, ⟨p.representable.length, p.line.countP fun item => !item.isRepresentable⟩) ∧
    _ at hreplays
  rw [hkept, hlost] at hreplays
  exact ⟨rfl, Nat.one_pos, hreplays⟩

end Recording

end Jukebox
