import Jukebox.Proofs.Player.Enqueue

/-!
# Players along a run

A queue by itself may hold pending items while nothing is current. A player never does: it starts as soon as it
takes a track while nothing plays, and it goes on to the next item until none is left. So a player is idle exactly
if nothing plays, whatever was done with it.

## Main definitions

- `Player.Action`, `Player.run` — what can be done with a player, and the player after a sequence of it
- `Player.Sound` — what holds of a player at any time

## Main results

- `Player.Sound.perform`, `Player.sound_run` — every action keeps a player sound, and so does a run
- `Player.bounded_and_never_waiting` — what holds of a player after any run, and of what is done to it next
-/

namespace Jukebox

namespace Player

/-- Something done with a player. -/
inductive Action where
  | enqueue (tracks : List Track) (requester : Id)
  | skip
  | stop
  | setPosition (ms : UInt64)
  | setPaused (paused : Bool)
  | setVolume (volume : UInt8)
  | setChannels (voice text : Option Id)
  | resumeAt (track : Track) (requester : Id) (positionMs : UInt64)

/-- The action may change which item is current, and does not say where in it playback is. -/
def Action.movesOn : Action → Bool
  | enqueue .. | skip | stop => true
  | setPosition _ | setPaused _ | setVolume _ | setChannels .. | resumeAt .. => false

/-- The player after an action. -/
def perform (p : Player) : Action → Player
  | .enqueue tracks requester =>
    match p.enqueue tracks requester with
    | .ok (_, p') => p'
    | .error _ => p
  | .skip => p.skip
  | .stop => p.stop
  | .setPosition ms => p.setPosition ms
  | .setPaused paused => p.setPaused paused
  | .setVolume volume => p.setVolume volume
  | .setChannels voice text => p.setChannels voice text
  | .resumeAt track requester positionMs => p.resumeAt track requester positionMs

/-- The player after a sequence of actions. -/
def run (p : Player) (actions : List Action) : Player :=
  actions.foldl perform p

/-- The queue keeps to its bound, nothing waits while nothing plays, and the volume is none that is too loud. -/
structure Sound (maxQueue : Nat) (p : Player) : Prop where
  maxSize_eq : p.queue.maxSize = maxQueue
  pending_le : p.queue.pending.length ≤ maxQueue
  pending_eq_nil : p.queue.current = none → p.queue.pending = []
  volume_le : p.volume ≤ maxVolume

variable {p : Player} {maxQueue : Nat} {tracks : List Track} {requester : Id}

-- ════════════════════════════════════════════════════════════════════════
-- Enqueueing
-- ════════════════════════════════════════════════════════════════════════

theorem playing_eq_none_iff : p.playing = none ↔ p.queue.current = none := by
  unfold playing
  rw [Option.map_eq_none_iff]

/-- An enqueue either changes nothing or appends some items for which there is room. -/
theorem perform_enqueue_cases (tracks : List Track) (requester : Id) (p : Player) :
    (∀ added p', p.enqueue tracks requester = .ok (added, p') → added = 0) ∧
        p.perform (.enqueue tracks requester) = p ∨
      ∃ items, items ≠ [] ∧ items.length ≤ p.queue.room ∧
        p.enqueue tracks requester = .ok (items.length, p.append items) ∧
          p.perform (.enqueue tracks requester) = p.append items := by
  rcases enqueue_cases tracks requester p with ⟨-, h | h⟩ | ⟨hpos, h⟩
  · left
    simp [perform, h]
  · left
    refine ⟨?_, ?_⟩
    · intro added p' hadded
      rw [h] at hadded
      cases hadded
      rfl
    · simp only [perform, h]
  · right
    let items : List QueueItem := (tracks.take (min tracks.length p.queue.room)).map (⟨·, requester⟩)
    have hlength : items.length = min tracks.length p.queue.room := by
      rw [List.length_map, List.length_take]
      omega
    have htaken : p.enqueue tracks requester = .ok (items.length, p.append items) := by
      rw [hlength]
      exact h
    refine ⟨items, ?_, ?_, htaken, ?_⟩
    · apply List.ne_nil_of_length_pos
      omega
    · omega
    · simp only [perform, htaken]

/-- What is appended to an idle player is pending but for the first item, which is current then. -/
theorem Sound.append (h : p.Sound maxQueue) {items : List QueueItem} (hsome : items ≠ [])
    (hroom : items.length ≤ p.queue.room) : (p.append items).Sound maxQueue := by
  have hlength : (p.queue.pending ++ items).length ≤ maxQueue := by
    have hle := h.pending_le
    rw [Queue.room, h.maxSize_eq] at hroom
    rw [List.length_append]
    omega
  cases hcurrent : p.queue.current with
  | some now =>
    rw [append_of_current hcurrent]
    refine ⟨h.maxSize_eq, hlength, ?_, h.volume_le⟩
    intro hnone
    rw [show (p.queue.append items).current = p.queue.current from rfl, hcurrent] at hnone
    cases hnone
  | none =>
    rw [append_of_current_none hcurrent]
    refine ⟨h.maxSize_eq, ?_, ?_, h.volume_le⟩
    · change (p.queue.pending ++ items).tail.length ≤ maxQueue
      rw [List.length_tail]
      omega
    · intro hnone
      change (p.queue.pending ++ items).head? = none at hnone
      rw [h.pending_eq_nil hcurrent, List.nil_append, List.head?_eq_none_iff] at hnone
      exact absurd hnone hsome

/-- Items that a player takes are pending behind a current item, which goes on where it is; else the first of
them is current from its beginning. -/
theorem playing_append (p : Player) (items : List QueueItem) :
    (p.append items).playing = p.playing ∨ (p.append items).positionMs = 0 := by
  cases hcurrent : p.queue.current with
  | some now =>
    left
    rw [append_of_current hcurrent]
    rfl
  | none =>
    right
    rw [append_of_current_none hcurrent]

-- ════════════════════════════════════════════════════════════════════════
-- Runs
-- ════════════════════════════════════════════════════════════════════════

theorem sound_new (guild : Id) (maxQueue : Nat) : (new guild maxQueue).Sound maxQueue :=
  ⟨rfl, Nat.zero_le _, fun _ => rfl, show (100 : UInt8) ≤ maxVolume by decide⟩

/-- The item after the current one becomes current. If there is none, nothing is pending either. -/
theorem Sound.skip (h : p.Sound maxQueue) : p.skip.Sound maxQueue := by
  refine ⟨h.maxSize_eq, ?_, ?_, h.volume_le⟩
  · change p.queue.pending.tail.length ≤ maxQueue
    have hle := h.pending_le
    rw [List.length_tail]
    omega
  · intro hnone
    change p.queue.pending.head? = none at hnone
    change p.queue.pending.tail = []
    rw [List.head?_eq_none_iff.1 hnone, List.tail_nil]

theorem Sound.setVolume (h : p.Sound maxQueue) (volume : UInt8) : (p.setVolume volume).Sound maxQueue := by
  refine ⟨h.maxSize_eq, h.pending_le, h.pending_eq_nil, ?_⟩
  change (if maxVolume ≤ volume then maxVolume else volume) ≤ maxVolume
  split
  · exact UInt8.le_refl _
  · next hle => exact UInt8.le_of_lt (UInt8.not_le.1 hle)

/-- Every action keeps a player sound. -/
theorem Sound.perform (h : p.Sound maxQueue) (action : Action) : (p.perform action).Sound maxQueue := by
  cases action with
  | enqueue tracks requester =>
    rcases perform_enqueue_cases tracks requester p with ⟨-, hp⟩ | ⟨items, hsome, hroom, -, hp⟩
    · rw [hp]
      exact h
    · rw [hp]
      exact h.append hsome hroom
  | skip => exact h.skip
  | stop => exact ⟨h.maxSize_eq, Nat.zero_le _, fun _ => rfl, h.volume_le⟩
  | setVolume volume => exact h.setVolume volume
  | resumeAt track requester positionMs => exact ⟨h.maxSize_eq, h.pending_le, nofun, h.volume_le⟩
  | setPosition | setPaused | setChannels => exact ⟨h.maxSize_eq, h.pending_le, h.pending_eq_nil, h.volume_le⟩

/-- A run keeps a player sound. -/
theorem Sound.run (h : p.Sound maxQueue) (actions : List Action) : (p.run actions).Sound maxQueue := by
  induction actions generalizing p with
  | nil => exact h
  | cons action actions ih => exact ih (h.perform action)

theorem sound_run (guild : Id) (maxQueue : Nat) (actions : List Action) :
    ((new guild maxQueue).run actions).Sound maxQueue :=
  (sound_new guild maxQueue).run actions

/-- A sound player is idle exactly if nothing plays. -/
theorem Sound.isIdle_iff (h : p.Sound maxQueue) : p.isIdle = true ↔ p.playing = none := by
  rw [Player.isIdle_iff, playing_eq_none_iff]
  constructor
  · intro hidle
    exact hidle.2
  · intro hnone
    exact ⟨h.pending_eq_nil hnone, hnone⟩

/-- An action that moves on leaves the player at the beginning of an item, unless it only appends to what plays
already. -/
theorem positionMs_perform {action : Action} (h : action.movesOn = true) (p : Player) :
    (p.perform action).positionMs = 0 ∨
      (∃ tracks requester, action = .enqueue tracks requester) ∧ (p.perform action).playing = p.playing := by
  cases action with
  | enqueue tracks requester =>
    rcases perform_enqueue_cases tracks requester p with ⟨-, hp⟩ | ⟨items, -, -, -, hp⟩
    · right
      exact ⟨⟨tracks, requester, rfl⟩, by rw [hp]⟩
    · rw [hp]
      rcases playing_append p items with hplaying | hposition
      · right
        exact ⟨⟨tracks, requester, rfl⟩, hplaying⟩
      · left
        exact hposition
  | skip | stop => exact .inl rfl
  | setPosition | setPaused | setVolume | setChannels | resumeAt => cases h

/-- Whatever was done with a player: no more is pending than there is room for, nothing is pending while nothing
plays, so that it is idle exactly then, and the volume is at most 200. When it then takes tracks, goes on to the
next item or stops, it is at the beginning of an item afterwards, unless it only took tracks and plays on where it
was; and an enqueue that is refused or takes nothing leaves all of it as it was. -/
theorem bounded_and_never_waiting (guild : Id) (maxQueue : Nat) (actions : List Action) :
    let p := (new guild maxQueue).run actions
    p.queue.pending.length ≤ maxQueue ∧
    (p.playing = none → p.queue.pending = []) ∧
    (p.isIdle = true ↔ p.playing = none) ∧
    p.volume ≤ 200 ∧
    (∀ action : Action, action.movesOn = true → (p.perform action).positionMs = 0 ∨
      (∃ tracks requester, action = .enqueue tracks requester) ∧ (p.perform action).playing = p.playing) ∧
    (∀ tracks requester, (∀ added p', p.enqueue tracks requester = .ok (added, p') → added = 0) →
      p.perform (.enqueue tracks requester) = p) := by
  intro p
  have hsound : p.Sound maxQueue := sound_run guild maxQueue actions
  refine ⟨hsound.pending_le, ?_, hsound.isIdle_iff, hsound.volume_le, ?_, ?_⟩
  · intro hnone
    exact hsound.pending_eq_nil (playing_eq_none_iff.1 hnone)
  · intro action haction
    exact positionMs_perform haction p
  · intro tracks requester hnothing
    rcases perform_enqueue_cases tracks requester p with ⟨-, hp⟩ | ⟨items, hsome, -, htaken, -⟩
    · exact hp
    · exact absurd (hnothing _ _ htaken) (by simpa using hsome)

end Player

end Jukebox
