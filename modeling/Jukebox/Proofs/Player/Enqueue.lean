import Jukebox.Player.Basic

/-!
# Enqueueing tracks

A player takes tracks from the front of what it is given until its queue is full. What it takes goes to
the end of its line; a current track goes on, and an idle player starts with the first of the new ones.

## Main definitions

- `Queue.append`, `Player.append` — the queue and the player with more items at the end of its queue
- `Player.Extends` — a player goes on playing, with more items at the end of its line

## Main results

- `Player.enqueue_cases` — what enqueueing tracks can come to
- `Player.extends_append` — appending items extends the player by them
-/

namespace Jukebox

/-- The queue with more pending items. -/
def Queue.append (items : List QueueItem) (q : Queue) : Queue :=
  { q with pending := q.pending ++ items }

namespace Queue

variable {q : Queue}

/-- Going on to the next item moves the first pending one to the front. -/
theorem line_next (q : Queue) : q.next.current.toList ++ q.next.pending = q.pending := by
  unfold next
  cases q.pending <;> rfl

theorem push_of_room_eq_zero (item : QueueItem) (h : q.room = 0) :
    q.push item = .error ⟨q.maxSize⟩ := by
  unfold push
  rw [if_pos (Nat.le_of_sub_eq_zero h)]

theorem push_of_room_pos (item : QueueItem) (h : 0 < q.room) : q.push item = .ok (q.append [item]) := by
  unfold push
  rw [if_neg (Nat.not_le.2 (Nat.lt_of_sub_pos h))]
  rfl

/-- A queue takes as many items as there are and as it has room for. -/
theorem pushAll_eq (items : List QueueItem) (q : Queue) :
    q.pushAll items = (min items.length q.room, q.append (items.take (min items.length q.room))) := by
  have hfitting : items.take (min items.length q.room) = items.take q.room := by
    rw [Nat.min_comm, ← List.take_eq_take_min]
  rw [hfitting, Nat.min_comm, ← List.length_take]
  rfl

end Queue

namespace Player

variable {p p' : Player} {items : List QueueItem}

/-- The player with items at the end of its queue. It starts if nothing is current. -/
def append (items : List QueueItem) (p : Player) : Player :=
  start { p with queue := p.queue.append items }

/-- `p'` is the player `p` with more items at the end of its line. A current item goes on where it is,
and an idle player starts with the first of the items. -/
structure Extends (items : List QueueItem) (p p' : Player) : Prop where
  line : p'.line = p.line ++ items
  playing : ∀ now, p.playing = some now → p'.playing = some now
  starts : p.isIdle = true → p'.playing = items.head?.map (·, 0)
  guild : p'.guild = p.guild
  maxSize : p'.queue.maxSize = p.queue.maxSize
  volume : p'.volume = p.volume
  voice : p'.voice = p.voice
  text : p'.text = p.text

-- ════════════════════════════════════════════════════════════════════════
-- Appending
-- ════════════════════════════════════════════════════════════════════════

theorem append_of_current {now : QueueItem} (h : p.queue.current = some now) :
    p.append items = { p with queue := p.queue.append items } := by
  unfold append start Queue.append
  rw [h]
  rfl

/-- A player without a current item starts the first pending one. -/
theorem append_of_current_none (h : p.queue.current = none) :
    p.append items = { p with queue := (p.queue.append items).next, positionMs := 0 } := by
  unfold append start Queue.append
  rw [h]
  rfl

theorem isIdle_iff : p.isIdle = true ↔ p.queue.pending = [] ∧ p.queue.current = none := by
  unfold isIdle Queue.isEmpty
  rw [Bool.and_eq_true_iff, List.isEmpty_iff, Option.isNone_iff_eq_none]

theorem extends_append (items : List QueueItem) (p : Player) : p.Extends items (p.append items) := by
  cases hcurrent : p.queue.current with
  | some now =>
    rw [append_of_current hcurrent]
    refine ⟨?_, fun _ h => h, fun hidle => ?_, rfl, rfl, rfl, rfl, rfl⟩
    · exact (List.append_assoc ..).symm
    · rw [(isIdle_iff.1 hidle).2] at hcurrent
      cases hcurrent
  | none =>
    rw [append_of_current_none hcurrent]
    refine ⟨?_, fun now h => ?_, fun hidle => ?_, rfl, rfl, rfl, rfl, rfl⟩
    · refine (Queue.line_next (p.queue.append items)).trans ?_
      rw [line, hcurrent]
      rfl
    · unfold playing at h
      rw [hcurrent] at h
      cases h
    · unfold playing Queue.next Queue.append
      rw [(isIdle_iff.1 hidle).1]
      rfl

theorem Extends.setPaused (h : p.Extends items p') (paused : Bool) :
    p.Extends items (p'.setPaused paused) :=
  ⟨h.line, h.playing, h.starts, h.guild, h.maxSize, h.volume, h.voice, h.text⟩

-- ════════════════════════════════════════════════════════════════════════
-- Enqueueing
-- ════════════════════════════════════════════════════════════════════════

/-- A player takes as many tracks as there are and as it has room for. If that is none, it stays as it is,
and a single track is then refused with an error. -/
theorem enqueue_cases (tracks : List Track) (requester : Id) (p : Player) :
    (min tracks.length p.queue.room = 0 ∧
      (p.enqueue tracks requester = .error ⟨p.queue.maxSize⟩ ∨
        p.enqueue tracks requester = .ok (0, p))) ∨
    (0 < min tracks.length p.queue.room ∧
      p.enqueue tracks requester = .ok (min tracks.length p.queue.room,
        p.append ((tracks.take (min tracks.length p.queue.room)).map (⟨·, requester⟩)))) := by
  match tracks with
  | [] => exact .inl ⟨Nat.zero_min _, .inr rfl⟩
  | [track] =>
    rcases Nat.eq_zero_or_pos p.queue.room with hfull | hroom
    · refine .inl ⟨by rw [hfull, Nat.min_zero], .inl ?_⟩
      rw [enqueue, Queue.push_of_room_eq_zero _ hfull]
    · have hone : min [track].length p.queue.room = 1 := Nat.min_eq_left hroom
      refine .inr ⟨by rw [hone]; exact Nat.one_pos, ?_⟩
      rw [hone, enqueue, Queue.push_of_room_pos _ hroom]
      rfl
  | track :: track' :: rest =>
    unfold enqueue
    simp only [Queue.pushAll_eq, List.length_map, ← List.map_take]
    rcases Nat.eq_zero_or_pos (min (track :: track' :: rest).length p.queue.room) with hnone | hsome
    · exact .inl ⟨hnone, .inr (if_pos hnone)⟩
    · exact .inr ⟨hsome, if_neg (Nat.ne_of_gt hsome)⟩

end Player

end Jukebox
