import Jukebox.Proofs.Player.Invariant

/-!
# Tracks given one at a time

A player that is given tracks one after the other, each perhaps for another user, takes them until it has no space
left. An idle player has space for one more than may be pending, since the first track it takes is current at once.
Taking items in two portions comes to the same as taking them together.

## Main definitions

- `Player.space` — how many items a player can take
- `Player.receive` — the player with more items at the end of its line
- `Player.accept` — how many tracks a player takes that are given to it together, and the player afterwards
- `Player.acceptEach` — the same for items that are given to it one after the other

## Main results

- `Player.receive_receive` — items may be taken in portions
- `Player.enqueue_one` — what giving a single track comes to
- `Player.Sound.receive_one` — a sound player that takes an item is sound, with space for one less
- `Player.Sound.acceptEach` — a sound player takes items one after the other until it has no space left
-/

namespace Jukebox.Player

variable {p : Player} {maxQueue : Nat} {items more : List QueueItem} {item : QueueItem}

/-- How many items the player can take. -/
def space (p : Player) : Nat :=
  p.queue.room + if p.queue.current = none then 1 else 0

/-- The player with more items at the end of its line, if there are any. -/
def receive (items : List QueueItem) (p : Player) : Player :=
  if items = [] then p else p.append items

/-- How many of the tracks the player takes for a user, and the player afterwards. It stays as it is if they are
refused. -/
def accept (tracks : List Track) (requester : Id) (p : Player) : Nat × Player :=
  match p.enqueue tracks requester with
  | .ok taken => taken
  | .error _ => (0, p)

/-- How many of the items the player takes that is given one after the other, each for its user, and the player
afterwards. -/
def acceptEach : List QueueItem → Player → Nat × Player
  | [], p => (0, p)
  | item :: items, p =>
    let (taken, p) := p.accept [item.track] item.requester
    let (more, p) := acceptEach items p
    (taken + more, p)

@[simp] theorem receive_nil (p : Player) : p.receive [] = p := if_pos rfl

theorem receive_of_ne_nil (h : items ≠ []) : p.receive items = p.append items := if_neg h

-- ════════════════════════════════════════════════════════════════════════
-- Portions
-- ════════════════════════════════════════════════════════════════════════

/-- A player that takes items plays one. -/
theorem exists_current_append (h : items ≠ []) (p : Player) : ∃ now, (p.append items).queue.current = some now := by
  cases hcurrent : p.queue.current with
  | some now =>
    rw [append_of_current hcurrent]
    exact ⟨now, hcurrent⟩
  | none =>
    rw [append_of_current_none hcurrent]
    have hsome : p.queue.pending ++ items ≠ [] := by
      intro hnil
      exact h (List.append_eq_nil_iff.1 hnil).2
    exact ⟨_, List.head?_eq_some_head hsome⟩

theorem append_append (h : items ≠ []) (more : List QueueItem) (p : Player) :
    (p.append items).append more = p.append (items ++ more) := by
  obtain ⟨now, hnow⟩ := exists_current_append h p
  rw [append_of_current hnow]
  cases hcurrent : p.queue.current with
  | some now =>
    rw [append_of_current hcurrent, append_of_current hcurrent]
    simp only [Queue.append, List.append_assoc]
  | none =>
    obtain ⟨first, rest, hline⟩ : ∃ first rest, p.queue.pending ++ items = first :: rest := by
      apply List.exists_cons_of_ne_nil
      intro hnil
      exact h (List.append_eq_nil_iff.1 hnil).2
    rw [append_of_current_none hcurrent, append_of_current_none hcurrent]
    simp only [Queue.append, Queue.next, ← List.append_assoc, hline, List.cons_append, List.tail_cons,
      List.head?_cons]

/-- Items may be taken in portions. -/
theorem receive_receive (items more : List QueueItem) (p : Player) :
    (p.receive items).receive more = p.receive (items ++ more) := by
  by_cases hitems : items = []
  · rw [hitems, receive_nil, List.nil_append]
  · by_cases hmore : more = []
    · rw [hmore, receive_nil, List.append_nil]
    · have happend : items ++ more ≠ [] := fun hnil => hitems (List.append_eq_nil_iff.1 hnil).1
      rw [receive_of_ne_nil hitems, receive_of_ne_nil hmore, receive_of_ne_nil happend, append_append hitems]

/-- A player that plays takes items behind what is pending. -/
theorem receive_of_current {now : QueueItem} (h : p.queue.current = some now) (items : List QueueItem) :
    p.receive items = { p with queue := p.queue.append items } := by
  by_cases hitems : items = []
  · rw [hitems, receive_nil, Queue.append, List.append_nil]
  · rw [receive_of_ne_nil hitems, append_of_current h]

/-- A new player starts with the first item, and the others are pending. -/
theorem receive_of_new (hcurrent : p.queue.current = none) (hpending : p.queue.pending = [])
    (hposition : p.positionMs = 0) (items : List QueueItem) :
    p.receive items = { p with queue := { p.queue with pending := items.tail, current := items.head? } } := by
  by_cases hitems : items = []
  · rw [hitems, receive_nil, List.tail_nil, List.head?_nil, ← hcurrent, ← hpending]
  · rw [receive_of_ne_nil hitems, append_of_current_none hcurrent, ← hposition]
    simp only [Queue.append, Queue.next, hpending, List.nil_append]

-- ════════════════════════════════════════════════════════════════════════
-- Single items
-- ════════════════════════════════════════════════════════════════════════

/-- A single track is taken if there is room for it in the queue, and refused otherwise. -/
theorem enqueue_one (item : QueueItem) (p : Player) : p.enqueue [item.track] item.requester =
    if 0 < p.queue.room then .ok (1, p.receive [item]) else .error ⟨p.queue.maxSize⟩ := by
  by_cases hroom : 0 < p.queue.room
  · rw [if_pos hroom, enqueue, Queue.push_of_room_pos _ hroom]
    rfl
  · rw [if_neg hroom, enqueue, Queue.push_of_room_eq_zero _ (Nat.eq_zero_of_not_pos hroom)]

theorem accept_one (item : QueueItem) (p : Player) : p.accept [item.track] item.requester =
    if 0 < p.queue.room then (1, p.receive [item]) else (0, p) := by
  rw [accept, enqueue_one]
  by_cases hroom : 0 < p.queue.room
  · rw [if_pos hroom, if_pos hroom]
  · rw [if_neg hroom, if_neg hroom]

theorem acceptEach_cons (item : QueueItem) (items : List QueueItem) (p : Player) :
    p.acceptEach (item :: items) =
      ((p.accept [item.track] item.requester).1 +
          ((p.accept [item.track] item.requester).2.acceptEach items).1,
        ((p.accept [item.track] item.requester).2.acceptEach items).2) := rfl

/-- A player without room takes none of the items. -/
theorem acceptEach_of_room_eq_zero (hroom : p.queue.room = 0) (items : List QueueItem) :
    p.acceptEach items = (0, p) := by
  induction items with
  | nil => rfl
  | cons item items ih =>
    have hrefused : p.accept [item.track] item.requester = (0, p) := by
      rw [accept_one, hroom, if_neg (Nat.lt_irrefl 0)]
    rw [acceptEach_cons, hrefused, ih]
    rfl

/-- A player takes no more items than it is given. -/
theorem acceptEach_le (items : List QueueItem) (p : Player) : (p.acceptEach items).1 ≤ items.length := by
  induction items generalizing p with
  | nil => exact Nat.le_refl 0
  | cons item items ih =>
    have hone : (p.accept [item.track] item.requester).1 ≤ 1 := by
      rw [accept_one]
      split
      · exact Nat.le_refl 1
      · exact Nat.zero_le 1
    have hrest := ih (p.accept [item.track] item.requester).2
    rw [acceptEach_cons, List.length_cons]
    omega

/-- The whole queue of a sound player is free while nothing plays. -/
theorem Sound.room_of_current_none (h : p.Sound maxQueue) (hcurrent : p.queue.current = none) :
    p.queue.room = maxQueue := by
  rw [Queue.room, h.pending_eq_nil hcurrent, h.maxSize_eq]
  rfl

theorem Sound.space_of_current_none (h : p.Sound maxQueue) (hcurrent : p.queue.current = none) :
    p.space = maxQueue + 1 := by
  rw [space, h.room_of_current_none hcurrent, if_pos hcurrent]

/-- A sound player has space exactly if it has room in its queue, provided there may be room at all. -/
theorem Sound.space_pos_iff (h : p.Sound maxQueue) (hbound : 0 < maxQueue) :
    0 < p.space ↔ 0 < p.queue.room := by
  by_cases hcurrent : p.queue.current = none
  · rw [h.space_of_current_none hcurrent, h.room_of_current_none hcurrent]
    omega
  · rw [space, if_neg hcurrent, Nat.add_zero]

/-- A sound player that takes an item is sound, with space for one less. -/
theorem Sound.receive_one (h : p.Sound maxQueue) (hroom : 0 < p.queue.room) (item : QueueItem) :
    (p.receive [item]).Sound maxQueue ∧ (p.receive [item]).space + 1 = p.space := by
  have hsome : [item] ≠ [] := List.cons_ne_nil item []
  rw [receive_of_ne_nil hsome]
  refine ⟨h.append hsome hroom, ?_⟩
  obtain ⟨now, hnow⟩ := exists_current_append hsome p
  rw [space, space, hnow, if_neg (Option.some_ne_none now)]
  unfold Queue.room at hroom ⊢
  cases hcurrent : p.queue.current with
  | some now =>
    rw [append_of_current hcurrent, if_neg (Option.some_ne_none now)]
    simp only [Queue.append, List.length_append, List.length_singleton]
    omega
  | none =>
    rw [append_of_current_none hcurrent, if_pos rfl]
    simp only [Queue.append, Queue.next, h.pending_eq_nil hcurrent, List.nil_append, List.tail_cons]

/-- A sound player takes items one after the other until it has no space left. -/
theorem Sound.acceptEach (h : p.Sound maxQueue) (hbound : 0 < maxQueue) (items : List QueueItem) :
    p.acceptEach items = (min items.length p.space, p.receive (items.take p.space)) := by
  induction items generalizing p with
  | nil => simp [Player.acceptEach]
  | cons item items ih =>
    by_cases hroom : 0 < p.queue.room
    · obtain ⟨hsound, hspace⟩ := h.receive_one hroom item
      rw [acceptEach_cons, accept_one, if_pos hroom, ih hsound, receive_receive, ← hspace, List.take_succ_cons,
        List.length_cons, Nat.succ_min_succ, Nat.add_comm]
      rfl
    · have hspace : p.space = 0 := by
        have hnone := mt (h.space_pos_iff hbound).1 hroom
        omega
      rw [acceptEach_of_room_eq_zero (Nat.eq_zero_of_not_pos hroom), hspace, Nat.min_zero, List.take_zero, receive_nil]

end Jukebox.Player
