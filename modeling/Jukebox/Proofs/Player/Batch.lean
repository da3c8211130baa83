import Jukebox.Proofs.Player.Receive

/-!
# Tracks given together

What a player takes of tracks that it is given together is decided before it starts: it is what fits in its queue. If
it was idle the first of them is current at once and its place in the queue is free again, but the tracks that were
left out are gone. Given the same tracks one at a time the player takes one more of them.

## Main results

- `Player.accept_eq` — what a player takes of tracks that it is given together
- `Player.Sound.accept_of_current` — a player that plays takes the same tracks either way
- `Player.Sound.accept_of_le`, `Player.Sound.accept_of_lt` — what an idle player takes if the tracks fit in its
  queue, and if they do not
- `Player.accept_eq_acceptEach_iff` — when it makes a difference how the tracks are given
-/

namespace Jukebox.Player

variable {p : Player} {maxQueue : Nat} {items : List QueueItem}

-- ════════════════════════════════════════════════════════════════════════
-- Together
-- ════════════════════════════════════════════════════════════════════════

/-- Of tracks that it is given together the player takes as many as it has room for. -/
theorem accept_eq (tracks : List Track) (requester : Id) (p : Player) :
    p.accept tracks requester =
      (min tracks.length p.queue.room, p.receive ((tracks.map (⟨·, requester⟩)).take p.queue.room)) := by
  have htake : (tracks.map (⟨·, requester⟩)).take p.queue.room =
      (tracks.take (min tracks.length p.queue.room)).map (QueueItem.mk · requester) := by
    rw [← List.map_take, Nat.min_comm, ← List.take_eq_take_min]
  have hlength : ((tracks.take (min tracks.length p.queue.room)).map (QueueItem.mk · requester)).length =
      min tracks.length p.queue.room := by
    rw [List.length_map, List.length_take]
    omega
  rw [htake, accept]
  rcases enqueue_cases tracks requester p with ⟨hnone, h⟩ | ⟨hsome, h⟩
  · have hnothing : (tracks.take (min tracks.length p.queue.room)).map (QueueItem.mk · requester) = [] := by
      rw [hnone, List.take_zero, List.map_nil]
    rw [hnothing, receive_nil, hnone]
    rcases h with h | h <;> rw [h]
  · rw [h, receive_of_ne_nil]
    apply List.ne_nil_of_length_pos
    rwa [hlength]

theorem accept_of_room_eq_zero (hfull : p.queue.room = 0) (tracks : List Track) (requester : Id) :
    p.accept tracks requester = p.acceptEach (tracks.map (⟨·, requester⟩)) := by
  rw [accept_eq, acceptEach_of_room_eq_zero hfull, hfull, Nat.min_zero, List.take_zero, receive_nil]

/-- A player that plays takes the same tracks whether they are given together or one at a time. -/
theorem Sound.accept_of_current (h : p.Sound maxQueue) (hplaying : p.queue.current ≠ none) (tracks : List Track)
    (requester : Id) : p.accept tracks requester = p.acceptEach (tracks.map (⟨·, requester⟩)) := by
  rcases Nat.eq_zero_or_pos p.queue.room with hfull | hroom
  · exact accept_of_room_eq_zero hfull tracks requester
  · have hbound : 0 < maxQueue := by
      rw [← h.maxSize_eq]
      exact Nat.lt_of_lt_of_le hroom (Nat.sub_le _ _)
    have hspace : p.space = p.queue.room := by rw [space, if_neg hplaying, Nat.add_zero]
    rw [accept_eq, h.acceptEach hbound, hspace, List.length_map]

/-- An idle player takes the tracks for which there is room in its queue. -/
theorem Sound.accept_of_current_none (h : p.Sound maxQueue) (hidle : p.queue.current = none) (tracks : List Track)
    (requester : Id) : p.accept tracks requester =
      (min tracks.length maxQueue, p.receive ((tracks.map (⟨·, requester⟩)).take maxQueue)) := by
  rw [accept_eq, h.room_of_current_none hidle]

/-- Once it has taken what fits, a player that was idle has room for one more. -/
theorem Sound.room_receive_take (h : p.Sound maxQueue) (hidle : p.queue.current = none) (hbound : 0 < maxQueue)
    (hmore : maxQueue < items.length) : (p.receive (items.take maxQueue)).queue.room = 1 := by
  have hlength : (items.take maxQueue).length = maxQueue := List.length_take_of_le (Nat.le_of_lt hmore)
  have hsome : items.take maxQueue ≠ [] := by
    apply List.ne_nil_of_length_pos
    rwa [hlength]
  rw [receive_of_ne_nil hsome, append_of_current_none hidle]
  simp only [Queue.room, Queue.append, Queue.next, h.maxSize_eq, h.pending_eq_nil hidle, List.nil_append,
    List.length_tail, hlength]
  omega

-- ════════════════════════════════════════════════════════════════════════
-- Together or one at a time
-- ════════════════════════════════════════════════════════════════════════

/-- An idle player takes all the tracks either way if they fit in its queue. -/
theorem Sound.accept_of_le (h : p.Sound maxQueue) (hidle : p.queue.current = none) (hbound : 0 < maxQueue)
    {tracks : List Track} (hle : tracks.length ≤ maxQueue) (requester : Id) :
    p.accept tracks requester = p.acceptEach (tracks.map (⟨·, requester⟩)) := by
  have hitems : (tracks.map (QueueItem.mk · requester)).length ≤ maxQueue := by
    rw [List.length_map]
    exact hle
  rw [h.accept_of_current_none hidle, h.acceptEach hbound, h.space_of_current_none hidle, List.length_map,
    List.take_of_length_le hitems, List.take_of_length_le (Nat.le_succ_of_le hitems), Nat.min_eq_left hle,
    Nat.min_eq_left (Nat.le_succ_of_le hle)]

/-- If they do not fit, it leaves out a track that it would take after the others. -/
theorem Sound.accept_of_lt (h : p.Sound maxQueue) (hidle : p.queue.current = none) (hbound : 0 < maxQueue)
    {tracks : List Track} (hmore : maxQueue < tracks.length) (requester : Id) :
    (p.accept tracks requester).1 = maxQueue ∧
    (p.acceptEach (tracks.map (⟨·, requester⟩))).1 = maxQueue + 1 ∧
    (p.accept tracks requester).2.enqueue [tracks[maxQueue]] requester =
      .ok (1, (p.acceptEach (tracks.map (⟨·, requester⟩))).2) := by
  have hitems : maxQueue < (tracks.map (QueueItem.mk · requester)).length := by
    rw [List.length_map]
    exact hmore
  have hnext : (tracks.map (QueueItem.mk · requester))[maxQueue] = ⟨tracks[maxQueue], requester⟩ :=
    List.getElem_map _
  have hone := enqueue_one ⟨tracks[maxQueue], requester⟩
    (p.receive ((tracks.map (QueueItem.mk · requester)).take maxQueue))
  rw [h.room_receive_take hidle hbound hitems, if_pos Nat.one_pos, receive_receive, ← hnext,
    List.take_append_getElem, hnext] at hone
  rw [h.accept_of_current_none hidle, h.acceptEach hbound, h.space_of_current_none hidle, List.length_map]
  exact ⟨Nat.min_eq_right (Nat.le_of_lt hmore), Nat.min_eq_right hmore, hone⟩

/-- Whatever was done with a player before: it makes no difference at all whether it is given tracks together or one
at a time, unless nothing plays and there are more tracks than may be pending. Of those, given together, it takes
exactly as many as may be pending. The next one is left out, though the player would take it and then be as if it had
been given the tracks one at a time. -/
theorem accept_eq_acceptEach_iff (guild : Id) (maxQueue : Nat) (actions : List Action) (tracks : List Track)
    (requester : Id) :
    let p := (new guild maxQueue).run actions
    let items := tracks.map (QueueItem.mk · requester)
    (p.accept tracks requester = p.acceptEach items ↔
      (p.playing = none → 0 < maxQueue → tracks.length ≤ maxQueue)) ∧
    (p.playing = none → 0 < maxQueue → ∀ hmore : maxQueue < tracks.length,
      (p.accept tracks requester).1 = maxQueue ∧ (p.acceptEach items).1 = maxQueue + 1 ∧
        (p.accept tracks requester).2.enqueue [tracks[maxQueue]] requester = .ok (1, (p.acceptEach items).2)) := by
  intro p items
  have hsound : p.Sound maxQueue := sound_run guild maxQueue actions
  refine ⟨⟨?_, ?_⟩, ?_⟩
  · intro hsame hidle hbound
    refine Nat.le_of_not_lt fun hmore => ?_
    obtain ⟨htogether, heach, -⟩ := hsound.accept_of_lt (playing_eq_none_iff.1 hidle) hbound hmore requester
    rw [hsame, heach] at htogether
    exact Nat.succ_ne_self maxQueue htogether
  · intro hfew
    by_cases hcurrent : p.queue.current = none
    · rcases Nat.eq_zero_or_pos maxQueue with hzero | hbound
      · have hfull : p.queue.room = 0 := by rw [hsound.room_of_current_none hcurrent, hzero]
        exact accept_of_room_eq_zero hfull tracks requester
      · exact hsound.accept_of_le hcurrent hbound (hfew (playing_eq_none_iff.2 hcurrent) hbound) requester
    · exact hsound.accept_of_current hcurrent tracks requester
  · intro hidle hbound hmore
    exact hsound.accept_of_lt (playing_eq_none_iff.1 hidle) hbound hmore requester

/-- Of two tracks an idle player with room for one takes one if they are given together, and both otherwise. -/
example :
    let track : Track := ⟨"a", "author", 1000, "id", false, none, "youtube"⟩
    ((new .one 1).accept [track, track] .one).1 = 1 ∧
      ((new .one 1).acceptEach [⟨track, .one⟩, ⟨track, .one⟩]).1 = 2 := by
  decide

end Jukebox.Player
