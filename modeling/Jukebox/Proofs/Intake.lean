import Jukebox.Intake
import Jukebox.Proofs.Engine.Counts
import Jukebox.Proofs.Player.Enqueue

/-!
# Requests are all or nothing

A request of a user either queues tracks or leaves the player exactly as it was, whatever the engine comes
to and however much room the queue has.

## Main definitions

- `Intake.offer` — the playlist that a request offers to the player
- `Intake.accepted` — how many tracks of a playlist the player takes

## Main results

- `Intake.settle_cases` — what a resolution comes to for a player
- `Intake.submit_all_or_nothing` — a request extends the player and is not counted as a failure, or it
  leaves the player as it was and is
-/

namespace Jukebox

namespace Intake

variable {r : Engine.Resolution} {p : Playlist} {player : Player}

/-- The playlist that a request offers to the player: only the first track of some searches. -/
def offer (r : Engine.Resolution) (p : Playlist) : Playlist :=
  if r.query.keepsOnlyFirst then p.firstOnly else p

/-- How many tracks the player takes of the playlist that a request found. -/
def accepted (r : Engine.Resolution) (p : Playlist) (player : Player) : Nat :=
  min (offer r p).length player.queue.room

-- ════════════════════════════════════════════════════════════════════════
-- What is offered
-- ════════════════════════════════════════════════════════════════════════

theorem offer_label (r : Engine.Resolution) (p : Playlist) : (offer r p).label = p.label := by
  unfold offer
  split <;> rfl

theorem isEmpty_offer (r : Engine.Resolution) (p : Playlist) : (offer r p).isEmpty = p.isEmpty := by
  unfold offer
  split
  · exact p.isEmpty_firstOnly
  · rfl

theorem take_offer {n : Nat} (h : n ≤ (offer r p).length) :
    (offer r p).tracks.take n = p.tracks.take n := by
  revert h
  unfold offer
  split
  · intro h
    have hone : n ≤ 1 := Nat.le_trans h (List.length_take_le 1 p.tracks)
    change (p.tracks.take 1).take n = p.tracks.take n
    rw [List.take_take, Nat.min_eq_left hone]
  · exact fun _ => rfl

theorem accepted_le (r : Engine.Resolution) (p : Playlist) (player : Player) :
    accepted r p player ≤ p.length := by
  refine Nat.le_trans (Nat.min_le_left _ _) ?_
  unfold offer
  split
  · exact List.length_take_le' 1 p.tracks
  · exact Nat.le_refl _

/-- Tracks are taken exactly if some were found and the player has room. -/
theorem accepted_eq_zero_iff :
    accepted r p player = 0 ↔ p.isEmpty = true ∨ player.queue.room = 0 := by
  have hoffer : (offer r p).length = 0 ↔ p.isEmpty = true := by
    rw [← isEmpty_offer r p]
    exact List.length_eq_zero_iff.trans List.isEmpty_iff.symm
  rw [← hoffer]
  unfold accepted
  omega

-- ════════════════════════════════════════════════════════════════════════
-- What a resolution comes to
-- ════════════════════════════════════════════════════════════════════════

theorem queue_of_enqueue {requester : Id} {provider : Provider} {added : Nat} {player' : Player}
    (h : player.enqueue p.tracks requester = .ok (added, player')) (hadded : 0 < added) :
    queue requester p provider player = (.queued added p.label provider, player'.setPaused false) := by
  unfold queue
  rw [h]
  cases added with
  | zero => cases hadded
  | succ added => rfl

/-- Queueing a playlist fails if the player takes none of it, and extends the player otherwise. -/
theorem queue_cases (requester : Id) (p : Playlist) (provider : Provider) (player : Player) :
    (min p.length player.queue.room = 0 ∧
      ∃ reason, queue requester p provider player = (.failed reason, player)) ∨
    (0 < min p.length player.queue.room ∧ ∃ player',
      queue requester p provider player =
        (.queued (min p.length player.queue.room) p.label provider, player') ∧
      player.Extends ((p.tracks.take (min p.length player.queue.room)).map (⟨·, requester⟩)) player' ∧
      player'.paused = false) := by
  rcases Player.enqueue_cases p.tracks requester player with ⟨hnone, h | h⟩ | ⟨hsome, h⟩
  · refine .inl ⟨hnone, ?_⟩
    unfold queue
    rw [h]
    exact ⟨_, rfl⟩
  · refine .inl ⟨hnone, ?_⟩
    unfold queue
    rw [h]
    exact ⟨_, rfl⟩
  · exact .inr ⟨hsome, _, queue_of_enqueue h hsome, (Player.extends_append _ player).setPaused false, rfl⟩

theorem settle_of_found (requester : Id) (hresult : r.result = .ok p) (hfound : p.isEmpty = false) :
    settle requester r player = queue requester (offer r p) r.query.provider player := by
  unfold settle offer
  rw [hresult]
  simp only [hfound, if_false, Bool.false_eq_true]

/-- A resolution that the player takes nothing of leaves it as it was. Any other extends the player by what
it takes. -/
theorem settle_cases (requester : Id) (r : Engine.Resolution) (player : Player) :
    ((∀ p, r.result = .ok p → accepted r p player = 0) ∧
      ∃ refusal, (refusal = .noMatches ∨ ∃ reason, refusal = .failed reason) ∧
        settle requester r player = (refusal, player)) ∨
    (∃ p player', r.result = .ok p ∧ 0 < accepted r p player ∧
      settle requester r player =
        (.queued (accepted r p player) p.label r.query.provider, player') ∧
      player.Extends ((p.tracks.take (accepted r p player)).map (⟨·, requester⟩)) player' ∧
      player'.paused = false) := by
  cases hresult : r.result with
  | error error =>
    refine .inl ⟨(fun _ h => nomatch h), .failed error.message, .inr ⟨error.message, rfl⟩, ?_⟩
    rw [settle, hresult]
  | ok p =>
    cases hfound : p.isEmpty with
    | true =>
      refine .inl ⟨fun p' h => ?_, .noMatches, .inl rfl, ?_⟩
      · obtain rfl := Except.ok.inj h
        exact accepted_eq_zero_iff.2 (.inl hfound)
      · rw [settle, hresult]
        exact if_pos hfound
    | false =>
      rw [settle_of_found requester hresult hfound]
      rcases queue_cases requester (offer r p) r.query.provider player with
        ⟨hnone, reason, h⟩ | ⟨hsome, player', h, hextends, hpaused⟩
      · refine .inl ⟨fun p' h' => ?_, .failed reason, .inr ⟨reason, rfl⟩, h⟩
        obtain rfl := Except.ok.inj h'
        exact hnone
      · refine .inr ⟨p, player', rfl, hsome, ?_, ?_, hpaused⟩
        · rw [h, offer_label]
          rfl
        · have htake : (offer r p).tracks.take (accepted r p player) = p.tracks.take (accepted r p player) :=
            take_offer (Nat.min_le_left _ _)
          rw [← htake]
          exact hextends

-- ════════════════════════════════════════════════════════════════════════
-- Requests
-- ════════════════════════════════════════════════════════════════════════

/-- A request queues tracks exactly if the engine finds some and the player has room. It then extends the
player by the first tracks that were found, as many as it takes, resumes it and is not counted as a
failure. Otherwise it leaves the player as it was, and is counted as one failure. -/
theorem submit_all_or_nothing (answer : String → Reply) (preferred : Provider) (requester : Id)
    (input : String) (player : Player) (e : Engine) :
    let r := (e.resolve answer true (Query.ofInput input.toList preferred)).1
    let (submission, player', e', _) := submit answer preferred requester input player e
    (∃ p added, r.result = .ok p ∧ 1 ≤ added ∧ added ≤ p.length ∧ added = accepted r p player ∧
      submission = .queued added p.label r.query.provider ∧
      player.Extends ((p.tracks.take added).map (⟨·, requester⟩)) player' ∧
      player'.paused = false ∧
      e'.metrics.get .intakeFailures = e.metrics.get .intakeFailures) ∨
    ((∀ p, r.result = .ok p → p.isEmpty = true ∨ player.queue.room = 0) ∧
      (submission = .noMatches ∨ ∃ reason, submission = .failed reason) ∧
      player' = player ∧
      e'.metrics.get .intakeFailures = e.metrics.get .intakeFailures + 1) := by
  have hcounter :=
    Engine.resolve_intakeFailures answer true (Query.ofInput input.toList preferred) e
  unfold submit
  rcases hresolve : e.resolve answer true (Query.ofInput input.toList preferred) with ⟨r, e'⟩
  rw [hresolve] at hcounter
  simp only at hcounter ⊢
  rcases settle_cases requester r player with
    ⟨hnone, refusal, hrefusal, h⟩ | ⟨p, player', hresult, hsome, h, hextends, hpaused⟩
  · rw [h]
    refine .inr ⟨fun p hp => accepted_eq_zero_iff.1 (hnone p hp), hrefusal, rfl, ?_⟩
    have hfailed : succeeded refusal = false := by
      rcases hrefusal with rfl | ⟨reason, rfl⟩ <;> rfl
    rw [hfailed, ← hcounter]
    exact Metrics.get_increment_self .intakeFailures e'.metrics
  · rw [h]
    exact .inl ⟨p, accepted r p player, hresult, hsome, accepted_le r p player, rfl, rfl, hextends,
      hpaused, hcounter⟩

end Intake

end Jukebox
