import Jukebox.Proofs.Session.Snapshot

/-!
# Snapshots with entries that cannot be read

Nothing is known about a snapshot from elsewhere. An entry may have no requester, its letters may not stand for bytes,
and the bytes may not be those of a track. Replaying leaves such entries out, wherever they stand and whatever the
player was doing: it comes to the same as replaying the snapshot without them, and only the report tells how many there
were.

## Main definitions

- `Snapshot.Entry.isLegible` — an entry has a requester and a track that can be read
- `Snapshot.entries` — the entries of a snapshot
- `Snapshot.legible` — a snapshot without the entries that cannot be read

## Main results

- `Snapshot.Entry.isSome_item?` — the entries that can be read are those that are replayed
- `Snapshot.restorePlaying_filter`, `Snapshot.foldl_restoreEntry_filter` — the current track and the queue are replayed
  as if the entries that cannot be read were not there
- `Snapshot.account_restorePlaying`, `Snapshot.account_foldl_restoreEntry` — each entry is kept or dropped
- `Snapshot.restore_legible` — replaying any snapshot into any player
-/

namespace Jukebox.Snapshot

/-- The entry has a requester, and its letters are those of the bytes of a track. -/
def Entry.isLegible (e : Entry) : Bool :=
  e.requester != 0 && (Base64.decode? e.encoded).any fun blob => (Track.decode? blob).isSome

/-- The playing track, if any, followed by the queue. -/
def entries (s : Snapshot) : List Entry :=
  s.playing.toList ++ s.queue

/-- The snapshot without the entries that cannot be read. -/
def legible (s : Snapshot) : Snapshot :=
  { s with playing := s.playing.filter Entry.isLegible, queue := s.queue.filter Entry.isLegible }

variable {e : Entry}

-- ════════════════════════════════════════════════════════════════════════
-- Entries
-- ════════════════════════════════════════════════════════════════════════

/-- The entries that can be read are those that are replayed. -/
theorem Entry.isSome_item? (e : Entry) : e.item?.isSome = e.isLegible := by
  rw [item?, isLegible]
  by_cases hrequester : e.requester = 0
  · simp [Id.ofNumber?, hrequester]
  · rw [Id.ofNumber?, dif_pos hrequester, bne_iff_ne.2 hrequester, Bool.true_and]
    cases Base64.decode? e.encoded with
    | none => rfl
    | some blob =>
      rw [Option.any_some]
      cases htrack : Track.decode? blob with
      | none => simp [htrack]
      | some track => simp [htrack]

theorem Entry.item?_of_not_isLegible (h : ¬ e.isLegible = true) : e.item? = none := by
  rwa [← isSome_item?, Option.not_isSome_iff_eq_none] at h

/-- The items of the entries are those of the entries that can be read. -/
theorem Entry.filterMap_item?_filter (entries : List Entry) :
    (entries.filter isLegible).filterMap item? = entries.filterMap item? := by
  rw [List.filterMap_filter]
  congr 1
  funext e
  by_cases hlegible : e.isLegible = true
  · rw [if_pos hlegible]
  · rw [if_neg hlegible, item?_of_not_isLegible hlegible]

-- ════════════════════════════════════════════════════════════════════════
-- The current track
-- ════════════════════════════════════════════════════════════════════════

/-- A current track that cannot be read is replayed as if there were none. -/
theorem restorePlaying_filter (playing : Option Entry) (state : Report × Player) :
    (restorePlaying playing state).2 = (restorePlaying (playing.filter Entry.isLegible) state).2 ∧
    (restorePlaying playing state).1.kept = (restorePlaying (playing.filter Entry.isLegible) state).1.kept := by
  cases playing with
  | none => exact ⟨rfl, rfl⟩
  | some e =>
    rw [Option.filter_some]
    by_cases hlegible : e.isLegible = true
    · rw [if_pos hlegible]
      exact ⟨rfl, rfl⟩
    · rw [if_neg hlegible]
      simp only [restorePlaying, Entry.item?_of_not_isLegible hlegible, and_self]

/-- The current track is kept or dropped. -/
theorem account_restorePlaying (playing : Option Entry) (state : Report × Player) :
    (restorePlaying playing state).1.kept + (restorePlaying playing state).1.dropped =
      state.1.kept + state.1.dropped + playing.toList.length := by
  cases playing with
  | none => rfl
  | some e =>
    cases hitem : e.item? with
    | none => simp only [restorePlaying, hitem, Option.toList_some, List.length_singleton, Nat.add_assoc]
    | some item =>
      simp only [restorePlaying, hitem, Option.toList_some, List.length_singleton]
      omega

-- ════════════════════════════════════════════════════════════════════════
-- The queue
-- ════════════════════════════════════════════════════════════════════════

/-- The queue is replayed as if the entries that cannot be read were not there, whatever was dropped before. -/
theorem foldl_restoreEntry_filter (queue : List Entry) {state state' : Report × Player} (hplayer : state.2 = state'.2)
    (hkept : state.1.kept = state'.1.kept) :
    (queue.foldl restoreEntry state).2 = ((queue.filter Entry.isLegible).foldl restoreEntry state').2 ∧
    (queue.foldl restoreEntry state).1.kept =
      ((queue.filter Entry.isLegible).foldl restoreEntry state').1.kept := by
  obtain ⟨report, p⟩ := state
  obtain ⟨report', p'⟩ := state'
  obtain rfl : p = p' := hplayer
  rw [foldl_restoreEntry, foldl_restoreEntry, Entry.filterMap_item?_filter]
  exact ⟨rfl, congrArg (· + _) hkept⟩

/-- Each entry of the queue is kept or dropped. -/
theorem account_foldl_restoreEntry (queue : List Entry) (state : Report × Player) :
    (queue.foldl restoreEntry state).1.kept + (queue.foldl restoreEntry state).1.dropped =
      state.1.kept + state.1.dropped + queue.length := by
  obtain ⟨report, p⟩ := state
  have hle := Player.acceptEach_le (queue.filterMap Entry.item?) p
  have hlength : (queue.filterMap Entry.item?).length ≤ queue.length := List.length_filterMap_le _ _
  rw [foldl_restoreEntry]
  dsimp only
  omega

-- ════════════════════════════════════════════════════════════════════════
-- Snapshots
-- ════════════════════════════════════════════════════════════════════════

/-- Entries that cannot be read do not matter to the others: whatever the player was doing, replaying a snapshot leaves
it as replaying the snapshot without them does, and as many entries are kept. Those that are not kept are dropped. -/
theorem restore_legible (s : Snapshot) (p : Player) :
    (s.restore p).2 = (s.legible.restore p).2 ∧
    (s.restore p).1.kept = (s.legible.restore p).1.kept ∧
    (s.restore p).1.kept + (s.restore p).1.dropped = s.entries.length := by
  let tuned : Player := (p.setVolume s.volume).setChannels (Id.ofNumber? s.voice) (Id.ofNumber? s.text)
  have hrestore : s.restore p = s.queue.foldl restoreEntry (restorePlaying s.playing (⟨0, 0⟩, tuned)) := rfl
  have hlegible : s.legible.restore p = (s.queue.filter Entry.isLegible).foldl restoreEntry
      (restorePlaying (s.playing.filter Entry.isLegible) (⟨0, 0⟩, tuned)) := rfl
  obtain ⟨hplaying, hkept⟩ := restorePlaying_filter s.playing (⟨0, 0⟩, tuned)
  obtain ⟨hplayer, hreport⟩ := foldl_restoreEntry_filter s.queue hplaying hkept
  rw [hrestore, hlegible]
  refine ⟨hplayer, hreport, ?_⟩
  rw [account_foldl_restoreEntry, account_restorePlaying, Nat.zero_add, Nat.zero_add, entries, List.length_append]

end Jukebox.Snapshot
