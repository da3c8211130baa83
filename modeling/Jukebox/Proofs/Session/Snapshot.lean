import Jukebox.Proofs.Json.Pretty
import Jukebox.Proofs.Player.Receive
import Jukebox.Proofs.Text.Base64
import Jukebox.Proofs.Track.Blob
import Jukebox.Session.Snapshot

/-!
# Snapshots are replayed

A snapshot is read back from its written form as it was. Replayed into a new player, the snapshot of a player comes
to that player, less the tracks that cannot be written as bytes and less what the new queue has no space for. The
current track goes on where it was if it is among those that are left. If it is not, the first that is left starts
from its beginning.

## Main definitions

- `QueueItem.isRepresentable` — the track of an item can be written as bytes
- `Player.representable` — the items of a player's line of which that is true
- `Player.revived` — a player as its snapshot brings it back, with room for so many pending tracks

## Main results

- `Snapshot.Entry.item?_of_ofItem?` — the item of an item's entry
- `Snapshot.parse?_written` — a snapshot is read back from its written form
- `Snapshot.foldl_restoreEntry` — what replaying the entries of a queue comes to, for any player
- `Snapshot.restorePlaying_capture` — what replaying the current track of a snapshot comes to
- `Snapshot.isEmpty_capture_iff` — the players whose snapshots are empty
- `Snapshot.restore_capture` — what replaying the snapshot of a player comes to
-/

namespace Jukebox

/-- The track of the item can be written as bytes. -/
def QueueItem.isRepresentable (item : QueueItem) : Bool := item.track.encode?.isSome

namespace Player

/-- The current item and the pending ones, as far as their tracks can be written as bytes. -/
def representable (p : Player) : List QueueItem := p.line.filter QueueItem.isRepresentable

/-- The player as its snapshot brings it back for a guild, with room for so many pending tracks. -/
def revived (guild : Id) (maxQueue : Nat) (p : Player) : Player where
  guild := guild
  queue :=
    { maxSize := maxQueue
      pending := p.representable.tail.take maxQueue
      current := p.representable.head? }
  positionMs := if p.queue.current.any QueueItem.isRepresentable then p.positionMs else 0
  volume := p.volume
  voice := p.voice
  text := p.text

theorem representable_eq (p : Player) : p.representable =
    (p.queue.current.filter QueueItem.isRepresentable).toList ++
      p.queue.pending.filter QueueItem.isRepresentable := by
  rw [representable, line, List.filter_append, Option.toList_filter]

/-- The first item that is left is the current one exactly if that can be written. -/
theorem current_eq_head_iff {p : Player} {first : QueueItem} {rest : List QueueItem}
    (h : p.representable = first :: rest) :
    p.queue.current = some first ↔ p.queue.current.any QueueItem.isRepresentable = true := by
  have hfirst : first.isRepresentable = true :=
    (List.mem_filter.1 (show first ∈ p.representable by rw [h]; exact List.mem_cons_self)).2
  cases hcurrent : p.queue.current with
  | none => exact iff_of_false nofun nofun
  | some now =>
    constructor
    · intro hnow
      obtain rfl := Option.some.inj hnow
      exact hfirst
    · intro hnow
      have hhead : p.representable = now :: p.queue.pending.filter QueueItem.isRepresentable := by
        rw [representable, line, hcurrent]
        exact List.filter_cons_of_pos hnow
      rw [hhead] at h
      rw [(List.cons.inj h).1]

end Player

namespace Snapshot

-- ════════════════════════════════════════════════════════════════════════
-- Entries
-- ════════════════════════════════════════════════════════════════════════

namespace Entry

variable {item : QueueItem} {positionMs : UInt64} {e : Entry}

/-- The item of an item's entry is that item. -/
theorem item?_of_ofItem? (h : ofItem? item positionMs = some e) :
    e.item? = some item ∧ e.positionMs = positionMs := by
  obtain ⟨blob, hblob, rfl⟩ := Option.map_eq_some_iff.1 h
  have hrequester : Id.ofNumber? item.requester.val = some item.requester := Id.ofNumber?_number (some item.requester)
  refine ⟨?_, rfl⟩
  simp only [item?, hrequester, Base64.decode?_encode, Track.decode?_eq_some_iff.2 hblob, Option.bind_eq_bind,
    Option.bind_some]

/-- An item has an entry exactly if its track can be written. -/
theorem isSome_ofItem? (item : QueueItem) (positionMs : UInt64) :
    (ofItem? item positionMs).isSome = item.isRepresentable := by
  rw [ofItem?, Option.isSome_map, QueueItem.isRepresentable]

theorem ofItem?_eq_none_iff : ofItem? item positionMs = none ↔ item.isRepresentable = false := by
  rw [← isSome_ofItem? item positionMs, Option.isSome_eq_false_iff, Option.isNone_iff_eq_none]

theorem isRepresentable_of_ofItem? (h : ofItem? item positionMs = some e) : item.isRepresentable = true := by
  rw [← isSome_ofItem? item positionMs, h, Option.isSome_some]

/-- The items of the entries of some items are those that can be written. -/
theorem map_item?_filterMap_ofItem? (items : List QueueItem) (positionMs : UInt64) :
    (items.filterMap (ofItem? · positionMs)).map item? =
      (items.filter QueueItem.isRepresentable).map some := by
  induction items with
  | nil => rfl
  | cons item items ih =>
    cases hentry : ofItem? item positionMs with
    | none =>
      have hnot : item.isRepresentable = false := ofItem?_eq_none_iff.1 hentry
      rw [List.filterMap_cons, List.filter_cons, hnot, hentry]
      exact ih
    | some e =>
      rw [List.filterMap_cons, List.filter_cons_of_pos (isRepresentable_of_ofItem? hentry), hentry, List.map_cons,
        List.map_cons, ih, (item?_of_ofItem? hentry).1]

theorem filterMap_item?_filterMap_ofItem? (items : List QueueItem) (positionMs : UInt64) :
    (items.filterMap (ofItem? · positionMs)).filterMap item? = items.filter QueueItem.isRepresentable := by
  have hitems := congrArg (List.filterMap id) (map_item?_filterMap_ofItem? items positionMs)
  rw [List.filterMap_map, List.filterMap_map] at hitems
  exact hitems.trans List.filterMap_some

theorem length_filterMap_ofItem? (items : List QueueItem) (positionMs : UInt64) :
    (items.filterMap (ofItem? · positionMs)).length = (items.filter QueueItem.isRepresentable).length := by
  have hlength := congrArg List.length (map_item?_filterMap_ofItem? items positionMs)
  rwa [List.length_map, List.length_map] at hlength

end Entry

-- ════════════════════════════════════════════════════════════════════════
-- Documents
-- ════════════════════════════════════════════════════════════════════════

theorem word?_ofNat (n : UInt64) : word? (Json.ofNat n.toNat) = some n := by
  have hle : n.toNat ≤ Text.maxUInt64 := Nat.le_of_lt_succ n.toNat_lt
  rw [word?, Json.whole?_ofNat hle, Option.map_some, UInt64.ofNat_toNat]

theorem isSpelt_ofNat (n : Nat) : Json.IsSpelt (Json.ofNat n) := .number (Json.isNumeral_ofNat n)

theorem Entry.isSpelt_toJson (e : Entry) : Json.IsSpelt e.toJson := by
  refine Json.isSpelt_ofFields fun field hfield => ?_
  simp only [List.mem_cons, List.not_mem_nil, or_false] at hfield
  rcases hfield with rfl | rfl | rfl
  · exact .string (Json.isString_escape e.encoded)
  · exact isSpelt_ofNat e.requester.toNat
  · exact isSpelt_ofNat e.positionMs.toNat

theorem isSpelt_toJson (s : Snapshot) : Json.IsSpelt s.toJson := by
  have hplaying : Json.IsSpelt ((s.playing.map Entry.toJson).getD .null) := by
    cases s.playing with
    | none => exact .null
    | some e => exact e.isSpelt_toJson
  have hqueue : Json.IsSpelt (.array (s.queue.map Entry.toJson)) := .array fun item hitem => by
    obtain ⟨e, -, rfl⟩ := List.mem_map.1 hitem
    exact e.isSpelt_toJson
  refine Json.isSpelt_ofFields fun field hfield => ?_
  simp only [List.mem_cons, List.not_mem_nil, or_false] at hfield
  rcases hfield with rfl | rfl | rfl | rfl | rfl | rfl
  · exact isSpelt_ofNat s.guild.toNat
  · exact isSpelt_ofNat s.voice.toNat
  · exact isSpelt_ofNat s.text.toNat
  · exact isSpelt_ofNat s.volume.toNat
  · exact hplaying
  · exact hqueue

theorem required?_some {α : Type} (read : Json → Option α) (j : Json) : Json.required? read (some j) = read j := rfl

theorem Entry.ofJson?_toJson (e : Entry) : ofJson? e.toJson = some e := by
  have hfields := Json.fields?_ofFields [
    ("encoded", Json.ofString e.encoded),
    ("requester_id", Json.ofNat e.requester.toNat),
    ("position_ms", Json.ofNat e.positionMs.toNat)] (by decide : ["encoded", "requester_id", "position_ms"].Nodup)
  have hfields : Json.fields? ["encoded", "requester_id", "position_ms"] e.toJson = _ := hfields
  simp only [ofJson?, hfields, List.map_cons, List.map_nil, required?_some, Json.text?_ofString, word?_ofNat,
    Option.bind_eq_bind, Option.bind_some]

/-- A snapshot is read back from its document. -/
theorem ofJson?_toJson (s : Snapshot) : ofJson? s.toJson = some s := by
  have hvolume : Json.whole? 255 (Json.ofNat s.volume.toNat) = some s.volume.toNat :=
    Json.whole?_ofNat (Nat.le_of_lt_succ s.volume.toNat_lt)
  have hplaying : Json.optional? Entry.ofJson? (some ((s.playing.map Entry.toJson).getD .null)) =
      some s.playing := by
    cases s.playing with
    | none => rfl
    | some e => exact congrArg (Option.map some) e.ofJson?_toJson
  have hqueue : Json.list? Entry.ofJson? (.array (s.queue.map Entry.toJson)) = some s.queue :=
    Json.list?_map s.queue fun e _ => e.ofJson?_toJson
  have hfields := Json.fields?_ofFields [
    ("guild_id", Json.ofNat s.guild.toNat),
    ("voice_channel_id", Json.ofNat s.voice.toNat),
    ("message_channel_id", Json.ofNat s.text.toNat),
    ("volume", Json.ofNat s.volume.toNat),
    ("playing_track", (s.playing.map Entry.toJson).getD .null),
    ("queue", .array (s.queue.map Entry.toJson))] (by decide : fieldNames.Nodup)
  have hfields : Json.fields? fieldNames s.toJson = _ := hfields
  simp only [ofJson?, hfields, List.map_cons, List.map_nil, required?_some, word?_ofNat, hvolume, hplaying, hqueue,
    Option.bind_eq_bind, Option.bind_some, UInt8.ofNat_toNat]

/-- A snapshot is read back from its written form. -/
theorem parse?_written (s : Snapshot) : ∃ text, Bytes.toString? s.written = some text ∧ parse? text = some s := by
  obtain ⟨text, hread, hbytes⟩ := (Json.isText_prettyAt s.isSpelt_toJson 0).toString?
  have hbytes : Bytes.ofString text = s.toJson.pretty := hbytes
  refine ⟨text, hread, ?_⟩
  rw [parse?, hbytes, Json.parse?_pretty s.isSpelt_toJson, Option.bind_eq_bind, Option.bind_some, ofJson?_toJson]

-- ════════════════════════════════════════════════════════════════════════
-- Replaying
-- ════════════════════════════════════════════════════════════════════════

variable {p : Player} {maxQueue : Nat}

/-- An entry that can be read counts as kept if the player takes its item. -/
theorem restoreEntry_of_item? {e : Entry} {item : QueueItem} (h : e.item? = some item) (report : Report) (p : Player) :
    restoreEntry (report, p) e =
      (⟨report.kept + (p.accept [item.track] item.requester).1,
          report.dropped + (1 - (p.accept [item.track] item.requester).1)⟩,
        (p.accept [item.track] item.requester).2) := by
  simp only [restoreEntry, h, Option.map_some, Player.enqueue_one, Player.accept_one]
  by_cases hroom : 0 < p.queue.room
  · simp only [if_pos hroom, Nat.sub_self, Nat.add_zero]
  · simp only [if_neg hroom, Nat.sub_zero, Nat.add_zero]

/-- An entry that cannot be read is left out. -/
theorem restoreEntry_of_item?_eq_none {e : Entry} (h : e.item? = none) (report : Report) (p : Player) :
    restoreEntry (report, p) e = (⟨report.kept, report.dropped + 1⟩, p) := by
  simp only [restoreEntry, h, Option.map_none]

/-- Replaying the entries of a queue gives the player their items one after the other, as far as they can be read.
What it does not take is left out. -/
theorem foldl_restoreEntry (entries : List Entry) (report : Report) (p : Player) :
    entries.foldl restoreEntry (report, p) =
      (⟨report.kept + (p.acceptEach (entries.filterMap Entry.item?)).1,
          report.dropped + (entries.length - (p.acceptEach (entries.filterMap Entry.item?)).1)⟩,
        (p.acceptEach (entries.filterMap Entry.item?)).2) := by
  induction entries generalizing report p with
  | nil => rfl
  | cons e entries ih =>
    cases hitem : e.item? with
    | none =>
      have hle := Player.acceptEach_le (entries.filterMap Entry.item?) p
      have hlength : (entries.filterMap Entry.item?).length ≤ entries.length := List.length_filterMap_le _ _
      rw [List.foldl_cons, restoreEntry_of_item?_eq_none hitem, ih, List.filterMap_cons_none hitem, List.length_cons]
      simp only [Prod.mk.injEq, Report.mk.injEq, and_true, true_and]
      omega
    | some item =>
      have hone := Player.acceptEach_le [item] p
      have hle := Player.acceptEach_le (entries.filterMap Entry.item?) (p.accept [item.track] item.requester).2
      have hlength : (entries.filterMap Entry.item?).length ≤ entries.length := List.length_filterMap_le _ _
      rw [Player.acceptEach_cons, List.length_singleton] at hone
      rw [List.foldl_cons, restoreEntry_of_item? hitem, ih, List.filterMap_cons_some hitem, Player.acceptEach_cons,
        List.length_cons]
      simp only [Prod.mk.injEq, Report.mk.injEq, and_true]
      omega

theorem playing_capture (p : Player) :
    (capture p).1.playing = p.queue.current.bind fun now => Entry.ofItem? now p.positionMs := by
  simp only [capture, Player.playing]
  cases p.queue.current <;> rfl

/-- The current track is replayed where it was if it can be written, and left out otherwise. -/
theorem restorePlaying_capture (p q : Player) : restorePlaying (capture p).1.playing (⟨0, 0⟩, q) =
    match p.queue.current.filter QueueItem.isRepresentable with
    | some now => (⟨1, 0⟩, q.resumeAt now.track now.requester p.positionMs)
    | none => (⟨0, 0⟩, q) := by
  rw [playing_capture]
  cases hcurrent : p.queue.current with
  | none => rfl
  | some now =>
    rw [Option.bind_some, Option.filter_some]
    cases hentry : Entry.ofItem? now p.positionMs with
    | none =>
      rw [Entry.ofItem?_eq_none_iff.1 hentry]
      rfl
    | some e =>
      obtain ⟨hitem, hposition⟩ := Entry.item?_of_ofItem? hentry
      rw [if_pos (Entry.isRepresentable_of_ofItem? hentry)]
      simp only [restorePlaying, hitem, hposition]

/-- The snapshot of a player is empty exactly if none of its tracks can be written. -/
theorem isEmpty_capture_iff : (capture p).1.isEmpty = true ↔ p.representable = [] := by
  have hqueue : (capture p).1.queue = [] ↔ ∀ item ∈ p.queue.pending, item.isRepresentable = false := by
    simp only [capture, List.filterMap_eq_nil_iff, Entry.ofItem?_eq_none_iff]
  have hplaying : (capture p).1.playing = none ↔
      ∀ item ∈ p.queue.current.toList, item.isRepresentable = false := by
    simp only [playing_capture, Option.bind_eq_none_iff, Entry.ofItem?_eq_none_iff, Option.mem_toList]
  simp only [isEmpty, Bool.and_eq_true, Option.isNone_iff_eq_none, List.isEmpty_iff, hqueue, hplaying,
    Player.representable, Player.line, List.filter_eq_nil_iff, List.forall_mem_append, Bool.not_eq_true]

theorem setVolume_eq {volume : UInt8} (h : volume ≤ Player.maxVolume) (p : Player) :
    p.setVolume volume = { p with volume } := by
  unfold Player.setVolume
  split
  · next hle => rw [UInt8.le_antisymm hle h]
  · rfl

/-- Replaying the snapshot of a player into a new one brings it back. -/
theorem restore_capture (hvolume : p.volume ≤ Player.maxVolume) (hbound : 0 < maxQueue) (guild : Id) :
    (capture p).1.restore (Player.new guild maxQueue) =
      (⟨min p.representable.length (maxQueue + 1), p.representable.length - (maxQueue + 1)⟩,
        p.revived guild maxQueue) := by
  let silent : Player := { Player.new guild maxQueue with volume := p.volume, voice := p.voice, text := p.text }
  have hsilent : silent.Sound maxQueue := ⟨rfl, Nat.zero_le _, fun _ => rfl, hvolume⟩
  have hplain : ((Player.new guild maxQueue).setVolume p.volume).setChannels p.voice p.text = silent := by
    rw [setVolume_eq hvolume]
    rfl
  have hrestore : (capture p).1.restore (Player.new guild maxQueue) =
      (p.queue.pending.filterMap (Entry.ofItem? · 0)).foldl restoreEntry
        (restorePlaying (capture p).1.playing (⟨0, 0⟩, silent)) := by
    simp only [restore, capture, Id.ofNumber?_number, hplain]
  have hqueue := Entry.filterMap_item?_filterMap_ofItem? p.queue.pending 0
  have hlength := Entry.length_filterMap_ofItem? p.queue.pending 0
  rw [hrestore, restorePlaying_capture, Player.revived, Player.representable_eq, ← Option.isSome_filter]
  cases p.queue.current.filter QueueItem.isRepresentable with
  | some now =>
    -- the current track plays on, so that only the queue takes up room
    have hresumed : (silent.resumeAt now.track now.requester p.positionMs).Sound maxQueue :=
      ⟨rfl, Nat.zero_le _, nofun, hvolume⟩
    have hspace : (silent.resumeAt now.track now.requester p.positionMs).space = maxQueue := rfl
    simp only [Option.toList_some, List.singleton_append, List.length_cons]
    rw [foldl_restoreEntry, hqueue, hlength, hresumed.acceptEach hbound, Player.receive_of_current rfl, hspace]
    simp only [Prod.mk.injEq, Report.mk.injEq]
    exact ⟨⟨by omega, by omega⟩, rfl⟩
  | none =>
    have hspace : silent.space = maxQueue + 1 := rfl
    have hdropped : ∀ n, n - min n (maxQueue + 1) = n - (maxQueue + 1) := by omega
    simp only [Option.toList_none, List.nil_append]
    rw [foldl_restoreEntry, hqueue, hlength, hsilent.acceptEach hbound, Player.receive_of_new rfl rfl rfl, hspace,
      Nat.zero_add, Nat.zero_add, hdropped]
    cases p.queue.pending.filter QueueItem.isRepresentable with
    | nil =>
      simp only [List.take_nil, List.tail_nil]
      rfl
    | cons first rest => rfl

end Snapshot

end Jukebox
