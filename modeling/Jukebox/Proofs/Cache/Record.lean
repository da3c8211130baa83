import Jukebox.Cache.Record
import Jukebox.Proofs.Json.Document
import Jukebox.Proofs.Text.Base64
import Jukebox.Proofs.Timestamp
import Jukebox.Proofs.Track.Blob

/-!
# Records are read back

What is left of a playlist that was kept in a file are the tracks that can be written as bytes. Their order and
the label stay, and so does the selection, if there is still a track at its place. The file is found by the first
135 bytes of the fingerprint alone.

## Main definitions

- `Playlist.representable` — the tracks of a playlist that can be written as bytes
- `Playlist.kept?` — what is left of a playlist that was kept
- `Playlist.IsIndexed` — the selection is a number of 64 bits
- `Record.IsReadable` — the records that are read back
- `Record.front` — the bytes of a fingerprint that count for its file

## Main results

- `Record.playlist?_of_ofPlaylist?` — the playlist of a playlist's record is what is left of the playlist
- `Record.parse?_text` — a record is read back from its file
- `Record.fileName_eq_iff` — two fingerprints have one file if their first 135 bytes are the same
-/

namespace Jukebox

-- ════════════════════════════════════════════════════════════════════════
-- What is left of a playlist
-- ════════════════════════════════════════════════════════════════════════

namespace Playlist

/-- The tracks that can be written as bytes. -/
def representable (p : Playlist) : List Track :=
  p.tracks.filter fun t => t.encode?.isSome

/-- What is left of a playlist that was kept. Without a track that can be written nothing is left. -/
def kept? (p : Playlist) : Option Playlist :=
  if p.representable.isEmpty then none
  else some ⟨p.label, p.representable, p.selected.filter (· < p.representable.length)⟩

/-- The selection is a number of 64 bits. -/
def IsIndexed (p : Playlist) : Prop := ∀ i, p.selected = some i → i ≤ Text.maxUInt64

theorem kept?_eq_some_iff {p left : Playlist} : p.kept? = some left ↔ p.representable ≠ [] ∧
    left = ⟨p.label, p.representable, p.selected.filter (· < p.representable.length)⟩ := by
  unfold kept?
  split
  · next hempty => simp [List.isEmpty_iff.1 hempty]
  · next hsome => simpa [List.isEmpty_iff.not.1 hsome] using eq_comm

theorem isSome_kept?_iff {p : Playlist} : p.kept?.isSome = true ↔ p.representable ≠ [] := by
  rw [Option.isSome_iff_exists]
  exact ⟨fun ⟨_, h⟩ => (kept?_eq_some_iff.1 h).1, fun h => ⟨_, kept?_eq_some_iff.2 ⟨h, rfl⟩⟩⟩

theorem kept?_eq_none_iff {p : Playlist} : p.kept? = none ↔ p.representable = [] := by
  rw [← Option.not_isSome_iff_eq_none, isSome_kept?_iff, not_not]

/-- Something is left of what is left of a playlist. -/
theorem kept?_ne_none_of_kept? {p left : Playlist} (h : p.kept? = some left) : left.kept? ≠ none := by
  obtain ⟨hsome, rfl⟩ := kept?_eq_some_iff.1 h
  rw [ne_eq, ← Option.not_isSome_iff_eq_none, not_not, isSome_kept?_iff]
  simpa [representable, List.filter_filter] using hsome

theorem isEmpty_of_kept? {p left : Playlist} (h : p.kept? = some left) : p.isEmpty = false := by
  rw [Bool.eq_false_iff, isEmpty, ne_eq, List.isEmpty_iff]
  intro hnone
  exact (kept?_eq_some_iff.1 h).1 (by rw [representable, hnone, List.filter_nil])

end Playlist

namespace Track

theorem filterMap_decode?_encode? (tracks : List Track) :
    (tracks.filterMap encode?).filterMap decode? = tracks.filter fun t => t.encode?.isSome := by
  induction tracks with
  | nil => rfl
  | cons t tracks ih =>
    cases hencode : t.encode? with
    | none => rw [List.filterMap_cons_none hencode, ih, List.filter_cons_of_neg (by simp [hencode])]
    | some bytes =>
      rw [List.filterMap_cons_some hencode, List.filterMap_cons_some (decode?_eq_some_iff.2 hencode), ih,
        List.filter_cons_of_pos (by simp [hencode])]

theorem filterMap_encode?_eq_nil_iff {tracks : List Track} :
    tracks.filterMap encode? = [] ↔ (tracks.filter fun t => t.encode?.isSome) = [] := by
  simp [List.filterMap_eq_nil_iff, List.filter_eq_nil_iff]

theorem getD_encodeAll? (tracks : List Track) : (encodeAll? tracks).getD [] = tracks.filterMap encode? := by
  unfold encodeAll?
  cases tracks with
  | nil => rfl
  | cons t tracks => rfl

theorem getD_decodeAll? (blobs : List Bytes) : (decodeAll? blobs).getD [] = blobs.filterMap decode? := by
  unfold decodeAll?
  cases blobs with
  | nil => rfl
  | cons bytes blobs => rfl

end Track

namespace Record

variable {r : Record} {p : Playlist} {fingerprint other : String} {now : Timestamp}

/-- A playlist has a record if one of its tracks can be written. -/
theorem ofPlaylist?_eq_some_iff : ofPlaylist? fingerprint now p = some r ↔ p.representable ≠ [] ∧
    r = ⟨fingerprint, p.label, p.selected, (p.tracks.filterMap Track.encode?).map Base64.encode, now⟩ := by
  have hempty : ((p.tracks.filterMap Track.encode?).map Base64.encode).isEmpty = true ↔ p.representable = [] := by
    rw [List.isEmpty_iff, List.map_eq_nil_iff]
    exact Track.filterMap_encode?_eq_nil_iff
  simp only [ofPlaylist?, Track.getD_encodeAll?]
  split
  · next h => simp [hempty.1 h]
  · next h => simpa [hempty.not.1 h] using eq_comm

theorem ofPlaylist?_eq_none_iff : ofPlaylist? fingerprint now p = none ↔ p.representable = [] := by
  rw [Option.eq_none_iff_forall_ne_some]
  simp only [ne_eq, ofPlaylist?_eq_some_iff, not_and]
  exact ⟨fun h => Decidable.byContradiction fun hsome => h _ hsome rfl, fun h _ hsome => absurd h hsome⟩

/-- The playlist of a playlist's record is what is left of the playlist. -/
theorem playlist?_of_ofPlaylist? (h : ofPlaylist? fingerprint now p = some r) : r.playlist? = p.kept? := by
  obtain ⟨hsome, rfl⟩ := ofPlaylist?_eq_some_iff.1 h
  have hbytes : ((p.tracks.filterMap Track.encode?).map Base64.encode).filterMap Base64.decode? =
      p.tracks.filterMap Track.encode? := by
    rw [List.filterMap_map]
    exact (List.filterMap_congr fun bytes _ => Base64.decode?_encode bytes).trans List.filterMap_some
  simp only [playlist?, hbytes, Track.getD_decodeAll?, Track.filterMap_decode?_encode?]
  rfl

-- ════════════════════════════════════════════════════════════════════════
-- Files
-- ════════════════════════════════════════════════════════════════════════

/-- The selection is a number of 64 bits, and the time can be read. -/
structure IsReadable (r : Record) : Prop where
  selected_le : ∀ i, r.selected = some i → i ≤ Text.maxUInt64
  storedAt : r.storedAt.IsReadable

theorem isReadable_of_ofPlaylist? (h : ofPlaylist? fingerprint now p = some r) (hp : p.IsIndexed)
    (hnow : now.IsReadable) : r.IsReadable := by
  obtain ⟨-, rfl⟩ := ofPlaylist?_eq_some_iff.1 h
  exact ⟨hp, hnow⟩

theorem isSpelt_toJson (r : Record) : Json.IsSpelt r.toJson := by
  have hstring : ∀ s, Json.IsSpelt (Json.ofString s) := fun s => .string (Json.isString_escape s)
  have hselected : Json.IsSpelt ((r.selected.map Json.ofNat).getD .null) := by
    cases r.selected with
    | none => exact .null
    | some i => exact .number (Json.isNumeral_ofNat i)
  have htracks : Json.IsSpelt (.array (r.tracks.map Json.ofString)) := .array fun item hitem => by
    obtain ⟨s, -, rfl⟩ := List.mem_map.1 hitem
    exact hstring s
  refine Json.isSpelt_ofFields fun field hfield => ?_
  simp only [List.mem_cons, List.not_mem_nil, or_false] at hfield
  rcases hfield with rfl | rfl | rfl | rfl | rfl
  · exact hstring r.fingerprint
  · exact hstring r.label
  · exact hselected
  · exact htracks
  · exact hstring r.storedAt.text

/-- A record is read back from its document. -/
theorem ofJson?_toJson (h : r.IsReadable) : ofJson? r.toJson = some r := by
  have hselected : Json.optional? (Json.whole? Text.maxUInt64) (some ((r.selected.map Json.ofNat).getD .null)) =
      some r.selected := by
    cases hsome : r.selected with
    | none => rfl
    | some i => exact congrArg (Option.map some) (Json.whole?_ofNat (h.selected_le i hsome))
  have htracks : Json.list? Json.text? (.array (r.tracks.map Json.ofString)) = some r.tracks :=
    Json.list?_map r.tracks fun s _ => Json.text?_ofString s
  have htime : time? (Json.ofString r.storedAt.text) = some r.storedAt := by
    rw [time?, Json.text?_ofString, Option.bind_eq_bind, Option.bind_some, Timestamp.parse?_text h.storedAt]
  have hfields := Json.fields?_ofFields [
    ("fingerprint", Json.ofString r.fingerprint),
    ("label", Json.ofString r.label),
    ("selected", (r.selected.map Json.ofNat).getD .null),
    ("tracks", .array (r.tracks.map Json.ofString)),
    ("stored_at", Json.ofString r.storedAt.text)] (by decide : fieldNames.Nodup)
  have hrequired : ∀ {α : Type} (read : Json → Option α) (j : Json), Json.required? read (some j) = read j :=
    fun _ _ => rfl
  have hfields : Json.fields? fieldNames r.toJson = _ := hfields
  simp only [ofJson?, hfields, List.map_cons, List.map_nil, hrequired, Json.text?_ofString, hselected, htracks, htime,
    Option.bind_eq_bind, Option.bind_some]

/-- A record is read back from its file. -/
theorem parse?_text (h : r.IsReadable) : ∃ s, Bytes.toString? r.text = some s ∧ parse? s = some r := by
  obtain ⟨s, hread, hbytes⟩ := (Json.isText_compact r.isSpelt_toJson).toString?
  refine ⟨s, hread, ?_⟩
  rw [parse?, hbytes, Json.parse?_compact r.isSpelt_toJson, Option.bind_eq_bind, Option.bind_some,
    ofJson?_toJson h]

-- ════════════════════════════════════════════════════════════════════════
-- Names of files
-- ════════════════════════════════════════════════════════════════════════

/-- The first 135 bytes of a fingerprint. -/
def front (fingerprint : String) : Bytes := (Bytes.ofString fingerprint).take 135

/-- A name is as long as the form of 135 bytes. -/
theorem toList_stem (fingerprint : String) :
    (stem fingerprint).toList = Base64.groups (Base64.letter '-' '_') [] (front fingerprint) := by
  rw [stem, String.toList_ofList, Base64.encodeForName, String.toList_ofList]
  exact Base64.take_groups _ _ 45

/-- Two fingerprints have one file if their first 135 bytes are the same. -/
theorem fileName_eq_iff : fileName fingerprint = fileName other ↔ front fingerprint = front other := by
  unfold fileName
  constructor
  · intro h
    have hstem : (stem fingerprint).toList = (stem other).toList := by
      refine (List.append_left_inj ".json".toList).1 ?_
      rw [← String.toList_append, ← String.toList_append, h]
    rw [toList_stem, toList_stem] at hstem
    exact Base64.groups_injective hstem
  · intro h
    have hstem : stem fingerprint = stem other := by
      rw [← String.toList_inj, toList_stem, toList_stem, h]
    rw [hstem]

/-- No playlist is kept under a name to which one is written at first. -/
theorem fileName_ne_temporaryName (fingerprint other : String) : fileName fingerprint ≠ temporaryName other := by
  have hname : (fileName fingerprint).toList.getLast? = some 'n' := by
    rw [fileName, String.toList_append, List.getLast?_append]
    rfl
  have htemporary : (temporaryName other).toList.getLast? = some 'p' := by
    unfold temporaryName
    simp only
    split
    · rfl
    · rw [String.toList_append, List.getLast?_append]
      rfl
  intro heq
  rw [heq, htemporary] at hname
  exact absurd hname (by decide)

end Record

end Jukebox
