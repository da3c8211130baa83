import Jukebox.Cache.Shelf
import Jukebox.Proofs.Cache.Record
import Jukebox.Proofs.Directory
import Mathlib.Data.List.Induction

/-!
# What a shelf keeps

Fingerprints that begin with the same 135 bytes have one file on a shelf, and each of them replaces what the others
have left there. A record tells for which of them it was written, so that none is answered with what belongs to
another.

## Main definitions

- `Shelf.Deposit`, `Shelf.fill` — playlists given to a shelf, and the shelf after some of them
- `Shelf.Deposit.IsEffective` — a playlist of which something is left on the shelf
- `Shelf.IsLastFor` — the last effective one of those for the file of a fingerprint

## Main results

- `Shelf.find?_fill` — each file holds the record of the last playlist that was written to it
- `Shelf.fetch_store` — a playlist that was stored is found, as far as it can be written
- `Shelf.fetch_fill` — a shelf answers with the record of the last playlist for the file
- `Shelf.fetch_isolated` — and so only with what is left of a playlist for the same fingerprint

## Design notes

A playlist without a track that can be written leaves the file as it is. It counts for nothing here, even though it
was given to the shelf for the same fingerprint.
-/

namespace Jukebox

/-- What comes last of a list that goes on. -/
theorem getLast?_filterMap_concat {α β : Type} (f : α → Option β) (values : List α) (value : α) :
    ((values ++ [value]).filterMap f).getLast? = (f value).or (values.filterMap f).getLast? := by
  rw [List.filterMap_append, List.getLast?_append]
  cases hvalue : f value <;> simp [hvalue]

namespace Shelf

/-- A playlist that is given to a shelf at some time. -/
structure Deposit where
  time : Timestamp
  fingerprint : String
  playlist : Playlist

namespace Deposit

/-- Something is left of the playlist on the shelf: one of its tracks can be written. -/
def IsEffective (d : Deposit) : Prop := d.playlist.representable ≠ []

/-- The time can be read, and the selection is a number of 64 bits. -/
structure IsReadable (d : Deposit) : Prop where
  time : d.time.IsReadable
  playlist : d.playlist.IsIndexed

def record? (d : Deposit) : Option Record := Record.ofPlaylist? d.fingerprint d.time d.playlist

/-- The record that is written to the file of the given name, if the playlist goes there. -/
def recordIn? (name : String) (d : Deposit) : Option Record :=
  if Record.fileName d.fingerprint = name then d.record? else none

end Deposit

/-- A shelf with an empty directory. -/
def bare (lifetime : Nat) : Shelf := ⟨.files, lifetime, some {}⟩

/-- The shelf after some playlists were given to it, one after the other. -/
def fill (s : Shelf) (deposits : List Deposit) : Shelf :=
  deposits.foldl (fun s d => (s.store d.time d.fingerprint d.playlist).2) s

/-- The record that was written last to the file of a name. -/
def lastRecord? (name : String) (deposits : List Deposit) : Option Record :=
  (deposits.filterMap (Deposit.recordIn? name)).getLast?

/-- The last effective one of the playlists that go to the file of a fingerprint. -/
def IsLastFor (fingerprint : String) (d : Deposit) (deposits : List Deposit) : Prop :=
  ∃ older newer, deposits = older ++ d :: newer ∧ d.IsEffective ∧
    Record.front d.fingerprint = Record.front fingerprint ∧
      ∀ e ∈ newer, e.IsEffective → Record.front e.fingerprint ≠ Record.front fingerprint

theorem IsLastFor.isEffective {fingerprint : String} {d : Deposit} {deposits : List Deposit}
    (h : IsLastFor fingerprint d deposits) : d.IsEffective := by
  obtain ⟨_, _, -, heffective, -⟩ := h
  exact heffective

variable {lifetime : Nat} {deposits : List Deposit} {d : Deposit} {directory : Directory} {fingerprint name : String}
  {now : Timestamp} {p : Playlist} {r : Record}

-- ════════════════════════════════════════════════════════════════════════
-- Writing records
-- ════════════════════════════════════════════════════════════════════════

theorem Deposit.record?_eq_some_iff : d.record? = some r ↔ d.IsEffective ∧ r =
    ⟨d.fingerprint, d.playlist.label, d.playlist.selected,
      (d.playlist.tracks.filterMap Track.encode?).map Base64.encode, d.time⟩ :=
  Record.ofPlaylist?_eq_some_iff

theorem Deposit.record?_eq_none_iff : d.record? = none ↔ ¬ d.IsEffective := by
  rw [record?, Record.ofPlaylist?_eq_none_iff, IsEffective, ne_eq, not_not]

theorem Deposit.recordIn?_fileName :
    d.recordIn? (Record.fileName fingerprint) =
      if Record.front d.fingerprint = Record.front fingerprint then d.record? else none := by
  simp only [recordIn?, Record.fileName_eq_iff]

theorem lastRecord?_concat (name : String) (deposits : List Deposit) (d : Deposit) :
    lastRecord? name (deposits ++ [d]) = (d.recordIn? name).or (lastRecord? name deposits) :=
  getLast?_filterMap_concat _ deposits d

/-- No record is ever written last under a temporary name. -/
theorem lastRecord?_temporaryName (other : String) (deposits : List Deposit) :
    lastRecord? (Record.temporaryName other) deposits = none := by
  have hnone : deposits.filterMap (Deposit.recordIn? (Record.temporaryName other)) = [] :=
    List.filterMap_eq_nil_iff.2 fun d _ => if_neg (Record.fileName_ne_temporaryName d.fingerprint other)
  rw [lastRecord?, hnone, List.getLast?_nil]

/-- Each file holds the record that was written last. -/
def Mirrors (directory : Directory) (deposits : List Deposit) : Prop :=
  ∀ name, directory.find? name = (lastRecord? name deposits).map fun r => .file r.text

theorem Mirrors.storeIn (h : Mirrors directory deposits) (d : Deposit) :
    Mirrors (Shelf.storeIn d.time d.fingerprint d.playlist directory).2 (deposits ++ [d]) := by
  have hnoFolder : ∀ name, directory.find? name ≠ some .folder := fun name => by
    rw [h name]
    cases lastRecord? name deposits <;> simp
  intro name
  rw [lastRecord?_concat, Shelf.storeIn]
  cases hrecord : d.record? with
  | none =>
    have hnone : d.recordIn? name = none := by
      rw [Deposit.recordIn?, hrecord, ite_self]
    rw [show Record.ofPlaylist? d.fingerprint d.time d.playlist = none from hrecord, hnone, Option.none_or]
    exact h name
  | some r =>
    rw [show Record.ofPlaylist? d.fingerprint d.time d.playlist = some r from hrecord]
    simp only [Directory.find?_save (Record.fileName_ne_temporaryName d.fingerprint d.fingerprint) (hnoFolder _)
      (hnoFolder _)]
    by_cases hname : name = Record.fileName d.fingerprint
    · rw [if_pos hname, Deposit.recordIn?, if_pos hname.symm, hrecord]
      rfl
    · have hnone : d.recordIn? name = none := if_neg fun heq => hname heq.symm
      rw [if_neg hname, hnone, Option.none_or]
      split
      · next htemporary => rw [htemporary, lastRecord?_temporaryName, Option.map_none]
      · exact h name

/-- After any playlists, each file of a shelf holds the record that was written last. -/
theorem find?_fill (lifetime : Nat) (deposits : List Deposit) : ∃ directory,
    (bare lifetime).fill deposits = ⟨.files, lifetime, some directory⟩ ∧ Mirrors directory deposits := by
  induction deposits using List.reverseRecOn with
  | nil => exact ⟨{}, rfl, fun _ => rfl⟩
  | append_singleton deposits d ih =>
    obtain ⟨directory, hfill, hmirrors⟩ := ih
    refine ⟨_, ?_, hmirrors.storeIn d⟩
    rw [fill, List.foldl_append]
    change (((bare lifetime).fill deposits).store d.time d.fingerprint d.playlist).2 = _
    rw [hfill]
    rfl

-- ════════════════════════════════════════════════════════════════════════
-- Reading records
-- ════════════════════════════════════════════════════════════════════════

/-- A playlist that was stored is found under its fingerprint as far as it can be written, until it is too old. -/
theorem fetch_store {s : Shelf} {time : Timestamp} (hfiles : s.kind = .files) (htime : time.IsReadable)
    (hindexed : p.IsIndexed) (hsome : p.representable ≠ []) (hstored : (s.store time fingerprint p).1 = .ok ())
    (now : Timestamp) : (s.store time fingerprint p).2.fetch now fingerprint =
      .ok (if now - time ≤ s.lifetime then p.kept? else none) := by
  obtain ⟨kind, lifetime, directory⟩ := s
  obtain rfl : kind = .files := hfiles
  obtain ⟨r, hr⟩ : ∃ r, Record.ofPlaylist? fingerprint time p = some r :=
    ⟨_, Record.ofPlaylist?_eq_some_iff.2 ⟨hsome, rfl⟩⟩
  cases directory with
  | none =>
    simp only [store, hr] at hstored
    cases hstored
  | some d =>
    have hsaved : (d.save (Record.fileName fingerprint) (Record.temporaryName fingerprint) r.text).1 = true := by
      simp only [store, storeIn, hr] at hstored
      split at hstored
      · assumption
      · cases hstored
    have hfound := Directory.find?_of_save (Record.fileName_ne_temporaryName fingerprint fingerprint) hsaved
    obtain ⟨text, hread, hparse⟩ := Record.parse?_text (Record.isReadable_of_ofPlaylist? hr hindexed htime)
    have hwritten : r.fingerprint = fingerprint ∧ r.isFresh lifetime now = true ↔ now - time ≤ lifetime := by
      obtain ⟨-, rfl⟩ := Record.ofPlaylist?_eq_some_iff.1 hr
      exact (and_iff_right rfl).trans decide_eq_true_iff
    simp only [store, storeIn, hr, fetch, fetchFrom, Directory.readText, hfound, hread, hparse, hwritten,
      Record.playlist?_of_ofPlaylist? hr]
    split <;> rfl

theorem exists_deposit_of_lastRecord? (h : lastRecord? name deposits = some r) :
    ∃ d ∈ deposits, d.record? = some r := by
  obtain ⟨d, hd, hrecord⟩ := List.mem_filterMap.1 (List.mem_of_getLast? h)
  rw [Deposit.recordIn?] at hrecord
  split at hrecord
  · exact ⟨d, hd, hrecord⟩
  · cases hrecord

/-- The record in the file of a fingerprint is that of the last effective playlist that went there. -/
theorem lastRecord?_fileName_eq_some_iff : lastRecord? (Record.fileName fingerprint) deposits = some r ↔
    ∃ d, IsLastFor fingerprint d deposits ∧ d.record? = some r := by
  have hother : ∀ e : Deposit, e.recordIn? (Record.fileName fingerprint) = none ↔
      (e.IsEffective → Record.front e.fingerprint ≠ Record.front fingerprint) := by
    intro e
    rw [Deposit.recordIn?_fileName]
    by_cases hfront : Record.front e.fingerprint = Record.front fingerprint
    · rw [if_pos hfront, Deposit.record?_eq_none_iff]
      exact ⟨fun hnot heffective => absurd heffective hnot, fun himp heffective => himp heffective hfront⟩
    · rw [if_neg hfront]
      exact ⟨fun _ _ => hfront, fun _ => rfl⟩
  have hlast : ∀ d : Deposit, d.recordIn? (Record.fileName fingerprint) = some r ↔
      Record.front d.fingerprint = Record.front fingerprint ∧ d.record? = some r := by
    intro d
    rw [Deposit.recordIn?_fileName]
    split <;> simp [*]
  rw [lastRecord?, List.getLast?_filterMap, List.findSome?_eq_some_iff]
  simp only [hother, hlast]
  constructor
  · rintro ⟨newer, d, older, hsplit, ⟨hfront, hrecord⟩, hnewer⟩
    have hdeposits : deposits = older.reverse ++ d :: newer.reverse := by
      rw [← List.reverse_reverse deposits, hsplit]
      simp
    refine ⟨d, ⟨_, _, hdeposits, (Deposit.record?_eq_some_iff.1 hrecord).1, hfront, fun e he => ?_⟩, hrecord⟩
    exact hnewer e (List.mem_reverse.1 he)
  · rintro ⟨d, ⟨older, newer, rfl, -, hfront, hnewer⟩, hrecord⟩
    refine ⟨newer.reverse, d, older.reverse, by simp, ⟨hfront, hrecord⟩, fun e he => ?_⟩
    exact hnewer e (List.mem_reverse.1 he)

theorem readText_of_mirrors (h : Mirrors directory deposits) (hdeposits : ∀ d ∈ deposits, d.IsReadable)
    (hrecord : lastRecord? name deposits = some r) :
    ∃ s, directory.readText name = .text s ∧ Record.parse? s = some r := by
  obtain ⟨d, hd, hr⟩ := exists_deposit_of_lastRecord? hrecord
  have hreadable := hdeposits d hd
  obtain ⟨s, hread, hparse⟩ :=
    Record.parse?_text (Record.isReadable_of_ofPlaylist? hr hreadable.playlist hreadable.time)
  refine ⟨s, ?_, hparse⟩
  rw [Directory.readText, h name, hrecord, Option.map_some]
  simp only [hread]

/-- A shelf answers with the record in the file of the fingerprint, if it was written for that fingerprint and is
still fresh. -/
theorem fetch_fill (hdeposits : ∀ d ∈ deposits, d.IsReadable) (lifetime : Nat) (now : Timestamp)
    (fingerprint : String) : ((bare lifetime).fill deposits).fetch now fingerprint =
      .ok ((lastRecord? (Record.fileName fingerprint) deposits).bind fun r =>
        if r.fingerprint = fingerprint ∧ r.isFresh lifetime now then r.playlist? else none) := by
  obtain ⟨directory, hfill, hmirrors⟩ := find?_fill lifetime deposits
  rw [hfill]
  change fetchFrom lifetime now fingerprint directory = _
  unfold fetchFrom
  cases hrecord : lastRecord? (Record.fileName fingerprint) deposits with
  | none =>
    have hmissing : directory.readText (Record.fileName fingerprint) = .missing := by
      rw [Directory.readText, hmirrors, hrecord, Option.map_none]
    rw [hmissing]
    rfl
  | some r =>
    obtain ⟨s, hread, hparse⟩ := readText_of_mirrors hmirrors hdeposits hrecord
    rw [hread]
    simp only [hparse, Option.bind_some]
    split <;> rfl

/-- What a shelf answers is what is left of the last effective playlist for the file, if that was given for the
fingerprint and is still fresh. -/
theorem fetch_fill_eq_some_iff (hdeposits : ∀ d ∈ deposits, d.IsReadable) :
    ((bare lifetime).fill deposits).fetch now fingerprint = .ok (some p) ↔
      ∃ d, IsLastFor fingerprint d deposits ∧ d.fingerprint = fingerprint ∧ now - d.time ≤ lifetime ∧
        d.playlist.kept? = some p := by
  rw [fetch_fill hdeposits, Except.ok.injEq, Option.bind_eq_some_iff]
  simp only [lastRecord?_fileName_eq_some_iff, Option.ite_none_right_eq_some, Record.isFresh, decide_eq_true_iff]
  constructor
  · rintro ⟨r, ⟨d, hlast, hrecord⟩, ⟨hfingerprint, hfresh⟩, hplaylist⟩
    rw [Record.playlist?_of_ofPlaylist? hrecord] at hplaylist
    obtain ⟨-, rfl⟩ := Deposit.record?_eq_some_iff.1 hrecord
    exact ⟨d, hlast, hfingerprint, hfresh, hplaylist⟩
  · rintro ⟨d, hlast, hfingerprint, hfresh, hkept⟩
    obtain ⟨r, hr⟩ : ∃ r, d.record? = some r := ⟨_, Deposit.record?_eq_some_iff.2 ⟨hlast.isEffective, rfl⟩⟩
    refine ⟨r, ⟨d, hlast, hr⟩, ?_, (Record.playlist?_of_ofPlaylist? hr).trans hkept⟩
    obtain ⟨-, rfl⟩ := Deposit.record?_eq_some_iff.1 hr
    exact ⟨hfingerprint, hfresh⟩

/-- The last effective playlist for the file of a fingerprint is the one whose record is in the file. -/
theorem IsLastFor.lastRecord? (h : IsLastFor fingerprint d deposits) :
    Shelf.lastRecord? (Record.fileName fingerprint) deposits = d.record? := by
  obtain ⟨r, hr⟩ : ∃ r, d.record? = some r := ⟨_, Deposit.record?_eq_some_iff.2 ⟨h.isEffective, rfl⟩⟩
  rw [hr]
  exact lastRecord?_fileName_eq_some_iff.2 ⟨d, h, hr⟩

/-- Playlists for files of other names can be left out. -/
theorem lastRecord?_filter (fingerprint : String) (deposits : List Deposit) :
    lastRecord? (Record.fileName fingerprint)
        (deposits.filter fun d => Record.front d.fingerprint = Record.front fingerprint) =
      lastRecord? (Record.fileName fingerprint) deposits := by
  rw [lastRecord?, List.filterMap_filter, lastRecord?]
  refine congrArg List.getLast? (List.filterMap_congr fun d _ => ?_)
  rw [Deposit.recordIn?_fileName]
  by_cases h : Record.front d.fingerprint = Record.front fingerprint <;> simp [h]

/-- A shelf that was empty answers with a playlist exactly if, among those of which something is left and whose
fingerprints begin with the same 135 bytes, the last one was given for this very fingerprint and is no older than
the shelf allows. The answer has its label and all of its tracks that can be written, in order, and no selection
out of range. What was given for fingerprints that begin otherwise does not matter. -/
theorem fetch_isolated (lifetime : Nat) (deposits : List Deposit) (hdeposits : ∀ d ∈ deposits, d.IsReadable)
    (now : Timestamp) (fingerprint : String) : ∃ found,
      ((bare lifetime).fill deposits).fetch now fingerprint = .ok found ∧
      (found.isSome = true ↔
        ∃ d, IsLastFor fingerprint d deposits ∧ d.fingerprint = fingerprint ∧ now - d.time ≤ lifetime) ∧
      (∀ p d, found = some p → IsLastFor fingerprint d deposits → d.fingerprint = fingerprint ∧
        p.label = d.playlist.label ∧ p.tracks = d.playlist.representable ∧
          ∀ i, p.selected = some i → i < p.tracks.length) ∧
      ((bare lifetime).fill (deposits.filter fun d => Record.front d.fingerprint = Record.front fingerprint)).fetch
        now fingerprint = .ok found := by
  obtain ⟨found, hfetch⟩ : ∃ found, ((bare lifetime).fill deposits).fetch now fingerprint = .ok found :=
    ⟨_, fetch_fill hdeposits lifetime now fingerprint⟩
  have hiff : ∀ p, found = some p ↔ ∃ d, IsLastFor fingerprint d deposits ∧ d.fingerprint = fingerprint ∧
      now - d.time ≤ lifetime ∧ d.playlist.kept? = some p := fun p => by
    rw [← fetch_fill_eq_some_iff hdeposits, hfetch, Except.ok.injEq]
  refine ⟨found, hfetch, ?_, fun p d hfound hlast => ?_, ?_⟩
  · rw [Option.isSome_iff_exists]
    constructor
    · rintro ⟨p, hp⟩
      obtain ⟨d, hlast, hfingerprint, hfresh, -⟩ := (hiff p).1 hp
      exact ⟨d, hlast, hfingerprint, hfresh⟩
    · rintro ⟨d, hlast, hfingerprint, hfresh⟩
      obtain ⟨p, hp⟩ := Option.isSome_iff_exists.1 (Playlist.isSome_kept?_iff.2 hlast.isEffective)
      exact ⟨p, (hiff p).2 ⟨d, hlast, hfingerprint, hfresh, hp⟩⟩
  · -- the source of the answer has the same record as the last playlist
    obtain ⟨source, hsource, hfingerprint, -, hkept⟩ := (hiff p).1 hfound
    obtain ⟨r, hr⟩ : ∃ r, d.record? = some r := ⟨_, Deposit.record?_eq_some_iff.2 ⟨hlast.isEffective, rfl⟩⟩
    have hr' : source.record? = some r := by rw [← hsource.lastRecord?, hlast.lastRecord?, hr]
    rw [← Record.playlist?_of_ofPlaylist? hr', Record.playlist?_of_ofPlaylist? hr] at hkept
    obtain ⟨-, rfl⟩ := Playlist.kept?_eq_some_iff.1 hkept
    have hsame : source.fingerprint = d.fingerprint := by
      obtain ⟨-, heq⟩ := Deposit.record?_eq_some_iff.1 hr
      obtain ⟨-, heq'⟩ := Deposit.record?_eq_some_iff.1 hr'
      exact congrArg Record.fingerprint (heq'.symm.trans heq)
    refine ⟨hsame ▸ hfingerprint, rfl, rfl, fun i hi => ?_⟩
    simpa using (Option.filter_eq_some_iff.1 hi).2
  · rw [fetch_fill (fun d hd => hdeposits d (List.mem_filter.1 hd).1), lastRecord?_filter,
      ← fetch_fill hdeposits, hfetch]

/-- Of two playlists for two fingerprints, the shelf answers with the first one for its fingerprint. -/
theorem fetch_first_of_two :
    let t : Track := ⟨"title", "author", 1000, "id", false, none, "youtube"⟩
    let deposits : List Deposit := [⟨0, "a", ⟨"first", [t], some 0⟩⟩, ⟨1, "b", ⟨"second", [t, t], none⟩⟩]
    ∃ p, ((bare 10).fill deposits).fetch 5 "a" = .ok (some p) ∧ p.label = "first" ∧ p.tracks = [t] := by
  intro t deposits
  have hreadable : ∀ d ∈ deposits, d.IsReadable := by
    intro d hd
    simp only [deposits, List.mem_cons, List.not_mem_nil, or_false] at hd
    rcases hd with rfl | rfl
    · exact ⟨⟨by decide, by decide⟩, fun i hi => by obtain rfl := Option.some.inj hi; exact Nat.zero_le _⟩
    · exact ⟨⟨by decide, by decide⟩, fun i hi => nomatch hi⟩
  have hwritten : Playlist.representable ⟨"first", [t], some 0⟩ = [t] := by
    unfold t
    decide
  have hlast : IsLastFor "a" ⟨0, "a", ⟨"first", [t], some 0⟩⟩ deposits := by
    refine ⟨[], _, rfl, fun hnone => List.cons_ne_nil t [] (hwritten.symm.trans hnone), rfl, fun e he _ => ?_⟩
    rw [List.mem_singleton.1 he]
    decide
  obtain ⟨found, hfetch, hiff, hanswer, -⟩ := fetch_isolated 10 deposits hreadable 5 "a"
  obtain ⟨p, rfl⟩ := Option.isSome_iff_exists.1 (hiff.2 ⟨_, hlast, rfl, by decide⟩)
  obtain ⟨-, hlabel, htracks, -⟩ := hanswer p _ rfl hlast
  exact ⟨p, hfetch, hlabel, htracks.trans hwritten⟩

end Shelf

end Jukebox
