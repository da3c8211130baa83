import Jukebox.Proofs.Loader.ResponseStatus

/-!
# Files and streams

The endings of audio files are looked for twice in the address of a successful answer. An address is taken for that of
a file if an ending stands at the end of its path. A track is taken for a stream if no ending stands anywhere in its
address, be it in the name of the host, in the middle of the path or behind the question mark. In between are addresses
that are not those of files, although they have an ending somewhere: an endless stream there has to be known by its
type, or it passes for a file.

## Main definitions

- `Probe.IsFileLike` — the address is that of an audio file
- `Probe.Response.IsAudio`, `Probe.Response.IsStream` — what the type of the content says
- `Probe.HasStrayEnding` — an ending stands in an address that is not that of a file

## Main results

- `Probe.outcome_eq_track_iff` — which successful answers give a track, and which track
- `Probe.mentionsFile_iff` — where an ending can stand in an address
- `Probe.stream_missed_iff_stray` — exactly when a stream passes for a file
-/

namespace Jukebox

theorem Text.endsWith_eq_true_iff {back s : List Char} : Text.endsWith back s = true ↔ back <:+ s := by
  rw [Text.endsWith, List.isPrefixOf_iff_prefix, List.reverse_prefix]

namespace Probe

variable {address : String} {r : Response} {t : Track}

/-- The address up to its query, in lower case. -/
def path (address : String) : List Char := (Text.lower address.toList).takeWhile (· ≠ '?')

/-- What stands behind the question mark of the address, in lower case. -/
def query (address : String) : List Char := ((Text.lower address.toList).dropWhile (· ≠ '?')).drop 1

/-- The address is that of an audio file: it ends like one before its query, in letters of any case. -/
def IsFileLike (address : String) : Prop := ∃ ending ∈ audioEndings, ending.toList <:+ path address

/-- The ending of an audio file stands in the address, but not at the end of its path. -/
def HasStrayEnding (address : String) : Prop :=
  ¬ IsFileLike address ∧ ∃ ending ∈ audioEndings, ending.toList <:+: path address ∨ ending.toList <:+: query address

/-- The content is audio by its type. -/
def Response.IsAudio (r : Response) : Prop :=
  ∃ type ∈ r.contentType, "audio/".toList <+: type.toList ∨ "ogg".toList <:+: type.toList ∨
    "mpegurl".toList <:+: type.toList

/-- The content is an endless stream by its type. -/
def Response.IsStream (r : Response) : Prop :=
  ∃ type ∈ r.contentType, "mpegurl".toList <:+: type.toList ∨ "aacp".toList <:+: type.toList

-- ════════════════════════════════════════════════════════════════════════
-- The checks
-- ════════════════════════════════════════════════════════════════════════

theorem isFileLike_iff : isFileLike (Text.lower address.toList) = true ↔ IsFileLike address := by
  simp only [isFileLike, List.any_eq_true, Text.endsWith_eq_true_iff]
  rfl

theorem isAudio_iff : (r.contentType.map String.toList).any isAudioType = true ↔ r.IsAudio := by
  cases h : r.contentType <;>
    simp [Response.IsAudio, h, isAudioType, Text.contains_eq_true_iff, or_assoc]

theorem isStream_iff : (r.contentType.map String.toList).any isStreamType = true ↔ r.IsStream := by
  cases h : r.contentType <;> simp [Response.IsStream, h, isStreamType, Text.contains_eq_true_iff]

/-- An ending stands in front of the question mark or behind it, since it has none of its own. -/
theorem mentionsFile_iff : mentionsFile (Text.lower address.toList) = true ↔
    ∃ ending ∈ audioEndings, ending.toList <:+: path address ∨ ending.toList <:+: query address := by
  have hfree : ∀ ending ∈ audioEndings, '?' ∉ ending.toList := by decide
  simp only [mentionsFile, List.any_eq_true, Text.contains_eq_true_iff]
  refine exists_congr fun ending => and_congr_right fun hmem => ?_
  have hsplit : Text.lower address.toList = path address ++ (Text.lower address.toList).dropWhile (· ≠ '?') :=
    List.takeWhile_append_dropWhile.symm
  rw [hsplit, query]
  cases hbehind : (Text.lower address.toList).dropWhile (· ≠ '?') with
  | nil =>
    rw [List.append_nil, List.drop_nil]
    refine (or_iff_left_of_imp fun hnil => ?_).symm
    rw [List.infix_nil.1 hnil]
    exact List.nil_infix
  | cons c behind =>
    have hc : c = '?' := by
      have hfirst := List.head?_dropWhile_not (fun d => decide (d ≠ '?')) (Text.lower address.toList)
      rw [hbehind] at hfirst
      simpa using hfirst
    rw [hc]
    exact Text.infix_append_free_iff (List.cons_ne_nil '?' []) (List.forall_mem_singleton.2 (hfree ending hmem))

/-- Only in an address with a stray ending do the two checks disagree. -/
theorem mentionsFile_iff_or : mentionsFile (Text.lower address.toList) = true ↔
    IsFileLike address ∨ HasStrayEnding address := by
  rw [mentionsFile_iff, HasStrayEnding]
  constructor
  · intro h
    by_cases hfile : IsFileLike address
    · exact .inl hfile
    · exact .inr ⟨hfile, h⟩
  · rintro (⟨ending, hmem, hsuffix⟩ | ⟨-, h⟩)
    · exact ⟨ending, hmem, .inl hsuffix.isInfix⟩
    · exact h

-- ════════════════════════════════════════════════════════════════════════
-- Tracks
-- ════════════════════════════════════════════════════════════════════════

/-- A successful answer gives a track if it is audio by its type or by the address, and the track is a stream if its
type says so or if no ending stands in the address. -/
theorem outcome_eq_track_iff (hlow : 200 ≤ r.status) (hhigh : r.status < 300) :
    outcome address r = .track t ↔ (IsFileLike address ∨ r.IsAudio) ∧ t = track address t.isStream ∧
      (t.isStream = true ↔ r.IsStream ∨ ¬ (IsFileLike address ∨ HasStrayEnding address)) := by
  have hcontent : outcome address r = content address r.contentType := by
    rw [outcome, if_neg (by omega), if_neg (by omega), if_neg (by omega), if_neg (by omega)]
  rw [hcontent, content, ← mentionsFile_iff_or, ← isFileLike_iff, ← isAudio_iff, ← isStream_iff, or_comm,
    ← Bool.or_eq_true, Bool.not_eq_true, ← Bool.not_eq_true', ← Bool.or_eq_true]
  constructor
  · intro h
    split at h
    · next haudio =>
      obtain rfl := LoadOutcome.track.inj h
      exact ⟨haudio, rfl, Iff.rfl⟩
    · cases h
  · rintro ⟨haudio, ht, hstream⟩
    rw [if_pos haudio, ht, Bool.eq_iff_iff.2 hstream]

/-- An answer gives a track exactly if the address is that of a file or the type is one of audio. A track is what it
should be, a stream if the type says so or the address is not that of a file, unless the type says nothing and an
ending has strayed into the address. Then it is no stream, and should be one. -/
theorem stream_missed_iff_stray (address : String) {r : Response} (hlow : 200 ≤ r.status) (hhigh : r.status < 300) :
    ((∃ t, outcome address r = .track t) ↔ IsFileLike address ∨ r.IsAudio) ∧
    ∀ t, outcome address r = .track t →
      (¬ (t.isStream = true ↔ r.IsStream ∨ ¬ IsFileLike address) ↔ ¬ r.IsStream ∧ HasStrayEnding address) ∧
      (¬ r.IsStream ∧ HasStrayEnding address → t.isStream = false) := by
  constructor
  · constructor
    · rintro ⟨t, ht⟩
      exact ((outcome_eq_track_iff hlow hhigh).1 ht).1
    · intro haudio
      classical
      let isStream := decide (r.IsStream ∨ ¬ (IsFileLike address ∨ HasStrayEnding address))
      exact ⟨track address isStream, (outcome_eq_track_iff hlow hhigh).2 ⟨haudio, rfl, decide_eq_true_iff⟩⟩
  · intro t ht
    obtain ⟨-, -, hstream⟩ := (outcome_eq_track_iff hlow hhigh).1 ht
    have hstray : HasStrayEnding address → ¬ IsFileLike address := And.left
    constructor
    · rw [hstream]
      tauto
    · rintro ⟨htype, hending⟩
      rw [← Bool.not_eq_true, hstream]
      tauto

/-- A radio whose host has the ending of an audio file in its name. -/
def radio : String := "http://stream.mp3radio.com/live"

/-- The answer of a radio that does not say so. -/
def playing : Response where
  status := 200
  contentType := some "audio/mpeg"

/-- The radio passes for a file. -/
theorem radio_taken_for_file :
    WebUrl.isValid radio.toList = true ∧ 200 ≤ playing.status ∧ playing.status < 300 ∧
      ∃ t, outcome radio playing = .track t ∧ t.isStream = false ∧ ¬ playing.IsStream ∧ ¬ IsFileLike radio := by
  have hstatus : 200 ≤ playing.status ∧ playing.status < 300 := by decide
  have htype : ¬ playing.IsStream := by
    rw [← isStream_iff]
    decide +kernel
  have hfile : ¬ IsFileLike radio := by
    rw [← isFileLike_iff]
    decide +kernel
  have hmentions : mentionsFile (Text.lower radio.toList) = true := by decide +kernel
  have hstray : HasStrayEnding radio := (mentionsFile_iff_or.1 hmentions).resolve_left hfile
  have haudio : playing.IsAudio := by
    rw [← isAudio_iff]
    decide +kernel
  obtain ⟨htrack, hstream⟩ := stream_missed_iff_stray radio hstatus.1 hstatus.2
  obtain ⟨t, ht⟩ := htrack.2 (.inr haudio)
  exact ⟨by decide +kernel, hstatus.1, hstatus.2, t, ht, (hstream t ht).2 ⟨htype, hstray⟩, htype, hfile⟩

end Probe

end Jukebox
