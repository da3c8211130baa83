import Jukebox.Proofs.Cache.Shelf

/-!
# The selected track on a shelf

A shelf leaves out the tracks that cannot be written, and keeps the number of the selected one as it is. If a track in
front of it was left out, the number is that of another track, or of none.

## Main definitions

- `Playlist.survivingSelection?` — where the selected track stands among those that can be written

## Main results

- `Playlist.survivingSelection?_spec` — the track that stands there is the selected one
- `Playlist.selected_of_kept?_iff` — when the selection of what is left is the right one
- `Shelf.selection_survives_iff` — when a shelf keeps the selection of a playlist
- `Shelf.selection_moves_on` — a playlist of which the shelf selects another track
-/

namespace Jukebox

/-- An element that passes a filter stands behind those in front of it that pass. -/
theorem getElem?_filter_countP {α : Type} {f : α → Bool} {values : List α} {i : Nat} (hi : i < values.length)
    (hpasses : f values[i] = true) : (values.filter f)[(values.take i).countP f]? = some values[i] := by
  have hsplit : values.take i ++ values[i] :: values.drop (i + 1) = values := by
    rw [List.getElem_cons_drop, List.take_append_drop]
  have hfilter : values.filter f = (values.take i).filter f ++ values[i] :: (values.drop (i + 1)).filter f := by
    rw [← List.filter_cons_of_pos hpasses, ← List.filter_append, hsplit]
  rw [hfilter, List.countP_eq_length_filter, List.getElem?_append_right (Nat.le_refl _), Nat.sub_self,
    List.getElem?_cons_zero]

namespace Playlist

variable {p left : Playlist} {i : Nat}

/-- Where the selected track stands among those that can be written, if it is one of them. -/
def survivingSelection? (p : Playlist) : Option Nat := do
  let i ← p.selected
  let t ← p.tracks[i]?
  if t.encode?.isSome then some ((p.tracks.take i).countP fun t => t.encode?.isSome) else none

theorem survivingSelection?_eq (hselected : p.selected = some i) (hi : i < p.tracks.length) :
    p.survivingSelection? = if p.tracks[i].encode?.isSome then
      some ((p.tracks.take i).countP fun t => t.encode?.isSome) else none := by
  rw [survivingSelection?, hselected, Option.bind_eq_bind, Option.bind_some, List.getElem?_eq_getElem hi,
    Option.bind_eq_bind, Option.bind_some]

/-- The track that stands there is the selected one. -/
theorem survivingSelection?_spec (hselected : p.selected = some i) (hi : i < p.tracks.length) {j : Nat}
    (h : p.survivingSelection? = some j) : p.representable[j]? = some p.tracks[i] := by
  rw [survivingSelection?_eq hselected hi, Option.ite_none_right_eq_some] at h
  obtain ⟨hwritten, hj⟩ := h
  rw [← Option.some.inj hj, representable]
  exact getElem?_filter_countP hi hwritten

/-- All tracks up to some number can be written if as many as that number are left of them. -/
theorem countP_take_eq_iff (hi : i < p.tracks.length) :
    ((p.tracks.take i).countP fun t => t.encode?.isSome) = i ↔ ∀ t ∈ p.tracks.take i, t.encode?.isSome = true := by
  have hlength : (p.tracks.take i).length = i := List.length_take_of_le (Nat.le_of_lt hi)
  rw [← List.countP_eq_length, hlength]

/-- The selection of what is left is the right one if no track in front of the selected one was left out. If the
selected track itself was left out, it is if no track is left under its number. -/
theorem selected_of_kept?_iff (h : p.kept? = some left) (hselected : p.selected = some i) (hi : i < p.tracks.length) :
    left.selected = p.survivingSelection? ↔ if p.tracks[i].encode?.isSome then
      ∀ t ∈ p.tracks.take i, t.encode?.isSome = true else p.representable.length ≤ i := by
  obtain ⟨-, rfl⟩ := kept?_eq_some_iff.1 h
  rw [survivingSelection?_eq hselected hi, hselected, Option.filter_some]
  by_cases hwritten : p.tracks[i].encode?.isSome = true
  · rw [if_pos hwritten, if_pos hwritten, ← countP_take_eq_iff hi]
    have hplace := survivingSelection?_spec hselected hi
      ((survivingSelection?_eq hselected hi).trans (if_pos hwritten))
    obtain ⟨hlt, -⟩ := List.getElem?_eq_some_iff.1 hplace
    by_cases hsame : ((p.tracks.take i).countP fun t => t.encode?.isSome) = i
    · rw [hsame] at hlt ⊢
      simp [hlt]
    · simp only [hsame, iff_false]
      split
      · intro heq
        exact hsame (Option.some.inj heq).symm
      · exact nofun
  · rw [if_neg hwritten, if_neg hwritten]
    simp

end Playlist

namespace Shelf

variable {s : Shelf} {time now : Timestamp} {fingerprint : String} {p : Playlist} {i : Nat}

theorem store_of_representable_eq_nil (hnone : p.representable = []) (time : Timestamp) (fingerprint : String)
    (s : Shelf) : (s.store time fingerprint p).2 = s := by
  have hrecord : Record.ofPlaylist? fingerprint time p = none := Record.ofPlaylist?_eq_none_iff.2 hnone
  obtain ⟨kind, lifetime, directory⟩ := s
  cases kind with
  | absent | broken => rfl
  | files =>
    cases directory with
    | none => rfl
    | some d => simp only [store, storeIn, hrecord]

/-- Once a playlist with a selection was stored, a shelf answers with the tracks that can be written, and with the
number that was selected if there are that many of them. The selected track is still selected exactly if all tracks in
front of it can be written. If it cannot be written itself, nothing is selected exactly if no track is left under its
number. A playlist without a track that can be written leaves the shelf as it was. -/
theorem selection_survives_iff (hfiles : s.kind = .files) (htime : time.IsReadable) (hindexed : p.IsIndexed)
    (hselected : p.selected = some i) (hi : i < p.tracks.length)
    (hstored : (s.store time fingerprint p).1 = .ok ()) (hfresh : now - time ≤ s.lifetime) :
    (p.representable = [] ∧ (s.store time fingerprint p).2 = s) ∨
    ∃ found, (s.store time fingerprint p).2.fetch now fingerprint = .ok (some found) ∧
      found.tracks = p.representable ∧
      found.selected = (if i < p.representable.length then some i else none) ∧
      (∀ j, p.survivingSelection? = some j → found.tracks[j]? = some p.tracks[i]) ∧
      (found.selected = p.survivingSelection? ↔ if p.tracks[i].encode?.isSome then
        ∀ t ∈ p.tracks.take i, t.encode?.isSome = true else p.representable.length ≤ i) := by
  by_cases hsome : p.representable = []
  · exact .inl ⟨hsome, store_of_representable_eq_nil hsome time fingerprint s⟩
  · right
    obtain ⟨found, hkept⟩ := Option.isSome_iff_exists.1 (Playlist.isSome_kept?_iff.2 hsome)
    have hfetch := fetch_store hfiles htime hindexed hsome hstored now
    rw [if_pos hfresh] at hfetch
    have hiff := Playlist.selected_of_kept?_iff hkept hselected hi
    rw [hkept] at hfetch
    obtain ⟨-, rfl⟩ := Playlist.kept?_eq_some_iff.1 hkept
    refine ⟨_, hfetch, rfl, ?_, fun j hj => Playlist.survivingSelection?_spec hselected hi hj, hiff⟩
    simp only [hselected, Option.filter_some, decide_eq_true_eq]

/-- A track in front of the selected one cannot be written, and the shelf selects the track behind it. -/
theorem selection_moves_on :
    let lost : Track := ⟨"lost", "author", 1000, "id", false, none, "local"⟩
    let chosen : Track := ⟨"chosen", "author", 1000, "id", false, none, "youtube"⟩
    let next : Track := ⟨"next", "author", 1000, "id", false, none, "youtube"⟩
    let p : Playlist := ⟨"mix", [lost, chosen, next], some 1⟩
    let s := bare 10
    (s.store 0 "youtube:mix" p).1 = .ok () ∧
      ∃ found, (s.store 0 "youtube:mix" p).2.fetch 5 "youtube:mix" = .ok (some found) ∧
        p.survivingSelection? = some 0 ∧ found.tracks[0]? = some chosen ∧
        found.selected = some 1 ∧ found.tracks[1]? = some next := by
  intro lost chosen next p s
  have hstored : (s.store 0 "youtube:mix" p).1 = .ok () := by decide +kernel
  have hindexed : p.IsIndexed := by
    intro i hi
    obtain rfl := Option.some.inj hi
    decide
  have hwritten : p.representable = [chosen, next] := by decide +kernel
  have hsurviving : p.survivingSelection? = some 0 := by decide +kernel
  refine ⟨hstored, ?_⟩
  have hfresh : (5 : Timestamp) - 0 ≤ s.lifetime := by decide
  rcases selection_survives_iff (i := 1) rfl ⟨by decide, by decide⟩ hindexed rfl (by decide) hstored hfresh with
    ⟨hnone, -⟩ | ⟨found, hfetch, htracks, hselected, hplace, -⟩
  · rw [hwritten] at hnone
    cases hnone
  · rw [hwritten] at hselected
    refine ⟨found, hfetch, hsurviving, hplace 0 hsurviving, hselected, ?_⟩
    rw [htracks, hwritten]
    rfl

end Shelf

end Jukebox
