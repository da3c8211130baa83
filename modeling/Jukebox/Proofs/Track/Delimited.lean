import Jukebox.Proofs.Track.Blob

/-!
# Blobs end by themselves

Where a blob ends is known from the blob alone: each text is as long as its size says, the length of the track takes
eight bytes, and a flag tells whether there is a uri. So a blob that is cut short cannot be read any more, nor can
one with anything behind it, whatever the texts in it look like.

## Main definitions

- `Bytes.IsDelimited` — of some byte strings, none goes on behind the end of another
- `Track.StandsAlone` — neither a beginning nor an extension of the bytes can be read

## Main results

- `Bytes.IsDelimited.append` — byte strings that end by themselves still do so one behind the other
- `Track.isDelimited_blob` — the bytes that can be read end by themselves
- `Track.readable_stands_alone` — a blob cannot be read any more once it is cut short or extended
-/

namespace Jukebox

namespace Bytes

variable {P Q : Bytes → Prop}

/-- Where such a byte string ends is known from its bytes, whatever stands behind it: two of them in front of the
same bytes are equal. -/
def IsDelimited (P : Bytes → Prop) : Prop :=
  ∀ front front' rest rest', P front → P front' → front ++ rest = front' ++ rest' → front = front'

theorem isDelimited_length (n : Nat) : IsDelimited fun bytes => bytes.length = n := by
  intro front front' rest rest' hfront hfront' heq
  exact (List.append_inj heq (hfront.trans hfront'.symm)).1

/-- What a reader takes off the front of some bytes ends by itself. -/
theorem Inverts.isDelimited {α : Type} {read : Bytes → Option (α × Bytes)} {write : α → Option Bytes}
    (h : Inverts read write) : IsDelimited fun bytes => ∃ a, write a = some bytes := by
  rintro front front' rest rest' ⟨a, ha⟩ ⟨a', ha'⟩ heq
  have hread : read (front ++ rest) = some (a, rest) := (h _ _ _).2 ⟨front, ha, rfl⟩
  have hread' : read (front ++ rest) = some (a', rest') := (h _ _ _).2 ⟨front', ha', heq⟩
  rw [hread, Option.some.injEq, Prod.mk.injEq] at hread'
  rw [← hread'.1, ha] at ha'
  exact Option.some.inj ha'

/-- Byte strings that end by themselves still do so one behind the other. -/
theorem IsDelimited.append (hP : IsDelimited P) (hQ : IsDelimited Q) :
    IsDelimited fun bytes => ∃ front back, P front ∧ Q back ∧ bytes = front ++ back := by
  rintro _ _ rest rest' ⟨front, back, hfront, hback, rfl⟩ ⟨front', back', hfront', hback', rfl⟩ heq
  rw [List.append_assoc, List.append_assoc] at heq
  obtain rfl := hP _ _ _ _ hfront hfront' heq
  obtain rfl := hQ _ _ _ _ hback hback' (List.append_cancel_left heq)
  rfl

theorem IsDelimited.mono (hP : IsDelimited P) (h : ∀ bytes, Q bytes → P bytes) : IsDelimited Q :=
  fun _ _ _ _ hfront hfront' heq => hP _ _ _ _ (h _ hfront) (h _ hfront') heq

end Bytes

namespace Track

variable {t : Track} {blob : Bytes}

-- ════════════════════════════════════════════════════════════════════════
-- The parts of a blob
-- ════════════════════════════════════════════════════════════════════════

/-- A uri that is looked for exactly when there is one is read back, and nothing else is read. -/
theorem inverts_uri (present : Bool) :
    Bytes.Inverts (takeUri? present) fun uri => if uri.isSome = present then uriBytes? uri else none := by
  intro bytes uri rest
  rw [takeUri?_eq_some_iff]
  by_cases h : uri.isSome = present <;> simp [h]

/-- Once it is known whether there is a uri, what follows the flags ends by itself. -/
theorem isDelimited_fields (hasUri : Bool) :
    Bytes.IsDelimited fun bytes => ∃ t : Track, t.uri.isSome = hasUri ∧ t.fields? = some bytes := by
  have hsized := Bytes.inverts_sized.isDelimited
  refine (hsized.append (hsized.append ((Bytes.isDelimited_length 8).append
    (hsized.append ((inverts_uri hasUri).isDelimited.append hsized))))).mono ?_
  rintro bytes ⟨t, huri, hfields⟩
  obtain ⟨title, author, identifier, uri, source, h₁, h₂, h₃, h₄, h₅, rfl⟩ := fields?_eq_some_iff.1 hfields
  refine ⟨title, _, ⟨_, h₁⟩, ⟨author, _, ⟨_, h₂⟩, ⟨Bytes.ofNat 8 t.lengthMs.toNat, _, Bytes.length_ofNat 8 _,
    ⟨identifier, _, ⟨_, h₃⟩, ⟨uri, source, ⟨_, (if_pos huri).trans h₄⟩, ⟨_, h₅⟩, rfl⟩, rfl⟩, rfl⟩, rfl⟩, ?_⟩
  simp only [List.append_assoc]

/-- The bytes that can be read end by themselves. -/
theorem isDelimited_blob : Bytes.IsDelimited fun blob => (decode? blob).isSome = true := by
  intro blob blob' rest rest' hblob hblob' heq
  obtain ⟨t, ht⟩ := Option.isSome_iff_exists.1 hblob
  obtain ⟨t', ht'⟩ := Option.isSome_iff_exists.1 hblob'
  obtain ⟨-, fields, hfields, rfl⟩ := encode?_eq_some_iff.1 (decode?_eq_some_iff.1 ht)
  obtain ⟨-, fields', hfields', rfl⟩ := encode?_eq_some_iff.1 (decode?_eq_some_iff.1 ht')
  simp only [List.cons_append, List.cons.injEq, true_and] at heq
  -- the same byte of flags tells of both tracks whether they have a uri
  have huri : t.uri.isSome = t'.uri.isSome := by
    rw [(flags_eq_iff.2 rfl).2.2, (flags_eq_iff.2 rfl).2.2, heq.1]
  rw [heq.1, isDelimited_fields _ _ _ _ _ ⟨t, huri, hfields⟩ ⟨t', rfl, hfields'⟩ heq.2]

-- ════════════════════════════════════════════════════════════════════════
-- Cut short or extended
-- ════════════════════════════════════════════════════════════════════════

/-- Neither a beginning of the bytes nor an extension of them can be read as a track. -/
def StandsAlone (blob : Bytes) : Prop :=
  (∀ front, front <+: blob → front ≠ blob → decode? front = none) ∧
  (∀ rest, rest ≠ [] → decode? (blob ++ rest) = none)

theorem standsAlone_of_readable (h : (decode? blob).isSome = true) : StandsAlone blob := by
  constructor
  · rintro front ⟨rest, rfl⟩ hne
    rw [← Option.not_isSome_iff_eq_none]
    intro hfront
    exact hne (isDelimited_blob _ _ rest [] hfront h (List.append_nil _).symm)
  · intro rest hrest
    rw [← Option.not_isSome_iff_eq_none]
    intro hextended
    have heq := isDelimited_blob _ _ rest [] h hextended (List.append_nil _).symm
    exact hrest (List.self_eq_append_right.1 heq)

/-- Bytes that can be read as a track cannot be read any more once they are cut short or anything is put behind
them. So no track is read from a truncated blob of a track, nor from one with garbage behind it. -/
theorem readable_stands_alone :
    (∀ blob, (decode? blob).isSome = true → StandsAlone blob) ∧
    (∀ (t : Track) blob, t.encode? = some blob → StandsAlone blob) := by
  refine ⟨fun blob h => standsAlone_of_readable h, fun t blob h => standsAlone_of_readable ?_⟩
  rw [decode?_eq_some_iff.2 h]
  rfl

/-- A blob whose title looks like two sizes. -/
def sizesInTitle : Bytes :=
  [1, 0, 0, 4, 0, 0, 0, 0, 0, 1, 97, 0, 0, 0, 0, 0, 0, 0, 0, 0, 0, 0, 4, 104, 116, 116, 112]

/-- The blob can be read, but not up to its last byte, up to the title, or with a byte behind it. -/
theorem sizesInTitle_stands_alone :
    (decode? sizesInTitle).isSome = true ∧ decode? sizesInTitle.dropLast = none ∧
      decode? (sizesInTitle.take 8) = none ∧ decode? (sizesInTitle ++ [0]) = none := by
  have hreadable : (decode? sizesInTitle).isSome = true := by decide +kernel
  obtain ⟨hfront, hextended⟩ := readable_stands_alone.1 sizesInTitle hreadable
  refine ⟨hreadable, ?_, ?_, ?_⟩
  · exact hfront _ (List.dropLast_prefix _) (by decide)
  · exact hfront _ (List.take_prefix 8 _) (by decide)
  · exact hextended [0] (List.cons_ne_nil _ _)

end Track

end Jukebox
