import Jukebox.Track.Blob

/-!
# Blobs and tracks correspond

A track that has bytes is read back from them, and bytes that can be read are the bytes of what is read:
each track has one blob at most, and each blob that can be read belongs to one track.

## Main definitions

- `Bytes.Inverts` — a reader takes off the front of some bytes exactly what a writer puts there
- `Track.texts` — the texts of a track
- `Track.fields?` — the bytes of a track behind its version and its flags

## Main results

- `Bytes.inverts_sized` — texts behind their size are read back, and nothing else is read
- `Track.encode?_eq_some_iff`, `Track.decode?_eq_some_iff` — the blob of a track, and the track of a blob
- `Track.encode?_decode?_bijection` — which tracks have a blob, and that both directions agree

## Design notes

Writing may fail and reading may leave bytes over, so a reader and a writer are no plain inverses. What
one says about both at once is `Inverts`, which passes from the parts of a blob to the whole.
-/

namespace Jukebox

namespace Bytes

-- ════════════════════════════════════════════════════════════════════════
-- Numbers
-- ════════════════════════════════════════════════════════════════════════

theorem bound_pos (width : Nat) : 0 < bound width := by
  induction width with
  | zero => decide
  | succ width ih => exact Nat.mul_pos ih (by decide)

@[simp] theorem length_ofNat (width n : Nat) : (ofNat width n).length = width := by
  induction width with
  | zero => rfl
  | succ width ih => rw [ofNat, List.length_cons, ih]

theorem ofNat_mul_add (width m n : Nat) : ofNat width (m * bound width + n) = ofNat width n := by
  induction width generalizing m with
  | zero => rfl
  | succ width ih =>
    have hpos : 0 < bound width := bound_pos _
    have hsplit : m * bound (width + 1) + n = m * 256 * bound width + n := by
      rw [bound, Nat.mul_comm (bound width), Nat.mul_assoc]
    have hbyte : UInt8.ofNat ((m * bound (width + 1) + n) / bound width)
        = UInt8.ofNat (n / bound width) := by
      rw [hsplit, Nat.add_comm, Nat.add_mul_div_right _ _ hpos]
      apply UInt8.toNat_inj.1
      rw [UInt8.toNat_ofNat', UInt8.toNat_ofNat', Nat.add_mul_mod_self_right]
    rw [ofNat, ofNat, hbyte, hsplit, ih]

theorem toNat_foldl (bytes : Bytes) (n : Nat) :
    bytes.foldl (fun n b => n * 256 + b.toNat) n = n * bound bytes.length + bytes.toNat := by
  induction bytes generalizing n with
  | nil => exact (Nat.mul_one n).symm
  | cons b bytes ih =>
    rw [toNat, List.foldl_cons, List.foldl_cons, ih, ih (0 * 256 + b.toNat), List.length_cons,
      bound, Nat.zero_mul, Nat.zero_add, Nat.add_mul, Nat.mul_assoc, Nat.mul_comm 256,
      Nat.add_assoc]

theorem toNat_cons (b : UInt8) (bytes : Bytes) :
    toNat (b :: bytes) = b.toNat * bound bytes.length + toNat bytes := by
  rw [toNat, List.foldl_cons, Nat.zero_mul, Nat.zero_add, toNat_foldl]

theorem toNat_lt (bytes : Bytes) : toNat bytes < bound bytes.length := by
  induction bytes with
  | nil => decide
  | cons b bytes ih =>
    have hb : b.toNat + 1 ≤ 256 := b.toNat_lt
    calc toNat (b :: bytes)
        = b.toNat * bound bytes.length + toNat bytes := toNat_cons b bytes
      _ < b.toNat * bound bytes.length + bound bytes.length := Nat.add_lt_add_left ih _
      _ = (b.toNat + 1) * bound bytes.length := (Nat.succ_mul _ _).symm
      _ ≤ 256 * bound bytes.length := Nat.mul_le_mul_right _ hb
      _ = bound (b :: bytes).length := by rw [List.length_cons, bound, Nat.mul_comm]

theorem ofNat_toNat (bytes : Bytes) : ofNat bytes.length bytes.toNat = bytes := by
  induction bytes with
  | nil => rfl
  | cons b bytes ih =>
    have hpos : 0 < bound bytes.length := bound_pos _
    have hbyte : (b.toNat * bound bytes.length + toNat bytes) / bound bytes.length = b.toNat := by
      rw [Nat.add_comm, Nat.add_mul_div_right _ _ hpos, Nat.div_eq_of_lt (toNat_lt bytes),
        Nat.zero_add]
    rw [List.length_cons, ofNat, toNat_cons, hbyte, UInt8.ofNat_toNat, ofNat_mul_add, ih]

theorem toNat_ofNat (width n : Nat) : toNat (ofNat width n) = n % bound width := by
  induction width with
  | zero => exact (Nat.mod_one n).symm
  | succ width ih =>
    have hmod : n % bound (width + 1) = n % bound width + bound width * (n / bound width % 256) := by
      rw [bound, Nat.mod_mul]
    rw [ofNat, toNat_cons, length_ofNat, ih, UInt8.toNat_ofNat', hmod, Nat.add_comm, Nat.mul_comm]

-- ════════════════════════════════════════════════════════════════════════
-- Readers and writers
-- ════════════════════════════════════════════════════════════════════════

/-- The reader takes off the front of some bytes exactly what the writer puts there. -/
def Inverts {α : Type} (read : Bytes → Option (α × Bytes)) (write : α → Option Bytes) : Prop :=
  ∀ bytes a rest, read bytes = some (a, rest) ↔ ∃ front, write a = some front ∧ bytes = front ++ rest

theorem cut?_eq_some_iff {n : Nat} {bytes front rest : Bytes} :
    cut? n bytes = some (front, rest) ↔ front.length = n ∧ bytes = front ++ rest := by
  unfold cut?
  constructor
  · intro h
    by_cases hn : n ≤ bytes.length
    · rw [if_pos hn] at h
      obtain ⟨rfl, rfl⟩ := Prod.mk.inj (Option.some.inj h)
      exact ⟨List.length_take_of_le hn, (List.take_append_drop n bytes).symm⟩
    · rw [if_neg hn] at h
      cases h
  · rintro ⟨rfl, rfl⟩
    have hle : front.length ≤ (front ++ rest).length := by
      rw [List.length_append]
      exact Nat.le_add_right _ _
    rw [if_pos hle, List.take_left, List.drop_left]

theorem sized?_eq_some_iff {s : String} {front : Bytes} :
    sized? s = some front ↔
      (ofString s).length < 65536 ∧ front = ofNat 2 (ofString s).length ++ ofString s := by
  unfold sized?
  by_cases h : (ofString s).length < 65536
  · rw [if_pos h, Option.some.injEq, and_iff_right h]
    exact eq_comm
  · rw [if_neg h]
    exact iff_of_false (fun hnone => nomatch hnone) fun hfits => h hfits.1

/-- Texts behind their size are read back, and nothing else is read. -/
theorem inverts_sized : Inverts takeSized? sized? := by
  intro bytes s rest
  simp only [takeSized?, Option.bind_eq_bind, Option.bind_eq_some_iff, Prod.exists, cut?_eq_some_iff,
    Option.some.injEq, Prod.mk.injEq, sized?_eq_some_iff]
  constructor
  · rintro ⟨size, _, ⟨hsize, rfl⟩, text, _, ⟨htext, rfl⟩, s, hs, rfl, rfl⟩
    obtain rfl := ofString_of_toString? hs
    have hlt : size.toNat < bound 2 := hsize ▸ size.toNat_lt
    have hfront : ofNat 2 size.toNat = size := hsize ▸ ofNat_toNat size
    refine ⟨_, ⟨?_, rfl⟩, ?_⟩
    · rw [htext]
      exact hlt
    · rw [htext, hfront, List.append_assoc]
  · rintro ⟨_, ⟨hlt, rfl⟩, rfl⟩
    refine ⟨_, _, ⟨length_ofNat 2 _, List.append_assoc _ _ _⟩, _, _, ⟨?_, rfl⟩, s, toString?_ofString s,
      rfl, rfl⟩
    rw [toNat_ofNat]
    exact (Nat.mod_eq_of_lt hlt).symm

theorem isSome_sized?_iff {s : String} : (sized? s).isSome = true ↔ s.utf8ByteSize ≤ 65535 := by
  have hsize : (ofString s).length = s.utf8ByteSize := rfl
  rw [Option.isSome_iff_exists, ← Nat.lt_succ_iff, ← hsize]
  simp only [sized?_eq_some_iff]
  exact ⟨fun ⟨_, hlt, _⟩ => hlt, fun hlt => ⟨_, hlt, rfl⟩⟩

end Bytes

namespace Track

variable {t : Track} {bytes : Bytes}

def texts (t : Track) : List String :=
  t.title :: t.author :: t.identifier :: (t.uri.toList ++ [t.source])

/-- The bytes of a track behind its version and its flags. -/
def fields? (t : Track) : Option Bytes := do
  let title ← Bytes.sized? t.title
  let author ← Bytes.sized? t.author
  let identifier ← Bytes.sized? t.identifier
  let uri ← uriBytes? t.uri
  let source ← Bytes.sized? t.source
  some (title ++ author ++ Bytes.ofNat 8 t.lengthMs.toNat ++ identifier ++ uri ++ source)

-- ════════════════════════════════════════════════════════════════════════
-- The parts of a blob
-- ════════════════════════════════════════════════════════════════════════

theorem fields?_eq_some_iff : t.fields? = some bytes ↔ ∃ title author identifier uri source,
    Bytes.sized? t.title = some title ∧ Bytes.sized? t.author = some author ∧
      Bytes.sized? t.identifier = some identifier ∧ uriBytes? t.uri = some uri ∧
        Bytes.sized? t.source = some source ∧ bytes =
          title ++ author ++ Bytes.ofNat 8 t.lengthMs.toNat ++ identifier ++ uri ++ source := by
  simp only [fields?, Option.bind_eq_bind, Option.bind_eq_some_iff, Option.some.injEq]
  constructor
  · rintro ⟨title, h₁, author, h₂, identifier, h₃, uri, h₄, source, h₅, h⟩
    exact ⟨title, author, identifier, uri, source, h₁, h₂, h₃, h₄, h₅, h.symm⟩
  · rintro ⟨title, author, identifier, uri, source, h₁, h₂, h₃, h₄, h₅, h⟩
    exact ⟨title, h₁, author, h₂, identifier, h₃, uri, h₄, source, h₅, h.symm⟩

/-- A uri is read back if it is looked for exactly when there is one. -/
theorem takeUri?_eq_some_iff {present : Bool} {uri : Option String} {rest : Bytes} :
    takeUri? present bytes = some (uri, rest) ↔
      uri.isSome = present ∧ ∃ front, uriBytes? uri = some front ∧ bytes = front ++ rest := by
  cases present <;> cases uri <;> simp [takeUri?, uriBytes?, Bytes.inverts_sized _ _ _]

theorem ofNat_toNat_eq_iff {front : Bytes} {n : UInt64} (h : front.length = 8) :
    UInt64.ofNat (Bytes.toNat front) = n ↔ front = Bytes.ofNat 8 n.toNat := by
  have hlt : Bytes.toNat front < 2 ^ 64 := by
    have hfront := Bytes.toNat_lt front
    rwa [h] at hfront
  constructor
  · rintro rfl
    rw [UInt64.toNat_ofNat_of_lt' hlt, ← h, Bytes.ofNat_toNat]
  · intro hfront
    have hmod : n.toNat % Bytes.bound 8 = n.toNat := Nat.mod_eq_of_lt n.toNat_lt
    rw [hfront, Bytes.toNat_ofNat, hmod, UInt64.ofNat_toNat]

theorem decodeFields?_eq_some_iff {isStream hasUri : Bool} :
    decodeFields? isStream hasUri bytes = some t ↔
      t.isStream = isStream ∧ t.uri.isSome = hasUri ∧ t.hasKnownSource = true ∧
        t.fields? = some bytes := by
  simp only [decodeFields?, Option.bind_eq_bind, Option.bind_eq_some_iff, Prod.exists,
    Bytes.inverts_sized _ _ _, Bytes.cut?_eq_some_iff, takeUri?_eq_some_iff, fields?_eq_some_iff]
  constructor
  · rintro ⟨_, _, ⟨title, h₁, rfl⟩, _, _, ⟨author, h₂, rfl⟩, length, _, ⟨hlength, rfl⟩, _, _,
      ⟨identifier, h₃, rfl⟩, _, _, ⟨huri, uri, h₄, rfl⟩, _, rest, ⟨source, h₅, rfl⟩, h⟩
    split at h
    · next hend =>
      obtain rfl := Option.some.inj h
      obtain ⟨hrest, hknown⟩ := Bool.and_eq_true_iff.1 hend
      obtain rfl := List.isEmpty_iff.1 hrest
      refine ⟨rfl, huri, hknown, title, author, identifier, uri, source, h₁, h₂, h₃, h₄, h₅, ?_⟩
      rw [← (ofNat_toNat_eq_iff hlength).1 rfl]
      simp only [List.append_assoc, List.append_nil]
    · cases h
  · rintro ⟨rfl, rfl, hknown, title, author, identifier, uri, source, h₁, h₂, h₃, h₄, h₅, rfl⟩
    refine ⟨t.title, _, ⟨title, h₁, by simp only [List.append_assoc]; rfl⟩, t.author, _, ⟨author, h₂, rfl⟩,
      _, _, ⟨Bytes.length_ofNat 8 _, rfl⟩, t.identifier, _, ⟨identifier, h₃, rfl⟩, t.uri, _,
      ⟨rfl, uri, h₄, rfl⟩, t.source, [], ⟨source, h₅, (List.append_nil _).symm⟩, ?_⟩
    have hlength := (ofNat_toNat_eq_iff (n := t.lengthMs) (Bytes.length_ofNat 8 _)).2 rfl
    rw [hlength]
    exact if_pos hknown

-- ════════════════════════════════════════════════════════════════════════
-- The blob
-- ════════════════════════════════════════════════════════════════════════

theorem encode?_eq (t : Track) : t.encode? =
    if t.hasKnownSource = true then t.fields?.map (blobVersion :: UInt8.ofNat t.flags :: ·) else none := by
  unfold encode? fields?
  cases t.hasKnownSource with
  | false => rfl
  | true =>
    simp only [Bool.not_true, Bool.false_eq_true, if_false, if_true, Option.bind_eq_bind, Option.map_bind,
      Function.comp_def, Option.map_some]

theorem encode?_eq_some_iff : t.encode? = some bytes ↔ t.hasKnownSource = true ∧
    ∃ fields, t.fields? = some fields ∧ bytes = blobVersion :: UInt8.ofNat t.flags :: fields := by
  rw [encode?_eq]
  by_cases h : t.hasKnownSource = true
  · rw [if_pos h, Option.map_eq_some_iff, and_iff_right h]
    simp only [eq_comm]
  · rw [if_neg h]
    exact iff_of_false (fun hnone => nomatch hnone) fun hknown => h hknown.1

/-- The flags of a track are read back from its byte of flags, and no other byte is read. -/
theorem flags_eq_iff {flags : UInt8} :
    (flags.toNat < 4 ∧ t.isStream = (flags.toNat % 2 == 1) ∧ t.uri.isSome = (flags.toNat / 2 == 1)) ↔
      flags = UInt8.ofNat t.flags := by
  rw [← UInt8.toNat_inj, Track.flags]
  cases t.isStream <;> cases t.uri.isSome <;> simp <;> omega

theorem decode?_eq_some_iff : decode? bytes = some t ↔ t.encode? = some bytes := by
  rw [encode?_eq_some_iff]
  match bytes with
  | [] => simp [decode?]
  | [_] => simp [decode?]
  | version :: flags :: fields =>
    simp only [decode?, List.cons.injEq]
    constructor
    · intro h
      split at h
      · next hhead =>
        obtain ⟨hstream, huri, hknown, hfields⟩ := decodeFields?_eq_some_iff.1 h
        exact ⟨hknown, fields, hfields, hhead.1, flags_eq_iff.1 ⟨hhead.2, hstream, huri⟩, rfl⟩
      · cases h
    · rintro ⟨hknown, _, hfields, rfl, hflags, rfl⟩
      obtain ⟨hlt, hstream, huri⟩ := flags_eq_iff.2 hflags
      rw [if_pos ⟨rfl, hlt⟩]
      exact decodeFields?_eq_some_iff.2 ⟨hstream, huri, hknown, hfields⟩

/-- A track can be written behind its version and its flags exactly if its texts fit their sizes. -/
theorem isSome_fields?_iff : t.fields?.isSome = true ↔ ∀ s ∈ t.texts, s.utf8ByteSize ≤ 65535 := by
  have huri : (uriBytes? t.uri).isSome = true ↔ ∀ s ∈ t.uri.toList, s.utf8ByteSize ≤ 65535 := by
    cases t.uri with
    | none => simp [uriBytes?]
    | some uri => simp [uriBytes?, Bytes.isSome_sized?_iff]
  have hparts : t.fields?.isSome = true ↔ (Bytes.sized? t.title).isSome = true ∧
      (Bytes.sized? t.author).isSome = true ∧ (Bytes.sized? t.identifier).isSome = true ∧
        (uriBytes? t.uri).isSome = true ∧ (Bytes.sized? t.source).isSome = true := by
    simp only [Option.isSome_iff_exists, fields?_eq_some_iff]
    constructor
    · rintro ⟨_, title, author, identifier, uri, source, h₁, h₂, h₃, h₄, h₅, -⟩
      exact ⟨⟨title, h₁⟩, ⟨author, h₂⟩, ⟨identifier, h₃⟩, ⟨uri, h₄⟩, source, h₅⟩
    · rintro ⟨⟨title, h₁⟩, ⟨author, h₂⟩, ⟨identifier, h₃⟩, ⟨uri, h₄⟩, source, h₅⟩
      exact ⟨_, title, author, identifier, uri, source, h₁, h₂, h₃, h₄, h₅, rfl⟩
  rw [hparts, huri]
  simp only [Bytes.isSome_sized?_iff, texts, List.forall_mem_append, List.forall_mem_cons,
    List.not_mem_nil, false_implies, implies_true, and_true]

/-- A track has a blob exactly if its source names a provider and each of its texts has 65535 bytes at
most. A blob is that of a track exactly if the track is what is read from it; so no two blobs are read as
the same track. -/
theorem encode?_decode?_bijection :
    (∀ t : Track, t.encode?.isSome = true ↔ (Provider.ofName? t.source.toList).isSome = true ∧
      ∀ s ∈ t.texts, s.utf8ByteSize ≤ 65535) ∧
    (∀ (t : Track) blob, t.encode? = some blob ↔ decode? blob = some t) ∧
    (∀ (t : Track) blob blob', decode? blob = some t → decode? blob' = some t → blob = blob') := by
  refine ⟨fun t => ?_, fun t blob => decode?_eq_some_iff.symm, fun t blob blob' h h' => ?_⟩
  · rw [← isSome_fields?_iff, encode?_eq, ← hasKnownSource]
    cases t.hasKnownSource <;> simp
  · have hblob := decode?_eq_some_iff.1 h
    have hblob' := decode?_eq_some_iff.1 h'
    exact Option.some.inj (hblob.symm.trans hblob')

end Track

end Jukebox
