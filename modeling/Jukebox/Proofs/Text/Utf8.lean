import Jukebox.Text.Utf8

/-!
# Bytes of a text, character by character

The bytes of a text are those of its characters, one after the other. A character below 128 is its own byte,
and all bytes of any other character are 128 or more, so that no byte of it is taken for such a character.

## Main definitions

- `Bytes.IsText` — some bytes are those of a text

## Main results

- `Bytes.ofString_append`, `Bytes.ofString_ofList` — the bytes of a text, by its parts
- `Bytes.le_of_mem_utf8EncodeChar` — the bytes of a character from 128 on
- `Bytes.IsText.append`, `Bytes.isText_of_lt` — texts are put together from texts and from bytes below 128
-/

namespace Jukebox.Bytes

theorem ofString_append (s t : String) : ofString (s ++ t) = ofString s ++ ofString t := by
  change (s ++ t).toByteArray.data.toList = _
  rw [String.toByteArray_append, ByteArray.data_append, Array.toList_append]
  rfl

/-- The bytes of a text are those of its characters, one after the other. -/
theorem ofString_ofList (cs : List Char) :
    ofString (String.ofList cs) = cs.flatMap String.utf8EncodeChar := by
  change (String.ofList cs).toByteArray.data.toList = _
  rw [String.toByteArray_ofList, List.utf8Encode, List.data_toByteArray]

theorem ofString_eq_flatMap (s : String) : ofString s = s.toList.flatMap String.utf8EncodeChar := by
  rw [← ofString_ofList, String.ofList_toList]

theorem utf8EncodeChar_of_lt {c : Char} (h : c.toNat < 128) : String.utf8EncodeChar c = [c.toUInt8] := by
  have hsize : c.utf8Size = 1 := by
    rw [Char.utf8Size_eq_one_iff]
    exact Nat.le_of_lt_succ h
  rw [String.utf8EncodeChar_eq_singleton hsize]
  rfl

theorem flatMap_utf8EncodeChar {cs : List Char} (h : ∀ c ∈ cs, c.toNat < 128) :
    cs.flatMap String.utf8EncodeChar = cs.map Char.toUInt8 := by
  induction cs with
  | nil => rfl
  | cons c cs ih =>
    obtain ⟨hc, hcs⟩ := List.forall_mem_cons.1 h
    rw [List.flatMap_cons, utf8EncodeChar_of_lt hc, ih hcs]
    rfl

/-- No byte of a character from 128 on is below 128. -/
theorem le_of_mem_utf8EncodeChar {c : Char} (h : 128 ≤ c.toNat) {b : UInt8}
    (hb : b ∈ String.utf8EncodeChar c) : 128 ≤ b := by
  have hv : ¬ c.val.toNat ≤ 127 := Nat.not_le.2 h
  unfold String.utf8EncodeChar at hb
  simp only [hv, if_false] at hb
  rw [UInt8.le_iff_toNat_le]
  split at hb
  · simp only [List.mem_cons, List.not_mem_nil, or_false] at hb
    rcases hb with rfl | rfl <;> simp <;> omega
  · split at hb
    · simp only [List.mem_cons, List.not_mem_nil, or_false] at hb
      rcases hb with rfl | rfl | rfl <;> simp <;> omega
    · simp only [List.mem_cons, List.not_mem_nil, or_false] at hb
      rcases hb with rfl | rfl | rfl | rfl <;> simp <;> omega

-- ════════════════════════════════════════════════════════════════════════
-- Texts in parts
-- ════════════════════════════════════════════════════════════════════════

/-- The bytes are those of a text. -/
def IsText (bytes : Bytes) : Prop := ∃ s, ofString s = bytes

theorem isText_ofString (s : String) : IsText (ofString s) := ⟨s, rfl⟩

theorem IsText.append {front back : Bytes} (hfront : IsText front) (hback : IsText back) :
    IsText (front ++ back) := by
  obtain ⟨s, rfl⟩ := hfront
  obtain ⟨t, rfl⟩ := hback
  exact ⟨s ++ t, ofString_append s t⟩

theorem isText_of_lt {bytes : Bytes} (h : ∀ b ∈ bytes, b < 128) : IsText bytes := by
  have hall : ∀ n < 128, (Char.ofNat n).toNat < 128 ∧ (Char.ofNat n).toUInt8 = UInt8.ofNat n := by decide
  have hchar : ∀ b ∈ bytes, (Char.ofNat b.toNat).toNat < 128 ∧ (Char.ofNat b.toNat).toUInt8 = b := by
    intro b hb
    rw [← UInt8.ofNat_toNat (x := b), UInt8.toNat_ofNat_of_lt' (UInt8.toNat_lt b)]
    exact hall _ (UInt8.lt_iff_toNat_lt.1 (h b hb))
  refine ⟨String.ofList (bytes.map fun b => Char.ofNat b.toNat), ?_⟩
  rw [ofString_ofList, flatMap_utf8EncodeChar, List.map_map]
  · exact (List.map_congr_left fun b hb => (hchar b hb).2).trans (List.map_id bytes)
  · intro c hc
    obtain ⟨b, hb, rfl⟩ := List.mem_map.1 hc
    exact (hchar b hb).1

/-- A text of bytes is read. -/
theorem IsText.toString? {bytes : Bytes} (h : IsText bytes) :
    ∃ s, Bytes.toString? bytes = some s ∧ ofString s = bytes := by
  obtain ⟨s, rfl⟩ := h
  exact ⟨s, toString?_ofString s, rfl⟩

end Jukebox.Bytes
