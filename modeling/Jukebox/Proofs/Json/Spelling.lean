import Jukebox.Json.Token
import Jukebox.Proofs.Text.Utf8

/-!
# Strings in JSON

What is spelt between quotes is read to its end by the scanner, and stands for the text that was spelt. A
character is spelt by its own bytes, by a letter behind a backslash, or by the digits of its code point.

## Main definitions

- `Json.IsSpelling` — the scanner reads it in a string, and the string goes on
- `Json.SpellsChar` — some bytes are a spelling of a character

## Main results

- `Json.isSpelling_escape` — the scanner reads the spelling of a text to its end
- `Json.unescape?_escape` — the spelling of a text stands for it
-/

namespace Jukebox.Json

/-- The scanner reads the bytes in a string, and the string goes on. -/
def IsSpelling (spelling : Bytes) : Prop :=
  ∀ read tokens, spelling.foldlM scanByte? (.string read, tokens) =
    some (.string (spelling.reverse ++ read), tokens)

/-- The bytes are a spelling of the character: a letter behind a backslash, four digits behind a backslash
and a `u`, or its own bytes, if none of them ends the string or needs a backslash. -/
inductive SpellsChar (c : Char) : Bytes → Prop where
  | short {letter b : UInt8} (hletter : shortEscape? letter = some b) (hc : String.utf8EncodeChar c = [b]) :
      SpellsChar c [code '\\', letter]
  | digits {d₁ d₂ d₃ d₄ : UInt8} {n₁ n₂ n₃ n₄ : Nat} (h₁ : hexByte? d₁ = some n₁) (h₂ : hexByte? d₂ = some n₂)
      (h₃ : hexByte? d₃ = some n₃) (h₄ : hexByte? d₄ = some n₄)
      (hc : c.toNat = ((n₁ * 16 + n₂) * 16 + n₃) * 16 + n₄) (hlow : c.toNat < 0xD800) :
      SpellsChar c [code '\\', code 'u', d₁, d₂, d₃, d₄]
  | plain (h : ∀ b ∈ String.utf8EncodeChar c, b ≠ code '"' ∧ b ≠ code '\\' ∧ 0x20 ≤ b) :
      SpellsChar c (String.utf8EncodeChar c)

-- ════════════════════════════════════════════════════════════════════════
-- One character
-- ════════════════════════════════════════════════════════════════════════

theorem toNat_code {c : Char} (h : c.toNat < 128) : (code c).toNat = c.toNat := by
  change c.val.toUInt8.toNat = _
  rw [UInt32.toNat_toUInt8]
  exact Nat.mod_eq_of_lt (Nat.lt_trans h (by decide))

theorem code_injective {c d : Char} (hc : c.toNat < 128) (hd : d.toNat < 128) (h : code c = code d) :
    c = d := by
  apply Char.toNat_inj.1
  rw [← toNat_code hc, ← toNat_code hd, h]

theorem ne_u_of_shortEscape? {letter b : UInt8} (h : shortEscape? letter = some b) : letter ≠ code 'u' := by
  rintro rfl
  have hnone : shortEscape? (code 'u') = none := by decide
  rw [hnone] at h
  cases h

theorem spellsChar_fourDigits {c : Char} (h : c.toNat < 0x20) :
    SpellsChar c (('\\' :: 'u' :: fourDigits c.toNat).flatMap String.utf8EncodeChar) := by
  have hdigits : ∀ n < 0x20, ('\\' :: 'u' :: fourDigits n).flatMap String.utf8EncodeChar =
      [code '\\', code 'u', code '0', code '0', UInt8.ofNat (0x30 + n / 16),
        UInt8.ofNat (if n % 16 < 10 then 0x30 + n % 16 else 0x57 + n % 16)] := by decide
  have hhigh : ∀ n < 2, hexByte? (UInt8.ofNat (0x30 + n)) = some n := by decide
  have hlow : ∀ n < 16, hexByte? (UInt8.ofNat (if n < 10 then 0x30 + n else 0x57 + n)) = some n := by decide
  rw [hdigits _ h]
  have hzero : hexByte? (code '0') = some 0 := by decide
  refine .digits hzero hzero (hhigh (c.toNat / 16) ?_) (hlow (c.toNat % 16) ?_) ?_ ?_ <;> omega

theorem spellsChar_self {c : Char} (hquote : c ≠ '"') (hescape : c ≠ '\\') (h : 0x20 ≤ c.toNat) :
    SpellsChar c (String.utf8EncodeChar c) := by
  refine .plain fun b hb => ?_
  by_cases hascii : c.toNat < 128
  · rw [Bytes.utf8EncodeChar_of_lt hascii, List.mem_singleton] at hb
    subst hb
    refine ⟨fun heq => hquote (code_injective hascii (by decide) heq),
      fun heq => hescape (code_injective hascii (by decide) heq), ?_⟩
    rw [UInt8.le_iff_toNat_le]
    exact (toNat_code hascii).symm ▸ h
  · have hle := Bytes.le_of_mem_utf8EncodeChar (Nat.le_of_not_lt hascii) hb
    refine ⟨?_, ?_, UInt8.le_trans (by decide) hle⟩
    · rintro rfl
      exact absurd hle (by decide)
    · rintro rfl
      exact absurd hle (by decide)

/-- What is written for a character in a string is a spelling of it. -/
theorem spellsChar_escapeChar (c : Char) : SpellsChar c ((escapeChar c).flatMap String.utf8EncodeChar) := by
  unfold escapeChar
  split
  · exact @SpellsChar.short _ (code '"') (code '"') (by decide) (by decide)
  · exact @SpellsChar.short _ (code '\\') (code '\\') (by decide) (by decide)
  · exact @SpellsChar.short _ (code 'b') 0x08 (by decide) (by decide)
  · exact @SpellsChar.short _ (code 'f') 0x0C (by decide) (by decide)
  · exact @SpellsChar.short _ (code 'n') 0x0A (by decide) (by decide)
  · exact @SpellsChar.short _ (code 'r') 0x0D (by decide) (by decide)
  · exact @SpellsChar.short _ (code 't') 0x09 (by decide) (by decide)
  · next hquote hescape _ _ _ _ _ =>
    split
    · next hcontrol => exact spellsChar_fourDigits hcontrol
    · next hcontrol =>
      rw [List.flatMap_cons, List.flatMap_nil, List.append_nil]
      exact spellsChar_self hquote hescape (Nat.le_of_not_lt hcontrol)

-- ════════════════════════════════════════════════════════════════════════
-- Scanning
-- ════════════════════════════════════════════════════════════════════════

theorem IsSpelling.append {s t : Bytes} (hs : IsSpelling s) (ht : IsSpelling t) : IsSpelling (s ++ t) := by
  intro read tokens
  rw [List.foldlM_append, hs, Option.bind_eq_bind, Option.bind_some, ht, List.reverse_append,
    List.append_assoc]

theorem isSpelling_nil : IsSpelling [] := fun _ _ => rfl

theorem isSpelling_of_plain {bytes : Bytes}
    (h : ∀ b ∈ bytes, b ≠ code '"' ∧ b ≠ code '\\' ∧ 0x20 ≤ b) : IsSpelling bytes := by
  induction bytes with
  | nil => exact isSpelling_nil
  | cons b bytes ih =>
    obtain ⟨⟨hquote, hescape, hle⟩, hrest⟩ := List.forall_mem_cons.1 h
    have hfirst : IsSpelling [b] := by
      intro read tokens
      have hlt : ¬ b < 0x20 := UInt8.not_lt.2 hle
      simp [scanByte?, hquote, hescape, hlt]
    exact hfirst.append (ih hrest)

/-- The scanner reads a spelling of a character in a string. -/
theorem SpellsChar.isSpelling {c : Char} {bytes : Bytes} (h : SpellsChar c bytes) : IsSpelling bytes := by
  intro read tokens
  cases h with
  | @short letter b hletter hc =>
    have hu := ne_u_of_shortEscape? hletter
    have hbackslash : code '\\' ≠ code '"' := by decide
    simp [scanByte?, hu, hletter, hbackslash]
  | digits h₁ h₂ h₃ h₄ =>
    have hbackslash : code '\\' ≠ code '"' := by decide
    simp [scanByte?, h₁, h₂, h₃, h₄, hbackslash]
  | plain h => exact isSpelling_of_plain h read tokens

theorem escape_eq_flatMap (s : String) :
    escape s = s.toList.flatMap fun c => (escapeChar c).flatMap String.utf8EncodeChar := by
  rw [escape, Bytes.ofString_ofList, List.flatMap_assoc]

theorem isSpelling_escape (s : String) : IsSpelling (escape s) := by
  rw [escape_eq_flatMap]
  induction s.toList with
  | nil => exact isSpelling_nil
  | cons c cs ih => exact (spellsChar_escapeChar c).isSpelling.append ih

-- ════════════════════════════════════════════════════════════════════════
-- Reading back
-- ════════════════════════════════════════════════════════════════════════

theorem unescapeBytes?_plain {bytes : Bytes} (h : ∀ b ∈ bytes, b ≠ code '\\') (bound : Nat)
    (rest done : Bytes) : unescapeBytes? (bytes.length + bound) (bytes ++ rest) done =
      unescapeBytes? bound rest (bytes.reverse ++ done) := by
  induction bytes generalizing done with
  | nil => simp
  | cons b bytes ih =>
    obtain ⟨hb, hrest⟩ := List.forall_mem_cons.1 h
    have hstep : unescapeBytes? (bytes.length + bound + 1) (b :: (bytes ++ rest)) done =
        unescapeBytes? (bytes.length + bound) (bytes ++ rest) (b :: done) := if_pos hb
    rw [List.length_cons, Nat.add_right_comm, List.cons_append, hstep, ih hrest, List.reverse_cons,
      List.append_assoc]
    rfl

/-- A spelling of a character is read in no more steps than it has bytes. -/
theorem SpellsChar.unescapeBytes? {c : Char} {bytes : Bytes} (h : SpellsChar c bytes) (rest done : Bytes)
    {bound : Nat} (hbound : bytes.length + rest.length ≤ bound) : ∃ left, rest.length ≤ left ∧
      Json.unescapeBytes? bound (bytes ++ rest) done =
        Json.unescapeBytes? left rest ((String.utf8EncodeChar c).reverse ++ done) := by
  cases h with
  | @short letter b hletter hc =>
    have hu := ne_u_of_shortEscape? hletter
    obtain ⟨left, rfl⟩ : ∃ left, bound = left + 1 := ⟨bound - 1, by simp at hbound; omega⟩
    refine ⟨left, by simp at hbound; omega, ?_⟩
    simp [Json.unescapeBytes?, hu, hletter, hc]
  | @digits d₁ d₂ d₃ d₄ n₁ n₂ n₃ n₄ h₁ h₂ h₃ h₄ hc hlow =>
    obtain ⟨left, rfl⟩ : ∃ left, bound = left + 1 := ⟨bound - 1, by simp at hbound; omega⟩
    refine ⟨left, by simp at hbound; omega, ?_⟩
    have hread : takeCodePoint? (d₁ :: d₂ :: d₃ :: d₄ :: rest) = some (c, rest) := by
      have hfour : takeFour? (d₁ :: d₂ :: d₃ :: d₄ :: rest) = some (c.toNat, rest) := by
        simp [takeFour?, h₁, h₂, h₃, h₄, hc]
      simp [takeCodePoint?, hfour, hlow, Char.ofNat_toNat]
    simp [Json.unescapeBytes?, hread]
  | plain h =>
    obtain ⟨left, rfl⟩ := Nat.exists_eq_add_of_le hbound
    refine ⟨rest.length + left, Nat.le_add_right _ _, ?_⟩
    rw [Nat.add_assoc]
    exact unescapeBytes?_plain (fun b hb => (h b hb).2.1) _ rest done

theorem unescapeBytes?_flatMap (cs : List Char) (done : Bytes) {bound : Nat}
    (hbound : (cs.flatMap fun c => (escapeChar c).flatMap String.utf8EncodeChar).length ≤ bound) :
    unescapeBytes? bound (cs.flatMap fun c => (escapeChar c).flatMap String.utf8EncodeChar) done =
      some (done.reverse ++ cs.flatMap String.utf8EncodeChar) := by
  induction cs generalizing done bound with
  | nil => simp [unescapeBytes?]
  | cons c cs ih =>
    rw [List.flatMap_cons, List.length_append] at hbound
    obtain ⟨left, hleft, hstep⟩ := (spellsChar_escapeChar c).unescapeBytes? _ done hbound
    rw [List.flatMap_cons, hstep, ih _ hleft, List.reverse_append, List.reverse_reverse,
      List.flatMap_cons, List.append_assoc]

/-- The spelling of a text stands for it. -/
theorem unescape?_escape (s : String) : unescape? (escape s) = some s := by
  have hbytes : unescapeBytes? (escape s).length (escape s) [] = some (Bytes.ofString s) := by
    rw [escape_eq_flatMap, unescapeBytes?_flatMap _ _ (Nat.le_refl _), Bytes.ofString_eq_flatMap]
    rfl
  rw [unescape?, hbytes]
  exact Bytes.toString?_ofString s

end Jukebox.Json
