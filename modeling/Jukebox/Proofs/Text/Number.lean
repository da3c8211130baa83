import Jukebox.Text.Number
import Mathlib.Data.List.Induction

/-!
# Numbers are read back

The digits of a number are read as that number, unless it is beyond the bound. Nothing beyond the bound is ever
read. A number may be written with zeros or a plus sign in front of its digits, and in no other way.

## Main definitions

- `Text.IsNumeralOf` — a text writes a number

## Main results

- `Text.readUnsigned_toDigits` — a number is read back from its digits
- `Text.readUnsigned_eq_ok_iff` — which texts are read, and as which numbers
- `Text.IsNumeralOf.eq_toDigits_iff` — which of them are the digits of their number
-/

namespace Jukebox.Text

variable {bound value n : Nat} {c : Char} {digits : List Char}

-- ════════════════════════════════════════════════════════════════════════
-- Digits
-- ════════════════════════════════════════════════════════════════════════

theorem toNat_lt_of_isDigit (h : c.isDigit = true) : c.toNat < 0x80 :=
  Nat.lt_of_le_of_lt (Char.isDigit_iff_toNat.1 h).2 (by decide)

theorem isDigit_of_mem_toDigits (h : c ∈ Nat.toDigits 10 n) : c.isDigit = true :=
  Nat.isDigit_of_mem_toDigits (by decide) (by decide) h

theorem digit?_eq (c : Char) : digit? c = if c.isDigit then some (c.toNat - 0x30) else none := by
  have hrange : '0' ≤ c ∧ c ≤ '9' ↔ c.isDigit = true := by
    rw [Char.le_def, Char.le_def, UInt32.le_iff_toNat_le, UInt32.le_iff_toNat_le, Char.isDigit_iff_toNat]
    rfl
  simp only [digit?, hrange]

theorem digit?_of_isDigit (h : c.isDigit = true) : digit? c = some (c.toNat - 0x30) := by
  rw [digit?_eq, if_pos h]

-- ════════════════════════════════════════════════════════════════════════
-- Reading
-- ════════════════════════════════════════════════════════════════════════

/-- Reading on never makes a number smaller. -/
theorem le_ofDigitChars (digits : List Char) (value : Nat) : value ≤ Nat.ofDigitChars 10 digits value := by
  induction digits generalizing value with
  | nil => exact Nat.le_refl value
  | cons c digits ih =>
    rw [Nat.ofDigitChars_cons]
    have hle := ih (10 * value + (c.toNat - '0'.toNat))
    omega

theorem readDigits_of_isDigit (h : ∀ c ∈ digits, c.isDigit = true)
    (hle : Nat.ofDigitChars 10 digits value ≤ bound) :
    readDigits bound value digits = .ok (Nat.ofDigitChars 10 digits value) := by
  induction digits generalizing value with
  | nil => rfl
  | cons c digits ih =>
    obtain ⟨hc, hdigits⟩ := List.forall_mem_cons.1 h
    have hvalue : 10 * value + (c.toNat - '0'.toNat) = value * 10 + (c.toNat - 0x30) := by
      rw [Nat.mul_comm]
      rfl
    rw [Nat.ofDigitChars_cons, hvalue] at hle ⊢
    have hfits : ¬ bound < value * 10 + (c.toNat - 0x30) :=
      Nat.not_lt.2 (Nat.le_trans (le_ofDigitChars digits _) hle)
    rw [readDigits, digit?_of_isDigit hc]
    simp only [if_neg hfits]
    exact ih hdigits hle

theorem readDigits_eq_ok (hvalue : value ≤ bound) (h : readDigits bound value digits = .ok n) :
    n ≤ bound ∧ (∀ c ∈ digits, c.isDigit = true) ∧ Nat.ofDigitChars 10 digits value = n := by
  induction digits generalizing value with
  | nil =>
    obtain rfl := Except.ok.inj h
    exact ⟨hvalue, nofun, rfl⟩
  | cons c digits ih =>
    rw [readDigits, digit?_eq] at h
    by_cases hc : c.isDigit = true
    · simp only [if_pos hc] at h
      split at h
      · cases h
      · next hfits =>
        obtain ⟨hle, hdigits, hn⟩ := ih (Nat.not_lt.1 hfits) h
        refine ⟨hle, List.forall_mem_cons.2 ⟨hc, hdigits⟩, ?_⟩
        rw [Nat.ofDigitChars_cons, Nat.mul_comm]
        exact hn
    · simp only [if_neg hc] at h
      cases h

-- ════════════════════════════════════════════════════════════════════════
-- Numerals
-- ════════════════════════════════════════════════════════════════════════

/-- The text writes the number: by decimal digits, the first of which may be zeros, with a plus sign in front of them
or not. -/
def IsNumeralOf (n : Nat) (s : List Char) : Prop :=
  ∃ digits, digits ≠ [] ∧ (∀ c ∈ digits, c.isDigit = true) ∧ Nat.ofDigitChars 10 digits 0 = n ∧
    (s = digits ∨ s = '+' :: digits)

theorem isNumeralOf_toDigits (n : Nat) : IsNumeralOf n (Nat.toDigits 10 n) :=
  ⟨Nat.toDigits 10 n, Nat.toDigits_ne_nil, fun _ => isDigit_of_mem_toDigits, Nat.ofDigitChars_ten_toDigits, .inl rfl⟩

/-- The digits of a number that is not zero do not begin with a zero. -/
theorem head?_toDigits_ne_zero (h : n ≠ 0) : (Nat.toDigits 10 n).head? ≠ some '0' := by
  induction n using Nat.strongRecOn with
  | ind n ih =>
    by_cases hlt : n < 10
    · rw [Nat.toDigits_of_lt_base hlt]
      simpa using h
    · have hge : 10 ≤ n := Nat.le_of_not_lt hlt
      have hfront := ih (n / 10) (by omega) (by omega)
      obtain ⟨d, digits, hdigits⟩ :=
        List.exists_cons_of_ne_nil (Nat.toDigits_ne_nil (n := n / 10) (b := 10))
      rw [Nat.toDigits_of_base_le (by decide) hge, hdigits]
      rw [hdigits] at hfront
      exact hfront

theorem toDigits_of_isDigit (h : c.isDigit = true) : Nat.toDigits 10 (c.toNat - 0x30) = [c] := by
  have hall : ∀ n < 0x3A, 0x30 ≤ n → Nat.toDigits 10 (n - 0x30) = [Char.ofNat n] := by decide
  obtain ⟨hlow, hhigh⟩ := Char.isDigit_iff_toNat.1 h
  have hc := hall c.toNat (Nat.lt_succ_of_le hhigh) hlow
  rwa [Char.ofNat_toNat] at hc

theorem ofDigitChars_pos (hc : c.isDigit = true) (hzero : c ≠ '0') : 0 < Nat.ofDigitChars 10 (c :: digits) 0 := by
  have hne : c.toNat ≠ '0'.toNat := fun heq => hzero (Char.toNat_inj.1 heq)
  have hlow : '0'.toNat ≤ c.toNat := (Char.isDigit_iff_toNat.1 hc).1
  have hle := le_ofDigitChars digits (10 * 0 + (c.toNat - '0'.toNat))
  rw [Nat.ofDigitChars_cons]
  omega

/-- Digits that do not begin with a zero are those of their number. -/
theorem toDigits_ofDigitChars (hne : digits ≠ []) (hall : ∀ c ∈ digits, c.isDigit = true)
    (hzero : digits.head? = some '0' → digits = ['0']) :
    Nat.toDigits 10 (Nat.ofDigitChars 10 digits 0) = digits := by
  induction digits using List.reverseRecOn with
  | nil => exact absurd rfl hne
  | append_singleton digits last ih =>
    obtain ⟨hdigits, hlast⟩ := List.forall_mem_append.1 hall
    have hlast := hlast last List.mem_cons_self
    have hvalue : Nat.ofDigitChars 10 (digits ++ [last]) 0 =
        10 * Nat.ofDigitChars 10 digits 0 + (last.toNat - 0x30) := by
      rw [Nat.ofDigitChars_append]
      rfl
    cases digits with
    | nil =>
      rw [hvalue, Nat.ofDigitChars_nil, Nat.mul_zero, Nat.zero_add]
      exact toDigits_of_isDigit hlast
    | cons first digits =>
      have hfirst : first ≠ '0' := by
        rintro rfl
        exact absurd (congrArg List.length (hzero rfl)) (by simp)
      have hsmall : last.toNat - 0x30 < 10 := by
        have hhigh : last.toNat ≤ 0x39 := (Char.isDigit_iff_toNat.1 hlast).2
        omega
      have hfront := ih (List.cons_ne_nil _ _) hdigits fun heq => absurd (Option.some.inj heq) hfirst
      rw [hvalue, ← Nat.toDigits_append_toDigits (by decide) (ofDigitChars_pos (hdigits _ List.mem_cons_self) hfirst)
        hsmall, hfront, toDigits_of_isDigit hlast]

/-- A text that writes a number is that of its digits unless it begins with a plus sign or with a zero that is not all
of it. -/
theorem IsNumeralOf.eq_toDigits_iff {s : List Char} (h : IsNumeralOf n s) :
    s = Nat.toDigits 10 n ↔ s.head? ≠ some '+' ∧ (s.head? = some '0' → s = ['0']) := by
  obtain ⟨digits, hne, hall, rfl, hs⟩ := h
  constructor
  · rintro rfl
    refine ⟨fun hplus => ?_, fun hzero => ?_⟩
    · exact absurd (isDigit_of_mem_toDigits (List.mem_of_head? hplus)) (by decide)
    · have hn : Nat.ofDigitChars 10 digits 0 = 0 := by
        by_contra hne
        exact head?_toDigits_ne_zero hne hzero
      rw [hn, Nat.toDigits_zero]
  · rintro ⟨hplus, hzero⟩
    obtain rfl | rfl := hs
    · exact (toDigits_ofDigitChars hne hall hzero).symm
    · exact absurd rfl hplus

/-- The numbers up to the bound are read from exactly the texts that write them. -/
theorem readUnsigned_eq_ok_iff {s : List Char} : readUnsigned bound s = .ok n ↔ n ≤ bound ∧ IsNumeralOf n s := by
  constructor
  · intro h
    unfold readUnsigned at h
    split at h
    · cases h
    · cases h
    · next digits hdigits =>
      obtain ⟨hle, hall, hn⟩ := readDigits_eq_ok (Nat.zero_le bound) h
      exact ⟨hle, digits, hdigits, hall, hn, .inr rfl⟩
    · next hsome _ _ =>
      obtain ⟨hle, hall, hn⟩ := readDigits_eq_ok (Nat.zero_le bound) h
      exact ⟨hle, s, hsome, hall, hn, .inl rfl⟩
  · rintro ⟨hle, digits, hne, hall, rfl, rfl | rfl⟩
    · -- the first digit is no plus sign, so all of them are read
      unfold readUnsigned
      split
      · exact absurd rfl hne
      · exact absurd (hall '+' List.mem_cons_self) (by decide)
      · exact absurd (hall '+' List.mem_cons_self) (by decide)
      · exact readDigits_of_isDigit hall hle
    · rw [readUnsigned]
      · exact readDigits_of_isDigit hall hle
      · exact hne

/-- A number is read back from its digits. -/
theorem readUnsigned_toDigits (h : n ≤ bound) : readUnsigned bound (Nat.toDigits 10 n) = .ok n :=
  readUnsigned_eq_ok_iff.2 ⟨h, isNumeralOf_toDigits n⟩

/-- What is read keeps to the bound. -/
theorem le_of_readUnsigned (h : readUnsigned bound digits = .ok n) : n ≤ bound :=
  (readUnsigned_eq_ok_iff.1 h).1

end Jukebox.Text
