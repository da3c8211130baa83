import Jukebox.Text.Base64

/-!
# Base 64 forms

Bytes are read back from their standard form, and known from the form for file names. Each group of four letters
stands for three bytes, so that a form cut after some groups is the form of the bytes cut after as many.

## Main results

- `Base64.decode?_encode` — bytes are read back from their standard form
- `Base64.groups_injective` — bytes are known from their letters
- `Base64.take_groups` — the letters of bytes that are cut after some groups
-/

namespace Jukebox.Base64

theorem value?_letter {v : Nat} (h : v < 64) : value? (letter '+' '/' v) = some v := by
  have hall : ∀ v < 64, value? (letter '+' '/' v) = some v := by decide
  exact hall v h

theorem letter_ne_fill {v : Nat} (h : v < 64) : letter '+' '/' v ≠ '=' := by
  have hall : ∀ v < 64, letter '+' '/' v ≠ '=' := by decide
  exact hall v h

theorem letter_injective {v w : Nat} (hv : v < 64) (hw : w < 64) (h : letter '-' '_' v = letter '-' '_' w) :
    v = w := by
  let valueOf := fun c => if c = '-' then some 62 else if c = '_' then some 63 else value? c
  have hall : ∀ v < 64, valueOf (letter '-' '_' v) = some v := by decide
  have hvalue := hall v hv
  rw [h, hall w hw] at hvalue
  exact (Option.some.inj hvalue).symm

-- ════════════════════════════════════════════════════════════════════════
-- Reading back
-- ════════════════════════════════════════════════════════════════════════

/-- The bytes of a group, from the values of its letters. -/
theorem bytes_of_values (a b c : UInt8) :
    UInt8.ofNat (a.toNat / 4 * 4 + (a.toNat % 4 * 16 + b.toNat / 16) / 16) = a ∧
      UInt8.ofNat ((a.toNat % 4 * 16 + b.toNat / 16) % 16 * 16 + (b.toNat % 16 * 4 + c.toNat / 64) / 4) = b ∧
      UInt8.ofNat ((b.toNat % 16 * 4 + c.toNat / 64) % 4 * 64 + c.toNat % 64) = c := by
  have hb := b.toNat_lt
  have hc := c.toNat_lt
  refine ⟨?_, ?_, ?_⟩
  · have hvalue : a.toNat / 4 * 4 + (a.toNat % 4 * 16 + b.toNat / 16) / 16 = a.toNat := by omega
    rw [hvalue, UInt8.ofNat_toNat]
  · have hvalue : (a.toNat % 4 * 16 + b.toNat / 16) % 16 * 16 + (b.toNat % 16 * 4 + c.toNat / 64) / 4 =
        b.toNat := by omega
    rw [hvalue, UInt8.ofNat_toNat]
  · have hvalue : (b.toNat % 16 * 4 + c.toNat / 64) % 4 * 64 + c.toNat % 64 = c.toNat := by omega
    rw [hvalue, UInt8.ofNat_toNat]

/-- The values of the letters of a group are below 64. -/
theorem values_lt (a b c : UInt8) : a.toNat / 4 < 64 ∧ a.toNat % 4 * 16 + b.toNat / 16 < 64 ∧
    b.toNat % 16 * 4 + c.toNat / 64 < 64 ∧ c.toNat % 64 < 64 := by
  have ha := a.toNat_lt
  have hb := b.toNat_lt
  have hc := c.toNat_lt
  omega

theorem decodeLetters?_groups (bytes : Bytes) :
    decodeLetters? (groups (letter '+' '/') ['='] bytes) = some bytes := by
  fun_induction groups (letter '+' '/') ['='] bytes with
  | case1 => rfl
  | case2 a =>
    -- as if zero bytes followed
    obtain ⟨h₁, h₂, -⟩ := values_lt a 0 0
    obtain ⟨ha, -⟩ := bytes_of_values a 0 0
    simp only [UInt8.toNat_zero, Nat.zero_div, Nat.add_zero] at h₂ ha
    have hunused : a.toNat % 4 * 16 % 16 = 0 := Nat.mul_mod_left _ _
    simp only [List.cons_append, List.nil_append, decodeLetters?, value?_letter h₁, value?_letter h₂,
      Option.bind_eq_bind, Option.bind_some, hunused, if_true, ha]
  | case3 a b =>
    obtain ⟨h₁, h₂, h₃, -⟩ := values_lt a b 0
    obtain ⟨ha, hb, -⟩ := bytes_of_values a b 0
    simp only [UInt8.toNat_zero, Nat.zero_div, Nat.add_zero] at h₃ hb
    have hunused : b.toNat % 16 * 4 % 4 = 0 := Nat.mul_mod_left _ _
    rw [decodeLetters?.eq_3 _ _ _ (letter_ne_fill h₃)]
    simp only [value?_letter h₁, value?_letter h₂, value?_letter h₃, Option.bind_eq_bind, Option.bind_some,
      hunused, if_true, ha, hb]
  | case4 a b c rest ih =>
    obtain ⟨h₁, h₂, h₃, h₄⟩ := values_lt a b c
    obtain ⟨ha, hb, hc⟩ := bytes_of_values a b c
    rw [decodeLetters?.eq_4 _ _ _ _ _ (fun _ hz _ => letter_ne_fill h₄ hz) fun hz _ => letter_ne_fill h₄ hz]
    simp only [value?_letter h₁, value?_letter h₂, value?_letter h₃, value?_letter h₄, Option.bind_eq_bind,
      Option.bind_some, ih, ha, hb, hc]

/-- Bytes are read back from their standard form. -/
theorem decode?_encode (bytes : Bytes) : decode? (encode bytes) = some bytes := by
  rw [decode?, encode, String.toList_ofList]
  exact decodeLetters?_groups bytes

-- ════════════════════════════════════════════════════════════════════════
-- The form for file names
-- ════════════════════════════════════════════════════════════════════════

/-- The letters of bytes that are cut after some groups. -/
theorem take_groups (letterOf : Nat → Char) (bytes : Bytes) (n : Nat) :
    (groups letterOf [] bytes).take (4 * n) = groups letterOf [] (bytes.take (3 * n)) := by
  induction n generalizing bytes with
  | zero => rfl
  | succ n ih =>
    match bytes with
    | [] => rfl
    | [a] => rfl
    | [a, b] => rfl
    | a :: b :: c :: rest =>
      rw [Nat.mul_succ, Nat.mul_succ, groups, List.take_succ_cons, List.take_succ_cons, List.take_succ_cons,
        List.take_succ_cons, List.take_succ_cons, List.take_succ_cons, List.take_succ_cons, groups, ih]

/-- Three bytes are known from the letters of their group. -/
theorem eq_of_letters {a b c a' b' c' : UInt8}
    (h₁ : letter '-' '_' (a.toNat / 4) = letter '-' '_' (a'.toNat / 4))
    (h₂ : letter '-' '_' (a.toNat % 4 * 16 + b.toNat / 16) = letter '-' '_' (a'.toNat % 4 * 16 + b'.toNat / 16))
    (h₃ : letter '-' '_' (b.toNat % 16 * 4 + c.toNat / 64) = letter '-' '_' (b'.toNat % 16 * 4 + c'.toNat / 64))
    (h₄ : letter '-' '_' (c.toNat % 64) = letter '-' '_' (c'.toNat % 64)) : a = a' ∧ b = b' ∧ c = c' := by
  obtain ⟨hlt₁, hlt₂, hlt₃, hlt₄⟩ := values_lt a b c
  obtain ⟨hlt₁', hlt₂', hlt₃', hlt₄'⟩ := values_lt a' b' c'
  obtain ⟨ha, hb, hc⟩ := bytes_of_values a b c
  obtain ⟨ha', hb', hc'⟩ := bytes_of_values a' b' c'
  have heq₁ := letter_injective hlt₁ hlt₁' h₁
  have heq₂ := letter_injective hlt₂ hlt₂' h₂
  have heq₃ := letter_injective hlt₃ hlt₃' h₃
  have heq₄ := letter_injective hlt₄ hlt₄' h₄
  refine ⟨?_, ?_, ?_⟩
  · rw [← ha, ← ha', heq₁, heq₂]
  · rw [← hb, ← hb', heq₂, heq₃]
  · rw [← hc, ← hc', heq₃, heq₄]

/-- Bytes are known from their letters. -/
theorem groups_injective {x y : Bytes} (h : groups (letter '-' '_') [] x = groups (letter '-' '_') [] y) :
    x = y := by
  induction x using groups.induct generalizing y with
  | case1 =>
    match y with
    | [] => rfl
    | [_] | [_, _] | _ :: _ :: _ :: _ => simp [groups] at h
  | case2 a =>
    match y with
    | [a'] =>
      simp only [groups, List.cons.injEq, and_true] at h
      obtain ⟨rfl, -⟩ := @eq_of_letters _ 0 0 _ 0 0 h.1 h.2 rfl rfl
      rfl
    | [] | [_, _] | _ :: _ :: _ :: _ => simp [groups] at h
  | case3 a b =>
    match y with
    | [a', b'] =>
      simp only [groups, List.cons.injEq, and_true] at h
      obtain ⟨rfl, rfl, -⟩ := @eq_of_letters _ _ 0 _ _ 0 h.1 h.2.1 h.2.2 rfl
      rfl
    | [] | [_] | _ :: _ :: _ :: _ => simp [groups] at h
  | case4 a b c rest ih =>
    match y with
    | a' :: b' :: c' :: rest' =>
      simp only [groups, List.cons.injEq] at h
      obtain ⟨h₁, h₂, h₃, h₄, hrest⟩ := h
      obtain ⟨rfl, rfl, rfl⟩ := eq_of_letters h₁ h₂ h₃ h₄
      rw [ih hrest]
    | [] | [_] | [_, _] => simp [groups] at h

end Jukebox.Base64
