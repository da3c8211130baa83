import Jukebox.Proofs.Engine.Cooling
import Mathlib.Data.List.DropRight

/-!
# Cooldowns along a run

Until when a provider is avoided is the latest point in time that was asked for since its cooldown was cleared last,
in whatever order that was asked. Points in time beyond the horizon count as the horizon, which is the largest signed
number of 64 bits. So signed words of that size can hold all points in time, and nothing that is computed with them
overflows.

## Main definitions

- `Cooldown.Call`, `Cooldown.run` — what is done with cooldowns, and the cooldowns after a sequence of it
- `Cooldown.requests` — the points in time that were asked for since the last clear
- `Cooldown.Slots` — the points in time in signed words, each from the first time that its provider is avoided

## Main results

- `Cooldown.deadline_run` — until when a provider is avoided after any run
- `Cooldown.deadline_run_filter` — what is done for other providers does not matter
- `Cooldown.deadline_run_perm` — nor does the order between two clears
- `Cooldown.Slots.mirrors_run` — signed words hold the same points in time
- `Cooldown.deadline_is_running_maximum` — until when providers are avoided, and what the calls tell of it
-/

namespace Jukebox.Cooldown

/-- Something done with the cooldowns: a trigger at a reading of the clock, or a clear. -/
inductive Call where
  | trigger (now ms : Nat) (p : Provider)
  | clear (p : Provider)
  deriving DecidableEq

namespace Call

/-- The provider whose cooldown a call is about. -/
def provider : Call → Provider
  | trigger _ _ p | clear p => p

/-- The point in time until which a call asks to avoid a provider. -/
def request? (p : Provider) : Call → Option Nat
  | trigger now ms q => if q = p then some (min (now + ms) horizon) else none
  | clear _ => none

/-- The reading of the clock at a call is none beyond the horizon. -/
def IsReadable : Call → Prop
  | trigger now _ _ => now ≤ horizon
  | clear _ => True

end Call

/-- The cooldowns after a call. -/
def perform (c : Cooldown) : Call → Cooldown
  | .trigger now ms p => (c.trigger now ms p).2
  | .clear p => c.clear p

/-- The cooldowns after a sequence of calls. -/
def run (c : Cooldown) (calls : List Call) : Cooldown :=
  calls.foldl perform c

/-- The points in time until which the provider was asked to be avoided since its last clear. -/
def requests (p : Provider) (calls : List Call) : List Nat :=
  (calls.rtakeWhile (· ≠ .clear p)).filterMap (Call.request? p)

variable {c c' : Cooldown} {p : Provider} {call : Call} {calls calls' : List Call} {now ms : Nat}

-- ════════════════════════════════════════════════════════════════════════
-- One call
-- ════════════════════════════════════════════════════════════════════════

/-- A call that does not clear the cooldown moves it forward to the point in time that is asked for. -/
theorem deadline_perform (h : call ≠ .clear p) (c : Cooldown) :
    (c.perform call).deadline p = max (c.deadline p) ((call.request? p).getD 0) := by
  cases call with
  | trigger now ms q =>
    rw [perform, trigger_deadline, Call.request?]
    by_cases hq : p = q
    · rw [if_pos hq, if_pos hq.symm, hq]
      rfl
    · rw [if_neg hq, if_neg (Ne.symm hq)]
      exact (Nat.max_zero _).symm
  | clear q =>
    have hq : p ≠ q := fun hq => h (by rw [hq])
    rw [Call.request?, Option.getD_none, Nat.max_zero]
    exact if_neg hq

theorem deadline_perform_clear (p : Provider) (c : Cooldown) : (c.perform (.clear p)).deadline p = 0 :=
  if_pos rfl

/-- Triggering a cooldown tells whether it has got longer. -/
theorem trigger_eq_true_iff :
    (c.trigger now ms p).1 = true ↔ c.deadline p < (c.trigger now ms p).2.deadline p := by
  have hmax : c.deadline p < (c.trigger now ms p).2.deadline p ↔ c.deadline p < min (now + ms) horizon := by
    rw [trigger_deadline, if_pos rfl]
    omega
  rw [hmax, trigger]
  split
  · next hlater => exact iff_of_true rfl hlater
  · next hnot => exact iff_of_false Bool.false_ne_true hnot

theorem remaining?_eq_some_iff {left : Nat} :
    c.remaining? now p = some left ↔ now < c.deadline p ∧ left = c.deadline p - now := by
  unfold remaining?
  split
  · next h => rw [Option.some.injEq, and_iff_right h, eq_comm]
  · next h => exact iff_of_false (fun hnone => nomatch hnone) fun hleft => h hleft.1

theorem remaining?_eq_none_iff : c.remaining? now p = none ↔ c.deadline p ≤ now := by
  unfold remaining?
  split
  · next h => exact iff_of_false (fun hsome => nomatch hsome) (Nat.not_le.2 h)
  · next h => exact iff_of_true rfl (Nat.not_lt.1 h)

-- ════════════════════════════════════════════════════════════════════════
-- Runs
-- ════════════════════════════════════════════════════════════════════════

theorem run_append (c : Cooldown) (calls calls' : List Call) : c.run (calls ++ calls') = (c.run calls).run calls' :=
  List.foldl_append

/-- Without a clear, the cooldown is the latest point in time of what is asked for and of what it was. -/
theorem deadline_run_of_notMem (h : .clear p ∉ calls) (c : Cooldown) :
    (c.run calls).deadline p = (calls.filterMap (Call.request? p)).foldl max (c.deadline p) := by
  induction calls generalizing c with
  | nil => rfl
  | cons call calls ih =>
    obtain ⟨hcall, hcalls⟩ := List.ne_and_not_mem_of_not_mem_cons h
    have hrest := ih hcalls (c.perform call)
    rw [deadline_perform hcall.symm] at hrest
    refine hrest.trans ?_
    cases hrequest : call.request? p with
    | none => rw [List.filterMap_cons_none hrequest, Option.getD_none, Nat.max_zero]
    | some t => rw [List.filterMap_cons_some hrequest]; rfl

/-- Until when a provider is avoided after a run that starts without cooldowns. -/
theorem deadline_run (tracked : List Provider) (p : Provider) (calls : List Call) :
    (({ tracked } : Cooldown).run calls).deadline p = (requests p calls).foldl max 0 := by
  -- what was done up to the last clear does not matter any more
  have hcleared : (({ tracked } : Cooldown).run (calls.rdropWhile (· ≠ .clear p))).deadline p = 0 := by
    rcases List.eq_nil_or_concat (calls.rdropWhile (· ≠ .clear p)) with hnil | ⟨front, last, hlast⟩
    · rw [hnil]
      rfl
    · have hclear := List.rdropWhile_last_not (· ≠ .clear p) calls (by rw [hlast]; simp)
      simp only [hlast, List.concat_eq_append, List.getLast_append_singleton, decide_eq_true_eq,
        Classical.not_not] at hclear
      rw [hlast, List.concat_eq_append, run_append, hclear]
      exact deadline_perform_clear p _
  have hnot : Call.clear p ∉ calls.rtakeWhile (· ≠ .clear p) := fun hmem => by simpa using List.mem_rtakeWhile_imp hmem
  calc (({ tracked } : Cooldown).run calls).deadline p
      = ((({ tracked } : Cooldown).run (calls.rdropWhile (· ≠ .clear p))).run
          (calls.rtakeWhile (· ≠ .clear p))).deadline p := by
        rw [← run_append, List.rdropWhile_append_rtakeWhile]
    _ = (requests p calls).foldl max 0 := by
        rw [deadline_run_of_notMem hnot, hcleared, requests]

/-- Later cooldowns of a provider depend only on its own. -/
theorem deadline_run_congr (h : c.deadline p = c'.deadline p) (calls : List Call) :
    (c.run calls).deadline p = (c'.run calls).deadline p := by
  induction calls generalizing c c' with
  | nil => exact h
  | cons call calls ih =>
    apply ih
    by_cases hclear : call = .clear p
    · rw [hclear, deadline_perform_clear, deadline_perform_clear]
    · rw [deadline_perform hclear, deadline_perform hclear, h]

theorem deadline_perform_of_provider_ne (h : call.provider ≠ p) (c : Cooldown) :
    (c.perform call).deadline p = c.deadline p := by
  cases call with
  | trigger now ms q =>
    rw [perform, trigger_deadline]
    exact if_neg (Ne.symm h)
  | clear q => exact if_neg (Ne.symm h)

/-- What is done for other providers does not matter. -/
theorem deadline_run_filter (p : Provider) (calls : List Call) (c : Cooldown) :
    (c.run (calls.filter (·.provider = p))).deadline p = (c.run calls).deadline p := by
  induction calls generalizing c with
  | nil => rfl
  | cons call calls ih =>
    by_cases hp : call.provider = p
    · rw [List.filter_cons_of_pos (by simpa using hp)]
      exact ih (c.perform call)
    · rw [List.filter_cons_of_neg (by simpa using hp), ih]
      exact deadline_run_congr (deadline_perform_of_provider_ne hp c).symm calls

/-- The order of what is done between two clears does not matter. -/
theorem deadline_run_perm {before after : List Call} (h : calls.Perm calls') (hclear : .clear p ∉ calls)
    (c : Cooldown) :
    (c.run (before ++ calls ++ after)).deadline p = (c.run (before ++ calls' ++ after)).deadline p := by
  have hclear' : .clear p ∉ calls' := mt h.mem_iff.2 hclear
  rw [run_append, run_append c (before ++ calls')]
  apply deadline_run_congr
  rw [run_append, run_append, deadline_run_of_notMem hclear, deadline_run_of_notMem hclear']
  exact (h.filterMap _).foldl_eq' (fun x _ y _ z => Nat.max_right_comm z x y) _

-- ════════════════════════════════════════════════════════════════════════
-- Signed words
-- ════════════════════════════════════════════════════════════════════════

/-- The points in time as signed words of 64 bits. A provider has none until it is avoided for the first time. -/
def Slots : Type := Provider → Option Int64

namespace Slots

/-- The slot of a provider holds the word now. -/
def record (p : Provider) (t : Int64) (s : Slots) : Slots := fun q => if q = p then some t else s q

/-- The word for a provider; one that was never avoided has a slot with zero in it. -/
def word (p : Provider) (s : Slots) : Int64 := (s p).getD 0

/-- The sum of a reading of the clock and a duration. Each is cut off at the largest word. -/
def sum (now : Int64) (ms : Nat) : Int64 := Int64.ofIntClamp (now.toInt + (Int64.ofIntClamp ms).toInt)

/-- Avoids a provider for a while, and tells whether that is longer than before. The slot of the provider is there
afterwards in any case. -/
def trigger (now : Int64) (ms : Nat) (p : Provider) (s : Slots) : Bool × Slots :=
  if s.word p < sum now ms then (true, s.record p (sum now ms)) else (false, s.record p (s.word p))

/-- Ends the cooldown of a provider, if it ever had one. -/
def clear (p : Provider) (s : Slots) : Slots :=
  if (s p).isSome then s.record p 0 else s

/-- How many milliseconds the provider is still avoided. -/
def remaining? (now : Int64) (p : Provider) (s : Slots) : Option Nat :=
  match s p with
  | none => none
  | some t => if 0 < t - now then some (t - now).toNatClampNeg else none

def perform (s : Slots) : Call → Slots
  | .trigger now ms p => (s.trigger (Int64.ofNat now) ms p).2
  | .clear p => s.clear p

/-- The words after a sequence of calls, if no provider was avoided before. -/
def run (calls : List Call) : Slots :=
  calls.foldl perform fun _ => none

/-- The words are the points in time of the cooldowns. -/
def Mirrors (s : Slots) (c : Cooldown) : Prop := ∀ p, (s.word p).toInt = c.deadline p

variable {s : Slots}

theorem toInt_ofNat_of_le (h : now ≤ horizon) : (Int64.ofNat now).toInt = now :=
  Int64.toInt_ofNat_of_lt (Nat.lt_succ_of_le h)

theorem toInt_ofIntClamp (n : Nat) : (Int64.ofIntClamp n).toInt = min n horizon := by
  have hlow : Int64.minValue.toInt ≤ (n : Int) := Int.le_trans (by decide) (Int.natCast_nonneg n)
  have hhorizon : Int64.maxValue.toInt = (horizon : Int) := by decide
  rw [Int64.ofIntClamp, dif_pos hlow]
  split
  · next hle =>
    rw [Int64.toInt_ofIntLE]
    omega
  · next hnot => omega

/-- A sum that is cut off at each step is the sum cut off at the end. -/
theorem toInt_sum (h : now ≤ horizon) (ms : Nat) :
    (sum (Int64.ofNat now) ms).toInt = (min (now + ms) horizon : Nat) := by
  have hsum : (Int64.ofNat now).toInt + (Int64.ofIntClamp ms).toInt = (now + min ms horizon : Nat) := by
    rw [toInt_ofNat_of_le h, toInt_ofIntClamp]
    omega
  rw [sum, hsum, toInt_ofIntClamp]
  omega

@[simp] theorem word_record_self (p : Provider) (t : Int64) (s : Slots) : (s.record p t).word p = t := by
  simp [word, record]

theorem word_record_of_ne {q : Provider} (h : q ≠ p) (t : Int64) (s : Slots) : (s.record p t).word q = s.word q := by
  simp [word, record, h]

namespace Mirrors

theorem deadline_le (h : s.Mirrors c) (p : Provider) : c.deadline p ≤ horizon := by
  have hlt := Int64.toInt_lt (s.word p)
  rw [h p] at hlt
  have hhorizon : (2 : Int) ^ 63 = horizon + 1 := by decide
  omega

/-- Writing a point in time writes its word. -/
theorem record (h : s.Mirrors c) {t : Int64} {n : Nat} (ht : t.toInt = n) (p : Provider) :
    (s.record p t).Mirrors (c.record p n) := by
  intro q
  by_cases hq : q = p
  · rw [hq, word_record_self, ht, record_deadline, if_pos rfl]
  · rw [word_record_of_ne hq, h q, record_deadline, if_neg hq]

theorem record_word (h : s.Mirrors c) (p : Provider) : (s.record p (s.word p)).Mirrors c := by
  intro q
  by_cases hq : q = p
  · rw [hq, word_record_self, h p]
  · rw [word_record_of_ne hq, h q]

/-- A trigger compares the same points in time in words. -/
theorem trigger (h : s.Mirrors c) (hnow : now ≤ horizon) (ms : Nat) (p : Provider) :
    (s.trigger (Int64.ofNat now) ms p).1 = (c.trigger now ms p).1 ∧
      (s.trigger (Int64.ofNat now) ms p).2.Mirrors (c.trigger now ms p).2 := by
  have hlater : s.word p < sum (Int64.ofNat now) ms ↔ c.deadline p < min (now + ms) horizon := by
    rw [Int64.lt_iff_toInt_lt, toInt_sum hnow, h p, Int.ofNat_lt]
  rw [Slots.trigger, Cooldown.trigger]
  by_cases hlt : c.deadline p < min (now + ms) horizon
  · rw [if_pos (hlater.2 hlt), if_pos hlt]
    exact ⟨rfl, h.record (toInt_sum hnow ms) p⟩
  · rw [if_neg (mt hlater.1 hlt), if_neg hlt]
    exact ⟨rfl, h.record_word p⟩

theorem clear (h : s.Mirrors c) (p : Provider) : (s.clear p).Mirrors (c.clear p) := by
  rw [Slots.clear]
  cases hslot : s p with
  | some t => exact h.record rfl p
  | none =>
    -- a provider without a slot is not avoided
    intro q
    rw [Option.isSome_none, if_neg Bool.false_ne_true, h q, Cooldown.clear, record_deadline]
    by_cases hq : q = p
    · have hzero := h p
      rw [word, hslot] at hzero
      rw [if_pos hq, hq, ← hzero]
      rfl
    · rw [if_neg hq]

/-- The difference of a point in time and a reading of the clock does not overflow. -/
theorem toInt_sub (h : s.Mirrors c) (hnow : now ≤ horizon) (p : Provider) :
    (s.word p - Int64.ofNat now).toInt = (c.deadline p : Int) - now := by
  have hle := h.deadline_le p
  have hhorizon : horizon = 2 ^ 63 - 1 := by decide
  rw [Int64.toInt_sub, h p, toInt_ofNat_of_le hnow]
  apply Int.bmod_eq_of_le <;> omega

theorem remaining? (h : s.Mirrors c) (hnow : now ≤ horizon) (p : Provider) :
    s.remaining? (Int64.ofNat now) p = c.remaining? now p := by
  have hdiff := h.toInt_sub hnow p
  rw [Slots.remaining?, Cooldown.remaining?]
  cases hslot : s p with
  | none =>
    have hzero := h p
    rw [word, hslot] at hzero
    rw [if_neg]
    intro hlt
    have : (0 : Int) = c.deadline p := hzero
    omega
  | some t =>
    rw [word, hslot, Option.getD_some] at hdiff
    have hpos : 0 < t - Int64.ofNat now ↔ now < c.deadline p := by
      rw [Int64.lt_iff_toInt_lt, hdiff, Int64.toInt_zero]
      omega
    by_cases hlt : now < c.deadline p
    · have hleft : (t - Int64.ofNat now).toNatClampNeg = c.deadline p - now := by
        rw [← Int64.toNat_toInt, hdiff]
        omega
      simp only [if_pos (hpos.2 hlt), if_pos hlt, hleft]
    · simp only [if_neg (mt hpos.1 hlt), if_neg hlt]

end Mirrors

/-- Signed words hold the same points in time as long as the clock can be read. -/
theorem mirrors_run (tracked : List Provider) (h : ∀ call ∈ calls, call.IsReadable) :
    (run calls).Mirrors (({ tracked } : Cooldown).run calls) := by
  have hall : ∀ (s : Slots) (c : Cooldown), s.Mirrors c → (calls.foldl perform s).Mirrors (c.run calls) := by
    induction calls with
    | nil => exact fun _ _ hs => hs
    | cons call calls ih =>
      intro s c hs
      obtain ⟨hcall, hcalls⟩ := List.forall_mem_cons.1 h
      apply ih hcalls
      cases call with
      | trigger now ms p => exact (hs.trigger hcall ms p).2
      | clear p => exact hs.clear p
  exact hall _ _ fun _ => rfl

end Slots

/-- Whatever was triggered and cleared, at any readings of the clock and for any durations: a provider is avoided
until the latest point in time that was asked for since its last clear, where no point lies beyond the horizon; a
trigger tells whether it moved that point; and what remains is the time from now to that point, if it is still to
come. What is done for other providers changes none of these answers, and neither does the order of what is asked for
between two clears. As long as the clock can be read, all of it is the same in signed words of 64 bits, and the
difference of words that tells what remains never overflows. -/
theorem deadline_is_running_maximum (tracked : List Provider) (calls : List Call) :
    let c := ({ tracked } : Cooldown).run calls
    (∀ p, c.deadline p = (requests p calls).foldl max 0) ∧
    (∀ now ms p, (c.trigger now ms p).1 = true ↔ c.deadline p < (c.trigger now ms p).2.deadline p) ∧
    (∀ now p left, c.remaining? now p = some left ↔ now < c.deadline p ∧ left = c.deadline p - now) ∧
    (∀ now p, c.remaining? now p = none ↔ c.deadline p ≤ now) ∧
    (∀ p, let own := ({ tracked } : Cooldown).run (calls.filter (·.provider = p))
      own.deadline p = c.deadline p ∧
      (∀ now ms, (own.trigger now ms p).1 = (c.trigger now ms p).1) ∧
      ∀ now, own.remaining? now p = c.remaining? now p) ∧
    (∀ before batch batch' after p, calls = before ++ batch ++ after → batch.Perm batch' → .clear p ∉ batch →
      (({ tracked } : Cooldown).run (before ++ batch' ++ after)).deadline p = c.deadline p) ∧
    ((∀ call ∈ calls, call.IsReadable) → ∀ now p, now ≤ horizon →
      (∀ ms, ((Slots.run calls).trigger (Int64.ofNat now) ms p).1 = (c.trigger now ms p).1) ∧
      (Slots.run calls).remaining? (Int64.ofNat now) p = c.remaining? now p ∧
      ((Slots.run calls).word p - Int64.ofNat now).toInt = (c.deadline p : Int) - now) := by
  intro c
  refine ⟨fun p => deadline_run tracked p calls, fun now ms p => trigger_eq_true_iff,
    fun now p left => remaining?_eq_some_iff, fun now p => remaining?_eq_none_iff, ?_, ?_, ?_⟩
  · intro p own
    have hdeadline : own.deadline p = c.deadline p := deadline_run_filter p calls _
    refine ⟨hdeadline, ?_, ?_⟩
    · intro now ms
      rw [Bool.eq_iff_iff, trigger_eq_true_iff, trigger_eq_true_iff, trigger_deadline, trigger_deadline, if_pos rfl,
        if_pos rfl, hdeadline]
    · intro now
      rw [Cooldown.remaining?, hdeadline]
      rfl
  · rintro before batch batch' after p rfl hperm hclear
    exact (deadline_run_perm hperm hclear _).symm
  · intro hreadable now p hnow
    have hmirrors := Slots.mirrors_run tracked hreadable
    exact ⟨fun ms => (hmirrors.trigger hnow ms p).1, hmirrors.remaining? hnow p, hmirrors.toInt_sub hnow p⟩

/-- A provider that is triggered again after a clear, and one that is triggered for longer than a word can hold. -/
def triggeredAgain : List Call :=
  [.trigger 1000 600000 .youtube, .trigger 2000 0xFFFFFFFFFFFFFFFFFFFF .soundcloud, .clear .youtube,
    .trigger 3000 5000 .youtube, .trigger 4000 1000 .youtube]

/-- The trigger before the clear does not count any more, the shorter one at the end does not shorten anything, and
the longest one reaches up to the horizon. -/
theorem triggeredAgain_remaining :
    (∀ call ∈ triggeredAgain, call.IsReadable) ∧
    (({ tracked := [] } : Cooldown).run triggeredAgain).deadline .youtube = 8000 ∧
    (Slots.run triggeredAgain).remaining? (Int64.ofNat 6000) .youtube = some 2000 ∧
    (Slots.run triggeredAgain).remaining? (Int64.ofNat 6000) .soundcloud = some (horizon - 6000) := by
  have hreadable : ∀ call ∈ triggeredAgain, call.IsReadable := by
    simp [triggeredAgain, Call.IsReadable, horizon]
  obtain ⟨hdeadline, -, hremaining, -, -, -, hwords⟩ := deadline_is_running_maximum [] triggeredAgain
  have hyoutube := (hdeadline .youtube).trans (show _ = 8000 by decide)
  have hsoundcloud := (hdeadline .soundcloud).trans (show _ = horizon by decide)
  refine ⟨hreadable, hyoutube, ?_, ?_⟩
  · rw [(hwords hreadable 6000 .youtube (by decide)).2.1, hremaining, hyoutube]
    decide
  · rw [(hwords hreadable 6000 .soundcloud (by decide)).2.1, hremaining, hsoundcloud]
    decide

end Jukebox.Cooldown
