import Jukebox.Metrics

/-!
# What increasing a counter does

## Main definitions

- `Metrics.addAll` — increases counters one after another
- `Metrics.growth` — by how much a counter grows in the process

## Main results

- `Metrics.get_add` — a counter that is increased grows by that much, and no other changes
- `Metrics.get_addAll` — a counter grows by all that it is increased by
-/

namespace Jukebox

namespace Metrics

/-- Increasing one counter in place keeps the order of the counters. -/
theorem lookup_map_add (c d : Counter) (n : UInt64) (counters : List (Counter × UInt64)) :
    (counters.map fun (d, v) => if d = c then (d, v + n) else (d, v)).lookup d =
      (counters.lookup d).map fun v => if d = c then v + n else v := by
  induction counters with
  | nil => rfl
  | cons entry counters ih =>
    obtain ⟨d', v⟩ := entry
    have hkey : (if d' = c then (d', v + n) else (d', v)) = (d', if d' = c then v + n else v) := by
      split <;> rfl
    rw [List.map_cons]
    simp only [hkey]
    rw [List.lookup_cons, List.lookup_cons, ih]
    by_cases hd : d = d'
    · rw [← hd, BEq.rfl]
      rfl
    · rw [beq_eq_false_iff_ne.2 hd]

/-- A counter that is increased grows by that much, and no other changes. -/
theorem get_add (c d : Counter) (n : UInt64) (m : Metrics) :
    (m.add c n).get d = if d = c then m.get d + n else m.get d := by
  unfold add get
  split
  · next hknown =>
    obtain ⟨entry, hentry, hkey⟩ := List.any_eq_true.1 hknown
    have hsome : (m.counters.lookup c).isSome :=
      List.lookup_isSome_iff.2 ⟨entry, hentry, by simpa using (of_decide_eq_true hkey).symm⟩
    obtain ⟨v, hv⟩ := Option.isSome_iff_exists.1 hsome
    rw [lookup_map_add]
    by_cases hd : d = c
    · subst hd
      simp [hv]
    · simp [hd]
  · next hunknown =>
    have hnone : m.counters.lookup c = none := by
      refine List.lookup_eq_none_iff.2 fun entry hentry => ?_
      refine bne_iff_ne.2 fun hkey => hunknown (List.any_eq_true.2 ⟨entry, hentry, ?_⟩)
      exact decide_eq_true hkey.symm
    rw [List.lookup_append, List.lookup_cons, List.lookup_nil]
    by_cases hd : d = c
    · subst hd
      simp [hnone]
    · rw [beq_eq_false_iff_ne.2 hd, Option.or_none, if_neg hd]

theorem get_increment_self (c : Counter) (m : Metrics) : (m.increment c).get c = m.get c + 1 := by
  rw [increment, get_add, if_pos rfl]

/-- Increases counters one after another. -/
def addAll (increases : List (Counter × UInt64)) (m : Metrics) : Metrics :=
  increases.foldl (fun m (c, n) => m.add c n) m

theorem addAll_append (increases increases' : List (Counter × UInt64)) (m : Metrics) :
    m.addAll (increases ++ increases') = (m.addAll increases).addAll increases' :=
  List.foldl_append

/-- By how much a counter grows when counters are increased one after another. -/
def growth (c : Counter) : List (Counter × UInt64) → UInt64
  | [] => 0
  | (d, n) :: increases => (if c = d then n else 0) + growth c increases

theorem growth_append (c : Counter) (increases increases' : List (Counter × UInt64)) :
    growth c (increases ++ increases') = growth c increases + growth c increases' := by
  induction increases with
  | nil => exact (UInt64.zero_add _).symm
  | cons increase increases ih => rw [List.cons_append, growth, growth, ih, UInt64.add_assoc]

theorem growth_of_notMem {c : Counter} {increases : List (Counter × UInt64)}
    (h : c ∉ increases.map Prod.fst) : growth c increases = 0 := by
  induction increases with
  | nil => rfl
  | cons increase increases ih =>
    rw [List.map_cons, List.mem_cons, not_or] at h
    rw [growth, if_neg h.1, ih h.2, UInt64.zero_add]

/-- A counter grows by all that it is increased by. -/
theorem get_addAll (c : Counter) (increases : List (Counter × UInt64)) (m : Metrics) :
    (m.addAll increases).get c = m.get c + growth c increases := by
  induction increases generalizing m with
  | nil => exact (UInt64.add_zero _).symm
  | cons increase increases ih =>
    obtain ⟨d, n⟩ := increase
    have hrest : ((m.add d n).addAll increases).get c = (m.add d n).get c + growth c increases := ih _
    rw [get_add] at hrest
    rw [growth, ← UInt64.add_assoc]
    refine hrest.trans (congrArg (· + growth c increases) ?_)
    split
    · rfl
    · exact (UInt64.add_zero _).symm

theorem get_addAll_of_notMem {c : Counter} {increases : List (Counter × UInt64)}
    (h : c ∉ increases.map Prod.fst) (m : Metrics) : (m.addAll increases).get c = m.get c := by
  rw [get_addAll, growth_of_notMem h, UInt64.add_zero]

end Metrics

end Jukebox
