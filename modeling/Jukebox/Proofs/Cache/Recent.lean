import Jukebox.Proofs.Cache.Latest

/-!
# What a map of recent entries holds

A map of recent entries drops entries when they are read, when it is swept and when there are too many of
them, and an expired entry that has not been dropped yet takes room. None of this can be seen by a reader:
what is found depends on the history of what was stored alone.

## Main definitions

- `Recent.Reflects` — the map holds, of the latest entries of a history, those that are alive and fit

## Main results

- `Recent.Reflects.insert`, `Recent.Reflects.get`, `Recent.Reflects.sweep`, `Recent.Reflects.later` —
  every operation keeps to the history, and so does time
- `Recent.Reflects.get_eq_some_iff` — what is found, by the history

## Design notes

The entries of one lifetime expire from the oldest on, and the oldest are also the ones that are dropped
when there are too many. So whatever expired entries are still there, they stand behind all that are
alive, and of those none is missing but for want of room.
-/

namespace Jukebox

namespace Recent

variable {κ ν : Type} [DecidableEq κ] {c : Recent κ ν} {history : List (Entry κ ν)} {now : Nat} {key : κ}
  {value : ν}

/-- The map holds those entries that are alive and fit among the latest of the history, and behind them
maybe some that have expired. The history has the newest entry first. -/
structure Reflects (c : Recent κ ν) (now : Nat) (history : List (Entry κ ν)) : Prop where
  capacity_pos : 0 < c.capacity
  ordered : Ordered c.lifetime history
  past : ∀ e ∈ history, e.storedAt ≤ now
  held : ∃ dead, dead.Sublist ((latest history).filter (·.isExpired now)) ∧
    c.entries.reverse = ((latest history).filter (·.isAlive now)).take c.capacity ++ dead

namespace Reflects

theorem ordered_latest (h : c.Reflects now history) : Ordered c.lifetime (latest history) :=
  h.ordered.sublist (latest_sublist history)

theorem empty (capacity : Nat) (lifetime : Option Nat) (now : Nat) :
    (Recent.empty capacity lifetime : Recent κ ν).Reflects now [] where
  capacity_pos := Nat.lt_of_lt_of_le Nat.one_pos (Nat.le_max_right capacity 1)
  ordered := ⟨.nil, fun _ h => nomatch h⟩
  past := fun _ h => nomatch h
  held := ⟨[], List.nil_sublist _, by simp [Recent.empty, latest]⟩

-- ════════════════════════════════════════════════════════════════════════
-- What is found
-- ════════════════════════════════════════════════════════════════════════

theorem entries_sublist (h : c.Reflects now history) : c.entries.reverse.Sublist (latest history) := by
  obtain ⟨dead, hdead, hentries⟩ := h.held
  have hsub := (List.take_sublist c.capacity ((latest history).filter (·.isAlive now))).append hdead
  rwa [filter_append_filter h.ordered_latest now, ← hentries] at hsub

theorem nodup_keys (h : c.Reflects now history) : (keys c.entries).Nodup := by
  have hreverse := (nodup_keys_latest history).sublist (h.entries_sublist.map Entry.key)
  rw [List.map_reverse] at hreverse
  exact List.nodup_reverse.1 hreverse

/-- The entries that are alive in the map are those among the latest of the history that fit. -/
theorem mem_entries_iff (h : c.Reflects now history) {e : Entry κ ν} (halive : e.isAlive now = true) :
    e ∈ c.entries ↔ e ∈ (latest history).take c.capacity := by
  obtain ⟨dead, hdead, hentries⟩ := h.held
  have hnotMem : ∀ part : List (Entry κ ν),
      part.Sublist ((latest history).filter (·.isExpired now)) → e ∉ part := by
    intro part hpart he
    have hexpired := (List.mem_filter.1 (hpart.subset he)).2
    rw [Entry.isAlive, hexpired] at halive
    cases halive
  have hlatest := filter_append_filter h.ordered_latest now
  rw [← List.mem_reverse, hentries, List.mem_append, or_iff_left (hnotMem dead hdead), ← hlatest,
    List.take_append, List.mem_append, or_iff_left (hnotMem _ (List.take_sublist _ _)), hlatest]

theorem find?_eq_some_iff (h : c.Reflects now history) {e : Entry κ ν} :
    c.find? key = some e ↔ e ∈ c.entries ∧ e.key = key := by
  unfold find?
  constructor
  · intro hfound
    exact ⟨List.mem_of_find?_eq_some hfound, by simpa using List.find?_some hfound⟩
  · rintro ⟨he, rfl⟩
    have hsome : (c.entries.find? fun x => x.key = e.key).isSome = true :=
      List.find?_isSome.2 ⟨e, he, decide_eq_true rfl⟩
    obtain ⟨x, hx⟩ := Option.isSome_iff_exists.1 hsome
    have hkey : x.key = e.key := by simpa using List.find?_some hx
    rw [hx, List.inj_on_of_nodup_map h.nodup_keys (List.mem_of_find?_eq_some hx) he hkey]

/-- What is found under a key: the value of an entry that is alive and among the latest that fit. -/
theorem get_eq_some_iff (h : c.Reflects now history) :
    (c.get now key).1 = some value ↔ ∃ e ∈ (latest history).take c.capacity,
      e.key = key ∧ e.value = value ∧ e.isAlive now = true := by
  have hget : (c.get now key).1 = some value ↔
      ∃ e, c.find? key = some e ∧ e.isAlive now = true ∧ e.value = value := by
    unfold Recent.get Entry.isAlive
    cases c.find? key with
    | none => simp
    | some e => cases hexpired : e.isExpired now <;> simp [hexpired]
  rw [hget]
  constructor
  · rintro ⟨e, hfound, halive, rfl⟩
    obtain ⟨he, hkey⟩ := h.find?_eq_some_iff.1 hfound
    exact ⟨e, (h.mem_entries_iff halive).1 he, hkey, rfl, halive⟩
  · rintro ⟨e, he, hkey, hvalue, halive⟩
    exact ⟨e, h.find?_eq_some_iff.2 ⟨(h.mem_entries_iff halive).2 he, hkey⟩, halive, hvalue⟩

-- ════════════════════════════════════════════════════════════════════════
-- Time and operations
-- ════════════════════════════════════════════════════════════════════════

/-- As time passes, some of the entries that were alive join the expired ones behind them. -/
theorem later (h : c.Reflects now history) {time : Nat} (hle : now ≤ time) : c.Reflects time history := by
  refine ⟨h.capacity_pos, h.ordered, fun e he => Nat.le_trans (h.past e he) hle, ?_⟩
  obtain ⟨dead, hdead, hentries⟩ := h.held
  let alive := (latest history).filter (·.isAlive time)
  let gone := (latest history).filter (·.isExpired time)
  have hsplit : alive ++ gone = latest history := filter_append_filter h.ordered_latest time
  have hgone : gone.filter (·.isAlive now) ++ gone.filter (·.isExpired now) = gone :=
    filter_append_filter (h.ordered_latest.sublist List.filter_sublist) now
  have hall : ∀ e ∈ alive, e.isAlive now = true := fun e he =>
    Entry.isAlive_of_le hle (List.mem_filter.1 he).2
  have hbefore : (latest history).filter (·.isAlive now) = alive ++ gone.filter (·.isAlive now) := by
    rw [← hsplit, List.filter_append, List.filter_eq_self.2 hall]
  have hafter : (latest history).filter (·.isExpired now) = gone.filter (·.isExpired now) := by
    have hnone : ∀ e ∈ alive, ¬ e.isExpired now = true := fun e he => by
      simpa [Entry.isAlive] using hall e he
    rw [← hsplit, List.filter_append, List.filter_eq_nil_iff.2 hnone, List.nil_append]
  rw [hafter] at hdead
  rw [hbefore, List.take_append, List.append_assoc] at hentries
  refine ⟨_, ?_, hentries⟩
  have hsub := (List.take_sublist (c.capacity - alive.length) (gone.filter (·.isAlive now))).append hdead
  rwa [hgone] at hsub

/-- Dropping the entry of a key leaves the same as the first entries of what is left. -/
theorem take_without_take {entries : List (Entry κ ν)} (h : (keys entries).Nodup) (n : Nat) :
    (without key (entries.take (n + 1))).take n = (without key entries).take n := by
  induction entries generalizing n with
  | nil => rfl
  | cons e entries ih =>
    obtain ⟨hkey, hnodup⟩ := List.nodup_cons.1 h
    unfold without at ih ⊢
    by_cases he : e.key = key
    · -- no other entry has the key, and nothing more is dropped
      have hrest : ∀ part : List (Entry κ ν), part ⊆ entries →
          part.filter (fun x => x.key ≠ key) = part := by
        intro part hpart
        refine List.filter_eq_self.2 fun x hx => decide_eq_true fun hx' => hkey ?_
        rw [he, ← hx']
        exact List.mem_map_of_mem (hpart hx)
      rw [List.take_succ_cons, List.filter_cons_of_neg (by simpa using he),
        List.filter_cons_of_neg (by simpa using he), hrest _ (List.take_subset n entries),
        hrest _ (List.Subset.refl entries), List.take_take, Nat.min_self]
    · rw [List.take_succ_cons, List.filter_cons_of_pos (by simpa using he),
        List.filter_cons_of_pos (by simpa using he)]
      cases n with
      | zero => rfl
      | succ n => rw [List.take_succ_cons, List.take_succ_cons, ih hnodup n]

theorem reverse_entries_insert (c : Recent κ ν) (now : Nat) (key : κ) (value : ν) :
    (c.insert now key value).2.entries.reverse =
      (⟨key, value, now, c.lifetime⟩ :: without key c.entries.reverse).take c.capacity := by
  let e : Entry κ ν := ⟨key, value, now, c.lifetime⟩
  have hreverse : e :: without key c.entries.reverse = (without key c.entries ++ [e]).reverse := by
    rw [List.reverse_concat, without, without, List.filter_reverse]
  change _ = (e :: without key c.entries.reverse).take c.capacity
  rw [hreverse, List.take_reverse]
  rfl

theorem insert (h : c.Reflects now history) (key : κ) (value : ν) :
    (c.insert now key value).2.Reflects now (⟨key, value, now, c.lifetime⟩ :: history) := by
  let e : Entry κ ν := ⟨key, value, now, c.lifetime⟩
  have halive : e.isAlive now = true := by
    rw [Entry.isAlive_iff]
    intro lifetime _
    rw [Nat.sub_self]
    exact Nat.zero_le _
  refine ⟨h.capacity_pos, ⟨List.pairwise_cons.2 ⟨h.past, h.ordered.sorted⟩, ?_⟩, ?_, ?_⟩
  · exact List.forall_mem_cons.2 ⟨rfl, h.ordered.uniform⟩
  · exact List.forall_mem_cons.2 ⟨Nat.le_refl now, h.past⟩
  · obtain ⟨dead, hdead, hentries⟩ := h.held
    obtain ⟨n, hn⟩ := Nat.exists_eq_succ_of_ne_zero h.capacity_pos.ne'
    let alive := (latest history).filter (·.isAlive now)
    have hkeys : (keys alive).Nodup :=
      (nodup_keys_latest history).sublist (List.filter_sublist.map Entry.key)
    have hlive : (latest (e :: history)).filter (·.isAlive now) = e :: without key alive := by
      rw [latest, List.filter_cons_of_pos halive, without, List.filter_comm]
      rfl
    have hgone : (latest (e :: history)).filter (·.isExpired now) =
        without key ((latest history).filter (·.isExpired now)) := by
      rw [latest, List.filter_cons_of_neg (by simpa [Entry.isAlive] using halive), without,
        List.filter_comm]
      rfl
    rw [hgone, hlive]
    -- the new entry takes the first place, and those that are alive take the places behind it
    refine ⟨_, (List.take_sublist (n - (without key (alive.take (n + 1))).length) _).trans
      (hdead.filter _), ?_⟩
    rw [reverse_entries_insert, hentries]
    change List.take c.capacity _ = List.take c.capacity _ ++ _
    rw [hn, List.take_succ_cons, List.take_succ_cons, List.cons_append, without, List.filter_append,
      List.take_append]
    exact congrArg (fun part => e :: (part ++ _)) (take_without_take hkeys n)

theorem get (h : c.Reflects now history) (key : κ) : (c.get now key).2.Reflects now history := by
  unfold Recent.get
  split
  · exact ⟨h.capacity_pos, h.ordered, h.past, h.held⟩
  · next e hfound =>
    split
    · next hexpired =>
      refine ⟨h.capacity_pos, h.ordered, h.past, ?_⟩
      obtain ⟨dead, hdead, hentries⟩ := h.held
      -- the dropped entry has expired, and so it is none of those that are alive
      have hkept : without key (((latest history).filter (·.isAlive now)).take c.capacity) =
          ((latest history).filter (·.isAlive now)).take c.capacity := by
        refine List.filter_eq_self.2 fun x hx => decide_eq_true fun hkey => ?_
        have hx' : x ∈ c.entries := by
          rw [← List.mem_reverse, hentries]
          exact List.mem_append_left _ hx
        have hfound' := h.find?_eq_some_iff.2 ⟨hx', hkey⟩
        obtain rfl := Option.some.inj (hfound.symm.trans hfound')
        have halive := (List.mem_filter.1 (List.mem_of_mem_take hx)).2
        rw [Entry.isAlive, hexpired] at halive
        cases halive
      refine ⟨without key dead, List.filter_sublist.trans hdead, ?_⟩
      change (without key c.entries).reverse = _
      rw [without, ← List.filter_reverse, hentries, List.filter_append]
      exact congrArg (· ++ _) hkept
    · exact ⟨h.capacity_pos, h.ordered, h.past, h.held⟩

theorem sweep (h : c.Reflects now history) : (c.sweep now).2.Reflects now history := by
  refine ⟨h.capacity_pos, h.ordered, h.past, [], List.nil_sublist _, ?_⟩
  obtain ⟨dead, hdead, hentries⟩ := h.held
  change (c.entries.filter (·.isAlive now)).reverse = _
  have hdead : ∀ e ∈ dead, ¬ e.isAlive now = true := fun e he => by
    simpa [Entry.isAlive] using (List.mem_filter.1 (hdead.subset he)).2
  have halive : ∀ e ∈ ((latest history).filter (·.isAlive now)).take c.capacity,
      e.isAlive now = true := fun e he => (List.mem_filter.1 (List.mem_of_mem_take he)).2
  rw [← List.filter_reverse, hentries, List.filter_append, List.filter_eq_self.2 halive,
    List.filter_eq_nil_iff.2 hdead]
  rfl

end Reflects

end Recent

end Jukebox
