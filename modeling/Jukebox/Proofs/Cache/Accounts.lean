import Jukebox.Proofs.Cache.Hits

/-!
# The accounts of a map

Entries may have lifetimes of their own, and then those that have expired are not the oldest ones. An entry leaves
the map when there are too many, when it is read after it has expired, or when the map is swept; whatever removes
it, the counters account for it. The entry stored last is never the one that has to go.

## Main definitions

- `Recent.Operation`, `Recent.Answer` — operations of a map, with any lifetimes, and what they tell
- `Recent.Handles.follow`, `Recent.Handles.answers` — operations through handles, and what they tell
- `Recent.Tidy` — the map keeps to its capacity and has one entry of each key at most
- `Recent.entered`, `Recent.lookups` — how many entries and look-ups the counters account for

## Main results

- `Recent.Tidy.operate` — every operation keeps a map tidy
- `Recent.entered_operate`, `Recent.lookups_operate` — what an operation adds to the accounts
- `Recent.find?_store` — what is found after an entry was stored
- `Recent.follows_carryOut` — a map keeps account of whatever is done with its handles
- `Recent.accounts_balance` — the accounts after any operations through any handles
- `Recent.storedAt_lt_of_evicted` — what has to go is older than what stays
-/

namespace Jukebox

namespace Recent

variable {κ ν : Type}

/-- An operation of a map. An entry has the usual lifetime or one of its own. -/
inductive Operation (κ ν : Type) where
  | insert (key : κ) (value : ν)
  | insertFor (lifetime : Option Nat) (key : κ) (value : ν)
  | get (key : κ)
  | sweep

/-- The entry that an operation stores, if it stores one. -/
def Operation.entering? (usual : Option Nat) (now : Nat) : Operation κ ν → Option (Entry κ ν)
  | insert key value => some ⟨key, value, now, usual⟩
  | insertFor lifetime key value => some ⟨key, value, now, lifetime⟩
  | get _ | sweep => none

/-- What an operation tells. -/
inductive Answer (ν : Type) where
  | replaced (previous : Option ν)
  | found (value : Option ν)
  | swept (count : Nat)

/-- An entry was stored whose key had none before. -/
def Answer.isNew : Answer ν → Bool
  | replaced none => true
  | replaced (some _) | found _ | swept _ => false

def Answer.isLookup : Answer ν → Bool
  | found _ => true
  | replaced _ | swept _ => false

/-- How many entries the map accounts for: those that are in it, and those that it has dropped. -/
def entered (c : Recent κ ν) : Nat := c.size + c.evictions + c.expiredRemovals

/-- How many look-ups the map accounts for. -/
def lookups (c : Recent κ ν) : Nat := c.hits + c.misses

variable [DecidableEq κ]

/-- What an operation tells, and the map after it. -/
def operate (now : Nat) (op : Operation κ ν) (c : Recent κ ν) : Answer ν × Recent κ ν :=
  match op with
  | .insert key value => ((c.insert now key value).map .replaced id)
  | .insertFor lifetime key value => ((c.insertFor lifetime now key value).map .replaced id)
  | .get key => ((c.get now key).map .found id)
  | .sweep => ((c.sweep now).map .swept id)

/-- The map with an entry as the newest one, and as many entries as there are then. -/
def withNewest (e : Entry κ ν) (c : Recent κ ν) : Recent κ ν :=
  { c with entries := without e.key c.entries ++ [e] }

/-- The map keeps to its capacity, and no two of its entries have one key. -/
structure Tidy (c : Recent κ ν) : Prop where
  capacity_pos : 0 < c.capacity
  size_le : c.size ≤ c.capacity
  nodup_keys : (keys c.entries).Nodup

variable {c : Recent κ ν} {e : Entry κ ν} {op : Operation κ ν} {now : Nat} {key : κ}

/-- An operation that stores an entry tells the value before, and drops the oldest entries if there are then too
many. -/
theorem operate_of_entering? (h : op.entering? c.lifetime now = some e) :
    c.operate now op = (.replaced ((c.find? e.key).map Entry.value), (c.withNewest e).shrink) := by
  cases op with
  | insert key value =>
    obtain rfl := Option.some.inj h
    rfl
  | insertFor lifetime key value =>
    obtain rfl := Option.some.inj h
    rfl
  | get key => cases h
  | sweep => cases h

omit [DecidableEq κ] in
theorem storedAt_of_entering? {usual : Option Nat} (h : op.entering? usual now = some e) : e.storedAt = now := by
  cases op with
  | insert | insertFor =>
    obtain rfl := Option.some.inj h
    rfl
  | get | sweep => cases h

-- ════════════════════════════════════════════════════════════════════════
-- One key
-- ════════════════════════════════════════════════════════════════════════

omit [DecidableEq κ] in
theorem mem_keys_iff {entries : List (Entry κ ν)} : key ∈ keys entries ↔ ∃ e ∈ entries, e.key = key :=
  List.mem_map

theorem isSome_find?_iff : (c.find? key).isSome = true ↔ key ∈ keys c.entries := by
  unfold find?
  rw [List.find?_isSome, mem_keys_iff]
  simp only [decide_eq_true_iff]

theorem key_of_find? (h : c.find? key = some e) : e ∈ c.entries ∧ e.key = key := by
  unfold find? at h
  exact ⟨List.mem_of_find?_eq_some h, by simpa using List.find?_some h⟩

/-- Without its key, there is one entry less. -/
theorem length_without {entries : List (Entry κ ν)} (hnodup : (keys entries).Nodup) (key : κ) :
    (without key entries).length + (if key ∈ keys entries then 1 else 0) = entries.length := by
  have hsplit := List.length_eq_countP_add_countP (fun e : Entry κ ν => e.key = key) (l := entries)
  have hcount : entries.countP (fun e => e.key = key) = (keys entries).count key := by
    rw [keys, List.count, List.countP_map]
    apply List.countP_congr
    intro e _
    simp
  have hone : (keys entries).count key = if key ∈ keys entries then 1 else 0 := hnodup.count
  rw [hsplit, hcount, hone, without, ← List.countP_eq_length_filter]
  simp only [decide_eq_true_eq, ne_eq]
  omega

theorem nodup_keys_withNewest (hnodup : (keys c.entries).Nodup) (e : Entry κ ν) :
    (keys (c.withNewest e).entries).Nodup := by
  have hrest : (keys (without e.key c.entries)).Nodup := hnodup.sublist (List.filter_sublist.map Entry.key)
  change (keys (without e.key c.entries ++ [e])).Nodup
  rw [keys, List.map_append, List.nodup_append]
  refine ⟨hrest, List.nodup_singleton _, ?_⟩
  intro key hkey key' hkey' heq
  obtain ⟨x, hx, rfl⟩ := List.mem_map.1 hkey
  rw [List.map_singleton, List.mem_singleton] at hkey'
  exact (mem_without_iff.1 hx).2 (heq.trans hkey')

theorem size_withNewest (hnodup : (keys c.entries).Nodup) (e : Entry κ ν) :
    (c.withNewest e).size = if (c.find? e.key).isSome then c.size else c.size + 1 := by
  have hlength := length_without hnodup e.key
  have hsize : (c.withNewest e).size = (without e.key c.entries).length + 1 := List.length_append
  rw [hsize, size]
  by_cases hkey : e.key ∈ keys c.entries
  · rw [if_pos hkey] at hlength
    rw [if_pos (isSome_find?_iff.2 hkey)]
    omega
  · rw [if_neg hkey] at hlength
    rw [if_neg (fun hsome => hkey (isSome_find?_iff.1 hsome))]
    omega

-- ════════════════════════════════════════════════════════════════════════
-- Too many entries
-- ════════════════════════════════════════════════════════════════════════

omit [DecidableEq κ] in
theorem size_shrink_le (c : Recent κ ν) : c.shrink.size ≤ c.capacity := by
  change (c.entries.drop (c.size - c.capacity)).length ≤ c.capacity
  rw [List.length_drop, ← size]
  omega

omit [DecidableEq κ] in
/-- Every entry that has to go is counted. -/
theorem entered_shrink (c : Recent κ ν) : c.shrink.entered = c.entered := by
  change (c.entries.drop (c.size - c.capacity)).length + (c.evictions + (c.size - c.capacity)) +
    c.expiredRemovals = c.size + c.evictions + c.expiredRemovals
  rw [List.length_drop, ← size]
  omega

omit [DecidableEq κ] in
theorem shrink_of_size_le (h : c.size ≤ c.capacity) : c.shrink = c := by
  unfold shrink
  simp only [Nat.sub_eq_zero_of_le h, List.drop_zero, Nat.add_zero]

/-- There is always room for the newest entry. -/
theorem entries_shrink_withNewest (hcapacity : 0 < c.capacity) (e : Entry κ ν) :
    ∃ older, older.Sublist (without e.key c.entries) ∧ (c.withNewest e).shrink.entries = older ++ [e] := by
  let surplus := (c.withNewest e).size - c.capacity
  have hsize : (c.withNewest e).size = (without e.key c.entries).length + 1 := List.length_append
  refine ⟨(without e.key c.entries).drop surplus, List.drop_sublist _ _, ?_⟩
  change (without e.key c.entries ++ [e]).drop surplus = _
  rw [List.drop_append_of_le_length]
  omega

-- ════════════════════════════════════════════════════════════════════════
-- What is found
-- ════════════════════════════════════════════════════════════════════════

/-- The entry that was stored is found, as long as it has not expired. -/
theorem find?_store (hcapacity : 0 < c.capacity) (e : Entry κ ν) :
    (c.withNewest e).shrink.find? e.key = some e := by
  obtain ⟨older, holder, hentries⟩ := entries_shrink_withNewest hcapacity e
  have hnone : (older.find? fun x => x.key = e.key) = none := by
    rw [List.find?_eq_none]
    intro x hx
    simpa using (mem_without_iff.1 (holder.subset hx)).2
  rw [find?, hentries, List.find?_append, hnone, Option.none_or, List.find?_singleton]
  simp

theorem find?_without {other : κ} (hne : other ≠ key) (entries : List (Entry κ ν)) :
    (without key entries).find? (fun x => x.key = other) = entries.find? fun x => x.key = other := by
  have hsame : (fun x : Entry κ ν => decide (decide (x.key ≠ key) = true ∧ decide (x.key = other) = true)) =
      fun x => decide (x.key = other) := by
    funext x
    by_cases hx : x.key = other
    · simp [hx, hne]
    · simp [hx]
  rw [without, List.find?_filter, hsame]

/-- If an entry takes the place of another, nothing has to go. -/
theorem store_of_present (h : c.Tidy) (hpresent : (c.find? e.key).isSome = true) :
    (c.withNewest e).shrink.evictions = c.evictions ∧
      ∀ other, other ≠ e.key → (c.withNewest e).shrink.find? other = c.find? other := by
  have hfits : (c.withNewest e).size ≤ (c.withNewest e).capacity := by
    rw [size_withNewest h.nodup_keys, if_pos hpresent]
    exact h.size_le
  rw [shrink_of_size_le hfits]
  refine ⟨rfl, ?_⟩
  intro other hne
  change (without e.key c.entries ++ [e]).find? (fun x => x.key = other) = _
  rw [List.find?_append, find?_without hne c.entries, List.find?_singleton,
    if_neg (by simpa using fun heq => hne heq.symm), Option.or_none]
  rfl

theorem get_of_find? (h : c.find? e.key = some e) (later : Nat) :
    (c.get later e.key).1 = some e.value ↔ e.isAlive later = true := by
  unfold get Entry.isAlive
  rw [h]
  by_cases hexpired : e.isExpired later = true
  · simp [hexpired]
  · simp [hexpired]

-- ════════════════════════════════════════════════════════════════════════
-- One operation
-- ════════════════════════════════════════════════════════════════════════

/-- A look-up that meets an expired entry drops it, and else leaves the entries alone. -/
theorem get_cases (now : Nat) (key : κ) (c : Recent κ ν) :
    (∃ e, c.find? key = some e ∧ (c.get now key).2 = { c with
        entries := without key c.entries
        misses := c.misses + 1
        expiredRemovals := c.expiredRemovals + 1 }) ∨
      (c.get now key).2 = { c with misses := c.misses + 1 } ∨ (c.get now key).2 = { c with hits := c.hits + 1 } := by
  unfold get
  cases hfound : c.find? key with
  | none =>
    right; left
    rfl
  | some e =>
    by_cases hexpired : e.isExpired now = true
    · left
      exact ⟨e, rfl, by simp only [hexpired, if_true]⟩
    · right; right
      simp only [hexpired, Bool.false_eq_true, if_false]

/-- Every operation keeps a map tidy. -/
theorem Tidy.operate (h : c.Tidy) (now : Nat) (op : Operation κ ν) : (c.operate now op).2.Tidy := by
  have hpart : ∀ {entries : List (Entry κ ν)}, entries.Sublist c.entries →
      entries.length ≤ c.capacity ∧ (keys entries).Nodup := by
    intro entries hsub
    exact ⟨Nat.le_trans hsub.length_le h.size_le, h.nodup_keys.sublist (hsub.map Entry.key)⟩
  cases hentry : op.entering? c.lifetime now with
  | some e =>
    rw [operate_of_entering? hentry]
    refine ⟨h.capacity_pos, size_shrink_le (c.withNewest e), ?_⟩
    exact (nodup_keys_withNewest h.nodup_keys e).sublist ((List.drop_sublist _ _).map Entry.key)
  | none =>
    cases op with
    | insert | insertFor => cases hentry
    | get key =>
      rcases get_cases now key c with ⟨e, -, hget⟩ | hget | hget
      · change (c.get now key).2.Tidy
        rw [hget]
        obtain ⟨hsize, hnodup⟩ := hpart (List.filter_sublist (p := fun x => x.key ≠ key))
        exact ⟨h.capacity_pos, hsize, hnodup⟩
      · change (c.get now key).2.Tidy
        rw [hget]
        exact ⟨h.capacity_pos, h.size_le, h.nodup_keys⟩
      · change (c.get now key).2.Tidy
        rw [hget]
        exact ⟨h.capacity_pos, h.size_le, h.nodup_keys⟩
    | sweep =>
      obtain ⟨hsize, hnodup⟩ := hpart (List.filter_sublist (p := fun x => !x.isExpired now))
      exact ⟨h.capacity_pos, hsize, hnodup⟩

/-- An operation adds an entry to the account exactly if it stores one whose key had none. -/
theorem entered_operate (h : c.Tidy) (now : Nat) (op : Operation κ ν) :
    (c.operate now op).2.entered = c.entered + if (c.operate now op).1.isNew then 1 else 0 := by
  cases hentry : op.entering? c.lifetime now with
  | some e =>
    rw [operate_of_entering? hentry]
    simp only
    rw [entered_shrink]
    change (c.withNewest e).size + c.evictions + c.expiredRemovals = c.size + c.evictions + c.expiredRemovals + _
    rw [size_withNewest h.nodup_keys]
    cases hfound : c.find? e.key with
    | none =>
      simp only [Option.isSome_none, Bool.false_eq_true, if_false, Option.map_none, Answer.isNew, if_true]
      omega
    | some old => simp [Answer.isNew]
  | none =>
    cases op with
    | insert | insertFor => cases hentry
    | get key =>
      change (c.get now key).2.entered = c.entered + 0
      rcases get_cases now key c with ⟨e, hfound, hget⟩ | hget | hget
      · obtain ⟨he, hkey⟩ := key_of_find? hfound
        have hlength := length_without h.nodup_keys key
        rw [if_pos (mem_keys_iff.2 ⟨e, he, hkey⟩)] at hlength
        rw [hget]
        simp only [entered, size]
        omega
      · rw [hget]
        rfl
      · rw [hget]
        rfl
    | sweep =>
      have hle : (c.entries.filter fun x => !x.isExpired now).length ≤ c.entries.length := List.length_filter_le _ _
      simp only [Recent.operate, sweep, Prod.map, id, entered, size, Answer.isNew, Bool.false_eq_true, if_false]
      omega

/-- An operation adds a look-up to the account exactly if it is one. -/
theorem lookups_operate (now : Nat) (op : Operation κ ν) (c : Recent κ ν) :
    (c.operate now op).2.lookups = c.lookups + if (c.operate now op).1.isLookup then 1 else 0 := by
  cases op with
  | insert | insertFor | sweep => rfl
  | get key =>
    change (c.get now key).2.lookups = c.lookups + 1
    rcases get_cases now key c with ⟨e, -, hget⟩ | hget | hget
    · rw [hget]
      simp only [lookups]
      omega
    · rw [hget]
      simp only [lookups]
      omega
    · rw [hget]
      simp only [lookups]
      omega

theorem operate_capacity (now : Nat) (op : Operation κ ν) (c : Recent κ ν) :
    (c.operate now op).2.capacity = c.capacity := by
  cases op with
  | insert | insertFor | sweep => rfl
  | get key =>
    change (c.get now key).2.capacity = c.capacity
    rcases get_cases now key c with ⟨e, -, hget⟩ | hget | hget <;> rw [hget]

theorem operate_lifetime (now : Nat) (op : Operation κ ν) (c : Recent κ ν) :
    (c.operate now op).2.lifetime = c.lifetime := by
  cases op with
  | insert | insertFor | sweep => rfl
  | get key =>
    change (c.get now key).2.lifetime = c.lifetime
    rcases get_cases now key c with ⟨e, -, hget⟩ | hget | hget <;> rw [hget]

-- ════════════════════════════════════════════════════════════════════════
-- Handles
-- ════════════════════════════════════════════════════════════════════════

/-- Something done with handles: one of them becomes a clone of another, or a map is operated through one. -/
inductive Deed (κ ν : Type) where
  | clone (original copy : Nat)
  | through (handle : Nat) (now : Nat) (op : Operation κ ν)

/-- The handles after a deed. -/
def Handles.follow (handles : Handles κ ν) : Deed κ ν → Handles κ ν
  | .clone original copy => handles.clone original copy
  | .through handle now op => handles.share (fun c => (c.operate now op).2) handle

/-- What a deed tells, if it is an operation. -/
def Handles.answer? (handles : Handles κ ν) : Deed κ ν → Option (Answer ν)
  | .clone _ _ => none
  | .through handle now op => some ((handles handle).operate now op).1

/-- The handles after a sequence of deeds. -/
def Handles.followAll (handles : Handles κ ν) (deeds : List (Deed κ ν)) : Handles κ ν :=
  deeds.foldl Handles.follow handles

/-- What a sequence of deeds tells. -/
def Handles.answers (handles : Handles κ ν) : List (Deed κ ν) → List (Answer ν)
  | [] => []
  | deed :: deeds => (handles.answer? deed).toList ++ (handles.follow deed).answers deeds

/-- `c'` is what has become of the map `c` while it told some answers, and it has kept account of them. -/
structure Follows (c c' : Recent κ ν) (answers : List (Answer ν)) : Prop where
  tidy : c'.Tidy
  capacity_eq : c'.capacity = c.capacity
  entered_eq : c'.entered = c.entered + answers.countP Answer.isNew
  lookups_eq : c'.lookups = c.lookups + answers.countP Answer.isLookup

omit [DecidableEq κ] in
theorem Follows.refl (h : c.Tidy) : c.Follows c [] := ⟨h, rfl, rfl, rfl⟩

omit [DecidableEq κ] in
theorem Follows.trans {c' c'' : Recent κ ν} {answers answers' : List (Answer ν)}
    (h : c.Follows c' answers) (h' : c'.Follows c'' answers') : c.Follows c'' (answers ++ answers') := by
  refine ⟨h'.tidy, h'.capacity_eq.trans h.capacity_eq, ?_, ?_⟩
  · rw [h'.entered_eq, h.entered_eq, List.countP_append]
    omega
  · rw [h'.lookups_eq, h.lookups_eq, List.countP_append]
    omega

/-- What a deed does to the map that all handles show. -/
def Deed.effect (c : Recent κ ν) : Deed κ ν → Recent κ ν
  | .clone _ _ => c
  | .through _ now op => (c.operate now op).2

/-- What a sequence of deeds does to the map that all handles show. -/
def carryOut (c : Recent κ ν) (deeds : List (Deed κ ν)) : Recent κ ν :=
  deeds.foldl Deed.effect c

/-- All handles go on to show one and the same map. -/
theorem follow_same (c : Recent κ ν) (deed : Deed κ ν) :
    Handles.follow (fun _ => c) deed = fun _ => deed.effect c := by
  cases deed with
  | clone original copy => exact Handles.clone_same original copy c
  | through handle now op =>
    exact Handles.share_same (fun c => (c.operate now op).2) (operate_capacity now op c)
      (operate_lifetime now op c) handle

theorem followAll_same (c : Recent κ ν) (deeds : List (Deed κ ν)) :
    Handles.followAll (fun _ => c) deeds = fun _ => c.carryOut deeds := by
  induction deeds generalizing c with
  | nil => rfl
  | cons deed deeds ih =>
    rw [Handles.followAll, List.foldl_cons, follow_same]
    exact ih (deed.effect c)

theorem follows_effect (h : c.Tidy) (deed : Deed κ ν) :
    c.Follows (deed.effect c) (Handles.answer? (fun _ => c) deed).toList := by
  cases deed with
  | clone original copy => exact .refl h
  | through handle now op =>
    refine ⟨h.operate now op, operate_capacity now op c, ?_, ?_⟩
    · rw [Deed.effect, entered_operate h]
      simp only [Handles.answer?, Option.toList_some, List.countP_singleton]
    · rw [Deed.effect, lookups_operate]
      simp only [Handles.answer?, Option.toList_some, List.countP_singleton]

/-- Whatever is done with the handles of a tidy map, the map keeps account of it. -/
theorem follows_carryOut (h : c.Tidy) (deeds : List (Deed κ ν)) :
    c.Follows (c.carryOut deeds) (Handles.answers (fun _ => c) deeds) := by
  induction deeds generalizing c with
  | nil => exact .refl h
  | cons deed deeds ih =>
    have hfirst := follows_effect h deed
    rw [Handles.answers, follow_same]
    exact hfirst.trans (ih hfirst.tidy)

omit [DecidableEq κ] in
theorem tidy_empty (capacity : Nat) (lifetime : Option Nat) : (empty capacity lifetime : Recent κ ν).Tidy :=
  ⟨Nat.lt_of_lt_of_le Nat.one_pos (Nat.le_max_right capacity 1), Nat.zero_le _, List.nodup_nil⟩

/-- Whatever was done with the handles of a map, with lifetimes of any length and at whatever moments: each handle
shows no more entries than there is room for, and at least one has room. The entries that were stored under a key
that had none are those that are in the map, were evicted, or were removed because they had expired; and each
look-up was a hit or a miss. An entry that is stored next through any of the handles is found afterwards until it
has outlived its lifetime, and if it takes the place of another, nothing is evicted and all other entries stay. -/
theorem accounts_balance (capacity : Nat) (lifetime : Option Nat) (deeds : List (Deed κ ν)) (i : Nat) :
    let handles := Handles.followAll (fun _ => empty capacity lifetime) deeds
    let answers := Handles.answers (fun _ => empty capacity lifetime) deeds
    let c := handles i
    c.size ≤ max 1 capacity ∧
    answers.countP Answer.isNew = c.size + c.evictions + c.expiredRemovals ∧
    answers.countP Answer.isLookup = c.hits + c.misses ∧
    ∀ handle now op e, op.entering? (handles handle).lifetime now = some e →
      let c' := handles.follow (.through handle now op) i
      handles.answer? (.through handle now op) = some (.replaced ((c.find? e.key).map Entry.value)) ∧
      c'.find? e.key = some e ∧
      (∀ later, (c'.get later e.key).1 = some e.value ↔ ∀ d, e.lifetime = some d → later - now ≤ d) ∧
      ((c.find? e.key).isSome = true →
        c'.evictions = c.evictions ∧ ∀ other, other ≠ e.key → c'.find? other = c.find? other) := by
  intro handles answers c
  let shown : Recent κ ν := (empty capacity lifetime).carryOut deeds
  have hhandles : handles = fun _ => shown := followAll_same _ deeds
  have hfollows : Follows _ shown answers := follows_carryOut (tidy_empty capacity lifetime) deeds
  have hc : c = shown := congrFun hhandles i
  have hentered : shown.entered = 0 + answers.countP Answer.isNew := hfollows.entered_eq
  have hlookups : shown.lookups = 0 + answers.countP Answer.isLookup := hfollows.lookups_eq
  rw [hc, ← Nat.zero_add (answers.countP Answer.isNew), ← Nat.zero_add (answers.countP Answer.isLookup)]
  refine ⟨?_, hentered.symm, hlookups.symm, ?_⟩
  · have hcapacity : shown.capacity = max 1 capacity := hfollows.capacity_eq.trans (Nat.max_comm capacity 1)
    rw [← hcapacity]
    exact hfollows.tidy.size_le
  · intro handle now op e hentry
    rw [hhandles] at hentry ⊢
    have hoperate := operate_of_entering? hentry
    have hstored : Handles.follow (fun _ => shown) (.through handle now op) i = (shown.withNewest e).shrink := by
      rw [follow_same, Deed.effect, hoperate]
    rw [hstored]
    refine ⟨?_, find?_store hfollows.tidy.capacity_pos e, ?_, ?_⟩
    · rw [Handles.answer?, hoperate]
    · intro later
      rw [get_of_find? (find?_store hfollows.tidy.capacity_pos e), Entry.isAlive_iff, storedAt_of_entering? hentry]
    · intro hpresent
      exact store_of_present hfollows.tidy hpresent

-- ════════════════════════════════════════════════════════════════════════
-- The oldest entries
-- ════════════════════════════════════════════════════════════════════════

/-- The entries are listed in the order of the moments at which they were stored, all of which are past. -/
structure Chronological (now : Nat) (entries : List (Entry κ ν)) : Prop where
  sorted : entries.Pairwise fun older newer => older.storedAt < newer.storedAt
  past : ∀ e ∈ entries, e.storedAt < now

/-- The moment of a deed, if it is an operation. -/
def Deed.now? : Deed κ ν → Option Nat
  | .clone _ _ => none
  | .through _ now _ => some now

/-- An operation keeps the order of the entries, and only appends to them. -/
theorem entries_operate_sublist (now : Nat) (op : Operation κ ν) (c : Recent κ ν) :
    (c.operate now op).2.entries.Sublist (c.entries ++ (op.entering? c.lifetime now).toList) := by
  cases hentry : op.entering? c.lifetime now with
  | some e =>
    rw [operate_of_entering? hentry]
    exact (List.drop_sublist _ _).trans (List.filter_sublist.append_right [e])
  | none =>
    rw [Option.toList_none, List.append_nil]
    cases op with
    | insert | insertFor => cases hentry
    | get key =>
      change (c.get now key).2.entries.Sublist c.entries
      rcases get_cases now key c with ⟨e, -, hget⟩ | hget | hget
      · rw [hget]
        exact List.filter_sublist
      · rw [hget]
      · rw [hget]
    | sweep => exact List.filter_sublist

theorem Chronological.operate (h : Chronological now c.entries) {later : Nat} (hlt : now < later)
    (op : Operation κ ν) : Chronological later (c.operate now op).2.entries := by
  have hsub := entries_operate_sublist now op c
  have hnew : ∀ x ∈ (op.entering? c.lifetime now).toList, x.storedAt = now := by
    intro x hx
    exact storedAt_of_entering? (Option.mem_toList.1 hx)
  refine ⟨List.Pairwise.sublist hsub (List.pairwise_append.2 ⟨h.sorted, ?_, ?_⟩), ?_⟩
  · cases op.entering? c.lifetime now <;> simp
  · intro older holder newer hnewer
    rw [hnew newer hnewer]
    exact h.past older holder
  · intro e he
    rcases List.mem_append.1 (hsub.subset he) with hmem | hmem
    · exact Nat.lt_trans (h.past e hmem) hlt
    · rw [hnew e hmem]
      exact hlt

theorem Chronological.carryOut {deeds : List (Deed κ ν)}
    (hclock : (deeds.filterMap Deed.now? ++ [now]).Pairwise (· < ·))
    (h : ∀ time ∈ deeds.filterMap Deed.now? ++ [now], Chronological time c.entries) :
    Chronological now (c.carryOut deeds).entries := by
  induction deeds generalizing c with
  | nil => exact h now List.mem_cons_self
  | cons deed deeds ih =>
    cases deed with
    | clone original copy => exact ih hclock h
    | through handle time op =>
      apply ih (List.Pairwise.of_cons hclock)
      intro later hlater
      exact (h time List.mem_cons_self).operate (List.rel_of_pairwise_cons hclock hlater) op

/-- If no two operations come at one moment, an entry that has to go when another one is stored is older than all
that stay. -/
theorem storedAt_lt_of_evicted (capacity : Nat) (lifetime : Option Nat) {deeds : List (Deed κ ν)}
    (hclock : (deeds.filterMap Deed.now? ++ [now]).Pairwise (· < ·)) (op : Operation κ ν) :
    let c := (empty capacity lifetime).carryOut deeds
    let c' := (c.operate now op).2
    ∀ e, op.entering? c.lifetime now = some e → ∀ gone ∈ c.entries, gone.key ≠ e.key → gone ∉ c'.entries →
      ∀ kept ∈ c'.entries, gone.storedAt < kept.storedAt := by
  intro c c' e hentry gone hgone hkey hdropped kept hkept
  have hempty : ∀ time, Chronological time (empty capacity lifetime : Recent κ ν).entries := by
    intro time
    exact ⟨List.Pairwise.nil, by simp [empty]⟩
  have hchron : Chronological now c.entries := Chronological.carryOut hclock fun time _ => hempty time
  -- what stays is the end of the old entries and the new one
  let surplus := (c.withNewest e).size - c.capacity
  have hentries : c'.entries = (without e.key c.entries ++ [e]).drop surplus := by
    change (c.operate now op).2.entries = _
    rw [operate_of_entering? hentry]
    rfl
  have hsorted : (without e.key c.entries ++ [e]).Pairwise fun older newer => older.storedAt < newer.storedAt := by
    refine List.pairwise_append.2 ⟨hchron.sorted.sublist List.filter_sublist, List.pairwise_singleton _ _, ?_⟩
    intro older holder newer hnewer
    rw [List.mem_singleton.1 hnewer, storedAt_of_entering? hentry]
    exact hchron.past older (mem_without_iff.1 holder).1
  have hmem : gone ∈ without e.key c.entries ++ [e] :=
    List.mem_append_left _ (mem_without_iff.2 ⟨hgone, hkey⟩)
  rw [hentries] at hdropped hkept
  rw [← List.take_append_drop surplus (without e.key c.entries ++ [e])] at hsorted hmem
  have hfront := (List.mem_append.1 hmem).resolve_right hdropped
  exact (List.pairwise_append.1 hsorted).2.2 gone hfront kept hkept

end Recent

end Jukebox
