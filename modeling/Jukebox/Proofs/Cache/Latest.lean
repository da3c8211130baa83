import Jukebox.Cache.Recent
import Mathlib.Data.Finset.Card

/-!
# The latest entries of a history

A history lists all entries that were ever stored, the newest first. Of each key only the newest entry
matters: those are the latest entries. How far down an entry stands among them is how many other keys have
been stored since.

## Main definitions

- `Recent.latest` — the newest entry of each key in a history
- `Recent.keys` — the keys of some entries

## Main results

- `Recent.mem_take_latest_iff` — an entry is among the `n` latest exactly if its key has not been stored
  since, and fewer than `n` other keys have
- `Recent.filter_append_filter` — entries of one lifetime expire from the oldest on
-/

namespace Jukebox

namespace Recent

variable {κ ν : Type} {history : List (Entry κ ν)} {e : Entry κ ν} {now : Nat}

def keys (entries : List (Entry κ ν)) : List κ := entries.map Entry.key

-- ════════════════════════════════════════════════════════════════════════
-- Expiry
-- ════════════════════════════════════════════════════════════════════════

def Entry.isAlive (now : Nat) (e : Entry κ ν) : Bool := !e.isExpired now

theorem Entry.isAlive_iff :
    e.isAlive now = true ↔ ∀ lifetime, e.lifetime = some lifetime → now - e.storedAt ≤ lifetime := by
  unfold isAlive isExpired
  cases e.lifetime with
  | none => simp
  | some lifetime => simp

theorem Entry.isAlive_of_le {earlier : Nat} (hle : earlier ≤ now) (h : e.isAlive now = true) :
    e.isAlive earlier = true := by
  rw [isAlive_iff] at h ⊢
  intro lifetime hlifetime
  have hage := h lifetime hlifetime
  omega

theorem Entry.isAlive_of_newer {newer : Entry κ ν} (hlifetime : newer.lifetime = e.lifetime)
    (hle : e.storedAt ≤ newer.storedAt) (h : e.isAlive now = true) : newer.isAlive now = true := by
  rw [isAlive_iff] at h ⊢
  intro lifetime heq
  have hage := h lifetime (hlifetime.symm.trans heq)
  omega

/-- A history of entries with one lifetime, the newest first. -/
structure Ordered (lifetime : Option Nat) (history : List (Entry κ ν)) : Prop where
  sorted : history.Pairwise fun newer older => older.storedAt ≤ newer.storedAt
  uniform : ∀ e ∈ history, e.lifetime = lifetime

theorem Ordered.sublist {lifetime : Option Nat} {part : List (Entry κ ν)}
    (h : Ordered lifetime history) (hsub : part.Sublist history) : Ordered lifetime part :=
  ⟨h.sorted.sublist hsub, fun e he => h.uniform e (hsub.subset he)⟩

/-- Entries of one lifetime expire from the oldest on. -/
theorem filter_append_filter {lifetime : Option Nat} (h : Ordered lifetime history) (now : Nat) :
    history.filter (·.isAlive now) ++ history.filter (·.isExpired now) = history := by
  induction history with
  | nil => rfl
  | cons e history ih =>
    have htail : Ordered lifetime history := h.sublist (List.sublist_cons_self e history)
    by_cases halive : e.isAlive now = true
    · have hexpired : ¬ e.isExpired now = true := by simpa [Entry.isAlive] using halive
      rw [List.filter_cons_of_pos halive, List.filter_cons_of_neg hexpired, List.cons_append, ih htail]
    · -- the entries after an expired one are older and have expired as well
      have hall : ∀ x ∈ e :: history, x.isAlive now ≠ true := by
        intro x hx hlive
        rcases List.mem_cons.1 hx with rfl | hx
        · exact halive hlive
        · refine halive (Entry.isAlive_of_newer ?_ ((List.pairwise_cons.1 h.sorted).1 x hx) hlive)
          rw [h.uniform e List.mem_cons_self, h.uniform x (List.mem_cons_of_mem e hx)]
      rw [List.filter_eq_nil_iff.2 hall, List.nil_append, List.filter_eq_self]
      intro x hx
      simpa [Entry.isAlive] using hall x hx

-- ════════════════════════════════════════════════════════════════════════
-- The newest entry of each key
-- ════════════════════════════════════════════════════════════════════════

variable [DecidableEq κ]

/-- The newest entry of each key in a history. -/
def latest : List (Entry κ ν) → List (Entry κ ν)
  | [] => []
  | e :: history => e :: without e.key (latest history)

theorem mem_without_iff {key : κ} : e ∈ without key history ↔ e ∈ history ∧ e.key ≠ key := by
  rw [without, List.mem_filter, decide_eq_true_iff]

theorem latest_sublist (history : List (Entry κ ν)) : (latest history).Sublist history := by
  induction history with
  | nil => exact .slnil
  | cons e history ih => exact (List.filter_sublist.trans ih).cons_cons e

theorem nodup_keys_latest (history : List (Entry κ ν)) : (keys (latest history)).Nodup := by
  induction history with
  | nil => exact List.nodup_nil
  | cons e history ih =>
    refine List.nodup_cons.2 ⟨?_, ih.sublist (List.filter_sublist.map Entry.key)⟩
    rintro hmem
    obtain ⟨x, hx, hkey⟩ := List.mem_map.1 hmem
    exact (mem_without_iff.1 hx).2 hkey

theorem mem_keys_latest {key : κ} : key ∈ keys (latest history) ↔ key ∈ keys history := by
  induction history with
  | nil => exact Iff.rfl
  | cons e history ih =>
    have hrest : key ∈ keys (without e.key (latest history)) ↔ key ∈ keys history ∧ key ≠ e.key := by
      rw [← ih]
      simp only [keys, List.mem_map, mem_without_iff]
      constructor
      · rintro ⟨x, ⟨hx, hne⟩, rfl⟩
        exact ⟨⟨x, hx, rfl⟩, hne⟩
      · rintro ⟨⟨x, hx, rfl⟩, hne⟩
        exact ⟨x, ⟨hx, hne⟩, rfl⟩
    change key ∈ e.key :: keys (without e.key (latest history)) ↔ key ∈ e.key :: keys history
    rw [List.mem_cons, List.mem_cons, hrest]
    by_cases h : key = e.key <;> simp [h]

theorem length_latest (history : List (Entry κ ν)) :
    (latest history).length = (keys history).toFinset.card := by
  have hset : (keys (latest history)).toFinset = (keys history).toFinset := by
    ext key
    rw [List.mem_toFinset, List.mem_toFinset, mem_keys_latest]
  rw [← hset, List.toFinset_card_of_nodup (nodup_keys_latest history), keys, List.length_map]

/-- The latest entries of a history that goes on are those of its continuation, and then those of the
others whose key was not stored again. -/
theorem latest_append (newer older : List (Entry κ ν)) :
    latest (newer ++ older) = latest newer ++ (latest older).filter fun e => e.key ∉ keys newer := by
  induction newer with
  | nil => simp [latest, keys]
  | cons e newer ih =>
    rw [List.cons_append, latest, ih, latest, without, List.filter_append, List.filter_filter,
      List.cons_append]
    congr 2
    refine List.filter_congr fun x _ => ?_
    simp [keys, eq_comm]

/-- Where an entry stands among the latest whose key was not stored again. -/
theorem latest_append_cons {newer : List (Entry κ ν)} (hkey : e.key ∉ keys newer)
    (older : List (Entry κ ν)) : ∃ rest, latest (newer ++ e :: older) = latest newer ++ e :: rest := by
  rw [latest_append, latest, List.filter_cons_of_pos (by simpa using hkey)]
  exact ⟨_, rfl⟩

/-- An entry is among the `n` latest exactly if its key has not been stored since and fewer than `n` other
keys have. -/
theorem mem_take_latest_iff {n : Nat} : e ∈ (latest history).take n ↔ ∃ newer older,
    history = newer ++ e :: older ∧ e.key ∉ keys newer ∧ (keys newer).toFinset.card < n := by
  constructor
  · intro h
    have hmem : e ∈ latest history := List.mem_of_mem_take h
    -- the newest entry with the key of `e` is `e` itself
    have hfound : (history.find? fun x => x.key = e.key).isSome = true := by
      rw [List.find?_isSome]
      exact ⟨e, (latest_sublist history).subset hmem, decide_eq_true rfl⟩
    obtain ⟨newest, hnewest⟩ := Option.isSome_iff_exists.1 hfound
    obtain ⟨hkey, newer, older, rfl, hnewer⟩ := List.find?_eq_some_iff_append.1 hnewest
    have hkey : newest.key = e.key := of_decide_eq_true hkey
    have hnotMem : newest.key ∉ keys newer := by
      intro hin
      obtain ⟨x, hx, hxkey⟩ := List.mem_map.1 hin
      simpa [hxkey, hkey] using hnewer x hx
    obtain ⟨rest, hrest⟩ := latest_append_cons hnotMem older
    have hmem' : newest ∈ latest (newer ++ newest :: older) := by
      rw [hrest]
      exact List.mem_append_right _ List.mem_cons_self
    obtain rfl := List.inj_on_of_nodup_map (nodup_keys_latest _) hmem hmem' hkey.symm
    refine ⟨newer, older, rfl, hnotMem, ?_⟩
    rw [← length_latest]
    by_contra hle
    rw [hrest, List.take_append_of_le_length (Nat.le_of_not_lt hle)] at h
    exact hnotMem (mem_keys_latest.1 (List.mem_map_of_mem (List.mem_of_mem_take h)))
  · rintro ⟨newer, older, rfl, hkey, hcard⟩
    obtain ⟨rest, hrest⟩ := latest_append_cons hkey older
    obtain ⟨m, rfl⟩ : ∃ m, n = (latest newer).length + (m + 1) := by
      rw [← length_latest] at hcard
      exact ⟨n - (latest newer).length - 1, by omega⟩
    rw [hrest, List.take_length_add_append, List.take_succ_cons]
    exact List.mem_append_right _ List.mem_cons_self

end Recent

end Jukebox
