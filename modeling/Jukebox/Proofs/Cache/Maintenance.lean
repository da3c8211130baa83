import Jukebox.Proofs.Cache.Hits
import Jukebox.Proofs.Cache.Record
import Jukebox.Proofs.Cache.Tiers
import Jukebox.Proofs.Directory

/-!
# Maintenance of the cache

Sweeping drops what has expired in memory, and removes the files that are too old or cannot be read. It makes room
in memory and takes away files, so that what is stored later replaces other entries and finds another directory.
Still no look-up can tell: an entry that has expired and a file that holds no fresh record never give an answer, and
what is alive in memory is determined by what was stored.

## Main definitions

- `ResultCache.Call`, `ResultCache.run` — calls of a cache, and the cache after a sequence of them
- `ResultCache.answers` — what the look-ups of a sequence of calls are answered
- `Recent.SameHistory` — two maps that hold what is left of one history
- `Shelf.IsPruned` — a shelf without some files that hold no fresh record
- `ResultCache.IsPruned` — a cache that was swept, beside one that was not

## Main results

- `Shelf.IsPruned.store`, `Shelf.IsPruned.sweep`, `Shelf.IsPruned.later` — storing, sweeping and time keep to it
- `Shelf.IsPruned.fetch_iff` — both shelves know the same
- `ResultCache.IsPruned.run`, `ResultCache.IsPruned.answers_eq` — a cache stays pruned beside one without the sweeps
- `ResultCache.maintenance_is_invisible` — look-ups are answered the same with sweeps as without
-/

namespace Jukebox

-- ════════════════════════════════════════════════════════════════════════
-- Two maps with one history
-- ════════════════════════════════════════════════════════════════════════

namespace Recent

variable {κ ν : Type} [DecidableEq κ] {c d : Recent κ ν} {now : Nat}

/-- Both maps hold what is left of one history, and have the same room for it. -/
structure SameHistory (now : Nat) (c d : Recent κ ν) : Prop where
  capacity : c.capacity = d.capacity
  lifetime : c.lifetime = d.lifetime
  reflects : ∃ history, c.Reflects now history ∧ d.Reflects now history

namespace SameHistory

theorem empty (capacity : Nat) (lifetime : Option Nat) (now : Nat) :
    SameHistory now (.empty capacity lifetime : Recent κ ν) (.empty capacity lifetime) :=
  ⟨rfl, rfl, [], .empty capacity lifetime now, .empty capacity lifetime now⟩

theorem later (h : SameHistory now c d) {time : Nat} (hle : now ≤ time) : SameHistory time c d := by
  obtain ⟨history, hc, hd⟩ := h.reflects
  exact ⟨h.capacity, h.lifetime, history, hc.later hle, hd.later hle⟩

theorem perform (h : SameHistory now c d) (call : Call κ ν) :
    SameHistory now (c.perform now call) (d.perform now call) := by
  obtain ⟨history, hc, hd⟩ := h.reflects
  refine ⟨by simp [h.capacity], by simp [h.lifetime], _, hc.perform call, ?_⟩
  rw [h.lifetime]
  exact hd.perform call

theorem sweep_left (h : SameHistory now c d) : SameHistory now (c.sweep now).2 d := by
  obtain ⟨history, hc, hd⟩ := h.reflects
  exact ⟨h.capacity, h.lifetime, history, hc.sweep, hd⟩

theorem get_eq (h : SameHistory now c d) (key : κ) : (c.get now key).1 = (d.get now key).1 := by
  obtain ⟨history, hc, hd⟩ := h.reflects
  ext value
  rw [hc.get_eq_some_iff, hd.get_eq_some_iff, h.capacity]

end SameHistory

end Recent

-- ════════════════════════════════════════════════════════════════════════
-- Pruned shelves
-- ════════════════════════════════════════════════════════════════════════

namespace Shelf

variable {lifetime : Nat} {now : Timestamp} {d pruned full : Directory} {name fingerprint : String} {p : Playlist}

theorem isKept_of_find?_eq {d' : Directory} (h : d.find? name = d'.find? name) :
    isKept lifetime now d name = isKept lifetime now d' name := by
  rw [isKept, isKept, Directory.readText, Directory.readText, h]

/-- A record that is fresh was fresh before. -/
theorem isKept_of_later {later : Timestamp} (hle : now ≤ later) (h : isKept lifetime later d name = true) :
    isKept lifetime now d name = true := by
  unfold isKept at h ⊢
  split at h
  · next s _ =>
    obtain ⟨r, hr, hfresh⟩ := (Option.any_eq_true _ _).1 h
    refine (Option.any_eq_true _ _).2 ⟨r, hr, ?_⟩
    rw [Record.isFresh, decide_eq_true_iff] at hfresh ⊢
    exact Int.le_trans (Int.sub_le_sub_right hle _) hfresh
  · cases h
  · cases h

/-- There is a file that holds no fresh record. -/
structure IsStale (lifetime : Nat) (now : Timestamp) (d : Directory) (name : String) : Prop where
  isFile : ∃ content, d.find? name = some (.file content)
  not_isKept : isKept lifetime now d name = false

theorem IsStale.of_find?_eq {d' : Directory} (h : IsStale lifetime now d name)
    (heq : d'.find? name = d.find? name) : IsStale lifetime now d' name := by
  refine ⟨?_, ?_⟩
  · rw [heq]
    exact h.isFile
  · rw [isKept_of_find?_eq heq]
    exact h.not_isKept

theorem IsStale.later (h : IsStale lifetime now d name) {later : Timestamp} (hle : now ≤ later) :
    IsStale lifetime later d name := by
  refine ⟨h.isFile, Bool.eq_false_iff.2 fun hkept => ?_⟩
  have hnot := h.not_isKept
  rw [isKept_of_later hle hkept] at hnot
  cases hnot

/-- A file without a fresh record never gives an answer. -/
theorem IsStale.fetchFrom_ne (h : IsStale lifetime now d (Record.fileName fingerprint)) :
    fetchFrom lifetime now fingerprint d ≠ .ok (some p) := by
  have hkept := h.not_isKept
  unfold isKept at hkept
  unfold fetchFrom
  split
  · exact fun heq => nomatch heq
  · exact fun heq => nomatch heq
  · next s hread =>
    rw [hread] at hkept
    cases hparse : Record.parse? s with
    | none => exact fun heq => nomatch heq
    | some r =>
      have hfresh : r.isFresh lifetime now = false := by simpa [hparse] using hkept
      simp [hfresh]

theorem fetchFrom_of_missing (h : d.find? (Record.fileName fingerprint) = none) :
    fetchFrom lifetime now fingerprint d = .ok none := by
  rw [fetchFrom, Directory.readText, h]

/-- The directory is another one without some files that hold no fresh record. -/
def PrunedFrom (lifetime : Nat) (now : Timestamp) (pruned full : Directory) : Prop :=
  ∀ name, pruned.find? name = full.find? name ∨ (pruned.find? name = none ∧ IsStale lifetime now full name)

namespace PrunedFrom

theorem later (h : PrunedFrom lifetime now pruned full) {later : Timestamp} (hle : now ≤ later) :
    PrunedFrom lifetime later pruned full :=
  fun name => (h name).imp id fun ⟨hnone, hstale⟩ => ⟨hnone, hstale.later hle⟩

theorem folder_iff (h : PrunedFrom lifetime now pruned full) (name : String) :
    pruned.find? name = some .folder ↔ full.find? name = some .folder := by
  rcases h name with heq | ⟨hnone, hstale⟩
  · rw [heq]
  · obtain ⟨content, hfile⟩ := hstale.isFile
    rw [hnone, hfile]
    exact iff_of_false (fun heq => nomatch heq) fun heq => nomatch heq

/-- A change that does the same to both under some names, and nothing under the others. -/
theorem of_find? (h : PrunedFrom lifetime now pruned full) {pruned' full' : Directory}
    (hchange : ∀ name, pruned'.find? name = full'.find? name ∨
      (pruned'.find? name = pruned.find? name ∧ full'.find? name = full.find? name)) :
    PrunedFrom lifetime now pruned' full' := by
  intro name
  rcases hchange name with hsame | ⟨hpruned, hfull⟩
  · exact .inl hsame
  · rw [hpruned, hfull]
    exact (h name).imp id fun ⟨hnone, hstale⟩ => ⟨hnone, hstale.of_find?_eq hfull⟩

theorem save (h : PrunedFrom lifetime now pruned full) {temporary : String} (hne : name ≠ temporary)
    (content : Bytes) : PrunedFrom lifetime now (pruned.save name temporary content).2
      (full.save name temporary content).2 := by
  by_cases htemporary : full.find? temporary = some .folder
  · rw [Directory.save_of_temporary_folder htemporary,
      Directory.save_of_temporary_folder ((h.folder_iff temporary).2 htemporary)]
    exact h
  · have htemporary' := (h.folder_iff temporary).not.2 htemporary
    by_cases hname : full.find? name = some .folder
    · rw [Directory.save_of_folder hne htemporary hname,
        Directory.save_of_folder hne htemporary' ((h.folder_iff name).2 hname)]
      refine h.of_find? fun other => ?_
      rw [Directory.find?_put, Directory.find?_put]
      by_cases hother : other = temporary <;> simp [hother]
    · refine h.of_find? fun other => ?_
      rw [Directory.find?_save hne htemporary hname,
        Directory.find?_save hne htemporary' ((h.folder_iff name).not.2 hname)]
      by_cases hother : other = name
      · simp [hother]
      · by_cases hother' : other = temporary <;> simp [hother, hother']

theorem storeIn (h : PrunedFrom lifetime now pruned full) (time : Timestamp) (fingerprint : String) (p : Playlist) :
    PrunedFrom lifetime now (Shelf.storeIn time fingerprint p pruned).2
      (Shelf.storeIn time fingerprint p full).2 := by
  unfold Shelf.storeIn
  split
  · exact h
  · exact h.save (Record.fileName_ne_temporaryName fingerprint fingerprint) _

theorem sweepName (h : PrunedFrom lifetime now pruned full) (removed : Nat) (name : String) :
    PrunedFrom lifetime now (Shelf.sweepName lifetime now (removed, pruned) name).2 full := by
  simp only [Shelf.sweepName]
  split
  · next hremovable =>
    split
    · next left hremoved =>
      obtain ⟨⟨content, hfile⟩, rfl⟩ := Directory.removeFile?_eq_some_iff.1 hremoved
      have hkept : isKept lifetime now pruned name = false := by
        rw [Bool.and_eq_true, Bool.not_eq_true'] at hremovable
        exact hremovable.2
      intro other
      rw [Directory.find?_erase]
      by_cases hother : other = name
      · -- the file was there in both, and what it holds is not fresh
        have hsame : full.find? name = pruned.find? name := by
          rcases h name with heq | ⟨hnone, -⟩
          · exact heq.symm
          · rw [hfile] at hnone
            cases hnone
        rw [if_pos hother, hother]
        exact .inr ⟨rfl, IsStale.of_find?_eq ⟨⟨content, hfile⟩, hkept⟩ hsame⟩
      · rw [if_neg hother]
        exact h other
    · exact h
  · exact h

theorem foldl_sweepName (h : PrunedFrom lifetime now pruned full) (names : List String) (removed : Nat) :
    PrunedFrom lifetime now (names.foldl (Shelf.sweepName lifetime now) (removed, pruned)).2 full := by
  induction names generalizing pruned removed with
  | nil => exact h
  | cons name names ih =>
    rw [List.foldl_cons]
    exact ih (h.sweepName removed name) _

theorem fetchFrom_iff (h : PrunedFrom lifetime now pruned full) :
    fetchFrom lifetime now fingerprint pruned = .ok (some p) ↔
      fetchFrom lifetime now fingerprint full = .ok (some p) := by
  rcases h (Record.fileName fingerprint) with heq | ⟨hnone, hstale⟩
  · rw [fetchFrom, fetchFrom, Directory.readText, Directory.readText, heq]
  · rw [fetchFrom_of_missing hnone]
    exact iff_of_false (fun heq => nomatch heq) hstale.fetchFrom_ne

end PrunedFrom

variable {s t : Shelf}

/-- The shelf is another one without some files that hold no fresh record. -/
structure IsPruned (now : Timestamp) (pruned full : Shelf) : Prop where
  kind : pruned.kind = full.kind
  lifetime : pruned.lifetime = full.lifetime
  directory : Option.Rel (PrunedFrom full.lifetime now) pruned.directory full.directory

namespace IsPruned

theorem refl (now : Timestamp) (s : Shelf) : IsPruned now s s := by
  refine ⟨rfl, rfl, ?_⟩
  cases s.directory with
  | none => exact .none
  | some d => exact .some fun _ => .inl rfl

theorem later (h : IsPruned now s t) {later : Timestamp} (hle : now ≤ later) : IsPruned later s t := by
  obtain ⟨kind, lifetime, pruned?⟩ := s
  obtain ⟨_, _, full?⟩ := t
  obtain ⟨rfl, rfl, hdirectory⟩ := h
  refine ⟨rfl, rfl, ?_⟩
  cases hdirectory with
  | none => exact .none
  | some hd => exact .some (hd.later hle)

theorem store (h : IsPruned now s t) (time : Timestamp) (fingerprint : String) (p : Playlist) :
    IsPruned now (s.store time fingerprint p).2 (t.store time fingerprint p).2 := by
  obtain ⟨kind, lifetime, pruned?⟩ := s
  obtain ⟨_, _, full?⟩ := t
  obtain ⟨rfl, rfl, hdirectory⟩ := h
  cases kind with
  | absent | broken => exact ⟨rfl, rfl, hdirectory⟩
  | files =>
    cases hdirectory with
    | none => exact ⟨rfl, rfl, .none⟩
    | some hd => exact ⟨rfl, rfl, .some (hd.storeIn time fingerprint p)⟩

theorem sweep (h : IsPruned now s t) : IsPruned now (s.sweep now).2 t := by
  obtain ⟨kind, lifetime, pruned?⟩ := s
  obtain ⟨_, _, full?⟩ := t
  obtain ⟨rfl, rfl, hdirectory⟩ := h
  cases kind with
  | absent | broken => exact ⟨rfl, rfl, hdirectory⟩
  | files =>
    cases hdirectory with
    | none => exact ⟨rfl, rfl, .none⟩
    | some hd => exact ⟨rfl, rfl, .some (hd.foldl_sweepName _ 0)⟩

/-- Both shelves know the same. -/
theorem fetch_iff (h : IsPruned now s t) :
    s.fetch now fingerprint = .ok (some p) ↔ t.fetch now fingerprint = .ok (some p) := by
  obtain ⟨kind, lifetime, pruned?⟩ := s
  obtain ⟨_, _, full?⟩ := t
  obtain ⟨rfl, rfl, hdirectory⟩ := h
  cases kind with
  | absent | broken => exact Iff.rfl
  | files =>
    cases hdirectory with
    | none => exact Iff.rfl
    | some hd => exact hd.fetchFrom_iff

end IsPruned

end Shelf

-- ════════════════════════════════════════════════════════════════════════
-- Runs of the cache
-- ════════════════════════════════════════════════════════════════════════

namespace ResultCache

/-- A call of a cache. The last two are maintenance, of memory and of the shelf. -/
inductive Call where
  | store (q : Query) (p : Playlist)
  | lookup (q : Query)
  | sweepMemory
  | sweepShelf

def Call.isMaintenance : Call → Bool
  | store _ _ | lookup _ => false
  | sweepMemory | sweepShelf => true

/-- The cache after a call. -/
def perform (now : Nat) (call : Call) (c : ResultCache) : ResultCache :=
  match call with
  | .store q p => (c.store now q p).2
  | .lookup q => (c.lookup now q).2
  | .sweepMemory => c.sweep now
  | .sweepShelf => { c with shelf := (c.shelf.sweep (timestamp now)).2 }

/-- The cache after calls at their moments. -/
def run (c : ResultCache) (calls : List (Nat × Call)) : ResultCache :=
  calls.foldl (fun c (now, call) => c.perform now call) c

/-- What a call is answered, if it is a look-up. -/
def answer? (now : Nat) (call : Call) (c : ResultCache) : Option (Option (Playlist × Tier)) :=
  match call with
  | .lookup q => some (c.lookup now q).1
  | .store _ _ | .sweepMemory | .sweepShelf => none

/-- What the look-ups of a sequence of calls are answered, in order. -/
def answers : ResultCache → List (Nat × Call) → List (Option (Playlist × Tier))
  | _, [] => []
  | c, (now, call) :: calls => (c.answer? now call).toList ++ answers (c.perform now call) calls

/-- The calls without maintenance. -/
def withoutMaintenance (calls : List (Nat × Call)) : List (Nat × Call) :=
  calls.filter fun (_, call) => !call.isMaintenance

/-- The cache is another one that was not swept: memory holds what is left of the same history, and the shelf lacks
at most files without a fresh record. -/
structure IsPruned (now : Nat) (swept plain : ResultCache) : Prop where
  memory : Recent.SameHistory now swept.memory plain.memory
  shelf : Shelf.IsPruned (timestamp now) swept.shelf plain.shelf
  promotes : swept.promotes = plain.promotes

variable {c d : ResultCache} {now : Nat} {q : Query} {p : Playlist}

theorem timestamp_le {later : Nat} (h : now ≤ later) : timestamp now ≤ timestamp later :=
  Int.ofNat_le.2 (Nat.mul_le_mul_right 1000 h)

theorem fetch?_eq_some_iff {fingerprint : String} :
    c.fetch? now fingerprint = some p ↔ c.shelf.fetch (timestamp now) fingerprint = .ok (some p) := by
  unfold fetch?
  split
  · next found hfetch => rw [hfetch, Except.ok.injEq]
  · next hfetch =>
    rw [hfetch]
    exact iff_of_false (fun heq => nomatch heq) fun heq => nomatch heq

theorem lookup_eq (now : Nat) (q : Query) (c : ResultCache) :
    c.lookup now q =
      let memory := (c.memory.get now q.fingerprint).2
      match (c.memory.get now q.fingerprint).1, c.fetch? now q.fingerprint with
      | some p, _ => (some (p, .memory), { c with memory })
      | none, none => (none, { c with memory })
      | none, some p => (some (p, .durable),
          { c with memory := if c.promotes then (memory.insert now q.fingerprint p).2 else memory }) := by
  rcases lookup_cases now q c with ⟨p, hget, h⟩ | ⟨hget, hfetch, h⟩ | ⟨p, hget, hfetch, h⟩
  · rw [h, hget]
  · rw [h, hget, hfetch]
  · rw [h, hget, hfetch]

namespace IsPruned

theorem later (h : IsPruned now c d) {later : Nat} (hle : now ≤ later) : IsPruned later c d :=
  ⟨h.memory.later hle, h.shelf.later (timestamp_le hle), h.promotes⟩

theorem store (h : IsPruned now c d) (q : Query) (p : Playlist) :
    IsPruned now (c.store now q p).2 (d.store now q p).2 := by
  unfold ResultCache.store
  split
  · exact h
  · exact ⟨h.memory.perform (.insert q.fingerprint p), h.shelf.store _ _ p, h.promotes⟩

/-- A look-up is answered the same, and leaves both caches alike. -/
theorem lookup (h : IsPruned now c d) (q : Query) : (c.lookup now q).1 = (d.lookup now q).1 ∧
    IsPruned now (c.lookup now q).2 (d.lookup now q).2 := by
  have hread := h.memory.perform (.get q.fingerprint)
  have hfetch : c.fetch? now q.fingerprint = d.fetch? now q.fingerprint := by
    ext p
    rw [fetch?_eq_some_iff, fetch?_eq_some_iff]
    exact h.shelf.fetch_iff
  rw [lookup_eq, lookup_eq, h.memory.get_eq q.fingerprint, hfetch, h.promotes]
  cases (d.memory.get now q.fingerprint).1 with
  | some p => exact ⟨rfl, hread, h.shelf, rfl⟩
  | none =>
    cases d.fetch? now q.fingerprint with
    | none => exact ⟨rfl, hread, h.shelf, rfl⟩
    | some p =>
      refine ⟨rfl, ?_, h.shelf, rfl⟩
      cases d.promotes with
      | true => exact hread.perform (.insert q.fingerprint p)
      | false => exact hread

theorem perform (h : IsPruned now c d) {call : Call} (hcall : call.isMaintenance = false) :
    c.answer? now call = d.answer? now call ∧ IsPruned now (c.perform now call) (d.perform now call) := by
  cases call with
  | store q p => exact ⟨rfl, h.store q p⟩
  | lookup q => exact ⟨congrArg some (h.lookup q).1, (h.lookup q).2⟩
  | sweepMemory => cases hcall
  | sweepShelf => cases hcall

/-- Maintenance of one of the caches keeps them alike. -/
theorem maintain (h : IsPruned now c d) {call : Call} (hcall : call.isMaintenance = true) :
    c.answer? now call = none ∧ IsPruned now (c.perform now call) d := by
  cases call with
  | store q p => cases hcall
  | lookup q => cases hcall
  | sweepMemory => exact ⟨rfl, h.memory.sweep_left, h.shelf, h.promotes⟩
  | sweepShelf => exact ⟨rfl, h.memory, h.shelf.sweep, h.promotes⟩

/-- A cache that is swept every now and then answers like one that never is. -/
theorem answers_eq (h : IsPruned now c d) {calls : List (Nat × Call)}
    (hclock : (now :: calls.map Prod.fst).Pairwise (· ≤ ·)) :
    c.answers calls = d.answers (withoutMaintenance calls) := by
  induction calls generalizing now c d with
  | nil => rfl
  | cons first calls ih =>
    obtain ⟨time, call⟩ := first
    have hnow := h.later (List.rel_of_pairwise_cons hclock List.mem_cons_self)
    have hrest := List.Pairwise.of_cons hclock
    cases hcall : call.isMaintenance with
    | false =>
      obtain ⟨hanswer, hnext⟩ := hnow.perform hcall
      rw [withoutMaintenance, List.filter_cons_of_pos (by simp [hcall]), answers, answers, hanswer, ih hnext hrest]
      rfl
    | true =>
      obtain ⟨hanswer, hnext⟩ := hnow.maintain hcall
      rw [withoutMaintenance, List.filter_cons_of_neg (by simp [hcall]), answers, hanswer, ih hnext hrest]
      rfl

/-- A cache that is swept every now and then stays pruned beside one that never is. -/
theorem run {start : Nat} (h : IsPruned start c d) {calls : List (Nat × Call)}
    (hclock : (start :: (calls.map Prod.fst ++ [now])).Pairwise (· ≤ ·)) :
    IsPruned now (c.run calls) (d.run (withoutMaintenance calls)) := by
  induction calls generalizing start c d with
  | nil => exact h.later (List.rel_of_pairwise_cons hclock List.mem_cons_self)
  | cons first calls ih =>
    obtain ⟨time, call⟩ := first
    have hnow := h.later (List.rel_of_pairwise_cons hclock List.mem_cons_self)
    have hrest := List.Pairwise.of_cons hclock
    cases hcall : call.isMaintenance with
    | false =>
      rw [withoutMaintenance, List.filter_cons_of_pos (by simp [hcall])]
      exact ih (hnow.perform hcall).2 hrest
    | true =>
      rw [withoutMaintenance, List.filter_cons_of_neg (by simp [hcall])]
      exact ih (hnow.maintain hcall).2 hrest

end IsPruned

/-- A cache whose memory is still empty. -/
def vacant (capacity : Nat) (lifetime : Option Nat) (shelf : Shelf) (promotes : Bool) : ResultCache :=
  ⟨.empty capacity lifetime, shelf, promotes⟩

theorem isPruned_vacant (capacity : Nat) (lifetime : Option Nat) (shelf : Shelf) (promotes : Bool) (now : Nat) :
    IsPruned now (vacant capacity lifetime shelf promotes) (vacant capacity lifetime shelf promotes) :=
  ⟨.empty capacity lifetime now, .refl _ shelf, rfl⟩

/-- Whatever stands in the directory of the shelf at first, and at whatever points memory and the shelf are swept:
each look-up is answered with the same playlist from the same tier as without any sweep. -/
theorem maintenance_is_invisible (capacity : Nat) (lifetime : Option Nat) (shelf : Shelf) (promotes : Bool)
    (calls : List (Nat × Call)) (hclock : (calls.map Prod.fst).Pairwise (· ≤ ·)) :
    (vacant capacity lifetime shelf promotes).answers calls =
      (vacant capacity lifetime shelf promotes).answers (withoutMaintenance calls) :=
  (isPruned_vacant capacity lifetime shelf promotes 0).answers_eq
    (List.pairwise_cons.2 ⟨fun _ _ => Nat.zero_le _, hclock⟩)

/-- Sweeps beside a file that is no record, before and after something has expired. -/
theorem sweeps_beside_foreign_file :
    let q : Query := .new ['a'] .youtube
    let p : Playlist := ⟨"p", [⟨"title", "author", 1000, "id", false, none, "youtube"⟩], none⟩
    let shelf : Shelf := ⟨.files, 5, some ⟨[("foreign.json", .file [0xFF])]⟩⟩
    (vacant 1 (some 5) shelf true).answers [(1, .store q p), (2, .sweepShelf), (3, .lookup q), (7, .sweepMemory),
        (8, .sweepShelf), (9, .lookup q)] =
      (vacant 1 (some 5) shelf true).answers [(1, .store q p), (3, .lookup q), (9, .lookup q)] := by
  intro q p shelf
  exact maintenance_is_invisible 1 (some 5) shelf true [(1, .store q p), (2, .sweepShelf), (3, .lookup q),
    (7, .sweepMemory), (8, .sweepShelf), (9, .lookup q)] (by decide)

end ResultCache

end Jukebox
