import Jukebox.Proofs.Player.Enqueue
import Mathlib.Data.List.Induction

/-!
# Queues along a run

A queue hands out what it accepts, in the order in which it accepts it. An item that it accepts is lost only if it is
pending when the queue is cleared. Which item is current does not depend on what is pending.

Items may be equal, so they are told apart by their place in the order of acceptance. What is pending is always what
was accepted last, so the places of pending items are known from how many there are.

## Main definitions

- `Queue.Call`, `Queue.run` — what can be asked of a queue, and the queue after a sequence of it
- `Queue.accepted`, `Queue.returned`, `Queue.settings` — what a run accepts, what it hands out, what it makes current
- `Queue.Waits`, `Queue.IsCleared` — the item accepted at a place is pending, or was pending at a clear

## Main results

- `Queue.returnedBy_append_pending` — what a single call does to what is handed out and pending
- `Queue.pending_suffix_accepted` — what is pending was accepted last
- `Queue.returned_append_pending` — what was handed out and what is pending, after any run
- `Queue.order_without_loss` — what a run hands out, what it accepts, what is current and how much is pending
-/

namespace Jukebox.Queue

/-- Something asked of a queue. -/
inductive Call where
  | push (item : QueueItem)
  | pushAll (items : List QueueItem)
  | next
  | setCurrent (item : QueueItem)
  | clear
  deriving DecidableEq

/-- A queue of the given size with nothing in it. -/
def new (maxSize : Nat) : Queue := { maxSize }

/-- The queue after a call. -/
def perform (q : Queue) : Call → Queue
  | .push item =>
    match q.push item with
    | .ok q' => q'
    | .error _ => q
  | .pushAll items => (q.pushAll items).2
  | .next => q.next
  | .setCurrent item => q.setCurrent item
  | .clear => q.clear

/-- The queue after a sequence of calls. -/
def run (q : Queue) (calls : List Call) : Queue :=
  calls.foldl perform q

/-- What a call accepts, by the answer that it gets. -/
def acceptedBy (q : Queue) : Call → List QueueItem
  | .push item =>
    match q.push item with
    | .ok _ => [item]
    | .error _ => []
  | .pushAll items => items.take (q.pushAll items).1
  | .next | .setCurrent _ | .clear => []

/-- What a call hands out. -/
def returnedBy (q : Queue) : Call → List QueueItem
  | .next => q.next.current.toList
  | .push _ | .pushAll _ | .setCurrent _ | .clear => []

/-- What a call makes current, if it says anything about that. The next item may be none. -/
def setBy (q : Queue) : Call → List (Option QueueItem)
  | .next => [q.pending.head?]
  | .setCurrent item => [some item]
  | .push _ | .pushAll _ | .clear => []

/-- What the calls of a run yield, each for the queue as the calls before have left it. -/
def along {α : Type} (yield : Queue → Call → List α) (q : Queue) : List Call → List α
  | [] => []
  | call :: calls => yield q call ++ (q.perform call).along yield calls

variable {q : Queue} {call : Call} {calls : List Call} {maxSize i : Nat}

/-- What a new queue accepts in a run, in the order of acceptance. -/
def accepted (maxSize : Nat) (calls : List Call) : List QueueItem :=
  (new maxSize).along acceptedBy calls

/-- What a new queue hands out in a run. -/
def returned (maxSize : Nat) (calls : List Call) : List QueueItem :=
  (new maxSize).along returnedBy calls

/-- What becomes current in a run of a new queue, one after the other. -/
def settings (maxSize : Nat) (calls : List Call) : List (Option QueueItem) :=
  (new maxSize).along setBy calls

/-- The item accepted at the place `i` is pending after a run. It is one of the last, as many as are pending. -/
def Waits (maxSize : Nat) (calls : List Call) (i : Nat) : Prop :=
  i < (accepted maxSize calls).length ∧
    (accepted maxSize calls).length ≤ i + ((new maxSize).run calls).pending.length

/-- The item accepted at the place `i` was pending at some clear of the run. -/
def IsCleared (maxSize : Nat) (calls : List Call) (i : Nat) : Prop :=
  ∃ k < calls.length, calls[k]? = some .clear ∧ Waits maxSize (calls.take k) i

instance : Decidable (Waits maxSize calls i) := inferInstanceAs (Decidable (_ ∧ _))

instance : Decidable (IsCleared maxSize calls i) :=
  inferInstanceAs (Decidable (∃ k < calls.length, calls[k]? = some .clear ∧ Waits maxSize (calls.take k) i))

/-- The items at the places that are kept. -/
def atPlaces (keep : Nat → Bool) (items : List QueueItem) : List QueueItem :=
  (items.zipIdx.filter fun (_, i) => keep i).map Prod.fst

-- ════════════════════════════════════════════════════════════════════════
-- Places
-- ════════════════════════════════════════════════════════════════════════

section Places

variable {keep keep' : Nat → Bool} {items more : List QueueItem}

theorem atPlaces_append (keep : Nat → Bool) (items more : List QueueItem) :
    atPlaces keep (items ++ more) = atPlaces keep items ++ atPlaces (fun i => keep (items.length + i)) more := by
  have hshift : more.zipIdx (0 + items.length) = more.zipIdx.map fun (item, i) => (item, items.length + i) := by
    rw [List.zipIdx_eq_map_add]
    simp [Nat.add_comm]
  rw [atPlaces, List.zipIdx_append, List.filter_append, List.map_append, hshift, List.filter_map, List.map_map]
  rfl

theorem atPlaces_congr (h : ∀ i < items.length, keep i = keep' i) : atPlaces keep items = atPlaces keep' items := by
  have hfilter : items.zipIdx.filter (fun (_, i) => keep i) = items.zipIdx.filter (fun (_, i) => keep' i) := by
    apply List.filter_congr
    rintro ⟨item, i⟩ hmem
    exact h i (List.snd_lt_of_mem_zipIdx hmem)
  rw [atPlaces, hfilter, atPlaces]

theorem atPlaces_eq_self (h : ∀ i < items.length, keep i = true) : atPlaces keep items = items := by
  have hall : items.zipIdx.filter (fun (_, i) => keep i) = items.zipIdx :=
    List.filter_eq_self.2 fun _ hmem => h _ (List.snd_lt_of_mem_zipIdx hmem)
  rw [atPlaces, hall, List.zipIdx_map_fst]

theorem atPlaces_eq_nil (h : ∀ i < items.length, keep i = false) : atPlaces keep items = [] := by
  have hnone : items.zipIdx.filter (fun (_, i) => keep i) = [] :=
    List.filter_eq_nil_iff.2 fun _ hmem => Bool.eq_false_iff.1 (h _ (List.snd_lt_of_mem_zipIdx hmem))
  rw [atPlaces, hnone, List.map_nil]

end Places

-- ════════════════════════════════════════════════════════════════════════
-- One call
-- ════════════════════════════════════════════════════════════════════════

/-- The items that are given to the queue with a call. -/
def Call.given : Call → List QueueItem
  | push item => [item]
  | pushAll items => items
  | next | setCurrent _ | clear => []

/-- A call accepts the first of the items that it gives, as many as there is room for. -/
theorem acceptedBy_eq (q : Queue) (call : Call) : q.acceptedBy call = call.given.take q.room := by
  cases call with
  | push item =>
    rcases Nat.eq_zero_or_pos q.room with hfull | hroom
    · rw [acceptedBy, push_of_room_eq_zero item hfull, hfull]
      rfl
    · rw [acceptedBy, push_of_room_pos item hroom, Call.given, List.take_of_length_le hroom]
  | pushAll items =>
    rw [acceptedBy, pushAll_eq, Call.given, Nat.min_comm, ← List.take_eq_take_min]
  | next | setCurrent | clear => exact List.take_nil.symm

/-- What a queue accepts is pending behind all else. -/
theorem perform_push (item : QueueItem) (q : Queue) :
    q.perform (.push item) = q.append (q.acceptedBy (.push item)) := by
  rcases Nat.eq_zero_or_pos q.room with hfull | hroom
  · rw [perform, acceptedBy, push_of_room_eq_zero item hfull, append, List.append_nil]
  · rw [perform, acceptedBy, push_of_room_pos item hroom]

theorem perform_pushAll (items : List QueueItem) (q : Queue) :
    q.perform (.pushAll items) = q.append (q.acceptedBy (.pushAll items)) := by
  rw [perform, acceptedBy, pushAll_eq]

@[simp] theorem perform_maxSize (q : Queue) (call : Call) : (q.perform call).maxSize = q.maxSize := by
  cases call with
  | push item => rw [perform_push, append]
  | pushAll items => rw [perform_pushAll, append]
  | next | setCurrent | clear => rfl

/-- Unless it clears the queue, a call only takes items from the front of what is pending, to hand them out, and puts
items behind it, which it accepts. -/
theorem returnedBy_append_pending (h : call ≠ .clear) (q : Queue) :
    q.returnedBy call ++ (q.perform call).pending = q.pending ++ q.acceptedBy call := by
  cases call with
  | push item => rw [perform_push]; rfl
  | pushAll items => rw [perform_pushAll]; rfl
  | next => exact (line_next q).trans (List.append_nil _).symm
  | setCurrent item => exact (List.append_nil _).symm
  | clear => exact absurd rfl h

theorem pending_perform_suffix (q : Queue) (call : Call) :
    (q.perform call).pending <:+ q.pending ++ q.acceptedBy call := by
  by_cases hclear : call = .clear
  · rw [hclear]
    exact List.nil_suffix
  · exact ⟨q.returnedBy call, returnedBy_append_pending hclear q⟩

/-- No more is pending than there is room for. -/
theorem length_pending_perform (h : q.pending.length ≤ q.maxSize) (call : Call) :
    (q.perform call).pending.length ≤ q.maxSize := by
  have hlength := (pending_perform_suffix q call).length_le
  rw [acceptedBy_eq, List.length_append, List.length_take, room] at hlength
  omega

theorem current_perform (q : Queue) (call : Call) :
    (q.perform call).current = (q.setBy call).getLast?.getD q.current := by
  cases call with
  | push item => rw [perform_push]; rfl
  | pushAll items => rw [perform_pushAll]; rfl
  | next | setCurrent | clear => rfl

-- ════════════════════════════════════════════════════════════════════════
-- Runs
-- ════════════════════════════════════════════════════════════════════════

theorem run_concat (q : Queue) (calls : List Call) (call : Call) :
    q.run (calls ++ [call]) = (q.run calls).perform call := by
  rw [run, List.foldl_append]
  rfl

theorem along_concat {α : Type} (yield : Queue → Call → List α) (q : Queue) (calls : List Call) (call : Call) :
    q.along yield (calls ++ [call]) = q.along yield calls ++ yield (q.run calls) call := by
  induction calls generalizing q with
  | nil => exact List.append_nil _
  | cons first calls ih => rw [List.cons_append, along, along, ih, List.append_assoc]; rfl

theorem accepted_concat (maxSize : Nat) (calls : List Call) (call : Call) :
    accepted maxSize (calls ++ [call]) = accepted maxSize calls ++ ((new maxSize).run calls).acceptedBy call :=
  along_concat _ _ _ _

@[simp] theorem maxSize_run (maxSize : Nat) (calls : List Call) : ((new maxSize).run calls).maxSize = maxSize := by
  induction calls using List.reverseRecOn with
  | nil => rfl
  | append_singleton calls call ih => rw [run_concat, perform_maxSize, ih]

theorem length_pending_run (maxSize : Nat) (calls : List Call) :
    ((new maxSize).run calls).pending.length ≤ maxSize := by
  induction calls using List.reverseRecOn with
  | nil => exact Nat.zero_le _
  | append_singleton calls call ih =>
    have hstep := length_pending_perform (q := (new maxSize).run calls) (by rwa [maxSize_run]) call
    rwa [maxSize_run, ← run_concat] at hstep

/-- What is pending was accepted last. -/
theorem pending_suffix_accepted (maxSize : Nat) (calls : List Call) :
    ((new maxSize).run calls).pending <:+ accepted maxSize calls := by
  induction calls using List.reverseRecOn with
  | nil => exact List.suffix_rfl
  | append_singleton calls call ih =>
    rw [run_concat, accepted_concat]
    exact (pending_perform_suffix _ call).trans (List.suffix_append_self_iff.2 ih)

/-- What is current is the last that became so. -/
theorem current_run (maxSize : Nat) (calls : List Call) :
    ((new maxSize).run calls).current = (settings maxSize calls).getLast?.join := by
  induction calls using List.reverseRecOn with
  | nil => rfl
  | append_singleton calls call ih =>
    rw [run_concat, current_perform, ih, settings, settings, along_concat, List.getLast?_append]
    cases (((new maxSize).run calls).setBy call).getLast? <;> rfl

-- ════════════════════════════════════════════════════════════════════════
-- Items that were cleared
-- ════════════════════════════════════════════════════════════════════════

theorem isCleared_concat : IsCleared maxSize (calls ++ [call]) i ↔
    IsCleared maxSize calls i ∨ call = .clear ∧ Waits maxSize calls i := by
  constructor
  · rintro ⟨k, hk, hclear, hwaits⟩
    rw [List.length_append, List.length_singleton] at hk
    rcases Nat.lt_or_eq_of_le (Nat.le_of_lt_succ hk) with hbefore | rfl
    · rw [List.getElem?_append_left hbefore] at hclear
      rw [List.take_append_of_le_length (Nat.le_of_lt hbefore)] at hwaits
      exact .inl ⟨k, hbefore, hclear, hwaits⟩
    · rw [List.getElem?_concat_length, Option.some.injEq] at hclear
      rw [List.take_left] at hwaits
      exact .inr ⟨hclear, hwaits⟩
  · rintro (⟨k, hk, hclear, hwaits⟩ | ⟨rfl, hwaits⟩)
    · refine ⟨k, ?_, ?_, ?_⟩
      · rw [List.length_append]
        exact Nat.lt_add_right _ hk
      · rwa [List.getElem?_append_left hk]
      · rwa [List.take_append_of_le_length (Nat.le_of_lt hk)]
    · refine ⟨calls.length, ?_, List.getElem?_concat_length, ?_⟩
      · rw [List.length_append]
        exact Nat.lt_succ_self _
      · rwa [List.take_left]

/-- What was cleared had been accepted. -/
theorem IsCleared.lt_length (h : IsCleared maxSize calls i) : i < (accepted maxSize calls).length := by
  induction calls using List.reverseRecOn with
  | nil =>
    obtain ⟨k, hk, -⟩ := h
    exact absurd hk (Nat.not_lt_zero k)
  | append_singleton calls call ih =>
    rw [accepted_concat, List.length_append]
    rcases isCleared_concat.1 h with hbefore | ⟨-, hwaits⟩
    · exact Nat.lt_add_right _ (ih hbefore)
    · exact Nat.lt_add_right _ hwaits.1

/-- What is pending after a call was pending before it, or is new. -/
theorem Waits.of_concat (h : Waits maxSize (calls ++ [call]) i) :
    Waits maxSize calls i ∨ (accepted maxSize calls).length ≤ i := by
  obtain ⟨-, hlast⟩ := h
  have hlength := (pending_perform_suffix ((new maxSize).run calls) call).length_le
  rw [accepted_concat, run_concat, List.length_append] at hlast
  rw [List.length_append] at hlength
  rcases Nat.lt_or_ge i (accepted maxSize calls).length with hlt | hge
  · exact .inl ⟨hlt, by omega⟩
  · exact .inr hge

/-- What is pending was never cleared. -/
theorem Waits.not_isCleared (h : Waits maxSize calls i) : ¬ IsCleared maxSize calls i := by
  induction calls using List.reverseRecOn with
  | nil => exact absurd h.1 (Nat.not_lt_zero i)
  | append_singleton calls call ih =>
    rw [isCleared_concat, not_or]
    constructor
    · rcases h.of_concat with hwaits | hnew
      · exact ih hwaits
      · intro hcleared
        exact absurd hcleared.lt_length (Nat.not_lt.2 hnew)
    · rintro ⟨rfl, -⟩
      -- nothing is pending after a clear
      obtain ⟨hlt, hlast⟩ := h
      have hnone : ((new maxSize).run (calls ++ [.clear])).pending = [] := by
        rw [run_concat]
        rfl
      rw [hnone, List.length_nil] at hlast
      omega

-- ════════════════════════════════════════════════════════════════════════
-- What is handed out
-- ════════════════════════════════════════════════════════════════════════

/-- What a run accepts, without the items that were pending at a clear. -/
def kept (maxSize : Nat) (calls : List Call) : List QueueItem :=
  atPlaces (fun i => ¬ IsCleared maxSize calls i) (accepted maxSize calls)

/-- What a call accepts is kept behind all else, unless it clears the queue. -/
theorem kept_concat (h : call ≠ .clear) :
    kept maxSize (calls ++ [call]) = kept maxSize calls ++ ((new maxSize).run calls).acceptedBy call := by
  have hiff : ∀ i, IsCleared maxSize (calls ++ [call]) i ↔ IsCleared maxSize calls i := by
    intro i
    rw [isCleared_concat, or_iff_left (fun hclear => h hclear.1)]
  simp only [kept, hiff, accepted_concat, atPlaces_append]
  rw [List.append_cancel_left_eq]
  apply atPlaces_eq_self
  intro i _
  simp only [decide_eq_true_eq]
  intro hcleared
  exact absurd hcleared.lt_length (by omega)

/-- A clear takes what is pending away from the end of what is kept. -/
theorem kept_concat_clear :
    kept maxSize calls = kept maxSize (calls ++ [.clear]) ++ ((new maxSize).run calls).pending := by
  obtain ⟨front, hfront⟩ := pending_suffix_accepted maxSize calls
  have hwaits : ∀ i, Waits maxSize calls i ↔
      front.length ≤ i ∧ i < front.length + ((new maxSize).run calls).pending.length := by
    intro i
    rw [Waits, ← hfront, List.length_append]
    omega
  have haccepted : accepted maxSize (calls ++ [.clear]) = accepted maxSize calls := by
    rw [accepted_concat]
    exact List.append_nil _
  have hpending : atPlaces (fun i => ¬ IsCleared maxSize calls (front.length + i)) ((new maxSize).run calls).pending
      = ((new maxSize).run calls).pending := by
    apply atPlaces_eq_self
    intro i hi
    simp only [decide_eq_true_eq]
    exact ((hwaits _).2 ⟨Nat.le_add_right _ _, Nat.add_lt_add_left hi _⟩).not_isCleared
  have hgone : atPlaces (fun i => ¬ IsCleared maxSize (calls ++ [.clear]) (front.length + i))
      ((new maxSize).run calls).pending = [] := by
    apply atPlaces_eq_nil
    intro i hi
    simp only [decide_eq_false_iff_not, Classical.not_not]
    exact isCleared_concat.2 (.inr ⟨rfl, (hwaits _).2 ⟨Nat.le_add_right _ _, Nat.add_lt_add_left hi _⟩⟩)
  have hsame : atPlaces (fun i => ¬ IsCleared maxSize (calls ++ [.clear]) i) front
      = atPlaces (fun i => ¬ IsCleared maxSize calls i) front := by
    apply atPlaces_congr
    intro i hi
    have hnot : ¬ Waits maxSize calls i := fun h => absurd ((hwaits i).1 h).1 (Nat.not_le.2 hi)
    simp only [isCleared_concat, true_and, or_iff_left hnot]
  rw [kept, kept, haccepted, ← hfront, atPlaces_append, atPlaces_append, hpending, hgone, hsame, List.append_nil]

/-- What was handed out, followed by what is pending, is what was accepted, in the order of acceptance and without
what was pending at a clear. -/
theorem returned_append_pending (maxSize : Nat) (calls : List Call) :
    returned maxSize calls ++ ((new maxSize).run calls).pending = kept maxSize calls := by
  induction calls using List.reverseRecOn with
  | nil => rfl
  | append_singleton calls call ih =>
    rw [returned, along_concat, run_concat, List.append_assoc]
    by_cases hclear : call = .clear
    · rw [hclear]
      apply List.append_cancel_right
      rw [← kept_concat_clear, ← ih, List.append_assoc]
      rfl
    · rw [returnedBy_append_pending hclear, ← List.append_assoc, kept_concat hclear, ← ih]
      rfl

/-- Whatever is asked of a new queue: what it handed out so far, followed by what is pending, is what it accepted, in
the order of acceptance, without the items that were pending at a clear; and what is pending was accepted last. An
item by itself is accepted exactly if fewer items are pending than the size of the queue, and of several items those
at the front, as many as there is room for; what is accepted is pending behind all else, and what is refused changes
nothing. What is current is what became so last, as the next item, which is none if nothing was pending, or as an item
that was set; nothing is current if that never happened. No more is ever pending than the size of the queue. -/
theorem order_without_loss (maxSize : Nat) (calls : List Call) :
    let q := (new maxSize).run calls
    returned maxSize calls ++ q.pending =
      atPlaces (fun i => ¬ IsCleared maxSize calls i) (accepted maxSize calls) ∧
    q.pending <:+ accepted maxSize calls ∧
    (∀ item, q.push item =
      if q.pending.length < maxSize then .ok (q.append [item]) else .error ⟨maxSize⟩) ∧
    (∀ items, q.pushAll items =
      let count := min items.length (maxSize - q.pending.length)
      (count, q.append (items.take count))) ∧
    q.current = (settings maxSize calls).getLast?.join ∧
    q.pending.length ≤ maxSize := by
  intro q
  have hsize : q.maxSize = maxSize := maxSize_run maxSize calls
  refine ⟨returned_append_pending maxSize calls, pending_suffix_accepted maxSize calls, ?_, ?_,
    current_run maxSize calls, length_pending_run maxSize calls⟩
  · intro item
    split
    · next hroom => exact push_of_room_pos item (by rw [room, hsize]; exact Nat.sub_pos_of_lt hroom)
    · next hfull =>
      rw [push_of_room_eq_zero item (by rw [room, hsize]; exact Nat.sub_eq_zero_of_le (Nat.not_lt.1 hfull)), hsize]
  · intro items
    rw [pushAll_eq, room, hsize]

end Jukebox.Queue
