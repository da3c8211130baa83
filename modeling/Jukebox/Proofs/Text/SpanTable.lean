import Jukebox.Text.SpanTable

/-!
# Reading span tables

The points of a table stand in order, because each is written as the distance from the one before. So searching by
halves finds the last point that is not beyond a character, as reading the points one after the other would.

## Main definitions

- `Text.SpanTable.pointsFrom` — the points of a table in its written form

## Main results

- `Text.SpanTable.search_spec` — where the search stops
- `Text.SpanTable.get?_read` — the value is that of the last point not beyond
- `Text.SpanTable.get?_read_append` — the rest of a table does not matter
-/

namespace Jukebox.Text.SpanTable

variable {β : Type} {value : List Char → β} {n m : Nat}

/-- The points of the items of a table that follow the point `m`. -/
def pointsFrom (value : List Char → β) : Nat → List (List Char × List Char) → List (Nat × β)
  | _, [] => []
  | m, item :: rest => (m + hexNumber item.1, value item.2) :: pointsFrom value (m + hexNumber item.1) rest

theorem points_read (value : List Char → β) (lines : List String) :
    (read value lines).points.toList = pointsFrom value 0 (items lines) := by
  -- the fold has read some points already
  have hfold : ∀ (rest : List (List Char × List Char)) (m : Nat) (points : Array (Nat × β)),
      (rest.foldl (fun (at_ : Nat × Array (Nat × β)) item =>
        (at_.1 + hexNumber item.1, at_.2.push (at_.1 + hexNumber item.1, value item.2))) (m, points)).2.toList =
        points.toList ++ pointsFrom value m rest := by
    intro rest
    induction rest with
    | nil => exact fun m points => (List.append_nil _).symm
    | cons item rest ih =>
      intro m points
      rw [List.foldl_cons, ih, Array.toList_push, List.append_assoc]
      rfl
  exact hfold (items lines) 0 #[]

theorem le_of_mem_pointsFrom {rest : List (List Char × List Char)} : ∀ q ∈ pointsFrom value m rest, m ≤ q.1 := by
  induction rest generalizing m with
  | nil => exact fun q hq => nomatch hq
  | cons item rest ih =>
    intro q hq
    obtain rfl | hq := List.mem_cons.1 hq
    · exact Nat.le_add_right m _
    · exact Nat.le_trans (Nat.le_add_right m _) (ih q hq)

/-- The points stand in order. -/
theorem pairwise_pointsFrom {rest : List (List Char × List Char)} :
    (pointsFrom value m rest).Pairwise (·.1 ≤ ·.1) := by
  induction rest generalizing m with
  | nil => exact .nil
  | cons item rest ih => exact .cons le_of_mem_pointsFrom ih

/-- The search stops at a point that is not beyond the character, though the next one is. -/
theorem search_spec {points : Array (Nat × β)} {low high : Nat} (hlt : low < high)
    (hlow : points[low]?.any (·.1 ≤ n) = true) (hhigh : points[high]?.any (·.1 ≤ n) = false) :
    points[search points n low high]?.any (·.1 ≤ n) = true ∧
      points[search points n low high + 1]?.any (·.1 ≤ n) = false := by
  fun_induction search points n low high with
  | case1 low high hwide mid hmid ih =>
    have hmidlt : mid < high := by omega
    exact ih hmidlt hmid hhigh
  | case2 low high hwide mid hmid ih =>
    have hltmid : low < mid := by omega
    exact ih hltmid hlow (Bool.eq_false_iff.2 hmid)
  | case3 low high hnarrow =>
    have hnext : low + 1 = high := by omega
    exact ⟨hlow, hnext ▸ hhigh⟩

/-- Among points in order, the last one that is not beyond a character is the one before the first that is. -/
theorem getLast?_takeWhile {points : List (Nat × β)} (hsorted : points.Pairwise (·.1 ≤ ·.1)) {i : Nat} {q : Nat × β}
    (hq : points[i]? = some q) (hle : q.1 ≤ n) (hnext : points[i + 1]?.any (·.1 ≤ n) = false) :
    (points.takeWhile (·.1 ≤ n)).getLast? = some q := by
  have hsplit : points = points.take i ++ q :: points.drop (i + 1) := by
    have hdrop : points.drop i = q :: points.drop (i + 1) := by
      rw [List.drop_eq_getElem?_toList_append, hq]
      rfl
    rw [← hdrop, List.take_append_drop]
  have hbefore : ∀ q' ∈ points.take i, decide (q'.1 ≤ n) = true := by
    intro q' hq'
    rw [hsplit] at hsorted
    have hle' : q'.1 ≤ q.1 := (List.pairwise_append.1 hsorted).2.2 q' hq' q List.mem_cons_self
    exact decide_eq_true (Nat.le_trans hle' hle)
  have hafter : (points.drop (i + 1)).takeWhile (·.1 ≤ n) = [] := by
    rw [← List.head?_drop] at hnext
    cases hdrop : points.drop (i + 1) with
    | nil => rfl
    | cons q' rest =>
      rw [hdrop] at hnext
      exact List.takeWhile_cons_of_neg (Bool.eq_false_iff.1 hnext)
  rw [hsplit, List.takeWhile_append_of_pos hbefore, List.takeWhile_cons, if_pos (decide_eq_true hle), hafter]
  exact List.getLast?_concat

/-- The value at a character is that of the last point that is not beyond it, if there is one. -/
theorem get?_read {lines : List String} (hfirst : (pointsFrom value 0 (items lines)).head?.any (·.1 ≤ n) = true) :
    (read value lines).get? n = ((pointsFrom value 0 (items lines)).takeWhile (·.1 ≤ n)).getLast?.map Prod.snd := by
  have hpoints := points_read value lines
  have hget : ∀ i : Nat, (read value lines).points[i]? = (pointsFrom value 0 (items lines))[i]? := fun i => by
    rw [← hpoints, Array.getElem?_toList]
  have hlow : (read value lines).points[0]?.any (·.1 ≤ n) = true := by
    rwa [hget, ← List.head?_eq_getElem?]
  have hsize : (read value lines).points[(read value lines).points.size]?.any (·.1 ≤ n) = false := by
    rw [Array.getElem?_eq_none (Nat.le_refl _)]
    rfl
  have hlt : 0 < (read value lines).points.size := by
    apply Nat.pos_of_ne_zero
    intro hzero
    rw [hzero, hlow] at hsize
    cases hsize
  obtain ⟨hfound, hnext⟩ := search_spec hlt hlow hsize
  obtain ⟨q, hq, hle⟩ := (Option.any_eq_true _ _).1 hfound
  rw [hget] at hnext
  rw [get?, hq, getLast?_takeWhile pairwise_pointsFrom ((hget _).symm.trans hq) (of_decide_eq_true hle) hnext]

theorem pointsFrom_append (value : List Char → β) (m : Nat) (front back : List (List Char × List Char)) :
    ∃ m', pointsFrom value m (front ++ back) = pointsFrom value m front ++ pointsFrom value m' back := by
  induction front generalizing m with
  | nil => exact ⟨m, rfl⟩
  | cons item front ih =>
    obtain ⟨m', h⟩ := ih (m + hexNumber item.1)
    exact ⟨m', congrArg (_ :: ·) h⟩

/-- To find the value at a character, the table need only be read as far as a point beyond it. -/
theorem get?_read_append {front back : List String}
    (hfirst : (pointsFrom value 0 (items front)).head?.any (·.1 ≤ n) = true)
    (hbeyond : (pointsFrom value 0 (items front)).any (n < ·.1) = true) :
    (read value (front ++ back)).get? n =
      ((pointsFrom value 0 (items front)).takeWhile (·.1 ≤ n)).getLast?.map Prod.snd := by
  obtain ⟨m', happend⟩ := pointsFrom_append value 0 (items front) (items back)
  have hitems : items (front ++ back) = items front ++ items back := List.flatMap_append
  rw [← hitems] at happend
  have hhead : (pointsFrom value 0 (items (front ++ back))).head?.any (·.1 ≤ n) = true := by
    obtain ⟨q, hq, hle⟩ := (Option.any_eq_true _ _).1 hfirst
    rw [happend, List.head?_append, hq]
    exact hle
  have hstop : ((pointsFrom value 0 (items front)).takeWhile (·.1 ≤ n)).length ≠
      (pointsFrom value 0 (items front)).length := by
    intro hlength
    obtain ⟨q, hq, hlt⟩ := List.any_eq_true.1 hbeyond
    have hall := (List.takeWhile_prefix _).eq_of_length hlength
    rw [← hall] at hq
    have hle := of_decide_eq_true (List.all_eq_true.1 List.all_takeWhile q hq)
    exact Nat.not_lt.2 hle (of_decide_eq_true hlt)
  rw [get?_read hhead, happend, List.takeWhile_append, if_neg hstop]

end Jukebox.Text.SpanTable
