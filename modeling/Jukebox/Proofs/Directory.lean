import Jukebox.Directory

/-!
# What is found in a directory

Each operation on a directory is known from what is found under each name afterwards. Saving a file touches two
names: its own, and the temporary one, under which nothing is left once the file is in place.

## Main results

- `Directory.find?_put`, `Directory.find?_erase` — what is found after one name was changed
- `Directory.save_of_ne_folder`, `Directory.find?_save` — when a file is saved, and what is found after it
- `Directory.find?_of_save` — a file that was saved is found
- `Directory.removeFile?_eq_some_iff` — what can be removed, and what is left
- `Directory.mem_names_iff`, `Directory.nodup_names_save` — what is listed, and that saving lists no name twice
-/

namespace Jukebox.Directory

variable {d : Directory} {name temporary other : String} {entry : Entry} {content : Bytes}

-- ════════════════════════════════════════════════════════════════════════
-- One name
-- ════════════════════════════════════════════════════════════════════════

theorem lookup_cons_eq (e : String × Entry) (entries : List (String × Entry)) (name : String) :
    (e :: entries).lookup name = if name = e.1 then some e.2 else entries.lookup name := by
  rw [List.lookup_cons]
  by_cases h : name = e.1
  · rw [if_pos h, beq_iff_eq.2 h]
  · rw [if_neg h, beq_eq_false_iff_ne.2 h]

theorem find?_erase (d : Directory) (name other : String) :
    (d.erase name).find? other = if other = name then none else d.find? other := by
  obtain ⟨entries⟩ := d
  simp only [find?, erase]
  induction entries with
  | nil => simp
  | cons e entries ih =>
    rw [lookup_cons_eq]
    by_cases he : e.1 = name
    · rw [List.filter_cons_of_neg (by simpa using he), ih, he]
      split <;> rfl
    · rw [List.filter_cons_of_pos (by simpa using he), lookup_cons_eq, ih]
      by_cases hother : other = e.1
      · rw [if_pos hother, if_pos hother, if_neg fun h => he (hother.symm.trans h)]
      · rw [if_neg hother, if_neg hother]

/-- All entries of a name are replaced, however many there are. -/
theorem lookup_map_replace (entries : List (String × Entry)) (name other : String) (entry : Entry) :
    (entries.map fun e => if e.1 = name then (name, entry) else e).lookup other =
      if other = name then (entries.lookup name).map fun _ => entry else entries.lookup other := by
  induction entries with
  | nil => simp
  | cons e entries ih =>
    rw [List.map_cons, lookup_cons_eq, lookup_cons_eq, lookup_cons_eq, ih]
    by_cases he : e.1 = name
    · by_cases hother : other = name <;> simp [he, hother]
    · by_cases hother : other = name
      · have hne : ¬ name = e.1 := fun h => he h.symm
        simp [he, hother, hne]
      · simp [he, hother]

theorem find?_put (d : Directory) (name other : String) (entry : Entry) :
    (d.put name entry).find? other = if other = name then some entry else d.find? other := by
  unfold put
  cases hfound : d.find? name with
  | some old =>
    rw [Option.isSome_some, if_pos rfl]
    change List.lookup other (d.entries.map _) = _
    rw [lookup_map_replace, show d.entries.lookup name = some old from hfound]
    rfl
  | none =>
    rw [Option.isSome_none, if_neg Bool.false_ne_true]
    change List.lookup other (d.entries ++ [(name, entry)]) = _
    rw [List.lookup_append, lookup_cons_eq]
    by_cases hother : other = name
    · rw [if_pos hother, if_pos hother, hother, show d.entries.lookup name = none from hfound]
      rfl
    · rw [if_neg hother, if_neg hother, List.lookup_nil, Option.or_none]
      rfl

-- ════════════════════════════════════════════════════════════════════════
-- Writing and removing
-- ════════════════════════════════════════════════════════════════════════

theorem write?_of_folder (h : d.find? name = some .folder) : d.write? name content = none := by
  rw [write?, h]

theorem write?_of_ne_folder (h : d.find? name ≠ some .folder) :
    d.write? name content = some (d.put name (.file content)) := by
  unfold write?
  split
  · next hfolder => exact absurd hfolder h
  · rfl

theorem move?_of_folder (h : d.find? other = some .folder) : d.move? name other = none := by
  unfold move?
  rw [h]
  cases d.find? name <;> rfl

theorem move?_of_ne_folder (hname : d.find? name = some entry) (h : d.find? other ≠ some .folder) :
    d.move? name other = some ((d.erase name).put other entry) := by
  unfold move?
  split
  · next hnone => exact absurd (hname.symm.trans hnone) (Option.some_ne_none entry)
  · next hfolder _ => exact absurd hfolder h
  · next hsome _ =>
    obtain rfl := Option.some.inj (hname.symm.trans hsome)
    rfl

theorem save_of_temporary_folder (h : d.find? temporary = some .folder) :
    d.save name temporary content = (false, d) := by
  rw [save, write?_of_folder h]

theorem find?_put_of_ne (hne : name ≠ temporary) (d : Directory) (entry : Entry) :
    (d.put temporary entry).find? name = d.find? name := by
  rw [find?_put, if_neg hne]

/-- What was written stays under the temporary name if it cannot be moved. -/
theorem save_of_folder (hne : name ≠ temporary) (htemporary : d.find? temporary ≠ some .folder)
    (h : d.find? name = some .folder) :
    d.save name temporary content = (false, d.put temporary (.file content)) := by
  have hmoved : (d.put temporary (.file content)).move? temporary name = none :=
    move?_of_folder ((find?_put_of_ne hne d (.file content)).trans h)
  rw [save, write?_of_ne_folder htemporary]
  simp only [hmoved]

/-- A file is saved unless there is a folder of its name or of the temporary one. -/
theorem save_of_ne_folder (hne : name ≠ temporary) (htemporary : d.find? temporary ≠ some .folder)
    (h : d.find? name ≠ some .folder) : d.save name temporary content =
      (true, ((d.put temporary (.file content)).erase temporary).put name (.file content)) := by
  have hwritten : (d.put temporary (.file content)).find? temporary = some (.file content) := by
    rw [find?_put, if_pos rfl]
  have hname : (d.put temporary (.file content)).find? name ≠ some .folder := by
    rw [find?_put_of_ne hne]
    exact h
  have hmoved := move?_of_ne_folder hwritten hname
  rw [save, write?_of_ne_folder htemporary]
  simp only [hmoved]

/-- Saving a file does not touch other names, and nothing stays under the temporary name. -/
theorem find?_save (hne : name ≠ temporary) (htemporary : d.find? temporary ≠ some .folder)
    (h : d.find? name ≠ some .folder) (content : Bytes) (other : String) :
    (d.save name temporary content).2.find? other =
      if other = name then some (.file content) else if other = temporary then none else d.find? other := by
  rw [save_of_ne_folder hne htemporary h, find?_put, find?_erase, find?_put]
  split
  · rfl
  · split <;> rfl

/-- A file that was saved is found. -/
theorem find?_of_save (hne : name ≠ temporary) (hsaved : (d.save name temporary content).1 = true) :
    (d.save name temporary content).2.find? name = some (.file content) := by
  by_cases htemporary : d.find? temporary = some .folder
  · rw [save_of_temporary_folder htemporary] at hsaved
    cases hsaved
  · by_cases hname : d.find? name = some .folder
    · rw [save_of_folder hne htemporary hname] at hsaved
      cases hsaved
    · rw [find?_save hne htemporary hname, if_pos rfl]

/-- A file is removed, and nothing else is touched. -/
theorem removeFile?_eq_some_iff {left : Directory} : d.removeFile? name = some left ↔
    (∃ content, d.find? name = some (.file content)) ∧ left = d.erase name := by
  unfold removeFile?
  split
  · next content hfile => simpa [hfile] using eq_comm
  · next hother => simpa using fun content hfile => absurd hfile (hother content)

-- ════════════════════════════════════════════════════════════════════════
-- Names
-- ════════════════════════════════════════════════════════════════════════

/-- The names that are listed are those under which something is found. -/
theorem mem_names_iff : name ∈ d.names ↔ ∃ entry, d.find? name = some entry := by
  obtain ⟨entries⟩ := d
  simp only [names, find?]
  induction entries with
  | nil => simp
  | cons e entries ih =>
    rw [List.map_cons, List.mem_cons, lookup_cons_eq]
    by_cases hname : name = e.1
    · rw [if_pos hname]
      exact iff_of_true (.inl hname) ⟨e.2, rfl⟩
    · rw [if_neg hname, or_iff_right hname]
      exact ih

theorem nodup_names_erase (h : d.names.Nodup) (name : String) : (d.erase name).names.Nodup :=
  h.sublist (List.filter_sublist.map Prod.fst)

theorem nodup_names_put (h : d.names.Nodup) (name : String) (entry : Entry) : (d.put name entry).names.Nodup := by
  unfold put
  cases hfound : d.find? name with
  | some old =>
    have hnames : (Directory.mk (d.entries.map fun e => if e.1 = name then (name, entry) else e)).names = d.names := by
      simp only [names, List.map_map]
      refine List.map_congr_left fun e _ => ?_
      rw [Function.comp_apply]
      split
      · next he => exact he.symm
      · rfl
    rw [Option.isSome_some, if_pos rfl, hnames]
    exact h
  | none =>
    have hnew : name ∉ d.names := by
      rw [mem_names_iff, hfound]
      exact nofun
    rw [Option.isSome_none, if_neg Bool.false_ne_true, names, List.map_append]
    refine List.nodup_append.2 ⟨h, List.pairwise_singleton _ name, ?_⟩
    rintro other hother _ hmem rfl
    obtain rfl := List.mem_singleton.1 hmem
    exact hnew hother

/-- Saving a file lists no name twice. -/
theorem nodup_names_save (h : d.names.Nodup) (name temporary : String) (content : Bytes) :
    (d.save name temporary content).2.names.Nodup := by
  by_cases htemporary : d.find? temporary = some .folder
  · rw [save, write?_of_folder htemporary]
    exact h
  · have hwritten := nodup_names_put h temporary (.file content)
    rw [save, write?_of_ne_folder htemporary]
    simp only
    cases hmoved : (d.put temporary (.file content)).move? temporary name with
    | none => exact hwritten
    | some moved =>
      unfold move? at hmoved
      split at hmoved
      · cases hmoved
      · cases hmoved
      · obtain rfl := Option.some.inj hmoved
        exact nodup_names_put (nodup_names_erase hwritten temporary) name _

end Jukebox.Directory
