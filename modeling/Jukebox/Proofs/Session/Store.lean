import Jukebox.Proofs.Directory
import Jukebox.Proofs.Session.Snapshot
import Jukebox.Proofs.Text.Number
import Jukebox.Session.Store
import Mathlib.Data.List.Induction

/-!
# Sessions are saved and taken

Snapshots of different guilds are saved side by side, each in the file of its guild, unless a folder stands in the
way. Taken from there, they are the same snapshots, and no more than those if there were no sessions before. The
order in which the directory lists its files makes no difference to which they are.

## Main definitions

- `Sessions.temporaryName` — the file to which the snapshot of a guild is written at first
- `Sessions.IsClear` — no folder stands where the snapshot of a guild is written
- `Sessions.HoldsNoSession` — no file has the name of a session
- `Sessions.Adds` — a directory holds some snapshots beside what another one holds
- `Sessions.IsSession` — a file has the name of a session
- `Sessions.takeListed` — the snapshots of a directory that lists its names in some order, and what is left of it
- `Sessions.answered?` — the snapshot with which a listed name is answered

## Main results

- `Sessions.guildOfName?_fileName` — the name of a guild's file tells the guild
- `Sessions.saveAll_some` — what saving snapshots comes to
- `Sessions.takeListed_eq` — what is taken from a directory, whatever names it lists
- `Sessions.find?_of_isSession`, `Sessions.find?_of_not_isSession` — what is left in a directory
- `Sessions.Adds.takeListed_perm`, `Sessions.Adds.find?_takeListed` — what was saved is taken, and what is left
- `Sessions.holdsNoSession_takeListed` — no session is left
- `Sessions.takeListed_of_holdsNoSession` — from a directory without sessions nothing is taken
-/

namespace Jukebox.Sessions

/-- The file to which the snapshot of a guild is written at first. -/
def temporaryName (guild : Nat) : String := fileName guild ++ ".tmp"

/-- No folder stands where the snapshot of a guild is written. -/
def IsClear (guild : Nat) (d : Directory) : Prop :=
  d.find? (fileName guild) ≠ some .folder ∧ d.find? (temporaryName guild) ≠ some .folder

/-- No file has the name of a session. -/
def HoldsNoSession (d : Directory) : Prop :=
  ∀ name content, d.find? name = some (.file content) → guildOfName? name = none

/-- `d'` holds some snapshots in the files of their guilds, and beside them what `d` holds. -/
structure Adds (held : List Snapshot) (d d' : Directory) : Prop where
  file : ∀ s ∈ held, d'.find? (fileName s.guild.toNat) = some (.file s.written)
  temporary : ∀ s ∈ held, d'.find? (temporaryName s.guild.toNat) = none
  other : ∀ name, (∀ s ∈ held, name ≠ fileName s.guild.toNat ∧ name ≠ temporaryName s.guild.toNat) →
    d'.find? name = d.find? name
  nodup : d.names.Nodup → d'.names.Nodup

/-- The snapshots that are not empty. -/
def filled (snapshots : List Snapshot) : List Snapshot := snapshots.filter fun s => !s.isEmpty

/-- The snapshots of a directory that lists its names in the given order, and what is left of it. -/
def takeListed (order : List String) (d : Directory) : List Snapshot × Directory :=
  ((order.foldl takeNext ([], d)).1.reverse, (order.foldl takeNext ([], d)).2)

/-- The snapshot for which a name that is listed stands. -/
def named? (d : Directory) (name : String) : Option Snapshot := (guildOfName? name).bind (load? · d)

/-- There is a file with this name, which is that of a session. -/
def IsSession (name : String) (d : Directory) : Prop :=
  (guildOfName? name).isSome = true ∧ ∃ content, d.find? name = some (.file content)

/-- The directory without a file that has the name of a session. -/
def forget (name : String) (d : Directory) : Directory :=
  if (guildOfName? name).isSome then (d.removeFile? name).getD d else d

/-- The order in which the entries of a directory stand is one in which it may list them. -/
theorem takeAll_some (d : Directory) :
    takeAll (some d) = (some (takeListed d.names d).1, some (takeListed d.names d).2) := rfl

variable {guild other : Nat} {name found : String} {s s' : Snapshot} {held : List Snapshot} {d d' : Directory}

-- ════════════════════════════════════════════════════════════════════════
-- Names
-- ════════════════════════════════════════════════════════════════════════

theorem toList_fileName (guild : Nat) :
    (fileName guild).toList = "guild_".toList ++ (Nat.toDigits 10 guild ++ ".json".toList) := by
  have hdigits : (toString guild).toList = Nat.toDigits 10 guild := by
    rw [Nat.toString_eq_ofList_toDigits, String.toList_ofList]
  rw [fileName, String.toList_append, String.toList_append, hdigits, List.append_assoc]

/-- The name of a guild's file tells the guild. -/
theorem guildOfName?_fileName (h : guild ≤ Text.maxUInt64) : guildOfName? (fileName guild) = some guild := by
  have hfront := Text.dropFront?_eq_some_iff.2 (toList_fileName guild)
  have hback : Text.dropBack? ".json".toList (Nat.toDigits 10 guild ++ ".json".toList) =
      some (Nat.toDigits 10 guild) := Text.dropBack?_eq_some_iff.2 rfl
  simp only [guildOfName?, hfront, hback, Text.readUnsigned_toDigits h, Option.bind_eq_bind, Option.bind_some]
  rfl

theorem le_of_guildOfName? (h : guildOfName? name = some guild) : guild ≤ Text.maxUInt64 := by
  obtain ⟨rest, -, h⟩ := Option.bind_eq_some_iff.1 h
  obtain ⟨digits, -, h⟩ := Option.bind_eq_some_iff.1 h
  cases hread : Text.readUnsigned Text.maxUInt64 digits with
  | error fault =>
    rw [hread] at h
    cases h
  | ok n =>
    rw [hread] at h
    obtain rfl := Option.some.inj h
    exact Text.le_of_readUnsigned hread

/-- Different guilds have different files. -/
theorem fileName_injective (h : fileName guild = fileName other) : guild = other := by
  have hlists := congrArg String.toList h
  rw [toList_fileName, toList_fileName, List.append_right_inj, List.append_left_inj] at hlists
  rw [← Nat.ofDigitChars_ten_toDigits (n := guild), hlists, Nat.ofDigitChars_ten_toDigits]

theorem temporaryName_injective (h : temporaryName guild = temporaryName other) : guild = other := by
  apply fileName_injective
  have hlists := congrArg String.toList h
  rw [temporaryName, temporaryName, String.toList_append, String.toList_append, List.append_left_inj] at hlists
  exact String.toList_inj.1 hlists

/-- A name to which is written at first tells no guild. -/
theorem guildOfName?_temporaryName (guild : Nat) : guildOfName? (temporaryName guild) = none := by
  cases hname : guildOfName? (temporaryName guild) with
  | none => rfl
  | some other =>
    obtain ⟨rest, hfront, h⟩ := Option.bind_eq_some_iff.1 hname
    obtain ⟨digits, hback, -⟩ := Option.bind_eq_some_iff.1 h
    have hend := Text.dropFront?_eq_some_iff.1 hfront
    rw [Text.dropBack?_eq_some_iff.1 hback, temporaryName, String.toList_append] at hend
    have hlast := congrArg List.getLast? hend
    rw [List.getLast?_append, ← List.append_assoc, List.getLast?_append] at hlast
    have hlast : some 'p' = some 'n' := hlast
    exact absurd hlast (by decide)

theorem fileName_ne_temporaryName (h : guild ≤ Text.maxUInt64) : fileName guild ≠ temporaryName other := by
  intro heq
  have hguild := guildOfName?_fileName h
  rw [heq, guildOfName?_temporaryName] at hguild
  cases hguild

theorem guild_le (s : Snapshot) : s.guild.toNat ≤ Text.maxUInt64 := Nat.le_of_lt_succ s.guild.toNat_lt

-- ════════════════════════════════════════════════════════════════════════
-- Saving
-- ════════════════════════════════════════════════════════════════════════

theorem adds_nil (d : Directory) : Adds [] d d := ⟨nofun, nofun, fun _ _ => rfl, fun h => h⟩

theorem save_of_isClear (h : IsClear s.guild.toNat d) : (save s d).1 = true ∧ Adds [s] d (save s d).2 := by
  have hne : fileName s.guild.toNat ≠ temporaryName s.guild.toNat := fileName_ne_temporaryName (guild_le s)
  have hsave : save s d = d.save (fileName s.guild.toNat) (temporaryName s.guild.toNat) s.written := rfl
  rw [hsave]
  have hfind := Directory.find?_save hne h.2 h.1 s.written
  refine ⟨by rw [Directory.save_of_ne_folder hne h.2 h.1], ?_, ?_, ?_, ?_⟩
  · intro s' hs'
    rw [List.mem_singleton.1 hs', hfind, if_pos rfl]
  · intro s' hs'
    rw [List.mem_singleton.1 hs', hfind, if_neg hne.symm, if_pos rfl]
  · intro name hother
    obtain ⟨hname, htemporary⟩ := hother s (List.mem_singleton_self s)
    rw [hfind, if_neg hname, if_neg htemporary]
  · intro hnames
    exact Directory.nodup_names_save hnames _ _ _

/-- A snapshot of another guild neither stands in the way nor is in the way. -/
theorem names_ne (h : s.guild ≠ s'.guild) :
    fileName s'.guild.toNat ≠ fileName s.guild.toNat ∧ fileName s'.guild.toNat ≠ temporaryName s.guild.toNat ∧
    temporaryName s'.guild.toNat ≠ fileName s.guild.toNat ∧
      temporaryName s'.guild.toNat ≠ temporaryName s.guild.toNat := by
  refine ⟨?_, fileName_ne_temporaryName (guild_le s'), (fileName_ne_temporaryName (guild_le s)).symm, ?_⟩
  · intro heq
    exact h (UInt64.toNat_inj.1 (fileName_injective heq).symm)
  · intro heq
    exact h (UInt64.toNat_inj.1 (temporaryName_injective heq).symm)

theorem Adds.isClear {d₁ : Directory} (h : Adds [s] d d₁) (hne : s.guild ≠ s'.guild)
    (hclear : IsClear s'.guild.toNat d) : IsClear s'.guild.toNat d₁ := by
  obtain ⟨hfile, hfile', htemporary, htemporary'⟩ := names_ne hne
  have hother : ∀ name, name ≠ fileName s.guild.toNat → name ≠ temporaryName s.guild.toNat →
      d₁.find? name = d.find? name := by
    intro name h₁ h₂
    apply h.other
    intro x hx
    rw [List.mem_singleton.1 hx]
    exact ⟨h₁, h₂⟩
  rw [IsClear, hother _ hfile hfile', hother _ htemporary htemporary']
  exact hclear

theorem Adds.cons {d₁ : Directory} (h : Adds [s] d d₁) (hrest : Adds held d₁ d')
    (hne : ∀ s' ∈ held, s.guild ≠ s'.guild) : Adds (s :: held) d d' := by
  have hkept : ∀ s' ∈ held, fileName s.guild.toNat ≠ fileName s'.guild.toNat ∧
      fileName s.guild.toNat ≠ temporaryName s'.guild.toNat := fun s' hs' =>
    ⟨(names_ne (hne s' hs').symm).1, (names_ne (hne s' hs').symm).2.1⟩
  have hgone : ∀ s' ∈ held, temporaryName s.guild.toNat ≠ fileName s'.guild.toNat ∧
      temporaryName s.guild.toNat ≠ temporaryName s'.guild.toNat := fun s' hs' =>
    (names_ne (hne s' hs').symm).2.2
  refine ⟨?_, ?_, ?_, fun hnames => hrest.nodup (h.nodup hnames)⟩
  · refine List.forall_mem_cons.2 ⟨?_, hrest.file⟩
    rw [hrest.other _ hkept]
    exact h.file s (List.mem_singleton_self s)
  · refine List.forall_mem_cons.2 ⟨?_, hrest.temporary⟩
    rw [hrest.other _ hgone]
    exact h.temporary s (List.mem_singleton_self s)
  · intro name hname
    obtain ⟨hs, hheld⟩ := List.forall_mem_cons.1 hname
    rw [hrest.other name hheld]
    apply h.other
    intro x hx
    rw [List.mem_singleton.1 hx]
    exact hs

theorem foldl_saveNext (snapshots : List Snapshot) (hdistinct : ((filled snapshots).map (·.guild)).Nodup)
    (hclear : ∀ s ∈ filled snapshots, IsClear s.guild.toNat d) (count : Nat) :
    ∃ d', snapshots.foldl saveNext (count, d) = (count + (filled snapshots).length, d') ∧
      Adds (filled snapshots) d d' := by
  induction snapshots generalizing d count with
  | nil => exact ⟨d, rfl, adds_nil d⟩
  | cons s snapshots ih =>
    rw [List.foldl_cons]
    cases hempty : s.isEmpty with
    | true =>
      have hfilled : filled (s :: snapshots) = filled snapshots := List.filter_cons_of_neg (by simp [hempty])
      have hstep : saveNext (count, d) s = (count, d) := by simp only [saveNext, hempty, if_true]
      rw [hfilled] at hdistinct hclear ⊢
      rw [hstep]
      exact ih hdistinct hclear count
    | false =>
      have hfilled : filled (s :: snapshots) = s :: filled snapshots := List.filter_cons_of_pos (by simp [hempty])
      rw [hfilled] at hdistinct hclear ⊢
      rw [List.map_cons, List.nodup_cons] at hdistinct
      have hne : ∀ s' ∈ filled snapshots, s.guild ≠ s'.guild := by
        intro s' hs' heq
        exact hdistinct.1 (heq ▸ List.mem_map_of_mem hs')
      obtain ⟨hs, hrest⟩ := List.forall_mem_cons.1 hclear
      obtain ⟨hdone, hadds⟩ := save_of_isClear hs
      have hstep : saveNext (count, d) s = (count + 1, (save s d).2) := by
        simp only [saveNext, hempty, Bool.false_eq_true, if_false, hdone, if_true]
      obtain ⟨d', hd', hadds'⟩ := ih (d := (save s d).2) hdistinct.2
        (fun s' hs' => hadds.isClear (hne s' hs') (hrest s' hs')) (count + 1)
      refine ⟨d', ?_, hadds.cons hadds' hne⟩
      rw [hstep, hd', List.length_cons, Nat.add_right_comm, Nat.add_assoc]

/-- Snapshots of different guilds are all saved, but for those that are empty. -/
theorem saveAll_some {snapshots : List Snapshot} (hdistinct : ((filled snapshots).map (·.guild)).Nodup)
    (hclear : ∀ s ∈ filled snapshots, IsClear s.guild.toNat d) :
    ∃ d', saveAll snapshots (some d) = ((filled snapshots).length, some d') ∧ Adds (filled snapshots) d d' := by
  obtain ⟨d', hd', hadds⟩ := foldl_saveNext snapshots hdistinct hclear 0
  refine ⟨d', ?_, hadds⟩
  simp only [saveAll, hd', Nat.zero_add]

-- ════════════════════════════════════════════════════════════════════════
-- Taking
-- ════════════════════════════════════════════════════════════════════════

theorem takeNext_eq (taken : List Snapshot) (d : Directory) (name : String) :
    takeNext (taken, d) name = ((named? d name).toList ++ taken, forget name d) := by
  unfold takeNext named? forget
  cases guildOfName? name <;> rfl

theorem forget_of_isSession (h : IsSession name d) : forget name d = d.erase name := by
  have hremoved : d.removeFile? name = some (d.erase name) := Directory.removeFile?_eq_some_iff.2 ⟨h.2, rfl⟩
  rw [forget, if_pos h.1, hremoved, Option.getD_some]

theorem forget_of_not_isSession (h : ¬ IsSession name d) : forget name d = d := by
  unfold forget
  split
  · next hname =>
    cases hremoved : d.removeFile? name with
    | none => rfl
    | some left => exact absurd ⟨hname, (Directory.removeFile?_eq_some_iff.1 hremoved).1⟩ h
  · rfl

theorem find?_forget_of_ne (h : found ≠ name) (d : Directory) : (forget name d).find? found = d.find? found := by
  by_cases hname : IsSession name d
  · rw [forget_of_isSession hname, Directory.find?_erase, if_neg h]
  · rw [forget_of_not_isSession hname]

theorem isSession_congr (h : d'.find? name = d.find? name) : IsSession name d' ↔ IsSession name d := by
  rw [IsSession, IsSession, h]

/-- What is no session stays, and so does what is not listed. -/
theorem find?_of_not_isSession {order : List String} (h : name ∈ order → ¬ IsSession name d)
    (taken : List Snapshot) : (order.foldl takeNext (taken, d)).2.find? name = d.find? name := by
  induction order generalizing d taken with
  | nil => rfl
  | cons first order ih =>
    rw [List.foldl_cons, takeNext_eq]
    have hfirst : (forget first d).find? name = d.find? name := by
      by_cases hname : name = first
      · rw [← hname, forget_of_not_isSession (h (by rw [hname]; exact List.mem_cons_self))]
      · exact find?_forget_of_ne hname d
    rw [ih, hfirst]
    intro hmem
    rw [isSession_congr hfirst]
    exact h (List.mem_cons_of_mem _ hmem)

/-- A session that is listed is removed, readable or not. -/
theorem find?_of_isSession {order : List String} (hlisted : name ∈ order) (h : IsSession name d)
    (taken : List Snapshot) : (order.foldl takeNext (taken, d)).2.find? name = none := by
  induction order generalizing d taken with
  | nil => cases hlisted
  | cons first order ih =>
    rw [List.foldl_cons, takeNext_eq]
    by_cases hname : name = first
    · have hgone : (forget first d).find? name = none := by
        rw [← hname, forget_of_isSession h, Directory.find?_erase, if_pos rfl]
      rw [find?_of_not_isSession, hgone]
      rintro - ⟨-, content, hcontent⟩
      rw [hgone] at hcontent
      cases hcontent
    · have hstays := find?_forget_of_ne hname d
      exact ih ((List.mem_cons.1 hlisted).resolve_left hname) ((isSession_congr hstays).2 h) _

theorem load?_congr (h : d'.find? (fileName guild) = d.find? (fileName guild)) : load? guild d' = load? guild d := by
  unfold load? Directory.readText
  rw [h]

theorem load?_of_not_file (h : ∀ content, d.find? (fileName guild) ≠ some (.file content)) :
    load? guild d = none := by
  unfold load? Directory.readText
  cases hfound : d.find? (fileName guild) with
  | none => rfl
  | some entry =>
    cases entry with
    | file content => exact absurd hfound (h content)
    | folder => rfl

theorem load?_of_not_isSession (hguild : guild ≤ Text.maxUInt64) (h : ¬ IsSession (fileName guild) d) :
    load? guild d = none := by
  apply load?_of_not_file
  intro content hfile
  exact h ⟨by rw [guildOfName?_fileName hguild, Option.isSome_some], content, hfile⟩

/-- Nothing can be loaded for a guild any more once the guild's own file was listed. Other names make no difference. -/
theorem load?_foldl_takeNext (hguild : guild ≤ Text.maxUInt64) (order : List String) (taken : List Snapshot)
    (d : Directory) : load? guild (order.foldl takeNext (taken, d)).2 =
      if fileName guild ∈ order then none else load? guild d := by
  split
  · next hlisted =>
    by_cases hsession : IsSession (fileName guild) d
    · apply load?_of_not_file
      intro content
      rw [find?_of_isSession hlisted hsession]
      exact nofun
    · rw [load?_congr (find?_of_not_isSession (fun _ => hsession) taken), load?_of_not_isSession hguild hsession]
  · next hlisted => exact load?_congr (find?_of_not_isSession (fun hmem => absurd hmem hlisted) taken)

/-- The snapshot with which a listed name is answered: that in the file of the guild that the name tells, unless that
file was listed before and is gone. -/
def answered? (order : List String) (d : Directory) (name : String) : Option Snapshot :=
  (guildOfName? name).bind fun guild =>
    if fileName guild ∈ order.takeWhile (· ≠ name) then none else load? guild d

theorem answered?_eq_named? {order : List String} (h : ∀ guild, guildOfName? name = some guild →
    name = fileName guild ∨ load? guild d = none) : answered? order d name = named? d name := by
  unfold answered? named?
  cases hguild : guildOfName? name with
  | none => rfl
  | some guild =>
    rw [Option.bind_some, Option.bind_some]
    split
    · next hbefore =>
      obtain rfl | hnone := h guild hguild
      · simpa using List.mem_takeWhile_imp hbefore
      · exact hnone.symm
    · rfl

/-- What stands in front of an element does not depend on what stands behind it. -/
theorem takeWhile_ne_concat {names : List String} (last : String) (h : name ∈ names) :
    (names ++ [last]).takeWhile (· ≠ name) = names.takeWhile (· ≠ name) := by
  induction names with
  | nil => cases h
  | cons first names ih =>
    rw [List.cons_append, List.takeWhile_cons, List.takeWhile_cons]
    by_cases hfirst : first = name
    · simp [hfirst]
    · rw [ih ((List.mem_cons.1 h).resolve_left (Ne.symm hfirst))]

/-- What is taken from a directory, whatever names it lists: each name is answered in turn. -/
theorem takeListed_eq {order : List String} (hnodup : order.Nodup) (d : Directory) :
    (takeListed order d).1 = order.filterMap (answered? order d) := by
  induction order using List.reverseRecOn with
  | nil => rfl
  | append_singleton order name ih =>
    have hnew : name ∉ order := fun hmem => (List.nodup_append.1 hnodup).2.2 name hmem name List.mem_cons_self rfl
    have hbefore : (order ++ [name]).takeWhile (· ≠ name) = order := by
      have hothers : ∀ other ∈ order, decide (other ≠ name) = true := fun other hother =>
        decide_eq_true (ne_of_mem_of_not_mem hother hnew)
      rw [List.takeWhile_append_of_pos hothers, List.takeWhile_cons_of_neg (by simp), List.append_nil]
    have hlast : named? (order.foldl takeNext ([], d)).2 name = answered? (order ++ [name]) d name := by
      unfold named? answered?
      rw [hbefore]
      cases hguild : guildOfName? name with
      | none => rfl
      | some guild => exact load?_foldl_takeNext (le_of_guildOfName? hguild) order [] d
    have hothers : order.filterMap (answered? (order ++ [name]) d) = order.filterMap (answered? order d) := by
      apply List.filterMap_congr
      intro other hother
      rw [answered?, takeWhile_ne_concat name hother, answered?]
    have htaken : (order.foldl takeNext ([], d)).1.reverse = order.filterMap (answered? order d) :=
      ih (List.nodup_append.1 hnodup).1
    change ((order ++ [name]).foldl takeNext ([], d)).1.reverse = _
    rw [List.foldl_append, List.foldl_cons, List.foldl_nil, takeNext_eq, List.reverse_append, htaken,
      List.filterMap_append, hothers, hlast, List.filterMap_cons, List.filterMap_nil]
    cases answered? (order ++ [name]) d name <;> rfl

-- ════════════════════════════════════════════════════════════════════════
-- Taking what was saved
-- ════════════════════════════════════════════════════════════════════════

theorem HoldsNoSession.load?_eq_none (h : HoldsNoSession d) (hguild : guild ≤ Text.maxUInt64) :
    load? guild d = none := by
  apply load?_of_not_file
  intro content hfile
  have hnone := h _ _ hfile
  rw [guildOfName?_fileName hguild] at hnone
  cases hnone

/-- From a directory without sessions nothing is taken, and nothing in it changes. -/
theorem takeListed_of_holdsNoSession (h : HoldsNoSession d) (order : List String) :
    takeListed order d = ([], d) := by
  have hstep : ∀ name, takeNext ([], d) name = ([], d) := by
    intro name
    have hsession : ¬ IsSession name d := by
      rintro ⟨hname, content, hcontent⟩
      rw [h name content hcontent] at hname
      cases hname
    have hnamed : named? d name = none := by
      unfold named?
      cases hguild : guildOfName? name with
      | none => rfl
      | some guild => exact h.load?_eq_none (le_of_guildOfName? hguild)
    rw [takeNext_eq, forget_of_not_isSession hsession, hnamed]
    rfl
  have hfoldl : order.foldl takeNext ([], d) = ([], d) := by
    induction order with
    | nil => rfl
    | cons name order ih => rw [List.foldl_cons, hstep, ih]
  rw [takeListed, hfoldl]
  rfl

theorem Adds.load?_eq_some (h : Adds held d d') (hs : s ∈ held) : load? s.guild.toNat d' = some s := by
  obtain ⟨text, hread, hparse⟩ := Snapshot.parse?_written s
  unfold Sessions.load? Directory.readText
  rw [h.file s hs]
  simp only [hread, hparse]

theorem Adds.named?_fileName (h : Adds held d d') (hs : s ∈ held) : named? d' (fileName s.guild.toNat) = some s := by
  rw [named?, guildOfName?_fileName (guild_le s), Option.bind_some, h.load?_eq_some hs]

theorem Adds.mem_names (h : Adds held d d') (hs : s ∈ held) : fileName s.guild.toNat ∈ d'.names :=
  Directory.mem_names_iff.2 ⟨_, h.file s hs⟩

theorem Adds.isSession (h : Adds held d d') (hs : s ∈ held) : IsSession (fileName s.guild.toNat) d' := by
  refine ⟨?_, _, h.file s hs⟩
  rw [guildOfName?_fileName (guild_le s), Option.isSome_some]

section

variable (h : Adds held d d') (hnone : HoldsNoSession d)
  (hfolders : ∀ s ∈ held, ∀ name, d.find? name = some .folder → guildOfName? name ≠ some s.guild.toNat)

include h hnone hfolders

/-- What a listed name tells once snapshots were saved where there were no sessions: it is the file of one of them, or
there is nothing to load. -/
theorem Adds.name_cases (hlisted : name ∈ d'.names) (hguild : guildOfName? name = some guild) :
    (∃ s ∈ held, name = fileName s.guild.toNat ∧ guild = s.guild.toNat) ∨ load? guild d' = none := by
  by_cases hfile : ∃ s ∈ held, name = fileName s.guild.toNat
  · obtain ⟨s, hs, rfl⟩ := hfile
    rw [guildOfName?_fileName (guild_le s)] at hguild
    exact .inl ⟨s, hs, rfl, (Option.some.inj hguild).symm⟩
  · have htold : ∀ s ∈ held, name ≠ temporaryName s.guild.toNat := by
      rintro s - rfl
      rw [guildOfName?_temporaryName] at hguild
      cases hguild
    have hbefore : d'.find? name = d.find? name := h.other name fun s hs =>
      ⟨fun heq => hfile ⟨s, hs, heq⟩, htold s hs⟩
    -- the name is that of a folder, whose guild is none of those that were saved
    have hfolder : d.find? name = some .folder := by
      obtain ⟨entry, hentry⟩ := Directory.mem_names_iff.1 hlisted
      rw [hbefore] at hentry
      cases entry with
      | file content =>
        rw [hnone name content hentry] at hguild
        cases hguild
      | folder => exact hentry
    right
    have hle := le_of_guildOfName? hguild
    have hother : d'.find? (fileName guild) = d.find? (fileName guild) := h.other _ fun s hs =>
      ⟨fun heq => hfolders s hs name hfolder (by rw [hguild, fileName_injective heq]), fileName_ne_temporaryName hle⟩
    rw [load?_congr hother]
    exact hnone.load?_eq_none hle

/-- What is read from a listed name is a snapshot that was saved under it. -/
theorem Adds.named?_eq_some (hlisted : name ∈ d'.names) (hread : named? d' name = some s) :
    s ∈ held ∧ name = fileName s.guild.toNat := by
  obtain ⟨guild, hguild, hload⟩ := Option.bind_eq_some_iff.1 hread
  rcases h.name_cases hnone hfolders hlisted hguild with ⟨s', hs', hfile, rfl⟩ | hmissing
  · rw [h.load?_eq_some hs'] at hload
    obtain rfl := Option.some.inj hload
    exact ⟨hs', hfile⟩
  · rw [hmissing] at hload
    cases hload

/-- What was saved where there were no sessions is taken, in any order. -/
theorem Adds.takeListed_perm (hnames : d.names.Nodup) (hdistinct : (held.map (·.guild)).Nodup) {order : List String}
    (horder : order.Perm d'.names) : (takeListed order d').1.Perm held := by
  have hnodup : order.Nodup := horder.nodup_iff.2 (h.nodup hnames)
  have hread : ∀ name ∈ order, ∀ s, named? d' name = some s → s ∈ held ∧ name = fileName s.guild.toNat :=
    fun name hname s hs => h.named?_eq_some hnone hfolders (horder.mem_iff.1 hname) hs
  have htaken : (takeListed order d').1 = order.filterMap (named? d') := by
    rw [takeListed_eq hnodup]
    apply List.filterMap_congr
    intro name hname
    apply answered?_eq_named?
    intro guild hguild
    refine (h.name_cases hnone hfolders (horder.mem_iff.1 hname) hguild).imp_left ?_
    rintro ⟨s, -, hfile, rfl⟩
    exact hfile
  rw [htaken, List.perm_ext_iff_of_nodup _ (List.Nodup.of_map _ hdistinct)]
  · intro s
    rw [List.mem_filterMap]
    constructor
    · rintro ⟨name, hname, hs⟩
      exact (hread name hname s hs).1
    · intro hs
      exact ⟨_, horder.mem_iff.2 (h.mem_names hs), h.named?_fileName hs⟩
  · -- one snapshot is read from one name only
    refine List.pairwise_filterMap.2 (hnodup.imp_of_mem fun {name name'} hname hname' hne s hs s' hs' heq => hne ?_)
    rw [(hread name hname s hs).2, (hread name' hname' s' hs').2, heq]

/-- What was no session before is still there, but for what was under a temporary name. -/
theorem Adds.find?_takeListed {order : List String} (horder : order.Perm d'.names)
    (htemporary : ∀ s ∈ held, name ≠ temporaryName s.guild.toNat) :
    (takeListed order d').2.find? name = d.find? name := by
  by_cases hfile : ∃ s ∈ held, name = fileName s.guild.toNat
  · obtain ⟨s, hs, rfl⟩ := hfile
    have hguild := guildOfName?_fileName (guild_le s)
    rw [takeListed, find?_of_isSession (horder.mem_iff.2 (h.mem_names hs)) (h.isSession hs)]
    cases hbefore : d.find? (fileName s.guild.toNat) with
    | none => rfl
    | some entry =>
      cases entry with
      | file content =>
        rw [hnone _ content hbefore] at hguild
        cases hguild
      | folder => exact absurd hguild (hfolders s hs _ hbefore)
  · have hbefore : d'.find? name = d.find? name := h.other name fun s hs =>
      ⟨fun heq => hfile ⟨s, hs, heq⟩, htemporary s hs⟩
    have hsession : ¬ IsSession name d' := by
      rintro ⟨hname, content, hcontent⟩
      rw [hbefore] at hcontent
      rw [hnone name content hcontent] at hname
      cases hname
    rw [takeListed, find?_of_not_isSession fun _ => hsession, hbefore]

end

/-- Whatever a directory held, no session is left in it once all its names were listed. -/
theorem holdsNoSession_takeListed {order : List String} (horder : order.Perm d.names) :
    HoldsNoSession (takeListed order d).2 := by
  intro name content hcontent
  by_contra hguild
  have hsome : (guildOfName? name).isSome = true := Option.isSome_iff_ne_none.2 hguild
  by_cases hsession : IsSession name d
  · have hname : name ∈ order := horder.mem_iff.2 (Directory.mem_names_iff.2 ⟨_, hsession.2.choose_spec⟩)
    rw [takeListed, find?_of_isSession hname hsession] at hcontent
    cases hcontent
  · rw [takeListed, find?_of_not_isSession fun _ => hsession] at hcontent
    exact hsession ⟨hsome, content, hcontent⟩

end Jukebox.Sessions
