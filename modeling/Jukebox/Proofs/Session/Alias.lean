import Jukebox.Proofs.Session.Store

/-!
# Sessions under other names

The number in the name of a session may be written with zeros or a plus sign in front. Such a name tells a guild, but
it is not the name of the guild's file. When it is listed, the guild's file is read in place of it, and it is removed
unread. What it held is lost, and what the guild's file holds is taken once more if that file is listed later.

## Main definitions

- `Sessions.isAlias` — a name tells a guild and is not the name of the guild's file
- `Sessions.held?` — the snapshot that a file with the name of a session holds

## Main results

- `Sessions.guildOfName?_eq_some_iff`, `Sessions.isAlias_iff` — which names tell a guild, and which of them are others
- `Sessions.takeAll_eq` — what is taken from any directory, and what is left of it
- `Sessions.taken_as_held_iff` — when the snapshots that are taken are those that the sessions hold
- `Sessions.taken_twice_and_lost` — a snapshot that is taken twice, and another one that is lost
-/

namespace Jukebox.Sessions

/-- The name tells a guild, but it is not the name of the guild's file. -/
def isAlias (name : String) : Bool :=
  (guildOfName? name).any fun guild => name ≠ fileName guild

/-- The snapshot of which a file has the written form. -/
def content? (name : String) (d : Directory) : Option Snapshot :=
  match d.readText name with
  | .text s => Snapshot.parse? s
  | .missing | .unreadable => none

/-- The snapshot that a file holds, if it has the name of a session. -/
def held? (d : Directory) (name : String) : Option Snapshot :=
  if (guildOfName? name).isSome then content? name d else none

/-- A directory that lists some names, of which one is a file with a snapshot and all others are folders. -/
def singleton (name : String) (s : Snapshot) (names : List String) : Directory :=
  ⟨names.map fun other => (other, if other = name then .file s.written else .folder)⟩

variable {name : String} {guild : Nat} {d : Directory} {s : Snapshot}

-- ════════════════════════════════════════════════════════════════════════
-- Names
-- ════════════════════════════════════════════════════════════════════════

/-- A name tells a guild by its number, written in any way. -/
theorem guildOfName?_eq_some_iff : guildOfName? name = some guild ↔ guild ≤ Text.maxUInt64 ∧
    ∃ number, Text.IsNumeralOf guild number ∧ name.toList = "guild_".toList ++ (number ++ ".json".toList) := by
  constructor
  · intro h
    obtain ⟨rest, hfront, h⟩ := Option.bind_eq_some_iff.1 h
    obtain ⟨number, hback, h⟩ := Option.bind_eq_some_iff.1 h
    have hread : Text.readUnsigned Text.maxUInt64 number = .ok guild := by
      cases hread : Text.readUnsigned Text.maxUInt64 number with
      | error fault =>
        rw [hread] at h
        cases h
      | ok n =>
        rw [hread] at h
        rw [Option.some.inj h]
    obtain ⟨hle, hnumber⟩ := Text.readUnsigned_eq_ok_iff.1 hread
    refine ⟨hle, number, hnumber, ?_⟩
    rw [Text.dropFront?_eq_some_iff.1 hfront, Text.dropBack?_eq_some_iff.1 hback]
  · rintro ⟨hle, number, hnumber, hname⟩
    have hfront := Text.dropFront?_eq_some_iff.2 hname
    have hback : Text.dropBack? ".json".toList (number ++ ".json".toList) = some number :=
      Text.dropBack?_eq_some_iff.2 rfl
    simp only [guildOfName?, hfront, hback, Text.readUnsigned_eq_ok_iff.2 ⟨hle, hnumber⟩, Option.bind_eq_bind,
      Option.bind_some]
    rfl

theorem isAlias_eq_true_iff :
    isAlias name = true ↔ ∃ guild, guildOfName? name = some guild ∧ name ≠ fileName guild := by
  rw [isAlias, Option.any_eq_true]
  simp only [decide_eq_true_eq]

/-- The other names are those with a plus sign or a needless zero in front of the number. -/
theorem isAlias_iff : isAlias name = true ↔ ∃ guild ≤ Text.maxUInt64, ∃ number, Text.IsNumeralOf guild number ∧
    name.toList = "guild_".toList ++ (number ++ ".json".toList) ∧
    (number.head? = some '+' ∨ number.head? = some '0' ∧ number ≠ ['0']) := by
  simp only [isAlias_eq_true_iff, guildOfName?_eq_some_iff]
  have hother : ∀ guild number, Text.IsNumeralOf guild number →
      name.toList = "guild_".toList ++ (number ++ ".json".toList) →
      (name ≠ fileName guild ↔ number.head? = some '+' ∨ number.head? = some '0' ∧ number ≠ ['0']) := by
    intro guild number hnumber hname
    have hsame : name = fileName guild ↔ number = Nat.toDigits 10 guild := by
      rw [← String.toList_inj, hname, toList_fileName, List.append_right_inj, List.append_left_inj]
    rw [Ne, hsame, hnumber.eq_toDigits_iff]
    tauto
  constructor
  · rintro ⟨guild, ⟨hle, number, hnumber, hname⟩, hne⟩
    exact ⟨guild, hle, number, hnumber, hname, (hother guild number hnumber hname).1 hne⟩
  · rintro ⟨guild, hle, number, hnumber, hname, hspelling⟩
    exact ⟨guild, ⟨hle, number, hnumber, hname⟩, (hother guild number hnumber hname).2 hspelling⟩

-- ════════════════════════════════════════════════════════════════════════
-- What is taken and what is left
-- ════════════════════════════════════════════════════════════════════════

/-- From a directory each name is answered in turn, and all files with the name of a session are removed. -/
theorem takeAll_eq (hnames : d.names.Nodup) : ∃ left,
    takeAll (some d) = (some (d.names.filterMap (answered? d.names d)), some left) ∧
      (∀ name, IsSession name d → left.find? name = none) ∧
      ∀ name, ¬ IsSession name d → left.find? name = d.find? name := by
  refine ⟨(takeListed d.names d).2, ?_, fun name hsession => ?_, fun name hsession => ?_⟩
  · rw [takeAll_some, takeListed_eq hnames]
  · exact find?_of_isSession (Directory.mem_names_iff.2 ⟨_, hsession.2.choose_spec⟩) hsession []
  · exact find?_of_not_isSession (fun _ => hsession) []

/-- The name of a guild's file is answered with what that file holds. -/
theorem answered?_of_not_isAlias (order : List String) (d : Directory) (h : isAlias name = false) :
    answered? order d name = held? d name := by
  have hproper : ∀ guild, guildOfName? name = some guild → name = fileName guild := by
    intro guild hguild
    by_contra hne
    rw [isAlias_eq_true_iff.2 ⟨guild, hguild, hne⟩] at h
    cases h
  rw [answered?_eq_named? fun guild hguild => .inl (hproper guild hguild), named?, held?]
  cases hguild : guildOfName? name with
  | none => rfl
  | some guild =>
    rw [Option.isSome_some, if_pos rfl, hproper guild hguild]
    rfl

/-- Names of guilds' files are answered right, so that all depends on the other names. -/
theorem answered_perm_held_iff (order : List String) (d : Directory) :
    (order.filterMap (answered? order d)).Perm (order.filterMap (held? d)) ↔
      ((order.filter isAlias).filterMap (answered? order d)).Perm ((order.filter isAlias).filterMap (held? d)) := by
  have hsplit : ∀ f : String → Option Snapshot, (order.filterMap f).Perm
      ((order.filter isAlias).filterMap f ++ (order.filter fun name => !isAlias name).filterMap f) := by
    intro f
    rw [← List.filterMap_append]
    exact (List.filter_append_perm isAlias order).symm.filterMap f
  have hproper : (order.filter fun name => !isAlias name).filterMap (answered? order d) =
      (order.filter fun name => !isAlias name).filterMap (held? d) := by
    apply List.filterMap_congr
    intro name hname
    exact answered?_of_not_isAlias order d (by simpa using (List.mem_filter.1 hname).2)
  rw [(hsplit _).congr_left, (hsplit _).congr_right, hproper, List.perm_append_right_iff]

-- ════════════════════════════════════════════════════════════════════════
-- Whatever the files hold
-- ════════════════════════════════════════════════════════════════════════

variable {names : List String}

theorem names_singleton (name : String) (s : Snapshot) (names : List String) :
    (singleton name s names).names = names := by
  rw [singleton, Directory.names, List.map_map]
  exact List.map_id names

theorem find?_singleton {other : String} (h : other ∈ names) : (singleton name s names).find? other =
    some (if other = name then .file s.written else .folder) :=
  List.lookup_graph (fun other => if other = name then Directory.Entry.file s.written else .folder) h

/-- Of such a directory nothing is taken if the file has the name of no guild's file. -/
theorem answered?_singleton (halias : isAlias name = true) (order : List String) (other : String) :
    answered? order (singleton name s names) other = none := by
  unfold answered?
  cases hguild : guildOfName? other with
  | none => rfl
  | some guild =>
    have hle := le_of_guildOfName? hguild
    have hne : fileName guild ≠ name := by
      rintro rfl
      obtain ⟨guild', hguild', hne⟩ := isAlias_eq_true_iff.1 halias
      rw [guildOfName?_fileName hle] at hguild'
      exact hne (congrArg fileName (Option.some.inj hguild'))
    have hnone : load? guild (singleton name s names) = none := by
      apply load?_of_not_file
      intro content hfile
      have hlisted : fileName guild ∈ names := by
        have hmem := Directory.mem_names_iff.2 ⟨_, hfile⟩
        rwa [names_singleton] at hmem
      rw [find?_singleton hlisted, if_neg hne] at hfile
      cases Option.some.inj hfile
    rw [Option.bind_some, hnone, ite_self]

theorem held?_singleton (halias : isAlias name = true) (hlisted : name ∈ names) :
    held? (singleton name s names) name = some s := by
  obtain ⟨guild, hguild, -⟩ := isAlias_eq_true_iff.1 halias
  obtain ⟨text, hread, hparse⟩ := Snapshot.parse?_written s
  have hfound : (singleton name s names).find? name = some (.file s.written) := by
    rw [find?_singleton hlisted, if_pos rfl]
  rw [held?, hguild, Option.isSome_some, if_pos rfl]
  simp only [content?, Directory.readText, hfound, hread, hparse]

/-- A file with another name may hold a snapshot that is not taken. -/
theorem not_perm_of_isAlias (halias : isAlias name = true) (hlisted : name ∈ names) (order : List String)
    (s : Snapshot) : ¬ (names.filterMap (answered? order (singleton name s names))).Perm
      (names.filterMap (held? (singleton name s names))) := by
  have hnothing : names.filterMap (answered? order (singleton name s names)) = [] :=
    List.filterMap_eq_nil_iff.2 fun other _ => answered?_singleton halias order other
  rw [hnothing, List.nil_perm]
  intro hnil
  have hheld := List.filterMap_eq_nil_iff.1 hnil name hlisted
  rw [held?_singleton halias hlisted] at hheld
  cases hheld

-- ════════════════════════════════════════════════════════════════════════
-- All sessions of a directory
-- ════════════════════════════════════════════════════════════════════════

/-- Whatever a directory holds, and in whatever order it lists it: all files with the name of a session are removed,
readable or not, and nothing else is touched. The snapshots that are taken are those that these files hold, each as
often as it is held, exactly if this is so for the names that are not those of a guild's file; each of those is
answered with what the guild's file holds, or with nothing if that was listed before. So the law holds for some names,
whatever is found under them, exactly if none of them tells a guild with a plus sign or a needless zero, which is what
such other names look like. -/
theorem taken_as_held_iff (hnames : d.names.Nodup) :
    (∃ left, takeAll (some d) = (some (d.names.filterMap (answered? d.names d)), some left) ∧
      (∀ name, IsSession name d → left.find? name = none) ∧
      ∀ name, ¬ IsSession name d → left.find? name = d.find? name) ∧
    ((d.names.filterMap (answered? d.names d)).Perm (d.names.filterMap (held? d)) ↔
      ((d.names.filter isAlias).filterMap (answered? d.names d)).Perm ((d.names.filter isAlias).filterMap (held? d))) ∧
    ((∀ d' : Directory, d'.names = d.names →
        ∃ taken, (takeAll (some d')).1 = some taken ∧ taken.Perm (d'.names.filterMap (held? d'))) ↔
      ∀ name ∈ d.names, isAlias name = false) ∧
    ∀ name, isAlias name = true ↔ ∃ guild ≤ Text.maxUInt64, ∃ number, Text.IsNumeralOf guild number ∧
      name.toList = "guild_".toList ++ (number ++ ".json".toList) ∧
      (number.head? = some '+' ∨ number.head? = some '0' ∧ number ≠ ['0']) := by
  have htaken : ∀ d' : Directory, d'.names = d.names →
      (takeAll (some d')).1 = some (d'.names.filterMap (answered? d'.names d')) := by
    intro d' hsame
    obtain ⟨left, htake, -⟩ := takeAll_eq (d := d') (by rwa [hsame])
    rw [htake]
  refine ⟨takeAll_eq hnames, answered_perm_held_iff d.names d, ⟨?_, ?_⟩, fun _ => isAlias_iff⟩
  · intro hall name hlisted
    by_contra halias
    have halias : isAlias name = true := by simpa using halias
    let s : Snapshot := ⟨0, 0, 0, 0, none, []⟩
    have hsame := names_singleton name s d.names
    obtain ⟨taken, htake, hperm⟩ := hall (singleton name s d.names) hsame
    rw [htaken _ hsame, hsame, Option.some_inj] at htake
    rw [← htake, hsame] at hperm
    exact not_perm_of_isAlias halias hlisted d.names s hperm
  · intro hproper d' hsame
    refine ⟨_, htaken d' hsame, (answered_perm_held_iff d'.names d').2 ?_⟩
    have hnone : d'.names.filter isAlias = [] := by
      rw [hsame, List.filter_eq_nil_iff]
      intro name hname
      simp [hproper name hname]
    rw [hnone]
    exact List.Perm.refl _

/-- Of two files for one guild, the one with a needless zero is listed first. What it holds is lost, and what the other
one holds is taken twice. -/
theorem taken_twice_and_lost :
    let lost : Snapshot := ⟨7, 0, 0, 80, none, []⟩
    let kept : Snapshot := ⟨7, 0, 0, 90, none, []⟩
    let d : Directory := ⟨[("guild_07.json", .file lost.written), ("guild_7.json", .file kept.written)]⟩
    d.names.Nodup ∧ d.names.filterMap (held? d) = [lost, kept] ∧
      ∃ left, takeAll (some d) = (some [kept, kept], some left) ∧ ∀ name ∈ d.names, left.find? name = none := by
  intro lost kept d
  have hnames : d.names.Nodup := by decide
  have hguild : guildOfName? "guild_07.json" = some 7 := by decide +kernel
  have hguild' : guildOfName? "guild_7.json" = some 7 := by decide +kernel
  obtain ⟨text, hread, hparse⟩ := Snapshot.parse?_written lost
  obtain ⟨text', hread', hparse'⟩ := Snapshot.parse?_written kept
  have hlost : content? "guild_07.json" d = some lost := by
    have hfound : d.find? "guild_07.json" = some (.file lost.written) := rfl
    simp only [content?, Directory.readText, hfound, hread, hparse]
  have hkept : content? "guild_7.json" d = some kept := by
    have hfound : d.find? "guild_7.json" = some (.file kept.written) := rfl
    simp only [content?, Directory.readText, hfound, hread', hparse']
  have hfile : fileName 7 = "guild_7.json" := by decide +kernel
  have hload : load? 7 d = some kept := by
    rw [← hkept, ← hfile]
    rfl
  obtain ⟨left, htake, hgone, -⟩ := (taken_as_held_iff hnames).1
  refine ⟨hnames, ?_, left, ?_, ?_⟩
  · change ["guild_07.json", "guild_7.json"].filterMap (held? d) = _
    simp [held?, hguild, hguild', hlost, hkept]
  · have hanswered : d.names.filterMap (answered? d.names d) = [kept, kept] := by
      change ["guild_07.json", "guild_7.json"].filterMap (answered? ["guild_07.json", "guild_7.json"] d) = _
      simp [answered?, hguild, hguild', hfile, hload]
    rw [htake, hanswered]
  · refine List.forall_mem_cons.2 ⟨hgone _ ⟨by rw [hguild]; rfl, _, rfl⟩, ?_⟩
    exact List.forall_mem_singleton.2 (hgone _ ⟨by rw [hguild']; rfl, _, rfl⟩)

end Jukebox.Sessions
