import Jukebox.Proofs.Player.Roster
import Jukebox.Proofs.Session.Store

/-!
# Sessions survive a restart

When the process ends, what the players are doing is saved, one file for each guild. When it starts again the files
are taken and replayed. What is lost on the way are tracks that cannot be written as bytes, and with them the players
that have no other tracks. It makes no difference in which order the players are captured and the files are listed.

A folder can stand in the way. Under the name to which a session is written at first it keeps the session from being
saved, and under a name that tells the guild it has the session taken twice. No other entry of the directory matters.

## Main definitions

- `Player.survivor?` — what is left of a player after a restart
- `Sessions.IsFree` — no folder stands in the way of the session of a guild
- `Sessions.resume` — takes the sessions of a directory and replays them

## Main results

- `Sessions.foldl_restoreNext` — what replaying the snapshots of some players comes to
- `Sessions.filled_perm` — the snapshots that are saved are those of the players of which something is left
- `Sessions.restore_of_perm` — replaying them into a new roster
- `Sessions.restart_brings_back` — a roster after a restart
- `Sessions.not_forall_saved` — a folder keeps a session from being saved
-/

namespace Jukebox

namespace Player

/-- What is left of a player after a restart: the items whose tracks can be written as bytes. The first of them plays,
where it was if it is the current one, and otherwise from its beginning. -/
def survivor? (p : Player) : Option Player :=
  match p.representable with
  | [] => none
  | first :: rest => some {
      guild := p.guild
      queue := { maxSize := p.queue.maxSize, pending := rest, current := some first }
      positionMs := if p.queue.current = some first then p.positionMs else 0
      volume := p.volume
      voice := p.voice
      text := p.text }

variable {p : Player} {maxQueue : Nat}

theorem isSome_survivor?_iff : p.survivor?.isSome = true ↔ p.representable ≠ [] := by
  unfold survivor?
  cases p.representable <;> simp

theorem representable_of_isIdle (h : p.isIdle = true) : p.representable = [] := by
  obtain ⟨hpending, hcurrent⟩ := isIdle_iff.1 h
  rw [representable, line, hpending, hcurrent]
  rfl

/-- The snapshot of a sound player brings back all that can be left of it. -/
theorem Sound.survivor?_eq (h : p.Sound maxQueue) (hsome : p.representable ≠ []) :
    p.survivor? = some (p.revived p.guild maxQueue) := by
  obtain ⟨first, rest, hline⟩ := List.exists_cons_of_ne_nil hsome
  have hlength : rest.length ≤ maxQueue := by
    have hle : p.representable.length ≤ p.line.length := List.length_filter_le _ _
    have hpending := h.pending_le
    have hcurrent : p.queue.current.toList.length ≤ 1 := by
      cases p.queue.current <;> simp
    rw [hline, List.length_cons, line, List.length_append] at hle
    omega
  rw [survivor?, revived, hline]
  simp only [List.tail_cons, List.head?_cons, List.take_of_length_le hlength, h.maxSize_eq, current_eq_head_iff hline]

end Player

namespace Sessions

variable {r : Roster} {p : Player} {d : Directory} {snapshots : List Snapshot}

/-- No folder stands in the way of the session of a guild. -/
def IsFree (guild : Id) (d : Directory) : Prop :=
  d.find? (temporaryName guild.val.toNat) ≠ some .folder ∧
    ∀ name, d.find? name = some .folder → guildOfName? name ≠ some guild.val.toNat

/-- Takes the sessions of a directory that lists its names in the given order, and replays them. -/
def resume (order : List String) (d : Directory) (r : Roster) : (Nat × Roster) × Directory :=
  (restore (takeListed order d).1 r, (takeListed order d).2)

theorem IsFree.isClear {guild : Id} (h : IsFree guild d) : IsClear guild.val.toNat d := by
  refine ⟨fun hfolder => h.2 _ hfolder ?_, h.1⟩
  exact guildOfName?_fileName (Nat.le_of_lt_succ guild.val.toNat_lt)

-- ════════════════════════════════════════════════════════════════════════
-- Replaying the sessions
-- ════════════════════════════════════════════════════════════════════════

/-- The snapshots of different players of which something is left are all replayed, each for its guild. -/
theorem foldl_restoreNext (hbound : 0 < r.maxQueue) (hdistinct : (snapshots.map (·.guild)).Nodup)
    (hcaptured : ∀ s ∈ snapshots, ∃ p : Player, s = (Snapshot.capture p).1 ∧ p.volume ≤ Player.maxVolume ∧
      p.representable ≠ [] ∧ r.find? p.guild = none) (count : Nat) :
    (snapshots.foldl restoreNext (count, r)).1 = count + snapshots.length ∧
    (∀ p : Player, p.volume ≤ Player.maxVolume → (Snapshot.capture p).1 ∈ snapshots →
      (snapshots.foldl restoreNext (count, r)).2.find? p.guild = some (p.revived p.guild r.maxQueue)) ∧
    (∀ guild : Id, (∀ s ∈ snapshots, s.guild ≠ guild.val) →
      (snapshots.foldl restoreNext (count, r)).2.find? guild = r.find? guild) := by
  induction snapshots generalizing r count with
  | nil => exact ⟨rfl, nofun, fun _ _ => rfl⟩
  | cons s snapshots ih =>
    rw [List.map_cons, List.nodup_cons] at hdistinct
    obtain ⟨⟨p, rfl, hvolume, hsome, hnew⟩, hrest⟩ := List.forall_mem_cons.1 hcaptured
    have hstep : restoreNext (count, r) (Snapshot.capture p).1 = (count + 1, r.put (p.revived p.guild r.maxQueue)) := by
      have hguild : Id.ofNumber? (Snapshot.capture p).1.guild = some p.guild := Id.ofNumber?_number (some p.guild)
      have hplayer : r.player p.guild = Player.new p.guild r.maxQueue := by rw [Roster.player, hnew, Option.getD_none]
      have hkept : 0 < min p.representable.length (r.maxQueue + 1) := by
        have hlength := List.length_pos_iff.2 hsome
        omega
      simp only [restoreNext, hguild, hplayer, Snapshot.restore_capture hvolume hbound, if_pos hkept]
    have hput : ∀ guild, (r.put (p.revived p.guild r.maxQueue)).find? guild =
        if guild = p.guild then some (p.revived p.guild r.maxQueue) else r.find? guild :=
      fun guild => Roster.find?_put _ guild r
    have hother : ∀ s ∈ snapshots, s.guild ≠ p.guild.val := by
      intro s hs heq
      exact hdistinct.1 (List.mem_map.2 ⟨s, hs, heq⟩)
    obtain ⟨hcount, hback, hsame⟩ := ih (r := r.put (p.revived p.guild r.maxQueue))
      (by rwa [Roster.maxQueue_put]) hdistinct.2 (by
        intro s hs
        obtain ⟨p', rfl, hvolume', hsome', hnew'⟩ := hrest s hs
        refine ⟨p', rfl, hvolume', hsome', ?_⟩
        rw [hput, if_neg fun heq => hother _ hs (congrArg Id.val heq)]
        exact hnew') (count + 1)
    rw [List.foldl_cons, hstep]
    rw [Roster.maxQueue_put] at hback
    refine ⟨?_, ?_, ?_⟩
    · rw [hcount, List.length_cons]
      omega
    · intro p' hvolume' hmem
      rcases List.mem_cons.1 hmem with hsnapshot | hmem
      · -- equal snapshots bring back equal players
        have hguild : p'.guild = p.guild := Id.eq_of_val_eq (congrArg Snapshot.guild hsnapshot)
        have hrevived : p'.revived p.guild r.maxQueue = p.revived p.guild r.maxQueue := by
          have hreplayed := Snapshot.restore_capture hvolume' hbound p.guild
          rw [hsnapshot, Snapshot.restore_capture hvolume hbound] at hreplayed
          exact (Prod.mk.inj hreplayed).2.symm
        rw [hguild, hsame p.guild hother, hput, if_pos rfl, hrevived]
      · exact hback p' hvolume' hmem
    · intro guild hguild
      obtain ⟨hfirst, hguild⟩ := List.forall_mem_cons.1 hguild
      rw [hsame guild hguild, hput, if_neg fun heq => hfirst (congrArg Id.val heq.symm)]

-- ════════════════════════════════════════════════════════════════════════
-- Capturing the players
-- ════════════════════════════════════════════════════════════════════════

/-- The players of which something is left. -/
def survivors (r : Roster) : List Player := r.players.filter fun p => p.survivor?.isSome

theorem mem_survivors_iff : p ∈ survivors r ↔ p ∈ r.players ∧ p.representable ≠ [] := by
  rw [survivors, List.mem_filter, Player.isSome_survivor?_iff]

/-- The snapshots that are saved are those of the players of which something is left. -/
theorem filled_perm (h : snapshots.Perm (capture r)) :
    (filled snapshots).Perm ((survivors r).map fun p => (Snapshot.capture p).1) := by
  have hwhich : ∀ p : Player, (!(Snapshot.capture p).1.isEmpty && !p.isIdle) = p.survivor?.isSome := by
    intro p
    rw [Bool.eq_iff_iff, Bool.and_eq_true, Bool.not_eq_true', Bool.not_eq_true', Player.isSome_survivor?_iff,
      ← Bool.not_eq_true, Snapshot.isEmpty_capture_iff, ← Bool.not_eq_true]
    constructor
    · intro hp
      exact hp.1
    · intro hsome
      exact ⟨hsome, fun hidle => hsome (Player.representable_of_isIdle hidle)⟩
  have hcapture : filled (capture r) =
      (r.sorted.filter fun p => p.survivor?.isSome).map fun p => (Snapshot.capture p).1 := by
    rw [filled, capture, List.filter_map, List.filter_filter]
    exact congrArg (List.map _) (List.filter_congr fun p _ => hwhich p)
  have hfilled : (filled snapshots).Perm (filled (capture r)) := h.filter _
  rw [hcapture] at hfilled
  exact hfilled.trans ((r.sorted_perm.filter _).map _)

/-- A snapshot that is saved is that of a player of which something is left. -/
theorem exists_survivor_of_mem_filled (h : snapshots.Perm (capture r)) {s : Snapshot} (hs : s ∈ filled snapshots) :
    ∃ p ∈ survivors r, s = (Snapshot.capture p).1 := by
  obtain ⟨p, hp, rfl⟩ := List.mem_map.1 ((filled_perm h).mem_iff.1 hs)
  exact ⟨p, hp, rfl⟩

theorem length_filled (h : snapshots.Perm (capture r)) :
    (filled snapshots).length = r.players.countP (·.survivor?.isSome) := by
  rw [(filled_perm h).length_eq, List.length_map, survivors, List.countP_eq_length_filter]

/-- The snapshots that are saved are those of different guilds. -/
theorem nodup_guilds_filled (hreachable : r.Reachable) (h : snapshots.Perm (capture r)) :
    ((filled snapshots).map (·.guild)).Nodup := by
  have hguilds : ((survivors r).map Player.guild).Nodup := hreachable.nodup.sublist (List.filter_sublist.map _)
  have hnumbers := hguilds.map fun _ _ => Id.eq_of_val_eq
  rw [((filled_perm h).map _).nodup_iff, List.map_map]
  rwa [List.map_map] at hnumbers

/-- Replayed into a new roster in any order, the snapshots that were saved bring back what is left of each player. -/
theorem restore_of_perm (hreachable : r.Reachable) (hbound : 0 < r.maxQueue) (hsnapshots : snapshots.Perm (capture r))
    {taken : List Snapshot} (htaken : taken.Perm (filled snapshots)) :
    (restore taken { maxQueue := r.maxQueue }).1 = r.players.countP (·.survivor?.isSome) ∧
      ∀ guild, (restore taken { maxQueue := r.maxQueue }).2.find? guild =
        (r.find? guild).bind Player.survivor? := by
  have hfresh : ∀ guild, Roster.find? guild { maxQueue := r.maxQueue } = none := fun _ => rfl
  have hcaptured : ∀ s ∈ taken, ∃ p ∈ survivors r, s = (Snapshot.capture p).1 := fun s hs =>
    exists_survivor_of_mem_filled hsnapshots (htaken.mem_iff.1 hs)
  obtain ⟨hcount, hback, hsame⟩ := foldl_restoreNext (r := { maxQueue := r.maxQueue }) hbound
    ((htaken.map _).nodup_iff.2 (nodup_guilds_filled hreachable hsnapshots)) (by
      intro s hs
      obtain ⟨p, hp, rfl⟩ := hcaptured s hs
      obtain ⟨hplayer, hsome⟩ := mem_survivors_iff.1 hp
      exact ⟨p, rfl, (hreachable.sound hplayer).volume_le, hsome, hfresh p.guild⟩) 0
  have hmissing : ∀ guild, (∀ p ∈ survivors r, p.guild ≠ guild) →
      (restore taken { maxQueue := r.maxQueue }).2.find? guild = none := by
    intro guild hguild
    refine (hsame guild fun s hs heq => ?_).trans (hfresh guild)
    obtain ⟨p, hp, rfl⟩ := hcaptured s hs
    exact hguild p hp (Id.eq_of_val_eq heq)
  refine ⟨?_, fun guild => ?_⟩
  · rw [restore, hcount, Nat.zero_add, htaken.length_eq, length_filled hsnapshots]
  · cases hfound : r.find? guild with
    | none =>
      refine hmissing guild fun p hp heq => ?_
      rw [hreachable.find?_eq_some_iff.2 ⟨(mem_survivors_iff.1 hp).1, heq⟩] at hfound
      cases hfound
    | some p =>
      obtain ⟨hp, rfl⟩ := hreachable.find?_eq_some_iff.1 hfound
      rw [Option.bind_some]
      by_cases hsome : p.representable = []
      · have hsurvivor : p.survivor? = none := by rw [Player.survivor?, hsome]
        rw [hsurvivor]
        refine hmissing p.guild fun p' hp' heq => ?_
        obtain ⟨hplayer, hsome'⟩ := mem_survivors_iff.1 hp'
        rw [hreachable.find?_eq_some_iff.2 ⟨hplayer, heq⟩] at hfound
        obtain rfl := Option.some.inj hfound
        exact hsome' hsome
      · have hsound := hreachable.sound hp
        have hmem : (Snapshot.capture p).1 ∈ taken := by
          rw [htaken.mem_iff, (filled_perm hsnapshots).mem_iff]
          exact List.mem_map_of_mem (mem_survivors_iff.2 ⟨hp, hsome⟩)
        rw [hsound.survivor?_eq hsome]
        exact hback p hsound.volume_le hmem

-- ════════════════════════════════════════════════════════════════════════
-- Restarting
-- ════════════════════════════════════════════════════════════════════════

/-- Saved where there were no sessions, and taken from there in any order the directory lists them, the sessions bring
back what can be left of the players: each guild has the player again that it had, as far as its tracks can be written
as bytes, and the guilds that had no such track have none. As many sessions are saved as are replayed. Nothing of them
is left in the directory, so that replaying them once more does nothing. -/
theorem restart_brings_back (hreachable : r.Reachable) (hbound : 0 < r.maxQueue) (hnames : d.names.Nodup)
    (hnone : HoldsNoSession d) (hfree : ∀ p ∈ r.players, p.survivor?.isSome = true → IsFree p.guild d)
    (hsnapshots : snapshots.Perm (capture r)) :
    ∃ saved, saveAll snapshots (some d) = (r.players.countP (·.survivor?.isSome), some saved) ∧
      ∀ order, order.Perm saved.names → ∃ r' left,
        resume order saved { maxQueue := r.maxQueue } = ((r.players.countP (·.survivor?.isSome), r'), left) ∧
        (∀ guild, r'.find? guild = (r.find? guild).bind Player.survivor?) ∧
        HoldsNoSession left ∧
        (∀ name, (∀ p ∈ r.players, p.survivor?.isSome = true → name ≠ temporaryName p.guild.val.toNat) →
          left.find? name = d.find? name) ∧
        ∀ order', resume order' left r' = ((0, r'), left) := by
  have hdistinct := nodup_guilds_filled hreachable hsnapshots
  -- each snapshot that is saved is that of a player whose guild is free
  have howner : ∀ s ∈ filled snapshots, ∃ p ∈ r.players, p.survivor?.isSome = true ∧ s.guild = p.guild.val := by
    intro s hs
    obtain ⟨p, hp, rfl⟩ := exists_survivor_of_mem_filled hsnapshots hs
    obtain ⟨hplayer, hsome⟩ := List.mem_filter.1 hp
    exact ⟨p, hplayer, hsome, rfl⟩
  have hclear : ∀ s ∈ filled snapshots, IsClear s.guild.toNat d := by
    intro s hs
    obtain ⟨p, hp, hsome, hguild⟩ := howner s hs
    rw [hguild]
    exact (hfree p hp hsome).isClear
  have hfolders : ∀ s ∈ filled snapshots, ∀ name, d.find? name = some .folder →
      guildOfName? name ≠ some s.guild.toNat := by
    intro s hs name hfolder
    obtain ⟨p, hp, hsome, hguild⟩ := howner s hs
    rw [hguild]
    exact (hfree p hp hsome).2 name hfolder
  obtain ⟨saved, hsave, hadds⟩ := saveAll_some hdistinct hclear
  rw [length_filled hsnapshots] at hsave
  refine ⟨saved, hsave, fun order horder => ?_⟩
  have htaken := hadds.takeListed_perm hnone hfolders hnames hdistinct horder
  have hnothing : HoldsNoSession (takeListed order saved).2 := holdsNoSession_takeListed horder
  obtain ⟨hcount, hback⟩ := restore_of_perm hreachable hbound hsnapshots htaken
  refine ⟨_, (takeListed order saved).2, Prod.ext (Prod.ext hcount rfl) rfl, hback, hnothing, ?_, ?_⟩
  · intro name hname
    apply hadds.find?_takeListed hnone hfolders horder
    intro s hs
    obtain ⟨p, hp, hsome, hguild⟩ := howner s hs
    rw [hguild]
    exact hname p hp hsome
  · intro order'
    rw [resume, takeListed_of_holdsNoSession hnothing]
    rfl

/-- Of three guilds, one goes on where it was, without the track that is lost. Another one lost what it played and
starts with what was pending. The third one lost all it had, and the folder that stands in its way does not matter. -/
theorem two_of_three_resume :
    let two : Id := ⟨2, by decide⟩
    let three : Id := ⟨3, by decide⟩
    let kept : QueueItem := ⟨⟨"kept", "author", 1000, "id", false, none, "youtube"⟩, two⟩
    let lost : QueueItem := ⟨⟨"lost", "author", 1000, "id", false, none, "local"⟩, three⟩
    let r : Roster := ⟨2, [
      (Player.new two 2).run [.resumeAt lost.track three 700, .enqueue [kept.track] two],
      (Player.new .one 2).run [.enqueue [kept.track, kept.track] two, .setPosition 1500, .enqueue [lost.track] three],
      (Player.new three 2).run [.enqueue [lost.track] three]]⟩
    let d : Directory := ⟨[("notes.txt", .file [0x61]), ("guild_3.json.tmp", .folder), ("guild_9.json", .folder)]⟩
    ∃ saved, saveAll (capture r) (some d) = (2, some saved) ∧ ∃ r' left,
      resume saved.names.reverse saved ⟨2, []⟩ = ((2, r'), left) ∧
      r'.find? .one = some { guild := .one, queue := ⟨2, [kept], some kept⟩, positionMs := 1500 } ∧
      r'.find? two = some { guild := two, queue := ⟨2, [], some kept⟩ } ∧
      r'.find? three = none ∧
      left.find? "notes.txt" = some (.file [0x61]) ∧
      resume left.names left r' = ((0, r'), left) := by
  intro two three kept lost r d
  have hreachable : r.Reachable := by
    refine ⟨by decide +kernel, ?_⟩
    simp only [r, List.forall_mem_cons]
    exact ⟨⟨_, rfl⟩, ⟨_, rfl⟩, ⟨_, rfl⟩, nofun⟩
  have hnone : HoldsNoSession d := by
    intro name content hfile
    have hname : ∀ name ∈ d.names, guildOfName? name = none ∨ name = "guild_9.json" := by decide +kernel
    rcases hname name (Directory.mem_names_iff.2 ⟨_, hfile⟩) with hnone | rfl
    · exact hnone
    · cases hfile
  have hfree : ∀ p ∈ r.players, p.survivor?.isSome = true → IsFree p.guild d := by
    intro p hp hsome
    have hclear : ∀ p ∈ r.players, p.survivor?.isSome = true → temporaryName p.guild.val.toNat ∉ d.names ∧
        ∀ name ∈ d.names, guildOfName? name ≠ some p.guild.val.toNat := by decide +kernel
    obtain ⟨htemporary, hnames⟩ := hclear p hp hsome
    exact ⟨fun hfolder => htemporary (Directory.mem_names_iff.2 ⟨_, hfolder⟩),
      fun name hfolder => hnames name (Directory.mem_names_iff.2 ⟨_, hfolder⟩)⟩
  have hcount : r.players.countP (·.survivor?.isSome) = 2 := by decide +kernel
  obtain ⟨saved, hsaved, hresume⟩ :=
    restart_brings_back hreachable Nat.two_pos (by decide +kernel) hnone hfree (List.Perm.refl (capture r))
  obtain ⟨r', left, hback, hplayers, -, hothers, hagain⟩ := hresume _ (List.reverse_perm saved.names)
  rw [hcount] at hsaved hback
  refine ⟨saved, hsaved, r', left, hback, ?_, ?_, ?_, ?_, hagain _⟩
  · rw [hplayers]
    decide +kernel
  · rw [hplayers]
    decide +kernel
  · rw [hplayers]
    decide +kernel
  · rw [hothers]
    · rfl
    · decide +kernel

/-- A folder under the temporary name keeps a session from being saved, though there was none before. -/
theorem not_forall_saved : ¬ ∀ (r : Roster) (d : Directory), r.Reachable → 0 < r.maxQueue → d.names.Nodup →
    (∀ name ∈ d.names, guildOfName? name = none) →
    (saveAll (capture r) (some d)).1 = r.players.countP (·.survivor?.isSome) := by
  intro hall
  let track : Track := ⟨"a", "author", 1000, "id", false, none, "youtube"⟩
  let p : Player := (Player.new .one 1).run [.enqueue [track] .one]
  let d : Directory := ⟨[("guild_1.json.tmp", .folder)]⟩
  have hreachable : Roster.Reachable ⟨1, [p]⟩ :=
    ⟨List.nodup_singleton _, List.forall_mem_cons.2 ⟨⟨[.enqueue [track] .one], rfl⟩, nofun⟩⟩
  have hnames : ∀ name ∈ d.names, guildOfName? name = none :=
    List.forall_mem_cons.2 ⟨by decide +kernel, nofun⟩
  have hcapture : capture ⟨1, [p]⟩ = [(Snapshot.capture p).1] := by
    rw [capture, Roster.sorted, List.mergeSort_singleton]
    rfl
  have hsaved := hall ⟨1, [p]⟩ d hreachable Nat.one_pos (List.nodup_singleton _) hnames
  rw [hcapture] at hsaved
  revert hsaved
  decide +kernel

end Sessions

end Jukebox
