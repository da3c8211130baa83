import Jukebox.Command
import Jukebox.Proofs.Config
import Jukebox.Proofs.SearchPrefix
import Jukebox.Proofs.Text.Lower
import Jukebox.Proofs.Text.Trim

/-!
# Commands to play

A message asks for something to be played if it is the command prefix with the name of the command behind it, some
blanks and what is to be played. Blanks around the message do not count. That is the trouble with a prefix that itself
begins with a blank: the blank is taken away together with those around the message, and nothing that users type is a
command any more.

## Main definitions

- `Command.Asks` — a text is a command prefix, a name of the command to play, blanks and a query
- `Command.BeginsBlank` — the first character of a command prefix is a blank

## Main results

- `Command.parse?_eq_play_iff` — which messages ask for something to be played
- `Command.parse?_of_beginsBlank` — nothing is a command behind a prefix that begins with a blank
- `Command.play_is_recognised_iff` — with which command prefixes all that asks for something is recognised
-/

namespace Jukebox

namespace Command

open Text (AllBlank IsTrimmed isBlank lowerAscii)

variable {front name query s : List Char} {content q : String}

-- ════════════════════════════════════════════════════════════════════════
-- Names
-- ════════════════════════════════════════════════════════════════════════

/-- The name of the command to play, in letters of any case. -/
def IsPlayName (name : List Char) : Prop :=
  name.map lowerAscii = "play".toList ∨ name.map lowerAscii = "p".toList

theorem IsPlayName.printable (h : IsPlayName name) : ∀ c ∈ name, 0x20 < c.toNat ∧ c.toNat < 0x80 := by
  intro c hc
  have hletter : lowerAscii c ∈ "play".toList := by
    have hmem : lowerAscii c ∈ name.map lowerAscii := List.mem_map_of_mem hc
    obtain h | h := h
    · rwa [h] at hmem
    · rw [h] at hmem
      rw [List.mem_singleton.1 hmem]
      decide
  have hrange : ∀ d ∈ "play".toList, 'a' ≤ d ∧ d ≤ 'z' := List.forall_iff_forall_mem.1 (by decide)
  obtain ⟨hlow, hhigh⟩ := hrange _ hletter
  exact Text.printable_of_lowerAscii hlow hhigh

theorem IsPlayName.isBlank_eq_false (h : IsPlayName name) : ∀ c ∈ name, isBlank c = false := by
  intro c hc
  obtain ⟨hlow, hhigh⟩ := h.printable c hc
  exact Text.isBlank_of_printable hlow hhigh

/-- The command to play is told by its name in lower case. No letters beyond ASCII are taken for those of the name. -/
theorem lower_eq_iff : Text.lower name = "play".toList ∨ Text.lower name = "p".toList ↔ IsPlayName name := by
  constructor
  · intro h
    have hletters : ∀ d ∈ Text.lower name, d.toNat ∈ [0x61, 0x6C, 0x70, 0x79] := by
      obtain h | h := h <;> rw [h] <;> exact List.forall_iff_forall_mem.1 (by decide)
    have hascii : ∀ c ∈ name, c.toNat < 0x80 := Text.ascii_of_lower (by decide) (by decide +kernel) hletters
    rwa [Text.lower_of_ascii hascii] at h
  · intro h
    rwa [Text.lower_of_ascii fun c hc => (h.printable c hc).2]

-- ════════════════════════════════════════════════════════════════════════
-- Messages
-- ════════════════════════════════════════════════════════════════════════

/-- The text is a command prefix, a name of the command to play, some blanks and a query. -/
def Asks (front query s : List Char) : Prop :=
  ∃ name gap, IsPlayName name ∧ gap ≠ [] ∧ AllBlank gap ∧ s = front ++ (name ++ (gap ++ query))

/-- There is something to be played, and no blank stands at its ends. -/
def IsQuery (query : List Char) : Prop := query ≠ [] ∧ IsTrimmed query

/-- The first character of a command prefix is a blank. -/
def BeginsBlank (front : List Char) : Prop := ∃ c, front.head? = some c ∧ isBlank c = true

/-- The message asks for the query, with any blanks around it. -/
def Sends (front query content : List Char) : Prop :=
  ∃ before message after, AllBlank before ∧ AllBlank after ∧ Asks front query message ∧
    content = before ++ (message ++ after)

theorem ofName?_eq_play_iff {args : List Char} :
    ofName? (String.ofList (Text.lower name)) (String.ofList args) = some (play q) ↔
      IsPlayName name ∧ args ≠ [] ∧ args = q.toList := by
  have hof : ∀ {s : List Char} {t : String}, String.ofList s = t ↔ s = t.toList := by
    intro s t
    rw [← String.toList_inj, String.toList_ofList]
  rw [← lower_eq_iff, ← hof, ← hof, ← hof, ← String.ofList_eq_empty_iff.ne]
  unfold ofName?
  split <;> simp_all

/-- Something is to be played if a name of the command stands behind the prefix, up to a blank, and something behind
the blank. -/
theorem parse?_eq_play_iff_split {front : String} :
    parse? front content = some (play q) ↔
      ∃ name b after, IsPlayName name ∧ isBlank b = true ∧ Text.trim after = q.toList ∧ q.toList ≠ [] ∧
        Text.trim content.toList = front.toList ++ (name ++ b :: after) := by
  simp only [parse?, Option.bind_eq_bind, Option.bind_eq_some_iff, Text.dropFront?_eq_some_iff, ofName?_eq_play_iff]
  constructor
  · rintro ⟨rest, hrest, hname, hne, hargs⟩
    cases hparts : Text.splitAt? isBlank rest with
    | none =>
      -- without a blank there are no arguments
      rw [hparts] at hne
      exact absurd rfl hne
    | some parts =>
      obtain ⟨name, args⟩ := parts
      rw [hparts, Option.getD_some] at hname hne hargs
      obtain ⟨b, hb, hwhole, -⟩ := Text.splitAt?_eq_some hparts
      exact ⟨name, b, args, hname, hb, hargs, hargs ▸ hne, hwhole ▸ hrest⟩
  · rintro ⟨name, b, after, hname, hb, hargs, hne, hwhole⟩
    have hsplit : Text.splitAt? isBlank (name ++ b :: after) = some (name, after) :=
      Text.splitAt?_append hname.isBlank_eq_false hb after
    refine ⟨_, hwhole, ?_⟩
    rw [hsplit, Option.getD_some]
    exact ⟨hname, hargs ▸ hne, hargs⟩

/-- Something is to be played exactly if the message, without the blanks around it, asks for it. -/
theorem parse?_eq_play_iff {front : String} :
    parse? front content = some (play q) ↔
      IsQuery q.toList ∧ Asks front.toList q.toList (Text.trim content.toList) := by
  rw [parse?_eq_play_iff_split]
  constructor
  · rintro ⟨name, b, after, hname, hb, hargs, hne, hwhole⟩
    obtain ⟨htrimmed, gap, back, hgap, hback, rfl⟩ := Text.trim_eq_iff.1 hargs
    -- the whole message is trimmed, so no blanks are left behind the query
    have hnil : back = [] := by
      have hall := Text.isTrimmed_trim content.toList
      have hassoc : Text.trim content.toList = front.toList ++ (name ++ b :: (gap ++ q.toList)) ++ back := by
        simp only [hwhole, List.append_assoc, List.cons_append]
      exact (hassoc ▸ hall).eq_nil_of_append hback
    rw [hnil, List.append_nil] at hwhole
    exact ⟨⟨hne, htrimmed⟩, name, b :: gap, hname, List.cons_ne_nil b gap, List.forall_mem_cons.2 ⟨hb, hgap⟩, hwhole⟩
  · rintro ⟨⟨hne, htrimmed⟩, name, gap, hname, hgap, hblank, hwhole⟩
    obtain ⟨b, gap, rfl⟩ := List.exists_cons_of_ne_nil hgap
    obtain ⟨hb, hgap⟩ := List.forall_mem_cons.1 hblank
    have hargs : Text.trim (gap ++ q.toList) = q.toList :=
      Text.trim_eq_iff.2 ⟨htrimmed, gap, [], hgap, nofun, by rw [List.append_nil]⟩
    exact ⟨name, b, _, hname, hb, hargs, hne, hwhole⟩

/-- Nothing is a command behind a prefix that begins with a blank: no message begins with one once it is trimmed. -/
theorem parse?_of_beginsBlank {front : String} (h : BeginsBlank front.toList) (content : String) :
    parse? front content = none := by
  obtain ⟨b, hhead, hb⟩ := h
  have hdrop : Text.dropFront? front.toList (Text.trim content.toList) = none := by
    apply Option.eq_none_iff_forall_ne_some.2
    intro rest hrest
    have hstart := (Text.isTrimmed_trim content.toList).starts b
    rw [Text.dropFront?_eq_some_iff.1 hrest, List.head?_append, hhead] at hstart
    exact absurd hb (Bool.eq_false_iff.1 (hstart rfl))
  rw [parse?, hdrop]
  rfl

/-- A text that asks for something has no blanks around it, unless its command prefix begins with one. -/
theorem Asks.isTrimmed (h : Asks front query s) (hfront : ¬ BeginsBlank front) (hquery : IsQuery query) :
    IsTrimmed s := by
  obtain ⟨name, gap, hname, -, -, rfl⟩ := h
  have hne : name ≠ [] := by
    rintro rfl
    obtain h | h := hname <;> cases h
  constructor
  · intro c hc
    cases front with
    | nil =>
      rw [List.nil_append, List.head?_append_of_ne_nil _ hne] at hc
      exact hname.isBlank_eq_false c (List.mem_of_head? hc)
    | cons d front => exact Bool.eq_false_iff.2 fun hblank => hfront ⟨c, hc, hblank⟩
  · intro c hc
    rw [← List.append_assoc, ← List.append_assoc, List.getLast?_append_of_ne_nil _ hquery.1] at hc
    exact hquery.2.ends c hc

/-- Settings may have any text for a command prefix that an environment can hold. What is recognised as asking for
something to be played does ask for it, character by character. The converse, that all that asks for something is
recognised with any blanks around it, is true of exactly the prefixes that do not begin with a blank; behind the others
nothing is a command at all. -/
theorem play_is_recognised_iff (front : String) :
    (∀ o : Config.Overflow, (∃ env c, env.IsPossible ∧ Config.load o env = .ok c ∧ c.commandPrefix = front) ↔
      '\x00' ∉ front.toList) ∧
    (∀ content q, parse? front content = some (play q) ↔
      IsQuery q.toList ∧ Asks front.toList q.toList (Text.trim content.toList)) ∧
    ((∀ content q, IsQuery q.toList → Sends front.toList q.toList content.toList →
      parse? front content = some (play q)) ↔ ¬ BeginsBlank front.toList) ∧
    (BeginsBlank front.toList → ∀ content, parse? front content = none) := by
  refine ⟨fun o => Config.exists_load_commandPrefix_iff o front, fun _ _ => parse?_eq_play_iff, ?_,
    parse?_of_beginsBlank⟩
  constructor
  · intro h hblank
    have hquery : IsQuery "x".toList := ⟨nofun, by constructor <;> rintro c ⟨⟩ <;> rfl⟩
    have hasks : Asks front.toList "x".toList (front.toList ++ "play x".toList) :=
      ⟨"play".toList, [' '], .inl rfl, nofun, List.forall_mem_singleton.2 rfl, rfl⟩
    have hsends : Sends front.toList "x".toList (String.ofList (front.toList ++ "play x".toList)).toList :=
      ⟨[], _, [], nofun, nofun, hasks, by rw [String.toList_ofList, List.append_nil, List.nil_append]⟩
    have hplay := h _ "x" hquery hsends
    rw [parse?_of_beginsBlank hblank] at hplay
    cases hplay
  · rintro hfront content q hq ⟨before, message, after, hbefore, hafter, hasks, hcontent⟩
    have htrim : Text.trim content.toList = message :=
      Text.trim_eq_iff.2 ⟨hasks.isTrimmed hfront hq, before, after, hbefore, hafter, hcontent⟩
    exact parse?_eq_play_iff.2 ⟨hq, htrim ▸ hasks⟩

end Command

end Jukebox
