import Jukebox.Proofs.Json.Document

/-!
# Documents on many lines

A document with every item and field on a line of its own spells the same tokens as on one line. What is added are
line ends and blanks, and they stand where the scanner passes over them: behind opening brackets, commas and
colons, and before closing brackets.

## Main results

- `Json.spells_prettyAt` — a document on many lines spells its tokens
- `Json.isText_prettyAt` — a document on many lines is a text
- `Json.parse?_pretty` — a document that is written on many lines is read back
-/

namespace Jukebox.Json

-- ════════════════════════════════════════════════════════════════════════
-- Blanks
-- ════════════════════════════════════════════════════════════════════════

theorem isBlank_newLine (level : Nat) : IsBlank (newLine level) := by
  intro b hb
  rcases List.mem_cons.1 hb with rfl | hb
  · decide
  · rw [List.eq_of_mem_replicate hb]
    decide

theorem isBlank_space : IsBlank [code ' '] := by
  intro b hb
  rw [List.mem_singleton.1 hb]
  decide

theorem IsBlank.isText {blanks : Bytes} (h : IsBlank blanks) : blanks.IsText := by
  have hlt : ∀ b ∈ [code ' ', code '\t', code '\n', code '\r'], b < 128 := List.forall_iff_forall_mem.1 (by decide)
  exact Bytes.isText_of_lt fun b hb => hlt b (List.contains_iff_mem.1 (h b hb))

-- ════════════════════════════════════════════════════════════════════════
-- Blocks
-- ════════════════════════════════════════════════════════════════════════

theorem prettyItems_eq_map (level : Nat) (items : List Json) :
    prettyItems level items = items.map (prettyAt level) := by
  induction items with
  | nil => rfl
  | cons item items ih => rw [prettyItems, ih, List.map_cons]

theorem prettyFields_eq_map (level : Nat) (fields : List (Bytes × Json)) :
    prettyFields level fields =
      fields.map fun field => quoted field.1 ++ code ':' :: code ' ' :: prettyAt level field.2 := by
  induction fields with
  | nil => rfl
  | cons field fields ih => rw [prettyFields, ih, List.map_cons]

/-- Parts on lines of their own between two marks. -/
theorem spells_block {α : Type} {bytes : α → Bytes} {ts : α → List Token} {opening closing : Char}
    {first last : Token} (level : Nat) (parts : List α) (hfirst : mark? (code opening) = some first)
    (hlast : mark? (code closing) = some last) (h : ∀ part ∈ parts, Spells (bytes part) (ts part)) :
    Spells (block level opening closing (parts.map bytes))
      (first :: ([.comma].intercalate (parts.map ts) ++ [last])) := by
  unfold block
  cases parts with
  | nil => exact Spells.nil.mark hfirst (Spells.nil.mark hlast .nil)
  | cons part parts =>
    have hjoined := spells_joined (isBlank_newLine (level + 1)) (part :: parts) h
    have hinside := (hjoined.skip (isBlank_newLine (level + 1))).trail (isBlank_newLine level)
    exact Spells.nil.mark hfirst (hinside.mark hlast .nil)

theorem isText_block {α : Type} {bytes : α → Bytes} {opening closing : Char} {first last : Token} (level : Nat)
    (parts : List α) (hfirst : mark? (code opening) = some first) (hlast : mark? (code closing) = some last)
    (h : ∀ part ∈ parts, (bytes part).IsText) : (block level opening closing (parts.map bytes)).IsText := by
  unfold block
  cases parts with
  | nil => exact isText_mark hfirst (isText_mark hlast isText_nil)
  | cons part parts =>
    have hline : ∀ level, (newLine level).IsText := fun level => (isBlank_newLine level).isText
    have hcomma : Bytes.IsText (code ',' :: newLine (level + 1)) := isText_mark rfl (hline (level + 1))
    have hjoined := isText_joined hcomma (part :: parts) h
    have hinside := ((hline (level + 1)).append hjoined).append (hline level)
    exact isText_mark hfirst (hinside.append (isText_mark hlast isText_nil))

-- ════════════════════════════════════════════════════════════════════════
-- Documents
-- ════════════════════════════════════════════════════════════════════════

/-- A document on many lines spells its tokens. -/
theorem spells_prettyAt {j : Json} (h : IsSpelt j) (level : Nat) : Spells (j.prettyAt level) j.tokens := by
  induction h generalizing level with
  | null => exact spells_compact .null
  | bool b => exact spells_compact (.bool b)
  | number h => exact spells_compact (.number h)
  | string h => exact spells_compact (.string h)
  | array _ ih =>
    rw [prettyAt, tokens, prettyItems_eq_map, itemTokens_eq_map]
    exact spells_block level _ rfl rfl fun item hitem => ih item hitem (level + 1)
  | object hnames _ ih =>
    rw [prettyAt, tokens, prettyFields_eq_map, fieldTokens_eq_map]
    refine spells_block level _ rfl rfl fun field hfield => ?_
    have hvalue := (ih field hfield (level + 1)).skip isBlank_space
    exact (spells_quoted (hnames field hfield).isSpelling).mark rfl hvalue

/-- A document on many lines is a text. -/
theorem isText_prettyAt {j : Json} (h : IsSpelt j) (level : Nat) : (j.prettyAt level).IsText := by
  induction h generalizing level with
  | null => exact isText_compact .null
  | bool b => exact isText_compact (.bool b)
  | number h => exact isText_compact (.number h)
  | string h => exact isText_compact (.string h)
  | array _ ih =>
    rw [prettyAt, prettyItems_eq_map]
    exact isText_block level _ rfl rfl fun item hitem => ih item hitem (level + 1)
  | object hnames _ ih =>
    rw [prettyAt, prettyFields_eq_map]
    refine isText_block level _ rfl rfl fun field hfield => ?_
    have hvalue := isBlank_space.isText.append (ih field hfield (level + 1))
    exact (isText_quoted (hnames field hfield).isText).append (isText_mark rfl hvalue)

/-- A document that is written on many lines is read back. -/
theorem parse?_pretty {j : Json} (h : IsSpelt j) : parse? j.pretty = some j :=
  parse?_of_spells h (spells_prettyAt h 0)

end Jukebox.Json
