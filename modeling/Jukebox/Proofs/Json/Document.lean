import Jukebox.Json.Decode
import Jukebox.Proofs.Json.Spelling
import Jukebox.Proofs.Text.Number
import Mathlib.Data.List.Basic
import Mathlib.Data.List.Nodup
import Mathlib.Data.List.TakeWhile

/-!
# Documents are read back

A document that is written on one line is read back as it was. The scanner turns the text into the tokens of the
document, since each token ends where the next mark begins, and the reader puts these together again.

## Main definitions

- `Json.IsNumeral` — the spelling of a number that the scanner collects
- `Json.IsString` — the spelling of a string that the scanner reads and that is a text
- `Json.IsSpelt` — the strings and numbers of a document are spelt as they should be
- `Json.tokens` — the tokens of a document
- `Json.marks` — the bytes that are tokens on their own
- `Json.IsBlank` — some bytes are blank between tokens
- `Json.Spells` — the scanner reads some bytes as some tokens

## Main results

- `Json.spells_compact` — a document on one line spells its tokens
- `Json.builds_of_isSpelt` — the reader takes the tokens of a document for the document
- `Json.isText_compact` — a document on one line is a text
- `Json.parse?_of_spells` — what spells the tokens of a document is read as the document
- `Json.parse?_compact` — a document that is written on one line is read back
- `Json.isNumeral_ofNat`, `Json.whole?_ofNat` — numbers are spelt as they should be, and read back
- `Json.fields?_ofFields` — the fields of a record are read back
-/

namespace Jukebox.Json

/-- The bytes are the spelling of a number, and the scanner collects all of them. -/
structure IsNumeral (literal : Bytes) : Prop where
  starts : ∃ b rest, literal = b :: rest ∧ (b = code '-' ∨ isDigit b = true)
  collected : ∀ b ∈ literal, inNumber b = true
  isNumber : isNumber literal = true

/-- The bytes are a text that the scanner reads in a string. -/
structure IsString (spelling : Bytes) : Prop where
  isSpelling : IsSpelling spelling
  isText : spelling.IsText

/-- All strings of the document are texts that the scanner can read, and all its numbers are numbers. -/
inductive IsSpelt : Json → Prop where
  | null : IsSpelt .null
  | bool (b : Bool) : IsSpelt (.bool b)
  | number {literal : Bytes} (h : IsNumeral literal) : IsSpelt (.number literal)
  | string {spelling : Bytes} (h : IsString spelling) : IsSpelt (.string spelling)
  | array {items : List Json} (h : ∀ item ∈ items, IsSpelt item) : IsSpelt (.array items)
  | object {fields : List (Bytes × Json)} (hnames : ∀ field ∈ fields, IsString field.1)
      (hvalues : ∀ field ∈ fields, IsSpelt field.2) : IsSpelt (.object fields)

mutual

/-- The tokens of a document. -/
def tokens : Json → List Token
  | .array items => .openArray :: ([.comma].intercalate (itemTokens items) ++ [.closeArray])
  | .object fields => .openObject :: ([.comma].intercalate (fieldTokens fields) ++ [.closeObject])
  | .null => [.scalar .null]
  | .bool b => [.scalar (.bool b)]
  | .number literal => [.scalar (.number literal)]
  | .string spelling => [.scalar (.string spelling)]

/-- The tokens of each item. -/
def itemTokens : List Json → List (List Token)
  | [] => []
  | item :: items => tokens item :: itemTokens items

/-- The tokens of each field. -/
def fieldTokens : List (Bytes × Json) → List (List Token)
  | [] => []
  | (name, value) :: fields =>
    (.scalar (.string name) :: .colon :: tokens value) :: fieldTokens fields

end

-- ════════════════════════════════════════════════════════════════════════
-- Marks
-- ════════════════════════════════════════════════════════════════════════

/-- The bytes that are tokens on their own. -/
def marks : Bytes := [code '[', code ']', code '\x7b', code '\x7d', code ',', code ':']

theorem mem_of_mark? {b : UInt8} {t : Token} (h : mark? b = some t) : b ∈ marks := by
  unfold mark? at h
  simp only [marks, List.mem_cons, List.not_mem_nil, or_false]
  grind

/-- Between tokens a mark is read as its token. -/
theorem scanIdle?_of_mark? {b : UInt8} {t : Token} (h : mark? b = some t) (tokens : List Token) :
    scanIdle? tokens b = some (.idle, t :: tokens) := by
  have hother : ∀ b ∈ marks, isSpace b = false ∧ b ≠ code '"' ∧ (b = code '-' || isDigit b) = false ∧
      inWord b = false := List.forall_iff_forall_mem.1 (by decide)
  obtain ⟨hspace, hquote, hnumber, hword⟩ := hother b (mem_of_mark? h)
  simp [scanIdle?, hspace, hquote, hnumber, hword, h]

/-- A mark is no part of a number or a word. -/
theorem ends_of_mark? {b : UInt8} {t : Token} (h : mark? b = some t) :
    inNumber b = false ∧ inWord b = false := by
  have hends : ∀ b ∈ marks, inNumber b = false ∧ inWord b = false := List.forall_iff_forall_mem.1 (by decide)
  exact hends b (mem_of_mark? h)

-- ════════════════════════════════════════════════════════════════════════
-- Scanning
-- ════════════════════════════════════════════════════════════════════════

/-- The scanner has read the tokens, and whatever it may be collecting ends with the text or with the next
mark. -/
structure Rests (state : Scan × List Token) (tokens : List Token) : Prop where
  ends : scanEnd? state = some tokens
  marks : ∀ b t, mark? b = some t → scanByte? state b = some (.idle, t :: tokens)

theorem rests_idle (tokens : List Token) : Rests (.idle, tokens) tokens :=
  ⟨rfl, fun _ _ hb => scanIdle?_of_mark? hb tokens⟩

theorem rests_number {read : Bytes} (h : isNumber read.reverse = true) (tokens : List Token) :
    Rests (.number read, tokens) (.scalar (.number read.reverse) :: tokens) := by
  have hend : endNumber? read tokens = some (.scalar (.number read.reverse) :: tokens) := if_pos h
  refine ⟨hend, fun b t hb => ?_⟩
  simp [scanByte?, (ends_of_mark? hb).1, hend, scanIdle?_of_mark? hb]

theorem rests_word {read : Bytes} {value : Json} (h : word? read.reverse = some value) (tokens : List Token) :
    Rests (.word read, tokens) (.scalar value :: tokens) := by
  have hend : endWord? read tokens = some (.scalar value :: tokens) := by
    rw [endWord?, h, Option.map_some]
  refine ⟨hend, fun b t hb => ?_⟩
  simp [scanByte?, (ends_of_mark? hb).2, hend, scanIdle?_of_mark? hb]

/-- The bytes are blank between tokens. -/
def IsBlank (bytes : Bytes) : Prop := ∀ b ∈ bytes, isSpace b = true

/-- What the scanner may be collecting ends with a blank, too. -/
theorem Rests.space {state : Scan × List Token} {tokens : List Token} {b : UInt8} (h : Rests state tokens)
    (hb : isSpace b = true) : scanByte? state b = some (.idle, tokens) := by
  have hother : ∀ b ∈ [code ' ', code '\t', code '\n', code '\r'], inNumber b = false ∧ inWord b = false :=
    List.forall_iff_forall_mem.1 (by decide)
  obtain ⟨hnumber, hword⟩ := hother b (List.contains_iff_mem.1 hb)
  have hidle : scanIdle? tokens b = some (.idle, tokens) := if_pos hb
  obtain ⟨scan, before⟩ := state
  have hends := h.ends
  cases scan with
  | idle =>
    obtain rfl := Option.some.inj hends
    exact hidle
  | number read =>
    change endNumber? read before = some tokens at hends
    simp [scanByte?, hnumber, hends, hidle]
  | word read =>
    change endWord? read before = some tokens at hends
    simp [scanByte?, hword, hends, hidle]
  | string | escape | digits => cases hends

/-- The scanner reads the bytes as the tokens. -/
def Spells (bytes : Bytes) (ts : List Token) : Prop :=
  ∀ tokens, ∃ state, bytes.foldlM scanByte? (.idle, tokens) = some state ∧ Rests state (ts.reverse ++ tokens)

theorem Spells.nil : Spells [] [] := fun tokens => ⟨_, rfl, rests_idle tokens⟩

/-- A mark stands between what is read before it and what is read behind it. -/
theorem Spells.mark {front rest : Bytes} {ts ts' : List Token} {b : UInt8} {t : Token}
    (hfront : Spells front ts) (hb : mark? b = some t) (hrest : Spells rest ts') :
    Spells (front ++ b :: rest) (ts ++ t :: ts') := by
  intro tokens
  obtain ⟨middle, hmiddle, hrests⟩ := hfront tokens
  obtain ⟨state, hstate, hend⟩ := hrest (t :: (ts.reverse ++ tokens))
  refine ⟨state, ?_, ?_⟩
  · rw [List.foldlM_append, hmiddle, Option.bind_eq_bind, Option.bind_some, List.foldlM_cons,
      hrests.marks b t hb, Option.bind_eq_bind, Option.bind_some, hstate]
  · simpa using hend

theorem foldlM_of_isBlank {blanks : Bytes} (h : IsBlank blanks) (tokens : List Token) :
    blanks.foldlM scanByte? (.idle, tokens) = some (.idle, tokens) := by
  induction blanks with
  | nil => rfl
  | cons b blanks ih =>
    obtain ⟨hb, hblanks⟩ := List.forall_mem_cons.1 h
    rw [List.foldlM_cons, (rests_idle tokens).space hb, Option.bind_eq_bind, Option.bind_some, ih hblanks]

/-- Blanks may stand in front of what is read. -/
theorem Spells.skip {blanks rest : Bytes} {ts : List Token} (hblanks : IsBlank blanks) (h : Spells rest ts) :
    Spells (blanks ++ rest) ts := by
  intro tokens
  obtain ⟨state, hstate, hend⟩ := h tokens
  refine ⟨state, ?_, hend⟩
  rw [List.foldlM_append, foldlM_of_isBlank hblanks, Option.bind_eq_bind, Option.bind_some, hstate]

/-- Blanks may stand behind what is read. -/
theorem Spells.trail {front blanks : Bytes} {ts : List Token} (h : Spells front ts) (hblanks : IsBlank blanks) :
    Spells (front ++ blanks) ts := by
  intro tokens
  obtain ⟨state, hstate, hend⟩ := h tokens
  rw [List.foldlM_append, hstate, Option.bind_eq_bind, Option.bind_some]
  cases blanks with
  | nil => exact ⟨state, rfl, hend⟩
  | cons b blanks =>
    obtain ⟨hb, hrest⟩ := List.forall_mem_cons.1 hblanks
    refine ⟨_, ?_, rests_idle _⟩
    rw [List.foldlM_cons, hend.space hb, Option.bind_eq_bind, Option.bind_some, foldlM_of_isBlank hrest]

theorem spells_quoted {spelling : Bytes} (h : IsSpelling spelling) :
    Spells (quoted spelling) [.scalar (.string spelling)] := by
  intro tokens
  refine ⟨(.idle, .scalar (.string spelling) :: tokens), ?_, rests_idle _⟩
  have hopen : scanByte? (.idle, tokens) (code '"') = some (.string [], tokens) := by rfl
  rw [quoted, List.foldlM_cons, hopen, Option.bind_eq_bind, Option.bind_some, List.foldlM_append,
    h [] tokens, Option.bind_eq_bind, Option.bind_some, List.foldlM_cons]
  simp [scanByte?]

theorem spells_numeral {literal : Bytes} (h : IsNumeral literal) :
    Spells literal [.scalar (.number literal)] := by
  intro tokens
  obtain ⟨b, rest, rfl, hstart⟩ := h.starts
  have hopen : scanByte? (.idle, tokens) b = some (.number [b], tokens) := by
    have hother : ∀ b ∈ [code ' ', code '\t', code '\n', code '\r', code '"'],
        (b = code '-' || isDigit b) = false := List.forall_iff_forall_mem.1 (by decide)
    have hstart : (b = code '-' || isDigit b) = true := by simpa using hstart
    have hne : b ∉ [code ' ', code '\t', code '\n', code '\r', code '"'] := fun hb => by
      rw [hother b hb] at hstart
      cases hstart
    simp only [List.mem_cons, List.not_mem_nil, or_false, not_or] at hne
    simp [scanByte?, scanIdle?, isSpace, hne, hstart]
  have hcollect : ∀ (bytes read : Bytes), (∀ b ∈ bytes, inNumber b = true) →
      bytes.foldlM scanByte? (.number read, tokens) = some (.number (bytes.reverse ++ read), tokens) := by
    intro bytes
    induction bytes with
    | nil => intro read _; rfl
    | cons b bytes ih =>
      intro read hall
      obtain ⟨hb, hbytes⟩ := List.forall_mem_cons.1 hall
      simp [List.foldlM_cons, scanByte?, hb, ih _ hbytes]
  refine ⟨(.number (b :: rest).reverse, tokens), ?_, ?_⟩
  · rw [List.foldlM_cons, hopen, Option.bind_eq_bind, Option.bind_some,
      hcollect _ _ (List.forall_mem_cons.1 h.collected).2, List.reverse_cons]
  · have hrests := @rests_number (b :: rest).reverse (by rw [List.reverse_reverse]; exact h.isNumber) tokens
    rwa [List.reverse_reverse] at hrests

/-- Parts with commas between them, and blanks behind the commas. -/
theorem spells_joined {α : Type} {bytes : α → Bytes} {ts : α → List Token} {blanks : Bytes}
    (hblanks : IsBlank blanks) (parts : List α) (h : ∀ part ∈ parts, Spells (bytes part) (ts part)) :
    Spells (joined (code ',' :: blanks) (parts.map bytes)) ([.comma].intercalate (parts.map ts)) := by
  unfold joined
  induction parts with
  | nil => exact .nil
  | cons part parts ih =>
    obtain ⟨hpart, hparts⟩ := List.forall_mem_cons.1 h
    cases parts with
    | nil => simpa using hpart
    | cons next parts =>
      rw [List.map_cons, List.map_cons, List.map_cons, List.map_cons, List.intercalate_cons_cons,
        List.intercalate_cons_cons, List.append_assoc, List.append_assoc]
      exact hpart.mark rfl ((ih hparts).skip hblanks)

theorem isBlank_nil : IsBlank [] := fun _ hb => nomatch hb

theorem compactItems_eq_map (items : List Json) : compactItems items = items.map compact := by
  induction items with
  | nil => rfl
  | cons item items ih => rw [compactItems, ih, List.map_cons]

theorem compactFields_eq_map (fields : List (Bytes × Json)) :
    compactFields fields = fields.map fun field => quoted field.1 ++ code ':' :: compact field.2 := by
  induction fields with
  | nil => rfl
  | cons field fields ih => rw [compactFields, ih, List.map_cons]

theorem itemTokens_eq_map (items : List Json) : itemTokens items = items.map tokens := by
  induction items with
  | nil => rfl
  | cons item items ih => rw [itemTokens, ih, List.map_cons]

theorem fieldTokens_eq_map (fields : List (Bytes × Json)) :
    fieldTokens fields = fields.map fun field => .scalar (.string field.1) :: .colon :: tokens field.2 := by
  induction fields with
  | nil => rfl
  | cons field fields ih => rw [fieldTokens, ih, List.map_cons]

/-- A document on one line spells its tokens. -/
theorem spells_compact {j : Json} (h : IsSpelt j) : Spells j.compact j.tokens := by
  induction h with
  | null => exact fun tokens => ⟨_, rfl, @rests_word (Bytes.ofString "null").reverse _ rfl tokens⟩
  | bool b =>
    cases b with
    | true => exact fun tokens => ⟨_, rfl, @rests_word (Bytes.ofString "true").reverse _ rfl tokens⟩
    | false => exact fun tokens => ⟨_, rfl, @rests_word (Bytes.ofString "false").reverse _ rfl tokens⟩
  | number h =>
    rw [compact, tokens]
    exact spells_numeral h
  | string h =>
    rw [compact, tokens]
    exact spells_quoted h.isSpelling
  | array _ ih =>
    rw [compact, tokens, compactItems_eq_map, itemTokens_eq_map]
    exact Spells.nil.mark rfl ((spells_joined isBlank_nil _ ih).mark rfl .nil)
  | object hnames _ ih =>
    rw [compact, tokens, compactFields_eq_map, fieldTokens_eq_map]
    refine Spells.nil.mark rfl ((spells_joined isBlank_nil _ fun field hfield => ?_).mark rfl .nil)
    exact (spells_quoted (hnames field hfield).isSpelling).mark rfl (ih field hfield)

-- ════════════════════════════════════════════════════════════════════════
-- Texts
-- ════════════════════════════════════════════════════════════════════════

theorem isString_escape (s : String) : IsString (escape s) :=
  ⟨isSpelling_escape s, Bytes.isText_ofString _⟩

theorem isSpelt_ofFields {fields : List (String × Json)} (h : ∀ field ∈ fields, IsSpelt field.2) :
    IsSpelt (ofFields fields) := by
  refine .object (fun _ hmem => ?_) fun _ hmem => ?_
  · obtain ⟨field, -, rfl⟩ := List.mem_map.1 hmem
    exact isString_escape field.1
  · obtain ⟨field, hfield, rfl⟩ := List.mem_map.1 hmem
    exact h field hfield

theorem isText_mark {b : UInt8} {t : Token} (h : mark? b = some t) {bytes : Bytes} (hbytes : bytes.IsText) :
    Bytes.IsText (b :: bytes) := by
  have hlt : ∀ b ∈ marks, b < 128 := List.forall_iff_forall_mem.1 (by decide)
  have hfirst : Bytes.IsText [b] := Bytes.isText_of_lt fun x hx => by
    rw [List.mem_singleton.1 hx]
    exact hlt b (mem_of_mark? h)
  exact hfirst.append hbytes

theorem isText_quoted {spelling : Bytes} (h : spelling.IsText) : (quoted spelling).IsText := by
  have hquote : Bytes.IsText [code '"'] := Bytes.isText_of_lt (List.forall_iff_forall_mem.1 (by decide))
  exact hquote.append (h.append hquote)

theorem IsNumeral.isText {literal : Bytes} (h : IsNumeral literal) : literal.IsText := by
  refine Bytes.isText_of_lt fun b hb => ?_
  have hcollected := h.collected b hb
  have hother : ∀ b ∈ [code '-', code '+', code '.', code 'e', code 'E'], b < 128 :=
    List.forall_iff_forall_mem.1 (by decide)
  rw [inNumber, Bool.or_eq_true, List.contains_iff_mem] at hcollected
  rcases hcollected with hdigit | hsign
  · rw [isDigit, Bool.and_eq_true, decide_eq_true_iff, decide_eq_true_iff] at hdigit
    exact UInt8.lt_of_le_of_lt hdigit.2 (by decide)
  · exact hother b hsign

theorem isText_nil : Bytes.IsText [] := ⟨"", rfl⟩

theorem isText_joined {α : Type} {bytes : α → Bytes} {separator : Bytes} (hseparator : separator.IsText)
    (parts : List α) (h : ∀ part ∈ parts, (bytes part).IsText) :
    (joined separator (parts.map bytes)).IsText := by
  unfold joined
  induction parts with
  | nil => exact isText_nil
  | cons part parts ih =>
    obtain ⟨hpart, hparts⟩ := List.forall_mem_cons.1 h
    cases parts with
    | nil => simpa using hpart
    | cons next parts =>
      rw [List.map_cons, List.map_cons, List.intercalate_cons_cons, List.append_assoc]
      exact hpart.append (hseparator.append (ih hparts))

/-- A document on one line is a text. -/
theorem isText_compact {j : Json} (h : IsSpelt j) : j.compact.IsText := by
  have hend : ∀ {b t}, mark? b = some t → Bytes.IsText [b] := fun hb => isText_mark hb isText_nil
  induction h with
  | null => exact Bytes.isText_ofString "null"
  | bool b => exact Bytes.isText_ofString _
  | number h =>
    rw [compact]
    exact h.isText
  | string h =>
    rw [compact]
    exact isText_quoted h.isText
  | array _ ih =>
    rw [compact, compactItems_eq_map]
    exact isText_mark rfl ((isText_joined (hend rfl) _ ih).append (hend rfl))
  | object hnames _ ih =>
    rw [compact, compactFields_eq_map]
    refine isText_mark rfl ((isText_joined (hend rfl) _ fun field hfield => ?_).append (hend rfl))
    exact (isText_quoted (hnames field hfield).isText).append (isText_mark rfl (ih field hfield))

-- ════════════════════════════════════════════════════════════════════════
-- Building
-- ════════════════════════════════════════════════════════════════════════

/-- Where a value is expected, the reader takes the tokens for the document. -/
def Builds (j : Json) : Prop := ∀ mayClose stack rest,
  build? (.value mayClose) stack (j.tokens ++ rest) = build? (.more j) stack rest

theorem build?_items {items : List Json} (h : ∀ item ∈ items, Builds item) (hsome : items ≠ []) (mayClose : Bool)
    (done : List Json) (stack : List Frame) (rest : List Token) :
    build? (.value mayClose) (.array done :: stack)
        ([.comma].intercalate (items.map tokens) ++ .closeArray :: rest) =
      build? (.more (.array (done.reverse ++ items))) stack rest := by
  induction items generalizing done mayClose with
  | nil => exact absurd rfl hsome
  | cons item items ih =>
    obtain ⟨hitem, hitems⟩ := List.forall_mem_cons.1 h
    cases items with
    | nil =>
      rw [List.map_cons, List.map_nil, List.intercalate_singleton, hitem]
      simp [build?]
    | cons next items =>
      rw [List.map_cons, List.map_cons, List.intercalate_cons_cons, List.append_assoc, List.append_assoc, hitem]
      have hnext := ih hitems (List.cons_ne_nil _ _) false (item :: done)
      rw [List.map_cons] at hnext
      simpa [build?] using hnext

theorem build?_fields {fields : List (Bytes × Json)} (h : ∀ field ∈ fields, Builds field.2) (hsome : fields ≠ [])
    (mayClose : Bool) (done : List (Bytes × Json)) (stack : List Frame) (rest : List Token) :
    build? (.name mayClose done) stack ([.comma].intercalate
        (fields.map fun field => .scalar (.string field.1) :: .colon :: tokens field.2) ++ .closeObject :: rest) =
      build? (.more (.object (done.reverse ++ fields))) stack rest := by
  induction fields generalizing done mayClose with
  | nil => exact absurd rfl hsome
  | cons field fields ih =>
    obtain ⟨hfield, hfields⟩ := List.forall_mem_cons.1 h
    cases fields with
    | nil =>
      rw [List.map_cons, List.map_nil, List.intercalate_singleton]
      simp [build?, hfield _ _ _]
    | cons next fields =>
      have hnext := ih hfields (List.cons_ne_nil _ _) false (field :: done)
      rw [List.map_cons] at hnext
      rw [List.map_cons, List.map_cons, List.intercalate_cons_cons]
      simpa [build?, hfield _ _ _] using hnext

/-- The reader takes the tokens of a document for the document. -/
theorem builds_of_isSpelt {j : Json} (h : IsSpelt j) : Builds j := by
  intro mayClose stack rest
  induction h generalizing mayClose stack rest with
  | null | bool | number | string => rfl
  | @array items h ih =>
    rw [tokens, itemTokens_eq_map]
    cases items with
    | nil => simp [build?]
    | cons item items =>
      have hitems := build?_items ih (List.cons_ne_nil item items) true [] stack rest
      simpa [build?] using hitems
  | @object fields _ _ ih =>
    rw [tokens, fieldTokens_eq_map]
    cases fields with
    | nil => simp [build?]
    | cons field fields =>
      have hfields := build?_fields ih (List.cons_ne_nil field fields) true [] stack rest
      simpa [build?] using hfields

/-- What spells the tokens of a document is read as the document. -/
theorem parse?_of_spells {j : Json} {bytes : Bytes} (h : IsSpelt j) (hspells : Spells bytes j.tokens) :
    parse? bytes = some j := by
  obtain ⟨state, hstate, hrests⟩ := hspells []
  have hscan : scan? bytes = some j.tokens := by
    rw [scan?, hstate]
    simp [hrests.ends]
  have hbuild := builds_of_isSpelt h false [] []
  rw [List.append_nil] at hbuild
  rw [parse?, hscan, Option.bind_eq_bind, Option.bind_some, hbuild, build?]

/-- A document that is written on one line is read back. -/
theorem parse?_compact {j : Json} (h : IsSpelt j) : parse? j.compact = some j :=
  parse?_of_spells h (spells_compact h)

-- ════════════════════════════════════════════════════════════════════════
-- Numbers
-- ════════════════════════════════════════════════════════════════════════

theorem isDigit_code {c : Char} (h : c.isDigit = true) : isDigit (code c) = true := by
  obtain ⟨hlow, hhigh⟩ := Char.isDigit_iff_toNat.1 h
  rw [isDigit, Bool.and_eq_true, decide_eq_true_iff, decide_eq_true_iff, UInt8.le_iff_toNat_le,
    UInt8.le_iff_toNat_le, toNat_code (Text.toNat_lt_of_isDigit h)]
  exact ⟨hlow, hhigh⟩

theorem ofString_toString (n : Nat) : Bytes.ofString (toString n) = (Nat.toDigits 10 n).map code := by
  rw [Nat.toString_eq_ofList_toDigits, Bytes.ofString_ofList,
    Bytes.flatMap_utf8EncodeChar fun c hc => Text.toNat_lt_of_isDigit (Text.isDigit_of_mem_toDigits hc)]

theorem forall_mem_digits {n : Nat} : ∀ b ∈ (Nat.toDigits 10 n).map code, isDigit b = true := by
  intro b hb
  obtain ⟨c, hc, rfl⟩ := List.mem_map.1 hb
  exact isDigit_code (Text.isDigit_of_mem_toDigits hc)

theorem isNumber_digits (n : Nat) : isNumber ((Nat.toDigits 10 n).map code) = true := by
  obtain ⟨d, digits, hdigits⟩ := List.exists_cons_of_ne_nil (Nat.toDigits_ne_nil (n := n) (b := 10))
  have hall := forall_mem_digits (n := n)
  rw [hdigits, List.map_cons] at hall ⊢
  have hfirst := hall _ List.mem_cons_self
  have hsign : code d ≠ code '-' := by
    intro heq
    rw [heq] at hfirst
    exact absurd hfirst (by decide)
  have hinteger : dropInteger? (code d :: digits.map code) = some [] := by
    by_cases hzero : code d = code '0'
    · -- only zero itself begins with a zero
      have hd : d = '0' := by
        have hdigit : d.isDigit = true := Text.isDigit_of_mem_toDigits (by rw [hdigits]; exact List.mem_cons_self)
        exact code_injective (Text.toNat_lt_of_isDigit hdigit) (by decide) hzero
      have hn : n = 0 := Decidable.byContradiction fun hn =>
        Text.head?_toDigits_ne_zero hn (by rw [hdigits, hd, List.head?_cons])
      rw [hn, Nat.toDigits_zero] at hdigits
      obtain ⟨rfl, rfl⟩ := List.cons.inj hdigits
      rfl
    · have hnone : (code d :: digits.map code).dropWhile isDigit = [] :=
        List.dropWhile_eq_nil_iff.2 hall
      rw [dropInteger?, List.head?_cons, if_neg (by simpa using hzero), dropDigits?, List.head?_cons,
        Option.any_some, if_pos hfirst, hnone]
  rw [isNumber, dropSign, List.head?_cons, if_neg (by simpa using hsign), hinteger]
  rfl

/-- The digits of a number are a numeral. -/
theorem isNumeral_ofNat (n : Nat) : IsNumeral (Bytes.ofString (toString n)) := by
  rw [ofString_toString]
  obtain ⟨d, digits, hdigits⟩ := List.exists_cons_of_ne_nil (Nat.toDigits_ne_nil (n := n) (b := 10))
  have hall := forall_mem_digits (n := n)
  refine ⟨⟨code d, digits.map code, by rw [hdigits, List.map_cons], .inr ?_⟩, fun b hb => ?_, isNumber_digits n⟩
  · exact hall _ (by rw [hdigits]; exact List.mem_cons_self)
  · rw [inNumber, hall b hb, Bool.true_or]

theorem digitsValue_map_code {digits : List Char} (h : ∀ c ∈ digits, c.isDigit = true) :
    digitsValue ((digits.map code).map fun b => b.toNat - 0x30) = Nat.ofDigitChars 10 digits 0 := by
  have hfoldl : ∀ (digits : List Char) (n : Nat), (∀ c ∈ digits, c.isDigit = true) →
      ((digits.map code).map fun b => b.toNat - 0x30).foldl (fun n d => n * 10 + d) n =
        Nat.ofDigitChars 10 digits n := by
    intro digits
    induction digits with
    | nil => intro n _; rfl
    | cons c digits ih =>
      intro n hall
      obtain ⟨hc, hdigits⟩ := List.forall_mem_cons.1 hall
      rw [List.map_cons, List.map_cons, List.foldl_cons, ih _ hdigits, Nat.ofDigitChars_cons,
        toNat_code (Text.toNat_lt_of_isDigit hc), Nat.mul_comm n]
      rfl
  exact hfoldl digits 0 h

/-- A whole number is read back if it is not too large. -/
theorem whole?_ofNat {bound n : Nat} (h : n ≤ bound) : whole? bound (ofNat n) = some n := by
  have hall := forall_mem_digits (n := n)
  have hvalue : digitsValue (digitValues ((Nat.toDigits 10 n).map code)) = n := by
    rw [digitValues, List.takeWhile_eq_self_iff.2 hall,
      digitsValue_map_code fun c hc => Text.isDigit_of_mem_toDigits hc, Nat.ofDigitChars_ten_toDigits]
  rw [ofNat, whole?, ofString_toString, unsigned?, if_pos (List.all_eq_true.2 hall)]
  simp only [hvalue]
  exact if_pos h

-- ════════════════════════════════════════════════════════════════════════
-- Records
-- ════════════════════════════════════════════════════════════════════════

theorem text?_ofString (s : String) : text? (ofString s) = some s := unescape?_escape s

theorem list?_map {α : Type} {read : Json → Option α} {write : α → Json} (values : List α)
    (h : ∀ value ∈ values, read (write value) = some value) :
    list? read (.array (values.map write)) = some values := by
  change (values.map write).mapM read = some values
  induction values with
  | nil => rfl
  | cons value values ih =>
    obtain ⟨hvalue, hvalues⟩ := List.forall_mem_cons.1 h
    rw [List.map_cons, List.mapM_cons, hvalue, ih hvalues]
    rfl

theorem named?_map (fields : List (String × Json)) :
    named? (fields.map fun field => (escape field.1, field.2)) = some fields := by
  unfold named?
  induction fields with
  | nil => rfl
  | cons field fields ih =>
    rw [List.map_cons, List.mapM_cons, ih]
    simp only [unescape?_escape]
    rfl

theorem lookup_of_mem {fields : List (String × Json)} (h : (fields.map Prod.fst).Nodup) {field : String × Json}
    (hfield : field ∈ fields) : fields.lookup field.1 = some field.2 := by
  obtain ⟨before, behind, rfl⟩ := List.append_of_mem hfield
  refine List.lookup_eq_some_iff.2 ⟨before, behind, rfl, fun other hother => ?_⟩
  rw [List.map_append, List.map_cons] at h
  have hne := (List.nodup_append.1 h).2.2 other.1 (List.mem_map_of_mem hother) field.1 List.mem_cons_self
  exact bne_iff_ne.2 hne.symm

/-- The fields of a record are read back, each of them by its name. -/
theorem fields?_ofFields (fields : List (String × Json)) (h : (fields.map Prod.fst).Nodup) :
    fields? (fields.map Prod.fst) (ofFields fields) = some (fields.map fun field => some field.2) := by
  have hknown : (fields.filter fun field => (fields.map Prod.fst).contains field.1) = fields := by
    refine List.filter_eq_self.2 fun field hfield => ?_
    rw [List.contains_iff_mem]
    exact List.mem_map_of_mem hfield
  have honce : (fields.all fun field => (fields.countP fun other => other.1 == field.1) = 1) = true := by
    rw [List.all_eq_true]
    intro field hfield
    have hcount : (fields.map Prod.fst).count field.1 = 1 :=
      List.count_eq_one_of_mem h (List.mem_map_of_mem hfield)
    rw [List.count, List.countP_map] at hcount
    exact decide_eq_true hcount
  have hlookup : (fields.map Prod.fst).map (fun name => fields.lookup name) =
      fields.map fun field => some field.2 := by
    rw [List.map_map]
    exact List.map_congr_left fun field hfield => lookup_of_mem h hfield
  rw [ofFields, fields?, named?_map, Option.bind_eq_bind, Option.bind_some]
  simp only [hknown, honce, if_true, hlookup]

end Jukebox.Json
