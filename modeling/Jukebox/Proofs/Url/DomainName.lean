import Jukebox.Proofs.Text.Lower
import Jukebox.Proofs.Text.SpanTable
import Jukebox.Url.DomainName
import Mathlib.Data.List.Forall2

/-!
# Domain names in ASCII

A domain name in ASCII stays as it is written, in lower case, but for its labels in Punycode, which are decoded and
encoded again. So a name that belongs to a domain without such labels belongs to it as it is written.

## Main definitions

- `Url.IsKept` — a label stays as written, or it was one in Punycode and is one again

## Main results

- `Url.mapName?_of_ascii` — mapping a name in ASCII only changes letters to lower case
- `Url.Punycode.dot_notMem_encode` — Punycode makes no full stops
- `Url.forall₂_domainToAscii?` — what becomes of a name in ASCII, label by label
- `Url.suffix_of_domainToAscii?` — to which domains a name in ASCII belongs
-/

namespace Jukebox.Url

open Jukebox.Text

variable {c : Char} {s name label : List Char} {parts texts : List (List Char)}

-- ════════════════════════════════════════════════════════════════════════
-- Mapping
-- ════════════════════════════════════════════════════════════════════════

/-- The points of the mapping table as far as ASCII and the first one beyond. -/
def asciiFates : List (Nat × NameFate) := SpanTable.pointsFrom NameFate.read 0 (items (mappingData.take 2))

theorem nameFate_of_ascii (h : c.toNat < 0x80) :
    nameFate c = ((asciiFates.takeWhile (·.1 ≤ c.toNat)).getLast?.map Prod.snd).getD .refused := by
  have hends : asciiFates.head?.any (·.1 = 0) = true ∧ asciiFates.any (0x80 ≤ ·.1) = true := by decide +kernel
  have hfirst : asciiFates.head?.any (·.1 ≤ c.toNat) = true := by
    obtain ⟨q, hq, hzero⟩ := (Option.any_eq_true _ _).1 hends.1
    rw [hq, Option.any_some, of_decide_eq_true hzero]
    exact decide_eq_true (Nat.zero_le _)
  have hbeyond : asciiFates.any (c.toNat < ·.1) = true := by
    obtain ⟨q, hq, hle⟩ := List.any_eq_true.1 hends.2
    exact List.any_eq_true.2 ⟨q, hq, decide_eq_true (Nat.lt_of_lt_of_le h (of_decide_eq_true hle))⟩
  have hsplit : mappingTable = SpanTable.read NameFate.read (mappingData.take 2 ++ mappingData.drop 2) :=
    congrArg (SpanTable.read NameFate.read) (List.take_append_drop 2 mappingData).symm
  rw [nameFate, hsplit, SpanTable.get?_read_append hfirst hbeyond]
  rfl

/-- What the mapping table makes of a character of ASCII. -/
def asciiImage (c : Char) : Option (List Char) :=
  (((asciiFates.takeWhile (·.1 ≤ c.toNat)).getLast?.map Prod.snd).getD .refused).image c

/-- In ASCII, only letters are mapped. -/
theorem mapNameChar?_of_ascii (h : c.toNat < 0x80) : mapNameChar? c = some [lowerAscii c] := by
  have himage : asciiImage c = some [lowerAscii c] :=
    of_ascii (P := fun c => asciiImage c = some [lowerAscii c]) h (by decide +kernel)
  rw [mapNameChar?, nameFate_of_ascii h]
  exact himage

theorem isAscii_map_lowerAscii (h : isAscii s = true) : isAscii (s.map lowerAscii) = true := by
  rw [isAscii, List.all_map]
  apply List.all_eq_true.2
  intro c hc
  exact decide_eq_true (toNat_lowerAscii_lt (of_decide_eq_true (List.all_eq_true.1 h c hc)))

/-- Mapping a name in ASCII only changes letters to lower case. -/
theorem mapName?_of_ascii (h : isAscii s = true) : mapName? s = some (s.map lowerAscii) := by
  have hmap : s.mapM mapNameChar? = some (s.map fun c => [lowerAscii c]) := by
    induction s with
    | nil => rfl
    | cons c s ih =>
      obtain ⟨hc, hs⟩ := Bool.and_eq_true_iff.1 h
      rw [List.mapM_cons, mapNameChar?_of_ascii (of_decide_eq_true hc), ih hs]
      rfl
  have hflat : (s.map fun c => [lowerAscii c]).flatten = s.map lowerAscii := by
    rw [← List.flatMap_def, ← List.map_eq_flatMap]
  rw [mapName?, hmap, Option.map_some, hflat, composed]
  exact congrArg some (if_pos (isAscii_map_lowerAscii h))

-- ════════════════════════════════════════════════════════════════════════
-- Punycode
-- ════════════════════════════════════════════════════════════════════════

namespace Punycode

variable {w : Writer} {text : List Char}

theorem ofNat_ne_dot {n : Nat} (h : 0x30 ≤ n) : Char.ofNat n ≠ '.' := by
  intro heq
  obtain hn | hzero := toNat_ofNat_or n
  · rw [← hn, heq] at h
    exact absurd h (by decide)
  · rw [hzero] at heq
    cases heq

theorem digitChar_ne_dot (v : Nat) : digitChar v ≠ '.' := by
  rw [digitChar]
  split
  · exact ofNat_ne_dot (by omega)
  · exact ofNat_ne_dot (by omega)

theorem dot_notMem_gapDigits (bias place delta : Nat) : '.' ∉ gapDigits bias place delta := by
  fun_induction gapDigits bias place delta with
  | case1 place delta t hlast => simpa using (digitChar_ne_dot delta).symm
  | case2 place delta t hmore ih =>
    rw [List.mem_cons, not_or]
    exact ⟨(digitChar_ne_dot _).symm, ih⟩

theorem Writer.dot_notMem_pass (hw : '.' ∉ w.digits) (basic point : Nat) (c : Char) :
    '.' ∉ (w.pass basic point c).digits := by
  rw [Writer.pass]
  split
  · exact hw
  · split
    · rw [List.mem_append, not_or]
      exact ⟨hw, dot_notMem_gapDigits _ _ _⟩
    · exact hw

theorem dot_notMem_writePoints (hw : '.' ∉ w.digits) (text : List Char) (basic : Nat) (points : List Nat)
    (start : Nat) : '.' ∉ (writePoints text basic points start w).digits := by
  induction points generalizing start w with
  | nil => exact hw
  | cons point points ih =>
    have hfold : ∀ (s : List Char) (w : Writer), '.' ∉ w.digits →
        '.' ∉ (s.foldl (Writer.pass basic point) w).digits := by
      intro s
      induction s with
      | nil => exact fun w hw => hw
      | cons c s ihs => exact fun w hw => ihs _ (Writer.dot_notMem_pass hw basic point c)
    rw [writePoints]
    apply ih
    exact hfold text { w with delta := w.delta + (point - start) * (w.written + 1) } hw

/-- Punycode makes no full stops. -/
theorem dot_notMem_encode (h : '.' ∉ text) : '.' ∉ encode text := by
  have hdigits := dot_notMem_writePoints (w := { written := (text.filter (·.toNat < 0x80)).length }) List.not_mem_nil
    text (text.filter (·.toNat < 0x80)).length (points text) 0x80
  have hbasic : '.' ∉ text.filter (·.toNat < 0x80) := fun hmem => h (List.mem_of_mem_filter hmem)
  rw [encode, List.mem_append, not_or]
  refine ⟨?_, hdigits⟩
  split
  · exact List.not_mem_nil
  · rw [List.mem_append, not_or]
    exact ⟨hbasic, by decide⟩

end Punycode

-- ════════════════════════════════════════════════════════════════════════
-- Labels
-- ════════════════════════════════════════════════════════════════════════

theorem labels_append (front back : List Char) : labels (front ++ '.' :: back) = labels front ++ labels back :=
  List.splitOnP_append_cons front back (by decide)

theorem joinLabels_labels (name : List Char) : joinLabels (labels name) = name := List.intercalate_splitOn '.'

theorem labels_joinLabels (h : ∀ label ∈ parts, '.' ∉ label) (hne : parts ≠ []) : labels (joinLabels parts) = parts :=
  List.splitOn_intercalate '.' h hne

theorem suffix_joinLabels (hne : parts ≠ []) (front : List (List Char)) :
    joinLabels parts <:+ joinLabels (front ++ parts) := by
  induction front with
  | nil => exact List.suffix_rfl
  | cons label front ih =>
    have hrest : front ++ parts ≠ [] := List.append_ne_nil_of_right_ne_nil front hne
    have hjoin : joinLabels (label :: (front ++ parts)) = label ++ ['.'] ++ joinLabels (front ++ parts) :=
      List.intercalate_cons_of_ne_nil hrest
    rw [List.cons_append, hjoin]
    exact ih.trans (List.suffix_append _ _)

/-- A name that belongs to a domain label by label ends with it. -/
theorem suffix_of_labels {domain : List Char} (h : labels domain <:+ labels name) : domain <:+ name := by
  obtain ⟨front, hfront⟩ := h
  have hsuffix := suffix_joinLabels (List.splitOn_ne_nil '.' domain) front
  change joinLabels (labels domain) <:+ joinLabels (front ++ labels domain) at hsuffix
  rwa [hfront, joinLabels_labels, joinLabels_labels] at hsuffix

theorem mem_joinLabels (hlabel : label ∈ parts) (hc : c ∈ label) : c ∈ joinLabels parts := by
  induction parts with
  | nil => cases hlabel
  | cons first parts ih =>
    cases parts with
    | nil =>
      rw [joinLabels, List.intercalate_singleton, ← List.mem_singleton.1 hlabel]
      exact hc
    | cons second parts =>
      rw [joinLabels, List.intercalate_cons_cons, List.mem_append, List.mem_append]
      obtain rfl | hlabel := List.mem_cons.1 hlabel
      · exact .inl (.inl hc)
      · exact .inr (ih hlabel)

theorem isAscii_of_mem_labels (h : isAscii name = true) (hlabel : label ∈ labels name) : isAscii label = true := by
  apply List.all_eq_true.2
  intro c hc
  have hmem := mem_joinLabels hlabel hc
  rw [joinLabels_labels] at hmem
  exact List.all_eq_true.1 h c hmem

/-- A label stays as it is written, or is one in Punycode. -/
def IsKept (written label : List Char) : Prop := label = written ∨ punycodeFront <+: label

theorem dot_notMem_of_isFitLabel (h : isFitLabel label = true) : '.' ∉ label := by
  intro hmem
  rw [isFitLabel, Bool.and_eq_true, Bool.and_eq_true] at h
  have hall : ∀ c ∈ label, c ≠ '.' := by
    intro c hc
    have hfit := List.all_eq_true.1 h.1.2 c hc
    generalize nameFate c = fate at hfit
    cases fate with
    | stays => exact of_decide_eq_true hfit
    | refused => cases hfit
    | replaced => cases hfit
  exact hall '.' hmem rfl

theorem isKept_of_labelText? {text : List Char} (hascii : isAscii label = true) (h : labelText? label = some text) :
    IsKept label (labelToAscii text) := by
  rw [labelText?] at h
  split at h
  · dsimp only at h
    split at h
    · split at h
      · split at h
        · cases h
        · next hnot =>
          cases h
          rw [labelToAscii, if_neg hnot]
          exact .inr (List.prefix_append _ _)
      · cases h
    · cases h
  · cases h
    rw [labelToAscii, if_pos hascii]
    exact .inl rfl

theorem dot_notMem_labelToAscii {text : List Char} (h : '.' ∉ text) : '.' ∉ labelToAscii text := by
  rw [labelToAscii]
  split
  · exact h
  · rw [List.mem_append, not_or]
    exact ⟨by decide, Punycode.dot_notMem_encode h⟩

theorem forall₂_isKept (hascii : ∀ label ∈ parts, isAscii label = true) (h : parts.mapM labelText? = some texts) :
    List.Forall₂ IsKept parts (texts.map labelToAscii) := by
  induction parts generalizing texts with
  | nil =>
    cases h
    exact .nil
  | cons label parts ih =>
    obtain ⟨hlabel, hparts⟩ := List.forall_mem_cons.1 hascii
    rw [List.mapM_cons] at h
    obtain ⟨text, htext, hrest⟩ := Option.bind_eq_some_iff.1 h
    obtain ⟨texts', htexts', heq⟩ := Option.bind_eq_some_iff.1 hrest
    cases heq
    exact .cons (isKept_of_labelText? hlabel htext) (ih hparts htexts')

/-- Label by label, a name in ASCII stays as it is written, in lower case, but for labels in Punycode. -/
theorem forall₂_domainToAscii? (hs : isAscii s = true) (h : domainToAscii? s = some name) :
    List.Forall₂ IsKept (labels (s.map lowerAscii)) (labels name) := by
  rw [domainToAscii?] at h
  split at h
  · cases h
    exact List.forall₂_same.2 fun _ _ => .inl rfl
  · rw [internationalToAscii?, mapName?_of_ascii hs, Option.bind_eq_bind, Option.bind_some] at h
    obtain ⟨texts, htexts, hname⟩ := Option.bind_eq_some_iff.1 h
    have hascii : ∀ label ∈ labels (s.map lowerAscii), isAscii label = true := fun label hlabel =>
      isAscii_of_mem_labels (isAscii_map_lowerAscii hs) hlabel
    have hkept := forall₂_isKept hascii htexts
    split at hname
    · cases hname
    · next hfit =>
      split at hname
      · cases hname
      · have hdots : ∀ label ∈ texts.map labelToAscii, '.' ∉ label := by
          intro label hlabel
          obtain ⟨text, htext, rfl⟩ := List.mem_map.1 hlabel
          apply dot_notMem_labelToAscii
          exact dot_notMem_of_isFitLabel (List.all_eq_true.1 (by simpa using hfit) text htext)
        have hne : texts.map labelToAscii ≠ [] := by
          intro hnil
          rw [hnil, List.forall₂_nil_right_iff] at hkept
          exact List.splitOn_ne_nil '.' _ hkept
        rw [← Option.some.inj hname, labels_joinLabels hdots hne]
        exact hkept

theorem eq_of_forall₂_isKept {kept : List (List Char)} (h : List.Forall₂ IsKept parts kept)
    (hplain : ∀ label ∈ kept, ¬ punycodeFront <+: label) : parts = kept := by
  induction h with
  | nil => rfl
  | cons hlabel _ ih =>
    obtain ⟨hplain₁, hplain₂⟩ := List.forall_mem_cons.1 hplain
    rw [ih hplain₂, hlabel.resolve_right hplain₁]

/-- A name that belongs to a domain without labels in Punycode does so as it is written. -/
theorem suffix_of_domainToAscii? (hs : isAscii s = true) (h : domainToAscii? s = some name) {domain : List Char}
    (hdomain : labels domain <:+ labels name) (hplain : ∀ label ∈ labels domain, ¬ punycodeFront <+: label) :
    domain <:+ s.map lowerAscii := by
  obtain ⟨front, hfront⟩ := hdomain
  have hkept := List.forall₂_drop front.length (forall₂_domainToAscii? hs h)
  rw [← hfront, List.drop_left] at hkept
  apply suffix_of_labels
  rw [← eq_of_forall₂_isKept hkept hplain]
  exact List.drop_suffix _ _

end Jukebox.Url
