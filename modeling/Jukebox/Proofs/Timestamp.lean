import Jukebox.Timestamp

/-!
# Timestamps are read back

The written form of a point in time stands for that point, from the start of the year zero on and as long as
the year can be read.

## Main definitions

- `Timestamp.IsReadable` — the points in time whose written form is read back
- `Timestamp.written` — a date and a time of day, part by part

## Main results

- `Timestamp.dayOfDate?_dateOfDay` — the date of a day is that day
- `Timestamp.parse?_text` — a point in time is read back from its written form
-/

namespace Jukebox.Timestamp

/-- The point in time lies between the start of the year zero and the end of the last year that is read. -/
structure IsReadable (t : Timestamp) : Prop where
  first_le : daysBeforeYear 0 ≤ t / 1000000000 / 86400 + epochDays
  lt_last : t / 1000000000 / 86400 + epochDays < daysBeforeYear 262143

-- ════════════════════════════════════════════════════════════════════════
-- The calendar
-- ════════════════════════════════════════════════════════════════════════

/-- A year ends where the next one begins. -/
theorem daysBeforeYear_succ (y : Int) :
    daysBeforeYear (y + 1) = daysBeforeYear y + ((monthLengths y).foldl (· + ·) 0 : Nat) := by
  unfold daysBeforeYear monthLengths
  by_cases hleap : isLeap y = true
  · simp only [hleap, if_true, List.foldl_cons, List.foldl_nil]
    simp [isLeap] at hleap
    omega
  · simp only [hleap, Bool.false_eq_true, if_false, List.foldl_cons, List.foldl_nil]
    simp [isLeap] at hleap
    omega

theorem daysBeforeYear_le {y z : Int} (h : y ≤ z) : daysBeforeYear y ≤ daysBeforeYear z := by
  obtain ⟨n, rfl⟩ := Int.le.dest h
  clear h
  induction n with
  | zero => exact Int.le_of_eq (by simp)
  | succ n ih =>
    have hnext := daysBeforeYear_succ (y + n)
    have hsum : y + ((n + 1 : Nat) : Int) = y + n + 1 := by omega
    rw [hsum]
    omega

/-- The year of a day, as it is found from the mean length of a year. -/
theorem year_spec (days : Int) : let year := (dateOfDay days).1
    daysBeforeYear year ≤ days ∧ days < daysBeforeYear (year + 1) := by
  intro year
  have hyear : year = if daysBeforeYear (400 * days / 146097 + 1) ≤ days then 400 * days / 146097 + 1
      else 400 * days / 146097 := rfl
  rw [hyear]
  split
  · next h =>
    refine ⟨h, ?_⟩
    unfold daysBeforeYear at *
    omega
  · next h =>
    refine ⟨?_, Int.lt_of_not_ge h⟩
    unfold daysBeforeYear at *
    omega

/-- The month of a day in a year is the one in which so many days lie before it. -/
theorem monthOfDay_spec (lengths : List Nat) (month before n : Nat)
    (h : before + n < lengths.foldl (· + ·) before) : ∃ k length day,
      monthOfDay month lengths n = (month + k, day) ∧ lengths[k]? = some length ∧ 0 < day ∧ day ≤ length ∧
        (lengths.take k).foldl (· + ·) before + (day - 1) = before + n := by
  induction lengths generalizing month before n with
  | nil => exact absurd h (Nat.not_lt.2 (Nat.le_add_right _ _))
  | cons length lengths ih =>
    unfold monthOfDay
    by_cases hn : n < length
    · rw [if_pos hn]
      exact ⟨0, length, n + 1, rfl, rfl, Nat.succ_pos n, hn, rfl⟩
    · have hle : length ≤ n := Nat.le_of_not_lt hn
      have hrest : before + length + (n - length) = before + n := by omega
      rw [if_neg hn]
      obtain ⟨k, length', day, hmonth, hlength, hpos, hday, hbefore⟩ :=
        ih (month + 1) (before + length) (n - length) (by rw [hrest]; exact h)
      refine ⟨k + 1, length', day, ?_, hlength, hpos, hday, ?_⟩
      · rw [hmonth, Nat.add_assoc, Nat.add_comm 1 k]
      · rw [List.take_succ_cons, List.foldl_cons, hbefore, hrest]

theorem mem_monthLengths {year : Int} {length : Nat} (h : length ∈ monthLengths year) : length ≤ 31 := by
  simp only [monthLengths, List.mem_cons, List.not_mem_nil, or_false] at h
  split at h <;> omega

/-- The date of a day is that day. -/
theorem dayOfDate?_dateOfDay {days : Int} (hstart : daysBeforeYear 0 ≤ days) (hend : days < daysBeforeYear 262143) :
    ∃ year month day, dateOfDay days = (year, month, day) ∧ 0 ≤ year ∧ year < 262143 ∧ month < 100 ∧
      day < 100 ∧ dayOfDate? year month day = some (days - epochDays) := by
  obtain ⟨hle, hlt⟩ := year_spec days
  obtain ⟨year, hyear⟩ : ∃ year, (dateOfDay days).1 = year := ⟨_, rfl⟩
  rw [hyear] at hle hlt
  have hnonneg : 0 ≤ year := by
    by_cases hneg : year + 1 ≤ 0
    · have hzero := daysBeforeYear_le hneg
      omega
    · omega
  have hlast : year < 262143 := Int.lt_of_not_ge fun hlate => by
    have hbound := daysBeforeYear_le hlate
    omega
  have hofYear : 0 + (days - daysBeforeYear year).toNat < (monthLengths year).foldl (· + ·) 0 := by
    rw [daysBeforeYear_succ] at hlt
    omega
  obtain ⟨k, length, day, hmonth, hlength, hpos, hday, hbefore⟩ := monthOfDay_spec _ 1 0 _ hofYear
  have hlengthLe := mem_monthLengths (List.mem_of_getElem? hlength)
  have hk : k < 12 := by
    obtain ⟨hk, -⟩ := List.getElem?_eq_some_iff.1 hlength
    exact hk
  refine ⟨year, 1 + k, day, ?_, hnonneg, hlast, by omega, by omega, ?_⟩
  · rw [← hyear] at hmonth ⊢
    exact congrArg (Prod.mk (dateOfDay days).1) hmonth
  · have hmonthNe : ¬ 1 + k = 0 := by omega
    have hvalid : ¬ (day = 0 ∨ length < day ∨ year < -262143 ∨ 262142 < year) := by omega
    rw [dayOfDate?]
    simp only [Nat.add_sub_cancel_left, hlength, hmonthNe, hvalid, if_false, Option.bind_eq_bind,
      Option.bind_some]
    rw [Option.some.injEq]
    omega

-- ════════════════════════════════════════════════════════════════════════
-- Digits
-- ════════════════════════════════════════════════════════════════════════

theorem number_eq_ofDigitChars (digits : List Char) : number digits = Nat.ofDigitChars 10 digits 0 := by
  rw [number, Nat.ofDigitChars_eq_foldl]
  simp only [Nat.mul_comm]
  rfl

theorem toList_pad (width n : Nat) : (Text.pad width n).toList =
    List.replicate (width - (Nat.toDigits 10 n).length) '0' ++ Nat.toDigits 10 n :=
  String.toList_ofList

theorem isDigit_of_mem_pad {width n : Nat} {c : Char} (h : c ∈ (Text.pad width n).toList) :
    c.isDigit = true := by
  rw [toList_pad, List.mem_append] at h
  rcases h with h | h
  · rw [List.eq_of_mem_replicate h]
    rfl
  · exact Nat.isDigit_of_mem_toDigits (by decide) (by decide) h

theorem number_pad (width n : Nat) : number (Text.pad width n).toList = n := by
  rw [number_eq_ofDigitChars, toList_pad, Nat.ofDigitChars_append, Nat.ofDigitChars_replicate_zero,
    Nat.mul_zero, Nat.ofDigitChars_ten_toDigits]

theorem length_pad {width n : Nat} (h : (Nat.toDigits 10 n).length ≤ width) :
    (Text.pad width n).toList.length = width := by
  rw [toList_pad, List.length_append, List.length_replicate, Nat.sub_add_cancel h]

theorem isBlank_of_isDigit {c : Char} (h : c.isDigit = true) : Text.isBlank c = false := by
  obtain ⟨hlow, hhigh⟩ := Char.isDigit_iff_toNat.1 h
  exact Text.isBlank_of_printable (Nat.lt_of_lt_of_le (by decide) hlow) (Nat.lt_of_le_of_lt hhigh (by decide))

/-- A number is read with all of its digits, if no more are allowed or none follow. -/
theorem takeNumber?_append {most : Nat} {digits rest : List Char} (hall : ∀ c ∈ digits, c.isDigit = true)
    (hsome : digits ≠ []) (hlength : digits.length ≤ most)
    (hend : digits.length = most ∨ rest.head?.any Char.isDigit = false) :
    takeNumber? most (digits ++ rest) = some (number digits, rest) := by
  have hrest : (rest.take (most - digits.length)).takeWhile Char.isDigit = [] := by
    rcases hend with hmost | hhead
    · rw [hmost, Nat.sub_self, List.take_zero]
      rfl
    · cases rest with
      | nil => simp
      | cons c rest =>
        cases most - digits.length with
        | zero => rfl
        | succ n =>
          rw [List.head?_cons, Option.any_some] at hhead
          simp [hhead]
  have hdigits : ((digits ++ rest).take most).takeWhile Char.isDigit = digits := by
    rw [List.take_append, List.take_of_length_le hlength, List.takeWhile_append_of_pos hall, hrest,
      List.append_nil]
  have hnonempty : digits.isEmpty = false := by
    simpa using hsome
  rw [takeNumber?, hdigits]
  simp [hnonempty]

/-- A part of two digits is read behind no blanks. -/
theorem takePart?_pad {n : Nat} (h : n < 100) (rest : List Char) :
    takePart? ((Text.pad 2 n).toList ++ rest) = some (n, rest) := by
  have hlength : (Text.pad 2 n).toList.length = 2 :=
    length_pad ((Nat.length_toDigits_le_iff (by decide) (by decide)).2 h)
  obtain ⟨c, digits, hdigits⟩ := List.exists_cons_of_length_pos (Nat.lt_of_lt_of_eq Nat.two_pos hlength.symm)
  have hc : c.isDigit = true := isDigit_of_mem_pad (by rw [hdigits]; exact List.mem_cons_self)
  have htrim : Text.trimStart ((Text.pad 2 n).toList ++ rest) = (Text.pad 2 n).toList ++ rest := by
    rw [hdigits, List.cons_append, Text.trimStart_cons (isBlank_of_isDigit hc)]
  rw [takePart?, htrim, takeNumber?_append (fun _ => isDigit_of_mem_pad) (by rw [hdigits]; exact List.cons_ne_nil _ _)
    (Nat.le_of_eq hlength) (.inl hlength), number_pad]

theorem dropMark?_cons {mark : Char} (h : Text.isBlank mark = false) (rest : List Char) :
    dropMark? mark (mark :: rest) = some rest := by
  rw [dropMark?, Text.trimStart_cons h]
  exact if_pos rfl

/-- A year is read with all of its digits. Only one beyond the four digits has a sign. -/
theorem takeYear?_text {year : Int} (hstart : 0 ≤ year) (hend : year < 262143) (rest : List Char)
    (hrest : rest.head?.any Char.isDigit = false) :
    takeYear? (((if 9999 < year then "+" else "") ++ Text.pad 4 year.toNat).toList ++ rest) =
      some (year, rest) := by
  have hvalue : ((year.toNat : Nat) : Int) = year := Int.toNat_of_nonneg hstart
  have hall : ∀ c ∈ (Text.pad 4 year.toNat).toList, c.isDigit = true := fun _ => isDigit_of_mem_pad
  have hsome : (Text.pad 4 year.toNat).toList ≠ [] := by
    rw [toList_pad]
    simp
  by_cases hlong : 9999 < year
  · have htake : takeNumber? ((Text.pad 4 year.toNat).toList ++ rest).length
        ((Text.pad 4 year.toNat).toList ++ rest) = some (year.toNat, rest) := by
      rw [takeNumber?_append hall hsome (by simp) (.inr hrest), number_pad]
    have hplus : ("+" ++ Text.pad 4 year.toNat).toList = '+' :: (Text.pad 4 year.toNat).toList := by
      rw [String.toList_append]
      rfl
    rw [if_pos hlong, hplus, List.cons_append, takeYear?, Text.trimStart_cons (by decide)]
    simp only [htake, Option.map_some, hvalue]
  · have hlength : (Text.pad 4 year.toNat).toList.length = 4 :=
      length_pad ((Nat.length_toDigits_le_iff (by decide) (by decide)).2 (by omega))
    have htake : takeNumber? 4 ((Text.pad 4 year.toNat).toList ++ rest) = some (year.toNat, rest) := by
      rw [takeNumber?_append hall hsome (Nat.le_of_eq hlength) (.inl hlength), number_pad]
    obtain ⟨c, digits, hdigits⟩ := List.exists_cons_of_ne_nil hsome
    have hc : c.isDigit = true := hall c (by rw [hdigits]; exact List.mem_cons_self)
    rw [if_neg hlong, String.empty_append]
    rw [hdigits, List.cons_append] at htake ⊢
    rw [takeYear?, Text.trimStart_cons (isBlank_of_isDigit hc)]
    split
    · next h =>
      obtain ⟨rfl, -⟩ := List.cons.inj h
      exact absurd hc (by decide)
    · next h =>
      obtain ⟨rfl, -⟩ := List.cons.inj h
      exact absurd hc (by decide)
    · simp only [htake, Option.map_some, hvalue]

-- ════════════════════════════════════════════════════════════════════════
-- The time of day
-- ════════════════════════════════════════════════════════════════════════

theorem takeFraction?_pad {width n : Nat} (hwidth : width ≤ 9) (hpos : 0 < width)
    (h : (Nat.toDigits 10 n).length ≤ width) :
    takeFraction? ('.' :: ((Text.pad width n).toList ++ ['Z'])) =
      some (n * Nat.pow 10 (9 - width), ['Z']) := by
  have hall : ∀ c ∈ (Text.pad width n).toList, c.isDigit = true := fun _ => isDigit_of_mem_pad
  have hlength := length_pad h
  have hdigits : ((Text.pad width n).toList ++ ['Z']).takeWhile Char.isDigit = (Text.pad width n).toList := by
    rw [List.takeWhile_append_of_pos hall]
    simp
  have hsome : (Text.pad width n).toList.isEmpty = false := by
    rw [List.isEmpty_eq_false_iff, ← List.length_pos_iff, hlength]
    exact hpos
  rw [takeFraction?]
  simp only [hdigits, hsome, List.take_of_length_le (Nat.le_trans (Nat.le_of_eq hlength) hwidth), hlength,
    number_pad, List.drop_left' hlength]
  rfl

/-- The fraction of a second is read with all the digits that were needed. -/
theorem takeFraction?_text {nanos : Nat} (h : nanos < 1000000000) :
    takeFraction? ((fractionText nanos).toList ++ ['Z']) = some (nanos, ['Z']) := by
  unfold fractionText
  have hdot : ∀ width n, ("." ++ Text.pad width n).toList ++ ['Z'] =
      '.' :: ((Text.pad width n).toList ++ ['Z']) := by
    intro width n
    rw [String.toList_append]
    rfl
  split
  · next hzero =>
    rw [hzero]
    rfl
  · split
    · next hmillis =>
      rw [hdot, takeFraction?_pad (by decide) (by decide)
        ((Nat.length_toDigits_le_iff (by decide) (by decide)).2 (by omega))]
      have hvalue : nanos / 1000000 * 1000000 = nanos := Nat.div_mul_cancel (Nat.dvd_of_mod_eq_zero hmillis)
      exact congrArg (fun n => some (n, ['Z'])) hvalue
    · split
      · next hmicros =>
        rw [hdot, takeFraction?_pad (by decide) (by decide)
          ((Nat.length_toDigits_le_iff (by decide) (by decide)).2 (by omega))]
        have hvalue : nanos / 1000 * 1000 = nanos := Nat.div_mul_cancel (Nat.dvd_of_mod_eq_zero hmicros)
        exact congrArg (fun n => some (n, ['Z'])) hvalue
      · rw [hdot, takeFraction?_pad (by decide) (by decide)
          ((Nat.length_toDigits_le_iff (by decide) (by decide)).2 (by omega))]
        exact congrArg (fun n => some (n, ['Z'])) (Nat.mul_one nanos)

theorem timeOfDay?_parts {ofDay nanos : Nat} (h : ofDay < 86400) :
    timeOfDay? (ofDay / 3600) (ofDay / 60 % 60) (ofDay % 60) nanos = some (ofDay * 1000000000 + nanos) := by
  have hvalid : ¬ (23 < ofDay / 3600 ∨ 59 < ofDay / 60 % 60 ∨ 60 < ofDay % 60) := by omega
  have hvalue : (ofDay / 3600 * 60 + ofDay / 60 % 60) * 60 + ofDay % 60 = ofDay := by omega
  rw [timeOfDay?, if_neg hvalid, hvalue]

-- ════════════════════════════════════════════════════════════════════════
-- The written form
-- ════════════════════════════════════════════════════════════════════════

/-- A date and a time of day in universal time, part by part. -/
def written (year : Int) (month day hour minute second nanos : Nat) : List Char :=
  ((if 9999 < year then "+" else "") ++ Text.pad 4 year.toNat).toList ++ '-' ::
    ((Text.pad 2 month).toList ++ '-' :: ((Text.pad 2 day).toList ++ 'T' ::
      ((Text.pad 2 hour).toList ++ ':' :: ((Text.pad 2 minute).toList ++ ':' ::
        ((Text.pad 2 second).toList ++ ((fractionText nanos).toList ++ ['Z']))))))

theorem toList_text (t : Timestamp) {year : Int} {month day : Nat}
    (hdate : dateOfDay (t / 1000000000 / 86400 + epochDays) = (year, month, day)) :
    let ofDay := (t / 1000000000 % 86400).toNat
    t.text.toList =
      written year month day (ofDay / 3600) (ofDay / 60 % 60) (ofDay % 60) (t % 1000000000).toNat := by
  have hdash : "-".toList = ['-'] := rfl
  have hseparator : "T".toList = ['T'] := rfl
  have hcolon : ":".toList = [':'] := rfl
  have hzone : "Z".toList = ['Z'] := rfl
  simp only [text, written, hdate, String.toList_append, hdash, hseparator, hcolon, hzone, List.append_assoc,
    List.cons_append, List.nil_append]

/-- The parts of a date and a time of day are read back one after the other. -/
theorem parse?_written {year days : Int} {month day hour minute second nanos ofDay : Nat} (hstart : 0 ≤ year)
    (hend : year < 262143) (hmonth : month < 100) (hday : day < 100) (hhour : hour < 100) (hminute : minute < 100)
    (hsecond : second < 100) (hnanos : nanos < 1000000000) (hdays : dayOfDate? year month day = some days)
    (hofDay : timeOfDay? hour minute second nanos = some ofDay) :
    parse? (written year month day hour minute second nanos) =
      some ((days * 86400 - 0) * 1000000000 + ofDay) := by
  have hoffset : takeOffset? (Text.trimStart ['Z']) = some (0, []) := by decide
  have hblank : Text.isBlank '-' = false ∧ Text.isBlank ':' = false := by decide
  refine Option.bind_eq_some_iff.2 ⟨_, takeYear?_text hstart hend _ rfl, ?_⟩
  refine Option.bind_eq_some_iff.2 ⟨_, dropMark?_cons hblank.1 _, ?_⟩
  refine Option.bind_eq_some_iff.2 ⟨_, takePart?_pad hmonth _, ?_⟩
  refine Option.bind_eq_some_iff.2 ⟨_, dropMark?_cons hblank.1 _, ?_⟩
  refine Option.bind_eq_some_iff.2 ⟨_, takePart?_pad hday _, ?_⟩
  refine Option.bind_eq_some_iff.2 ⟨_, rfl, (if_neg (by decide)).trans ?_⟩
  refine Option.bind_eq_some_iff.2 ⟨_, takePart?_pad hhour _, ?_⟩
  refine Option.bind_eq_some_iff.2 ⟨_, dropMark?_cons hblank.2 _, ?_⟩
  refine Option.bind_eq_some_iff.2 ⟨_, takePart?_pad hminute _, ?_⟩
  refine Option.bind_eq_some_iff.2 ⟨_, dropMark?_cons hblank.2 _, ?_⟩
  refine Option.bind_eq_some_iff.2 ⟨_, takePart?_pad hsecond _, ?_⟩
  refine Option.bind_eq_some_iff.2 ⟨_, takeFraction?_text hnanos, ?_⟩
  refine Option.bind_eq_some_iff.2 ⟨_, hoffset, (if_neg (by decide)).trans ?_⟩
  exact Option.bind_eq_some_iff.2 ⟨days, hdays, Option.bind_eq_some_iff.2 ⟨ofDay, hofDay, rfl⟩⟩

/-- A point in time is put together from its day, the second of the day and the rest. -/
theorem joined (t epoch : Int) : ((t / 1000000000 / 86400 + epoch - epoch) * 86400 - 0) * 1000000000 +
    ((t / 1000000000 % 86400).toNat * 1000000000 + (t % 1000000000).toNat : Nat) = t := by
  omega

/-- A point in time is read back from its written form. -/
theorem parse?_text {t : Timestamp} (h : t.IsReadable) : parse? t.text.toList = some t := by
  obtain ⟨year, month, day, hdate, hstart, hend, hmonth, hday, hofDate⟩ :=
    dayOfDate?_dateOfDay h.first_le h.lt_last
  have hofDay : (t / 1000000000 % 86400).toNat < 86400 := by omega
  have hnanos : (t % 1000000000).toNat < 1000000000 := by omega
  have hhour : (t / 1000000000 % 86400).toNat / 3600 < 100 := by omega
  have hminute : (t / 1000000000 % 86400).toNat / 60 % 60 < 100 := by omega
  have hsecond : (t / 1000000000 % 86400).toNat % 60 < 100 := by omega
  rw [toList_text t hdate, parse?_written hstart hend hmonth hday hhour hminute hsecond hnanos hofDate
    (timeOfDay?_parts hofDay), joined t epochDays]

end Jukebox.Timestamp
