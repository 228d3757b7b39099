/-
  ActivityLog.Proofs.Timestamp — the calendar of timestamps, and reading them back.

  The reader forgives more than the writer does, so only one way round holds: what
  `write` makes of a moment is read as that moment (`read_write`). Each part is read back
  from what was written for it, whatever follows: two digits end a part by their number, a
  year behind a sign ends at the first character that is no digit. Six numbers that are no
  moment are refused when they stand in the same layout (`readTrimmed_writeParts`).

  A day of the Gregorian calendar is a day that its month has: 31 at most, 30 in four
  of the months, and in February 28 or, in a leap year, 29 (`IsDay`). What is read is
  always such a day and a time of it, and every one of them is read from some text. A text
  that is read has a normal form that stands for the same moment (`normalForm?`). All this
  holds for the whole calendar, before the year 0, after the year 9999 and in leap seconds
  (`calendar_read_back`).
-/

import ActivityLog.Proofs.Text.Blank
import ActivityLog.Proofs.Text.Decimal
import ActivityLog.Timestamp

namespace ActivityLog.Timestamp

/-! ## The bounds of the parts -/

theorem daysInMonth_le (year : Int) (month : Nat) : daysInMonth year month ≤ 31 := by
  unfold daysInMonth
  repeat' split
  all_goals omega

theorem month_of_daysInMonth_pos {year : Int} {month : Nat} (h : 0 < daysInMonth year month) :
    1 ≤ month ∧ month ≤ 12 := by
  unfold daysInMonth at h
  split at h
  all_goals omega

theorem bounds_of_isMoment {year : Int} {month day hour minute second : Nat}
    (h : IsMoment year month day hour minute second) :
    (1 ≤ day ∧ day ≤ 31) ∧ (1 ≤ month ∧ month ≤ 12) ∧ (-2147483648 ≤ year ∧ year ≤ 2147483647) ∧
      (0 ≤ hour ∧ hour ≤ 23) ∧ (0 ≤ minute ∧ minute ≤ 59) ∧ 0 ≤ second ∧ second ≤ 60 := by
  obtain ⟨hlow, hhigh, hday, hdays, hhour, hminute, hsecond⟩ := h
  have := daysInMonth_le year month
  have := month_of_daysInMonth_pos (Nat.lt_of_lt_of_le hday hdays)
  omega

/-! ## Parts -/

theorem readDigits_of_length {digits : Text} (hne : digits ≠ []) (hd : ∀ c ∈ digits, c.isDigit = true) (rest : Text) :
    readDigits (some digits.length) (digits ++ rest) = .ok (Text.natOf digits, rest) := by
  have htake : digits.takeWhile Char.isDigit = digits := List.takeWhile_eq_self_iff.mpr hd
  simp [readDigits, htake, hne]

theorem readDigits_of_stop {digits rest : Text} (hne : digits ≠ []) (hd : ∀ c ∈ digits, c.isDigit = true)
    (hr : ∀ c, rest.head? = some c → c.isDigit = false) :
    readDigits none (digits ++ rest) = .ok (Text.natOf digits, rest) := by
  have htake : (digits ++ rest).takeWhile Char.isDigit = digits := by
    rw [List.takeWhile_append_of_pos hd]
    cases rest with
    | nil => simp
    | cons c rest => simp [hr c rfl]
  simp [readDigits, htake, hne]

theorem trimStart_padded_append (width n : Nat) (rest : Text) :
    Text.trimStart (Text.padded width n ++ rest) = Text.padded width n ++ rest := by
  refine Text.trimStart_eq_self_iff.mpr fun c hc => ?_
  obtain ⟨d, digits, hp⟩ := List.exists_cons_of_ne_nil (Text.padded_ne_nil width n)
  rw [hp] at hc
  cases hc
  exact Text.isBlank_of_isDigit (Text.isDigit_of_mem_padded (hp ▸ List.mem_cons_self ..))

theorem readDigits_padded {width n : Nat} (hw : 0 < width) (hn : n < 10 ^ width) (rest : Text) :
    readDigits (some width) (Text.padded width n ++ rest) = .ok (n, rest) := by
  have h := readDigits_of_length (Text.padded_ne_nil width n) (fun c => Text.isDigit_of_mem_padded) rest
  rwa [Text.length_padded hw hn, Text.natOf_padded] at h

/-- A number of at most two digits is read back if it is in its bounds, and is out of range otherwise. -/
theorem readPart_padded (low high : Nat) {n : Nat} (hn : n < 100) (rest : Text) :
    readPart low high (Text.padded 2 n ++ rest) =
      if low ≤ n ∧ n ≤ high then .ok (n, rest) else .error .outOfRange := by
  rw [readPart, trimStart_padded_append, readDigits_padded (by decide) hn]
  rfl

/-- A year is told by its digits alone from 0 to 9999, and by its sign otherwise. -/
theorem readYear_writeYear (year : Int) {rest : Text} (hr : ∀ c, rest.head? = some c → c.isDigit = false) :
    readYear (writeYear year ++ rest) =
      if -2147483648 ≤ year ∧ year ≤ 2147483647 then .ok (year, rest) else .error .outOfRange := by
  have signed : readDigits none (Text.padded 4 year.natAbs ++ rest) = .ok (year.natAbs, rest) := by
    have h := readDigits_of_stop (Text.padded_ne_nil 4 year.natAbs) (fun c => Text.isDigit_of_mem_padded) hr
    rwa [Text.natOf_padded] at h
  by_cases hplain : 0 ≤ year ∧ year ≤ 9999
  · have unsigned : readDigits (some 4) (Text.padded 4 year.toNat ++ rest) = .ok (year.toNat, rest) :=
      readDigits_padded (by decide) (by omega) rest
    have hyear : (year.toNat : Int) = year := by omega
    obtain ⟨d, digits, hp⟩ := List.exists_cons_of_ne_nil (Text.padded_ne_nil 4 year.toNat)
    have hd : d.isDigit = true := Text.isDigit_of_mem_padded (hp ▸ List.mem_cons_self ..)
    rw [writeYear, if_pos hplain, readYear, trimStart_padded_append]
    rw [hp, List.cons_append] at unsigned ⊢
    split
    · rename_i hsign; rw [(List.cons.inj hsign).1] at hd; cases hd
    · rename_i hsign; rw [(List.cons.inj hsign).1] at hd; cases hd
    · simp only [unsigned, bind, Except.bind, Except.map]
      rw [hyear]
  · by_cases hneg : year < 0
    · have hyear : -(year.natAbs : Int) = year := by omega
      have hblank : Text.isBlank '-' = false := by decide
      rw [writeYear, if_neg hplain, if_pos hneg, List.cons_append, readYear, Text.trimStart_cons hblank]
      simp only [signed, bind, Except.bind, Except.map]
      rw [hyear]
    · have hyear : (year.natAbs : Int) = year := by omega
      have hblank : Text.isBlank '+' = false := by decide
      rw [writeYear, if_neg hplain, if_neg hneg, List.cons_append, readYear, Text.trimStart_cons hblank]
      simp only [signed, bind, Except.bind, Except.map]
      rw [hyear]

/-! ## The whole -/

/-- Six numbers in the layout of a timestamp, be they a moment or not. -/
def writeParts (year : Int) (month day hour minute second : Nat) : Text :=
  Text.padded 2 day ++ '.' :: Text.padded 2 month ++ '.' :: writeYear year ++
    ' ' :: Text.padded 2 hour ++ ':' :: Text.padded 2 minute ++ ':' :: Text.padded 2 second

theorem ofParts?_of_isMoment {year : Int} {month day hour minute second : Nat}
    (h : IsMoment year month day hour minute second) :
    ofParts? year month day hour minute second = some ⟨year, month, day, hour, minute, second, h⟩ := dif_pos h

theorem ofParts?_of_not_isMoment {year : Int} {month day hour minute second : Nat}
    (h : ¬ IsMoment year month day hour minute second) : ofParts? year month day hour minute second = none := dif_neg h

theorem readMark_cons (mark : Char) (rest : Text) : readMark mark (mark :: rest) = .ok rest := if_pos rfl

/-- Six numbers in the layout are read as the moment that they are, or are out of range: no number is
    moved into its bounds, and no day into another month. -/
theorem readTrimmed_writeParts (year : Int) {month day hour minute second : Nat} (hday : day < 100)
    (hmonth : month < 100) (hhour : hour < 100) (hminute : minute < 100) (hsecond : second < 100) :
    readTrimmed (writeParts year month day hour minute second) =
      match ofParts? year month day hour minute second with
      | some t => .ok t
      | none => .error .outOfRange := by
  have hspace : ∀ rest : Text, ∀ c, (' ' :: rest).head? = some c → c.isDigit = false := by
    intro rest c hc
    cases hc
    rfl
  have hskip : ∀ n rest, Text.trimStart (' ' :: (Text.padded 2 n ++ rest)) = Text.padded 2 n ++ rest := fun n rest =>
    trimStart_padded_append 2 n rest
  have hlast := readPart_padded 0 60 hsecond []
  rw [List.append_nil] at hlast
  simp only [readTrimmed, writeParts, List.append_assoc, List.cons_append]
  by_cases hd : 1 ≤ day ∧ day ≤ 31
  case neg =>
    rw [readPart_padded 1 31 hday, if_neg hd, ofParts?_of_not_isMoment fun h => hd (bounds_of_isMoment h).1]
    rfl
  rw [readPart_padded 1 31 hday, if_pos hd]
  simp only [bind, Except.bind, readMark_cons]
  by_cases hm : 1 ≤ month ∧ month ≤ 12
  case neg =>
    rw [readPart_padded 1 12 hmonth, if_neg hm, ofParts?_of_not_isMoment fun h => hm (bounds_of_isMoment h).2.1]
  rw [readPart_padded 1 12 hmonth, if_pos hm]
  simp only [readMark_cons]
  by_cases hy : -2147483648 ≤ year ∧ year ≤ 2147483647
  case neg =>
    rw [readYear_writeYear year (hspace _), if_neg hy,
      ofParts?_of_not_isMoment fun h => hy (bounds_of_isMoment h).2.2.1]
  rw [readYear_writeYear year (hspace _), if_pos hy]
  simp only [hskip]
  by_cases hh : 0 ≤ hour ∧ hour ≤ 23
  case neg =>
    rw [readPart_padded 0 23 hhour, if_neg hh, ofParts?_of_not_isMoment fun h => hh (bounds_of_isMoment h).2.2.2.1]
  rw [readPart_padded 0 23 hhour, if_pos hh]
  simp only [readMark_cons]
  by_cases hn : 0 ≤ minute ∧ minute ≤ 59
  case neg =>
    rw [readPart_padded 0 59 hminute, if_neg hn, ofParts?_of_not_isMoment fun h => hn (bounds_of_isMoment h).2.2.2.2.1]
  rw [readPart_padded 0 59 hminute, if_pos hn]
  simp only [readMark_cons, hlast]
  by_cases hs : 0 ≤ second ∧ second ≤ 60
  case neg =>
    rw [if_neg hs, ofParts?_of_not_isMoment fun h => hs (bounds_of_isMoment h).2.2.2.2.2]
  rw [if_pos hs]
  rfl

theorem readTrimmed_write (t : Timestamp) : readTrimmed t.write = .ok t := by
  obtain ⟨year, month, day, hour, minute, second, h⟩ := t
  obtain ⟨hday, hmonth, -, hhour, hminute, hsecond⟩ := bounds_of_isMoment h
  show readTrimmed (writeParts year month day hour minute second) = _
  rw [readTrimmed_writeParts year (by omega) (by omega) (by omega) (by omega) (by omega), ofParts?_of_isMoment h]

theorem isTrimmed_writeParts (year : Int) (month day hour minute second : Nat) :
    Text.IsTrimmed (writeParts year month day hour minute second) where
  head c hc := by
    obtain ⟨d, digits, hp⟩ := List.exists_cons_of_ne_nil (Text.padded_ne_nil 2 day)
    simp only [writeParts, hp, List.append_assoc, List.cons_append, List.head?_cons, Option.some.injEq] at hc
    subst hc
    exact Text.isBlank_of_isDigit (Text.isDigit_of_mem_padded (hp ▸ List.mem_cons_self ..))
  last c hc := by
    have hp := (List.dropLast_concat_getLast (Text.padded_ne_nil 2 second)).symm
    rw [writeParts, hp, ← List.cons_append, ← List.append_assoc, List.getLast?_concat] at hc
    cases hc
    exact Text.isBlank_of_isDigit (Text.isDigit_of_mem_padded (List.getLast_mem _))

theorem isTrimmed_write (t : Timestamp) : Text.IsTrimmed t.write :=
  isTrimmed_writeParts t.year t.month t.day t.hour t.minute t.second

/-- What is written is read back, blanks around it aside. -/
theorem read_write (t : Timestamp) : read t.write = .ok t := by
  rw [read, Text.trim_eq_self_iff.mpr t.isTrimmed_write, readTrimmed_write]
  rfl

theorem read_trim (text : Text) : read (Text.trim text) = read text := by
  simp only [read, Text.trim_trim]

/-! ## The characters of a written timestamp -/

theorem mem_writeYear {year : Int} {c : Char} (h : c ∈ writeYear year) : c.isDigit = true ∨ c ∈ ['-', '+'] := by
  unfold writeYear at h
  split at h
  · exact Or.inl (Text.isDigit_of_mem_padded h)
  · rcases List.mem_cons.mp h with h | h
    · right; split at h <;> simp [h]
    · exact Or.inl (Text.isDigit_of_mem_padded h)

theorem mem_write {t : Timestamp} {c : Char} (h : c ∈ t.write) :
    c.isDigit = true ∨ c ∈ ['-', '+', '.', ' ', ':'] := by
  have digit : ∀ {n}, c ∈ Text.padded 2 n → c.isDigit = true ∨ c ∈ ['-', '+', '.', ' ', ':'] := fun h =>
    Or.inl (Text.isDigit_of_mem_padded h)
  simp only [write, List.mem_append, List.mem_cons] at h
  rcases h with ((((h | rfl | h) | rfl | h) | rfl | h) | rfl | h) | rfl | h
  · exact digit h
  · right; decide
  · exact digit h
  · right; decide
  · exact (mem_writeYear h).imp_right fun h => List.mem_append_left _ h
  · right; decide
  · exact digit h
  · right; decide
  · exact digit h
  · right; decide
  · exact digit h

theorem not_mem_write {c : Char} (h : c.isDigit = false ∧ c ∉ ['-', '+', '.', ' ', ':']) (t : Timestamp) :
    c ∉ t.write := by
  intro hc
  rcases mem_write hc with hd | hd
  · rw [h.1] at hd; cases hd
  · exact h.2 hd

open Text (isAllBlank)

/-! ## Days of the calendar -/

/-- A day of the Gregorian calendar, in one of the years that timestamps reach. -/
structure IsDay (year : Int) (month day : Nat) : Prop where
  in_reach : -262143 ≤ year ∧ year ≤ 262142
  in_year : 1 ≤ month ∧ month ≤ 12
  in_month : 1 ≤ day ∧ day ≤ 31
  in_short_month : month ∈ [4, 6, 9, 11] → day ≤ 30
  in_february : month = 2 → day ≤ 29
  /-- A 29th of February is in a year divisible by four, and not in a century unless it is divisible by 400. -/
  leap_day : month = 2 → day = 29 → 4 ∣ year ∧ (100 ∣ year → 400 ∣ year)

/-- A second of a day; the last one of any minute may be a leap second. -/
structure IsSecond (hour minute second : Nat) : Prop where
  hour : hour ≤ 23
  minute : minute ≤ 59
  second : second ≤ 60

theorem isLeapYear_iff {year : Int} : isLeapYear year = true ↔ 4 ∣ year ∧ (100 ∣ year → 400 ∣ year) := by
  simp only [isLeapYear, Bool.and_eq_true, Bool.or_eq_true, beq_iff_eq, bne_iff_ne, ne_eq]
  omega

theorem daysInMonth_of_short {year : Int} {month : Nat} (h : month ∈ [4, 6, 9, 11]) : daysInMonth year month = 30 := by
  simp only [List.mem_cons, List.not_mem_nil, or_false] at h
  rcases h with rfl | rfl | rfl | rfl <;> rfl

theorem daysInMonth_of_long {year : Int} {month : Nat} (hmonth : 1 ≤ month ∧ month ≤ 12)
    (hshort : month ∉ [4, 6, 9, 11]) (hfebruary : month ≠ 2) : daysInMonth year month = 31 := by
  simp only [List.mem_cons, List.not_mem_nil, or_false] at hshort
  have hlong : month = 1 ∨ month = 3 ∨ month = 5 ∨ month = 7 ∨ month = 8 ∨ month = 10 ∨ month = 12 := by omega
  rcases hlong with rfl | rfl | rfl | rfl | rfl | rfl | rfl <;> rfl

theorem isMoment_iff {year : Int} {month day hour minute second : Nat} :
    IsMoment year month day hour minute second ↔ IsDay year month day ∧ IsSecond hour minute second := by
  have hfebruary : daysInMonth year 2 = if 4 ∣ year ∧ (100 ∣ year → 400 ∣ year) then 29 else 28 := by
    simp only [daysInMonth, isLeapYear_iff]
  unfold IsMoment
  constructor
  · intro h
    obtain ⟨hlow, hhigh, hday, hdays, hhour, hminute, hsecond⟩ := h
    have hle := daysInMonth_le year month
    have hmonth := month_of_daysInMonth_pos (Nat.lt_of_lt_of_le hday hdays)
    refine ⟨⟨⟨hlow, hhigh⟩, hmonth, ⟨hday, by omega⟩, ?_, ?_, ?_⟩, ⟨hhour, hminute, hsecond⟩⟩
    · intro hshort
      rwa [daysInMonth_of_short hshort] at hdays
    · intro h
      rw [h, hfebruary] at hdays
      split at hdays <;> omega
    · intro h hlast
      rw [h, hfebruary, hlast] at hdays
      by_contra hleap
      rw [if_neg hleap] at hdays
      omega
  · intro h
    obtain ⟨hd, hs⟩ := h
    refine ⟨hd.in_reach.1, hd.in_reach.2, hd.in_month.1, ?_, hs.hour, hs.minute, hs.second⟩
    by_cases hshort : month ∈ [4, 6, 9, 11]
    · rw [daysInMonth_of_short hshort]
      exact hd.in_short_month hshort
    by_cases h : month = 2
    · have hle := hd.in_february h
      have hleap := hd.leap_day h
      rw [h, hfebruary]
      split
      · exact hle
      · rename_i hnot
        have : day ≠ 29 := fun hlast => hnot (hleap hlast)
        omega
    · rw [daysInMonth_of_long hd.in_year hshort h]
      exact hd.in_month.2

/-! ## Reading -/

def HasParts (t : Timestamp) (year : Int) (month day hour minute second : Nat) : Prop :=
  t.year = year ∧ t.month = month ∧ t.day = day ∧ t.hour = hour ∧ t.minute = minute ∧ t.second = second

/-- Six numbers are read from some text exactly where they are a second of a day of the calendar. -/
theorem exists_read_iff {year : Int} {month day hour minute second : Nat} :
    (∃ text t, read text = .ok t ∧ t.HasParts year month day hour minute second) ↔
      IsDay year month day ∧ IsSecond hour minute second := by
  rw [← isMoment_iff]
  constructor
  · intro h
    obtain ⟨_, t, -, rfl, rfl, rfl, rfl, rfl, rfl⟩ := h
    exact t.isMoment
  · intro h
    let t : Timestamp := ⟨year, month, day, hour, minute, second, h⟩
    exact ⟨t.write, t, t.read_write, rfl, rfl, rfl, rfl, rfl, rfl⟩

/-- Six numbers that are no moment are refused in the layout of one. -/
theorem read_writeParts_of_not {year : Int} {month day hour minute second : Nat} (hday : day < 100)
    (hmonth : month < 100) (hhour : hour < 100) (hminute : minute < 100) (hsecond : second < 100)
    (h : ¬ (IsDay year month day ∧ IsSecond hour minute second)) :
    read (writeParts year month day hour minute second) =
      .error ⟨writeParts year month day hour minute second, .outOfRange⟩ := by
  rw [← isMoment_iff] at h
  rw [read, Text.trim_eq_self_iff.mpr (isTrimmed_writeParts ..),
    readTrimmed_writeParts year hday hmonth hhour hminute hsecond, ofParts?_of_not_isMoment h]
  rfl

/-- Blanks around a timestamp are not part of it. -/
theorem read_blanks_write {before after : Text} (hb : isAllBlank before = true) (ha : isAllBlank after = true)
    (t : Timestamp) : read (before ++ t.write ++ after) = .ok t := by
  have htrim : Text.trim (before ++ t.write ++ after) = Text.trim t.write := by
    rw [Text.trim_append_blanks ha, Text.trim_blanks_append hb]
  rw [read, htrim]
  exact t.read_write

/-! ## Normal forms -/

theorem write_inj {s t : Timestamp} : s.write = t.write ↔ s = t := by
  constructor
  · intro h
    have hs := s.read_write
    rw [h, t.read_write] at hs
    exact (Except.ok.inj hs).symm
  · intro h
    rw [h]

/-- The text that what is read would be written as. -/
def normalForm? (text : Text) : Option Text := (read? text).map write

theorem read?_write (t : Timestamp) : read? t.write = some t := by
  rw [read?, t.read_write]
  rfl

theorem normalForm?_eq_iff {a b : Text} : normalForm? a = normalForm? b ↔ read? a = read? b := by
  unfold normalForm?
  cases read? a <;> cases read? b <;> simp [write_inj]

/-- The normal form is its own normal form, and stands for the same moment. -/
theorem normalForm?_of_eq_some {text form : Text} (h : normalForm? text = some form) :
    normalForm? form = some form ∧ read? form = read? text := by
  obtain ⟨t, ht, rfl⟩ := Option.map_eq_some_iff.mp h
  rw [normalForm?, read?_write, ht]
  exact ⟨rfl, rfl⟩

/-! ## The whole calendar -/

/-- What is read from a text is a second of a day of the calendar, every such second is read from some
    text, and numbers in the layout of a timestamp that are none are refused. A timestamp is
    read back from what it is written as, blanks around it aside. So timestamps that are written alike
    are the same, and a text that is read has a normal form: the same for two texts exactly where they
    stand for one moment, and standing for that moment itself. -/
theorem calendar_read_back :
    (∀ (year : Int) (month day hour minute second : Nat),
      ((∃ text t, read text = .ok t ∧ t.HasParts year month day hour minute second) ↔
        IsDay year month day ∧ IsSecond hour minute second) ∧
      (day < 100 → month < 100 → hour < 100 → minute < 100 → second < 100 →
        ¬ (IsDay year month day ∧ IsSecond hour minute second) →
        read (writeParts year month day hour minute second) =
          .error ⟨writeParts year month day hour minute second, .outOfRange⟩)) ∧
    (∀ (t : Timestamp) (before after : Text), isAllBlank before = true → isAllBlank after = true →
      read (before ++ t.write ++ after) = .ok t) ∧
    (∀ s t : Timestamp, s.write = t.write ↔ s = t) ∧
    (∀ a b : Text, normalForm? a = normalForm? b ↔ read? a = read? b) ∧
    ∀ text form : Text, normalForm? text = some form → normalForm? form = some form ∧ read? form = read? text := by
  refine ⟨fun year month day hour minute second => ⟨exists_read_iff, ?_⟩, ?_, fun s t => write_inj,
    fun a b => normalForm?_eq_iff, fun text form => normalForm?_of_eq_some⟩
  · intro hday hmonth hhour hminute hsecond h
    exact read_writeParts_of_not hday hmonth hhour hminute hsecond h
  · intro t before after hb ha
    exact read_blanks_write hb ha t

/-- A leap second in a year before the first one comes back from between blanks of two kinds, and a text
    with a year of six digits has a normal form. The century 1900 had no 29th of February. -/
theorem calendar_read_back_odd_years :
    read ("\u3000".toList ++ "29.02.-0044 05:04:60".toList ++ "\t\n".toList) =
      .ok ⟨-44, 2, 29, 5, 4, 60, by decide⟩ ∧
    normalForm? "1. 2.+012020 3:4:5".toList = some "01.02.+12020 03:04:05".toList ∧
    read? "01.02.+12020 03:04:05".toList = read? "1. 2.+012020 3:4:5".toList ∧
    read "29.02.1900 00:00:00".toList = .error ⟨"29.02.1900 00:00:00".toList, .outOfRange⟩ := by
  obtain ⟨hparts, hread, -, -, hform⟩ := calendar_read_back
  let leap : Timestamp := ⟨-44, 2, 29, 5, 4, 60, by decide⟩
  have hleap : leap.write = "29.02.-0044 05:04:60".toList := by decide
  have hnone : ¬ (IsDay 1900 2 29 ∧ IsSecond 0 0 0) := fun h => absurd (h.1.leap_day rfl rfl) (by decide)
  have hlayout : writeParts 1900 2 29 0 0 0 = "29.02.1900 00:00:00".toList := by decide
  refine ⟨?_, by decide, (hform "1. 2.+012020 3:4:5".toList _ (by decide)).2, ?_⟩
  · rw [← hleap]
    exact hread leap _ _ (by decide) (by decide)
  · rw [← hlayout]
    exact (hparts 1900 2 29 0 0 0).2 (by decide) (by decide) (by decide) (by decide) (by decide) hnone

end ActivityLog.Timestamp
