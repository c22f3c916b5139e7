import Mathlib.Tactic.SplitIfs
import SqlSchema.Proofs.Number.Digits
import SqlSchema.Proofs.Text.Blank
import SqlSchema.Temporal.Reader
import SqlSchema.Temporal.Writer

/-! # Dates and times read back

What is written for a date, a time or a moment is read as the same one, in either layout: years of
either sign, fractions of any length and leap seconds included. -/

namespace SqlSchema.Temporal

open SqlSchema.Number SqlSchema.Text

/-! ## Padded numbers -/

theorem allDigits_padded (width n : Nat) : AllDigits (padded width n) :=
  (allDigits_replicate _).append (allDigits_toDigits n)

theorem digitsValue_padded (width n : Nat) : digitsValue 0 (padded width n) = n :=
  digitsValue_zeros_toDigits _ n

theorem padded_ne_nil (width n : Nat) : padded width n ≠ [] := by
  intro h
  exact toDigits_ne_nil n (List.append_eq_nil_iff.mp h).2

theorem length_padded {width n : Nat} (hwidth : 0 < width) (hn : n < powerOfTen width) :
    (padded width n).length = width := by
  have hdigits : (Nat.toDigits 10 n).length ≤ width :=
    (Nat.length_toDigits_le_iff (by decide) hwidth).mpr hn
  simp only [padded, List.length_append, List.length_replicate]
  omega

/-! ## Digits -/

theorem not_isBlankChar_of_isDigit {c : Char} (h : isDigit c = true) : isBlankChar c = false := by
  have hc := (isDigit_iff c).mp h
  simp only [isBlankChar, Bool.or_eq_false_iff, Bool.and_eq_false_iff, beq_eq_false_iff_ne,
    decide_eq_false_iff_not]
  omega

theorem dropBlanks_digits {cs : List Char} (hcs : AllDigits cs) (hne : cs ≠ [])
    (rest : List Char) : dropBlanks (cs ++ rest) = cs ++ rest :=
  dropBlanks_word hne (fun c hc => not_isBlankChar_of_isDigit (hcs c hc)) rest

theorem skip_nil (layout : Layout) : layout.skip [] = [] := by
  cases layout <;> rfl

theorem skip_cons {c : Char} (h : isBlankChar c = false) (layout : Layout) (cs : List Char) :
    layout.skip (c :: cs) = c :: cs := by
  cases layout with
  | loose => exact dropBlanks_cons h cs
  | strict => rfl

/-- Digits are read up to where they end, or up to the most that are allowed. -/
theorem readDigits_append {most : Nat} {cs rest : List Char} (hcs : AllDigits cs) (hne : cs ≠ [])
    (hmost : cs.length ≤ most) (hrest : cs.length = most ∨ NoDigitHead rest) :
    readDigits most (cs ++ rest) = .ok (digitsValue 0 cs, rest) := by
  have htake : ((cs ++ rest).take most).takeWhile isDigit = cs := by
    have hend : (rest.take (most - cs.length)).takeWhile isDigit = [] := by
      rcases hrest with hlength | hrest
      · simp [hlength]
      · cases rest with
        | nil => simp
        | cons c rest =>
            have hc : isDigit c = false := hrest c rfl
            cases most - cs.length <;> simp [hc]
    rw [List.take_append, List.take_of_length_le hmost, List.takeWhile_append_of_pos hcs, hend,
      List.append_nil]
  obtain ⟨c, tail, rfl⟩ := List.exists_cons_of_ne_nil hne
  have hc : isDigit c = true := hcs c List.mem_cons_self
  rw [List.cons_append] at htake ⊢
  rw [readDigits, if_pos hc]
  simp only [htake]
  rw [← List.cons_append, List.drop_left]

theorem readDigits_padded {most width n : Nat} {rest : List Char}
    (hmost : (padded width n).length ≤ most)
    (hrest : (padded width n).length = most ∨ NoDigitHead rest) :
    readDigits most (padded width n ++ rest) = .ok (n, rest) := by
  rw [readDigits_append (allDigits_padded width n) (padded_ne_nil width n) hmost hrest,
    digitsValue_padded]

theorem readField_padded {least greatest n : Nat} (hleast : least ≤ n) (hgreatest : n ≤ greatest)
    (hn : n < 100) (rest : List Char) :
    readField least greatest (padded 2 n ++ rest) = .ok (n, rest) := by
  have hlength : (padded 2 n).length = 2 := length_padded (by decide) hn
  rw [readField, dropBlanks_digits (allDigits_padded 2 n) (padded_ne_nil 2 n),
    readDigits_padded (Nat.le_of_eq hlength) (.inl hlength)]
  simp [bind, Except.bind, hleast, hgreatest, pure, Except.pure]

theorem expect_cons (mark : Char) (cs : List Char) : expect mark (mark :: cs) = .ok cs := by
  simp [expect]

/-! ## Dates -/

theorem monthLength_le (year : Int) (month : Nat) : monthLength year month ≤ 31 := by
  unfold monthLength
  split_ifs <;> decide

/-- Without a sign a year has at most four digits. -/
theorem readYear_digits {cs : List Char} (hcs : AllDigits cs) (hne : cs ≠ []) (rest : List Char) :
    readYear (cs ++ rest) = do
      let (n, rest) ← readDigits 4 (cs ++ rest)
      return ((n : Int), rest) := by
  rw [readYear, dropBlanks_digits hcs hne]
  obtain ⟨c, cs, rfl⟩ := List.exists_cons_of_ne_nil hne
  have hc : isDigit c = true := hcs c List.mem_cons_self
  split
  next h => exact absurd (List.cons.inj h).1 (ne_of_isDigit hc (by decide))
  next h => exact absurd (List.cons.inj h).1 (ne_of_isDigit hc (by decide))
  next => rfl

theorem readYear_yearChars {year : Int} (hleast : leastYear ≤ year)
    (hgreatest : year ≤ greatestYear) {rest : List Char} (hrest : NoDigitHead rest) :
    readYear (yearChars year ++ rest) = .ok (year, rest) := by
  have hdigits := allDigits_padded 4 year.natAbs
  have hne := padded_ne_nil 4 year.natAbs
  have hsigned : readDigits (padded 4 year.natAbs ++ rest).length (padded 4 year.natAbs ++ rest) =
      .ok (year.natAbs, rest) :=
    readDigits_padded (by simp) (.inr hrest)
  have hbound : year.natAbs < powerOfTwo 31 := by
    simp only [leastYear, greatestYear] at hleast hgreatest
    simp only [powerOfTwo, Nat.pow_eq]
    omega
  unfold yearChars
  split_ifs with hnegative hlarge
  · rw [List.cons_append, readYear, dropBlanks_cons (by decide)]
    simp only [hsigned, bind, Except.bind, Nat.le_of_lt hbound, if_true, pure, Except.pure]
    rw [Int.ofNat_natAbs_of_nonpos (Int.le_of_lt hnegative), Int.neg_neg]
  · rw [List.cons_append, readYear, dropBlanks_cons (by decide)]
    simp only [hsigned, bind, Except.bind, hbound, if_true, pure, Except.pure]
    rw [Int.natAbs_of_nonneg (by omega)]
  · have hfour : (padded 4 year.natAbs).length = 4 :=
      length_padded (by decide) (show year.natAbs < 10000 by omega)
    rw [readYear_digits hdigits hne, readDigits_padded (Nat.le_of_eq hfour) (.inl hfour)]
    simp only [bind, Except.bind, pure, Except.pure]
    rw [Int.natAbs_of_nonneg (by omega)]

/-- The numbers of a date are read from its characters, whatever follows. -/
theorem readDateFields_chars (layout : Layout) (d : Date) (rest : List Char) :
    readDateFields layout (d.chars ++ rest) = .ok (⟨d.year, d.month, d.day⟩, rest) := by
  obtain ⟨hleast, hgreatest, hmonth, hmonth', hday, hday'⟩ := d.isDate
  have hlength : d.day ≤ 31 := Nat.le_trans hday' (monthLength_le d.year d.month)
  have hyear : readYear (d.chars ++ rest) =
      .ok (d.year, '-' :: (padded 2 d.month ++ '-' :: (padded 2 d.day ++ rest))) := by
    rw [← readYear_yearChars hleast hgreatest (noDigitHead_cons (c := '-') (by decide) _)]
    simp [Date.chars]
  rw [readDateFields, hyear]
  simp only [bind, Except.bind, skip_cons (show isBlankChar '-' = false by decide), expect_cons,
    readField_padded hmonth hmonth' (by omega), readField_padded hday hlength (by omega), pure,
    Except.pure]

theorem Date.read_text (layout : Layout) (d : Date) : Date.read layout d.text = .ok d := by
  have hfields := readDateFields_chars layout d []
  rw [List.append_nil] at hfields
  rw [Date.read, Date.text, String.toList_ofList, hfields]
  simp only [bind, Except.bind, skip_nil, expectEnd, DateFields.date, Date.of?_self]

/-! ## Times -/

theorem readMinute_chars (layout : Layout) {hour minute : Nat} (hhour : hour < 24)
    (hminute : minute < 60) (rest : List Char) :
    readMinute layout (padded 2 hour ++ ':' :: (padded 2 minute ++ rest)) =
      .ok ((hour, minute), rest) := by
  rw [readMinute, readField_padded (Nat.zero_le _) (by omega) (by omega)]
  simp only [bind, Except.bind, skip_cons (show isBlankChar ':' = false by decide), expect_cons,
    readField_padded (Nat.zero_le minute) (show minute ≤ 59 by omega) (by omega), pure, Except.pure]

/-- A fraction of so many digits is read as that many digits of nanoseconds. -/
theorem readFraction_padded {width n : Nat} (hwidth : 0 < width) (hmost : width ≤ 9)
    (hn : n < powerOfTen width) {rest : List Char} (hrest : NoDigitHead rest) :
    readFraction ('.' :: (padded width n ++ rest)) = .ok (n * powerOfTen (9 - width), rest) := by
  have hlength : (padded width n).length = width := length_padded hwidth hn
  rw [readFraction, readDigits_padded (by omega) (.inr hrest)]
  simp only [bind, Except.bind, pure, Except.pure, List.length_append, hlength,
    Nat.add_sub_cancel, dropWhile_noDigitHead hrest]

theorem readFraction_fractionChars {nano : Nat} (hnano : nano < secondLength) {rest : List Char}
    (hrest : NoDigitHead rest) (hpoint : rest.head? ≠ some '.') :
    readFraction (fractionChars nano ++ rest) = .ok (nano, rest) := by
  have hsecond : nano < 1000000000 := hnano
  unfold fractionChars
  split_ifs with hzero hmilli hmicro
  · cases rest with
    | nil => rw [hzero]; rfl
    | cons c rest =>
        rw [List.nil_append, readFraction, hzero]
        rintro tail h
        exact hpoint (h ▸ rfl)
  · rw [List.cons_append, readFraction_padded (by decide) (by decide)
      (show nano / 1000000 < 1000 by omega) hrest]
    rw [show powerOfTen (9 - 3) = 1000000 from rfl,
      Nat.div_mul_cancel (Nat.dvd_of_mod_eq_zero hmilli)]
  · rw [List.cons_append, readFraction_padded (by decide) (by decide)
      (show nano / 1000 < 1000000 by omega) hrest]
    rw [show powerOfTen (9 - 6) = 1000 from rfl,
      Nat.div_mul_cancel (Nat.dvd_of_mod_eq_zero hmicro)]
  · rw [List.cons_append, readFraction_padded (by decide) (by decide) hsecond hrest]
    rw [show powerOfTen (9 - 9) = 1 from rfl, Nat.mul_one]

theorem readSecond_chars (layout : Layout) {second nano : Nat} (hsecond : second ≤ 60)
    (hnano : nano < secondLength) {rest : List Char} (hrest : NoDigitHead rest)
    (hpoint : rest.head? ≠ some '.') :
    readSecond layout (':' :: (padded 2 second ++ (fractionChars nano ++ rest))) =
      .ok ((second, nano), layout.skip rest) := by
  rw [readSecond, skip_cons (by decide), expect_cons]
  simp only [bind, Except.bind, readField_padded (Nat.zero_le second) hsecond (by omega),
    readFraction_fractionChars hnano hrest hpoint, pure, Except.pure]

theorem Time.shownSecond_le (t : Time) : t.shownSecond ≤ 60 := by
  obtain ⟨-, -, hsecond, -⟩ := t.isTime
  unfold shownSecond
  split_ifs <;> omega

theorem Time.fraction_lt (t : Time) : t.fraction < secondLength :=
  Nat.mod_lt _ (by decide)

/-- The shown second and the fraction of a time determine it, the leap second being the only
sixtieth. -/
theorem timeOfFields_shown (t : Time) :
    timeOfFields t.hour t.minute t.shownSecond t.fraction = .ok t := by
  obtain ⟨-, -, hsecond, hnano, hleap⟩ := t.isTime
  unfold timeOfFields
  by_cases h : secondLength ≤ t.nano
  · have hfraction : secondLength + t.fraction = t.nano := by
      rw [Time.fraction, Nat.mod_eq_sub_mod h, Nat.mod_eq_of_lt (by omega)]
      omega
    simp only [Time.shownSecond, h, if_true, hleap h, hfraction]
    rw [← hleap h, Time.of?_self]
  · have hfraction : t.fraction = t.nano := Nat.mod_eq_of_lt (by omega)
    simp only [Time.shownSecond, h, if_false, hfraction, (show t.second ≠ 60 by omega),
      Time.of?_self]

/-- A time is read from its characters in either layout, if no digit and no point follow. -/
theorem readTime_chars (layout : Layout) (t : Time) {rest : List Char} (hrest : NoDigitHead rest)
    (hpoint : rest.head? ≠ some '.') :
    readTime layout (t.chars ++ rest) = .ok (t, layout.skip rest) := by
  obtain ⟨hhour, hminute, -⟩ := t.isTime
  simp only [Time.chars, List.append_assoc, List.cons_append]
  rw [readTime, readMinute_chars layout hhour hminute]
  simp only [bind, Except.bind, readSecond_chars layout t.shownSecond_le t.fraction_lt hrest hpoint,
    timeOfFields_shown, pure, Except.pure]

theorem Time.read_text (t : Time) : Time.read t.text = .ok t := by
  obtain ⟨hhour, hminute, -⟩ := t.isTime
  have hsecond := readSecond_chars .loose t.shownSecond_le t.fraction_lt noDigitHead_nil
    (by rintro ⟨⟩)
  rw [List.append_nil] at hsecond
  rw [Time.read, Time.text, String.toList_ofList]
  simp only [Time.chars, List.append_assoc, List.cons_append]
  rw [readMinute_chars .loose hhour hminute]
  simp only [bind, Except.bind, hsecond, Layout.skip, dropBlanks, List.dropWhile_nil, expectEnd,
    timeOfFields_shown]

/-- A time is read back from a stored cell, too. -/
theorem Time.readFull_text (t : Time) : Time.readFull t.text = .ok t := by
  have htime := readTime_chars .strict t noDigitHead_nil (by rintro ⟨⟩)
  rw [List.append_nil] at htime
  rw [Time.readFull, Time.text, String.toList_ofList, htime]
  rfl

/-! ## Moments -/

theorem DateTime.read_documentText (m : DateTime) : DateTime.read m.documentText = .ok m := by
  have htime := readTime_chars .loose m.time noDigitHead_nil (by rintro ⟨⟩)
  rw [List.append_nil] at htime
  rw [DateTime.read, DateTime.documentText, String.toList_ofList, DateTime.chars,
    readDateFields_chars]
  simp only [bind, Except.bind, dropBlanks_cons (show isBlankChar 'T' = false by decide),
    expect_cons, htime, skip_nil, expectEnd, DateFields.date, Date.of?_self, pure, Except.pure]

theorem DateTime.readCell_text (m : DateTime) : DateTime.readCell m.text = .ok m := by
  have htime := readTime_chars .strict m.time noDigitHead_nil (by rintro ⟨⟩)
  rw [List.append_nil] at htime
  have hblank : dropBlanks (' ' :: m.time.chars) = m.time.chars := by
    have hhour := dropBlanks_digits (allDigits_padded 2 m.time.hour) (padded_ne_nil 2 m.time.hour)
    rw [dropBlanks, List.dropWhile_cons_of_pos (by decide), ← dropBlanks, Time.chars]
    simp only [List.append_assoc, List.cons_append]
    exact hhour _
  have hspaced : DateTime.readCell.separated m.text (fun cs => .ok (dropBlanks cs)) = .ok m := by
    rw [DateTime.readCell.separated, DateTime.text, String.toList_ofList, DateTime.chars,
      readDateFields_chars]
    simp only [bind, Except.bind, hblank, htime, skip_nil, expectEnd, DateFields.date,
      Date.of?_self, pure, Except.pure]
  rw [DateTime.readCell, hspaced]

theorem DateTime.toUniversal?_zero (m : DateTime) : m.toUniversal? 0 = some m := by
  obtain ⟨hhour, hminute, -⟩ := m.time.isTime
  have hday : m.time.minuteOfDay < 1440 := by
    unfold Time.minuteOfDay
    omega
  have hminutes : ((m.time.minuteOfDay : Int) % 1440).toNat = m.time.minuteOfDay := by
    omega
  have htime : m.time.atMinute? m.time.minuteOfDay = some m.time := by
    rw [Time.atMinute?, Time.minuteOfDay, Nat.mul_add_mod, Nat.mod_eq_of_lt hminute,
      Nat.mul_add_div (by decide), Nat.div_eq_of_lt hminute, Nat.add_zero, Time.of?_self]
  unfold DateTime.toUniversal?
  simp only [Int.sub_zero, hminutes, htime]
  rw [if_neg (by omega), if_pos (by omega)]
  rfl

theorem DateTime.readZoned_universalText (m : DateTime) :
    DateTime.readZoned m.universalText = .ok m := by
  have htime := readTime_chars .loose m.time (noDigitHead_cons (c := 'Z') (by decide) [])
    (by decide)
  have hzone : readZone ['Z'] = .ok (0, []) := by rfl
  rw [DateTime.readZoned, DateTime.universalText, String.toList_ofList, DateTime.chars,
    List.append_assoc, readDateFields_chars]
  simp only [bind, Except.bind, List.cons_append, beq_self_eq_true, Bool.or_true, Bool.true_or,
    if_true, pure, Except.pure, htime, skip_cons (show isBlankChar 'Z' = false by decide), hzone,
    dropBlanks, List.dropWhile_nil, expectEnd, DateFields.date, Date.of?_self,
    DateTime.toUniversal?_zero]
  rfl

end SqlSchema.Temporal
