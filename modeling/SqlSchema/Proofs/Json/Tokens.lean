import SqlSchema.Proofs.Json.Grammar

/-! # Tokens are read

The words, strings and numbers of the grammar are read to their last character, wherever they
stand. -/

namespace SqlSchema.Json

open Number Text

/-! ## What a reader leaves -/

def Leaves {α : Type} (read : Except ReadError (α × Cursor)) (rest : List Char) : Prop :=
  ∃ value next, read = .ok (value, next) ∧ next.rest = rest

section Leaves

variable {α β : Type} {read : Except ReadError (α × Cursor)} {rest cs : List Char}

theorem Leaves.ok {value : α} {next : Cursor} (h : next.rest = rest) :
    Leaves (.ok (value, next)) rest :=
  ⟨value, next, rfl, h⟩

theorem Leaves.bind {next : α × Cursor → Except ReadError (β × Cursor)} (h : Leaves read cs)
    (hnext : ∀ value place, place.rest = cs → Leaves (next (value, place)) rest) :
    Leaves (read >>= next) rest := by
  obtain ⟨value, place, rfl, hplace⟩ := h
  exact hnext value place hplace

theorem Leaves.map {f : α → β} (h : Leaves read rest) :
    Leaves (read.map fun found => (f found.1, found.2)) rest := by
  obtain ⟨value, place, rfl, hplace⟩ := h
  exact ⟨f value, place, rfl, hplace⟩

end Leaves

/-! ## Places -/

namespace Cursor

variable {place : Cursor} {c : Char} {cs rest : List Char}

theorem peek_eq (h : place.rest = c :: cs) : place.peek = some c := by
  rw [peek, h, List.head?_cons]

theorem rest_advance (h : place.rest = c :: cs) : place.advance.rest = cs := by
  rw [advance, h]
  dsimp only
  split <;> rfl

theorem rest_skipBlanks_go (cs : List Char) (line column : Nat) :
    (skipBlanks.go cs line column).rest = cs.dropWhile (· ∈ blanks) := by
  induction cs generalizing line column with
  | nil => rfl
  | cons c cs ih =>
      rw [skipBlanks.go]
      split
      · rename_i hc
        obtain rfl := eq_of_beq hc
        rw [ih, List.dropWhile_cons_of_pos (by decide)]
      · split
        · rename_i hc
          have hblank : c ∈ blanks := by
            simp only [Bool.or_eq_true, beq_iff_eq] at hc
            rcases hc with (rfl | rfl) | rfl <;> decide
          rw [ih, List.dropWhile_cons_of_pos (by simpa using hblank)]
        · rw [List.dropWhile_cons_of_neg (by simp_all [blanks])]

theorem rest_skipBlanks {blank : List Char} (h : place.rest = blank ++ cs)
    (hblank : ∀ c ∈ blank, c ∈ blanks) (hcs : ∀ c ∈ cs.head?, c ∉ blanks) :
    place.skipBlanks.rest = cs := by
  have hhead : cs.dropWhile (· ∈ blanks) = cs := by
    cases cs with
    | nil => rfl
    | cons c cs => exact List.dropWhile_cons_of_neg (by simpa using hcs c rfl)
  rw [skipBlanks, rest_skipBlanks_go, h,
    List.dropWhile_append_of_pos (by simpa using hblank), hhead]

theorem takeDigits_eq {digits : List Char} (h : place.rest = digits ++ rest)
    (hdigits : AllDigits digits) (hrest : NoDigitHead rest) :
    ∃ next, place.takeDigits = (digits, next) ∧ next.rest = rest := by
  have htaken : place.rest.takeWhile isDigit = digits := by
    rw [h, List.takeWhile_append_of_pos hdigits, takeWhile_noDigitHead hrest, List.append_nil]
  have hleft : place.rest.dropWhile isDigit = rest := by
    rw [h, List.dropWhile_append_of_pos hdigits, dropWhile_noDigitHead hrest]
  refine ⟨⟨rest, place.line, place.column + digits.length⟩, ?_, rfl⟩
  rw [takeDigits, spanDigits, htaken, hleft]

end Cursor

/-! ## Words and strings -/

theorem exists_readWord {word rest : List Char} {place : Cursor}
    (h : place.rest = word ++ rest) :
    ∃ next, readWord word place = .ok next ∧ next.rest = rest := by
  induction word generalizing place with
  | nil => exact ⟨place, rfl, h⟩
  | cons c word ih =>
      obtain ⟨next, hnext, hrest⟩ := ih (Cursor.rest_advance h)
      refine ⟨next, ?_, hrest⟩
      rw [readWord, Cursor.peek_eq h]
      dsimp only
      rw [if_pos (beq_self_eq_true c), hnext]

theorem leaves_readWord {word rest : List Char} {place : Cursor} (doc : Json)
    (h : place.rest = word ++ rest) :
    Leaves ((readWord word place).map fun next => (doc, next)) rest := by
  obtain ⟨next, hnext, hrest⟩ := exists_readWord h
  rw [hnext]
  exact .ok hrest

theorem toNat_lt_of_hexValue? {c : Char} {n : Nat} (h : hexValue? c = some n) :
    48 ≤ c.toNat ∧ c.toNat < 128 := by
  unfold hexValue? at h
  simp only [Bool.and_eq_true, decide_eq_true_eq] at h
  split at h
  · omega
  · split at h
    · omega
    · split at h
      · omega
      · cases h

theorem skipBytes_go_hexDigit {c : Char} {n : Nat} (h : hexValue? c = some n) (rest : List Char)
    (line column count : Nat) :
    Cursor.skipBytes.go (c :: rest) line column (count + 1) =
      Cursor.skipBytes.go rest line (column + 1) count := by
  obtain ⟨hlow, hhigh⟩ := toNat_lt_of_hexValue? h
  have hline : ¬(c == '\n') = true := by
    rintro heq
    obtain rfl := eq_of_beq heq
    revert hlow
    decide
  have hsize : c.utf8Size = 1 := by
    rw [Char.utf8Size_eq_one_iff, UInt32.le_iff_toNat_le]
    exact Nat.le_of_lt_succ hhigh
  rw [Cursor.skipBytes.go, if_neg hline, hsize, if_neg (by omega), Nat.add_sub_cancel]

theorem readHexEscape_eq {digits rest : List Char} {n : Nat} {place : Cursor}
    (hdigits : HexText digits n) (h : place.rest = digits ++ rest) :
    ∃ next, readHexEscape place = .ok (n, next) ∧ next.rest = rest := by
  obtain ⟨ha, hb, hc, hd⟩ := hdigits
  refine ⟨⟨rest, place.line, place.column + 4⟩, ?_, rfl⟩
  have hskip : place.skipBytes 4 = some ⟨rest, place.line, place.column + 4⟩ := by
    rw [Cursor.skipBytes, h]
    simp only [List.cons_append, List.nil_append]
    rw [skipBytes_go_hexDigit ha, skipBytes_go_hexDigit hb, skipBytes_go_hexDigit hc,
      skipBytes_go_hexDigit hd]
    cases rest <;> rfl
  rw [readHexEscape, hskip, h]
  simp only [List.cons_append, ha, hb, hc, hd]

theorem leaves_readEscape {c : Char} {rest : List Char} {place : Cursor}
    (hc : c ∈ ['\x22', '\\', '/', 'b', 'f', 'n', 'r', 't']) (h : place.rest = c :: rest) :
    Leaves (readEscape place) rest := by
  have hpeek := Cursor.peek_eq h
  have hadvance := Cursor.rest_advance h
  simp only [List.mem_cons, List.not_mem_nil, or_false] at hc
  rw [readEscape, hpeek]
  rcases hc with rfl | rfl | rfl | rfl | rfl | rfl | rfl | rfl <;> exact .ok hadvance

theorem exists_readUnicodeEscape {digits rest : List Char} {n : Nat} {place : Cursor}
    (hdigits : HexText digits n) (hn : n < 0xD800 ∨ 0xDFFF < n)
    (h : place.rest = digits ++ rest) :
    ∃ next, readUnicodeEscape place = .ok (Char.ofNat n, next) ∧ next.rest = rest := by
  obtain ⟨next, hnext, hrest⟩ := readHexEscape_eq hdigits h
  have hlow : ¬(0xDC00 ≤ n && n ≤ 0xDFFF) = true := by
    simp
    omega
  have hplain : (n < 0xD800 || 0xDBFF < n) = true := by
    simp
    omega
  rw [readUnicodeEscape, hnext]
  dsimp only [bind, Except.bind]
  rw [if_neg hlow, if_pos hplain]
  exact ⟨next, rfl, hrest⟩

theorem leaves_readUnicodeEscape {digits rest : List Char} {n : Nat} {place : Cursor}
    (hdigits : HexText digits n) (hn : n < 0xD800 ∨ 0xDFFF < n)
    (h : place.rest = digits ++ rest) : Leaves (readUnicodeEscape place) rest :=
  ⟨_, exists_readUnicodeEscape hdigits hn h⟩

theorem leaves_readUnicodeEscape_pair {high low rest : List Char} {m n : Nat} {place : Cursor}
    (hhigh : HexText high m) (hlow : HexText low n) (hm : 0xD800 ≤ m ∧ m < 0xDC00)
    (hn : 0xDC00 ≤ n ∧ n ≤ 0xDFFF) (h : place.rest = high ++ ('\\' :: 'u' :: low ++ rest)) :
    Leaves (readUnicodeEscape place) rest := by
  obtain ⟨next, hnext, hrest⟩ := readHexEscape_eq hhigh h
  have hmark := Cursor.rest_advance hrest
  obtain ⟨last, hlast, hlastRest⟩ := readHexEscape_eq hlow (Cursor.rest_advance hmark)
  have hfirst : ¬(0xDC00 ≤ m && m ≤ 0xDFFF) = true := by
    simp
    omega
  have hsecond : ¬(m < 0xD800 || 0xDBFF < m) = true := by
    simp
    omega
  have hpair : ¬(n < 0xDC00 || 0xDFFF < n) = true := by
    simp
    omega
  rw [readUnicodeEscape, hnext]
  dsimp only [bind, Except.bind]
  rw [if_neg hfirst, if_neg hsecond]
  simp only [Cursor.peek_eq hrest, Cursor.peek_eq hmark, hlast, if_neg hpair]
  exact .ok hlastRest

section Strings

variable {fuel : Nat} {read cs rest : List Char} {place : Cursor}

theorem readString_plain {c : Char} (hquote : c ≠ '\x22') (hbackslash : c ≠ '\\')
    (hcontrol : 0x20 ≤ c.toNat) (h : place.rest = c :: rest) :
    readString (fuel + 1) read place = readString fuel (c :: read) place.advance := by
  rw [readString, Cursor.peek_eq h]
  dsimp only
  split
  · contradiction
  · rename_i heq
    exact absurd (Option.some.inj heq) hquote
  · rename_i heq
    exact absurd (Option.some.inj heq) hbackslash
  · rename_i heq
    obtain rfl := Option.some.inj heq
    rw [if_neg (Nat.not_lt.mpr hcontrol)]

theorem readString_escape (h : place.rest = '\\' :: cs) :
    readString (fuel + 1) read place =
      readEscape place.advance >>= fun found => readString fuel (found.1 :: read) found.2 := by
  rw [readString, Cursor.peek_eq h]
  rfl

theorem readEscape_unicode (h : place.rest = 'u' :: cs) :
    readEscape place = readUnicodeEscape place.advance := by
  rw [readEscape, Cursor.peek_eq h]
  rfl

end Strings

theorem leaves_readString {cs rest : List Char} (hcs : StringText cs) {fuel : Nat}
    (read : List Char) {place : Cursor} (hfuel : cs.length < fuel)
    (h : place.rest = cs ++ '\x22' :: rest) : Leaves (readString fuel read place) rest := by
  induction hcs generalizing fuel read place with
  | nil =>
      obtain ⟨fuel, rfl⟩ := Nat.exists_eq_add_one.mpr (Nat.zero_lt_of_lt hfuel)
      rw [readString, Cursor.peek_eq h]
      exact .ok (Cursor.rest_advance h)
  | plain hquote hbackslash hcontrol _ ih =>
      obtain ⟨fuel, rfl⟩ := Nat.exists_eq_add_one.mpr (Nat.zero_lt_of_lt hfuel)
      rw [readString_plain hquote hbackslash hcontrol h]
      exact ih _ (Nat.lt_of_succ_lt_succ hfuel) (Cursor.rest_advance h)
  | escape hc _ ih =>
      obtain ⟨fuel, rfl⟩ := Nat.exists_eq_add_one.mpr (Nat.zero_lt_of_lt hfuel)
      rw [readString_escape h]
      refine (leaves_readEscape hc (Cursor.rest_advance h)).bind fun c next hnext => ?_
      simp only [List.length_cons] at hfuel
      exact ih _ (by omega) hnext
  | numbered hdigits hn _ ih =>
      obtain ⟨fuel, rfl⟩ := Nat.exists_eq_add_one.mpr (Nat.zero_lt_of_lt hfuel)
      simp only [List.cons_append, List.append_assoc, List.length_cons, List.length_append]
        at h hfuel
      have hmark := Cursor.rest_advance h
      rw [readString_escape h, readEscape_unicode hmark]
      refine (leaves_readUnicodeEscape hdigits hn (Cursor.rest_advance hmark)).bind
        fun c next hnext => ?_
      exact ih _ (by omega) hnext
  | pair hhigh hlow hm hn _ ih =>
      obtain ⟨fuel, rfl⟩ := Nat.exists_eq_add_one.mpr (Nat.zero_lt_of_lt hfuel)
      simp only [List.cons_append, List.append_assoc, List.length_cons, List.length_append]
        at h hfuel
      have hmark := Cursor.rest_advance h
      rw [readString_escape h, readEscape_unicode hmark]
      refine (leaves_readUnicodeEscape_pair hhigh hlow hm hn (Cursor.rest_advance hmark)).bind
        fun c next hnext => ?_
      exact ih _ (by omega) hnext

/-! ## Numbers -/

theorem EndsToken.noDigitHead {rest : List Char} (h : EndsToken rest) : NoDigitHead rest := by
  have hnone : ∀ c ∈ blanks ++ [',', ']', '\x7d'], isDigit c = false := by
    simp [blanks, isDigit]
  exact fun c hc => hnone c (h c hc)

theorem EndsToken.peek_ne {rest : List Char} (h : EndsToken rest) {place : Cursor}
    (hplace : place.rest = rest) {c : Char} (hc : c ∉ blanks ++ [',', ']', '\x7d']) :
    place.peek ≠ some c := by
  intro hpeek
  rw [Cursor.peek, hplace] at hpeek
  exact hc (h c hpeek)

theorem exists_readExponentDigits {digits rest : List Char} (hdigits : AllDigits digits)
    (hrest : NoDigitHead rest) {value : Nat} {place : Cursor}
    (hlimit : digitsValue value digits ≤ exponentLimit) (h : place.rest = digits ++ rest) :
    ∃ next, readExponentDigits value (digits ++ rest) place =
      (some (digitsValue value digits), next) ∧ next.rest = rest := by
  induction digits generalizing value place with
  | nil =>
      refine ⟨place, ?_, h⟩
      cases rest with
      | nil => rfl
      | cons c rest =>
          rw [List.nil_append, readExponentDigits,
            if_neg (Bool.eq_false_iff.mp (hrest c rfl))]
          rfl
  | cons c digits ih =>
      have hle : 10 * value + (c.toNat - 48) ≤ exponentLimit :=
        Nat.le_trans (le_digitsValue _ digits) hlimit
      obtain ⟨next, hnext, hleft⟩ := ih (fun d hd => hdigits d (List.mem_cons_of_mem c hd))
        hlimit (Cursor.rest_advance h)
      refine ⟨next, ?_, hleft⟩
      rw [List.cons_append, readExponentDigits, if_pos (hdigits c List.mem_cons_self)]
      dsimp only
      rw [if_neg (Nat.not_lt.mpr hle), hnext]
      rfl

theorem leaves_finishFloat {negative : Bool} {d : Digits} {place : Cursor}
    (h : (Binary.ofDigits negative d : Double).isFinite = true) :
    Leaves (finishFloat negative d place) place.rest := by
  rw [finishFloat, if_pos h]
  exact .ok rfl

theorem exists_exponentDigits {digits rest : List Char} (hdigits : AllDigits digits)
    (hne : digits ≠ []) (hlimit : digitsValue 0 digits ≤ exponentLimit)
    (hrest : NoDigitHead rest) {place : Cursor} (h : place.rest = digits ++ rest) :
    ∃ c next, place.peek = some c ∧ isDigit c = true ∧
      readExponentDigits 0 place.rest place = (some (digitsValue 0 digits), next) ∧
      next.rest = rest := by
  obtain ⟨next, hnext, hleft⟩ := exists_readExponentDigits hdigits hrest hlimit h
  obtain ⟨c, cs, rfl⟩ := List.exists_cons_of_ne_nil hne
  refine ⟨c, next, Cursor.peek_eq h, hdigits c List.mem_cons_self, ?_, hleft⟩
  rw [h, hnext]

/-- The sign of an exponent is read, or left out. -/
theorem readSign_eq {e : Exponent} (he : e.IsWritten) {place next : Cursor} {rest : List Char}
    {down : Bool} (h : place.rest = e.sign ++ (e.digits ++ rest))
    (hsign : (match place.peek with
      | some '+' => (false, place.advance)
      | some '-' => (true, place.advance)
      | _ => (false, place)) = (down, next)) :
    next.rest = e.digits ++ rest ∧ (down = true ↔ e.sign = ['-']) := by
  rcases he.sign with heq | heq | heq <;> rw [heq] at h ⊢
  · obtain ⟨c, cs, hdigits⟩ := List.exists_cons_of_ne_nil he.digits_ne
    have hc : isDigit c = true := he.digits c (by rw [hdigits]; exact List.mem_cons_self)
    rw [hdigits] at h
    rw [Cursor.peek_eq h] at hsign
    split at hsign
    · rename_i hplus
      rw [Option.some.inj hplus] at hc
      exact absurd hc (by decide)
    · rename_i hminus
      rw [Option.some.inj hminus] at hc
      exact absurd hc (by decide)
    · cases hsign
      exact ⟨by rw [hdigits]; exact h, by simp⟩
  · rw [Cursor.peek_eq h] at hsign
    cases hsign
    exact ⟨Cursor.rest_advance h, by simp⟩
  · rw [Cursor.peek_eq h] at hsign
    cases hsign
    exact ⟨Cursor.rest_advance h, by simp⟩

theorem leaves_readExponent {e : Exponent} (he : e.IsWritten) {negative : Bool}
    {coefficient places : Nat} {place : Cursor} {rest : List Char} (hrest : NoDigitHead rest)
    (hfinite : (Binary.ofDigits negative ⟨coefficient, e.value - places⟩ : Double).isFinite = true)
    (h : place.rest = e.sign ++ (e.digits ++ rest)) :
    Leaves (readExponent negative coefficient places place) rest := by
  unfold readExponent
  split
  rename_i down start hsign
  obtain ⟨hstart, hdown⟩ := readSign_eq he h hsign
  obtain ⟨c, next, hpeek, hc, hread, rfl⟩ :=
    exists_exponentDigits he.digits he.digits_ne he.bounded hrest hstart
  simp only [hpeek, hc, hread, hdown, if_true]
  exact leaves_finishFloat hfinite

theorem noDigitHead_exponent {exponent : Option Exponent} (h : ∀ e ∈ exponent, e.IsWritten)
    {rest : List Char} (hrest : NoDigitHead rest) :
    NoDigitHead ((exponent.map Exponent.chars).getD [] ++ rest) := by
  cases exponent with
  | none => exact hrest
  | some e =>
      rcases (h e rfl).mark with hmark | hmark
      · exact noDigitHead_cons (by rw [hmark]; decide) _
      · exact noDigitHead_cons (by rw [hmark]; decide) _

/-- The digits before the point are read as they stand. -/
theorem exists_wholeDigits {whole rest : List Char} (hdigits : AllDigits whole)
    (hne : whole ≠ []) (hleading : whole.head? = some '0' → whole = ['0']) {place : Cursor}
    (hrest : NoDigitHead rest) (h : place.rest = whole ++ rest) :
    ∃ c next, place.peek = some c ∧ isDigit c = true ∧ next.rest = rest ∧
      (if c == '0' then (['0'], place.advance) else place.takeDigits) = (whole, next) := by
  obtain ⟨c, cs, hwhole⟩ := List.exists_cons_of_ne_nil hne
  have hpeek : place.peek = some c := by
    rw [hwhole] at h
    exact Cursor.peek_eq h
  refine ⟨c, ?_⟩
  by_cases hzero : c = '0'
  · subst hzero
    have hwhole' : whole = ['0'] := hleading (by rw [hwhole, List.head?_cons])
    rw [hwhole'] at h
    exact ⟨place.advance, hpeek, by decide, Cursor.rest_advance h, by rw [hwhole']; rfl⟩
  · obtain ⟨next, hnext, hleft⟩ := Cursor.takeDigits_eq h hdigits hrest
    refine ⟨next, hpeek, hdigits c (by rw [hwhole]; exact List.mem_cons_self), hleft, ?_⟩
    rw [if_neg (by simpa using hzero), hnext]

theorem leaves_readFraction {n : Numeral} (hn : n.IsWritten) (hne : n.fraction ≠ [])
    {place : Cursor} {rest : List Char} (hrest : EndsToken rest)
    (h : place.rest = n.fraction ++ ((n.exponent.map Exponent.chars).getD [] ++ rest)) :
    Leaves (readFraction n.negative n.whole place) rest := by
  obtain ⟨next, hnext, hleft⟩ := Cursor.takeDigits_eq h hn.fraction
    (noDigitHead_exponent hn.exponent hrest.noDigitHead)
  have hfinite := hn.finite
  rw [Numeral.value] at hfinite
  rw [readFraction, hnext]
  dsimp only
  rw [if_neg (by simpa using hne)]
  cases hexponent : n.exponent with
  | none =>
      rw [hexponent] at hleft hfinite
      split
      · rename_i heq
        exact absurd heq (hrest.peek_ne hleft (by decide))
      · rename_i heq
        exact absurd heq (hrest.peek_ne hleft (by decide))
      · have hnext : next.rest = rest := hleft
        rw [Option.map_none, Option.getD_none, Int.zero_sub] at hfinite
        rw [← hnext]
        exact leaves_finishFloat hfinite
  | some e =>
      rw [hexponent] at hleft hfinite
      have he : e.IsWritten := hn.exponent e hexponent
      rcases he.mark with hmark | hmark
      all_goals
        rw [Option.map_some, Option.getD_some, Exponent.chars, hmark] at hleft
        rw [Cursor.peek_eq hleft]
        exact leaves_readExponent he hrest.noDigitHead hfinite
          ((Cursor.rest_advance hleft).trans (List.append_assoc _ _ _))

theorem wholeNumber_cases (negative : Bool) (value : Nat) :
    (∃ number, wholeNumber negative value = .integer number) ∨
      wholeNumber negative value = .float (.ofDigits negative ⟨value, 0⟩) := by
  unfold wholeNumber
  cases negative with
  | true =>
      rw [if_pos rfl]
      split
      · exact .inr rfl
      · exact .inl ⟨_, rfl⟩
  | false =>
      rw [if_neg Bool.false_ne_true]
      split
      · exact .inl ⟨_, rfl⟩
      · exact .inr rfl

theorem leaves_readNumber {n : Numeral} (hn : n.IsWritten) {place : Cursor} {rest : List Char}
    (hrest : EndsToken rest) (h : place.rest = n.unsigned ++ rest) :
    Leaves (readNumber n.negative place) rest := by
  rw [Numeral.unsigned, List.append_assoc, List.append_assoc] at h
  have hend : NoDigitHead
      (n.fractionChars ++ ((n.exponent.map Exponent.chars).getD [] ++ rest)) := by
    rw [Numeral.fractionChars]
    split
    · exact noDigitHead_exponent hn.exponent hrest.noDigitHead
    · exact noDigitHead_cons (by decide) _
  obtain ⟨c, next, hpeek, hc, hleft, hwhole⟩ :=
    exists_wholeDigits hn.whole hn.whole_ne hn.leading hend h
  rw [readNumber, hpeek]
  dsimp only
  rw [if_pos hc, hwhole]
  dsimp only
  have hfinite := hn.finite
  rw [Numeral.value] at hfinite
  by_cases hfraction : n.fraction = []
  · rw [Numeral.fractionChars, if_pos hfraction, List.nil_append] at hleft
    rw [hfraction, List.append_nil] at hfinite
    cases hexponent : n.exponent with
    | none =>
        rw [hexponent] at hleft hfinite
        have hnext : next.rest = rest := hleft
        have hdigit : ¬(c == '0' && next.peek.any isDigit) = true := by
          rw [Cursor.peek, hnext]
          cases hhead : rest.head? with
          | none => simp
          | some d => simp [hrest.noDigitHead d hhead]
        split
        · rename_i heq
          exact absurd heq (hrest.peek_ne hnext (by decide))
        · rename_i heq
          exact absurd heq (hrest.peek_ne hnext (by decide))
        · rename_i heq
          exact absurd heq (hrest.peek_ne hnext (by decide))
        · rw [if_neg hdigit]
          rcases wholeNumber_cases n.negative (digitsValue 0 n.whole) with
            ⟨number, hnumber⟩ | hnumber
          · rw [hnumber]
            exact .ok hnext
          · rw [hnumber]
            dsimp only
            rw [if_pos (show (Binary.ofDigits _ ⟨_, 0⟩ : Double).isFinite = true from hfinite)]
            exact .ok hnext
    | some e =>
        rw [hexponent] at hleft hfinite
        have he : e.IsWritten := hn.exponent e hexponent
        rcases he.mark with hmark | hmark
        all_goals
          rw [Option.map_some, Option.getD_some, Exponent.chars, hmark] at hleft
          rw [Cursor.peek_eq hleft]
          exact leaves_readExponent he hrest.noDigitHead hfinite
            ((Cursor.rest_advance hleft).trans (List.append_assoc _ _ _))
  · rw [Numeral.fractionChars, if_neg hfraction] at hleft
    rw [Cursor.peek_eq hleft]
    exact leaves_readFraction hn hfraction hrest (Cursor.rest_advance hleft)

end SqlSchema.Json
