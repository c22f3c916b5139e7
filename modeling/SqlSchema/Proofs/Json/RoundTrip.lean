import SqlSchema.Json.Writer
import SqlSchema.Proofs.Json.Completeness
import SqlSchema.Proofs.Text.Hex

/-! # Documents read back

A document is read back from its text as it was, if its numbers are whole ones of 64 bits, its
objects repeat no name, and its containers are not deeper in one another than the reader goes. -/

namespace SqlSchema.Json

open Number Text

/-! ## Strings -/

/-- The letters that are written behind a backslash, and the characters that they stand for. -/
def letterEscapes : List (Char × Char) :=
  [('\x22', '\x22'), ('\\', '\\'), ('n', '\n'), ('r', '\r'), ('t', '\t'), ('b', '\x08'),
   ('f', '\x0c')]

theorem readEscape_letter {letter c : Char} (hletter : (letter, c) ∈ letterEscapes)
    {place : Cursor} {rest : List Char} (h : place.rest = letter :: rest) :
    readEscape place = .ok (c, place.advance) := by
  simp only [letterEscapes, List.mem_cons, Prod.mk.injEq, List.not_mem_nil, or_false] at hletter
  rw [readEscape, Cursor.peek_eq h]
  rcases hletter with ⟨rfl, rfl⟩ | ⟨rfl, rfl⟩ | ⟨rfl, rfl⟩ | ⟨rfl, rfl⟩ | ⟨rfl, rfl⟩ |
    ⟨rfl, rfl⟩ | ⟨rfl, rfl⟩ <;> rfl

/-- A character is written behind a backslash as a letter, by its number, or as it is. -/
theorem escapedChar_cases (c : Char) :
    (∃ letter, (letter, c) ∈ letterEscapes ∧ escapedChar c = ['\\', letter]) ∨
      (c.toNat < 0x20 ∧ escapedChar c =
        ['\\', 'u', '0', '0', hexDigit (c.toNat / 16), hexDigit (c.toNat % 16)]) ∨
      (c ≠ '\x22' ∧ c ≠ '\\' ∧ 0x20 ≤ c.toNat ∧ escapedChar c = [c]) := by
  by_cases hletter : ∃ letter, (letter, c) ∈ letterEscapes
  · obtain ⟨letter, hmem⟩ := hletter
    have hall : ∀ e ∈ letterEscapes, escapedChar e.2 = ['\\', e.1] := by decide
    exact .inl ⟨letter, hmem, hall _ hmem⟩
  · have hother : ∀ e ∈ letterEscapes, c ≠ e.2 := by
      rintro e he rfl
      exact hletter ⟨e.1, he⟩
    simp only [letterEscapes, List.forall_mem_cons] at hother
    simp only [escapedChar, beq_iff_eq, Bool.or_eq_true, hother, or_self, if_false]
    by_cases hcontrol : c.toNat < 0x20
    · exact .inr (.inl ⟨hcontrol, if_pos hcontrol⟩)
    · exact .inr (.inr ⟨hother.1, hother.2.1, Nat.not_lt.mp hcontrol, if_neg hcontrol⟩)

theorem escapedChar_ne_nil (c : Char) : escapedChar c ≠ [] := by
  obtain ⟨letter, -, h⟩ | ⟨-, h⟩ | ⟨-, -, -, h⟩ := escapedChar_cases c <;> rw [h] <;> simp

theorem readString_escapedChar (c : Char) (fuel : Nat) (read : List Char) {rest : List Char}
    {place : Cursor} (h : place.rest = escapedChar c ++ rest) :
    ∃ next, readString (fuel + 1) read place = readString fuel (c :: read) next ∧
      next.rest = rest := by
  obtain ⟨letter, hletter, hchars⟩ | ⟨hcontrol, hchars⟩ | ⟨hquote, hbackslash, hcontrol, hchars⟩ :=
    escapedChar_cases c
  · rw [hchars] at h
    have hbehind := Cursor.rest_advance h
    refine ⟨place.advance.advance, ?_, Cursor.rest_advance hbehind⟩
    rw [readString_escape h, readEscape_letter hletter hbehind]
    rfl
  · rw [hchars] at h
    have hmark := Cursor.rest_advance h
    have hdigits := HexText.digits (a := '0') (b := '0') (i := 0) (j := 0) (by decide) (by decide)
      (hexValue?_hexDigit (c.toNat / 16) (by omega)) (hexValue?_hexDigit (c.toNat % 16) (by omega))
    have hvalue : ((0 * 16 + 0) * 16 + c.toNat / 16) * 16 + c.toNat % 16 = c.toNat := by omega
    rw [hvalue] at hdigits
    obtain ⟨next, hnext, hrest⟩ :=
      exists_readUnicodeEscape hdigits (.inl (by omega)) (Cursor.rest_advance hmark)
    refine ⟨next, ?_, hrest⟩
    rw [readString_escape h, readEscape_unicode hmark, hnext, Char.ofNat_toNat]
    rfl
  · rw [hchars] at h
    exact ⟨place.advance, readString_plain hquote hbackslash hcontrol h, Cursor.rest_advance h⟩

theorem readString_flatMap_escapedChar (cs : List Char) {fuel : Nat} (read : List Char)
    {place : Cursor} {rest : List Char} (hfuel : (cs.flatMap escapedChar).length < fuel)
    (h : place.rest = cs.flatMap escapedChar ++ '\x22' :: rest) :
    ∃ next, readString fuel read place = .ok (String.ofList (read.reverse ++ cs), next) ∧
      next.rest = rest := by
  obtain ⟨fuel, rfl⟩ := Nat.exists_eq_add_one.mpr (Nat.zero_lt_of_lt hfuel)
  induction cs generalizing fuel read place with
  | nil =>
      refine ⟨place.advance, ?_, Cursor.rest_advance h⟩
      rw [readString, Cursor.peek_eq h, List.append_nil]
      rfl
  | cons c cs ih =>
      have hlength := List.length_pos_iff.mpr (escapedChar_ne_nil c)
      rw [List.flatMap_cons, List.length_append] at hfuel
      rw [List.flatMap_cons, List.append_assoc] at h
      obtain ⟨next, hnext, hrest⟩ := readString_escapedChar c fuel read h
      obtain ⟨fuel, rfl⟩ := Nat.exists_eq_add_one.mpr (show 0 < fuel by omega)
      obtain ⟨last, hlast, hbehind⟩ := ih (c :: read) hrest fuel (by omega)
      refine ⟨last, ?_, hbehind⟩
      rw [hnext, hlast, List.reverse_cons, List.append_assoc]
      rfl

theorem readString_stringChars (s : String) {place : Cursor} {rest : List Char}
    (h : place.rest = stringChars s ++ rest) :
    ∃ next, readString (place.rest.length + 1) [] place.advance = .ok (s, next) ∧
      next.rest = rest := by
  rw [stringChars, List.cons_append, List.cons_append, List.append_assoc] at h
  have hfuel : (s.toList.flatMap escapedChar).length < place.rest.length + 1 := by
    rw [h, List.length_cons, List.length_append]
    omega
  obtain ⟨next, hnext, hrest⟩ :=
    readString_flatMap_escapedChar s.toList [] hfuel (Cursor.rest_advance h)
  refine ⟨next, ?_, hrest⟩
  rw [hnext, List.reverse_nil, List.nil_append, String.ofList_toList]

/-! ## Numbers -/

/-- The digits of a number are read as the number, which is an integer where 64 bits hold it. -/
theorem readNumber_toDigits {negative : Bool} {n : Nat} {number : Int} {place : Cursor}
    {rest : List Char} (hnumber : wholeNumber negative n = .integer number)
    (hrest : EndsToken rest) (h : place.rest = Nat.toDigits 10 n ++ rest) :
    ∃ next, readNumber negative place = .ok (.integer number, next) ∧ next.rest = rest := by
  have hleading : (Nat.toDigits 10 n).head? = some '0' → Nat.toDigits 10 n = ['0'] := by
    intro hzero
    by_cases hn : n = 0
    · rw [hn]
      decide
    · exact absurd hzero (head?_toDigits_ne_zero hn)
  obtain ⟨c, next, hpeek, hc, hnext, hwhole⟩ := exists_wholeDigits (allDigits_toDigits n)
    (toDigits_ne_nil n) hleading hrest.noDigitHead h
  have hdigit : ¬(c == '0' && next.peek.any isDigit) = true := by
    rw [Cursor.peek, hnext]
    cases hhead : rest.head? with
    | none => simp
    | some d => simp [hrest.noDigitHead d hhead]
  refine ⟨next, ?_, hnext⟩
  rw [readNumber, hpeek]
  dsimp only
  rw [if_pos hc, hwhole]
  dsimp only
  -- Neither a point nor an exponent stands behind the digits.
  split
  · rename_i heq
    exact absurd heq (hrest.peek_ne hnext (by decide))
  · rename_i heq
    exact absurd heq (hrest.peek_ne hnext (by decide))
  · rename_i heq
    exact absurd heq (hrest.peek_ne hnext (by decide))
  · rw [if_neg hdigit, digitsValue_toDigits, hnumber]

/-! ## Documents that are read back -/

/-- Documents in which containers are at most so deep, whose numbers are whole ones of 64 bits and
whose objects repeat no name. -/
inductive IsPlain : Nat → Json → Prop
  | null (depth : Nat) : IsPlain depth .null
  | bool (depth : Nat) (b : Bool) : IsPlain depth (.bool b)
  | integer (depth : Nat) {n : Int} (hlow : -(powerOfTwo 63 : Int) ≤ n)
      (hhigh : n < powerOfTwo 64) : IsPlain depth (.integer n)
  | text (depth : Nat) (s : String) : IsPlain depth (.text s)
  | list {depth : Nat} {items : List Json} (hitems : ∀ item ∈ items, IsPlain depth item) :
      IsPlain (depth + 1) (.list items)
  | object {depth : Nat} {members : List (String × Json)} (hnames : (Keyed.names members).Nodup)
      (hmembers : ∀ m ∈ members, IsPlain depth m.2) : IsPlain (depth + 1) (.object members)

def memberText (m : String × Json) : List Char :=
  stringChars m.1 ++ ':' :: m.2.chars

theorem itemChars_eq (items : List Json) : itemChars items = separated (items.map chars) := by
  induction items with
  | nil => rfl
  | cons item items ih =>
      cases items with
      | nil => simp [itemChars, separated]
      | cons other items =>
          rw [itemChars, ih]
          · simp [separated]
          · exact List.cons_ne_nil _ _

theorem memberChars_eq (members : List (String × Json)) :
    memberChars members = separated (members.map memberText) := by
  induction members with
  | nil => rfl
  | cons m members ih =>
      cases members with
      | nil => simp [memberChars, separated, memberText]
      | cons other members =>
          rw [memberChars, ih]
          · simp [separated, memberText]
          · exact List.cons_ne_nil _ _

theorem IsPlain.startsValue {depth : Nat} {doc : Json} (h : IsPlain depth doc) :
    StartsValue doc.chars := by
  cases h with
  | null => exact ⟨_, _, rfl, .inl (by decide)⟩
  | bool _ b => cases b <;> exact ⟨_, _, rfl, .inl (by decide)⟩
  | text => exact ⟨_, _, rfl, .inl (by decide)⟩
  | list => exact ⟨_, _, rfl, .inl (by decide)⟩
  | object => exact ⟨_, _, rfl, .inl (by decide)⟩
  | @integer _ n =>
      obtain ⟨c, cs, hdigits, hc⟩ := exists_toDigits_eq_cons n.natAbs
      rw [chars, toList_toString_int]
      split
      · exact ⟨_, _, rfl, .inl (by decide)⟩
      · exact ⟨c, cs, hdigits, .inr hc⟩

theorem rest_skipBlanks_of_head {place : Cursor} {cs : List Char} (h : place.rest = cs)
    (hcs : ∀ c ∈ cs.head?, c ∉ blanks) : place.skipBlanks.rest = cs :=
  Cursor.rest_skipBlanks (h.trans (List.nil_append cs).symm) (List.forall_mem_nil _) hcs

theorem endsToken_following_close {chunks : List (List Char)} {close : Char} {rest : List Char}
    (hclose : close = ']' ∨ close = '\x7d') : EndsToken (following chunks close rest) := by
  have hend : EndsToken ([] ++ following chunks close rest) :=
    endsToken_following hclose (List.forall_mem_nil _)
  rwa [List.nil_append] at hend

/-- A document is read back from its text, whatever follows it as a token. -/
def IsReadBack (depth : Nat) (doc : Json) : Prop :=
  ∀ fuel place rest, 3 * doc.chars.length ≤ fuel → place.skipBlanks.rest = doc.chars ++ rest →
    EndsToken rest →
      ∃ next, readValue fuel depth place = .ok (doc, next) ∧ next.rest = rest

theorem isReadBack_word {depth : Nat} {doc : Json} {c : Char} {word : List Char}
    (hchars : doc.chars = c :: word)
    (hread : ∀ fuel place, place.skipBlanks.peek = some c → readValue (fuel + 1) depth place =
      (readWord word place.skipBlanks.advance).map fun next => (doc, next)) :
    IsReadBack depth doc := by
  intro fuel place rest hfuel h _
  rw [hchars] at hfuel h
  obtain ⟨fuel, rfl⟩ := Nat.exists_eq_add_one.mpr (Nat.lt_of_lt_of_le (by simp) hfuel)
  obtain ⟨next, hnext, hrest⟩ := exists_readWord (Cursor.rest_advance h)
  refine ⟨next, ?_, hrest⟩
  rw [hread fuel place (Cursor.peek_eq h), hnext]
  rfl

theorem isReadBack_integer {depth : Nat} {n : Int} (hlow : -(powerOfTwo 63 : Int) ≤ n)
    (hhigh : n < powerOfTwo 64) : IsReadBack depth (.integer n) := by
  intro fuel place rest hfuel h hrest
  obtain ⟨c, cs, hdigits, hc⟩ := exists_toDigits_eq_cons n.natAbs
  rw [chars, toList_toString_int] at hfuel h
  by_cases hsign : n < 0
  · have hnumber : wholeNumber true n.natAbs = .integer n := by
      rw [wholeNumber, if_pos rfl, if_neg (by simp; omega)]
      exact congrArg Json.integer (by omega)
    rw [if_pos hsign] at hfuel h
    obtain ⟨fuel, rfl⟩ := Nat.exists_eq_add_one.mpr (Nat.lt_of_lt_of_le (by simp) hfuel)
    rw [readValue_minus (Cursor.peek_eq h)]
    exact readNumber_toDigits hnumber hrest (Cursor.rest_advance h)
  · have hnumber : wholeNumber false n.natAbs = .integer n := by
      rw [wholeNumber, if_neg Bool.false_ne_true, if_pos (by omega)]
      exact congrArg Json.integer (by omega)
    rw [if_neg hsign] at hfuel h
    have hpeek : place.skipBlanks.peek = some c := by
      rw [hdigits] at h
      exact Cursor.peek_eq h
    obtain ⟨fuel, rfl⟩ :=
      Nat.exists_eq_add_one.mpr (Nat.lt_of_lt_of_le (by simp [hdigits]) hfuel)
    rw [readValue_digit hpeek hc]
    exact readNumber_toDigits hnumber hrest h

theorem isReadBack_text (depth : Nat) (s : String) : IsReadBack depth (.text s) := by
  intro fuel place rest hfuel h _
  obtain ⟨fuel, rfl⟩ :=
    Nat.exists_eq_add_one.mpr (Nat.lt_of_lt_of_le (by simp [chars, stringChars]) hfuel)
  obtain ⟨next, hnext, hrest⟩ := readString_stringChars s h
  refine ⟨next, ?_, hrest⟩
  rw [readValue_quote (Cursor.peek_eq h), hnext]
  rfl

/-! ### Lists -/

theorem exists_readItems {depth : Nat} {items : List Json}
    (hstarts : ∀ item ∈ items, StartsValue item.chars)
    (hitems : ∀ item ∈ items, IsReadBack depth item) {fuel : Nat} {read : List Json}
    {place : Cursor} {rest : List Char} (hread : read ≠ [])
    (hfuel : 3 * ((items.map chars).flatMap (',' :: ·)).length < fuel)
    (h : place.rest = following (items.map chars) ']' rest) :
    ∃ next, readItems fuel depth read place = .ok (.list (read.reverse ++ items), next) ∧
      next.rest = rest := by
  have hskip : place.skipBlanks.rest = following (items.map chars) ']' rest :=
    rest_skipBlanks_following (.inl rfl) (List.forall_mem_nil _) h
  obtain ⟨fuel, rfl⟩ := Nat.exists_eq_add_one.mpr (Nat.zero_lt_of_lt hfuel)
  induction items generalizing fuel read place with
  | nil =>
      refine ⟨_, ?_, Cursor.rest_advance hskip⟩
      rw [readItems, Cursor.peek_eq hskip, List.append_nil]
      rfl
  | cons item items ih =>
      rw [List.map_cons, following_cons] at hskip
      rw [List.map_cons, List.flatMap_cons, List.length_append, List.length_cons] at hfuel
      have hstart := hstarts item List.mem_cons_self
      have hitem : place.skipBlanks.advance.skipBlanks.rest = item.chars ++ _ :=
        hstart.rest_skipBlanks [] (List.forall_mem_nil _) (Cursor.rest_advance hskip)
      obtain ⟨c, hpeek, hbracket⟩ := hstart.exists_peek hitem
      obtain ⟨next, hnext, hrest⟩ := hitems item List.mem_cons_self fuel _ _ (by omega)
        (hstart.rest_skipBlanks [] (List.forall_mem_nil _) hitem)
        (endsToken_following_close (.inl rfl))
      obtain ⟨fuel, rfl⟩ := Nat.exists_eq_add_one.mpr (show 0 < fuel by omega)
      obtain ⟨last, hlast, hbehind⟩ :=
        ih (fun other hother => hstarts other (List.mem_cons_of_mem _ hother))
          (fun other hother => hitems other (List.mem_cons_of_mem _ hother))
          (List.cons_ne_nil item read) hrest
          (rest_skipBlanks_following (.inl rfl) (List.forall_mem_nil _) hrest) fuel (by omega)
      refine ⟨last, ?_, hbehind⟩
      rw [readItems_next hread hskip hpeek hbracket, hnext]
      dsimp only [bind, Except.bind]
      rw [hlast, List.reverse_cons, List.append_assoc]
      rfl

theorem isReadBack_list {depth : Nat} {items : List Json}
    (hstarts : ∀ item ∈ items, StartsValue item.chars)
    (hitems : ∀ item ∈ items, IsReadBack depth item) :
    IsReadBack (depth + 1) (.list items) := by
  intro fuel place rest hfuel h _
  rw [chars, itemChars_eq] at hfuel h
  simp only [List.cons_append, List.length_cons, List.length_append, List.append_assoc,
    List.length_nil, List.nil_append] at hfuel h
  obtain ⟨fuel, rfl⟩ := Nat.exists_eq_add_of_le (show 2 ≤ fuel by omega)
  rw [Nat.add_comm 2, readValue_bracket (Cursor.peek_eq h)]
  have hbehind := Cursor.rest_advance h
  cases items with
  | nil =>
      have hclose : place.skipBlanks.advance.skipBlanks.rest = following [] ']' rest :=
        rest_skipBlanks_following (.inl rfl) (List.forall_mem_nil _) hbehind
      refine ⟨_, ?_, Cursor.rest_advance hclose⟩
      rw [readItems, Cursor.peek_eq hclose]
      rfl
  | cons item items =>
      have hstart := hstarts item List.mem_cons_self
      rw [List.map_cons, separated, List.length_append] at hfuel
      have hitem : place.skipBlanks.advance.skipBlanks.rest =
          item.chars ++ following (items.map chars) ']' rest :=
        hstart.rest_skipBlanks [] (List.forall_mem_nil _)
          (by simp [hbehind, separated, following])
      obtain ⟨c, hpeek, hbracket⟩ := hstart.exists_peek hitem
      obtain ⟨next, hnext, hrest⟩ := hitems item List.mem_cons_self fuel _ _ (by omega)
        (hstart.rest_skipBlanks [] (List.forall_mem_nil _) hitem)
        (endsToken_following_close (.inl rfl))
      obtain ⟨last, hlast, hend⟩ := exists_readItems
        (fun other hother => hstarts other (List.mem_cons_of_mem _ hother))
        (fun other hother => hitems other (List.mem_cons_of_mem _ hother))
        (List.cons_ne_nil item []) (show _ < fuel by omega) hrest
      refine ⟨last, ?_, hend⟩
      rw [readItems_first hpeek hbracket, hnext]
      exact hlast

/-! ### Objects -/

/-- Blanks before a quote are skipped, and there are none. -/
theorem rest_skipBlanks_memberText (m : String × Json) {place : Cursor} {tail : List Char}
    (h : place.rest = memberText m ++ tail) : place.skipBlanks.rest = memberText m ++ tail := by
  refine rest_skipBlanks_of_head h ?_
  rintro d ⟨⟩
  decide

theorem exists_readMember_memberText {depth : Nat} {m : String × Json} (fuel : Nat)
    (hstart : StartsValue m.2.chars) (hvalue : IsReadBack depth m.2)
    {chunks : List (List Char)} {place : Cursor} {rest : List Char}
    (hfuel : 3 * m.2.chars.length ≤ fuel)
    (h : place.rest = memberText m ++ following chunks '\x7d' rest) :
    ∃ next, readMember (fuel + 1) depth place = .ok (m, next) ∧
      next.rest = following chunks '\x7d' rest := by
  rw [memberText, List.append_assoc] at h
  obtain ⟨behind, hname, hbehind⟩ := readString_stringChars m.1 h
  have hcolon : behind.skipBlanks.rest = ':' :: (m.2.chars ++ following chunks '\x7d' rest) :=
    rest_skipBlanks_of_head hbehind (by rintro d ⟨⟩; decide)
  have hskip := hstart.rest_skipBlanks [] (List.forall_mem_nil _) (Cursor.rest_advance hcolon)
  obtain ⟨next, hnext, hrest⟩ := hvalue fuel _ _ hfuel hskip
    (endsToken_following_close (.inr rfl))
  refine ⟨next, ?_, hrest⟩
  rw [readMember, hname]
  dsimp only [bind, Except.bind]
  rw [Cursor.peek_eq hcolon, hnext]
  rfl

theorem exists_readMembers {depth : Nat} {members : List (String × Json)}
    (hstarts : ∀ m ∈ members, StartsValue m.2.chars)
    (hmembers : ∀ m ∈ members, IsReadBack depth m.2) {fuel : Nat}
    {read : List (String × Json)} {place : Cursor} {rest : List Char} (hread : read ≠ [])
    (hnames : (Keyed.names (read ++ members)).Nodup)
    (hfuel : 3 * ((members.map memberText).flatMap (',' :: ·)).length < fuel)
    (h : place.rest = following (members.map memberText) '\x7d' rest) :
    ∃ next, readMembers fuel depth read place = .ok (.object (read ++ members), next) ∧
      next.rest = rest := by
  have hskip : place.skipBlanks.rest = following (members.map memberText) '\x7d' rest :=
    rest_skipBlanks_following (.inr rfl) (List.forall_mem_nil _) h
  obtain ⟨fuel, rfl⟩ := Nat.exists_eq_add_one.mpr (Nat.zero_lt_of_lt hfuel)
  induction members generalizing fuel read place with
  | nil =>
      refine ⟨_, ?_, Cursor.rest_advance hskip⟩
      rw [readMembers, Cursor.peek_eq hskip, List.append_nil]
      rfl
  | cons m members ih =>
      rw [List.map_cons, following_cons] at hskip
      rw [List.map_cons, List.flatMap_cons, List.length_append, List.length_cons] at hfuel
      have hlong : m.2.chars.length + 3 ≤ (memberText m).length := by
        simp only [memberText, stringChars, List.length_append, List.length_cons]
        omega
      have hmember : place.skipBlanks.advance.skipBlanks.rest = memberText m ++ _ :=
        rest_skipBlanks_memberText m (Cursor.rest_advance hskip)
      obtain ⟨fuel, rfl⟩ := Nat.exists_eq_add_one.mpr (show 0 < fuel by omega)
      obtain ⟨next, hnext, hrest⟩ := exists_readMember_memberText fuel
        (hstarts m List.mem_cons_self) (hmembers m List.mem_cons_self) (by omega) hmember
      -- The name is new, so the member goes behind those already read.
      have hnew : m.1 ∉ Keyed.names read := by
        rw [Keyed.names_append, Keyed.names_cons, List.nodup_append] at hnames
        exact fun hmem => hnames.2.2 _ hmem _ List.mem_cons_self rfl
      have hput : Keyed.put m.1 m.2 read = read ++ [m] := Keyed.put_of_notMem m.2 hnew
      obtain ⟨last, hlast, hbehind⟩ :=
        ih (fun other hother => hstarts other (List.mem_cons_of_mem _ hother))
          (fun other hother => hmembers other (List.mem_cons_of_mem _ hother))
          (show read ++ [m] ≠ [] by simp) (by simpa using hnames) hrest
          (rest_skipBlanks_following (.inr rfl) (List.forall_mem_nil _) hrest) fuel (by omega)
      refine ⟨last, ?_, hbehind⟩
      rw [readMembers_next hread hskip (Cursor.peek_eq hmember), hnext]
      dsimp only [bind, Except.bind]
      rw [hput, hlast, List.append_assoc]
      rfl

theorem isReadBack_object {depth : Nat} {members : List (String × Json)}
    (hnames : (Keyed.names members).Nodup) (hstarts : ∀ m ∈ members, StartsValue m.2.chars)
    (hmembers : ∀ m ∈ members, IsReadBack depth m.2) :
    IsReadBack (depth + 1) (.object members) := by
  intro fuel place rest hfuel h _
  rw [chars, memberChars_eq] at hfuel h
  simp only [List.cons_append, List.length_cons, List.length_append, List.append_assoc,
    List.length_nil, List.nil_append] at hfuel h
  obtain ⟨fuel, rfl⟩ := Nat.exists_eq_add_of_le (show 3 ≤ fuel by omega)
  rw [show 3 + fuel = fuel + 1 + 1 + 1 by omega, readValue_brace (Cursor.peek_eq h)]
  have hbehind := Cursor.rest_advance h
  cases members with
  | nil =>
      have hclose : place.skipBlanks.advance.skipBlanks.rest = following [] '\x7d' rest :=
        rest_skipBlanks_following (.inr rfl) (List.forall_mem_nil _) hbehind
      refine ⟨_, ?_, Cursor.rest_advance hclose⟩
      rw [readMembers, Cursor.peek_eq hclose]
      rfl
  | cons m members =>
      rw [List.map_cons, separated, List.length_append] at hfuel
      have hlong : m.2.chars.length + 3 ≤ (memberText m).length := by
        simp only [memberText, stringChars, List.length_append, List.length_cons]
        omega
      have hmember : place.skipBlanks.advance.skipBlanks.rest =
          memberText m ++ following (members.map memberText) '\x7d' rest :=
        rest_skipBlanks_memberText m (by simp [hbehind, separated, following])
      obtain ⟨next, hnext, hrest⟩ := exists_readMember_memberText fuel
        (hstarts m List.mem_cons_self) (hmembers m List.mem_cons_self) (by omega) hmember
      obtain ⟨last, hlast, hend⟩ := exists_readMembers
        (fun other hother => hstarts other (List.mem_cons_of_mem _ hother))
        (fun other hother => hmembers other (List.mem_cons_of_mem _ hother))
        (List.cons_ne_nil m []) hnames (show _ < fuel + 1 by omega) hrest
      refine ⟨last, ?_, hend⟩
      rw [readMembers_first (Cursor.peek_eq hmember), hnext]
      exact hlast

/-! ## Whole texts -/

theorem IsPlain.isReadBack {depth : Nat} {doc : Json} (h : IsPlain depth doc) :
    IsReadBack depth doc := by
  induction h with
  | null depth =>
      refine isReadBack_word rfl fun fuel place hpeek => ?_
      rw [readValue.eq_def]
      dsimp only
      rw [hpeek]
      rfl
  | bool depth b =>
      cases b with
      | true =>
          refine isReadBack_word rfl fun fuel place hpeek => ?_
          rw [readValue.eq_def]
          dsimp only
          rw [hpeek]
          rfl
      | false =>
          refine isReadBack_word rfl fun fuel place hpeek => ?_
          rw [readValue.eq_def]
          dsimp only
          rw [hpeek]
          rfl
  | integer depth hlow hhigh => exact isReadBack_integer hlow hhigh
  | text depth s => exact isReadBack_text depth s
  | list hitems ih =>
      exact isReadBack_list (fun item hitem => (hitems item hitem).startsValue) ih
  | object hnames hmembers ih =>
      exact isReadBack_object hnames (fun m hm => (hmembers m hm).startsValue) ih

theorem parse_compact {doc : Json} (h : IsPlain depthLimit doc) : parse doc.compact = .ok doc := by
  have hstart : (Cursor.start doc.compact).rest = doc.chars ++ [] := by
    rw [List.append_nil]
    exact String.toList_ofList
  have hfuel : 3 * doc.chars.length ≤ 3 * doc.compact.length + 3 := by
    rw [compact, String.length_ofList]
    omega
  obtain ⟨next, hnext, hrest⟩ := h.isReadBack _ _ _ hfuel
    (h.startsValue.rest_skipBlanks [] (List.forall_mem_nil _) hstart) nofun
  have hdone : next.skipBlanks.rest = [] :=
    rest_skipBlanks_of_head hrest nofun
  rw [parse, hnext]
  dsimp only [bind, Except.bind]
  rw [Cursor.peek, hdone]
  rfl

end SqlSchema.Json
