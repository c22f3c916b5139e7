import SqlSchema.Proofs.Json.Tokens

/-! # Every document is read

Each text of the grammar is read as a document, if its containers are not deeper in one another
than the reader goes. -/

namespace SqlSchema.Json

open Number Text

/-! ## Containers -/

def starts : List Char :=
  ['n', 't', 'f', '-', '\x22', '[', '\x7b']

def StartsValue (text : List Char) : Prop :=
  ∃ c cs, text = c :: cs ∧ (c ∈ starts ∨ isDigit c = true)

theorem StartsValue.exists_head {text : List Char} (h : StartsValue text) :
    ∃ c cs, text = c :: cs ∧ c ∉ blanks ∧ c ≠ ']' := by
  obtain ⟨c, cs, rfl, hc⟩ := h
  refine ⟨c, cs, rfl, ?_⟩
  rcases hc with hc | hc
  · have hall : ∀ d ∈ starts, d ∉ blanks ∧ d ≠ ']' := by simp [starts, blanks]
    exact hall c hc
  · have hall : ∀ d ∈ blanks, isDigit d = false := by simp [blanks, isDigit]
    refine ⟨fun hblank => ?_, ne_of_isDigit hc (by decide)⟩
    rw [hall c hblank] at hc
    cases hc

section StartsValue

variable {text tail : List Char} {place : Cursor}

theorem StartsValue.exists_peek (h : StartsValue text) (hplace : place.rest = text ++ tail) :
    ∃ c, place.peek = some c ∧ c ≠ ']' := by
  obtain ⟨c, cs, rfl, -, hbracket⟩ := h.exists_head
  exact ⟨c, Cursor.peek_eq hplace, hbracket⟩

/-- Blanks before a document are skipped. -/
theorem StartsValue.rest_skipBlanks (h : StartsValue text) (blank : List Char)
    (hblank : ∀ c ∈ blank, c ∈ blanks) (hplace : place.rest = blank ++ (text ++ tail)) :
    place.skipBlanks.rest = text ++ tail := by
  obtain ⟨c, cs, rfl, hc, -⟩ := h.exists_head
  refine Cursor.rest_skipBlanks hplace hblank ?_
  rintro d ⟨⟩
  exact hc

end StartsValue

theorem Spells.startsValue {depth : Nat} {text : List Char} (h : Spells depth text) :
    StartsValue text := by
  cases h with
  | nullWord => exact ⟨_, _, rfl, .inl (by decide)⟩
  | falseWord => exact ⟨_, _, rfl, .inl (by decide)⟩
  | trueWord => exact ⟨_, _, rfl, .inl (by decide)⟩
  | text => exact ⟨_, _, rfl, .inl (by decide)⟩
  | list => exact ⟨_, _, rfl, .inl (by decide)⟩
  | object => exact ⟨_, _, rfl, .inl (by decide)⟩
  | number _ hn =>
      rename_i n
      obtain ⟨c, cs, hwhole⟩ := List.exists_cons_of_ne_nil hn.whole_ne
      have hc : isDigit c = true := hn.whole c (by rw [hwhole]; exact List.mem_cons_self)
      rw [Numeral.chars, Numeral.unsigned, hwhole]
      split
      · exact ⟨_, _, rfl, .inl (by decide)⟩
      · exact ⟨_, _, rfl, .inr hc⟩

/-- A text is read whole, blanks before it aside, whatever follows it as a token. The fuel that it
takes is bounded by its length. -/
def IsRead (depth : Nat) (text : List Char) : Prop :=
  ∀ fuel place rest, 3 * text.length ≤ fuel → place.skipBlanks.rest = text ++ rest →
    EndsToken rest → Leaves (readValue fuel depth place) rest

/-- What follows an item of a container: the items that are left, each behind a comma, and the
bracket. -/
def following (chunks : List (List Char)) (close : Char) (rest : List Char) : List Char :=
  chunks.flatMap (',' :: ·) ++ close :: rest

theorem following_cons (chunk : List Char) (chunks : List (List Char)) (close : Char)
    (rest : List Char) :
    following (chunk :: chunks) close rest = ',' :: (chunk ++ following chunks close rest) := by
  simp [following]

theorem exists_following (chunks : List (List Char)) (close : Char) (rest : List Char) :
    ∃ c cs, following chunks close rest = c :: cs ∧ (c = ',' ∨ c = close) := by
  cases chunks with
  | nil => exact ⟨close, rest, rfl, .inr rfl⟩
  | cons chunk chunks => exact ⟨',', _, following_cons chunk chunks close rest, .inl rfl⟩

section Following

variable {chunks : List (List Char)} {close : Char} {blank rest : List Char}

theorem endsToken_following (hclose : close = ']' ∨ close = '\x7d')
    (hblank : ∀ c ∈ blank, c ∈ blanks) : EndsToken (blank ++ following chunks close rest) := by
  obtain ⟨c, cs, hcs, hc⟩ := exists_following chunks close rest
  cases blank with
  | cons b blank =>
      rintro d ⟨⟩
      exact List.mem_append_left _ (hblank b List.mem_cons_self)
  | nil =>
      rw [List.nil_append, hcs]
      rintro d ⟨⟩
      rcases hc with rfl | rfl
      · decide
      · rcases hclose with rfl | rfl <;> decide

theorem rest_skipBlanks_following (hclose : close = ']' ∨ close = '\x7d')
    (hblank : ∀ c ∈ blank, c ∈ blanks) {place : Cursor}
    (h : place.rest = blank ++ following chunks close rest) :
    place.skipBlanks.rest = following chunks close rest := by
  refine Cursor.rest_skipBlanks h hblank ?_
  obtain ⟨c, cs, hcs, hc⟩ := exists_following chunks close rest
  rw [hcs]
  rintro d ⟨⟩
  rcases hc with rfl | rfl
  · decide
  · rcases hclose with rfl | rfl <;> decide

end Following

/-- A text is read from where it starts, and the blanks behind it are skipped. -/
theorem IsRead.padded {depth : Nat} {item : Padded} (h : IsRead depth item.text)
    {chunks : List (List Char)} {close : Char} (hclose : close = ']' ∨ close = '\x7d')
    {rest : List Char} (fuel : Nat) (hfuel : 3 * item.chars.length ≤ fuel) {place : Cursor}
    (hplace : place.skipBlanks.rest = item.text ++ (item.after ++ following chunks close rest)) :
    ∃ value next, readValue fuel depth place = .ok (value, next) ∧
      next.skipBlanks.rest = following chunks close rest := by
  have hlength : 3 * item.text.length ≤ fuel := by
    simp only [Padded.chars, List.length_append] at hfuel
    omega
  obtain ⟨value, next, hread, hnext⟩ :=
    h fuel place _ hlength hplace (endsToken_following hclose item.after_blank)
  exact ⟨value, next, hread, rest_skipBlanks_following hclose item.after_blank hnext⟩

theorem Padded.chars_append (item : Padded) (tail : List Char) :
    item.chars ++ tail = item.before ++ (item.text ++ (item.after ++ tail)) := by
  rw [Padded.chars, List.append_assoc, List.append_assoc]

section Steps

variable {fuel depth : Nat} {place : Cursor} {c : Char} {cs : List Char}

theorem readItems_first (hpeek : place.skipBlanks.peek = some c) (hc : c ≠ ']') :
    readItems (fuel + 1) depth [] place =
      readValue fuel depth place.skipBlanks >>= fun found =>
        readItems fuel depth [found.1] found.2 := by
  rw [readItems, hpeek]
  split
  · contradiction
  · rename_i heq
    exact absurd (Option.some.inj heq) hc
  · rfl

theorem readItems_next {read : List Json} (hread : read ≠ [])
    (h : place.skipBlanks.rest = ',' :: cs)
    (hpeek : place.skipBlanks.advance.skipBlanks.peek = some c) (hc : c ≠ ']') :
    readItems (fuel + 1) depth read place =
      readValue fuel depth place.skipBlanks.advance.skipBlanks >>= fun found =>
        readItems fuel depth (found.1 :: read) found.2 := by
  rw [readItems, Cursor.peek_eq h]
  split
  · contradiction
  · contradiction
  · rename_i heq
    obtain rfl := Option.some.inj heq
    rw [if_neg (by simpa using hread), if_pos (beq_self_eq_true ',')]
    dsimp only
    rw [hpeek]
    split
    · contradiction
    · rename_i heq
      exact absurd (Option.some.inj heq) hc
    · rfl

theorem readMembers_first (hpeek : place.skipBlanks.peek = some '\x22') :
    readMembers (fuel + 1) depth [] place =
      readMember fuel depth place.skipBlanks >>= fun found =>
        readMembers fuel depth [found.1] found.2 := by
  rw [readMembers, hpeek]
  rfl

theorem readMembers_next {read : List (String × Json)} (hread : read ≠ [])
    (h : place.skipBlanks.rest = ',' :: cs)
    (hpeek : place.skipBlanks.advance.skipBlanks.peek = some '\x22') :
    readMembers (fuel + 1) depth read place =
      readMember fuel depth place.skipBlanks.advance.skipBlanks >>= fun found =>
        readMembers fuel depth (Keyed.put found.1.1 found.1.2 read) found.2 := by
  rw [readMembers, Cursor.peek_eq h]
  split
  · contradiction
  · contradiction
  · rename_i heq
    obtain rfl := Option.some.inj heq
    rw [if_neg (by simpa using hread), if_pos (beq_self_eq_true ',')]
    dsimp only
    rw [hpeek]
    rfl

end Steps

theorem leaves_readItems {depth : Nat} {items : List Padded}
    (hstarts : ∀ item ∈ items, StartsValue item.text)
    (hitems : ∀ item ∈ items, IsRead depth item.text) {fuel : Nat} {read : List Json}
    {place : Cursor} {rest : List Char} (hread : read ≠ [])
    (hfuel : 3 * ((items.map Padded.chars).flatMap (',' :: ·)).length < fuel)
    (h : place.skipBlanks.rest = following (items.map Padded.chars) ']' rest) :
    Leaves (readItems fuel depth read place) rest := by
  induction items generalizing fuel read place with
  | nil =>
      obtain ⟨fuel, rfl⟩ := Nat.exists_eq_add_one.mpr (Nat.zero_lt_of_lt hfuel)
      rw [readItems, Cursor.peek_eq h]
      exact .ok (Cursor.rest_advance h)
  | cons item items ih =>
      obtain ⟨fuel, rfl⟩ := Nat.exists_eq_add_one.mpr (Nat.zero_lt_of_lt hfuel)
      rw [List.map_cons, following_cons] at h
      rw [List.map_cons, List.flatMap_cons, List.length_append, List.length_cons] at hfuel
      have hstart := hstarts item List.mem_cons_self
      have hskip : place.skipBlanks.advance.skipBlanks.rest = item.text ++ (item.after ++ _) :=
        hstart.rest_skipBlanks _ item.before_blank
          ((Cursor.rest_advance h).trans (item.chars_append _))
      have hagain := hstart.rest_skipBlanks [] (List.forall_mem_nil _) hskip
      obtain ⟨c, hpeek, hbracket⟩ := hstart.exists_peek hskip
      obtain ⟨value, next, hvalue, hnext⟩ :=
        (hitems item List.mem_cons_self).padded (.inl rfl) fuel (by omega) hagain
      rw [readItems_next hread h hpeek hbracket, hvalue]
      exact ih (fun other hother => hstarts other (List.mem_cons_of_mem _ hother))
        (fun other hother => hitems other (List.mem_cons_of_mem _ hother)) (by simp) (by omega)
        hnext

theorem MemberText.rest_skipBlanks (m : MemberText) (blank : List Char)
    (hblank : ∀ c ∈ blank, c ∈ blanks) {place : Cursor} {tail : List Char}
    (h : place.rest = blank ++ (m.chars ++ tail)) : place.skipBlanks.rest = m.quoted ++ tail := by
  have hplace : place.rest = (blank ++ m.before) ++ (m.quoted ++ tail) := by
    rw [h, chars, List.append_assoc, List.append_assoc]
  refine Cursor.rest_skipBlanks hplace (List.forall_mem_append.mpr ⟨hblank, m.before_blank⟩) ?_
  rintro d ⟨⟩
  decide

/-- A member is read from its opening quote, and the blanks behind it are skipped. -/
theorem exists_readMember {depth : Nat} {m : MemberText} (hstart : StartsValue m.value.text)
    (hvalue : IsRead depth m.value.text) {chunks : List (List Char)} (fuel : Nat)
    {place : Cursor} {rest : List Char} (hfuel : 3 * m.value.chars.length ≤ fuel)
    (h : place.rest = m.quoted ++ following chunks '\x7d' rest) :
    ∃ member next, readMember (fuel + 1) depth place = .ok (member, next) ∧
      next.skipBlanks.rest = following chunks '\x7d' rest := by
  rw [MemberText.quoted] at h
  simp only [List.cons_append, List.append_assoc] at h
  have hlength : m.name.length < place.rest.length + 1 := by
    rw [h, List.length_cons, List.length_append]
    omega
  obtain ⟨name, behind, hname, hbehind⟩ :=
    leaves_readString m.name_string [] hlength (Cursor.rest_advance h)
  have hcolon : behind.skipBlanks.rest = ':' :: _ :=
    Cursor.rest_skipBlanks hbehind m.after_blank (by rintro d ⟨⟩; decide)
  have hskip := hstart.rest_skipBlanks _ m.value.before_blank
    ((Cursor.rest_advance hcolon).trans (m.value.chars_append _))
  obtain ⟨value, next, hread, hnext⟩ := hvalue.padded (.inr rfl) fuel hfuel hskip
  refine ⟨(name, value), next, ?_, hnext⟩
  rw [readMember, hname]
  dsimp only [bind, Except.bind]
  rw [Cursor.peek_eq hcolon, hread]
  rfl

theorem put_ne_nil (name : String) (value : Json) (members : List (String × Json)) :
    Keyed.put name value members ≠ [] := by
  cases members with
  | nil => exact List.cons_ne_nil _ _
  | cons member members =>
      rw [Keyed.put]
      split <;> exact List.cons_ne_nil _ _

theorem leaves_readMembers {depth : Nat} {members : List MemberText}
    (hstarts : ∀ m ∈ members, StartsValue m.value.text)
    (hmembers : ∀ m ∈ members, IsRead depth m.value.text) {fuel : Nat}
    {read : List (String × Json)} {place : Cursor} {rest : List Char} (hread : read ≠ [])
    (hfuel : 3 * ((members.map MemberText.chars).flatMap (',' :: ·)).length < fuel)
    (h : place.skipBlanks.rest = following (members.map MemberText.chars) '\x7d' rest) :
    Leaves (readMembers fuel depth read place) rest := by
  induction members generalizing fuel read place with
  | nil =>
      obtain ⟨fuel, rfl⟩ := Nat.exists_eq_add_one.mpr (Nat.zero_lt_of_lt hfuel)
      rw [readMembers, Cursor.peek_eq h]
      exact .ok (Cursor.rest_advance h)
  | cons m members ih =>
      rw [List.map_cons, following_cons] at h
      rw [List.map_cons, List.flatMap_cons, List.length_append, List.length_cons] at hfuel
      have hlong : m.value.chars.length + 3 ≤ m.chars.length := by
        simp only [MemberText.chars, MemberText.quoted, List.length_append, List.length_cons]
        omega
      obtain ⟨fuel, rfl⟩ := Nat.exists_eq_add_of_le (show 2 ≤ fuel by omega)
      rw [Nat.add_comm 2] at hfuel ⊢
      have hquote := m.rest_skipBlanks [] (List.forall_mem_nil _) (Cursor.rest_advance h)
      obtain ⟨member, next, hmember, hnext⟩ :=
        exists_readMember (hstarts m List.mem_cons_self) (hmembers m List.mem_cons_self) fuel
          (by omega) hquote
      rw [readMembers_next hread h (Cursor.peek_eq hquote), hmember]
      exact ih (fun other hother => hstarts other (List.mem_cons_of_mem _ hother))
        (fun other hother => hmembers other (List.mem_cons_of_mem _ hother))
        (put_ne_nil _ _ _) (by omega) hnext

/-! ## Documents are read -/

section First

variable {fuel depth : Nat} {place : Cursor}

theorem readValue_digit {c : Char} (h : place.skipBlanks.peek = some c) (hc : isDigit c = true) :
    readValue (fuel + 1) depth place = readNumber false place.skipBlanks := by
  rw [readValue.eq_def]
  dsimp only
  rw [h]
  split
  · contradiction
  case h_9 =>
    rename_i heq
    obtain rfl := Option.some.inj heq
    rw [if_pos hc]
  all_goals
    rename_i heq
    rw [Option.some.inj heq] at hc
    exact absurd hc (by decide)

theorem readValue_minus (h : place.skipBlanks.peek = some '-') :
    readValue (fuel + 1) depth place = readNumber true place.skipBlanks.advance := by
  rw [readValue.eq_def]
  dsimp only
  rw [h]
  rfl

theorem readValue_quote (h : place.skipBlanks.peek = some '\x22') :
    readValue (fuel + 1) depth place =
      (readString (place.skipBlanks.rest.length + 1) [] place.skipBlanks.advance).map
        fun found => (.text found.1, found.2) := by
  rw [readValue.eq_def]
  dsimp only
  rw [h]
  rfl

theorem readValue_bracket (h : place.skipBlanks.peek = some '[') :
    readValue (fuel + 1) (depth + 1) place = readItems fuel depth [] place.skipBlanks.advance := by
  rw [readValue.eq_def]
  dsimp only
  rw [h]
  rfl

theorem readValue_brace (h : place.skipBlanks.peek = some '\x7b') :
    readValue (fuel + 1) (depth + 1) place =
      readMembers fuel depth [] place.skipBlanks.advance := by
  rw [readValue.eq_def]
  dsimp only
  rw [h]
  rfl

end First

theorem isRead_word {depth : Nat} {c : Char} {word : List Char} (doc : Json)
    (hread : ∀ fuel place, place.skipBlanks.peek = some c → readValue (fuel + 1) depth place =
      (readWord word place.skipBlanks.advance).map fun next => (doc, next)) :
    IsRead depth (c :: word) := by
  intro fuel place rest hfuel h _
  obtain ⟨fuel, rfl⟩ := Nat.exists_eq_add_one.mpr (Nat.lt_of_lt_of_le (by simp) hfuel)
  rw [hread fuel place (Cursor.peek_eq h)]
  exact leaves_readWord doc (Cursor.rest_advance h)

theorem isRead_number {depth : Nat} {n : Numeral} (hn : n.IsWritten) : IsRead depth n.chars := by
  intro fuel place rest hfuel h hrest
  obtain ⟨c, cs, hwhole⟩ := List.exists_cons_of_ne_nil hn.whole_ne
  have hc : isDigit c = true := hn.whole c (by rw [hwhole]; exact List.mem_cons_self)
  have hlength : 0 < n.chars.length := by
    rw [Numeral.chars, Numeral.unsigned, hwhole]
    split <;> simp
  obtain ⟨fuel, rfl⟩ := Nat.exists_eq_add_one.mpr (Nat.lt_of_lt_of_le (by omega) hfuel)
  have hread {place : Cursor} (hplace : place.rest = n.unsigned ++ rest) :=
    leaves_readNumber hn hrest hplace
  rw [Numeral.chars] at h
  cases hnegative : n.negative with
  | true =>
      rw [hnegative] at h hread
      rw [readValue_minus (Cursor.peek_eq h)]
      exact hread (Cursor.rest_advance h)
  | false =>
      rw [hnegative] at h hread
      have hunsigned : place.skipBlanks.rest = n.unsigned ++ rest := h
      have hpeek : place.skipBlanks.peek = some c := by
        rw [Cursor.peek, hunsigned, Numeral.unsigned, hwhole]
        rfl
      rw [readValue_digit hpeek hc]
      exact hread hunsigned

theorem isRead_text {depth : Nat} {cs : List Char} (hcs : StringText cs) :
    IsRead depth ('\x22' :: cs ++ ['\x22']) := by
  intro fuel place rest hfuel h _
  obtain ⟨fuel, rfl⟩ := Nat.exists_eq_add_one.mpr (Nat.lt_of_lt_of_le (by simp) hfuel)
  rw [List.cons_append, List.cons_append, List.append_assoc] at h
  have hlength : cs.length < place.skipBlanks.rest.length + 1 := by
    rw [h, List.length_cons, List.length_append]
    omega
  rw [readValue_quote (Cursor.peek_eq h)]
  exact (leaves_readString hcs [] hlength (Cursor.rest_advance h)).map

theorem isRead_list {depth : Nat} {blank : List Char} {items : List Padded}
    (hblank : ∀ c ∈ blank, c ∈ blanks) (hstarts : ∀ item ∈ items, StartsValue item.text)
    (hitems : ∀ item ∈ items, IsRead depth item.text) :
    IsRead (depth + 1) ('[' :: blank ++ (separated (items.map Padded.chars) ++ [']'])) := by
  intro fuel place rest hfuel h _
  simp only [List.cons_append, List.length_cons, List.length_append, List.append_assoc,
    List.length_nil, List.nil_append] at hfuel h
  obtain ⟨fuel, rfl⟩ := Nat.exists_eq_add_of_le (show 2 ≤ fuel by omega)
  rw [Nat.add_comm 2, readValue_bracket (Cursor.peek_eq h)]
  have hbehind := Cursor.rest_advance h
  cases items with
  | nil =>
      have hclose : place.skipBlanks.advance.skipBlanks.rest = following [] ']' rest :=
        rest_skipBlanks_following (.inl rfl) hblank hbehind
      rw [readItems, Cursor.peek_eq hclose]
      exact .ok (Cursor.rest_advance hclose)
  | cons item items =>
      have hstart := hstarts item List.mem_cons_self
      rw [List.map_cons, separated, List.length_append] at hfuel
      have hskip : place.skipBlanks.advance.skipBlanks.rest =
          item.text ++ (item.after ++ following (items.map Padded.chars) ']' rest) :=
        hstart.rest_skipBlanks _ (List.forall_mem_append.mpr ⟨hblank, item.before_blank⟩)
          (by simp [hbehind, separated, following, Padded.chars])
      obtain ⟨c, hpeek, hbracket⟩ := hstart.exists_peek hskip
      obtain ⟨value, next, hvalue, hnext⟩ :=
        (hitems item List.mem_cons_self).padded (.inl rfl) fuel (by omega)
          (hstart.rest_skipBlanks [] (List.forall_mem_nil _) hskip)
      rw [readItems_first hpeek hbracket, hvalue]
      exact leaves_readItems (fun other hother => hstarts other (List.mem_cons_of_mem _ hother))
        (fun other hother => hitems other (List.mem_cons_of_mem _ hother)) (List.cons_ne_nil _ _)
        (by omega) hnext

theorem isRead_object {depth : Nat} {blank : List Char} {members : List MemberText}
    (hblank : ∀ c ∈ blank, c ∈ blanks) (hstarts : ∀ m ∈ members, StartsValue m.value.text)
    (hmembers : ∀ m ∈ members, IsRead depth m.value.text) :
    IsRead (depth + 1)
      ('\x7b' :: blank ++ (separated (members.map MemberText.chars) ++ ['\x7d'])) := by
  intro fuel place rest hfuel h _
  simp only [List.cons_append, List.length_cons, List.length_append, List.append_assoc,
    List.length_nil, List.nil_append] at hfuel h
  obtain ⟨fuel, rfl⟩ := Nat.exists_eq_add_of_le (show 2 ≤ fuel by omega)
  rw [Nat.add_comm 2, readValue_brace (Cursor.peek_eq h)]
  have hbehind := Cursor.rest_advance h
  cases members with
  | nil =>
      have hclose : place.skipBlanks.advance.skipBlanks.rest = following [] '\x7d' rest :=
        rest_skipBlanks_following (.inr rfl) hblank hbehind
      rw [readMembers, Cursor.peek_eq hclose]
      exact .ok (Cursor.rest_advance hclose)
  | cons m members =>
      rw [List.map_cons, separated, List.length_append] at hfuel
      have hlong : m.value.chars.length + 3 ≤ m.chars.length := by
        simp only [MemberText.chars, MemberText.quoted, List.length_append, List.length_cons]
        omega
      obtain ⟨fuel, rfl⟩ := Nat.exists_eq_add_one.mpr (show 0 < fuel by omega)
      have hquote : place.skipBlanks.advance.skipBlanks.rest =
          m.quoted ++ following (members.map MemberText.chars) '\x7d' rest :=
        m.rest_skipBlanks blank hblank (by simp [hbehind, separated, following])
      obtain ⟨member, next, hmember, hnext⟩ :=
        exists_readMember (hstarts m List.mem_cons_self) (hmembers m List.mem_cons_self) fuel
          (by omega) hquote
      rw [readMembers_first (Cursor.peek_eq hquote), hmember]
      exact leaves_readMembers
        (fun other hother => hstarts other (List.mem_cons_of_mem _ hother))
        (fun other hother => hmembers other (List.mem_cons_of_mem _ hother))
        (List.cons_ne_nil _ _) (by omega) hnext

theorem Spells.isRead {depth : Nat} {text : List Char} (h : Spells depth text) :
    IsRead depth text := by
  induction h with
  | nullWord depth =>
      refine isRead_word .null fun fuel place hpeek => ?_
      rw [readValue.eq_def]
      dsimp only
      rw [hpeek]
      rfl
  | falseWord depth =>
      refine isRead_word (.bool false) fun fuel place hpeek => ?_
      rw [readValue.eq_def]
      dsimp only
      rw [hpeek]
      rfl
  | trueWord depth =>
      refine isRead_word (.bool true) fun fuel place hpeek => ?_
      rw [readValue.eq_def]
      dsimp only
      rw [hpeek]
      rfl
  | number depth hn => exact isRead_number hn
  | text depth hcs => exact isRead_text hcs
  | list hblank hitems ih =>
      exact isRead_list hblank (fun item hitem => (hitems item hitem).startsValue) ih
  | object hblank hmembers ih =>
      exact isRead_object hblank (fun m hm => (hmembers m hm).startsValue) ih

/-- Every document among blanks is read, if its containers are not too deep in one another. -/
theorem exists_parse_eq_ok {p : Padded} (h : Spells depthLimit p.text) :
    ∃ doc, parse (String.ofList p.chars) = .ok doc := by
  have hstart : (Cursor.start (String.ofList p.chars)).rest = p.before ++ (p.text ++ p.after) :=
    String.toList_ofList
  have hfuel : 3 * p.text.length ≤ 3 * (String.ofList p.chars).length + 3 := by
    rw [String.length_ofList, Padded.chars, List.length_append, List.length_append]
    omega
  have hend : EndsToken p.after := fun c hc =>
    List.mem_append_left _ (p.after_blank c (List.mem_of_mem_head? hc))
  obtain ⟨doc, next, hread, hnext⟩ := h.isRead _ _ _ hfuel
    (h.startsValue.rest_skipBlanks _ p.before_blank hstart) hend
  have hdone : next.skipBlanks.rest = [] :=
    Cursor.rest_skipBlanks (hnext.trans (List.append_nil _).symm) p.after_blank nofun
  refine ⟨doc, ?_⟩
  rw [parse, hread]
  dsimp only [bind, Except.bind]
  rw [Cursor.peek, hdone]
  rfl

end SqlSchema.Json
