import SqlSchema.Proofs.Traversal
import SqlSchema.Text.Utf8

/-! # Text through its bytes

The bytes of a text are decoded as that text, and no other bytes are. -/

namespace SqlSchema.Text

/-! ## The bytes of a character -/

theorem toNat_byte {n : Nat} (h : n < 256) : (UInt8.ofNat n).toNat = n :=
  UInt8.toNat_ofNat_of_lt' h

/-- The last six bits of a number as a byte that continues a sequence. -/
def tailByte (n : Nat) : UInt8 :=
  UInt8.ofNat (n % 64 + 128)

theorem toNat_tailByte (n : Nat) : (tailByte n).toNat = n % 64 + 128 :=
  toNat_byte (by omega)

theorem payload_tailByte (n : Nat) : payload (tailByte n) = n % 64 := by
  rw [payload, toNat_tailByte]
  omega

theorem isContinuation_iff (b : UInt8) :
    isContinuation b = true ↔ 0x80 ≤ b.toNat ∧ b.toNat ≤ 0xBF := by
  simp [isContinuation, UInt8.le_iff_toNat_le]

theorem isContinuation_tailByte (n : Nat) : isContinuation (tailByte n) = true := by
  rw [isContinuation_iff, toNat_tailByte]
  omega

theorem continuesLead_iff (lead b : UInt8) :
    continuesLead lead b = true ↔
      (0x80 ≤ b.toNat ∧ b.toNat ≤ 0xBF) ∧ (lead.toNat = 0xE0 → 0xA0 ≤ b.toNat) ∧
        (lead.toNat = 0xED → b.toNat ≤ 0x9F) ∧ (lead.toNat = 0xF0 → 0x90 ≤ b.toNat) ∧
        (lead.toNat = 0xF4 → b.toNat ≤ 0x8F) := by
  simp only [continuesLead, beq_iff_eq, ← UInt8.toNat_inj, UInt8.reduceToNat]
  repeat' split
  all_goals
    simp [isContinuation_iff, UInt8.le_iff_toNat_le]
    omega

section Sequences

variable {index n : Nat} {lead : UInt8} {rest : List UInt8}

theorem not_isAscii (h : 0x80 ≤ lead.toNat) : ¬lead < 0x80 := by
  rw [UInt8.lt_iff_toNat_lt]
  exact Nat.not_lt.mpr h

theorem isBetween_iff (first last : UInt8) :
    (decide (first ≤ lead) && decide (lead ≤ last)) = true ↔
      first.toNat ≤ lead.toNat ∧ lead.toNat ≤ last.toNat := by
  simp [UInt8.le_iff_toNat_le]

theorem utf8Chars_one (h : n < 0x80) (hlead : lead.toNat = n) :
    utf8Chars index (lead :: rest) = (utf8Chars (index + 1) rest).map (Char.ofNat n :: ·) := by
  have hlow : lead < 0x80 := by
    rw [UInt8.lt_iff_toNat_lt, hlead]
    exact h
  rw [utf8Chars.eq_def]
  dsimp only
  rw [if_pos hlow, hlead]

theorem utf8Chars_two (hlow : 0x80 ≤ n) (hhigh : n < 0x800)
    (hlead : lead.toNat = n / 64 % 32 + 0xC0) :
    utf8Chars index (lead :: tailByte n :: rest) =
      (utf8Chars (index + 2) rest).map (Char.ofNat n :: ·) := by
  have hascii : ¬lead < 0x80 := not_isAscii (by omega)
  have htwo : (decide (0xC2 ≤ lead) && decide (lead ≤ 0xDF)) = true := by
    simp only [isBetween_iff, UInt8.reduceToNat]
    omega
  have hvalue : lead.toNat % 32 * 64 + n % 64 = n := by omega
  rw [utf8Chars.eq_def]
  dsimp only
  rw [if_neg hascii, if_pos htwo, if_pos (isContinuation_tailByte n), payload_tailByte, hvalue]

theorem utf8Chars_three (hlow : 0x800 ≤ n) (hhigh : n < 0x10000)
    (hsurrogate : n < 0xD800 ∨ 0xDFFF < n) (hlead : lead.toNat = n / 4096 % 16 + 0xE0) :
    utf8Chars index (lead :: tailByte (n / 64) :: tailByte n :: rest) =
      (utf8Chars (index + 3) rest).map (Char.ofNat n :: ·) := by
  have hascii : ¬lead < 0x80 := not_isAscii (by omega)
  have htwo : ¬(decide (0xC2 ≤ lead) && decide (lead ≤ 0xDF)) = true := by
    simp only [isBetween_iff, UInt8.reduceToNat]
    omega
  have hthree : (decide (0xE0 ≤ lead) && decide (lead ≤ 0xEF)) = true := by
    simp only [isBetween_iff, UInt8.reduceToNat]
    omega
  have hsecond : continuesLead lead (tailByte (n / 64)) = true := by
    rw [continuesLead_iff, hlead, toNat_tailByte]
    omega
  have hvalue : lead.toNat % 16 * 4096 + n / 64 % 64 * 64 + n % 64 = n := by omega
  rw [utf8Chars.eq_def]
  dsimp only
  rw [if_neg hascii, if_neg htwo, if_pos hthree, if_pos hsecond,
    if_pos (isContinuation_tailByte n), payload_tailByte, payload_tailByte, hvalue]

theorem utf8Chars_four (hlow : 0x10000 ≤ n) (hhigh : n < 0x110000)
    (hlead : lead.toNat = n / 262144 % 8 + 0xF0) :
    utf8Chars index (lead :: tailByte (n / 4096) :: tailByte (n / 64) :: tailByte n :: rest) =
      (utf8Chars (index + 4) rest).map (Char.ofNat n :: ·) := by
  have hascii : ¬lead < 0x80 := not_isAscii (by omega)
  have htwo : ¬(decide (0xC2 ≤ lead) && decide (lead ≤ 0xDF)) = true := by
    simp only [isBetween_iff, UInt8.reduceToNat]
    omega
  have hthree : ¬(decide (0xE0 ≤ lead) && decide (lead ≤ 0xEF)) = true := by
    simp only [isBetween_iff, UInt8.reduceToNat]
    omega
  have hfour : (decide (0xF0 ≤ lead) && decide (lead ≤ 0xF4)) = true := by
    simp only [isBetween_iff, UInt8.reduceToNat]
    omega
  have hsecond : continuesLead lead (tailByte (n / 4096)) = true := by
    rw [continuesLead_iff, hlead, toNat_tailByte]
    omega
  have hvalue : lead.toNat % 8 * 262144 + n / 4096 % 64 * 4096 + n / 64 % 64 * 64 + n % 64 = n := by
    omega
  rw [utf8Chars.eq_def]
  dsimp only
  rw [if_neg hascii, if_neg htwo, if_neg hthree, if_pos hfour, if_pos hsecond,
    if_pos (isContinuation_tailByte _), if_pos (isContinuation_tailByte n), payload_tailByte,
    payload_tailByte, payload_tailByte, hvalue]

end Sequences

/-! ## Texts -/

/-- The bytes of a character are read as that character. -/
theorem utf8Chars_encodeChar (c : Char) (index : Nat) (rest : List UInt8) :
    ∃ next, utf8Chars index (String.utf8EncodeChar c ++ rest) =
      (utf8Chars next rest).map (c :: ·) := by
  have hc : Char.ofNat c.val.toNat = c := Char.ofNat_toNat c
  have hvalid : c.val.toNat < 0xD800 ∨ 0xDFFF < c.val.toNat ∧ c.val.toNat < 0x110000 := c.valid
  rw [String.utf8EncodeChar]
  split
  · refine ⟨index + 1, ?_⟩
    rw [List.singleton_append, utf8Chars_one (by omega) (toNat_byte (by omega)), hc]
  · split
    · refine ⟨index + 2, (utf8Chars_two (by omega) (by omega) (toNat_byte (by omega))).trans ?_⟩
      rw [hc]
      rfl
    · split
      · refine ⟨index + 3, (utf8Chars_three (by omega) (by omega) (by omega)
          (toNat_byte (by omega))).trans ?_⟩
        rw [hc]
        rfl
      · refine ⟨index + 4, (utf8Chars_four (by omega) (by omega)
          (toNat_byte (by omega))).trans ?_⟩
        rw [hc]
        rfl

theorem utf8Chars_flatMap_encodeChar (cs : List Char) (index : Nat) :
    utf8Chars index (cs.flatMap String.utf8EncodeChar) = .ok cs := by
  induction cs generalizing index with
  | nil => rfl
  | cons c cs ih =>
      obtain ⟨next, hnext⟩ :=
        utf8Chars_encodeChar c index (cs.flatMap String.utf8EncodeChar)
      rw [List.flatMap_cons, hnext, ih]
      rfl

theorem utf8Decode_utf8Encode (s : String) : utf8Decode (utf8Encode s) = .ok s := by
  rw [utf8Decode, utf8Encode, utf8Chars_flatMap_encodeChar]
  exact congrArg Except.ok String.ofList_toList

theorem utf8Encode_inj {s t : String} : utf8Encode s = utf8Encode t ↔ s = t := by
  refine ⟨fun h => ?_, congrArg utf8Encode⟩
  have hdecoded := utf8Decode_utf8Encode t
  rw [← h, utf8Decode_utf8Encode] at hdecoded
  exact Except.ok.inj hdecoded

/-- Every character takes a byte at least. -/
theorem length_le_utf8Encode (s : String) : s.toList.length ≤ (utf8Encode s).length := by
  rw [utf8Encode]
  induction s.toList with
  | nil => simp
  | cons c cs ih =>
      have hc : 0 < (String.utf8EncodeChar c).length := by
        rw [String.length_utf8EncodeChar]
        exact c.utf8Size_pos
      rw [List.flatMap_cons, List.length_append, List.length_cons]
      omega

/-! ## Bytes that are text -/

/-- The numbers of characters: up to the last code point, without the surrogates. -/
def IsCodePoint (n : Nat) : Prop :=
  n < 0xD800 ∨ 0xDFFF < n ∧ n < 0x110000

theorem toNat_val_ofNat {n : Nat} (h : IsCodePoint n) : (Char.ofNat n).val.toNat = n := by
  have hvalid : n.isValidChar := h
  rw [Char.ofNat, dif_pos hvalid]
  rfl

/-- A byte that continues a sequence is told by the bits that it carries. -/
theorem tailByte_eq {n : Nat} {b : UInt8} (h : isContinuation b = true) (hn : n % 64 = payload b) :
    tailByte n = b := by
  rw [isContinuation_iff] at h
  rw [← UInt8.toNat_inj, toNat_tailByte, hn, payload]
  omega

theorem isContinuation_of_continuesLead {lead b : UInt8} (h : continuesLead lead b = true) :
    isContinuation b = true :=
  (isContinuation_iff b).mpr ((continuesLead_iff lead b).mp h).1

theorem payload_lt (b : UInt8) : payload b < 64 :=
  Nat.mod_lt _ (by decide)

section Characters

variable {a b c d : UInt8} {n : Nat}

theorem utf8EncodeChar_one (ha : a < 0x80) : String.utf8EncodeChar (Char.ofNat a.toNat) = [a] := by
  simp only [UInt8.lt_iff_toNat_lt, UInt8.reduceToNat] at ha
  rw [String.utf8EncodeChar, toNat_val_ofNat (.inl (by omega)), if_pos (by omega)]
  exact congrArg (fun x => [x]) UInt8.ofNat_toNat

theorem utf8EncodeChar_two (ha : (decide (0xC2 ≤ a) && decide (a ≤ 0xDF)) = true)
    (hb : isContinuation b = true) (hn : a.toNat % 32 * 64 + payload b = n) :
    String.utf8EncodeChar (Char.ofNat n) = [a, b] := by
  simp only [isBetween_iff, UInt8.reduceToNat] at ha
  have hbits := payload_lt b
  have hlead : UInt8.ofNat (n / 64 % 32 + 192) = a := by
    rw [← UInt8.toNat_inj, toNat_byte (by omega)]
    omega
  have hlast : tailByte n = b := tailByte_eq hb (by omega)
  rw [String.utf8EncodeChar, toNat_val_ofNat (.inl (by omega)), if_neg (by omega),
    if_pos (by omega), hlead]
  exact congrArg (fun x => [a, x]) hlast

theorem utf8EncodeChar_three (ha : (decide (0xE0 ≤ a) && decide (a ≤ 0xEF)) = true)
    (hb : continuesLead a b = true) (hc : isContinuation c = true)
    (hn : a.toNat % 16 * 4096 + payload b * 64 + payload c = n) :
    String.utf8EncodeChar (Char.ofNat n) = [a, b, c] := by
  simp only [isBetween_iff, UInt8.reduceToNat] at ha
  have hbounds := (continuesLead_iff a b).mp hb
  have hbits : payload b = b.toNat % 64 := rfl
  have hlastBits := payload_lt c
  have hlead : UInt8.ofNat (n / 4096 % 16 + 224) = a := by
    rw [← UInt8.toNat_inj, toNat_byte (by omega)]
    omega
  have hsecond : tailByte (n / 64) = b :=
    tailByte_eq (isContinuation_of_continuesLead hb) (by omega)
  have hlast : tailByte n = c := tailByte_eq hc (by omega)
  have hvalid : IsCodePoint n := by
    unfold IsCodePoint
    omega
  rw [String.utf8EncodeChar, toNat_val_ofNat hvalid, if_neg (by omega), if_neg (by omega),
    if_pos (by omega), hlead, ← hsecond, ← hlast]
  rfl

theorem utf8EncodeChar_four (ha : (decide (0xF0 ≤ a) && decide (a ≤ 0xF4)) = true)
    (hb : continuesLead a b = true) (hc : isContinuation c = true)
    (hd : isContinuation d = true)
    (hn : a.toNat % 8 * 262144 + payload b * 4096 + payload c * 64 + payload d = n) :
    String.utf8EncodeChar (Char.ofNat n) = [a, b, c, d] := by
  simp only [isBetween_iff, UInt8.reduceToNat] at ha
  have hbounds := (continuesLead_iff a b).mp hb
  have hbits : payload b = b.toNat % 64 := rfl
  have hthirdBits := payload_lt c
  have hlastBits := payload_lt d
  have hlead : UInt8.ofNat (n / 262144 % 8 + 240) = a := by
    rw [← UInt8.toNat_inj, toNat_byte (by omega)]
    omega
  have hsecond : tailByte (n / 4096) = b :=
    tailByte_eq (isContinuation_of_continuesLead hb) (by omega)
  have hthird : tailByte (n / 64) = c := tailByte_eq hc (by omega)
  have hlast : tailByte n = d := tailByte_eq hd (by omega)
  have hvalid : IsCodePoint n := by
    unfold IsCodePoint
    omega
  rw [String.utf8EncodeChar, toNat_val_ofNat hvalid, if_neg (by omega), if_neg (by omega),
    if_neg (by omega), hlead, ← hsecond, ← hthird, ← hlast]
  rfl

end Characters

/-- Characters that are decoded from bytes have these bytes. -/
theorem flatMap_encodeChar_of_utf8Chars {index : Nat} {bytes : List UInt8} {cs : List Char}
    (h : utf8Chars index bytes = .ok cs) : cs.flatMap String.utf8EncodeChar = bytes := by
  fun_induction utf8Chars index bytes generalizing cs with
  | case1 =>
      obtain rfl := Except.ok.inj h
      rfl
  | case2 index a rest ha ih =>
      obtain ⟨tail, htail, rfl⟩ := Traversal.map_eq_ok_iff.mp h
      rw [List.flatMap_cons, utf8EncodeChar_one ha, ih htail, List.singleton_append]
  | case4 index a ha htwo b rest hb ih =>
      obtain ⟨tail, htail, rfl⟩ := Traversal.map_eq_ok_iff.mp h
      rw [List.flatMap_cons, utf8EncodeChar_two htwo hb rfl, ih htail]
      rfl
  | case8 index a ha htwo hthree b hb c rest hc ih =>
      obtain ⟨tail, htail, rfl⟩ := Traversal.map_eq_ok_iff.mp h
      rw [List.flatMap_cons, utf8EncodeChar_three hthree hb hc rfl, ih htail]
      rfl
  | case14 index a ha htwo hthree hfour b hb c hc d rest hd ih =>
      obtain ⟨tail, htail, rfl⟩ := Traversal.map_eq_ok_iff.mp h
      rw [List.flatMap_cons, utf8EncodeChar_four hfour hb hc hd rfl, ih htail]
      rfl
  | _ => cases h

/-- Bytes are decoded just as the text whose bytes they are. -/
theorem utf8Decode_eq_ok_iff {bytes : List UInt8} {s : String} :
    utf8Decode bytes = .ok s ↔ utf8Encode s = bytes := by
  constructor
  · intro h
    obtain ⟨cs, hcs, rfl⟩ := Traversal.map_eq_ok_iff.mp h
    rw [utf8Encode, String.toList_ofList]
    exact flatMap_encodeChar_of_utf8Chars hcs
  · rintro rfl
    exact utf8Decode_utf8Encode s

end SqlSchema.Text
