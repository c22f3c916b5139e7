import SqlSchema.Proofs.Text.Utf8
import SqlSchema.Text.Percent

/-! # Percent-encoded text read back

Whatever set of characters an encoding spares, decoding gives the bytes of the text; and bytes that
are all written as triples are decoded as these bytes, also where they are no text. -/

namespace SqlSchema.Text

/-! ## Triples -/

def tripled (bytes : List UInt8) : String :=
  String.ofList (bytes.flatMap percentByte)

def tripleChars : List Char :=
  "%0123456789ABCDEF".toList

theorem upperHexDigit_mem : ∀ n < 16, upperHexDigit n ∈ tripleChars := by
  decide

theorem mem_tripleChars {c : Char} {bytes : List UInt8} (h : c ∈ bytes.flatMap percentByte) :
    c ∈ tripleChars := by
  obtain ⟨b, -, hb⟩ := List.mem_flatMap.mp h
  have hlt : b.toNat < 256 := b.toNat_lt
  simp only [percentByte, List.mem_cons, List.not_mem_nil, or_false] at hb
  rcases hb with rfl | rfl | rfl
  · decide
  · exact upperHexDigit_mem _ (by omega)
  · exact upperHexDigit_mem _ (by omega)

theorem length_flatMap_percentByte (bytes : List UInt8) :
    (bytes.flatMap percentByte).length = 3 * bytes.length := by
  induction bytes with
  | nil => rfl
  | cons b bytes ih =>
      rw [List.flatMap_cons, List.length_append, ih, List.length_cons]
      simp only [percentByte, List.length_cons, List.length_nil]
      omega

/-! ## Decoding -/

theorem utf8EncodeChar_of_ascii {c : Char} (h : c.toNat < 0x80) :
    String.utf8EncodeChar c = [UInt8.ofNat c.toNat] := by
  have hval : c.val.toNat < 0x80 := h
  rw [String.utf8EncodeChar, if_pos (by omega)]
  rfl

theorem percentDecode_cons {b : UInt8} (h : b ≠ 0x25) (bytes : List UInt8) :
    percentDecode (b :: bytes) = b :: percentDecode bytes := by
  rw [percentDecode.eq_def]
  simp [h]

theorem hexByteValue?_upperHexDigit :
    ∀ n < 16, (String.utf8EncodeChar (upperHexDigit n)).map hexByteValue? = [some n] := by
  decide

theorem percentDecode_percentByte (b : UInt8) (bytes : List UInt8) :
    percentDecode ((percentByte b).flatMap String.utf8EncodeChar ++ bytes) =
      b :: percentDecode bytes := by
  have hlt : b.toNat < 256 := b.toNat_lt
  obtain ⟨high, hhigh, hhighValue⟩ :=
    List.map_eq_singleton_iff.mp (hexByteValue?_upperHexDigit (b.toNat / 16) (by omega))
  obtain ⟨low, hlow, hlowValue⟩ :=
    List.map_eq_singleton_iff.mp (hexByteValue?_upperHexDigit (b.toNat % 16) (by omega))
  have hmark : String.utf8EncodeChar '%' = [0x25] := by decide
  have hbyte : UInt8.ofNat (16 * (b.toNat / 16) + b.toNat % 16) = b := by
    rw [Nat.div_add_mod]
    exact UInt8.ofNat_toNat
  simp only [percentByte, List.flatMap_cons, List.flatMap_nil, hmark, hhigh, hlow,
    List.cons_append, List.nil_append]
  rw [percentDecode.eq_def]
  simp [hhighValue, hlowValue, hbyte]

theorem percentDecode_flatMap_percentByte (bytes more : List UInt8) :
    percentDecode ((bytes.flatMap percentByte).flatMap String.utf8EncodeChar ++ more) =
      bytes ++ percentDecode more := by
  induction bytes with
  | nil => rfl
  | cons b bytes ih =>
      rw [List.flatMap_cons, List.flatMap_append, List.append_assoc, percentDecode_percentByte, ih]
      rfl

theorem percentDecode_tripled (bytes : List UInt8) :
    percentDecode (utf8Encode (tripled bytes)) = bytes := by
  have h := percentDecode_flatMap_percentByte bytes []
  rw [utf8Encode, tripled, String.toList_ofList]
  rwa [List.append_nil, percentDecode, List.append_nil] at h

/-- A text that is not empty has more triples than characters. -/
theorem tripled_utf8Encode_ne {s : String} (h : s ≠ "") : tripled (utf8Encode s) ≠ s := by
  intro heq
  have hlength := length_flatMap_percentByte (utf8Encode s)
  have hchars : (utf8Encode s).flatMap percentByte = s.toList := by
    rw [← String.toList_ofList (l := (utf8Encode s).flatMap percentByte)]
    exact congrArg String.toList heq
  have hle := length_le_utf8Encode s
  have hpos : s.toList.length ≠ 0 := by simpa using h
  rw [hchars] at hlength
  omega

section Encoding

variable {escaped : Char → Bool}

theorem percentDecode_percentChar {c : Char} (h : c ≠ '%') (more : List UInt8) :
    percentDecode ((percentChar escaped c).flatMap String.utf8EncodeChar ++ more) =
      String.utf8EncodeChar c ++ percentDecode more := by
  rw [percentChar]
  split
  next hkept =>
    simp only [Bool.and_eq_true, decide_eq_true_eq] at hkept
    have hbyte : UInt8.ofNat c.toNat ≠ 0x25 := by
      intro hmark
      have hcode : c.toNat = 0x25 := by
        rw [← toNat_byte (n := c.toNat) (by omega), hmark]
        rfl
      exact h (Char.toNat_inj.mp hcode)
    rw [List.flatMap_singleton, utf8EncodeChar_of_ascii hkept.1, List.singleton_append,
      percentDecode_cons hbyte]
    rfl
  next => exact percentDecode_flatMap_percentByte _ more

/-- A text without percent signs is decoded from any of its encoded forms. -/
theorem percentDecode_percentEncode {cs : List Char} (h : '%' ∉ cs) :
    percentDecode ((percentEncode escaped cs).flatMap String.utf8EncodeChar) =
      cs.flatMap String.utf8EncodeChar := by
  induction cs with
  | nil => rfl
  | cons c cs ih =>
      obtain ⟨hc, hcs⟩ : '%' ≠ c ∧ '%' ∉ cs := by simpa using h
      rw [percentEncode, List.flatMap_cons, List.flatMap_append, percentDecode_percentChar hc.symm,
        List.flatMap_cons]
      exact congrArg _ (ih hcs)

theorem percentEncode_of_kept {cs : List Char}
    (h : ∀ c ∈ cs, c.toNat < 0x80 ∧ escaped c = false) : percentEncode escaped cs = cs := by
  induction cs with
  | nil => rfl
  | cons c cs ih =>
      obtain ⟨⟨hascii, hkept⟩, hcs⟩ := List.forall_mem_cons.mp h
      have hchar : percentChar escaped c = [c] := by
        rw [percentChar, if_pos (by simp [hascii, hkept])]
      rw [percentEncode, List.flatMap_cons, hchar]
      exact congrArg _ (ih hcs)

theorem mem_percentEncode {c : Char} {cs : List Char} (h : c ∈ percentEncode escaped cs) :
    c ∈ cs ∨ c ∈ tripleChars := by
  obtain ⟨d, hd, hc⟩ := List.mem_flatMap.mp h
  rw [percentChar] at hc
  split at hc
  next => exact .inl (List.mem_singleton.mp hc ▸ hd)
  next => exact .inr (mem_tripleChars hc)

theorem ascii_of_mem_percentEncode {c : Char} {cs : List Char}
    (h : c ∈ percentEncode escaped cs) : c.toNat < 0x80 := by
  obtain ⟨d, -, hd⟩ := List.mem_flatMap.mp h
  rw [percentChar] at hd
  split at hd
  next hkept =>
    obtain rfl := List.mem_singleton.mp hd
    simp only [Bool.and_eq_true, decide_eq_true_eq] at hkept
    exact hkept.1
  next =>
    have hall : tripleChars.all (·.toNat < 0x80) = true := by decide
    simpa using List.all_eq_true.mp hall c (mem_tripleChars hd)

end Encoding

end SqlSchema.Text
