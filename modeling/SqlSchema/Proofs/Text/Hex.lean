import SqlSchema.Text.Hex

/-! # Hexadecimal digits read back

Writing bytes and reading the digits gives the bytes, and no digit can be taken for a quote. -/

namespace SqlSchema.Text

theorem hexValue?_hexDigit : ∀ n < 16, hexValue? (hexDigit n) = some n := by
  decide

theorem hexDigit_ne_quote : ∀ n < 16, hexDigit n ≠ '\x27' := by
  decide

theorem utf8Size_hexDigit : ∀ n < 16, (hexDigit n).utf8Size = 1 := by
  decide

theorem exists_hexDigit_of_mem {c : Char} {bytes : List UInt8} (h : c ∈ bytes.flatMap hexByte) :
    ∃ n < 16, c = hexDigit n := by
  obtain ⟨b, -, hb⟩ := List.mem_flatMap.mp h
  have hlt : b.toNat < 256 := b.toNat_lt
  simp only [hexByte, List.mem_cons, List.not_mem_nil, or_false] at hb
  rcases hb with rfl | rfl
  · exact ⟨b.toNat / 16, by omega, rfl⟩
  · exact ⟨b.toNat % 16, by omega, rfl⟩

theorem length_flatMap_hexByte (bytes : List UInt8) :
    (bytes.flatMap hexByte).length = 2 * bytes.length := by
  induction bytes with
  | nil => rfl
  | cons b bytes ih =>
      rw [List.flatMap_cons, List.length_append, ih, List.length_cons]
      simp only [hexByte, List.length_cons, List.length_nil]
      omega

theorem hexBytes?_flatMap_hexByte (bytes : List UInt8) :
    hexBytes? (bytes.flatMap hexByte) = some bytes := by
  induction bytes with
  | nil => rfl
  | cons b bytes ih =>
      have hb : b.toNat < 256 := b.toNat_lt
      have hhigh : hexValue? (hexDigit (b.toNat / 16)) = some (b.toNat / 16) :=
        hexValue?_hexDigit _ (by omega)
      have hlow : hexValue? (hexDigit (b.toNat % 16)) = some (b.toNat % 16) :=
        hexValue?_hexDigit _ (by omega)
      have hbyte : UInt8.ofNat (16 * (b.toNat / 16) + b.toNat % 16) = b := by
        rw [Nat.div_add_mod]
        exact UInt8.ofNat_toNat
      simp only [List.flatMap_cons, hexByte, List.cons_append, List.nil_append, hexBytes?, hhigh,
        hlow, ih, Option.bind_eq_bind, Option.bind_some, hbyte, Option.pure_def]

theorem quote_notMem_hexEncode (bytes : List UInt8) : '\x27' ∉ (hexEncode bytes).toList := by
  intro h
  rw [hexEncode, String.toList_ofList] at h
  obtain ⟨n, hn, hquote⟩ := exists_hexDigit_of_mem h
  exact hexDigit_ne_quote n hn hquote.symm

end SqlSchema.Text
