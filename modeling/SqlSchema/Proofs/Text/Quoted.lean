import Mathlib.Tactic.SplitIfs
import SqlSchema.Proofs.Text.Hex
import SqlSchema.Text.Quoted

/-! # Quoted text read back

Every character between double quotes is read back from the way it is written, so a quoted text is
the quoted form of one text only. -/

namespace SqlSchema.Text

/-! ## Characters by number -/

def hexNumberValue (digits : List Char) : Nat :=
  digits.foldl (fun n c => 16 * n + (hexValue? c).getD 0) 0

theorem digitChar_eq_hexDigit : ∀ n < 16, n.digitChar = hexDigit n := by
  decide

theorem hexDigit_ne_brace : ∀ n < 16, hexDigit n ≠ '\x7d' := by
  decide

theorem hexNumberValue_toDigits (n : Nat) : hexNumberValue (Nat.toDigits 16 n) = n := by
  induction n using Nat.strongRecOn with
  | ind n ih =>
      by_cases h : n < 16
      · rw [Nat.toDigits_of_lt_base h, digitChar_eq_hexDigit n h]
        simp [hexNumberValue, hexValue?_hexDigit n h]
      · have hlast : n % 16 < 16 := Nat.mod_lt n (by decide)
        have hothers := ih (n / 16) (by omega)
        rw [Nat.toDigits_of_base_le (by decide) (by omega), digitChar_eq_hexDigit _ hlast]
        rw [hexNumberValue] at hothers ⊢
        rw [List.foldl_append, hothers]
        simp only [List.foldl_cons, List.foldl_nil, hexValue?_hexDigit _ hlast, Option.getD_some]
        omega

theorem brace_notMem_toDigits (n : Nat) : '\x7d' ∉ Nat.toDigits 16 n := by
  induction n using Nat.strongRecOn with
  | ind n ih =>
      by_cases h : n < 16
      · rw [Nat.toDigits_of_lt_base h, digitChar_eq_hexDigit n h, List.mem_singleton]
        exact (hexDigit_ne_brace n h).symm
      · have hlast : n % 16 < 16 := Nat.mod_lt n (by decide)
        rw [Nat.toDigits_of_base_le (by decide) (by omega), digitChar_eq_hexDigit _ hlast,
          List.mem_append, List.mem_singleton, not_or]
        exact ⟨ih (n / 16) (by omega), (hexDigit_ne_brace _ hlast).symm⟩

/-! ## Characters between quotes -/

/-- The character at the head of what stands between double quotes, and what follows it. -/
def readQuotedChar : List Char → Option (Char × List Char)
  | [] => none
  | '\\' :: '0' :: rest => some ('\x00', rest)
  | '\\' :: 't' :: rest => some ('\t', rest)
  | '\\' :: 'r' :: rest => some ('\r', rest)
  | '\\' :: 'n' :: rest => some ('\n', rest)
  | '\\' :: 'u' :: '\x7b' :: rest =>
    let digits := rest.takeWhile (· != '\x7d')
    some (Char.ofNat (hexNumberValue digits), (rest.dropWhile (· != '\x7d')).drop 1)
  | '\\' :: c :: rest => some (c, rest)
  | c :: rest => some (c, rest)

theorem readQuotedChar_numbered (c : Char) (rest : List Char) :
    readQuotedChar (numbered c ++ rest) = some (c, rest) := by
  have hdigits : ∀ d ∈ Nat.toDigits 16 c.toNat, (d != '\x7d') = true := by
    intro d hd
    simp only [bne_iff_ne, ne_eq]
    rintro rfl
    exact brace_notMem_toDigits c.toNat hd
  have hwritten : numbered c ++ rest =
      '\\' :: 'u' :: '\x7b' :: (Nat.toDigits 16 c.toNat ++ '\x7d' :: rest) := by
    simp [numbered, hexNumber]
  rw [hwritten, readQuotedChar]
  simp [List.takeWhile_append_of_pos hdigits, List.dropWhile_append_of_pos hdigits,
    hexNumberValue_toDigits, Char.ofNat_toNat]

theorem readQuotedChar_plain {c : Char} (h : c ≠ '\\') (rest : List Char) :
    readQuotedChar (c :: rest) = some (c, rest) := by
  unfold readQuotedChar
  split <;> simp_all

theorem readQuotedChar_quotedChar (c : Char) (rest : List Char) :
    readQuotedChar (quotedChar c ++ rest) = some (c, rest) := by
  unfold quotedChar
  split_ifs with hnull htab hreturn hline hmark hprintable
  · obtain rfl := eq_of_beq hnull
    rfl
  · obtain rfl := eq_of_beq htab
    rfl
  · obtain rfl := eq_of_beq hreturn
    rfl
  · obtain rfl := eq_of_beq hline
    rfl
  · rcases (Bool.or_eq_true _ _).mp hmark with hquote | hbackslash
    · obtain rfl := eq_of_beq hquote
      rfl
    · obtain rfl := eq_of_beq hbackslash
      rfl
  · refine readQuotedChar_plain ?_ rest
    rintro rfl
    exact hmark (by decide)
  · exact readQuotedChar_numbered c rest

theorem flatMap_quotedChar_inj {cs ds : List Char} :
    cs.flatMap quotedChar = ds.flatMap quotedChar ↔ cs = ds := by
  refine ⟨fun h => ?_, fun h => by rw [h]⟩
  induction cs generalizing ds with
  | nil =>
      cases ds with
      | nil => rfl
      | cons d ds =>
          have hread := congrArg readQuotedChar h
          rw [List.flatMap_cons, readQuotedChar_quotedChar] at hread
          cases hread
  | cons c cs ih =>
      have hread := congrArg readQuotedChar h
      rw [List.flatMap_cons, readQuotedChar_quotedChar] at hread
      cases ds with
      | nil => cases hread
      | cons d ds =>
          rw [List.flatMap_cons, readQuotedChar_quotedChar, Option.some.injEq,
            Prod.mk.injEq] at hread
          rw [hread.1, ih hread.2]

theorem quoted_inj {s t : String} : quoted s = quoted t ↔ s = t := by
  rw [quoted, quoted, String.ofList_inj, List.append_cancel_right_eq, List.cons.injEq,
    flatMap_quotedChar_inj, String.toList_inj]
  exact and_iff_right rfl

end SqlSchema.Text
