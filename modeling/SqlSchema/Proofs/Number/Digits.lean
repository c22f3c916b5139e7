import SqlSchema.Number.Reader

/-! # Decimal digits read back

The digits that a number is written with spell that number, and zeros in front change nothing. -/

namespace SqlSchema.Number

/-! ## Characters -/

def AllDigits (cs : List Char) : Prop :=
  ∀ c ∈ cs, isDigit c = true

/-- What does not begin with a digit, so that digits before it end there. -/
def NoDigitHead (cs : List Char) : Prop :=
  ∀ c ∈ cs.head?, isDigit c = false

theorem isDigit_iff (c : Char) : isDigit c = true ↔ 48 ≤ c.toNat ∧ c.toNat ≤ 57 := by
  simp [isDigit]

theorem isDigit_eq (c : Char) : isDigit c = c.isDigit := by
  rfl

theorem ne_of_isDigit {c d : Char} (hc : isDigit c = true) (hd : isDigit d = false) : c ≠ d := by
  rintro rfl
  rw [hc] at hd
  cases hd

theorem takeSign_of_isDigit {c : Char} (hc : isDigit c = true) (cs : List Char) :
    takeSign (c :: cs) = (false, c :: cs) := by
  unfold takeSign
  split
  next h =>
    exact absurd (List.cons.inj h).1 (ne_of_isDigit hc (by decide))
  next h =>
    exact absurd (List.cons.inj h).1 (ne_of_isDigit hc (by decide))
  next => rfl

theorem AllDigits.append {cs more : List Char} (h : AllDigits cs) (hmore : AllDigits more) :
    AllDigits (cs ++ more) := by
  intro c hc
  rcases List.mem_append.mp hc with hc | hc
  · exact h c hc
  · exact hmore c hc

theorem allDigits_replicate (n : Nat) : AllDigits (List.replicate n '0') := by
  intro c hc
  obtain rfl := List.eq_of_mem_replicate hc
  decide

theorem allDigits_toDigits (n : Nat) : AllDigits (Nat.toDigits 10 n) := by
  intro c hc
  rw [isDigit_eq]
  exact Nat.isDigit_of_mem_toDigits (by decide) (by decide) hc

theorem toDigits_ne_nil (n : Nat) : Nat.toDigits 10 n ≠ [] := by
  intro h
  have hlength := Nat.length_toDigits_pos (b := 10) (n := n)
  rw [h] at hlength
  cases hlength

theorem exists_toDigits_eq_cons (n : Nat) :
    ∃ c cs, Nat.toDigits 10 n = c :: cs ∧ isDigit c = true := by
  obtain ⟨c, cs, hdigits⟩ := List.exists_cons_of_ne_nil (toDigits_ne_nil n)
  refine ⟨c, cs, hdigits, allDigits_toDigits n c ?_⟩
  rw [hdigits]
  exact List.mem_cons_self

theorem noDigitHead_nil : NoDigitHead [] := by
  rintro c ⟨⟩

theorem noDigitHead_cons {c : Char} (h : isDigit c = false) (cs : List Char) :
    NoDigitHead (c :: cs) := by
  rintro d ⟨⟩
  exact h

theorem dropWhile_noDigitHead {cs : List Char} (h : NoDigitHead cs) :
    cs.dropWhile isDigit = cs := by
  cases cs with
  | nil => rfl
  | cons c cs => rw [List.dropWhile_cons_of_neg (by simp [h c rfl])]

theorem takeWhile_noDigitHead {cs : List Char} (h : NoDigitHead cs) :
    cs.takeWhile isDigit = [] := by
  cases cs with
  | nil => rfl
  | cons c cs => rw [List.takeWhile_cons_of_neg (by simp [h c rfl])]

/-! ## Values -/

theorem digitsValue_append (before : Nat) (cs more : List Char) :
    digitsValue before (cs ++ more) = digitsValue (digitsValue before cs) more :=
  List.foldl_append

theorem le_digitsValue (before : Nat) (cs : List Char) : before ≤ digitsValue before cs := by
  induction cs generalizing before with
  | nil => exact Nat.le_refl before
  | cons c cs ih =>
      calc before ≤ 10 * before + (c.toNat - 48) := by omega
        _ ≤ digitsValue before (c :: cs) := ih _

theorem digitsValue_replicate (n : Nat) : digitsValue 0 (List.replicate n '0') = 0 := by
  induction n with
  | zero => rfl
  | succ n ih =>
      rw [List.replicate_succ']
      rw [digitsValue_append, ih]
      rfl

theorem digitsValue_toDigits (n : Nat) : digitsValue 0 (Nat.toDigits 10 n) = n :=
  Nat.ofDigitChars_ten_toDigits

theorem head?_toDigits_ne_zero {n : Nat} (h : n ≠ 0) :
    (Nat.toDigits 10 n).head? ≠ some '0' := by
  induction n using Nat.strongRecOn with
  | ind n ih =>
      by_cases hsmall : n < 10
      · have hall : ∀ m < 10, m ≠ 0 → m.digitChar ≠ '0' := by decide
        rw [Nat.toDigits_of_lt_base hsmall]
        simpa using hall n hsmall h
      · have hfront := ih (n / 10) (by omega) (by omega)
        obtain ⟨c, cs, hdigits⟩ := List.exists_cons_of_ne_nil (toDigits_ne_nil (n / 10))
        rw [hdigits, List.head?_cons] at hfront
        rw [Nat.toDigits_of_base_le (by decide) (by omega), hdigits, List.cons_append,
          List.head?_cons]
        exact hfront

theorem digitsValue_zeros_toDigits (zeros n : Nat) :
    digitsValue 0 (List.replicate zeros '0' ++ Nat.toDigits 10 n) = n := by
  rw [digitsValue_append, digitsValue_replicate, digitsValue_toDigits]

/-! ## Integers -/

/-- The text of an integer: a minus if it is negative, and digits. -/
theorem toList_toString_int (n : Int) :
    (toString n).toList =
      if n < 0 then '-' :: Nat.toDigits 10 n.natAbs else Nat.toDigits 10 n.natAbs := by
  rw [Int.toString_eq_repr, Int.repr_eq_if]
  split
  next hsign =>
    have habs : n.toNat = n.natAbs := by omega
    rw [if_neg (by omega), Nat.toList_repr, habs]
  next hsign =>
    have habs : (-n).toNat = n.natAbs := by omega
    rw [if_pos (by omega), String.toList_append, Nat.toList_repr, habs]
    rfl

theorem isDigit_or_eq_minus_of_mem_toString {n : Int} {c : Char} (h : c ∈ (toString n).toList) :
    isDigit c = true ∨ c = '-' := by
  rw [toList_toString_int] at h
  split at h
  · exact (List.mem_cons.mp h).symm.imp_left (allDigits_toDigits n.natAbs c)
  · exact .inl (allDigits_toDigits n.natAbs c h)

end SqlSchema.Number
