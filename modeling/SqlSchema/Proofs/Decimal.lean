import SqlSchema.Decimal
import SqlSchema.Proofs.Number.Digits

/-! # Decimal numbers read back

The written form of a decimal number spells its coefficient and its scale. Its sign is read back
too, but not that of a zero. A number of any length is read too, its last digits rounded away, as
long as its whole part is within the limit. -/

namespace SqlSchema

open SqlSchema.Number

namespace Decimal

def withoutZeroSign (d : Decimal) : Decimal :=
  { d with negative := d.negative && d.coefficient != 0 }

theorem withoutZeroSign_eq_iff (d : Decimal) :
    d.withoutZeroSign = d ↔ ¬(d.negative = true ∧ d.coefficient = 0) := by
  obtain ⟨negative, coefficient, scale, hcoefficient, hscale⟩ := d
  cases negative <;> simp [withoutZeroSign]

/-! ## Digits under way -/

namespace Reading

/-- The reading behind a digit that the coefficient has room for. -/
def behind (r : Reading) (c : Char) (h : 10 * r.coefficient + (c.toNat - 48) < coefficientLimit) :
    Reading :=
  { r with
    started := true
    afterDigit := true
    long := longFrom ≤ r.coefficient
    coefficient := 10 * r.coefficient + (c.toNat - 48)
    scale := if r.point then r.scale + 1 else r.scale
    coefficient_lt := h }

/-- A digit is taken where the scale has room for it too. -/
theorem run_digit {r : Reading} {c : Char} (hc : isDigit c = true)
    (hlimit : 10 * r.coefficient + (c.toNat - 48) < coefficientLimit)
    (hroom : r.point = true → r.scale < scaleLimit) (rest : List Char) :
    r.run (c :: rest) = (r.behind c hlimit).run rest := by
  have hfull : r.isFull c = false := by
    cases hpoint : r.point with
    | false => simp [isFull, hpoint]
    | true => simp [isFull, hpoint, Nat.not_le.mpr (hroom hpoint)]
  rw [run, hfull, if_neg Bool.false_ne_true, if_pos hc]
  simp only [hlimit, dif_pos]
  rfl

/-- A reading that has gone on over digits, each of which was taken into the coefficient. -/
structure Reads (r : Reading) (digits : List Char) (after : Reading) : Prop where
  negative : after.negative = r.negative
  point : after.point = r.point
  started : after.started = (r.started || !digits.isEmpty)
  coefficient : after.coefficient = digitsValue r.coefficient digits
  scale : after.scale = if r.point then r.scale + digits.length else r.scale

theorem Reads.cons {r after : Reading} {c : Char} {cs : List Char}
    {hlimit : 10 * r.coefficient + (c.toNat - 48) < coefficientLimit}
    (h : (r.behind c hlimit).Reads cs after) : r.Reads (c :: cs) after where
  negative := h.negative
  point := h.point
  started := by simp [h.started, behind]
  coefficient := h.coefficient
  scale := by
    rw [h.scale]
    cases hpoint : r.point
    · simp [behind, hpoint]
    · simp [behind, hpoint, Nat.add_comm, Nat.add_left_comm]

/-- Digits are all taken where the coefficient and the scale have room for them. -/
theorem run_digits {cs : List Char} (hcs : AllDigits cs) (r : Reading)
    (hlimit : digitsValue r.coefficient cs < coefficientLimit)
    (hroom : r.point = true → r.scale + cs.length ≤ scaleLimit) (rest : List Char) :
    ∃ after, r.Reads cs after ∧ r.run (cs ++ rest) = after.run rest := by
  induction cs generalizing r with
  | nil => exact ⟨r, ⟨rfl, rfl, by simp, rfl, by simp⟩, rfl⟩
  | cons c cs ih =>
      simp only [List.length_cons] at hroom
      have hnext : 10 * r.coefficient + (c.toNat - 48) < coefficientLimit :=
        Nat.lt_of_le_of_lt (le_digitsValue _ cs) hlimit
      have hroom' : (r.behind c hnext).point = true →
          (r.behind c hnext).scale + cs.length ≤ scaleLimit := by
        intro hpoint
        have hle := hroom hpoint
        have hscale : (r.behind c hnext).scale = r.scale + 1 := if_pos hpoint
        omega
      obtain ⟨after, hreads, hrun⟩ :=
        ih (fun d hd => hcs d (List.mem_cons_of_mem c hd)) (r.behind c hnext) hlimit hroom'
      refine ⟨after, hreads.cons, ?_⟩
      rw [List.cons_append, run_digit (hcs c List.mem_cons_self) hnext (by
        intro hpoint
        have hle := hroom hpoint
        omega), hrun]

theorem run_nil {r : Reading} (h : r.started = true) : r.run [] = .ok r.finish := by
  rw [run, if_pos h]

theorem run_point {r : Reading} (h : r.point = false) (rest : List Char) :
    r.run ('.' :: rest) = { r with point := true, afterDigit := false : Reading }.run rest := by
  rw [run]
  simp [isFull, h, isDigit]

end Reading

/-! ## Written forms -/

/-- Digits with a point before the last places are digits on both sides of it, as many behind it as
there are places, that spell the same number; without places there is no point. -/
theorem exists_withPoint (places n : Nat) :
    ∃ whole fraction,
      withPoint (Nat.toDigits 10 n) places =
          whole ++ (if places = 0 then [] else '.' :: fraction)
        ∧ AllDigits whole ∧ whole ≠ [] ∧ AllDigits fraction ∧ fraction.length = places
        ∧ digitsValue 0 (whole ++ fraction) = n := by
  by_cases hplaces : places = 0
  · refine ⟨Nat.toDigits 10 n, [], ?_, allDigits_toDigits n, toDigits_ne_nil n, ?_, ?_, ?_⟩
    · simp [withPoint, hplaces]
    · rintro c ⟨⟩
    · exact hplaces.symm
    · rw [List.append_nil, digitsValue_toDigits]
  · let digits := List.replicate (places + 1 - (Nat.toDigits 10 n).length) '0' ++ Nat.toDigits 10 n
    have hdigits : AllDigits digits := (allDigits_replicate _).append (allDigits_toDigits n)
    have hlength : places < digits.length := by
      simp only [digits, List.length_append, List.length_replicate]
      omega
    refine ⟨digits.take (digits.length - places), digits.drop (digits.length - places), ?_, ?_, ?_,
      ?_, ?_, ?_⟩
    · rw [withPoint, if_neg hplaces, if_neg hplaces]
    · exact fun c hc => hdigits c (List.mem_of_mem_take hc)
    · intro hnil
      have hzero := congrArg List.length hnil
      rw [List.length_take, List.length_nil] at hzero
      omega
    · exact fun c hc => hdigits c (List.mem_of_mem_drop hc)
    · rw [List.length_drop]
      omega
    · rw [List.take_append_drop]
      exact digitsValue_zeros_toDigits _ n

def unsigned (d : Decimal) : List Char :=
  withPoint (Nat.toDigits 10 d.coefficient) d.scale

theorem toList_text (d : Decimal) :
    d.text.toList = (if d.negative then ['-'] else []) ++ d.unsigned := by
  have hsign : (if d.negative then "-" else "").toList = if d.negative then ['-'] else [] := by
    cases d.negative <;> rfl
  have hdigits : (Digits.positional ⟨d.coefficient, -(d.scale : Int)⟩).toList = d.unsigned := by
    by_cases hscale : d.scale = 0
    · by_cases hcoefficient : d.coefficient = 0
      · simp [Digits.positional, unsigned, withPoint, hscale, hcoefficient]
      · simp [Digits.positional, unsigned, withPoint, hscale, hcoefficient]
    · simp [Digits.positional, unsigned, hscale]
  rw [text, String.toList_append, hsign, hdigits]

theorem exists_unsigned_eq_cons (d : Decimal) :
    ∃ c cs, isDigit c = true ∧ d.unsigned = c :: cs := by
  obtain ⟨whole, fraction, htext, hwhole, hne, -⟩ := exists_withPoint d.scale d.coefficient
  obtain ⟨c, cs, rfl⟩ := List.exists_cons_of_ne_nil hne
  exact ⟨c, _, hwhole c List.mem_cons_self, htext⟩

theorem run_unsigned (d : Decimal) (negative : Bool) :
    ({ negative := negative : Reading }).run d.unsigned =
      .ok { d with negative := negative && d.coefficient != 0 } := by
  obtain ⟨whole, fraction, htext, hwhole, hne, hfraction, hlength, hvalue⟩ :=
    exists_withPoint d.scale d.coefficient
  have hlimit : digitsValue (digitsValue 0 whole) fraction < coefficientLimit := by
    rw [← digitsValue_append, hvalue]
    exact d.coefficient_lt
  obtain ⟨before, hbefore, hrun⟩ := Reading.run_digits hwhole { negative := negative }
    (Nat.lt_of_le_of_lt (le_digitsValue _ fraction) hlimit) (by rintro ⟨⟩)
    (if d.scale = 0 then [] else '.' :: fraction)
  have hstarted : before.started = true := by
    simp [hbefore.started, hne]
  rw [unsigned, htext, hrun]
  by_cases hplaces : d.scale = 0
  · obtain rfl : fraction = [] := List.eq_nil_of_length_eq_zero (hlength.trans hplaces)
    rw [List.append_nil] at hvalue
    rw [if_pos hplaces, Reading.run_nil hstarted]
    simp [Reading.finish, hbefore.negative, hbefore.coefficient, hbefore.scale, hvalue, hplaces]
  · obtain ⟨after, hafter, hrun'⟩ := Reading.run_digits hfraction
      { before with point := true, afterDigit := false }
      (by rw [hbefore.coefficient]; exact hlimit)
      (by rw [hbefore.scale]; simp [hlength, d.scale_le]) []
    have hscale : d.scale % (scaleLimit + 1) = d.scale :=
      Nat.mod_eq_of_lt (Nat.lt_succ_of_le d.scale_le)
    rw [List.append_nil] at hrun'
    rw [if_neg hplaces, Reading.run_point hbefore.point, hrun',
      Reading.run_nil (by simp [hafter.started, hstarted])]
    simp [Reading.finish, hafter.negative, hafter.coefficient, hafter.scale, hbefore.negative,
      hbefore.coefficient, hbefore.scale, hlength, hscale, ← digitsValue_append, hvalue]

/-- A number is read back, its scale included, but for the sign of a zero. -/
theorem ofText?_text (d : Decimal) : ofText? d.text = some d.withoutZeroSign := by
  have hread : readPlain d.text.toList = .ok d.withoutZeroSign := by
    rw [toList_text]
    obtain ⟨c, cs, hc, hunsigned⟩ := d.exists_unsigned_eq_cons
    have hrun := d.run_unsigned d.negative
    rw [hunsigned] at hrun ⊢
    cases hnegative : d.negative with
    | false =>
        rw [hnegative] at hrun
        simp [readPlain, takeSign_of_isDigit hc, hrun, withoutZeroSign, hnegative]
    | true =>
        rw [hnegative] at hrun
        simp [readPlain, takeSign, hrun, withoutZeroSign, hnegative]
  rw [ofText?, ofPlainText, hread]

/-! ## Any number of digits -/

/-- What digits that are rounded away add to the number before them: a half and more go up. -/
def carry : List Char → Nat
  | [] => 0
  | c :: _ => if c.toNat - 48 < 5 then 0 else 1

namespace Reading

theorem exists_roundUp_iff {r : Reading} :
    (∃ d, r.roundUp = .ok d) ↔ r.coefficient + 1 < coefficientLimit ∨ r.scale ≠ 0 := by
  unfold roundUp
  by_cases hlimit : r.coefficient + 1 < coefficientLimit
  · simp [hlimit]
  · by_cases hscale : r.scale = 0
    · simp [hlimit, hscale]
    · simp [hlimit, hscale]

/-- Rounding fails where it goes up past the limit and there is no place to give up. -/
theorem exists_round_iff {r : Reading} {c : Char} {cs : List Char} (hcs : AllDigits (c :: cs)) :
    (∃ d, r.round c cs = .ok d) ↔
      r.coefficient + carry (c :: cs) < coefficientLimit ∨ r.scale ≠ 0 := by
  have hfind : (c :: cs).find? (fun c => !(isDigit c || c == '_')) = none := by
    rw [List.find?_eq_none]
    intro d hd
    simp [hcs d hd]
  have hline : c ≠ '_' := ne_of_isDigit (hcs c List.mem_cons_self) (by decide)
  rw [round, hfind]
  dsimp only
  rw [carry]
  by_cases hdown : c.toNat - 48 < 5
  · simp [hdown, r.coefficient_lt]
  · simp [hdown, hline, exists_roundUp_iff]

/-- Behind the point digits are taken as long as there is room, and the rest is rounded away. -/
theorem exists_run_fraction_iff {cs : List Char} (hcs : AllDigits cs) {r : Reading}
    (hpoint : r.point = true) (hstarted : r.started = true) :
    (∃ d, r.run cs = .ok d) ↔ r.coefficient + carry cs < coefficientLimit ∨ r.scale ≠ 0 := by
  induction cs generalizing r with
  | nil => simp [run, hstarted, carry, r.coefficient_lt]
  | cons c cs ih =>
      rw [run]
      by_cases hfull : r.isFull c = true
      · rw [if_pos hfull, exists_round_iff hcs]
      · rw [if_neg hfull, if_pos (hcs c List.mem_cons_self)]
        dsimp only
        by_cases hnext : 10 * r.coefficient + (c.toNat - 48) < coefficientLimit
        · rw [dif_pos hnext]
          have hbehind : (∃ d, (r.behind c hnext).run cs = .ok d) ↔ _ :=
            ih (fun d hd => hcs d (List.mem_cons_of_mem c hd)) hpoint rfl
          have hscale : (r.behind c hnext).scale = r.scale + 1 := if_pos hpoint
          have hlimit : 1 < coefficientLimit := by decide
          have hcarry : carry (c :: cs) ≤ 1 := by
            rw [carry]
            split <;> omega
          refine hbehind.trans (iff_of_true (.inr ?_) (.inl ?_))
          · rw [hscale]
            exact Nat.succ_ne_zero _
          · omega
        · rw [dif_neg hnext, if_pos hpoint, exists_round_iff hcs]

/-- Before the point digits past the limit are a fault. -/
theorem run_tooMany {cs : List Char} (hcs : AllDigits cs) {r : Reading} (hpoint : r.point = false)
    (hlimit : coefficientLimit ≤ digitsValue r.coefficient cs) (rest : List Char) :
    r.run (cs ++ rest) = .error .tooManyDigits := by
  induction cs generalizing r with
  | nil => exact absurd r.coefficient_lt (Nat.not_lt.mpr hlimit)
  | cons c cs ih =>
      have hfull : ¬r.isFull c = true := by simp [isFull, hpoint]
      rw [List.cons_append, run, if_neg hfull, if_pos (hcs c List.mem_cons_self)]
      dsimp only
      by_cases hnext : 10 * r.coefficient + (c.toNat - 48) < coefficientLimit
      · rw [dif_pos hnext]
        exact ih (fun d hd => hcs d (List.mem_cons_of_mem c hd)) hpoint hlimit
      · rw [dif_neg hnext, if_neg (by simp [hpoint])]

end Reading

/-- A number as it is written: a sign, the digits before the point, of which there is one at least,
and those behind it, of which there are none without a point. -/
structure Numeral where
  negative : Bool
  whole : List Char
  fraction : List Char
  whole_digits : AllDigits whole
  whole_ne : whole ≠ []
  fraction_digits : AllDigits fraction

def Numeral.chars (n : Numeral) : List Char :=
  (if n.negative then ['-'] else []) ++
    (n.whole ++ if n.fraction = [] then [] else '.' :: n.fraction)

/-- A written number is read, its last digits rounded away if they are too many, unless it is past
the limit when it is rounded to a whole number. -/
theorem exists_readPlain_iff (n : Numeral) :
    (∃ d, readPlain n.chars = .ok d) ↔
      digitsValue 0 n.whole + carry n.fraction < coefficientLimit := by
  obtain ⟨negative, whole, fraction, hwhole, hne, hfraction⟩ := n
  obtain ⟨c, cs, rfl⟩ := List.exists_cons_of_ne_nil hne
  have hbody : readPlain (Numeral.chars ⟨negative, c :: cs, fraction, hwhole, hne, hfraction⟩) =
      ({ negative := negative : Reading }).run
        (c :: cs ++ if fraction = [] then [] else '.' :: fraction) := by
    cases negative with
    | true => simp [readPlain, Numeral.chars, takeSign]
    | false =>
        simp [readPlain, Numeral.chars, takeSign_of_isDigit (hwhole c List.mem_cons_self)]
  rw [hbody]
  dsimp only
  by_cases hlimit : digitsValue 0 (c :: cs) < coefficientLimit
  · obtain ⟨after, hafter, hrun⟩ := Reading.run_digits hwhole { negative := negative } hlimit
      nofun (if fraction = [] then [] else '.' :: fraction)
    have hstarted : after.started = true := by simp [hafter.started]
    rw [hrun]
    split
    · rename_i hnil
      rw [Reading.run_nil hstarted, hnil]
      simpa [carry] using hlimit
    · have hscale : after.scale = 0 := hafter.scale
      rw [Reading.run_point hafter.point]
      refine (Reading.exists_run_fraction_iff hfraction
        (r := { after with point := true, afterDigit := false }) rfl hstarted).trans ?_
      dsimp only
      rw [hafter.coefficient, or_iff_left (by simp [hscale])]
  · rw [Reading.run_tooMany hwhole rfl (Nat.not_lt.mp hlimit)]
    refine iff_of_false nofun ?_
    omega

end Decimal

end SqlSchema
