import Mathlib.Data.List.Forall2
import SqlSchema.Proofs.Text.Blank
import SqlSchema.Text.Case

/-! # Lower-case forms

A text is lowered piece by piece. A capital sigma at the end of a word may also become the final
one; no comparison with a text that holds no sigma notices. -/

namespace SqlSchema.Text

theorem toList_lower (s : String) : (lower s).toList = s.toList.flatMap lowerChar :=
  String.toList_ofList

theorem lower_append (s t : String) : lower (s ++ t) = lower s ++ lower t := by
  rw [← String.toList_inj, String.toList_append, toList_lower, toList_lower, toList_lower,
    String.toList_append, List.flatMap_append]

/-! ## The two small sigmas -/

/-- A lower-case form of a text. A capital sigma becomes one of the two small ones. -/
inductive LowerForm : List Char → List Char → Prop
  | nil : LowerForm [] []
  | cons (c : Char) {cs ds : List Char} (h : LowerForm cs ds) :
      LowerForm (c :: cs) (lowerChar c ++ ds)
  | finalSigma {cs ds : List Char} (h : LowerForm cs ds) : LowerForm ('Σ' :: cs) ('ς' :: ds)

/-- The same character, or the plain small sigma and the final one. -/
def SameButSigma (c d : Char) : Prop :=
  c = d ∨ c = 'σ' ∧ d = 'ς'

/-- The lower case of a text is the form with plain sigmas. -/
theorem lowerForm_lower (s : String) : LowerForm s.toList (lower s).toList := by
  rw [toList_lower]
  induction s.toList with
  | nil => exact .nil
  | cons c cs ih => exact .cons c ih

theorem LowerForm.sameButSigma {cs ds : List Char} (h : LowerForm cs ds) :
    List.Forall₂ SameButSigma (cs.flatMap lowerChar) ds := by
  induction h with
  | nil => exact .nil
  | cons c _ ih =>
      rw [List.flatMap_cons]
      exact List.rel_append (List.forall₂_same.mpr fun d _ => .inl rfl) ih
  | finalSigma _ ih => exact .cons (.inr ⟨by decide, rfl⟩) ih

theorem SameButSigma.isBlankChar_eq {c d : Char} (h : SameButSigma c d) :
    isBlankChar c = isBlankChar d := by
  rcases h with rfl | ⟨rfl, rfl⟩
  · rfl
  · decide

theorem dropBlanks_sameButSigma {cs ds : List Char} (h : List.Forall₂ SameButSigma cs ds) :
    List.Forall₂ SameButSigma (dropBlanks cs) (dropBlanks ds) := by
  induction h with
  | nil => exact .nil
  | @cons c d cs ds hcd hrest ih =>
      rw [dropBlanks, dropBlanks, List.dropWhile_cons, List.dropWhile_cons, ← hcd.isBlankChar_eq]
      split
      · exact ih
      · exact .cons hcd hrest

theorem isPrefixOf_eq_of_sameButSigma {start cs ds : List Char}
    (hstart : ∀ c ∈ start, c ≠ 'σ' ∧ c ≠ 'ς') (h : List.Forall₂ SameButSigma cs ds) :
    start.isPrefixOf cs = start.isPrefixOf ds := by
  induction h generalizing start with
  | nil => rfl
  | @cons c d cs ds hcd _ ih =>
      cases start with
      | nil => rfl
      | cons first start =>
          obtain ⟨hfirst, hothers⟩ := List.forall_mem_cons.mp hstart
          rw [List.isPrefixOf_cons_cons, List.isPrefixOf_cons_cons, ih hothers]
          rcases hcd with rfl | ⟨rfl, rfl⟩
          · rfl
          · rw [beq_false_of_ne hfirst.1, beq_false_of_ne hfirst.2]

/-! ## ASCII

Lower case keeps ASCII apart: but for the dotted capital I and the Kelvin sign, only ASCII characters
have ASCII characters in their lower-case forms. -/

theorem forall_ascii {P : Char → Prop} (h : ∀ n : Fin 128, P (Char.ofNat n)) {c : Char}
    (hc : c.toNat < 128) : P c := by
  simpa only [Char.ofNat_toNat] using h ⟨c.toNat, hc⟩

theorem eq_of_toNat_eq {c d : Char} (h : c.toNat = d.toNat) : c = d := by
  rw [← Char.ofNat_toNat c, h, Char.ofNat_toNat]

/-- The capitals A to Z stand first in the table. -/
def asciiRun : ShiftRun :=
  ⟨0x41, 0x5A, 1, 32⟩

theorem shifted?_caseRuns_of_ascii {n : Nat} (h : n < 128) :
    shifted? caseRuns n = shifted? [asciiRun] n := by
  have hbeyond : ∀ r ∈ caseRuns.tail, 128 ≤ r.first := by decide +kernel
  have hnone : caseRuns.tail.find? (·.holds n) = none := by
    refine List.find?_eq_none.mpr fun r hr hholds => ?_
    have hfirst := hbeyond r hr
    simp only [ShiftRun.holds, Bool.and_eq_true, decide_eq_true_eq] at hholds
    omega
  have hruns : [asciiRun] ++ caseRuns.tail = caseRuns := rfl
  rw [shifted?, shifted?, ← hruns, List.find?_append, hnone, Option.or_none]

theorem lowerChar_of_ascii {c : Char} (h : c.toNat < 128) : lowerChar c = [c.toLower] := by
  have hcode : c.toNat ≠ 0x130 := by omega
  rw [lowerChar, if_neg hcode, shifted?_caseRuns_of_ascii h]
  have hsmall : (shifted? [asciiRun] c.toNat).getD c.toNat = c.toLower.toNat := by
    refine forall_ascii
      (P := fun c => (shifted? [asciiRun] c.toNat).getD c.toNat = c.toLower.toNat) ?_ h
    decide +kernel
  split
  next n hshifted =>
    rw [hshifted, Option.getD_some] at hsmall
    rw [hsmall, Char.ofNat_toNat]
  next hplain =>
    rw [hplain, Option.getD_none] at hsmall
    rw [← eq_of_toNat_eq hsmall]

/-- A run whose capitals and small letters are characters beyond ASCII. -/
def ShiftRun.IsBeyondAscii (r : ShiftRun) : Prop :=
  128 ≤ r.first + r.shift ∧
    (r.last + r.shift < 0xD800 ∨ 0xDFFF < r.first + r.shift ∧ r.last + r.shift < 0x110000)

instance (r : ShiftRun) : Decidable r.IsBeyondAscii :=
  inferInstanceAs (Decidable (_ ∧ _))

/-- The runs of the table are A to Z, the Kelvin sign, and others beyond ASCII. -/
theorem mem_caseRuns {r : ShiftRun} (h : r ∈ caseRuns) :
    r = asciiRun ∨ r = ⟨0x212A, 0x212A, 1, -8383⟩ ∨ r.IsBeyondAscii := by
  have hall : ∀ r ∈ caseRuns,
      r = asciiRun ∨ r = ⟨0x212A, 0x212A, 1, -8383⟩ ∨ r.IsBeyondAscii := by
    decide +kernel
  exact hall r h

theorem exists_of_shifted? {runs : List ShiftRun} {n m : Nat} (h : shifted? runs n = some m) :
    ∃ r ∈ runs, r.first ≤ n ∧ n ≤ r.last ∧ m = ((n : Int) + r.shift).toNat := by
  obtain ⟨r, hfound, rfl⟩ := Option.map_eq_some_iff.mp h
  have hholds := List.find?_some hfound
  simp only [ShiftRun.holds, Bool.and_eq_true, decide_eq_true_eq] at hholds
  exact ⟨r, List.mem_of_find?_eq_some hfound, hholds.1.1, hholds.1.2, rfl⟩

theorem toNat_ofNat {n : Nat} (h : n.isValidChar) : (Char.ofNat n).toNat = n := by
  rw [Char.ofNat, dif_pos h]
  rfl

theorem lowerChar_dotted : lowerChar '\u0130' = ['i', '\u0307'] :=
  rfl

theorem lowerChar_kelvin : lowerChar '\u212A' = ['k'] := by
  decide +kernel

theorem exists_lowerChar_eq {c : Char} (h : c ≠ '\u0130') : ∃ x, lowerChar c = [x] := by
  have hcode : c.toNat ≠ 0x130 := fun hcode => h (eq_of_toNat_eq hcode)
  rw [lowerChar, if_neg hcode]
  split <;> exact ⟨_, rfl⟩

theorem lowerChar_ne_nil (c : Char) : lowerChar c ≠ [] := by
  by_cases hdotted : c = '\u0130'
  · rw [hdotted, lowerChar_dotted]
    exact List.cons_ne_nil _ _
  · obtain ⟨x, hx⟩ := exists_lowerChar_eq hdotted
    rw [hx]
    exact List.cons_ne_nil x []

/-- An ASCII character of a lower-case form is the form of an ASCII character, of the dotted capital
I or of the Kelvin sign. -/
theorem ascii_of_mem_lowerChar {c d : Char} (hmem : d ∈ lowerChar c) (hd : d.toNat < 128) :
    c.toNat < 128 ∨ c = '\u0130' ∨ c = '\u212A' := by
  unfold lowerChar at hmem
  split at hmem
  next hdotted => exact .inr (.inl (eq_of_toNat_eq hdotted))
  next hdotted =>
    split at hmem
    next n hshifted =>
      obtain rfl := List.mem_singleton.mp hmem
      obtain ⟨r, hr, hfirst, hlast, hn⟩ := exists_of_shifted? hshifted
      rcases mem_caseRuns hr with rfl | rfl | ⟨hbeyond, hvalid⟩
      · exact .inl (Nat.lt_of_le_of_lt hlast (by decide))
      · exact .inr (.inr (eq_of_toNat_eq (Nat.le_antisymm hlast hfirst)))
      · rw [toNat_ofNat (by unfold Nat.isValidChar; omega)] at hd
        omega
    next hplain =>
      obtain rfl := List.mem_singleton.mp hmem
      exact .inl hd

/-! ## Texts -/

theorem flatMap_lowerChar_eq_map {f : Char → Char} {cs : List Char}
    (h : ∀ c ∈ cs, lowerChar c = [f c]) : cs.flatMap lowerChar = cs.map f := by
  induction cs with
  | nil => rfl
  | cons c cs ih =>
      obtain ⟨hc, hcs⟩ := List.forall_mem_cons.mp h
      rw [List.flatMap_cons, hc, ih hcs, List.map_cons, List.singleton_append]

theorem lowerChar_of_blank {c : Char} (h : isBlankChar c = true) : lowerChar c = [c] := by
  have hall : ∀ n ∈ [0x9, 0xA, 0xB, 0xC, 0xD, 0x20, 0x85, 0xA0, 0x1680, 0x2000, 0x2001, 0x2002,
      0x2003, 0x2004, 0x2005, 0x2006, 0x2007, 0x2008, 0x2009, 0x200A, 0x2028, 0x2029, 0x202F,
      0x205F, 0x3000], lowerChar (Char.ofNat n) = [Char.ofNat n] := by
    decide +kernel
  have hcode := hall c.toNat
  rw [Char.ofNat_toNat] at hcode
  apply hcode
  simp [isBlankChar] at h ⊢
  omega

/-- Blanks are dropped before or after a text is lowered. -/
theorem dropBlanks_lower (cs : List Char) :
    dropBlanks (cs.flatMap lowerChar) = dropBlanks ((dropBlanks cs).flatMap lowerChar) := by
  have hblank : ∀ c ∈ cs.takeWhile isBlankChar, isBlankChar c = true := fun c hc =>
    List.mem_takeWhile_imp hc
  have hkept : (cs.takeWhile isBlankChar).flatMap lowerChar = cs.takeWhile isBlankChar := by
    have hsame := flatMap_lowerChar_eq_map fun c hc => lowerChar_of_blank (hblank c hc)
    exact hsame.trans (List.map_id' _)
  have hsplit : cs.takeWhile isBlankChar ++ dropBlanks cs = cs := List.takeWhile_append_dropWhile
  calc dropBlanks (cs.flatMap lowerChar)
      = dropBlanks ((cs.takeWhile isBlankChar ++ dropBlanks cs).flatMap lowerChar) := by
        rw [hsplit]
    _ = dropBlanks ((dropBlanks cs).flatMap lowerChar) := by
        rw [List.flatMap_append, hkept, dropBlanks_append_of_blank hblank]

end SqlSchema.Text
