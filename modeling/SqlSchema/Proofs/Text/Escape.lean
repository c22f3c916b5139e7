import SqlSchema.Backend

/-! # Escaped characters

The rule of a backend keeps every character but a few, and writes two characters for each of
those. -/

namespace SqlSchema.Backend

def altered : Backend → List Char
  | .mySql => ['\x00', '\n', '\r', '\\', '\x27', '\x22', '\x1a']
  | .sqlite => ['\x27']

theorem escapeChar_of_notMem {b : Backend} {c : Char} (h : c ∉ b.altered) :
    b.escapeChar c = [c] := by
  cases b with
  | mySql =>
      simp only [altered, List.mem_cons, List.not_mem_nil, or_false, not_or] at h
      simp [escapeChar, backslashed, h]
  | sqlite =>
      have hquote : c ≠ '\x27' := by simpa [altered] using h
      simp [escapeChar, doubled, hquote]

theorem length_escapeChar_of_mem {b : Backend} {c : Char} (h : c ∈ b.altered) :
    (b.escapeChar c).length = 2 := by
  have hall : b.altered.all (fun d => (b.escapeChar d).length == 2) = true := by
    cases b <;> decide
  simpa using List.all_eq_true.mp hall c h

theorem flatMap_escapeChar_of_forall_notMem {b : Backend} {cs : List Char}
    (h : ∀ c ∈ cs, c ∉ b.altered) : cs.flatMap b.escapeChar = cs := by
  induction cs with
  | nil => rfl
  | cons c cs ih =>
      obtain ⟨hc, hcs⟩ := List.forall_mem_cons.mp h
      rw [List.flatMap_cons, escapeChar_of_notMem hc, ih hcs]
      rfl

/-- A text of characters that are kept is kept. -/
theorem escape_of_forall_notMem {b : Backend} {s : String} (h : ∀ c ∈ s.toList, c ∉ b.altered) :
    b.escape s = s := by
  rw [escape, flatMap_escapeChar_of_forall_notMem h, String.ofList_toList]

/-- The rule writes one character more for each that it does not keep. -/
theorem length_flatMap_escapeChar (b : Backend) (cs : List Char) :
    (cs.flatMap b.escapeChar).length = cs.length + cs.countP (· ∈ b.altered) := by
  induction cs with
  | nil => rfl
  | cons c cs ih =>
      rw [List.flatMap_cons, List.length_append, ih, List.countP_cons, List.length_cons]
      by_cases h : c ∈ b.altered
      · rw [length_escapeChar_of_mem h, if_pos (by simpa using h)]
        omega
      · rw [escapeChar_of_notMem h, if_neg (by simpa using h), List.length_singleton]
        omega

theorem count_backtick_escapeChar (b : Backend) (c : Char) :
    (b.escapeChar c).count '\x60' = [c].count '\x60' := by
  by_cases h : c ∈ b.altered
  · have hall :
        b.altered.all (fun d => (b.escapeChar d).count '\x60' == [d].count '\x60') = true := by
      cases b <;> decide
    simpa only [beq_iff_eq] using List.all_eq_true.mp hall c h
  · rw [escapeChar_of_notMem h]

/-- The rule knows nothing of backticks. -/
theorem count_backtick_flatMap_escapeChar (b : Backend) (cs : List Char) :
    (cs.flatMap b.escapeChar).count '\x60' = cs.count '\x60' := by
  induction cs with
  | nil => rfl
  | cons c cs ih =>
      rw [List.flatMap_cons, List.count_append, ih, count_backtick_escapeChar, ← List.count_append]
      rfl

end SqlSchema.Backend
