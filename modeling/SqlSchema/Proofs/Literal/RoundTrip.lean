import Mathlib.Tactic.SplitIfs
import SqlSchema.Proofs.Literal.Reader
import SqlSchema.Proofs.Text.Hex

/-! # Literals read back

Whatever a value holds, its escaped literal ends where the reader of the backend ends it and stands
for the value. So the literals of a statement cannot be left early or late. -/

namespace SqlSchema.Literal

open SqlSchema.Text

/-! ## Quoted text -/

/-- The forms that a character may have in a quoted text, by what the reader makes of them. -/
inductive CharForm (b : Backend) (c : Char) : List Char → Prop where
  | plain (hquote : c ≠ '\x27') (hescape : startsEscape b c = false) : CharForm b c [c]
  | doubled (hquote : c = '\x27') : CharForm b c ['\x27', '\x27']
  | backslashed {d : Char} (hescape : startsEscape b '\\' = true)
      (hd : unbackslashed? d = some c) : CharForm b c ['\\', d]

theorem charForm_escapeChar (b : Backend) (c : Char) : CharForm b c (b.escapeChar c) := by
  cases b with
  | mySql =>
      simp only [Backend.escapeChar, Backend.backslashed, beq_iff_eq]
      split_ifs with hnul hnewline hreturn hbackslash hquote hdouble hsubstitute
      · exact .backslashed rfl (hnul ▸ rfl)
      · exact .backslashed rfl (hnewline ▸ rfl)
      · exact .backslashed rfl (hreturn ▸ rfl)
      · exact .backslashed rfl (by rw [hbackslash]; rfl)
      · exact .backslashed rfl (by rw [hquote]; rfl)
      · exact .backslashed rfl (by rw [hdouble]; rfl)
      · exact .backslashed rfl (hsubstitute ▸ rfl)
      · exact .plain hquote (by simpa [startsEscape] using hbackslash)
  | sqlite =>
      simp only [Backend.escapeChar, Backend.doubled, beq_iff_eq]
      split_ifs with hquote
      · exact .doubled hquote
      · exact .plain hquote rfl

theorem readQuoted_plain {b : Backend} {c : Char} (hquote : c ≠ '\x27')
    (hescape : startsEscape b c = false) (rest : List Char) :
    readQuoted b (c :: rest) = withHead c (readQuoted b rest) := by
  rw [readQuoted.eq_def]
  simp [hquote, hescape]

theorem readQuoted_doubled (b : Backend) (rest : List Char) :
    readQuoted b ('\x27' :: '\x27' :: rest) = withHead '\x27' (readQuoted b rest) := by
  rw [readQuoted.eq_def]
  simp

theorem readQuoted_backslashed {b : Backend} {c d : Char} (hescape : startsEscape b '\\' = true)
    (hd : unbackslashed? d = some c) (rest : List Char) :
    readQuoted b ('\\' :: d :: rest) = withHead c (readQuoted b rest) := by
  rw [readQuoted.eq_def]
  simp [hescape, hd]

/-- A character in any of its forms is read back as that character. -/
theorem CharForm.readQuoted_append {b : Backend} {c : Char} {form : List Char}
    (h : CharForm b c form) (rest : List Char) :
    readQuoted b (form ++ rest) = withHead c (readQuoted b rest) := by
  cases h with
  | plain hquote hescape => exact readQuoted_plain hquote hescape rest
  | doubled hquote => exact hquote ▸ readQuoted_doubled b rest
  | backslashed hescape hd => exact readQuoted_backslashed hescape hd rest

theorem readQuoted_quote (b : Backend) {rest : List Char} (hrest : rest.head? ≠ some '\x27') :
    readQuoted b ('\x27' :: rest) = some ([], rest) := by
  rw [readQuoted.eq_def]
  simp only [if_true]
  split
  · exact absurd rfl hrest
  · rfl

/-- The reader ends an escaped text at the closing quote and has the text by then. -/
theorem readQuoted_escape (b : Backend) (s : List Char) {rest : List Char}
    (hrest : rest.head? ≠ some '\x27') :
    readQuoted b (s.flatMap b.escapeChar ++ '\x27' :: rest) = some (s, rest) := by
  induction s with
  | nil => exact readQuoted_quote b hrest
  | cons c s ih =>
      rw [List.flatMap_cons, List.append_assoc, (charForm_escapeChar b c).readQuoted_append, ih]
      rfl

-- The same text ends at different quotes.
example : readQuoted .mySql ['\\', '\x27', ';', '\x27'] = some (['\x27', ';'], []) := rfl

example : readQuoted .sqlite ['\\', '\x27', ';', '\x27'] = some (['\\'], [';', '\x27']) := rfl

/-! ## Literals of values -/

theorem readHex_hexEncode (data : List UInt8) (rest : List Char) :
    readHex ((hexEncode data).toList ++ '\x27' :: rest) = some (data, rest) := by
  have hdigits : ∀ c ∈ (hexEncode data).toList, (c != '\x27') = true := by
    intro c hc
    have hne : c ≠ '\x27' := fun h => quote_notMem_hexEncode data (h ▸ hc)
    simpa using hne
  unfold readHex
  rw [List.dropWhile_append_of_pos hdigits, List.takeWhile_append_of_pos hdigits]
  simp [hexEncode, hexBytes?_flatMap_hexByte]

/-- A literal is read back as what it stands for, whatever follows it but a quote. -/
theorem read_sql (b : Backend) (literal : Literal) (rest : List Char)
    (hrest : rest.head? ≠ some '\x27') :
    read b ((literal.sql b.escape).toList ++ rest) = some (literal, rest) := by
  cases literal with
  | null => simp [sql, read]
  | bytes data => simp [sql, read, readHex_hexEncode]
  | text s => simp [sql, read, Backend.escape, readQuoted_escape b _ hrest]

/-! ## Literals in a row -/

theorem readSeveral_comma {b : Backend} {cs rest : List Char} {literal : Literal}
    (h : read b cs = some (literal, ',' :: rest)) :
    readSeveral b cs = (readSeveral b rest).map fun read => (literal :: read.1, read.2) := by
  rw [readSeveral]
  split <;> simp_all

theorem readSeveral_last {b : Backend} {cs rest : List Char} {literal : Literal}
    (h : read b cs = some (literal, rest)) (hrest : rest.head? ≠ some ',') :
    readSeveral b cs = some ([literal], rest) := by
  rw [readSeveral]
  split
  · rename_i tail heq
    obtain rfl : rest = ',' :: tail := by simp_all
    exact absurd rfl hrest
  · simp_all
  · simp_all

theorem readSeveral_parenthesis (b : Backend) (rest : List Char) :
    readSeveral b (')' :: rest) = none := by
  have hread : read b (')' :: rest) = none := rfl
  rw [readSeveral]
  split <;> simp_all

theorem readSeveral_joined (b : Backend) (first : Literal) (literals : List Literal)
    (rest : List Char) (hquote : rest.head? ≠ some '\x27') (hcomma : rest.head? ≠ some ',') :
    readSeveral b ((joined "," ((first :: literals).map (sql b.escape))).toList ++ rest) =
      some (first :: literals, rest) := by
  induction literals generalizing first with
  | nil => exact readSeveral_last (read_sql b first rest hquote) hcomma
  | cons next literals ih =>
      have hread := read_sql b first
        (',' :: ((joined "," ((next :: literals).map (sql b.escape))).toList ++ rest)) (by simp)
      have hjoined : (joined "," ((first :: next :: literals).map (sql b.escape))).toList ++ rest =
          (first.sql b.escape).toList ++
            ',' :: ((joined "," ((next :: literals).map (sql b.escape))).toList ++ rest) := by
        simp [joined]
      rw [hjoined, readSeveral_comma hread, ih next]
      rfl

/-- The literals of a row are read back up to its closing parenthesis, of which there may be none
in the texts between. -/
theorem readRow_joined (b : Backend) (literals : List Literal) (rest : List Char) :
    readRow b ((joined "," (literals.map (sql b.escape))).toList ++ ')' :: rest) =
      some (literals, rest) := by
  cases literals with
  | nil => rfl
  | cons first literals =>
      have hread := readSeveral_joined b first literals (')' :: rest) (by simp) (by simp)
      unfold readRow
      split
      · rename_i tail htail
        rw [htail, readSeveral_parenthesis] at hread
        simp at hread
      · rw [hread]
        rfl

/-! ## Assignments -/

theorem after?_append (fragment rest : List Char) :
    after? fragment (fragment ++ rest) = some rest := by
  simp [after?]

theorem after?_name (name : String) (rest : List Char) :
    after? (name.toList ++ ['=']) (name.toList ++ '=' :: rest) = some rest := by
  simpa using after?_append (name.toList ++ ['=']) rest

theorem readAssignments_comma {b : Backend} (name next : String) (names : List String)
    {cs rest : List Char} {literal : Literal} (h : read b cs = some (literal, ',' :: rest)) :
    readAssignments b (name :: next :: names) (name.toList ++ '=' :: cs) =
      (readAssignments b (next :: names) rest).map (literal :: ·) := by
  simp [readAssignments, after?_name, h]

theorem readAssignments_last {b : Backend} (name : String) {cs : List Char} {literal : Literal}
    (h : read b cs = some (literal, [])) :
    readAssignments b [name] (name.toList ++ '=' :: cs) = some [literal] := by
  simp [readAssignments, after?_name, h]

def assignment (b : Backend) (entry : String × Literal) : String :=
  entry.1 ++ "=" ++ entry.2.sql b.escape

/-- Literals that are assigned to names are read back one by one, whatever the names hold. -/
theorem readAssignments_joined (b : Backend) (entries : List (String × Literal)) :
    readAssignments b (entries.map Prod.fst) (joined "," (entries.map (assignment b))).toList =
      some (entries.map Prod.snd) := by
  induction entries with
  | nil => rfl
  | cons entry entries ih =>
      obtain ⟨name, literal⟩ := entry
      cases entries with
      | nil =>
          have hread := read_sql b literal [] (by simp)
          rw [List.append_nil] at hread
          simpa [joined, assignment] using readAssignments_last name hread
      | cons next entries =>
          let tail := (joined "," ((next :: entries).map (assignment b))).toList
          have hread := read_sql b literal (',' :: tail) (by simp)
          have hstep := readAssignments_comma name next.1 (entries.map Prod.fst) hread
          have htail : readAssignments b (next.1 :: entries.map Prod.fst) tail =
              some (next.2 :: entries.map Prod.snd) := ih
          rw [htail] at hstep
          simpa [joined, assignment, tail] using hstep

end SqlSchema.Literal
