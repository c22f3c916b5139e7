import SqlSchema.Proofs.Ddl.Scanner
import SqlSchema.Proofs.Text.Escape
import SqlSchema.Text.Joined

/-! # Closed texts

A text is closed when a scan of a statement passes it at any depth and stands as before: its quotes
end, its parentheses match, and its commas stand inside of these. Closed texts that are joined with
commas are read back one by one. -/

namespace SqlSchema.Scan

open SqlSchema.Text

def clauseMarks : List Char := [',', ')']

/-- Whether a scan outside of quotes passes a text without a mark of its own. -/
def Closed (b : Backend) (s : String) : Prop :=
  ∀ depth, pass b clauseMarks ⟨.bare, depth⟩ s.toList = some ⟨.bare, depth⟩

variable {b : Backend}

/-! ## Steps of a scan -/

theorem isMark_of_place_ne {s : State} (h : s.place ≠ .bare) (mark c : Char) :
    s.isMark mark c = false := by
  simp [State.isMark, h]

theorem isMark_of_pos {s : State} (h : 0 < s.depth) (mark c : Char) : s.isMark mark c = false := by
  simp [State.isMark, Nat.ne_of_gt h]

theorem isMark_of_ne {s : State} {mark c : Char} (h : c ≠ mark) : s.isMark mark c = false := by
  simp [State.isMark, h]

theorem isMark_of_notMem {marks : List Char} {s : State} {c : Char} (h : c ∉ marks) :
    ∀ mark ∈ marks, s.isMark mark c = false := by
  intro mark hmark
  exact isMark_of_ne fun heq => h (heq ▸ hmark)

theorem pass_of_forall {marks : List Char} {s : State} {cs : List Char}
    (h : ∀ c ∈ cs, (∀ mark ∈ marks, s.isMark mark c = false) ∧ s.next b c = s) :
    pass b marks s cs = some s := by
  induction cs with
  | nil => rfl
  | cons c cs ih =>
      obtain ⟨⟨hmark, hnext⟩, hcs⟩ := List.forall_mem_cons.mp h
      rw [pass_cons hmark, hnext, ih hcs]

theorem pass_singleton {marks : List Char} {s t : State} {c : Char}
    (hmark : ∀ mark ∈ marks, s.isMark mark c = false) (hnext : s.next b c = t) :
    pass b marks s [c] = some t := by
  rw [pass_cons hmark, hnext]
  rfl

/-- A text that stays where its first character leads is passed up to its last one. -/
theorem pass_between {marks : List Char} {s inside : State} {first last : Char} {cs : List Char}
    (hfirst : pass b marks s [first] = some inside) (hcs : pass b marks inside cs = some inside)
    (hlast : pass b marks inside [last] = some s) :
    pass b marks s ([first] ++ (cs ++ [last])) = some s := by
  rw [pass_append hfirst, pass_append hcs, hlast]

/-! ## Plain texts -/

/-- The characters that a scan outside of quotes looks at. -/
def delimiters : List Char := ['\x27', '\x60', '(', ')', ',']

def IsPlain (cs : List Char) : Prop :=
  ∀ c ∈ cs, c ∉ delimiters

instance (cs : List Char) : Decidable (IsPlain cs) :=
  List.decidableBAll (· ∉ delimiters) cs

theorem next_bare_of_notMem {c : Char} (h : c ∉ delimiters) (depth : Nat) :
    State.next b ⟨.bare, depth⟩ c = ⟨.bare, depth⟩ := by
  simp only [delimiters, List.mem_cons, List.not_mem_nil, or_false, not_or] at h
  simp [State.next, State.depthAfter, Place.next, h]

theorem pass_of_plain {marks cs : List Char} (hmarks : marks ⊆ delimiters) (h : IsPlain cs)
    (depth : Nat) : pass b marks ⟨.bare, depth⟩ cs = some ⟨.bare, depth⟩ := by
  apply pass_of_forall
  intro c hc
  have hnone : c ∉ marks := fun hmem => h c hc (hmarks hmem)
  exact ⟨isMark_of_notMem hnone, next_bare_of_notMem (h c hc) depth⟩

theorem closed_of_plain {s : String} (h : IsPlain s.toList) : Closed b s :=
  pass_of_plain (by decide) h

theorem closed_empty : Closed b "" :=
  closed_of_plain (by decide)

theorem Closed.append {s t : String} (hs : Closed b s) (ht : Closed b t) : Closed b (s ++ t) := by
  intro depth
  rw [String.toList_append, pass_append (hs depth), ht depth]

theorem Closed.textIf {s : String} (h : Closed b s) (condition : Bool) :
    Closed b (textIf condition s) := by
  cases condition with
  | false => exact closed_empty
  | true => exact h

theorem Closed.parenthesized {s : String} (h : Closed b s) : Closed b ("(" ++ s ++ ")") := by
  intro depth
  have hopen : pass b clauseMarks ⟨.bare, depth⟩ ['('] = some ⟨.bare, depth + 1⟩ :=
    pass_singleton (isMark_of_notMem (by decide)) rfl
  have hclose : pass b clauseMarks ⟨.bare, depth + 1⟩ [')'] = some ⟨.bare, depth⟩ :=
    pass_singleton (fun mark _ => isMark_of_pos (Nat.succ_pos depth) mark ')') rfl
  simpa using pass_between hopen (h (depth + 1)) hclose

/-! ## Words -/

/-- Whether a character is an ASCII letter, a digit or an underscore. -/
def isWordChar (c : Char) : Bool :=
  c.isAlphanum || c == '_'

def IsWord (s : String) : Prop :=
  ∀ c ∈ s.toList, isWordChar c = true

instance (s : String) : Decidable (IsWord s) :=
  List.decidableBAll (isWordChar · = true) s.toList

theorem notMem_delimiters_of_isWordChar {c : Char} (h : isWordChar c = true) : c ∉ delimiters := by
  intro hmem
  have hnone : delimiters.all (!isWordChar ·) = true := by decide
  simpa [h] using List.all_eq_true.mp hnone c hmem

theorem notMem_altered_of_isWordChar {c : Char} (h : isWordChar c = true) : c ∉ b.altered := by
  intro hmem
  have hnone : b.altered.all (!isWordChar ·) = true := by cases b <;> decide
  simpa [h] using List.all_eq_true.mp hnone c hmem

theorem IsWord.closed {s : String} (h : IsWord s) : Closed b s :=
  closed_of_plain fun c hc => notMem_delimiters_of_isWordChar (h c hc)

theorem IsWord.escape_eq {s : String} (h : IsWord s) : b.escape s = s :=
  Backend.escape_of_forall_notMem fun c hc => notMem_altered_of_isWordChar (h c hc)

/-! ## Quoted names and texts -/

theorem pass_name {marks cs : List Char} (h : ∀ c ∈ cs, c ≠ '\x60') (depth : Nat) :
    pass b marks ⟨.name, depth⟩ cs = some ⟨.name, depth⟩ := by
  apply pass_of_forall
  intro c hc
  refine ⟨fun mark _ => isMark_of_place_ne (by simp) mark c, ?_⟩
  simp [State.next, State.depthAfter, Place.next, h c hc]

/-- A word between backticks is passed, whatever the marks are, if the backtick is none. -/
theorem pass_quotedName {marks : List Char} {s : String} (hmarks : '\x60' ∉ marks) (h : IsWord s)
    (depth : Nat) :
    pass b marks ⟨.bare, depth⟩ ("`" ++ s ++ "`").toList = some ⟨.bare, depth⟩ := by
  have hopen : pass b marks ⟨.bare, depth⟩ ['\x60'] = some ⟨.name, depth⟩ :=
    pass_singleton (isMark_of_notMem hmarks) rfl
  have hclose : pass b marks ⟨.name, depth⟩ ['\x60'] = some ⟨.bare, depth⟩ :=
    pass_singleton (fun mark _ => isMark_of_place_ne (by simp) mark '\x60') rfl
  have hname : ∀ c ∈ s.toList, c ≠ '\x60' := by
    rintro c hc rfl
    exact notMem_delimiters_of_isWordChar (h _ hc) (by decide)
  simpa using pass_between hopen (pass_name hname depth) hclose

theorem IsWord.closed_quotedName {s : String} (h : IsWord s) : Closed b ("`" ++ s ++ "`") :=
  pass_quotedName (by decide) h

/-- A character of a quoted text, in any of its forms, does not end the text. -/
theorem pass_charForm {c : Char} {form : List Char} (h : Literal.CharForm b c form)
    (depth : Nat) : pass b clauseMarks ⟨.text, depth⟩ form = some ⟨.text, depth⟩ := by
  have htext : ∀ d, ∀ mark ∈ clauseMarks, State.isMark ⟨.text, depth⟩ mark d = false :=
    fun d mark _ => isMark_of_place_ne (by simp) mark d
  cases h with
  | plain hquote hescape =>
      rw [pass_cons (htext c)]
      simp [pass, State.next, State.depthAfter, Place.next, hquote, hescape]
  | doubled hquote =>
      rw [pass_cons (htext _)]
      exact pass_cons (isMark_of_notMem (by decide)) []
  | @backslashed d hescape hd =>
      rw [pass_cons (htext _)]
      simp [pass, State.next, State.depthAfter, State.isMark, Place.next, hescape]

theorem pass_escape (cs : List Char) (depth : Nat) :
    pass b clauseMarks ⟨.text, depth⟩ (cs.flatMap b.escapeChar) = some ⟨.text, depth⟩ := by
  induction cs with
  | nil => rfl
  | cons c cs ih =>
      have hform := Literal.charForm_escapeChar b c
      rw [List.flatMap_cons, pass_append (pass_charForm hform depth), ih]

/-- Whatever a text holds, it is closed between single quotes once it is escaped. -/
theorem closed_quotedText (s : String) : Closed b ("'" ++ b.escape s ++ "'") := by
  intro depth
  have hopen : pass b clauseMarks ⟨.bare, depth⟩ ['\x27'] = some ⟨.text, depth⟩ :=
    pass_singleton (isMark_of_notMem (by decide)) rfl
  have hclose : pass b clauseMarks ⟨.text, depth⟩ ['\x27'] = some ⟨.bare, depth⟩ :=
    pass_singleton (fun mark _ => isMark_of_place_ne (by simp) mark '\x27') rfl
  simpa [Backend.escape] using pass_between hopen (pass_escape s.toList depth) hclose

/-! ## Types -/

/-- Whether the parentheses of a text match, so many being open before it, and its commas stand
inside of them. -/
def nested : Nat → List Char → Bool
  | depth, [] => depth == 0
  | depth, c :: cs =>
    if c = '(' then nested (depth + 1) cs
    else if c = ')' then depth != 0 && nested (depth - 1) cs
    else (c != ',' || depth != 0) && nested depth cs

/-- The text of a type: no quotes, matching parentheses, and commas only inside of these. -/
structure IsType (s : String) : Prop where
  unquoted : ∀ c ∈ s.toList, c ≠ '\x27' ∧ c ≠ '\x60'
  nested : nested 0 s.toList = true

theorem pass_of_nested {cs : List Char} {opened : Nat}
    (hquotes : ∀ c ∈ cs, c ≠ '\x27' ∧ c ≠ '\x60') (h : nested opened cs = true) (depth : Nat) :
    pass b clauseMarks ⟨.bare, depth + opened⟩ cs = some ⟨.bare, depth⟩ := by
  induction cs generalizing opened with
  | nil =>
      obtain rfl : opened = 0 := by simpa [Scan.nested] using h
      rfl
  | cons c cs ih =>
      obtain ⟨⟨hquote, hbacktick⟩, hrest⟩ := List.forall_mem_cons.mp hquotes
      rw [Scan.nested] at h
      split_ifs at h with hopen hclose
      · subst hopen
        rw [pass_cons (isMark_of_notMem (by decide))]
        exact ih hrest h
      · subst hclose
        obtain ⟨hpos, h⟩ : opened ≠ 0 ∧ Scan.nested (opened - 1) cs = true := by simpa using h
        obtain ⟨outer, rfl⟩ := Nat.exists_eq_succ_of_ne_zero hpos
        rw [pass_cons fun mark _ => isMark_of_pos (Nat.succ_pos (depth + outer)) mark ')']
        exact ih hrest h
      · obtain ⟨hcomma, h⟩ : (c ≠ ',' ∨ opened ≠ 0) ∧ Scan.nested opened cs = true := by
          simpa using h
        have hmark : ∀ mark ∈ clauseMarks, State.isMark ⟨.bare, depth + opened⟩ mark c = false := by
          rcases hcomma with hcomma | hpos
          · exact isMark_of_notMem (by simp [clauseMarks, hcomma, hclose])
          · exact fun mark _ => isMark_of_pos (by simp; omega) mark c
        rw [pass_cons hmark]
        simp only [State.next, State.depthAfter, Place.next, hopen, hclose, hquote, hbacktick,
          if_true, if_false]
        exact ih hrest h

theorem IsType.closed {s : String} (h : IsType s) : Closed b s :=
  fun depth => pass_of_nested h.unquoted h.nested depth

/-! ## Clauses in a body -/

theorem toList_joined_cons (first next : String) (others : List String) :
    (joined ", " (first :: next :: others)).toList =
      first.toList ++ ([',', ' '] ++ (joined ", " (next :: others)).toList) := by
  simp [joined]

/-- Closed clauses are passed up to the parenthesis that closes the body. -/
theorem pass_joined {clauses : List String} (h : ∀ clause ∈ clauses, Closed b clause) :
    pass b [')'] .start (joined ", " clauses).toList = some .start := by
  have hsubset : [')'] ⊆ clauseMarks := by decide
  induction clauses with
  | nil => rfl
  | cons first others ih =>
      obtain ⟨hfirst, hothers⟩ := List.forall_mem_cons.mp h
      have hpass : pass b [')'] .start first.toList = some .start :=
        pass_of_subset hsubset (hfirst 0)
      cases others with
      | nil => exact hpass
      | cons next others =>
          have hcomma : pass b [')'] .start [',', ' '] = some .start := rfl
          rw [toList_joined_cons, pass_append hpass, pass_append hcomma, ih hothers]

/-- Closed clauses are cut apart at the commas between them. -/
theorem pieces_joined {first : String} {others : List String}
    (h : ∀ clause ∈ first :: others, Closed b clause) :
    pieces b ',' .start (joined ", " (first :: others)).toList =
      (first.toList, others.map fun clause => ' ' :: clause.toList) := by
  have hcomma : ',' ∈ clauseMarks := by decide
  induction others generalizing first with
  | nil =>
      have hfirst : pass b clauseMarks .start first.toList = some .start :=
        (List.forall_mem_cons.mp h).1 0
      rw [joined, ← List.append_nil first.toList, pieces_append hcomma hfirst]
      simp [pieces]
  | cons next others ih =>
      obtain ⟨hclosed, hothers⟩ := List.forall_mem_cons.mp h
      have hfirst : pass b clauseMarks .start first.toList = some .start := hclosed 0
      have hmark : ∀ rest, pieces b ',' .start ([',', ' '] ++ rest) =
          ([], (' ' :: (pieces b ',' .start rest).1) :: (pieces b ',' .start rest).2) := by
        intro rest
        rfl
      rw [toList_joined_cons, pieces_append hcomma hfirst, hmark, ih hothers]
      simp

theorem readClauses_joined {clauses : List String} (h : ∀ clause ∈ clauses, Closed b clause)
    (hne : ∀ clause ∈ clauses, clause ≠ "") :
    readClauses b (joined ", " clauses).toList = clauses := by
  cases clauses with
  | nil => rfl
  | cons first others =>
      have hbody : (joined ", " (first :: others)).toList ≠ [] := by
        have hfirst : first.toList ≠ [] := by simpa using hne first List.mem_cons_self
        cases others with
        | nil => exact hfirst
        | cons next others => simp [toList_joined_cons]
      rw [readClauses, if_neg (by simpa using hbody), pieces_joined h]
      simp [withoutSpace, Function.comp_def]

end SqlSchema.Scan
