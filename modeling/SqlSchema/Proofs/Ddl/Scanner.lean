import SqlSchema.Proofs.Literal.RoundTrip

/-! # A scanner of statements

What a backend takes for the parentheses and commas of a statement: those that stand neither in a
quoted text nor in a quoted name. A scan goes through a statement once and keeps where it stands and
how many parentheses are open. -/

namespace SqlSchema.Scan

/-! ## The scan -/

/-- What the next character of a statement stands in: the statement itself, a quoted text, a quoted
text behind a backslash, or a quoted name. -/
inductive Place
  | bare
  | text
  | escape
  | name
  deriving Repr, DecidableEq

/-- The place behind a character. A quote that is doubled ends what it stands in and begins it
again, with nothing in between. -/
def Place.next (b : Backend) : Place → Char → Place
  | .bare, c => if c = '\x27' then .text else if c = '\x60' then .name else .bare
  | .text, c =>
    if c = '\x27' then .bare else if Literal.startsEscape b c then .escape else .text
  | .escape, _ => .text
  | .name, c => if c = '\x60' then .bare else .name

/-- Where a scan stands, and how many parentheses are open there. -/
structure State where
  place : Place
  depth : Nat
  deriving Repr, DecidableEq

namespace State

def start : State := ⟨.bare, 0⟩

def depthAfter (s : State) (c : Char) : Nat :=
  if s.place = .bare then
    if c = '(' then s.depth + 1 else if c = ')' then s.depth - 1 else s.depth
  else s.depth

def next (b : Backend) (s : State) (c : Char) : State :=
  ⟨s.place.next b c, s.depthAfter c⟩

/-- Whether a character is a mark of the statement itself: it is the mark, and it stands outside of
quotes and of parentheses. -/
def isMark (s : State) (mark c : Char) : Bool :=
  s.place == .bare && s.depth == 0 && c == mark

end State

/-- The text up to the first mark outside of quotes and parentheses, and what follows the mark. -/
def upTo (b : Backend) (mark : Char) : State → List Char → Option (List Char × List Char)
  | _, [] => none
  | s, c :: cs =>
    if s.isMark mark c then some ([], cs) else Literal.withHead c (upTo b mark (s.next b c) cs)

/-- The first piece and the other ones, between the marks outside of quotes and parentheses. -/
def pieces (b : Backend) (mark : Char) : State → List Char → List Char × List (List Char)
  | _, [] => ([], [])
  | s, c :: cs =>
    let (piece, others) := pieces b mark (s.next b c) cs
    if s.isMark mark c then ([], piece :: others) else (c :: piece, others)

/-- A piece without the space that stands behind its comma. -/
def withoutSpace : List Char → List Char
  | ' ' :: cs => cs
  | cs => cs

/-- The clauses between the commas of a body. An empty body has none. -/
def readClauses (b : Backend) (body : List Char) : List String :=
  if body.isEmpty then []
  else
    let (first, others) := pieces b ',' .start body
    String.ofList first :: others.map fun piece => String.ofList (withoutSpace piece)

/-! ## Texts that a scan passes -/

/-- The scan behind a text, unless it comes on one of some marks. -/
def pass (b : Backend) (marks : List Char) : State → List Char → Option State
  | s, [] => some s
  | s, c :: cs => if marks.any (s.isMark · c) then none else pass b marks (s.next b c) cs

variable {b : Backend} {marks : List Char} {s t : State}

theorem pass_cons {c : Char} (h : ∀ mark ∈ marks, s.isMark mark c = false) (cs : List Char) :
    pass b marks s (c :: cs) = pass b marks (s.next b c) cs := by
  have hnone : marks.any (s.isMark · c) = false := List.any_eq_false.mpr (by simpa using h)
  simp [pass, hnone]

theorem pass_cons_eq_some_iff {c : Char} {cs : List Char} :
    pass b marks s (c :: cs) = some t ↔
      (∀ mark ∈ marks, s.isMark mark c = false) ∧ pass b marks (s.next b c) cs = some t := by
  simp [pass]

/-- A text that is passed leaves the scan to what follows. -/
theorem pass_append {cs : List Char} (h : pass b marks s cs = some t) (more : List Char) :
    pass b marks s (cs ++ more) = pass b marks t more := by
  induction cs generalizing s with
  | nil =>
      obtain rfl := Option.some.inj h
      rfl
  | cons c cs ih =>
      obtain ⟨hmarks, h⟩ := pass_cons_eq_some_iff.mp h
      rw [List.cons_append, pass_cons hmarks, ih h]

/-- What is passed without some marks is passed without fewer. -/
theorem pass_of_subset {fewer cs : List Char} (hfewer : fewer ⊆ marks)
    (h : pass b marks s cs = some t) : pass b fewer s cs = some t := by
  induction cs generalizing s with
  | nil => exact h
  | cons c cs ih =>
      obtain ⟨hmarks, h⟩ := pass_cons_eq_some_iff.mp h
      exact pass_cons_eq_some_iff.mpr ⟨fun mark hmark => hmarks mark (hfewer hmark), ih h⟩

section Reading

variable {mark : Char} (hmark : mark ∈ marks) {cs : List Char} (h : pass b marks s cs = some t)

include hmark h

theorem upTo_append (more : List Char) :
    upTo b mark s (cs ++ more) = (upTo b mark t more).map fun read => (cs ++ read.1, read.2) := by
  induction cs generalizing s with
  | nil =>
      obtain rfl := Option.some.inj h
      simp
  | cons c cs ih =>
      obtain ⟨hmarks, h⟩ := pass_cons_eq_some_iff.mp h
      simp [upTo, hmarks mark hmark, ih h, Literal.withHead, Function.comp_def]

theorem pieces_append (more : List Char) :
    pieces b mark s (cs ++ more) =
      (cs ++ (pieces b mark t more).1, (pieces b mark t more).2) := by
  induction cs generalizing s with
  | nil =>
      obtain rfl := Option.some.inj h
      rfl
  | cons c cs ih =>
      obtain ⟨hmarks, h⟩ := pass_cons_eq_some_iff.mp h
      simp [pieces, hmarks mark hmark, ih h]

end Reading

end SqlSchema.Scan
