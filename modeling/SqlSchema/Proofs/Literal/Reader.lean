import SqlSchema.Statement.Render

/-! # Readers of literals

How a backend reads the literals of a statement: `NULL`, bytes as `X'…'`, and text between single
quotes. A quoted text ends at the first quote that is neither doubled nor, on MySQL, behind a
backslash. -/

namespace SqlSchema

/-- What a literal stands for. -/
inductive Literal
  | null
  | bytes (data : List UInt8)
  | text (s : String)
  deriving Repr, DecidableEq

namespace Literal

open SqlSchema.Text

/-- What the literal of a value should stand for. -/
def ofValue : Value → Literal
  | .null => .null
  | .bytes data => .bytes data
  | v => .text v.literalText

theorem ofValue_eq_null_iff (v : Value) : ofValue v = .null ↔ v = .null := by
  cases v <;> simp [ofValue]

theorem ofValue_eq_bytes_iff (v : Value) (data : List UInt8) :
    ofValue v = .bytes data ↔ v = .bytes data := by
  cases v <;> simp [ofValue]

theorem ofValue_eq_text_iff (v : Value) (s : String) :
    ofValue v = .text s ↔ v ≠ .null ∧ (∀ data, v ≠ .bytes data) ∧ v.literalText = s := by
  cases v <;> simp [ofValue]

def sql (escape : Escaper) : Literal → String
  | .null => "NULL"
  | .bytes data => "X'" ++ hexEncode data ++ "'"
  | .text s => "'" ++ escape s ++ "'"

theorem sqlLiteral_eq_sql (escape : Escaper) (v : Value) :
    v.sqlLiteral escape = (ofValue v).sql escape := by
  cases v <;> rfl

/-! ## Single literals -/

/-- The character that a backslash and another one stand for on MySQL. -/
def unbackslashed? : Char → Option Char
  | '0' => some '\x00'
  | 'n' => some '\n'
  | 'r' => some '\r'
  | 'Z' => some '\x1a'
  | '\\' => some '\\'
  | '\x27' => some '\x27'
  | '\x22' => some '\x22'
  | _ => none

/-- Whether a character of a quoted text stands for something together with the next one. -/
def startsEscape : Backend → Char → Bool
  | .mySql, c => c == '\\'
  | .sqlite, _ => false

def withHead (c : Char) (read : Option (List Char × List Char)) : Option (List Char × List Char) :=
  read.map fun text => (c :: text.1, text.2)

/-- The text up to the closing quote, and what follows the quote. -/
def readQuoted (b : Backend) : List Char → Option (List Char × List Char)
  | [] => none
  | c :: rest =>
    if c = '\x27' then
      match rest with
      | '\x27' :: rest => withHead '\x27' (readQuoted b rest)
      | _ => some ([], rest)
    else if startsEscape b c then
      match rest with
      | escaped :: rest => (unbackslashed? escaped).bind fun c => withHead c (readQuoted b rest)
      | [] => none
    else withHead c (readQuoted b rest)

def readHex (cs : List Char) : Option (List UInt8 × List Char) :=
  match cs.dropWhile (· != '\x27') with
  | _ :: rest => (hexBytes? (cs.takeWhile (· != '\x27'))).map fun data => (data, rest)
  | [] => none

def read (b : Backend) : List Char → Option (Literal × List Char)
  | 'N' :: 'U' :: 'L' :: 'L' :: rest => some (.null, rest)
  | 'X' :: '\x27' :: rest => (readHex rest).map fun read => (.bytes read.1, read.2)
  | '\x27' :: rest => (readQuoted b rest).map fun read => (.text (String.ofList read.1), read.2)
  | _ => none

theorem length_of_withHead {c : Char} {read : Option (List Char × List Char)} {bound : Nat}
    (hread : ∀ text ∈ read, text.2.length < bound) :
    ∀ text ∈ withHead c read, text.2.length < bound := by
  cases read with
  | none => simp [withHead]
  | some tail => simpa [withHead] using hread

theorem length_of_readQuoted (b : Backend) (cs : List Char) :
    ∀ text ∈ readQuoted b cs, text.2.length < cs.length := by
  fun_induction readQuoted b cs with
  | case1 => simp
  | case2 rest ih =>
      apply length_of_withHead
      intro text htext
      have hshorter := ih text htext
      simp only [List.length_cons]
      omega
  | case3 rest _ =>
      intro text htext
      obtain rfl := Option.some.inj htext
      simp
  | case4 c hc hescape escaped rest ih =>
      intro text htext
      obtain ⟨held, -, hheld⟩ := Option.bind_eq_some_iff.mp htext
      have hbound : text.2.length < rest.length := length_of_withHead ih text hheld
      simp only [List.length_cons]
      omega
  | case5 => simp
  | case6 c rest hc hescape ih =>
      apply length_of_withHead
      intro text htext
      have hshorter := ih text htext
      simp only [List.length_cons]
      omega

theorem length_of_readHex {cs rest : List Char} {data : List UInt8}
    (h : readHex cs = some (data, rest)) : rest.length < cs.length := by
  unfold readHex at h
  have hdrop : (cs.dropWhile (· != '\x27')).length ≤ cs.length :=
    (List.dropWhile_suffix _).length_le
  split at h
  · rename_i quote tail htail
    obtain ⟨_, -, hpair⟩ := Option.map_eq_some_iff.mp h
    obtain ⟨-, rfl⟩ := Prod.mk.inj hpair
    rw [htail, List.length_cons] at hdrop
    omega
  · simp at h

theorem length_of_read {b : Backend} {cs rest : List Char} {literal : Literal}
    (h : read b cs = some (literal, rest)) : rest.length < cs.length := by
  unfold read at h
  split at h
  · obtain ⟨-, rfl⟩ := Prod.mk.inj (Option.some.inj h)
    simp only [List.length_cons]
    omega
  · obtain ⟨⟨data, tail⟩, hhex, hpair⟩ := Option.map_eq_some_iff.mp h
    obtain ⟨-, rfl⟩ := Prod.mk.inj hpair
    have hshorter := length_of_readHex hhex
    simp only [List.length_cons]
    omega
  · obtain ⟨text, htext, hpair⟩ := Option.map_eq_some_iff.mp h
    obtain ⟨-, rfl⟩ := Prod.mk.inj hpair
    have hshorter := length_of_readQuoted b _ text htext
    simp only [List.length_cons]
    omega
  · simp at h

/-! ## Several literals -/

/-- One or more literals with single commas between them, and what follows the last. -/
def readSeveral (b : Backend) (cs : List Char) : Option (List Literal × List Char) :=
  match _hread : read b cs with
  | some (literal, ',' :: rest) =>
    (readSeveral b rest).map fun read => (literal :: read.1, read.2)
  | some (literal, rest) => some ([literal], rest)
  | none => none
termination_by cs.length
decreasing_by
  have hshorter := length_of_read _hread
  simp only [List.length_cons] at hshorter
  omega

/-- The literals of a row up to its closing parenthesis, and what follows that. -/
def readRow (b : Backend) : List Char → Option (List Literal × List Char)
  | ')' :: rest => some ([], rest)
  | cs =>
    match readSeveral b cs with
    | some (literals, ')' :: rest) => some (literals, rest)
    | _ => none

/-- What follows a fragment that a text must start with. -/
def after? (fragment cs : List Char) : Option (List Char) :=
  if fragment.isPrefixOf cs then some (cs.drop fragment.length) else none

/-- The literals that a text assigns to names. For each name in order it has the name, an equals
sign and a literal, with single commas between these, and it has nothing else. -/
def readAssignments (b : Backend) : List String → List Char → Option (List Literal)
  | [], cs => if cs.isEmpty then some [] else none
  | name :: names, cs => do
    let (literal, rest) ← read b (← after? (name.toList ++ ['=']) cs)
    match names, rest with
    | [], [] => some [literal]
    | _ :: _, ',' :: rest => (readAssignments b names rest).map (literal :: ·)
    | _, _ => none

end Literal

end SqlSchema
