import SqlSchema.Sqlite.Fault
import SqlSchema.Sqlite.Token

/-! Readings of tokens. A reading takes tokens from the front; the first token that cannot stand in
its place is the one that is reported. -/

namespace SqlSchema.Sqlite

open SqlSchema.Text

abbrev Reading (α : Type) := StateT (List Token) (Except Fault) α

def refuse {α : Type} : Reading α := do
  match ← get with
  | [] => throw .incomplete
  | t :: _ =>
    if t.kind = .finish then throw .incomplete
    else if t.kind = .illegal then throw (.unrecognized t.text)
    else throw (.unexpected t.text)

def takeIf (holds : Token → Bool) : Reading (Option Token) := do
  match ← get with
  | t :: rest => if holds t then set rest; return some t else return none
  | [] => return none

def comesNext (holds : Token → Bool) : Reading Bool := do
  return (← get).head?.any holds

def Token.isKeyword (keyword : String) (t : Token) : Bool :=
  t.kind = .word && lowerAscii t.text == keyword

def Token.isMark (mark : String) (t : Token) : Bool :=
  t.kind = .mark && t.text == mark

/-- Whether a keyword comes next, which is then taken. -/
def takeKeyword (keyword : String) : Reading Bool := do
  return (← takeIf (Token.isKeyword keyword)).isSome

/-- Whether a mark comes next, which is then taken. -/
def takeMark (mark : String) : Reading Bool := do
  return (← takeIf (Token.isMark mark)).isSome

def keywords (words : List String) : Reading Unit :=
  words.forM fun word => do
    if !(← takeKeyword word) then refuse

def mark (m : String) : Reading Unit := do
  if !(← takeMark m) then refuse

def oneOf {α : Type} (choices : List (String × α)) : Reading α := do
  match ← takeIf fun t => choices.any fun entry => t.isKeyword entry.1 with
  | none => refuse
  | some t =>
    match choices.find? fun entry => t.isKeyword entry.1 with
    | some entry => return entry.2
    | none => refuse

/-- Keywords that are no names unless they are quoted. -/
def reserved : List String :=
  ["add", "all", "alter", "and", "as", "autoincrement", "between", "case", "check", "collate",
   "commit", "constraint", "create", "default", "deferrable", "delete", "distinct", "drop", "else",
   "escape", "except", "exists", "foreign", "from", "group", "having", "in", "index", "insert",
   "intersect", "into", "is", "isnull", "join", "limit", "not", "nothing", "notnull", "null", "on",
   "or", "order", "primary", "references", "returning", "select", "set", "table", "then", "to",
   "transaction", "union", "unique", "update", "using", "values", "when", "where"]

/-- Whether a token is a name without quotation marks or with its own. -/
def Token.isName (t : Token) : Bool :=
  t.kind = .quotedName || (t.kind = .word && !reserved.contains (lowerAscii t.text))

/-- Whether a token is a name, for which a string also stands. -/
def Token.isNameOrString (t : Token) : Bool :=
  t.isName || t.kind = .string

def name : Reading String := do
  match ← takeIf Token.isNameOrString with
  | some t => return t.content
  | none => refuse

/-- Items with commas between them; the fuel bounds their number. -/
def itemsFrom {α : Type} (item : Reading α) : Nat → Reading (List α)
  | 0 => refuse
  | fuel + 1 => do
    let first ← item
    if ← takeMark "," then return first :: (← itemsFrom item fuel) else return [first]

/-- Items with commas between them, at least one. -/
def commaSeparated {α : Type} (item : Reading α) : Reading (List α) := do
  itemsFrom item ((← get).length + 1)

def parenthesized {α : Type} (inside : Reading α) : Reading α := do
  mark "("
  let a ← inside
  mark ")"
  return a

/-- A reading behind keywords of which the first may be missing, and all with it. -/
def behind {α : Type} (words : List String) (next : Reading α) : Reading (Option α) := do
  match words with
  | [] => return some (← next)
  | first :: rest =>
    if ← takeKeyword first then
      keywords rest
      return some (← next)
    else return none

/-- Names in parentheses, none if no parenthesis comes next. -/
def listedNames : Reading (List String) := do
  if ← comesNext (Token.isMark "(") then parenthesized (commaSeparated name) else return []

/-! ### Declared types -/

/-- Whether a token is a number as types have them. -/
def Token.isPlainNumber (t : Token) : Bool :=
  t.kind = .integer || t.kind = .real

def signedNumber : Reading Unit := do
  if !(← takeMark "-") then let _ ← takeMark "+"
  if (← takeIf Token.isPlainNumber).isNone then refuse

/-- The names that make up a type; the fuel bounds their number. -/
def typeNames : Nat → Reading Unit
  | 0 => return
  | fuel + 1 => do
    if (← takeIf Token.isNameOrString).isSome then typeNames fuel

/-- A declared type as it is written; there may be none. -/
def declaredType : Reading String := do
  let before ← get
  typeNames before.length
  if (← get).length < before.length then
    if ← takeMark "(" then
      signedNumber
      if ← takeMark "," then signedNumber
      mark ")"
  return spanText (before.take (before.length - (← get).length))

end SqlSchema.Sqlite
