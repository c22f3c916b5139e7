import SqlSchema.Sqlite.Command
import SqlSchema.Sqlite.Grammar.Reading

/-! The grammar of literals and expressions. -/

namespace SqlSchema.Sqlite

open SqlSchema.Number SqlSchema.Text

/-! ### Literals -/

/-- The value of a decimal number that is written with a sign or without one. A whole number beyond
64 bits is a real one. -/
def decimalValue (negative : Bool) (chars : List Char) : Stored :=
  let real := ((digits? chars).map fun d => Stored.real (.ofDigits negative d)).getD .null
  if chars.all isDigit then
    let magnitude := digitsValue 0 chars
    ((int64? (if negative then -(magnitude : Int) else magnitude)).map .integer).getD real
  else real

/-- The value of hexadecimal digits, which are the bits of a word: no more than sixteen of them, and
with a sign in front not the smallest word. -/
def wordOfHex? (negative : Bool) (digits : List Char) : Option Int64 :=
  let significant := digits.dropWhile (· == '0')
  let bits := significant.foldl (fun n c => 16 * n + (hexValue? c).getD 0) 0
  let word := Int64.ofNat bits
  if 16 < significant.length || (negative && word == Int64.minValue) then none
  else some (if negative then -word else word)

def Token.isNumber (t : Token) : Bool :=
  t.isPlainNumber || t.kind = .separated

def Token.number (negative : Bool) (t : Token) : Except Fault Expr :=
  let isHex := isHexNumber t.chars
  let chars := t.chars.filter (· != '_')
  if !separatesDigits (if isHex then isHexDigit else isDigit) t.chars then
    .error (.unrecognized t.text)
  else if isHex then
    match wordOfHex? negative (chars.drop 2) with
    | some word => .ok (.literal (.integer word))
    | none => .ok (.refused (.hexTooLong ((if negative then "-" else "") ++ String.ofList chars)))
  else .ok (.literal (decimalValue negative chars))

/-- A number behind a sign or behind none, if one comes next. -/
def number? (negative : Bool) : Reading (Option Expr) := do
  match ← takeIf Token.isNumber with
  | some t => return some (← t.number negative)
  | none => return none

def blobValue (chars : List Char) : Stored :=
  .blob ((hexBytes? ((chars.drop 2).takeWhile (· != '\x27'))).getD [])

def literal? : Reading (Option Expr) := do
  if let some e ← number? false then return some e
  if let some t ← takeIf (·.kind = .string) then return some (.literal (.text t.content))
  if let some t ← takeIf (·.kind = .blob) then return some (.literal (blobValue t.chars))
  if ← takeKeyword "null" then return some (.literal .null)
  return none

def parameterLimit : Nat := 32766

/-- A parameter. One with a number has a number of its bounds, and number signs are for names
only. -/
def Token.parameter (t : Token) : Except Fault Expr :=
  match t.chars with
  | '#' :: c :: _ => if isDigit c then .error (.unexpected t.text) else .ok .parameter
  | '?' :: c :: rest =>
    let number := digitsValue 0 (c :: rest)
    if 1 ≤ number ∧ number ≤ parameterLimit then .ok .parameter else .error .parameterNumber
  | _ => .ok .parameter

/-! ### Operands -/

/-- The levels of operators: those of a higher level bind more tightly. -/
def negationLevel : Nat := 3

def equalityLevel : Nat := 4

def collationLevel : Nat := 11

def unaryLevel : Nat := 12

/-- The expression that a name begins: a function with its arguments, or a column. -/
def named (recur : Nat → Reading Expr) : Reading Expr := do
  match ← takeIf Token.isName with
  | none => refuse
  | some t =>
    if ← takeMark "(" then
      if ← takeMark "*" then
        mark ")"
        return if lowerAscii t.content == "count" then .countAll else .call t.content []
      if ← takeMark ")" then return .call t.content []
      let arguments ← commaSeparated (recur 0)
      mark ")"
      return .call t.content arguments
    if ← takeMark "." then return .column (some t.content) (← name) false
    return .column none t.content (t.chars.head? == some '\x22')

/-- The end of a choice with the result of the remaining case, which may be missing. -/
def remaining (recur : Nat → Reading Expr) : Reading (List Expr) := do
  let otherwise ← behind ["else"] (recur 0)
  keywords ["end"]
  return otherwise.toList

/-- The parts of a choice; the fuel bounds their number. With a subject the conditions are that it
equals what is written. -/
def alternatives (recur : Nat → Reading Expr) (subject : Option Expr) : Nat → Reading (List Expr)
  | 0 => refuse
  | fuel + 1 => do
    keywords ["when"]
    let written ← recur 0
    let condition := match subject with
      | some e => .binary .equal e written
      | none => written
    keywords ["then"]
    let result ← recur 0
    let more ← comesNext (Token.isKeyword "when")
    let rest ← if more then alternatives recur subject fuel else remaining recur
    return condition :: result :: rest

def choice (recur : Nat → Reading Expr) : Reading Expr := do
  let subject ← if ← comesNext (Token.isKeyword "when") then pure none else some <$> recur 0
  return .choice (← alternatives recur subject ((← get).length + 1))

def conversion (recur : Nat → Reading Expr) : Reading Expr :=
  parenthesized do
    let e ← recur 0
    keywords ["as"]
    return .cast e (← declaredType)

/-- An operand. `recur` reads an expression of a level. -/
def operand (recur : Nat → Reading Expr) : Reading Expr := do
  if ← takeKeyword "not" then return .negation (← recur negationLevel)
  if ← takeMark "~" then return .complement (← recur unaryLevel)
  if ← takeMark "-" then
    if let some e ← number? true then return e
    return .opposite (← recur unaryLevel)
  if ← takeMark "+" then
    if let some e ← number? false then return e
    return .choice [← recur unaryLevel]
  if let some e ← literal? then return e
  if let some t ← takeIf (·.kind = .parameter) then return ← t.parameter
  if ← takeKeyword "case" then return ← choice recur
  if ← takeKeyword "cast" then return ← conversion recur
  if ← comesNext (Token.isMark "(") then
    match ← parenthesized (commaSeparated (recur 0)) with
    | [e] => return e
    | _ => return .refused .misusedRow
  named recur

/-! ### Operators -/

def operators : List (String × Operator × Nat) :=
  [("or", .or, 1), ("and", .and, 2), ("=", .equal, 4), ("==", .equal, 4), ("!=", .unequal, 4),
   ("<>", .unequal, 4), ("<", .less, 5), ("<=", .atMost, 5), (">", .greater, 5),
   (">=", .atLeast, 5), ("&", .bitAnd, 7), ("|", .bitOr, 7), ("<<", .shiftLeft, 7),
   (">>", .shiftRight, 7), ("+", .add, 8), ("-", .subtract, 8), ("*", .multiply, 9),
   ("/", .divide, 9), ("%", .remainder, 9), ("||", .concat, 10)]

def operatorOf? (t : Token) : Option (Operator × Nat) :=
  if t.kind = .mark || t.kind = .word then Keyed.get? (lowerAscii t.text) operators else none

/-- Two operands with an operator between them. A conjunction with a zero is one. -/
def joined (op : Operator) (left right : Expr) : Expr :=
  let isZero (e : Expr) : Bool := e == .literal (.integer 0)
  if op = .and && (isZero left || isZero right) then .literal (.integer 0)
  else .binary op left right

def truthName? : Expr → Option Bool
  | .column none name false =>
    match lowerAscii name with
    | "true" => some true
    | "false" => some false
    | _ => none
  | _ => none

/-- Whether two values are the same, or differ. A truth value asks whether the other side is true,
or false. -/
def identityOf (negated : Bool) (left right : Expr) : Expr :=
  match truthName? right with
  | none => .binary (if negated then .different else .same) left right
  | some truth =>
    let asked := if truth then left else .negation left
    let answer (b : Bool) : Expr := .literal (.integer (if b then 1 else 0))
    .choice [asked, answer !negated, answer negated]

/-- The right-hand side of `is`, which `not` turns into its contrary, and so does
`distinct from`. -/
def identity (recur : Nat → Reading Expr) (left : Expr) : Reading Expr := do
  let negated ← takeKeyword "not"
  let distinct ← takeKeyword "distinct"
  if distinct then keywords ["from"]
  return identityOf (negated != distinct) left (← recur (equalityLevel + 1))

def members (recur : Nat → Reading Expr) : Reading (List Expr) := do
  mark "("
  if ← takeMark ")" then return []
  let items ← commaSeparated (recur 0)
  mark ")"
  return items

def Token.isPatternOperator (t : Token) : Bool :=
  ["like", "glob", "regexp", "match"].any fun word => t.isKeyword word

/-- What follows an expression that `not` may stand before: a membership, bounds, or a pattern, if
one comes next. -/
def tested? (recur : Nat → Reading Expr) (left : Expr) : Reading (Option Expr) := do
  if ← takeKeyword "in" then
    match ← members recur with
    | [] => return some (.choice [.literal (.integer 0)])
    | items => return some (.member left items)
  if ← takeKeyword "between" then
    let low ← recur negationLevel
    keywords ["and"]
    let high ← recur (equalityLevel + 1)
    return some (.binary .and (.binary .atLeast left low) (.binary .atMost left high))
  if let some t ← takeIf Token.isPatternOperator then
    let pattern ← recur (equalityLevel + 1)
    let escape ← behind ["escape"] (recur (equalityLevel + 1))
    return some (.call t.text (pattern :: left :: escape.toList))
  return none

def collationName : Reading Collation := do
  let asked ← name
  match lowerAscii asked with
  | "binary" => return .binary
  | "nocase" => return .noCase
  | "rtrim" => return .rightTrimmed
  | _ => throw (.noCollation asked)

/-- What follows an expression, from a level on: operators with their right-hand sides. The fuel
bounds their number. -/
def continued (recur : Nat → Reading Expr) (level : Nat) : Nat → Expr → Reading Expr
  | 0, left => return left
  | fuel + 1, left => do
    let next := continued recur level fuel
    if level ≤ equalityLevel then
      if ← takeKeyword "isnull" then return ← next (.binary .same left (.literal .null))
      if ← takeKeyword "notnull" then return ← next (.binary .different left (.literal .null))
      if ← takeKeyword "is" then return ← next (← identity recur left)
      if let some e ← tested? recur left then return ← next e
      if ← takeKeyword "not" then
        if ← takeKeyword "null" then return ← next (.binary .different left (.literal .null))
        match ← tested? recur left with
        | some e => return ← next (.negation e)
        | none => refuse
    if level ≤ collationLevel then
      if ← takeKeyword "collate" then
        return ← next (.collated left (← collationName))
    match ← takeIf fun t => (operatorOf? t).any fun found => level ≤ found.2 with
    | none => return left
    | some t =>
      match operatorOf? t with
      | some (op, own) => next (joined op left (← recur (own + 1)))
      | none => return left

/-- An expression of a level; the fuel bounds the nesting. -/
def expressionAt : Nat → Nat → Reading Expr
  | 0, _ => refuse
  | fuel + 1, level => do
    let left ← operand (expressionAt fuel)
    continued (expressionAt fuel) level ((← get).length + 1) left

def expression : Reading Expr := do
  expressionAt ((← get).length + 1) 0

/-- An expression in parentheses, and its text as it is written there. -/
def quotedCondition : Reading (Expr × String) := do
  mark "("
  let before ← get
  let e ← expression
  let rest ← get
  mark ")"
  return (e, titleBetween (before.take (before.length - rest.length)) rest.head?)

end SqlSchema.Sqlite
