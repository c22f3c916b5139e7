import SqlSchema.Number.Reader
import SqlSchema.Text.Hex

/-! Tokens of SQL text. Every character belongs to exactly one of them: blanks and comments are
tokens of their own while a text is cut up, and afterwards the gap before the token that follows. -/

namespace SqlSchema.Sqlite

open SqlSchema.Number SqlSchema.Text

/-- What a token is. -/
inductive TokenKind
  | gap
  | word
  | quotedName
  | string
  | blob
  | integer
  | real
  | separated
  | parameter
  | mark
  | illegal
  | finish
  deriving Repr, DecidableEq

/-- A kind and the characters. -/
abbrev Lexeme := TokenKind × List Char

/-- A token as it is written, with the gap before it. -/
structure Token where
  kind : TokenKind
  chars : List Char
  gap : List Char := []
  deriving Repr

def Token.text (t : Token) : String :=
  String.ofList t.chars

def isGapChar (c : Char) : Bool :=
  c == ' ' || c == '\t' || c == '\n' || c == '\x0c' || c == '\r'

/-- Whether a character stands in names: letters, digits, the underscore, the dollar sign, and
everything beyond ASCII. -/
def isNameChar (c : Char) : Bool :=
  c.isAlphanum || c == '_' || c == '$' || 128 ≤ c.toNat

/-- The number of characters up to the end of a quotation and whether there is one. A quotation mark
written twice does not end it. -/
def quotationLength (mark : Char) : List Char → Nat × Bool
  | [] => (0, false)
  | [c] => (1, c == mark)
  | c :: d :: rest =>
    if c == mark then
      if d == mark then
        let (n, closed) := quotationLength mark rest
        (n + 2, closed)
      else (1, true)
    else
      let (n, closed) := quotationLength mark (d :: rest)
      (n + 1, closed)

def commentLength : List Char → Nat
  | '*' :: '/' :: _ => 2
  | _ :: rest => commentLength rest + 1
  | [] => 0

def runLength (holds : Char → Bool) (cs : List Char) : Nat :=
  (cs.takeWhile holds).length

/-- The number of characters of an exponent, which is none unless digits stand in it. `holds` are
the characters that may follow the first of them. -/
def exponentLength (holds : Char → Bool) : List Char → Nat
  | mark :: rest =>
    let signs := match rest with
      | sign :: _ => if sign == '+' || sign == '-' then 1 else 0
      | [] => 0
    let digits := rest.drop signs
    if (mark == 'e' || mark == 'E') && digits.head?.any isDigit then
      1 + signs + runLength holds digits
    else 0
  | [] => 0

/-- The numbers of characters of the parts of a number: the whole part, the fraction with its point,
and the exponent. `holds` are the characters of each part. -/
def numberParts (holds : Char → Bool) (cs : List Char) : Nat × Nat × Nat :=
  let whole := runLength holds cs
  let fraction := match cs.drop whole with
    | '.' :: rest => 1 + runLength holds rest
    | _ => 0
  (whole, fraction, exponentLength holds (cs.drop (whole + fraction)))

def isHexDigit (c : Char) : Bool :=
  (hexValue? c).isSome

/-- Whether a number is hexadecimal, which is told by `0x` and a digit. -/
def isHexNumber : List Char → Bool
  | '0' :: mark :: digit :: _ => (mark == 'x' || mark == 'X') && isHexDigit digit
  | _ => false

/-- The kind of a number without separators, and the length of one that may have them. -/
def plainNumber (cs : List Char) : TokenKind × Nat :=
  if isHexNumber cs then (.integer, 2 + runLength (fun c => isHexDigit c || c == '_') (cs.drop 2))
  else
    let (whole, fraction, exponent) := numberParts (fun c => isDigit c || c == '_') cs
    (if fraction + exponent = 0 then .integer else .real, whole + fraction + exponent)

/-- The kind and the length of a number. Characters of names right behind it spoil it. -/
def numberLexeme (cs : List Char) : TokenKind × Nat :=
  let (kind, length) := plainNumber cs
  let spoilt := runLength isNameChar (cs.drop length)
  if spoilt != 0 then (.illegal, length + spoilt)
  else if (cs.take length).contains '_' then (.separated, length)
  else (kind, length)

/-- Whether every separator of a number stands between two digits. -/
def separatesDigits (digit : Char → Bool) : List Char → Bool
  | a :: '_' :: b :: rest => digit a && digit b && separatesDigits digit (b :: rest)
  | [_, '_'] => false
  | _ :: rest => separatesDigits digit rest
  | [] => true

/-- The number of characters of the name of a parameter behind its mark, and whether it is one. It
may have colons in pairs, and at its end a text in parentheses. -/
def parameterLength (started : Bool) : List Char → Nat × Bool
  | ':' :: ':' :: rest =>
    let (n, closed) := parameterLength started rest
    (n + 2, closed)
  | c :: rest =>
    if isNameChar c then
      let (n, closed) := parameterLength true rest
      (n + 1, closed)
    else if c == '(' && started then
      let n := runLength (fun d => !(isGapChar d || d == '\x0b' || d == ')')) rest
      match rest.drop n with
      | ')' :: _ => (n + 2, true)
      | _ => (n + 1, false)
    else (0, started)
  | [] => (0, started)

/-- The kind of a blob literal by the characters between its quotation marks. -/
def blobKind (inside : List Char) : TokenKind :=
  if inside.length % 2 = 0 && inside.all fun c => (hexValue? c).isSome then .blob else .illegal

def doubleMarks : List (Char × Char) :=
  [('|', '|'), ('<', '='), ('<', '>'), ('>', '='), ('=', '='), ('!', '='), ('<', '<'), ('>', '>')]

def singleMarks : List Char :=
  ['(', ')', ';', ',', '.', '+', '-', '*', '/', '%', '=', '<', '>', '&', '|', '~']

/-- The kind of a quotation that has an end or has none. -/
def quotationKind (kind : TokenKind) (closed : Bool) : TokenKind :=
  if closed then kind else .illegal

/-- The kind of the first token, and its number of characters behind the first. -/
def firstLexeme (c : Char) (rest : List Char) : TokenKind × Nat :=
  let next := rest.head?
  if isGapChar c then (.gap, runLength isGapChar rest)
  else if c == '-' && next == some '-' then (.gap, runLength (· != '\n') rest)
  else if c == '/' && next == some '*' && 1 < rest.length then
    (.gap, 1 + commentLength (rest.drop 1))
  else if c == '\x27' then
    let (n, closed) := quotationLength c rest
    (quotationKind .string closed, n)
  else if c == '\x22' || c == '\x60' then
    let (n, closed) := quotationLength c rest
    (quotationKind .quotedName closed, n)
  else if c == '[' then
    let n := runLength (· != ']') rest
    (quotationKind .quotedName (n < rest.length), n + 1)
  else if isDigit c || (c == '.' && next.any isDigit) then
    let (kind, n) := numberLexeme (c :: rest)
    (kind, n - 1)
  else if (c == 'x' || c == 'X') && next == some '\x27' then
    let n := runLength (· != '\x27') (rest.drop 1)
    (blobKind ((rest.drop 1).take n), n + 2)
  else if c == '?' then (.parameter, runLength isDigit rest)
  else if c == '$' || c == '@' || c == '#' || c == ':' then
    let (n, isOne) := parameterLength false rest
    (if isOne then .parameter else .illegal, n)
  else if isNameChar c then (.word, runLength isNameChar rest)
  else if doubleMarks.any fun m => m.1 == c && next == some m.2 then (.mark, 1)
  else if singleMarks.contains c then (.mark, 0)
  else (.illegal, 0)

/-- A text cut into its tokens, gaps included. -/
def lexemes : List Char → List Lexeme
  | [] => []
  | c :: rest =>
    let first := firstLexeme c rest
    (first.1, c :: rest.take first.2) :: lexemes (rest.drop first.2)
termination_by cs => cs.length
decreasing_by simp only [List.length_drop, List.length_cons]; omega

/-- Nothing of a text is lost. -/
theorem flatMap_lexemes (cs : List Char) : (lexemes cs).flatMap Prod.snd = cs := by
  induction cs using lexemes.induct with
  | case1 => simp [lexemes]
  | case2 c rest first ih =>
    rw [lexemes, List.flatMap_cons, ih]
    exact congrArg (c :: ·) (List.take_append_drop first.2 rest)

/-- Tokens with the gaps before them. The last one stands for the end of the text. -/
def withGaps (gap : List Char) : List Lexeme → List Token
  | [] => [{ kind := .finish, chars := [], gap := gap }]
  | (kind, chars) :: rest =>
    if kind = .gap then withGaps (gap ++ chars) rest
    else { kind := kind, chars := chars, gap := gap } :: withGaps [] rest

def tokensOf (sql : String) : List Token :=
  withGaps [] (lexemes sql.toList)

/-- Tokens as they are written, without the gap before the first. -/
def spanChars : List Token → List Char
  | [] => []
  | first :: rest => first.chars ++ rest.flatMap fun t => t.gap ++ t.chars

def spanText (tokens : List Token) : String :=
  String.ofList (spanChars tokens)

/-- Tokens as they are written up to another token. Comments belong to them, and blanks at the end
do not. -/
def spanUpTo (next : Option Token) (tokens : List Token) : String :=
  let chars := spanChars tokens ++ (next.map Token.gap).getD []
  String.ofList (chars.reverse.dropWhile isGapChar).reverse

/-- The characters of a quotation up to the mark that ends it, doubled marks once. -/
def quotationInside (mark : Char) : List Char → List Char
  | [] => []
  | [c] => if c == mark then [] else [c]
  | c :: d :: rest =>
    if c == mark then
      if d == mark then mark :: quotationInside mark rest else []
    else c :: quotationInside mark (d :: rest)

/-- The mark that ends a quotation, if a character begins one. -/
def closingMark? (c : Char) : Option Char :=
  if c == '[' then some ']'
  else if c == '\x27' || c == '\x22' || c == '\x60' then some c
  else none

/-- The content of the quotation that characters begin with, or else the characters. -/
def unquoted : List Char → List Char
  | [] => []
  | first :: inside => ((closingMark? first).map (quotationInside · inside)).getD (first :: inside)

/-- The name or the string that a token stands for. -/
def Token.content (t : Token) : String :=
  if t.kind = .quotedName || t.kind = .string then String.ofList (unquoted t.chars) else t.text

/-- Tokens as they are written between two others, without blanks at either end. A quotation at the
start stands for its content. -/
def titleBetween (tokens : List Token) (next : Option Token) : String :=
  let chars := (tokens.flatMap fun t => t.gap ++ t.chars) ++ (next.map Token.gap).getD []
  let front := chars.dropWhile isGapChar
  String.ofList (unquoted (front.reverse.dropWhile isGapChar).reverse)

end SqlSchema.Sqlite
