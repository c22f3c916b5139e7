import SqlSchema.Json.Reader
import SqlSchema.Proofs.Number.Digits

/-! # The grammar of JSON texts

Texts of documents, described apart from the reader: strings with escapes, numbers that are finite,
blanks between the tokens, and containers in one another. -/

namespace SqlSchema.Json

open Number Text

/-! ## Tokens -/

def blanks : List Char :=
  [' ', '\t', '\n', '\r']

/-- What a text goes on with behind a token: a blank, a comma, the end of a container, or
nothing. -/
def EndsToken (rest : List Char) : Prop :=
  ∀ c ∈ rest.head?, c ∈ blanks ++ [',', ']', '\x7d']

/-- Four hexadecimal digits and the number they spell. -/
inductive HexText : List Char → Nat → Prop
  | digits {a b c d : Char} {i j k l : Nat} (ha : hexValue? a = some i) (hb : hexValue? b = some j)
      (hc : hexValue? c = some k) (hd : hexValue? d = some l) :
      HexText [a, b, c, d] (((i * 16 + j) * 16 + k) * 16 + l)

/-- The characters between the quotes of a string. -/
inductive StringText : List Char → Prop
  | nil : StringText []
  | plain {c : Char} {cs : List Char} (hquote : c ≠ '\x22') (hbackslash : c ≠ '\\')
      (hcontrol : 0x20 ≤ c.toNat) (h : StringText cs) : StringText (c :: cs)
  | escape {c : Char} {cs : List Char} (hc : c ∈ ['\x22', '\\', '/', 'b', 'f', 'n', 'r', 't'])
      (h : StringText cs) : StringText ('\\' :: c :: cs)
  | numbered {digits cs : List Char} {n : Nat} (hdigits : HexText digits n)
      (hn : n < 0xD800 ∨ 0xDFFF < n) (h : StringText cs) :
      StringText ('\\' :: 'u' :: digits ++ cs)
  | pair {high low cs : List Char} {m n : Nat} (hhigh : HexText high m) (hlow : HexText low n)
      (hm : 0xD800 ≤ m ∧ m < 0xDC00) (hn : 0xDC00 ≤ n ∧ n ≤ 0xDFFF) (h : StringText cs) :
      StringText ('\\' :: 'u' :: high ++ ('\\' :: 'u' :: low ++ cs))

/-- The exponent of a number: its mark, its sign if it has one, and its digits. -/
structure Exponent where
  mark : Char
  sign : List Char
  digits : List Char

namespace Exponent

def chars (e : Exponent) : List Char :=
  e.mark :: e.sign ++ e.digits

def value (e : Exponent) : Int :=
  if e.sign = ['-'] then -(digitsValue 0 e.digits : Int) else digitsValue 0 e.digits

/-- An exponent that is well written, and not past what is read. -/
structure IsWritten (e : Exponent) : Prop where
  mark : e.mark = 'e' ∨ e.mark = 'E'
  sign : e.sign = [] ∨ e.sign = ['+'] ∨ e.sign = ['-']
  digits : AllDigits e.digits
  digits_ne : e.digits ≠ []
  bounded : digitsValue 0 e.digits ≤ exponentLimit

end Exponent

/-- A number as it is written: a sign, the digits before the point and those behind it, of which
there are none without a point, and an exponent if it has one. -/
structure Numeral where
  negative : Bool
  whole : List Char
  fraction : List Char
  exponent : Option Exponent

namespace Numeral

/-- The characters of the fraction, with its point. -/
def fractionChars (n : Numeral) : List Char :=
  if n.fraction = [] then [] else '.' :: n.fraction

def unsigned (n : Numeral) : List Char :=
  n.whole ++ (n.fractionChars ++ (n.exponent.map Exponent.chars).getD [])

def chars (n : Numeral) : List Char :=
  if n.negative then '-' :: n.unsigned else n.unsigned

def value (n : Numeral) : Digits :=
  ⟨digitsValue 0 (n.whole ++ n.fraction),
    (n.exponent.map Exponent.value).getD 0 - n.fraction.length⟩

/-- A number that is well written and that 64 bits hold: no zeros before the first digit. -/
structure IsWritten (n : Numeral) : Prop where
  whole : AllDigits n.whole
  whole_ne : n.whole ≠ []
  leading : n.whole.head? = some '0' → n.whole = ['0']
  fraction : AllDigits n.fraction
  exponent : ∀ e ∈ n.exponent, e.IsWritten
  finite : (Binary.ofDigits n.negative n.value : Double).isFinite = true

end Numeral

/-! ## Documents -/

structure Padded where
  before : List Char
  text : List Char
  after : List Char
  before_blank : ∀ c ∈ before, c ∈ blanks
  after_blank : ∀ c ∈ after, c ∈ blanks

def Padded.chars (p : Padded) : List Char :=
  p.before ++ (p.text ++ p.after)

/-- A member of an object: its name between blanks, and the text behind the colon. -/
structure MemberText where
  before : List Char
  name : List Char
  after : List Char
  value : Padded
  before_blank : ∀ c ∈ before, c ∈ blanks
  after_blank : ∀ c ∈ after, c ∈ blanks
  name_string : StringText name

/-- The characters of a member from its opening quote. -/
def MemberText.quoted (m : MemberText) : List Char :=
  '\x22' :: (m.name ++ '\x22' :: (m.after ++ ':' :: m.value.chars))

def MemberText.chars (m : MemberText) : List Char :=
  m.before ++ m.quoted

def separated : List (List Char) → List Char
  | [] => []
  | first :: more => first ++ more.flatMap (',' :: ·)

/-- The texts of documents in which containers are at most so deep. -/
inductive Spells : Nat → List Char → Prop
  | nullWord (depth : Nat) : Spells depth "null".toList
  | falseWord (depth : Nat) : Spells depth "false".toList
  | trueWord (depth : Nat) : Spells depth "true".toList
  | number (depth : Nat) {n : Numeral} (hn : n.IsWritten) : Spells depth n.chars
  | text (depth : Nat) {cs : List Char} (hcs : StringText cs) :
      Spells depth ('\x22' :: cs ++ ['\x22'])
  | list {depth : Nat} {blank : List Char} {items : List Padded}
      (hblank : ∀ c ∈ blank, c ∈ blanks) (hitems : ∀ item ∈ items, Spells depth item.text) :
      Spells (depth + 1) ('[' :: blank ++ (separated (items.map Padded.chars) ++ [']']))
  | object {depth : Nat} {blank : List Char} {members : List MemberText}
      (hblank : ∀ c ∈ blank, c ∈ blanks)
      (hmembers : ∀ member ∈ members, Spells depth member.value.text) :
      Spells (depth + 1)
        ('\x7b' :: blank ++ (separated (members.map MemberText.chars) ++ ['\x7d']))

/-- A text of a document is one where containers may be deeper. -/
theorem Spells.mono {depth deeper : Nat} {text : List Char} (h : Spells depth text)
    (hle : depth ≤ deeper) : Spells deeper text := by
  induction h generalizing deeper with
  | nullWord => exact .nullWord deeper
  | falseWord => exact .falseWord deeper
  | trueWord => exact .trueWord deeper
  | number _ hn => exact .number deeper hn
  | text _ hcs => exact .text deeper hcs
  | list hblank _ ih =>
      obtain ⟨deeper, rfl⟩ := Nat.exists_eq_succ_of_ne_zero (Nat.ne_zero_of_lt hle)
      exact .list hblank fun item hitem => ih item hitem (Nat.le_of_succ_le_succ hle)
  | object hblank _ ih =>
      obtain ⟨deeper, rfl⟩ := Nat.exists_eq_succ_of_ne_zero (Nat.ne_zero_of_lt hle)
      exact .object hblank fun member hmember => ih member hmember (Nat.le_of_succ_le_succ hle)

end SqlSchema.Json
