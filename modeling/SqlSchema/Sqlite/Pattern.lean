import SqlSchema.Text.Case

/-! Patterns of texts: those of `LIKE`, where the case of ASCII letters does not count, and those of
`GLOB`, which know sets of characters. -/

namespace SqlSchema.Sqlite

open SqlSchema.Text

/-- Whether two characters are the same, the case of ASCII letters aside. -/
def sameLetter (a b : Char) : Bool :=
  a.toLower == b.toLower

/-- Whether a text fits a pattern: a percent sign stands for any text, an underscore for any
character, and a character behind the escape for itself. -/
def fitsLike (escape : Option Char) : List Char → List Char → Bool
  | [], s => s.isEmpty
  | p :: ps, s =>
    if escape == some p then
      match ps, s with
      | q :: ps', c :: s' => sameLetter q c && fitsLike escape ps' s'
      | _, _ => false
    else if p == '%' then
      fitsLike escape ps s || (match s with
        | _ :: s' => fitsLike escape (p :: ps) s'
        | [] => false)
    else
      match s with
      | c :: s' => (p == '_' || sameLetter p c) && fitsLike escape ps s'
      | [] => false
termination_by ps s => ps.length + s.length
decreasing_by all_goals simp only [List.length_cons]; omega

/-- Whether a set, read up to its closing bracket, holds a character, and what follows it. A set
without an end is none. -/
def setHolds (c : Char) (first : Bool) (found : Bool) : List Char → Option (Bool × List Char)
  | [] => none
  | ']' :: rest => if first then setHolds c false (found || c == ']') rest else some (found, rest)
  | a :: '-' :: b :: rest =>
    if b == ']' then setHolds c false (found || c == a) ('-' :: b :: rest)
    else setHolds c false (found || (a ≤ c && c ≤ b)) rest
  | a :: rest => setHolds c false (found || c == a) rest

/-- Whether a text fits a pattern: an asterisk stands for any text, a question mark for any
character, and brackets for one of a set, or for one that is not in it behind a caret. The fuel
bounds the length of both. -/
def fitsGlob : Nat → List Char → List Char → Bool
  | 0, _, _ => false
  | _ + 1, [], s => s.isEmpty
  | fuel + 1, p :: ps, s =>
    if p == '*' then
      fitsGlob fuel ps s || (match s with
        | _ :: s' => fitsGlob fuel (p :: ps) s'
        | [] => false)
    else match s with
      | [] => false
      | c :: s' =>
        if p == '?' then fitsGlob fuel ps s'
        else if p == '[' then
          let (negated, set) := match ps with
            | '^' :: rest => (true, rest)
            | ps => (false, ps)
          match setHolds c true false set with
          | some (found, rest) => found != negated && fitsGlob fuel rest s'
          | none => false
        else p == c && fitsGlob fuel ps s'

end SqlSchema.Sqlite
