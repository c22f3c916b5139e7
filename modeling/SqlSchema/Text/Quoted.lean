import SqlSchema.Text.Hex
import SqlSchema.Text.Unprintable

/-! Quoted text for diagnostics. The quotes are double; a double quote, a backslash and the common
controls get a backslash, and a character without a printed form of its own is written by number. -/

namespace SqlSchema.Text

/-- A character by number, as `\u{…}` with the fewest digits. -/
def numbered (c : Char) : List Char :=
  "\\u\x7b".toList ++ (hexNumber c.toNat).toList ++ ['\x7d']

def quotedChar (c : Char) : List Char :=
  if c == '\x00' then ['\\', '0']
  else if c == '\t' then ['\\', 't']
  else if c == '\r' then ['\\', 'r']
  else if c == '\n' then ['\\', 'n']
  else if c == '\x22' || c == '\\' then ['\\', c]
  else if isPrintable c then [c]
  else numbered c

def quoted (s : String) : String :=
  String.ofList ('\x22' :: s.toList.flatMap quotedChar ++ ['\x22'])

end SqlSchema.Text
