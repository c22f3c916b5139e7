/-! Fragments of texts. -/

namespace SqlSchema.Text

/-- Whether one list of characters occurs in another, without gaps. -/
def occursIn (fragment : List Char) : List Char → Bool
  | [] => fragment.isEmpty
  | c :: rest => fragment.isPrefixOf (c :: rest) || occursIn fragment rest

def occurs (fragment s : String) : Bool :=
  occursIn fragment.toList s.toList

def startsWith (start s : String) : Bool :=
  start.toList.isPrefixOf s.toList

end SqlSchema.Text
