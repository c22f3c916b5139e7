/-! Texts joined with a separator between neighbours. -/

namespace SqlSchema.Text

def joined (separator : String) : List String → String
  | [] => ""
  | [s] => s
  | s :: rest => s ++ separator ++ joined separator rest

def textIf (condition : Bool) (s : String) : String :=
  if condition then s else ""

end SqlSchema.Text
