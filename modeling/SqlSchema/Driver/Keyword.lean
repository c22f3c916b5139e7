import SqlSchema.Backend
import SqlSchema.Text.Blank

/-! The kind of a statement, by the text it starts with in lower case. -/

namespace SqlSchema.Driver

open SqlSchema.Text

/-- Whether a statement, blanks before it aside, starts with one of some texts in any case. -/
def startsWithAny (starts : List String) (sql : String) : Bool :=
  let lowered := dropBlanks (lower sql).toList
  starts.any fun start => start.toList.isPrefixOf lowered

def mySqlRowStarts : List String :=
  ["select", "with", "show", "describe", "desc ", "explain"]

def sqliteRowStarts : List String :=
  ["select", "with", "pragma"]

def sqliteInsertStarts : List String :=
  ["insert", "replace"]

def returnsRows : Backend → String → Bool
  | .mySql => startsWithAny mySqlRowStarts
  | .sqlite => startsWithAny sqliteRowStarts

def insertsRows (sql : String) : Bool :=
  startsWithAny sqliteInsertStarts sql

end SqlSchema.Driver
