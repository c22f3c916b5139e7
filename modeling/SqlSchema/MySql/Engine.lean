import SqlSchema.Driver.Keyword
import SqlSchema.MySql.Server

/-! MySQL as the engine of a driver. An open connection holds nothing of its own. -/

namespace SqlSchema.MySql

open SqlSchema.Connection SqlSchema.Driver

def connect (config : Config) (s : Server) : Except DriverFault Unit × Server :=
  match config.parameters with
  | .server p => ((s.login p.sslMode.needsEncryption).mapError .backend, s)
  | _ => (.error (.unsupportedParameters .mySql), s)

def columnInfos (columns : List ReplyColumn) : List ColumnInfo :=
  columns.zipIdx.map fun entry => ⟨entry.1.name, entry.1.type.name, entry.2⟩

/-- The rows of a reply, with the columns that the first of them shows. -/
def rowSet (columns : List ReplyColumn) (rows : List (List (Option (List UInt8)))) : RowSet :=
  (if rows.isEmpty then [] else columnInfos columns,
    rows.map fun cells => .ofValues (columns.zipWith (fun c v => decodeCell c.type v) cells))

def select (sql : String) (_ : Unit) (s : Server) :
    Except BackendFault RowSet × Unit × Server :=
  match s.execute sql with
  | (.rows columns rows, s) => (.ok (rowSet columns rows), (), s)
  | (.done _ _, s) => (.ok ([], []), (), s)
  | (.refused r, s) => (.error r.reported, (), s)

/-- The rows that a statement changed and the identifier that it generated, zero for none. -/
def modify (sql : String) (_ : Unit) (s : Server) :
    Except BackendFault Effect × Unit × Server :=
  match s.execute sql with
  | (.done affected id, s) => (.ok ⟨affected, id⟩, (), s)
  | (.rows _ _, s) => (.ok ⟨0, 0⟩, (), s)
  | (.refused r, s) => (.error r.reported, (), s)

/-- Whether the server answers the test with a row. -/
def ping (_ : Unit) (s : Server) : Bool × Unit × Server :=
  match s.execute testStatement with
  | (.rows _ rows, s) => (!rows.isEmpty, (), s)
  | (_, s) => (false, (), s)

/-- The identifier that a statement generated, if it is not zero. -/
def generatedId (effect : Effect) : Option Nat :=
  if effect.reportedId = 0 then none else some effect.reportedId.toNat

def engine : Engine Unit Server where
  backend := .mySql
  connect := connect
  close := fun _ s => s
  ping := ping
  returnsRows := returnsRows .mySql
  select := select
  modify := modify
  generatedId := fun _ effect => generatedId effect

end SqlSchema.MySql
