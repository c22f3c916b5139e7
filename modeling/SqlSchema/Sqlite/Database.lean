import SqlSchema.Sqlite.Table

/-! Databases: tables under their names, and the references between their rows. What happens to a
row goes on to the rows that refer to it, as their references say. -/

namespace SqlSchema.Sqlite

open SqlSchema.Schema

/-- The tables of a database. -/
structure Database where
  tables : List Table := []
  deriving Inhabited, Repr

/-- A reference between two tables: by their names, with the places of the columns of the one beside
those of the other. -/
structure Link where
  child : String
  parent : String
  reference : Reference
  places : List (Nat × Nat)
  deriving Repr, DecidableEq

/-! ### Rows that refer to rows -/

namespace Table

/-- The places in a parent and a child that a reference ties together. What it refers to is the
primary key, or columns that are a key. -/
def tied? (parent child : Table) (r : Reference) : Option (List (Nat × Nat)) :=
  let own := r.columns.filterMap child.place?
  let numbered := parent.rowKey.map RowKey.place
  match r.targets with
  | [] =>
    match numbered, own with
    | some place, [column] => some [(place, column)]
    | _, _ =>
      (parent.keys.find? fun key => key.primary && key.places.length == own.length).map fun key =>
        key.places.zip own
  | targets =>
    let at? (place : Nat) : Option (Nat × Nat) := do
      let c ← parent.columns[place]?
      let nth ← targets.findIdx? (sameName c.name)
      return (place, ← own[nth]?)
    let ofKey (places : List Nat) : Option (List (Nat × Nat)) :=
      if places.length = targets.length then places.mapM at? else none
    (numbered.bind fun place => ofKey [place]).or
      (parent.keys.findSome? fun key => ofKey key.places)

/-- Whether a row of a child refers to something, which it does not if a part is null. -/
def refers (l : Link) (row : StoredRow) : Bool :=
  l.places.all fun tie => row.cells.getD tie.2 .null ≠ .null

/-- Whether a row of a child refers to a row of the parent. Values count as the column of the parent
would store them. -/
def joins (parent : Table) (l : Link) (row other : StoredRow) : Bool :=
  refers l other && l.places.all fun tie =>
    let v := (parent.affinity tie.1).store (other.cells.getD tie.2 .null)
    compareUnder (parent.collation tie.1) (row.cells.getD tie.1 .null) v == .eq

/-- Whether a row that takes the place of another is referred to by the same values. -/
def keepsTie (parent : Table) (l : Link) (old new : StoredRow) : Bool :=
  l.places.all fun tie =>
    compareUnder (parent.collation tie.1) (old.cells.getD tie.1 .null)
      (new.cells.getD tie.1 .null) == .eq

/-- The cells of a row of a child after the row that it refers to was changed or removed, none if it
is to be removed itself. -/
def followed (child : Table) (l : Link) (action : ReferentialAction) (new : Option StoredRow)
    (row : StoredRow) : Option (List Stored) :=
  let settingTo (value : Nat × Nat → Stored) : Option (List Stored) :=
    some (l.places.foldl (fun cells tie => cells.set tie.2 (value tie)) row.cells)
  match action, new with
  | .cascade, none => none
  | .cascade, some new => settingTo fun tie => new.cells.getD tie.1 .null
  | .setDefault, _ =>
    settingTo fun tie => ((child.columns[tie.2]?).map defaultOf).getD .null
  | _, _ => settingTo fun _ => .null

end Table

namespace Database

def table? (d : Database) (name : String) : Option Table :=
  d.tables.find? fun t => sameName t.name name

/-- The table of a name, which must exist. -/
def table (d : Database) (name : String) : Except Fault Table :=
  match d.table? name with
  | some t => .ok t
  | none => .error (.noTable name)

def put (d : Database) (t : Table) : Database :=
  { d with tables := d.tables.map fun old => if sameName old.name t.name then t else old }

def drop (d : Database) (name : String) : Database :=
  { d with tables := d.tables.filter fun t => !sameName t.name name }

/-! ### References -/

/-- The link of a reference of a table. The table that it names must exist and have such a key. -/
def link (d : Database) (child : Table) (r : Reference) : Except Fault Link :=
  match d.table? r.table with
  | none => .error (.noReferencedTable r.table)
  | some parent =>
    match Table.tied? parent child r with
    | some places => .ok ⟨child.name, parent.name, r, places⟩
    | none => .error (.mismatchedReference child.name r.table)

/-- All references, each with its table, the latest first. -/
def references (d : Database) : List (Table × Reference) :=
  (d.tables.flatMap fun t => t.references.map fun r => (t, r)).reverse

def referencesTo (d : Database) (t : Table) : List (Table × Reference) :=
  d.references.filter fun entry => sameName entry.2.table t.name

def links (d : Database) : List Link :=
  d.references.filterMap fun entry => (d.link entry.1 entry.2).toOption

def linksTo (d : Database) (table : String) : List Link :=
  d.links.filter fun l => sameName l.parent table

/-- The number of rows of a link that refer to no row. -/
def dangling (d : Database) (l : Link) : Nat :=
  match d.table? l.parent, d.table? l.child with
  | some parent, some child =>
    (child.rows.filter fun row =>
      Table.refers l row && !parent.rows.any fun other => parent.joins l other row).length
  | _, _ => 0

/-- The number of references that lead nowhere. -/
def violations (d : Database) : Nat :=
  d.links.foldl (fun count l => count + d.dangling l) 0

def referring (d : Database) (l : Link) (row : StoredRow) : List StoredRow :=
  match d.table? l.parent, d.table? l.child with
  | some parent, some child => child.rows.filter (parent.joins l row)
  | _, _ => []

/-- The action of a link on a row that is changed or removed, if there is one. -/
def actionOf? (d : Database) (old : StoredRow) (new : Option StoredRow) (l : Link) :
    Option ReferentialAction :=
  let action := if new.isSome then l.reference.onUpdate else l.reference.onDelete
  let isKept := match d.table? l.parent, new with
    | some parent, some new => parent.keepsTie l old new
    | _, _ => false
  if action = .noAction || isKept then none else some action

/-- The row of a child after the row that it refers to was changed or removed, none if it is to be
removed itself. It must be accepted like any other. -/
def followedRow (d : Database) (l : Link) (action : ReferentialAction) (new : Option StoredRow)
    (row : StoredRow) : Except Fault (Option StoredRow) := do
  let child ← d.table l.child
  match child.followed l action new row with
  | none => return none
  | some cells =>
    let changed ← child.changedRow row cells
    match (child.without row.number).accept (some .abort) changed with
    | .ok (stored, _) => return some stored
    | .error (.failed fault _) => throw fault
    | .error .passedOver => return some row

/-- How far actions go on from table to table. -/
def deepest : Nat := 1000

/-- Puts a row in the place of another, or removes that one, and lets the rows that refer to it
follow. The fuel bounds how far they do. -/
def alter : Nat → String → StoredRow → Option StoredRow → Database → Except Fault Database
  | fuel, table, old, new, d => do
    let t ← d.table table
    let due := (d.linksTo table).filterMap fun l => (d.actionOf? old new l).map fun a => (l, a)
    let d := d.put (t.exchange old new)
    match fuel with
    | 0 => if due.isEmpty then return d else throw .tooManyLevels
    | fuel + 1 =>
      due.foldlM
        (fun d entry =>
          let (l, action) := entry
          let rows := d.referring l old
          if action = .restrict then
            if rows.isEmpty then .ok d else .error .referenceRestricted
          else
            rows.foldlM
              (fun d row => do
                let child ← d.table l.child
                match child.rows.find? (·.number == row.number) with
                | none => return d
                | some row => alter fuel l.child row (← d.followedRow l action new row) d)
              d)
        d

/-- Puts a row in the place of another, or removes that one, with all that follows if references are
enforced. -/
def change (d : Database) (enforcing : Bool) (table : String) (old : StoredRow)
    (new : Option StoredRow) : Except Fault Database :=
  if enforcing then alter deepest table old new d
  else do return d.put ((← d.table table).exchange old new)

end Database

end SqlSchema.Sqlite
