import SqlSchema.Sqlite.Database

/-! The links that a statement needs. Before it runs, the references that it touches must be linked,
and so must those that the actions of references can touch in turn. Of several faults the last one
found is reported. -/

namespace SqlSchema.Sqlite

open SqlSchema.Schema

/-- What is done to rows of a table: they are inserted, one or several, removed, or changed in some
places. -/
inductive RowOperation
  | insertion (several : Bool)
  | removal
  | update (places : List Nat)
  deriving Repr, DecidableEq

/-- The references whose links were looked for because of their actions, and the last fault. -/
structure Survey where
  seen : List (String × Reference × Bool) := []
  fault : Option Fault := none

namespace Table

/-- Whether a reference of the table has one of some places. -/
def sharesPlace (t : Table) (places : List Nat) (r : Reference) : Bool :=
  (r.columns.filterMap t.place?).any places.contains

/-- Whether some places of the table are among those that a reference to it means. -/
def isTargeted (t : Table) (places : List Nat) (r : Reference) : Bool :=
  let primary := t.rowKey.toList.map RowKey.place
    ++ (t.keys.filter Key.primary).flatMap Key.places
  let targets := if r.targets.isEmpty then primary else r.targets.filterMap t.place?
  targets.any places.contains

end Table

namespace Database

/-- Whether a table refers to others or is referred to. -/
def isTied (d : Database) (t : Table) : Bool :=
  !t.references.isEmpty || !(d.referencesTo t).isEmpty

/-- The references to a table that an operation on it touches, each with its own table. A single new
row matters only where the look at it is deferred. -/
def touchedTo (d : Database) (t : Table) (op : RowOperation) : List (Table × Reference) :=
  (d.referencesTo t).filter fun entry =>
    match op with
    | .insertion several => several || entry.2.deferred
    | .removal => true
    | .update places => t.isTargeted places entry.2

/-- The references of a table that an operation on it touches, the latest first. An update that
touches any reference touches those of the table to itself. -/
def touchedFrom (d : Database) (t : Table) (op : RowOperation) : List Reference :=
  match op with
  | .update places =>
    let own := t.sharesPlace places
    let any := t.references.any own || !(d.touchedTo t op).isEmpty
    t.references.reverse.filter fun r => own r || (any && sameName r.table t.name)
  | _ => t.references.reverse

/-- The fault of a reference that is not linked. -/
def linkFault? (d : Database) (entry : Table × Reference) : Option Fault :=
  match d.link entry.1 entry.2 with
  | .error fault => some fault
  | .ok _ => none

def touchesAny (d : Database) (t : Table) (op : RowOperation) : Bool :=
  !(d.touchedFrom t op).isEmpty || !(d.touchedTo t op).isEmpty

/-- The fault of the references that an operation concerns: the first of those that it touches, or
else, where old rows are looked at, the last of all that lead to the table. -/
def operationFault? (d : Database) (t : Table) (op : RowOperation) : Option Fault :=
  let entries := (d.touchedFrom t op).map (fun r => (t, r)) ++ d.touchedTo t op
  let looksBack := match op with
    | .insertion _ => false
    | _ => d.touchesAny t op
  (entries.findSome? d.linkFault?).or
    (if looksBack then (d.referencesTo t).reverse.findSome? d.linkFault? else none)

/-- The action of a reference on an operation. -/
def actionOn (op : RowOperation) (r : Reference) : ReferentialAction :=
  match op with
  | .insertion _ => .noAction
  | .removal => r.onDelete
  | .update _ => r.onUpdate

/-- What an action does to the rows that refer to others, if it does something. -/
def resulting? (op : RowOperation) (action : ReferentialAction) (l : Link) : Option RowOperation :=
  match action, op with
  | .noAction, _ | .restrict, _ => none
  | .cascade, .removal => some .removal
  | _, _ => some (.update (l.places.map Prod.snd))

/-- Looks for the links of an operation and of what follows from it; `lenient` leaves aside those of
the operation itself. The fuel bounds how far it goes. -/
def survey (d : Database) : Nat → Bool → Table → RowOperation → Survey → Survey
  | 0, _, _, _, s => s
  | fuel + 1, lenient, t, op, s =>
    let found (s : Survey) (fault : Option Fault) : Survey :=
      if lenient then s else { s with fault := fault.or s.fault }
    let acting := (d.touchedTo t op).filter fun entry => actionOn op entry.2 ≠ .noAction
    acting.foldl
      (fun s entry =>
        let (child, r) := entry
        let mark := (child.name, r, op == .removal)
        match d.link child r with
        | .error fault => found s (some fault)
        | .ok l =>
          match resulting? op (actionOn op r) l with
          | none => s
          | some next =>
            if s.seen.contains mark then s
            else
              let inner := survey d fuel false child next ⟨mark :: s.seen, none⟩
              { inner with fault := s.fault.or inner.fault })
      (found s (d.operationFault? t op))

/-- The links of some operations on a table one after another must all be there. -/
def checkSurveyed (d : Database) (lenient : Bool) (t : Table) (ops : List RowOperation) :
    Except Fault Unit :=
  let fuel := 2 * d.references.length + 1
  match (ops.foldl (fun s op => d.survey fuel lenient t op s) {}).fault with
  | some fault => .error fault
  | none => .ok ()

/-- The links of an operation that writes to some places of a table must all be there. Where it can
replace rows it removes them. -/
def checkLinks (d : Database) (t : Table) (asked : Option Conflict) (places : List Nat)
    (op : RowOperation) : Except Fault Unit :=
  let replacing := d.isTied t && t.canReplace asked places
  d.checkSurveyed false t (if replacing then [.removal, op] else [op])

/-- The links of what follows from the end of a table must all be there. -/
def checkDropped (d : Database) (t : Table) : Except Fault Unit :=
  d.checkSurveyed true t [.removal]

end Database

end SqlSchema.Sqlite
