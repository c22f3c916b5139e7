import SqlSchema.Driver.Basic
import SqlSchema.Text.Fragment

/-! A driver that answers from a script. It logs every statement; the first rule whose fragment
occurs in a statement gives the answer, and a rule for one use is then gone. Without a rule a
selection is empty, an insertion changes one row, and anything else changes two. -/

namespace SqlSchema.Driver

open SqlSchema.Connection SqlSchema.Text

/-- The answer of a rule: a failure, or a result. -/
inductive Reply
  | fail (wording : String)
  | reject (message : String) (milliseconds : Nat)
  | select (columns : List (String × String)) (rows : List (List Value)) (milliseconds : Nat)
  | modify (rowsAffected : Nat) (id : Option Nat) (milliseconds : Nat)
  deriving Repr

structure Rule where
  fragment : String
  once : Bool
  reply : Reply
  deriving Repr

/-- The state of a scripted driver. -/
structure Script where
  rules : List Rule
  log : List String := []
  connected : Bool := true
  stats : Stats := {}
  deriving Repr

def scriptedColumns (columns : List (String × String)) : List ColumnInfo :=
  columns.zipIdx.map fun entry => ⟨entry.1.1, entry.1.2, entry.2⟩

def Reply.answer (sql : String) : Reply → Except DriverFault Execution
  | .fail wording => .error (.stated wording)
  | .reject message milliseconds => .ok (.rejected ⟨message, milliseconds⟩)
  | .select columns rows milliseconds =>
    .ok (.selected ⟨scriptedColumns columns, rows.map Row.ofValues, milliseconds, sql⟩)
  | .modify rowsAffected id milliseconds => .ok (.modified ⟨rowsAffected, id, milliseconds⟩)

/-- The reply to a statement without a rule. -/
def defaultReply (sql : String) : Reply :=
  if startsWith "SELECT" sql then .select [] [] 0
  else if startsWith "INSERT" sql then .modify 1 (some 7) 0
  else .modify 2 none 0

/-- The reply to a statement and the rules that are left. -/
def replyTo (sql : String) : List Rule → Reply × List Rule
  | [] => (defaultReply sql, [])
  | rule :: rest =>
    if occurs rule.fragment sql then
      (rule.reply, if rule.once then rest else rule :: rest)
    else
      let (reply, rest) := replyTo sql rest
      (reply, rule :: rest)

def Script.execute (sql : String) (s : Script) : Except DriverFault Execution × Script :=
  let (reply, rules) := replyTo sql s.rules
  let s := { s with rules := rules, log := s.log ++ [sql] }
  match reply.answer sql with
  | .ok result => (.ok result, { s with stats := s.stats.record result })
  | .error cause => (.error cause, s)

def disconnectMark : String := "<disconnect>"

/-- The end of the connection, which may fail. -/
def Script.disconnect (failure : Option String) (s : Script) : Except DriverFault Unit × Script :=
  let s := { s with log := s.log ++ [disconnectMark], connected := false }
  match failure with
  | some wording => (.error (.stated wording), s)
  | none => (.ok (), s)

/-- The scripted driver of a configuration and an escaping rule, whose disconnection fails if a
failure is given. -/
def scripted (config : Config) (escape : Escaper) (failure : Option String) : Driver Script where
  backend := config.backend
  config := config
  escape := escape
  connect := fun s => (.ok (), { s with connected := true })
  disconnect := Script.disconnect failure
  isConnected := fun s => (s.connected, s)
  execute := Script.execute
  stats := Script.stats

end SqlSchema.Driver
