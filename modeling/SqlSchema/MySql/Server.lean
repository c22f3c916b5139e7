import SqlSchema.Driver.Pooled
import SqlSchema.MySql.Decode

/-! A MySQL server that answers from a script, on a network where it may be out of reach. It offers
no encryption, and it logs the statements that it executes. -/

namespace SqlSchema.MySql

open SqlSchema.Driver

structure ReplyColumn where
  name : String
  type : ColumnType
  deriving Repr, DecidableEq

/-- What the server refuses with: a code, a state of five characters and a message. -/
structure Refusal where
  code : Nat
  state : String
  message : String
  deriving Repr, DecidableEq

/-- A reply: the end of a statement without rows, a refusal, or rows of cells. -/
inductive Reply
  | done (affected id : Nat)
  | refused (r : Refusal)
  | rows (columns : List ReplyColumn) (rows : List (List (Option (List UInt8))))
  deriving Repr

structure Server where
  reachable : Bool := true
  loginRefusal : Option Refusal := none
  replies : List (String × Reply) := []
  log : List String := []
  deriving Repr

def testStatement : String := "SELECT 1"

/-- The reply to a statement that is not in the script: a one to the test, nothing to others. -/
def defaultReply (sql : String) : Reply :=
  if sql == testStatement then
    .rows [⟨"1", { code := 8, size := 1 }⟩] [[some [1, 0, 0, 0, 0, 0, 0, 0]]]
  else .done 0 0

def Refusal.reported (r : Refusal) : BackendFault :=
  .mySql r.code r.state r.message

namespace Server

def execute (sql : String) (s : Server) : Reply × Server :=
  ((Keyed.get? sql s.replies).getD (defaultReply sql), { s with log := s.log ++ [sql] })

/-- A connection: the server must be in reach, encryption must not be asked for, and the login must
not be refused. -/
def login (needsEncryption : Bool) (s : Server) : Except BackendFault Unit :=
  if !s.reachable then .error .networkUnreachable
  else if needsEncryption then .error .noEncryption
  else match s.loginRefusal with
    | some r => .error r.reported
    | none => .ok ()

end Server

end SqlSchema.MySql
