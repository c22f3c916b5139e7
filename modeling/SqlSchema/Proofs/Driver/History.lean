import Mathlib.Data.List.Induction
import SqlSchema.Connection.Factory
import SqlSchema.Proofs.Text.Blank

/-! # The bookkeeping of a pooled driver

A driver remembers two numbers and whether it has a pool. After any run of calls each of them is
what the last response that bears on it says, whatever the backend replies. -/

namespace SqlSchema

open Connection Driver Text

/-! ## Calls and responses -/

namespace Driver

inductive Command
  | connect
  | disconnect
  | execute (sql : String)
  deriving Repr, DecidableEq

/-- What a driver returns from a call. -/
inductive Response
  | connected (result : Except DriverFault Unit)
  | disconnected (result : Except DriverFault Unit)
  | executed (result : Except DriverFault Execution)

namespace Response

end Response

variable {σ : Type}

def respond (d : Driver σ) (s : σ) : Command → Response × σ
  | .connect => (.connected (d.connect s).1, (d.connect s).2)
  | .disconnect => (.disconnected (d.disconnect s).1, (d.disconnect s).2)
  | .execute sql => (.executed (d.execute sql s).1, (d.execute sql s).2)

def respondAll (d : Driver σ) : List Command → σ → List Response × σ
  | [], s => ([], s)
  | command :: commands, s =>
    let (first, s) := d.respond s command
    let (others, s) := d.respondAll commands s
    (first :: others, s)

/-! ## The last response that bears on something -/

section Last

variable {α β : Type} {f : α → Option β}

end Last

end Driver

/-! ## What a call does -/

namespace Driver.Engine

variable {π ω : Type} {e : Engine π ω}

theorem disconnectPool_cases (e : Engine π ω) (s : Pooled π ω) :
    s.pool = none ∧ e.disconnectPool s = (.error .noConnection, s) ∨
      ∃ pool, s.pool = some pool ∧
        e.disconnectPool s = (.ok (), { s with pool := none, world := e.close pool s.world }) := by
  rw [disconnectPool]
  cases hpool : s.pool with
  | none => exact .inl ⟨rfl, rfl⟩
  | some pool => exact .inr ⟨pool, rfl, rfl⟩

/-- An update after an insertion keeps the identifier and sets the row count. -/
example :
    let place : Server := { hostname := "", port := 0, username := "", database := "" }
    let d := MySql.engine.driver ⟨.nil, "", .mySql, .server place⟩
    let server : MySql.Server := { replies := [("INSERT", .done 1 7), ("UPDATE", .done 2 0)] }
    let commands : List Command :=
      [.execute "INSERT", .connect, .execute " INSERT ", .execute " ", .execute "UPDATE",
        .disconnect]
    (d.respondAll commands { world := server }).2.stats = ⟨some 7, 2⟩ := by
  decide +kernel

end Driver.Engine

end SqlSchema
