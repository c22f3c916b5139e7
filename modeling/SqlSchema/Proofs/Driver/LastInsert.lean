import SqlSchema.Proofs.Driver.History
import SqlSchema.Sqlite.Engine

/-! # The number of the row that a connection inserted last

SQLite reports with every statement the number of the row that the connection inserted last. The
driver passes it on with statements that start like insertions, so that one of them that inserts
nothing is given the number of an earlier row. -/

namespace SqlSchema.Driver

open Connection Text

variable {π ω : Type} {e : Engine π ω}

/-- An engine whose connections keep a number, `latest`, which is 0 at first and then that of the
row that any statement inserted last, and which report it like SQLite. Of a text of statements,
`inserted` is the number of the last row that it inserts, if it inserts one. -/
structure RowNumbers (e : Engine π ω) where
  inserted : String → π → ω → Option Int64
  latest : π → Int64
  latest_connect : ∀ {config world pool world'},
    e.connect config world = (.ok pool, world') → latest pool = 0
  latest_select : ∀ sql pool world,
    latest (e.select sql pool world).2.1 = (inserted sql pool world).getD (latest pool)
  latest_modify : ∀ sql pool world,
    latest (e.modify sql pool world).2.1 = (inserted sql pool world).getD (latest pool)
  reports_latest : ∀ {sql pool world effect pool' world'},
    e.modify sql pool world = (.ok effect, pool', world') →
      effect.reportedId = (latest pool').toInt
  generatedId_eq : e.generatedId = Sqlite.generatedId

/-- What a statement without rows changed, if it was one that went through. -/
def modified? : Except DriverFault Execution → Option Modified
  | .ok (.modified m) => some m
  | _ => none

theorem modified?_eq_some_iff {result : Except DriverFault Execution} {m : Modified} :
    modified? result = some m ↔ result = .ok (.modified m) := by
  rcases result with cause | s | m' | r <;> simp [modified?]

/-- The identifier that the number of a row is passed on as. -/
def idOf (number : Int64) : Option Nat :=
  if 0 < number.toInt then some number.toInt.toNat else none

theorem idOf_zero : idOf 0 = none :=
  rfl

theorem isSome_idOf {number : Int64} : (idOf number).isSome = true ↔ 0 < number.toInt := by
  rw [idOf]
  split <;> simp [*]

namespace RowNumbers

variable (numbers : RowNumbers e)

/-! ## The rows of a connection -/

def insertedBy (s : Pooled π ω) : Command → Option Int64
  | .execute sql =>
    s.pool.bind fun pool =>
      if (trim sql).isEmpty then none else numbers.inserted (trim sql) pool s.world
  | _ => none

/-- The numbers of the rows of a connection after one more call, of each statement that of the last
row. A new connection has inserted none. -/
def after (s : Pooled π ω) (rows : List Int64) (command : Command) : Response → List Int64
  | .connected (.ok ()) => []
  | _ => rows ++ (numbers.insertedBy s command).toList

/-- The numbers of the rows that the connection at hand has inserted after some calls. -/
def rowsAfter (d : Driver (Pooled π ω)) : List Command → Pooled π ω → List Int64 → List Int64
  | [], _, rows => rows
  | command :: commands, s, rows =>
    let (response, next) := d.respond s command
    rowsAfter d commands next (numbers.after s rows command response)

/-- The connection there may be keeps the number of the last of some rows. -/
def Keeps (s : Pooled π ω) (rows : List Int64) : Prop :=
  ∀ pool ∈ s.pool, numbers.latest pool = rows.getLast?.getD 0

theorem getLast?_append_toList (rows : List Int64) (number : Option Int64) :
    (rows ++ number.toList).getLast? = number.or rows.getLast? := by
  cases number with
  | none => simp
  | some n => simp

/-- What a connection keeps after a statement, whatever the outcome. -/
theorem latest_run (sql : String) (pool : π) (world : ω) :
    numbers.latest (e.run sql pool world).2.1 =
      (numbers.inserted sql pool world).getD (numbers.latest pool) := by
  rw [Engine.run]
  split
  · rw [← numbers.latest_select]
    split <;> simp only [*]
  · rw [← numbers.latest_modify]
    split <;> simp only [*]

variable {numbers}

theorem Keeps.execute {s : Pooled π ω} {rows : List Int64} (h : numbers.Keeps s rows)
    (sql : String) :
    numbers.Keeps (e.executePool sql s).2
      (rows ++ (numbers.insertedBy s (.execute sql)).toList) := by
  rw [Engine.executePool]
  cases hpool : s.pool with
  | none =>
      intro pool hmem
      rw [hpool] at hmem
      cases hmem
  | some pool =>
      have hlatest := h pool hpool
      dsimp only
      rw [insertedBy, hpool, Option.bind_some]
      split
      · rw [Option.toList_none, List.append_nil]
        exact h
      · rintro _ ⟨⟩
        rw [numbers.latest_run, getLast?_append_toList, hlatest]
        cases numbers.inserted (trim sql) pool s.world <;> rfl

/-- Every call keeps the number of the last row, a new connection starting from none. -/
theorem Keeps.respond {s : Pooled π ω} {rows : List Int64} (h : numbers.Keeps s rows)
    (config : Config) (command : Command) :
    let (response, next) := (e.driver config).respond s command
    numbers.Keeps next (numbers.after s rows command response) := by
  cases command with
  | connect =>
      dsimp only [Driver.respond, Engine.driver]
      rw [Engine.connectPool]
      split
      · rename_i pool world hconnect
        rintro _ ⟨⟩
        exact numbers.latest_connect hconnect
      · change numbers.Keeps _ (rows ++ [])
        rw [List.append_nil]
        exact h
  | disconnect =>
      dsimp only [Driver.respond, Engine.driver]
      rcases e.disconnectPool_cases s with ⟨hpool, heq⟩ | ⟨pool, -, heq⟩ <;> rw [heq]
      · intro pool hmem
        rw [hpool] at hmem
        cases hmem
      · nofun
  | execute sql => exact h.execute sql

/-- A run of calls keeps the number of the last row. -/
theorem Keeps.respondAll {s : Pooled π ω} {rows : List Int64} (h : numbers.Keeps s rows)
    (config : Config) (commands : List Command) :
    let d := e.driver config
    numbers.Keeps (d.respondAll commands s).2 (numbers.rowsAfter d commands s rows) := by
  induction commands generalizing s rows with
  | nil => exact h
  | cons command commands ih => exact ih (h.respond config command)

/-! ## The number that is passed on -/

theorem modify_of_run {sql : String} {pool : π} {world : ω} {m : Modified}
    (hrun : (e.run sql pool world).1 = .modified m) :
    ∃ effect pool' world', e.modify sql pool world = (.ok effect, pool', world') ∧
      m.lastInsertId = e.generatedId sql effect := by
  rw [Engine.run] at hrun
  split at hrun
  · split at hrun <;> cases hrun
  · split at hrun
    · rename_i effect pool' world' hmodify
      cases hrun
      exact ⟨effect, pool', world', hmodify, rfl⟩
    · cases hrun

/-- A statement that changes rows is given the number of the last row of the connection, itself
included, if it starts like an insertion. -/
theorem run_modified {sql : String} {pool : π} {world : ω} {m : Modified}
    (hrun : (e.run sql pool world).1 = .modified m) :
    m.lastInsertId =
      if insertsRows sql then
        idOf ((numbers.inserted sql pool world).getD (numbers.latest pool))
      else none := by
  obtain ⟨effect, pool', world', hmodify, hid⟩ := modify_of_run hrun
  have hlatest := numbers.latest_modify sql pool world
  rw [hmodify] at hlatest
  rw [hid, numbers.generatedId_eq, Sqlite.generatedId, numbers.reports_latest hmodify, hlatest]
  cases insertsRows sql with
  | true => simp [idOf]
  | false => simp

theorem execute_modified {s : Pooled π ω} {rows : List Int64} (h : numbers.Keeps s rows)
    {sql : String} {m : Modified} (hm : (e.executePool sql s).1 = .ok (.modified m)) :
    m.lastInsertId =
      if insertsRows (trim sql) then
        ((numbers.insertedBy s (.execute sql)).or rows.getLast?).bind idOf
      else none := by
  rw [Engine.executePool] at hm
  cases hpool : s.pool with
  | none =>
      rw [hpool] at hm
      cases hm
  | some pool =>
      rw [hpool] at hm
      dsimp only at hm
      split at hm
      · cases hm
      · rename_i hblank
        have hlast : idOf (rows.getLast?.getD 0) = rows.getLast?.bind idOf := by
          cases rows.getLast? with
          | none => exact idOf_zero
          | some number => rfl
        rw [numbers.run_modified (Except.ok.inj hm), h pool hpool, insertedBy, hpool,
          Option.bind_some, if_neg hblank]
        cases numbers.inserted (trim sql) pool s.world with
        | none => rw [Option.getD_none, hlast, Option.none_or]
        | some number => rfl

end RowNumbers

end SqlSchema.Driver
