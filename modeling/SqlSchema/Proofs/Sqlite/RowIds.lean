import SqlSchema.Proofs.Driver.LastInsert

/-! # The numbers of rows in SQLite

A connection keeps the number of the row that it inserted last, through statements of every kind
and those that fail. So an insertion that leaves out all of its rows carries an earlier number. -/

namespace SqlSchema.Sqlite

open Connection Driver

/-! ## Texts of statements -/

def Progress.answer? (c : Command) (tokens : List Token) (p : Progress) : Option Answer :=
  let s : Setting := {
    journal := p.mode.journal
    enforcing := p.mode.enforcing
    sources := { database := p.database, counters := p.counters } }
  match c.run s with
  | .error _ => none
  | .ok (_, answer) =>
    if (parameterFault? tokens).isSome || p.mode.readOnly && c.writes p.database then none
    else some answer

/-- The number of the last row that one more command inserts, if it inserts one. -/
def Progress.inserted? (c : Command) (tokens : List Token) (p : Progress) : Option Int64 :=
  (p.answer? c tokens).bind Answer.inserted

theorem Progress.lastRowId_step (c : Command) (tokens : List Token) (p : Progress) :
    (p.step c tokens).counters.lastRowId =
      (p.inserted? c tokens).getD p.counters.lastRowId := by
  rw [step, inserted?, answer?]
  dsimp only
  generalize c.run _ = outcome
  cases outcome with
  | error fault => rfl
  | ok result =>
      cases parameterFault? tokens with
      | some fault => rfl
      | none =>
          dsimp only
          rw [Option.isSome_none, Bool.false_or]
          split <;> rfl

def insertedByTokens : Nat → List Token → Progress → Option Int64
  | 0, _, _ => none
  | fuel + 1, tokens, p =>
    match readCommand tokens with
    | .ok (some (c, own, rest)) =>
      let next := p.step c own
      if next.fault.isSome then p.inserted? c own
      else (insertedByTokens fuel rest next).or (p.inserted? c own)
    | _ => none

theorem lastRowId_runTokens (fuel : Nat) (tokens : List Token) (p : Progress) :
    (runTokens fuel tokens p).counters.lastRowId =
      (insertedByTokens fuel tokens p).getD p.counters.lastRowId := by
  induction fuel generalizing tokens p with
  | zero => rfl
  | succ fuel ih =>
      rw [runTokens, insertedByTokens]
      generalize readCommand tokens = command
      rcases command with fault | _ | ⟨c, own, rest⟩
      · rfl
      · rfl
      · dsimp only
        split
        · exact p.lastRowId_step c own
        · rw [ih, p.lastRowId_step]
          cases insertedByTokens fuel rest (p.step c own) <;> rfl

def insertedBy (sql : String) (p : Pool) (disk : Disk) : Option Int64 :=
  let tokens := tokensOf sql
  insertedByTokens tokens.length tokens
    { database := p.database disk, counters := p.counters, mode := p.mode }

theorem Pool.counters_store (p : Pool) (d : Database) (disk : Disk) :
    (p.store d disk).1.counters = p.counters := by
  rw [store]
  split <;> rfl

theorem Pool.counters_run (p : Pool) (sql : String) (disk : Disk) :
    (p.run sql disk).2.1.counters = (p.run sql disk).1.counters :=
  Pool.counters_store _ _ _

theorem Pool.lastRowId_run (p : Pool) (sql : String) (disk : Disk) :
    (p.run sql disk).2.1.counters.lastRowId =
      (insertedBy sql p disk).getD p.counters.lastRowId := by
  rw [p.counters_run]
  exact lastRowId_runTokens _ _ _

theorem Pool.counters_openFile {path : String} {readOnly : Bool} {disk disk' : Disk} {p : Pool}
    (h : openFile path readOnly disk = (.ok p, disk')) : p.counters = {} := by
  rw [openFile] at h
  dsimp only at h
  split at h
  · cases h
    rfl
  · split at h
    · cases h
      rfl
    · split at h
      · split_ifs at h <;> cases h <;> rfl
      · cases h

theorem counters_connect {config : Config} {disk disk' : Disk} {p : Pool}
    (h : connect config disk = (.ok p, disk')) : p.counters = {} := by
  rw [connect] at h
  split at h
  · exact Pool.counters_openFile h
  · cases h
    rfl
  · cases h

theorem select_pool (sql : String) (p : Pool) (disk : Disk) :
    (select sql p disk).2 = (p.run sql disk).2 := by
  rw [select]
  rcases p.run sql disk with ⟨progress, next⟩
  cases hfault : progress.fault <;> simp only [hfault]

theorem modify_pool (sql : String) (p : Pool) (disk : Disk) :
    (modify sql p disk).2 = (p.run sql disk).2 := by
  rw [modify]
  rcases p.run sql disk with ⟨progress, next⟩
  cases hfault : progress.fault <;> simp only [hfault]

theorem reportedId_of_modify {sql : String} {p p' : Pool} {disk disk' : Disk} {effect : Effect}
    (h : modify sql p disk = (.ok effect, p', disk')) :
    effect.reportedId = p'.counters.lastRowId.toInt := by
  have hcounters := p.counters_run sql disk
  rw [← modify_pool, h] at hcounters
  rw [modify] at h
  rcases hrun : p.run sql disk with ⟨progress, next⟩
  rw [hrun] at h hcounters
  rw [hcounters]
  cases hfault : progress.fault with
  | some fault => simp only [hfault, reduceCtorEq, Prod.mk.injEq, false_and] at h
  | none =>
      simp only [hfault, Prod.mk.injEq, Except.ok.injEq] at h
      rw [← h.1]

/-- SQLite keeps the number of the row that a connection inserted last. -/
def rowNumbers : RowNumbers engine where
  inserted := insertedBy
  latest p := p.counters.lastRowId
  latest_connect h := by rw [counters_connect h]
  latest_select := by
    intro sql p disk
    change (select sql p disk).2.1.counters.lastRowId = _
    rw [select_pool, p.lastRowId_run]
  latest_modify := by
    intro sql p disk
    change (modify sql p disk).2.1.counters.lastRowId = _
    rw [modify_pool, p.lastRowId_run]
  reports_latest := reportedId_of_modify
  generatedId_eq := by
    rw [engine]

/-! ## Identifiers of statements -/

/-- The identifier that comes with a statement, after any calls on a new driver. A statement that
starts like an insertion carries the number of the last row that it inserted, or if it inserted
none, that of the last row which the connection inserted before, provided that the number is
positive; no other statement carries one. So a statement that inserted nothing carries an
identifier just when it starts like an insertion and the row before has a positive number. -/
theorem lastInsertId_history {π ω : Type} {e : Engine π ω} (numbers : RowNumbers e)
    (config : Config) (world : ω) (commands : List Driver.Command) (sql : String) {m : Modified} :
    let d := e.driver config
    let s := (d.respondAll commands { world := world }).2
    let own := numbers.insertedBy s (.execute sql)
    let earlier := (numbers.rowsAfter d commands { world := world } []).getLast?
    (d.execute sql s).1 = .ok (.modified m) →
      (m.lastInsertId = if insertsRows (Text.trim sql) then (own.or earlier).bind idOf else none) ∧
        (own = none → (m.lastInsertId.isSome = true ↔
          insertsRows (Text.trim sql) = true ∧ ∃ number ∈ earlier, 0 < number.toInt)) := by
  intro d s own earlier hm
  have hnew : numbers.Keeps { world := world } [] := nofun
  have hid := RowNumbers.execute_modified (hnew.respondAll config commands) hm
  refine ⟨hid, fun hown => ?_⟩
  rw [hid]
  change (if insertsRows (Text.trim sql) then (own.or earlier).bind idOf else none).isSome = true ↔ _
  rw [hown, Option.none_or]
  cases insertsRows (Text.trim sql) with
  | false => simp
  | true =>
      rw [if_pos rfl, and_iff_right rfl, Option.isSome_bind, Option.any_eq_true]
      simp only [isSome_idOf, Option.mem_def]

abbrev memoryDriver : Driver (Pooled Pool Disk) :=
  engine.driver ⟨.nil, "", .sqlite, .inMemory⟩

def oneRow : List Driver.Command :=
  [.connect, .execute "CREATE TABLE t(i INTEGER PRIMARY KEY)", .execute "INSERT INTO t VALUES(7)"]

theorem lastInsertId_history_replaced :
    let s := (memoryDriver.respondAll oneRow { world := [] }).2
    let sql := "REPLACE INTO t VALUES(9)"
    (memoryDriver.execute sql s).1 = .ok (.modified ⟨1, some 9, 0⟩) ∧
      some 9 = if insertsRows (Text.trim sql) then
        ((rowNumbers.insertedBy s (.execute sql)).or
          (rowNumbers.rowsAfter memoryDriver oneRow { world := [] } []).getLast?).bind idOf
        else none := by
  have hresult : (memoryDriver.execute "REPLACE INTO t VALUES(9)"
      (memoryDriver.respondAll oneRow { world := [] }).2).1 = .ok (.modified ⟨1, some 9, 0⟩) :=
    modified?_eq_some_iff.mp (by decide +kernel)
  exact ⟨hresult, (lastInsertId_history rowNumbers ⟨.nil, "", .sqlite, .inMemory⟩ [] oneRow
    "REPLACE INTO t VALUES(9)" hresult).1⟩

/-- An insertion whose row is passed over carries the identifier of an earlier row. -/
theorem lastInsertId_ignored :
    let s := (memoryDriver.respondAll oneRow { world := [] }).2
    let sql := "INSERT OR IGNORE INTO t VALUES(7)"
    (memoryDriver.execute sql s).1 = .ok (.modified ⟨0, some 7, 0⟩) ∧
      rowNumbers.insertedBy s (.execute sql) = none := by
  exact ⟨modified?_eq_some_iff.mp (by decide +kernel), by decide +kernel⟩

end SqlSchema.Sqlite
