import SqlSchema.Connection.Factory
import SqlSchema.Proofs.Session.Verification
import SqlSchema.Proofs.Statement.Verb

/-! # Results of the kind that was asked for

A pooled driver takes the kind of a statement from its first word, and a session takes the answer
of an operation from the kind of the result. The two agree on every statement of the library. -/

namespace SqlSchema

open Connection Driver Schema Statement Text Traversal

/-! ## Plans that succeed -/

namespace Connection

/-- The results of the statements of a plan, and what is answered then. -/
inductive Plan.Yields : Plan → List String → List Execution → Receipt → Prop
  | skip (receipt : Receipt) : Yields (.skip receipt) [] [] receipt
  | statement (sql context : String) (receipt : Execution → Receipt) (result : Execution) :
      Yields (.statement sql context receipt) [sql] [result] (receipt result)
  | batch (sqls : List String) (context : Nat → String) (receipt : List Execution → Receipt)
      (results : List Execution) :
      Yields (.batch sqls context receipt) sqls results (receipt results)

namespace Session

section Plans

variable {σ α β : Type} {c next : Session σ}

theorem answerMap_eq_ok_iff {f : α → β} {a : Answer σ α} {value : β} :
    answerMap f a = (.ok value, next) ↔ ∃ x, a = (.ok x, next) ∧ f x = value := by
  obtain ⟨result, after⟩ := a
  cases result <;> simp [answerMap, Except.map, and_comm]

theorem run_eq_ok_iff {sql context : String} {result : Execution} :
    c.run sql context = (.ok result, next) ↔
      ∃ t, c.driver.execute sql c.state = (.ok result, t) ∧ result.isRejected = false ∧
        next = { c with state := t } := by
  constructor
  · intro h
    rcases hresult : c.driver.execute sql c.state with ⟨cause | given, t⟩
    · rw [run_failed hresult] at h
      cases h
    · cases given with
      | rejected r =>
          rw [run_rejected hresult] at h
          cases h
      | selected rows =>
          rw [run_accepted hresult rfl] at h
          cases h
          exact ⟨t, rfl, rfl, rfl⟩
      | modified m =>
          rw [run_accepted hresult rfl] at h
          cases h
          exact ⟨t, rfl, rfl, rfl⟩
  · rintro ⟨t, hresult, haccepted, rfl⟩
    exact run_accepted hresult haccepted context

variable (hbatch : c.driver.executeBatch = executeEach c.driver.execute)

include hbatch

theorem runAll_eq_ok_iff {sqls : List String} {context : Nat → String}
    {results : List Execution} :
    c.runAll sqls context = (.ok results, next) ↔
      ∃ t, Accepted c.driver.execute sqls results c.state t ∧ next = { c with state := t } := by
  constructor
  · intro h
    cases course c.driver.execute sqls c.state with
    | accepted haccepted =>
        rw [runAll_accepted hbatch haccepted] at h
        cases h
        exact ⟨_, haccepted, rfl⟩
    | rejected hsqls haccepted hresult =>
        rw [hsqls, runAll_rejected hbatch haccepted hresult] at h
        cases h
    | failed hsqls haccepted hresult =>
        rw [hsqls, runAll_failed hbatch haccepted hresult] at h
        cases h
  · rintro ⟨t, haccepted, rfl⟩
    exact runAll_accepted hbatch haccepted context

/-- A plan succeeds when its statements are accepted. -/
theorem follow_eq_ok_iff {p : Plan} {receipt : Receipt} :
    c.follow p = (.ok receipt, next) ↔
      ∃ sqls results t, p.Yields sqls results receipt ∧
        Accepted c.driver.execute sqls results c.state t ∧ next = { c with state := t } := by
  constructor
  · intro h
    cases p with
    | defect cause => cases h
    | skip receipt =>
        cases h
        exact ⟨[], [], c.state, .skip _, .nil _, rfl⟩
    | statement sql context receipt =>
        obtain ⟨result, hrun, rfl⟩ := answerMap_eq_ok_iff.mp h
        obtain ⟨t, hresult, haccepted, hnext⟩ := run_eq_ok_iff.mp hrun
        exact ⟨[sql], [result], t, .statement _ _ _ _,
          Accepted.singleton_iff.mpr ⟨result, rfl, hresult, haccepted⟩, hnext⟩
    | batch sqls context receipt =>
        obtain ⟨results, hrun, rfl⟩ := answerMap_eq_ok_iff.mp h
        obtain ⟨t, haccepted, hnext⟩ := (runAll_eq_ok_iff hbatch).mp hrun
        exact ⟨sqls, results, t, .batch _ _ _ _, haccepted, hnext⟩
  · rintro ⟨sqls, results, t, hyields, haccepted, rfl⟩
    cases hyields with
    | skip =>
        obtain ⟨-, rfl⟩ := Accepted.nil_iff.mp haccepted
        rfl
    | statement sql context receipt result =>
        obtain ⟨_, ⟨⟩, hresult, hkept⟩ := Accepted.singleton_iff.mp haccepted
        exact answerMap_eq_ok_iff.mpr
          ⟨result, run_eq_ok_iff.mpr ⟨t, hresult, hkept, rfl⟩, rfl⟩
    | batch sqls context receipt results =>
        exact answerMap_eq_ok_iff.mpr
          ⟨results, (runAll_eq_ok_iff hbatch).mpr ⟨t, haccepted, rfl⟩, rfl⟩

theorem answer_eq_ok_iff {q : Request} {receipt : Receipt} :
    c.answer q = (.ok receipt, next) ↔ c.status.connected = true ∧ ∃ sqls results t,
      (q.plan c.driver.escape c.registry).Yields sqls results receipt ∧
        Accepted c.driver.execute sqls results c.state t ∧ next = { c with state := t } := by
  cases hstatus : c.status.connected with
  | false => simp [answer_of_closed hstatus]
  | true => rw [answer_of_open hstatus, follow_eq_ok_iff hbatch, and_iff_right rfl]

end Plans

end Session

end Connection

/-! ## Kinds of results -/

theorem MySql.returnsRows_engine :
    MySql.engine.returnsRows = Driver.returnsRows MySql.engine.backend := by
  rw [MySql.engine]

theorem Sqlite.returnsRows_engine :
    Sqlite.engine.returnsRows = Driver.returnsRows Sqlite.engine.backend := by
  rw [Sqlite.engine]

namespace Driver.Engine

variable {π ω : Type} {e : Engine π ω}

theorem run_kind (sql : String) (pool : π) (world : ω) :
    (∃ r, (e.run sql pool world).1 = .rejected r) ∨
      if e.returnsRows sql then ∃ rows, (e.run sql pool world).1 = .selected rows
      else ∃ m, (e.run sql pool world).1 = .modified m := by
  unfold run
  split
  · rcases e.select sql pool world with ⟨cause | ⟨columns, rows⟩, pool, world⟩
    · exact .inl ⟨_, rfl⟩
    · exact .inr ⟨_, rfl⟩
  · rcases e.modify sql pool world with ⟨cause | effect, pool, world⟩
    · exact .inl ⟨_, rfl⟩
    · exact .inr ⟨_, rfl⟩

/-- The kind of a statement decides the kind of the result that accepts it. -/
theorem executePool_kind {sql : String} {s t : Pooled π ω} {result : Execution}
    (hresult : e.executePool sql s = (.ok result, t)) (haccepted : result.isRejected = false) :
    if e.returnsRows (trim sql) then ∃ rows, result = .selected rows
    else ∃ m, result = .modified m := by
  rw [executePool] at hresult
  cases hpool : s.pool with
  | none =>
      rw [hpool] at hresult
      cases hresult
  | some pool =>
      rw [hpool] at hresult
      dsimp only at hresult
      split at hresult
      · cases hresult
        cases haccepted
      · cases hresult
        rcases e.run_kind (trim sql) pool s.world with ⟨r, hr⟩ | hkind
        · rw [hr] at haccepted
          cases haccepted
        · exact hkind

variable (hrows : e.returnsRows = Driver.returnsRows e.backend)
variable {escape : Escaper} {v : Verb} {sql : String} {s t : Pooled π ω} {results : List Execution}

include hrows

theorem exists_selected (h : Rendered escape .select sql)
    (haccepted : Accepted e.executePool [sql] results s t) :
    ∃ rows, results = [.selected rows] := by
  obtain ⟨result, rfl, hresult, hkept⟩ := Accepted.singleton_iff.mp haccepted
  have hkind := executePool_kind hresult hkept
  rw [hrows, if_pos ((h.returnsRows_trim e.backend).mpr rfl)] at hkind
  obtain ⟨rows, rfl⟩ := hkind
  exact ⟨rows, rfl⟩

theorem exists_modified_list {sqls : List String}
    (h : ∀ sql ∈ sqls, ∃ v, Rendered escape v sql ∧ v ≠ .select)
    (haccepted : Accepted e.executePool sqls results s t) :
    ∃ ms : List Modified, results = ms.map .modified := by
  induction haccepted with
  | nil s => exact ⟨[], rfl⟩
  | cons hresult hkept _ ih =>
      obtain ⟨⟨v, hv, hchanges⟩, hothers⟩ := List.forall_mem_cons.mp h
      obtain ⟨ms, rfl⟩ := ih hothers
      have hkind := executePool_kind hresult hkept
      rw [hrows, if_neg fun hselect => hchanges ((hv.returnsRows_trim e.backend).mp hselect)]
        at hkind
      obtain ⟨m, rfl⟩ := hkind
      exact ⟨m :: ms, rfl⟩

theorem exists_modified (h : Rendered escape v sql) (hchanges : v ≠ .select)
    (haccepted : Accepted e.executePool [sql] results s t) :
    ∃ m, results = [.modified m] := by
  have hall : ∀ given ∈ [sql], ∃ v, Rendered escape v given ∧ v ≠ .select := by
    rintro given (_ | ⟨_, ⟨⟩⟩)
    exact ⟨v, h, hchanges⟩
  obtain ⟨ms, rfl⟩ := exists_modified_list hrows hall haccepted
  obtain ⟨result, hms, -⟩ := Accepted.singleton_iff.mp haccepted
  obtain ⟨m, rfl, -⟩ := List.map_eq_singleton_iff.mp hms
  exact ⟨m, rfl⟩

end Driver.Engine

namespace Connection

/-- The results of the statements of a request, each of the kind that the statement asks for, and
what is answered then. -/
inductive Request.Fits (escape : Escaper) (r : Registry) :
    Request → List String → List Execution → Receipt → Prop
  | verifyTable {table ddl : String} {m : Modified} (h : r.compile escape table = .ok ddl) :
      Fits escape r (.verifyTable table) [ddl] [.modified m] (.statement ddl)
  | verifyTables {ddls : List String} {ms : List Modified} (h : r.compileAll escape = .ok ddls) :
      Fits escape r .verifyTables ddls (ms.map .modified) (.statements ddls)
  | insert (table : String) (values : Values) (m : Modified) :
      Fits escape r (.insert table values) [Statement.insert escape table values] [.modified m]
        (.modified m)
  | select (table : String) (selection : Selection) (rows : Selected) :
      Fits escape r (.select table selection) [Statement.select escape table selection]
        [.selected rows] (.selected rows)
  | update {table : String} {values : Values} {condition sql : String} {m : Modified}
      (h : update? table values condition = some sql) :
      Fits escape r (.update table values condition) [sql] [.modified m] (.outcome (.executed m))
  | updateSkipped {table : String} {values : Values} {condition : String}
      (h : update? table values condition = none) :
      Fits escape r (.update table values condition) [] [] (.outcome .skipped)
  | updateAll (table : String) (values : Values) (m : Modified) :
      Fits escape r (.updateAll table values) [Statement.updateAll escape table values]
        [.modified m] (.modified m)
  | delete {table condition sql : String} {m : Modified}
      (h : delete? table condition = some sql) :
      Fits escape r (.delete table condition) [sql] [.modified m] (.outcome (.executed m))
  | deleteSkipped {table condition : String} (h : delete? table condition = none) :
      Fits escape r (.delete table condition) [] [] (.outcome .skipped)
  | deleteAll (table : String) (m : Modified) :
      Fits escape r (.deleteAll table) [Statement.deleteAll table] [.modified m] (.modified m)

theorem Request.Fits.yields {escape : Escaper} {r : Registry} {q : Request} {sqls : List String}
    {results : List Execution} {receipt : Receipt} (h : q.Fits escape r sqls results receipt) :
    (q.plan escape r).Yields sqls results receipt := by
  cases h with
  | verifyTable h =>
      rw [plan, h]
      exact .statement _ _ _ _
  | verifyTables h =>
      rw [plan, h]
      exact .batch _ _ _ _
  | insert table values m => exact .statement _ _ _ _
  | select table selection rows => exact .statement _ _ _ _
  | update h =>
      rw [plan, h]
      exact .statement _ _ _ _
  | updateSkipped h =>
      rw [plan, h]
      exact .skip _
  | updateAll table values m => exact .statement _ _ _ _
  | delete h =>
      rw [plan, h]
      exact .statement _ _ _ _
  | deleteSkipped h =>
      rw [plan, h]
      exact .skip _
  | deleteAll table m => exact .statement _ _ _ _

def Request.IsRendered : Request → Prop
  | .executeBatch _ => False
  | _ => True

section Kinds

variable {π ω : Type} {e : Engine π ω} (hrows : e.returnsRows = Driver.returnsRows e.backend)
variable {escape : Escaper} {r : Registry} {q : Request} {sqls : List String}
variable {results : List Execution} {receipt : Receipt} {s t : Pooled π ω}

include hrows

theorem fits_unlessSkipped {sql? : Option String} {context : String} {v : Verb}
    (hsql : ∀ sql, sql? = some sql → Rendered escape v sql) (hchanges : v ≠ .select)
    (h : (Plan.unlessSkipped sql? context).Yields sqls results receipt)
    (haccepted : Accepted e.executePool sqls results s t) :
    sql? = none ∧ sqls = [] ∧ results = [] ∧ receipt = .outcome .skipped ∨
      ∃ sql m, sql? = some sql ∧ sqls = [sql] ∧ results = [.modified m] ∧
        receipt = .outcome (.executed m) := by
  cases sql? with
  | none =>
      cases h
      exact .inl ⟨rfl, rfl, rfl, rfl⟩
  | some sql =>
      cases h
      obtain ⟨m, ⟨⟩⟩ := e.exists_modified hrows (hsql sql rfl) hchanges haccepted
      exact .inr ⟨sql, m, rfl, rfl, rfl, rfl⟩

theorem Request.fits_of_yields (hq : q.IsRendered)
    (h : (q.plan escape r).Yields sqls results receipt)
    (haccepted : Accepted e.executePool sqls results s t) :
    q.Fits escape r sqls results receipt := by
  cases q with
  | verifyTable table =>
      rw [plan] at h
      cases hcompile : r.compile escape table with
      | error cause =>
          rw [hcompile] at h
          cases h
      | ok ddl =>
          rw [hcompile] at h
          cases h
          obtain ⟨m, ⟨⟩⟩ := e.exists_modified hrows (.create hcompile) (by decide) haccepted
          exact .verifyTable hcompile
  | verifyTables =>
      rw [plan] at h
      cases hcompile : r.compileAll escape with
      | error cause =>
          rw [hcompile] at h
          cases h
      | ok ddls =>
          rw [hcompile] at h
          cases h
          have hall : ∀ ddl ∈ sqls, ∃ v, Rendered escape v ddl ∧ v ≠ .select :=
            forall_mem_of_mapM_eq_ok (fun table ddl h => ⟨.create, .create h, by decide⟩) hcompile
          obtain ⟨ms, rfl⟩ := e.exists_modified_list hrows hall haccepted
          exact .verifyTables hcompile
  | insert table values =>
      cases h
      obtain ⟨m, ⟨⟩⟩ := e.exists_modified hrows (.insert table values) (by decide) haccepted
      exact .insert table values m
  | select table selection =>
      cases h
      obtain ⟨rows, ⟨⟩⟩ := e.exists_selected hrows (.select table selection) haccepted
      exact .select table selection rows
  | update table values condition =>
      rcases fits_unlessSkipped hrows (fun sql => @Rendered.update escape _ _ _ sql) (by decide) h
          haccepted with
        ⟨hsql, rfl, rfl, rfl⟩ | ⟨sql, m, hsql, rfl, rfl, rfl⟩
      · exact .updateSkipped hsql
      · exact .update hsql
  | updateAll table values =>
      cases h
      obtain ⟨m, ⟨⟩⟩ := e.exists_modified hrows (.updateAll table values) (by decide) haccepted
      exact .updateAll table values m
  | delete table condition =>
      rcases fits_unlessSkipped hrows (fun sql => @Rendered.delete escape _ _ sql) (by decide) h
          haccepted with
        ⟨hsql, rfl, rfl, rfl⟩ | ⟨sql, m, hsql, rfl, rfl, rfl⟩
      · exact .deleteSkipped hsql
      · exact .delete hsql
  | deleteAll table =>
      cases h
      obtain ⟨m, ⟨⟩⟩ :=
        e.exists_modified hrows (@Rendered.deleteAll escape table) (by decide) haccepted
      exact .deleteAll table m
  | executeBatch statements => exact hq.elim

end Kinds

namespace Session

variable {π ω : Type} {e : Engine π ω} {config : Config} {c : Session (Pooled π ω)}

/-- The verb of a statement tells drivers its kind, whatever else it holds; so a request that
succeeds on a pooled driver is answered from results of the kind that was asked for. -/
theorem statements_answeredInKind (hrows : e.returnsRows = Driver.returnsRows e.backend)
    (hdriver : c.driver = e.driver config) :
    (∀ escape v sql, Rendered escape v sql →
      (∀ b, Driver.returnsRows b (trim sql) = true ↔ v = .select) ∧
        (insertsRows (trim sql) = true ↔ v = .insert)) ∧
      (∀ starts ∈ [mySqlRowStarts, sqliteRowStarts, sqliteInsertStarts], ∀ sql lowered,
        LowerForm sql.toList lowered →
          startsWithAny starts sql =
            starts.any fun start => start.toList.isPrefixOf (dropBlanks lowered)) ∧
      (∀ table selection rows next,
        c.select table selection = (.ok rows, next) ↔ c.status.connected = true ∧
          ∃ t, c.driver.execute (Statement.select c.driver.escape table selection) c.state =
            (.ok (.selected rows), t) ∧ next = { c with state := t }) ∧
      ∀ q, q.IsRendered → ∀ receipt next,
        c.answer q = (.ok receipt, next) ↔ c.status.connected = true ∧ ∃ sqls results t,
          q.Fits c.driver.escape c.registry sqls results receipt ∧
            Accepted c.driver.execute sqls results c.state t ∧ next = { c with state := t } := by
  have hbatch : c.driver.executeBatch = executeEach c.driver.execute := by
    rw [hdriver]
    rfl
  have hanswers : ∀ q, q.IsRendered → ∀ receipt next,
      c.answer q = (.ok receipt, next) ↔ c.status.connected = true ∧ ∃ sqls results t,
        q.Fits c.driver.escape c.registry sqls results receipt ∧
          Accepted c.driver.execute sqls results c.state t ∧ next = { c with state := t } := by
    intro q hq receipt next
    rw [answer_eq_ok_iff hbatch]
    refine and_congr_right fun _ => exists_congr fun sqls => exists_congr fun results =>
      exists_congr fun t => and_congr_left fun haccepted => ?_
    constructor
    · intro hyields
      rw [hdriver] at haccepted
      exact Request.fits_of_yields hrows hq hyields haccepted.1
    · exact Request.Fits.yields
  refine ⟨fun escape v sql h => ⟨h.returnsRows_trim, h.insertsRows_trim⟩, ?_, ?_, hanswers⟩
  · intro starts hstarts sql lowered h
    refine startsWithAny_eq_of_lowerForm ?_ h
    revert starts
    decide
  · intro table selection rows next
    have hselect : c.select table selection = (.ok rows, next) ↔
        c.answer (.select table selection) = (.ok (.selected rows), next) := by
      rw [answer, answerMap_eq_ok_iff]
      simp
    rw [hselect, hanswers (.select table selection) trivial]
    refine and_congr_right fun _ => ⟨?_, ?_⟩
    · rintro ⟨_, _, t, ⟨⟩, haccepted, hnext⟩
      obtain ⟨_, ⟨⟩, hresult, -⟩ := Accepted.singleton_iff.mp haccepted
      exact ⟨t, hresult, hnext⟩
    · rintro ⟨t, hresult, hnext⟩
      exact ⟨_, _, t, .select table selection rows,
        Accepted.singleton_iff.mpr ⟨_, rfl, hresult, rfl⟩, hnext⟩

/-- A server that answers with rows and with a number of rows, and a database that is yet to be
connected. -/
theorem statements_answeredInKind_both :
    let place : Server :=
      { hostname := "localhost", port := 3306, username := "root", database := "app" }
    let server : MySql.Server :=
      { replies := [("SELECT * FROM t", .rows [] [[]]), ("DELETE FROM t", .done 3 0)] }
    let c := start (MySql.engine.driver ⟨.nil, "", .mySql, .server place⟩)
      { pool := some (), world := server } ⟨[]⟩
    let d := start (Sqlite.engine.driver ⟨.nil, "", .sqlite, .inMemory⟩) { world := [] } ⟨[]⟩
    (∃ rows next, c.select "t" {} = (.ok rows, next)) ∧
      (∃ m next, c.answer (.deleteAll "t") = (.ok (.modified m), next)) ∧
      ∀ rows next, d.select "t" {} ≠ (.ok rows, next) := by
  intro place server c d
  obtain ⟨-, -, hselect, hanswers⟩ :=
    statements_answeredInKind (c := c) MySql.returnsRows_engine rfl
  obtain ⟨-, -, hrefused, -⟩ :=
    statements_answeredInKind (c := d) Sqlite.returnsRows_engine rfl
  refine ⟨?_, ?_, ?_⟩
  · obtain ⟨result, t, h⟩ :=
      Accepted.exists_of_kept (show (c.driver.execute "SELECT * FROM t" c.state).1.toOption.map
        Execution.isRejected = some false by decide +kernel)
    obtain ⟨rows, ⟨⟩⟩ :=
      Engine.exists_selected MySql.returnsRows_engine (@Rendered.select id "t" {}) h
    obtain ⟨_, ⟨⟩, hresult, -⟩ := Accepted.singleton_iff.mp h
    exact ⟨rows, _, (hselect "t" {} rows _).mpr ⟨rfl, t, hresult, rfl⟩⟩
  · obtain ⟨result, t, h⟩ :=
      Accepted.exists_of_kept (show (c.driver.execute "DELETE FROM t" c.state).1.toOption.map
        Execution.isRejected = some false by decide +kernel)
    obtain ⟨m, ⟨⟩⟩ :=
      Engine.exists_modified MySql.returnsRows_engine (@Rendered.deleteAll id "t") (by decide) h
    exact ⟨m, _, (hanswers (.deleteAll "t") trivial _ _).mpr
      ⟨rfl, _, _, t, .deleteAll "t" m, h, rfl⟩⟩
  · intro rows next h
    obtain ⟨-, t, hresult, -⟩ := (hrefused "t" {} rows next).mp h
    cases hresult

end Session

end Connection

end SqlSchema
