import SqlSchema.Driver.Basic

/-! # Statements one after another

A batch that is executed statement by statement has one of three courses: every statement is
accepted, or one is rejected or fails after those before it were accepted. -/

namespace SqlSchema.Driver

variable {σ : Type} {execute : String → σ → Except DriverFault Execution × σ}

/-- Statements that are accepted one after another, with their results. -/
inductive Accepted (execute : String → σ → Except DriverFault Execution × σ) :
    List String → List Execution → σ → σ → Prop
  | nil (s) : Accepted execute [] [] s s
  | cons {sql result s t rest results u} (hresult : execute sql s = (.ok result, t))
      (haccepted : result.isRejected = false) :
      Accepted execute rest results t u → Accepted execute (sql :: rest) (result :: results) s u

/-- The course of statements from a state. -/
inductive Course (execute : String → σ → Except DriverFault Execution × σ) (sqls : List String)
    (s : σ) : Prop
  | accepted {results t} (h : Accepted execute sqls results s t)
  | rejected {before sql after results t r u} (hsqls : sqls = before ++ sql :: after)
      (h : Accepted execute before results s t) (hresult : execute sql t = (.ok (.rejected r), u))
  | failed {before sql after results t cause u} (hsqls : sqls = before ++ sql :: after)
      (h : Accepted execute before results s t) (hresult : execute sql t = (.error cause, u))

theorem Course.cons {sql : String} {rest : List String} {result : Execution} {s t : σ}
    (hresult : execute sql s = (.ok result, t)) (haccepted : result.isRejected = false)
    (h : Course execute rest t) : Course execute (sql :: rest) s := by
  cases h with
  | accepted h => exact .accepted (.cons hresult haccepted h)
  | rejected hsqls h hlast =>
      exact .rejected (congrArg (sql :: ·) hsqls) (.cons hresult haccepted h) hlast
  | failed hsqls h hlast =>
      exact .failed (congrArg (sql :: ·) hsqls) (.cons hresult haccepted h) hlast

theorem course (execute : String → σ → Except DriverFault Execution × σ) (sqls : List String)
    (s : σ) : Course execute sqls s := by
  induction sqls generalizing s with
  | nil => exact .accepted (.nil s)
  | cons sql rest ih =>
      rcases hresult : execute sql s with ⟨cause | result, t⟩
      · exact .failed rfl (.nil s) hresult
      · cases result with
        | rejected r => exact .rejected rfl (.nil s) hresult
        | selected rows => exact .cons hresult rfl (ih t)
        | modified m => exact .cons hresult rfl (ih t)

namespace Accepted

variable {sqls : List String} {results : List Execution} {s t : σ}

theorem nil_iff : Accepted execute [] results s t ↔ results = [] ∧ t = s := by
  constructor
  · rintro ⟨⟩
    exact ⟨rfl, rfl⟩
  · rintro ⟨rfl, rfl⟩
    exact .nil t

theorem singleton_iff {sql : String} :
    Accepted execute [sql] results s t ↔
      ∃ result, results = [result] ∧ execute sql s = (.ok result, t) ∧
        result.isRejected = false := by
  constructor
  · intro h
    cases h with
    | @cons _ result _ _ _ _ _ hresult haccepted hrest =>
        obtain ⟨rfl, rfl⟩ := nil_iff.mp hrest
        exact ⟨result, rfl, hresult, haccepted⟩
  · rintro ⟨result, rfl, hresult, haccepted⟩
    exact .cons hresult haccepted (.nil t)

theorem exists_of_kept {sql : String}
    (h : (execute sql s).1.toOption.map Execution.isRejected = some false) :
    ∃ result t, Accepted execute [sql] [result] s t := by
  rcases hresult : execute sql s with ⟨cause | result, t⟩
  · rw [hresult] at h
    cases h
  · rw [hresult] at h
    exact ⟨result, t, .cons hresult (Option.some.inj h) (.nil t)⟩

theorem length_eq (h : Accepted execute sqls results s t) : sqls.length = results.length := by
  induction h with
  | nil s => rfl
  | cons _ _ _ ih => simp [ih]

theorem isRejected_of_mem (h : Accepted execute sqls results s t) :
    ∀ result ∈ results, result.isRejected = false := by
  induction h with
  | nil s => simp
  | cons _ haccepted _ ih => simpa [haccepted] using ih

theorem executeEach_append (h : Accepted execute sqls results s t) (more : List String) :
    executeEach execute (sqls ++ more) s =
      ((executeEach execute more t).1.map (results ++ ·), (executeEach execute more t).2) := by
  induction h with
  | nil s =>
      rw [List.nil_append]
      rcases executeEach execute more s with ⟨cause | results, t⟩ <;> rfl
  | cons hresult haccepted h ih =>
      rw [List.cons_append, executeEach, hresult]
      simp only [haccepted, Bool.false_eq_true, if_false, ih]
      cases (executeEach execute more _).1 <;> rfl

theorem executeEach_eq (h : Accepted execute sqls results s t) :
    executeEach execute sqls s = (.ok results, t) := by
  simpa [executeEach, Except.map] using h.executeEach_append []

theorem executeEach_rejected (h : Accepted execute sqls results s t) {sql : String} {u : σ}
    {r : Rejection} (hresult : execute sql t = (.ok (.rejected r), u)) (after : List String) :
    executeEach execute (sqls ++ sql :: after) s = (.ok (results ++ [.rejected r]), u) := by
  simp [h.executeEach_append, executeEach, hresult, Execution.isRejected, Except.map]

theorem executeEach_failed (h : Accepted execute sqls results s t) {sql : String} {u : σ}
    {cause : DriverFault} (hresult : execute sql t = (.error cause, u)) (after : List String) :
    executeEach execute (sqls ++ sql :: after) s = (.error cause, u) := by
  simp [h.executeEach_append, executeEach, hresult, Except.map]

end Accepted

/-! ## Logs of statements -/

/-- The driver with a log of the statements that it executes, those of a batch included. -/
def logged (d : Driver σ) : Driver (σ × List String) where
  backend := d.backend
  config := d.config
  escape := d.escape
  connect := fun s => ((d.connect s.1).1, (d.connect s.1).2, s.2)
  disconnect := fun s => ((d.disconnect s.1).1, (d.disconnect s.1).2, s.2)
  isConnected := fun s => ((d.isConnected s.1).1, (d.isConnected s.1).2, s.2)
  execute := fun sql s => ((d.execute sql s.1).1, (d.execute sql s.1).2, s.2 ++ [sql])
  stats := fun s => d.stats s.1

theorem execute_logged {d : Driver σ} {sql : String} {s t : σ}
    {result : Except DriverFault Execution} (h : d.execute sql s = (result, t))
    (log : List String) : d.logged.execute sql (s, log) = (result, t, log ++ [sql]) := by
  simp [logged, h]

/-- What a driver accepts goes to its log. -/
theorem Accepted.logged {d : Driver σ} {sqls : List String} {results : List Execution} {s t : σ}
    (h : Accepted d.execute sqls results s t) (log : List String) :
    Accepted d.logged.execute sqls results (s, log) (t, log ++ sqls) := by
  induction h generalizing log with
  | nil s => simpa using Accepted.nil (s, log)
  | @cons sql _ _ _ rest _ _ hresult haccepted _ ih =>
      rw [List.append_cons]
      exact .cons (execute_logged hresult log) haccepted (ih (log ++ [sql]))

end SqlSchema.Driver
