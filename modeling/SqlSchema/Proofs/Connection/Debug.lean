import SqlSchema.Connection.Debug
import SqlSchema.Connection.Factory
import SqlSchema.Proofs.Connection.Document
import SqlSchema.Proofs.Text.Quoted

/-! # Where the password shows

Neither documents, nor names for display, nor the diagnostics of sessions tell two passwords apart.
The diagnostic of a driver does: it holds the password in full. -/

namespace SqlSchema

namespace Text

/-- A text among others is joined to what does not depend on it. -/
theorem exists_joined_eq (separator : String) (before after : List String) :
    ∃ head tail, ∀ s, joined separator (before ++ s :: after) = head ++ s ++ tail := by
  induction before with
  | nil =>
      cases after with
      | nil => exact ⟨"", "", fun s => by simp [joined]⟩
      | cons next after =>
          refine ⟨"", separator ++ joined separator (next :: after), fun s => ?_⟩
          simp [joined, String.append_assoc]
  | cons first before ih =>
      obtain ⟨head, tail, hjoined⟩ := ih
      refine ⟨first ++ separator ++ head, tail, fun s => ?_⟩
      have hcons : joined separator (first :: (before ++ s :: after)) =
          first ++ separator ++ joined separator (before ++ s :: after) := by
        cases before <;> simp [joined]
      rw [List.cons_append, hcons, hjoined]
      simp [String.append_assoc]

end Text

namespace Connection

open SqlSchema.Driver SqlSchema.Schema SqlSchema.Text

/-! ## Configurations that differ in the password -/

/-- Two configurations that differ in nothing but the password are the same, or those of one server
under two passwords. -/
theorem Config.withoutPassword_eq_iff {c c' : Config} :
    c.withoutPassword = c'.withoutPassword ↔ c = c' ∨ ∃ (s : Server) (password : String),
      c.parameters = .server s ∧
        c' = { c with parameters := .server { s with password := password } } := by
  constructor
  · intro h
    obtain ⟨id, name, backend, parameters⟩ := c
    obtain ⟨id', name', backend', parameters'⟩ := c'
    simp only [Config.withoutPassword, Config.mk.injEq] at h
    obtain ⟨rfl, rfl, rfl, hparameters⟩ := h
    cases parameters with
    | server s =>
        cases parameters' with
        | server s' =>
            obtain ⟨hostname, port, username, password, database, sslMode⟩ := s
            obtain ⟨hostname', port', username', password', database', sslMode'⟩ := s'
            simp only [Parameters.withoutPassword, Parameters.server.injEq, Server.mk.injEq,
              true_and] at hparameters
            obtain ⟨rfl, rfl, rfl, rfl, rfl⟩ := hparameters
            exact .inr ⟨_, password', rfl, rfl⟩
        | file path readOnly => cases hparameters
        | inMemory => cases hparameters
    | file path readOnly =>
        cases parameters' with
        | server s' => cases hparameters
        | file path' readOnly' => exact .inl (congrArg _ hparameters)
        | inMemory => cases hparameters
    | inMemory =>
        cases parameters' with
        | server s' => cases hparameters
        | file path' readOnly' => cases hparameters
        | inMemory => exact .inl rfl
  · rintro (rfl | ⟨s, password, hserver, rfl⟩)
    · rfl
    · simp only [Config.withoutPassword, hserver, Parameters.withoutPassword]

theorem Parameters.displayName_withoutPassword (p : Parameters) :
    p.withoutPassword.displayName = p.displayName := by
  cases p <;> rfl

/-- The name for display does not depend on the password. -/
theorem displayName_eq_of_withoutPassword {σ τ : Type} {d : Driver σ} {d' : Driver τ}
    (h : d.config.withoutPassword = d'.config.withoutPassword) :
    d.displayName = d'.displayName := by
  have hparameters : d.config.parameters.withoutPassword = d'.config.parameters.withoutPassword :=
    congrArg Config.parameters h
  rw [Driver.displayName, Driver.displayName, ← Parameters.displayName_withoutPassword,
    hparameters, Parameters.displayName_withoutPassword]

/-! ## Records in diagnostics -/

/-- Records in which one field is shown in two ways read the same only if the two ways do. -/
theorem debugRecord_inj (name field : String) (before after : List (String × String))
    {s t : String} :
    debugRecord name (before ++ (field, s) :: after) =
      debugRecord name (before ++ (field, t) :: after) ↔ s = t := by
  refine ⟨fun h => ?_, fun h => by rw [h]⟩
  let written (entry : String × String) := entry.1 ++ ": " ++ entry.2
  obtain ⟨head, tail, hjoined⟩ :=
    exists_joined_eq ", " (before.map written) (after.map written)
  have hrecord (text : String) : debugRecord name (before ++ (field, text) :: after) =
      name ++ " \x7b " ++ (head ++ (field ++ ": " ++ text) ++ tail) ++ " \x7d" := by
    rw [debugRecord, List.map_append, List.map_cons]
    exact congrArg (name ++ " \x7b " ++ · ++ " \x7d") (hjoined _)
  rw [hrecord, hrecord] at h
  simpa only [String.append_left_inj, String.append_right_inj] using h

theorem Server.debugText_inj (s : Server) (password password' : String) :
    (Parameters.server { s with password := password }).debugText =
      (Parameters.server { s with password := password' }).debugText ↔ password = password' :=
  (debugRecord_inj "Server" "password"
    [("hostname", quoted s.hostname), ("port", toString s.port.toNat),
      ("username", quoted s.username)]
    [("database", quoted s.database), ("ssl_mode", s.sslMode.debugText)]).trans quoted_inj

theorem Config.debugText_inj (c : Config) {p p' : Parameters} :
    { c with parameters := p }.debugText = { c with parameters := p' }.debugText ↔
      p.debugText = p'.debugText :=
  debugRecord_inj "ConnectionConfig" "params"
    [("id", c.id.text), ("name", quoted c.name), ("database_type", c.backend.displayName)] []

theorem Config.driverDebugText_inj (c : Config) {p p' : Parameters} :
    { c with parameters := p }.driverDebugText = { c with parameters := p' }.driverDebugText ↔
      p.debugText = p'.debugText := by
  rw [← c.debugText_inj]
  obtain ⟨id, name, backend, parameters⟩ := c
  cases backend with
  | mySql => exact debugRecord_inj "MySqlDriver" "config" [] [("pool", quoted "<MySqlPool>")]
  | sqlite => exact debugRecord_inj "SqliteDriver" "config" [] [("pool", quoted "<SqlitePool>")]

/-- The diagnostic of a driver tells any two passwords apart. -/
theorem Config.driverDebugText_eq_iff {c c' : Config}
    (h : c.withoutPassword = c'.withoutPassword) :
    c.driverDebugText = c'.driverDebugText ↔ c = c' := by
  refine ⟨fun htext => ?_, fun heq => by rw [heq]⟩
  rcases Config.withoutPassword_eq_iff.mp h with heq | ⟨s, password, hserver, rfl⟩
  · exact heq
  · obtain ⟨id, name, backend, parameters⟩ := c
    obtain rfl : parameters = .server s := hserver
    have hparameters : (Parameters.server s).debugText =
        (Parameters.server { s with password := password }).debugText :=
      (Config.driverDebugText_inj ⟨id, name, backend, .server s⟩).mp htext
    have hpassword : s.password = password :=
      (Server.debugText_inj s s.password password).mp hparameters
    rw [← hpassword]

/-- The diagnostics of a driver differ under two passwords. -/
theorem Config.driverDebugText_passwords :
    let server : Server :=
      { hostname := "localhost", port := 3306, username := "root", password := "hunter2",
        database := "app" }
    let c : Config := ⟨.nil, "n", .mySql, .server server⟩
    let c' : Config := ⟨.nil, "n", .mySql, .server { server with password := "" }⟩
    c.withoutPassword = c'.withoutPassword ∧ c.driverDebugText ≠ c'.driverDebugText := by
  intro server c c'
  have hdiffer : c ≠ c' := by decide
  have hsame : c.withoutPassword = c'.withoutPassword := rfl
  exact ⟨hsame, fun htext => hdiffer ((driverDebugText_eq_iff hsame).mp htext)⟩

/-! ## Diagnostics of sessions -/

/-- A session shows the name of its driver and nothing else of it. -/
theorem Session.debugText_eq_of_displayName {σ τ : Type} {d : Driver σ} {d' : Driver τ}
    (h : d.displayName = d'.displayName) (state : σ) (state' : τ) (r : Registry)
    (status : Status) :
    (Session.mk d state r status).debugText = (Session.mk d' state' r status).debugText := by
  rw [Session.debugText, Session.debugText, h]

/-- For drivers whose configurations differ in nothing but the password, the documents of the
configurations, the names for display and the diagnostics of sessions are the same. The diagnostics
of the drivers are the same only if the passwords are. -/
theorem renderings_withoutPassword {σ τ : Type} (d : Driver σ) (d' : Driver τ)
    (h : d.config.withoutPassword = d'.config.withoutPassword) :
    d.config.toJson.compact = d'.config.toJson.compact
      ∧ d.displayName = d'.displayName
      ∧ (∀ state state' r status, (Session.mk d state r status).debugText =
          (Session.mk d' state' r status).debugText)
      ∧ (d.config.driverDebugText = d'.config.driverDebugText ↔ d.config = d'.config) := by
  have hname : d.displayName = d'.displayName := displayName_eq_of_withoutPassword h
  refine ⟨?_, hname, ?_, Config.driverDebugText_eq_iff h⟩
  · rw [(Config.toJson_eq_iff _ _).mpr h]
  · intro state state' r status
    exact Session.debugText_eq_of_displayName hname state state' r status

/-- The drivers of a server under two passwords, in front of one schema. -/
theorem renderings_withoutPassword_server :
    let server : Server :=
      { hostname := "localhost", port := 3306, username := "root", password := "hunter2",
        database := "app" }
    let d := (Machine.ofBackend ⟨.nil, "n", .mySql, .server server⟩ {}).driver
    let d' := (Machine.ofBackend
      ⟨.nil, "n", .mySql, .server { server with password := "" }⟩ {}).driver
    d.config.withoutPassword = d'.config.withoutPassword ∧ d.displayName = d'.displayName
      ∧ d.config.driverDebugText ≠ d'.config.driverDebugText := by
  intro server d d'
  have hdiffer : d.config ≠ d'.config := by decide
  have hsame : d.config.withoutPassword = d'.config.withoutPassword := rfl
  obtain ⟨-, hname, -, hdebug⟩ := renderings_withoutPassword d d' hsame
  exact ⟨hsame, hname, fun htext => hdiffer (hdebug.mp htext)⟩

end Connection

end SqlSchema
