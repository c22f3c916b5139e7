import SqlSchema.Connection.Document
import SqlSchema.Proofs.Decode

/-! # Configurations as documents

The document of a configuration is read as that configuration without its password, which is all
that the document leaves out. So configurations have the same document exactly when they differ in
nothing but the password, whatever they were read from. -/

namespace SqlSchema

open SqlSchema.Decode SqlSchema.Number

theorem Backend.ofJson_toJson (b : Backend) : Backend.ofJson b.toJson = .ok b := by
  cases b <;> rfl

namespace Connection

theorem SslMode.ofJson_toJson (m : SslMode) : SslMode.ofJson m.toJson = .ok m := by
  cases m <;> rfl

theorem port_toNat (n : UInt16) : port (.integer n.toNat) = .ok n := by
  rw [port, natural_of_lt n.toNat_lt]
  exact congrArg Except.ok UInt16.ofNat_toNat

/-! ## Parameters -/

theorem Parameters.ofJson_toJson (p : Parameters) :
    Parameters.ofJson p.toJson = .ok p.withoutPassword := by
  cases p with
  | server s =>
      have hport : port (.integer s.port.toNat) = .ok s.port := port_toNat s.port
      have hmode : SslMode.ofJson s.sslMode.toJson = .ok s.sslMode := s.sslMode.ofJson_toJson
      simp [Parameters.ofJson, Parameters.toJson, required, kind, variant, kinds, named,
        Keyed.get?, contentOf, recordOfMembers, serverForm, buildServer, checkMembers, Field.of,
        defaulted, Decode.text, hport, hmode, withoutPassword, bind, Except.bind, Except.map, pure,
        Except.pure]
  | file path readOnly => rfl
  | inMemory => rfl

/-! ## Configurations -/

namespace Config

theorem ofJson_toJson (c : Config) : ofJson c.toJson = .ok c.withoutPassword := by
  have hid : uuid (.text c.id.text) = .ok c.id := uuid_text c.id
  have hbackend : Backend.ofJson c.backend.toJson = .ok c.backend := c.backend.ofJson_toJson
  have hparameters : Parameters.ofJson c.parameters.toJson = .ok c.parameters.withoutPassword :=
    c.parameters.ofJson_toJson
  simp [ofJson, toJson, record, recordOfMembers, checkMembers, Field.of, required, Keyed.get?,
    Decode.text, hid, hbackend, hparameters, withoutPassword, bind, Except.bind, Except.map, pure,
    Except.pure]

theorem toJson_withoutPassword (c : Config) : c.withoutPassword.toJson = c.toJson := by
  obtain ⟨id, name, backend, parameters⟩ := c
  cases parameters <;> rfl

/-- Configurations have the same document exactly when they differ in nothing but the password. -/
theorem toJson_eq_iff (c c' : Config) :
    c.toJson = c'.toJson ↔ c.withoutPassword = c'.withoutPassword := by
  constructor
  · intro h
    have hread := c.ofJson_toJson
    rw [h, c'.ofJson_toJson] at hread
    exact (Except.ok.inj hread).symm
  · intro h
    rw [← c.toJson_withoutPassword, h, c'.toJson_withoutPassword]

/-- A configuration is read back from its document with the password emptied and all else as it
was. So is one that was itself read from a document, of whatever form, and writing it again gives no
other document. -/
theorem document_readBack :
    (∀ c : Config, ofJson c.toJson = .ok c.withoutPassword)
      ∧ ∀ (doc : Json) (c : Config), ofJson doc = .ok c →
          ofJson c.toJson = .ok c.withoutPassword ∧ c.withoutPassword.toJson = c.toJson := by
  refine ⟨ofJson_toJson, ?_⟩
  intro doc c _
  exact ⟨c.ofJson_toJson, c.toJson_withoutPassword⟩

/-- A list whose parameters are a list too, with a password and without a mode. -/
theorem document_readBack_list :
    let server : Server :=
      { hostname := "h", port := 3306, username := "u", password := "secret", database := "d" }
    let c : Config :=
      { id := Uuid.nil, name := "app", backend := .mySql, parameters := .server server }
    let parameters : Json :=
      .list [.text "server", .text "h", .integer 3306, .text "u", .text "secret", .text "d"]
    ofJson (.list [.text Uuid.nil.text, .text "app", .text "mysql", parameters]) = .ok c
      ∧ ofJson c.toJson = .ok c.withoutPassword ∧ c.withoutPassword ≠ c := by
  intro server c parameters
  have hread : ofJson (.list [.text Uuid.nil.text, .text "app", .text "mysql", parameters]) =
      .ok c := by
    rfl
  exact ⟨hread, (document_readBack.2 _ c hread).1, by decide⟩

end Config

end Connection

end SqlSchema
