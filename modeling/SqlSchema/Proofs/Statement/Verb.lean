import SqlSchema.Proofs.Driver.Keyword
import SqlSchema.Proofs.Schema.Clauses
import SqlSchema.Statement.Render

/-! # Statements under their verbs

Every statement of the library starts with a verb, so drivers tell its kind whatever the names,
values and fragments in it are. -/

namespace SqlSchema

open Driver Schema Text

namespace Statement

/-- The statements that are rendered under an escaping rule, with their verbs. -/
inductive Rendered (escape : Escaper) : Verb → String → Prop
  | select (table : String) (selection : Selection) :
      Rendered escape .select (Statement.select escape table selection)
  | insert (table : String) (values : Values) :
      Rendered escape .insert (Statement.insert escape table values)
  | update {table : String} {values : Values} {condition sql : String}
      (h : update? table values condition = some sql) : Rendered escape .update sql
  | updateAll (table : String) (values : Values) :
      Rendered escape .update (Statement.updateAll escape table values)
  | delete {table condition sql : String} (h : delete? table condition = some sql) :
      Rendered escape .delete sql
  | deleteAll (table : String) : Rendered escape .delete (Statement.deleteAll table)
  | create {r : Registry} {table sql : String} (h : r.compile escape table = .ok sql) :
      Rendered escape .create sql

def Begins (word sql : String) : Prop :=
  ∃ rest, sql = word ++ rest

theorem Begins.append {word sql : String} (h : Begins word sql) (more : String) :
    Begins word (sql ++ more) := by
  obtain ⟨rest, rfl⟩ := h
  exact ⟨rest ++ more, String.append_assoc⟩

namespace Rendered

variable {escape : Escaper} {v : Verb} {sql : String}

theorem begins (h : Rendered escape v sql) : Begins v.text sql := by
  have hselect : Begins Verb.select.text "SELECT " := ⟨" ", by decide⟩
  have hinsert : Begins Verb.insert.text "INSERT INTO " := ⟨" INTO ", by decide⟩
  have hupdate : Begins Verb.update.text "UPDATE " := ⟨" ", by decide⟩
  have hdelete : Begins Verb.delete.text "DELETE FROM " := ⟨" FROM ", by decide⟩
  have hcreate : Begins Verb.create.text "CREATE TABLE IF NOT EXISTS \x60" :=
    ⟨" TABLE IF NOT EXISTS \x60", by decide⟩
  cases h with
  | select table selection =>
      exact hselect.append _ |>.append _ |>.append _ |>.append _ |>.append _ |>.append _
        |>.append _
  | insert table values =>
      exact hinsert.append _ |>.append _ |>.append _ |>.append _ |>.append _ |>.append _
  | update h =>
      rw [update?] at h
      split at h
      · cases h
      · obtain rfl := Option.some.inj h
        exact hupdate.append _ |>.append _ |>.append _ |>.append _ |>.append _
  | updateAll table values => exact hupdate.append _ |>.append _ |>.append _
  | delete h =>
      rw [delete?] at h
      split at h
      · cases h
      · obtain rfl := Option.some.inj h
        exact hdelete.append _ |>.append _ |>.append _
  | deleteAll table => exact hdelete.append table
  | create h =>
      obtain ⟨t, clauses, -, -, -, hsql⟩ := Registry.compile_eq_ok_iff.mp h
      rw [hsql]
      exact hcreate.append _ |>.append _ |>.append _ |>.append _

/-- Selections are taken to return rows, and no other statement is. -/
theorem returnsRows_trim (h : Rendered escape v sql) (b : Backend) :
    returnsRows b (trim sql) = true ↔ v = .select := by
  obtain ⟨rest, rfl⟩ := h.begins
  exact v.returnsRows_trim b rest

/-- Insertions are taken to insert rows, and no other statement is. -/
theorem insertsRows_trim (h : Rendered escape v sql) :
    insertsRows (trim sql) = true ↔ v = .insert := by
  obtain ⟨rest, rfl⟩ := h.begins
  exact v.insertsRows_trim rest

end Rendered

end Statement

end SqlSchema
