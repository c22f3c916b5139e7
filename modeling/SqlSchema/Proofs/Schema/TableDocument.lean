import SqlSchema.Proofs.Json.DistinctKeys
import SqlSchema.Proofs.Schema.Clauses

/-! # Tables as documents

A table document is an object. One entry, wherever it stands, may name the primary key; every other
entry is a column. The entries are looked at in order, and only when each is fine by itself is the
primary key looked up among the columns. -/

namespace SqlSchema.Schema.Table

open SqlSchema.Traversal

variable {name : String} {entries : List (String × Json)} {t : Table} {e : SchemaError}

/-! ## Documents and what they describe -/

/-- The entries that are columns: all but the one that names the primary key. -/
def columnEntries (entries : List (String × Json)) : List (String × Json) :=
  entries.filter (·.1 ≠ primaryKeyMember)

/-- An entry is the document of a column, under its name. -/
def IsColumn (entry : String × Json) (column : String × Column) : Prop :=
  column.1 = entry.1 ∧ Column.ofJson entry.2 = .ok column.2

/-- The entries describe a table: its columns in order, and its primary key. -/
@[mk_iff]
structure Describes (entries : List (String × Json)) (t : Table) : Prop where
  columns : List.Forall₂ IsColumn (columnEntries entries) t.columns
  primaryKey : Keyed.get? primaryKeyMember entries = t.primaryKey.map .text

/-- A document that is accepted: an object whose columns can be decoded and whose primary key is the
name of another entry. -/
inductive Accepts : Json → Prop where
  | object {entries : List (String × Json)}
      (columns : ∀ entry ∈ columnEntries entries, ∃ column, Column.ofJson entry.2 = .ok column)
      (primaryKey : ∀ value, (primaryKeyMember, value) ∈ entries →
        ∃ key, value = .text key ∧ key ≠ primaryKeyMember ∧ key ∈ Keyed.names entries) :
      Accepts (.object entries)

/-- What is wrong with an entry by itself. -/
inductive EntryFault (table : String) : String × Json → SchemaError → Prop where
  | primaryKey {value : Json} (hvalue : ∀ key, value ≠ .text key) :
      EntryFault table (primaryKeyMember, value) (.invalidConfig (.primaryKeyNotName table))
  | column {name : String} {value : Json} {cause : DecodeError} (hname : name ≠ primaryKeyMember)
      (hvalue : Column.ofJson value = .error cause) :
      EntryFault table (name, value) (.invalidConfig (.column table name cause))

/-- What is wrong with a document: the first entry at fault decides, and a primary key that is no
column counts only when there is none. -/
inductive DocumentFault (table : String) : Json → SchemaError → Prop where
  | notObject {doc : Json} (hdoc : ∀ entries, doc ≠ .object entries) :
      DocumentFault table doc (.invalidConfig (.tableNotObject table))
  | entry {before after : List (String × Json)} {entry : String × Json} {e : SchemaError}
      (hbefore : ∀ other ∈ before, ∀ e, ¬EntryFault table other e)
      (hentry : EntryFault table entry e) :
      DocumentFault table (.object (before ++ entry :: after)) e
  | unknownPrimaryKey {entries : List (String × Json)} {key : String}
      (hentries : ∀ entry ∈ entries, ∀ e, ¬EntryFault table entry e)
      (hvalue : Keyed.get? primaryKeyMember entries = some (.text key))
      (hkey : key ∉ Keyed.names (columnEntries entries)) :
      DocumentFault table (.object entries) (.unknownPrimaryKey table key)

/-! ## Entries -/

theorem addMember_eq_ok_iff {entry : String × Json} {t' : Table} :
    addMember name t entry = .ok t' ↔
      (entry.1 = primaryKeyMember ∧ ∃ key, entry.2 = .text key ∧ t' = t.withPrimaryKey key) ∨
        (entry.1 ≠ primaryKeyMember ∧
          ∃ column, IsColumn entry (entry.1, column) ∧ t' = t.withColumn entry.1 column) := by
  obtain ⟨member, value⟩ := entry
  unfold addMember IsColumn
  by_cases hmember : member = primaryKeyMember
  · cases value <;> simp [hmember, eq_comm]
  · cases Column.ofJson value <;> simp [hmember, eq_comm]

theorem addMember_eq_error_iff (t : Table) (entry : String × Json) (e : SchemaError) :
    addMember name t entry = .error e ↔ EntryFault name entry e := by
  obtain ⟨member, value⟩ := entry
  unfold addMember
  constructor
  · intro h
    dsimp only at h
    split at h
    · rename_i hmember
      subst hmember
      split at h
      · cases h
      · rename_i hvalue
        cases h
        exact .primaryKey hvalue
    · rename_i hmember
      split at h
      · cases h
      · rename_i hvalue
        cases h
        exact .column hmember hvalue
  · rintro (⟨hvalue⟩ | ⟨hmember, hvalue⟩)
    · cases value <;> simp_all
    · simp [hmember, hvalue]

theorem columnEntries_cons_of_eq {entry : String × Json} (h : entry.1 = primaryKeyMember) :
    columnEntries (entry :: entries) = columnEntries entries := by
  simp [columnEntries, h]

theorem columnEntries_cons_of_ne {entry : String × Json} (h : entry.1 ≠ primaryKeyMember) :
    columnEntries (entry :: entries) = entry :: columnEntries entries := by
  simp [columnEntries, h]

theorem mem_names_columnEntries {key : String} :
    key ∈ Keyed.names (columnEntries entries) ↔
      key ≠ primaryKeyMember ∧ key ∈ Keyed.names entries := by
  simp only [Keyed.names, columnEntries, List.mem_map, List.mem_filter, decide_eq_true_eq]
  constructor
  · rintro ⟨entry, ⟨hentry, hne⟩, rfl⟩
    exact ⟨hne, entry, hentry, rfl⟩
  · rintro ⟨hne, entry, hentry, rfl⟩
    exact ⟨entry, ⟨hentry, hne⟩, rfl⟩

theorem names_eq_of_isColumn {columns : List (String × Column)}
    (h : List.Forall₂ IsColumn entries columns) : Keyed.names columns = Keyed.names entries :=
  Keyed.names_eq_of_forall₂ (fun _ _ hcolumn => hcolumn.1) h

section Cons

variable {entry : String × Json} {t' : Table}

theorem foldlM_addMember_cons_of_eq (h : entry.1 = primaryKeyMember) :
    (entry :: entries).foldlM (addMember name) t = .ok t' ↔ ∃ key, entry.2 = .text key ∧
      entries.foldlM (addMember name) (t.withPrimaryKey key) = .ok t' := by
  simp only [List.foldlM_cons, bind_eq_ok_iff, addMember_eq_ok_iff, h, true_and, ne_eq,
    not_true_eq_false, false_and, or_false]
  grind

theorem foldlM_addMember_cons_of_ne (h : entry.1 ≠ primaryKeyMember) :
    (entry :: entries).foldlM (addMember name) t = .ok t' ↔ ∃ column,
      IsColumn entry (entry.1, column) ∧
        entries.foldlM (addMember name) (t.withColumn entry.1 column) = .ok t' := by
  simp only [List.foldlM_cons, bind_eq_ok_iff, addMember_eq_ok_iff, h, false_and, ne_eq,
    not_false_eq_true, true_and, false_or]
  grind

end Cons

/-- The entries added to a table: columns put in order, and a primary key in place of the one that
there was. The names are distinct, so that at most one entry names a primary key. -/
theorem foldlM_addMember_eq_ok_iff (hnames : (Keyed.names entries).Nodup) {t' : Table} :
    entries.foldlM (addMember name) t = .ok t' ↔
      ∃ columns, List.Forall₂ IsColumn (columnEntries entries) columns ∧
        t'.columns = Keyed.putAll columns t.columns ∧
        t'.primaryKey.map Json.text =
          (Keyed.get? primaryKeyMember entries).or (t.primaryKey.map .text) := by
  induction entries generalizing t with
  | nil =>
      have hkey : t.primaryKey = t'.primaryKey ↔
          t'.primaryKey.map Json.text = t.primaryKey.map .text := by
        rw [(Option.map_injective fun _ _ => Json.text.inj).eq_iff, eq_comm]
      obtain ⟨columns, key⟩ := t
      obtain ⟨columns', key'⟩ := t'
      simp [columnEntries, pure, Except.pure, Keyed.putAll, ← hkey, eq_comm]
  | cons entry entries ih =>
      rw [Keyed.names_cons, List.nodup_cons] at hnames
      by_cases hentry : entry.1 = primaryKeyMember
      -- No other entry has this name, so nothing replaces the primary key any more.
      · have hrest : Keyed.get? primaryKeyMember entries = none :=
          (Keyed.get?_eq_none_iff _ _).mpr (hentry ▸ hnames.1)
        have hfirst : Keyed.get? primaryKeyMember (entry :: entries) = some entry.2 := by
          simp [Keyed.get?, hentry]
        simp only [foldlM_addMember_cons_of_eq hentry, ih hnames.2, columnEntries_cons_of_eq hentry,
          hfirst, hrest, Option.none_or, Option.some_or]
        constructor
        · rintro ⟨key, hvalue, columns, hcolumns, hput, hkey⟩
          exact ⟨columns, hcolumns, hput, hkey.trans (congrArg some hvalue.symm)⟩
        · rintro ⟨columns, hcolumns, hput, hkey⟩
          obtain ⟨key, hprimary, hvalue⟩ := Option.map_eq_some_iff.mp hkey
          exact ⟨key, hvalue.symm, columns, hcolumns, hput, congrArg (Option.map _) hprimary⟩
      · have hfirst : Keyed.get? primaryKeyMember (entry :: entries) =
            Keyed.get? primaryKeyMember entries := by
          simp [Keyed.get?, hentry]
        simp only [foldlM_addMember_cons_of_ne hentry, ih hnames.2, columnEntries_cons_of_ne hentry,
          hfirst]
        constructor
        · rintro ⟨column, hcolumn, columns, hcolumns, hput, hkey⟩
          exact ⟨(entry.1, column) :: columns, .cons hcolumn hcolumns, hput, hkey⟩
        · rintro ⟨_, hall, hput, hkey⟩
          obtain ⟨⟨_, column⟩, columns, ⟨rfl, hcolumn⟩, hcolumns, rfl⟩ :=
            List.forall₂_cons_left_iff.mp hall
          exact ⟨column, ⟨rfl, hcolumn⟩, columns, hcolumns, hput, hkey⟩

/-! ## Documents -/

theorem foldlM_addMember_empty_eq_ok_iff (hnames : (Keyed.names entries).Nodup) :
    entries.foldlM (addMember name) empty = .ok t ↔ Describes entries t := by
  have hput : ∀ {columns}, List.Forall₂ IsColumn (columnEntries entries) columns →
      Keyed.putAll columns [] = columns := by
    intro columns hcolumns
    apply Keyed.putAll_of_nodup
    rw [List.nil_append, names_eq_of_isColumn hcolumns]
    exact hnames.sublist (List.filter_sublist.map Prod.fst)
  rw [foldlM_addMember_eq_ok_iff hnames]
  constructor
  · rintro ⟨columns, hcolumns, heq, hkey⟩
    rw [show empty.columns = [] from rfl, hput hcolumns] at heq
    exact ⟨heq ▸ hcolumns, by simpa [empty] using hkey.symm⟩
  · rintro ⟨hcolumns, hkey⟩
    exact ⟨t.columns, hcolumns, (hput hcolumns).symm, by simpa [empty] using hkey.symm⟩

/-- A document is read just as the tables that it describes whose primary key is a column. -/
theorem ofJson_object_eq_ok_iff (hnames : (Keyed.names entries).Nodup) :
    ofJson name (.object entries) = .ok t ↔
      Describes entries t ∧ ∀ key ∈ t.primaryKey, key ∈ Keyed.names t.columns := by
  rw [← @foldlM_addMember_empty_eq_ok_iff name _ _ hnames, ← @validate_eq_ok_iff name]
  constructor
  · intro h
    obtain ⟨read, hread, h⟩ := bind_eq_ok_iff.mp h
    obtain ⟨⟨⟩, hvalid, h⟩ := bind_eq_ok_iff.mp h
    obtain rfl := Except.ok.inj h
    exact ⟨hread, hvalid⟩
  · rintro ⟨hread, hvalid⟩
    exact bind_eq_ok_iff.mpr ⟨t, hread, bind_eq_ok_iff.mpr ⟨(), hvalid, rfl⟩⟩

theorem Describes.names_columns (h : Describes entries t) :
    Keyed.names t.columns = Keyed.names (columnEntries entries) :=
  names_eq_of_isColumn h.columns

theorem forall_not_entryFault_iff (entry : String × Json) :
    (∀ e, ¬EntryFault name entry e) ↔
      (entry.1 = primaryKeyMember → ∃ key, entry.2 = .text key) ∧
        (entry.1 ≠ primaryKeyMember → ∃ column, Column.ofJson entry.2 = .ok column) := by
  rw [← exists_update_eq_ok_iff addMember_eq_error_iff empty]
  simp only [addMember_eq_ok_iff, IsColumn]
  by_cases h : entry.1 = primaryKeyMember <;> simp [h]

theorem ofJson_of_forall_ne_object {doc : Json} (h : ∀ entries, doc ≠ .object entries) :
    ofJson name doc = .error (.invalidConfig (.tableNotObject name)) := by
  cases doc with
  | object entries => exact absurd rfl (h entries)
  | _ => rfl

section Document

variable {doc : Json} (hdistinct : doc.HasDistinctKeys)

include hdistinct

theorem ofJson_eq_ok_iff :
    ofJson name doc = .ok t ↔ ∃ entries, doc = .object entries ∧ Describes entries t ∧
      ∀ key ∈ t.primaryKey, key ∈ Keyed.names t.columns := by
  constructor
  · intro h
    rcases exists_or_forall_not (doc = .object ·) with ⟨entries, rfl⟩ | hdoc
    · exact ⟨entries, rfl,
        (ofJson_object_eq_ok_iff (Json.hasDistinctKeys_object_iff.mp hdistinct).1).mp h⟩
    · rw [ofJson_of_forall_ne_object hdoc] at h
      cases h
  · rintro ⟨entries, rfl, h⟩
    exact (ofJson_object_eq_ok_iff (Json.hasDistinctKeys_object_iff.mp hdistinct).1).mpr h

/-- What is wrong with a document is found in the order of its entries. -/
theorem ofJson_eq_error_iff : ofJson name doc = .error e ↔ DocumentFault name doc e := by
  rcases (exists_or_forall_not (doc = .object ·)).symm with hdoc | ⟨entries, rfl⟩
  · rw [ofJson_of_forall_ne_object hdoc]
    constructor
    · rintro ⟨⟩
      exact .notObject hdoc
    · rintro (_ | _ | _)
      · rfl
      all_goals exact absurd rfl (hdoc _)
  have hnames := (Json.hasDistinctKeys_object_iff.mp hdistinct).1
  constructor
  · intro h
    -- Either an entry is at fault, or all are fine and the primary key is none of the columns.
    rcases bind_eq_error_iff.mp h with h | ⟨t, hread, h⟩
    · obtain ⟨before, entry, after, rfl, hbefore, hentry⟩ :=
        (foldlM_eq_error_iff addMember_eq_error_iff).mp h
      exact .entry hbefore hentry
    have hdescribes := (foldlM_addMember_empty_eq_ok_iff hnames).mp hread
    rcases bind_eq_error_iff.mp h with h | ⟨⟨⟩, -, h⟩
    · obtain ⟨key, hkey, hheld, rfl⟩ := validate_eq_error_iff.mp h
      refine .unknownPrimaryKey ((exists_foldlM_eq_ok_iff addMember_eq_error_iff).mp ⟨t, hread⟩) ?_
        (hdescribes.names_columns ▸ hheld)
      rw [hdescribes.primaryKey, hkey]
      rfl
    · cases h
  · intro h
    cases h with
    | notObject hdoc => exact absurd rfl (hdoc _)
    | entry hbefore hentry =>
        exact bind_eq_error_iff.mpr (.inl ((foldlM_eq_error_iff addMember_eq_error_iff).mpr
          ⟨_, _, _, rfl, hbefore, hentry⟩))
    | @unknownPrimaryKey _ key hentries hvalue hkey =>
        obtain ⟨t, hread⟩ :=
          (exists_foldlM_eq_ok_iff addMember_eq_error_iff (s := empty)).mpr hentries
        have hdescribes := (foldlM_addMember_empty_eq_ok_iff hnames).mp hread
        have hprimary : t.primaryKey = some key := by
          obtain ⟨_, hprimary, ⟨⟩⟩ :=
            Option.map_eq_some_iff.mp (hdescribes.primaryKey.symm.trans hvalue)
          exact hprimary
        have hinvalid : t.validate name = .error (.unknownPrimaryKey name key) :=
          validate_eq_error_iff.mpr ⟨key, hprimary, hdescribes.names_columns ▸ hkey, rfl⟩
        exact bind_eq_error_iff.mpr (.inr ⟨t, hread, bind_eq_error_iff.mpr (.inl hinvalid)⟩)

theorem exists_ofJson_eq_ok_iff : (∃ t, ofJson name doc = .ok t) ↔ Accepts doc := by
  rcases (exists_or_forall_not (doc = .object ·)).symm with hdoc | ⟨entries, rfl⟩
  · rw [ofJson_of_forall_ne_object hdoc]
    constructor
    · rintro ⟨_, ⟨⟩⟩
    · rintro ⟨⟩
      exact absurd rfl (hdoc _)
  have hnames := (Json.hasDistinctKeys_object_iff.mp hdistinct).1
  simp only [ofJson_object_eq_ok_iff hnames]
  constructor
  · rintro ⟨t, hdescribes, hheld⟩
    have hread : entries.foldlM (addMember name) empty = .ok t :=
      (foldlM_addMember_empty_eq_ok_iff hnames).mpr hdescribes
    have hfine := (exists_foldlM_eq_ok_iff addMember_eq_error_iff).mp ⟨t, hread⟩
    constructor
    · intro entry hentry
      obtain ⟨hentry, hne⟩ := List.mem_filter.mp hentry
      exact ((forall_not_entryFault_iff entry).mp (hfine entry hentry)).2 (by simpa using hne)
    · intro value hvalue
      have hget := hdescribes.primaryKey.symm.trans (Keyed.get?_of_mem hnames hvalue)
      obtain ⟨key, hkey, rfl⟩ := Option.map_eq_some_iff.mp hget
      have hmem := hdescribes.names_columns ▸ hheld key hkey
      exact ⟨key, rfl, mem_names_columnEntries.mp hmem⟩
  · rintro ⟨hcolumns, hprimary⟩
    have hfine : ∀ entry ∈ entries, ∀ e, ¬EntryFault name entry e := by
      intro entry hentry
      rw [forall_not_entryFault_iff]
      constructor
      · intro heq
        obtain ⟨key, hkey, -⟩ := hprimary entry.2 (heq ▸ hentry)
        exact ⟨key, hkey⟩
      · intro hne
        exact hcolumns entry (List.mem_filter.mpr ⟨hentry, by simpa using hne⟩)
    obtain ⟨t, hread⟩ := (exists_foldlM_eq_ok_iff addMember_eq_error_iff (s := empty)).mpr hfine
    have hdescribes := (foldlM_addMember_empty_eq_ok_iff hnames).mp hread
    refine ⟨t, hdescribes, fun key hkey => ?_⟩
    have hget : Keyed.get? primaryKeyMember entries = some (.text key) := by
      rw [hdescribes.primaryKey, hkey]
      rfl
    obtain ⟨_, ⟨⟩, hkey⟩ := hprimary _ (Keyed.mem_of_get? hget)
    exact hdescribes.names_columns ▸ mem_names_columnEntries.mpr hkey

end Document

/-! ## The place of the primary key -/

/-- The same document with the entry of its primary key in another place. -/
inductive KeyMoved : Json → Json → Prop where
  | moved {value : Json} {before after before' after' : List (String × Json)}
      (hothers : before' ++ after' = before ++ after) :
      KeyMoved (.object (before ++ (primaryKeyMember, value) :: after))
        (.object (before' ++ (primaryKeyMember, value) :: after'))

/-- A document is read as the same table wherever the entry of its primary key stands. -/
theorem KeyMoved.ofJson_eq_ok_iff {doc doc' : Json} (h : KeyMoved doc doc')
    (hdistinct : doc.HasDistinctKeys) : ofJson name doc' = .ok t ↔ ofJson name doc = .ok t := by
  obtain @⟨value, before, after, before', after', hothers⟩ := h
  have hnames := (Json.hasDistinctKeys_object_iff.mp hdistinct).1
  have hperm : (before' ++ (primaryKeyMember, value) :: after').Perm
      (before ++ (primaryKeyMember, value) :: after) :=
    List.perm_middle.trans ((hothers ▸ List.perm_middle.symm))
  have hnames' := (hperm.map Prod.fst).nodup_iff.mpr hnames
  have hcolumns : columnEntries (before' ++ (primaryKeyMember, value) :: after') =
      columnEntries (before ++ (primaryKeyMember, value) :: after) := by
    simpa [columnEntries] using congrArg columnEntries hothers
  have hkey : Keyed.get? primaryKeyMember (before' ++ (primaryKeyMember, value) :: after') =
      Keyed.get? primaryKeyMember (before ++ (primaryKeyMember, value) :: after) := by
    rw [Keyed.get?_of_mem hnames List.mem_append_cons_self,
      Keyed.get?_of_mem hnames' List.mem_append_cons_self]
  rw [ofJson_object_eq_ok_iff hnames', ofJson_object_eq_ok_iff hnames, describes_iff, describes_iff,
    hcolumns, hkey]

end SqlSchema.Schema.Table
