import Mathlib.Data.Bool.AllAny
import SqlSchema.Proofs.Text.Blank
import SqlSchema.Proofs.Text.Case
import SqlSchema.Proofs.Traversal
import SqlSchema.Schema.ForeignKey

/-! # What a foreign key may be written as

The grammar of references: names that are not blank, and actions as SQL spells them, in any case and
with underscores for spaces. Exactly what follows it is a foreign key, and what does not is told by
its first fault. -/

namespace SqlSchema.Schema

open SqlSchema.Text SqlSchema.Traversal

/-! ## Spellings of actions -/

namespace ReferentialAction

def spaced (c : Char) : Char :=
  if c == '_' then ' ' else c

/-- A character that may stand for one of an action in SQL: the letter in either case, and a space
or an underscore for a space. -/
def StandsFor (c d : Char) : Prop :=
  c.toUpper = d ∨ c = '_' ∧ d = ' '

instance (c d : Char) : Decidable (StandsFor c d) :=
  inferInstanceAs (Decidable (_ ∨ _))

def Spells (s : String) (a : ReferentialAction) : Prop :=
  List.Forall₂ StandsFor s.toList a.sql.toList

/-- What actions are written with in SQL: a space and capitals, among which there is no K. -/
def sqlLetters : List Char :=
  " ABCDEFGHIJLMNOPQRSTUVWXYZ".toList

theorem mem_sqlLetters {a : ReferentialAction} : ∀ d ∈ a.sql.toList, d ∈ sqlLetters := by
  have hsubset : a.sql.toList ⊆ sqlLetters := by
    cases a <;> decide
  exact fun d hd => hsubset hd

theorem ascii_of_mem_sqlLetters :
    ∀ d ∈ sqlLetters, d.toNat < 128 ∧ d.toLower.toNat < 128 :=
  List.all_iff_forall_prop.mp (by decide)

theorem ascii_of_spaced {c d : Char} (hd : d ∈ sqlLetters) (h : spaced c = d.toLower) :
    c.toNat < 128 := by
  unfold spaced at h
  split at h
  next hunderscore =>
    obtain rfl := eq_of_beq hunderscore
    decide
  next => exact h ▸ (ascii_of_mem_sqlLetters d hd).2

theorem ascii_of_standsFor {c d : Char} (hd : d ∈ sqlLetters) (h : StandsFor c d) :
    c.toNat < 128 := by
  rcases h with h | ⟨rfl, -⟩
  · by_cases hsmall : c.toNat < 128
    · exact hsmall
    · have hkept : c.toUpper = c :=
        dif_neg fun hlower => hsmall (Nat.lt_of_le_of_lt hlower.2 (by decide))
      exact (ascii_of_mem_sqlLetters c (hkept ▸ h ▸ hd)).1
  · decide

theorem spaced_toLower_iff {c d : Char} (hc : c.toNat < 128) (hd : d ∈ sqlLetters) :
    spaced c.toLower = d.toLower ↔ StandsFor c d := by
  have hall : (sqlLetters.all fun d => spaced c.toLower = d.toLower ↔ StandsFor c d) = true := by
    refine forall_ascii (P := fun c =>
      (sqlLetters.all fun d => spaced c.toLower = d.toLower ↔ StandsFor c d) = true) ?_ hc
    decide +kernel
  exact List.all_iff_forall_prop.mp hall d hd

/-- Nothing beyond ASCII stands for a letter of an action, since none of them is a K. -/
theorem spaced_iff_of_lowerChar {c x d : Char} (hx : lowerChar c = [x]) (hd : d ∈ sqlLetters) :
    spaced x = d.toLower ↔ StandsFor c d := by
  by_cases hc : c.toNat < 128
  · rw [lowerChar_of_ascii hc] at hx
    obtain rfl := List.singleton_inj.mp hx
    exact spaced_toLower_iff hc hd
  · refine ⟨fun h => ?_, fun h => absurd (ascii_of_standsFor hd h) hc⟩
    have hmem : x ∈ lowerChar c := hx ▸ List.mem_singleton_self x
    rcases ascii_of_mem_lowerChar hmem (ascii_of_spaced hd h) with hsmall | rfl | rfl
    · exact absurd hsmall hc
    · cases lowerChar_dotted.symm.trans hx
    · obtain rfl := List.singleton_inj.mp (lowerChar_kelvin.symm.trans hx)
      have hall : ∀ d ∈ sqlLetters, spaced 'k' ≠ d.toLower :=
        List.all_iff_forall_prop.mp (by decide)
      exact absurd h (hall d hd)

/-- The dot of a lowered capital I is no character of an action. -/
theorem not_dotted {ds : List Char} {ws : List Char} (hws : ∀ d ∈ ws, d ∈ sqlLetters) :
    (lowerChar '\u0130' ++ ds).map spaced ≠ ws.map Char.toLower := by
  intro h
  have hdot : '\u0307' ∈ (lowerChar '\u0130' ++ ds).map spaced :=
    List.mem_cons_of_mem 'i' List.mem_cons_self
  obtain ⟨d, hd, hlower⟩ := List.mem_map.mp (h ▸ hdot)
  have hascii := (ascii_of_mem_sqlLetters d (hws d hd)).2
  rw [hlower] at hascii
  exact absurd hascii (by decide)

/-- What a text is in lower case tells which words of SQL it spells, whichever small sigma stands in
it. -/
theorem map_spaced_eq_iff {cs ds : List Char} (h : LowerForm cs ds) {ws : List Char}
    (hws : ∀ d ∈ ws, d ∈ sqlLetters) :
    ds.map spaced = ws.map Char.toLower ↔ List.Forall₂ StandsFor cs ws := by
  induction h generalizing ws with
  | nil => simp [eq_comm]
  | @cons c cs ds _ ih =>
      by_cases hdotted : c = '\u0130'
      · subst hdotted
        refine iff_of_false (not_dotted hws) fun hstands => ?_
        cases hstands with
        | cons hfirst _ =>
            have hsmall := ascii_of_standsFor (hws _ List.mem_cons_self) hfirst
            exact absurd hsmall (by decide)
      · obtain ⟨x, hx⟩ := exists_lowerChar_eq hdotted
        cases ws with
        | nil => simp [hx]
        | cons d ws =>
            obtain ⟨hd, hws⟩ := List.forall_mem_cons.mp hws
            simp [hx, spaced_iff_of_lowerChar hx hd, ih hws]
  | @finalSigma cs ds _ ih =>
      cases ws with
      | nil => simp
      | cons d ws =>
          obtain ⟨hd, hws⟩ := List.forall_mem_cons.mp hws
          have hall : ∀ d ∈ sqlLetters, spaced 'ς' ≠ d.toLower ∧ ¬StandsFor 'Σ' d :=
            List.all_iff_forall_prop.mp (by decide)
          simp [hall d hd]

theorem ofText?_eq_some_iff_spelling {s : String} {a : ReferentialAction} :
    ofText? s = some a ↔ spelling s = lowerAscii a.sql := by
  unfold ofText?
  split
  case h_6 hcascade hrestrict hnoAction hsetDefault hsetNull =>
    refine iff_of_false nofun ?_
    cases a with
    | cascade => exact hcascade
    | restrict => exact hrestrict
    | noAction => exact hnoAction
    | setDefault => exact hsetDefault
    | setNull => exact hsetNull
  all_goals
    rename_i h
    rw [h]
    cases a <;> decide

theorem ofText?_eq_some_iff {s : String} {a : ReferentialAction} :
    ofText? s = some a ↔ Spells s a := by
  rw [ofText?_eq_some_iff_spelling, ← String.toList_inj, spelling, lowerAscii,
    String.toList_ofList, String.toList_ofList]
  exact map_spaced_eq_iff (lowerForm_lower s) mem_sqlLetters

theorem spells_sql (a : ReferentialAction) : Spells (trim a.sql) a := by
  refine ofText?_eq_some_iff.mp ?_
  cases a <;> decide

theorem ascii_of_forall₂ {cs ws : List Char} (h : List.Forall₂ StandsFor cs ws)
    (hws : ∀ d ∈ ws, d ∈ sqlLetters) : ∀ c ∈ cs, c.toNat < 128 := by
  induction h with
  | nil => simp
  | cons hfirst _ ih =>
      obtain ⟨hd, hws⟩ := List.forall_mem_cons.mp hws
      exact List.forall_mem_cons.mpr ⟨ascii_of_standsFor hd hfirst, ih hws⟩

end ReferentialAction

/-! ## References -/

namespace ForeignKey

open ReferentialAction

def IsNamed (given : Option String) : Prop :=
  ∃ s ∈ given, isBlank s = false

/-- A name as it is given, without the blanks around it. -/
def Names (given : Option String) (name : String) : Prop :=
  ∃ s ∈ given, isBlank s = false ∧ trim s = name

/-- The action that is given as a text, which spells it between its blanks; no action if no text is
given. -/
inductive Means : Option String → Option ReferentialAction → Prop where
  | absent : Means none none
  | spelled {raw : String} {a : ReferentialAction} (h : Spells (trim raw) a) :
      Means (some raw) (some a)

/-- No text is given, or one that spells an action between its blanks. -/
def IsActionIfGiven (given : Option String) : Prop :=
  ∀ raw ∈ given, ∃ a, Spells (trim raw) a

/-- The foreign key that a reference on a column describes. -/
structure Describes (localColumn : String) (r : Reference) (k : ForeignKey) : Prop where
  localColumn : k.localColumn = localColumn
  table : Names r.table k.table
  column : Names r.column k.column
  onDelete : Means r.onDelete k.onDelete
  onUpdate : Means r.onUpdate k.onUpdate

/-- What is wrong with a reference on a column. The table comes first, then the column, the action
on deletion and the action on update. -/
inductive Fault (localColumn : String) (r : Reference) : SchemaError → Prop where
  | table (h : ¬IsNamed r.table) : Fault localColumn r (.missingField localColumn "table")
  | column (htable : IsNamed r.table) (h : ¬IsNamed r.column) :
      Fault localColumn r (.missingField localColumn "column")
  | onDelete {raw : String} (htable : IsNamed r.table) (hcolumn : IsNamed r.column)
      (hraw : raw ∈ r.onDelete) (h : ∀ a, ¬Spells (trim raw) a) :
      Fault localColumn r (.invalidAction localColumn "on_delete" raw validActions)
  | onUpdate {raw : String} (htable : IsNamed r.table) (hcolumn : IsNamed r.column)
      (honDelete : IsActionIfGiven r.onDelete) (hraw : raw ∈ r.onUpdate)
      (h : ∀ a, ¬Spells (trim raw) a) :
      Fault localColumn r (.invalidAction localColumn "on_update" raw validActions)

section Parts

variable {localColumn field : String} {given : Option String} {e : SchemaError}

theorem requiredName_eq_ok_iff {name : String} :
    requiredName localColumn field given = .ok name ↔ Names given name := by
  unfold requiredName Names
  cases given with
  | none => simp
  | some s => cases hblank : isBlank s <;> simp [hblank]

theorem requiredName_eq_error_iff :
    requiredName localColumn field given = .error e ↔
      ¬IsNamed given ∧ e = .missingField localColumn field := by
  rw [@eq_comm _ e]
  unfold requiredName IsNamed
  cases given with
  | none => simp
  | some s => cases hblank : isBlank s <;> simp [hblank]

theorem requiredName_of_not_isNamed (localColumn field : String) (h : ¬IsNamed given) :
    requiredName localColumn field given = .error (.missingField localColumn field) :=
  requiredName_eq_error_iff.mpr ⟨h, rfl⟩

theorem exists_names_iff : (∃ name, Names given name) ↔ IsNamed given := by
  constructor
  · rintro ⟨name, s, hs, hblank, -⟩
    exact ⟨s, hs, hblank⟩
  · rintro ⟨s, hs, hblank⟩
    exact ⟨trim s, s, hs, hblank, rfl⟩

theorem means_some_iff {raw : String} {action : Option ReferentialAction} :
    Means (some raw) action ↔ ∃ a, Spells (trim raw) a ∧ some a = action := by
  constructor
  · rintro ⟨⟩
    exact ⟨_, ‹_›, rfl⟩
  · rintro ⟨a, h, rfl⟩
    exact .spelled h

theorem optionalAction_eq_ok_iff {action : Option ReferentialAction} :
    optionalAction localColumn field given = .ok action ↔ Means given action := by
  unfold optionalAction
  cases given with
  | none =>
      constructor
      · rintro ⟨⟩
        exact .absent
      · rintro ⟨⟩
        rfl
  | some raw =>
      rw [means_some_iff]
      simp only [← ofText?_eq_some_iff]
      cases ofText? (trim raw) <;> simp

theorem optionalAction_eq_error_iff :
    optionalAction localColumn field given = .error e ↔
      ∃ raw ∈ given, (∀ a, ¬Spells (trim raw) a) ∧
        e = .invalidAction localColumn field raw validActions := by
  unfold optionalAction
  simp only [← ofText?_eq_some_iff, @eq_comm _ e]
  cases given with
  | none => simp
  | some raw => cases hmeant : ofText? (trim raw) <;> simp [hmeant]

theorem optionalAction_of_not_spells (localColumn field : String) {raw : String}
    (hraw : raw ∈ given) (h : ∀ a, ¬Spells (trim raw) a) :
    optionalAction localColumn field given =
      .error (.invalidAction localColumn field raw validActions) :=
  optionalAction_eq_error_iff.mpr ⟨raw, hraw, h, rfl⟩

theorem exists_means_iff : (∃ action, Means given action) ↔ IsActionIfGiven given := by
  cases given with
  | none => simpa [IsActionIfGiven] using ⟨none, Means.absent⟩
  | some raw => simp [means_some_iff, IsActionIfGiven]

end Parts

section References

variable {localColumn : String} {r : Reference} {k : ForeignKey} {e : SchemaError}

theorem ofReference_eq_ok_iff :
    ofReference localColumn r = .ok k ↔ Describes localColumn r k := by
  constructor
  · intro h
    obtain ⟨table, htable, h⟩ := bind_eq_ok_iff.mp h
    obtain ⟨column, hcolumn, h⟩ := bind_eq_ok_iff.mp h
    obtain ⟨onDelete, honDelete, h⟩ := bind_eq_ok_iff.mp h
    obtain ⟨onUpdate, honUpdate, h⟩ := bind_eq_ok_iff.mp h
    cases h
    exact ⟨rfl, requiredName_eq_ok_iff.mp htable, requiredName_eq_ok_iff.mp hcolumn,
      optionalAction_eq_ok_iff.mp honDelete, optionalAction_eq_ok_iff.mp honUpdate⟩
  · rintro ⟨rfl, htable, hcolumn, honDelete, honUpdate⟩
    exact bind_eq_ok_iff.mpr ⟨_, requiredName_eq_ok_iff.mpr htable,
      bind_eq_ok_iff.mpr ⟨_, requiredName_eq_ok_iff.mpr hcolumn,
      bind_eq_ok_iff.mpr ⟨_, optionalAction_eq_ok_iff.mpr honDelete,
      bind_eq_ok_iff.mpr ⟨_, optionalAction_eq_ok_iff.mpr honUpdate, rfl⟩⟩⟩⟩

theorem ofReference_eq_error_iff :
    ofReference localColumn r = .error e ↔ Fault localColumn r e := by
  constructor
  · intro h
    rcases bind_eq_error_iff.mp h with h | ⟨table, htable, h⟩
    · obtain ⟨hmissing, rfl⟩ := requiredName_eq_error_iff.mp h
      exact .table hmissing
    have htable := exists_names_iff.mp ⟨table, requiredName_eq_ok_iff.mp htable⟩
    rcases bind_eq_error_iff.mp h with h | ⟨column, hcolumn, h⟩
    · obtain ⟨hmissing, rfl⟩ := requiredName_eq_error_iff.mp h
      exact .column htable hmissing
    have hcolumn := exists_names_iff.mp ⟨column, requiredName_eq_ok_iff.mp hcolumn⟩
    rcases bind_eq_error_iff.mp h with h | ⟨onDelete, honDelete, h⟩
    · obtain ⟨raw, hraw, hspells, rfl⟩ := optionalAction_eq_error_iff.mp h
      exact .onDelete htable hcolumn hraw hspells
    have honDelete := exists_means_iff.mp ⟨onDelete, optionalAction_eq_ok_iff.mp honDelete⟩
    rcases bind_eq_error_iff.mp h with h | ⟨onUpdate, -, h⟩
    · obtain ⟨raw, hraw, hspells, rfl⟩ := optionalAction_eq_error_iff.mp h
      exact .onUpdate htable hcolumn honDelete hraw hspells
    · cases h
  · intro h
    have hname : ∀ {given}, IsNamed given →
        ∃ name, ∀ field, requiredName localColumn field given = .ok name := fun hgiven =>
      (exists_names_iff.mpr hgiven).imp fun _ hnames _ => requiredName_eq_ok_iff.mpr hnames
    cases h with
    | table hmissing =>
        have hfailed := requiredName_of_not_isNamed localColumn "table" hmissing
        simp [ofReference, bind, Except.bind, hfailed]
    | column htable hmissing =>
        obtain ⟨table, htable⟩ := hname htable
        have hfailed := requiredName_of_not_isNamed localColumn "column" hmissing
        simp [ofReference, bind, Except.bind, htable, hfailed]
    | onDelete htable hcolumn hraw hspells =>
        obtain ⟨table, htable⟩ := hname htable
        obtain ⟨column, hcolumn⟩ := hname hcolumn
        have hfailed := optionalAction_of_not_spells localColumn "on_delete" hraw hspells
        simp [ofReference, bind, Except.bind, htable, hcolumn, hfailed]
    | onUpdate htable hcolumn honDelete hraw hspells =>
        obtain ⟨table, htable⟩ := hname htable
        obtain ⟨column, hcolumn⟩ := hname hcolumn
        obtain ⟨action, haction⟩ := exists_means_iff.mpr honDelete
        have honDelete : optionalAction localColumn "on_delete" r.onDelete = .ok action :=
          optionalAction_eq_ok_iff.mpr haction
        have hfailed := optionalAction_of_not_spells localColumn "on_update" hraw hspells
        simp [ofReference, bind, Except.bind, htable, hcolumn, honDelete, hfailed]

theorem exists_ofReference_eq_ok_iff :
    (∃ k, ofReference localColumn r = .ok k) ↔ IsNamed r.table ∧ IsNamed r.column ∧
      IsActionIfGiven r.onDelete ∧ IsActionIfGiven r.onUpdate := by
  simp only [ofReference_eq_ok_iff, ← exists_names_iff, ← exists_means_iff]
  constructor
  · rintro ⟨k, -, htable, hcolumn, honDelete, honUpdate⟩
    exact ⟨⟨_, htable⟩, ⟨_, hcolumn⟩, ⟨_, honDelete⟩, ⟨_, honUpdate⟩⟩
  · rintro ⟨⟨table, htable⟩, ⟨column, hcolumn⟩, ⟨onDelete, honDelete⟩, ⟨onUpdate, honUpdate⟩⟩
    exact ⟨⟨localColumn, table, column, onDelete, onUpdate⟩, rfl, htable, hcolumn, honDelete,
      honUpdate⟩

/-! ## Keys described again -/

/-- The reference with the names of a key, and its actions in SQL. -/
def toReference (k : ForeignKey) : Reference where
  table := some k.table
  column := some k.column
  onDelete := k.onDelete.map sql
  onUpdate := k.onUpdate.map sql

theorem Names.again {given : Option String} {name : String} (h : Names given name) :
    Names (some name) name := by
  obtain ⟨s, -, hblank, rfl⟩ := h
  exact ⟨trim s, rfl, (isBlank_trim s).trans hblank, trim_trim s⟩

theorem means_map_sql (action : Option ReferentialAction) : Means (action.map sql) action := by
  cases action with
  | none => exact .absent
  | some a => exact .spelled (spells_sql a)

theorem Describes.again (h : Describes localColumn r k) : Describes localColumn k.toReference k :=
  ⟨h.localColumn, h.table.again, h.column.again, means_map_sql k.onDelete,
    means_map_sql k.onUpdate⟩

/-- A reference is a foreign key just when it names a table and a column and its actions, if it has
any, are spelled as in SQL, in any case, with spaces or underscores, and in ASCII alone. The key has
the names without the blanks around them and the actions that are spelled, and is given by its own
fields again. Otherwise the first fault in the order of the fields is told. -/
theorem ofReference_grammar (localColumn : String) (r : Reference) :
    ((∃ k, ofReference localColumn r = .ok k) ↔ IsNamed r.table ∧ IsNamed r.column ∧
      IsActionIfGiven r.onDelete ∧ IsActionIfGiven r.onUpdate) ∧
    (∀ k, ofReference localColumn r = .ok k ↔ Describes localColumn r k) ∧
    (∀ k, ofReference localColumn r = .ok k → ofReference localColumn k.toReference = .ok k) ∧
    (∀ e, ofReference localColumn r = .error e ↔ Fault localColumn r e) ∧
    ∀ s a, (∀ lowered, LowerForm s.toList lowered →
        (lowered.map spaced = a.sql.toList.map Char.toLower ↔ Spells s a)) ∧
      (Spells s a → ∀ c ∈ s.toList, c.toNat < 128) := by
  refine ⟨exists_ofReference_eq_ok_iff, fun k => ofReference_eq_ok_iff, fun k h => ?_,
    fun e => ofReference_eq_error_iff, fun s a => ⟨fun lowered h => ?_, fun h => ?_⟩⟩
  · exact ofReference_eq_ok_iff.mpr (ofReference_eq_ok_iff.mp h).again
  · exact map_spaced_eq_iff h mem_sqlLetters
  · exact ascii_of_forall₂ h mem_sqlLetters

end References

end ForeignKey

end SqlSchema.Schema
