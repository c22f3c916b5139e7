import SqlSchema.Decode
import SqlSchema.Proofs.Traversal
import SqlSchema.Proofs.Uuid

/-! # Decoders on what they accept

What a decoder gives for a number within its bounds, for a name that is known, and for the members
of an object, which are found by their names alone. -/

namespace SqlSchema.Keyed

variable {α : Type} {name : String} {entries entries' more : List (String × α)}

theorem get?_eq_of_perm (hnames : (names entries).Nodup) (h : entries'.Perm entries) :
    get? name entries' = get? name entries := by
  have hnames' : (names entries').Nodup := (h.map Prod.fst).nodup_iff.mpr hnames
  cases hget : get? name entries with
  | none =>
      rw [get?_eq_none_iff] at hget ⊢
      exact fun hmem => hget ((h.map Prod.fst).mem_iff.mp hmem)
  | some value => exact get?_of_mem hnames' (h.mem_iff.mpr (mem_of_get? hget))

theorem get?_append_of_notMem (h : name ∉ names more) :
    get? name (entries ++ more) = get? name entries := by
  induction entries with
  | nil => exact (get?_eq_none_iff name more).mpr h
  | cons entry entries ih => rw [List.cons_append, get?, get?, ih]

/-- The same entries in another order, with more of them under names that are not known. -/
structure Rearranges (known : List String) (entries entries' : List (String × α)) : Prop where
  distinct : (names entries').Nodup
  perm : ∃ more, entries'.Perm (entries ++ more) ∧ ∀ name ∈ known, name ∉ names more

namespace Rearranges

variable {known : List String}

theorem get?_eq (h : Rearranges known entries entries') (hname : name ∈ known) :
    get? name entries' = get? name entries := by
  obtain ⟨more, hperm, hmore⟩ := h.perm
  have hnames : (names (entries ++ more)).Nodup := (hperm.map Prod.fst).nodup_iff.mp h.distinct
  rw [get?_eq_of_perm hnames hperm, get?_append_of_notMem (hmore name hname)]

end Rearranges

end SqlSchema.Keyed

namespace SqlSchema.Decode

open SqlSchema.Number

theorem integer_of_bounds {least greatest n : Int} (hleast : least ≤ n) (hgreatest : n ≤ greatest)
    (expected : String) : integer least greatest expected (.integer n) = .ok n := by
  rw [integer, if_pos ⟨hleast, hgreatest⟩]

theorem natural_of_lt {bits n : Nat} (h : n < powerOfTwo bits) (expected : String) :
    natural bits expected (.integer n) = .ok n := by
  rw [natural, integer_of_bounds (by omega) (by omega)]
  rfl

theorem signed_of_bounds {bits : Nat} {n : Int} (hleast : -(powerOfTwo (bits - 1) : Int) ≤ n)
    (hgreatest : n < powerOfTwo (bits - 1)) (expected : String) :
    signed bits expected (.integer n) = .ok n :=
  integer_of_bounds hleast (by omega) expected

theorem list_map {α β : Type} {decode : Decoder β} {encode : α → Json} {f : α → β} {xs : List α}
    (h : ∀ x ∈ xs, decode (encode x) = .ok (f x)) :
    list decode (.list (xs.map encode)) = .ok (xs.map f) := by
  rw [list, Traversal.mapM_eq_ok_iff, List.forall₂_map_left_iff, List.forall₂_map_right_iff]
  exact List.forall₂_same.mpr h

/-! ## Records -/

section Records

variable {α : Type} {form : RecordForm} {build : List (String × Json) → Except DecodeError α}
  {members members' : List (String × Json)} {a : α}

theorem checkMembers_eq_ok_iff {fields : List Field} :
    checkMembers fields members = .ok () ↔ ∀ member ∈ members, ∀ field,
      fields.find? (·.name == member.1) = some field → field.check member.2 = .ok () := by
  induction members with
  | nil => simp [checkMembers]
  | cons member members ih =>
      rw [List.forall_mem_cons, ← ih, checkMembers]
      cases hfind : fields.find? (·.name == member.1) with
      | none => simp
      | some field => cases hcheck : field.check member.2 <;> simp [hcheck, bind, Except.bind]

theorem recordOfMembers_eq_ok_iff :
    recordOfMembers form build members = .ok a ↔
      checkMembers form.fields members = .ok () ∧ build members = .ok a := by
  rw [recordOfMembers]
  cases checkMembers form.fields members <;> simp [bind, Except.bind]

/-- A record is made of its fields alone. -/
def IsMadeOfFields (form : RecordForm) (build : List (String × Json) → Except DecodeError α) :
    Prop :=
  ∀ members members', (∀ field ∈ form.fields,
    Keyed.get? field.name members' = Keyed.get? field.name members) → build members' = build members

/-- Neither the order of the members nor members that are no fields change what a record is. -/
theorem recordOfMembers_eq_ok_iff_of_rearranges (hbuild : IsMadeOfFields form build)
    (h : Keyed.Rearranges (form.fields.map Field.name) members members') :
    recordOfMembers form build members' = .ok a ↔ recordOfMembers form build members = .ok a := by
  have hfields : build members' = build members :=
    hbuild members members' fun field hfield => h.get?_eq (List.mem_map_of_mem hfield)
  obtain ⟨more, hperm, hmore⟩ := h.perm
  have hignored : ∀ member ∈ more, ∀ field,
      form.fields.find? (·.name == member.1) = some field → field.check member.2 = .ok () := by
    intro member hmember field hfind
    have hname : field.name = member.1 := by simpa using List.find?_some hfind
    exact absurd (hname ▸ List.mem_map_of_mem hmember : field.name ∈ Keyed.names more)
      (hmore field.name (List.mem_map_of_mem (List.mem_of_find?_eq_some hfind)))
  have hchecks : checkMembers form.fields members' = .ok () ↔
      checkMembers form.fields members = .ok () := by
    simp only [checkMembers_eq_ok_iff, hperm.mem_iff, List.mem_append, or_imp, forall_and]
    exact and_iff_left hignored
  rw [recordOfMembers_eq_ok_iff, recordOfMembers_eq_ok_iff, hchecks, hfields]

/-- A list is read as the object of its items under the names of the fields, if there are no more of
them than there are fields. -/
theorem recordOfItems_eq_ok_iff {items : List Json} :
    recordOfItems form build items = .ok a ↔ items.length ≤ form.fields.length
      ∧ recordOfMembers form build ((form.fields.map Field.name).zip items) = .ok a := by
  rw [recordOfMembers_eq_ok_iff, recordOfItems]
  cases checkMembers form.fields ((form.fields.map Field.name).zip items) with
  | error e => simp [bind, Except.bind]
  | ok =>
      cases build ((form.fields.map Field.name).zip items) with
      | error e => simp [bind, Except.bind, Except.mapError]
      | ok value =>
          by_cases hlength : form.fields.length < items.length
          · simp [bind, Except.bind, Except.mapError, hlength, throw, throwThe,
              MonadExceptOf.throw, Nat.not_le.mpr hlength]
          · simp [bind, Except.bind, Except.mapError, hlength, pure, Except.pure,
              Nat.not_lt.mp hlength]

end Records

/-! ## Leaves -/

theorem temporal_of_ok {α : Type} {read : String → Except Temporal.Fault α} {s : String} {a : α}
    (h : read s = .ok a) (expected : String) : temporal expected read (.text s) = .ok a := by
  rw [temporal, h]
  rfl

theorem uuid_text (u : Uuid) : uuid (.text u.text) = .ok u := by
  rw [uuid, u.ofText_text]
  rfl

end SqlSchema.Decode
