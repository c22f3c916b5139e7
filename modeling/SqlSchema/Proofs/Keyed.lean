import Mathlib.Data.List.Induction
import Mathlib.Data.List.Nodup
import SqlSchema.Keyed

/-! # First places and last values

Pairs that are put one after another leave every name once. A name stands where it was put first and
has the value that it was put with last, so puts that agree on both leave the same behind. -/

namespace SqlSchema.Keyed

variable {α : Type} {name : String} {puts others held entries : List (String × α)}

def last? (name : String) (puts : List (String × α)) : Option α :=
  (puts.filter (·.1 = name)).getLast?.map Prod.snd

/-- What puts leave behind: their names in the order of the first puts under them, each with the
value of the last one. -/
structure Keeps (puts held : List (String × α)) : Prop where
  order : names held = (names puts).eraseDups
  values : ∀ entry ∈ held, last? entry.1 puts = some entry.2

/-! ## First places -/

theorem eraseDups_concat (keys : List String) (name : String) :
    (keys ++ [name]).eraseDups =
      if name ∈ keys then keys.eraseDups else keys.eraseDups ++ [name] := by
  rw [List.eraseDups_append]
  by_cases h : name ∈ keys
  · simp [List.removeAll, h]
  · simp [List.removeAll, List.eraseDups_cons, h]

theorem nodup_eraseDups (keys : List String) : keys.eraseDups.Nodup := by
  induction keys using List.reverseRecOn with
  | nil => exact List.nodup_nil
  | append_singleton keys name ih =>
      rw [eraseDups_concat]
      split
      · exact ih
      · rename_i hnew
        rw [← List.concat_eq_append]
        exact ih.concat fun h => hnew (List.mem_eraseDups.mp h)

theorem names_put (name : String) (value : α) (entries : List (String × α)) :
    names (put name value entries) =
      if name ∈ names entries then names entries else names entries ++ [name] := by
  split
  · rename_i h
    exact names_put_of_mem value h
  · rename_i h
    rw [put_of_notMem value h, names_append]
    rfl

/-! ## Last values -/

theorem last?_append (name : String) (puts more : List (String × α)) :
    last? name (puts ++ more) = (last? name more).or (last? name puts) := by
  simp only [last?, List.filter_append, List.getLast?_append]
  cases (more.filter (·.1 = name)).getLast? <;> rfl

theorem last?_singleton (name : String) (pair : String × α) :
    last? name [pair] = if pair.1 = name then some pair.2 else none := by
  by_cases h : pair.1 = name <;> simp [last?, h]

theorem last?_cons (name : String) (pair : String × α) (puts : List (String × α)) :
    last? name (pair :: puts) =
      (last? name puts).or (if pair.1 = name then some pair.2 else none) := by
  rw [← last?_singleton, ← last?_append, List.singleton_append]

theorem last?_concat (name : String) (puts : List (String × α)) (pair : String × α) :
    last? name (puts ++ [pair]) = if pair.1 = name then some pair.2 else last? name puts := by
  rw [last?_append, last?_singleton]
  split <;> rfl

theorem last?_isSome_iff (name : String) (puts : List (String × α)) :
    (last? name puts).isSome ↔ name ∈ names puts := by
  simp [last?, names]

/-- A value that is put again later is not the last one. -/
theorem last?_overwritten {after : List (String × α)} (h : name ∈ names after) (other : String)
    (before : List (String × α)) (value value' : α) :
    last? other (before ++ (name, value) :: after) =
      last? other (before ++ (name, value') :: after) := by
  rw [last?_append, last?_append, last?_cons, last?_cons]
  by_cases hname : name = other
  · obtain ⟨last, hlast⟩ := Option.isSome_iff_exists.mp ((last?_isSome_iff name after).mpr h)
    rw [← hname, hlast]
    rfl
  · rw [if_neg hname, if_neg hname]

/-! ## Puts one after another -/

/-- Entries are what puts leave behind if their names are, and each is looked up as its last
value. -/
theorem keeps_iff : Keeps puts held ↔
    names held = (names puts).eraseDups ∧ ∀ name, get? name held = last? name puts := by
  constructor
  · rintro ⟨horder, hvalues⟩
    refine ⟨horder, fun name => ?_⟩
    cases hget : get? name held with
    | none =>
        have hname : name ∉ names puts := by
          rwa [get?_eq_none_iff, horder, List.mem_eraseDups] at hget
        rw [← last?_isSome_iff, Option.not_isSome_iff_eq_none] at hname
        exact hname.symm
    | some value => exact (hvalues (name, value) (mem_of_get? hget)).symm
  · rintro ⟨horder, hget⟩
    have hnames : (names held).Nodup := horder ▸ nodup_eraseDups _
    exact ⟨horder, fun entry hentry => (hget entry.1).symm.trans (get?_of_mem hnames hentry)⟩

theorem Keeps.nil : Keeps ([] : List (String × α)) [] :=
  ⟨rfl, List.forall_mem_nil _⟩

theorem Keeps.nodup (h : Keeps puts held) : (names held).Nodup :=
  h.order ▸ nodup_eraseDups _

theorem Keeps.put (h : Keeps puts held) (pair : String × α) :
    Keeps (puts ++ [pair]) (put pair.1 pair.2 held) := by
  obtain ⟨horder, hget⟩ := keeps_iff.mp h
  refine keeps_iff.mpr ⟨?_, fun name => ?_⟩
  · rw [names_put, names_append, names_cons, names_nil, eraseDups_concat, horder]
    simp only [List.mem_eraseDups]
  · rw [last?_concat, ← hget]
    split
    · rename_i hname
      exact hname ▸ get?_put_self pair.1 pair.2 held
    · rename_i hname
      exact get?_put_of_ne pair.2 held (Ne.symm hname)

theorem Keeps.putAll (h : Keeps puts held) (more : List (String × α)) :
    Keeps (puts ++ more) (putAll more held) := by
  induction more generalizing puts held with
  | nil => rwa [List.append_nil]
  | cons pair more ih =>
      have hmore := ih (h.put pair)
      rwa [List.append_assoc] at hmore

theorem keeps_of_nodup (h : (names entries).Nodup) : Keeps entries entries := by
  have hnames : (names ([] ++ entries)).Nodup := h
  have hall := Keeps.nil.putAll entries
  rwa [putAll_of_nodup hnames] at hall

theorem Keeps.eq {held' : List (String × α)} (h : Keeps puts held) (h' : Keeps puts held') :
    held = held' := by
  have hlast : ∀ entries, Keeps puts entries →
      entries.map (fun entry => (entry.1, some entry.2)) =
        (names puts).eraseDups.map fun name => (name, last? name puts) := by
    intro entries hentries
    rw [← hentries.order, names, List.map_map]
    exact List.map_congr_left fun entry hentry =>
      congrArg (entry.1, ·) (hentries.values entry hentry).symm
  have hinj : Function.Injective fun entry : String × α => (entry.1, some entry.2) := by
    rintro ⟨name, value⟩ ⟨name', value'⟩ heq
    simpa using heq
  exact hinj.list_map ((hlast held h).trans (hlast held' h').symm)

/-- Puts behind entries with distinct names leave behind what they would with the entries put
first. -/
theorem putAll_eq_iff (h : (names entries).Nodup) :
    putAll puts entries = held ↔ Keeps (entries ++ puts) held := by
  have hkeeps := (keeps_of_nodup h).putAll puts
  exact ⟨fun heq => heq ▸ hkeeps, hkeeps.eq⟩

theorem putAll_nil_eq_iff : putAll puts [] = held ↔ Keeps puts held := by
  have hnames : (names ([] : List (String × α))).Nodup := List.nodup_nil
  exact putAll_eq_iff hnames

-- A name that is put again keeps its place.
example : putAll [("a", 1), ("b", 2), ("a", 3)] [] = [("a", 3), ("b", 2)] := rfl

/-- Puts leave the same behind just when they agree on first places and on last values. -/
theorem putAll_eq_putAll_iff :
    putAll puts [] = putAll others [] ↔ (names puts).eraseDups = (names others).eraseDups ∧
      ∀ name, last? name puts = last? name others := by
  obtain ⟨horder, hget⟩ := keeps_iff.mp (putAll_nil_eq_iff.mp (Eq.refl (putAll others [])))
  rw [putAll_nil_eq_iff, keeps_iff, horder]
  simp only [hget, eq_comm]

end SqlSchema.Keyed
