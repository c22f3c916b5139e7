/-! Ordered pairs addressed by name. Putting a name that is already held replaces its value where it
stands; a new name goes to the end. So names keep the place of their first entry and the value of
their last one. -/

namespace SqlSchema.Keyed

variable {α : Type}

/-- Sets the value under a name: in place if the name is held, at the end otherwise. -/
def put (name : String) (value : α) : List (String × α) → List (String × α)
  | [] => [(name, value)]
  | (key, old) :: rest =>
    if key = name then (key, value) :: rest else (key, old) :: put name value rest

def putAll (pairs : List (String × α)) (entries : List (String × α)) : List (String × α) :=
  pairs.foldl (fun entries pair => put pair.1 pair.2 entries) entries

/-- The value under a name, of several the first. -/
def get? (name : String) : List (String × α) → Option α
  | [] => none
  | (key, value) :: rest => if key = name then some value else get? name rest

def names (entries : List (String × α)) : List String :=
  entries.map Prod.fst

def contains (name : String) (entries : List (String × α)) : Bool :=
  (get? name entries).isSome

@[simp] theorem get?_nil (name : String) : get? name ([] : List (String × α)) = none := rfl

theorem get?_put_self (name : String) (value : α) (entries : List (String × α)) :
    get? name (put name value entries) = some value := by
  induction entries with
  | nil => simp [put, get?]
  | cons entry rest ih =>
    by_cases h : entry.1 = name
    · simp [put, get?, h]
    · simp [put, get?, h, ih]

theorem get?_put_of_ne {name other : String} (value : α) (entries : List (String × α))
    (h : other ≠ name) : get? other (put name value entries) = get? other entries := by
  induction entries with
  | nil => simp [put, get?, Ne.symm h]
  | cons entry rest ih =>
    by_cases hn : entry.1 = name
    · simp [put, get?, hn, Ne.symm h]
    · simp [put, get?, hn, ih]

/-! ### Names -/

@[simp] theorem names_nil : names ([] : List (String × α)) = [] := rfl

@[simp] theorem names_cons (entry : String × α) (entries : List (String × α)) :
    names (entry :: entries) = entry.1 :: names entries := rfl

@[simp] theorem names_append (entries more : List (String × α)) :
    names (entries ++ more) = names entries ++ names more :=
  List.map_append

theorem get?_isSome_iff (name : String) (entries : List (String × α)) :
    (get? name entries).isSome ↔ name ∈ names entries := by
  induction entries with
  | nil => simp
  | cons entry rest ih =>
    by_cases h : entry.1 = name
    · simp [get?, h]
    · simp [get?, h, ih, Ne.symm h]

theorem contains_iff (name : String) (entries : List (String × α)) :
    contains name entries = true ↔ name ∈ names entries :=
  get?_isSome_iff name entries

theorem get?_eq_none_iff (name : String) (entries : List (String × α)) :
    get? name entries = none ↔ name ∉ names entries := by
  rw [← get?_isSome_iff, Option.not_isSome_iff_eq_none]

theorem mem_of_get? {name : String} {value : α} {entries : List (String × α)}
    (h : get? name entries = some value) : (name, value) ∈ entries := by
  induction entries with
  | nil => simp at h
  | cons entry rest ih =>
    by_cases hn : entry.1 = name
    · obtain rfl : entry.2 = value := by simpa [get?, hn] using h
      exact hn ▸ List.mem_cons_self
    · exact List.mem_cons_of_mem entry (ih (by simpa [get?, hn] using h))

/-- Among distinct names every entry is found under its own. -/
theorem get?_of_mem {name : String} {value : α} {entries : List (String × α)}
    (hnames : (names entries).Nodup) (h : (name, value) ∈ entries) :
    get? name entries = some value := by
  induction entries with
  | nil => simp at h
  | cons entry rest ih =>
    obtain ⟨hfirst, hrest⟩ := List.nodup_cons.mp hnames
    rcases List.mem_cons.mp h with rfl | h
    · simp [get?]
    · have hne : entry.1 ≠ name := fun heq => hfirst (heq ▸ List.mem_map_of_mem h)
      simpa [get?, hne] using ih hrest h

/-- A name that is not held goes to the end. -/
theorem put_of_notMem {name : String} (value : α) {entries : List (String × α)}
    (h : name ∉ names entries) : put name value entries = entries ++ [(name, value)] := by
  induction entries with
  | nil => rfl
  | cons entry rest ih =>
    obtain ⟨hne, hrest⟩ : name ≠ entry.1 ∧ name ∉ names rest := by simpa using h
    simp [put, hne.symm, ih hrest]

theorem names_put_of_mem {name : String} (value : α) {entries : List (String × α)}
    (h : name ∈ names entries) : names (put name value entries) = names entries := by
  induction entries with
  | nil => simp at h
  | cons entry rest ih =>
    by_cases hn : entry.1 = name
    · simp [put, hn]
    · have hrest : name ∈ names rest := by simpa [Ne.symm hn] using h
      simp [put, hn, ih hrest]

theorem nodup_names_put {name : String} (value : α) {entries : List (String × α)}
    (h : (names entries).Nodup) : (names (put name value entries)).Nodup := by
  by_cases hmem : name ∈ names entries
  · rwa [names_put_of_mem value hmem]
  · rw [put_of_notMem value hmem, names_append, List.nodup_append]
    refine ⟨h, by simp, ?_⟩
    rintro other hother _ hname rfl
    obtain rfl : other = name := by simpa using hname
    exact hmem hother

theorem eq_or_mem_of_mem_put {name : String} {value : α} {entry : String × α}
    {entries : List (String × α)} (h : entry ∈ put name value entries) :
    entry = (name, value) ∨ entry ∈ entries := by
  induction entries with
  | nil => exact .inl (List.mem_singleton.mp h)
  | cons first rest ih =>
    by_cases hn : first.1 = name
    · simp only [put, hn, if_true, List.mem_cons] at h
      exact h.imp_right (List.mem_cons_of_mem first)
    · simp only [put, hn, if_false, List.mem_cons] at h
      rcases h with rfl | h
      · exact .inr List.mem_cons_self
      · exact (ih h).imp_right (List.mem_cons_of_mem first)

theorem putAll_cons (pair : String × α) (pairs entries : List (String × α)) :
    putAll (pair :: pairs) entries = putAll pairs (put pair.1 pair.2 entries) := rfl

/-- Entries under new names go behind the others as they are. -/
theorem putAll_of_nodup {pairs entries : List (String × α)}
    (h : (names (entries ++ pairs)).Nodup) : putAll pairs entries = entries ++ pairs := by
  induction pairs generalizing entries with
  | nil => simp [putAll]
  | cons pair pairs ih =>
    have hnew : pair.1 ∉ names entries := by
      intro hmem
      rw [names_append, names_cons, List.nodup_append] at h
      exact h.2.2 _ hmem _ List.mem_cons_self rfl
    rw [putAll_cons, put_of_notMem pair.2 hnew, ih (by simpa using h), List.append_assoc]
    rfl

end SqlSchema.Keyed
