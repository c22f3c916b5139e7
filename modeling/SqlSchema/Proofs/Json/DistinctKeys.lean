import SqlSchema.Json.Reader
import SqlSchema.Proofs.Traversal

/-! # Names of members

A name that an object repeats keeps its first place and its last value. So the members of each
object that a text spells have distinct names. -/

namespace SqlSchema.Keyed

theorem names_eq_of_forall₂ {α β : Type} {R : String × α → String × β → Prop}
    (hname : ∀ entry entry', R entry entry' → entry'.1 = entry.1) {entries : List (String × α)}
    {entries' : List (String × β)} (h : List.Forall₂ R entries entries') :
    names entries' = names entries := by
  induction h with
  | nil => rfl
  | cons hentry _ ih => rw [names_cons, names_cons, ih, hname _ _ hentry]

end SqlSchema.Keyed

namespace SqlSchema.Json

/-- A document in which the members of each object have distinct names. -/
inductive HasDistinctKeys : Json → Prop where
  | null : HasDistinctKeys .null
  | bool (value : Bool) : HasDistinctKeys (.bool value)
  | integer (value : Int) : HasDistinctKeys (.integer value)
  | float (value : Number.Double) : HasDistinctKeys (.float value)
  | single (value : Number.Single) : HasDistinctKeys (.single value)
  | text (value : String) : HasDistinctKeys (.text value)
  | list {items : List Json} (hitems : ∀ item ∈ items, HasDistinctKeys item) :
      HasDistinctKeys (.list items)
  | object {members : List (String × Json)} (hnames : (Keyed.names members).Nodup)
      (hmembers : ∀ member ∈ members, HasDistinctKeys member.2) : HasDistinctKeys (.object members)

theorem hasDistinctKeys_object_iff {members : List (String × Json)} :
    HasDistinctKeys (.object members) ↔
      (Keyed.names members).Nodup ∧ ∀ member ∈ members, HasDistinctKeys member.2 := by
  constructor
  · rintro ⟨⟩
    exact ⟨‹_›, ‹_›⟩
  · rintro ⟨hnames, hmembers⟩
    exact .object hnames hmembers

/-! ## What is read -/

section Gives

variable {α β : Type} {P : α → Prop} {Q : β → Prop}

def Gives (P : α → Prop) (read : Except ReadError (α × Cursor)) : Prop :=
  ∀ value place, read = .ok (value, place) → P value

theorem Gives.ok {value : α} (h : P value) (place : Cursor) : Gives P (.ok (value, place)) := by
  rintro _ _ ⟨⟩
  exact h

theorem Gives.fail (place : Cursor) (fault : Fault) : Gives P (place.fail fault) := by
  rintro _ _ ⟨⟩

theorem failNext_ne_ok {place : Cursor} {fault : Fault} {value : α} :
    place.failNext fault ≠ .ok value := by
  intro h
  unfold Cursor.failNext at h
  split at h
  · cases h
  · split at h <;> cases h

theorem Gives.failNext (place : Cursor) (fault : Fault) : Gives P (place.failNext fault) :=
  fun _ _ h => absurd h failNext_ne_ok

theorem Gives.ite {c : Prop} [Decidable c] {first second : Except ReadError (α × Cursor)}
    (hfirst : Gives P first) (hsecond : Gives P second) :
    Gives P (if c then first else second) := by
  split <;> assumption

theorem Gives.map {read : Except ReadError β} {f : β → α × Cursor} (h : ∀ found, P (f found).1) :
    Gives P (read.map f) := by
  intro value place hread
  obtain ⟨found, -, hfound⟩ := Traversal.map_eq_ok_iff.mp hread
  obtain rfl : (f found).1 = value := congrArg Prod.fst hfound
  exact h found

theorem Gives.bind {read : Except ReadError (β × Cursor)}
    {next : β × Cursor → Except ReadError (α × Cursor)} (h : Gives Q read)
    (hnext : ∀ value place, Q value → Gives P (next (value, place))) : Gives P (read >>= next) := by
  intro value place hread
  obtain ⟨⟨first, after⟩, hfirst, hsecond⟩ := Traversal.bind_eq_ok_iff.mp hread
  exact hnext first after (h first after hfirst) value place hsecond

end Gives

/-! ## Documents without members -/

theorem gives_finishFloat (negative : Bool) (d : Number.Digits) (place : Cursor) :
    Gives HasDistinctKeys (finishFloat negative d place) := by
  unfold finishFloat
  exact .ite (.ok (.float _) place) (.fail place _)

theorem gives_readExponent (negative : Bool) (coefficient places : Nat) (place : Cursor) :
    Gives HasDistinctKeys (readExponent negative coefficient places place) := by
  unfold readExponent
  dsimp only
  split
  · exact .fail _ _
  · apply Gives.ite
    · split
      · exact gives_finishFloat _ _ _
      · exact .ite (.fail _ _) (.ok (.float _) _)
    · exact .failNext _ _

theorem gives_readFraction (negative : Bool) (whole : List Char) (place : Cursor) :
    Gives HasDistinctKeys (readFraction negative whole place) := by
  unfold readFraction
  dsimp only
  split
  · split
    · exact .fail _ _
    · exact .failNext _ _
  · split
    · exact gives_readExponent _ _ _ _
    · exact gives_readExponent _ _ _ _
    · exact gives_finishFloat _ _ _

theorem hasDistinctKeys_wholeNumber (negative : Bool) (value : Nat) :
    HasDistinctKeys (wholeNumber negative value) := by
  unfold wholeNumber
  split
  · split
    · exact .float _
    · exact .integer _
  · split
    · exact .integer _
    · exact .float _

theorem gives_readNumber (negative : Bool) (place : Cursor) :
    Gives HasDistinctKeys (readNumber negative place) := by
  unfold readNumber
  split
  · exact .fail _ _
  · apply Gives.ite
    · dsimp only
      split
      · exact gives_readFraction _ _ _
      · exact gives_readExponent _ _ _ _
      · exact gives_readExponent _ _ _ _
      · apply Gives.ite
        · exact .failNext _ _
        · split
          · exact .ite (.ok (hasDistinctKeys_wholeNumber _ _) _) (.fail _ _)
          · exact .ok (hasDistinctKeys_wholeNumber _ _) _
    · exact .failNext _ _

/-! ## Documents -/

theorem HasDistinctKeys.object_put {name : String} {value : Json} {members : List (String × Json)}
    (hvalue : HasDistinctKeys value) (h : HasDistinctKeys (.object members)) :
    HasDistinctKeys (.object (Keyed.put name value members)) := by
  obtain ⟨hnames, hmembers⟩ := hasDistinctKeys_object_iff.mp h
  refine .object (Keyed.nodup_names_put value hnames) fun member hmember => ?_
  rcases Keyed.eq_or_mem_of_mem_put hmember with rfl | hmember
  · exact hvalue
  · exact hmembers member hmember

-- The four readers call each other with less fuel, so their laws are proved together on it.
mutual

theorem gives_readValue (fuel depth : Nat) (place : Cursor) :
    Gives HasDistinctKeys (readValue fuel depth place) := by
  match fuel with
  | 0 =>
      unfold readValue
      exact .fail place _
  | fuel + 1 =>
      unfold readValue
      dsimp only
      split
      · exact .fail _ _
      · exact .map fun _ => .null
      · exact .map fun _ => .bool true
      · exact .map fun _ => .bool false
      · exact gives_readNumber _ _
      · exact .map fun found => .text found.1
      · split
        · exact .failNext _ _
        · exact gives_readItems fuel _ (by simp) _
      · split
        · exact .failNext _ _
        · exact gives_readMembers fuel _ (.object (by simp) (by simp)) _
      · exact .ite (gives_readNumber _ _) (.failNext _ _)

theorem gives_readItems (fuel depth : Nat) {read : List Json}
    (hread : ∀ item ∈ read, HasDistinctKeys item) (place : Cursor) :
    Gives HasDistinctKeys (readItems fuel depth read place) := by
  match fuel with
  | 0 =>
      unfold readItems
      exact .fail place _
  | fuel + 1 =>
      unfold readItems
      dsimp only
      split
      · exact .fail _ _
      · exact .ok (.list (by simpa using hread)) _
      · apply Gives.ite
        · exact (gives_readValue fuel depth _).bind fun item place hitem =>
            gives_readItems fuel depth (List.forall_mem_singleton.mpr hitem) place
        · apply Gives.ite
          · split
            · exact .fail _ _
            · exact .failNext _ _
            · exact (gives_readValue fuel depth _).bind fun item place hitem =>
                gives_readItems fuel depth (List.forall_mem_cons.mpr ⟨hitem, hread⟩) place
          · exact .failNext _ _

theorem gives_readMembers (fuel depth : Nat) {read : List (String × Json)}
    (hread : HasDistinctKeys (.object read)) (place : Cursor) :
    Gives HasDistinctKeys (readMembers fuel depth read place) := by
  match fuel with
  | 0 =>
      unfold readMembers
      exact .fail place _
  | fuel + 1 =>
      unfold readMembers
      dsimp only
      split
      · exact .fail _ _
      · exact .ok hread _
      · apply Gives.ite
        · apply Gives.ite
          · exact (gives_readMember fuel depth _).bind fun member place hmember =>
              gives_readMembers fuel depth
                (.object (by simp) (List.forall_mem_singleton.mpr hmember)) place
          · exact .failNext _ _
        · apply Gives.ite
          · split
            · exact .fail _ _
            · exact (gives_readMember fuel depth _).bind fun member place hmember =>
                gives_readMembers fuel depth (hmember.object_put hread) place
            · exact .failNext _ _
            · exact .failNext _ _
          · exact .failNext _ _

theorem gives_readMember (fuel depth : Nat) (place : Cursor) :
    Gives (fun member => HasDistinctKeys member.2) (readMember fuel depth place) := by
  match fuel with
  | 0 =>
      unfold readMember
      exact .fail place _
  | fuel + 1 =>
      unfold readMember
      refine Gives.bind (fun _ _ _ => trivial) fun name place _ => ?_
      dsimp only
      split
      · exact .fail _ _
      · exact (gives_readValue fuel depth _).bind fun value place hvalue =>
          .ok (P := fun member : String × Json => HasDistinctKeys member.2) hvalue place
      · exact .failNext _ _

end

/-- A text spells only documents in which the members of each object have distinct names. -/
theorem hasDistinctKeys_of_parse {s : String} {doc : Json} (h : parse s = .ok doc) :
    doc.HasDistinctKeys := by
  obtain ⟨⟨read, place⟩, hread, h⟩ := Traversal.bind_eq_ok_iff.mp h
  dsimp only at h
  split at h
  · obtain rfl := Except.ok.inj h
    exact gives_readValue _ _ _ _ _ hread
  · exact absurd h failNext_ne_ok

end SqlSchema.Json
