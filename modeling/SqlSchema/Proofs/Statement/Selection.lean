import SqlSchema.Proofs.Json.RoundTrip
import SqlSchema.Proofs.Schema.ColumnDocument
import SqlSchema.Proofs.Statement.Literals

/-! # What a selection says

A selection is the last part of each kind that was asked for, in whatever order and however often
the parts came, and its document is read back as it was. Its text holds every part that says
something, in one fixed order. -/

namespace SqlSchema

open SqlSchema.Decode SqlSchema.Text

namespace Selection

/-! ## The last part of each kind -/

inductive Kind
  | columns
  | condition
  | grouping
  | order
  | limit
  deriving DecidableEq

def Part.kind : Part → Kind
  | .columns _ => .columns
  | .condition _ => .condition
  | .grouping _ => .grouping
  | .order _ => .order
  | .limit _ => .limit

def part? (s : Selection) : Kind → Option Part
  | .columns => s.columns.map .columns
  | .condition => s.condition.map .condition
  | .grouping => s.grouping.map .grouping
  | .order => s.order.map .order
  | .limit => s.limit.map .limit

def lastOf (k : Kind) (parts : List Part) : Option Part :=
  (parts.filter (·.kind = k)).getLast?

theorem part?_everything (k : Kind) : everything.part? k = none := by
  cases k <;> rfl

/-- A part takes the place of the one of its kind and leaves the others alone. -/
theorem part?_withPart (s : Selection) (p : Part) (k : Kind) :
    (s.withPart p).part? k = if p.kind = k then some p else s.part? k := by
  cases p <;> cases k <;> rfl

theorem part?_foldl_withPart (parts : List Part) (s : Selection) (k : Kind) :
    (parts.foldl withPart s).part? k = (lastOf k parts).or (s.part? k) := by
  induction parts generalizing s with
  | nil => rfl
  | cons p parts ih =>
      rw [List.foldl_cons, ih, part?_withPart, lastOf, lastOf, List.filter_cons]
      by_cases hk : p.kind = k
      · rw [if_pos hk, if_pos (decide_eq_true hk), List.getLast?_cons]
        cases (parts.filter (·.kind = k)).getLast? <;> rfl
      · rw [if_neg hk, if_neg (by simpa using hk)]

theorem part?_ofParts (parts : List Part) (k : Kind) :
    (ofParts parts).part? k = lastOf k parts := by
  rw [ofParts, part?_foldl_withPart, part?_everything, Option.or_none]

/-- A selection is nothing but its parts. -/
theorem eq_of_part? {s t : Selection} (h : ∀ k, s.part? k = t.part? k) : s = t := by
  have hcolumns := Option.map_injective (fun _ _ => Part.columns.inj) (h .columns)
  have hcondition := Option.map_injective (fun _ _ => Part.condition.inj) (h .condition)
  have hgrouping := Option.map_injective (fun _ _ => Part.grouping.inj) (h .grouping)
  have horder := Option.map_injective (fun _ _ => Part.order.inj) (h .order)
  have hlimit := Option.map_injective (fun _ _ => Part.limit.inj) (h .limit)
  cases s
  cases t
  simp_all

/-- Lists of parts ask for the same if they agree on the last part of each kind. -/
theorem ofParts_eq_iff (parts others : List Part) :
    ofParts parts = ofParts others ↔ ∀ k, lastOf k parts = lastOf k others := by
  constructor
  · intro h k
    rw [← part?_ofParts, ← part?_ofParts, h]
  · intro h
    refine eq_of_part? fun k => ?_
    rw [part?_ofParts, part?_ofParts, h]

/-! ## Documents -/

theorem nullable_optionalNames (names : Option (List String)) :
    nullable (list Decode.text) (optionalNames names) = .ok names := by
  cases names with
  | none => rfl
  | some names =>
      have hread : list Decode.text (.list (names.map .text)) = .ok (names.map id) :=
        list_map fun _ _ => rfl
      rw [optionalNames, nullable_of_ne_null (by simp), hread, List.map_id]
      rfl

theorem nullable_optionalLimit (limit : Option UInt64) :
    nullable limitOfJson (optionalLimit limit) = .ok limit := by
  cases limit with
  | none => rfl
  | some n =>
      have hread : natural 64 "u64" (.integer n.toNat) = .ok n.toNat :=
        natural_of_lt n.toNat_lt "u64"
      rw [optionalLimit, nullable_of_ne_null (by simp), limitOfJson, hread]
      exact congrArg (fun m => Except.ok (some m)) n.ofNat_toNat

theorem ofJson_toJson (s : Selection) : ofJson s.toJson = .ok s := by
  simp [ofJson, toJson, record, recordOfMembers, checkMembers, Field.of, defaulted, Keyed.get?,
    Schema.nullable_optionalText, nullable_optionalNames, nullable_optionalLimit, bind,
    Except.bind, Except.map, pure, Except.pure]

theorem isPlain_optionalText (depth : Nat) (text : Option String) :
    Json.IsPlain depth (Schema.optionalText text) := by
  cases text with
  | none => exact .null depth
  | some text => exact .text depth text

theorem isPlain_optionalNames (depth : Nat) (names : Option (List String)) :
    Json.IsPlain (depth + 1) (optionalNames names) := by
  cases names with
  | none => exact .null _
  | some names =>
      refine .list fun item hitem => ?_
      obtain ⟨name, -, rfl⟩ := List.mem_map.mp hitem
      exact .text depth name

theorem isPlain_optionalLimit (depth : Nat) (limit : Option UInt64) :
    Json.IsPlain depth (optionalLimit limit) := by
  cases limit with
  | none => exact .null depth
  | some n =>
      have hlt : n.toNat < Number.powerOfTwo 64 := n.toNat_lt
      exact .integer depth (by omega) (by omega)

theorem parse_compact_toJson (s : Selection) :
    Json.parse s.toJson.compact = .ok s.toJson := by
  have hmembers : ∀ m ∈ [("columns", optionalNames s.columns),
      ("where", Schema.optionalText s.condition), ("group_by", Schema.optionalText s.grouping),
      ("order_by", Schema.optionalText s.order), ("limit", optionalLimit s.limit)],
      Json.IsPlain 126 m.2 := by
    simp only [List.forall_mem_cons]
    exact ⟨isPlain_optionalNames 125 _, isPlain_optionalText _ _, isPlain_optionalText _ _,
      isPlain_optionalText _ _, isPlain_optionalLimit _ _, List.forall_mem_nil _⟩
  exact Json.parse_compact (.object (by simp [Keyed.names]) hmembers)

/-! ## Selections that ask for the same rows -/

/-- A fragment that says nothing: it is absent, or it holds blanks only. -/
def IsVoid (fragment : Option String) : Prop :=
  ∀ sql ∈ fragment, isBlank sql = true

/-- The same fragment, or two that say nothing. -/
def SameFragment (fragment other : Option String) : Prop :=
  fragment = other ∨ IsVoid fragment ∧ IsVoid other

/-- The same columns, of which an absent list has none, with fragments that say the same and the
same limit. -/
structure Alike (s t : Selection) : Prop where
  columns : s.columns.getD [] = t.columns.getD []
  condition : SameFragment s.condition t.condition
  grouping : SameFragment s.grouping t.grouping
  order : SameFragment s.order t.order
  limit : s.limit = t.limit

end Selection

namespace Statement

open Selection

theorem columnList_eq (escape : Escaper) (columns : Option (List String)) :
    columnList escape columns = if columns.getD [] = [] then "*" else
      ",".intercalate ((columns.getD []).map escape) := by
  match columns with
  | none => rfl
  | some [] => rfl
  | some (first :: rest) => exact joined_eq_intercalate "," ((first :: rest).map escape)

theorem fragmentClause_of_isVoid (keyword : String) {fragment : Option String}
    (h : IsVoid fragment) : fragmentClause keyword fragment = "" := by
  cases fragment with
  | none => rfl
  | some sql => rw [fragmentClause, h sql rfl, Bool.not_true, textIf, if_neg Bool.false_ne_true]

theorem fragmentClause_of_same (keyword : String) {fragment other : Option String}
    (h : SameFragment fragment other) :
    fragmentClause keyword fragment = fragmentClause keyword other := by
  rcases h with rfl | ⟨hfragment, hother⟩
  · rfl
  · rw [fragmentClause_of_isVoid keyword hfragment, fragmentClause_of_isVoid keyword hother]

theorem select_of_alike (escape : Escaper) (table : String) {s t : Selection} (h : Alike s t) :
    select escape table s = select escape table t := by
  rw [select, select, columnList_eq escape s.columns, columnList_eq escape t.columns, h.columns,
    fragmentClause_of_same _ h.condition, fragmentClause_of_same _ h.grouping,
    fragmentClause_of_same _ h.order, h.limit]

/-! ## The clauses of a selection -/

/-- A selection up to its clauses: its columns, or a star if it names none, and its table. -/
def selectHead (escape : Escaper) (table : String) (s : Selection) : String :=
  let columns := s.columns.getD []
  "SELECT " ++ (if columns = [] then "*" else ",".intercalate (columns.map escape)) ++ " FROM "
    ++ escape table

def clauseKeywords : List String :=
  ["WHERE", "GROUP BY", "ORDER BY", "LIMIT"]

/-- Clauses as they are written, a space before each keyword and behind it. -/
def clausesText : List (String × String) → String
  | [] => ""
  | (keyword, body) :: clauses => " " ++ keyword ++ " " ++ body ++ clausesText clauses

/-- What a selection asks for, as clauses by their keywords: the fragments that say something, just
as they are, and the limit in decimal digits. -/
structure AreAsked (s : Selection) (clauses : List (String × String)) : Prop where
  ordered : (clauses.map Prod.fst).Sublist clauseKeywords
  condition : ∀ sql, ("WHERE", sql) ∈ clauses ↔ s.condition = some sql ∧ isBlank sql = false
  grouping : ∀ sql, ("GROUP BY", sql) ∈ clauses ↔ s.grouping = some sql ∧ isBlank sql = false
  order : ∀ sql, ("ORDER BY", sql) ∈ clauses ↔ s.order = some sql ∧ isBlank sql = false
  limit : ∀ digits, ("LIMIT", digits) ∈ clauses ↔ ∃ n ∈ s.limit, digits = toString n.toNat
  limit_last : ∀ n ∈ s.limit, clauses.getLast? = some ("LIMIT", toString n.toNat)

/-- The clause of a fragment under its keyword, if the fragment says something. -/
def fragmentEntry (keyword : String) : Option String → List (String × String)
  | some sql => if isBlank sql then [] else [(keyword, sql)]
  | none => []

def limitEntry (limit : Option UInt64) : List (String × String) :=
  (limit.map fun n => ("LIMIT", toString n.toNat)).toList

def selectClauses (s : Selection) : List (String × String) :=
  fragmentEntry "WHERE" s.condition ++ (fragmentEntry "GROUP BY" s.grouping ++
    (fragmentEntry "ORDER BY" s.order ++ limitEntry s.limit))

theorem clausesText_append (clauses more : List (String × String)) :
    clausesText (clauses ++ more) = clausesText clauses ++ clausesText more := by
  induction clauses with
  | nil => rw [List.nil_append, clausesText, String.empty_append]
  | cons clause clauses ih =>
      rw [List.cons_append, clausesText, clausesText, ih]
      simp only [String.append_assoc]

theorem clausesText_fragmentEntry (keyword : String) (fragment : Option String) :
    clausesText (fragmentEntry keyword fragment) =
      fragmentClause (" " ++ keyword ++ " ") fragment := by
  cases fragment with
  | none => rfl
  | some sql =>
      cases hblank : isBlank sql <;>
        simp [fragmentEntry, fragmentClause, clausesText, textIf, hblank]

theorem clausesText_limitEntry (limit : Option UInt64) :
    clausesText (limitEntry limit) = limitClause limit := by
  cases limit <;> simp [limitEntry, limitClause, clausesText]

theorem mem_fragmentEntry {keyword other sql : String} {fragment : Option String} :
    (other, sql) ∈ fragmentEntry keyword fragment ↔
      other = keyword ∧ fragment = some sql ∧ isBlank sql = false := by
  cases fragment with
  | none => simp [fragmentEntry]
  | some body =>
      rw [fragmentEntry, Option.some_inj]
      split
      next hblank =>
        simp only [List.not_mem_nil, false_iff, not_and]
        rintro - rfl
        simp [hblank]
      next hblank =>
        simp only [List.mem_singleton, Prod.mk.injEq, and_congr_right_iff]
        intro _
        constructor
        · rintro rfl
          exact ⟨rfl, by simpa using hblank⟩
        · exact fun h => h.1.symm

theorem mem_limitEntry {other digits : String} {limit : Option UInt64} :
    (other, digits) ∈ limitEntry limit ↔
      other = "LIMIT" ∧ ∃ n ∈ limit, digits = toString n.toNat := by
  cases limit <;> simp [limitEntry]

theorem names_fragmentEntry (keyword : String) (fragment : Option String) :
    ((fragmentEntry keyword fragment).map Prod.fst).Sublist [keyword] := by
  cases fragment with
  | none => exact List.nil_sublist _
  | some sql =>
      rw [fragmentEntry]
      split
      · exact List.nil_sublist _
      · exact List.Sublist.refl _

theorem names_limitEntry (limit : Option UInt64) :
    ((limitEntry limit).map Prod.fst).Sublist ["LIMIT"] := by
  cases limit with
  | none => exact List.nil_sublist _
  | some n => exact List.Sublist.refl _

theorem areAsked_selectClauses (s : Selection) : AreAsked s (selectClauses s) where
  ordered := by
    simp only [selectClauses, List.map_append]
    exact (names_fragmentEntry "WHERE" _).append ((names_fragmentEntry "GROUP BY" _).append
      ((names_fragmentEntry "ORDER BY" _).append (names_limitEntry _)))
  condition sql := by simp [selectClauses, mem_fragmentEntry, mem_limitEntry]
  grouping sql := by simp [selectClauses, mem_fragmentEntry, mem_limitEntry]
  order sql := by simp [selectClauses, mem_fragmentEntry, mem_limitEntry]
  limit digits := by simp [selectClauses, mem_fragmentEntry, mem_limitEntry]
  limit_last n hn := by
    have hlimit : s.limit = some n := hn
    simp [selectClauses, limitEntry, hlimit]

theorem select_eq (escape : Escaper) (table : String) (s : Selection) :
    select escape table s = selectHead escape table s ++ clausesText (selectClauses s) := by
  rw [select, columnList_eq]
  simp only [selectClauses, clausesText_append, clausesText_fragmentEntry, clausesText_limitEntry,
    ← String.append_assoc]
  rfl

/-- A selection has of each kind the part that was asked for last, and so the last parts decide its
text. A selection is read back from the text of its document as it was, and so has the same text
again; and columns or fragments that are absent and ones that say nothing have the same text. The
text is the columns and the table, and behind them a clause for each fragment that says something
and for the limit, each at most once and in one order. -/
theorem select_dependsOnRequest (escape : Escaper) (table : String) :
    (∀ (parts : List Part) (k : Kind), (ofParts parts).part? k = lastOf k parts)
      ∧ (∀ parts others : List Part, (∀ k, lastOf k parts = lastOf k others) →
        select escape table (ofParts parts) = select escape table (ofParts others))
      ∧ (∀ s : Selection, Json.parse s.toJson.compact = .ok s.toJson ∧ ofJson s.toJson = .ok s)
      ∧ (∀ s t : Selection, Alike s t → select escape table s = select escape table t)
      ∧ ∀ s : Selection, ∃ clauses, AreAsked s clauses ∧
          select escape table s = selectHead escape table s ++ clausesText clauses := by
  refine ⟨part?_ofParts, fun parts others h => ?_,
    fun s => ⟨parse_compact_toJson s, ofJson_toJson s⟩, fun s t => select_of_alike escape table,
    fun s => ⟨selectClauses s, areAsked_selectClauses s, select_eq escape table s⟩⟩
  rw [(ofParts_eq_iff parts others).mpr h]

/-- A condition and a limit that are asked for twice, and blanks that are no grouping. -/
theorem select_dependsOnRequest_pages :
    let parts : List Part :=
      [.limit 5, .condition "id = 1", .columns ["id"], .condition "hits > 3",
       .limit 18446744073709551615]
    let others : List Part :=
      [.condition "hits > 3", .columns [], .limit 18446744073709551615, .columns ["id"]]
    let s : Selection := { condition := some "hits > 3", limit := some 18446744073709551615 }
    let t : Selection := { s with columns := some [], grouping := some "\u2003\u00a0" }
    (ofParts parts).part? .limit = some (.limit 18446744073709551615) ∧
      (∀ k, lastOf k parts = lastOf k others) ∧ Alike s t ∧
      select Backend.mySql.escape "pages" (ofParts parts) =
        select Backend.mySql.escape "pages" (ofParts others) ∧
      select Backend.mySql.escape "pages" (ofParts parts) =
        "SELECT id FROM pages WHERE hits > 3 LIMIT 18446744073709551615" ∧
      select Backend.mySql.escape "pages" s = select Backend.mySql.escape "pages" t ∧
      select Backend.mySql.escape "pages" t =
        "SELECT * FROM pages WHERE hits > 3 LIMIT 18446744073709551615" := by
  intro parts others s t
  obtain ⟨hasked, hparts, -, halike, -⟩ := select_dependsOnRequest Backend.mySql.escape "pages"
  have hlast : ∀ k, lastOf k parts = lastOf k others := by
    intro k
    cases k <;> rfl
  have hsame : Alike s t := by
    refine ⟨rfl, .inl rfl, .inr ⟨?_, ?_⟩, .inl rfl, rfl⟩
    · rintro sql ⟨⟩
    · rintro sql ⟨⟩
      decide
  exact ⟨hasked parts .limit, hlast, hsame, hparts parts others hlast, by decide +kernel,
    halike s t hsame, by decide +kernel⟩

end Statement

end SqlSchema
