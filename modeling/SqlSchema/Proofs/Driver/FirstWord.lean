import Mathlib.Data.Bool.AllAny
import SqlSchema.MySql.Engine
import SqlSchema.Proofs.Ddl.Closed
import SqlSchema.Proofs.Driver.Keyword

/-! # The first word of a statement

The kind of a statement is told by its first word, whatever follows, but for one word of MySQL that
counts only before a space. -/

namespace SqlSchema

open Scan Text

/-! ## Lower case of words and of blanks -/

theorem Scan.ascii_of_isWordChar {c : Char} (h : isWordChar c = true) : c.toNat < 128 := by
  have hranges : isWordChar c = (decide (c.val ≥ 65 ∧ c.val ≤ 90) ||
      c.val ≥ 97 && c.val ≤ 122 || c.val ≥ 48 && c.val ≤ 57 || c == '_') :=
    rfl
  rw [hranges] at h
  simp only [Bool.or_eq_true, Bool.and_eq_true, decide_eq_true_eq, beq_iff_eq,
    UInt32.le_iff_toNat_le] at h
  rcases h with ((h | h) | h) | rfl
  · exact Nat.lt_of_le_of_lt h.2 (by decide)
  · exact Nat.lt_of_le_of_lt h.2 (by decide)
  · exact Nat.lt_of_le_of_lt h.2 (by decide)
  · decide

theorem Scan.not_blank_toLower {c : Char} (h : isWordChar c = true) :
    isBlankChar c.toLower = false := by
  refine forall_ascii (P := fun c => isWordChar c = true → isBlankChar c.toLower = false) ?_
    (ascii_of_isWordChar h) h
  decide +kernel

namespace Driver

/-! ## The parts of a statement -/

/-- The first word of a statement, blanks before it aside: as many ASCII letters, digits and
underscores as there are. -/
def firstWord (sql : String) : List Char :=
  (dropBlanks sql.toList).takeWhile isWordChar

def behindWord (sql : String) : List Char :=
  (dropBlanks sql.toList).dropWhile isWordChar

theorem isWordChar_of_mem_firstWord {sql : String} {c : Char} (hc : c ∈ firstWord sql) :
    isWordChar c = true :=
  List.mem_takeWhile_imp hc

theorem not_isWordChar_head_behindWord (sql : String) :
    ∀ c ∈ (behindWord sql).head?, isWordChar c = false := by
  intro c hc
  have h := List.head?_dropWhile_not isWordChar (dropBlanks sql.toList)
  rwa [← behindWord, Option.mem_def.mp hc] at h

theorem dropBlanks_lower_eq {sql : String} (hne : firstWord sql ≠ []) :
    dropBlanks (lower sql).toList =
      (firstWord sql).map Char.toLower ++ (behindWord sql).flatMap lowerChar := by
  have hlowered : (firstWord sql).flatMap lowerChar = (firstWord sql).map Char.toLower :=
    flatMap_lowerChar_eq_map fun c hc =>
      lowerChar_of_ascii (ascii_of_isWordChar (isWordChar_of_mem_firstWord hc))
  have hparts : dropBlanks sql.toList = firstWord sql ++ behindWord sql :=
    List.takeWhile_append_dropWhile.symm
  have hword : ∀ c ∈ (firstWord sql).map Char.toLower, isBlankChar c = false :=
    List.forall_mem_map.mpr fun c hc => not_blank_toLower (isWordChar_of_mem_firstWord hc)
  rw [toList_lower, dropBlanks_lower, hparts, List.flatMap_append, hlowered,
    dropBlanks_word (by simpa using hne) hword]

/-! ## Keywords -/

/-- The letters that keywords are made of. There is no K, into which the Kelvin sign is lowered. -/
def keywordLetters : List Char :=
  "abcdefghijlmnopqrstuvwxyz".toList

/-- A keyword in lower case. Since it does not end in an I, a dotted capital I, which leaves its dot
behind, completes none. -/
def IsKeyword (keyword : List Char) : Prop :=
  keyword ⊆ keywordLetters ∧ keyword.getLast? ≠ some 'i'

instance (keyword : List Char) : Decidable (IsKeyword keyword) :=
  inferInstanceAs (Decidable (_ ∧ _))

theorem isWordChar_of_toLower {c : Char} (hc : c.toNat < 128) (h : c.toLower ∈ keywordLetters) :
    isWordChar c = true := by
  refine forall_ascii (P := fun c => c.toLower ∈ keywordLetters → isWordChar c = true) ?_ hc h
  decide +kernel

theorem eq_dotted_of_mem_lowerChar {c d : Char} (hc : isWordChar c = false)
    (hd : d ∈ keywordLetters) (h : d ∈ lowerChar c) : c = '\u0130' := by
  have hascii : ∀ d ∈ keywordLetters, d.toNat < 128 := List.all_iff_forall_prop.mp (by decide)
  rcases ascii_of_mem_lowerChar h (hascii d hd) with hsmall | rfl | rfl
  · rw [lowerChar_of_ascii hsmall, List.mem_singleton] at h
    rw [isWordChar_of_toLower hsmall (h ▸ hd)] at hc
    cases hc
  · rfl
  · rw [lowerChar_kelvin, List.mem_singleton] at h
    exact absurd (h ▸ hd) (by decide)

theorem mem_lowerChar_of_start {c d : Char} {cs ds : List Char}
    (h : d :: ds <+: (c :: cs).flatMap lowerChar) : d ∈ lowerChar c := by
  obtain ⟨x, xs, hx⟩ := List.exists_cons_of_ne_nil (lowerChar_ne_nil c)
  rw [List.flatMap_cons, hx] at h
  obtain ⟨rfl, -⟩ := List.cons_prefix_cons.mp h
  rw [hx]
  exact List.mem_cons_self

/-- No keyword begins with what is no letter. -/
theorem not_prefix_lower {keyword cs : List Char} (hkeyword : IsKeyword keyword)
    (hne : keyword ≠ []) (hcs : ∀ c ∈ cs.head?, isWordChar c = false) :
    ¬keyword <+: cs.flatMap lowerChar := by
  intro h
  obtain ⟨hletters, hlast⟩ := hkeyword
  obtain ⟨d, ds, rfl⟩ := List.exists_cons_of_ne_nil hne
  cases cs with
  | nil => simp at h
  | cons c cs =>
      -- The dotted capital I is the only one that becomes such a letter, and its dot follows.
      obtain rfl := eq_dotted_of_mem_lowerChar (hcs c rfl) (hletters List.mem_cons_self)
        (mem_lowerChar_of_start h)
      obtain ⟨rfl, hrest⟩ := List.cons_prefix_cons.mp h
      cases ds with
      | nil => exact hlast rfl
      | cons e ds =>
          obtain ⟨rfl, -⟩ := List.cons_prefix_cons.mp hrest
          exact absurd (hletters (List.mem_cons_of_mem _ List.mem_cons_self)) (by decide)

/-- A keyword that a statement starts with lies in its first word. -/
theorem keyword_prefix_iff {keyword word cs : List Char} (hkeyword : IsKeyword keyword)
    (hcs : ∀ c ∈ cs.head?, isWordChar c = false) :
    keyword <+: word ++ cs.flatMap lowerChar ↔ keyword <+: word := by
  constructor
  · intro h
    rcases List.prefix_or_prefix_of_prefix h (List.prefix_append word _) with hshort | ⟨rest, rfl⟩
    · exact hshort
    · rw [List.prefix_append_right_inj] at h
      by_cases hne : rest = []
      · simp [hne]
      · -- The rest of the keyword would begin behind the word.
        have hrest : IsKeyword rest := by
          obtain ⟨hletters, hlast⟩ := hkeyword
          refine ⟨fun d hd => hletters (List.mem_append_right word hd), fun hdotless => hlast ?_⟩
          rw [List.getLast?_append, hdotless]
          rfl
        exact absurd h (not_prefix_lower hrest hne hcs)
  · exact fun h => h.trans (List.prefix_append _ _)

theorem eq_space_of_mem_lowerChar {c : Char} (h : ' ' ∈ lowerChar c) : c = ' ' := by
  rcases ascii_of_mem_lowerChar h (by decide) with hsmall | rfl | rfl
  · rw [lowerChar_of_ascii hsmall, List.mem_singleton] at h
    refine forall_ascii (P := fun c => ' ' = c.toLower → c = ' ') ?_ hsmall h
    decide +kernel
  · rw [lowerChar_dotted] at h
    exact absurd h (by decide)
  · rw [lowerChar_kelvin] at h
    exact absurd h (by decide)

/-- A keyword and a space that a statement starts with are its whole first word and what follows. -/
theorem spaced_keyword_prefix_iff {keyword word cs : List Char} (hkeyword : IsKeyword keyword)
    (hword : ' ' ∉ word) (hcs : ∀ c ∈ cs.head?, isWordChar c = false) :
    keyword ++ [' '] <+: word ++ cs.flatMap lowerChar ↔ word = keyword ∧ cs.head? = some ' ' := by
  have hspace : lowerChar ' ' = [' '] := by decide
  constructor
  · intro h
    have hkept := (keyword_prefix_iff hkeyword hcs).mp ((List.prefix_append _ _).trans h)
    obtain ⟨rest, rfl⟩ := hkept
    rw [List.append_assoc, List.prefix_append_right_inj] at h
    cases rest with
    | cons d rest =>
        obtain ⟨rfl, -⟩ := List.cons_prefix_cons.mp h
        exact absurd (List.mem_append_right keyword List.mem_cons_self) hword
    | nil =>
        refine ⟨List.append_nil keyword, ?_⟩
        cases cs with
        | nil => simp at h
        | cons c cs => rw [eq_space_of_mem_lowerChar (mem_lowerChar_of_start h), List.head?_cons]
  · rintro ⟨rfl, hhead⟩
    obtain ⟨rest, rfl⟩ := List.head?_eq_some_iff.mp hhead
    rw [List.prefix_append_right_inj, List.flatMap_cons, hspace]
    exact List.prefix_append _ _

/-! ## Kinds -/

def keyWord (sql : String) : List Char :=
  (firstWord sql).map Char.toLower

/-- Whether two statements start with a word, and with the same one in any case. -/
def StartAlike (s t : String) : Prop :=
  firstWord s ≠ [] ∧ keyWord s = keyWord t

instance (s t : String) : Decidable (StartAlike s t) :=
  inferInstanceAs (Decidable (_ ∧ _))

theorem StartAlike.symm {s t : String} (h : StartAlike s t) : StartAlike t s := by
  refine ⟨fun hnil => h.1 ?_, h.2.symm⟩
  have hword := h.2
  rwa [keyWord, keyWord, hnil, List.map_nil, List.map_eq_nil_iff] at hword

theorem startsWithAny_iff {starts : List String}
    (hstarts : ∀ start ∈ starts, IsKeyword start.toList) {sql : String} (hne : firstWord sql ≠ []) :
    startsWithAny starts sql = true ↔ ∃ start ∈ starts, start.toList <+: keyWord sql := by
  rw [startsWithAny_eq, dropBlanks_lower_eq hne, List.any_eq_true]
  refine exists_congr fun start => and_congr_right fun hstart => ?_
  rw [List.isPrefixOf_iff_prefix,
    keyword_prefix_iff (hstarts start hstart) (not_isWordChar_head_behindWord sql), keyWord]

theorem StartAlike.startsWithAny_eq {s t : String} (h : StartAlike s t) {starts : List String}
    (hstarts : ∀ start ∈ starts, IsKeyword start.toList) :
    startsWithAny starts s = startsWithAny starts t := by
  rw [Bool.eq_iff_iff, startsWithAny_iff hstarts h.1, startsWithAny_iff hstarts h.symm.1, h.2]

/-- The starts of MySQL that are keywords. The one that is left is a keyword and a space. -/
def mySqlKeywords : List String :=
  ["select", "with", "show", "describe", "explain"]

theorem isKeyword_of_mem_mySqlKeywords :
    ∀ start ∈ mySqlKeywords, IsKeyword start.toList := by
  decide

theorem not_space_mem_keyWord (sql : String) : ' ' ∉ keyWord sql := by
  intro h
  obtain ⟨c, hc, hspace⟩ := List.mem_map.mp h
  have hblank := not_blank_toLower (isWordChar_of_mem_firstWord hc)
  rw [hspace] at hblank
  revert hblank
  decide

theorem returnsRows_mySql_iff {sql : String} (hne : firstWord sql ≠ []) :
    returnsRows .mySql sql = true ↔
      startsWithAny mySqlKeywords sql = true ∨
        keyWord sql = "desc".toList ∧ (behindWord sql).head? = some ' ' := by
  have hparts : returnsRows .mySql sql =
      (startsWithAny mySqlKeywords sql || startsWithAny ["desc "] sql) := by
    rw [returnsRows, startsWithAny_eq, startsWithAny_eq, startsWithAny_eq, ← List.any_append]
    exact List.Perm.any_eq (by decide)
  have hspaced : startsWithAny ["desc "] sql = true ↔
      keyWord sql = "desc".toList ∧ (behindWord sql).head? = some ' ' := by
    rw [startsWithAny_eq, dropBlanks_lower_eq hne, List.any_cons, List.any_nil, Bool.or_false,
      List.isPrefixOf_iff_prefix]
    have hkeyword : IsKeyword "desc".toList := by decide
    exact spaced_keyword_prefix_iff hkeyword (not_space_mem_keyWord sql)
      (not_isWordChar_head_behindWord sql)
  rw [hparts, Bool.or_eq_true, hspaced]

theorem returnsRows_desc_iff {sql : String} (hword : keyWord sql = "desc".toList) :
    returnsRows .mySql sql = true ↔ (behindWord sql).head? = some ' ' := by
  have hne : firstWord sql ≠ [] := by
    intro hnil
    rw [keyWord, hnil] at hword
    revert hword
    decide
  have hother : ¬startsWithAny mySqlKeywords sql = true := by
    rw [startsWithAny_iff isKeyword_of_mem_mySqlKeywords hne, hword]
    decide
  rw [returnsRows_mySql_iff hne, or_iff_right hother, and_iff_right hword]

theorem Engine.run_modified {π ω : Type} {e : Engine π ω} {sql : String} {pool pool' : π}
    {world world' : ω} {effect : Effect} (hkind : e.returnsRows sql = false)
    (hmodify : e.modify sql pool world = (.ok effect, pool', world')) :
    e.run sql pool world =
      (.modified
        { rowsAffected := effect.rowsAffected, lastInsertId := e.generatedId sql effect },
        pool', world') := by
  rw [run, if_neg (Bool.eq_false_iff.mp hkind), hmodify]

/-- Rows with which a server answers a statement that counts as one that changes them are lost. -/
theorem run_rows_lost {sql : String} (hkind : returnsRows .mySql sql = false)
    {s s' : MySql.Server} {columns : List MySql.ReplyColumn}
    {rows : List (List (Option (List UInt8)))}
    (hreply : s.execute sql = (.rows columns rows, s')) :
    MySql.engine.run sql () s =
      (.modified { rowsAffected := 0, lastInsertId := none }, (), s') := by
  have hchanges : MySql.engine.returnsRows sql = false := by
    rw [MySql.engine]
    dsimp only
    exact hkind
  have hmodify : MySql.engine.modify sql () s = (.ok ⟨0, 0⟩, (), s') := by
    rw [MySql.engine]
    dsimp only
    rw [MySql.modify, hreply]
  exact Engine.run_modified hchanges hmodify

/-- Two statements that start alike are of one kind, whatever follows the word, unless the word is
`DESC` and the backend is MySQL: there it returns rows before a space and changes them before
anything else and at the end. -/
theorem kind_firstWord {s t : String} (h : StartAlike s t) :
    (∀ b : Backend, b = .sqlite ∨ keyWord s ≠ "desc".toList → returnsRows b s = returnsRows b t) ∧
      insertsRows s = insertsRows t ∧
      (keyWord s = "desc".toList →
        (returnsRows .mySql s = true ↔ (behindWord s).head? = some ' ') ∧
        (returnsRows .mySql t = true ↔ (behindWord t).head? = some ' ')) := by
  refine ⟨fun b hb => ?_, h.startsWithAny_eq (by decide), fun hword =>
    ⟨returnsRows_desc_iff hword, returnsRows_desc_iff (h.2 ▸ hword)⟩⟩
  cases b with
  | sqlite => exact h.startsWithAny_eq (by decide)
  | mySql =>
      have hword : keyWord s ≠ "desc".toList := hb.resolve_left nofun
      rw [Bool.eq_iff_iff, returnsRows_mySql_iff h.1, returnsRows_mySql_iff h.symm.1, ← h.2,
        h.startsWithAny_eq isKeyword_of_mem_mySqlKeywords, or_iff_left fun hs => hword hs.1,
        or_iff_left fun ht => hword ht.1]

theorem kind_firstWord_unspaced :
    (StartAlike "\u2003select\u2003x" "SELECT(1)" ∧
      returnsRows .mySql "\u2003select\u2003x" = returnsRows .mySql "SELECT(1)") ∧
      (StartAlike "Desc`t`" "DESC t;" ∧
        (returnsRows .mySql "Desc`t`" = true ↔ (behindWord "Desc`t`").head? = some ' ')) := by
  have hselect : StartAlike "\u2003select\u2003x" "SELECT(1)" := by decide +kernel
  have hdesc : StartAlike "Desc`t`" "DESC t;" := by decide +kernel
  exact ⟨⟨hselect, (kind_firstWord hselect).1 .mySql (.inr (by decide +kernel))⟩,
    hdesc, ((kind_firstWord hdesc).2.2 (by decide +kernel)).1⟩

/-- A description with a tab behind the word starts like one with a space, and its rows are lost. -/
theorem kind_desc_tab :
    StartAlike "DESC t" "DESC\tt" ∧ returnsRows .mySql "DESC t" = true ∧
      returnsRows .mySql "DESC\tt" = false ∧
      (MySql.engine.run "DESC\tt" () { replies := [("DESC\tt",
        .rows [⟨"Field", { code := 253, size := 64 }⟩] [[some [105]]])] }).1 =
          .modified { rowsAffected := 0, lastInsertId := none } := by
  have hkind : returnsRows .mySql "DESC\tt" = false := by decide +kernel
  refine ⟨by decide +kernel, by decide +kernel, hkind, ?_⟩
  rw [run_rows_lost hkind rfl]

end Driver

end SqlSchema
