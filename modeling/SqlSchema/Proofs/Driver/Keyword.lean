import SqlSchema.Driver.Keyword
import SqlSchema.Proofs.Text.Blank
import SqlSchema.Proofs.Text.Case

/-! # The word that a statement starts with

The first word of a statement decides its kind, whatever follows, unless one of the texts that tell
the kind goes on beyond the word. -/

namespace SqlSchema.Driver

open SqlSchema.Text

theorem startsWithAny_eq (starts : List String) (sql : String) :
    startsWithAny starts sql =
      starts.any fun start => start.toList.isPrefixOf (dropBlanks (lower sql).toList) :=
  rfl

/-- Which of the small sigmas a capital one becomes does not matter to ASCII words. -/
theorem startsWithAny_eq_of_lowerForm {starts : List String}
    (hstarts : ∀ start ∈ starts, (start.toList.all fun c => c.toNat < 128) = true) {sql : String}
    {lowered : List Char} (h : LowerForm sql.toList lowered) :
    startsWithAny starts sql =
      starts.any fun start => start.toList.isPrefixOf (dropBlanks lowered) := by
  have hdropped :
      List.Forall₂ SameButSigma (dropBlanks (lower sql).toList) (dropBlanks lowered) := by
    rw [toList_lower]
    exact dropBlanks_sameButSigma h.sameButSigma
  have hsame : ∀ start ∈ starts, start.toList.isPrefixOf (dropBlanks (lower sql).toList) =
      start.toList.isPrefixOf (dropBlanks lowered) := by
    intro start hstart
    refine isPrefixOf_eq_of_sameButSigma (fun c hc => ?_) hdropped
    have hascii : c.toNat < 128 := by
      simpa using List.all_eq_true.mp (hstarts start hstart) c hc
    constructor <;> rintro rfl <;> exact absurd hascii (by decide)
  rw [startsWithAny_eq, Bool.eq_iff_iff, List.any_eq_true, List.any_eq_true]
  exact exists_congr fun start => and_congr_right fun hstart => by rw [hsame start hstart]

theorem startsWithAny_word {starts : List String} {word : String} (hne : (lower word).toList ≠ [])
    (hword : ∀ c ∈ (lower word).toList, isBlankChar c = false)
    (hdecided : ∀ start ∈ starts, (lower word).toList <+: start.toList →
      start.toList <+: (lower word).toList) (rest : String) :
    startsWithAny starts (word ++ rest) = startsWithAny starts word := by
  have hlong := dropBlanks_word hne hword (lower rest).toList
  have hshort := dropBlanks_word hne hword []
  rw [List.append_nil] at hshort
  rw [startsWithAny_eq, startsWithAny_eq, lower_append, String.toList_append, hlong, hshort,
    Bool.eq_iff_iff, List.any_eq_true, List.any_eq_true]
  refine exists_congr fun start => and_congr_right fun hstart => ?_
  rw [List.isPrefixOf_iff_prefix, List.isPrefixOf_iff_prefix]
  constructor
  · intro hprefix
    rcases List.prefix_or_prefix_of_prefix hprefix (List.prefix_append _ _) with h | h
    · exact h
    · exact hdecided start hstart h
  · exact fun h => h.trans (List.prefix_append _ _)

/-! ## Verbs -/

/-- What the statements of the library start with. -/
inductive Verb
  | select
  | insert
  | update
  | delete
  | create
  deriving Repr, DecidableEq

namespace Verb

def text : Verb → String
  | select => "SELECT"
  | insert => "INSERT"
  | update => "UPDATE"
  | delete => "DELETE"
  | create => "CREATE"

theorem startsWithAny_text {starts : List String}
    (hstarts : starts ∈ [mySqlRowStarts, sqliteRowStarts, sqliteInsertStarts]) (v : Verb)
    (rest : String) :
    startsWithAny starts (trim (v.text ++ rest)) = startsWithAny starts v.text := by
  have hne : v.text ≠ "" := by
    cases v <;> decide
  have hblank : v.text.toList.any isBlankChar = false := by
    cases v <;> decide
  have hlowered : (lower v.text).toList.any isBlankChar = false := by
    cases v <;> decide
  obtain ⟨kept, hkept⟩ := exists_trim_append hne (forall_not_blank_of_any hblank) rest
  rw [hkept]
  refine startsWithAny_word ?_ (forall_not_blank_of_any hlowered) ?_ kept
  · cases v <;> decide
  · revert starts
    cases v <;> decide

theorem returnsRows_trim (b : Backend) (v : Verb) (rest : String) :
    returnsRows b (trim (v.text ++ rest)) = true ↔ v = .select := by
  cases b with
  | mySql =>
      rw [returnsRows, startsWithAny_text (by simp)]
      cases v <;> decide
  | sqlite =>
      rw [returnsRows, startsWithAny_text (by simp)]
      cases v <;> decide

theorem insertsRows_trim (v : Verb) (rest : String) :
    insertsRows (trim (v.text ++ rest)) = true ↔ v = .insert := by
  rw [insertsRows, startsWithAny_text (by simp)]
  cases v <;> decide

end Verb

end SqlSchema.Driver
