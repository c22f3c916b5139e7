import Mathlib.Data.List.TakeWhile
import SqlSchema.Text.Blank

/-! # Blanks at the ends of a text

What `trim` takes away: blanks around a text, and nothing of a word that the text starts with. -/

namespace SqlSchema.Text

theorem isBlank_iff (s : String) : isBlank s = true ↔ ∀ ch ∈ s.toList, isBlankChar ch = true := by
  rw [isBlank, List.all_eq_true]

theorem forall_not_blank_of_any {cs : List Char} (h : cs.any isBlankChar = false) :
    ∀ c ∈ cs, isBlankChar c = false := by
  simpa using h

theorem dropBlanks_cons {c : Char} (h : isBlankChar c = false) (cs : List Char) :
    dropBlanks (c :: cs) = c :: cs := by
  rw [dropBlanks, List.dropWhile_cons_of_neg (by simp [h])]

/-- Blanks are not dropped behind a word. -/
theorem dropBlanks_word {word : List Char} (hne : word ≠ [])
    (hword : ∀ c ∈ word, isBlankChar c = false) (rest : List Char) :
    dropBlanks (word ++ rest) = word ++ rest := by
  obtain ⟨c, cs, rfl⟩ := List.exists_cons_of_ne_nil hne
  exact dropBlanks_cons (hword c List.mem_cons_self) (cs ++ rest)

theorem dropBlanks_eq_nil_iff {cs : List Char} :
    dropBlanks cs = [] ↔ ∀ c ∈ cs, isBlankChar c = true :=
  List.dropWhile_eq_nil_iff

theorem dropBlanks_append_of_blank {blanks : List Char} (h : ∀ c ∈ blanks, isBlankChar c = true)
    (cs : List Char) : dropBlanks (blanks ++ cs) = dropBlanks cs :=
  List.dropWhile_append_of_pos h

theorem toList_trim (s : String) :
    (trim s).toList = (dropBlanks (dropBlanks s.toList).reverse).reverse :=
  String.toList_ofList

theorem trim_surrounded {before after : String} (hbefore : isBlank before = true)
    (hafter : isBlank after = true) (s : String) : trim (before ++ s ++ after) = trim s := by
  rw [isBlank_iff] at hbefore hafter
  have hreversed : ∀ c ∈ after.toList.reverse, isBlankChar c = true := fun c hc =>
    hafter c (List.mem_reverse.mp hc)
  rw [← String.toList_inj, toList_trim, toList_trim, String.toList_append, String.toList_append,
    List.append_assoc, dropBlanks_append_of_blank hbefore]
  by_cases hs : dropBlanks s.toList = []
  · have hall : dropBlanks (s.toList ++ after.toList) = [] := by
      rw [dropBlanks_append_of_blank (dropBlanks_eq_nil_iff.mp hs)]
      exact dropBlanks_eq_nil_iff.mpr hafter
    rw [hs, hall]
  · have hkept : dropBlanks (s.toList ++ after.toList) = dropBlanks s.toList ++ after.toList := by
      rw [dropBlanks, List.dropWhile_append, if_neg (by simpa [dropBlanks] using hs)]
      rfl
    rw [hkept, List.reverse_append, dropBlanks_append_of_blank hreversed]

theorem isBlank_append (s t : String) : isBlank (s ++ t) = (isBlank s && isBlank t) := by
  rw [isBlank, String.toList_append, List.all_append]
  rfl

/-- Only blanks stand around what is left of a text. -/
theorem exists_surrounded_trim (s : String) :
    ∃ before after, isBlank before = true ∧ isBlank after = true ∧
      s = before ++ trim s ++ after := by
  refine ⟨String.ofList (s.toList.takeWhile isBlankChar),
    String.ofList ((dropBlanks s.toList).reverse.takeWhile isBlankChar).reverse,
    ?_, ?_, ?_⟩
  · simp [isBlank]
  · simp [isBlank]
  · have hkept : (dropBlanks (dropBlanks s.toList).reverse).reverse ++
        ((dropBlanks s.toList).reverse.takeWhile isBlankChar).reverse = dropBlanks s.toList := by
      rw [← List.reverse_append, dropBlanks.eq_1 (dropBlanks s.toList).reverse,
        List.takeWhile_append_dropWhile, List.reverse_reverse]
    rw [← String.toList_inj, String.append_assoc, String.toList_append, String.toList_append,
      toList_trim, String.toList_ofList, String.toList_ofList, hkept, dropBlanks,
      List.takeWhile_append_dropWhile]

theorem trim_trim (s : String) : trim (trim s) = trim s := by
  obtain ⟨before, after, hbefore, hafter, hs⟩ := exists_surrounded_trim s
  calc trim (trim s) = trim (before ++ trim s ++ after) := (trim_surrounded hbefore hafter _).symm
    _ = trim s := by rw [← hs]

theorem isBlank_trim (s : String) : isBlank (trim s) = isBlank s := by
  obtain ⟨before, after, hbefore, hafter, hs⟩ := exists_surrounded_trim s
  calc isBlank (trim s) = isBlank (before ++ trim s ++ after) := by
        simp [isBlank_append, hbefore, hafter]
    _ = isBlank s := by rw [← hs]

/-- A word that a text starts with stays. -/
theorem exists_trim_append {word : String} (hne : word ≠ "")
    (hword : ∀ c ∈ word.toList, isBlankChar c = false) (rest : String) :
    ∃ kept, trim (word ++ rest) = word ++ kept := by
  have hchars : word.toList ≠ [] := fun h => hne (String.toList_eq_nil_iff.mp h)
  have hstart : dropBlanks (word ++ rest).toList = (word ++ rest).toList := by
    rw [String.toList_append]
    exact dropBlanks_word hchars hword rest.toList
  have hend : dropBlanks word.toList.reverse = word.toList.reverse := by
    have hlast := dropBlanks_word (List.reverse_ne_nil_iff.mpr hchars)
      (fun c hc => hword c (List.mem_reverse.mp hc)) []
    rwa [List.append_nil] at hlast
  have hreversed : dropBlanks (word ++ rest).toList.reverse =
      dropBlanks rest.toList.reverse ++ word.toList.reverse := by
    rw [String.toList_append, List.reverse_append, dropBlanks, List.dropWhile_append]
    split
    next hblank =>
      rw [dropBlanks, List.isEmpty_iff.mp hblank]
      exact hend
    next => rfl
  refine ⟨String.ofList (dropBlanks rest.toList.reverse).reverse, ?_⟩
  rw [← String.toList_inj, toList_trim, hstart, hreversed, String.toList_append,
    String.toList_ofList, List.reverse_append, List.reverse_reverse]

end SqlSchema.Text
