import SqlSchema.Proofs.Text.Hex
import SqlSchema.Uuid

/-! # Identifiers read back

The written form of an identifier is one of those that are read, and spells the same bytes. -/

namespace SqlSchema.Uuid

open SqlSchema.Text

/-! ## Sizes -/

/-- A text of characters of one byte each has as many bytes as characters. -/
theorem byteSize_eq_length {cs : List Char} (h : ∀ c ∈ cs, c.utf8Size = 1) :
    byteSize cs = cs.length := by
  have hfoldl (size : Nat) :
      cs.foldl (fun size c => size + c.utf8Size) size = size + cs.length := by
    induction cs generalizing size with
    | nil => rfl
    | cons c cs ih =>
        rw [List.foldl_cons, ih (fun d hd => h d (List.mem_cons_of_mem c hd)),
          h c List.mem_cons_self, List.length_cons]
        omega
  rw [byteSize, hfoldl, Nat.zero_add]

theorem length_hyphenated {digits : List Char} (h : digits.length = 32) :
    (hyphenated digits).length = 36 := by
  simp [hyphenated, h]

theorem mem_hyphenated {digits : List Char} {c : Char} (h : c ∈ hyphenated digits) :
    c = '-' ∨ c ∈ digits := by
  simp only [hyphenated, List.mem_append, List.mem_cons] at h
  rcases h with (((h | rfl | h) | rfl | h) | rfl | h) | rfl | h
  · exact .inr (List.mem_of_mem_take h)
  · exact .inl rfl
  · exact .inr (List.mem_of_mem_drop (List.mem_of_mem_take h))
  · exact .inl rfl
  · exact .inr (List.mem_of_mem_drop (List.mem_of_mem_take h))
  · exact .inl rfl
  · exact .inr (List.mem_of_mem_drop (List.mem_of_mem_take h))
  · exact .inl rfl
  · exact .inr (List.mem_of_mem_drop h)

/-! ## Groups -/

theorem group_append (start count : Nat) (cs : List Char) :
    (cs.drop start).take count ++ cs.drop (start + count) = cs.drop start := by
  rw [← List.drop_drop, List.take_append_drop]

/-- The groups of as many digits as an identifier has are found again. -/
theorem ungrouped?_hyphenated {digits : List Char} (h : digits.length = 32) :
    ungrouped? (hyphenated digits) = some digits := by
  have hgroups : (hyphenated digits).take 8 ++ ((hyphenated digits).drop 9).take 4
      ++ ((hyphenated digits).drop 14).take 4 ++ ((hyphenated digits).drop 19).take 4
      ++ (hyphenated digits).drop 24 =
      digits.take 8 ++ ((digits.drop 8).take 4 ++ ((digits.drop 12).take 4
        ++ ((digits.drop 16).take 4 ++ digits.drop 20))) := by
    simp [hyphenated, List.drop_append, List.drop_take, h]
  rw [group_append 16 4, group_append 12 4, group_append 8 4, List.take_append_drop] at hgroups
  rw [ungrouped?]
  simp only [hgroups, if_true]

theorem ofText_text (u : Uuid) : ofText u.text = .ok u := by
  have hlength : (u.bytes.flatMap hexByte).length = 32 := by
    rw [length_flatMap_hexByte, u.size]
  have hsize : byteSize (hyphenated (u.bytes.flatMap hexByte)) = 36 := by
    rw [byteSize_eq_length, length_hyphenated hlength]
    intro c hc
    rcases mem_hyphenated hc with rfl | hc
    · rfl
    · obtain ⟨n, hn, rfl⟩ := exists_hexDigit_of_mem hc
      exact utf8Size_hexDigit n hn
  have hbytes : ofBytes? u.bytes = some u := by
    simp [ofBytes?, u.size]
  have hframed : framed? (hyphenated (u.bytes.flatMap hexByte)) =
      some (hyphenated (u.bytes.flatMap hexByte)) := by
    simp only [framed?, hsize]
  have hread : ofHyphenated? (hyphenated (u.bytes.flatMap hexByte)) = some u := by
    rw [ofHyphenated?, ungrouped?_hyphenated hlength]
    simp only [Option.bind_eq_bind, Option.bind_some, hexBytes?_flatMap_hexByte, hbytes]
  have hchars : ofChars? (hyphenated (u.bytes.flatMap hexByte)) = some u := by
    rw [ofChars?, if_neg (by omega), hframed, Option.bind_some, hread]
  rw [ofText, text, String.toList_ofList, hchars]

end SqlSchema.Uuid
