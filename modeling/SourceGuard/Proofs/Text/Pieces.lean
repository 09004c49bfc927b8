import SourceGuard.Text.Blank

/-!
# Pieces of a text

A text is put together from pieces: with marks between them, with a line end behind each of them, or
with blank characters around them. What holds of every piece then holds of the text, but for the
marks; lines are found again where no piece holds a line end, and words where none is blank.

## Main definitions

* `Text.words`: the words of a text

## Main results

* `Text.mem_of_mem_intercalate`: what stands in pieces with marks between them
* `Text.splitOn_lines`, `Text.lines_injective`, `Text.count_lines`: a text of lines splits into them
* `Text.words_word`: the first word of a text
-/

namespace SourceGuard.Text

/-! ## Marks between pieces -/

theorem intercalate_cons {sep : List Char} (piece : List Char) (pieces : List (List Char)) :
    sep.intercalate (piece :: pieces) =
      piece ++ if pieces = [] then [] else sep ++ sep.intercalate pieces := by
  cases pieces with
  | nil => simp
  | cons next pieces => simp [List.intercalate_cons_cons]

/-- None of the pieces is longer than the text. -/
theorem length_le_of_mem_intercalate (sep : List Char) {piece : List Char}
    {pieces : List (List Char)} (h : piece ∈ pieces) :
    piece.length ≤ (sep.intercalate pieces).length := by
  induction pieces with
  | nil => cases h
  | cons first pieces ih =>
    rw [intercalate_cons, List.length_append]
    rcases List.mem_cons.mp h with rfl | h
    · exact Nat.le_add_right _ _
    · have hlater := ih h
      rw [if_neg (List.ne_nil_of_mem h), List.length_append]
      omega

/-- **Between pieces** there are only marks. -/
theorem mem_of_mem_intercalate {sep : List Char} {c : Char} {pieces : List (List Char)}
    (h : c ∈ sep.intercalate pieces) : c ∈ sep ∨ ∃ piece ∈ pieces, c ∈ piece := by
  induction pieces with
  | nil => cases h
  | cons piece pieces ih =>
    rw [intercalate_cons, List.mem_append] at h
    rcases h with h | h
    · exact Or.inr ⟨piece, List.mem_cons_self, h⟩
    · split at h
      · cases h
      · rcases List.mem_append.mp h with h | h
        · exact Or.inl h
        · exact (ih h).imp_right fun ⟨later, hlater, hc⟩ =>
            ⟨later, List.mem_cons_of_mem piece hlater, hc⟩

/-! ## Lines -/

section Lines

variable {lines others : List (List Char)}

/-- **A text of lines** splits into them, and nothing is left behind the last one. -/
theorem splitOn_lines (h : ∀ line ∈ lines, '\n' ∉ line) :
    (lines.flatMap (· ++ ['\n'])).splitOn '\n' = lines ++ [[]] := by
  induction lines with
  | nil => rfl
  | cons line rest ih =>
    obtain ⟨hline, hrest⟩ := List.forall_mem_cons.mp h
    rw [List.flatMap_cons, List.append_assoc, List.singleton_append,
      List.splitOn_append_cons_self_of_not_mem hline, ih hrest, List.cons_append]

/-- **Lines are told by their text.** -/
theorem lines_injective (h : ∀ line ∈ lines, '\n' ∉ line) (h' : ∀ line ∈ others, '\n' ∉ line)
    (heq : lines.flatMap (· ++ ['\n']) = others.flatMap (· ++ ['\n'])) : lines = others := by
  have hsplit := congrArg (List.splitOn '\n') heq
  rw [splitOn_lines h, splitOn_lines h'] at hsplit
  exact List.append_cancel_right hsplit

/-- **There are as many line ends** as lines. -/
theorem count_lines (h : ∀ line ∈ lines, '\n' ∉ line) :
    (lines.flatMap (· ++ ['\n'])).count '\n' = lines.length := by
  induction lines with
  | nil => rfl
  | cons line rest ih =>
    obtain ⟨hline, hrest⟩ := List.forall_mem_cons.mp h
    rw [List.flatMap_cons, List.count_append, List.count_append, List.count_eq_zero_of_not_mem hline,
      ih hrest, List.length_cons, List.count_singleton_self, Nat.zero_add, Nat.add_comm]

end Lines

/-! ## Words -/

/-- The words of a text: what stands between blank characters. -/
def words (text : List Char) : List (List Char) := (text.splitOnP isBlank).filter (· ≠ [])

section Words

variable {word rest : List Char} {blank : Char}

/-- **The first word of a text** ends at a blank character. -/
theorem words_word (hword : ∀ c ∈ word, isBlank c = false) (hne : word ≠ [])
    (hblank : isBlank blank = true) : words (word ++ blank :: rest) = word :: words rest := by
  rw [words, List.splitOnP_append_cons_of_forall_mem hword blank hblank,
    List.filter_cons_of_pos (by simpa using hne), words]

/-- Blank characters before the first word are none of it. -/
theorem words_blanks (hblank : isBlank blank = true) (count : Nat) :
    words (List.replicate count blank ++ rest) = words rest := by
  induction count with
  | zero => rfl
  | succ count ih =>
    rw [List.replicate_succ, List.cons_append, words, List.splitOnP_cons_eq_if_modifyHead,
      if_pos hblank, List.filter_cons_of_neg (by simp)]
    exact ih

end Words

end SourceGuard.Text
