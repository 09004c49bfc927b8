import SourceGuard.Proofs.Toml.Values

/-!
# Statements read back

A written section is a header and a line for each of its settings, and each of them is a statement
that the reader finds where the writer put it. So the reader finds the statements of all sections, in
their order.

## Main definitions

* `Toml.Section.IsPlain`: the sections that can be written
* `Toml.Section.statements`: what a section says

## Main results

* `Toml.path?_intercalate`: paths of keys are read back
* `Toml.statement?_header`, `Toml.statement?_line`: so are headers and settings
* `Toml.statements?_write`: written sections are read back as their statements
-/

namespace SourceGuard.Toml

/-! ## Keys -/

/-- Whether a key stands without quotes. -/
def isBareKey (key : String) : Bool := !key.toList.isEmpty && key.toList.all isBare

/-- What a section says: its header, then its settings. -/
def Section.statements (s : Section) : List Statement :=
  .table s.path :: s.fields.map fun field => .assign [field.1] field.2.value

/-- A section can be written: its keys stand without quotes, and its numbers fit. -/
structure Section.IsPlain (s : Section) : Prop where
  /-- The header names a table. -/
  named : s.path ≠ []
  /-- It has no more parts than a header may have. -/
  short : s.path.length ≤ depth
  /-- The keys of the header stand without quotes. -/
  path : ∀ key ∈ s.path, isBareKey key = true
  /-- So do the keys of the settings. -/
  keys : ∀ field ∈ s.fields, isBareKey field.1 = true
  /-- The numbers fit. -/
  fits : ∀ field ∈ s.fields, field.2.Fits

/-- What is bare is none of the characters that open something else than a key. -/
theorem ne_of_isBare {c d : Char} (hc : isBare c = true) (hd : isBare d = false) : c ≠ d := by
  rintro rfl
  rw [hc] at hd
  cases hd

/-- A character of a key is no space. -/
theorem isSpace_of_isBare {c : Char} (hc : isBare c = true) : isSpace c = false := by
  have hblank := ne_of_isBare hc (by decide : isBare ' ' = false)
  have htab := ne_of_isBare hc (by decide : isBare '\t' = false)
  simp [isSpace, hblank, htab]

section Key

variable {key : String} (hkey : isBareKey key = true)

include hkey

/-- A key that stands without quotes starts with a character of its kind. -/
theorem exists_of_isBareKey : ∃ c t, key.toList = c :: t ∧ isBare c = true := by
  rw [isBareKey, Bool.and_eq_true, List.all_eq_true] at hkey
  cases h : key.toList with
  | nil => simp [h] at hkey
  | cons c t => exact ⟨c, t, rfl, hkey.2 c (h ▸ List.mem_cons_self)⟩

theorem key?_toList {rest : List Char} (hrest : rest.head?.any isBare = false) :
    key? (key.toList ++ rest) = some (key.toList, rest) := by
  obtain ⟨c, t, h, hc⟩ := exists_of_isBareKey hkey
  have hbare : ∀ d ∈ key.toList, isBare d = true := by
    rw [isBareKey, Bool.and_eq_true, List.all_eq_true] at hkey
    exact hkey.2
  have htake := Text.takeWhile_word hbare hrest
  have hdrop := Text.dropWhile_word hbare hrest
  rw [h] at htake hdrop ⊢
  rw [List.cons_append, key?, ← List.cons_append, htake, hdrop, if_neg (List.cons_ne_nil c t)]
  · exact fun _ h => ne_of_isBare hc (by decide) (List.cons.inj h).1
  · exact fun _ h => ne_of_isBare hc (by decide) (List.cons.inj h).1

theorem skipSpace_toList (rest : List Char) :
    skipSpace (key.toList ++ rest) = key.toList ++ rest := by
  obtain ⟨c, t, h, hc⟩ := exists_of_isBareKey hkey
  rw [h]
  exact List.dropWhile_cons_of_neg (by simp [isSpace_of_isBare hc])

end Key

/-- **A path of keys** is read up to a character that is no part of it. -/
theorem path?_intercalate {keys : List String} (hkeys : ∀ key ∈ keys, isBareKey key = true)
    (hne : keys ≠ []) {room : Nat} (hroom : keys.length ≤ room) {rest : List Char}
    (hrest : rest.head?.any isBare = false) (hpoint : (skipSpace rest).head? ≠ some '.') :
    path? room (List.intercalate ['.'] (keys.map String.toList) ++ rest) =
      some (keys, skipSpace rest) := by
  induction keys generalizing room with
  | nil => exact absurd rfl hne
  | cons key keys ih =>
    obtain ⟨room, rfl⟩ : ∃ k, room = k + 1 := ⟨room - 1, by simp at hroom; omega⟩
    have hkey := hkeys key List.mem_cons_self
    -- the last key is followed by the rest of the text, the others by a point
    cases keys with
    | nil =>
      rw [List.map_singleton, List.intercalate_singleton, path?, skipSpace_toList hkey,
        key?_toList hkey hrest]
      simp only [Option.bind_eq_bind, Option.bind_some, String.ofList_toList]
      split
      case h_1 h => exact absurd (congrArg List.head? h) hpoint
      case h_2 => rfl
    | cons next keys =>
      have hlater := ih (fun k hk => hkeys k (List.mem_cons_of_mem key hk))
        (List.cons_ne_nil next keys) (Nat.le_of_succ_le_succ hroom)
      have hsplit : List.intercalate ['.'] ((key :: next :: keys).map String.toList) ++ rest =
          key.toList ++
            '.' :: (List.intercalate ['.'] ((next :: keys).map String.toList) ++ rest) := by
        rw [List.map_cons, List.map_cons, List.intercalate_cons_cons, List.append_assoc,
          List.append_assoc]
        rfl
      have hspace : ∀ t, skipSpace ('.' :: t) = '.' :: t := fun t => rfl
      rw [hsplit, path?, skipSpace_toList hkey, key?_toList hkey (by rfl)]
      simp only [Option.bind_eq_bind, Option.bind_some, hspace, hlater, String.ofList_toList]

/-! ## Statements -/

theorem lineEnd?_newline (rest : List Char) : lineEnd? ('\n' :: rest) = some rest := rfl

/-- A path starts with a character of a key. -/
theorem exists_intercalate {keys : List String} (hkeys : ∀ key ∈ keys, isBareKey key = true)
    (hne : keys ≠ []) (rest : List Char) :
    ∃ c t, List.intercalate ['.'] (keys.map String.toList) ++ rest = c :: t ∧ isBare c = true := by
  cases keys with
  | nil => exact absurd rfl hne
  | cons key keys =>
    obtain ⟨c, t, h, hc⟩ := exists_of_isBareKey (hkeys key List.mem_cons_self)
    cases keys with
    | nil => exact ⟨c, t ++ rest, by simp [h], hc⟩
    | cons next keys =>
      rw [List.map_cons, List.map_cons, List.intercalate_cons_cons, h]
      exact ⟨c, _, rfl, hc⟩

/-- Nothing is passed over before a key. -/
theorem skipGap_of_isBare {c : Char} (hc : isBare c = true) (t : List Char) :
    skipGap false (c :: t) = c :: t :=
  skipGap_eq_self (isSpace_of_isBare hc) (ne_of_isBare hc (by decide)) (ne_of_isBare hc (by decide))
    (ne_of_isBare hc (by decide))

/-- **A header** is read back. -/
theorem statement?_header {s : Section} (hs : s.IsPlain) (rest : List Char) :
    statement? (s.header ++ rest) = some (.table s.path, '\n' :: rest) := by
  let after := ']' :: '\n' :: rest
  have hpath : path? depth (List.intercalate ['.'] (s.path.map String.toList) ++ after) =
      some (s.path, after) :=
    path?_intercalate hs.path hs.named hs.short rfl fun h => absurd (Option.some.inj h) (by decide)
  have hheader : s.header ++ rest =
      '[' :: (List.intercalate ['.'] (s.path.map String.toList) ++ after) :=
    List.append_assoc ('[' :: List.intercalate ['.'] (s.path.map String.toList)) [']', '\n'] rest
  obtain ⟨c, t, h, hc⟩ := exists_intercalate hs.path hs.named after
  rw [h] at hpath hheader
  -- a key starts after the bracket, so this is no header of an element
  rw [hheader, statement?]
  · simp only [hpath, Option.bind_eq_bind, Option.bind_some]
    rfl
  · exact fun _ hopen => ne_of_isBare hc (by decide) (List.cons.inj hopen).1

/-- What a setting holds starts with no space. -/
theorem skipSpace_write (f : Field) (rest : List Char) :
    skipSpace (f.write ++ rest) = f.write ++ rest := by
  have hstart : ∃ c t, f.write = c :: t ∧ isSpace c = false := by
    cases f with
    | text s =>
      obtain ⟨q, t, h⟩ := exists_writeText s
      exact ⟨q.mark, t, h, by cases q <;> rfl⟩
    | texts items =>
      match items with
      | [] => exact ⟨'[', [']'], rfl, rfl⟩
      | [s] => exact ⟨'[', writeText s ++ [']'], rfl, rfl⟩
      | s :: t :: items => exact ⟨'[', _, rfl, rfl⟩
    | flag b => cases b <;> exact ⟨_, _, rfl, rfl⟩
    | count n =>
      obtain ⟨c, t, h, hc⟩ := Text.exists_decimal n
      refine ⟨c, t, h, ?_⟩
      have hspace := Text.ne_of_isDigitOf hc (by decide : Text.isDigitOf 10 ' ' = false)
      have htab := Text.ne_of_isDigitOf hc (by decide : Text.isDigitOf 10 '\t' = false)
      simp [isSpace, hspace, htab]
  obtain ⟨c, t, h, hc⟩ := hstart
  rw [h]
  exact List.dropWhile_cons_of_neg (by simp [hc])

/-- **The line of a setting** is read back. -/
theorem statement?_line {field : String × Field} (hkey : isBareKey field.1 = true)
    (hfits : field.2.Fits) (rest : List Char) :
    statement? (Section.line field ++ rest) =
      some (.assign [field.1] field.2.value, '\n' :: rest) := by
  let value := field.2.write ++ '\n' :: rest
  let after := ' ' :: '=' :: ' ' :: value
  have hline : Section.line field ++ rest = field.1.toList ++ after := by
    rw [Section.line, List.append_assoc, List.append_assoc, List.append_assoc]
    rfl
  have hpath : path? depth (List.intercalate ['.'] ([field.1].map String.toList) ++ after) =
      some ([field.1], '=' :: ' ' :: value) :=
    path?_intercalate (by simpa using hkey) (List.cons_ne_nil _ _) (by decide : 1 ≤ depth) rfl
      fun h => absurd (Option.some.inj h) (by decide)
  have hspace : skipSpace (' ' :: value) = value := skipSpace_write field.2 ('\n' :: rest)
  have hvalue : value? depth value = some (field.2.value, '\n' :: rest) := value?_write hfits rest
  have hpair : pair? (value? depth) (field.1.toList ++ after) =
      some (([field.1], field.2.value), '\n' :: rest) := by
    rw [List.map_singleton, List.intercalate_singleton] at hpath
    simp only [pair?, hpath, marked?, if_true, Option.bind_eq_bind, Option.bind_some, hspace, hvalue]
  obtain ⟨c, t, h, hc⟩ := exists_of_isBareKey hkey
  have hopen : c ≠ '[' := ne_of_isBare hc (by decide)
  rw [hline]
  rw [h] at hpair ⊢
  rw [List.cons_append, statement?]
  · rw [← List.cons_append, hpair]
    rfl
  · exact fun _ h => hopen (List.cons.inj h).1
  · exact fun _ h => hopen (List.cons.inj h).1

/-! ## Sections -/

section Statements

variable {text rest : List Char}

/-- A statement at the head of a text, and the others. -/
theorem statementsIn?_cons {s : Statement} (hgap : skipGap false text = text) (hne : text ≠ [])
    (hs : statement? text = some (s, '\n' :: rest)) (room : Nat) :
    statementsIn? (room + 1) text = (statementsIn? room rest).map (s :: ·) := by
  rw [statementsIn?, hgap]
  split
  case h_1 => exact absurd rfl hne
  case h_2 =>
    simp only [hs, lineEnd?_newline, Option.bind_eq_bind, Option.bind_some]
    cases statementsIn? room rest <;> rfl

/-- An empty line says nothing. -/
theorem statementsIn?_newline (room : Nat) (rest : List Char) :
    statementsIn? room ('\n' :: rest) = statementsIn? room rest := by
  have hgap : skipGap false ('\n' :: rest) = skipGap false rest := rfl
  unfold statementsIn?
  rw [hgap]

end Statements

/-- A line starts with a character of its key. -/
theorem exists_line {field : String × Field} (hkey : isBareKey field.1 = true) (rest : List Char) :
    ∃ c t, Section.line field ++ rest = c :: t ∧ isBare c = true := by
  obtain ⟨c, t, h, hc⟩ := exists_of_isBareKey hkey
  rw [Section.line, h]
  exact ⟨c, _, rfl, hc⟩

/-- **The lines of settings** are read one by one. -/
theorem statementsIn?_lines {fields : List (String × Field)}
    (hkeys : ∀ field ∈ fields, isBareKey field.1 = true) (hfits : ∀ field ∈ fields, field.2.Fits)
    (room : Nat) (rest : List Char) :
    statementsIn? (room + fields.length) (fields.flatMap Section.line ++ rest) =
      (statementsIn? room rest).map
        ((fields.map fun field => Statement.assign [field.1] field.2.value) ++ ·) := by
  induction fields with
  | nil => simp
  | cons field fields ih =>
    have hkey := hkeys field List.mem_cons_self
    let later := fields.flatMap Section.line ++ rest
    have hs := statement?_line hkey (hfits field List.mem_cons_self) later
    have hlater := ih (fun f hf => hkeys f (List.mem_cons_of_mem field hf))
      fun f hf => hfits f (List.mem_cons_of_mem field hf)
    obtain ⟨c, t, h, hc⟩ := exists_line hkey later
    -- nothing stands between two lines
    have hgap : skipGap false (Section.line field ++ later) = Section.line field ++ later := by
      rw [h, skipGap_of_isBare hc]
    have hfirst := statementsIn?_cons hgap (h ▸ List.cons_ne_nil c t) hs (room + fields.length)
    rw [hlater, Option.map_map] at hfirst
    rw [List.flatMap_cons, List.append_assoc]
    exact hfirst

/-- **A section** is read as its statements. -/
theorem statementsIn?_section {s : Section} (hs : s.IsPlain) (room : Nat) (rest : List Char) :
    statementsIn? (room + s.statements.length) (s.write ++ rest) =
      (statementsIn? room rest).map (s.statements ++ ·) := by
  let lines := s.fields.flatMap Section.line ++ rest
  have hheader : ∃ t, s.header ++ lines = '[' :: t := ⟨_, rfl⟩
  obtain ⟨t, h⟩ := hheader
  have hgap : skipGap false (s.header ++ lines) = s.header ++ lines := by
    rw [h]
    exact skipGap_eq_self (by decide) (by decide) (by decide) (by decide)
  have hfirst := statementsIn?_cons hgap (h ▸ List.cons_ne_nil '[' t) (statement?_header hs lines)
    (room + s.fields.length)
  rw [statementsIn?_lines hs.keys hs.fits, Option.map_map] at hfirst
  have hlength : s.statements.length = s.fields.length + 1 := by simp [Section.statements]
  rw [hlength, Section.write, List.append_assoc]
  exact hfirst

theorem statementsIn?_nil (room : Nat) : statementsIn? room [] = some [] := by
  unfold statementsIn?
  rfl

/-- **Sections** are read as their statements, one after another. -/
theorem statementsIn?_write {sections : List Section} (hplain : ∀ s ∈ sections, s.IsPlain)
    (room : Nat) :
    statementsIn? (room + (sections.flatMap Section.statements).length) (write sections) =
      some (sections.flatMap Section.statements) := by
  induction sections with
  | nil => exact statementsIn?_nil _
  | cons s sections ih =>
    have hlater := ih fun t ht => hplain t (List.mem_cons_of_mem s ht)
    have hfirst := statementsIn?_section (hplain s List.mem_cons_self)
      (room + (sections.flatMap Section.statements).length)
    have hlength : (s.statements ++ sections.flatMap Section.statements).length =
        (sections.flatMap Section.statements).length + s.statements.length := by
      rw [List.length_append, Nat.add_comm]
    rw [List.flatMap_cons, hlength, ← Nat.add_assoc]
    cases sections with
    | nil =>
      have hwrite : write [s] = s.write ++ [] := by simp [write]
      rw [hwrite, hfirst, statementsIn?_nil]
      rfl
    | cons t sections =>
      -- an empty line stands between two sections
      have hwrite : write (s :: t :: sections) = s.write ++ '\n' :: write (t :: sections) := by
        rw [write, List.map_cons, List.map_cons, List.intercalate_cons_cons, List.append_assoc]
        rfl
      rw [hwrite, hfirst, statementsIn?_newline, hlater]
      rfl

/-- A section is at least as long as its statements are many. -/
theorem length_statements_le (s : Section) : s.statements.length ≤ s.write.length := by
  have hlines := length_le_flatMap (f := Section.line) (fun _ => List.append_ne_nil_of_right_ne_nil _
    (List.cons_ne_nil _ _)) s.fields
  have hheader : 0 < s.header.length := Nat.succ_pos _
  rw [Section.statements, List.length_cons, List.length_map, Section.write, List.length_append]
  omega

theorem length_flatMap_statements_le (sections : List Section) :
    (sections.flatMap Section.statements).length ≤ (write sections).length := by
  induction sections with
  | nil => exact Nat.le_refl 0
  | cons s sections ih =>
    have hs := length_statements_le s
    rw [List.flatMap_cons, List.length_append]
    cases sections with
    | nil => simpa [write] using hs
    | cons t sections =>
      rw [write, List.map_cons, List.map_cons, List.intercalate_cons_cons, List.length_append,
        List.length_append]
      rw [write, List.map_cons] at ih
      omega

/-- **Written sections** are read back as their statements. -/
theorem statements?_write {sections : List Section} (hplain : ∀ s ∈ sections, s.IsPlain) :
    statements? (write sections) = some (sections.flatMap Section.statements) := by
  have hmark : skipMark (write sections) = write sections := by
    -- the first header starts with a bracket
    match sections with
    | [] => rfl
    | [s] =>
      rw [write, List.map_singleton, List.intercalate_singleton]
      rfl
    | s :: t :: sections =>
      rw [write, List.map_cons, List.map_cons, List.intercalate_cons_cons]
      rfl
  -- the length of the text bounds the number of its statements
  have hlength := length_flatMap_statements_le sections
  obtain ⟨room, hroom⟩ := Nat.exists_eq_add_of_le' hlength
  rw [statements?, hmark, hroom]
  exact statementsIn?_write hplain room

end SourceGuard.Toml
