import SourceGuard.Json.Reader
import SourceGuard.Proofs.Text.Digits
import SourceGuard.Proofs.Text.Pieces

/-!
# JSON values read back

What is written for a value is read back as that value, and it holds no control characters. Numbers
end where a text does not go on with them, texts at the first quote without a backslash, and parts
between brackets at a comma or the closing mark; so a reader never takes more or less than was
written. The induction is on the value, with all that is read behind it left open.

## Main definitions

* `Json.Spells`: what a reader of parts reads back, wherever it stands

## Main results

* `Json.induction`: induction over values
* `Json.quoted?_escaped`, `Json.number?_signedDecimal`: texts and numbers are read back
* `Json.bracketed?_intercalate`: so are parts between brackets, if each of them is
* `Json.spells_chars`, `Json.read?_toText`: so is every value
* `Json.toNat_of_mem_chars`: a written value holds no control characters
-/

namespace SourceGuard.Json

open Text (decimal signedDecimal isDigitOf)

/-! ## Induction over values -/

/-- **Induction over values**: lists and objects inherit what all their parts have. -/
@[elab_as_elim]
theorem induction {P : Json → Prop} (number : ∀ n, P (.number n)) (text : ∀ s, P (.text s))
    (list : ∀ items, (∀ item ∈ items, P item) → P (.list items))
    (object : ∀ fields, (∀ field ∈ fields, P field.2) → P (.object fields)) : ∀ j, P j
  | .number n => number n
  | .text s => text s
  | .list items => list items fun item _ => induction number text list object item
  | .object fields => object fields fun field _ => induction number text list object field.2
termination_by j => sizeOf j
decreasing_by
  · rename_i hitem
    have hsize := List.sizeOf_lt_of_mem hitem
    simp only [Json.list.sizeOf_spec]
    omega
  · rename_i hfield
    have hsize := List.sizeOf_lt_of_mem hfield
    obtain ⟨name, v⟩ := field
    simp only [Json.object.sizeOf_spec, Prod.mk.sizeOf_spec] at hsize ⊢
    omega

/-- A field, as characters. -/
def fieldText : String × Json → List Char
  | (name, v) => quote name.toList ++ ':' :: chars v

theorem itemChars_eq_map (items : List Json) : itemChars items = items.map chars := by
  induction items with
  | nil => rfl
  | cons item rest ih => rw [itemChars, ih, List.map_cons]

theorem fieldChars_eq_map (fields : List (String × Json)) :
    fieldChars fields = fields.map fieldText := by
  induction fields with
  | nil => rfl
  | cons field rest ih => rw [fieldChars, ih, List.map_cons, fieldText]

/-! ## Texts -/

theorem quoted?_backslash {e : List Char} {c : Char} {rest : List Char}
    (h : escape? (e ++ rest) = some (c, e.length)) :
    quoted? 0 ('\\' :: (e ++ rest)) = (quoted? 0 rest).map (push c) := by
  rw [quoted?, if_neg (by decide), if_pos rfl, h]
  change (quoted? e.length _).map (push c) = _
  rw [quoted?_append]

/-- Control characters are few enough for two hexadecimal digits after two zeros. -/
theorem codeUnit?_hexadecimal {n : Nat} (hn : n < 0x20) (rest : List Char) :
    let digits := Text.hexadecimal n
    let padded := List.replicate (4 - digits.length) '0' ++ digits
    padded.length = 4 ∧ codeUnit? (padded ++ rest) = some n := by
  intro digits padded
  -- checked number by number
  have hall : ∀ n < 0x20, let digits := Text.hexadecimal n
      let padded := List.replicate (4 - digits.length) '0' ++ digits
      padded.length = 4 ∧ codeUnit? padded = some n := by decide +kernel
  obtain ⟨hlength, hunit⟩ := hall n hn
  refine ⟨hlength, ?_⟩
  rw [codeUnit?, List.take_of_length_le (Nat.le_of_eq hlength)] at hunit
  rwa [codeUnit?, List.take_left' hlength]

/-- **A character** is read back as it is escaped. -/
theorem quoted?_escape (c : Char) (rest : List Char) :
    quoted? 0 (escape c ++ rest) = (quoted? 0 rest).map (push c) := by
  have hletter : ∀ letter c : Char, escape? (letter :: rest) = some (c, 1) →
      quoted? 0 (['\\', letter] ++ rest) = (quoted? 0 rest).map (push c) :=
    fun letter c h => quoted?_backslash (e := [letter]) h
  unfold escape
  -- the escapes that are letters, in the order of the writer
  split
  case isTrue hquote => exact hquote ▸ hletter '"' '"' rfl
  split
  case isTrue hbackslash => exact hbackslash ▸ hletter '\\' '\\' rfl
  split
  case isTrue hbackspace => exact hbackspace ▸ hletter 'b' '\x08' rfl
  split
  case isTrue hfeed => exact hfeed ▸ hletter 'f' '\x0c' rfl
  split
  case isTrue hline => exact hline ▸ hletter 'n' '\n' rfl
  split
  case isTrue hreturn => exact hreturn ▸ hletter 'r' '\r' rfl
  split
  case isTrue htab => exact htab ▸ hletter 't' '\t' rfl
  split
  case isTrue hcontrol =>
    let digits := Text.hexadecimal c.toNat
    let padded := List.replicate (4 - digits.length) '0' ++ digits
    obtain ⟨hlength, hunit⟩ := codeUnit?_hexadecimal hcontrol rest
    have hlow : c.toNat < 0xD800 ∨ 0xDFFF < c.toNat := Or.inl (by omega)
    have hnamed : escape? ('u' :: padded ++ rest) = some (c, ('u' :: padded).length) := by
      rw [List.length_cons, hlength, List.cons_append, escape?, numbered?, hunit]
      simp [hlow]
    exact quoted?_backslash hnamed
  case isFalse hquote hbackslash _ _ _ _ _ hcontrol =>
    rw [List.singleton_append, quoted?, if_neg hquote, if_neg hbackslash, if_neg hcontrol]

/-- **A text** is read back up to its closing quote. -/
theorem quoted?_escaped (s rest : List Char) :
    quoted? 0 (s.flatMap escape ++ '"' :: rest) = some (s, rest) := by
  induction s with
  | nil => rfl
  | cons c s ih =>
    rw [List.flatMap_cons, List.append_assoc, quoted?_escape, ih]
    rfl

theorem text?_quote (s : String) (rest : List Char) :
    text? (quote s.toList ++ rest) = some (s, rest) := by
  change (quoted? 0 ((s.toList.flatMap escape ++ ['"']) ++ rest)).map _ = _
  rw [List.append_assoc, List.singleton_append, quoted?_escaped]
  exact congrArg (fun t => some (t, rest)) String.ofList_toList

/-! ## Numbers -/

theorem natural?_decimal (n : Nat) {rest : List Char} (hrest : rest.head?.any goesOn = false) :
    natural? (decimal n ++ rest) = some (n, rest) := by
  have hstop : rest.head?.any (isDigitOf 10) = false := by
    cases rest with
    | nil => rfl
    | cons c rest =>
      simp only [List.head?_cons, Option.any_some, goesOn, Bool.or_eq_false_iff] at hrest ⊢
      exact hrest.1.1.1
  have hzero : ¬ ((decimal n).head? = some '0' ∧ decimal n ≠ ['0']) := by
    rw [decimal, Text.toDigits_zero_iff (by decide) (by decide)]
    exact fun h => h.2 h.1
  have hdigits := Text.isDigitOf_of_mem_decimal n
  rw [natural?, Text.takeWhile_word hdigits hstop, Text.dropWhile_word hdigits hstop,
    Text.numberOf_decimal]
  refine if_neg ?_
  rw [hrest]
  rintro (hnil | h | h)
  · exact Nat.toDigits_ne_nil hnil
  · exact hzero h
  · cases h

/-- **A whole number** is read back, if the text does not go on with it. -/
theorem number?_signedDecimal (n : Int) {rest : List Char}
    (hrest : rest.head?.any goesOn = false) :
    number? (signedDecimal n ++ rest) = some (n, rest) := by
  cases n with
  | ofNat n =>
    have hsign : ∀ t, decimal n ++ rest ≠ '-' :: t := by
      obtain ⟨c, digits, h, hc⟩ := Text.exists_decimal n
      rw [h]
      exact Text.cons_ne_of_isDigitOf hc (by decide) _
    rw [signedDecimal, number?, natural?_decimal n hrest]
    · rfl
    · exact hsign
  | negSucc n =>
    rw [signedDecimal, List.cons_append, number?, natural?_decimal (n + 1) hrest]
    rfl

/-! ## Parts between brackets -/

/-- Characters spell a value for a reader: they are read back wherever the text does not go on with a
number, and start with no white space and no closing bracket. -/
structure Spells {α : Type} (part : Reader α) (w : List Char) (v : α) : Prop where
  /-- They are read back. -/
  read : ∀ rest, rest.head?.any goesOn = false → part (w ++ rest) = some (v, rest)
  /-- They start with a character of the value. -/
  starts : ∃ c t, w = c :: t ∧ isSpace c = false ∧ c ≠ ']' ∧ c ≠ '\x7d'

section Parts

variable {α : Type} {part : Reader α} {closing : Char} {write : α → List Char}

theorem Spells.skipSpace_eq {w : List Char} {v : α} (h : Spells part w v) (rest : List Char) :
    skipSpace (w ++ rest) = w ++ rest := by
  obtain ⟨c, t, rfl, hspace, -, -⟩ := h.starts
  exact List.dropWhile_cons_of_neg (by simp [hspace])

theorem length_le_intercalate (ws : List (List Char)) :
    ws.length ≤ (List.intercalate [','] ws).length + 1 := by
  induction ws with
  | nil => exact Nat.zero_le _
  | cons w ws ih =>
    rw [Text.intercalate_cons]
    by_cases hlast : ws = []
    · simp [hlast]
    · simp only [hlast, if_false, List.length_append, List.length_cons]
      omega

/-- **Parts with commas between them** are read back up to the closing mark. -/
theorem parts?_intercalate (hclosing : closing = ']' ∨ closing = '\x7d') {room : Nat} {vs : List α}
    (h : ∀ v ∈ vs, Spells part (write v) v) (hne : vs ≠ []) (hroom : vs.length ≤ room)
    (rest : List Char) :
    parts? part closing room (List.intercalate [','] (vs.map write) ++ closing :: rest) =
      some (vs, rest) := by
  -- neither a comma nor the closing mark goes on with a number before it
  have hcomma : closing ≠ ',' := by rcases hclosing with rfl | rfl <;> decide
  have hstop : (closing :: rest).head?.any goesOn = false := by
    rcases hclosing with rfl | rfl <;> rfl
  have hblank : skipSpace (closing :: rest) = closing :: rest := by
    rcases hclosing with rfl | rfl <;> rfl
  induction vs generalizing room with
  | nil => exact absurd rfl hne
  | cons v vs ih =>
    obtain ⟨hv, hvs⟩ := List.forall_mem_cons.mp h
    obtain ⟨room, rfl⟩ : ∃ k, room = k + 1 := ⟨room - 1, by simp at hroom; omega⟩
    rw [parts?, List.map_cons, Text.intercalate_cons, List.append_assoc, hv.skipSpace_eq]
    by_cases hlast : vs = []
    · subst hlast
      simp [hv.read _ hstop, hblank]
    · have hlater := ih hvs hlast (Nat.le_of_succ_le_succ hroom)
      have hread := hv.read (',' :: (List.intercalate [','] (vs.map write) ++ closing :: rest)) rfl
      have hskip : ∀ t, skipSpace (',' :: t) = ',' :: t := fun t => rfl
      simp [hlast, hread, hskip, hcomma.symm, hlater]

/-- **What stands between brackets** is read back. -/
theorem bracketed?_intercalate (hclosing : closing = ']' ∨ closing = '\x7d') {vs : List α}
    (h : ∀ v ∈ vs, Spells part (write v) v) (rest : List Char) :
    bracketed? part closing (List.intercalate [','] (vs.map write) ++ closing :: rest) =
      some (vs, rest) := by
  cases vs with
  | nil =>
    have hblank : skipSpace (closing :: rest) = closing :: rest := by
      rcases hclosing with rfl | rfl <;> rfl
    simp [bracketed?, hblank]
  | cons v vs =>
    let text := List.intercalate [','] ((v :: vs).map write) ++ closing :: rest
    -- there are as many commas as parts, but for one
    have hroom : (v :: vs).length ≤ text.length := by
      have hcommas := length_le_intercalate ((v :: vs).map write)
      simp only [List.length_map, List.length_cons, text, List.length_append] at hcommas ⊢
      omega
    have hparts := parts?_intercalate hclosing h (List.cons_ne_nil v vs) hroom rest
    obtain ⟨c, t, hstarts, hspace, hlist, hobject⟩ := (h v List.mem_cons_self).starts
    obtain ⟨t', htext⟩ : ∃ t', text = c :: t' := by
      simp only [text, List.map_cons, Text.intercalate_cons, hstarts]
      exact ⟨_, rfl⟩
    have hskip : skipSpace text = c :: t' := by
      rw [htext]
      exact List.dropWhile_cons_of_neg (by simp [hspace])
    have hopen : c ≠ closing := by rcases hclosing with rfl | rfl <;> assumption
    change bracketed? part closing text = _
    rw [bracketed?, hskip]
    change (if c = closing then _ else _) = _
    rw [if_neg hopen]
    exact hparts

end Parts

/-! ## Values -/

/-- A whole number starts with a sign or a digit, as no other value does. -/
theorem exists_signedDecimal (n : Int) : ∃ c t, signedDecimal n = c :: t ∧
    ∀ d, isDigitOf 10 d = false → d ≠ '-' → c ≠ d := by
  cases n with
  | ofNat n =>
    obtain ⟨c, digits, h, hc⟩ := Text.exists_decimal n
    exact ⟨c, digits, h, fun d hd _ => Text.ne_of_isDigitOf hc hd⟩
  | negSucc n => exact ⟨'-', _, rfl, fun d _ hsign => hsign.symm⟩

/-- **A number** is a value. -/
theorem spells_number (n : Int) (room : Nat) :
    Spells (value? (room + 1)) (signedDecimal n) (number n) := by
  obtain ⟨c, t, hn, hne⟩ := exists_signedDecimal n
  constructor
  case read =>
    intro rest hrest
    have hread := number?_signedDecimal n hrest
    rw [hn, List.cons_append] at hread ⊢
    rw [value?]
    · rw [hread]
      rfl
    -- the sign or digit is neither a quote nor an opening bracket
    all_goals
      intro t' h
      exact hne _ (by decide) (by decide) (List.cons.inj h).1
  case starts =>
    refine ⟨c, t, hn, ?_, hne _ (by decide) (by decide), hne _ (by decide) (by decide)⟩
    simp [isSpace, hne ' ' (by decide) (by decide), hne '\t' (by decide) (by decide),
      hne '\n' (by decide) (by decide), hne '\r' (by decide) (by decide)]

/-- **A field** is read back if its value is. -/
theorem spells_field {value : Reader Json} {name : String} {v : Json}
    (h : Spells value (chars v) v) : Spells (field? value) (fieldText (name, v)) (name, v) := by
  constructor
  case read =>
    intro rest hrest
    have hcolon : ∀ t, skipSpace (':' :: t) = ':' :: t := fun t => rfl
    rw [fieldText, List.append_assoc, List.cons_append, field?, text?_quote]
    simp [hcolon, h.skipSpace_eq, h.read rest hrest]
  case starts => exact ⟨'"', _, rfl, by decide⟩

/-- **Every value is read back** with room for as many brackets as it has characters. -/
theorem spells_chars (j : Json) {room : Nat} (hroom : (chars j).length ≤ room) :
    Spells (value? room) (chars j) j := by
  induction j using induction generalizing room with
  | number n =>
    obtain ⟨c, t, hn, -⟩ := exists_signedDecimal n
    obtain ⟨room, rfl⟩ : ∃ k, room = k + 1 := ⟨room - 1, by simp [chars, hn] at hroom; omega⟩
    exact spells_number n room
  | text s =>
    obtain ⟨room, rfl⟩ : ∃ k, room = k + 1 := ⟨room - 1, by simp [chars, quote] at hroom; omega⟩
    refine ⟨fun rest _ => ?_, '"', _, rfl, by decide⟩
    have hread := text?_quote s rest
    change (text? (quote s.toList ++ rest)).map _ = _
    rw [hread]
    rfl
  | list items ih =>
    rw [chars, bracket, itemChars_eq_map] at hroom ⊢
    obtain ⟨room, rfl⟩ : ∃ k, room = k + 1 := ⟨room - 1, by simp at hroom; omega⟩
    refine ⟨fun rest _ => ?_, '[', _, rfl, by decide⟩
    -- the brackets took two characters of the room
    have hitems : ∀ item ∈ items, Spells (value? room) (chars item) item := fun item hitem => by
      have hlength := Text.length_le_of_mem_intercalate [','] (List.mem_map_of_mem (f := chars) hitem)
      simp only [List.length_append, List.length_cons] at hroom
      exact ih item hitem (by omega)
    have hread := bracketed?_intercalate (Or.inl rfl) hitems rest
    rw [List.cons_append, List.cons_append, List.append_assoc, List.singleton_append, value?, hread]
    rfl
  | object fields ih =>
    rw [chars, bracket, fieldChars_eq_map] at hroom ⊢
    obtain ⟨room, rfl⟩ : ∃ k, room = k + 1 := ⟨room - 1, by simp at hroom; omega⟩
    refine ⟨fun rest _ => ?_, '\x7b', _, rfl, by decide⟩
    have hfields : ∀ field ∈ fields, Spells (field? (value? room)) (fieldText field) field :=
      fun field hfield => by
        have hlength :=
          Text.length_le_of_mem_intercalate [','] (List.mem_map_of_mem (f := fieldText) hfield)
        simp only [List.length_append, List.length_cons, fieldText] at hroom hlength
        exact spells_field (ih field hfield (by omega))
    have hread := bracketed?_intercalate (Or.inr rfl) hfields rest
    rw [List.cons_append, List.cons_append, List.append_assoc, List.singleton_append, value?, hread]
    rfl

/-- **A written value is read back.** -/
theorem read?_toText (j : Json) : read? j.toText = some j := by
  -- nothing stands behind the value, so nothing goes on with it
  have hspells := spells_chars j (Nat.le_of_eq (String.length_ofList (l := j.chars)).symm)
  have hread := hspells.read [] rfl
  have hskip := hspells.skipSpace_eq []
  rw [List.append_nil] at hread hskip
  rw [toText, read?, String.toList_ofList, hskip, hread]
  rfl

-- other spellings of the same value are read as well
example : (read? " [ 1 , \"\\u00e9\\/\" , [ ] ]\n").map toText = some "[1,\"é/\",[]]" := by
  decide +kernel

/-! ## Control characters -/

/-- An escaped character holds no control characters. -/
theorem toNat_of_mem_escape {c d : Char} (h : d ∈ escape c) : 0x20 ≤ d.toNat := by
  by_cases hcontrol : c.toNat < 0x20
  · -- checked number by number
    have hall : ∀ n < 0x20, (escape (Char.ofNat n)).all (0x20 ≤ ·.toNat) = true := by
      decide +kernel
    have hescape := hall c.toNat hcontrol
    rw [Char.ofNat_toNat] at hescape
    exact of_decide_eq_true (List.all_eq_true.mp hescape d h)
  · have hpair : ∀ mark : Char, 0x20 ≤ mark.toNat → d ∈ ['\\', mark] → 0x20 ≤ d.toNat := by
      intro mark hmark hd
      rcases List.mem_cons.mp hd with rfl | hd
      · decide
      · exact List.mem_singleton.mp hd ▸ hmark
    -- a pair for each of the marks, and the character itself otherwise
    unfold escape at h
    repeat
      split at h
      · exact hpair _ (by decide) h
    exact List.mem_singleton.mp h ▸ Nat.le_of_not_lt hcontrol

theorem toNat_of_mem_quote {s : List Char} {c : Char} (h : c ∈ quote s) : 0x20 ≤ c.toNat := by
  rw [quote, List.mem_append, List.mem_cons, List.mem_flatMap, List.mem_singleton] at h
  rcases h with (rfl | ⟨d, -, hd⟩) | rfl
  · decide
  · exact toNat_of_mem_escape hd
  · decide

theorem toNat_of_mem_signedDecimal {n : Int} {c : Char} (h : c ∈ signedDecimal n) :
    0x20 ≤ c.toNat := by
  have hdigit : ∀ m, c ∈ decimal m → 0x20 ≤ c.toNat := fun m hc =>
    Nat.le_trans (by decide) (Text.toNat_of_isDigitOf (Text.isDigitOf_of_mem_decimal m c hc)).1
  cases n with
  | ofNat n => exact hdigit n h
  | negSucc n =>
    rcases List.mem_cons.mp h with rfl | h
    · decide
    · exact hdigit (n + 1) h

/-- Between brackets there are no control characters, if the parts hold none. -/
theorem toNat_of_mem_bracket {opening closing : Char} {parts : List (List Char)}
    (hopening : 0x20 ≤ opening.toNat) (hclosing : 0x20 ≤ closing.toNat)
    (hparts : ∀ part ∈ parts, ∀ c ∈ part, 0x20 ≤ c.toNat) {c : Char}
    (h : c ∈ bracket opening closing parts) : 0x20 ≤ c.toNat := by
  rw [bracket, List.mem_append, List.mem_cons, List.mem_singleton] at h
  rcases h with (rfl | h) | rfl
  · exact hopening
  · rcases Text.mem_of_mem_intercalate h with hc | ⟨part, hpart, hc⟩
    · rw [List.mem_singleton.mp hc]
      decide
    · exact hparts part hpart c hc
  · exact hclosing

/-- **A written value holds no control characters.** -/
theorem toNat_of_mem_chars (j : Json) : ∀ c ∈ chars j, 0x20 ≤ c.toNat := by
  induction j using induction with
  | number n => exact fun c hc => toNat_of_mem_signedDecimal hc
  | text s => exact fun c hc => toNat_of_mem_quote hc
  | list items ih =>
    rw [chars, itemChars_eq_map]
    exact fun c hc =>
      toNat_of_mem_bracket (by decide) (by decide) (List.forall_mem_map.mpr ih) hc
  | object fields ih =>
    rw [chars, fieldChars_eq_map]
    refine fun c hc => toNat_of_mem_bracket (by decide) (by decide)
      (List.forall_mem_map.mpr fun field hfield d hd => ?_) hc
    rw [fieldText, List.mem_append, List.mem_cons] at hd
    rcases hd with hd | rfl | hd
    · exact toNat_of_mem_quote hd
    · decide
    · exact ih field hfield d hd

end SourceGuard.Json
