import SourceGuard.Proofs.Text.Digits
import SourceGuard.Proofs.Toml.Texts
import SourceGuard.Toml.Reader

/-!
# Values read back

The reader tries moments first, then other numbers, then whole ones. The digits of a whole number go
on to the end of the line, where a moment would have a mark between two of its parts and another
number its point or its exponent. So a whole number is read back as one, if it fits into 64 bits with
a sign; and so are truth values and lists of texts.

## Main definitions

* `Toml.Field.value`: the value that a setting holds
* `Toml.Field.Fits`: the settings that can be written

## Main results

* `Toml.number?_decimal`: whole numbers are read back
* `Toml.items?_lines`: so are the lines of a list
* `Toml.value?_write`: so is what a setting holds
-/

namespace SourceGuard.Toml

open Text (decimal decimal_cases exists_decimal isDigitOf isDigitOf_of_mem_decimal
  cons_ne_of_isDigitOf)

/-! ## Whole numbers -/

section Number

variable {digits rest : List Char}

/-- What a number of so many digits leaves of digits at the end of a line. -/
theorem rest_of_fixed? (hdigits : ∀ c ∈ digits, isDigitOf 10 c = true) {count n : Nat}
    {left : List Char} (h : fixed? count (digits ++ '\n' :: rest) = some (n, left)) :
    ∃ later, (∀ c ∈ later, isDigitOf 10 c = true) ∧ left = later ++ '\n' :: rest := by
  unfold fixed? at h
  simp only at h
  split at h
  · rename_i hrun
    obtain ⟨hlength, hall⟩ := hrun
    obtain rfl : (digits ++ '\n' :: rest).drop count = left := (Prod.mk.inj (Option.some.inj h)).2
    -- the line end is no digit, so it is not among the digits that were taken
    have hcount : count ≤ digits.length := Nat.le_of_not_lt fun hlong => by
      have hmem : '\n' ∈ (digits ++ '\n' :: rest).take count := by
        rw [List.take_append, List.mem_append]
        obtain ⟨k, hk⟩ : ∃ k, count - digits.length = k + 1 := ⟨count - digits.length - 1, by omega⟩
        rw [hk]
        exact Or.inr List.mem_cons_self
      exact absurd (List.all_eq_true.mp hall _ hmem) (by decide)
    refine ⟨digits.drop count, fun c hc => hdigits c (List.mem_of_mem_drop hc), ?_⟩
    rw [List.drop_append_of_le_length hcount]
  · cases h

/-- No mark but a digit stands before the end of a line of digits. -/
theorem marked?_eq_none (hdigits : ∀ c ∈ digits, isDigitOf 10 c = true) {mark : Char}
    (hmark : isDigitOf 10 mark = false) (hline : mark ≠ '\n') :
    marked? mark (digits ++ '\n' :: rest) = none := by
  cases digits with
  | nil => exact if_neg (Ne.symm hline)
  | cons c digits =>
    refine if_neg fun hc => ?_
    have hdigit := hdigits c List.mem_cons_self
    rw [hc, hmark] at hdigit
    cases hdigit

/-- **Digits up to the end of a line** are no moment. -/
theorem moment?_eq_none (hdigits : ∀ c ∈ digits, isDigitOf 10 c = true) :
    moment? (digits ++ '\n' :: rest) = none := by
  -- after the year a dash would have to follow, and after the hour a colon
  have hdate : date? (digits ++ '\n' :: rest) = none := by
    rw [date?]
    cases hyear : fixed? 4 (digits ++ '\n' :: rest) with
    | none => rfl
    | some r =>
      obtain ⟨year, left⟩ := r
      obtain ⟨later, hlater, rfl⟩ := rest_of_fixed? hdigits hyear
      simp only [Option.bind_eq_bind, Option.bind_some,
        marked?_eq_none hlater (by decide : isDigitOf 10 '-' = false) (by decide), Option.bind_none]
  have htime : time? (digits ++ '\n' :: rest) = none := by
    rw [time?, bounded?]
    cases hhour : fixed? 2 (digits ++ '\n' :: rest) with
    | none => rfl
    | some r =>
      obtain ⟨hour, left⟩ := r
      obtain ⟨later, hlater, rfl⟩ := rest_of_fixed? hdigits hhour
      simp only [Option.bind_eq_bind, Option.bind_some]
      split
      · simp only [Option.bind_some,
          marked?_eq_none hlater (by decide : isDigitOf 10 ':' = false) (by decide),
          Option.bind_none]
      · rfl
  rw [moment?, hdate, htime]

theorem digitRun_eq (hdigits : ∀ c ∈ digits, isDigitOf 10 c = true) :
    digitRun 10 (digits ++ '\n' :: rest) = (digits, '\n' :: rest) := by
  induction digits with
  | nil => rfl
  | cons c digits ih =>
    rw [List.cons_append, digitRun, if_pos (hdigits c List.mem_cons_self),
      ih fun d hd => hdigits d (List.mem_cons_of_mem c hd)]

end Number

section Decimal

variable (n : Nat) (rest : List Char)

theorem sign_decimal : sign (decimal n ++ '\n' :: rest) = (false, decimal n ++ '\n' :: rest) := by
  obtain ⟨c, digits, h, hc⟩ := exists_decimal n
  rw [h, List.cons_append, sign]
  · exact fun _ => cons_ne_of_isDigitOf hc (by decide) _ _
  · exact fun _ => cons_ne_of_isDigitOf hc (by decide) _ _

theorem plainDigits?_decimal :
    plainDigits? (decimal n ++ '\n' :: rest) = some (decimal n, '\n' :: rest) := by
  rcases decimal_cases n with h | ⟨c, digits, h, hzero, hc⟩
  · rw [h]
    rfl
  · have hrun : digitRun 10 (decimal n ++ '\n' :: rest) = (decimal n, '\n' :: rest) :=
      digitRun_eq (isDigitOf_of_mem_decimal n)
    rw [h, List.cons_append] at hrun ⊢
    rw [plainDigits?, digits?, startsWithDigit, List.head?_cons, Option.any_some, if_pos hc, hrun]
    exact fun t ht => hzero (List.cons.inj ht).1

theorem float?_decimal : float? (decimal n ++ '\n' :: rest) = none := by
  -- the line end after the digits starts neither a fraction nor an exponent
  have hdecimal : decimalFloat? (decimal n ++ '\n' :: rest) = none := by
    rw [decimalFloat?, sign_decimal]
    simp only [plainDigits?_decimal, Option.bind_eq_bind, Option.bind_some]
    rfl
  have hnamed : namedFloat? (decimal n ++ '\n' :: rest) = none := by
    rw [namedFloat?, sign_decimal]
    refine if_neg ?_
    obtain ⟨c, digits, h, hc⟩ := exists_decimal n
    rw [h]
    rintro (h | h)
    · exact cons_ne_of_isDigitOf hc (by decide) _ _ h
    · exact cons_ne_of_isDigitOf hc (by decide) _ _ h
  rw [float?, hdecimal, hnamed]
  rfl

theorem unbounded?_decimal :
    unbounded? (decimal n ++ '\n' :: rest) = some ((n : Int), '\n' :: rest) := by
  have hnumber := Text.numberOf_decimal n
  rw [unbounded?]
  · simp only [sign_decimal, plainDigits?_decimal, Option.bind_eq_bind, Option.bind_some, hnumber]
    rfl
  -- a zero is not followed by the mark of another base
  all_goals
    intro t ht
    rcases decimal_cases n with h | ⟨c, digits, h, hzero, -⟩
    · rw [h] at ht
      exact absurd (List.cons.inj (List.cons.inj ht).2).1 (by decide)
    · rw [h] at ht
      exact hzero (List.cons.inj ht).1

theorem isWord_of_lt {n : Nat} (hn : n < 0x8000000000000000) : isWord n = true := by
  rw [isWord, Bool.and_eq_true, decide_eq_true_eq, decide_eq_true_eq]
  omega

theorem integer?_decimal {n : Nat} (hn : n < 0x8000000000000000) :
    integer? (decimal n ++ '\n' :: rest) = some ((n : Int), '\n' :: rest) := by
  -- the bound is a large literal, so the test is kept closed until it is known to hold
  have hread : ∀ text, integer? text =
      (unbounded? text).bind fun r => if isWord r.1 then some (r.1, r.2) else none := fun text => rfl
  rw [hread, unbounded?_decimal, Option.bind_some, if_pos (isWord_of_lt hn)]

/-- **A whole number is read back** as one, if it fits into 64 bits with a sign. -/
theorem number?_decimal {n : Nat} (hn : n < 0x8000000000000000) :
    number? (decimal n ++ '\n' :: rest) = some (.integer n, '\n' :: rest) := by
  rw [number?, moment?_eq_none (isDigitOf_of_mem_decimal n), float?_decimal,
    integer?_decimal rest hn]
  rfl

end Decimal

/-! ## Texts and lists of them -/

/-- What a setting holds, as a value. -/
def Field.value : Field → Value
  | text s => .text s
  | count n => .integer n
  | flag b => .boolean b
  | texts items => .list (items.map .text)

/-- A number fits if it has at most 64 bits with a sign. -/
def Field.Fits : Field → Prop
  | count n => n < 0x8000000000000000
  | _ => True

theorem skipGap_eq_self {c : Char} {rest : List Char} (hspace : isSpace c = false) (hline : c ≠ '\n')
    (hreturn : c ≠ '\r') (hcomment : c ≠ '#') : skipGap false (c :: rest) = c :: rest := by
  rw [skipGap]
  · simp [hspace, hcomment]
  · exact hline
  · exact fun _ hc _ => hreturn hc

/-- A text starts with a quote. -/
theorem exists_writeText (s : String) :
    ∃ (q : Quote) (t : List Char), writeText s = q.mark :: t := by
  let style := Style.choose s.toList
  have hmarks : ∃ k, style.marks = style.quote.mark :: k := by
    cases htriple : style.triple <;> simp [Style.marks, htriple, List.replicate_succ]
  obtain ⟨k, hk⟩ := hmarks
  refine ⟨style.quote, k ++ (style.body s.toList ++ style.marks), ?_⟩
  have hwrite : writeText s = style.marks ++ (style.body s.toList ++ style.marks) :=
    List.append_assoc ..
  exact hwrite.trans (congrArg (· ++ (style.body s.toList ++ style.marks)) hk)

section Texts

variable (s : String) {rest : List Char}

theorem skipGap_writeText : skipGap false (writeText s ++ rest) = writeText s ++ rest := by
  obtain ⟨q, t, h⟩ := exists_writeText s
  rw [h]
  cases q <;> exact skipGap_eq_self (by decide) (by decide) (by decide) (by decide)

/-- A text is read as a value, if no quote follows it. -/
theorem value?_writeText (room : Nat) (hrest : ∀ q : Quote, rest.head? ≠ some q.mark) :
    value? room (writeText s ++ rest) = some (.text s, rest) := by
  have hscalar : scalar? (writeText s ++ rest) = some (.text s, rest) := by
    rw [scalar?, Quote.text?_writeText s hrest]
    simp only [String.ofList_toList]
  cases room with
  | zero => exact hscalar
  | succ room =>
    -- a quote is no bracket and no brace
    obtain ⟨q, t, h⟩ := exists_writeText s
    rw [h] at hscalar ⊢
    cases q <;> exact hscalar

end Texts

/-- No quote opens with a comma, a bracket or a line end. -/
theorem head?_ne_mark {c : Char} (hc : c ∈ [',', ']', '\n']) (rest : List Char) (q : Quote) :
    (c :: rest).head? ≠ some q.mark := by
  rw [List.head?_cons]
  intro h
  rw [Option.some.inj h] at hc
  cases q <;> exact absurd hc (by decide)

/-- What is written for each of some things is at least as long as they are many. -/
theorem length_le_flatMap {α β : Type} {f : α → List β} (hf : ∀ a, f a ≠ []) (l : List α) :
    l.length ≤ (l.flatMap f).length := by
  induction l with
  | nil => exact Nat.le_refl 0
  | cons a l ih =>
    have ha := List.length_pos_iff.mpr (hf a)
    rw [List.flatMap_cons, List.length_append, List.length_cons]
    omega

section Items

variable {item : Reader Value} {room : Nat} {text left more rest : List Char} {v : Value}

/-- An item and a comma, then the other items. -/
theorem items?_cons (hgap : skipGap false text = left) (hopen : left.head? ≠ some ']')
    (hitem : item left = some (v, more)) (hcomma : skipGap false more = ',' :: rest) :
    items? item (room + 1) text = (items? item room rest).map fun r => (v :: r.1, r.2) := by
  rw [items?, hgap]
  split
  case h_1 => exact absurd rfl hopen
  case h_2 =>
    simp only [hitem, hcomma, Option.bind_eq_bind, Option.bind_some]
    cases items? item room rest <;> rfl

/-- An item and the bracket that closes the list. -/
theorem items?_singleton (hgap : skipGap false text = left) (hopen : left.head? ≠ some ']')
    (hitem : item left = some (v, more)) (hclose : skipGap false more = ']' :: rest) :
    items? item (room + 1) text = some ([v], rest) := by
  rw [items?, hgap]
  split
  case h_1 => exact absurd rfl hopen
  case h_2 => simp only [hitem, hclose, Option.bind_eq_bind, Option.bind_some]

end Items

theorem head?_writeText (s : String) (rest : List Char) :
    (writeText s ++ rest).head? ≠ some ']' := by
  obtain ⟨q, t, h⟩ := exists_writeText s
  rw [h]
  cases q <;> exact fun h => absurd (Option.some.inj h) (by decide)

theorem itemLine_append (s : String) (t : List Char) :
    itemLine s ++ t = ' ' :: ' ' :: ' ' :: ' ' :: (writeText s ++ ',' :: '\n' :: t) := by
  have hline : itemLine s = [' ', ' ', ' ', ' '] ++ (writeText s ++ [',', '\n']) :=
    List.append_assoc ..
  rw [hline, List.append_assoc, List.append_assoc]
  rfl

/-- **The lines of a list** are read item by item, up to the bracket that closes it. -/
theorem items?_lines (room : Nat) (items : List String) {more : Nat} (hmore : items.length < more)
    (rest : List Char) :
    items? (value? room) more ('\n' :: (items.flatMap itemLine ++ ']' :: rest)) =
      some (items.map .text, rest) := by
  induction items generalizing more with
  | nil =>
    obtain ⟨more, rfl⟩ : ∃ k, more = k + 1 := ⟨more - 1, by simp at hmore; omega⟩
    rfl
  | cons s items ih =>
    obtain ⟨more, rfl⟩ : ∃ k, more = k + 1 := ⟨more - 1, by simp at hmore; omega⟩
    let later := '\n' :: (items.flatMap itemLine ++ ']' :: rest)
    -- the spaces before the item are passed over, and the comma after it ends it
    have hspaces : ∀ t, skipGap false ('\n' :: ' ' :: ' ' :: ' ' :: ' ' :: t) = skipGap false t :=
      fun t => rfl
    have hgap := (hspaces (writeText s ++ ',' :: later)).trans (skipGap_writeText s)
    have hitem : value? room (writeText s ++ ',' :: later) = some (.text s, ',' :: later) :=
      value?_writeText s room (head?_ne_mark (by decide) later)
    have hlater := ih (Nat.lt_of_succ_lt_succ hmore)
    have hcomma : skipGap false (',' :: later) = ',' :: later := rfl
    have hfirst : items? (value? room) (more + 1) _ = _ :=
      items?_cons hgap (head?_writeText s _) hitem hcomma
    rw [hlater] at hfirst
    rw [List.flatMap_cons, List.append_assoc, itemLine_append]
    exact hfirst

/-- **A written list** is read back. -/
theorem value?_writeTexts (room : Nat) (items : List String) (rest : List Char) :
    value? (room + 1) (writeTexts items ++ rest) = some (.list (items.map .text), rest) := by
  have hopen : ∀ text r, items? (value? room) (text.length + 1) text = some r →
      value? (room + 1) ('[' :: text) = some (.list r.1, r.2) := by
    intro text r h
    rw [value?, List.length_cons, h]
    rfl
  match items with
  | [] => exact hopen (']' :: rest) ([], rest) rfl
  | [s] =>
    have hwrite : writeTexts [s] ++ rest = '[' :: (writeText s ++ ']' :: rest) :=
      List.append_assoc ('[' :: writeText s) [']'] rest
    have hitem : value? room (writeText s ++ ']' :: rest) = some (.text s, ']' :: rest) :=
      value?_writeText s room (head?_ne_mark (by decide) rest)
    rw [hwrite]
    exact hopen _ ([.text s], rest)
      (items?_singleton (skipGap_writeText s) (head?_writeText s _) hitem rfl)
  | s :: t :: items =>
    have hwrite : writeTexts (s :: t :: items) ++ rest =
        '[' :: '\n' :: ((s :: t :: items).flatMap itemLine ++ ']' :: rest) :=
      List.append_assoc ('[' :: '\n' :: (s :: t :: items).flatMap itemLine) [']'] rest
    rw [hwrite]
    refine hopen _ ((s :: t :: items).map .text, rest) (items?_lines room _ ?_ rest)
    have hline : ∀ s, itemLine s ≠ [] := by
      intro s h
      have hspaces := itemLine_append s []
      rw [h] at hspaces
      cases hspaces
    have hlength := length_le_flatMap hline (s :: t :: items)
    simp only [List.length_cons, List.length_append] at hlength ⊢
    omega

/-! ## Settings -/

/-- What starts with a digit is read as a number. -/
theorem value?_of_isDigitOf {c : Char} (hc : isDigitOf 10 c = true) (room : Nat) (t : List Char) :
    value? room (c :: t) = number? (c :: t) := by
  have hquote : Quote.text? (c :: t) = none := by
    rw [Quote.text?]
    · exact fun _ => cons_ne_of_isDigitOf hc (by decide) _ _
    · exact fun _ => cons_ne_of_isDigitOf hc (by decide) _ _
  have hboolean : boolean? (c :: t) = none := by
    rw [boolean?]
    · exact fun _ => cons_ne_of_isDigitOf hc (by decide) _ _
    · exact fun _ => cons_ne_of_isDigitOf hc (by decide) _ _
  have hscalar : scalar? (c :: t) = number? (c :: t) := by
    rw [scalar?, hquote, hboolean]
    rfl
  cases room with
  | zero => exact hscalar
  | succ room =>
    rw [value?]
    · exact hscalar
    · exact fun _ => cons_ne_of_isDigitOf hc (by decide) _ _
    · exact fun _ => cons_ne_of_isDigitOf hc (by decide) _ _

/-- **What a setting holds** is read back up to the end of its line. -/
theorem value?_write {f : Field} (hf : f.Fits) (rest : List Char) :
    value? depth (f.write ++ '\n' :: rest) = some (f.value, '\n' :: rest) := by
  cases f with
  | text s => exact value?_writeText s depth (head?_ne_mark (by decide) rest)
  | texts items => exact value?_writeTexts (depth - 1) items ('\n' :: rest)
  | flag b => cases b <;> rfl
  | count n =>
    have hnumber := number?_decimal rest hf
    change value? depth (decimal n ++ '\n' :: rest) = _
    obtain ⟨c, digits, h, hc⟩ := exists_decimal n
    rw [h] at hnumber ⊢
    exact (value?_of_isDigitOf hc depth _).trans hnumber

end SourceGuard.Toml
