import SourceGuard.Toml.Section

/-!
# Texts read back

What the writer puts between quotes spells the text: characters that may stand there, escapes, and
quotes in rows too short to close the text. The reader takes one such piece after another, so it
reads every text back, whatever the kind of its quotes. Only a quote right after the closing one would
be taken for a part of it.

## Main definitions

* `Toml.Escapes`: characters that name a character after a backslash
* `Toml.Spells`: characters that spell a text between the quotes of a style

## Main results

* `Toml.spells_basicBody`, `Toml.spells_self`: the writer spells texts
* `Toml.Spells.oneLine_eq`, `Toml.Spells.manyLines_eq`: the reader reads what is spelled
* `Toml.Quote.text?_writeText`: a written text is read back
-/

namespace SourceGuard.Toml

open Quote (escape? continuation? oneLine manyLines push)

/-! ## Pieces of a text -/

/-- Characters name a character after a backslash, and the backslash does not end its line. -/
structure Escapes (e : List Char) (c : Char) : Prop where
  /-- They name the character. -/
  named : ∀ t, escape? (e ++ t) = some (c, e.length)
  /-- They do not start with a line end. -/
  stays : ∀ t, continuation? (e ++ t) = none

/-- Characters spell a text between the quotes of a style; so many quotes without an escape stand
right before them. -/
inductive Spells (style : Style) : Nat → List Char → List Char → Prop where
  /-- Nothing spells nothing. -/
  | nil (run : Nat) : Spells style run [] []
  /-- A quote stands for itself if there are not too many of them in a row. -/
  | mark {run : Nat} {w s : List Char} : run < freeQuotes style.triple → Spells style (run + 1) w s →
      Spells style run (style.quote.mark :: w) (style.quote.mark :: s)
  /-- So does every other character that may stand in the text, but for the backslash between basic
  quotes. -/
  | plain {run : Nat} {c : Char} {w s : List Char} : c ≠ style.quote.mark →
      (style.quote = .basic → c ≠ '\\') → (isShown c = true ∨ style.triple = true ∧ c = '\n') →
      Spells style 0 w s → Spells style run (c :: w) (c :: s)
  /-- Between basic quotes an escape stands for the character that it names. -/
  | escape {run : Nat} {e : List Char} {c : Char} {w s : List Char} : style.quote = .basic →
      Escapes e c → Spells style 0 w s → Spells style run ('\\' :: (e ++ w)) (c :: s)

/-! ## What the writer spells -/

/-- Only two characters can start the end of a line. -/
theorem newline?_eq_none {c : Char} (hline : c ≠ '\n') (hreturn : c ≠ '\r') (t : List Char) :
    newline? (c :: t) = none := by
  rw [newline?]
  · intro rest h
    exact hline (List.cons.inj h).1
  · intro rest h
    exact hreturn (List.cons.inj h).1

/-- A letter that names a character in an escape. -/
theorem escapes_letter {letter c : Char} (hspace : isSpace letter = false) (hline : letter ≠ '\n')
    (hreturn : letter ≠ '\r') (h : ∀ t, escape? (letter :: t) = some (c, 1)) :
    Escapes [letter] c := by
  refine ⟨h, fun t => ?_⟩
  have hdrop : (letter :: t).dropWhile isSpace = letter :: t :=
    List.dropWhile_cons_of_neg (by simp [hspace])
  rw [List.singleton_append, continuation?, hdrop, newline?_eq_none hline hreturn]
  rfl

/-- The characters that are not shown are few enough for two hexadecimal digits. -/
theorem toNat_lt_of_not_isShown {c : Char} (h : isShown c = false) : c.toNat < 128 := by
  simp only [isShown, Bool.or_eq_false_iff, Bool.and_eq_false_iff, decide_eq_false_iff_not] at h
  omega

theorem escapes_number {c : Char} (hc : c.toNat < 128) :
    Escapes ['u', '0', '0', upperDigit (c.toNat / 16), upperDigit (c.toNat % 16)] c := by
  -- checked number by number
  have hdigits : ∀ n < 128, Quote.numbered? 4 ['0', '0', upperDigit (n / 16), upperDigit (n % 16)] =
      some (Char.ofNat n) := by decide +kernel
  constructor
  case named =>
    intro t
    have h := hdigits c.toNat hc
    rw [Char.ofNat_toNat] at h
    exact congrArg (Option.map (·, 5)) h
  case stays => exact fun t => rfl

/-- **A character other than a quote** is spelled between basic quotes as the writer escapes it. -/
theorem spells_escaped {triple : Bool} {run : Nat} {c : Char} {w s : List Char} (hc : c ≠ '"')
    (h : Spells ⟨.basic, triple⟩ 0 w s) :
    Spells ⟨.basic, triple⟩ run (escape triple c ++ w) (c :: s) := by
  have hletter : ∀ letter : Char, Escapes [letter] c →
      Spells ⟨.basic, triple⟩ run (['\\', letter] ++ w) (c :: s) :=
    fun letter hescapes => .escape rfl hescapes h
  unfold escape
  -- the escapes that are letters, in the order of the writer
  split
  case isTrue hbackslash =>
    subst hbackslash
    exact hletter _ (escapes_letter (by decide) (by decide) (by decide) fun t => rfl)
  split
  case isTrue hbackspace =>
    subst hbackspace
    exact hletter _ (escapes_letter (by decide) (by decide) (by decide) fun t => rfl)
  split
  case isTrue htab =>
    subst htab
    exact hletter _ (escapes_letter (by decide) (by decide) (by decide) fun t => rfl)
  split
  case isTrue hline =>
    subst hline
    cases triple with
    | true => exact .plain hc (fun _ => by decide) (Or.inr ⟨rfl, rfl⟩) h
    | false => exact hletter _ (escapes_letter (by decide) (by decide) (by decide) fun t => rfl)
  split
  case isTrue hfeed =>
    subst hfeed
    exact hletter _ (escapes_letter (by decide) (by decide) (by decide) fun t => rfl)
  split
  case isTrue hreturn =>
    subst hreturn
    exact hletter _ (escapes_letter (by decide) (by decide) (by decide) fun t => rfl)
  split
  case isTrue hshown => exact .plain hc (fun _ => ‹_›) (Or.inl hshown) h
  case isFalse hshown =>
    exact .escape rfl (escapes_number (toNat_lt_of_not_isShown (by simpa using hshown))) h

/-- **Between basic quotes** the writer spells every text. -/
theorem spells_basicBody (triple : Bool) (run : Nat) (s : List Char) :
    Spells ⟨.basic, triple⟩ run (basicBody triple run s) s := by
  induction s generalizing run with
  | nil => exact .nil run
  | cons c rest ih =>
    rw [basicBody]
    split
    case isTrue hmark =>
      subst hmark
      split
      case isTrue hfree => exact .mark hfree (ih (run + 1))
      case isFalse =>
        have hquote : Escapes ['"'] '"' :=
          escapes_letter (by decide) (by decide) (by decide) fun t => rfl
        exact .escape rfl hquote (ih 0)
    case isFalse hmark => exact spells_escaped hmark (ih 0)

/-- **Between literal quotes** a text spells itself, if it has no other control characters than may
stand there and no rows of quotes that are too long. -/
theorem spells_self {triple : Bool} {run : Nat} {s : List Char} (hplain : hasControl s = false)
    (hlines : triple = true ∨ '\n' ∉ s)
    (hruns : runsWithin (freeQuotes triple) '\'' run s = true) :
    Spells ⟨.literal, triple⟩ run s s := by
  induction s generalizing run with
  | nil => exact .nil run
  | cons c rest ih =>
    rw [hasControl, List.any_cons, Bool.or_eq_false_iff] at hplain
    obtain ⟨hc, hrest⟩ := hplain
    have hlines' : triple = true ∨ '\n' ∉ rest :=
      hlines.imp id fun h hmem => h (List.mem_cons_of_mem c hmem)
    rw [runsWithin] at hruns
    by_cases hmark : c = '\''
    · subst hmark
      obtain ⟨hfree, hruns⟩ : run < freeQuotes triple ∧ _ := by simpa using hruns
      exact .mark hfree (ih hrest hlines' hruns)
    · rw [if_neg hmark] at hruns
      refine .plain hmark nofun ?_ (ih hrest hlines' hruns)
      -- a line end may stand in the text only between triple quotes
      cases hshown : isShown c with
      | true => exact Or.inl rfl
      | false =>
        have hline : c = '\n' := by simpa [hshown] using hc
        exact Or.inr ⟨hlines.resolve_right fun h => h (hline ▸ List.mem_cons_self), hline⟩

/-! ## What the reader reads -/

namespace Quote

variable (q : Quote)

@[simp] theorem run_cons_mark (t : List Char) : q.run (q.mark :: t) = q.run t + 1 := by
  simp [run]

theorem run_eq_zero {t : List Char} (h : t.head? ≠ some q.mark) : q.run t = 0 := by
  cases t with
  | nil => rfl
  | cons c t =>
    have hc : c ≠ q.mark := fun hc => h (congrArg some hc)
    simp [run, hc]

/-- **A quote in a row that does not close the text** with it is part of the text. -/
theorem manyLines_mark {t : List Char} (hclose : q.run t ≠ 2) (hlong : q.run t ≤ 4) :
    manyLines q 0 (q.mark :: t) = (manyLines q 0 t).map (push q.mark) := by
  have hmin : min (q.run t + 1) 5 = q.run t + 1 := Nat.min_eq_left (by omega)
  rw [manyLines, if_pos rfl, run_cons_mark, hmin]
  by_cases hshort : q.run t + 1 < 3
  · rw [if_pos hshort]
  · rw [if_neg hshort]
    -- the row is long enough to close the text, with this quote or without it
    have hrow : t.head? = some q.mark := Decidable.byContradiction fun h => by
      rw [run_eq_zero q h] at hshort
      exact hshort (by decide)
    obtain ⟨t, rfl⟩ := List.head?_eq_some_iff.mp hrow
    rw [run_cons_mark] at hclose hlong hshort ⊢
    have hmin' : min (q.run t + 1) 5 = q.run t + 1 := Nat.min_eq_left (by omega)
    obtain ⟨k, hk⟩ : ∃ k, q.run t = k + 2 := ⟨q.run t - 2, by omega⟩
    rw [manyLines, if_pos rfl, run_cons_mark, hmin', if_neg (by omega), hk]
    rfl

/-- A text that starts with a quote is read in its style. -/
theorem text?_mark (t : List Char) : Quote.text? (q.mark :: t) = q.opened t := by
  cases q <;> rfl

/-- A triple quote closes the text, if no quote follows it. -/
theorem manyLines_close {rest : List Char} (hrest : rest.head? ≠ some q.mark) :
    manyLines q 0 (q.mark :: q.mark :: q.mark :: rest) = some ([], rest) := by
  rw [manyLines, if_pos rfl, run_cons_mark, run_cons_mark, run_cons_mark, run_eq_zero q hrest]
  rfl

end Quote

namespace Spells

variable {style : Style} {run : Nat} {w s : List Char}

/-- **On one line** the reader reads what is spelled. -/
theorem oneLine_eq (h : Spells style run w s) (htriple : style.triple = false) (rest : List Char) :
    oneLine style.quote 0 (w ++ style.quote.mark :: rest) = some (s, rest) := by
  induction h with
  | nil => simp [oneLine]
  | mark hfree =>
    rw [htriple] at hfree
    exact absurd hfree (Nat.not_lt_zero _)
  | plain hmark hslash hshown _ ih =>
    have hshown := hshown.resolve_right fun h => Bool.noConfusion (h.1.symm.trans htriple)
    rw [List.cons_append, oneLine, if_neg hmark, if_neg fun h => hslash h.1 h.2, if_pos hshown, ih]
    rfl
  | @escape _ e c w s hquote hescapes _ ih =>
    have hmark : '\\' ≠ style.quote.mark := by
      rw [hquote]
      decide
    rw [List.cons_append, List.append_assoc, oneLine, if_neg hmark, if_pos ⟨hquote, rfl⟩,
      hescapes.named]
    change (oneLine style.quote e.length _).map (push c) = _
    rw [Quote.oneLine_append, ih]
    rfl

/-- How many quotes stand in a row at the head of what is left of a text, if some stand right before
it: so few that with those before they do not close the text, or enough that without them they do. -/
theorem run_le (h : Spells style run w s) (htriple : style.triple = true) (hrun : run ≤ 2)
    {rest : List Char} (hrest : rest.head? ≠ some style.quote.mark) :
    let left := style.quote.run (w ++ List.replicate 3 style.quote.mark ++ rest)
    left + run ≤ 2 ∨ 3 ≤ left ∧ left + run ≤ 5 := by
  intro left
  -- the row goes on as long as quotes stand for themselves, and ends with any other piece
  induction h with
  | nil run =>
    have hleft : left = 3 := by
      change style.quote.run (style.quote.mark :: style.quote.mark :: style.quote.mark :: rest) = 3
      simp [Quote.run_eq_zero _ hrest]
    omega
  | @mark run w s hfree _ ih =>
    rw [htriple] at hfree
    have hleft : left = style.quote.run (w ++ List.replicate 3 style.quote.mark ++ rest) + 1 :=
      Quote.run_cons_mark ..
    have hlater := ih hfree
    omega
  | plain hmark _ _ _ _ =>
    have hleft : left = 0 := Quote.run_eq_zero _ fun h => hmark (Option.some.inj h)
    omega
  | escape hquote _ _ _ =>
    have hleft : left = 0 := Quote.run_eq_zero _ fun h => by
      rw [hquote] at h
      exact absurd (Option.some.inj h) (by decide)
    omega

/-- **On many lines** the reader reads what is spelled. -/
theorem manyLines_eq (h : Spells style run w s) (htriple : style.triple = true) (hrun : run ≤ 2)
    {rest : List Char} (hrest : rest.head? ≠ some style.quote.mark) :
    manyLines style.quote 0 (w ++ List.replicate 3 style.quote.mark ++ rest) = some (s, rest) := by
  induction h with
  | nil => exact Quote.manyLines_close _ hrest
  | @mark run w s hfree hw ih =>
    rw [htriple] at hfree
    -- the row from here on does not close the text with this quote as its first
    have hlater := hw.run_le htriple hfree hrest
    rw [List.cons_append, List.cons_append, Quote.manyLines_mark _ (by omega) (by omega), ih hfree]
    rfl
  | @plain run c w s hmark hslash hshown _ ih =>
    -- a carriage return may not stand in the text, so the reader does not look for a line end
    have hshown' : (isShown c || decide (c = '\n')) = true := by
      rcases hshown with h | h
      · simp [h]
      · simp [h.2]
    have hreturn : c ≠ '\r' := by
      rintro rfl
      exact absurd hshown' (by decide)
    rw [List.cons_append, List.cons_append, manyLines, if_neg hmark, if_neg fun h => hslash h.1 h.2,
      if_neg hreturn, if_pos hshown', ih (by omega)]
    rfl
  | @escape _ e c w s hquote hescapes _ ih =>
    have hmark : '\\' ≠ style.quote.mark := by
      rw [hquote]
      decide
    -- the backslash neither closes the text nor ends its line
    rw [List.cons_append, List.cons_append, List.append_assoc, List.append_assoc, manyLines,
      if_neg hmark, if_pos ⟨hquote, rfl⟩, hescapes.stays, hescapes.named]
    change (manyLines style.quote e.length _).map (push c) = _
    rw [Quote.manyLines_append, ← List.append_assoc, ih (by omega)]
    rfl

/-- What is spelled on one line does not start with a quote. -/
theorem head?_ne_mark (h : Spells style run w s) (htriple : style.triple = false) :
    w.head? ≠ some style.quote.mark := by
  cases h with
  | nil => exact nofun
  | mark hfree =>
    rw [htriple] at hfree
    exact absurd hfree (Nat.not_lt_zero _)
  | plain hmark => exact fun h => hmark (Option.some.inj h)
  | escape hquote =>
    rw [hquote]
    exact fun h => absurd (Option.some.inj h) (by decide)

/-- What spells a text without line ends does not start with one. -/
theorem newline?_eq_none (h : Spells style run w s) (hs : '\n' ∉ s) (rest : List Char) :
    newline? (w ++ style.quote.mark :: rest) = none := by
  have hmark : ∀ t, newline? (style.quote.mark :: t) = none := by
    cases style.quote <;> exact fun t => rfl
  cases h with
  | nil | mark => exact hmark _
  | @plain _ c w s _ _ hshown =>
    have hline : c ≠ '\n' := fun hc => hs (hc ▸ List.mem_cons_self)
    refine Toml.newline?_eq_none hline ?_ _
    rintro rfl
    exact absurd (hshown.resolve_right fun h => hline h.2) (by decide)
  | escape => rfl

/-- What is spelled between single quotes is read back, if no quote follows it. -/
theorem text?_single (h : Spells style run w s) (htriple : style.triple = false) {rest : List Char}
    (hrest : rest.head? ≠ some style.quote.mark) :
    Quote.text? (style.quote.mark :: (w ++ style.quote.mark :: rest)) = some (s, rest) := by
  rw [Quote.text?_mark, Quote.opened, if_neg]
  · exact h.oneLine_eq htriple rest
  · -- the quote that opens the text is not the first of three
    have hhead := h.head?_ne_mark htriple
    cases w with
    | nil =>
      intro htake
      cases rest with
      | nil => cases htake
      | cons c rest => exact hrest (congrArg some (List.cons.inj (List.cons.inj htake).2).1)
    | cons c w => exact fun htake => hhead (congrArg some (List.cons.inj htake).1)

/-- What is spelled between triple quotes is read back, if no quote follows it. -/
theorem text?_triple (h : Spells style 0 w s) (htriple : style.triple = true) {rest : List Char}
    (hrest : rest.head? ≠ some style.quote.mark) :
    let marks := List.replicate 3 style.quote.mark
    let lead := if s.contains '\n' then ['\n'] else []
    Quote.text? (marks ++ (lead ++ w) ++ marks ++ rest) = some (s, rest) := by
  intro marks lead
  have hbody := h.manyLines_eq htriple (Nat.zero_le 2) hrest
  change Quote.text? (style.quote.mark :: style.quote.mark :: style.quote.mark ::
    (lead ++ w ++ marks ++ rest)) = _
  have hthree : ∀ t, (style.quote.mark :: style.quote.mark :: t).take 2 =
      [style.quote.mark, style.quote.mark] := fun t => rfl
  rw [Quote.text?_mark, Quote.opened, if_pos (hthree _)]
  change manyLines style.quote 0 ((newline? (lead ++ w ++ marks ++ rest)).getD _) = _
  -- a line end right after the quotes is there only if the text has line ends
  cases hlines : s.contains '\n' with
  | true =>
    have hlead : lead = ['\n'] := by simp only [lead, hlines, if_true]
    rw [hlead]
    exact hbody
  | false =>
    have hlead : lead = [] := by simp only [lead, hlines, Bool.false_eq_true, if_false]
    have hnone : newline? (w ++ marks ++ rest) = none := by
      rw [List.append_assoc]
      exact h.newline?_eq_none (by simpa using hlines) _
    rw [hlead, List.nil_append, hnone]
    exact hbody

/-- **What is spelled between quotes** is read back, if no quote follows it. -/
theorem opened_eq (h : Spells style 0 w s) {rest : List Char}
    (hrest : rest.head? ≠ some style.quote.mark) :
    let lead := if style.triple && s.contains '\n' then ['\n'] else []
    Quote.text? (style.marks ++ (lead ++ w) ++ style.marks ++ rest) = some (s, rest) := by
  cases htriple : style.triple with
  | false =>
    have hmarks : style.marks = [style.quote.mark] := by simp [Style.marks, htriple]
    simpa [hmarks] using h.text?_single htriple hrest
  | true =>
    have hmarks : style.marks = List.replicate 3 style.quote.mark := by simp [Style.marks, htriple]
    rw [hmarks, Bool.true_and]
    exact h.text?_triple htriple hrest

end Spells

/-! ## Written texts -/

/-- **A text is spelled** in the style in which it is written. -/
theorem spells_choose (s : List Char) :
    let style := Style.choose s
    Spells style 0 (match style.quote with
      | .basic => basicBody style.triple 0 s
      | .literal => s) s := by
  have hliteral : ∀ style, Style.choose s = style → style.quote = .literal →
      hasControl s = false ∧ (style.triple = true ∨ '\n' ∉ s) ∧
        runsWithin (freeQuotes style.triple) '\'' 0 s = true := by
    intro style hstyle hquote
    -- of the five choices of the writer, the second and the fourth are literal
    unfold Style.choose at hstyle
    simp only at hstyle
    split at hstyle
    · subst hstyle
      cases hquote
    · split at hstyle
      case isTrue h =>
        subst hstyle
        simpa [freeQuotes, and_assoc] using h
      · split at hstyle
        · subst hstyle
          cases hquote
        · split at hstyle
          case isTrue h =>
            subst hstyle
            simpa [freeQuotes] using h
          case isFalse =>
            subst hstyle
            cases hquote
  intro style
  have hstyle := hliteral style rfl
  obtain ⟨quote, triple⟩ := style
  cases quote with
  | basic => exact spells_basicBody triple 0 s
  | literal =>
    obtain ⟨hplain, hlines, hruns⟩ := hstyle rfl
    exact spells_self hplain hlines hruns

/-- **A written text is read back**, if no quote follows it. -/
theorem Quote.text?_writeText (s : String) {rest : List Char}
    (hrest : ∀ q : Quote, rest.head? ≠ some q.mark) :
    Quote.text? (writeText s ++ rest) = some (s.toList, rest) :=
  (spells_choose s.toList).opened_eq (hrest _)

end SourceGuard.Toml
