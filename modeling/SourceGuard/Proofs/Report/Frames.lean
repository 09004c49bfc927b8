import SourceGuard.Proofs.Address.RoundTrip
import SourceGuard.Proofs.Text.Pieces
import SourceGuard.Report.Table

/-!
# What a frame tells

A frame is read line by line. Its title ends in the digits of the window, before which the rules
stand as they are. The lines of rows are those that start with a digit or a colon, up to the rule or
the remark behind them; their words are the address and the counters, however far the cells run over.
The totals follow from the rows, and the blocked part is what is left before the foot. So snapshots
that are shown alike are alike, but for the time at which they were taken.

## Main definitions

* `Snapshot.IsPresentable`: snapshots as they are made, whose texts stay on their lines
* `TableReport.isRowLine`: the lines of rows

## Main results

* `TableReport.prefix_words_rowLine`: the words that the line of a row starts with
* `TableReport.shown_of_head_eq`, `TableReport.rowLine_injective`,
  `TableReport.blockedLine_injective`: what the lines tell
* `TableReport.notMem_lines`: a frame splits into its lines
* `TableReport.frame_exact`: snapshots that are shown alike
-/

namespace SourceGuard

/-- Snapshots as they are made, whose rules and reasons stay on their lines. -/
structure Snapshot.IsPresentable (s : Snapshot) : Prop where
  /-- The snapshot is made of rows and blocked sources. -/
  made : ∃ takenAt windowSeconds summary rows blocked,
    s = Snapshot.make takenAt windowSeconds summary rows blocked
  /-- The rules, in words, hold no line end. -/
  summary : '\n' ∉ s.summary.toList
  /-- Nor does any reason. -/
  reasons : ∀ b ∈ s.blocked, '\n' ∉ b.reason.toList

/-- The totals of a snapshot as it is made follow from its rows. -/
theorem Snapshot.IsPresentable.totals_eq {s : Snapshot} (hs : s.IsPresentable) :
    s.totals = Totals.ofRows s.rows := by
  obtain ⟨takenAt, windowSeconds, summary, rows, blocked, rfl⟩ := hs.made
  rfl

namespace TableReport

open Text (decimal isDigitOf words)

/-! ## Cells -/

section Cells

variable {width : Nat} {text rest : List Char}

theorem cell_append_space : cell width text ++ ' ' :: rest =
    text ++ ' ' :: (List.replicate (width - text.length) ' ' ++ rest) := by
  rw [cell, List.append_assoc, ← List.singleton_append, ← List.append_assoc (List.replicate _ _),
    ← List.replicate_succ', List.replicate_succ, List.cons_append]

/-- **The text of a cell** is a word of its line, if it is a word at all. -/
theorem words_cell (hword : ∀ c ∈ text, Text.isBlank c = false) (hne : text ≠ []) :
    words (cell width text ++ ' ' :: rest) = text :: words rest := by
  -- the space between two cells counts among the filling, so there is one even if a cell is full
  rw [cell_append_space, Text.words_word hword hne (by decide), Text.words_blanks (by decide)]

theorem notMem_cell (h : '\n' ∉ text) : '\n' ∉ cell width text := by
  simp [cell, h]

theorem notMem_columns {cells : List (List Char)} (h : ∀ cell ∈ cells, '\n' ∉ cell) :
    '\n' ∉ columns cells := by
  intro hmem
  rcases Text.mem_of_mem_intercalate hmem with hc | ⟨cell, hcell, hc⟩
  · exact absurd hc (by decide)
  · exact h cell hcell hc

end Cells

/-! ## The lines of rows -/

theorem isBlank_of_mem_chars {a : Address} : ∀ c ∈ a.chars, Text.isBlank c = false := by
  intro c hc
  have hrange := Address.toNat_of_mem_chars hc
  exact Text.isBlank_eq_false (by omega) (by omega)

theorem isBlank_of_mem_decimal (n : Nat) : ∀ c ∈ decimal n, Text.isBlank c = false := by
  intro c hc
  have hrange := Text.toNat_of_isDigitOf (Text.isDigitOf_of_mem_decimal n c hc)
  exact Text.isBlank_eq_false (by omega) (by omega)

theorem rowLine_eq (row : Row) : rowLine row =
    cell 20 row.source.chars ++ ' ' :: (cell 12 (decimal row.packets.toNat) ++
      ' ' :: (cell 15 (decimal row.bytes.toNat) ++ ' ' :: (cell 12 (decimal row.matching.toNat) ++
        ' ' :: (cell 12 (ByteSize.chars row.bytes.toNat) ++
          ' ' :: cell 15 (label row.status))))) := by
  simp [rowLine, columns, List.intercalate_cons_cons]

/-- **The words that the line of a row starts with**, however long they are. -/
theorem prefix_words_rowLine (row : Row) :
    [row.source.chars, decimal row.packets.toNat, decimal row.bytes.toNat,
      decimal row.matching.toNat] <+: words (rowLine row) := by
  have hdecimal : ∀ {width n rest}, words (cell width (decimal n) ++ ' ' :: rest) =
      decimal n :: words rest :=
    words_cell (isBlank_of_mem_decimal _) Nat.toDigits_ne_nil
  rw [rowLine_eq, words_cell isBlank_of_mem_chars (Address.chars_ne_nil _), hdecimal, hdecimal,
    hdecimal]
  exact ⟨_, rfl⟩

/-- The character that tells a status. -/
def mark : RowStatus → Char
  | .ok => '+'
  | .warning => '!'
  | .blocked _ => '-'

theorem getElem?_label (status : RowStatus) : (cell 15 (label status))[1]? = some (mark status) := by
  cases status <;> rfl

theorem label_injective {a b : RowStatus} (h : cell 15 (label a) = cell 15 (label b)) : a = b := by
  -- the second character tells the statuses apart, the digits two blocked ones
  have hmark : mark a = mark b := by
    rw [← Option.some_inj, ← getElem?_label, h, getElem?_label]
  cases a <;> cases b <;> simp [mark] at hmark
  case ok.ok => rfl
  case warning.warning => rfl
  case blocked.blocked seconds seconds' =>
    have hdigits : ∀ n, cell 15 (label (.blocked n)) = "[-] BLOCKED (".toList ++ (decimal n ++
        ("s)".toList ++ List.replicate (15 - (label (.blocked n)).length) ' ')) := by
      intro n
      rw [cell, ← List.append_assoc, ← List.append_assoc]
      rfl
    rw [hdigits, hdigits] at h
    have hnumbers := Text.decimal_append_inj rfl rfl (List.append_cancel_left h)
    rw [hnumbers.1]

/-- **The line of a row** tells the row. -/
theorem rowLine_injective {a b : Row} (h : rowLine a = rowLine b) : a = b := by
  -- two prefixes of the same words, of the same length
  have hwords := prefix_words_rowLine b
  rw [← h] at hwords
  replace hwords := (List.prefix_of_prefix_length_le (prefix_words_rowLine a) hwords
    (Nat.le_of_eq rfl)).eq_of_length rfl
  simp only [List.cons.injEq, and_true] at hwords
  obtain ⟨hsource, hpackets, hbytes, hmatching⟩ := hwords
  -- the counters are the same, so the cells before the status are
  have hstatus := h
  rw [rowLine_eq, rowLine_eq, hsource, hpackets, hbytes, hmatching, Text.decimal_injective hbytes]
    at hstatus
  simp only [List.append_cancel_left_eq, List.cons.injEq, true_and] at hstatus
  obtain ⟨source, packets, bytes, matching, status⟩ := a
  rw [Row.mk.injEq]
  exact ⟨Address.chars_injective hsource, UInt64.toNat_inj.mp (Text.decimal_injective hpackets),
    UInt64.toNat_inj.mp (Text.decimal_injective hbytes),
    UInt64.toNat_inj.mp (Text.decimal_injective hmatching), label_injective hstatus⟩

/-! ## Other lines -/

/-- **The title** tells the rules and the window, whose digits stand at its end. -/
theorem shown_of_head_eq {s t : Snapshot} (h : head s = head t) :
    s.summary = t.summary ∧ s.windowSeconds = t.windowSeconds := by
  have htitle := (List.cons.inj (List.cons.inj h).2).1
  -- read backwards, the digits come first and end at a blank
  have hreverse := congrArg List.reverse (List.append_cancel_right htitle)
  simp only [List.reverse_append] at hreverse
  have hdigits : ∀ n, ∀ c ∈ (decimal n).reverse, isDigitOf 10 c = true := fun n c hc =>
    Text.isDigitOf_of_mem_decimal n c (List.mem_reverse.mp hc)
  obtain ⟨hwindow, hsummary⟩ := Text.word_append_inj (hdigits _) (hdigits _) rfl rfl hreverse
  refine ⟨?_, Text.decimal_injective (List.reverse_inj.mp hwindow)⟩
  exact String.toList_inj.mp (List.reverse_inj.mp
    (List.append_cancel_right (List.append_cancel_left hsummary)))

/-- **The line of a blocked source** tells the source, its seconds and the reason. -/
theorem blockedLine_injective {a b : BlockStatus} (h : blockedLine a = blockedLine b) : a = b := by
  let filling (b : BlockStatus) : List Char := List.replicate (20 - b.source.chars.length) ' '
  have hline : ∀ b : BlockStatus, blockedLine b = "  🔒 ".toList ++ (b.source.chars ++ (filling b ++
      (" - Unblocks in ".toList ++ (decimal b.seconds ++ ("s (".toList ++
        (b.reason.toList ++ [')'])))))) := by
    intro b
    have hassoc : ∀ u v w x y z t p : List Char, u ++ (v ++ w) ++ x ++ y ++ z ++ t ++ p =
        u ++ (v ++ (w ++ (x ++ (y ++ (z ++ (t ++ p)))))) := by
      intros
      simp only [List.append_assoc]
    exact hassoc ..
  rw [hline, hline] at h
  -- the address ends at the first space
  have haddress : ∀ a : Address, ∀ c ∈ a.chars, decide (c ≠ ' ') = true := by
    intro a c hc
    refine decide_eq_true ?_
    rintro rfl
    exact absurd (Address.toNat_of_mem_chars hc).1 (by decide)
  have hspace : ∀ (b : BlockStatus) (rest : List Char),
      (filling b ++ (" - Unblocks in ".toList ++ rest)).head?.any (decide <| · ≠ ' ') = false := by
    intro b rest
    simp only [filling]
    cases 20 - b.source.chars.length <;> rfl
  obtain ⟨hsource, hrest⟩ := Text.word_append_inj (haddress a.source) (haddress b.source)
    (hspace a _) (hspace b _) (List.append_cancel_left h)
  have hfilling : filling a = filling b := by simp only [filling, hsource]
  rw [hfilling] at hrest
  obtain ⟨hseconds, hreason⟩ := Text.decimal_append_inj rfl rfl
    (List.append_cancel_left (List.append_cancel_left hrest))
  have hreason := String.toList_inj.mp (List.append_cancel_right (List.append_cancel_left hreason))
  rw [BlockStatus.mk.injEq]
  exact ⟨Address.chars_injective hsource, hseconds, hreason⟩

/-! ## The lines of a frame -/

theorem notMem_decimal (n : Nat) : '\n' ∉ decimal n := Text.notMem_decimal (by decide) n

theorem notMem_chars (a : Address) : '\n' ∉ a.chars :=
  fun h => absurd (Address.toNat_of_mem_chars h).1 (by decide)

theorem notMem_byteSize (count : Nat) : '\n' ∉ ByteSize.chars count := by
  have hunit : ∀ k : Nat, '\n' ∉ (ByteSize.unitNames[k]?.getD "").toList := by
    intro k
    cases hk : ByteSize.unitNames[k]? with
    | none => exact List.not_mem_nil
    | some name =>
      have hnames : ∀ name ∈ ByteSize.unitNames, '\n' ∉ name.toList := by decide
      exact hnames name (List.mem_of_getElem? hk)
  simp [ByteSize.chars, ByteSize.twoDecimals, notMem_decimal, hunit]

theorem notMem_label (status : RowStatus) : '\n' ∉ label status := by
  cases status with
  | ok | warning => decide
  | blocked seconds =>
    exact List.not_mem_append (List.not_mem_append (by decide) (notMem_decimal seconds)) (by decide)

theorem notMem_rowLine (row : Row) : '\n' ∉ rowLine row := by
  refine notMem_columns ?_
  simp only [List.forall_mem_cons, List.not_mem_nil, false_implies, implies_true, and_true]
  exact ⟨notMem_cell (notMem_chars _), notMem_cell (notMem_decimal _), notMem_cell (notMem_decimal _),
    notMem_cell (notMem_decimal _), notMem_cell (notMem_byteSize _), notMem_cell (notMem_label _)⟩

theorem notMem_totalsLine (totals : Totals) : '\n' ∉ totalsLine totals := by
  refine notMem_columns ?_
  simp only [List.forall_mem_cons, List.not_mem_nil, false_implies, implies_true, and_true]
  exact ⟨notMem_cell (by decide), notMem_cell (notMem_decimal _), notMem_cell (notMem_decimal _),
    notMem_cell (notMem_decimal _), notMem_cell (notMem_byteSize _)⟩

theorem notMem_blockedLine {b : BlockStatus} (h : '\n' ∉ b.reason.toList) :
    '\n' ∉ blockedLine b := by
  have hcell : '\n' ∉ cell 20 b.source.chars := notMem_cell (notMem_chars b.source)
  have hsource := List.not_mem_append (s := "  🔒 ".toList) (by decide) hcell
  have hseconds := List.not_mem_append (List.not_mem_append (t := " - Unblocks in ".toList) hsource
    (by decide)) (notMem_decimal b.seconds)
  exact List.not_mem_append (List.not_mem_append (List.not_mem_append hseconds (by decide)) h)
    (by decide)

variable {s t : Snapshot}

theorem notMem_head (hs : s.IsPresentable) : ∀ line ∈ head s, '\n' ∉ line := by
  have hsummary := List.not_mem_append (s := "  Gatewarden (".toList) (by decide) hs.summary
  simp only [head, List.forall_mem_cons, List.not_mem_nil, false_implies, implies_true, and_true]
  exact ⟨by decide, List.not_mem_append (List.not_mem_append (List.not_mem_append hsummary
    (by decide)) (notMem_decimal _)) (by decide), by decide, by decide, by decide⟩

theorem notMem_body (s : Snapshot) : ∀ line ∈ body s, '\n' ∉ line := by
  unfold body
  split
  · intro line hline
    rw [List.mem_singleton.mp hline]
    exact List.not_mem_append (List.not_mem_append (by decide) (notMem_decimal _)) (by decide)
  · intro line hline
    rcases List.mem_append.mp hline with hrow | hline
    · obtain ⟨row, -, rfl⟩ := List.mem_map.mp hrow
      exact notMem_rowLine row
    · rcases List.mem_cons.mp hline with rfl | hline
      · decide
      · rw [List.mem_singleton.mp hline]
        exact notMem_totalsLine _

theorem notMem_blockedPart (hs : s.IsPresentable) : ∀ line ∈ blockedPart s, '\n' ∉ line := by
  have htitle : ∀ line ∈ [ruler '=', "  BLOCKED SOURCES:".toList, ruler '-'], '\n' ∉ line := by
    decide
  unfold blockedPart
  split
  · exact fun _ h => absurd h List.not_mem_nil
  · intro line hline
    rcases List.mem_append.mp hline with hline | hline
    · exact htitle line hline
    · obtain ⟨b, hb, rfl⟩ := List.mem_map.mp hline
      exact notMem_blockedLine (hs.reasons b hb)

/-- **No line of a frame** holds a line end. -/
theorem notMem_lines (hs : s.IsPresentable) : ∀ line ∈ lines s, '\n' ∉ line := by
  intro line hline
  rcases List.mem_append.mp hline with hline | hline
  · rcases List.mem_append.mp hline with hline | hline
    · rcases List.mem_append.mp hline with hline | hline
      · exact notMem_head hs line hline
      · exact notMem_body s line hline
    · exact notMem_blockedPart hs line hline
  · exact (by decide : ∀ line ∈ foot, '\n' ∉ line) line hline

/-! ## Rows and blocked sources -/

/-- Whether a line is that of a row: it starts with a character of an address. -/
def isRowLine (line : List Char) : Bool := line.head?.any fun c => c ≠ ' ' ∧ c ≠ '-'

theorem isRowLine_rowLine (row : Row) : isRowLine (rowLine row) = true := by
  obtain ⟨c, cs, hchars⟩ := List.exists_cons_of_ne_nil (Address.chars_ne_nil row.source)
  have hrange := (Address.toNat_of_mem_chars (hchars ▸ List.mem_cons_self : c ∈ row.source.chars)).1
  have hstart : (rowLine row).head? = some c := by
    rw [rowLine_eq, cell, hchars]
    rfl
  rw [isRowLine, hstart]
  refine decide_eq_true ⟨?_, ?_⟩ <;> rintro rfl <;> exact absurd hrange (by decide)

/-- **The lines of rows** come first in the body, and end at the remark or the rule behind them. -/
theorem takeWhile_body (s : Snapshot) (rest : List (List Char)) :
    (body s ++ rest).takeWhile isRowLine = s.rows.map rowLine := by
  have hrows : ∀ line ∈ s.rows.map rowLine, isRowLine line = true :=
    List.forall_mem_map.mpr fun row _ => isRowLine_rowLine row
  unfold body
  split
  case isTrue hempty =>
    rw [List.isEmpty_iff.mp hempty]
    rfl
  case isFalse =>
    rw [List.append_assoc, List.takeWhile_append_of_pos hrows]
    exact List.append_nil _

theorem rows_eq_of_body {rest rest' : List (List Char)} (h : body s ++ rest = body t ++ rest') :
    s.rows = t.rows := by
  have hlines : s.rows.map rowLine = t.rows.map rowLine := by
    rw [← takeWhile_body s rest, h, takeWhile_body]
  exact (List.map_inj_right fun _ _ => rowLine_injective).mp hlines

theorem blocked_eq_of_blockedPart (h : blockedPart s = blockedPart t) : s.blocked = t.blocked := by
  unfold blockedPart at h
  split at h <;> split at h
  case isTrue.isTrue hs ht => rw [List.isEmpty_iff.mp hs, List.isEmpty_iff.mp ht]
  case isTrue.isFalse => cases h
  case isFalse.isTrue => cases h
  case isFalse.isFalse =>
    exact (List.map_inj_right fun _ _ => blockedLine_injective).mp (List.append_cancel_left h)

/-! ## Whole frames -/

/-- **The lines of a frame** tell the snapshot, but for the time at which it was taken. -/
theorem shown_of_lines_eq (hs : s.IsPresentable) (ht : t.IsPresentable) (h : lines s = lines t) :
    s.windowSeconds = t.windowSeconds ∧ s.summary = t.summary ∧ s.rows = t.rows ∧
      s.totals = t.totals ∧ s.blocked = t.blocked := by
  have hlines : ∀ s : Snapshot, lines s = head s ++ (body s ++ (blockedPart s ++ foot)) := by
    intro s
    rw [lines, List.append_assoc, List.append_assoc]
  rw [hlines, hlines] at h
  -- every head has five lines
  obtain ⟨hhead, hrest⟩ := List.append_inj h rfl
  obtain ⟨hsummary, hwindow⟩ := shown_of_head_eq hhead
  have hrows : s.rows = t.rows := rows_eq_of_body hrest
  have htotals : s.totals = t.totals := by rw [hs.totals_eq, ht.totals_eq, hrows]
  -- so the bodies are the same, and what is left before the foot is the blocked part
  have hbody : body s = body t := by rw [body, body, hrows, htotals, hwindow]
  rw [hbody] at hrest
  have hblocked :=
    blocked_eq_of_blockedPart (List.append_cancel_right (List.append_cancel_left hrest))
  exact ⟨hwindow, hsummary, hrows, htotals, hblocked⟩

/-- The line of a row is found behind the head. -/
theorem getElem?_lines {i : Nat} {row : Row} (h : s.rows[i]? = some row) :
    (lines s)[5 + i]? = some (rowLine row) := by
  have hbody : ∀ rest, (body s ++ rest)[i]? = some (rowLine row) := by
    intro rest
    rw [← List.takeWhile_append_dropWhile (p := isRowLine) (l := body s ++ rest), takeWhile_body,
      List.getElem?_append_left, List.getElem?_map, h, Option.map_some]
    rw [List.length_map]
    exact (List.getElem?_eq_some_iff.mp h).1
  rw [lines, List.append_assoc, List.append_assoc, List.getElem?_append_right (Nat.le_add_right 5 i)]
  change (body s ++ (blockedPart s ++ foot))[5 + i - 5]? = _
  rw [Nat.add_sub_cancel_left, hbody]

/-- **A frame splits** into its lines, the codes that clear a screen before the first one. -/
theorem splitOn_render (clear : Bool) (hs : s.IsPresentable) :
    (render clear s).toList.splitOn '\n' =
      ((if clear then clearing else []) ++ ruler '=') :: (lines s).tail ++ [[]] := by
  have hlines : lines s = ruler '=' :: (lines s).tail := rfl
  have hchars : chars clear s =
      (((if clear then clearing else []) ++ ruler '=') :: (lines s).tail).flatMap (· ++ ['\n']) := by
    rw [chars, hlines, List.flatMap_cons, List.flatMap_cons, List.append_assoc, List.append_assoc,
      List.append_assoc]
    rfl
  have hplain : ∀ line ∈ ((if clear then clearing else []) ++ ruler '=') :: (lines s).tail,
      '\n' ∉ line := by
    refine List.forall_mem_cons.mpr ⟨?_, fun line hline => notMem_lines hs line
      (List.mem_of_mem_tail hline)⟩
    cases clear <;> decide
  rw [render, String.toList_ofList, hchars, Text.splitOn_lines hplain]

/-- **What a frame tells.** Two snapshots are shown alike exactly if they are alike, but for the time
at which they were taken. The lines of the rows follow the five lines of the head; the words of each
start with the address and the counters of its row. -/
theorem frame_exact (clear : Bool) (hs : s.IsPresentable) (ht : t.IsPresentable) :
    (render clear s = render clear t ↔ s.windowSeconds = t.windowSeconds ∧ s.summary = t.summary ∧
      s.rows = t.rows ∧ s.totals = t.totals ∧ s.blocked = t.blocked) ∧
    ∀ i row, s.rows[i]? = some row → ∃ line,
      ((render clear s).toList.splitOn '\n')[5 + i]? = some line ∧
      [row.source.chars, decimal row.packets.toNat, decimal row.bytes.toNat,
        decimal row.matching.toNat] <+: words line := by
  refine ⟨⟨fun h => ?_, ?_⟩, fun i row hrow => ⟨rowLine row, ?_, prefix_words_rowLine row⟩⟩
  · have hlines := List.append_cancel_left (String.ofList_injective h)
    exact shown_of_lines_eq hs ht
      (Text.lines_injective (notMem_lines hs) (notMem_lines ht) hlines)
  · rintro ⟨hwindow, hsummary, hrows, htotals, hblocked⟩
    have hlines : lines s = lines t := by
      rw [lines, lines, head, head, body, body, blockedPart, blockedPart, hwindow, hsummary, hrows,
        htotals, hblocked]
    rw [render, chars, hlines, render, chars]
  · -- the codes that clear a screen stand on the first line, so the others keep their numbers
    have hline := getElem?_lines hrow
    have hlength := (List.getElem?_eq_some_iff.mp hline).1
    have hindex : 5 + i = 4 + i + 1 := by omega
    rw [hindex] at hline hlength ⊢
    rw [splitOn_render clear hs, List.cons_append, List.getElem?_cons_succ,
      List.getElem?_append_left (by rw [List.length_tail]; omega), List.getElem?_tail, hline]

/-- Frames that look alike: a title that goes on like another one, a reason that goes on like the line
of a blocked source, and a row whose cells all run over. -/
theorem frame_exact_of_lookalikes :
    let row : Row := ⟨.v6 0xfd001111222233334444555566667777#128, 18446744073709551615,
      18446744073709551614, 18446744073709551613, .blocked 18446744073709551612⟩
    let s := Snapshot.make 0 30 "bytes > 1 per 5s window)" [row]
      [⟨.v4 0x0a000001#32, 7, "volume) - Unblocks in 5s (pattern"⟩]
    let t := Snapshot.make 9 30 "bytes > 1" [row]
      [⟨.v4 0x0a000001#32, 7, "volume"⟩, ⟨.v4 0x0a000001#32, 5, "pattern"⟩]
    render true s ≠ render true t ∧ ∃ line, ((render true s).toList.splitOn '\n')[5]? = some line ∧
      ["fd00:1111:2222:3333:4444:5555:6666:7777".toList, "18446744073709551615".toList,
        "18446744073709551614".toList, "18446744073709551613".toList] <+: words line := by
  intro row s t
  have hs : s.IsPresentable := ⟨⟨_, _, _, _, _, rfl⟩, by decide, by decide⟩
  have ht : t.IsPresentable := ⟨⟨_, _, _, _, _, rfl⟩, by decide, by decide⟩
  obtain ⟨hshown, hrows⟩ := frame_exact true hs ht
  have hsummary : s.summary ≠ t.summary := by decide
  have hrow : s.rows[0]? = some row := by decide +kernel
  refine ⟨fun heq => hsummary (hshown.mp heq).2.1, ?_⟩
  have hline := hrows 0 row hrow
  rwa [show row.source.chars = "fd00:1111:2222:3333:4444:5555:6666:7777".toList by decide +kernel,
    show decimal row.packets.toNat = "18446744073709551615".toList by decide +kernel,
    show decimal row.bytes.toNat = "18446744073709551614".toList by decide +kernel,
    show decimal row.matching.toNat = "18446744073709551613".toList by decide +kernel] at hline

end TableReport

end SourceGuard
