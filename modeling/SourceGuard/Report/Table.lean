import SourceGuard.Address.Printer
import SourceGuard.Report.ByteSize
import SourceGuard.Snapshot

/-!
# The table report

A snapshot as a frame of text: a head with the rules, one line per row and a line of totals, the
blocked sources if there are any, and a foot. Cells are filled up with spaces and never cut.

## Main definitions

* `TableReport.lines`: the lines of a frame
* `TableReport.render`: a frame, after the codes that clear a screen if it is shown on one
-/

namespace SourceGuard.TableReport

/-- The width of a frame. -/
def width : Nat := 95

/-- A rule across the frame. -/
def ruler (mark : Char) : List Char := List.replicate width mark

/-- A text filled up with spaces on its right. -/
def cell (width : Nat) (text : List Char) : List Char :=
  text ++ List.replicate (width - text.length) ' '

/-- Cells with a space between two of them. -/
def columns (cells : List (List Char)) : List Char := List.intercalate [' '] cells

/-- The label of a status. -/
def label : RowStatus → List Char
  | .ok => "[+] OK".toList
  | .warning => "[!] WARNING".toList
  | .blocked seconds => "[-] BLOCKED (".toList ++ Text.decimal seconds ++ "s)".toList

/-- The line of titles. -/
def titles : List Char :=
  columns [cell 20 "Source IP".toList, cell 12 "Packets".toList, cell 15 "Bytes".toList,
    cell 12 "Pattern".toList, cell 12 "Formatted".toList, cell 15 "Status".toList]

/-- The line of a row. -/
def rowLine (row : Row) : List Char :=
  columns [cell 20 row.source.chars, cell 12 (Text.decimal row.packets.toNat),
    cell 15 (Text.decimal row.bytes.toNat), cell 12 (Text.decimal row.matching.toNat),
    cell 12 (ByteSize.chars row.bytes.toNat), cell 15 (label row.status)]

/-- The line of totals. -/
def totalsLine (totals : Totals) : List Char :=
  columns [cell 20 "TOTAL".toList, cell 12 (Text.decimal totals.packets.toNat),
    cell 15 (Text.decimal totals.bytes.toNat), cell 12 (Text.decimal totals.matching.toNat),
    cell 12 (ByteSize.chars totals.bytes.toNat)]

/-- The line of a blocked source. -/
def blockedLine (b : BlockStatus) : List Char :=
  "  🔒 ".toList ++ cell 20 b.source.chars ++ " - Unblocks in ".toList ++ Text.decimal b.seconds ++
    "s (".toList ++ b.reason.toList ++ [')']

/-- The head of a frame. -/
def head (s : Snapshot) : List (List Char) :=
  [ruler '=',
    "  Gatewarden (".toList ++ s.summary.toList ++ " per ".toList ++ Text.decimal s.windowSeconds ++
      "s window)".toList,
    ruler '=', titles, ruler '-']

/-- The rows and their totals, or a remark that there are none. -/
def body (s : Snapshot) : List (List Char) :=
  if s.rows.isEmpty then
    ["  No traffic detected in the last ".toList ++ Text.decimal s.windowSeconds ++
      " seconds...".toList]
  else s.rows.map rowLine ++ [ruler '-', totalsLine s.totals]

/-- The blocked sources, if there are any. -/
def blockedPart (s : Snapshot) : List (List Char) :=
  if s.blocked.isEmpty then []
  else [ruler '=', "  BLOCKED SOURCES:".toList, ruler '-'] ++ s.blocked.map blockedLine

/-- The foot of a frame. -/
def foot : List (List Char) := [ruler '=', "Press Ctrl+C to stop".toList]

/-- The lines of a frame. -/
def lines (s : Snapshot) : List (List Char) := head s ++ body s ++ blockedPart s ++ foot

/-- The codes that clear a screen with its history and move to its corner. -/
def clearing : List Char :=
  ['\x1b', '[', '2', 'J', '\x1b', '[', '3', 'J', '\x1b', '[', '1', ';', '1', 'H']

/-- A frame, as characters. -/
def chars (clear : Bool) (s : Snapshot) : List Char :=
  (if clear then clearing else []) ++ (lines s).flatMap (· ++ ['\n'])

/-- A frame. -/
def render (clear : Bool) (s : Snapshot) : String := String.ofList (chars clear s)

end SourceGuard.TableReport
