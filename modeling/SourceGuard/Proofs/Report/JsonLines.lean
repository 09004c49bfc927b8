import SourceGuard.Proofs.Address.RoundTrip
import SourceGuard.Proofs.Json.RoundTrip
import SourceGuard.Proofs.Text.Pieces
import SourceGuard.Report.JsonLine
import SourceGuard.Report.JsonLine.Reader

/-!
# The JSON report read back

Snapshots are reported one per line. Whatever stands in their texts, a line end is only written
behind a snapshot, since a JSON value holds no control characters; so the lines of the report are its
snapshots, in their order. A line is read as the JSON value that was written, and the value tells
every field of the snapshot.

## Main results

* `JsonReport.snapshot?_value`: the value of a snapshot tells it
* `JsonReport.report_exact`: the lines of a report tell its snapshots, one by one
-/

namespace SourceGuard

namespace Json

@[simp] theorem asWord?_number (n : UInt64) : asWord? (number n.toNat) = some n := by
  have hsize : n.toNat < UInt64.size := n.toNat_lt
  have hnatural : asNatural? (number n.toNat) = some n.toNat := rfl
  simp [asWord?, hnatural, hsize]

@[simp] theorem asNatural?_number (n : Nat) : asNatural? (number n) = some n := rfl

@[simp] theorem asNumber?_number (n : Int) : asNumber? (number n) = some n := rfl

@[simp] theorem asText?_text (s : String) : asText? (text s) = some s := rfl

@[simp] theorem asList?_list (items : List Json) : asList? (list items) = some items := rfl

end Json

namespace JsonReport

open Json (valueOf?)

/-! ## Values -/

@[simp] theorem address?_text (a : Address) : address? (.text a.toText) = some a :=
  Address.ofText?_toText a

@[simp] theorem status?_status (s : RowStatus) : status? (status s) = some s := by
  cases s <;> simp [status?, status, valueOf?]

@[simp] theorem row?_row (r : Row) : row? (row r) = some r := by
  simp [row?, row, valueOf?]

@[simp] theorem blocked?_blocked (b : BlockStatus) : blocked? (blocked b) = some b := by
  simp [blocked?, blocked, valueOf?]

@[simp] theorem totals?_totals (t : Totals) : totals? (totals t) = some t := by
  simp [totals?, totals, valueOf?]

/-- A list is read back, if each of its items is. -/
theorem mapM_map {α : Type} {read : Json → Option α} {write : α → Json}
    (h : ∀ a, read (write a) = some a) (l : List α) : (l.map write).mapM read = some l := by
  induction l with
  | nil => rfl
  | cons a l ih => simp [h, ih]

/-- **The value of a snapshot** tells it. -/
theorem snapshot?_value (s : Snapshot) : snapshot? (value s) = some s := by
  simp [snapshot?, value, valueOf?, mapM_map row?_row, mapM_map blocked?_blocked]

/-! ## Lines -/

/-- **What is written for a snapshot** is one line. -/
theorem notMem_value (s : Snapshot) : '\n' ∉ (value s).chars :=
  fun h => absurd (Json.toNat_of_mem_chars (value s) '\n' h) (by decide)

theorem notMem_values (snapshots : List Snapshot) :
    ∀ cs ∈ snapshots.map (value · |>.chars), '\n' ∉ cs :=
  List.forall_mem_map.mpr fun s _ => notMem_value s

theorem render_eq (s : Snapshot) : render s = (value s).toText ++ "\n" := String.ofList_append

theorem toList_report (snapshots : List Snapshot) :
    (String.join (snapshots.map render)).toList =
      (snapshots.map (value · |>.chars)).flatMap (· ++ ['\n']) := by
  have hrender : (fun s => (render s).toList) = fun s => (value s).chars ++ ['\n'] :=
    funext fun s => String.toList_ofList
  rw [String.toList_join, List.flatMap_map, List.flatMap_map, hrender]

/-- The lines of a report are what was written for its snapshots. -/
theorem lines_report (snapshots : List Snapshot) :
    lines (String.join (snapshots.map render)) = snapshots.map (value · |>.toText) := by
  rw [lines, toList_report, Text.splitOn_lines (notMem_values snapshots),
    List.dropLast_concat, List.map_map]
  rfl

/-- **The lines of a report** tell its snapshots, one by one. There are as many line ends as snapshots,
each of them behind one; and every line is the JSON value that was written, from which all fields of
its snapshot are read back. -/
theorem report_exact (snapshots : List Snapshot) :
    let report := String.join (snapshots.map render)
    report.toList.count '\n' = snapshots.length ∧
      (∀ s ∈ snapshots, ∃ line, render s = line ++ "\n" ∧ '\n' ∉ line.toList) ∧
      report = String.join ((lines report).map (· ++ "\n")) ∧
      (lines report).map Json.read? = snapshots.map (some ∘ value) ∧
      (lines report).map ofLine? = snapshots.map some := by
  intro report
  -- everything is said of the values that were written, one per line
  have hlines : lines report = snapshots.map (value · |>.toText) := lines_report snapshots
  refine ⟨?_, fun s _ => ⟨(value s).toText, render_eq s, ?_⟩, ?_, ?_, ?_⟩
  · rw [toList_report, Text.count_lines (notMem_values snapshots), List.length_map]
  · rw [Json.toText, String.toList_ofList]
    exact notMem_value s
  · rw [hlines, List.map_map]
    exact congrArg String.join (List.map_congr_left fun s _ => render_eq s)
  · rw [hlines, List.map_map]
    exact List.map_congr_left fun s _ => Json.read?_toText (value s)
  · rw [hlines, List.map_map]
    refine List.map_congr_left fun s _ => ?_
    rw [Function.comp_apply, ofLine?, Json.read?_toText]
    exact snapshot?_value s

end JsonReport

end SourceGuard
