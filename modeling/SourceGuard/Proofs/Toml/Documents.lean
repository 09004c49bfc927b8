import SourceGuard.Proofs.Toml.Statements

/-!
# Documents of sections

A document grows section by section. The header of a section opens a table below one that is there,
its settings are put into the table that is open, and everything else stays as it is. So a section
whose header is new to the document adds its table, and changes nothing but the tables around it.

## Main definitions

* `Toml.entries`: the table of settings
* `Toml.Table.Leads`, `Toml.Table.setAt`: where a path leads, and another table there

## Main results

* `Toml.Table.Leads.mapAt_eq`: a change where a path leads
* `Toml.Document.foldlM_statements`: what the statements of a section add to a document
-/

namespace SourceGuard.Toml

/-! ## Tables -/

/-- The table of settings. -/
def entries (fields : List (String × Field)) : Table :=
  fields.map fun field => (field.1, field.2.value)

namespace Table

theorem put_of_find_eq_none {key : String} {t : Table} (h : t.find key = none) (v : Value) :
    t.put key v = t ++ [(key, v)] := by
  induction t with
  | nil => rfl
  | cons entry t ih =>
    obtain ⟨name, w⟩ := entry
    rw [find_cons] at h
    split at h
    · cases h
    · rename_i hname
      rw [put, if_neg hname, ih h, List.cons_append]

theorem put_of_find_eq_some {key : String} {t : Table} {v : Value} (h : t.find key = some v) :
    t.put key v = t := by
  induction t with
  | nil => cases h
  | cons entry t ih =>
    obtain ⟨name, w⟩ := entry
    rw [find_cons] at h
    rw [put]
    split at h
    · rename_i hname
      rw [if_pos hname, Option.some.inj h]
    · rename_i hname
      rw [if_neg hname, ih h]

theorem put_put (key : String) (v w : Value) (t : Table) : (t.put key v).put key w = t.put key w := by
  induction t with
  | nil => simp [put]
  | cons entry t ih =>
    obtain ⟨name, u⟩ := entry
    by_cases hname : name = key
    · simp [put, hname]
    · simp [put, hname, ih]

theorem find_append (key : String) (t t' : Table) :
    find key (t ++ t') = (t.find key).or (t'.find key) := by
  induction t with
  | nil => rfl
  | cons entry t ih =>
    obtain ⟨name, v⟩ := entry
    rw [List.cons_append, find_cons, find_cons, ih]
    split <;> rfl

/-- A path of keys leads through tables that have headers of their own. -/
inductive Leads : List String → Table → Table → Prop where
  /-- No key leads nowhere else. -/
  | here (t : Table) : Leads [] t t
  /-- A key leads to its table, and the others lead on from there. -/
  | further {key : String} {path : List String} {t next u : Table} :
      t.find key = some (.table .headed next) → Leads path next u → Leads (key :: path) t u

/-- A table with another table where a path leads. -/
def setAt : List String → Table → Table → Table
  | [], u, _ => u
  | key :: path, u, t =>
    match t.find key with
    | some (.table _ next) => t.put key (.table .headed (setAt path u next))
    | _ => t

namespace Leads

variable {path : List String} {t u : Table}

/-- **A change where a path leads** puts another table there. -/
theorem mapAt_eq (h : Leads path t u) (f : Table → Option Table) :
    t.mapAt f path = (f u).map fun v => setAt path v t := by
  induction h with
  | here t =>
    rw [mapAt]
    cases f t <;> rfl
  | further hfind _ ih =>
    simp only [mapAt, hfind, ih, Option.map_map, setAt]
    rfl

/-- The path leads to the table that was put there. -/
theorem setAt (h : Leads path t u) (v : Table) : Leads path (setAt path v t) v := by
  induction h with
  | here => exact .here v
  | further hfind _ ih =>
    refine .further ?_ ih
    rw [Table.setAt, hfind, find_put, if_pos rfl]

theorem setAt_setAt (h : Leads path t u) (v w : Table) :
    Table.setAt path w (Table.setAt path v t) = Table.setAt path w t := by
  induction h with
  | here => rfl
  | @further key path t next u hfind _ ih =>
    have hput : (Table.setAt (key :: path) v t).find key =
        some (.table .headed (Table.setAt path v next)) := by
      rw [Table.setAt, hfind, find_put, if_pos rfl]
    rw [Table.setAt, hput]
    simp only [Table.setAt, hfind, ih, put_put]

theorem setAt_self (h : Leads path t u) : Table.setAt path u t = t := by
  induction h with
  | here => rfl
  | further hfind _ ih =>
    rw [Table.setAt, hfind]
    simp only [ih, put_of_find_eq_some hfind]

/-- A path that leads to a table, and a key of that table, lead to the table of the key. -/
theorem concat (h : Leads path t u) {key : String} {next : Table}
    (hfind : u.find key = some (.table .headed next)) : Leads (path ++ [key]) t next := by
  induction h with
  | here => exact .further hfind (.here next)
  | further hkey _ ih => exact .further hkey (ih hfind)

theorem setAt_concat (h : Leads path t u) {key : String} {next : Table}
    (hfind : u.find key = some (.table .headed next)) (v : Table) :
    Table.setAt (path ++ [key]) v t = Table.setAt path (u.put key (.table .headed v)) t := by
  induction h with
  | here t => simp only [List.nil_append, Table.setAt, hfind]
  | further hkey _ ih =>
    rw [List.cons_append, Table.setAt, hkey]
    simp only [Table.setAt, hkey, ih hfind]

end Leads

end Table

/-! ## Documents -/

namespace Document

open Table (Leads setAt)

variable {d : Document} {t : Table}

/-- **Settings** are added to the table that is open, if they are new to it. -/
theorem foldlM_assign (h : Leads d.current d.root t) {fields : List (String × Field)}
    (hnew : ∀ field ∈ fields, t.find field.1 = none) (hdistinct : (fields.map (·.1)).Nodup) :
    (fields.map fun field => Statement.assign [field.1] field.2.value).foldlM add d =
      some { d with
        root := setAt d.current (t ++ entries fields) d.root } := by
  induction fields generalizing d t with
  | nil =>
    rw [List.map_nil, entries, List.map_nil, List.append_nil, h.setAt_self]
    rfl
  | cons field fields ih =>
    -- the first setting is put at the end of the table, and the others are new to what it leaves
    obtain ⟨hhead, htail⟩ := List.nodup_cons.mp hdistinct
    let t' := t ++ [(field.1, field.2.value)]
    let d' : Document := { d with root := setAt d.current t' d.root }
    have hassign : Table.assign false [field.1] field.2.value t = some t' := by
      have hfind := hnew field List.mem_cons_self
      simp only [Table.assign, Table.add, hfind, Table.put_of_find_eq_none hfind]
      rfl
    have hadd : d.add (.assign [field.1] field.2.value) = some d' := by
      simp only [add, h.mapAt_eq, hassign, Option.map_some, Option.bind_eq_bind, Option.bind_some]
      rfl
    have hnew' : ∀ f ∈ fields, t'.find f.1 = none := by
      intro f hf
      have hne : field.1 ≠ f.1 := by
        intro hne
        exact hhead (List.mem_map.mpr ⟨f, hf, hne.symm⟩)
      rw [Table.find_append, hnew f (List.mem_cons_of_mem field hf), Table.find_cons, if_neg hne]
      rfl
    have hlater := ih (d := d') (h.setAt t') hnew' htail
    rw [List.map_cons, List.foldlM_cons, hadd, Option.bind_eq_bind, Option.bind_some, hlater,
      h.setAt_setAt, List.append_assoc]
    rfl

/-- **A section** whose header is new to a document adds its table below the table that the header
names. -/
theorem foldlM_statements {s : Section} {parent : List String} {key : String}
    (hpath : s.path = parent ++ [key]) (h : Leads parent d.root t) (hnew : t.find key = none)
    (hdistinct : (s.fields.map (·.1)).Nodup) :
    s.statements.foldlM add d =
      some ⟨setAt parent (t ++ [(key, .table .headed (entries s.fields))]) d.root, s.path⟩ := by
  let t' := t.put key (.table .headed [])
  let d' : Document := ⟨setAt parent t' d.root, s.path⟩
  have hfind : t'.find key = some (.table .headed []) := by rw [Table.find_put, if_pos rfl]
  -- the header puts an empty table under the key, and the settings are added to that
  have hopen : d.add (.table s.path) = some d' := by
    have htable : Table.openTable key t = some t' := by rw [Table.openTable, hnew]
    simp only [add, head, hpath, List.getLast?_concat, List.dropLast_concat, h.mapAt_eq, htable,
      Option.map_some, Option.bind_eq_bind, Option.bind_some]
    rw [← hpath]
  have hleads : Leads d'.current d'.root [] := by
    change Leads s.path (setAt parent t' d.root) []
    rw [hpath]
    exact (h.setAt t').concat hfind
  have hfields := foldlM_assign hleads (fun _ _ => rfl) hdistinct
  have hroot : setAt s.path (entries s.fields) (setAt parent t' d.root) =
      setAt parent (t ++ [(key, .table .headed (entries s.fields))]) d.root := by
    rw [hpath, (h.setAt t').setAt_concat hfind, h.setAt_setAt, Table.put_put,
      Table.put_of_find_eq_none hnew]
  rw [Section.statements, List.foldlM_cons, hopen, Option.bind_eq_bind, Option.bind_some, hfields]
  exact congrArg (fun root => some (Document.mk root s.path)) hroot

/-- A section whose header is new to a document, and then other sections. -/
theorem foldlM_cons (parent : List String) (key : String) {s : Section} {later : List Section}
    (hpath : s.path = parent ++ [key]) (h : Leads parent d.root t) (hnew : t.find key = none)
    (hdistinct : (s.fields.map (·.1)).Nodup) :
    ((s :: later).flatMap Section.statements).foldlM add d =
      (later.flatMap Section.statements).foldlM add
        ⟨setAt parent (t ++ [(key, .table .headed (entries s.fields))]) d.root, s.path⟩ := by
  rw [List.flatMap_cons, List.foldlM_append, foldlM_statements hpath h hnew hdistinct]
  rfl

end Document

end SourceGuard.Toml
