import Mathlib.Data.List.Forall2
import Mathlib.Logic.Function.Basic
import SourceGuard.Config.Reader

/-!
# Settings of a document

What a document may set is described apart from its reading: where the value of a setting stands,
which values spell which contents, and what a record is then made of. A schema lists the sections
and settings of a record. A record follows from a document if every setting that is given has a
content that its value spells, and every other one has its default. A reader of a schema finds
exactly the records that follow, and finds one if every section and every given setting is
well-typed.

## Main definitions

* `Toml.Value.at?`: the value at the end of a path
* `Toml.Value.SpellsCount`, `Toml.Value.SpellsList`, `Toml.Value.SpellsChoice`: values that spell
  numbers, lists and choices
* `Setting`, `Schema`: what a document may set
* `Schema.Follows`, `Schema.WellTyped`: records that follow from a document, and well-typed
  documents
* `Schema.IsReadBy`: the readers of a schema

## Main results

* `Toml.Value.Reads.asList`, `Toml.Value.reads_asChoice`: lists and choices are read as they are
  spelled
* `Schema.isReadBy_leaf`, `Schema.isReadBy_ofParts`: readers of single settings and of sections
* `Schema.IsReadBy.exists_read`, `Schema.IsReadBy.eq_of_follows`: well-typed values are read, and
  only one record follows from a value
-/

namespace SourceGuard

open Toml (Value Table)

/-! ## Values that spell settings -/

namespace Toml.Value

variable {α : Type}

/-- Values that may stand for a section: a table, its settings in their order, or a moment, which
holds none. -/
inductive IsSection : Value → Prop
  | table (origin : Origin) (entries : Table) : IsSection (.table origin entries)
  | list (items : List Value) : IsSection (.list items)
  | tables (elements : List Table) : IsSection (.tables elements)
  | moment (spelling : String) : IsSection (.moment spelling)

/-- The value of a setting of a section by its position and its name, if it is given. -/
def child? : Value → Nat × String → Option Value
  | .table _ entries, (_, name) => Table.find name entries
  | .list items, (position, _) => items[position]?
  | .tables elements, (position, _) => elements[position]?.map (.table .headed)
  | _, _ => none

/-- The value at the end of a path through sections, if it is given. -/
def at? (v : Value) : List (Nat × String) → Option Value
  | [] => some v
  | key :: path => (v.child? key).bind (·.at? path)

/-- A whole number spells the count that is this number. -/
def SpellsCount (toNat : α → Nat) (v : Value) (n : α) : Prop := v = .integer (toNat n)

/-- A truth value spells itself. -/
def SpellsFlag (v : Value) (b : Bool) : Prop := v = .boolean b

/-- A text spells itself. -/
def SpellsText (v : Value) (s : String) : Prop := v = .text s

/-- A text spells the address that it is read as. -/
def SpellsAddress (v : Value) (a : Address) : Prop := ∃ s, v = .text s ∧ Address.ofText? s = some a

/-- A list spells the list of what its items spell, as the tables of a repeated header do. -/
inductive SpellsList (Spells : Value → α → Prop) : Value → List α → Prop
  | list {items : List Value} {as : List α} :
      List.Forall₂ Spells items as → SpellsList Spells (.list items) as
  | tables {elements : List Table} {as : List α} :
      List.Forall₂ Spells (elements.map (.table .headed)) as →
        SpellsList Spells (.tables elements) as

/-- A choice is spelled by its name, also as the only key of a table that holds nothing below it. -/
inductive SpellsChoice (name : α → String) : Value → α → Prop
  | name (a : α) : SpellsChoice name (.text (name a)) a
  | key (origin : Origin) (v : Value) (a : α) :
      v.isEmpty = true → SpellsChoice name (.table origin [(name a, v)]) a

/-- A size band is spelled by both of its bounds. -/
def SpellsBand (v : Value) (band : SizeBand) : Prop :=
  ∃ above below, v.child? (0, "above") = some above ∧ v.child? (1, "below") = some below ∧
    above.SpellsCount UInt32.toNat band.above ∧ below.SpellsCount UInt32.toNat band.below

/-- A reader finds the content that a value spells, and nothing in any other value. -/
def Reads (read : Value → Option α) (Spells : Value → α → Prop) : Prop :=
  ∀ v a, read v = some a ↔ Spells v a

theorem asCount?_natCast {bound n : Nat} (h : n < bound) : asCount? bound (.integer n) = some n := by
  have hfits : (0 : Int) ≤ n ∧ (n : Int) < bound := ⟨Int.natCast_nonneg n, Int.ofNat_lt.mpr h⟩
  rw [asCount?, if_pos hfits]
  rfl

theorem asCount?_eq_some_iff {bound n : Nat} (v : Value) :
    v.asCount? bound = some n ↔ v = .integer n ∧ n < bound := by
  constructor
  · intro h
    cases v with
    | integer i =>
      rw [asCount?, Option.ite_none_right_eq_some] at h
      obtain ⟨⟨hpos, hlt⟩, hn⟩ := h
      have hi : i.toNat = n := Option.some.inj hn
      exact ⟨congrArg integer (by omega), by omega⟩
    | _ => cases h
  · rintro ⟨rfl, hlt⟩
    exact asCount?_natCast hlt

/-- Counts are read as they are spelled if they are the numbers below the bound. -/
theorem reads_asCount {bound : Nat} {ofNat : Nat → α} {toNat : α → Nat}
    (hlt : ∀ n, toNat n < bound) (hof : ∀ n, ofNat (toNat n) = n)
    (hto : ∀ n, n < bound → toNat (ofNat n) = n) :
    Reads (fun v => (v.asCount? bound).map ofNat) (SpellsCount toNat) := by
  intro v n
  simp only [Option.map_eq_some_iff, asCount?_eq_some_iff]
  constructor
  · rintro ⟨k, ⟨rfl, hk⟩, rfl⟩
    exact congrArg (fun i : Nat => integer i) (hto k hk).symm
  · rintro rfl
    exact ⟨toNat n, ⟨rfl, hlt n⟩, hof n⟩

theorem reads_asCount64 : Reads asCount64? (SpellsCount UInt64.toNat) :=
  reads_asCount UInt64.toNat_lt (fun _ => UInt64.ofNat_toNat)
    fun _ hlt => UInt64.toNat_ofNat_of_lt' hlt

theorem reads_asCount32 : Reads asCount32? (SpellsCount UInt32.toNat) :=
  reads_asCount UInt32.toNat_lt (fun _ => UInt32.ofNat_toNat)
    fun _ hlt => UInt32.toNat_ofNat_of_lt' hlt

theorem reads_asBool : Reads asBool? SpellsFlag := by
  intro v b
  cases v <;> simp [asBool?, SpellsFlag]

theorem reads_asText : Reads asText? SpellsText := by
  intro v s
  cases v <;> simp [asText?, SpellsText]

theorem reads_asAddress : Reads asAddress? SpellsAddress := by
  intro v a
  rw [asAddress?, Option.bind_eq_some_iff]
  exact exists_congr fun s => and_congr_left fun _ => reads_asText v s

theorem Reads.mapM {read : Value → Option α} {Spells : Value → α → Prop} (h : Reads read Spells)
    (items : List Value) (as : List α) :
    items.mapM read = some as ↔ List.Forall₂ Spells items as := by
  induction items generalizing as with
  | nil => simp [eq_comm]
  | cons v items ih =>
    simp only [List.mapM_cons, Option.bind_eq_bind, Option.bind_eq_some_iff, Option.pure_def,
      Option.some.injEq, List.forall₂_cons_left_iff, h v, ih]
    constructor
    · rintro ⟨a, ha, rest, hrest, rfl⟩
      exact ⟨a, rest, ha, hrest, rfl⟩
    · rintro ⟨a, rest, ha, hrest, rfl⟩
      exact ⟨a, ha, rest, hrest, rfl⟩

/-- **Lists** are read as they are spelled if their items are. -/
theorem Reads.asList {read : Value → Option α} {Spells : Value → α → Prop} (h : Reads read Spells) :
    Reads (asList? read) (SpellsList Spells) := by
  intro v as
  constructor
  · intro has
    cases v with
    | list items => exact .list ((h.mapM items as).mp has)
    | tables elements => exact .tables ((h.mapM _ as).mp has)
    | _ => cases has
  · rintro (hitems | helements)
    · exact (h.mapM _ as).mpr hitems
    · exact (h.mapM _ as).mpr helements

/-- **Choices** are read as they are spelled if all are listed and no two have one name. -/
theorem reads_asChoice {choices : List α} {name : α → String} (hall : ∀ a, a ∈ choices)
    (hname : Function.Injective name) : Reads (asChoice? choices name) (SpellsChoice name) := by
  have hfind : ∀ s a, choices.find? (name · = s) = some a ↔ s = name a := by
    intro s a
    constructor
    · intro h
      have hs := List.find?_some h
      exact (of_decide_eq_true hs).symm
    · rintro rfl
      cases hfirst : choices.find? (name · = name a) with
      | none => exact absurd (decide_eq_true rfl) (List.find?_eq_none.mp hfirst a (hall a))
      | some b =>
        have hb := List.find?_some hfirst
        rw [hname (of_decide_eq_true hb)]
  intro v a
  rw [asChoice?, Option.bind_eq_some_iff]
  simp only [hfind]
  -- a name is a text or the only key of a table
  constructor
  · rintro ⟨s, hs, rfl⟩
    unfold asName? at hs
    split at hs
    case h_1 s =>
      cases hs
      exact .name a
    case h_2 origin key v =>
      obtain ⟨hempty, hkey⟩ := Option.ite_none_right_eq_some.mp hs
      cases hkey
      exact .key origin v a hempty
    case h_3 => cases hs
  · rintro (a | ⟨origin, v, a, hempty⟩)
    · exact ⟨name a, rfl, rfl⟩
    · exact ⟨name a, if_pos hempty, rfl⟩

theorem isSection_iff (v : Value) : v.IsSection ↔ ∃ set, Settings.ofValue? v = some set := by
  constructor
  · rintro (_ | _ | _ | _) <;> exact ⟨_, rfl⟩
  · rintro ⟨set, h⟩
    cases v with
    | table origin entries => exact .table origin entries
    | list items => exact .list items
    | tables elements => exact .tables elements
    | moment spelling => exact .moment spelling
    | _ => cases h

theorem isSection_of_child? {v w : Value} {key : Nat × String} (h : v.child? key = some w) :
    v.IsSection := by
  cases v with
  | table origin entries => exact .table origin entries
  | list items => exact .list items
  | tables elements => exact .tables elements
  | _ => cases h

/-- The settings of a section are found where they stand. -/
theorem find_eq_child? {v : Value} {set : Settings} (h : Settings.ofValue? v = some set)
    (position : Nat) (name : String) : set.find position name = v.child? (position, name) := by
  cases v with
  | table | list | moment =>
    cases h
    rfl
  | tables elements =>
    cases h
    exact List.getElem?_map
  | _ => cases h

/-- **Size bands** are read as they are spelled. -/
theorem reads_band : Reads SizeBand.ofValue? SpellsBand := by
  intro v band
  simp only [SizeBand.ofValue?, Option.bind_eq_bind, Option.bind_eq_some_iff, Settings.need,
    Option.some.injEq, reads_asCount32 _ _]
  constructor
  · rintro ⟨set, hset, x, ⟨above, habove, hx⟩, y, ⟨below, hbelow, hy⟩, rfl⟩
    rw [find_eq_child? hset] at habove hbelow
    exact ⟨above, below, habove, hbelow, hx, hy⟩
  · rintro ⟨above, below, habove, hbelow, hx, hy⟩
    obtain ⟨set, hset⟩ := v.isSection_iff.mp (isSection_of_child? habove)
    rw [← find_eq_child? hset] at habove hbelow
    exact ⟨set, hset, _, ⟨above, habove, hx⟩, _, ⟨below, hbelow, hy⟩, rfl⟩

end Toml.Value

/-! ## Schemas -/

/-- A setting of a record: the path to its value through the sections of a document, by positions
and names, the contents that values spell, and the content that a record has. -/
structure Setting (β : Type) where
  Content : Type
  path : List (Nat × String)
  Spells : Value → Content → Prop
  get : β → Content

variable {α β : Type}

namespace Setting

/-- The value that a document gives to a setting. -/
def given? (x : Setting β) (v : Option Value) : Option Value := v.bind (·.at? x.path)

/-- A setting of a record follows from a document: its content is spelled by the value that is
given, and that of the default record if none is. -/
def Follows (x : Setting β) (v : Option Value) (d c : β) : Prop :=
  match x.given? v with
  | none => x.get c = x.get d
  | some w => x.Spells w (x.get c)

/-- A setting is well-typed in a document if the value that is given spells some content. -/
def WellTyped (x : Setting β) (v : Option Value) : Prop :=
  ∀ w, x.given? v = some w → ∃ a, x.Spells w a

/-- A setting of a part of a record. -/
def below (key : Nat × String) (part : β → α) (x : Setting α) : Setting β where
  Content := x.Content
  path := key :: x.path
  Spells := x.Spells
  get c := x.get (part c)

theorem given?_below (key : Nat × String) (part : β → α) (x : Setting α) (v : Option Value) :
    (x.below key part).given? v = x.given? (v.bind (·.child? key)) := by
  cases v <;> rfl

end Setting

/-- The paths to the sections of a record, and its settings. -/
structure Schema (β : Type) where
  sections : List (List (Nat × String))
  settings : List (Setting β)

namespace Schema

/-- Whatever a document has in the place of a section may stand for one. -/
def HasSections (s : Schema β) (v : Option Value) : Prop :=
  ∀ path ∈ s.sections, ∀ w, v.bind (·.at? path) = some w → w.IsSection

/-- A record follows from a document: all of its settings do, and the sections are sections. -/
def Follows (s : Schema β) (v : Option Value) (d c : β) : Prop :=
  s.HasSections v ∧ ∀ x ∈ s.settings, x.Follows v d c

/-- A document is well-typed if its sections are sections and all settings are well-typed. -/
def WellTyped (s : Schema β) (v : Option Value) : Prop :=
  s.HasSections v ∧ ∀ x ∈ s.settings, x.WellTyped v

/-- The schema of a single setting. -/
def leaf (Spells : Value → α → Prop) : Schema α where
  sections := []
  settings := [⟨α, [], Spells, id⟩]

/-- The schema of a part of a record. -/
def below (key : Nat × String) (part : β → α) (s : Schema α) : Schema β where
  sections := s.sections.map (key :: ·)
  settings := s.settings.map (.below key part)

/-- The schema of a section with parts. -/
def ofParts (parts : List (Schema β)) : Schema β where
  sections := [] :: parts.flatMap (·.sections)
  settings := parts.flatMap (·.settings)

variable {s : Schema α} {v : Option Value} {key : Nat × String} {part : β → α}

theorem hasSections_below :
    (s.below key part).HasSections v ↔ s.HasSections (v.bind (·.child? key)) := by
  simp only [HasSections, below, List.forall_mem_map]
  cases v <;> rfl

theorem follows_below {d c : β} : (s.below key part).Follows v d c ↔
    s.Follows (v.bind (·.child? key)) (part d) (part c) := by
  rw [Follows, Follows, hasSections_below]
  simp only [below, List.forall_mem_map, Setting.Follows, Setting.given?_below]
  rfl

theorem wellTyped_below :
    (s.below key part).WellTyped v ↔ s.WellTyped (v.bind (·.child? key)) := by
  rw [WellTyped, WellTyped, hasSections_below]
  simp only [below, List.forall_mem_map, Setting.WellTyped, Setting.given?_below]
  rfl

variable {parts : List (Schema β)}

theorem hasSections_ofParts : (ofParts parts).HasSections v ↔
    (∀ w, v = some w → w.IsSection) ∧ ∀ p ∈ parts, p.HasSections v := by
  simp only [HasSections, ofParts, List.forall_mem_cons, List.forall_mem_flatMap]
  exact and_congr_left fun _ => by cases v <;> rfl

theorem follows_ofParts {d c : β} : (ofParts parts).Follows v d c ↔
    (∀ w, v = some w → w.IsSection) ∧ ∀ p ∈ parts, p.Follows v d c := by
  rw [Follows, hasSections_ofParts, and_assoc]
  simp only [Follows, ofParts, List.forall_mem_flatMap, forall₂_and]

theorem wellTyped_ofParts : (ofParts parts).WellTyped v ↔
    (∀ w, v = some w → w.IsSection) ∧ ∀ p ∈ parts, p.WellTyped v := by
  rw [WellTyped, hasSections_ofParts, and_assoc]
  simp only [WellTyped, ofParts, List.forall_mem_flatMap, forall₂_and]

/-- A part of a section follows from the value that is given to it. -/
theorem follows_within {w : Value} {d c : β} {v : Value} (hgiven : v.child? key = some w)
    (hpart : s.Follows (some w) (part d) (part c)) : (s.below key part).Follows (some v) d c := by
  rw [follows_below, Option.bind_some, hgiven]
  exact hpart

/-- A table follows if its parts do. -/
theorem follows_table {origin : Toml.Origin} {t : Table} {d c : β}
    (h : ∀ p ∈ parts, p.Follows (some (.table origin t)) d c) :
    (ofParts parts).Follows (some (.table origin t)) d c := by
  refine follows_ofParts.mpr ⟨fun w hw => ?_, h⟩
  cases hw
  exact .table origin t

theorem follows_leaf {Spells : Value → α → Prop} {v : Value} {d a : α} :
    (leaf Spells).Follows (some v) d a ↔ Spells v a := by
  simp [Follows, HasSections, leaf, Setting.Follows, Setting.given?, Value.at?]

/-- A setting follows from the value that is given to it if it spells its content. -/
theorem follows_given {Spells : Value → α → Prop} {v w : Value} {d c : β}
    (hgiven : v.child? key = some w) (hspells : Spells w (part c)) :
    ((leaf Spells).below key part).Follows (some v) d c :=
  follows_within hgiven (follows_leaf.mpr hspells)

/-! ### Readers -/

/-- Where nothing is given, the default record follows. -/
theorem follows_none (s : Schema β) (d : β) : s.Follows none d d :=
  ⟨fun _ _ _ h => (by cases h), fun _ _ => rfl⟩

/-- A reader of a schema, with the record that is taken where nothing is given: what it reads is the
record that follows from a value, some record follows from all that is well-typed, and no other one
follows from nothing. -/
structure IsReadBy (s : Schema β) (read : Value → Option β) (d : β) : Prop where
  reads : ∀ v c, read v = some c ↔ s.Follows (some v) d c
  solvable : ∀ v, s.WellTyped v → ∃ c, s.Follows v d c
  alone : ∀ c, s.Follows none d c → c = d

namespace IsReadBy

variable {s : Schema β} {read : Value → Option β} {d : β}

/-- A reader may take another record that agrees with the one that it takes. -/
theorem of_eq {d' : β} (h : s.IsReadBy read d) (hd : d = d') : s.IsReadBy read d' := hd ▸ h

/-- **What is well-typed** is read. -/
theorem exists_read (h : s.IsReadBy read d) {v : Value} (hv : s.WellTyped (some v)) :
    ∃ c, read v = some c := by
  obtain ⟨c, hc⟩ := h.solvable (some v) hv
  exact ⟨c, (h.reads v c).mpr hc⟩

/-- **No two records** follow from the same. -/
theorem eq_of_follows (h : s.IsReadBy read d) {v : Option Value} {c c' : β}
    (hc : s.Follows v d c) (hc' : s.Follows v d c') : c = c' := by
  cases v with
  | none => exact (h.alone c hc).trans (h.alone c' hc').symm
  | some v => exact Option.some.inj (((h.reads v c).mpr hc).symm.trans ((h.reads v c').mpr hc'))

theorem wellTyped_of_read (h : s.IsReadBy read d) {v : Value} {c : β} (hread : read v = some c) :
    s.WellTyped (some v) := by
  obtain ⟨hsections, hsettings⟩ := (h.reads v c).mp hread
  refine ⟨hsections, fun x hx w hw => ⟨x.get c, ?_⟩⟩
  have hfollows := hsettings x hx
  rw [Setting.Follows, hw] at hfollows
  exact hfollows

/-- **A part of a section** is read as it follows from what the section gives to it. -/
theorem get_eq_some_iff (h : s.IsReadBy read d) {v : Value} {set : Settings}
    (hset : Settings.ofValue? v = some set) (position : Nat) (name : String) (a : β) :
    set.get position name read d = some a ↔ s.Follows (v.child? (position, name)) d a := by
  rw [Settings.get, Value.find_eq_child? hset]
  cases v.child? (position, name) with
  | none =>
    -- the default is read, which is the only record that follows from nothing
    constructor
    · intro hd
      cases hd
      exact s.follows_none d
    · intro ha
      rw [h.alone a ha]
  | some w => exact h.reads w a

end IsReadBy

/-- Settings are read if their values are read as they are spelled. -/
theorem isReadBy_leaf {read : Value → Option α} {Spells : Value → α → Prop}
    (h : Toml.Value.Reads read Spells) (d : α) : (leaf Spells).IsReadBy read d where
  reads v c := (h v c).trans follows_leaf.symm
  solvable v hv := by
    cases v with
    | none => exact ⟨d, follows_none _ d⟩
    | some v =>
      obtain ⟨a, ha⟩ := hv.2 _ (List.mem_singleton.mpr rfl) v rfl
      refine ⟨a, List.forall_mem_nil _, fun x hx => ?_⟩
      cases List.mem_singleton.mp hx
      exact ha
  alone c hc := hc.2 _ (List.mem_singleton.mpr rfl)

/-- The parts of a section that are still to be read, and what is known of the record from the parts
before them: the record that is read follows in every part, some record does if all parts are
well-typed, and no two records do. -/
structure ReadsParts (known : β → Prop) (parts : List (Schema β)) (body : Settings → Option β)
    (d : β) : Prop where
  reads : ∀ v set, Settings.ofValue? v = some set →
    ∀ c, body set = some c ↔ known c ∧ ∀ p ∈ parts, p.Follows (some v) d c
  solvable : ∀ v, (∀ p ∈ parts, p.WellTyped v) → ∃ c, known c ∧ ∀ p ∈ parts, p.Follows v d c
  unique : ∀ v c c', known c → known c' → (∀ p ∈ parts, p.Follows v d c) →
    (∀ p ∈ parts, p.Follows v d c') → c = c'

namespace ReadsParts

variable {known : β → Prop} {d : β}

/-- **No part is left**, and only one record is as it is known. -/
theorem nil {c : β} (hknown : ∀ c', known c' ↔ c' = c) :
    ReadsParts known [] (fun _ => some c) d where
  reads v set _ c' := by
    rw [hknown c', Option.some.injEq, eq_comm]
    exact (and_iff_left (List.forall_mem_nil _)).symm
  solvable v _ := ⟨c, (hknown c).mpr rfl, List.forall_mem_nil _⟩
  unique v c₁ c₂ h₁ h₂ _ _ := ((hknown c₁).mp h₁).trans ((hknown c₂).mp h₂).symm

/-- **One part more** is read, and what it has is known to the parts after it. -/
theorem cons (part : β → α) {p : Schema α} {read : Value → Option α}
    (hp : p.IsReadBy read (part d)) {position : Nat} {name : String}
    {rest : α → Settings → Option β}
    (hrest : ∀ a, ReadsParts (fun c => known c ∧ part c = a) parts (rest a) d) :
    ReadsParts known (p.below (position, name) part :: parts)
      (fun set => (set.get position name read (part d)).bind fun a => rest a set) d where
  reads v set hset c := by
    rw [Option.bind_eq_some_iff, List.forall_mem_cons, follows_below, Option.bind_some]
    constructor
    · rintro ⟨a, ha, hc⟩
      obtain ⟨⟨hknown, rfl⟩, hparts⟩ := ((hrest a).reads v set hset c).mp hc
      exact ⟨hknown, (hp.get_eq_some_iff hset position name _).mp ha, hparts⟩
    · rintro ⟨hknown, ha, hparts⟩
      -- the part that was read is the one that the record has
      exact ⟨part c, (hp.get_eq_some_iff hset position name _).mpr ha,
        ((hrest _).reads v set hset c).mpr ⟨⟨hknown, rfl⟩, hparts⟩⟩
  solvable v hv := by
    rw [List.forall_mem_cons, wellTyped_below] at hv
    obtain ⟨a, ha⟩ := hp.solvable _ hv.1
    obtain ⟨c, ⟨hknown, rfl⟩, hparts⟩ := (hrest a).solvable v hv.2
    exact ⟨c, hknown, List.forall_mem_cons.mpr ⟨follows_below.mpr ha, hparts⟩⟩
  unique v c c' hc hc' h h' := by
    rw [List.forall_mem_cons, follows_below] at h h'
    have hpart : part c' = part c := hp.eq_of_follows h'.1 h.1
    exact (hrest (part c)).unique v c c' ⟨hc, rfl⟩ ⟨hc', hpart⟩ h.2 h'.2

end ReadsParts

/-- **Sections** are read if their parts are, one by one. -/
theorem isReadBy_ofParts {body : Settings → Option β} {d : β}
    (h : ReadsParts (fun _ => True) parts body d) :
    (ofParts parts).IsReadBy (fun v => (Settings.ofValue? v).bind body) d where
  reads v c := by
    rw [follows_ofParts, Option.bind_eq_some_iff]
    constructor
    · rintro ⟨set, hset, hc⟩
      refine ⟨?_, ((h.reads v set hset c).mp hc).2⟩
      intro w hw
      cases hw
      exact v.isSection_iff.mpr ⟨set, hset⟩
    · rintro ⟨hsection, hc⟩
      obtain ⟨set, hset⟩ := v.isSection_iff.mp (hsection v rfl)
      exact ⟨set, hset, (h.reads v set hset c).mpr ⟨trivial, hc⟩⟩
  solvable v hv := by
    obtain ⟨hsection, hparts⟩ := wellTyped_ofParts.mp hv
    obtain ⟨c, -, hc⟩ := h.solvable v hparts
    exact ⟨c, follows_ofParts.mpr ⟨hsection, hc⟩⟩
  alone c hc := h.unique none c d trivial trivial (follows_ofParts.mp hc).2
    fun p _ => p.follows_none d

end Schema

end SourceGuard
