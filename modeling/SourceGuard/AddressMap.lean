import SourceGuard.Address

/-!
# Maps from addresses

A finite map from addresses, its entries in strictly ascending order of address. Two maps with the
same entries are equal, whatever the order of the insertions.

## Main definitions

* `AddressMap α`: the map, carrying the order of its entries
* `AddressMap.get?`, `AddressMap.insert`, `AddressMap.erase`, `AddressMap.filter`

## Main results

* `AddressMap.get?_insert`, `AddressMap.get?_filter`: what a look-up finds after an operation
* `AddressMap.mem_insert`, `AddressMap.mem_erase`: the entries after an operation
* `AddressMap.ext_get?`: a map is what look-ups find in it
-/

namespace SourceGuard

/-- A finite map from addresses, by ascending address. -/
structure AddressMap (α : Type) where
  /-- The entries, by ascending address. -/
  entries : List (Address × α) := []
  /-- The addresses of the entries ascend strictly. -/
  ascending : entries.Pairwise (fun a b => a.1 < b.1) := by exact List.Pairwise.nil

namespace AddressMap

variable {α : Type}

/-! ## Entries in ascending order -/

/-- A list of entries with one entry put in its place, instead of an entry for the same address. -/
def put (source : Address) (value : α) : List (Address × α) → List (Address × α)
  | [] => [(source, value)]
  | entry :: rest =>
    if source < entry.1 then (source, value) :: entry :: rest
    else if source = entry.1 then (source, value) :: rest
    else entry :: put source value rest

theorem mem_of_mem_put {source : Address} {value : α} {e : Address × α} :
    {l : List (Address × α)} → e ∈ put source value l → e = (source, value) ∨ e ∈ l
  | [], h => by simpa [put] using h
  | entry :: rest, h => by
    unfold put at h
    split at h
    · simpa using h
    · split at h
      · rcases List.mem_cons.mp h with h | h
        · exact Or.inl h
        · exact Or.inr (List.mem_cons_of_mem _ h)
      · rcases List.mem_cons.mp h with h | h
        · exact Or.inr (h ▸ List.mem_cons_self)
        · rcases mem_of_mem_put h with h | h
          · exact Or.inl h
          · exact Or.inr (List.mem_cons_of_mem _ h)

/-- The value of the first entry for an address. -/
def find (source : Address) : List (Address × α) → Option α
  | [] => none
  | entry :: rest => if source = entry.1 then some entry.2 else find source rest

/-- Putting an entry keeps the order. -/
theorem put_ascending (source : Address) (value : α) :
    {l : List (Address × α)} → l.Pairwise (fun a b => a.1 < b.1) →
      (put source value l).Pairwise (fun a b => a.1 < b.1)
  | [], _ => by simp [put]
  | entry :: rest, h => by
    obtain ⟨hhead, htail⟩ := List.pairwise_cons.mp h
    unfold put
    split
    · rename_i hlt
      refine List.pairwise_cons.mpr ⟨fun e he => ?_, h⟩
      rcases List.mem_cons.mp he with rfl | he
      · exact hlt
      · exact Address.lt_trans hlt (hhead e he)
    · split
      · rename_i heq
        exact List.pairwise_cons.mpr ⟨fun e he => heq ▸ hhead e he, htail⟩
      · rename_i hlt hne
        refine List.pairwise_cons.mpr ⟨fun e he => ?_, put_ascending source value htail⟩
        rcases mem_of_mem_put he with rfl | he
        · exact Address.lt_of_not_lt_of_ne hlt hne
        · exact hhead e he

/-! ## The map -/

/-- The map without entries. -/
def empty : AddressMap α := {}

instance : Inhabited (AddressMap α) := ⟨empty⟩

theorem ext_entries {m n : AddressMap α} (h : m.entries = n.entries) : m = n := by
  cases m
  cases n
  simp_all

/-- The value at an address. -/
def get? (m : AddressMap α) (source : Address) : Option α := find source m.entries

/-- Whether an address has an entry. -/
def contains (m : AddressMap α) (source : Address) : Bool := (m.get? source).isSome

/-- The number of entries. -/
def size (m : AddressMap α) : Nat := m.entries.length

/-- Whether the map has no entries. -/
def isEmpty (m : AddressMap α) : Bool := m.entries.isEmpty

/-- The addresses of the map, ascending. -/
def sources (m : AddressMap α) : List Address := m.entries.map (·.1)

/-- The map with an entry for an address, instead of the one it had. -/
def insert (m : AddressMap α) (source : Address) (value : α) : AddressMap α where
  entries := put source value m.entries
  ascending := put_ascending source value m.ascending

/-- The entries that pass a test. -/
def filter (m : AddressMap α) (keep : Address × α → Bool) : AddressMap α where
  entries := m.entries.filter keep
  ascending := m.ascending.filter keep

/-- The map without an entry for an address. -/
def erase (m : AddressMap α) (source : Address) : AddressMap α := m.filter (·.1 ≠ source)

@[simp] theorem entries_empty : (empty : AddressMap α).entries = [] := rfl

@[simp] theorem entries_insert (m : AddressMap α) (source : Address) (value : α) :
    (m.insert source value).entries = put source value m.entries := rfl

@[simp] theorem entries_filter (m : AddressMap α) (keep : Address × α → Bool) :
    (m.filter keep).entries = m.entries.filter keep := rfl

@[simp] theorem entries_erase (m : AddressMap α) (source : Address) :
    (m.erase source).entries = m.entries.filter (·.1 ≠ source) := rfl

/-! ### Look-up -/

@[simp] theorem find_nil (source : Address) : find source ([] : List (Address × α)) = none := rfl

theorem find_cons (source : Address) (entry : Address × α) (rest : List (Address × α)) :
    find source (entry :: rest) = if source = entry.1 then some entry.2 else find source rest := rfl

theorem find_put (source other : Address) (value : α) :
    (l : List (Address × α)) →
      find other (put source value l) = if other = source then some value else find other l
  | [] => by simp [put, find_cons]
  | entry :: rest => by
    have ih := find_put source other value rest
    unfold put
    split
    · simp [find_cons]
    · split
      · rename_i heq
        by_cases h : other = source <;> simp_all [find_cons]
      · by_cases h : other = entry.1
        · subst h
          simp_all [find_cons, eq_comm]
        · simp [find_cons, h, ih]

/-- **What a look-up finds after an insertion.** -/
theorem get?_insert (m : AddressMap α) (source other : Address) (value : α) :
    (m.insert source value).get? other = if other = source then some value else m.get? other :=
  find_put source other value m.entries

theorem find_eq_some_iff {source : Address} {value : α} :
    {l : List (Address × α)} → l.Pairwise (fun a b => a.1 < b.1) →
      (find source l = some value ↔ (source, value) ∈ l)
  | [], _ => by simp
  | (s, v) :: rest, hp => by
    obtain ⟨hhead, htail⟩ := List.pairwise_cons.mp hp
    have ih : find source rest = some value ↔ (source, value) ∈ rest := find_eq_some_iff htail
    by_cases h : source = s
    · subst h
      have hnot : (source, value) ∉ rest := fun hm =>
        Address.lt_irrefl source (hhead (source, value) hm)
      simp [find_cons, hnot, eq_comm]
    · simp [find_cons, h, ih]

/-- A look-up finds exactly the entries of the map. -/
theorem get?_eq_some_iff (m : AddressMap α) {source : Address} {value : α} :
    m.get? source = some value ↔ (source, value) ∈ m.entries :=
  find_eq_some_iff m.ascending

/-- **A map is what look-ups find in it.** -/
theorem ext_get? {m n : AddressMap α} (h : ∀ source, m.get? source = n.get? source) : m = n := by
  have hnodup : ∀ k : AddressMap α, k.entries.Nodup := fun k =>
    k.ascending.imp fun hlt heq => Address.ne_of_lt hlt (congrArg Prod.fst heq)
  have hperm : m.entries.Perm n.entries := by
    rw [List.perm_ext_iff_of_nodup (hnodup m) (hnodup n)]
    rintro ⟨source, value⟩
    rw [← get?_eq_some_iff, ← get?_eq_some_iff, h]
  -- both lists ascend strictly, so they hold the same entries in the same order
  refine ext_entries (hperm.eq_of_pairwise (fun a b _ _ hab hba => ?_) m.ascending n.ascending)
  exact absurd (Address.lt_trans hab hba) (Address.lt_irrefl a.1)

/-- The entries after an insertion. -/
theorem mem_insert (m : AddressMap α) (source : Address) (value : α) (e : Address × α) :
    e ∈ (m.insert source value).entries ↔
      e = (source, value) ∨ e.1 ≠ source ∧ e ∈ m.entries := by
  obtain ⟨other, v⟩ := e
  rw [← get?_eq_some_iff, get?_insert, ← get?_eq_some_iff]
  by_cases h : other = source
  · simp [h, eq_comm]
  · simp [h]

/-- The entries after a removal. -/
theorem mem_erase (m : AddressMap α) (source : Address) (e : Address × α) :
    e ∈ (m.erase source).entries ↔ e.1 ≠ source ∧ e ∈ m.entries := by
  simp [and_comm]

theorem get?_empty (source : Address) : (empty : AddressMap α).get? source = none := rfl

/-- **What a look-up finds after a filtering.** -/
theorem get?_filter (m : AddressMap α) (keep : Address × α → Bool) (source : Address) :
    (m.filter keep).get? source = (m.get? source).filter fun value => keep (source, value) := by
  apply Option.ext
  intro value
  simp [get?_eq_some_iff, Option.filter_eq_some_iff]

/-- The addresses of a map are those at which a look-up finds something. -/
theorem mem_sources (m : AddressMap α) (source : Address) :
    source ∈ m.sources ↔ m.contains source = true := by
  simp [sources, contains, Option.isSome_iff_exists, get?_eq_some_iff]

/-- The addresses of a map ascend strictly. -/
theorem sources_ascending (m : AddressMap α) : m.sources.Pairwise (· < ·) :=
  List.pairwise_map.mpr m.ascending

end AddressMap

end SourceGuard
