import SourceGuard.Files.Tree
import SourceGuard.Proofs.Text.Utf8

/-!
# What is written is read

A file system keeps what is written if the text of a file that was written is read back from it. The
file systems of trees do: a file is put where no folder is, so all folders stay, and the path leads
where it led before.

## Main definitions

* `FileSystem.Keeps`: file systems that keep what is written
* `FileTree.HasFolder`: places of a tree at which a folder is

## Main results

* `FileTree.exists_put_of_update`: what changing a file does to the tree
* `FileTree.locate_put`: a path leads where it led before
* `FileTree.keeps_system`: the file system of a tree keeps what is written
-/

namespace SourceGuard

/-- A file system with a state keeps what is written: after a text was written to a file, the file
has this text. -/
def FileSystem.Keeps {σ : Type} (fs : FileSystem (StateM σ)) : Prop :=
  ∀ path text s s', (fs.write path text).run s = (.ok (), s') →
    ((fs.read path).run s').1 = .ok text

namespace FileTree

variable {top next tree : FileTree} {name other : String} {place q : List String}

/-! ## Parts and places -/

@[simp] theorem part?_setPart_self (top : FileTree) (name : String) (tree : FileTree) :
    (top.setPart name tree).part? name = some tree := by
  cases top with
  | file bytes => simp [setPart, part?]
  | folder parts =>
    have hnone : (parts.filter (·.1 ≠ name)).find? (·.1 = name) = none := by
      refine List.find?_eq_none.mpr fun part hpart => ?_
      simpa using (List.mem_filter.mp hpart).2
    rw [setPart, part?, List.find?_append, hnone]
    simp

theorem part?_setPart_of_ne (h : other ≠ name) (top tree : FileTree) :
    (top.setPart name tree).part? other = top.part? other := by
  cases top with
  | file bytes => simp [setPart, part?, h.symm]
  | folder parts =>
    have hkept : (parts.filter (·.1 ≠ name)).find? (·.1 = other) = parts.find? (·.1 = other) := by
      rw [List.find?_filter]
      congr 1
      funext part
      by_cases hpart : part.1 = other <;> simp [hpart, h]
    rw [setPart, part?, List.find?_append, hkept]
    simp [part?, h.symm]

/-- Going on from a place is going on in the tree that is there. -/
theorem find_append (top : FileTree) (place q : List String) :
    top.find (place ++ q) = (top.find place).bind (find q) := by
  induction place generalizing top with
  | nil => rfl
  | cons name place ih =>
    rw [List.cons_append, find, find]
    cases top.part? name with
    | none => rfl
    | some tree => exact ih tree

/-- What was put at a place is there. -/
theorem find_put_self (top : FileTree) (place : List String) (tree : FileTree) :
    (top.put place tree).find place = some tree := by
  induction place generalizing top with
  | nil => rfl
  | cons name place ih =>
    rw [put, find, part?_setPart_self, Option.bind_some]
    exact ih _

/-! ## Folders -/

/-- A folder is at a place. -/
def HasFolder (top : FileTree) (place : List String) : Prop :=
  ∃ parts, top.find place = some (folder parts)

/-- **Folders stay** where they are if nothing is put above them. -/
theorem HasFolder.put (h : top.HasFolder q) (hq : ¬ place <+: q) (tree : FileTree) :
    (top.put place tree).HasFolder q := by
  induction place generalizing top q with
  | nil => exact absurd q.nil_prefix hq
  | cons name place ih =>
    obtain ⟨parts, hfind⟩ := h
    cases q with
    | nil =>
      cases hfind
      exact ⟨_, rfl⟩
    | cons other q =>
      rw [find, Option.bind_eq_some_iff] at hfind
      obtain ⟨part, hpart, hfind⟩ := hfind
      rw [FileTree.put, HasFolder, find]
      by_cases heq : other = name
      case pos =>
        subst heq
        rw [part?_setPart_self, hpart]
        exact ih ⟨parts, hfind⟩ fun hprefix => hq (List.cons_prefix_cons.mpr ⟨rfl, hprefix⟩)
      case neg =>
        rw [part?_setPart_of_ne heq, hpart]
        exact ⟨parts, hfind⟩

/-- No folder is at or below a place at which none is. -/
theorem HasFolder.not_prefix (h : top.HasFolder q) (hplace : ¬ top.HasFolder place) :
    ¬ place <+: q := by
  rintro ⟨rest, rfl⟩
  obtain ⟨parts, hfind⟩ := h
  rw [find_append, Option.bind_eq_some_iff] at hfind
  obtain ⟨tree, htree, hfind⟩ := hfind
  cases tree with
  | folder parts' => exact hplace ⟨parts', htree⟩
  | file bytes =>
    -- nothing is below a file
    cases rest <;> cases hfind

/-! ## Paths -/

/-- **A walk** that came to its end does so in any tree that has the same folders and more. -/
theorem walk_of_hasFolder (hfolders : ∀ q, top.HasFolder q → next.HasFolder q)
    {parts : List String} (h : walk top q parts = .ok place) : walk next q parts = .ok place := by
  induction parts generalizing q with
  | nil => exact h
  | cons part parts ih =>
    rw [walk] at h ⊢
    cases htop : top.find q with
    | none => simp [htop] at h
    | some tree =>
      cases tree with
      | file bytes => simp [htop] at h
      | folder folders =>
        obtain ⟨folders', hnext⟩ := hfolders q ⟨folders, htop⟩
        simp only [htop] at h
        simp only [hnext]
        by_cases hidle : part = "" ∨ part = "."
        · rw [if_pos hidle] at h ⊢
          exact ih h
        by_cases hup : part = ".."
        · rw [if_neg hidle, if_pos hup] at h ⊢
          exact ih h
        by_cases hlong : longestName < part.utf8ByteSize
        · simp [hidle, hup, hlong] at h
        · rw [if_neg hidle, if_neg hup, if_neg hlong] at h ⊢
          exact ih h

/-- **A path** leads where it led before something was put at a place without a folder. -/
theorem locate_put {current : List String} {path : String} {at' : List String}
    (hplace : ¬ top.HasFolder place) (h : top.locate current path = .ok at') (tree : FileTree) :
    (top.put place tree).locate current path = .ok at' := by
  rw [locate] at h ⊢
  cases hfault : pathFault? path with
  | some fault => simp [hfault] at h
  | none =>
    simp only [hfault] at h
    exact walk_of_hasFolder (fun q hq => hq.put (hq.not_prefix hplace) tree) h

/-! ## Files -/

variable {current : List String} {path : String}

theorem bind_eq_ok {α β : Type} {x : Except FileFault α} {f : α → Except FileFault β} {b : β}
    (h : x >>= f = .ok b) : ∃ a, x = .ok a ∧ f a = .ok b := by
  cases x with
  | error fault => cases h
  | ok a => exact ⟨a, rfl, h⟩

/-- **Changing a file** puts a file at the place of its path, at which no folder is; its content is
made of the one of the file that is there, or of nothing. -/
theorem exists_put_of_update {f : List UInt8 → List UInt8}
    (h : top.update current path f = .ok next) :
    ∃ place bytes, top.locate current path = .ok place ∧
      (top.find place = some (file bytes) ∨ top.find place = none ∧ bytes = []) ∧
      next = top.put place (file (f bytes)) := by
  rw [update] at h
  split at h
  case h_1 => cases h
  case h_2 =>
    obtain ⟨holder, -, h⟩ := bind_eq_ok h
    split at h
    case h_1 => cases h
    case h_2 =>
      by_cases hname : endsInName path = true
      case neg => simp [hname] at h
      case pos =>
        simp only [hname, Bool.not_true, Bool.false_eq_true, if_false] at h
        obtain ⟨place, hplace, h⟩ := bind_eq_ok h
        split at h
        case h_1 => cases h
        case h_2 bytes hfile =>
          cases h
          exact ⟨place, bytes, hplace, .inl hfile, rfl⟩
        case h_3 hnone =>
          cases h
          exact ⟨place, [], hplace, .inr ⟨hnone, rfl⟩, rfl⟩

/-- A file that was changed has the content that was made for it. -/
theorem resolve_of_update {f : List UInt8 → List UInt8}
    (h : top.update current path f = .ok next) :
    ∃ bytes, next.resolve current path = .ok (file (f bytes)) := by
  obtain ⟨place, bytes, hplace, hbefore, rfl⟩ := exists_put_of_update h
  have hfolder : ¬ top.HasFolder place := by
    rintro ⟨parts, hfind⟩
    rcases hbefore with hfile | ⟨hnone, -⟩
    · cases hfile.symm.trans hfind
    · cases hnone.symm.trans hfind
  refine ⟨bytes, ?_⟩
  rw [resolve, locate_put hfolder hplace]
  show at? _ place = _
  rw [at?, find_put_self]

/-- **The file system of a tree** keeps what is written. -/
theorem keeps_system (current : List String) : (system current).Keeps := by
  intro path text top next h
  have hupdate : top.update current path (fun _ => bytesOf text) = .ok next := by
    change attempt (·.update current path fun _ => bytesOf text) top = _ at h
    rw [attempt] at h
    split at h
    case h_1 next' hnext =>
      cases h
      exact hnext
    case h_2 => cases h
  obtain ⟨-, hfile⟩ := resolve_of_update hupdate
  show next.read current path = .ok text
  rw [read, hfile]
  -- the bytes of the file are those of the text
  simp only [bind, Except.bind, bytesOf, Text.Utf8.strict?_toUTF8]

end FileTree

end SourceGuard
