import SourceGuard.Address.Printer
import SourceGuard.Address.Reader
import SourceGuard.Proofs.Text.Digits
import SourceGuard.Proofs.Text.Pieces

/-!
# Addresses read back from their written form

The written form of an address spells that address. Octets and groups are read back one by one: a
dot or a colon ends each of them, and two colons in a row end a run of groups, so that a reader
knows how many zero groups they stand for.

## Main definitions

* `Address.EndsRun`: what may follow a run of groups

## Main results

* `Address.octets?_dotted`: the octets of a dotted form
* `Address.groupRun_joined`: the groups of a text with colons between them
* `Address.ofText?_toText`: the written form of an address spells it
* `Address.toNat_of_mem_chars`: what an address is written with
-/

namespace SourceGuard.Address

open Text (isDigitOf decimal hexadecimal)

variable {rest : List Char}

/-! ## Octets -/

theorem digitRun_toDigits {base most n : Nat} (hlow : 1 < base) (hhigh : base ≤ 16)
    (hlength : (Nat.toDigits base n).length ≤ most)
    (hrest : rest.head?.any (isDigitOf base) = false) :
    digitRun base most (Nat.toDigits base n ++ rest) = some (Nat.toDigits base n, rest) := by
  have hdigits := fun c => Text.isDigitOf_of_mem_toDigits hlow hhigh (n := n) (c := c)
  rw [digitRun, Text.takeWhile_word hdigits hrest, Text.dropWhile_word hdigits hrest, if_neg]
  exact not_or.mpr ⟨Nat.toDigits_ne_nil, Nat.not_lt.mpr hlength⟩

theorem octet?_decimal {n : Nat} (hn : n ≤ 255) (hrest : rest.head?.any (isDigitOf 10) = false) :
    octet? (decimal n ++ rest) = some (n, rest) := by
  have hlength : (decimal n).length ≤ 3 :=
    (Nat.length_toDigits_le_iff (by decide) (by decide)).mpr (Nat.lt_of_le_of_lt hn (by decide))
  have hzero : ¬ ((decimal n).head? = some '0' ∧ decimal n ≠ ['0']) := by
    rw [decimal, Text.toDigits_zero_iff (by decide) (by decide)]
    exact fun h => h.2 h.1
  have hnumber := Text.numberOf_decimal n
  rw [octet?, decimal, digitRun_toDigits (by decide) (by decide) hlength hrest]
  change (if (decimal n).head? = some '0' ∧ decimal n ≠ ['0'] then none
    else if 255 < Text.numberOf 10 (decimal n) then none
    else some (Text.numberOf 10 (decimal n), rest)) = _
  rw [if_neg hzero, hnumber, if_neg (Nat.not_lt.mpr hn)]

theorem dotted_eq (bits : BitVec 32) {a b c d : Nat} (h : octets bits = [a, b, c, d]) :
    dotted bits = decimal a ++ '.' :: (decimal b ++ '.' :: (decimal c ++ '.' :: decimal d)) := by
  simp [dotted, h, List.intercalate, List.intersperse]

/-- **The octets of a dotted form.** -/
theorem octets?_dotted (bits : BitVec 32) (hrest : rest.head?.any (isDigitOf 10) = false) :
    octets? (dotted bits ++ rest) = some (octets bits, rest) := by
  obtain ⟨a, b, c, d, hoctets, ha, hb, hc, hd⟩ : ∃ a b c d, octets bits = [a, b, c, d] ∧
      a ≤ 255 ∧ b ≤ 255 ∧ c ≤ 255 ∧ d ≤ 255 :=
    ⟨_, _, _, _, rfl, by omega, by omega, by omega, by omega⟩
  have hdot : ∀ text : List Char, ('.' :: text).head?.any (isDigitOf 10) = false := fun _ => rfl
  rw [hoctets, dotted_eq bits hoctets]
  simp only [List.append_assoc, List.cons_append, octets?, octet?_decimal ha (hdot _),
    octet?_decimal hb (hdot _), octet?_decimal hc (hdot _), octet?_decimal hd hrest, after?,
    Option.bind_eq_bind, Option.bind_some, if_true]

/-- A dotted form that nothing follows. -/
theorem octets?_dotted_nil (bits : BitVec 32) : octets? (dotted bits) = some (octets bits, []) := by
  have h : octets? (dotted bits ++ []) = some (octets bits, []) := octets?_dotted bits rfl
  rwa [List.append_nil] at h

theorem ofOctets_octets (bits : BitVec 32) : ofOctets (octets bits) = v4 bits := by
  have hbits := bits.isLt
  have hspelled : Text.ofDigits 256 (octets bits) = bits.toNat := by
    simp only [Text.ofDigits, octets, List.foldl_cons, List.foldl_nil, Nat.shiftRight_eq_div_pow]
    omega
  rw [ofOctets, hspelled, BitVec.ofNat_toNat, BitVec.setWidth_eq]

/-! ## Groups -/

theorem group?_hexadecimal {g : Nat} (hg : g < 65536)
    (hrest : rest.head?.any (isDigitOf 16) = false) :
    group? (hexadecimal g ++ rest) = some (g, rest) := by
  have hlength : (hexadecimal g).length ≤ 4 :=
    (Nat.length_toDigits_le_iff (by decide) (by decide)).mpr hg
  have hnumber : Text.numberOf 16 (hexadecimal g) = g :=
    Text.numberOf_toDigits (by decide) (by decide) g
  rw [group?, hexadecimal, digitRun_toDigits (by decide) (by decide) hlength hrest]
  exact congrArg (fun n => some (n, rest)) hnumber

/-- What follows an octet is what follows its digits. -/
theorem rest_of_octet? {text : List Char} {n : Nat} (h : octet? text = some (n, rest)) :
    rest = text.dropWhile (isDigitOf 10) := by
  unfold octet? digitRun at h
  simp only [Option.bind_eq_bind, Option.bind_eq_some_iff, Option.ite_none_left_eq_some] at h
  obtain ⟨⟨run, after⟩, ⟨-, hrun⟩, -, -, hrest⟩ := h
  obtain ⟨-, rfl⟩ := Prod.mk.inj (Option.some.inj hrun)
  exact (Prod.mk.inj (Option.some.inj hrest)).2.symm

/-- A text whose first digits are not followed by a dot starts with no octets. -/
theorem octets?_eq_none {text : List Char}
    (h : (text.dropWhile (isDigitOf 10)).head? ≠ some '.') : octets? text = none := by
  unfold octets?
  cases hoctet : octet? text with
  | none => rfl
  | some found =>
    obtain ⟨n, after⟩ := found
    have hafter := rest_of_octet? hoctet
    have hdot : after? '.' after = none := by
      rw [hafter]
      cases hdrop : text.dropWhile (isDigitOf 10) with
      | nil => rfl
      | cons c more =>
        rw [hdrop] at h
        exact if_neg fun hc => h (congrArg some hc)
    simp only [Option.bind_eq_bind, Option.bind_some, hdot, Option.bind_none]

/-- A group is not the first octet of four, unless a dot follows it. -/
theorem octets?_hexadecimal {g : Nat} (hrest : rest.head?.any (isDigitOf 16) = false)
    (hdot : rest.head? ≠ some '.') : octets? (hexadecimal g ++ rest) = none := by
  have hdigits : ∀ c ∈ hexadecimal g, isDigitOf 16 c = true := fun _ =>
    Text.isDigitOf_of_mem_toDigits (by decide) (by decide)
  have hstop : rest.head?.any (isDigitOf 10) = false := by
    cases rest with
    | nil => rfl
    | cons c rest =>
      rw [List.head?_cons, Option.any_some] at hrest ⊢
      exact Bool.eq_false_iff.mpr fun hc =>
        Bool.eq_false_iff.mp hrest (Text.isDigitOf_mono (by decide) hc)
  apply octets?_eq_none
  rw [List.dropWhile_append]
  split
  · rw [Text.dropWhile_eq_self hstop]
    exact hdot
  · rename_i hleft
    -- what is left of the group are digits, too
    intro h
    cases hdrop : (hexadecimal g).dropWhile (isDigitOf 10) with
    | nil => exact hleft (by rw [hdrop]; rfl)
    | cons c more =>
      rw [hdrop, List.cons_append, List.head?_cons] at h
      have hmem : c ∈ hexadecimal g := (List.dropWhile_sublist _).subset (hdrop ▸ List.mem_cons_self)
      exact absurd (hdigits c hmem) (by rw [Option.some.inj h]; decide)

/-! ## Runs of groups -/

/-- What may follow a run of groups: nothing, or two colons. -/
def EndsRun (rest : List Char) : Prop := rest = [] ∨ ∃ more, rest = ':' :: ':' :: more

namespace EndsRun

theorem head?_any_eq_false (h : EndsRun rest) : rest.head?.any (isDigitOf 16) = false := by
  rcases h with rfl | ⟨more, rfl⟩ <;> rfl

theorem head?_ne_dot (h : EndsRun rest) : rest.head? ≠ some '.' := by
  rcases h with rfl | ⟨more, rfl⟩ <;> simp

end EndsRun

/-- A text that starts with a colon, or with nothing, starts with no group and no octets. -/
theorem groupRun_of_endsRun (h : EndsRun rest) (room : Nat) (first : Bool) :
    groupRun room first rest = ⟨[], false, rest⟩ := by
  cases room with
  | zero => rfl
  | succ room =>
    have hoctets : ∀ more, octets? (':' :: more) = none := fun _ => rfl
    have hgroup : ∀ more, group? (':' :: more) = none := fun _ => rfl
    rcases h with rfl | ⟨more, rfl⟩
    · cases first <;> cases room <;> rfl
    · cases first <;> cases room <;>
        simp [groupRun, after?, hoctets, hgroup]

/-- The groups after the first one, each with the colon before it. -/
def tailGroups (groups : List Nat) : List Char := groups.flatMap fun g => ':' :: hexadecimal g

theorem joined_cons (g : Nat) (groups : List Nat) :
    joined (g :: groups) = hexadecimal g ++ tailGroups groups := by
  induction groups generalizing g with
  | nil => simp [joined, tailGroups, List.intercalate]
  | cons h groups ih =>
    have hnext : joined (g :: h :: groups) = hexadecimal g ++ ':' :: joined (h :: groups) := by
      simp [joined, List.intercalate]
    rw [hnext, ih]
    rfl

/-- What follows a group in a run of groups does not go on with digits or a dot. -/
theorem tailGroups_stops (hends : EndsRun rest) (groups : List Nat) :
    (tailGroups groups ++ rest).head?.any (isDigitOf 16) = false ∧
      (tailGroups groups ++ rest).head? ≠ some '.' := by
  cases groups with
  | nil => exact ⟨hends.head?_any_eq_false, hends.head?_ne_dot⟩
  | cons g groups => exact ⟨rfl, by simp [tailGroups]⟩

/-- One group of a run, and what the run goes on with. -/
theorem groupRun_succ {room : Nat} {first : Bool} {text : List Char} {g : Nat}
    (hstart : (if first then some text else after? ':' text) = some (hexadecimal g ++ rest))
    (hg : g < 65536) (hrest : rest.head?.any (isDigitOf 16) = false)
    (hdot : rest.head? ≠ some '.') :
    groupRun (room + 1) first text =
      ⟨g :: (groupRun room false rest).groups, (groupRun room false rest).dotted,
        (groupRun room false rest).rest⟩ := by
  have hoctets := octets?_hexadecimal (g := g) hrest hdot
  have hgroup := group?_hexadecimal hg hrest
  simp only [groupRun, hstart, Option.bind_some, hoctets, hgroup, ite_self]

theorem groupRun_tailGroups (hends : EndsRun rest) {groups : List Nat}
    (hgroups : ∀ g ∈ groups, g < 65536) {room : Nat} (hroom : groups.length ≤ room) :
    groupRun room false (tailGroups groups ++ rest) = ⟨groups, false, rest⟩ := by
  induction groups generalizing room with
  | nil => exact groupRun_of_endsRun hends room false
  | cons g groups ih =>
    obtain ⟨hg, hgroups⟩ := List.forall_mem_cons.mp hgroups
    cases room with
    | zero => exact absurd hroom (Nat.not_succ_le_zero _)
    | succ room =>
      obtain ⟨hstop, hdot⟩ := tailGroups_stops hends groups
      have hstart : (if false then some (tailGroups (g :: groups) ++ rest)
          else after? ':' (tailGroups (g :: groups) ++ rest)) =
            some (hexadecimal g ++ (tailGroups groups ++ rest)) := by
        simp [tailGroups, after?]
      rw [groupRun_succ hstart hg hstop hdot, ih hgroups (Nat.le_of_succ_le_succ hroom)]

/-- **The groups of a text** with colons between them are read back. -/
theorem groupRun_joined (hends : EndsRun rest) {groups : List Nat}
    (hgroups : ∀ g ∈ groups, g < 65536) {room : Nat} (hroom : groups.length ≤ room) :
    groupRun room true (joined groups ++ rest) = ⟨groups, false, rest⟩ := by
  cases groups with
  | nil => exact groupRun_of_endsRun hends room true
  | cons g groups =>
    obtain ⟨hg, hgroups⟩ := List.forall_mem_cons.mp hgroups
    cases room with
    | zero => exact absurd hroom (Nat.not_succ_le_zero _)
    | succ room =>
      obtain ⟨hstop, hdot⟩ := tailGroups_stops hends groups
      have hstart : (if true then some (joined (g :: groups) ++ rest)
          else after? ':' (joined (g :: groups) ++ rest)) =
            some (hexadecimal g ++ (tailGroups groups ++ rest)) := by
        rw [if_pos rfl, joined_cons, List.append_assoc]
      rw [groupRun_succ hstart hg hstop hdot,
        groupRun_tailGroups hends hgroups (Nat.le_of_succ_le_succ hroom)]

/-- Groups that nothing follows. -/
theorem groupRun_joined_nil {groups : List Nat} (hgroups : ∀ g ∈ groups, g < 65536) {room : Nat}
    (hroom : groups.length ≤ room) : groupRun room true (joined groups) = ⟨groups, false, []⟩ := by
  have h : groupRun room true (joined groups ++ []) = ⟨groups, false, []⟩ :=
    groupRun_joined (Or.inl rfl) hgroups hroom
  rwa [List.append_nil] at h

/-! ## Zero groups -/

/-- The longest run of zero groups is one of zero groups. -/
theorem take_longestZeroRun (start : Nat) (groups : List Nat) :
    start ≤ (longestZeroRun start groups).1 ∧
      (groups.drop ((longestZeroRun start groups).1 - start)).take (longestZeroRun start groups).2 =
        List.replicate (longestZeroRun start groups).2 0 := by
  induction groups generalizing start with
  | nil => exact ⟨Nat.le_refl _, by simp [longestZeroRun]⟩
  | cons g groups ih =>
    obtain ⟨hstart, hzeros⟩ := ih (start + 1)
    rw [longestZeroRun]
    split
    · refine ⟨Nat.le_refl _, ?_⟩
      -- the run at the head is what a reader of zeros takes
      have htake : (g :: groups).take (zeroRun (g :: groups)) =
          (g :: groups).takeWhile (· = 0) := by
        rw [zeroRun, ← List.prefix_iff_eq_take.mp (List.takeWhile_prefix _)]
      rw [Nat.sub_self, List.drop_zero, htake, List.eq_replicate_iff]
      exact ⟨rfl, fun h hmem => of_decide_eq_true (List.all_eq_true.mp List.all_takeWhile h hmem)⟩
    · refine ⟨Nat.le_of_succ_le hstart, ?_⟩
      obtain ⟨k, hk⟩ := Nat.exists_eq_add_of_le hstart
      rw [hk] at hzeros ⊢
      rw [show start + 1 + k - (start + 1) = k by omega] at hzeros
      rw [show start + 1 + k - start = k + 1 by omega, List.drop_succ_cons]
      exact hzeros

/-! ## Whole addresses -/

theorem groups_lt {bits : BitVec 128} {g : Nat} (h : g ∈ groups bits) : g < 65536 := by
  simp only [groups, List.mem_cons, List.not_mem_nil, or_false] at h
  omega

theorem ofGroups_groups (bits : BitVec 128) : ofGroups (groups bits) = v6 bits := by
  have hbits := bits.isLt
  have hspelled : Text.ofDigits 65536 (groups bits) = bits.toNat := by
    simp only [Text.ofDigits, groups, List.foldl_cons, List.foldl_nil, Nat.shiftRight_eq_div_pow]
    omega
  rw [ofGroups, hspelled, BitVec.ofNat_toNat, BitVec.setWidth_eq]

/-- **Two runs of groups** with two colons between them are the groups and the zeros that make up
eight. -/
theorem groups?_of_runs {front back : List Nat} (hfront : ∀ g ∈ front, g < 65536)
    (hshort : front.length < 8) {text : List Char} {dotted : Bool}
    (hback : groupRun (7 - front.length) true text = ⟨back, dotted, []⟩) :
    groups? (joined front ++ ':' :: ':' :: text) =
      some (front ++ List.replicate (8 - front.length - back.length) 0 ++ back, []) := by
  have hends : EndsRun (':' :: ':' :: text) := Or.inr ⟨text, rfl⟩
  have hrun := groupRun_joined hends hfront (Nat.le_of_lt hshort)
  simp only [groups?, hrun, if_neg (Nat.ne_of_lt hshort), after?, hback, Option.bind_eq_bind,
    Option.bind_some, if_true, Bool.false_eq_true, if_false]

theorem groups?_compressed (bits : BitVec 128) :
    groups? (compressed (groups bits)) = some (groups bits, []) := by
  have hlength : (groups bits).length = 8 := rfl
  unfold compressed
  dsimp only
  split
  · rename_i hrun
    -- the run of zeros stands between the groups before it and those after it
    obtain ⟨-, hzeros⟩ := take_longestZeroRun 0 (groups bits)
    generalize longestZeroRun 0 (groups bits) = run at hrun hzeros
    obtain ⟨start, length⟩ := run
    rw [Nat.sub_zero] at hzeros
    have hsplit : (groups bits).take start ++ List.replicate length 0 ++
        (groups bits).drop (start + length) = groups bits := by
      rw [← hzeros, List.append_assoc, ← List.drop_drop, List.take_append_drop,
        List.take_append_drop]
    have hfits : start + length ≤ 8 := by
      have hcount := congrArg List.length hzeros
      rw [List.length_take, List.length_drop, List.length_replicate, hlength] at hcount
      change 1 < length at hrun
      omega
    have hfront : ∀ g ∈ (groups bits).take start, g < 65536 := fun g hg =>
      groups_lt (List.mem_of_mem_take hg)
    have hback : ∀ g ∈ (groups bits).drop (start + length), g < 65536 := fun g hg =>
      groups_lt (List.mem_of_mem_drop hg)
    have hfrontLength : ((groups bits).take start).length = start := by
      rw [List.length_take, hlength]
      omega
    have hbackLength : ((groups bits).drop (start + length)).length = 8 - (start + length) := by
      rw [List.length_drop, hlength]
    have hroom : ((groups bits).drop (start + length)).length ≤
        7 - ((groups bits).take start).length := by
      change 1 < length at hrun
      omega
    have hread := groupRun_joined_nil hback hroom
    have htext : joined ((groups bits).take start) ++ [':', ':'] ++
        joined ((groups bits).drop (start + length)) =
        joined ((groups bits).take start) ++
          ':' :: ':' :: joined ((groups bits).drop (start + length)) := by simp
    rw [htext, groups?_of_runs hfront (by change 1 < length at hrun; omega) hread, hfrontLength,
      hbackLength, show 8 - start - (8 - (start + length)) = length by omega, hsplit]
  · have hread : groupRun 8 true (joined (groups bits)) = ⟨groups bits, false, []⟩ :=
      groupRun_joined_nil (fun _ => groups_lt) (Nat.le_of_eq hlength)
    simp only [groups?, hread, hlength, if_true]

/-- The address that a mapped address ends in makes up its last two groups. -/
theorem groups_of_mapped {bits : BitVec 128} {low : BitVec 32} (h : mapped? bits = some low)
    {a b c d : Nat} (hlow : octets low = [a, b, c, d]) :
    groups bits = [0, 0, 0, 0, 0, 0xffff, a * 256 + b, c * 256 + d] := by
  obtain ⟨hhead, heq⟩ := Option.ite_none_right_eq_some.mp h
  obtain rfl := Option.some.inj heq
  have hhigh : bits.toNat >>> 16 % 65536 = a * 256 + b := by
    simp only [octets, List.cons.injEq, BitVec.toNat_ofNat, Nat.shiftRight_eq_div_pow] at hlow ⊢
    omega
  have hend : bits.toNat % 65536 = c * 256 + d := by
    simp only [octets, List.cons.injEq, BitVec.toNat_ofNat, Nat.shiftRight_eq_div_pow] at hlow ⊢
    omega
  rw [← List.take_append_drop 6 (groups bits), hhead, ← hhigh, ← hend]
  rfl

theorem groups?_mapped {bits : BitVec 128} {low : BitVec 32} (h : mapped? bits = some low) :
    groups? ("::ffff:".toList ++ dotted low) = some (groups bits, []) := by
  obtain ⟨a, b, c, d, hoctets⟩ : ∃ a b c d, octets low = [a, b, c, d] := ⟨_, _, _, _, rfl⟩
  have hdotted := octets?_dotted_nil low
  rw [hoctets] at hdotted
  have hlast : groupRun 6 false (':' :: dotted low) = ⟨[a * 256 + b, c * 256 + d], true, []⟩ := by
    simp [groupRun, after?, hdotted]
  have hback : groupRun 7 true (hexadecimal 0xffff ++ ':' :: dotted low) =
      ⟨[0xffff, a * 256 + b, c * 256 + d], true, []⟩ := by
    rw [groupRun_succ (if_pos rfl) (by decide) rfl (by simp), hlast]
  rw [groups_of_mapped h hoctets]
  -- no group stands before the two colons
  exact groups?_of_runs (fun g hg => absurd hg List.not_mem_nil) (by decide) hback

/-- A run of groups does not start with octets. -/
theorem octets?_joined (hends : EndsRun rest) (groups : List Nat) :
    octets? (joined groups ++ rest) = none := by
  cases groups with
  | nil => rcases hends with rfl | ⟨more, rfl⟩ <;> rfl
  | cons g groups =>
    obtain ⟨hstop, hdot⟩ := tailGroups_stops hends groups
    rw [joined_cons, List.append_assoc, octets?_hexadecimal hstop hdot]

theorem octets?_compressed (groups : List Nat) : octets? (compressed groups) = none := by
  unfold compressed
  dsimp only
  split
  · rw [List.append_assoc]
    exact octets?_joined (Or.inr ⟨_, rfl⟩) _
  · rw [← List.append_nil (joined groups)]
    exact octets?_joined (Or.inl rfl) groups

theorem ofChars?_of_groups? {text : List Char} {bits : BitVec 128} (hoctets : octets? text = none)
    (hgroups : groups? text = some (groups bits, [])) : ofChars? text = some (v6 bits) := by
  simp only [ofChars?, hoctets, hgroups, ofGroups_groups]

/-- **The written form of an address spells it.** -/
theorem ofText?_toText (a : Address) : ofText? a.toText = some a := by
  rw [ofText?, toText, String.toList_ofList]
  cases a with
  | v4 bits => simp only [chars, ofChars?, octets?_dotted_nil, ofOctets_octets]
  | v6 bits =>
    rw [chars]
    cases hmapped : mapped? bits with
    | some low => exact ofChars?_of_groups? rfl (groups?_mapped hmapped)
    | none => exact ofChars?_of_groups? (octets?_compressed _) (groups?_compressed bits)

/-- **Addresses that are written alike** are the same. -/
theorem toText_injective {a b : Address} (h : a.toText = b.toText) : a = b := by
  have hread := ofText?_toText a
  rw [h, ofText?_toText] at hread
  exact (Option.some.inj hread).symm

theorem chars_injective {a b : Address} (h : a.chars = b.chars) : a = b :=
  toText_injective (congrArg String.ofList h)

/-- An address is not written as nothing. -/
theorem chars_ne_nil (a : Address) : a.chars ≠ [] := by
  intro h
  have hread := ofText?_toText a
  rw [toText, h] at hread
  cases hread

/-! ## What an address is written with -/

/-- Numbers with marks between them. -/
theorem toNat_of_mem_numbers {base : Nat} (hlow : 1 < base) (hhigh : base ≤ 16) {mark c : Char}
    (hmark : 0x2E ≤ mark.toNat ∧ mark.toNat ≤ 0x66) {numbers : List Nat}
    (h : c ∈ List.intercalate [mark] (numbers.map (Nat.toDigits base))) :
    0x2E ≤ c.toNat ∧ c.toNat ≤ 0x66 := by
  rcases Text.mem_of_mem_intercalate h with hc | ⟨piece, hpiece, hc⟩
  · rw [List.mem_singleton.mp hc]
    exact hmark
  · obtain ⟨n, -, rfl⟩ := List.mem_map.mp hpiece
    exact (Text.toNat_of_isDigitOf (Text.isDigitOf_of_mem_toDigits hlow hhigh hc)).imp_left
      (Nat.le_trans (by decide))

/-- **What an address is written with**: digits, dots and colons. No white space and no dash is among
them. -/
theorem toNat_of_mem_chars {a : Address} {c : Char} (h : c ∈ a.chars) :
    0x2E ≤ c.toNat ∧ c.toNat ≤ 0x66 := by
  have hdotted : ∀ bits, c ∈ dotted bits → 0x2E ≤ c.toNat ∧ c.toNat ≤ 0x66 :=
    fun _ => toNat_of_mem_numbers (by decide) (by decide) (by decide)
  have hjoined : ∀ groups, c ∈ joined groups → 0x2E ≤ c.toNat ∧ c.toNat ≤ 0x66 :=
    fun _ => toNat_of_mem_numbers (by decide) (by decide) (by decide)
  have hmarks : ∀ {marks : List Char},
      marks.all (fun c => 0x2E ≤ c.toNat ∧ c.toNat ≤ 0x66) = true → c ∈ marks →
        0x2E ≤ c.toNat ∧ c.toNat ≤ 0x66 :=
    fun h hc => of_decide_eq_true (List.all_eq_true.mp h c hc)
  cases a with
  | v4 bits => exact hdotted bits h
  | v6 bits =>
    rw [chars] at h
    split at h
    · exact (List.mem_append.mp h).elim (hmarks (by decide)) (hdotted _)
    · unfold compressed at h
      dsimp only at h
      split at h
      · rcases List.mem_append.mp h with h | h
        · exact (List.mem_append.mp h).elim (hjoined _) (hmarks (by decide))
        · exact hjoined _ h
      · exact hjoined _ h

end SourceGuard.Address
