import SourceGuard.Text.Utf8

/-!
# Texts read back from their bytes

The bytes of a character are one to four, and the head of them says how many. So the bytes of a text
fall into the pieces that are its characters, and reading them strictly gives the text again.

## Main results

* `Text.Utf8.scalar_utf8EncodeChar`: a character stands at the head of its bytes
* `Text.Utf8.strict?_toUTF8`: the bytes of a text are read as the text
-/

namespace SourceGuard.Text.Utf8

/-! ## Characters -/

section Characters

variable {a b c d : UInt8} {n : Nat}

theorem isTail_of_toNat (hb : b.toNat = n % 64 + 0x80) : isTail b = true := by
  simp only [isTail, Bool.and_eq_true, decide_eq_true_eq, UInt8.le_iff_toNat_le, hb,
    UInt8.reduceToNat]
  omega

theorem scalar_one (h : n ≤ 0x7F) (ha : a.toNat = n) (rest : List UInt8) :
    scalar a rest = .char (Char.ofNat n) 1 := by
  have hlow : a < 0x80 := by
    simp only [UInt8.lt_iff_toNat_lt, ha, UInt8.reduceToNat]
    omega
  rw [scalar, if_pos hlow, ha]

theorem scalar_two (hlow : 0x7F < n) (hhigh : n ≤ 0x7FF) (ha : a.toNat = n / 64 + 0xC0)
    (hb : b.toNat = n % 64 + 0x80) (rest : List UInt8) :
    scalar a (b :: rest) = .char (Char.ofNat n) 2 := by
  have hhead : ¬ a < 0x80 ∧ ¬ a < 0xC2 ∧ a < 0xE0 := by
    simp only [UInt8.lt_iff_toNat_lt, ha, UInt8.reduceToNat]
    omega
  obtain ⟨h₁, h₂, h₃⟩ := hhead
  have hpush : push (a.toNat - 0xC0) b = n := by
    unfold push
    omega
  rw [scalar, if_neg h₁, if_neg h₂, if_pos h₃, two, if_pos (isTail_of_toNat hb), hpush]

/-- The second of three bytes is in its bounds, as the number is no surrogate. -/
theorem scalar_three (hlow : 0x7FF < n) (hhigh : n ≤ 0xFFFF) (hvalid : n < 0xD800 ∨ 0xDFFF < n)
    (ha : a.toNat = n / 4096 + 0xE0) (hb : b.toNat = n / 64 % 64 + 0x80)
    (hc : c.toNat = n % 64 + 0x80) (rest : List UInt8) :
    scalar a (b :: c :: rest) = .char (Char.ofNat n) 3 := by
  have hhead : ¬ a < 0x80 ∧ ¬ a < 0xC2 ∧ ¬ a < 0xE0 ∧ a < 0xF0 := by
    simp only [UInt8.lt_iff_toNat_lt, ha, UInt8.reduceToNat]
    omega
  obtain ⟨h₁, h₂, h₃, h₄⟩ := hhead
  have hbounds : ((if a = 0xE0 then 0xA0 else 0x80) ≤ b && b ≤ if a = 0xED then 0x9F else 0xBF) := by
    simp only [Bool.and_eq_true, decide_eq_true_eq, UInt8.le_iff_toNat_le, apply_ite UInt8.toNat,
      ← UInt8.toNat_inj, ha, hb, UInt8.reduceToNat]
    split <;> split <;> omega
  have hpush : push (push (a.toNat - 0xE0) b) c = n := by
    unfold push
    omega
  rw [scalar, if_neg h₁, if_neg h₂, if_neg h₃, if_pos h₄]
  simp only [three, if_pos hbounds, isTail_of_toNat hc, if_true, hpush]

/-- The second of four bytes is in its bounds, as the number is a code point. -/
theorem scalar_four (hlow : 0xFFFF < n) (hvalid : n < 0x110000) (ha : a.toNat = n / 262144 + 0xF0)
    (hb : b.toNat = n / 4096 % 64 + 0x80) (hc : c.toNat = n / 64 % 64 + 0x80)
    (hd : d.toNat = n % 64 + 0x80) (rest : List UInt8) :
    scalar a (b :: c :: d :: rest) = .char (Char.ofNat n) 4 := by
  have hhead : ¬ a < 0x80 ∧ ¬ a < 0xC2 ∧ ¬ a < 0xE0 ∧ ¬ a < 0xF0 ∧ a < 0xF5 := by
    simp only [UInt8.lt_iff_toNat_lt, ha, UInt8.reduceToNat]
    omega
  obtain ⟨h₁, h₂, h₃, h₄, h₅⟩ := hhead
  have hbounds : ((if a = 0xF0 then 0x90 else 0x80) ≤ b && b ≤ if a = 0xF4 then 0x8F else 0xBF) := by
    simp only [Bool.and_eq_true, decide_eq_true_eq, UInt8.le_iff_toNat_le, apply_ite UInt8.toNat,
      ← UInt8.toNat_inj, ha, hb, UInt8.reduceToNat]
    split <;> split <;> omega
  have hpush : push (push (push (a.toNat - 0xF0) b) c) d = n := by
    unfold push
    omega
  rw [scalar, if_neg h₁, if_neg h₂, if_neg h₃, if_neg h₄, if_pos h₅]
  simp only [four, if_pos hbounds, isTail_of_toNat hc, isTail_of_toNat hd, if_true, hpush]

end Characters

/-- **A character** stands at the head of its bytes, whatever follows them. -/
theorem scalar_utf8EncodeChar (c : Char) : ∃ a tail, String.utf8EncodeChar c = a :: tail ∧
    ∀ rest, scalar a (tail ++ rest) = .char c (tail.length + 1) := by
  have hvalid : c.val.toNat < 0xD800 ∨ 0xDFFF < c.val.toNat ∧ c.val.toNat < 0x110000 := c.valid
  have hc : Char.ofNat c.val.toNat = c := Char.ofNat_toNat c
  have hbyte : ∀ {m k : Nat}, m < 256 → m = k → (UInt8.ofNat m).toNat = k :=
    fun hm hk => (UInt8.toNat_ofNat_of_lt' hm).trans hk
  fun_cases String.utf8EncodeChar c with
  | case1 v hone =>
    refine ⟨_, _, rfl, fun rest => ?_⟩
    rw [List.nil_append, scalar_one hone (hbyte (by omega) rfl), hc]
    rfl
  | case2 v hone htwo =>
    refine ⟨_, _, rfl, fun rest => ?_⟩
    rw [List.singleton_append, scalar_two (by omega) htwo (hbyte (by omega) (by omega))
      (hbyte (by omega) rfl), hc]
    rfl
  | case3 v hone htwo hthree =>
    refine ⟨_, _, rfl, fun rest => ?_⟩
    rw [List.cons_append, List.singleton_append, scalar_three (by omega) hthree (by omega)
      (hbyte (by omega) (by omega)) (hbyte (by omega) rfl) (hbyte (by omega) rfl), hc]
    rfl
  | case4 v hone htwo hthree =>
    refine ⟨_, _, rfl, fun rest => ?_⟩
    rw [List.cons_append, List.cons_append, List.singleton_append, scalar_four (by omega) (by omega)
      (hbyte (by omega) (by omega)) (hbyte (by omega) rfl) (hbyte (by omega) rfl)
      (hbyte (by omega) rfl), hc]
    rfl

/-! ## Texts -/

/-- Bytes that belong to a piece already taken are passed over. -/
theorem pieces_append (taken rest : List UInt8) :
    pieces taken.length (taken ++ rest) = pieces 0 rest := by
  induction taken with
  | nil => rfl
  | cons b taken ih => exact ih

theorem pieces_utf8EncodeChar (c : Char) (rest : List UInt8) :
    ∃ length, pieces 0 (String.utf8EncodeChar c ++ rest) = .char c length :: pieces 0 rest := by
  obtain ⟨a, tail, hbytes, hscalar⟩ := scalar_utf8EncodeChar c
  refine ⟨tail.length + 1, ?_⟩
  rw [hbytes, List.cons_append, pieces, hscalar rest]
  exact congrArg _ (pieces_append tail rest)

theorem mapM_pieces (text : List Char) :
    (pieces 0 (text.flatMap String.utf8EncodeChar)).mapM Piece.char? = some text := by
  induction text with
  | nil => rfl
  | cons c text ih =>
    obtain ⟨length, hpieces⟩ := pieces_utf8EncodeChar c (text.flatMap String.utf8EncodeChar)
    rw [List.flatMap_cons, hpieces, List.mapM_cons, ih]
    rfl

/-- **The bytes of a text** are read as the text. -/
theorem strict?_toUTF8 (text : String) : strict? text.toUTF8.data.toList = some text := by
  obtain ⟨chars, rfl⟩ : ∃ chars, text = String.ofList chars :=
    ⟨text.toList, String.ofList_toList.symm⟩
  have hbytes : (String.ofList chars).toUTF8.data.toList = chars.flatMap String.utf8EncodeChar :=
    List.toList_data_toByteArray
  rw [strict?, hbytes, mapM_pieces, Option.map_some]

end SourceGuard.Text.Utf8
