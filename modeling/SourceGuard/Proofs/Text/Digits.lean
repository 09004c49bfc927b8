import SourceGuard.Text.Digits

/-!
# Numbers read back from their digits

The digits of a number are digits of its base, they spell the number, and they start with a zero
only if the number is zero. A reader that takes characters of one kind from the head of a text takes
a word of that kind whole, if no such character follows it.

## Main results

* `Text.takeWhile_word`, `Text.dropWhile_word`, `Text.word_append_inj`: a word at the head of a text
* `Text.isDigitOf_of_mem_toDigits`: what a number is written with
* `Text.numberOf_toDigits`: digits spell the number that they were made from
* `Text.head?_toDigits`: no number but zero starts with a zero
* `Text.decimal_injective`: numbers are told by their digits
-/

namespace SourceGuard.Text

/-! ## Words -/

section Word

variable {p : Char → Bool} {word rest : List Char}

theorem takeWhile_eq_nil (hrest : rest.head?.any p = false) : rest.takeWhile p = [] := by
  cases rest with
  | nil => rfl
  | cons c rest => exact List.takeWhile_cons_of_neg (by simpa using hrest)

theorem dropWhile_eq_self (hrest : rest.head?.any p = false) : rest.dropWhile p = rest := by
  cases rest with
  | nil => rfl
  | cons c rest => exact List.dropWhile_cons_of_neg (by simpa using hrest)

/-- **A word at the head of a text** is taken whole, if the text does not go on in its kind. -/
theorem takeWhile_word (hword : ∀ c ∈ word, p c = true) (hrest : rest.head?.any p = false) :
    (word ++ rest).takeWhile p = word := by
  rw [List.takeWhile_append_of_pos hword, takeWhile_eq_nil hrest, List.append_nil]

/-- What follows a word at the head of a text. -/
theorem dropWhile_word (hword : ∀ c ∈ word, p c = true) (hrest : rest.head?.any p = false) :
    (word ++ rest).dropWhile p = rest := by
  rw [List.dropWhile_append_of_pos hword, dropWhile_eq_self hrest]

/-- **A word at the head of a text** and what follows it are told by the text. -/
theorem word_append_inj {word' rest' : List Char} (hword : ∀ c ∈ word, p c = true)
    (hword' : ∀ c ∈ word', p c = true) (hrest : rest.head?.any p = false)
    (hrest' : rest'.head?.any p = false) (h : word ++ rest = word' ++ rest') :
    word = word' ∧ rest = rest' := by
  constructor
  · rw [← takeWhile_word hword hrest, h, takeWhile_word hword' hrest']
  · rw [← dropWhile_word hword hrest, h, dropWhile_word hword' hrest']

end Word

/-! ## Digits -/

theorem digitValue?_digitChar {d : Nat} (hd : d < 16) : digitValue? d.digitChar = some d := by
  revert d
  decide

theorem isDigitOf_digitChar {base d : Nat} (hd : d < base) (hbase : base ≤ 16) :
    isDigitOf base d.digitChar = true := by
  rw [isDigitOf, digitValue?_digitChar (by omega)]
  exact decide_eq_true hd

/-- A digit of a small base is a digit of a larger one. -/
theorem isDigitOf_mono {base base' : Nat} (hbase : base ≤ base') {c : Char}
    (h : isDigitOf base c = true) : isDigitOf base' c = true := by
  unfold isDigitOf at h ⊢
  cases hvalue : digitValue? c with
  | none => simp [hvalue] at h
  | some d =>
    rw [hvalue] at h
    exact decide_eq_true (Nat.lt_of_lt_of_le (of_decide_eq_true h) hbase)

/-- The digits of all bases lie between the zero and the last hexadecimal letter. -/
theorem toNat_of_isDigitOf {base : Nat} {c : Char} (h : isDigitOf base c = true) :
    0x30 ≤ c.toNat ∧ c.toNat ≤ 0x66 := by
  unfold isDigitOf digitValue? at h
  split at h
  case isTrue hdigit => exact ⟨hdigit.1, Nat.le_trans hdigit.2 (by decide)⟩
  split at h
  case isTrue hlower => exact ⟨Nat.le_trans (by decide) hlower.1, hlower.2⟩
  split at h
  case isTrue hupper =>
    exact ⟨Nat.le_trans (by decide) hupper.1, Nat.le_trans hupper.2 (by decide)⟩
  case isFalse => cases h

theorem ofDigits_concat (base d : Nat) (digits : List Nat) :
    ofDigits base (digits ++ [d]) = ofDigits base digits * base + d := by
  rw [ofDigits, List.foldl_append]
  rfl

section Base

variable {base : Nat} (hlow : 1 < base) (hhigh : base ≤ 16)

include hlow hhigh

/-- **What a number is written with**: digits of its base. -/
theorem isDigitOf_of_mem_toDigits {n : Nat} {c : Char} (h : c ∈ Nat.toDigits base n) :
    isDigitOf base c = true := by
  induction n using Nat.strongRecOn with
  | ind n ih =>
    rcases Nat.lt_or_ge n base with hn | hn
    · rw [Nat.toDigits_of_lt_base hn, List.mem_singleton] at h
      rw [h]
      exact isDigitOf_digitChar hn hhigh
    · rw [Nat.toDigits_of_base_le hlow hn, List.mem_append, List.mem_singleton] at h
      rcases h with h | rfl
      · exact ih (n / base) (Nat.div_lt_self (by omega) hlow) h
      · exact isDigitOf_digitChar (Nat.mod_lt n (by omega)) hhigh

/-- **Digits spell the number** that they were made from. -/
theorem numberOf_toDigits (n : Nat) : numberOf base (Nat.toDigits base n) = n := by
  induction n using Nat.strongRecOn with
  | ind n ih =>
    rcases Nat.lt_or_ge n base with hn | hn
    · rw [Nat.toDigits_of_lt_base hn, numberOf, List.filterMap_cons_some
        (digitValue?_digitChar (Nat.lt_of_lt_of_le hn hhigh))]
      simp [ofDigits]
    · have hmod : n % base < 16 := Nat.lt_of_lt_of_le (Nat.mod_lt n (by omega)) hhigh
      have hdiv := ih (n / base) (Nat.div_lt_self (by omega) hlow)
      rw [numberOf] at hdiv
      rw [Nat.toDigits_of_base_le hlow hn, numberOf, List.filterMap_append,
        List.filterMap_cons_some (digitValue?_digitChar hmod), List.filterMap_nil, ofDigits_concat,
        hdiv]
      exact Nat.div_add_mod' n base

/-- **No number but zero** starts with a zero. -/
theorem head?_toDigits {n : Nat} (hn : 0 < n) : (Nat.toDigits base n).head? ≠ some '0' := by
  induction n using Nat.strongRecOn with
  | ind n ih =>
    rcases Nat.lt_or_ge n base with hlt | hge
    · rw [Nat.toDigits_of_lt_base hlt, List.head?_cons]
      intro h
      have hvalue := digitValue?_digitChar (Nat.lt_of_lt_of_le hlt hhigh)
      rw [Option.some.inj h, show digitValue? '0' = some 0 from rfl] at hvalue
      exact absurd (Option.some.inj hvalue) (by omega)
    · rw [Nat.toDigits_of_base_le hlow hge, List.head?_append,
        Option.or_of_isSome (by simp)]
      exact ih (n / base) (Nat.div_lt_self (by omega) hlow)
        (Nat.div_pos hge (by omega))

end Base

theorem toDigits_zero_iff {base n : Nat} (hlow : 1 < base) (hhigh : base ≤ 16) :
    (Nat.toDigits base n).head? = some '0' ↔ Nat.toDigits base n = ['0'] := by
  constructor
  · intro h
    rcases Nat.eq_zero_or_pos n with rfl | hn
    · exact Nat.toDigits_of_lt_base (by omega)
    · exact absurd h (head?_toDigits hlow hhigh hn)
  · intro h
    rw [h, List.head?_cons]

/-! ## Decimal digits -/

theorem isDigitOf_of_mem_decimal (n : Nat) : ∀ c ∈ decimal n, isDigitOf 10 c = true :=
  fun _ hc => isDigitOf_of_mem_toDigits (by decide) (by decide) hc

/-- **Decimal digits spell the number** that they were made from. -/
theorem numberOf_decimal (n : Nat) : numberOf 10 (decimal n) = n :=
  numberOf_toDigits (by decide) (by decide) n

/-- **Numbers are told by their digits.** -/
theorem decimal_injective {m n : Nat} (h : decimal m = decimal n) : m = n := by
  rw [← numberOf_decimal m, h, numberOf_decimal]

/-- **A number at the head of a text** is told by the text, if no digit follows it. -/
theorem decimal_append_inj {m n : Nat} {rest rest' : List Char}
    (hrest : rest.head?.any (isDigitOf 10) = false) (hrest' : rest'.head?.any (isDigitOf 10) = false)
    (h : decimal m ++ rest = decimal n ++ rest') : m = n ∧ rest = rest' :=
  (word_append_inj (isDigitOf_of_mem_decimal m) (isDigitOf_of_mem_decimal n) hrest hrest' h).imp_left
    decimal_injective

/-- A character that is no digit is not among those of a number. -/
theorem notMem_decimal {c : Char} (hc : isDigitOf 10 c = false) (n : Nat) : c ∉ decimal n := by
  intro h
  rw [isDigitOf_of_mem_decimal n c h] at hc
  cases hc

/-- The digits of a number are a zero, or start with another digit. -/
theorem decimal_cases (n : Nat) : decimal n = ['0'] ∨
    ∃ c digits, decimal n = c :: digits ∧ c ≠ '0' ∧ isDigitOf 10 c = true := by
  cases hdigits : decimal n with
  | nil => exact absurd hdigits Nat.toDigits_ne_nil
  | cons c digits =>
    have hc : isDigitOf 10 c = true :=
      isDigitOf_of_mem_decimal n c (hdigits ▸ List.mem_cons_self)
    by_cases hzero : c = '0'
    · refine Or.inl ?_
      rw [← hdigits]
      refine (toDigits_zero_iff (by decide) (by decide)).mp ?_
      change (decimal n).head? = _
      rw [hdigits, hzero, List.head?_cons]
    · exact Or.inr ⟨c, digits, rfl, hzero, hc⟩

/-- The digits of a number start with one. -/
theorem exists_decimal (n : Nat) :
    ∃ c digits, decimal n = c :: digits ∧ isDigitOf 10 c = true := by
  rcases decimal_cases n with h | ⟨c, digits, h, -, hc⟩
  · exact ⟨'0', [], h, rfl⟩
  · exact ⟨c, digits, h, hc⟩

/-- A digit is none of the characters that start something else than digits. -/
theorem ne_of_isDigitOf {c d : Char} (hc : isDigitOf 10 c = true) (hd : isDigitOf 10 d = false) :
    c ≠ d := by
  rintro rfl
  rw [hc] at hd
  cases hd

theorem cons_ne_of_isDigitOf {c d : Char} (hc : isDigitOf 10 c = true)
    (hd : isDigitOf 10 d = false) (t t' : List Char) : c :: t ≠ d :: t' :=
  fun h => ne_of_isDigitOf hc hd (List.cons.inj h).1

end SourceGuard.Text
