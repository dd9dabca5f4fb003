import BlockScan.Json.Scalar
import Mathlib.Algebra.Group.Nat.Defs

/-!
# Words and whole numbers

A number reaches as far as its characters go, so it is read back only in front of a character that
could not go on with it. The characters that stand behind a value never do. The limit on the digits
of an integer is a limit on its size (`Decimal.isLong_iff`).
-/

set_option autoImplicit false

namespace BlockScan

namespace Decimal

/-- A number is written with a digit in front, and that digit is a zero only when it stands
alone. -/
theorem exists_digits (n : Nat) :
    ∃ d ds, digits n = d :: ds ∧ isDigit d = true ∧ (d = '0' → ds = []) := by
  induction n using Nat.strongRecOn with
  | _ n ih =>
    by_cases hn : n < 10
    · refine ⟨digit n, [], ?_, isDigit_digit n, fun _ => rfl⟩
      rw [digits, if_pos hn]
    · obtain ⟨d, ds, hds, hd, hzero⟩ := ih (n / 10) (by omega)
      refine ⟨d, ds ++ [digit n], ?_, hd, ?_⟩
      · rw [digits, if_neg hn, hds, List.cons_append]
      · intro h
        -- Otherwise the number without its last digit would be zero.
        have hvalue := valueOf_digits (n / 10)
        rw [hds, hzero h, h] at hvalue
        have : valueOf ['0'] = 0 := rfl
        omega

/-- A digit differs from every character that is none. -/
theorem ne_of_isDigit {c d : Char} (hc : isDigit c = false) (hd : isDigit d = true) : c ≠ d := by
  rintro rfl
  rw [hd] at hc
  cases hc

/-- A number has at most so many digits exactly if it is below that power of ten. The bound is not
zero, because zero has a digit too. -/
theorem length_digits_le_iff (n k : Nat) : (digits n).length ≤ k + 1 ↔ n < 10 ^ (k + 1) := by
  induction n using Nat.strongRecOn generalizing k with
  | _ n ih =>
    rw [digits]
    split
    · next h =>
      have hpow : 10 ≤ 10 ^ (k + 1) := Nat.le_self_pow (by omega) 10
      simp only [List.length_singleton]
      omega
    · next h =>
      rw [List.length_append, List.length_singleton, Nat.add_le_add_iff_right]
      cases k with
      | zero =>
        have hpos := List.length_pos_iff.2 (digits_ne_nil (n / 10))
        omega
      | succ k => rw [ih (n / 10) (by omega), Nat.div_lt_iff_lt_mul (by decide), ← pow_succ]

/-- An integer has too many digits exactly if it reaches the power of ten with that exponent, on
either side of zero. -/
theorem isLong_iff (i : Int) : isLong i = true ↔ 10 ^ maxDigits ≤ i.natAbs := by
  obtain ⟨k, hk⟩ : ∃ k, maxDigits = k + 1 := ⟨4299, rfl⟩
  rw [isLong, decide_eq_true_iff, digitCount, hk, ← Nat.not_le, length_digits_le_iff, Nat.not_lt]

end Decimal

namespace Json

/-- Whether a number can go on with a character behind it. -/
def extendsNumber (c : Char) : Bool := Decimal.isDigit c || ['.', 'e', 'E'].contains c

/-- A number cannot go on with what stands behind it. -/
def Ends (rest : List Char) : Prop := ∀ c ∈ rest.head?, extendsNumber c = false

variable {rest : List Char}

/-- A number ends at the end of the text. -/
theorem ends_nil : Ends [] := by
  intro c hc
  cases hc

/-- A number ends in front of a character that it cannot go on with. -/
theorem ends_cons {c : Char} (hc : extendsNumber c = false) : Ends (c :: rest) := by
  intro d hd
  cases hd
  exact hc

section Numbers

/-- Behind the end of a number there is no more digit. -/
theorem takeWhile_dropWhile_isDigit (h : Ends rest) :
    rest.takeWhile Decimal.isDigit = [] ∧ rest.dropWhile Decimal.isDigit = rest := by
  cases rest with
  | nil => exact ⟨rfl, rfl⟩
  | cons c rest =>
    have hc : Decimal.isDigit c = false := (Bool.or_eq_false_iff.1 (h c rfl)).1
    rw [List.takeWhile_cons_of_neg (by simp [hc]), List.dropWhile_cons_of_neg (by simp [hc])]
    exact ⟨rfl, rfl⟩

/-- The digits of a number are read as they were written: a zero stands in front only when it stands
alone. -/
theorem readWhole_digits (h : Ends rest) (n : Nat) :
    readWhole (Decimal.digits n ++ rest) = (Decimal.digits n, rest) := by
  have hall : ∀ c ∈ Decimal.digits n, Decimal.isDigit c = true :=
    List.all_eq_true.1 (Decimal.all_isDigit_digits n)
  unfold readWhole
  split
  · next rest' heq =>
    obtain ⟨d, ds, hds, -, hzero⟩ := Decimal.exists_digits n
    rw [hds, List.cons_append, List.cons.injEq] at heq
    rw [hds, hzero heq.1, heq.1, ← heq.2, hzero heq.1, List.nil_append]
  · obtain ⟨htake, hdrop⟩ := takeWhile_dropWhile_isDigit h
    rw [List.takeWhile_append_of_pos hall, List.dropWhile_append_of_pos hall, htake, hdrop,
      List.append_nil]

/-- Behind the end of a number there is no fraction. -/
theorem readFraction_ends (h : Ends rest) : readFraction rest = ([], rest) := by
  unfold readFraction
  split
  · exact absurd (h '.' rfl) (by decide)
  · rfl

/-- Behind the end of a number there is no exponent. -/
theorem readExponent_ends (h : Ends rest) : readExponent rest = (none, rest) := by
  unfold readExponent
  split
  · exact absurd (h 'e' rfl) (by decide)
  · exact absurd (h 'E' rfl) (by decide)
  · rfl

/-- A text that begins with the digits of a number begins with no other character. -/
theorem digits_append_ne {c : Char} (hc : Decimal.isDigit c = false) (n : Nat) (cs : List Char) :
    Decimal.digits n ++ rest ≠ c :: cs := by
  obtain ⟨d, ds, hds, hd, -⟩ := Decimal.exists_digits n
  intro heq
  rw [hds, List.cons_append, List.cons.injEq] at heq
  exact Decimal.ne_of_isDigit hc hd heq.1.symm

/-- An integer is read as it was written, its sign included. -/
theorem readNumber?_signed (h : Ends rest) (i : Int) :
    readNumber? (Decimal.signed i ++ rest) = some (.int i, rest) := by
  unfold readNumber?
  split
  next negative body heq =>
  have hbody : body = Decimal.digits i.natAbs ++ rest ∧ withSign negative i.natAbs = i := by
    cases i with
    | ofNat n =>
      split at heq
      · next body' hminus => exact absurd hminus (digits_append_ne rfl n body')
      · cases heq
        exact ⟨rfl, rfl⟩
    | negSucc n =>
      cases heq
      exact ⟨rfl, rfl⟩
  have hne := List.isEmpty_eq_false_iff.2 (Decimal.digits_ne_nil i.natAbs)
  simp only [hbody.1, readWhole_digits h, hne, readFraction_ends h, readExponent_ends h,
    Numeral.value, Decimal.valueOf_digits, hbody.2]
  rfl

end Numbers

section Scalars

/-- The word for nothing is read as null. -/
theorem readScalar?_null : readScalar? ("null".toList ++ rest) = some (.null, rest) := rfl

/-- The word for what is true is read as that truth value. -/
theorem readScalar?_true : readScalar? ("true".toList ++ rest) = some (.bool true, rest) := rfl

/-- The word for what is false is read as that truth value. -/
theorem readScalar?_false : readScalar? ("false".toList ++ rest) = some (.bool false, rest) := rfl

/-- A word does not begin with a digit. -/
theorem behind?_digits {w : Char} (hw : Decimal.isDigit w = false) (ws : List Char) (n : Nat) :
    Text.behind? (w :: ws) (Decimal.digits n ++ rest) = none := by
  obtain ⟨d, ds, hds, hd, -⟩ := Decimal.exists_digits n
  rw [hds, List.cons_append, Text.behind?, if_neg (Decimal.ne_of_isDigit hw hd)]

/-- No word begins like a number: behind the minus sign of a word there is a letter. -/
theorem readWord?_signed (i : Int) : readWord? (Decimal.signed i ++ rest) = none := by
  rw [readWord?, List.findSome?_eq_none_iff]
  intro w hw
  rw [Option.map_eq_none_iff]
  simp only [words, List.mem_cons, List.not_mem_nil, or_false] at hw
  cases i with
  | ofNat n => rcases hw with rfl | rfl | rfl | rfl | rfl | rfl <;> exact behind?_digits rfl _ n
  | negSucc n =>
    rcases hw with rfl | rfl | rfl | rfl | rfl | rfl
    case inr.inr.inr.inr.inr => exact behind?_digits (w := 'I') rfl _ (n + 1)
    all_goals rfl

/-- No word is mistaken for the integer that stands there. -/
theorem readScalar?_signed (h : Ends rest) (i : Int) :
    readScalar? (Decimal.signed i ++ rest) = some (.int i, rest) := by
  rw [readScalar?, readWord?_signed, Option.none_or, readNumber?_signed h]

end Scalars

end Json

end BlockScan
