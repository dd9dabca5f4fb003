import BlockScan.Json.Quotation
import BlockScan.Json.Writer

/-!
# Strings between quotes

Reading takes back what writing a string does, character by character. A character above the
basic plane is written as two escapes, and reading joins the two units again; every other
character is read without a look at what stands behind it.
-/

set_option autoImplicit false

namespace BlockScan.Json

section Units

/-- The four digits of a unit are read as the unit they were written for. -/
theorem unitOf?_hexDigit {n : Nat} (h : n < 0x10000) :
    unitOf? (Text.hexDigit (n / 16 / 16 / 16)) (Text.hexDigit (n / 16 / 16))
      (Text.hexDigit (n / 16)) (Text.hexDigit n) = some n := by
  simp only [unitOf?, Text.hexValue?_hexDigit, Option.bind_eq_bind, Option.bind_some,
    Option.pure_def, Option.some.injEq]
  omega

variable {a b c d e : Char} {rest : List Char} {u v : Nat}

/-- A unit that is no high surrogate is a character by itself, whatever follows. -/
theorem readUnit?_single (hu : unitOf? a b c d = some u) (h : isHighUnit u = false) :
    readUnit? (a :: b :: c :: d :: e :: rest) = some (unitChar u, e :: rest) := by
  simp only [readUnit?, hu, Option.bind_eq_bind, Option.bind_some, h]
  split <;> rfl

/-- A high surrogate and the escape of a low one behind it make one character. -/
theorem readUnit?_pair {a' b' c' d' : Char} (hu : unitOf? a b c d = some u)
    (hv : unitOf? a' b' c' d' = some v) (hhigh : isHighUnit u = true) (hlow : isLowUnit v = true) :
    readUnit? (a :: b :: c :: d :: '\\' :: 'u' :: a' :: b' :: c' :: d' :: e :: rest) =
      some (pairChar u v, e :: rest) := by
  simp only [readUnit?, hu, hv, Option.bind_eq_bind, Option.bind_some, hhigh, hlow, if_true]

/-- No character is one half of a surrogate pair. -/
theorem not_isUnit_toNat (c : Char) :
    isHighUnit c.toNat = false ∧ isLowUnit c.toNat = false := by
  have hc : c.toNat < 0xD800 ∨ 0xDFFF < c.toNat ∧ c.toNat < 0x110000 := c.valid
  simp only [isHighUnit, isLowUnit, Bool.and_eq_false_iff, decide_eq_false_iff_not]
  omega

/-- Every character is its own code unit where it has just one. -/
theorem unitChar_toNat (c : Char) : unitChar c.toNat = c := by
  obtain ⟨hhigh, hlow⟩ := not_isUnit_toNat c
  rw [unitChar, hhigh, hlow, if_neg (by decide), Char.ofNat_toNat]

end Units

section Characters

variable {start done rest : List Char} {c : Char}

/-- The closing quote ends the string. -/
theorem readString_quote : readString start done ('"' :: rest) = .ok (done.reverse, rest) := by
  rw [readString]

/-- An escape of two characters is read as what its letter stands for. -/
theorem readString_letter {e : Char} (he : escapeLetter? e = some c) :
    readString start done ('\\' :: e :: rest) = readString start (c :: done) rest := by
  have hu : e ≠ 'u' := by
    rintro rfl
    simp [escapeLetter?] at he
  rw [readString]
  · simp [he]
  · simpa using hu

/-- An escape by code units is read as the character that the units make. -/
theorem readString_unit {cs : List Char} (h : readUnit? cs = some (c, rest)) :
    readString start done ('\\' :: 'u' :: cs) = readString start (c :: done) rest := by
  rw [readString]
  split
  · next h' =>
    rw [h] at h'
    simp_all
  · simp_all

/-- A character that needs no escape stands for itself. -/
theorem readString_plain (hq : c ≠ '"') (hb : c ≠ '\\') (hs : ' ' ≤ c) :
    readString start done (c :: rest) = readString start (c :: done) rest := by
  rw [readString]
  · rw [if_neg (by simpa using hs)]
  all_goals simp [hq, hb]

/-- The escape of a unit that is no surrogate. -/
theorem readString_unitEscape (e : Char) (h : c.toNat < 0x10000) :
    readString start done (unitEscape c.toNat ++ e :: rest) =
      readString start (c :: done) (e :: rest) := by
  apply readString_unit
  refine (readUnit?_single (unitOf?_hexDigit h) (not_isUnit_toNat c).1).trans ?_
  rw [unitChar_toNat]

/-- The escapes of a character above the basic plane. -/
theorem readString_pairEscape (e : Char) (h : 0x10000 ≤ c.toNat) :
    readString start done (unitEscape (0xD800 + (c.toNat - 0x10000) / 0x400) ++
        unitEscape (0xDC00 + (c.toNat - 0x10000) % 0x400) ++ e :: rest) =
      readString start (c :: done) (e :: rest) := by
  have hc : c.toNat < 0xD800 ∨ 0xDFFF < c.toNat ∧ c.toNat < 0x110000 := c.valid
  generalize hhigh : 0xD800 + (c.toNat - 0x10000) / 0x400 = high
  generalize hlow : 0xDC00 + (c.toNat - 0x10000) % 0x400 = low
  have hpair : pairChar high low = c := by
    have hcode : 0x10000 + (high - 0xD800) * 0x400 + (low - 0xDC00) = c.toNat := by omega
    rw [pairChar, hcode, Char.ofNat_toNat]
  have hishigh : isHighUnit high = true := by
    simp only [isHighUnit, Bool.and_eq_true, decide_eq_true_eq]
    omega
  have hislow : isLowUnit low = true := by
    simp only [isLowUnit, Bool.and_eq_true, decide_eq_true_eq]
    omega
  rw [← hpair]
  exact readString_unit (readUnit?_pair (unitOf?_hexDigit (by omega)) (unitOf?_hexDigit (by omega))
    hishigh hislow)

/-- Reading takes back how a character is written. -/
theorem readString_escapeChar (c e : Char) :
    readString start done (escapeChar c ++ e :: rest) =
      readString start (c :: done) (e :: rest) := by
  unfold escapeChar
  by_cases hq : c = '"'
  · rw [if_pos hq]
    exact readString_letter (by rw [hq]; rfl)
  by_cases hb : c = '\\'
  · rw [if_neg hq, if_pos hb]
    exact readString_letter (by rw [hb]; rfl)
  rw [if_neg hq, if_neg hb]
  -- The five controls that have a letter of their own.
  iterate 5
    split
    · next h => exact readString_letter (by rw [h]; rfl)
  split
  · next h => exact readString_plain hq hb h.1
  split
  · next h => exact readString_unitEscape e h
  · next h => exact readString_pairEscape e (Nat.le_of_not_lt h)

/-- Reading takes back how a string is written. -/
theorem readString_flatMap_escapeChar (s : List Char) :
    readString start done (s.flatMap escapeChar ++ '"' :: rest) =
      .ok (done.reverse ++ s, rest) := by
  induction s generalizing done with
  | nil => rw [List.flatMap_nil, List.nil_append, readString_quote, List.append_nil]
  | cons c s ih =>
    -- Something stands behind the character, if only the closing quote.
    obtain ⟨e, left, hleft⟩ := List.exists_cons_of_ne_nil
      (l := s.flatMap escapeChar ++ '"' :: rest) (by simp)
    rw [List.flatMap_cons, List.append_assoc, hleft, readString_escapeChar, ← hleft, ih,
      List.reverse_cons, List.append_assoc, List.singleton_append]

/-- A written string is a quote, its characters one after the other, and a quote. -/
theorem writeString_append (s : String) (rest : List Char) :
    writeString s ++ rest = '"' :: (s.toList.flatMap escapeChar ++ '"' :: rest) := by
  rw [writeString, List.cons_append, List.cons_append, List.append_assoc, List.singleton_append]

end Characters

end BlockScan.Json
