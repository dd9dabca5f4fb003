/-!
# Whole numbers in decimal

Writing and reading whole numbers of any size with the digits `0` to `9`. The main statement is
`valueOf_digits`: the digits of a number read back as that number.

Where numbers are exchanged as text, their digits are limited (`isLong`). The limit is no part of
writing and reading as such; whoever exchanges numbers asks for it.
-/

set_option autoImplicit false

namespace BlockScan.Decimal

/-- The digit that stands for a number below ten. -/
def digit (n : Nat) : Char := Char.ofNat (48 + n % 10)

/-- Whether a character is one of the ten decimal digits. -/
def isDigit (c : Char) : Bool := '0' ≤ c && c ≤ '9'

/-- The number a digit stands for. -/
def digitValue (c : Char) : Nat := c.toNat - 48

/-- The decimal digits of a number, most significant first and without leading zeros. -/
def digits (n : Nat) : List Char :=
  if n < 10 then [digit n] else digits (n / 10) ++ [digit n]
termination_by n

/-- The number that a sequence of digits stands for. -/
def valueOf (ds : List Char) : Nat := ds.foldl (fun n d => 10 * n + digitValue d) 0

/-- An integer in decimal, with a minus sign when it is below zero. -/
def signed : Int → List Char
  | .ofNat n => digits n
  | .negSucc n => '-' :: digits (n + 1)

/-- A natural number in decimal, as text. -/
def ofNat (n : Nat) : String := String.ofList (digits n)

/-- An integer in decimal, as text. -/
def ofInt (i : Int) : String := String.ofList (signed i)

/-- How many digits an integer has. The sign does not count. -/
def digitCount (i : Int) : Nat := (digits i.natAbs).length

/-- How many digits an integer may have in a text that is exchanged. -/
def maxDigits : Nat := 4300

/-- Whether an integer has more digits than it may have in a text that is exchanged. -/
def isLong (i : Int) : Bool := decide (maxDigits < digitCount i)

/-- The wording of the error for an integer with too many digits. What is known of the integer goes
behind the limit. -/
def longMessage (known : String) : String :=
  "Exceeds the limit (" ++ ofNat maxDigits ++ " digits) for integer string conversion" ++ known ++
    "; use sys.set_int_max_str_digits() to increase the limit"

/-- A written digit is read as the last digit of the number that it was taken from. -/
theorem digitValue_digit (n : Nat) : digitValue (digit n) = n % 10 := by
  have h : ∀ k : Fin 10, digitValue (digit k.val) = k.val := by decide
  have := h ⟨n % 10, Nat.mod_lt _ (by decide)⟩
  simpa [digit, Nat.mod_mod] using this

/-- Every number is written with digits only. -/
theorem isDigit_digit (n : Nat) : isDigit (digit n) = true := by
  have h : ∀ k : Fin 10, isDigit (digit k.val) = true := by decide
  have := h ⟨n % 10, Nat.mod_lt _ (by decide)⟩
  simpa [digit, Nat.mod_mod] using this

/-- A number has at least one digit; zero is written as one. -/
theorem digits_ne_nil (n : Nat) : digits n ≠ [] := by
  rw [digits]
  split <;> simp

/-- The decimal form of a number consists of digits. -/
theorem all_isDigit_digits (n : Nat) : (digits n).all isDigit = true := by
  induction n using Nat.strongRecOn with
  | _ n ih =>
    rw [digits]
    split
    · simp [isDigit_digit]
    · simp [ih (n / 10) (by omega), isDigit_digit]

/-- The digits of a number read back as that number. -/
theorem valueOf_digits (n : Nat) : valueOf (digits n) = n := by
  induction n using Nat.strongRecOn with
  | _ n ih =>
    rw [digits]
    split
    · next h => simp [valueOf, digitValue_digit, Nat.mod_eq_of_lt h]
    · next h =>
      have hq := ih (n / 10) (by omega)
      simp only [valueOf] at hq
      simp only [valueOf, List.foldl_append, List.foldl_cons, List.foldl_nil, hq, digitValue_digit]
      omega

end BlockScan.Decimal
