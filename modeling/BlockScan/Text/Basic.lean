import BlockScan.Text.Classes

/-!
# Digits, occurrences and quotes

What the formats of the library have in common: hexadecimal digits, which are written in lower case
and read in either case, the beginnings and occurrences of a text in another one, and quoted texts.

A text is quoted with single quotes, or with double quotes when it holds a single quote and no
double quote. Inside, the backslash, the quote in use, the line and tab controls and every
character that is not printable are written as escapes; all other characters stand for
themselves.
-/

set_option autoImplicit false

namespace BlockScan.Text

/-! ## Hexadecimal digits -/

/-- The hexadecimal digit that stands for a number below sixteen. -/
def hexDigit (n : Nat) : Char :=
  if n % 16 < 10 then Char.ofNat (48 + n % 16) else Char.ofNat (87 + n % 16)

/-- The number that a hexadecimal digit stands for. -/
def hexValue? (c : Char) : Option Nat :=
  if '0' ≤ c ∧ c ≤ '9' then some (c.toNat - 48)
  else if 'a' ≤ c ∧ c ≤ 'f' then some (c.toNat - 87)
  else if 'A' ≤ c ∧ c ≤ 'F' then some (c.toNat - 55)
  else none

/-- The last `width` hexadecimal digits of a number. -/
def hexDigits : Nat → Nat → List Char
  | 0, _ => []
  | width + 1, n => hexDigits width (n / 16) ++ [hexDigit n]

/-- The bytes written as pairs of hexadecimal digits, or none when a digit is missing or wrong. -/
def hexBytes? : List Char → Option (List UInt8)
  | [] => some []
  | [_] => none
  | high :: low :: rest => do
    let h ← hexValue? high
    let l ← hexValue? low
    let bytes ← hexBytes? rest
    return UInt8.ofNat (16 * h + l) :: bytes

/-- A written hexadecimal digit is read as the last one of the number that it was taken from. -/
theorem hexValue?_hexDigit (n : Nat) : hexValue? (hexDigit n) = some (n % 16) := by
  have h : ∀ k : Fin 16, hexValue? (hexDigit k.val) = some k.val := by decide
  have := h ⟨n % 16, Nat.mod_lt _ (by decide)⟩
  simpa [hexDigit, Nat.mod_mod] using this

/-! ## Beginnings and occurrences -/

/-- What is left of a text behind a beginning. -/
def behind? : List Char → List Char → Option (List Char)
  | [], cs => some cs
  | _ :: _, [] => none
  | w :: ws, c :: cs => if w = c then behind? ws cs else none

/-- A beginning and what follows it are together as long as the text. -/
theorem behind?_length {ws cs rest : List Char} (h : behind? ws cs = some rest) :
    rest.length + ws.length = cs.length := by
  fun_induction behind? ws cs with
  | case1 => simp_all
  | case2 => simp at h
  | case3 w ws cs ih => simp [ih h, ← Nat.add_assoc]
  | case4 => simp at h

/-- Replaces every occurrence of a text that is not empty, from left to right and without
overlaps. -/
def replaceNonempty (head : Char) (tail new : List Char) (cs : List Char) : List Char :=
  match _h : behind? (head :: tail) cs with
  | some rest => new ++ replaceNonempty head tail new rest
  | none =>
    match cs with
    | [] => []
    | c :: cs => c :: replaceNonempty head tail new cs
termination_by cs.length
decreasing_by
  · have := behind?_length _h
    simp only [List.length_cons] at this
    omega
  · simp

/-- Replaces every occurrence of a text. The empty text occurs before every character and at the
end. -/
def replaceAll (old new cs : List Char) : List Char :=
  match old with
  | [] => cs.flatMap (fun c => new ++ [c]) ++ new
  | head :: tail => replaceNonempty head tail new cs

/-! ## Quotes -/

/-- The quote that goes around a text. -/
def quoteFor (cs : List Char) : Char :=
  if cs.contains '\'' && !cs.contains '"' then '"' else '\''

/-- An escape with the code point in as few of two, four and eight hexadecimal digits as hold it. -/
def codeEscape (code : Nat) : List Char :=
  if code < 0x100 then '\\' :: 'x' :: hexDigits 2 code
  else if code < 0x10000 then '\\' :: 'u' :: hexDigits 4 code
  else '\\' :: 'U' :: hexDigits 8 code

/-- A character inside a quoted text. -/
def quoteChar (quote c : Char) : List Char :=
  if c = '\\' ∨ c = quote then ['\\', c]
  else if c = '\n' then ['\\', 'n']
  else if c = '\r' then ['\\', 'r']
  else if c = '\t' then ['\\', 't']
  else if isPrintable c then [c]
  else codeEscape c.toNat

/-- A text between quotes. -/
def quoted (s : String) : String :=
  let cs := s.toList
  let quote := quoteFor cs
  String.ofList (quote :: cs.flatMap (quoteChar quote) ++ [quote])

end BlockScan.Text
