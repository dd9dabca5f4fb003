import BlockScan.Json.Fault
import BlockScan.Text.Basic

/-!
# Reading JSON strings

The characters of a string are read from left to right up to the closing quote, and the first
fault wins. Two escapes that form a surrogate pair stand for one character. A surrogate that is
not part of a pair stands for no character. A reader whose texts may hold lone surrogates keeps it;
such texts are outside of this model, where it is read as the replacement character.
-/

set_option autoImplicit false

namespace BlockScan.Json

/-- The character that an escape letter stands for. -/
def escapeLetter? : Char → Option Char
  | '"' => some '"'
  | '\\' => some '\\'
  | '/' => some '/'
  | 'b' => some '\x08'
  | 'f' => some '\x0c'
  | 'n' => some '\n'
  | 'r' => some '\r'
  | 't' => some '\t'
  | _ => none

/-- The number that four hexadecimal digits stand for. -/
def unitOf? (a b c d : Char) : Option Nat := do
  let a ← Text.hexValue? a
  let b ← Text.hexValue? b
  let c ← Text.hexValue? c
  let d ← Text.hexValue? d
  return ((a * 16 + b) * 16 + c) * 16 + d

/-- The first unit of a surrogate pair. -/
def isHighUnit (u : Nat) : Bool := 0xD800 ≤ u && u < 0xDC00

/-- The second unit of a surrogate pair. -/
def isLowUnit (u : Nat) : Bool := 0xDC00 ≤ u && u < 0xE000

/-- The character of a unit that is not part of a pair. A lone surrogate is kept by a reader whose
texts are made of code points; in a text of characters it becomes the replacement character. -/
def unitChar (u : Nat) : Char :=
  if isHighUnit u || isLowUnit u then '\uFFFD' else Char.ofNat u

/-- The character of a surrogate pair. -/
def pairChar (high low : Nat) : Char :=
  Char.ofNat (0x10000 + (high - 0xD800) * 0x400 + (low - 0xDC00))

/-- Reads the digits of an escaped unit, and the second unit of a pair when there is one. The text
must go on behind the digits, since a string needs its closing quote. -/
def readUnit? : List Char → Option (Char × List Char)
  | a :: b :: c :: d :: e :: rest => do
    let u ← unitOf? a b c d
    match e :: rest with
    | '\\' :: 'u' :: a' :: b' :: c' :: d' :: e' :: rest' =>
      if isHighUnit u then
        match unitOf? a' b' c' d' with
        | some v => if isLowUnit v then some (pairChar u v, e' :: rest') else
            some (unitChar u, e :: rest)
        | none => some (unitChar u, e :: rest)
      else some (unitChar u, e :: rest)
    | _ => some (unitChar u, e :: rest)
  | _ => none

/-- The four digits of an escape are taken from the text. -/
theorem readUnit?_length {cs : List Char} {r : Char × List Char} (h : readUnit? cs = some r) :
    r.2.length < cs.length := by
  unfold readUnit? at h
  split at h
  · next a b c d e rest =>
    cases hu : unitOf? a b c d with
    | none => simp [hu] at h
    | some u =>
      simp only [hu, Option.bind_eq_bind, Option.bind_some] at h
      repeat' split at h
      all_goals
        simp only [Option.some.injEq] at h
        subst h
        simp_all
        try omega
  · simp at h

/-- Reads a string behind its opening quote. `start` is the text from that quote on, and `done`
holds the characters read so far, the last one first. -/
def readString (start done : List Char) (cs : List Char) : Except Fault (List Char × List Char) :=
  match cs with
  | [] => .error ⟨.unterminated, start⟩
  | '"' :: rest => .ok (done.reverse, rest)
  | '\\' :: [] => .error ⟨.unterminated, start⟩
  | '\\' :: 'u' :: rest =>
    match _h : readUnit? rest with
    | some (c, left) => readString start (c :: done) left
    | none => .error ⟨.badUnitEscape, 'u' :: rest⟩
  | '\\' :: e :: rest =>
    match escapeLetter? e with
    | some c => readString start (c :: done) rest
    | none => .error ⟨.badEscape, '\\' :: e :: rest⟩
  | c :: rest =>
    if c < ' ' then .error ⟨.controlCharacter, c :: rest⟩
    else readString start (c :: done) rest
termination_by cs.length
decreasing_by
  · have : left.length < rest.length := readUnit?_length _h
    simp only [List.length_cons]
    omega
  · simp only [List.length_cons]
    omega
  · simp

/-- A string is taken from the text together with its closing quote at least. -/
theorem readString_length {start done cs : List Char} {r : List Char × List Char}
    (h : readString start done cs = .ok r) : r.2.length < cs.length := by
  fun_induction readString start done cs with
  | case1 => simp at h
  | case2 => simp_all; subst h; simp
  | case3 => simp at h
  | case4 done rest c left hr ih =>
    have : left.length < rest.length := readUnit?_length hr
    have := ih h
    simp only [List.length_cons]
    omega
  | case5 => simp at h
  | case6 done e rest _ c _ ih =>
    have := ih h
    simp only [List.length_cons]
    omega
  | case7 => simp at h
  | case8 => simp at h
  | case9 done c rest _ _ _ _ _ ih =>
    have := ih h
    simp only [List.length_cons]
    omega

end BlockScan.Json
