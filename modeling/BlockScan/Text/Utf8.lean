/-!
# Strict UTF-8

A byte sequence is read one character at a time. The first byte of a character says how many
bytes follow it and which range the second byte may come from; the later ones come from `80` to
`BF`. Reading stops at the first sequence that is no character, and reports where it starts, the
text before it, and what is wrong with it.
-/

set_option autoImplicit false

namespace BlockScan.Utf8

/-- What is wrong with a byte sequence. -/
inductive Reason where
  /-- No character starts with this byte. -/
  | invalidStart
  /-- A following byte is present but not allowed. -/
  | invalidContinuation
  /-- The bytes end inside a character. -/
  | unexpectedEnd
deriving DecidableEq

/-- The wording of a reason. -/
def Reason.message : Reason → String
  | .invalidStart => "invalid start byte"
  | .invalidContinuation => "invalid continuation byte"
  | .unexpectedEnd => "unexpected end of data"

/-- The first sequence that is no character. -/
structure Fault where
  /-- The index of the first byte of the sequence. -/
  offset : Nat
  /-- The text of the bytes before it. -/
  before : List Char
  reason : Reason
deriving DecidableEq

/-- What the first byte of a character says about the rest of it. -/
structure Lead where
  /-- The bits of the code point that the byte holds. -/
  bits : Nat
  /-- How many bytes follow. -/
  following : Nat
  /-- The least second byte. -/
  low : Nat
  /-- The greatest second byte. -/
  high : Nat
deriving DecidableEq

/-- The reading of a first byte; none for a byte that starts no character. -/
def lead? (byte : UInt8) : Option Lead :=
  let b := byte.toNat
  if b < 0x80 then some ⟨b, 0, 0x80, 0xBF⟩
  else if b < 0xC2 then none
  else if b < 0xE0 then some ⟨b % 32, 1, 0x80, 0xBF⟩
  else if b = 0xE0 then some ⟨b % 16, 2, 0xA0, 0xBF⟩
  else if b = 0xED then some ⟨b % 16, 2, 0x80, 0x9F⟩
  else if b < 0xF0 then some ⟨b % 16, 2, 0x80, 0xBF⟩
  else if b = 0xF0 then some ⟨b % 8, 3, 0x90, 0xBF⟩
  else if b < 0xF4 then some ⟨b % 8, 3, 0x80, 0xBF⟩
  else if b = 0xF4 then some ⟨b % 8, 3, 0x80, 0x8F⟩
  else none

/-- Reads the given number of following bytes, the first of them from `low` to `high`, and returns
the code point and the bytes that are left. -/
def follow (code low high : Nat) : Nat → List UInt8 → Except Reason (Nat × List UInt8)
  | 0, rest => .ok (code, rest)
  | _ + 1, [] => .error .unexpectedEnd
  | n + 1, byte :: rest =>
    if low ≤ byte.toNat ∧ byte.toNat ≤ high then
      follow (code * 64 + byte.toNat % 64) 0x80 0xBF n rest
    else .error .invalidContinuation

/-- Reads one character that starts with `byte`. -/
def readChar (byte : UInt8) (rest : List UInt8) : Except Reason (Char × List UInt8) :=
  match lead? byte with
  | none => .error .invalidStart
  | some l => (follow l.bits l.low l.high l.following rest).map fun r => (Char.ofNat r.1, r.2)

/-- The bytes that follow the first one of a character are taken from the front of the others. -/
theorem follow_length {code low high n : Nat} {rest : List UInt8} {r : Nat × List UInt8}
    (h : follow code low high n rest = .ok r) : r.2.length ≤ rest.length := by
  induction n generalizing code low high rest with
  | zero => cases rest <;> simp_all [follow] <;> subst h <;> simp
  | succ n ih =>
    cases rest with
    | nil => simp [follow] at h
    | cons byte rest =>
      simp only [follow] at h
      split at h
      · exact Nat.le_succ_of_le (ih h)
      · simp at h

/-- A character takes its first byte and some of those behind it. -/
theorem readChar_length {byte : UInt8} {rest : List UInt8} {r : Char × List UInt8}
    (h : readChar byte rest = .ok r) : r.2.length ≤ rest.length := by
  unfold readChar at h
  split at h
  · simp at h
  · next l _ =>
    cases hf : follow l.bits l.low l.high l.following rest with
    | error e => simp [hf, Except.map] at h
    | ok q =>
      simp [hf, Except.map] at h
      subst h
      exact follow_length hf

/-- Reads bytes from index `offset` on, after the characters `before` (the last one first). -/
def decodeFrom (offset : Nat) (before : List Char) (bytes : List UInt8) :
    Except Fault (List Char) :=
  match bytes with
  | [] => .ok before.reverse
  | byte :: rest =>
    match _h : readChar byte rest with
    | .error reason => .error ⟨offset, before.reverse, reason⟩
    | .ok (c, left) => decodeFrom (offset + (rest.length + 1 - left.length)) (c :: before) left
termination_by bytes.length
decreasing_by
  have : left.length ≤ rest.length := readChar_length _h
  simp only [List.length_cons]
  omega

/-- The text that a byte sequence encodes, or the first place where it encodes none. -/
def decode (bytes : List UInt8) : Except Fault (List Char) := decodeFrom 0 [] bytes

end BlockScan.Utf8
