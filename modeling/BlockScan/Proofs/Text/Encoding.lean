import Mathlib.Logic.Basic
import BlockScan.Text.Utf8

/-!
# Bytes and the characters that they encode

Reading one character from some bytes succeeds exactly when they begin with the encoding of that
character (`readChar_eq_ok_iff`). When it fails, the reason tells how far the bytes are a
character: no encoding begins with the first byte, or they are the beginning of an encoding, or
neither (`Refused`). Both rest on two computations: what is read from an encoding is its character
(`readChar_encodeChar`), and what is read from other bytes has them as its encoding
(`encodeChar_of_follow`). Bytes thus encode a text, which decoding brings (`decode_encode`), or
decoding stops behind such bytes where the rest is refused (`decode_spec`).
-/

set_option autoImplicit false

namespace BlockScan.Utf8

open String (utf8EncodeChar)

/-- The bytes of a text. -/
def encode (text : List Char) : List UInt8 := text.flatMap utf8EncodeChar

/-! ## Following bytes -/

section Follow

variable {code low high n v : Nat} {byte : UInt8} {bytes left more : List UInt8}

/-- A following byte that is allowed adds its six bits to the code point. -/
theorem follow_cons_of_mem (h : low ≤ byte.toNat ∧ byte.toNat ≤ high) (code n : Nat)
    (bytes : List UInt8) : follow code low high (n + 1) (byte :: bytes) =
      follow (code * 64 + byte.toNat % 64) 0x80 0xBF n bytes := if_pos h

/-- Following bytes are read when the first of them is allowed and the others are read. -/
theorem follow_succ_eq_ok (h : follow code low high (n + 1) bytes = .ok (v, left)) :
    ∃ byte rest, bytes = byte :: rest ∧ (low ≤ byte.toNat ∧ byte.toNat ≤ high) ∧
      follow (code * 64 + byte.toNat % 64) 0x80 0xBF n rest = .ok (v, left) := by
  cases bytes with
  | nil => simp [follow] at h
  | cons byte rest =>
    rw [follow] at h
    split at h
    · next hb => exact ⟨byte, rest, rfl, hb, h⟩
    · simp at h

/-- What is read are the following bytes, whatever comes behind them. -/
theorem follow_eq_ok (h : follow code low high n bytes = .ok (v, left)) :
    ∃ read, bytes = read ++ left ∧
      ∀ more, follow code low high n (read ++ more) = .ok (v, more) := by
  induction n generalizing code low high bytes with
  | zero =>
    rw [follow, Except.ok.injEq, Prod.mk.injEq] at h
    obtain ⟨rfl, rfl⟩ := h
    exact ⟨[], rfl, fun more => by rw [follow, List.nil_append]⟩
  | succ n ih =>
    obtain ⟨byte, rest, rfl, hb, h⟩ := follow_succ_eq_ok h
    obtain ⟨read, rfl, hread⟩ := ih h
    refine ⟨byte :: read, rfl, ?_⟩
    intro more
    rw [List.cons_append, follow_cons_of_mem hb, hread]

/-- A character that has begun is not refused for how it begins. -/
theorem follow_ne_invalidStart (code low high n : Nat) (bytes : List UInt8) :
    follow code low high n bytes ≠ .error .invalidStart := by
  induction n generalizing code low high bytes with
  | zero => simp [follow]
  | succ n ih =>
    cases bytes with
    | nil => simp [follow]
    | cons byte rest =>
      rw [follow]
      split
      · exact ih _ _ _ _
      · simp

/-- Bytes that end too early can be completed. -/
theorem exists_follow_of_unexpectedEnd (hl : low ≤ high) (hh : high < 256)
    (h : follow code low high n bytes = .error .unexpectedEnd) :
    ∃ more v, more ≠ [] ∧ follow code low high n (bytes ++ more) = .ok (v, []) := by
  induction n generalizing code low high bytes with
  | zero => simp [follow] at h
  | succ n ih =>
    cases bytes with
    | nil =>
      have hbyte : (UInt8.ofNat low).toNat = low :=
        UInt8.toNat_ofNat_of_lt' (Nat.lt_of_le_of_lt hl hh)
      have hmem : low ≤ (UInt8.ofNat low).toNat ∧ (UInt8.ofNat low).toNat ≤ high := by omega
      have hrest : ∃ more v, follow (code * 64 + (UInt8.ofNat low).toNat % 64) 0x80 0xBF n more =
          .ok (v, []) := by
        cases n with
        | zero => exact ⟨[], _, rfl⟩
        | succ n =>
          have hend : follow (code * 64 + (UInt8.ofNat low).toNat % 64) 0x80 0xBF (n + 1) [] =
              .error .unexpectedEnd := rfl
          obtain ⟨more, v, -, hv⟩ := ih (by omega) (by omega) hend
          exact ⟨more, v, hv⟩
      obtain ⟨more, v, hv⟩ := hrest
      refine ⟨UInt8.ofNat low :: more, v, List.cons_ne_nil _ _, ?_⟩
      rw [List.nil_append, follow_cons_of_mem hmem, hv]
    | cons byte rest =>
      rw [follow] at h
      split at h
      · next hb =>
        obtain ⟨more, v, hne, hv⟩ := ih (by omega) (by omega) h
        exact ⟨more, v, hne, by rw [List.cons_append, follow_cons_of_mem hb, hv]⟩
      · simp at h

/-- Bytes of which the last ones are missing end too early. -/
theorem follow_of_append (hne : more ≠ [])
    (h : follow code low high n (bytes ++ more) = .ok (v, [])) :
    follow code low high n bytes = .error .unexpectedEnd := by
  induction n generalizing code low high bytes with
  | zero =>
    rw [follow, Except.ok.injEq, Prod.mk.injEq] at h
    exact absurd (List.append_eq_nil_iff.1 h.2).2 hne
  | succ n ih =>
    cases bytes with
    | nil => rfl
    | cons byte rest =>
      obtain ⟨b, r, hcons, hb, h⟩ := follow_succ_eq_ok h
      rw [List.cons_append, List.cons.injEq] at hcons
      obtain ⟨rfl, rfl⟩ := hcons
      rw [follow_cons_of_mem hb, ih h]

end Follow

/-! ## First bytes -/

section Lead

variable {byte : UInt8}

/-- A byte below `80` is a character by itself. -/
theorem lead?_one (h : byte.toNat < 0x80) : lead? byte = some ⟨byte.toNat, 0, 0x80, 0xBF⟩ := by
  grind [lead?]

/-- A byte from `C2` to `DF` begins a character of two bytes. -/
theorem lead?_two (h : 0xC2 ≤ byte.toNat) (h' : byte.toNat < 0xE0) :
    lead? byte = some ⟨byte.toNat % 32, 1, 0x80, 0xBF⟩ := by
  grind [lead?]

/-- A byte from `E0` to `EF` begins a character of three bytes, of which the second one keeps out
long forms behind `E0` and surrogates behind `ED`. -/
theorem lead?_three (h : 0xE0 ≤ byte.toNat) (h' : byte.toNat < 0xF0) :
    lead? byte = some ⟨byte.toNat % 16, 2, if byte.toNat = 0xE0 then 0xA0 else 0x80,
      if byte.toNat = 0xED then 0x9F else 0xBF⟩ := by
  grind [lead?]

/-- A byte from `F0` to `F4` begins a character of four bytes, of which the second one keeps out
long forms behind `F0` and what is no code point behind `F4`. -/
theorem lead?_four (h : 0xF0 ≤ byte.toNat) (h' : byte.toNat < 0xF5) :
    lead? byte = some ⟨byte.toNat % 8, 3, if byte.toNat = 0xF0 then 0x90 else 0x80,
      if byte.toNat = 0xF4 then 0x8F else 0xBF⟩ := by
  grind [lead?]

/-- A first byte says that nothing follows, or one, two or three bytes. -/
theorem range_of_lead? {l : Lead} (h : lead? byte = some l) :
    byte.toNat < 0x80 ∨ (0xC2 ≤ byte.toNat ∧ byte.toNat < 0xE0) ∨
      (0xE0 ≤ byte.toNat ∧ byte.toNat < 0xF0) ∨ (0xF0 ≤ byte.toNat ∧ byte.toNat < 0xF5) := by
  grind [lead?]

/-- Behind every first byte some second byte is allowed. -/
theorem bounds_of_lead? {l : Lead} (h : lead? byte = some l) : l.low ≤ l.high ∧ l.high < 256 := by
  rcases range_of_lead? h with hb | ⟨hb, hb'⟩ | ⟨hb, hb'⟩ | ⟨hb, hb'⟩
  · rw [lead?_one hb, Option.some.injEq] at h
    subst h
    simp
  · rw [lead?_two hb hb', Option.some.injEq] at h
    subst h
    simp
  · rw [lead?_three hb hb', Option.some.injEq] at h
    subst h
    grind
  · rw [lead?_four hb hb', Option.some.injEq] at h
    subst h
    grind

end Lead

/-! ## The encoding of one character -/

/-- A byte is given by its number. -/
theorem ofNat_eq_of_toNat {n : Nat} {byte : UInt8} (h : n = byte.toNat) : UInt8.ofNat n = byte := by
  rw [h, UInt8.ofNat_toNat]

/-- A code point that is a character is the number of that character. -/
theorem val_toNat_ofNat {v : Nat} (h : v.isValidChar) : (Char.ofNat v).val.toNat = v := by
  unfold Char.ofNat
  rw [dif_pos h]
  rfl

/-- Reading a first byte and those that follow it finds the character of which they are the
encoding. -/
theorem encodeChar_of_follow {byte : UInt8} {l : Lead} {v : Nat} {bytes : List UInt8}
    (hl : lead? byte = some l) (h : follow l.bits l.low l.high l.following bytes = .ok (v, [])) :
    utf8EncodeChar (Char.ofNat v) = byte :: bytes := by
  rcases range_of_lead? hl with hb | ⟨hb, hb'⟩ | ⟨hb, hb'⟩ | ⟨hb, hb'⟩
  · rw [lead?_one hb, Option.some.injEq] at hl
    subst hl
    rw [follow, Except.ok.injEq, Prod.mk.injEq] at h
    obtain ⟨rfl, rfl⟩ := h
    have hv := val_toNat_ofNat (v := byte.toNat) (.inl (by omega))
    unfold utf8EncodeChar
    simp only [hv]
    rw [if_pos (by omega), ofNat_eq_of_toNat rfl]
  · rw [lead?_two hb hb', Option.some.injEq] at hl
    subst hl
    simp only at h
    obtain ⟨b₁, r₁, rfl, h₁, h⟩ := follow_succ_eq_ok h
    rw [follow, Except.ok.injEq, Prod.mk.injEq] at h
    obtain ⟨hcode, rfl⟩ := h
    have hv := val_toNat_ofNat (v := v) (.inl (by omega))
    unfold utf8EncodeChar
    simp only [hv]
    rw [if_neg (by omega), if_pos (by omega), ofNat_eq_of_toNat (by omega : _ = byte.toNat),
      ofNat_eq_of_toNat (by omega : _ = b₁.toNat)]
  · rw [lead?_three hb hb', Option.some.injEq] at hl
    subst hl
    simp only at h
    obtain ⟨b₁, r₁, rfl, h₁, h⟩ := follow_succ_eq_ok h
    obtain ⟨b₂, r₂, rfl, h₂, h⟩ := follow_succ_eq_ok h
    rw [follow, Except.ok.injEq, Prod.mk.injEq] at h
    obtain ⟨hcode, rfl⟩ := h
    have hrange : 0x80 ≤ b₁.toNat ∧ b₁.toNat ≤ 0xBF ∧ (byte.toNat = 0xE0 → 0xA0 ≤ b₁.toNat) ∧
        (byte.toNat = 0xED → b₁.toNat ≤ 0x9F) := by grind
    have hvalid : v.isValidChar := by
      unfold Nat.isValidChar
      omega
    have hv := val_toNat_ofNat hvalid
    unfold utf8EncodeChar
    simp only [hv]
    rw [if_neg (by omega), if_neg (by omega), if_pos (by omega),
      ofNat_eq_of_toNat (by omega : _ = byte.toNat), ofNat_eq_of_toNat (by omega : _ = b₁.toNat),
      ofNat_eq_of_toNat (by omega : _ = b₂.toNat)]
  · rw [lead?_four hb hb', Option.some.injEq] at hl
    subst hl
    simp only at h
    obtain ⟨b₁, r₁, rfl, h₁, h⟩ := follow_succ_eq_ok h
    obtain ⟨b₂, r₂, rfl, h₂, h⟩ := follow_succ_eq_ok h
    obtain ⟨b₃, r₃, rfl, h₃, h⟩ := follow_succ_eq_ok h
    rw [follow, Except.ok.injEq, Prod.mk.injEq] at h
    obtain ⟨hcode, rfl⟩ := h
    have hrange : 0x80 ≤ b₁.toNat ∧ b₁.toNat ≤ 0xBF ∧ (byte.toNat = 0xF0 → 0x90 ≤ b₁.toNat) ∧
        (byte.toNat = 0xF4 → b₁.toNat ≤ 0x8F) := by grind
    have hvalid : v.isValidChar := by
      unfold Nat.isValidChar
      omega
    have hv := val_toNat_ofNat hvalid
    unfold utf8EncodeChar
    simp only [hv]
    rw [if_neg (by omega), if_neg (by omega), if_neg (by omega),
      ofNat_eq_of_toNat (by omega : _ = byte.toNat), ofNat_eq_of_toNat (by omega : _ = b₁.toNat),
      ofNat_eq_of_toNat (by omega : _ = b₂.toNat), ofNat_eq_of_toNat (by omega : _ = b₃.toNat)]

/-- The first byte of an encoding tells how to read the others, and these bring the character. -/
theorem exists_follow_encodeChar (c : Char) :
    ∃ byte bytes l, utf8EncodeChar c = byte :: bytes ∧ lead? byte = some l ∧
      follow l.bits l.low l.high l.following bytes = .ok (c.val.toNat, []) := by
  have hvalid : c.val.toNat < 0xD800 ∨ 0xDFFF < c.val.toNat ∧ c.val.toNat < 0x110000 := c.valid
  unfold utf8EncodeChar
  generalize c.val.toNat = v at hvalid
  have hlast := UInt8.toNat_ofNat_of_lt' (n := v % 64 + 128) (show _ < 256 by omega)
  by_cases h1 : v ≤ 0x7F
  · have hb := UInt8.toNat_ofNat_of_lt' (n := v) (show _ < 256 by omega)
    refine ⟨_, _, _, if_pos h1, lead?_one (by omega), ?_⟩
    rw [hb, follow]
  by_cases h2 : v ≤ 0x7FF
  · have hb := UInt8.toNat_ofNat_of_lt' (n := v / 64 % 32 + 192) (show _ < 256 by omega)
    refine ⟨_, _, _, (if_neg h1).trans (if_pos h2), lead?_two (by omega) (by omega), ?_⟩
    dsimp only
    rw [follow_cons_of_mem (by omega), hb, hlast, follow, Except.ok.injEq, Prod.mk.injEq]
    exact ⟨by omega, rfl⟩
  have hmiddle := UInt8.toNat_ofNat_of_lt' (n := v / 64 % 64 + 128) (show _ < 256 by omega)
  by_cases h3 : v ≤ 0xFFFF
  · have hb := UInt8.toNat_ofNat_of_lt' (n := v / 4096 % 16 + 224) (show _ < 256 by omega)
    have hrange : ((UInt8.ofNat (v / 4096 % 16 + 224)).toNat = 0xE0 → 0xA0 ≤ v / 64 % 64 + 128) ∧
        ((UInt8.ofNat (v / 4096 % 16 + 224)).toNat = 0xED → v / 64 % 64 + 128 ≤ 0x9F) := by omega
    refine ⟨_, _, _, (if_neg h1).trans ((if_neg h2).trans (if_pos h3)),
      lead?_three (by omega) (by omega), ?_⟩
    dsimp only
    rw [follow_cons_of_mem (by grind), follow_cons_of_mem (by omega), hb, hmiddle, hlast, follow,
      Except.ok.injEq, Prod.mk.injEq]
    exact ⟨by omega, rfl⟩
  · have hb := UInt8.toNat_ofNat_of_lt' (n := v / 262144 % 8 + 240) (show _ < 256 by omega)
    have hfirst := UInt8.toNat_ofNat_of_lt' (n := v / 4096 % 64 + 128) (show _ < 256 by omega)
    have hrange : ((UInt8.ofNat (v / 262144 % 8 + 240)).toNat = 0xF0 →
          0x90 ≤ v / 4096 % 64 + 128) ∧
        ((UInt8.ofNat (v / 262144 % 8 + 240)).toNat = 0xF4 → v / 4096 % 64 + 128 ≤ 0x8F) := by
      omega
    refine ⟨_, _, _, (if_neg h1).trans ((if_neg h2).trans (if_neg h3)),
      lead?_four (by omega) (by omega), ?_⟩
    dsimp only
    rw [follow_cons_of_mem (by grind), follow_cons_of_mem (by omega),
      follow_cons_of_mem (by omega), hb, hfirst, hmiddle, hlast, follow, Except.ok.injEq,
      Prod.mk.injEq]
    exact ⟨by omega, rfl⟩

/-! ## Reading one character -/

/-- A character is read when its first byte begins one and the others follow. -/
theorem readChar_of_follow {byte : UInt8} {l : Lead} {v : Nat} {bytes left : List UInt8}
    (hl : lead? byte = some l)
    (h : follow l.bits l.low l.high l.following bytes = .ok (v, left)) :
    readChar byte bytes = .ok (Char.ofNat v, left) := by
  unfold readChar
  rw [hl]
  simp only [h, Except.map]

/-- What is read from an encoding is its character. -/
theorem readChar_encodeChar (c : Char) (left : List UInt8) :
    ∃ byte bytes, utf8EncodeChar c = byte :: bytes ∧
      readChar byte (bytes ++ left) = .ok (c, left) := by
  obtain ⟨byte, bytes, l, hc, hl, hf⟩ := exists_follow_encodeChar c
  obtain ⟨read, hread, hmore⟩ := follow_eq_ok hf
  rw [List.append_nil] at hread
  subst hread
  refine ⟨byte, bytes, hc, ?_⟩
  rw [readChar_of_follow hl (hmore left), Char.toNat_val, Char.ofNat_toNat]

/-- Reading succeeds on the encodings of characters, whatever follows, and on nothing else. -/
theorem readChar_eq_ok_iff {byte : UInt8} {bytes left : List UInt8} {c : Char} :
    readChar byte bytes = .ok (c, left) ↔ byte :: bytes = utf8EncodeChar c ++ left := by
  constructor
  · intro h
    unfold readChar at h
    split at h
    · simp at h
    · next l hl =>
      cases hf : follow l.bits l.low l.high l.following bytes with
      | error e => simp [hf, Except.map] at h
      | ok r =>
        obtain ⟨v, left'⟩ := r
        obtain ⟨read, rfl, hread⟩ := follow_eq_ok hf
        simp only [hf, Except.map, Except.ok.injEq, Prod.mk.injEq] at h
        obtain ⟨rfl, rfl⟩ := h
        have hexact := hread []
        rw [List.append_nil] at hexact
        rw [encodeChar_of_follow hl hexact, List.cons_append]
  · intro h
    obtain ⟨byte', bytes', hc, hread⟩ := readChar_encodeChar c left
    rw [hc, List.cons_append, List.cons.injEq] at h
    rw [h.1, h.2, hread]

/-- What it means that bytes are refused for a reason: they do not begin with the encoding of a
character, and the reason tells whether no encoding begins with the first of them, whether they are
the beginning of one, or neither. -/
structure Refused (bytes : List UInt8) (reason : Reason) : Prop where
  not_prefix : ∀ c, ¬ utf8EncodeChar c <+: bytes
  start_iff : reason = .invalidStart ↔ ∀ c, (utf8EncodeChar c).head? ≠ bytes.head?
  end_iff : reason = .unexpectedEnd ↔ ∃ c, bytes <+: utf8EncodeChar c ∧ bytes ≠ utf8EncodeChar c
  continuation_iff : reason = .invalidContinuation ↔
    (∃ c, (utf8EncodeChar c).head? = bytes.head?) ∧
      ¬ ∃ c, bytes <+: utf8EncodeChar c ∧ bytes ≠ utf8EncodeChar c

section Refused

variable {byte : UInt8} {bytes : List UInt8}

/-- The encoding of every character begins with a byte that begins a character. -/
theorem head?_encodeChar (c : Char) : ∃ byte l, (utf8EncodeChar c).head? = some byte ∧
    lead? byte = some l := by
  obtain ⟨byte, bytes, l, hc, hl, -⟩ := exists_follow_encodeChar c
  exact ⟨byte, l, by rw [hc, List.head?_cons], hl⟩

/-- An encoding begins with a byte when the byte tells that some bytes may follow. -/
theorem exists_head?_encodeChar {l : Lead} (hl : lead? byte = some l) :
    ∃ c, (utf8EncodeChar c).head? = some byte := by
  obtain ⟨hle, hlt⟩ := bounds_of_lead? hl
  have hread : ∃ bytes v, follow l.bits l.low l.high l.following bytes = .ok (v, []) := by
    cases hn : l.following with
    | zero => exact ⟨[], _, rfl⟩
    | succ n =>
      have hcut : follow l.bits l.low l.high (n + 1) [] = .error .unexpectedEnd := rfl
      obtain ⟨more, v, -, hv⟩ := exists_follow_of_unexpectedEnd hle hlt hcut
      exact ⟨more, v, hv⟩
  obtain ⟨bytes, v, hv⟩ := hread
  exact ⟨Char.ofNat v, by rw [encodeChar_of_follow hl hv, List.head?_cons]⟩

/-- Bytes end inside a character exactly if more bytes would make one of them. -/
theorem unexpectedEnd_iff {l : Lead} (hl : lead? byte = some l) :
    follow l.bits l.low l.high l.following bytes = .error .unexpectedEnd ↔
      ∃ c, byte :: bytes <+: utf8EncodeChar c ∧ byte :: bytes ≠ utf8EncodeChar c := by
  constructor
  · intro h
    obtain ⟨hle, hlt⟩ := bounds_of_lead? hl
    obtain ⟨more, v, hne, hv⟩ := exists_follow_of_unexpectedEnd hle hlt h
    refine ⟨Char.ofNat v, ?_, ?_⟩
    · rw [encodeChar_of_follow hl hv]
      exact ⟨more, rfl⟩
    · rw [encodeChar_of_follow hl hv]
      intro heq
      rw [List.cons.injEq, List.self_eq_append_right] at heq
      exact hne heq.2
  · rintro ⟨c, ⟨more, hmore⟩, hne⟩
    obtain ⟨byte', bytes', l', hc, hl', hf⟩ := exists_follow_encodeChar c
    rw [hc, List.cons_append, List.cons.injEq] at hmore
    obtain ⟨rfl, rfl⟩ := hmore
    rw [hl, Option.some.injEq] at hl'
    subst hl'
    apply follow_of_append _ hf
    rintro rfl
    rw [List.append_nil] at hc
    exact hne hc.symm

/-- The beginning of an encoding has its first byte. -/
theorem head?_eq_of_isPrefix {c : Char} (h : byte :: bytes <+: utf8EncodeChar c) :
    (utf8EncodeChar c).head? = some byte := by
  obtain ⟨more, hmore⟩ := h
  rw [← hmore, List.cons_append, List.head?_cons]

/-- Bytes are refused for how they begin exactly if no encoding begins so. -/
theorem start_iff_of_readChar {reason : Reason} (h : readChar byte bytes = .error reason) :
    reason = .invalidStart ↔ ∀ c, (utf8EncodeChar c).head? ≠ some byte := by
  unfold readChar at h
  split at h
  · next hl =>
    rw [Except.error.injEq] at h
    refine iff_of_true h.symm ?_
    intro c hc
    obtain ⟨byte', l, hhead, hl'⟩ := head?_encodeChar c
    rw [hhead, Option.some.injEq] at hc
    rw [hc, hl] at hl'
    simp at hl'
  · next l hl =>
    obtain ⟨c, hc⟩ := exists_head?_encodeChar hl
    refine iff_of_false ?_ (fun hall => hall c hc)
    rintro rfl
    cases hf : follow l.bits l.low l.high l.following bytes with
    | ok r => simp [hf, Except.map] at h
    | error reason =>
      rw [hf, Except.map, Except.error.injEq] at h
      exact follow_ne_invalidStart _ _ _ _ _ (h ▸ hf)

/-- Bytes are refused for where they end exactly if they are the beginning of an encoding. -/
theorem end_iff_of_readChar {reason : Reason} (h : readChar byte bytes = .error reason) :
    reason = .unexpectedEnd ↔
      ∃ c, byte :: bytes <+: utf8EncodeChar c ∧ byte :: bytes ≠ utf8EncodeChar c := by
  cases hl : lead? byte with
  | none =>
    have hr : reason = .invalidStart := by
      unfold readChar at h
      rw [hl] at h
      exact (Except.error.inj h).symm
    refine iff_of_false (by simp [hr]) ?_
    rintro ⟨c, hc, -⟩
    exact (start_iff_of_readChar h).1 hr c (head?_eq_of_isPrefix hc)
  | some l =>
    rw [← unexpectedEnd_iff hl]
    unfold readChar at h
    simp only [hl] at h
    cases hf : follow l.bits l.low l.high l.following bytes with
    | ok r => simp [hf, Except.map] at h
    | error reason' =>
      rw [hf, Except.map, Except.error.injEq] at h
      rw [h, Except.error.injEq]

/-- When no character is read, the reason is the one that fits the bytes. -/
theorem refused_of_readChar {reason : Reason} (h : readChar byte bytes = .error reason) :
    Refused (byte :: bytes) reason := by
  have hstart := start_iff_of_readChar h
  have hend := end_iff_of_readChar h
  refine ⟨?_, hstart, hend, ?_⟩
  · rintro c ⟨left, hleft⟩
    rw [readChar_eq_ok_iff.2 hleft.symm] at h
    simp at h
  · have hsome : (∃ c, (utf8EncodeChar c).head? = some byte) ↔ reason ≠ .invalidStart := by
      rw [ne_eq, hstart, not_forall]
      simp only [not_not]
    rw [List.head?_cons, hsome, ← hend]
    cases reason <;> simp

end Refused

/-! ## Texts -/

/-- A text is encoded one character after the other. -/
theorem encode_cons (c : Char) (text : List Char) :
    encode (c :: text) = utf8EncodeChar c ++ encode text := List.flatMap_cons

/-- An encoded text is read back wherever it stands, behind any text read before. -/
theorem decodeFrom_encode (offset : Nat) (before text : List Char) :
    decodeFrom offset before (encode text) = .ok (before.reverse ++ text) := by
  induction text generalizing offset before with
  | nil =>
    rw [encode, List.flatMap_nil, decodeFrom, List.append_nil]
  | cons c text ih =>
    obtain ⟨byte, bytes, hc, hread⟩ := readChar_encodeChar c (encode text)
    rw [encode_cons, hc, List.cons_append, decodeFrom]
    split
    · next reason he => simp [hread] at he
    · next c' left he =>
      rw [hread, Except.ok.injEq, Prod.mk.injEq] at he
      rw [← he.1, ← he.2, ih, List.reverse_cons, List.append_assoc, List.singleton_append]

/-- Decoding the bytes of a text brings that text. -/
theorem decode_encode (text : List Char) : decode (encode text) = .ok text :=
  decodeFrom_encode 0 [] text

/-- Decoding comes to the end of the bytes of a text, or it stops behind such bytes where no
character can be read. -/
theorem decodeFrom_spec (offset : Nat) (before : List Char) (bytes : List UInt8) :
    (∃ text, bytes = encode text) ∨
      ∃ text byte rest reason, bytes = encode text ++ byte :: rest ∧
        readChar byte rest = .error reason ∧ decodeFrom offset before bytes =
          .error ⟨offset + (encode text).length, before.reverse ++ text, reason⟩ := by
  fun_induction decodeFrom offset before bytes with
  | case1 offset before => exact .inl ⟨[], rfl⟩
  | case2 offset before byte rest reason h =>
    refine .inr ⟨[], byte, rest, reason, rfl, h, ?_⟩
    rw [List.append_nil]
    rfl
  | case3 offset before byte rest c left h ih =>
    have hbytes := readChar_eq_ok_iff.1 h
    have hlength := congrArg List.length hbytes
    rw [List.length_cons, List.length_append] at hlength
    rcases ih with ⟨text, rfl⟩ | ⟨text, byte', rest', reason, rfl, hr, hd⟩
    · exact .inl ⟨c :: text, by rw [hbytes, encode_cons]⟩
    · refine .inr ⟨c :: text, byte', rest', reason, ?_, hr, ?_⟩
      · rw [hbytes, encode_cons, List.append_assoc]
      · rw [List.length_append] at hlength
        rw [hd, encode_cons, List.length_append, List.length_append, List.reverse_cons,
          List.append_assoc, List.singleton_append, Except.error.injEq, Fault.mk.injEq]
        exact ⟨by omega, rfl, rfl⟩

/-- Bytes encode a text, or a first part of them does and what follows it is refused. -/
theorem decode_spec (bytes : List UInt8) :
    (∃ text, bytes = encode text) ∨
      ∃ fault, decode bytes = .error fault ∧ fault.offset < bytes.length ∧
        bytes.take fault.offset = encode fault.before ∧
        Refused (bytes.drop fault.offset) fault.reason := by
  rcases decodeFrom_spec 0 [] bytes with h | ⟨text, byte, rest, reason, rfl, hr, hd⟩
  · exact .inl h
  · refine .inr ⟨_, hd, ?_, ?_, ?_⟩
    · simp
    · simp
    · simpa using refused_of_readChar hr

end BlockScan.Utf8
