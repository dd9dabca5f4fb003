import BlockScan.Proofs.Scan.Plain
import BlockScan.Proofs.Text.Encoding
import BlockScan.Session.Store

/-!
# Scanning bytes

Bytes that encode a text are scanned as that text. Any others are refused before anything is
scanned, and the error tells how many of the bytes encode a text and what is wrong with the rest
(`SourceDecodeError.Reports`). Its line and column, which are counted in that text, are those at
which a scan of it ends. The main statement is `scan_bytes`.
-/

set_option autoImplicit false

namespace BlockScan

open Charset

/-- An error tells where bytes stop being a text, and why. -/
structure SourceDecodeError.Reports (e : SourceDecodeError) (file : Option String)
    (data : List UInt8) (n : Nat) (before : List Char) (reason : Utf8.Reason) : Prop where
  offset_lt : n < data.length
  take_eq : data.take n = Utf8.encode before
  decode_take : Utf8.decode (data.take n) = .ok before
  refused : Utf8.Refused (data.drop n) reason
  byteOffset_eq : e.byteOffset = n
  text_eq : e.text = "invalid UTF-8 at byte " ++ Decimal.ofNat n ++ ": " ++ reason.message
  file_eq : e.file = file

/-- A token is the end of every scan of a text that brings tokens, and a plain scan brings some. -/
structure Token.Ends (file : Option String) (text : List Char) (stop : Token) : Prop where
  kind_eq : stop.kind = .eof
  plain : ∃ front, scanPlain file (String.ofList text) = .ok (front ++ [stop])
  scanner : ∀ {ε : Type} (config : ScanConfig ε) (tokens : List Token),
    (config.scanner file text).tokens = .ok tokens → ∃ front, tokens = front ++ [stop]
  scan : ∀ {ε : Type} (s : Store ε) (profile : Option Nat) (config : ScanConfig ε)
    (tokens : List Token),
    (s.scan profile config file (.text (String.ofList text))).1.outcome = .ok tokens →
      ∃ front, tokens = front ++ [stop]

section Scans

variable {ε : Type}

/-- The tokens of a scanner end with the end of the text. -/
theorem tokens_eq_concat_endOfText {s : Scanner ε} {tokens : List Token}
    (h : s.tokens = .ok tokens) : ∃ front, tokens = front ++ [endOfText s.file s.source.text] := by
  rw [Scanner.tokens_eq_readBlocks] at h
  cases hr : s.readBlocks s.source.blocks with
  | error e => simp [hr, Except.map] at h
  | ok front =>
    rw [hr, Except.map, Except.ok.injEq] at h
    exact ⟨front, h.symm⟩

/-- A scan of a text brings what the scanner of the text brings, whether or not it is recorded. -/
theorem outcome_scan_text (s : Store ε) (profile : Option Nat) (config : ScanConfig ε)
    (file : Option String) (text : String) :
    (s.scan profile config file (.text text)).1.outcome =
      (config.scanner file text.toList).tokens.mapError .scan := by
  unfold Store.scan Scanner.tokens
  rw [ScanInput.load]
  cases profile with
  | none => rfl
  | some number =>
    cases ho : (config.scanner file text.toList).run.outcome <;> simp [ho, Except.mapError]

/-- The end of the text ends every scan of it. -/
theorem ends_endOfText (file : Option String) (text : List Char) :
    (endOfText file text).Ends file text where
  kind_eq := rfl
  plain := by
    rw [scanPlain_eq, String.toList_ofList]
    exact ⟨_, rfl⟩
  scanner := by
    intro ε config tokens h
    exact tokens_eq_concat_endOfText h
  scan := by
    intro ε s profile config tokens h
    rw [outcome_scan_text, String.toList_ofList] at h
    cases htokens : (config.scanner file text).tokens with
    | error e => simp [htokens, Except.mapError] at h
    | ok found =>
      rw [htokens, Except.mapError, Except.ok.injEq] at h
      rw [← h]
      exact tokens_eq_concat_endOfText htokens

/-- What a scan brings is decided by the text that is loaded. -/
theorem scan_congr {input input' : ScanInput} {file : Option String}
    (h : input.load ε file = input'.load ε file) (s : Store ε) (profile : Option Nat)
    (config : ScanConfig ε) :
    s.scan profile config file input = s.scan profile config file input' := by
  unfold Store.scan
  rw [h]

/-- What cannot be loaded is not scanned. -/
theorem scan_of_load_eq_error {input : ScanInput} {file : Option String} {e : ScanFailure ε}
    (h : input.load ε file = .error e) (s : Store ε) (profile : Option Nat)
    (config : ScanConfig ε) :
    s.scan profile config file input = (⟨[], 0, .error e⟩, s) := by
  unfold Store.scan
  rw [h]

/-- The encoding of a text is loaded as the text. -/
theorem load_bytes_encode (file : Option String) (text : List Char) :
    (ScanInput.bytes (Utf8.encode text)).load ε file = .ok text := by
  rw [ScanInput.load, Utf8.decode_encode]
  rfl

/-- Bytes with a fault are not loaded. -/
theorem load_bytes_of_fault (ε : Type) {data : List UInt8} {fault : Utf8.Fault}
    (h : Utf8.decode data = .error fault) (file : Option String) :
    (ScanInput.bytes data).load ε file = .error (.undecodable (.ofFault file fault)) := by
  rw [ScanInput.load, h]
  rfl

end Scans

/-- The line and column of an error are those behind the text before the fault. -/
theorem place_ofFault (file : Option String) (fault : Utf8.Fault) :
    (SourceDecodeError.ofFault file fault).line =
        (endOfText file fault.before).span.start.line ∧
      (SourceDecodeError.ofFault file fault).column =
        (endOfText file fault.before).span.start.column := by
  have hwalk := walk_origin fault.before
  constructor
  · show (fault.before.count lineBreak + 1 : Int) = (Cursor.origin.walk fault.before).line
    rw [hwalk]
    exact Int.add_comm _ _
  · show _ = (Cursor.origin.walk fault.before).column
    rw [hwalk]
    rfl

/-- Bytes are scanned as the text that they encode, or refused where they stop to encode one. -/
theorem scan_bytes {ε : Type} (s : Store ε) (profile : Option Nat) (config : ScanConfig ε)
    (file : Option String) (data : List UInt8) :
    (∃ text : String, data = Utf8.encode text.toList ∧
      s.scan profile config file (.bytes data) = s.scan profile config file (.text text)) ∨
    ((∀ text : String, data ≠ Utf8.encode text.toList) ∧ ∃ e n before reason stop,
      s.scan profile config file (.bytes data) = (⟨[], 0, .error (.undecodable e)⟩, s) ∧
      SourceDecodeError.Reports e file data n before reason ∧
      Token.Ends file before stop ∧
      e.line = stop.span.start.line ∧ e.column = stop.span.start.column) := by
  rcases Utf8.decode_spec data with ⟨text, rfl⟩ | ⟨fault, hd, hlt, htake, hrefused⟩
  · refine .inl ⟨String.ofList text, by rw [String.toList_ofList], ?_⟩
    apply scan_congr
    rw [load_bytes_encode]
    show Except.ok text = Except.ok (String.ofList text).toList
    rw [String.toList_ofList]
  · right
    constructor
    · rintro text rfl
      rw [Utf8.decode_encode] at hd
      simp at hd
    · have hload := load_bytes_of_fault ε hd file
      obtain ⟨hline, hcolumn⟩ := place_ofFault file fault
      refine ⟨_, fault.offset, fault.before, fault.reason, endOfText file fault.before,
        scan_of_load_eq_error hload s profile config, ?_, ends_endOfText file fault.before, hline,
        hcolumn⟩
      exact {
        offset_lt := hlt
        take_eq := htake
        decode_take := by rw [htake, Utf8.decode_encode]
        refused := hrefused
        byteOffset_eq := rfl
        text_eq := rfl
        file_eq := rfl }

end BlockScan
