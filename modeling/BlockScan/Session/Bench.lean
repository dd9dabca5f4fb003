import BlockScan.Scan.Input

/-!
# Scanners by hand

A bench is a scanner with the state of its stream. Its tokens can be taken one by one, and in
between its cursor can be moved and its readers can be called by hand. The cursor may be put
anywhere: a character that lies farther back than the text is long cannot be looked at.
-/

set_option autoImplicit false

namespace BlockScan

/-- What can go wrong at a bench. -/
inductive BenchError (ε : Type) where
  | scan (e : ScanError ε)
  /-- The character asked for lies before the text. -/
  | beforeText
  /-- Nothing has this name. -/
  | unknownName (name : String)
deriving DecidableEq

/-- A scanner at work. -/
structure Bench (ε : Type) where
  scanner : Scanner ε
  state : StreamState
  /-- The positions that were saved, by name. -/
  saved : List (String × Position)

/-- What can be done by hand. -/
inductive Handling where
  | peek
  | peekNext
  | atEnd
  | advance
  | jumpTo (target : Int)
  | lineEnd
  | skipBlanks
  | skipGaps
  | position
  | readNext
  | readHeading
  | readParagraph
  | readComment
  | readMarker
  | wordAt (start : Int)
  | save (name : String)
  | restoreSaved (name : String)
  | restore (p : Position)
  | makeToken (kind literal : String)

/-- What handling a scanner brings. -/
inductive Handled where
  | nothing
  | text (s : String)
  | flag (b : Bool)
  | offset (n : Nat)
  | position (p : Position)
  | token (t : Token)

/-- The list of pairs with one pair set. -/
def setPair {α : Type} (name : String) (value : α) : List (String × α) → List (String × α)
  | [] => [(name, value)]
  | (n, v) :: rest =>
    if n = name then (n, value) :: rest else (n, v) :: setPair name value rest

section Pairs

variable {α : Type} {name : String} {pairs : List (String × α)}

/-- A name that is new goes to the end. -/
theorem setPair_of_not_mem (h : name ∉ pairs.map Prod.fst) (value : α) :
    setPair name value pairs = pairs ++ [(name, value)] := by
  induction pairs with
  | nil => rfl
  | cons pair pairs ih =>
    rw [List.map_cons, List.mem_cons, not_or] at h
    rw [setPair, if_neg (Ne.symm h.1), ih h.2, List.cons_append]

/-- The value that was set is found under its name. -/
theorem lookup_setPair_self (name : String) (value : α) (pairs : List (String × α)) :
    (setPair name value pairs).lookup name = some value := by
  induction pairs with
  | nil => simp [setPair]
  | cons pair pairs ih =>
    rw [setPair]
    split
    · next h => simp [h]
    · next h => rw [List.lookup_cons, beq_false_of_ne (Ne.symm h), ih]

/-- Setting one name leaves what is found under the others as it is. -/
theorem lookup_setPair_of_ne {other : String} (h : other ≠ name) (value : α) :
    (setPair other value pairs).lookup name = pairs.lookup name := by
  induction pairs with
  | nil => simp [setPair, List.lookup_cons, beq_false_of_ne (Ne.symm h)]
  | cons pair pairs ih =>
    rw [setPair]
    split
    · next hp =>
      subst hp
      rw [List.lookup_cons, List.lookup_cons, beq_false_of_ne (Ne.symm h)]
    · rw [List.lookup_cons, List.lookup_cons, ih]

end Pairs

namespace Bench

variable {ε : Type}

/-- A bench with a scanner that has read nothing. -/
def ofScanner (s : Scanner ε) : Bench ε := ⟨s, .initial, []⟩

/-- The cursor of a bench. -/
def cursor (b : Bench ε) : Cursor := b.state.cursor

/-- The position of the cursor. -/
def position (b : Bench ε) : Position := .ofCursor b.scanner.file b.cursor

/-- The bench with its cursor elsewhere. -/
def withCursor (b : Bench ε) (c : Cursor) : Bench ε :=
  { b with state := { b.state with cursor := c } }

/-- Whether a character before the text would be looked at, at the cursor. -/
def isBeforeText (b : Bench ε) : Bool := !b.scanner.source.reaches b.cursor.offset

/-- A bench whose stream begins anew at its cursor. -/
def restart (b : Bench ε) : Bench ε := { b with state := { b.state with stage := .opening } }

/-- What a stream has noted before it looks at the first character. -/
def openingLog (b : Bench ε) : List LogRecord :=
  match b.state.stage with
  | .opening => [.started b.scanner.file b.scanner.source.size]
  | _ => []

/-- Takes from the stream with `take`, unless the stream has to look before the text. -/
def guarded {α : Type} (b : Bench ε)
    (take : StreamState × List LogRecord × Except (ScanError ε) α) :
    Bench ε × List LogRecord × Except (BenchError ε) α :=
  if b.state.stage ≠ .finished ∧ b.isBeforeText then
    ({ b with state := { b.state with stage := .finished } }, b.openingLog, .error .beforeText)
  else
    let (state, log, outcome) := take
    ({ b with state }, log, outcome.mapError .scan)

/-- Takes the next token, none when there is no more. -/
def next (b : Bench ε) : Bench ε × List LogRecord × Except (BenchError ε) (Option Token) :=
  let step := b.scanner.next b.state
  b.guarded (step.state, step.log, step.outcome)

/-- Takes all tokens that are left. -/
def rest (b : Bench ε) : Bench ε × List LogRecord × Except (BenchError ε) (List Token) :=
  let run := b.scanner.drain b.state
  b.guarded (run.state, run.log, run.outcome)

/-- Reads a block by hand. -/
def read (b : Bench ε) (block : Block) :
    Bench ε × List LogRecord × Except (BenchError ε) Handled :=
  let reading := block.read b.scanner.options b.scanner.file
  let log := match reading.outcome with
    | .ok t => b.scanner.notes t
    | .error _ => []
  (b.withCursor reading.cursor, log, (reading.outcome.map .token).mapError .scan)

/-- Whether handling a scanner looks at a character before the text. -/
def looksBeforeText (b : Bench ε) : Handling → Bool
  | .peekNext => !b.scanner.source.reaches (b.cursor.offset + 1)
  | .wordAt start => !b.scanner.source.reaches (start + 1)
  | .atEnd | .jumpTo _ | .lineEnd | .position | .save _ | .restoreSaved _ | .restore _
  | .makeToken _ _ => false
  | .peek | .advance | .skipBlanks | .skipGaps | .readNext | .readHeading | .readParagraph
  | .readComment | .readMarker => b.isBeforeText

/-- Handles a scanner. -/
def handle (b : Bench ε) (h : Handling) :
    Bench ε × List LogRecord × Except (BenchError ε) Handled :=
  let source := b.scanner.source
  let textOf (c : Option Char) : Handled := .text (String.ofList c.toList)
  if b.looksBeforeText h then (b, [], .error .beforeText)
  else
    match h with
    | .peek => (b, [], .ok (textOf (source.peek b.cursor)))
    | .peekNext => (b, [], .ok (textOf (source.peekNext b.cursor)))
    | .atEnd => (b, [], .ok (.flag (source.atEnd b.cursor)))
    | .advance =>
      (b.withCursor (source.advance b.cursor), [], .ok (textOf (source.peek b.cursor)))
    | .jumpTo target => (b.withCursor (b.cursor.jumpTo target), [], .ok .nothing)
    | .lineEnd => (b, [], .ok (.offset (source.lineEnd b.cursor)))
    | .skipBlanks => (b.withCursor (source.skip Charset.isBlank b.cursor), [], .ok .nothing)
    | .skipGaps => (b.withCursor (source.skip Charset.isGap b.cursor), [], .ok .nothing)
    | .position => (b, [], .ok (.position b.position))
    | .readNext => b.read (source.blockAt b.cursor)
    | .readHeading => b.read (source.textBlock .heading b.cursor)
    | .readParagraph => b.read (source.textBlock .paragraph b.cursor)
    | .readComment => b.read (source.commentBlock b.cursor)
    | .readMarker => b.read (source.markerBlock b.cursor)
    | .wordAt start => (b, [], .ok (.text (String.ofList (source.wordAt start))))
    | .save name =>
      ({ b with saved := setPair name b.position b.saved }, [], .ok (.position b.position))
    | .restoreSaved name =>
      match b.saved.lookup name with
      | some p => (b.withCursor p.toCursor, [], .ok .nothing)
      | none => (b, [], .error (.unknownName name))
    | .restore p => (b.withCursor p.toCursor, [], .ok .nothing)
    | .makeToken kind literal =>
      match TokenKind.ofName? kind with
      | some kind => (b, [], .ok (.token (.point kind literal b.position)))
      | none => (b, [], .error (.unknownName kind))

end Bench

end BlockScan
