import BlockScan.Position

/-!
# Tokens

A token has a kind, a literal text and the span of the text that it was read from.

A scan emits five kinds of tokens. The other kinds are reserved for the grammar of expressions and
block keywords. Every kind has a name and a canonical spelling, and no two kinds share either.
-/

set_option autoImplicit false

namespace BlockScan

/-- The kinds of tokens. -/
inductive TokenKind where
  /-- A character that begins a block but belongs to no known kind of block. -/
  | illegal
  | comment
  /-- The end of the text. -/
  | eof
  | heading
  | paragraph
  | ident
  | integer
  | decimal
  | money
  | period
  | percent
  | text
  | date
  | time
  | eq
  | notEq
  | plus
  | minus
  | mult
  | div
  | lt
  | gt
  | gtEq
  | ltEq
  | lparen
  | rparen
  | lbrace
  | rbrace
  | colon
  | ifWord
  | forWord
  | inWord
  | setWord
  | toWord
  | trueWord
  | falseWord
  | andWord
  | orWord
  | listWord
  | metaBlock
  | defineBlock
  | enumBlock
  | inputsBlock
  | outputsBlock
  | localsBlock
  | codeBlock
  | scopeStart
  | scopeEnd
  | lineEnd
deriving DecidableEq

namespace TokenKind

/-- Every kind of token. -/
def all : List TokenKind := [
  .illegal, .comment, .eof, .heading, .paragraph, .ident, .integer, .decimal, .money, .period,
  .percent, .text, .date, .time, .eq, .notEq, .plus, .minus, .mult, .div, .lt, .gt, .gtEq, .ltEq,
  .lparen, .rparen, .lbrace, .rbrace, .colon, .ifWord, .forWord, .inWord, .setWord, .toWord,
  .trueWord, .falseWord, .andWord, .orWord, .listWord, .metaBlock, .defineBlock, .enumBlock,
  .inputsBlock, .outputsBlock, .localsBlock, .codeBlock, .scopeStart, .scopeEnd, .lineEnd]

/-- The name of a kind. -/
def name : TokenKind → String
  | .illegal => "ILLEGAL"
  | .comment => "COMMENT"
  | .eof => "EOF"
  | .heading => "HEADING"
  | .paragraph => "PARAGRAPH"
  | .ident => "IDENT"
  | .integer => "INTEGER"
  | .decimal => "DECIMAL"
  | .money => "MONEY"
  | .period => "PERIOD"
  | .percent => "PERCENT"
  | .text => "TEXT"
  | .date => "DATE"
  | .time => "TIME"
  | .eq => "EQ"
  | .notEq => "NOT_EQ"
  | .plus => "PLUS"
  | .minus => "MINUS"
  | .mult => "MULT"
  | .div => "DIV"
  | .lt => "LT"
  | .gt => "GT"
  | .gtEq => "GT_EQ"
  | .ltEq => "LT_EQ"
  | .lparen => "LPAREN"
  | .rparen => "RPAREN"
  | .lbrace => "LBRACE"
  | .rbrace => "RBRACE"
  | .colon => "COLON"
  | .ifWord => "IF"
  | .forWord => "FOR"
  | .inWord => "IN"
  | .setWord => "SET"
  | .toWord => "TO"
  | .trueWord => "TRUE"
  | .falseWord => "FALSE"
  | .andWord => "AND"
  | .orWord => "OR"
  | .listWord => "LIST"
  | .metaBlock => "META"
  | .defineBlock => "DEFINE"
  | .enumBlock => "ENUM"
  | .inputsBlock => "INPUTS"
  | .outputsBlock => "OUTPUTS"
  | .localsBlock => "LOCALS"
  | .codeBlock => "CODE"
  | .scopeStart => "SCOPE_START"
  | .scopeEnd => "SCOPE_END"
  | .lineEnd => "LINE_END"

/-- The canonical spelling of a kind. -/
def spelling : TokenKind → String
  | .illegal => "illegal"
  | .comment => "comment"
  | .eof => "EOF"
  | .heading => "heading"
  | .paragraph => "paragraph"
  | .ident => "identifier"
  | .integer => "integer"
  | .decimal => "decimal"
  | .money => "money"
  | .period => "period"
  | .percent => "percent"
  | .text => "text"
  | .date => "date"
  | .time => "time"
  | .eq => "="
  | .notEq => "!="
  | .plus => "+"
  | .minus => "-"
  | .mult => "*"
  | .div => "/"
  | .lt => "<"
  | .gt => ">"
  | .gtEq => ">="
  | .ltEq => "<="
  | .lparen => "("
  | .rparen => ")"
  | .lbrace => "\x7b"
  | .rbrace => "\x7d"
  | .colon => ":"
  | .ifWord => "if"
  | .forWord => "for"
  | .inWord => "in"
  | .setWord => "set"
  | .toWord => "to"
  | .trueWord => "true"
  | .falseWord => "false"
  | .andWord => "and"
  | .orWord => "or"
  | .listWord => "list"
  | .metaBlock => "@meta"
  | .defineBlock => "@define"
  | .enumBlock => "@enum"
  | .inputsBlock => "@inputs"
  | .outputsBlock => "@outputs"
  | .localsBlock => "@locals"
  | .codeBlock => "@code"
  | .scopeStart => "start"
  | .scopeEnd => "end"
  | .lineEnd => ";"

/-- The kinds of tokens that a scan emits. -/
def emitted : List TokenKind := [.heading, .paragraph, .comment, .eof, .illegal]

/-- Whether a scan never emits a kind. -/
def isReserved (k : TokenKind) : Bool := !emitted.contains k

/-- The kinds whose spellings are block keywords. -/
def blockKeywords : List TokenKind :=
  [.metaBlock, .defineBlock, .enumBlock, .inputsBlock, .outputsBlock, .localsBlock, .codeBlock]

/-- The names of the kinds that a scan emits, in order. -/
def emittedNames : List String := (emitted.map name).mergeSort fun a b => decide (a ≤ b)

/-- The kinds of block keywords in the order of their spellings. -/
def blockKeywordsBySpelling : List TokenKind :=
  blockKeywords.mergeSort fun a b => decide (a.spelling ≤ b.spelling)

/-- The kind with a name. -/
def ofName? (name : String) : Option TokenKind := all.find? fun k => k.name == name

/-- The kind with a spelling. -/
def ofSpelling? (spelling : String) : Option TokenKind := all.find? fun k => k.spelling == spelling

/-- The wording of the error for a spelling that no kind has. -/
def unknownSpelling (spelling : String) : String :=
  Text.quoted spelling ++ " is not a valid TokenType"

/-- The kind of a block keyword, for its spelling with the mark in front. -/
def ofBlockKeyword? (word : String) : Option TokenKind :=
  blockKeywords.find? fun k => k.spelling == word

/-- A kind is found by its own name. -/
theorem ofName?_name (k : TokenKind) : ofName? k.name = some k := by cases k <;> decide

end TokenKind

/-- A token. -/
structure Token where
  kind : TokenKind
  literal : String
  span : Span
deriving DecidableEq

namespace Token

/-- The longest literal that is shown in full. -/
def shownLength : Nat := 20

/-- How much of a longer literal is shown. -/
def shownStart : Nat := 17

/-- A literal as it is shown: in full, or the beginning of a long one. -/
def shortened (literal : String) : String :=
  let cs := literal.toList
  if cs.length > shownLength then String.ofList (cs.take shownStart) ++ "..." else literal

/-- The lines and columns of both ends. -/
def extent (t : Token) : String := t.span.start.place ++ "-" ++ t.span.stop.place

/-- The token on one line, a long literal cut. -/
def display (t : Token) : String :=
  "Token(" ++ t.kind.name ++ ", " ++ Text.quoted (shortened t.literal) ++ ", " ++ t.extent ++ ")"

/-- A token of no characters at a position. -/
def point (kind : TokenKind) (literal : String) (p : Position) : Token := ⟨kind, literal, .point p⟩

end Token

end BlockScan
