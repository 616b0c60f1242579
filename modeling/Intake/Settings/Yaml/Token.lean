/-!
# YAML tokens

The tokens of YAML text, and the state in which the text is cut into tokens. Nesting by
indentation shows in the tokens: the text opens a block by standing further to the right
and closes it by standing further to the left.
-/
namespace Intake.Yaml

/-- A piece of YAML text. -/
inductive Token where
  | streamEnd
  | versionDirective
  | tagDirective (handle head : String)
  | documentStart
  | documentEnd
  | blockSequenceStart
  | blockMappingStart
  | blockEnd
  | flowSequenceStart
  | flowSequenceEnd
  | flowMappingStart
  | flowMappingEnd
  | blockEntry
  | flowEntry
  | key
  | value
  | alias (name : String)
  | anchor (name : String)
  | tag (handle suffix : String)
  -- `isPlain` tells that the scalar is neither quoted nor a block of lines
  | scalar (isPlain : Bool) (text : String)
  deriving DecidableEq

/-- The character that stands for the end of the text. -/
def endMark : Char := '\x00'

def isBreak (c : Char) : Bool := c = '\n' || c = '\r'

def isBreakOrEnd (c : Char) : Bool := isBreak c || c = endMark

def isBlank (c : Char) : Bool := c = ' ' || c = '\t'

def isBlankOrEnd (c : Char) : Bool := isBlank c || isBreakOrEnd c

/-- The characters that structure flow collections. -/
def isFlow (c : Char) : Bool := c = ',' || c = '[' || c = ']' || c = '{' || c = '}'

/-- A character of a word. -/
def isWord (c : Char) : Bool := c.isAlphanum || c = '_' || c = '-'

/-- A place where a key may have begun without a mark of its own. -/
structure SimpleKey where
  possible : Bool := false
  -- whether the text is malformed if there is no key
  required : Bool := false
  -- the number of tokens before it
  token : Nat := 0
  line : Nat := 0
  column : Nat := 0
  index : Nat := 0

/-- An indentation that was left for a deeper one. -/
structure Indent where
  column : Int
  -- whether the deeper one opened a block
  isBlock : Bool

structure Lexer where
  rest : List Char
  line : Nat := 0
  column : Nat := 0
  index : Nat := 0
  -- the tokens so far, and the columns where they begin
  tokens : Array (Token × Nat) := #[]
  -- the column of the innermost block
  indent : Int := -1
  -- the indentations that were left, innermost first
  indents : List Indent := []
  -- whether a simple key may begin here
  keyAllowed : Bool := true
  -- the innermost place of a simple key, and those of the collections around
  simpleKey : SimpleKey := {}
  outerKeys : List SimpleKey := []
  -- whether the line holds blanks only, up to here
  leading : Bool := true
  -- whether a flow mapping was begun by a mark of its own
  mappingStarted : Bool := false
  -- whether a flow mapping was begun without marks, by the colon of its only key
  implicitMapping : Bool := false
  -- the place right behind a quoted key, where a value may follow at once
  adjacentValue : Nat := 0

namespace Lexer

def flowLevel (l : Lexer) : Nat := l.outerKeys.length

def inFlow (l : Lexer) : Bool := l.flowLevel ≠ 0

/-- The character that comes after `n` others. -/
def peek (l : Lexer) (n : Nat) : Char := l.rest.getD n endMark

def next (l : Lexer) : Char := l.peek 0

/-- The characters at the beginning of the text that meet a condition. -/
def run (l : Lexer) (p : Char → Bool) : List Char := l.rest.takeWhile p

def skipBlanks (l : Lexer) (n : Nat) : Lexer :=
  { l with rest := l.rest.drop n, column := l.column + n, index := l.index + n }

def skip (l : Lexer) (n : Nat) : Lexer := { l.skipBlanks n with leading := false }

def skipBreak (l : Lexer) : Lexer :=
  let n := if l.next = '\r' && l.peek 1 = '\n' then 2 else 1
  { l with rest := l.rest.drop n, index := l.index + n, line := l.line + 1, column := 0
           leading := true }

/-- Moves past the characters up to the end of the line. -/
def skipLine (l : Lexer) : Lexer :=
  l.skipBlanks (l.rest.takeWhile fun c => !isBreakOrEnd c).length

/-- Whether three marks that begin or end a document come next. -/
def atMark (l : Lexer) (mark : Char) : Bool :=
  l.next = mark && l.peek 1 = mark && l.peek 2 = mark && isBlankOrEnd (l.peek 3)

/-- Whether the line begins with a mark between documents. -/
def atDocumentMark (l : Lexer) : Bool := l.column = 0 && (l.atMark '-' || l.atMark '.')

/-- The blanks that were passed on the way to the end of a line. -/
structure Passed where
  tabs : Bool
  spaces : Bool

/-- Moves past blanks and a comment on the same line. A comment must stand behind a blank. -/
def skipTrailing (l : Lexer) (tabs : Bool) : Option (Lexer × Passed) :=
  let blanks := l.rest.takeWhile fun c => c = ' ' || (tabs && c = '\t')
  let passed : Passed := ⟨blanks.contains '\t', blanks.contains ' '⟩
  let l := l.skipBlanks blanks.length
  if l.next = '#' then if blanks.isEmpty then none else some (l.skipLine, passed)
  else some (l, passed)

/-- Moves past blanks and a comment, whichever blanks they are. -/
def skipRest (l : Lexer) : Option Lexer := (l.skipTrailing true).map (·.1)

/-- Moves to where the next token begins. Tabs do not indent. -/
def skipToToken : Nat → Lexer → Option Lexer
  | 0, l => some l
  | fuel + 1, l =>
    if l.next = '\t' && !l.indents.isEmpty && l.leading && (l.column : Int) < l.indent then do
      let l ← l.skipRest
      if isBreakOrEnd l.next then skipToToken fuel l else none
    else if isBlank l.next then skipToToken fuel (l.skipBlanks 1)
    else if isBreak l.next then
      let l := l.skipBreak
      skipToToken fuel (if l.inFlow then l else { l with keyAllowed := true })
    else if l.next = '#' then skipToToken fuel l.skipLine
    else some l

/-- Moves to where the next token begins. -/
def toToken (l : Lexer) : Option Lexer := skipToToken (l.rest.length + 1) l

/-! ### Tokens -/

/-- Adds a token that begins at a column. -/
def push (l : Lexer) (t : Token) (column : Nat) : Lexer :=
  { l with tokens := l.tokens.push (t, column) }

/-- Adds a token in front of those from the `n`th on. -/
def insertToken (l : Lexer) (n : Nat) (t : Token) (column : Nat) : Lexer :=
  { l with tokens := (l.tokens.extract 0 n).push (t, column) ++ l.tokens.extract n l.tokens.size }

/-! ### Indentation -/

/-- Closes the blocks that stand further to the right than a column. -/
def closeBlocks (column : Int) : List Indent → Lexer → Lexer
  | [], l => l
  | i :: rest, l =>
    if column < l.indent then
      let l := { l with indent := i.column, indents := rest }
      closeBlocks column rest (if i.isBlock then l.push .blockEnd l.column else l)
    else l

/-- Closes blocks, unless a flow collection is open. -/
def unindent (l : Lexer) (column : Int) : Lexer :=
  if l.inFlow then l else closeBlocks column l.indents l

/-- Forgets an innermost indentation that opened no block. -/
def dropPlainIndent (l : Lexer) : Lexer :=
  match l.indents with
  | i :: rest => if i.isBlock then l else { l with indent := i.column, indents := rest }
  | [] => l

/-- Opens a block at a column if that stands further to the right; its token goes to place `n`. -/
def openBlock (l : Lexer) (column : Nat) (n : Nat) (t : Token) : Lexer :=
  if l.inFlow then l
  else
    let l := if l.indent ≤ column then l.dropPlainIndent else l
    if l.indent < column then
      { l.insertToken n t column with
        indents := ⟨l.indent, true⟩ :: l.indents, indent := column }
    else l

/-- Asks that what follows stands at least one column further to the right. -/
def indentByOne (l : Lexer) : Lexer :=
  match l.indents with
  | i :: _ =>
    if !l.inFlow && i.isBlock then
      { l with indents := ⟨l.indent, false⟩ :: l.indents, indent := l.indent + 1 }
    else l
  | [] => l

/-- Forgets indentations that opened no block. -/
def dropPlainIndents : List Indent → Lexer → Lexer
  | [], l => l
  | i :: rest, l =>
    if i.isBlock then l
    else dropPlainIndents rest { l with indent := i.column, indents := rest }

/-! ### Simple keys -/

/-- Notes that a simple key may begin here. -/
def noteKey (l : Lexer) : Lexer :=
  if l.keyAllowed then
    { l with
      simpleKey :=
        { possible := true
          required := !l.inFlow && l.indent = l.column && (l.indents.head?.any (·.isBlock))
          token := l.tokens.size, line := l.line, column := l.column, index := l.index } }
  else l

def dropKey (l : Lexer) : Option Lexer :=
  if l.simpleKey.possible && l.simpleKey.required then none
  else some { l with simpleKey := { l.simpleKey with possible := false } }

/-- Gives up a simple key that would be too long or go over several lines. -/
def dropStaleKey (l : Lexer) : Option Lexer :=
  let k := l.simpleKey
  if k.possible && !l.inFlow && (k.line < l.line || k.index + 1024 < l.index) then l.dropKey
  else some l

end Lexer
end Intake.Yaml
