import Intake.Settings.Yaml.Scalar
import Intake.Settings.Yaml.Tag

/-!
# Cutting YAML text into tokens

The mark of a token tells its kind. A key without a mark of its own is found out at the
colon behind it, and its token is then put in front of the tokens it is made of.
-/
namespace Intake.Yaml.Lexer

/-! ### Names -/

/-- Whether a character may stand in the name of an anchor. -/
def isAnchorChar (c : Char) : Bool := !isBlankOrEnd c && !isFlow c && c ≠ '\ufeff'

/-- Reads the name of an anchor or alias. -/
def anchorName (l : Lexer) : Option (String × Lexer) :=
  let l := l.skip 1
  let name := l.run isAnchorChar
  if name.isEmpty then none else some (String.ofList name, l.skip name.length)

/-! ### Directives -/

/-- Reads a number of at most nine digits. -/
def shortNumber (l : Lexer) : Option Lexer :=
  let digits := l.run Char.isDigit
  if digits.isEmpty || 9 < digits.length then none else some (l.skip digits.length)

def version (l : Lexer) : Option Lexer := do
  let l ← (l.skipBlanks (l.run isBlank).length).shortNumber
  if l.next = '.' then (l.skip 1).shortNumber else none

/-- Reads a directive with the end of its line. -/
def directive (l : Lexer) : Option Lexer := do
  let column := l.column
  let l ← (l.unindent (-1)).dropKey
  let l := { l with keyAllowed := false }.skip 1
  let name := l.run isWord
  let l := l.skip name.length
  if name.isEmpty || !isBlankOrEnd l.next then none
  else
    let (t, l) ←
      if name = "YAML".toList then do
        let l ← l.version
        pure (Token.versionDirective, l)
      else if name = "TAG".toList then do
        let (handle, head, l) ← l.tagDeclaration
        pure (Token.tagDirective handle head, l)
      else pure (Token.tagDirective "" "", l.skipLine)
    let l ← l.skipRest
    if isBreakOrEnd l.next then
      some ((if isBreak l.next then l.skipBreak else l).push t column)
    else none

/-! ### Structure -/

def documentMark (l : Lexer) (t : Token) : Option Lexer := do
  let column := l.column
  let l ← (l.unindent (-1)).dropKey
  pure ({ l with keyAllowed := false }.skip 3 |>.push t column)

/-- Reads the mark that opens a flow collection. -/
def openFlow (l : Lexer) (t : Token) : Option Lexer := do
  let l := l.noteKey.indentByOne
  let column := l.column
  if 255 ≤ l.flowLevel then none
  else
    let l := { l with outerKeys := l.simpleKey :: l.outerKeys, simpleKey := {}, keyAllowed := true }
    let l := { l with mappingStarted := l.mappingStarted || t = Token.flowMappingStart }
    let l ← (l.skip 1).skipRest
    pure (l.push t column)

/-- Closes a mapping without marks of its own. -/
def closeImplicit (l : Lexer) : Lexer :=
  if l.implicitMapping then
    { l with implicitMapping := false, mappingStarted := false }.push .flowMappingEnd l.column
  else l

/-- Reads the mark that closes a flow collection. -/
def closeFlow (l : Lexer) (t : Token) : Option Lexer := do
  let l ← l.dropKey
  let l :=
    match l.outerKeys with
    | k :: rest => { l with simpleKey := k, outerKeys := rest }
    | [] => l
  let l := { l with keyAllowed := false }.closeImplicit
  let column := l.column
  let l ← (l.skip 1).skipRest
  let l := if l.inFlow then { l with adjacentValue := l.index } else l
  pure (l.push t column)

def flowComma (l : Lexer) : Option Lexer := do
  let l ← l.dropKey
  let l := { l with keyAllowed := true }.closeImplicit
  let column := l.column
  let l ← (l.skip 1).skipRest
  pure (l.push .flowEntry column)

/-- Whether the last token is an anchor or a tag at the beginning of a line. -/
def afterPropertyAtMargin (l : Lexer) : Bool :=
  match l.tokens.back? with
  | some (.anchor _, 0) => true
  | some (.tag .., 0) => true
  | _ => false

/-- Reads the dash of an entry of a block sequence. -/
def blockDash (l : Lexer) : Option Lexer := do
  if l.inFlow || !l.keyAllowed then none
  else if l.afterPropertyAtMargin && l.column = 0 && -1 < l.indent then none
  else
    let column := l.column
    let l := l.skip 1
    let l := l.openBlock column l.tokens.size .blockSequenceStart
    let (l, passed) ← l.skipTrailing true
    if passed.tabs && l.next = '-' && isBlankOrEnd (l.peek 1) then none
    else
      let (l, _) ← l.skipTrailing false
      let l := if isBreak l.next || isFlow l.next then l.indentByOne else l
      let l ← l.dropKey
      pure ({ l with keyAllowed := true }.push .blockEntry l.column)

/-- Moves past spaces, comments and ends of lines. `spaced` tells that a space or an end of a line
was passed, which is wanted. -/
def skipLines : Nat → Bool → Lexer → Option Lexer
  | 0, spaced, l => if spaced then some l else none
  | fuel + 1, spaced, l =>
    if l.next = ' ' then skipLines fuel true (l.skipBlanks 1)
    else if isBreak l.next then
      let l := l.skipBreak
      skipLines fuel true (if l.inFlow then l else { l with keyAllowed := true })
    else if l.next = '#' then skipLines fuel spaced l.skipLine
    else if spaced then some l
    else none

def keyMark (l : Lexer) : Option Lexer := do
  let column := l.column
  if !l.inFlow && !l.keyAllowed then none
  else
    let l :=
      if l.inFlow then { l with mappingStarted := true }
      else l.openBlock column l.tokens.size .blockMappingStart
    let l ← l.dropKey
    let l := { l with keyAllowed := !l.inFlow }.skip 1
    let l ← skipLines (l.rest.length + 1) false l
    if l.next = '\t' then none else pure (l.push .key column)

def valueMark (l : Lexer) : Option Lexer := do
  let k := l.simpleKey
  let column := l.column
  let line := l.line
  let implicit := l.inFlow && !l.mappingStarted
  let l := { l with implicitMapping := implicit }.skip 1
  let l ←
    if l.next = '\t' then do
      let (l, passed) ← l.skipTrailing true
      if !passed.spaces && isWord l.next then none else some l
    else some l
  let l ←
    if k.possible then
      let l := l.insertToken k.token .key k.column
      if implicit && k.line < line then none
      else
        let l := if implicit then l.insertToken k.token .flowMappingStart l.column else l
        let l := (l.openBlock k.column k.token .blockMappingStart).indentByOne
        some { l with simpleKey := { l.simpleKey with possible := false }, keyAllowed := false }
    else
      let l := if implicit then l.push .flowMappingStart l.column else l
      if l.inFlow then some { l.indentByOne with keyAllowed := false }
      else if !l.keyAllowed then none
      else
        let l := (l.openBlock column l.tokens.size .blockMappingStart).indentByOne
        some { l with keyAllowed := true }
  pure (l.push .value column)

/-! ### Nodes -/

/-- Reads an anchor, alias or tag. -/
def property (l : Lexer) : Option Lexer := do
  let column := l.column
  let l := { l.noteKey with keyAllowed := false }
  if l.next = '!' then
    let (handle, suffix, l) ← l.tagParts
    if isBlankOrEnd l.next || (l.inFlow && isFlow l.next) then
      pure (l.push (.tag handle suffix) column)
    else none
  else
    let make := if l.next = '*' then Token.alias else Token.anchor
    let (name, l) ← l.anchorName
    pure (l.push (make name) column)

def plain (l : Lexer) : Option Lexer := do
  let column := l.column
  let (text, l) ← { l.noteKey with keyAllowed := false }.plainScalar
  pure (l.push (.scalar true text) column)

def quoted (l : Lexer) (single : Bool) : Option Lexer := do
  let column := l.column
  let (text, l) ← { l.noteKey with keyAllowed := false }.quotedScalar single
  let l ← l.toToken
  pure ({ l with adjacentValue := l.index }.push (.scalar false text) column)

def block (l : Lexer) (literal : Bool) : Option Lexer := do
  let column := l.column
  let (text, l) ← { l.noteKey with keyAllowed := true }.blockScalar literal
  pure (l.push (.scalar false text) column)

def finish (l : Lexer) : Option Lexer := do
  let l := if l.column = 0 then l else { l with column := 0, line := l.line + 1 }
  if (l.simpleKey :: l.outerKeys).any fun k => k.required && k.possible then none
  else
    let l := l.unindent (-1)
    pure ({ l with keyAllowed := false }.push .streamEnd 0)

/-- Reads the token that begins with the next character. -/
def token (l : Lexer) : Option Lexer :=
  let following := l.peek 1
  match l.next with
  | '[' => l.openFlow .flowSequenceStart
  | '{' => l.openFlow .flowMappingStart
  | ']' => l.closeFlow .flowSequenceEnd
  | '}' => l.closeFlow .flowMappingEnd
  | ',' => l.flowComma
  | '-' => if isBlankOrEnd following then l.blockDash else l.plain
  | '?' => if isBlankOrEnd following then l.keyMark else l.plain
  | ':' =>
    if isBlankOrEnd following || (l.inFlow && (isFlow following || l.index = l.adjacentValue)) then
      l.valueMark
    else l.plain
  | '*' => l.property
  | '&' => l.property
  | '!' => l.property
  | '|' => if l.inFlow then l.plain else l.block true
  | '>' => if l.inFlow then l.plain else l.block false
  | '\'' => l.quoted true
  | '"' => l.quoted false
  | c => if c = '%' || c = '@' || c.toNat = 0x60 then none else l.plain

/-- Reads the next token. At the beginning of a line, directives and marks between documents come
first. -/
def step (l : Lexer) : Option Lexer := do
  let l ← l.toToken
  let l ← l.dropStaleKey
  let l := l.unindent l.column
  if l.next = endMark then l.finish
  else if l.column = 0 && l.next = '%' then l.directive
  else if l.column = 0 && l.atMark '-' then l.documentMark .documentStart
  else if l.column = 0 && l.atMark '.' then do
    let l ← l.documentMark .documentEnd
    let l ← l.skipRest
    if isBreakOrEnd l.next then some l else none
  else if (l.column : Int) < l.indent then none
  else l.token

/-- Reads tokens up to the end of the text. -/
def steps : Nat → Lexer → Option (List Token)
  | 0, _ => none
  | fuel + 1, l => do
    let l ← l.step
    match l.tokens.back? with
    | some (.streamEnd, _) => some (l.tokens.toList.map (·.1))
    | _ => steps fuel l

def tokens? (text : List Char) : Option (List Token) :=
  let rest := text.takeWhile (· ≠ endMark)
  steps (2 * rest.length + 4) { rest := rest }

end Intake.Yaml.Lexer
