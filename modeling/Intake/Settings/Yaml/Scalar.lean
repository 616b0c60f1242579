import Intake.Number.Reading
import Intake.Settings.Yaml.Token

/-!
# Scalars in YAML text

Plain scalars, quoted scalars, and blocks of lines. Within a plain or quoted scalar the end
of a line is read as a space, and empty lines as ends of lines.
-/
namespace Intake.Yaml.Lexer

/-- Some ends of lines in front of reversed text. -/
def breaksOnto (n : Nat) (acc : List Char) : List Char := List.replicate n '\n' ++ acc

/-- What stands between two words of a scalar. -/
structure Gap where
  -- the blanks on the line of the first word, last first
  blanks : List Char := []
  -- whether that line ended
  broken : Bool := false
  -- the number of empty lines after it
  emptyLines : Nat := 0

/-- Joins lines or blanks to reversed text. `folds` tells that the next word is on another line. -/
def Gap.join (g : Gap) (folds : Bool) (acc : List Char) : List Char :=
  if folds then
    if g.broken && g.emptyLines = 0 then ' ' :: acc else breaksOnto g.emptyLines acc
  else g.blanks ++ acc

/-! ### Plain scalars -/

/-- Whether a character belongs to a plain scalar when another one follows. -/
def isPlain (inFlow : Bool) (c following : Char) : Bool :=
  if c = ':' && (isBlankOrEnd following || (inFlow && isFlow following)) then false
  else !(inFlow && isFlow c)

/-- The word of a plain scalar at the beginning of some text. -/
def plainWord (inFlow : Bool) : List Char → List Char
  | [] => []
  | c :: rest =>
    if !isBlankOrEnd c && isPlain inFlow c (rest.headD endMark) then c :: plainWord inFlow rest
    else []

/-- Reads the blanks and ends of lines after a word of a plain scalar. -/
def plainGap (indent : Int) : Nat → Gap → Lexer → Option (Gap × Lexer)
  | 0, g, l => some (g, l)
  | fuel + 1, g, l =>
    if isBlank l.next then
      if !l.leading then plainGap indent fuel { g with blanks := l.next :: g.blanks } (l.skipBlanks 1)
      else if (l.column : Int) < indent && l.next = '\t' then do
        let l ← l.skipRest
        if isBreakOrEnd l.next then plainGap indent fuel g l else none
      else plainGap indent fuel g (l.skipBlanks 1)
    else if isBreak l.next then
      if l.leading then plainGap indent fuel { g with emptyLines := g.emptyLines + 1 } l.skipBreak
      else plainGap indent fuel { g with blanks := [], broken := true } l.skipBreak
    else some (g, l)

/-- Reads the words of a plain scalar onto reversed text. -/
def plainWords (indent : Int) : Nat → Gap → List Char → Lexer → Option (List Char × Lexer)
  | 0, _, _, _ => none
  | fuel + 1, g, acc, l =>
    if (l.leading && l.atDocumentMark) || l.next = '#' then some (acc, l)
    else if l.inFlow && l.next = '-' && isFlow (l.peek 1) then none
    else
      let word := plainWord l.inFlow l.rest
      let (g, acc, l) :=
        if word.isEmpty then (g, acc, l)
        else ({}, word.reverse ++ g.join l.leading acc, l.skip word.length)
      if !isBlank l.next && !isBreak l.next then some (acc, l)
      else do
        let (g, l) ← plainGap indent (l.rest.length + 1) g l
        if !l.inFlow && (l.column : Int) < indent then some (acc, l)
        else plainWords indent fuel g acc l

/-- Reads a plain scalar, which is not empty. -/
def plainScalar (l : Lexer) : Option (String × Lexer) := do
  let l := dropPlainIndents l.indents l
  let indent := l.indent + 1
  if l.inFlow && (l.column : Int) < indent then none
  else
    let (acc, l) ← plainWords indent (l.rest.length + 1) {} [] l
    let l := if l.leading then { l with keyAllowed := true } else l
    if acc.isEmpty then none else some (String.ofList acc.reverse, l)

/-! ### Quoted scalars -/

/-- The character that a letter after a backslash stands for. -/
def escapedChar? (c : Char) : Option Char :=
  [('0', 0x00), ('a', 0x07), ('b', 0x08), ('t', 0x09), ('\t', 0x09), ('n', 0x0a), ('v', 0x0b),
    ('f', 0x0c), ('r', 0x0d), ('e', 0x1b), (' ', 0x20), ('"', 0x22), ('/', 0x2f), ('\\', 0x5c),
    ('N', 0x85), ('_', 0xa0), ('L', 0x2028), ('P', 0x2029)].lookup c |>.map Char.ofNat

/-- The number of hexadecimal digits after a letter that asks for some. -/
def hexCount? (c : Char) : Option Nat := [('x', 2), ('u', 4), ('U', 8)].lookup c

/-- Reads an escape in a double quoted scalar. -/
def escape (l : Lexer) : Option (Char × Lexer) :=
  match escapedChar? (l.peek 1), hexCount? (l.peek 1) with
  | some c, _ => some (c, l.skip 2)
  | none, some n => do
    let digits := (l.rest.drop 2).take n
    if digits.length = n then
      let c ← Number.charOfHex? digits
      some (c, l.skip (2 + n))
    else none
  | none, none => none

/-- Reads characters of a quoted scalar up to a blank, the end of the line or the closing quote. An
end of line behind a backslash is passed, and then the result is true. -/
def quotedWord (single : Bool) : Nat → List Char → Lexer → Option (List Char × Bool × Lexer)
  | 0, acc, l => some (acc, false, l)
  | fuel + 1, acc, l =>
    if isBlankOrEnd l.next then some (acc, false, l)
    else if single then
      if l.next = '\'' then
        if l.peek 1 = '\'' then quotedWord single fuel ('\'' :: acc) (l.skip 2)
        else some (acc, false, l)
      else quotedWord single fuel (l.next :: acc) (l.skip 1)
    else if l.next = '"' then some (acc, false, l)
    else if l.next = '\\' then
      if isBreak (l.peek 1) then some (acc, true, (l.skip 1).skipBreak)
      else do
        let (c, l) ← l.escape
        quotedWord single fuel (c :: acc) l
    else quotedWord single fuel (l.next :: acc) (l.skip 1)

/-- Reads the blanks and ends of lines after a word of a quoted scalar. `folds` tells that a line
has ended. -/
def quotedGap : Nat → Gap → Bool → Lexer → Option (Gap × Bool × Lexer)
  | 0, g, folds, l => some (g, folds, l)
  | fuel + 1, g, folds, l =>
    if isBlank l.next then
      if !folds then quotedGap fuel { g with blanks := l.next :: g.blanks } folds (l.skipBlanks 1)
      else if l.next = '\t' && (l.column : Int) < l.indent then none
      else quotedGap fuel g folds (l.skipBlanks 1)
    else if isBreak l.next then
      if folds then quotedGap fuel { g with emptyLines := g.emptyLines + 1 } folds l.skipBreak
      else quotedGap fuel { g with blanks := [], broken := true } true l.skipBreak
    else some (g, folds, l)

/-- Reads a quoted scalar onto reversed text, up to its closing quote. -/
def quotedWords (single : Bool) : Nat → List Char → Lexer → Option (List Char × Lexer)
  | 0, _, _ => none
  | fuel + 1, acc, l =>
    if l.atDocumentMark || l.next = endMark || (l.column : Int) < l.indent then none
    else do
      let (acc, folds, l) ← quotedWord single (l.rest.length + 1) acc l
      if l.next = (if single then '\'' else '"') then some (acc, l)
      else
        let (g, folds, l) ← quotedGap (l.rest.length + 1) {} folds l
        quotedWords single fuel (g.join folds acc) l

/-- Reads a quoted scalar. Nothing but a comment, a mark of a collection or the colon of a key may
follow it on its line. -/
def quotedScalar (l : Lexer) (single : Bool) : Option (String × Lexer) := do
  let line := l.line
  let (acc, l) ← quotedWords single (l.rest.length + 1) [] (l.skip 1)
  let l ← (l.skip 1).skipRest
  let c := l.next
  let follows :=
    if l.inFlow then c = ',' || c = '}' || c = ']' || c = ':' else c = ':' && line = l.line
  if isBreakOrEnd c || follows then some (String.ofList acc.reverse, l) else none

/-! ### Blocks of lines -/

/-- What becomes of the ends of lines at the end of a block. -/
inductive Chomping where
  | strip
  | clip
  | keep
  deriving DecidableEq

/-- What the head of a block says: its chomping and its indentation, zero if it is left open. -/
def blockHead (l : Lexer) : Option (Chomping × Nat × Lexer) :=
  let chomping (l : Lexer) : Option (Chomping × Lexer) :=
    if l.next = '+' then some (.keep, l.skip 1)
    else if l.next = '-' then some (.strip, l.skip 1)
    else none
  let indentation (l : Lexer) : Option (Nat × Lexer) :=
    if l.next.isDigit then
      if l.next = '0' then none else some (l.next.toNat - 0x30, l.skip 1)
    else some (0, l)
  match chomping l with
  | some (c, l) => (indentation l).map fun (n, l) => (c, n, l)
  | none =>
    (indentation l).map fun (n, m) =>
      match if n = 0 then none else chomping m with
      | some (c, m) => (c, n, m)
      | none => (.clip, n, m)

/-- Moves past spaces, at most up to a column. -/
def skipSpaces (l : Lexer) (column : Option Nat) : Lexer :=
  let spaces := (l.rest.takeWhile (· = ' ')).length
  l.skipBlanks (match column with
    | some c => min spaces (c - l.column)
    | none => spaces)

/-- Moves past the indentation of the next line of a block and counts the empty lines before. -/
def blockIndent (column : Nat) : Nat → Nat → Lexer → Nat × Lexer
  | 0, n, l => (n, l)
  | fuel + 1, n, l =>
    let l := l.skipSpaces (some column)
    if isBreak l.next then blockIndent column fuel (n + 1) l.skipBreak else (n, l)

/-- Moves to the first line of a block that is not empty. Gives the greatest indentation met and the
number of empty lines. -/
def firstIndent : Nat → Nat → Nat → Lexer → Nat × Nat × Lexer
  | 0, deepest, n, l => (deepest, n, l)
  | fuel + 1, deepest, n, l =>
    let l := l.skipSpaces none
    let deepest := max deepest l.column
    if isBreak l.next then firstIndent fuel deepest (n + 1) l.skipBreak else (deepest, n, l)

/-- The state of reading a block: the reversed text, whether the last line has ended, the number of
empty lines after it, and whether it began with a blank. -/
structure Lines where
  acc : List Char := []
  ended : Bool := false
  emptyLines : Nat
  blank : Bool := false

def blockLines (literal : Bool) (column : Nat) : Nat → Lines → Lexer → Lines × Lexer
  | 0, s, l => (s, l)
  | fuel + 1, s, l =>
    if l.column ≠ column || l.next = endMark || (column = 0 && l.atMark '.') then (s, l)
    else
      let blank := isBlank l.next
      let acc :=
        if !literal && s.ended && !s.blank && !blank then
          if s.emptyLines = 0 then ' ' :: s.acc else breaksOnto s.emptyLines s.acc
        else breaksOnto (s.emptyLines + if s.ended then 1 else 0) s.acc
      let content := l.rest.takeWhile fun c => !isBreakOrEnd c
      let l := l.skipBlanks content.length
      let s := { s with acc := content.reverse ++ acc, ended := false, emptyLines := 0, blank := blank }
      if l.next = endMark then (s, l)
      else
        let (n, l) := blockIndent column (l.rest.length + 1) 0 l.skipBreak
        blockLines literal column fuel { s with ended := true, emptyLines := n } l

/-- Reads a block of lines behind its mark. -/
def blockScalar (l : Lexer) (literal : Bool) : Option (String × Lexer) := do
  let line := l.line
  let l := l.skip 1
  let l := dropPlainIndents l.indents l
  let (chomping, increment, l) ← l.blockHead
  let l ← l.skipRest
  if !isBreakOrEnd l.next then none
  else
    let broken := isBreak l.next
    let l := if broken then l.skipBreak else l
    if l.next = '\t' then none
    else
      let least := (l.indent + 1).toNat
      let (column, n, l) :=
        if increment = 0 then
          let (deepest, n, l) := firstIndent (l.rest.length + 1) 0 0 l
          (max deepest least, n, l)
        else
          let column := if 0 ≤ l.indent then l.indent.toNat + increment else increment
          let (n, l) := blockIndent column (l.rest.length + 1) 0 l
          (column, n, l)
      if l.next = endMark then
        let breaks :=
          if chomping = .strip || l.line = line then 0
          else if chomping = .keep && n ≠ 0 then n
          else if broken then 1 else 0
        some (String.ofList (breaksOnto breaks []), l)
      else if l.column < column && l.indent < l.column then none
      else
        let (s, l) := blockLines literal column (l.rest.length + 1) { emptyLines := n } l
        let acc := s.acc
        let acc :=
          if chomping = .strip then acc
          else
            let acc := if s.ended then '\n' :: acc else acc
            if l.next = endMark && max column 1 ≤ l.column then '\n' :: acc else acc
        let acc := if chomping = .keep then breaksOnto s.emptyLines acc else acc
        some (String.ofList acc.reverse, l)

end Intake.Yaml.Lexer
