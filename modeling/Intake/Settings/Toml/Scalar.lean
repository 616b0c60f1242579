import Intake.Calendar
import Intake.Settings.Value

/-!
# Scalars in TOML text

Strings in quotes, numbers, booleans and points in time. Points in time are kept as text.
-/
namespace Intake.Toml

/-- Reads something at the beginning of a text and gives what is left. -/
abbrev Scan (α : Type) := List Char → Option (α × List Char)

/-- Whether a character may stand in a comment or a string as it is. -/
def isPrinting (c : Char) : Bool := c = '\t' || (0x20 ≤ c.toNat && c.toNat ≠ 0x7f)

def skipBlanks (s : List Char) : List Char := s.dropWhile fun c => c = ' ' || c = '\t'

/-- What follows the end of a line. -/
def newline? : List Char → Option (List Char)
  | '\n' :: rest => some rest
  | '\r' :: '\n' :: rest => some rest
  | _ => none

def skipComment : List Char → List Char
  | '#' :: rest => rest.dropWhile isPrinting
  | s => s

/-! ### Strings -/

/-- Reads what follows the backslash of an escape. -/
def escape : Scan Char
  | 'b' :: rest => some ('\x08', rest)
  | 'e' :: rest => some ('\x1b', rest)
  | 't' :: rest => some ('\t', rest)
  | 'n' :: rest => some ('\n', rest)
  | 'f' :: rest => some ('\x0c', rest)
  | 'r' :: rest => some ('\r', rest)
  | '"' :: rest => some ('"', rest)
  | '\\' :: rest => some ('\\', rest)
  | 'x' :: rest => hexEscape 2 rest
  | 'u' :: rest => hexEscape 4 rest
  | 'U' :: rest => hexEscape 8 rest
  | _ => none
where
  -- Reads a character by its number.
  hexEscape (n : Nat) (s : List Char) : Option (Char × List Char) :=
    let digits := s.take n
    if digits.length = n then (Number.charOfHex? digits).map fun c => (c, s.drop n) else none

/-- Reads a string of one line onto reversed text, up to its quote. -/
def lineString (quote : Char) : Nat → List Char → Scan (List Char)
  | 0, _, _ => none
  | _ + 1, _, [] => none
  | fuel + 1, acc, c :: rest =>
    if c = quote then some (acc.reverse, rest)
    else if c = '\\' && quote = '"' then do
      let (e, rest) ← escape rest
      lineString quote fuel (e :: acc) rest
    else if isPrinting c then lineString quote fuel (c :: acc) rest
    else none

def skipSpace : Nat → List Char → List Char
  | 0, s => s
  | fuel + 1, s =>
    let s := skipBlanks s
    match newline? s with
    | some rest => skipSpace fuel rest
    | none => s

/-- Reads a string of several lines onto reversed text, up to its three quotes. Up to two more
quotes in front of these belong to the string. -/
def linesString (quote : Char) : Nat → List Char → Scan (List Char)
  | 0, _, _ => none
  | _ + 1, _, [] => none
  | fuel + 1, acc, c :: rest =>
    if c = quote then
      let count := min 5 ((c :: rest).takeWhile (· = quote)).length
      let after := (c :: rest).drop count
      if 3 ≤ count then some ((List.replicate (count - 3) quote ++ acc).reverse, after)
      else linesString quote fuel (List.replicate count quote ++ acc) after
    else if c = '\\' && quote = '"' then
      match newline? (skipBlanks rest) with
      | some next => linesString quote fuel acc (skipSpace next.length next)
      | none => do
        let (e, rest) ← escape rest
        linesString quote fuel (e :: acc) rest
    else
      match newline? (c :: rest) with
      | some next => linesString quote fuel ('\n' :: acc) next
      | none => if isPrinting c then linesString quote fuel (c :: acc) rest else none

/-- Reads a string with a quote that is read already. -/
def quoted (quote : Char) (s : List Char) : Option (String × List Char) :=
  let read (r : Option (List Char × List Char)) : Option (String × List Char) :=
    r.map fun (cs, rest) => (String.ofList cs, rest)
  if s.take 2 = [quote, quote] then
    let body := s.drop 2
    let body := (newline? body).getD body
    read (linesString quote (body.length + 1) [] body)
  else read (lineString quote (s.length + 1) [] s)

/-! ### Numbers -/

/-- Digits without the single underscores between them; `afterDigit` tells that a digit came last. -/
def ungroup (isDigit : Char → Bool) : Bool → List Char → Option (List Char)
  | afterDigit, [] => if afterDigit then some [] else none
  | afterDigit, c :: rest =>
    if c = '_' then if afterDigit then ungroup isDigit false rest else none
    else if isDigit c then (ungroup isDigit true rest).map (c :: ·)
    else none

/-- The digits of a whole number, which has no leading zero. -/
def wholeDigits? (s : List Char) : Option (List Char) := do
  let digits ← ungroup Char.isDigit false s
  if digits.head? = some '0' && digits.length ≠ 1 then none else some digits

/-- A sign in front of a number, and what follows. -/
def splitSign : List Char → List Char × List Char
  | '-' :: rest => (['-'], rest)
  | '+' :: rest => (['+'], rest)
  | s => ([], s)

/-- Reads a whole number: decimal, or in another radix behind a head. -/
def whole? (s : List Char) : Option Int64 :=
  let radix (r : Nat) (digits : List Char) : Option Int64 := do
    let digits ← ungroup (fun c => (Number.digit? r c).isSome) false digits
    Number.int64? r digits
  match s with
  | '0' :: 'x' :: rest => radix 16 rest
  | '0' :: 'o' :: rest => radix 8 rest
  | '0' :: 'b' :: rest => radix 2 rest
  | _ => do
    let (sign, digits) := splitSign s
    let digits ← wholeDigits? digits
    Number.int64? 10 (sign ++ digits)

/-- Reads a floating-point number, which is finite unless a word says otherwise. -/
def double? (s : List Char) : Option Double :=
  let (sign, unsigned) := splitSign s
  if unsigned = "inf".toList || unsigned = "nan".toList then Number.double? s
  else do
    let isMark (c : Char) : Bool := c = 'e' || c = 'E'
    let digits ← wholeDigits? (unsigned.takeWhile fun c => c ≠ '.' && !isMark c)
    let rest := unsigned.dropWhile fun c => c ≠ '.' && !isMark c
    let (fraction, rest) ←
      match rest with
      | '.' :: tail => do
        let fraction ← ungroup Char.isDigit false (tail.takeWhile fun c => !isMark c)
        some ('.' :: fraction, tail.dropWhile fun c => !isMark c)
      | _ => some ([], rest)
    let exponent ←
      match rest with
      | [] => if fraction.isEmpty then none else some []
      | _ :: tail => do
        let (sign, e) := splitSign tail
        let e ← ungroup Char.isDigit false e
        some ('e' :: sign ++ e)
    let d ← Number.double? (sign ++ digits ++ fraction ++ exponent)
    if d.isInfinite then none else some d

/-! ### Points in time -/

/-- Reads a number of a fixed count of digits. -/
def fixed (count : Nat) : Scan Nat := fun s => do
  let digits := s.take count
  if digits.length = count then
    let n ← Number.natural? 10 digits
    some (n, s.drop count)
  else none

def mark (c : Char) : List Char → Option (List Char)
  | d :: rest => if d = c then some rest else none
  | [] => none

/-- Reads a date that is in the calendar. -/
def date (s : List Char) : Option (List Char) := do
  let (year, s) ← fixed 4 s
  let (month, s) ← fixed 2 (← mark '-' s)
  let (day, s) ← fixed 2 (← mark '-' s)
  if Calendar.Date.isValid ⟨year, month, day⟩ then some s else none

/-- Reads the seconds of a time of the day, if there are any. -/
def seconds (s : List Char) : Option (List Char) :=
  match s with
  | ':' :: s => do
    let (second, s) ← fixed 2 s
    let s ←
      match s with
      | '.' :: rest =>
        if (rest.takeWhile Char.isDigit).isEmpty then none else some (rest.dropWhile Char.isDigit)
      | _ => some s
    if second ≤ 60 then some s else none
  | _ => some s

/-- Reads a time of the day, which may leave out the seconds. -/
def time (s : List Char) : Option (List Char) := do
  let (hour, s) ← fixed 2 s
  let (minute, s) ← fixed 2 (← mark ':' s)
  if hour < 24 && minute < 60 then seconds s else none

/-- Whether a text is an offset from universal time, or nothing. -/
def isOffset (s : List Char) : Bool :=
  match s with
  | [] => true
  | c :: rest =>
    if c = 'Z' || c = 'z' then rest.isEmpty
    else if c = '+' || c = '-' then
      match (do
        let (hour, s) ← fixed 2 rest
        let (minute, s) ← fixed 2 (← mark ':' s)
        pure (hour < 24 && minute < 60 && s.isEmpty) : Option Bool) with
      | some valid => valid
      | none => false
    else false

/-- Whether a text is a date, a time of the day, or both, perhaps with an offset. -/
def isMoment (s : List Char) : Bool :=
  match date s with
  | some [] => true
  | some (c :: rest) => (c = 'T' || c = 't' || c = ' ') && (time rest).any isOffset
  | none => time s = some []

/-! ### Scalars without quotes -/

def isBareChar (c : Char) : Bool := c.isAlphanum || c = '_' || c = '-'

/-- The characters of numbers, booleans and points in time. -/
def isScalarChar (c : Char) : Bool := isBareChar c || c = '+' || c = '.' || c = ':'

/-- The value of a scalar without quotes. -/
def bareValue? (s : List Char) : Option Setting :=
  if s = "true".toList then some (.flag true)
  else if s = "false".toList then some (.flag false)
  else
    match whole? s, double? s with
    | some i, _ => some (.whole i)
    | none, some d => some (.double d)
    | none, none => if isMoment s then some (.text (String.ofList s)) else none

/-- Reads a scalar without quotes. A date may be followed by a time of the day behind a space. -/
def bare : Scan Setting := fun s =>
  let word := s.takeWhile isScalarChar
  let rest := s.drop word.length
  let (word, rest) :=
    match rest with
    | ' ' :: c :: _ =>
      if c.isDigit && date word = some [] then
        let tail := (rest.drop 1).takeWhile isScalarChar
        (word ++ ' ' :: tail, rest.drop (1 + tail.length))
      else (word, rest)
    | _ => (word, rest)
  (bareValue? word).map fun v => (v, rest)

end Intake.Toml
