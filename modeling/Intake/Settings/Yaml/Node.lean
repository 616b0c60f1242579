import Intake.Settings.Value
import Intake.Settings.Yaml.Lexer

/-!
# YAML documents

Documents as trees of nodes, and the settings that a document gives. A plain scalar is read
as a null, a boolean, a number or a text, by its form or by its tag. An alias stands for the
node with its anchor. A mapping holds a key once.
-/
namespace Intake.Yaml

inductive Node where
  | null
  | flag (value : Bool)
  | whole (value : Int64)
  -- a floating-point number, by its text
  | real (text : String)
  | text (value : String)
  | sequence (elements : List Node)
  | mapping (entries : List (Node × Node))
  -- a scalar that does not suit its tag, or an alias within its own node
  | void

/-- What a tag says about a plain scalar. -/
inductive TagMeaning where
  | flag
  | whole
  | real
  | null
  | text

/-- The boolean that a plain scalar spells, in small letters, with a capital or in capitals. -/
def flagOf? (text : String) : Option Bool :=
  if ["true", "True", "TRUE"].contains text then some true
  else if ["false", "False", "FALSE"].contains text then some false
  else none

/-- The words for infinities and for what is not a number. -/
def specialReals : List String :=
  [".inf", ".Inf", ".INF", "+.inf", "+.Inf", "+.INF", "-.inf", "-.Inf", "-.INF", ".nan", ".NaN",
    ".NAN"]

/-- Whether a text spells a floating-point number. -/
def isReal (text : String) : Bool :=
  specialReals.contains text ||
    (text.toList.any Char.isDigit && (Number.double? text.toList).isSome)

/-- The whole number that a plain scalar spells: decimal, or hexadecimal or octal behind a head. -/
def wholeOf? (s : List Char) : Option Int64 :=
  let headed :=
    match s with
    | '0' :: 'x' :: rest => Number.int64? 16 rest
    | '0' :: 'o' :: rest => Number.int64? 8 rest
    | '+' :: rest => Number.int64? 10 rest
    | _ => none
  match headed with
  | some i => some i
  | none => Number.int64? 10 s

/-- A plain scalar without a tag, by its form. -/
def Node.ofPlain (text : String) : Node :=
  if text = "" || text = "~" || text = "null" then .null
  else
    match flagOf? text, wholeOf? text.toList with
    | some b, _ => .flag b
    | none, some i => .whole i
    | none, none => if isReal text then .real text else .text text

def Node.ofTagged (meaning : TagMeaning) (text : String) : Node :=
  match meaning with
  | .flag => ((flagOf? text).map .flag).getD .void
  | .whole =>
    match Number.int64? 10 text.toList with
    | some i => .whole i
    | none => .void
  | .real => if isReal text then .real text else .void
  | .null => if text = "~" || text = "null" then .null else .void
  | .text => .text text

/-- The head of the tags of the common kinds of scalars. -/
def commonHead : String := "tag:yaml.org,2002:"

/-- What a tag with a head and a suffix says. -/
def TagMeaning.of (head suffix : String) : TagMeaning :=
  if head ≠ commonHead then .text
  else if suffix = "bool" then .flag
  else if suffix = "int" then .whole
  else if suffix = "float" then .real
  else if suffix = "null" then .null
  else .text

/-! ### Reading documents -/

structure Reading where
  tokens : List Token
  -- the anchors, newest first; a node is there once it is read
  anchors : List (String × Option Node) := []
  -- the handle of tags that the last directive declares, and what stands for it
  declared : Option (String × String) := none

/-- Reads some tokens; none if they are malformed. -/
abbrev Read (α : Type) := Reading → Option (α × Reading)

namespace Reading

def next (r : Reading) : Token := r.tokens.headD .streamEnd

def skip (r : Reading) : Reading := { r with tokens := r.tokens.tail }

/-- Notes an anchor whose node is still to be read. Gives its place from the end. -/
def openAnchor (r : Reading) (name : String) : Nat × Reading :=
  (r.anchors.length, { r with anchors := (name, none) :: r.anchors })

/-- Notes the node of an anchor. -/
def closeAnchor (r : Reading) (place : Option Nat) (node : Node) : Reading :=
  match place with
  | none => r
  | some n =>
    { r with
      anchors := r.anchors.modify (r.anchors.length - 1 - n) fun a => (a.1, some node) }

/-- What a directive declares to stand for a handle. -/
def head? (r : Reading) (handle : String) : Option String :=
  (r.declared.filter (·.1 = handle)).map (·.2)

/-- What a tag says, by the directives. -/
def meaning? (r : Reading) (handle suffix : String) : Option TagMeaning :=
  if handle = "!!" then some (.of ((r.head? handle).getD commonHead) suffix)
  else
    match r.head? handle with
    | some head => some (.of head suffix)
    | none =>
      let isDeclared := 2 ≤ handle.length && handle.toList.getLast? = some '!'
      if isDeclared then none else some (.of handle suffix)

/-- Reads the anchor and the tag in front of a node, in either order. -/
def properties (r : Reading) : Option (Option Nat × Option TagMeaning × Reading) :=
  match r.next with
  | .anchor name =>
    let (place, r) := r.skip.openAnchor name
    match r.next with
    | .tag handle suffix => (r.meaning? handle suffix).map fun m => (some place, some m, r.skip)
    | _ => some (some place, none, r)
  | .tag handle suffix => do
    let m ← r.meaning? handle suffix
    let r := r.skip
    match r.next with
    | .anchor name =>
      let (place, r) := r.skip.openAnchor name
      some (some place, some m, r)
    | _ => some (none, some m, r)
  | _ => some (none, none, r)

end Reading

/-- The nodes of a mapping, keys and values in turn, as entries. A void key counts for nothing. -/
def pairUp : Option Node → List Node → List (Node × Node)
  | _, [] => []
  | none, .void :: rest => pairUp none rest
  | none, key :: rest => pairUp (some key) rest
  | some key, value :: rest => (key, value) :: pairUp none rest

/-- The name that a key gives an entry, and which kind of key it is. -/
def Node.keyName? : Node → Option (Nat × String)
  | .text s => some (0, s)
  | .whole i => some (1, toString i.toInt)
  | .flag b => some (2, if b then "true" else "false")
  | .real s => some (3, s)
  | .null | .sequence _ | .mapping _ | .void => none

/-- The entries of a mapping; every key must be a scalar and occur once. -/
def Node.ofEntries (nodes : List Node) : Option Node :=
  let entries := pairUp none nodes
  match entries.mapM fun e => e.1.keyName? with
  | none => none
  | some names => if names.Nodup then some (.mapping entries) else none

/-- A node that is left out, which is allowed only behind an anchor or a tag. -/
def empty (place : Option Nat) (meaning : Option TagMeaning) : Read Node := fun r =>
  match place, meaning with
  | none, none => none
  | _, some m => some (.ofTagged m "", r)
  | _, none => some (.null, r)

mutual

/-- Reads a node. `inBlock` tells that block collections may come, and `indentless` that a sequence
may come without being indented. -/
def node (inBlock indentless : Bool) : Nat → Read Node
  | 0, _ => none
  | fuel + 1, r => do
    match r.next with
    | .alias name =>
      match r.anchors.lookup name with
      | none => none
      | some n => some (n.getD .void, r.skip)
    | _ =>
      let (place, meaning, r) ← r.properties
      let (n, r) ← content inBlock indentless place meaning fuel r
      some (n, r.closeAnchor place n)

/-- Reads what follows the anchor and the tag of a node. -/
def content (inBlock indentless : Bool) (place : Option Nat) (meaning : Option TagMeaning) :
    Nat → Read Node
  | 0, _ => none
  | fuel + 1, r =>
    match r.next with
    | .scalar isPlain text =>
      let n :=
        if !isPlain then .text text
        else
          match meaning with
          | some m => .ofTagged m text
          | none => .ofPlain text
      some (n, r.skip)
    | .flowSequenceStart => do
      let (ns, r) ← flowSequence true fuel r.skip
      some (.sequence ns, r)
    | .flowMappingStart => do
      let (ns, r) ← flowMapping true fuel r.skip
      let n ← Node.ofEntries ns
      some (n, r)
    | .blockEntry =>
      if indentless then do
        let (ns, r) ← indentlessSequence fuel r
        some (.sequence ns, r)
      else empty place meaning r
    | .blockSequenceStart =>
      if inBlock then do
        let (ns, r) ← blockSequence fuel r.skip
        some (.sequence ns, r)
      else empty place meaning r
    | .blockMappingStart =>
      if inBlock then do
        let (ns, r) ← blockMapping fuel r.skip
        let n ← Node.ofEntries ns
        some (n, r)
      else empty place meaning r
    | _ => empty place meaning r

/-- Reads the entries of a block sequence and its end. -/
def blockSequence : Nat → Read (List Node)
  | 0, _ => none
  | fuel + 1, r =>
    match r.next with
    | .blockEnd => some ([], r.skip)
    | .blockEntry => do
      let r := r.skip
      let (n, r) ←
        match r.next with
        | .blockEntry => some (.null, r)
        | .blockEnd => some (.null, r)
        | _ => node true false fuel r
      let (ns, r) ← blockSequence fuel r
      some (n :: ns, r)
    | _ => none

/-- Reads the entries of a sequence that is not indented. -/
def indentlessSequence : Nat → Read (List Node)
  | 0, _ => none
  | fuel + 1, r =>
    match r.next with
    | .blockEntry => do
      let r := r.skip
      let (n, r) ←
        match r.next with
        | .blockEntry => some (.null, r)
        | .key => some (.null, r)
        | .value => some (.null, r)
        | .blockEnd => some (.null, r)
        | _ => node true false fuel r
      let (ns, r) ← indentlessSequence fuel r
      some (n :: ns, r)
    | _ => some ([], r)

/-- Reads a key or value of a block mapping, which may be left out. -/
def blockPart : Nat → Read Node
  | 0, _ => none
  | fuel + 1, r =>
    match r.next with
    | .key => some (.null, r)
    | .value => some (.null, r)
    | .blockEnd => some (.null, r)
    | _ => node true true fuel r

/-- Reads the keys and values of a block mapping and its end. -/
def blockMapping : Nat → Read (List Node)
  | 0, _ => none
  | fuel + 1, r =>
    match r.next with
    | .blockEnd => some ([], r.skip)
    | .key => do
      let (key, r) ← blockPart fuel r.skip
      let (value, r) ←
        match r.next with
        | .value => blockPart fuel r.skip
        | _ => some (.null, r)
      let (ns, r) ← blockMapping fuel r
      some (key :: value :: ns, r)
    | .value => do
      let (value, r) ← blockPart fuel r.skip
      let (ns, r) ← blockMapping fuel r
      some (.null :: value :: ns, r)
    | _ => none

/-- Reads the elements of a flow sequence and its end. An element may be a mapping of one key that
begins with its mark. -/
def flowSequence (first : Bool) : Nat → Read (List Node)
  | 0, _ => none
  | fuel + 1, r =>
    match r.next with
    | .flowSequenceEnd => some ([], r.skip)
    | t => do
      let r ←
        if first then some r
        else
          match t with
          | .flowEntry => some r.skip
          | _ => none
      match r.next with
      | .flowSequenceEnd => some ([], r.skip)
      | .key =>
        let (n, r) ← flowPair fuel r.skip
        let (ns, r) ← flowSequence false fuel r
        some (n :: ns, r)
      | _ =>
        let (n, r) ← node false false fuel r
        let (ns, r) ← flowSequence false fuel r
        some (n :: ns, r)

/-- Reads a mapping of one key in a flow sequence, behind the mark of the key. -/
def flowPair : Nat → Read Node
  | 0, _ => none
  | fuel + 1, r => do
    let (key, r) ←
      match r.next with
      | .value => some (.null, r.skip)
      | .flowEntry => some (.null, r.skip)
      | .flowSequenceEnd => some (.null, r.skip)
      | _ => node false false fuel r
    let (value, r) ←
      match r.next with
      | .value =>
        let r := r.skip
        match r.next with
        | .flowEntry => some (.null, r)
        | .flowSequenceEnd => some (.null, r)
        | _ => node false false fuel r
      | _ => some (.null, r)
    let n ← Node.ofEntries [key, value]
    some (n, r)

/-- Reads the keys and values of a flow mapping and its end. -/
def flowMapping (first : Bool) : Nat → Read (List Node)
  | 0, _ => none
  | fuel + 1, r =>
    match r.next with
    | .flowMappingEnd => some ([], r.skip)
    | t => do
      let r ←
        if first then some r
        else
          match t with
          | .flowEntry => some r.skip
          | _ => none
      match r.next with
      | .flowMappingEnd => some ([], r.skip)
      | .key =>
        let r := r.skip
        let (key, r) ←
          match r.next with
          | .value => some (.null, r)
          | .flowEntry => some (.null, r)
          | .flowMappingEnd => some (.null, r)
          | _ => node false false fuel r
        let (value, r) ← flowValue fuel r
        let (ns, r) ← flowMapping false fuel r
        some (key :: value :: ns, r)
      | .value =>
        let (value, r) ← flowValue fuel r
        let (ns, r) ← flowMapping false fuel r
        some (.null :: value :: ns, r)
      | _ =>
        let (key, r) ← node false false fuel r
        let (ns, r) ← flowMapping false fuel r
        some (key :: .null :: ns, r)

/-- Reads the value of a key in a flow mapping, which may be left out. -/
def flowValue : Nat → Read Node
  | 0, _ => none
  | fuel + 1, r =>
    match r.next with
    | .value =>
      let r := r.skip
      match r.next with
      | .flowEntry => some (.null, r)
      | .flowMappingEnd => some (.null, r)
      | _ => node false false fuel r
    | _ => some (.null, r)

end

end Intake.Yaml
