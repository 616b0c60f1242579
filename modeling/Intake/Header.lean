import Intake.Number.Double
import Intake.Text.Bytes

/-!
# Header fields

A header has a name and a value of one of six kinds. Headers are kept in the order of
their names, which is the order of the names' UTF-8 bytes; a name occurs once.
-/
namespace Intake

inductive HeaderValue where
  | flag (value : Bool)
  | whole (value : Int64)
  | double (value : Double)
  | text (value : String)
  | octets (value : ByteArray)
  | null
  deriving DecidableEq

namespace HeaderValue

def asText? : HeaderValue → Option String
  | .text s => some s
  | _ => none

def asWhole? : HeaderValue → Option Int64
  | .whole i => some i
  | _ => none

def asFlag? : HeaderValue → Option Bool
  | .flag b => some b
  | _ => none

/-- Equality of header values: doubles are compared as numbers, different kinds are never equal. -/
def same : HeaderValue → HeaderValue → Bool
  | .double a, .double b => a.same b
  | a, b => a = b

end HeaderValue

/-- Inserts an entry into entries sorted by name, in place of one with the same name. -/
def insertEntry (name : String) (value : HeaderValue) :
    List (String × HeaderValue) → List (String × HeaderValue)
  | [] => [(name, value)]
  | (n, v) :: rest =>
    if name < n then (name, value) :: (n, v) :: rest
    else if name = n then (name, value) :: rest
    else (n, v) :: insertEntry name value rest

theorem mem_insertEntry {name : String} {value : HeaderValue}
    {entries : List (String × HeaderValue)} {e : String × HeaderValue}
    (h : e ∈ insertEntry name value entries) : e = (name, value) ∨ e ∈ entries := by
  induction entries with
  | nil => simpa [insertEntry] using h
  | cons first rest ih =>
    simp only [insertEntry] at h
    split at h
    · simpa using h
    · split at h
      · rcases List.mem_cons.mp h with h | h
        · exact .inl h
        · exact .inr (List.mem_cons_of_mem _ h)
      · rcases List.mem_cons.mp h with h | h
        · exact .inr (by simp [h])
        · rcases ih h with h | h
          · exact .inl h
          · exact .inr (List.mem_cons_of_mem _ h)

def Ascending (entries : List (String × HeaderValue)) : Prop :=
  entries.Pairwise fun a b => a.1 < b.1

theorem ascending_insertEntry (name : String) (value : HeaderValue)
    {entries : List (String × HeaderValue)} (h : Ascending entries) :
    Ascending (insertEntry name value entries) := by
  induction entries with
  | nil => simp [insertEntry, Ascending]
  | cons first rest ih =>
    obtain ⟨below, tail⟩ := List.pairwise_cons.mp h
    simp only [insertEntry]
    split
    next before =>
      refine List.pairwise_cons.mpr ⟨fun e he => ?_, h⟩
      rcases List.mem_cons.mp he with rfl | he
      · exact before
      · exact String.lt_trans before (below e he)
    next notBefore =>
      split
      next equal =>
        refine List.pairwise_cons.mpr ⟨fun e he => ?_, tail⟩
        exact equal ▸ below e he
      next different =>
        refine List.pairwise_cons.mpr ⟨fun e he => ?_, ih tail⟩
        rcases mem_insertEntry he with rfl | he
        · have le : first.1 ≤ name := String.not_lt.mp notBefore
          rcases Decidable.em (first.1 < name) with lt | notLt
          · exact lt
          · exact absurd (String.le_antisymm (String.not_lt.mp notLt) le) different
        · exact below e he

/-- Header fields in the order of their names. -/
structure Headers where
  entries : List (String × HeaderValue)
  ascending : Ascending entries

namespace Headers

instance : DecidableEq Headers := fun a b =>
  if h : a.entries = b.entries then isTrue (by cases a; cases b; cases h; rfl)
  else isFalse fun e => h (e ▸ rfl)

def empty : Headers := ⟨[], List.Pairwise.nil⟩

/-- Sets a header; an earlier value of the name is lost. -/
def insert (h : Headers) (name : String) (value : HeaderValue) : Headers :=
  ⟨insertEntry name value h.entries, ascending_insertEntry name value h.ascending⟩

def find? (h : Headers) (name : String) : Option HeaderValue := h.entries.lookup name

/-- The headers with the given entries; of several with one name, the last counts. -/
def ofList (entries : List (String × HeaderValue)) : Headers :=
  entries.foldl (fun h e => h.insert e.1 e.2) empty

/-- Equality of all names and values, doubles compared as numbers. -/
def same (a b : Headers) : Bool :=
  a.entries.length == b.entries.length &&
    (a.entries.zip b.entries).all fun (x, y) => x.1 == y.1 && x.2.same y.2

end Headers
end Intake
