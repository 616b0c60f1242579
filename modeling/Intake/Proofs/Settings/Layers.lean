import Intake.Proofs.Number.Numerals
import Intake.Proofs.Settings.Tables

/-!
# Layers of settings

A configuration has six fields, and every source may give some of them. To put a source over what
other sources gave changes the fields that it gives, and no others (`valueIn_overlay`). What a file
gives is found in its sections, and what an environment gives is found at its variables.
-/
namespace Intake

/-! ### Searches in entries -/

theorem findSome?_congr {α β : Type} {l : List α} {f g : α → Option β}
    (same : ∀ a ∈ l, f a = g a) : l.findSome? f = l.findSome? g := by
  induction l with
  | nil => rfl
  | cons a l ih =>
    rw [List.findSome?_cons, List.findSome?_cons, same a List.mem_cons_self,
      ih fun b member => same b (List.mem_cons_of_mem _ member)]

theorem mem_of_lookup_eq_some {α : Type} {entries : List (String × α)} {name : String} {value : α}
    (found : entries.lookup name = some value) : (name, value) ∈ entries := by
  obtain ⟨before, after, rfl, -⟩ := List.lookup_eq_some_iff.mp found
  simp

/-- Where every name comes once, the entry of a name can be looked up. -/
theorem findSome?_eq_bind_lookup {α β : Type} {entries : List (String × α)}
    (distinct : Distinct entries) (name : String) (f : α → Option β) :
    (entries.findSome? fun e => if e.1 = name then f e.2 else none) =
      (entries.lookup name).bind f := by
  induction entries with
  | nil => rfl
  | cons first rest ih =>
    obtain ⟨n, v⟩ := first
    obtain ⟨alone, others⟩ := distinct_cons_iff.mp distinct
    rw [List.findSome?_cons, ih others, List.lookup_cons]
    by_cases same : n = name
    · subst same
      cases here : f v <;> simp [here, alone]
    · simp [same, beq_eq_false_iff_ne.mpr (Ne.symm same)]

namespace Setting

/-! ### Lookups in tables -/

theorem lookup_setEntry (name other : String) (value : Setting)
    (entries : List (String × Setting)) :
    (setEntry name value entries).lookup other =
      if other = name then some value else entries.lookup other := by
  induction entries with
  | nil =>
    simp only [setEntry, List.lookup_cons, List.lookup_nil]
    by_cases same : other = name
    · simp [same]
    · simp [same, beq_eq_false_iff_ne.mpr same]
  | cons first rest ih =>
    obtain ⟨n, v⟩ := first
    simp only [setEntry]
    by_cases here : n = name
    · subst here
      by_cases same : other = n
      · simp [same]
      · simp [List.lookup_cons, same, beq_eq_false_iff_ne.mpr same]
    · rw [if_neg here, List.lookup_cons, List.lookup_cons, ih]
      by_cases same : other = n
      · simp [same, here]
      · simp [beq_eq_false_iff_ne.mpr same]

@[simp] theorem find?_insert (s : Setting) (name other : String) (value : Setting) :
    (s.insert name value).find? other = if other = name then some value else s.find? other :=
  lookup_setEntry name other value s.entries

@[simp] theorem isTable_insert (s : Setting) (name : String) (value : Setting) :
    (s.insert name value).isTable = true := rfl

theorem put_of_plain {value : Setting} (plain : value.isTable = false) (target : Setting)
    (name : String) : target.put name value = target.insert name value := by
  cases value with
  | table entries => cases plain
  | _ => rfl

theorem isTable_iff {s : Setting} : s.isTable = true ↔ ∃ entries, s = .table entries := by
  cases s with
  | table entries => exact ⟨fun _ => ⟨entries, rfl⟩, fun _ => rfl⟩
  | _ => exact ⟨nofun, by rintro ⟨entries, ⟨⟩⟩⟩

/-- Of names that come once, each has the value that comes with it, and the others keep theirs. -/
theorem find?_putAll {incoming : List (String × Setting)} (distinct : Distinct incoming)
    (plain : ∀ e ∈ incoming, e.2.isTable = false) (target : Setting) (name : String) :
    (putAll target incoming).find? name = (incoming.lookup name).or (target.find? name) := by
  induction incoming generalizing target with
  | nil => rfl
  | cons first incoming ih =>
    obtain ⟨n, v⟩ := first
    obtain ⟨alone, others⟩ := distinct_cons_iff.mp distinct
    rw [putAll, put_of_plain (plain _ List.mem_cons_self),
      ih others fun e member => plain e (List.mem_cons_of_mem _ member), find?_insert,
      List.lookup_cons]
    by_cases same : name = n
    · subst same
      simp [alone]
    · simp [same, beq_eq_false_iff_ne.mpr same]

theorem isTable_putAll {target : Setting} (table : target.isTable = true)
    {incoming : List (String × Setting)} (plain : ∀ e ∈ incoming, e.2.isTable = false) :
    (putAll target incoming).isTable = true := by
  induction incoming generalizing target with
  | nil => exact table
  | cons first incoming ih =>
    rw [putAll, put_of_plain (plain _ List.mem_cons_self)]
    exact ih (isTable_insert ..) fun e member => plain e (List.mem_cons_of_mem _ member)

end Setting

namespace BridgeConfig

open Setting (Part pathOf overlay putAt)

/-! ### Fields -/

/-- The fields of a configuration. -/
inductive Field where
  | batchingSize
  | cancelTimeoutMs
  | requeueOnOverflow
  | requeueAfterCancel
  | timeoutMs
  | maxMessages
  deriving DecidableEq

namespace Field

/-- The section that a field belongs to. -/
def owner : Field → String
  | batchingSize | cancelTimeoutMs | requeueOnOverflow | requeueAfterCancel => "consumer"
  | timeoutMs | maxMessages => "browse"

def name : Field → String
  | batchingSize => "batching_size"
  | cancelTimeoutMs => "cancel_timeout_ms"
  | requeueOnOverflow => "requeue_on_overflow"
  | requeueAfterCancel => "requeue_after_cancel"
  | timeoutMs => "timeout_ms"
  | maxMessages => "max_messages"

/-- The type of the values of a field. -/
def Value : Field → Type
  | batchingSize | cancelTimeoutMs | timeoutMs | maxMessages => UInt64
  | requeueOnOverflow | requeueAfterCancel => Bool

def get (c : BridgeConfig) : (f : Field) → f.Value
  | batchingSize => c.consumer.batchingSize
  | cancelTimeoutMs => c.consumer.cancelTimeoutMs
  | requeueOnOverflow => c.consumer.requeueOnOverflow
  | requeueAfterCancel => c.consumer.requeueAfterCancel
  | timeoutMs => c.browse.timeoutMs
  | maxMessages => c.browse.maxMessages

def default (f : Field) : f.Value := f.get {}

/-- Reads a setting where the field is wanted. -/
def read : (f : Field) → Setting → Option f.Value
  | batchingSize | cancelTimeoutMs | timeoutMs | maxMessages => Setting.asWord?
  | requeueOnOverflow | requeueAfterCancel => Setting.asFlag?

/-- What a tree of settings gives for a field. -/
def valueIn (f : Field) (s : Setting) : Option Setting := (s.find? f.owner).bind (·.find? f.name)

/-- The name of the variable for a field, in lower case. -/
def variableName (f : Field) : String := "bridge__" ++ f.owner ++ "__" ++ f.name

/-- Whether a variable is the one for a field. The case of its letters does not matter. -/
def IsSetBy (f : Field) (variableName : String) : Prop :=
  Text.asciiLower variableName.toList = f.variableName.toList

instance (f : Field) (variableName : String) : Decidable (f.IsSetBy variableName) :=
  inferInstanceAs (Decidable (_ = _))

/-- The path of a field, as the root of a source may name it. -/
def path (f : Field) : String := f.owner ++ "." ++ f.name

end Field

open BridgeConfig.Field

/-! ### Sources -/

/-- A table of the given sections with fields of theirs, all with values that can be read. -/
def FileFits (file : List (String × Setting)) : Prop :=
  ∀ e ∈ file, (∃ f : Field, e.1 = f.owner) ∧ ∃ fields, e.2 = .table fields ∧
    ∀ v ∈ fields, ∃ f : Field, f.owner = e.1 ∧ f.name = v.1 ∧ (f.read v.2).isSome

/-- Every variable that begins as those for settings do is the one for a field and has a value that
can be read, and no two variables are for the same field. -/
structure EnvironmentFits (bindings : List (String × String)) : Prop where
  known : ∀ b ∈ bindings, Environment.head <+: Text.asciiLower b.1.toList →
    ∃ f : Field, f.IsSetBy b.1 ∧ (f.read (Environment.settingValue b.2)).isSome
  once : bindings.Pairwise fun b b' => ∀ f : Field, f.IsSetBy b.1 → ¬ f.IsSetBy b'.1

/-! ### One entry of a source -/

theorem pathOf_owner (f : Field) : pathOf f.owner = [.name f.owner] := by
  cases f <;> decide

theorem pathOf_path (f : Field) : pathOf f.path = [.name f.owner, .name f.name] := by
  cases f <;> decide

theorem path_ne_owner (f g : Field) : f.path ≠ g.owner := by
  cases f <;> cases g <;> decide

theorem path_injective {f g : Field} (same : f.path = g.path) : f = g := by
  revert same
  cases f <;> cases g <;> decide

theorem field_unique {f g : Field} (owner : f.owner = g.owner) (name : f.name = g.name) : f = g :=
  path_injective (by rw [Field.path, Field.path, owner, name])

/-- What an entry at the root of a source gives for a field. -/
def Field.given? (f : Field) (e : String × Setting) : Option Setting :=
  if e.1 = f.owner then e.2.find? f.name else if e.1 = f.path then some e.2 else none

/-- An entry of a source: a section with values of fields, or the value of one field. -/
inductive Gives : String × Setting → Prop
  | fields (f : Field) {fields : List (String × Setting)} (distinct : Distinct fields)
      (plain : ∀ v ∈ fields, v.2.isTable = false) : Gives (f.owner, .table fields)
  | field (f : Field) {value : Setting} (plain : value.isTable = false) : Gives (f.path, value)

/-- A table whose sections are tables. -/
def Shaped (s : Setting) : Prop :=
  s.isTable = true ∧ ∀ (f : Field) v, s.find? f.owner = some v → v.isTable = true

theorem Shaped.insert {s : Setting} (shaped : Shaped s) {f : Field} {table : Setting}
    (isTable : table.isTable = true) : Shaped (s.insert f.owner table) := by
  refine ⟨rfl, fun g v found => ?_⟩
  rw [Setting.find?_insert] at found
  split at found
  · cases found
    exact isTable
  · exact shaped.2 g v found

/-- An entry changes the fields that it gives, and no others. -/
theorem Gives.putAt {e : String × Setting} (gives : Gives e) {s : Setting} (shaped : Shaped s) :
    Shaped (Setting.putAt e.2 (pathOf e.1) s) ∧
      ∀ f : Field, f.valueIn (Setting.putAt e.2 (pathOf e.1) s) = (f.given? e).or (f.valueIn s) := by
  cases gives with
  | fields g distinct plain =>
    rename_i fields
    -- The values of a section go one by one into the table that is there, or into an empty one.
    rw [pathOf_owner]
    simp only [Setting.putAt, Setting.put]
    have table : ((s.find? g.owner).getD Setting.emptyTable).isTable = true := by
      cases found : s.find? g.owner with
      | none => rfl
      | some v => exact shaped.2 g v found
    refine ⟨shaped.insert (Setting.isTable_putAll table plain), fun f => ?_⟩
    simp only [valueIn, given?, Setting.find?_insert]
    by_cases own : f.owner = g.owner
    · simp only [own, if_true, Option.bind_some]
      rw [Setting.find?_putAll distinct plain]
      cases found : s.find? g.owner with
      | none => rfl
      | some v => rfl
    · simp [own, Ne.symm own, (path_ne_owner f g).symm]
  | field g plain =>
    rename_i value
    -- The value goes to its name in the table of the section, which keeps its other values.
    rw [pathOf_path]
    simp only [Setting.putAt, Setting.put_of_plain plain]
    refine ⟨shaped.insert (Setting.isTable_insert ..), fun f => ?_⟩
    simp only [valueIn, given?, Setting.find?_insert, path_ne_owner, if_false]
    by_cases own : f.owner = g.owner
    · by_cases named : f.name = g.name
      · cases field_unique own named
        simp
      · have other : g.path ≠ f.path :=
          fun same => named (congrArg Field.name (path_injective same)).symm
        simp only [own, named, other, if_true, if_false, Option.bind_some, Setting.find?_insert,
          Option.none_or]
        cases found : s.find? g.owner with
        | none => rfl
        | some v => rfl
    · have other : g.path ≠ f.path :=
        fun same => own (congrArg Field.owner (path_injective same)).symm
      simp [own, other]

/-! ### Whole sources -/

/-- A source that gives no field twice changes the fields that it gives, and no others. -/
theorem valueIn_overlay {source : List (String × Setting)} (gives : ∀ e ∈ source, Gives e)
    (once : ∀ f : Field, source.Pairwise fun e e' => (f.given? e).isSome → f.given? e' = none)
    {s : Setting} (shaped : Shaped s) :
    Shaped (overlay s source) ∧
      ∀ f : Field, f.valueIn (overlay s source) = (source.findSome? f.given?).or (f.valueIn s) := by
  induction source generalizing s with
  | nil => exact ⟨shaped, fun f => rfl⟩
  | cons e source ih =>
    obtain ⟨shaped', changes⟩ := (gives e List.mem_cons_self).putAt shaped
    obtain ⟨shaped'', others⟩ := ih (fun e' member => gives e' (List.mem_cons_of_mem _ member))
      (fun f => (List.pairwise_cons.mp (once f)).2) shaped'
    refine ⟨shaped'', fun f => ?_⟩
    rw [overlay, List.foldl_cons, ← overlay, others, changes, List.findSome?_cons]
    cases here : f.given? e with
    | none => simp
    | some v =>
      -- No later entry takes the place of what the first one gives.
      have nothing : source.findSome? f.given? = none := by
        rw [List.findSome?_eq_none_iff]
        intro e' member
        exact (List.pairwise_cons.mp (once f)).1 e' member (by rw [here]; rfl)
      simp [nothing]

/-- A table is no value of a field. -/
theorem plain_of_read {f : Field} {v : Setting} (reads : (f.read v).isSome) : v.isTable = false := by
  cases v with
  | table entries => cases f <;> cases reads
  | _ => rfl

/-! #### Files -/

section File

variable {file : List (String × Setting)}

theorem FileFits.gives (fits : FileFits file) (tidy : Setting.Tidy (.table file)) :
    ∀ e ∈ file, Gives e := by
  rintro ⟨owner, value⟩ member
  obtain ⟨⟨f, rfl⟩, fields, rfl, known⟩ := fits _ member
  refine .fields f (tidy.each _ member).distinct fun v inside => ?_
  obtain ⟨g, -, -, reads⟩ := known v inside
  exact plain_of_read reads

theorem FileFits.given? (fits : FileFits file) (f : Field) {e : String × Setting}
    (member : e ∈ file) : f.given? e = if e.1 = f.owner then e.2.find? f.name else none := by
  obtain ⟨⟨g, named⟩, -⟩ := fits e member
  rw [Field.given?, named, if_neg (path_ne_owner f g).symm]

theorem FileFits.gives_once (fits : FileFits file) (tidy : Setting.Tidy (.table file)) (f : Field) :
    file.Pairwise fun e e' => (f.given? e).isSome → f.given? e' = none := by
  have distinct : file.Pairwise fun e e' => e.1 ≠ e'.1 := List.pairwise_map.mp tidy.distinct
  refine distinct.imp_of_mem fun {e e'} member member' different given => ?_
  rw [fits.given? f member] at given
  rw [fits.given? f member', if_neg]
  split at given
  · next own => exact fun own' => different (own.trans own'.symm)
  · cases given

/-- A file gives what is found in its sections. -/
theorem FileFits.findSome?_given? (fits : FileFits file) (tidy : Setting.Tidy (.table file))
    (f : Field) : file.findSome? f.given? = f.valueIn (.table file) :=
  calc file.findSome? f.given?
    _ = file.findSome? fun e => if e.1 = f.owner then e.2.find? f.name else none :=
      findSome?_congr fun _ member => fits.given? f member
    _ = (file.lookup f.owner).bind (·.find? f.name) :=
      findSome?_eq_bind_lookup tidy.distinct f.owner fun table => table.find? f.name

/-- What a file gives for a field can be read. -/
theorem FileFits.reads (fits : FileFits file) {f : Field} {v : Setting}
    (given : f.valueIn (.table file) = some v) : (f.read v).isSome := by
  obtain ⟨table, here, found⟩ := Option.bind_eq_some_iff.mp given
  obtain ⟨-, fields, rfl, known⟩ := fits _ (mem_of_lookup_eq_some here)
  obtain ⟨g, owner, name, reads⟩ := known _ (mem_of_lookup_eq_some found)
  cases field_unique owner name
  exact reads

end File

/-! #### Environments -/

/-- A text that is read as a number is no word for a boolean. -/
theorem settingValue_of_int64? {text : String} {i : Int64}
    (reads : Number.int64? 10 text.toList = some i) : Environment.settingValue text = .whole i := by
  obtain ⟨c, rest, shape, low⟩ := Number.first_of_int64? reads
  -- Words begin with letters, and the first character of a number comes before all letters.
  have caseless : c.toLower = c := by
    refine dif_neg fun upper => ?_
    have above : 'A'.val.toNat ≤ c.toNat := UInt32.le_iff_toNat_le.mp upper.1
    have code : 'A'.val.toNat = 0x41 := rfl
    omega
  have no_word {letter : Char} {letters : List Char} (high : 0x39 < letter.toNat) :
      Text.asciiLower text.toList ≠ letter :: letters := by
    rw [shape, Text.asciiLower, List.map_cons, caseless]
    rintro ⟨⟩
    omega
  have not_true : Text.asciiLower text.toList ≠ "true".toList := no_word (by decide)
  have not_false : Text.asciiLower text.toList ≠ "false".toList := no_word (by decide)
  simp only [Environment.settingValue, not_true, not_false, if_false, reads]

/-- The digits of a number that fits are read as this number. -/
theorem asWord?_settingValue_toString {n : Nat} (small : n < 2 ^ 63) :
    (Environment.settingValue (toString n)).asWord? = some n.toUInt64 := by
  have value : (Int64.ofInt n).toInt = n := Int64.toInt_ofInt_of_le (by omega) (by omega)
  have positive : 0 ≤ Int64.ofInt n := by
    rw [Int64.le_iff_toInt_le, value]
    exact Int.natCast_nonneg n
  rw [settingValue_of_int64? (Number.int64?_toString small), Setting.asWord?, if_pos positive]
  rfl

section Environment

variable {bindings : List (String × String)}

/-- What variables give for a field. -/
def Field.inEnvironment (f : Field) (bindings : List (String × String)) : Option Setting :=
  bindings.findSome? fun b =>
    if f.IsSetBy b.1 then some (Environment.settingValue b.2) else none

theorem settingName?_of_isSetBy {f : Field} {variableName : String}
    (sets : f.IsSetBy variableName) : Environment.settingName? variableName = some f.path := by
  unfold Environment.settingName?
  rw [sets]
  cases f <;> decide

theorem settingName?_eq_none {variableName : String}
    (other : ¬ Environment.head <+: Text.asciiLower variableName.toList) :
    Environment.settingName? variableName = none := by
  unfold Environment.settingName?
  exact if_neg fun begins => other (List.isPrefixOf_iff_prefix.mp begins)

/-- A variable is for one field. -/
theorem isSetBy_unique {f g : Field} {variableName : String} (one : f.IsSetBy variableName)
    (two : g.IsSetBy variableName) : f = g :=
  path_injective (Option.some.inj
    ((settingName?_of_isSetBy one).symm.trans (settingName?_of_isSetBy two)))

theorem given?_path (f g : Field) (v : Setting) :
    f.given? (g.path, v) = if f = g then some v else none := by
  rw [given?, if_neg (path_ne_owner g f)]
  by_cases same : f = g
  · simp [same]
  · rw [if_neg same, if_neg fun path => same (path_injective path).symm]

/-- A variable gives what it says for its field, or it gives nothing. -/
theorem EnvironmentFits.cases (fits : EnvironmentFits bindings) {b : String × String}
    (member : b ∈ bindings) :
    (Environment.settingName? b.1 = none ∧ ∀ f : Field, ¬ f.IsSetBy b.1) ∨
      ∃ f : Field, f.IsSetBy b.1 ∧ Environment.settingName? b.1 = some f.path ∧
        (f.read (Environment.settingValue b.2)).isSome := by
  by_cases begins : Environment.head <+: Text.asciiLower b.1.toList
  · obtain ⟨f, sets, reads⟩ := fits.known b member begins
    exact .inr ⟨f, sets, settingName?_of_isSetBy sets, reads⟩
  · have nameless := settingName?_eq_none begins
    refine .inl ⟨nameless, fun f sets => ?_⟩
    rw [settingName?_of_isSetBy sets] at nameless
    cases nameless

/-- What a variable gives for a field. -/
theorem EnvironmentFits.given? (fits : EnvironmentFits bindings) (f : Field) {b : String × String}
    (member : b ∈ bindings) :
    ((Environment.settingName? b.1).map fun n => (n, Environment.settingValue b.2)).bind f.given? =
      if f.IsSetBy b.1 then some (Environment.settingValue b.2) else none := by
  rcases fits.cases member with ⟨nameless, unset⟩ | ⟨g, sets, named, -⟩
  · rw [nameless, if_neg (unset f)]
    rfl
  · rw [named, Option.map_some, Option.bind_some, given?_path]
    by_cases same : f = g
    · rw [if_pos same, same, if_pos sets]
    · rw [if_neg same, if_neg fun own => same (isSetBy_unique own sets)]

theorem settings_eq (bindings : List (String × String)) :
    Environment.settings bindings = bindings.filterMap fun b =>
      (Environment.settingName? b.1).map fun n => (n, Environment.settingValue b.2) := rfl

theorem EnvironmentFits.gives (fits : EnvironmentFits bindings) :
    ∀ e ∈ Environment.settings bindings, Gives e := by
  intro e member
  rw [settings_eq] at member
  obtain ⟨b, inside, named⟩ := List.mem_filterMap.mp member
  rcases fits.cases inside with ⟨nameless, -⟩ | ⟨f, -, path, reads⟩
  · rw [nameless] at named
    cases named
  · rw [path] at named
    cases named
    exact .field f (plain_of_read reads)

theorem EnvironmentFits.gives_once (fits : EnvironmentFits bindings) (f : Field) :
    (Environment.settings bindings).Pairwise fun e e' =>
      (f.given? e).isSome → f.given? e' = none := by
  rw [settings_eq, List.pairwise_filterMap]
  refine fits.once.imp_of_mem fun {b b'} member member' different e named e' named' given => ?_
  have one := fits.given? f member
  have two := fits.given? f member'
  rw [named, Option.bind_some] at one
  rw [named', Option.bind_some] at two
  rw [one] at given
  rw [two, if_neg]
  split at given
  · next sets => exact different f sets
  · cases given

theorem EnvironmentFits.findSome?_given? (fits : EnvironmentFits bindings) (f : Field) :
    (Environment.settings bindings).findSome? f.given? = f.inEnvironment bindings := by
  rw [settings_eq, ← List.head?_filterMap, List.filterMap_filterMap, List.head?_filterMap]
  exact findSome?_congr fun b member => fits.given? f member

theorem inEnvironment_eq_none {f : Field} :
    f.inEnvironment bindings = none ↔ ∀ b ∈ bindings, ¬ f.IsSetBy b.1 := by
  simp [inEnvironment]

theorem EnvironmentFits.inEnvironment_of_mem (fits : EnvironmentFits bindings) {f : Field}
    {variableName text : String} (member : (variableName, text) ∈ bindings)
    (sets : f.IsSetBy variableName) :
    f.inEnvironment bindings = some (Environment.settingValue text) := by
  obtain ⟨before, after, rfl⟩ := List.append_of_mem member
  refine List.findSome?_eq_some_iff.mpr ⟨before, _, after, rfl, if_pos sets, ?_⟩
  intro b earlier
  have different := (List.pairwise_append.mp fits.once).2.2 b earlier _ List.mem_cons_self
  exact if_neg fun own => different f own sets

theorem EnvironmentFits.reads (fits : EnvironmentFits bindings) {f : Field} {v : Setting}
    (given : f.inEnvironment bindings = some v) : (f.read v).isSome := by
  obtain ⟨b, member, gives⟩ := List.exists_of_findSome?_eq_some given
  split at gives
  · next sets =>
    cases gives
    rcases fits.cases member with ⟨-, unset⟩ | ⟨g, own, -, reads⟩
    · exact absurd sets (unset f)
    · cases isSetBy_unique sets own
      exact reads
  · cases gives

end Environment

end BridgeConfig
end Intake
