import Intake.Settings.Load

/-!
# Tables that files give

A table that is read from a file holds a name once, and so does every table in it, whatever the
format of the file (`tidy_of_settings?`). A text in which a name comes twice is refused, or the last
value of the name counts.
-/
namespace Intake

/-- Every name comes once. -/
def Distinct {α : Type} (entries : List (String × α)) : Prop := (entries.map Prod.fst).Nodup

theorem lookup_eq_none_iff_not_mem {α : Type} {entries : List (String × α)} {name : String} :
    entries.lookup name = none ↔ name ∉ entries.map Prod.fst := by
  rw [List.lookup_eq_none_iff, List.mem_map]
  constructor
  · rintro others ⟨e, member, rfl⟩
    exact absurd (others e member) (by simp)
  · intro absent e member
    exact bne_iff_ne.mpr fun same => absent ⟨e, member, same.symm⟩

theorem distinct_cons_iff {α : Type} {name : String} {value : α} {rest : List (String × α)} :
    Distinct ((name, value) :: rest) ↔ rest.lookup name = none ∧ Distinct rest := by
  rw [lookup_eq_none_iff_not_mem]
  exact List.nodup_cons

/-- Every table in a setting holds a name once. -/
inductive Setting.Tidy : Setting → Prop
  | scalar {s : Setting} (plain : s.isSection = false) : Tidy s
  | list {elements : List Setting} (each : ∀ s ∈ elements, Tidy s) : Tidy (.list elements)
  | table {entries : List (String × Setting)} (distinct : Distinct entries)
      (each : ∀ e ∈ entries, Tidy e.2) : Tidy (.table entries)

theorem Setting.Tidy.distinct {entries : List (String × Setting)} :
    Setting.Tidy (.table entries) → Distinct entries
  | .scalar plain => nomatch plain
  | .table distinct _ => distinct

theorem Setting.Tidy.each {entries : List (String × Setting)} :
    Setting.Tidy (.table entries) → ∀ e ∈ entries, e.2.Tidy
  | .scalar plain => nomatch plain
  | .table _ each => each

/-! ### JSON -/

theorem distinct_memberSettings (members : List (String × Json.Document)) :
    Distinct (memberSettings members) := by
  induction members with
  | nil => exact List.nodup_nil
  | cons member members ih =>
    simp only [memberSettings]
    split
    · exact ih
    · next absent => exact distinct_cons_iff.mpr ⟨Option.not_isSome_iff_eq_none.mp absent, ih⟩

mutual

theorem Json.Document.tidy_setting : (d : Json.Document) → d.setting.Tidy
  | .null => .scalar rfl
  | .flag _ => .scalar rfl
  | .number (.whole i) => by
    simp only [Json.Document.setting, Json.Number.setting]
    split <;> exact .scalar rfl
  | .number (.double _) => .scalar rfl
  | .text _ => .scalar rfl
  | .list elements => .list (tidy_documentSettings elements)
  | .object members => .table (distinct_memberSettings members) (tidy_memberSettings members)

theorem tidy_documentSettings :
    (elements : List Json.Document) → ∀ s ∈ documentSettings elements, s.Tidy
  | [], _, member => nomatch member
  | d :: elements, s, member => by
    rcases List.mem_cons.mp member with rfl | later
    · exact d.tidy_setting
    · exact tidy_documentSettings elements s later

theorem tidy_memberSettings :
    (members : List (String × Json.Document)) → ∀ e ∈ memberSettings members, e.2.Tidy
  | [], _, member => nomatch member
  | (name, d) :: members, e, member => by
    simp only [memberSettings] at member
    split at member
    · exact tidy_memberSettings members e member
    · rcases List.mem_cons.mp member with rfl | later
      · exact d.tidy_setting
      · exact tidy_memberSettings members e later

end

/-! ### YAML -/

namespace Yaml

theorem distinct_entrySettings? {entries : List (Node × Node)} {given : List (String × Setting)}
    (gives : entrySettings? entries = some given) : Distinct given := by
  induction entries generalizing given with
  | nil =>
    cases gives
    exact List.nodup_nil
  | cons entry entries ih =>
    simp only [entrySettings?, Option.bind_eq_bind, Option.bind_eq_some_iff] at gives
    obtain ⟨named, -, value, -, rest, later, same⟩ := gives
    have old := ih later
    cases same
    split
    · exact old
    · next absent => exact distinct_cons_iff.mpr ⟨Option.not_isSome_iff_eq_none.mp absent, old⟩

mutual

theorem Node.tidy_of_setting? :
    (n : Node) → {s : Setting} → n.setting? = some s → s.Tidy
  | .null, _, gives => by cases gives; exact .scalar rfl
  | .void, _, gives => by cases gives; exact .scalar rfl
  | .flag _, _, gives => by cases gives; exact .scalar rfl
  | .whole _, _, gives => by cases gives; exact .scalar rfl
  | .real text, _, gives => by
    simp only [Node.setting?] at gives
    split at gives
    · cases gives
    · obtain ⟨d, -, rfl⟩ := Option.map_eq_some_iff.mp gives
      exact .scalar rfl
  | .text _, _, gives => by cases gives; exact .scalar rfl
  | .sequence elements, _, gives => by
    obtain ⟨given, each, rfl⟩ := Option.map_eq_some_iff.mp gives
    exact .list (tidy_of_settings? elements each)
  | .mapping entries, _, gives => by
    obtain ⟨given, each, rfl⟩ := Option.map_eq_some_iff.mp gives
    exact .table (distinct_entrySettings? each) (tidy_of_entrySettings? entries each)

theorem tidy_of_settings? : (elements : List Node) → {given : List Setting} →
    settings? elements = some given → ∀ s ∈ given, s.Tidy
  | [], _, gives => by cases gives; exact nofun
  | n :: elements, _, gives => by
    simp only [settings?, Option.bind_eq_bind, Option.bind_eq_some_iff] at gives
    obtain ⟨first, here, rest, later, same⟩ := gives
    cases same
    intro s member
    rcases List.mem_cons.mp member with rfl | member
    · exact n.tidy_of_setting? here
    · exact tidy_of_settings? elements later s member

theorem tidy_of_entrySettings? : (entries : List (Node × Node)) →
    {given : List (String × Setting)} → entrySettings? entries = some given →
    ∀ e ∈ given, e.2.Tidy
  | [], _, gives => by cases gives; exact nofun
  | (key, value) :: entries, _, gives => by
    simp only [entrySettings?, Option.bind_eq_bind, Option.bind_eq_some_iff] at gives
    obtain ⟨named, -, first, here, rest, later, same⟩ := gives
    cases same
    intro e member
    split at member
    · exact tidy_of_entrySettings? entries later e member
    · rcases List.mem_cons.mp member with rfl | member
      · exact value.tidy_of_setting? here
      · exact tidy_of_entrySettings? entries later e member

end

end Yaml

/-! ### TOML -/

namespace Toml

/-- Every table in what a key stands for holds a name once. -/
inductive Item.Tidy : Item → Prop
  | value {s : Setting} (tidy : s.Tidy) : Tidy (.value s)
  | table {isOpen isDotted : Bool} {items : Items} (distinct : Distinct items)
      (each : ∀ e ∈ items, Tidy e.2) : Tidy (.table isOpen isDotted items)
  | rows {rows : List Items} (distinct : ∀ row ∈ rows, Distinct row)
      (each : ∀ row ∈ rows, ∀ e ∈ row, Tidy e.2) : Tidy (.rows rows)

def Items.Tidy (items : Items) : Prop := Distinct items ∧ ∀ e ∈ items, e.2.Tidy

theorem tidy_nil : Items.Tidy [] := ⟨List.nodup_nil, nofun⟩

theorem tidy_rows_nil : Item.Tidy (.rows []) := .rows nofun nofun

theorem tidy_rows_cons_iff {row : Items} {rows : List Items} :
    Item.Tidy (.rows (row :: rows)) ↔ row.Tidy ∧ Item.Tidy (.rows rows) := by
  constructor
  · rintro (_ | _ | ⟨distinct, each⟩)
    obtain ⟨first, others⟩ := List.forall_mem_cons.mp distinct
    obtain ⟨first', others'⟩ := List.forall_mem_cons.mp each
    exact ⟨⟨first, first'⟩, .rows others others'⟩
  · rintro ⟨⟨first, first'⟩, _ | _ | ⟨others, others'⟩⟩
    exact .rows (List.forall_mem_cons.mpr ⟨first, others⟩)
      (List.forall_mem_cons.mpr ⟨first', others'⟩)

/-- A change of items that leaves them tidy. -/
def Keeps (f : Items → Option Items) : Prop :=
  ∀ ⦃items changed : Items⦄, items.Tidy → f items = some changed → changed.Tidy

/-- A change of what a key stands for that leaves it tidy. -/
def KeepsItem (f : Option Item → Option Item) : Prop :=
  ∀ ⦃old : Option Item⦄ ⦃new : Item⦄, (∀ item ∈ old, item.Tidy) → f old = some new → new.Tidy

theorem mem_names_modifyKey {key name : String} {f : Option Item → Option Item}
    {items changed : Items} (done : modifyKey key f items = some changed)
    (member : name ∈ changed.map Prod.fst) : name = key ∨ name ∈ items.map Prod.fst := by
  induction items generalizing changed with
  | nil =>
    obtain ⟨item, -, rfl⟩ := Option.map_eq_some_iff.mp done
    exact .inl (List.mem_singleton.mp member)
  | cons first items ih =>
    simp only [modifyKey] at done
    split at done
    · obtain ⟨item, -, rfl⟩ := Option.map_eq_some_iff.mp done
      exact .inr member
    · obtain ⟨later, changes, rfl⟩ := Option.map_eq_some_iff.mp done
      rcases List.mem_cons.mp member with same | member
      · exact .inr (List.mem_cons.mpr (.inl same))
      · exact (ih changes member).imp_right (List.mem_cons_of_mem _)

theorem keeps_modifyKey {key : String} {f : Option Item → Option Item} (keeps : KeepsItem f) :
    Keeps (modifyKey key f) := by
  intro items changed tidy done
  induction items generalizing changed with
  | nil =>
    obtain ⟨item, makes, rfl⟩ := Option.map_eq_some_iff.mp done
    refine ⟨List.nodup_cons.mpr ⟨List.not_mem_nil, List.nodup_nil⟩, ?_⟩
    intro e member
    cases List.mem_singleton.mp member
    refine keeps ?_ makes
    rintro item ⟨⟩
  | cons first items ih =>
    obtain ⟨distinct, each⟩ := tidy
    obtain ⟨fresh, others⟩ := List.nodup_cons.mp distinct
    have rest : Items.Tidy items := ⟨others, fun e member => each e (List.mem_cons_of_mem _ member)⟩
    simp only [modifyKey] at done
    split at done
    · obtain ⟨item, makes, rfl⟩ := Option.map_eq_some_iff.mp done
      refine ⟨distinct, ?_⟩
      intro e member
      rcases List.mem_cons.mp member with rfl | member
      · refine keeps ?_ makes
        rintro old ⟨⟩
        exact each first List.mem_cons_self
      · exact rest.2 e member
    · next other =>
      obtain ⟨later, changes, rfl⟩ := Option.map_eq_some_iff.mp done
      obtain ⟨distinct', each'⟩ := ih rest changes
      constructor
      · -- The change brings in no name but the key, which is not that of the first item.
        refine List.nodup_cons.mpr ⟨?_, distinct'⟩
        intro member
        rcases mem_names_modifyKey changes member with same | member
        · exact other same
        · exact fresh member
      · intro e member
        rcases List.mem_cons.mp member with rfl | member
        · exact each _ List.mem_cons_self
        · exact each' e member

theorem keeps_descend {dotted : Bool} {f : Items → Option Items} (keeps : Keeps f)
    (path : List String) : Keeps (descend dotted f path) := by
  induction path with
  | nil => exact keeps
  | cons key path ih =>
    refine keeps_modifyKey ?_
    intro old new tidy done
    dsimp only at done
    split at done
    · -- A table that is not there yet begins with nothing in it.
      obtain ⟨inner, changes, rfl⟩ := Option.map_eq_some_iff.mp done
      exact .table (ih tidy_nil changes).1 (ih tidy_nil changes).2
    · cases done
    · cases done
    · next row others =>
      split at done
      · cases done
      · obtain ⟨row', changes, rfl⟩ := Option.map_eq_some_iff.mp done
        -- The way on is through the row that was begun last.
        obtain ⟨old, rows⟩ := tidy_rows_cons_iff.mp (tidy _ rfl)
        exact tidy_rows_cons_iff.mpr ⟨ih old changes, rows⟩
    · split at done
      · cases done
      · obtain ⟨inner, changes, rfl⟩ := Option.map_eq_some_iff.mp done
        cases tidy _ rfl with
        | table distinct each =>
          exact .table (ih ⟨distinct, each⟩ changes).1 (ih ⟨distinct, each⟩ changes).2

theorem keeps_beginTable (path : List String) (key : String) : Keeps (beginTable path key) := by
  refine keeps_descend (keeps_modifyKey ?_) path
  intro old new tidy done
  dsimp only at done
  split at done
  · cases done
    exact .table List.nodup_nil nofun
  · cases done
    cases tidy _ rfl with
    | table distinct each => exact .table distinct each
  · cases done

theorem keeps_beginRow (path : List String) (key : String) : Keeps (beginRow path key) := by
  refine keeps_descend (keeps_modifyKey ?_) path
  intro old new tidy done
  dsimp only at done
  split at done
  · cases done
    exact tidy_rows_cons_iff.mpr ⟨tidy_nil, tidy_rows_nil⟩
  · cases done
    exact tidy_rows_cons_iff.mpr ⟨tidy_nil, tidy _ rfl⟩
  · cases done

theorem keeps_giveKey (path : List String) (key : String) {value : Setting} (tidy : value.Tidy) :
    Keeps (giveKey path key value) := by
  refine keeps_descend (keeps_modifyKey ?_) path
  intro old new _ done
  dsimp only at done
  split at done
  · cases done
    exact .value tidy
  · cases done

theorem names_itemSettings (items : Items) :
    (itemSettings items).map Prod.fst = items.map Prod.fst := by
  induction items with
  | nil => rfl
  | cons item items ih => rw [itemSettings, List.map_cons, List.map_cons, ih]

mutual

theorem Item.Tidy.setting : (item : Item) → item.Tidy → item.setting.Tidy
  | .value _, .value tidy => tidy
  | .table _ _ items, .table distinct each =>
    .table (by rw [Distinct, names_itemSettings]; exact distinct) (tidy_itemSettings items each)
  | .rows rows, .rows distinct each => .list (tidy_rowSettings rows distinct each nofun)

theorem tidy_itemSettings : (items : List (String × Item)) → (∀ e ∈ items, e.2.Tidy) →
    ∀ e ∈ itemSettings items, e.2.Tidy
  | [], _, _, member => nomatch member
  | (key, item) :: items, each, e, member => by
    rcases List.mem_cons.mp member with rfl | member
    · exact Item.Tidy.setting item (each _ List.mem_cons_self)
    · exact tidy_itemSettings items (fun e later => each e (List.mem_cons_of_mem _ later)) e member

theorem tidy_rowSettings : (rows : List (List (String × Item))) →
    (∀ row ∈ rows, Distinct row) → (∀ row ∈ rows, ∀ e ∈ row, e.2.Tidy) → {others : List Setting} →
    (∀ s ∈ others, s.Tidy) → ∀ s ∈ rowSettings rows others, s.Tidy
  | [], _, _, _, old, s, member => old s member
  | row :: rows, distinct, each, others, old, s, member => by
    refine tidy_rowSettings rows (fun r later => distinct r (List.mem_cons_of_mem _ later))
      (fun r later => each r (List.mem_cons_of_mem _ later)) ?_ s member
    intro s member
    rcases List.mem_cons.mp member with rfl | member
    · refine .table ?_ (tidy_itemSettings row (each row List.mem_cons_self))
      rw [Distinct, names_itemSettings]
      exact distinct row List.mem_cons_self
    · exact old s member

end

theorem Items.Tidy.settings {items : Items} (tidy : items.Tidy) :
    Setting.Tidy (.table (itemSettings items)) :=
  Item.Tidy.setting (.table false false items) (.table tidy.1 tidy.2)

/-! #### Reading -/

theorem isSection_bareValue? {s : List Char} {v : Setting} (reads : bareValue? s = some v) :
    v.isSection = false := by
  unfold bareValue? at reads
  split at reads
  · cases reads
    rfl
  · split at reads
    · cases reads
      rfl
    · split at reads
      · cases reads
        rfl
      · cases reads
        rfl
      · split at reads <;> cases reads
        rfl

theorem isSection_bare {s rest : List Char} {v : Setting} (reads : bare s = some (v, rest)) :
    v.isSection = false := by
  obtain ⟨given, scalar, same⟩ := Option.map_eq_some_iff.mp reads
  cases same
  exact isSection_bareValue? scalar

/-- What is read with some number of steps is tidy: a value, the elements of a list, and the entries
of a table in braces, which extend others. -/
structure ReadsTidy (fuel : Nat) : Prop where
  value : ∀ {depth s v rest}, value depth fuel s = some (v, rest) → v.Tidy
  elements : ∀ {depth s vs rest}, listElements depth fuel s = some (vs, rest) → ∀ v ∈ vs, v.Tidy
  entries : ∀ {depth items s changed rest}, items.Tidy →
    inlineEntries depth fuel items s = some (changed, rest) → changed.Tidy

theorem readsTidy (fuel : Nat) : ReadsTidy fuel := by
  -- Values hold lists and tables in braces, and these hold values, all with fewer steps to go.
  induction fuel with
  | zero =>
    constructor
    · intro depth s v rest reads
      cases reads
    · intro depth s vs rest reads
      cases reads
    · intro depth items s changed rest _ reads
      cases reads
  | succ fuel ih =>
    constructor
    · intro depth s v rest reads
      simp only [Toml.value] at reads
      split at reads
      · obtain ⟨r, -, same⟩ := Option.map_eq_some_iff.mp reads
        cases same
        exact .scalar rfl
      · obtain ⟨r, -, same⟩ := Option.map_eq_some_iff.mp reads
        cases same
        exact .scalar rfl
      · cases reads
      · cases reads
      · obtain ⟨⟨vs, rest'⟩, each, same⟩ := Option.map_eq_some_iff.mp reads
        cases same
        exact .list (ih.elements each)
      · obtain ⟨⟨items, rest'⟩, each, same⟩ := Option.map_eq_some_iff.mp reads
        cases same
        exact (ih.entries tidy_nil each).settings
      · exact .scalar (isSection_bare reads)
    · intro depth s vs rest reads
      simp only [listElements] at reads
      split at reads
      · cases reads
        exact nofun
      · simp only [Option.bind_eq_bind, Option.bind_eq_some_iff] at reads
        obtain ⟨⟨v, after⟩, first, reads⟩ := reads
        have tidy := ih.value first
        split at reads
        · obtain ⟨⟨others, end'⟩, later, same⟩ := Option.bind_eq_some_iff.mp reads
          cases same
          intro w member
          rcases List.mem_cons.mp member with rfl | member
          · exact tidy
          · exact ih.elements later w member
        · cases reads
          intro w member
          cases List.mem_singleton.mp member
          exact tidy
        · cases reads
    · intro depth items s changed rest tidy reads
      simp only [inlineEntries] at reads
      split at reads
      · cases reads
        exact tidy
      · simp only [Option.bind_eq_bind, Option.bind_eq_some_iff] at reads
        obtain ⟨⟨⟨path, key⟩, s₁⟩, -, s₂, -, ⟨v, s₃⟩, first, given, gives, reads⟩ := reads
        have more := keeps_giveKey path key (ih.value first) tidy gives
        split at reads
        · exact ih.entries more reads
        · cases reads
          exact more
        · cases reads

theorem tidy_lines {fuel : Nat} {header : List String} {items changed : Items} {s : List Char}
    (tidy : items.Tidy) (reads : lines fuel header items s = some changed) : changed.Tidy := by
  induction fuel generalizing header items s with
  | zero => cases reads
  | succ fuel ih =>
    simp only [lines] at reads
    split at reads
    · cases reads
      exact tidy
    · simp only [Option.bind_eq_bind, Option.bind_eq_some_iff] at reads
      obtain ⟨⟨⟨path, key⟩, s₁⟩, -, begun, begins, s₂, -, s₃, -, s₄, -, reads⟩ := reads
      exact ih (keeps_beginRow path key tidy begins) reads
    · simp only [Option.bind_eq_bind, Option.bind_eq_some_iff] at reads
      obtain ⟨⟨⟨path, key⟩, s₁⟩, -, begun, begins, s₂, -, s₃, -, reads⟩ := reads
      exact ih (keeps_beginTable path key tidy begins) reads
    · simp only [Option.bind_eq_bind, Option.bind_eq_some_iff] at reads
      obtain ⟨⟨⟨path, key⟩, s₁⟩, -, s₂, -, ⟨v, s₃⟩, first, given, gives, s₄, -, reads⟩ := reads
      exact ih (keeps_descend (keeps_giveKey path key ((readsTidy _).value first)) header tidy gives)
        reads

end Toml

/-- **Tables of files**: whatever the format, the table that a text gives holds a name once, and so
does every table in it. -/
theorem FileFormat.tidy_of_settings? {format : FileFormat} {text : List Char}
    {entries : List (String × Setting)} (gives : format.settings? text = some entries) :
    Setting.Tidy (.table entries) := by
  cases format with
  | toml =>
    obtain ⟨items, reads, rfl⟩ := Option.map_eq_some_iff.mp gives
    exact (Toml.tidy_lines Toml.tidy_nil reads).settings
  | json =>
    simp only [settings?] at gives
    split at gives
    · next d parsed =>
      split at gives
      · next es same =>
        cases gives
        rw [← same]
        exact d.tidy_setting
      · cases gives
    · cases gives
  | yaml =>
    simp only [settings?, Yaml.settingsOf?, Option.bind_eq_bind, Option.bind_eq_some_iff] at gives
    obtain ⟨roots, -, gives⟩ := gives
    split at gives
    · cases gives
      exact .table List.nodup_nil nofun
    · obtain ⟨s, here, gives⟩ := Option.bind_eq_some_iff.mp gives
      split at gives
      · cases gives
        exact Yaml.Node.tidy_of_setting? _ here
      · cases gives
    · cases gives

end Intake
