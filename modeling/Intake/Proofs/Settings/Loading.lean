import Intake.Proofs.Settings.Layers

/-!
# Loading a configuration

The main statement is `load_layered`: each field of the configuration that is loaded comes from the
environment if a variable is set for it, otherwise from the file if that gives it a value, and
otherwise it has its default, whatever the other fields do. The configuration is refused exactly if
its buffer is to hold nothing.
-/
namespace Intake.BridgeConfig

open BridgeConfig.Field
open Setting (overlay)

/-- A value of every field makes a configuration. -/
def ofFields (value : (f : Field) → f.Value) : BridgeConfig :=
  { consumer :=
      { batchingSize := value batchingSize, cancelTimeoutMs := value cancelTimeoutMs
        requeueOnOverflow := value requeueOnOverflow
        requeueAfterCancel := value requeueAfterCancel }
    browse := { timeoutMs := value timeoutMs, maxMessages := value maxMessages } }

@[simp] theorem get_ofFields (value : (f : Field) → f.Value) (f : Field) :
    f.get (ofFields value) = value f := by
  cases f <;> rfl

/-- The file of a name, if there is a name, gives some settings. -/
def Given (files : Files) (name : Option String) (file : List (String × Setting)) : Prop :=
  match name with
  | none => file = []
  | some name => fileSettings files name = .ok file

/-- A configuration has for each field the value of its variable, if it is set, otherwise that of the
file, if it has one, and otherwise the default. -/
structure Layered (c : BridgeConfig) (file : List (String × Setting))
    (bindings : List (String × String)) : Prop where
  ofVariable : ∀ (f : Field) name text, (name, text) ∈ bindings → f.IsSetBy name →
    f.read (Environment.settingValue text) = some (f.get c)
  ofFile : ∀ (f : Field) v, (∀ b ∈ bindings, ¬ f.IsSetBy b.1) → f.valueIn (.table file) = some v →
    f.read v = some (f.get c)
  ofNothing : ∀ f : Field, (∀ b ∈ bindings, ¬ f.IsSetBy b.1) → f.valueIn (.table file) = none →
    f.get c = f.default

/-! ### Reading a tree of settings -/

theorem readField_of_table {α : Type} {s : Setting} (table : s.isTable = true) (name : String)
    (place : Nat) (read : Setting → Option α) (default : α) :
    s.readField name place read default =
      match s.find? name with
      | some v => read v
      | none => some default := by
  obtain ⟨entries, rfl⟩ := Setting.isTable_iff.mp table
  rfl

theorem isSection_of_table {s : Setting} (table : s.isTable = true) : s.isSection = true := by
  obtain ⟨entries, rfl⟩ := Setting.isTable_iff.mp table
  rfl

section Reading

variable {s : Setting}

/-- What a tree of settings makes of a field. -/
def Field.valueOf (f : Field) (s : Setting) : f.Value :=
  ((f.valueIn s).bind f.read).getD f.default

/-- Every value that a tree of settings gives for a field can be read. -/
def Readable (s : Setting) : Prop := ∀ (f : Field) v, f.valueIn s = some v → (f.read v).isSome

/-- A field is read from the table of its section. -/
theorem readField_eq (readable : Readable s) (shaped : Shaped s) (f : Field) {table : Setting}
    (here : s.find? f.owner = some table) (place : Nat) :
    table.readField f.name place f.read f.default = some (f.valueOf s) := by
  have given : f.valueIn s = table.find? f.name := by rw [valueIn, here, Option.bind_some]
  rw [readField_of_table (shaped.2 f table here), valueOf, given]
  cases found : table.find? f.name with
  | none => rfl
  | some v =>
    obtain ⟨a, reads⟩ := Option.isSome_iff_exists.mp (readable f v (given.trans found))
    simp [reads]

/-- Fields of a section that is not there have their defaults. -/
theorem valueOf_of_none (f : Field) (absent : s.find? f.owner = none) :
    f.valueOf s = f.default := by
  rw [valueOf, valueIn, absent]
  rfl

theorem consumer_eq (readable : Readable s) (shaped : Shaped s) :
    s.readField "consumer" 0 ConsumerConfig.ofSetting? {} =
      some (ofFields (·.valueOf s)).consumer := by
  rw [readField_of_table shaped.1]
  cases here : s.find? "consumer" with
  | none =>
    have absent (f : Field) (own : f.owner = "consumer") := valueOf_of_none f (own ▸ here)
    simp only [ofFields, absent batchingSize rfl, absent cancelTimeoutMs rfl,
      absent requeueOnOverflow rfl, absent requeueAfterCancel rfl]
    rfl
  | some table =>
    -- Each field is `readField_eq` with its own name, type and default.
    have size : table.readField "batching_size" 0 Setting.asWord?
      ({} : ConsumerConfig).batchingSize = some (batchingSize.valueOf s) :=
      readField_eq readable shaped batchingSize here 0
    have timeout : table.readField "cancel_timeout_ms" 1 Setting.asWord?
      ({} : ConsumerConfig).cancelTimeoutMs = some (cancelTimeoutMs.valueOf s) :=
      readField_eq readable shaped cancelTimeoutMs here 1
    have overflow : table.readField "requeue_on_overflow" 2 Setting.asFlag?
      ({} : ConsumerConfig).requeueOnOverflow = some (requeueOnOverflow.valueOf s) :=
      readField_eq readable shaped requeueOnOverflow here 2
    have cancel : table.readField "requeue_after_cancel" 3 Setting.asFlag?
      ({} : ConsumerConfig).requeueAfterCancel = some (requeueAfterCancel.valueOf s) :=
      readField_eq readable shaped requeueAfterCancel here 3
    simp only [ConsumerConfig.ofSetting?, isSection_of_table (shaped.2 batchingSize table here),
      if_true, size, timeout, overflow, cancel, Option.bind_eq_bind]
    rfl

theorem browse_eq (readable : Readable s) (shaped : Shaped s) :
    s.readField "browse" 1 BrowseConfig.ofSetting? {} = some (ofFields (·.valueOf s)).browse := by
  rw [readField_of_table shaped.1]
  cases here : s.find? "browse" with
  | none =>
    have absent (f : Field) (own : f.owner = "browse") := valueOf_of_none f (own ▸ here)
    simp only [ofFields, absent timeoutMs rfl, absent maxMessages rfl]
    rfl
  | some table =>
    have timeout : table.readField "timeout_ms" 0 Setting.asWord? ({} : BrowseConfig).timeoutMs =
      some (timeoutMs.valueOf s) := readField_eq readable shaped timeoutMs here 0
    have bound : table.readField "max_messages" 1 Setting.asWord? ({} : BrowseConfig).maxMessages =
      some (maxMessages.valueOf s) := readField_eq readable shaped maxMessages here 1
    simp only [BrowseConfig.ofSetting?, isSection_of_table (shaped.2 timeoutMs table here),
      if_true, timeout, bound, Option.bind_eq_bind]
    rfl

/-- A tree of settings that can be read makes the configuration of what it gives. -/
theorem ofSetting?_eq (readable : Readable s) (shaped : Shaped s) :
    ofSetting? s = some (ofFields (·.valueOf s)) := by
  simp only [ofSetting?, isSection_of_table shaped.1, if_true, consumer_eq readable shaped,
    browse_eq readable shaped, Option.bind_eq_bind, Option.bind_some]

end Reading

/-! ### Both sources -/

/-- A configuration is valid exactly if its buffer is to hold something. -/
theorem validate_eq (c : BridgeConfig) :
    c.validate = if c.consumer.batchingSize = 0 then
      .error (.invalid "consumer.batching_size must be at least 1") else .ok () := rfl

/-- What sources make is checked. -/
theorem ofSources_eq {sources : List (List (String × Setting))} {c : BridgeConfig}
    (makes : ofSetting? (sources.foldl overlay Setting.emptyTable) = some c) :
    ofSources sources =
      if c.consumer.batchingSize = 0 then
        .error (.invalid "consumer.batching_size must be at least 1")
      else .ok c := by
  simp only [ofSources, makes, validate_eq]
  by_cases empty : c.consumer.batchingSize = 0
  · rw [if_pos empty, if_pos empty]
  · rw [if_neg empty, if_neg empty]

section Layered

variable {file : List (String × Setting)} {bindings : List (String × String)}

/-- The tree of settings that a file and an environment make together. -/
def layers (file : List (String × Setting)) (bindings : List (String × String)) : Setting :=
  overlay (overlay Setting.emptyTable file) (Environment.settings bindings)

/-- The configuration that a file and an environment make together. -/
def ofLayers (file : List (String × Setting)) (bindings : List (String × String)) : BridgeConfig :=
  ofFields (·.valueOf (layers file bindings))

theorem shaped_emptyTable : Shaped Setting.emptyTable := ⟨rfl, nofun⟩

/-- A field has in the layers what its variable gives, and otherwise what the file gives. -/
theorem valueIn_layers (fits : FileFits file) (tidy : Setting.Tidy (.table file))
    (sets : EnvironmentFits bindings) :
    Shaped (layers file bindings) ∧
      ∀ f : Field, f.valueIn (layers file bindings) =
        (f.inEnvironment bindings).or (f.valueIn (.table file)) := by
  -- The file is put over nothing, and the environment over the file.
  obtain ⟨shaped, first⟩ := valueIn_overlay (fits.gives tidy) (fits.gives_once tidy) shaped_emptyTable
  obtain ⟨shaped', second⟩ := valueIn_overlay sets.gives sets.gives_once shaped
  refine ⟨shaped', fun f => ?_⟩
  have nothing : f.valueIn Setting.emptyTable = none := rfl
  rw [layers, second, first, sets.findSome?_given?, fits.findSome?_given? tidy, nothing,
    Option.or_none]

theorem readable_layers (fits : FileFits file) (tidy : Setting.Tidy (.table file))
    (sets : EnvironmentFits bindings) : Readable (layers file bindings) := by
  intro f v given
  rw [(valueIn_layers fits tidy sets).2, Option.or_eq_some_iff] at given
  rcases given with set | ⟨-, found⟩
  · exact sets.reads set
  · exact fits.reads found

theorem layered_ofLayers (fits : FileFits file) (tidy : Setting.Tidy (.table file))
    (sets : EnvironmentFits bindings) : (ofLayers file bindings).Layered file bindings := by
  have value := (valueIn_layers fits tidy sets).2
  have reads {f : Field} {v : Setting} (given : f.valueIn (layers file bindings) = some v) :
      f.read v = some (f.get (ofLayers file bindings)) := by
    obtain ⟨a, reads⟩ := Option.isSome_iff_exists.mp (readable_layers fits tidy sets f v given)
    rw [ofLayers, get_ofFields, valueOf, given, Option.bind_some, reads, Option.getD_some]
  refine ⟨?_, ?_, ?_⟩
  · intro f name text member own
    apply reads
    rw [value, sets.inEnvironment_of_mem member own, Option.some_or]
  · intro f v unset found
    apply reads
    rw [value, inEnvironment_eq_none.mpr unset, Option.none_or, found]
  · intro f unset absent
    rw [ofLayers, get_ofFields, valueOf, value, inEnvironment_eq_none.mpr unset, absent]
    rfl

end Layered

/-- A file that is given holds every name once. -/
theorem Given.tidy {files : Files} {name : Option String} {file : List (String × Setting)}
    (given : Given files name file) : Setting.Tidy (.table file) := by
  cases name with
  | none =>
    cases given
    exact .table List.nodup_nil fun e member => absurd member List.not_mem_nil
  | some name =>
    simp only [Given, fileSettings] at given
    split at given
    · cases given
    · split at given
      · cases given
      · next reads =>
        cases given
        exact FileFormat.tidy_of_settings? reads

/-- Loading puts both sources over each other and checks what they make. -/
theorem Given.load_eq {files : Files} {name : Option String} {file : List (String × Setting)}
    {bindings : List (String × String)} (given : Given files name file) (fits : FileFits file)
    (sets : EnvironmentFits bindings) :
    load files name bindings =
      if (ofLayers file bindings).consumer.batchingSize = 0 then
        .error (.invalid "consumer.batching_size must be at least 1")
      else .ok (ofLayers file bindings) := by
  have sources : load files name bindings = ofSources [file, Environment.settings bindings] := by
    cases name with
    | none =>
      cases given
      rfl
    | some name =>
      simp only [Given] at given
      simp only [load, given]
  rw [sources]
  exact ofSources_eq (ofSetting?_eq (readable_layers fits given.tidy sets)
    (valueIn_layers fits given.tidy sets).1)

/-- Whatever is loaded is valid. -/
theorem validate_of_load {files : Files} {name : Option String} {bindings : List (String × String)}
    {c : BridgeConfig} (loads : load files name bindings = .ok c) : c.validate = .ok () := by
  have checked {sources : List (List (String × Setting))} (loads : ofSources sources = .ok c) :
      c.validate = .ok () := by
    unfold ofSources at loads
    split at loads
    · cases loads
    · split at loads
      · next valid =>
        cases loads
        exact valid
      · cases loads
  unfold load at loads
  split at loads
  · exact checked loads
  · split at loads
    · cases loads
    · exact checked loads

/-! #### Sizes of buffers -/

def noFiles : Files := fun _ => none

/-- An environment in which one variable sets the size of the buffer. -/
def sizeVariable (n : Nat) : List (String × String) :=
  [("BRIDGE__CONSUMER__BATCHING_SIZE", toString n)]

theorem isSetBy_sizeVariable : batchingSize.IsSetBy "BRIDGE__CONSUMER__BATCHING_SIZE" := by decide

theorem environmentFits_sizeVariable {n : Nat} (small : n < 2 ^ 63) :
    EnvironmentFits (sizeVariable n) := by
  refine ⟨?_, List.pairwise_singleton _ _⟩
  intro b member _
  cases List.mem_singleton.mp member
  refine ⟨batchingSize, isSetBy_sizeVariable, ?_⟩
  change (Setting.asWord? _).isSome = true
  rw [asWord?_settingValue_toString small]
  rfl

/-- Every size that a signed word holds can be loaded, if the buffer is to hold something. -/
theorem load_sizeVariable {n : Nat} (positive : 0 < n) (small : n < 2 ^ 63) :
    ∃ c, load noFiles none (sizeVariable n) = .ok c ∧ c.consumer.batchingSize.toNat = n := by
  have given : Given noFiles none [] := rfl
  have fits : FileFits [] := fun _ member => nomatch member
  have sets := environmentFits_sizeVariable small
  have size : Setting.asWord? (Environment.settingValue (toString n)) =
      some (ofLayers [] (sizeVariable n)).consumer.batchingSize :=
    (layered_ofLayers fits given.tidy sets).ofVariable batchingSize _ _ List.mem_cons_self
      isSetBy_sizeVariable
  rw [asWord?_settingValue_toString small] at size
  have value : (ofLayers [] (sizeVariable n)).consumer.batchingSize.toNat = n := by
    rw [← Option.some.inj size]
    exact Nat.mod_eq_of_lt (by omega)
  refine ⟨_, ?_, value⟩
  rw [given.load_eq fits sets, if_neg]
  intro empty
  rw [empty] at value
  exact absurd value.symm (Nat.ne_of_gt positive)

/-! #### The main statement -/

/-- **Layers of configuration**: whatever a file and an environment say of the fields, each field of
the configuration has the value of its variable, if that is set, otherwise the value in the file, if
that has one, and otherwise its default. Loading gives this configuration, and refuses it exactly if
its buffer is to hold nothing. -/
theorem load_layered {files : Files} {name : Option String} {file : List (String × Setting)}
    {bindings : List (String × String)} (given : Given files name file) (fits : FileFits file)
    (sets : EnvironmentFits bindings) :
    ∃ c : BridgeConfig, c.Layered file bindings ∧
      load files name bindings =
        if c.consumer.batchingSize = 0 then
          .error (.invalid "consumer.batching_size must be at least 1")
        else .ok c :=
  ⟨ofLayers file bindings, layered_ofLayers fits given.tidy sets, given.load_eq fits sets⟩

/-! #### Three sources of one configuration -/

/-- A file that sets both fields of a section. -/
def twoFieldsText : String := "\x7b\"browse\":\x7b\"timeout_ms\":20,\"max_messages\":9\x7d\x7d"

/-- The settings in the file. -/
def twoFields : List (String × Setting) :=
  [("browse", .table [("timeout_ms", .whole 20), ("max_messages", .whole 9)])]

def oneFile : Files := fun name => if name = "c.json" then some twoFieldsText.toUTF8 else none

/-- Variables for one of the two fields and for a field of the other section, and another one. -/
def threeVariables : List (String × String) :=
  [("Bridge__Browse__TIMEOUT_ms", "250"), ("HOME", "/"), ("BRIDGE__CONSUMER__BATCHING_SIZE", "7")]

/-- The file is found although its ending is not named. -/
theorem given_twoFields : Given oneFile (some "c") twoFields := by
  have steps : pathSteps "c" = ["c"] := by
    rw [pathSteps, String.splitOn, if_neg (by decide), String.splitOnAux, if_neg (by decide),
      if_neg (by decide), String.splitOnAux, if_pos (by decide)]
    decide
  have found : oneFile.find? "c" = some (.json, twoFieldsText.toUTF8) := by
    simp only [Files.find?, fileName?, isDirectoryPath, steps]
    decide +kernel
  have text : fileText twoFieldsText.toUTF8 = twoFieldsText.toList := by decide +kernel
  have bytes : Text.encode twoFieldsText =
      [123, 34, 98, 114, 111, 119, 115, 101, 34, 58, 123, 34, 116, 105, 109, 101, 111, 117, 116, 95,
        109, 115, 34, 58, 50, 48, 44, 34, 109, 97, 120, 95, 109, 101, 115, 115, 97, 103, 101, 115, 34,
        58, 57, 125, 125] := by decide +kernel
  have parsed : Json.Document.parse (Text.encode twoFieldsText) =
      .ok (.object [("browse",
        .object [("timeout_ms", .number (.whole 20)), ("max_messages", .number (.whole 9))])]) := by
    rw [bytes]
    rfl
  simp only [Given, fileSettings, found, text, FileFormat.settings?, String.ofList_toList, parsed]
  rfl

theorem fileFits_twoFields : FileFits twoFields := by
  intro e member
  cases List.mem_singleton.mp member
  refine ⟨⟨timeoutMs, rfl⟩, _, rfl, fun v inside => ?_⟩
  rcases List.mem_cons.mp inside with rfl | inside
  · exact ⟨timeoutMs, rfl, rfl, rfl⟩
  · cases List.mem_singleton.mp inside
    exact ⟨maxMessages, rfl, rfl, rfl⟩

theorem environmentFits_threeVariables : EnvironmentFits threeVariables := by
  constructor
  · intro b member
    rcases List.mem_cons.mp member with rfl | member
    · exact fun _ => ⟨timeoutMs, by decide, by decide⟩
    · rcases List.mem_cons.mp member with rfl | member
      · intro begins
        exact absurd begins (by decide)
      · cases List.mem_singleton.mp member
        exact fun _ => ⟨batchingSize, by decide, by decide⟩
  · have different : threeVariables.Pairwise fun b b' =>
        Text.asciiLower b.1.toList ≠ Text.asciiLower b'.1.toList := by decide
    exact different.imp fun other f one two => other (one.trans two.symm)

theorem load_layered_threeSources :
    Given oneFile (some "c") twoFields ∧ FileFits twoFields ∧ EnvironmentFits threeVariables ∧
      ∃ c, load oneFile (some "c") threeVariables = .ok c ∧ c.browse.timeoutMs = 250 ∧
        c.browse.maxMessages = 9 ∧ c.consumer.batchingSize = 7 ∧
        c.consumer.cancelTimeoutMs = 1000 := by
  refine ⟨given_twoFields, fileFits_twoFields, environmentFits_threeVariables, ?_⟩
  obtain ⟨c, layered, loads⟩ :=
    load_layered given_twoFields fileFits_twoFields environmentFits_threeVariables
  have timeout : Setting.asWord? (Environment.settingValue "250") = some c.browse.timeoutMs :=
    layered.ofVariable timeoutMs _ _ List.mem_cons_self (by decide)
  have size : Setting.asWord? (Environment.settingValue "7") = some c.consumer.batchingSize :=
    layered.ofVariable batchingSize "BRIDGE__CONSUMER__BATCHING_SIZE" "7" (by decide) (by decide)
  have bound : Setting.asWord? (.whole 9) = some c.browse.maxMessages :=
    layered.ofFile maxMessages (.whole 9) (by decide) rfl
  have default : c.consumer.cancelTimeoutMs = 1000 :=
    layered.ofNothing cancelTimeoutMs (by decide) rfl
  have seven : c.consumer.batchingSize = 7 := Option.some.inj (size.symm.trans (by decide))
  refine ⟨c, ?_, Option.some.inj (timeout.symm.trans (by decide)),
    Option.some.inj (bound.symm.trans (by decide)), seven, default⟩
  rw [loads, seven]
  rfl

end Intake.BridgeConfig
