import Intake.Proofs.Json.Restoring

/-!
# Reading back lists, mappings, records and choices

Codecs that are put together restore a value if the codecs of the parts restore its parts: lists of
bytes, optional values, mappings (`Codec.restores_entries`), records whose members have different
names (`Codec.restores_record`) and choices.
-/
namespace Intake.Json.Codec

variable {α β : Type}

/-! ### What begins a text -/

/-- A text begins with a byte that is no blank, and does not begin a null or end a list. -/
def Opens (text : List UInt8) : Prop :=
  ∃ b rest, text = b :: rest ∧ Cursor.isBlank b = false ∧ b ≠ 0x6e ∧ b ≠ 0x5d

theorem opens_ofInt (i : Int) : Opens (Decimal.ofInt i) := by
  rcases ofInt_cases i with ⟨-, b, digits, shape, digit, text⟩ | ⟨-, text⟩
  · refine ⟨b, digits, by rw [text, shape], isBlank_of_isDigit digit, ?_, ?_⟩
    · rintro rfl
      exact absurd digit (by decide)
    · rintro rfl
      exact absurd digit (by decide)
  · exact ⟨0x2d, _, text, rfl, by decide, by decide⟩

theorem opens_writeText (s : String) : Opens (writeText s) :=
  ⟨0x22, _, rfl, rfl, by decide, by decide⟩

/-! ### Optional values -/

theorem restores_none (inner : Codec α) : (optional inner).Restores none := by
  intro left p _
  obtain ⟨q, read⟩ : Leaves (Cursor.expectWord Cursor.nullTail (Cursor.nullTail ++ left)
      (p.after 0x6e)) left := leaves_expectWord.mpr rfl
  simp [optional, skipBlanks_cons (b := 0x6e) rfl, bind, Except.bind, pure, Except.pure, read]

theorem restores_some {inner : Codec α} {a : α} (restores : inner.Restores a)
    (opens : Opens (inner.write a)) : (optional inner).Restores (some a) := by
  intro left p ends
  obtain ⟨q, read⟩ := restores left p ends
  obtain ⟨b, rest, text, solid, other, -⟩ := opens
  rw [text, List.cons_append] at read
  refine ⟨q, ?_⟩
  simp only [optional, text, List.cons_append, skipBlanks_cons solid]
  split
  next same => exact absurd (List.cons.inj same).1 other
  next => simp [bind, Except.bind, pure, Except.pure, read]

theorem restores_optional {inner : Codec α} (restores : ∀ a, inner.Restores a)
    (opens : ∀ a, Opens (inner.write a)) (o : Option α) : (optional inner).Restores o := by
  cases o with
  | none => exact restores_none inner
  | some a => exact restores_some (restores a) (opens a)

/-! ### Texts with commas between them -/

/-- Texts with a comma before each but the first; before that one too, unless it comes `first`. -/
def separated : Bool → List (List UInt8) → List UInt8
  | _, [] => []
  | first, t :: ts => (if first then [] else [0x2c]) ++ t ++ separated false ts

theorem commaSeparated_eq (ts : List (List UInt8)) : commaSeparated ts = separated true ts := by
  fun_induction commaSeparated ts with
  | case1 => rfl
  | case2 t => simp [separated]
  | case3 t ts more ih =>
    obtain ⟨u, us, rfl⟩ := List.exists_cons_of_ne_nil more
    rw [ih]
    simp [separated]

/-- No number goes on where an element ends. -/
theorem stops_separated (ts : List (List UInt8)) (close : UInt8) (other : isNumeric close = false)
    (left : List UInt8) : Stops isNumeric (separated false ts ++ close :: left) := by
  cases ts with
  | nil => exact stops_cons.mpr other
  | cons t ts => exact stops_cons.mpr rfl

/-- There are at most as many texts as commas, and one more. -/
theorem length_le_separated (first : Bool) (ts : List (List UInt8)) :
    ts.length ≤ (separated first ts).length + (if first then 1 else 0) := by
  induction ts generalizing first with
  | nil => exact Nat.zero_le _
  | cons t ts ih =>
    have rest := ih false
    cases first with
    | true =>
      simp [separated] at rest ⊢
      omega
    | false =>
      simp [separated] at rest ⊢
      omega

/-- A text in brackets, with commas between its parts. -/
theorem bracketed_append (opening closing : UInt8) (ts : List (List UInt8)) (left : List UInt8) :
    (opening :: commaSeparated ts ++ [closing]) ++ left =
      opening :: (separated true ts ++ closing :: left) := by
  simp [commaSeparated_eq]

/-- The steps allowed for reading a text in brackets are more than its parts. -/
theorem length_lt_bracketed (opening closing : UInt8) (ts : List (List UInt8)) (left : List UInt8) :
    ts.length < (opening :: (separated true ts ++ closing :: left)).length + 1 := by
  have least := length_le_separated true ts
  simp at least ⊢
  omega

/-! ### Lists -/

theorem moreElements_end (first : Bool) (left : List UInt8) (p : Position) :
    Yields (moreElements first ⟨0x5d :: left, p⟩) false (0x5d :: left) := by
  simp [moreElements, skipBlanks_cons (b := 0x5d) rfl, pure, Except.pure]

theorem moreElements_next {text : List UInt8} (opens : Opens text) (first : Bool)
    (more : List UInt8) (p : Position) :
    Yields (moreElements first ⟨(if first then [] else [0x2c]) ++ text ++ more, p⟩) true
      (text ++ more) := by
  obtain ⟨b, rest, rfl, solid, -, other⟩ := opens
  cases first with
  | true => simp [moreElements, skipBlanks_cons solid, other, pure, Except.pure]
  | false =>
    simp [moreElements, skipBlanks_cons (b := 0x2c) rfl, skipBlanks_cons solid, Cursor.step, other,
      pure, Except.pure]

/-- The elements of a list are read one after the other, up to its end. -/
theorem yields_readElements {read : Reader α} {write : α → List UInt8} {as : List α}
    (takes : ∀ a ∈ as, Takes read (write a) a) (opens : ∀ a ∈ as, Opens (write a)) {fuel : Nat}
    (enough : as.length < fuel) (first : Bool) (acc : List α) (left : List UInt8) (p : Position) :
    Yields (readElements read fuel first acc
      ⟨separated first (as.map write) ++ 0x5d :: left, p⟩) (acc.reverse ++ as) left := by
  -- The comma before an element counts as the start of its text: what an element leaves is the text
  -- of the others, none of which comes first.
  induction as generalizing fuel first acc p with
  | nil =>
    obtain ⟨fuel, rfl⟩ := Nat.exists_eq_add_of_lt enough
    rw [readElements]
    refine (moreElements_end first left p).bind fun q => ?_
    simp [pure, Except.pure, Cursor.step]
  | cons a as ih =>
    obtain ⟨takes_a, takes_as⟩ := List.forall_mem_cons.mp takes
    obtain ⟨opens_a, opens_as⟩ := List.forall_mem_cons.mp opens
    cases fuel with
    | zero => exact absurd enough (Nat.not_lt_zero _)
    | succ fuel =>
      have ends := stops_separated (as.map write) 0x5d rfl left
      have next := moreElements_next opens_a first
        (separated false (as.map write) ++ 0x5d :: left) p
      rw [List.map_cons, separated, readElements, List.append_assoc]
      refine next.bind fun q => ?_
      simp only [if_true]
      refine (takes_a _ q ends).bind fun r => ?_
      simpa using ih takes_as opens_as (Nat.lt_of_succ_lt_succ enough) false (a :: acc) r

theorem restores_octets (b : ByteArray) : octets.Restores b := by
  intro left p _
  have opens : ∀ n ∈ Text.bytes b, Opens (word8.write n) := fun n _ => opens_ofInt n.toNat
  have takes : ∀ n ∈ Text.bytes b, Takes word8.read (word8.write n) n :=
    fun n _ => restores_word8 n
  let texts := (Text.bytes b).map word8.write
  have text : octets.write b ++ left = _ := bracketed_append 0x5b 0x5d texts left
  have enough := length_lt_bracketed 0x5b 0x5d texts left
  rw [List.length_map] at enough
  rw [text]
  refine (yields_readElements takes opens enough true [] left (p.after 0x5b)).bind fun q => ?_
  simp [pure, Except.pure]

/-! ### Mappings -/

theorem moreMembers_end (first : Bool) (left : List UInt8) (p : Position) :
    Yields (moreMembers first ⟨0x7d :: left, p⟩) false (0x7d :: left) := by
  simp [moreMembers, skipBlanks_cons (b := 0x7d) rfl, pure, Except.pure]

theorem moreMembers_next (first : Bool) (more : List UInt8) (p : Position) :
    Yields (moreMembers first ⟨(if first then [] else [0x2c]) ++ 0x22 :: more, p⟩) true
      (0x22 :: more) := by
  cases first with
  | true => simp [moreMembers, skipBlanks_cons (b := 0x22) rfl, pure, Except.pure]
  | false =>
    simp [moreMembers, skipBlanks_cons (b := 0x2c) rfl, skipBlanks_cons (b := 0x22) rfl,
      Cursor.step, pure, Except.pure]

theorem leaves_readColon (left : List UInt8) (p : Position) :
    Leaves (readColon ⟨0x3a :: left, p⟩) left := by
  simp [readColon, skipBlanks_cons (b := 0x3a) rfl, Cursor.step]

/-- The start of a member is read up to its value. -/
theorem start_of_member (first : Bool) (name : String) (value more : List UInt8) (p : Position) :
    ∃ named q r t, moreMembers first
        ⟨(if first then [] else [0x2c]) ++ writeMember name value ++ more, p⟩ =
          .ok (true, ⟨0x22 :: named, q⟩) ∧
      readText named (q.after 0x22) = .ok (name, ⟨0x3a :: (value ++ more), r⟩) ∧
      readColon ⟨0x3a :: (value ++ more), r⟩ = .ok ⟨value ++ more, t⟩ := by
  have text : writeMember name value ++ more =
      0x22 :: ((Text.encode name).flatMap escape ++ 0x22 :: 0x3a :: (value ++ more)) := by
    simp [writeMember, writeText]
  obtain ⟨q, next⟩ := moreMembers_next first
    ((Text.encode name).flatMap escape ++ 0x22 :: 0x3a :: (value ++ more)) p
  obtain ⟨r, key⟩ := yields_readText name (0x3a :: (value ++ more)) (q.after 0x22)
  obtain ⟨t, colon⟩ := leaves_readColon (value ++ more) r
  refine ⟨_, q, r, t, ?_, key, colon⟩
  rw [List.append_assoc, text, next]

/-- The members of an object are read one after the other, up to its end. -/
theorem yields_readEntries {inner : Codec α} {es : List (String × α)}
    (restores : ∀ e ∈ es, inner.Restores e.2) {fuel : Nat} (enough : es.length < fuel)
    (first : Bool) (acc : List (String × α)) (left : List UInt8) (p : Position) :
    Yields (readEntries inner.read fuel first acc
      ⟨separated first (es.map fun e => writeMember e.1 (inner.write e.2)) ++ 0x7d :: left, p⟩)
      (acc.reverse ++ es) left := by
  induction es generalizing fuel first acc p with
  | nil =>
    obtain ⟨fuel, rfl⟩ := Nat.exists_eq_add_of_lt enough
    rw [readEntries]
    refine (moreMembers_end first left p).bind fun q => ?_
    simp [pure, Except.pure, Cursor.step]
  | cons e es ih =>
    obtain ⟨restores_e, restores_es⟩ := List.forall_mem_cons.mp restores
    cases fuel with
    | zero => exact absurd enough (Nat.not_lt_zero _)
    | succ fuel =>
      let others := es.map fun e => writeMember e.1 (inner.write e.2)
      have ends := stops_separated others 0x7d rfl left
      obtain ⟨named, q, r, t, next, key, colon⟩ :=
        start_of_member first e.1 (inner.write e.2) (separated false others ++ 0x7d :: left) p
      obtain ⟨u, value⟩ := restores_e _ t ends
      have rest := ih restores_es (Nat.lt_of_succ_lt_succ enough) false (e :: acc) u
      rw [List.map_cons, separated, readEntries, List.append_assoc, next]
      simpa [bind, Except.bind, Cursor.step, key, colon, value] using rest

theorem restores_entries {inner : Codec α} {es : List (String × α)}
    (restores : ∀ e ∈ es, inner.Restores e.2) : (entries inner).Restores es := by
  intro left p _
  let texts := es.map fun e => writeMember e.1 (inner.write e.2)
  have text : (entries inner).write es ++ left = _ := bracketed_append 0x7b 0x7d texts left
  have enough := length_lt_bracketed 0x7b 0x7d texts left
  rw [List.length_map] at enough
  rw [text]
  exact yields_readEntries restores enough true [] left (p.after 0x7b)

/-! ### Records -/

/-- A member reads what it writes of a record, and puts it into any other record like a copy. -/
def Copies (m : Member α) (source : α) (copy : α → α) : Prop :=
  ∀ a left p, Stops isNumeric left → Yields (m.read a ⟨m.write source ++ left, p⟩) (copy a) left

theorem copies_member (name : String) (required : Bool) {codec : Codec β} {get : α → β}
    (put : β → α → α) {source : α} (restores : codec.Restores (get source)) :
    Copies (member name required codec get put) source (put (get source)) := by
  intro a left p ends
  refine (restores left p ends).bind fun q => ?_
  simp [pure, Except.pure]

theorem find?_name {members : List (Member α)} (distinct : (members.map (·.name)).Nodup)
    {m : Member α} (member : m ∈ members) : members.find? (·.name == m.name) = some m := by
  induction members with
  | nil => cases member
  | cons first rest ih =>
    rw [List.map_cons, List.nodup_cons] at distinct
    rcases List.mem_cons.mp member with rfl | later
    · simp
    · have other : first.name ≠ m.name := by
        intro same
        exact distinct.1 (same ▸ List.mem_map_of_mem later)
      simpa [other] using ih distinct.2 later

/-- The members that are left are read one after the other, and each puts its part into the record.
None of them was read before. -/
theorem readMembers_copies {members todo : List (Member α)} {source : α} {copies : List (α → α)}
    (distinct : (members.map (·.name)).Nodup) (known : ∀ m ∈ todo, m ∈ members)
    (copied : List.Forall₂ (Copies · source ·) todo copies) {fuel : Nat}
    (enough : todo.length < fuel) (first : Bool) {seen : List String}
    (fresh : (todo.map (·.name) ++ seen).Nodup) (a : α) (left : List UInt8) (p : Position) :
    ∃ q, readMembers members fuel first seen a
      ⟨separated first (todo.map fun m => writeMember m.name (m.write source)) ++ 0x7d :: left, p⟩ =
      .ok ((todo.map (·.name)).reverse ++ seen, copies.foldl (fun a copy => copy a) a,
        ⟨left, q⟩) := by
  induction copied generalizing fuel first seen a p with
  | nil =>
    obtain ⟨fuel, rfl⟩ := Nat.exists_eq_add_of_lt enough
    obtain ⟨q, more⟩ := moreMembers_end first left p
    refine ⟨q.after 0x7d, ?_⟩
    simp [readMembers, separated, more, bind, Except.bind, pure, Except.pure, Cursor.step]
  | @cons m copy todo copies copied_m copied ih =>
    obtain ⟨known_m, known⟩ := List.forall_mem_cons.mp known
    cases fuel with
    | zero => exact absurd enough (Nat.not_lt_zero _)
    | succ fuel =>
      let others := todo.map fun m => writeMember m.name (m.write source)
      have ends := stops_separated others 0x7d rfl left
      -- The name of the member joins those that were read, and does not come again.
      have fresh' : (todo.map (·.name) ++ m.name :: seen).Nodup :=
        List.perm_middle.nodup_iff.mpr fresh
      have unseen : m.name ∉ seen := fun member =>
        (List.nodup_cons.mp fresh).1 (List.mem_append_right _ member)
      obtain ⟨named, q, r, t, next, key, colon⟩ :=
        start_of_member first m.name (m.write source) (separated false others ++ 0x7d :: left) p
      obtain ⟨u, value⟩ := copied_m a _ t ends
      obtain ⟨v, rest⟩ := ih known (Nat.lt_of_succ_lt_succ enough) false fresh' (copy a) u
      refine ⟨v, ?_⟩
      rw [List.map_cons, separated, readMembers, List.append_assoc, next]
      simpa [bind, Except.bind, Cursor.step, key, find?_name distinct known_m, unseen, colon, value]
        using rest

/-- **Records**: a record whose members have different names is restored if the copies of its
members, put into the value to start from, make it up. -/
theorem restores_record (title : String) (sparse : Bool) {blank source : α}
    {members : List (Member α)} {copies : List (α → α)}
    (copied : List.Forall₂ (Copies · source ·) members copies)
    (distinct : (members.map (·.name)).Nodup)
    (complete : copies.foldl (fun a copy => copy a) blank = source) :
    (record title sparse blank members).Restores source := by
  intro left p _
  let texts := members.map fun m => writeMember m.name (m.write source)
  have text : (record title sparse blank members).write source ++ left = _ :=
    bracketed_append 0x7b 0x7d texts left
  have enough := length_lt_bracketed 0x7b 0x7d texts left
  rw [List.length_map] at enough
  have fresh : (members.map Member.name ++ []).Nodup := by rwa [List.append_nil]
  obtain ⟨q, read⟩ := readMembers_copies distinct (fun _ member => member) copied enough true fresh
    blank left (p.after 0x7b)
  -- All names were read, so no required member is missing.
  have present : members.find? (fun m => m.required &&
      !(List.contains ((members.map Member.name).reverse ++ []) m.name)) = none := by
    rw [List.find?_eq_none]
    intro m member
    have own : m.name ∈ (members.map Member.name).reverse ++ [] := by
      rw [List.append_nil, List.mem_reverse]
      exact List.mem_map_of_mem member
    rw [List.contains_iff_mem.mpr own]
    simp
  refine ⟨q, ?_⟩
  rw [text]
  simp only [record, beginValue_cons (b := 0x7b) rfl, bind, Except.bind, if_true, Cursor.step,
    texts, read, present, complete]
  rfl

/-! ### Choices -/

theorem takes_readVariant {variants : List (Variant α)} {v : Variant α} {name : String}
    (found : variants.find? (·.name == name) = some v) :
    Takes (readVariant variants) (writeText name) v := by
  intro left p ends
  refine (takes_readString "variant identifier" name left p ends).bind fun q => ?_
  simp [found, pure, Except.pure]

theorem restores_bare {variants : List (Variant α)} {write : α → List UInt8} {v : Variant α} {a : α}
    {name : String} (text : write a = writeBare name)
    (found : variants.find? (·.name == name) = some v) (bare : v.bare = some a) :
    (choice variants write).Restores a := by
  intro left p ends
  obtain ⟨q, read⟩ := takes_readVariant found left p ends
  refine ⟨q, ?_⟩
  have shape : (choice variants write).write a ++ left = writeText name ++ left := by
    simp [choice, text, writeBare]
  rw [shape]
  rw [writeText_append] at read ⊢
  simp [choice, beginValue_cons (b := 0x22) rfl, bind, Except.bind, read, bare, pure, Except.pure]

theorem takes_variant (name : String) {codec : Codec β} (make : β → α) {b : β}
    (restores : codec.Restores b) :
    Takes (variant name codec make).read (codec.write b) (make b) := by
  intro left p ends
  refine (restores left p ends).bind fun q => ?_
  simp [pure, Except.pure]

theorem restores_variant {variants : List (Variant α)} {write : α → List UInt8} {v : Variant α}
    {a : α} {name : String} {payload : List UInt8} (text : write a = writeVariant name payload)
    (found : variants.find? (·.name == name) = some v) (takes : Takes v.read payload a) :
    (choice variants write).Restores a := by
  intro left p ends
  have shape : (choice variants write).write a ++ left =
      0x7b :: (writeText name ++ 0x3a :: (payload ++ 0x7d :: left)) := by
    simp [choice, text, writeVariant, writeMember]
  obtain ⟨q, variant⟩ := takes_readVariant found (0x3a :: (payload ++ 0x7d :: left))
    (p.after 0x7b) (stops_cons.mpr rfl)
  obtain ⟨q, colon⟩ := leaves_readColon (payload ++ 0x7d :: left) q
  obtain ⟨q, value⟩ := takes (0x7d :: left) q (stops_cons.mpr rfl)
  refine ⟨q.after 0x7d, ?_⟩
  rw [shape]
  rw [writeText_append] at variant ⊢
  simp [choice, beginValue_cons (b := 0x7b) rfl, toKey, skipBlanks_cons (b := 0x22) rfl, bind,
    Except.bind, Cursor.step, variant, colon, value, skipBlanks_cons (b := 0x7d) rfl, pure,
    Except.pure]

end Intake.Json.Codec
