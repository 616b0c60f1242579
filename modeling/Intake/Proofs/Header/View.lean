import Intake.Selector

/-!
# What the view of a message shows

Under every name the view of a message shows the value that the message gives to the standard header
of that name, and otherwise the header of the producer (`find?_headers`). A single header is looked up
the other way round, so the two differ where the producer has used the name of a standard header that
has another value (`header?_eq_find?_iff`).
-/
namespace Intake

/-! ### Headers -/

theorem lookup_insertEntry (name other : String) (value : HeaderValue)
    (entries : List (String × HeaderValue)) :
    (insertEntry name value entries).lookup other =
      if other = name then some value else entries.lookup other := by
  induction entries with
  | nil =>
    simp only [insertEntry, List.lookup_cons, List.lookup_nil]
    by_cases same : other = name
    · simp [same]
    · simp [same, beq_eq_false_iff_ne.mpr same]
  | cons first rest ih =>
    obtain ⟨n, v⟩ := first
    simp only [insertEntry]
    by_cases same : other = name
    · subst same
      split
      · simp
      · split
        · simp
        · next different => simp [List.lookup_cons, beq_eq_false_iff_ne.mpr different, ih]
    · have skip (l : List (String × HeaderValue)) :
          ((name, value) :: l).lookup other = l.lookup other := by
        rw [List.lookup_cons, beq_eq_false_iff_ne.mpr same]
      rw [if_neg same] at ih ⊢
      split
      · exact skip _
      · split
        · next equal => rw [skip, ← equal, List.lookup_cons, beq_eq_false_iff_ne.mpr same]
        · rw [List.lookup_cons, List.lookup_cons, ih]

/-- A header that is set changes what is found under its name, and nothing else. -/
@[simp] theorem Headers.find?_insert (h : Headers) (name other : String) (value : HeaderValue) :
    (h.insert name value).find? other = if other = name then some value else h.find? other :=
  lookup_insertEntry name other value h.entries

/-! ### Standard headers -/

namespace StandardHeader

/-- The standard header of a name. -/
def named? (name : String) : Option StandardHeader := all.find? fun s => s.name = name

theorem nodup_names : (all.map name).Nodup := by decide

end StandardHeader

namespace Message

/-- The value that a message gives to the standard header of a name. -/
def standard? (m : Message) (name : String) : Option HeaderValue :=
  (StandardHeader.named? name).bind (·.value? m)

theorem addStandard_cons (m : Message) (s : StandardHeader) (standard : List StandardHeader)
    (h : Headers) : m.addStandard (s :: standard) h =
      m.addStandard standard (match s.value? m with
        | some v => h.insert s.name v
        | none => h) := rfl

/-- Of standard headers with different names, the one of a name is found where it has a value. -/
theorem find?_addStandard (m : Message) (name : String) {standard : List StandardHeader}
    (distinct : (standard.map StandardHeader.name).Nodup) (h : Headers) :
    (m.addStandard standard h).find? name =
      ((standard.find? fun s => s.name = name).bind (·.value? m)).or (h.find? name) := by
  induction standard generalizing h with
  | nil => rfl
  | cons s standard ih =>
    obtain ⟨first, others⟩ := List.nodup_cons.mp distinct
    rw [addStandard_cons, ih others]
    by_cases own : s.name = name
    · -- No other header of the list has this name, so that nothing covers the value.
      have alone : (standard.find? fun s => s.name = name) = none := by
        rw [List.find?_eq_none]
        intro t member same
        refine first (List.mem_map.mpr ⟨t, member, ?_⟩)
        rw [own]
        exact of_decide_eq_true same
      rw [alone, List.find?_cons_of_pos (by simpa using own)]
      cases gives : s.value? m with
      | none => simp [gives]
      | some v => simp [gives, own]
    · rw [List.find?_cons_of_neg (by simpa using own)]
      congr 1
      cases s.value? m with
      | none => rfl
      | some v => simp [Ne.symm own]

/-- The view shows the standard header of a name if it has a value, and otherwise the header that the
producer has set. -/
theorem find?_headers (m : Message) (name : String) :
    m.headers.find? name = (m.standard? name).or (m.userHeader? name) :=
  m.find?_addStandard name StandardHeader.nodup_names m.properties.headers

/-- **Looking up a header**: the view prefers the standard header of a name to the one of the
producer, and a single lookup prefers the one of the producer. They agree exactly if the two are not
there with different values. -/
theorem header?_eq_find?_iff (m : Message) (name : String) :
    m.headers.find? name = (m.standard? name).or (m.userHeader? name) ∧
      m.header? name = (m.userHeader? name).or (m.standard? name) ∧
      (m.header? name = m.headers.find? name ↔
        ∀ own standard, m.userHeader? name = some own → m.standard? name = some standard →
          own = standard) := by
  have view := m.find?_headers name
  have single : m.header? name = (m.userHeader? name).or (m.standard? name) := by
    unfold header?
    cases found : m.userHeader? name with
    | some own => rfl
    | none => rw [view, found]; simp
  refine ⟨view, single, ?_⟩
  rw [view, single]
  cases m.userHeader? name with
  | none => simp
  | some own =>
    cases m.standard? name with
    | none => simp
    | some standard => simp

/-- A message whose kind is set, and whose producer has set a header of the name for kinds. -/
def twoKinds : Message where
  deliveryTag := ⟨1⟩
  redelivered := false
  exchange := ""
  routingKey := ""
  properties := { kind := some "order", headers := Headers.empty.insert "JMSType" (.text "mine") }
  body := .text ""

/-- The view, and so a selector, sees the kind, and a single lookup finds the header of the
producer. -/
theorem header?_twoKinds :
    twoKinds.headers.find? "JMSType" = some (.text "order") ∧
      selects (some fun h => h.find? "JMSType" = some (.text "order")) twoKinds = true ∧
      twoKinds.header? "JMSType" = some (.text "mine") := by decide

end Message
end Intake
