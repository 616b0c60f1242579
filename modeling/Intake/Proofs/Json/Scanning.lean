import Intake.Proofs.Json.Skipping

/-!
# Reading past a value

The scanner keeps the frames that are open on a stack, and what it reads past closes all of them
(`expected_of_leaves`). It reads past every value of the grammar, with as many steps as twice the
length of the value at most (`scans_of_derives`). The main statement is `accept_iff`: the scanner
accepts the bytes that are a JSON text, and no others.
-/
namespace Intake.Json

open Grammar

/-! ### What is read past -/

/-- What may stand between a value and the bracket that closes its frame. -/
def Remainder (frame : Frame) (t : List Nat) : Prop :=
  Blanks t ∨ ∃ w u, t = w ++ 0x2c :: u ∧ Blanks w ∧ Derives (.parts frame) u

/-- What closes the frames that are open after a value. -/
def Closing : List Frame → List Nat → Prop
  | [], t => t = []
  | frame :: frames, t =>
    ∃ u z, t = u ++ closes frame :: z ∧ Remainder frame u ∧ Closing frames z

/-- What the scanner is to read past, in every phase. -/
def Expected : Phase → List Frame → List Nat → Prop
  | .value, frames, t => ∃ w v z, t = w ++ v ++ z ∧ Blanks w ∧ Derives .value v ∧ Closing frames z
  | .opened, [], t => t = []
  | .opened, frame :: frames, t =>
    ∃ u z, t = u ++ closes frame :: z ∧ (Blanks u ∨ Derives (.parts frame) u) ∧ Closing frames z
  | .closed, frames, t => Closing frames t

theorem closes_eq (frame : Frame) : frame.closing.toNat = closes frame := by
  cases frame <;> rfl

theorem opened_of_bracket {frame : Frame} {frames : List Frame} {t : List Nat}
    (expected : Expected .opened (frame :: frames) t) :
    Expected .value frames (opens frame :: t) := by
  obtain ⟨u, z, rfl, inside, closing⟩ := expected
  refine ⟨[], opens frame :: u ++ [closes frame], z, by simp, blanks_nil, ?_, closing⟩
  rcases inside with blanks | parts
  · exact .empty frame blanks
  · exact .full frame parts

theorem value_of_blanks {frames : List Frame} {w t : List Nat} (blanks : Blanks w)
    (expected : Expected .value frames t) : Expected .value frames (w ++ t) := by
  obtain ⟨w', v, z, rfl, blanks', value, closing⟩ := expected
  exact ⟨w ++ w', v, z, by simp, List.forall_mem_append.mpr ⟨blanks, blanks'⟩, value, closing⟩

/-- What stands before a value, the value, and what closes its frame are parts of the frame and the
bracket. -/
theorem parts_of_value {frame : Frame} {frames : List Frame} {lead t : List Nat}
    (isLead : Lead frame lead) (expected : Expected .value (frame :: frames) t) :
    ∃ u z, lead ++ t = u ++ closes frame :: z ∧ Derives (.parts frame) u ∧ Closing frames z := by
  obtain ⟨w, v, _, rfl, blanks, value, u, z, rfl, remainder, closing⟩ := expected
  rcases remainder with after | ⟨w', rest, rfl, after, parts⟩
  · refine ⟨lead ++ w ++ v ++ u, z, by simp, ?_, closing⟩
    exact .last (isLead.append blanks) value after
  · refine ⟨lead ++ w ++ v ++ w' ++ 0x2c :: rest, z, by simp, ?_, closing⟩
    exact .next (isLead.append blanks) value after parts

/-- Reads past the first part of a frame, and then past all that the frames need. -/
def scanPart (fuel : Nat) (frame : Frame) (frames : List Frame) (c : Cursor) :
    Except Fault Cursor :=
  if frame = .object then
    match skipKey c with
    | .error e => .error e
    | .ok d => scan fuel .value (frame :: frames) d
  else scan fuel .value (frame :: frames) c

theorem scan_value (fuel : Nat) (frames : List Frame) (c : Cursor) :
    scan (fuel + 1) .value frames c =
      match c.skipBlanks.rest with
      | [] => .error (c.skipBlanks.fault .endInValue)
      | b :: rest =>
        if b = 0x5b then scan fuel .opened (.list :: frames) ⟨rest, c.skipBlanks.position.after b⟩
        else if b = 0x7b then
          scan fuel .opened (.object :: frames) ⟨rest, c.skipBlanks.position.after b⟩
        else
          match skipScalar b rest c.skipBlanks.position with
          | .error e => .error e
          | .ok d => scan fuel .closed frames d := rfl

theorem scan_opened (fuel : Nat) (frame : Frame) (frames : List Frame) (c : Cursor) :
    scan (fuel + 1) .opened (frame :: frames) c =
      match c.skipBlanks.rest with
      | [] => .error (c.skipBlanks.fault frame.atEnd)
      | b :: rest =>
        if b = frame.closing then scan fuel .closed frames ⟨rest, c.skipBlanks.position.after b⟩
        else scanPart fuel frame frames c.skipBlanks := rfl

theorem scan_closed (fuel : Nat) (frame : Frame) (frames : List Frame) (c : Cursor) :
    scan (fuel + 1) .closed (frame :: frames) c =
      match c.skipBlanks.rest with
      | [] => .error (c.skipBlanks.fault frame.atEnd)
      | b :: rest =>
        if b = 0x2c then scanPart fuel frame frames ⟨rest, c.skipBlanks.position.after b⟩
        else if b = frame.closing then
          scan fuel .closed frames ⟨rest, c.skipBlanks.position.after b⟩
        else .error (c.skipBlanks.faultNext frame.unexpected) := rfl

/-- With so many steps, what the scanner reads past is what it is to read past. -/
def Sound (fuel : Nat) : Prop :=
  ∀ {phase : Phase} {frames : List Frame} {c : Cursor} {left : List UInt8},
    Leaves (scan fuel phase frames c) left →
      ∃ t, c.rest = t ++ left ∧ Expected phase frames (codes t)

section Soundness

variable {fuel : Nat} {frame : Frame} {frames : List Frame} {c : Cursor} {left : List UInt8}
  (sound : Sound fuel)

include sound

theorem expected_of_scanPart (leaves : Leaves (scanPart fuel frame frames c) left) :
    ∃ t u z, c.rest = t ++ left ∧ codes t = u ++ closes frame :: z ∧
      Derives (.parts frame) u ∧ Closing frames z := by
  cases frame with
  | list =>
    obtain ⟨t, split, expected⟩ := sound leaves
    obtain ⟨u, z, shape, parts, closing⟩ :=
      parts_of_value (show Lead .list [] from blanks_nil) expected
    exact ⟨t, u, z, split, shape, parts, closing⟩
  | object =>
    simp only [scanPart, if_true] at leaves
    split at leaves
    · exact absurd leaves not_leaves_error
    · next d read =>
      have name : Leaves (skipKey c) d.rest := by rw [read, leaves_ok]
      obtain ⟨key, split, isKey⟩ := leaves_skipKey.mp name
      obtain ⟨t, split', expected⟩ := sound leaves
      have isLead : Lead .object (codes key) := ⟨codes key, [], by simp, isKey, blanks_nil⟩
      obtain ⟨u, z, shape, parts, closing⟩ := parts_of_value isLead expected
      refine ⟨key ++ t, u, z, by rw [split, split', List.append_assoc], ?_, parts, closing⟩
      rw [codes_append, shape]

theorem expected_of_value (leaves : Leaves (scan (fuel + 1) .value frames c) left) :
    ∃ t, c.rest = t ++ left ∧ Expected .value frames (codes t) := by
  obtain ⟨w, blank, blanks⟩ := exists_blanks c
  rw [scan_value] at leaves
  split at leaves
  · exact absurd leaves not_leaves_error
  · next b rest begins =>
    suffices after : ∃ t, b :: rest = t ++ left ∧ Expected .value frames (codes t) by
      obtain ⟨t, split, expected⟩ := after
      refine ⟨w ++ t, by rw [blank, begins, split, List.append_assoc], ?_⟩
      rw [codes_append]
      exact value_of_blanks blanks expected
    split at leaves
    · next bracket =>
      obtain ⟨t, split, expected⟩ := sound leaves
      have same : b.toNat = opens .list := by rw [bracket]; rfl
      refine ⟨b :: t, congrArg (b :: ·) split, ?_⟩
      rw [codes_cons, same]
      exact opened_of_bracket expected
    · split at leaves
      · next bracket =>
        obtain ⟨t, split, expected⟩ := sound leaves
        have same : b.toNat = opens .object := by rw [bracket]; rfl
        refine ⟨b :: t, congrArg (b :: ·) split, ?_⟩
        rw [codes_cons, same]
        exact opened_of_bracket expected
      · split at leaves
        · exact absurd leaves not_leaves_error
        · next d read =>
          have scalar : Leaves (skipScalar b rest c.skipBlanks.position) d.rest := by
            rw [read, leaves_ok]
          obtain ⟨v, split, value⟩ := derives_of_scalar scalar
          obtain ⟨t, split', closing⟩ := sound leaves
          refine ⟨v ++ t, by rw [split, split', List.append_assoc], ?_⟩
          exact ⟨[], codes v, codes t, by simp, blanks_nil, value, closing⟩

theorem expected_of_opened (leaves : Leaves (scan (fuel + 1) .opened (frame :: frames) c) left) :
    ∃ t, c.rest = t ++ left ∧ Expected .opened (frame :: frames) (codes t) := by
  obtain ⟨w, blank, blanks⟩ := exists_blanks c
  rw [scan_opened] at leaves
  split at leaves
  · exact absurd leaves not_leaves_error
  · next b rest begins =>
    split at leaves
    · next bracket =>
      obtain ⟨t, rfl, closing⟩ := sound leaves
      refine ⟨w ++ b :: t, by rw [blank, begins]; simp, codes w, codes t, ?_, .inl blanks, closing⟩
      rw [codes_append, codes_cons, bracket, closes_eq]
    · obtain ⟨t, u, z, split, shape, parts, closing⟩ := expected_of_scanPart sound leaves
      refine ⟨w ++ t, by rw [blank, split, List.append_assoc], codes w ++ u, z, ?_,
        .inr (parts_of_blanks blanks parts), closing⟩
      rw [codes_append, shape, List.append_assoc]

theorem expected_of_closed (leaves : Leaves (scan (fuel + 1) .closed (frame :: frames) c) left) :
    ∃ t, c.rest = t ++ left ∧ Closing (frame :: frames) (codes t) := by
  obtain ⟨w, blank, blanks⟩ := exists_blanks c
  rw [scan_closed] at leaves
  split at leaves
  · exact absurd leaves not_leaves_error
  · next b rest begins =>
    split at leaves
    · next comma =>
      obtain ⟨t, u, z, rfl, shape, parts, closing⟩ := expected_of_scanPart sound leaves
      refine ⟨w ++ b :: t, by rw [blank, begins]; simp, codes w ++ 0x2c :: u, z, ?_,
        .inr ⟨codes w, u, rfl, blanks, parts⟩, closing⟩
      rw [codes_append, codes_cons, shape, comma]
      simp
    · split at leaves
      · next bracket =>
        obtain ⟨t, rfl, closing⟩ := sound leaves
        refine ⟨w ++ b :: t, by rw [blank, begins]; simp, codes w, codes t, ?_, .inl blanks,
          closing⟩
        rw [codes_append, codes_cons, bracket, closes_eq]
      · exact absurd leaves not_leaves_error

end Soundness

/-- **Soundness**: what the scanner reads past is what it is to read past. -/
theorem sound_scan (fuel : Nat) : Sound fuel := by
  induction fuel with
  | zero =>
    intro phase frames c left leaves
    exact absurd leaves not_leaves_error
  | succ fuel sound =>
    intro phase frames c left leaves
    cases phase with
    | value => exact expected_of_value sound leaves
    | opened =>
      cases frames with
      | nil =>
        rw [scan, leaves_ok] at leaves
        exact ⟨[], leaves, rfl⟩
      | cons frame frames => exact expected_of_opened sound leaves
    | closed =>
      cases frames with
      | nil =>
        rw [scan, leaves_ok] at leaves
        exact ⟨[], leaves, rfl⟩
      | cons frame frames => exact expected_of_closed sound leaves

/-! ### What can be read past -/

theorem stops_isNumeric {b : UInt8} (other : b ∈ [0x20, 0x09, 0x0a, 0x0d, 0x2c, 0x5d, 0x7d])
    (bs : List UInt8) : Stops isNumeric (b :: bs) := by
  refine stops_cons.mpr ?_
  simp only [List.mem_cons, List.not_mem_nil, or_false] at other
  rcases other with rfl | rfl | rfl | rfl | rfl | rfl | rfl <;> rfl

/-- A number ends where blanks begin. -/
theorem stops_of_blanks {w left : List UInt8} (blanks : Blanks (codes w))
    (ends : Stops isNumeric left) : Stops isNumeric (w ++ left) := by
  cases w with
  | nil => exact ends
  | cons b w =>
    have blank := blanks_codes.mp blanks b List.mem_cons_self
    simp only [Cursor.isBlank, Bool.or_eq_true, decide_eq_true_eq] at blank
    apply stops_isNumeric
    rcases blank with ((rfl | rfl) | rfl) | rfl <;> decide

theorem stops_isBlank {b : UInt8} {c : Nat} (same : b.toNat = c) (solid : ¬ IsBlank c)
    (bs : List UInt8) : Stops Cursor.isBlank (b :: bs) := by
  rw [stops_cons, ← Bool.not_eq_true, isBlank_iff, same]
  exact solid

/-- Bytes that the scanner reads past: those of a value from the phase of a value on, up to the
phase that follows it, and those of the parts of a frame up to the bracket that closes it. -/
def Scans : Part → List UInt8 → Prop
  | .value, bs =>
    ∃ n ≤ 2 * bs.length, ∀ fuel w frames left p, Blanks (codes w) → Stops isNumeric left →
      ∃ q, scan (fuel + n) .value frames ⟨w ++ (bs ++ left), p⟩ = scan fuel .closed frames ⟨left, q⟩
  | .parts frame, bs =>
    ∃ n ≤ 2 * bs.length, ∀ fuel frames left p,
      ∃ q, scanPart (fuel + n + 1) frame frames ⟨bs ++ frame.closing :: left, p⟩ =
        scan fuel .closed frames ⟨left, q⟩

theorem scans_of_scalar {bs : List UInt8} (scalar : Scalar (codes bs))
    (value : Derives .value (codes bs)) : Scans .value bs := by
  obtain ⟨c, u, coded, solid, -⟩ := first_of_value value
  refine ⟨1, ?_, ?_⟩
  · obtain ⟨b, rest, rfl, -⟩ := codes_eq_cons coded
    simp only [List.length_cons]
    omega
  · intro fuel w frames left p blanks ends
    obtain ⟨b, rest, rfl, list, object, read⟩ := leaves_of_scalar scalar ends
    rw [codes_cons, List.cons.injEq] at coded
    obtain ⟨q, begins⟩ :=
      skipBlanks_of_blanks blanks (stops_isBlank coded.1 solid (rest ++ left)) p
    obtain ⟨q', past⟩ := read q
    exact ⟨q', by simp [scan, begins, list, object, past]⟩

/-- The bracket that opens a frame. -/
def Frame.opening : Frame → UInt8
  | .list => 0x5b
  | .object => 0x7b

theorem opens_eq (frame : Frame) : frame.opening.toNat = opens frame := by
  cases frame <;> rfl

theorem bracketed_of_codes {frame : Frame} {bs : List UInt8} {t : List Nat}
    (coded : codes bs = opens frame :: t ++ [closes frame]) :
    ∃ inner, bs = frame.opening :: (inner ++ [frame.closing]) ∧ codes inner = t := by
  simp only [List.cons_append, codes_eq_cons_iff, codes_eq_append_iff] at coded
  obtain ⟨b, _, rfl, first, inner, _, rfl, rfl, b', _, rfl, last, nothing⟩ := coded
  cases codes_eq_nil nothing
  have known : b = frame.opening := UInt8.toNat_inj.mp (first.trans (opens_eq frame).symm)
  have known' : b' = frame.closing := UInt8.toNat_inj.mp (last.trans (closes_eq frame).symm)
  exact ⟨inner, by rw [known, known'], rfl⟩

theorem scan_opening {w : List UInt8} (blanks : Blanks (codes w)) (fuel : Nat) (frame : Frame)
    (frames : List Frame) (left : List UInt8) (p : Position) :
    ∃ q, scan (fuel + 1) .value frames ⟨w ++ frame.opening :: left, p⟩ =
      scan fuel .opened (frame :: frames) ⟨left, q⟩ := by
  have stops : Stops Cursor.isBlank (frame.opening :: left) := by
    cases frame <;> exact stops_cons.mpr (by decide)
  obtain ⟨q, begins⟩ := skipBlanks_of_blanks blanks stops p
  refine ⟨q.after frame.opening, ?_⟩
  simp only [scan, begins]
  cases frame <;> rfl

theorem stops_closing (frame : Frame) (left : List UInt8) :
    Stops Cursor.isBlank (frame.closing :: left) := by
  cases frame <;> exact stops_cons.mpr (by decide)

theorem scan_opened_closing {w : List UInt8} (blanks : Blanks (codes w)) (fuel : Nat)
    (frame : Frame) (frames : List Frame) (left : List UInt8) (p : Position) :
    ∃ q, scan (fuel + 1) .opened (frame :: frames) ⟨w ++ frame.closing :: left, p⟩ =
      scan fuel .closed frames ⟨left, q⟩ := by
  obtain ⟨q, begins⟩ := skipBlanks_of_blanks blanks (stops_closing frame left) p
  exact ⟨q.after frame.closing, by simp [scan_opened, begins]⟩

theorem scan_closed_closing {w : List UInt8} (blanks : Blanks (codes w)) (fuel : Nat)
    (frame : Frame) (frames : List Frame) (left : List UInt8) (p : Position) :
    ∃ q, scan (fuel + 1) .closed (frame :: frames) ⟨w ++ frame.closing :: left, p⟩ =
      scan fuel .closed frames ⟨left, q⟩ := by
  obtain ⟨q, begins⟩ := skipBlanks_of_blanks blanks (stops_closing frame left) p
  have other : frame.closing ≠ 0x2c := by cases frame <;> decide
  exact ⟨q.after frame.closing, by simp [scan_closed, begins, other]⟩

theorem scan_comma {w : List UInt8} (blanks : Blanks (codes w)) (fuel : Nat) (frame : Frame)
    (frames : List Frame) (left : List UInt8) (p : Position) :
    ∃ q, scan (fuel + 1) .closed (frame :: frames) ⟨w ++ 0x2c :: left, p⟩ =
      scanPart fuel frame frames ⟨left, q⟩ := by
  have stops : Stops Cursor.isBlank (0x2c :: left) := stops_cons.mpr (by decide)
  obtain ⟨q, begins⟩ := skipBlanks_of_blanks blanks stops p
  exact ⟨q.after 0x2c, by simp [scan_closed, begins]⟩

theorem skipBlanks_skipBlanks (c : Cursor) : c.skipBlanks.skipBlanks = c.skipBlanks := by
  obtain ⟨bs, p⟩ := c
  unfold Cursor.skipBlanks
  induction bs generalizing p with
  | nil => rfl
  | cons b bs ih =>
    cases blank : Cursor.isBlank b with
    | true => simpa [Cursor.skipBlanksFrom, blank] using ih (p.after b)
    | false => simp [Cursor.skipBlanksFrom, blank]

/-- Blanks before the first part of a frame do not matter. -/
theorem scanPart_skipBlanks (fuel : Nat) (frame : Frame) (frames : List Frame) (c : Cursor) :
    scanPart (fuel + 1) frame frames c.skipBlanks = scanPart (fuel + 1) frame frames c := by
  cases frame with
  | list => simp only [scanPart, reduceCtorEq, if_false, scan, skipBlanks_skipBlanks]
  | object => simp only [scanPart, if_true, skipKey, skipBlanks_skipBlanks]

theorem scan_opened_parts {frame : Frame} {bs : List UInt8}
    (parts : Derives (.parts frame) (codes bs)) (fuel : Nat) (frames : List Frame)
    (left : List UInt8) (p : Position) :
    scan (fuel + 2) .opened (frame :: frames) ⟨bs ++ left, p⟩ =
      scanPart (fuel + 1) frame frames ⟨bs ++ left, p⟩ := by
  obtain ⟨_, c, _, coded, blanks, solid, other⟩ := first_of_parts parts
  simp only [codes_eq_append_iff, codes_eq_cons_iff] at coded
  obtain ⟨w, _, rfl, rfl, b, rest, rfl, rfl, -⟩ := coded
  obtain ⟨q, begins⟩ :=
    skipBlanks_of_blanks blanks (stops_isBlank rfl solid (rest ++ left)) p
  have unclosed : b ≠ frame.closing := by
    rintro rfl
    exact other (closes_eq frame)
  rw [← scanPart_skipBlanks, scan_opened]
  simp [begins, unclosed]

/-- What stands before a value is read past, but perhaps for some blanks. -/
theorem scanPart_of_lead {frame : Frame} {lead : List UInt8} (isLead : Lead frame (codes lead)) :
    ∃ w, Blanks (codes w) ∧ ∀ fuel frames left p, ∃ q,
      scanPart fuel frame frames ⟨lead ++ left, p⟩ =
        scan fuel .value (frame :: frames) ⟨w ++ left, q⟩ := by
  cases frame with
  | list => exact ⟨lead, isLead, fun fuel frames left p => ⟨p, rfl⟩⟩
  | object =>
    obtain ⟨_, _, coded, isKey, blanks⟩ := isLead
    obtain ⟨key, w, rfl, rfl, rfl⟩ := codes_eq_append coded
    refine ⟨w, blanks, fun fuel frames left p => ?_⟩
    obtain ⟨q, read⟩ := leaves_of_key isKey (w ++ left) p
    exact ⟨q, by simp [scanPart, read]⟩

/-! ### From parts to values -/

section Parts

variable {frame : Frame} {lead v w inner rest : List UInt8}

theorem scans_of_empty (blanks : Blanks (codes inner)) :
    Scans .value (frame.opening :: (inner ++ [frame.closing])) := by
  refine ⟨2, ?_, fun fuel w frames left p before _ => ?_⟩
  · simp only [List.length_cons, List.length_append]
    omega
  · obtain ⟨q, opened⟩ := scan_opening before (fuel + 1) frame frames
      (inner ++ frame.closing :: left) p
    obtain ⟨q', closed⟩ := scan_opened_closing blanks fuel frame frames left q
    refine ⟨q', ?_⟩
    rw [← closed, ← opened]
    simp

theorem scans_of_full (parts : Derives (.parts frame) (codes inner))
    (scans : Scans (.parts frame) inner) :
    Scans .value (frame.opening :: (inner ++ [frame.closing])) := by
  obtain ⟨n, few, inside⟩ := scans
  refine ⟨n + 3, ?_, fun fuel w frames left p before _ => ?_⟩
  · simp only [List.length_cons, List.length_append]
    omega
  · obtain ⟨q, opened⟩ := scan_opening before (fuel + n + 2) frame frames
      (inner ++ frame.closing :: left) p
    obtain ⟨q', past⟩ := inside fuel frames left q
    refine ⟨q', ?_⟩
    rw [← past, ← scan_opened_parts parts, ← opened]
    simp [Nat.add_assoc]

theorem scans_of_last (isLead : Lead frame (codes lead)) (scans : Scans .value v)
    (after : Blanks (codes w)) : Scans (.parts frame) (lead ++ v ++ w) := by
  obtain ⟨before, blanks, enter⟩ := scanPart_of_lead isLead
  obtain ⟨n, few, value⟩ := scans
  refine ⟨n, ?_, fun fuel frames left p => ?_⟩
  · simp only [List.length_append]
    omega
  · have ends : Stops isNumeric (w ++ frame.closing :: left) :=
      stops_of_blanks after (stops_isNumeric (by cases frame <;> decide) left)
    obtain ⟨q, entered⟩ := enter (fuel + n + 1) frames (v ++ (w ++ frame.closing :: left)) p
    obtain ⟨q', past⟩ := value (fuel + 1) before (frame :: frames) _ q blanks ends
    obtain ⟨q'', closed⟩ := scan_closed_closing after fuel frame frames left q'
    refine ⟨q'', ?_⟩
    rw [← closed, ← past, Nat.add_right_comm fuel 1 n, ← entered]
    simp

theorem scans_of_next (isLead : Lead frame (codes lead)) (scans : Scans .value v)
    (after : Blanks (codes w)) (scans' : Scans (.parts frame) rest) :
    Scans (.parts frame) (lead ++ v ++ w ++ 0x2c :: rest) := by
  obtain ⟨before, blanks, enter⟩ := scanPart_of_lead isLead
  obtain ⟨n, few, value⟩ := scans
  obtain ⟨m, few', others⟩ := scans'
  refine ⟨m + 1 + n, ?_, fun fuel frames left p => ?_⟩
  · simp only [List.length_append, List.length_cons]
    omega
  · have ends : Stops isNumeric (w ++ 0x2c :: (rest ++ frame.closing :: left)) :=
      stops_of_blanks after (stops_isNumeric (by decide) _)
    obtain ⟨q, entered⟩ := enter (fuel + (m + 1 + n) + 1) frames
      (v ++ (w ++ 0x2c :: (rest ++ frame.closing :: left))) p
    obtain ⟨q', past⟩ := value (fuel + m + 1 + 1) before (frame :: frames) _ q blanks ends
    obtain ⟨q'', separated⟩ := scan_comma after (fuel + m + 1) frame frames
      (rest ++ frame.closing :: left) q'
    obtain ⟨q₃, past'⟩ := others fuel frames left q''
    have steps : fuel + m + 1 + 1 + n = fuel + (m + 1 + n) + 1 := by omega
    refine ⟨q₃, ?_⟩
    rw [← past', ← separated, ← past, steps, ← entered]
    simp

end Parts

/-- **Completeness**: the scanner reads past all that the grammar derives. -/
theorem scans_of_derives {part : Part} {bs : List UInt8} (derives : Derives part (codes bs)) :
    Scans part bs := by
  generalize coded : codes bs = t at derives
  induction derives generalizing bs with
  | word word =>
    subst coded
    exact scans_of_scalar (.inl word) (.word word)
  | number number =>
    subst coded
    exact scans_of_scalar (.inr (.inl number)) (.number number)
  | string quoted =>
    subst coded
    exact scans_of_scalar (.inr (.inr quoted)) (.string quoted)
  | empty frame blanks =>
    obtain ⟨inner, rfl, rfl⟩ := bracketed_of_codes coded
    exact scans_of_empty blanks
  | full frame parts ih =>
    obtain ⟨inner, rfl, rfl⟩ := bracketed_of_codes coded
    exact scans_of_full parts (ih rfl)
  | last isLead _ after ih =>
    simp only [codes_eq_append_iff] at coded
    obtain ⟨_, w, rfl, ⟨lead, v, rfl, rfl, rfl⟩, rfl⟩ := coded
    exact scans_of_last isLead (ih rfl) after
  | next isLead _ after _ ih ih' =>
    simp only [codes_eq_append_iff, codes_eq_cons_iff] at coded
    obtain ⟨_, _, rfl, ⟨_, w, rfl, ⟨lead, v, rfl, rfl, rfl⟩, rfl⟩, b, rest, rfl, comma, rfl⟩ := coded
    have known : b = 0x2c := UInt8.toNat_inj.mp comma
    subst known
    exact scans_of_next isLead (ih rfl) after (ih' rfl)

/-! ### Acceptance -/

/-- **Acceptance**: the scanner accepts the bytes that are a JSON text, and no others. -/
theorem accept_iff (bs : List UInt8) : accept bs = .ok () ↔ IsText (codes bs) := by
  constructor
  · intro accepted
    unfold accept at accepted
    split at accepted
    · cases accepted
    · next c read =>
      have leaves : Leaves (skipValue (Cursor.ofBytes bs)) c.rest := by rw [read, leaves_ok]
      obtain ⟨t, split, w, v, _, coded, blanks, value, rfl⟩ := sound_scan _ leaves
      obtain ⟨w', rest, blanks'⟩ := exists_blanks c
      -- Nothing is left but blanks, or the document would not be finished.
      have finished : c.skipBlanks.rest = [] := by
        unfold Cursor.finish at accepted
        simp only at accepted
        split at accepted
        · next nothing => exact List.isEmpty_iff.mp nothing
        · cases accepted
      refine ⟨w, v, codes w', ?_, blanks, value, blanks'⟩
      rw [show bs = t ++ c.rest from split, rest, finished, codes_append, coded]
      simp
  · rintro ⟨_, _, _, coded, before, value, after⟩
    simp only [codes_eq_append_iff] at coded
    obtain ⟨_, w', rfl, ⟨w, v, rfl, rfl, rfl⟩, rfl⟩ := coded
    obtain ⟨n, few, read⟩ := scans_of_derives value
    have ends : Stops isNumeric w' := by
      have stops := stops_of_blanks after (stops_nil isNumeric)
      rwa [List.append_nil] at stops
    obtain ⟨k, enough⟩ : ∃ k, 2 * (w ++ v ++ w').length + 2 = k + 1 + n := by
      simp only [List.length_append]
      exact ⟨2 * (w.length + v.length + w'.length) + 1 - n, by omega⟩
    obtain ⟨q, past⟩ := read (k + 1) w [] w' Position.start before ends
    have value_read : skipValue (Cursor.ofBytes (w ++ v ++ w')) = .ok ⟨w', q⟩ := by
      rw [skipValue, show (Cursor.ofBytes (w ++ v ++ w')).rest = w ++ v ++ w' from rfl, enough,
        Cursor.ofBytes, List.append_assoc, past, scan]
    have blank : w'.dropWhile Cursor.isBlank = [] := by
      have dropped := dropWhile_append (blanks_codes.mp after) (stops_nil Cursor.isBlank)
      rwa [List.append_nil] at dropped
    have nothing : (Cursor.skipBlanks ⟨w', q⟩).rest = [] := by rw [skipBlanks_rest, blank]
    rw [accept, value_read]
    simp [Cursor.finish, nothing]

/-! ### The number of steps -/

/-- How many steps are enough to read past the rest of a text. -/
def need (phase : Phase) (c : Cursor) : Nat :=
  2 * c.rest.length + if phase = .opened then 2 else 1

theorem skipBlanks_length_le (c : Cursor) : c.skipBlanks.rest.length ≤ c.rest.length := by
  rw [skipBlanks_rest]
  exact (List.dropWhile_suffix _).length_le

/-- With so many steps, or more, it does not matter how many there are. -/
def Enough (fuel : Nat) : Prop :=
  ∀ {phase : Phase} {frames : List Frame} {c : Cursor}, need phase c ≤ fuel →
    scan (fuel + 1) phase frames c = scan fuel phase frames c

section Steps

variable {fuel : Nat} {frame : Frame} {frames : List Frame} {c : Cursor} (enough : Enough fuel)

include enough

theorem scanPart_of_enough (few : 2 * c.rest.length + 1 ≤ fuel) :
    scanPart (fuel + 1) frame frames c = scanPart fuel frame frames c := by
  cases frame with
  | list => exact enough few
  | object =>
    simp only [scanPart, if_true]
    cases read : skipKey c with
    | error e => rfl
    | ok d =>
      have name : Leaves (skipKey c) d.rest := by rw [read, leaves_ok]
      obtain ⟨key, split, -⟩ := leaves_skipKey.mp name
      have shorter : d.rest.length ≤ c.rest.length := by
        rw [split, List.length_append]
        omega
      exact enough (Nat.le_trans (by simp [need]; omega) few)

theorem scan_value_of_enough (few : need .value c ≤ fuel + 1) :
    scan (fuel + 1 + 1) .value frames c = scan (fuel + 1) .value frames c := by
  have shorter := skipBlanks_length_le c
  rw [scan_value (fuel + 1), scan_value fuel]
  cases begins : c.skipBlanks.rest with
  | nil => rfl
  | cons b rest =>
    simp only [begins, List.length_cons] at shorter
    simp only [need, reduceCtorEq, if_false] at few
    have inner {q : Position} {frames : List Frame} :
        scan (fuel + 1) .opened frames ⟨rest, q⟩ = scan fuel .opened frames ⟨rest, q⟩ := by
      apply enough
      simp only [need, if_true]
      omega
    simp only [inner]
    cases read : skipScalar b rest c.skipBlanks.position with
    | error e => rfl
    | ok d =>
      have scalar : Leaves (skipScalar b rest c.skipBlanks.position) d.rest := by
        rw [read, leaves_ok]
      obtain ⟨v, split, value⟩ := derives_of_scalar scalar
      -- A value has a byte at least, so that less of the text is left.
      obtain ⟨_, _, coded, -⟩ := first_of_value value
      obtain ⟨_, more, rfl, -⟩ := codes_eq_cons coded
      have lengths := congrArg List.length split
      simp only [List.length_cons, List.length_append] at lengths
      have after : scan (fuel + 1) .closed frames d = scan fuel .closed frames d := by
        apply enough
        simp only [need, reduceCtorEq, if_false]
        omega
      simp only [after]

theorem scan_opened_of_enough (few : need .opened c ≤ fuel + 1) :
    scan (fuel + 1 + 1) .opened (frame :: frames) c =
      scan (fuel + 1) .opened (frame :: frames) c := by
  have shorter := skipBlanks_length_le c
  simp only [need, if_true] at few
  rw [scan_opened (fuel + 1), scan_opened fuel, scanPart_of_enough enough (by omega)]
  cases begins : c.skipBlanks.rest with
  | nil => rfl
  | cons b rest =>
    simp only [begins, List.length_cons] at shorter
    have closed {q : Position} :
        scan (fuel + 1) .closed frames ⟨rest, q⟩ = scan fuel .closed frames ⟨rest, q⟩ := by
      apply enough
      simp only [need, reduceCtorEq, if_false]
      omega
    simp only [closed]

theorem scan_closed_of_enough (few : need .closed c ≤ fuel + 1) :
    scan (fuel + 1 + 1) .closed (frame :: frames) c =
      scan (fuel + 1) .closed (frame :: frames) c := by
  have shorter := skipBlanks_length_le c
  simp only [need, reduceCtorEq, if_false] at few
  rw [scan_closed (fuel + 1), scan_closed fuel]
  cases begins : c.skipBlanks.rest with
  | nil => rfl
  | cons b rest =>
    simp only [begins, List.length_cons] at shorter
    have closed {q : Position} :
        scan (fuel + 1) .closed frames ⟨rest, q⟩ = scan fuel .closed frames ⟨rest, q⟩ := by
      apply enough
      simp only [need, reduceCtorEq, if_false]
      omega
    have part {q : Position} :
        scanPart (fuel + 1) frame frames ⟨rest, q⟩ = scanPart fuel frame frames ⟨rest, q⟩ :=
      scanPart_of_enough enough (by simp only; omega)
    simp only [closed, part]

end Steps

theorem enough_steps (fuel : Nat) : Enough fuel := by
  induction fuel with
  | zero =>
    intro phase frames c few
    simp only [need, Nat.le_zero_eq, Nat.add_eq_zero_iff] at few
    cases phase <;> simp at few
  | succ fuel enough =>
    intro phase frames c few
    cases phase with
    | value => exact scan_value_of_enough enough few
    | opened =>
      cases frames with
      | nil => rfl
      | cons frame frames => exact scan_opened_of_enough enough few
    | closed =>
      cases frames with
      | nil => rfl
      | cons frame frames => exact scan_closed_of_enough enough few

/-- **Steps**: the bound on the steps never stops the scanner; with any larger one it does the same. -/
theorem scan_eq_skipValue {fuel : Nat} {c : Cursor} (large : 2 * c.rest.length + 2 ≤ fuel) :
    scan fuel .value [] c = skipValue c := by
  induction fuel, large using Nat.le_induction with
  | base => rfl
  | succ fuel large ih =>
    rw [enough_steps fuel, ih]
    simp only [need, reduceCtorEq, if_false]
    omega

end Intake.Json
