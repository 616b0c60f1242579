import Intake.Proofs.Channel.Callbacks
import Mathlib.Data.List.Nodup
import Mathlib.Data.List.Perm.Subperm

/-!
# Delivery tags

The channel numbers its deliveries when replays prepare them, and a delivery then waits in the line
of its registration. A line is served from its front and nobody is in it twice, so that what a
registration is handed is a beginning of what has been prepared for it, in the same order
(`handsOut_append_waiting`). The main statement is `tags_in_order`.
-/
namespace Intake

/-- The delivery that a task is to hand over with its next step, and the registration it is for. -/
def Task.holds? : Task → Option (RegistrationId × Delivery)
  | .replay _ _ _ (.queued r d) => some (r, d)
  | _ => none

theorem Task.holds?_eq_some {t : Task} {p : RegistrationId × Delivery} (holds : t.holds? = some p) :
    ∃ queue tag pending, t = .replay queue tag pending (.queued p.1 p.2) := by
  unfold Task.holds? at holds
  split at holds
  · cases holds
    exact ⟨_, _, _, rfl⟩
  · cases holds

theorem Task.place?_of_holds? {t : Task} {p : RegistrationId × Delivery}
    (holds : t.holds? = some p) : t.place? = some p.1 := by
  obtain ⟨queue, tag, pending, rfl⟩ := Task.holds?_eq_some holds
  rfl

namespace Channel

theorem send_lastTag {ch ch' : Channel} {c : Command} {f : Followup}
    (sent : ch.send c = .ok (ch', f)) : ch'.lastTag = ch.lastTag := by
  cases (takes_of_send sent).2 <;> rfl

end Channel

namespace Session

open Channel (target? lineAfter)

/-! ### What the channel numbers -/

/-- The delivery that a replay prepares with its next step, and the registration it is for. -/
def draws? (s : Session) : Task → Option (RegistrationId × Delivery)
  | .replay queue tag (m :: _) .next =>
    (s.channel.registration? tag).map fun r => (r, s.drawn queue m)
  | _ => none

/-- The delivery that is prepared at an event. -/
def prepared (s : Session) (e : Event) : List (RegistrationId × Delivery) :=
  ((s.acting? e).bind fun a => s.draws? a.2).toList

/-- The delivery that the channel hands to the handler of a registration at an event. -/
def handsOut (s : Session) (e : Event) : List (RegistrationId × Delivery) :=
  ((s.acting? e).bind fun a => a.2.holds?).toList

/-- The delivery tag that the channel gives out at an event, with a delivery or without one. -/
def issued (s : Session) : Event → List DeliveryTag
  | .allocate => [s.channel.allocate.1]
  | e => (prepared s e).map (·.2.tag)

theorem draws?_cases (s : Session) (t : Task) :
    (∃ queue tag m pending r, t = .replay queue tag (m :: pending) .next ∧
      s.channel.registration? tag = some r ∧ s.draws? t = some (r, s.drawn queue m) ∧
      s.movement t = .draws r) ∨
    (s.draws? t = none ∧ ∀ r, s.movement t ≠ .draws r) := by
  unfold draws?
  split
  · next queue tag m pending =>
    cases found : s.channel.registration? tag with
    | some r => exact .inl ⟨queue, tag, m, pending, r, rfl, found, rfl, by simp [movement, found]⟩
    | none => exact .inr ⟨rfl, by simp [movement, found]⟩
  · next other =>
    refine .inr ⟨rfl, ?_⟩
    intro r moves
    unfold movement at moves
    split at moves
    · split at moves <;> cases moves
    · exact other _ _ _ _ rfl
    · split at moves
      · split at moves <;> cases moves
      · cases moves
    · split at moves <;> cases moves
    all_goals cases moves

/-- Who stands in line does not prepare anything. -/
theorem draws?_of_place? {s : Session} {t : Task} {g : RegistrationId} (place : t.place? = some g) :
    s.draws? t = none := by
  rcases s.draws?_cases t with ⟨queue, tag, m, pending, r, rfl, -⟩ | ⟨none_drawn, -⟩
  · cases place
  · exact none_drawn

theorem sent_lastTag (s : Session) (e : Event) :
    (s.sendIfAny (s.command? e)).1.channel.lastTag = s.channel.lastTag := by
  rcases s.sent_cases e with ⟨c, f, -, sent⟩ | ⟨-, same⟩
  · exact Channel.send_lastTag sent
  · rw [same]

/-- A tag that is given out is the next one. -/
theorem issued_cases (s : Session) (e : Event) :
    (issued s e = [] ∧ (s.apply e).channel.lastTag = s.channel.lastTag) ∨
    (issued s e = [⟨s.channel.lastTag + 1⟩] ∧
      (s.apply e).channel.lastTag = s.channel.lastTag + 1) := by
  rw [apply_channel, ← s.sent_lastTag e]
  cases e with
  | allocate => exact .inr ⟨rfl, rfl⟩
  | step k =>
    simp only [issued, prepared, rearranged]
    cases acts : s.acting? (.step k) with
    | none => exact .inl ⟨rfl, rfl⟩
    | some a =>
      rw [Option.bind_some]
      rcases s.draws?_cases a.2 with ⟨_, _, _, _, r, -, -, draws, moves⟩ | ⟨none_drawn, no⟩
      · simp only [draws, moves, Channel.moved]
        refine .inr ⟨?_, rfl⟩
        rw [s.sent_lastTag]
        rfl
      · rw [none_drawn]
        refine .inl ⟨rfl, ?_⟩
        cases moves : s.movement a.2 with
        | draws r => exact absurd moves (no r)
        | _ => simp only [moves]; rfl
  | drop k =>
    refine .inl ⟨rfl, ?_⟩
    rw [rearranged]
    split <;> rfl
  | _ => exact .inl ⟨rfl, rfl⟩

/-- **Numbers given out**: they are the numbers from one on, and the channel remembers the last. -/
theorem issued_run (confirms : Bool) (es : List Event) :
    let n := (trace issued (initial confirms) es).length
    trace issued (initial confirms) es = (List.range' 1 n).map (fun i => ⟨UInt64.ofNat i⟩) ∧
      ((initial confirms).run es).channel.lastTag = UInt64.ofNat n := by
  induction es using List.reverseRecOn with
  | nil => exact ⟨rfl, rfl⟩
  | append_singleton es e ih =>
    obtain ⟨so_far, last⟩ := ih
    rw [trace_concat, run_concat]
    rcases ((initial confirms).run es).issued_cases e with ⟨nothing, same⟩ | ⟨one, next⟩
    · rw [nothing, List.append_nil, same]
      exact ⟨so_far, last⟩
    · rw [one, next, last, List.length_append, List.length_singleton]
      refine ⟨?_, (UInt64.ofNat_add ..).symm⟩
      rw [List.range'_1_concat, List.map_append, ← so_far, List.map_singleton, Nat.add_comm 1,
        UInt64.ofNat_add]
      rfl

/-! ### Lines -/

/-- Nobody stands twice in a line. -/
theorem line_nodup (confirms : Bool) (es : List Event) (g : RegistrationId) :
    (((initial confirms).run es).channel.line g).Nodup := by
  induction es using List.reverseRecOn with
  | nil => exact List.nodup_nil
  | append_singleton es e ih =>
    have orderly := orderly_run confirms es
    rw [run_concat]
    rcases line_apply_cases orderly e g with ⟨j, t, acts, gets_in, line⟩ | ⟨stays, line⟩
    · -- Who gets in line has stood in none.
      have absent : j ∉ ((initial confirms).run es).channel.line g := by
        rw [orderly.standing, (acting?_eq_some.mp acts).2.1, Option.bind_some,
          (target?_movement gets_in).1]
        exact nofun
      rw [line]
      exact List.nodup_append.mpr ⟨ih, List.pairwise_singleton _ j, by
        rintro i member _ same rfl
        exact absent (List.mem_singleton.mp same ▸ member)⟩
    · rw [line]
      exact ih.filter stays

/-- The deliveries that wait in the line of a registration, in the order of the line. -/
def waiting (g : RegistrationId) (s : Session) : List (RegistrationId × Delivery) :=
  (s.channel.line g).filterMap fun k => (s.task? k).bind Task.holds?

theorem holds?_of_isPlain {t : Task} (plain : t.isPlain = true) : t.holds? = none := by
  cases t with
  | replay | confirm | dismiss => cases plain
  | _ => rfl

/-- A task holds a delivery after a step if it has just prepared it. -/
theorem holds?_of_fate (s : Session) (k : TaskId) (t : Task) (answer : Except TransportError Unit) :
    ((s.fate k answer t).task? t).bind Task.holds? = s.draws? t := by
  rcases s.draws?_cases t with ⟨queue, tag, m, pending, r, rfl, found, draws, -⟩ | ⟨none_drawn, -⟩
  · rw [draws]
    simp only [fate, found]
    rfl
  · rw [none_drawn]
    cases left : (s.fate k answer t).task? t with
    | none => rfl
    | some u =>
      cases turns_of_fate left with
      | plain _ plain => exact holds?_of_isPlain plain
      | draws found => simp [draws?, found] at none_drawn
      | _ => rfl

theorem holds?_of_born {s : Session} {e : Event} {t : Task} (born : s.born? e = some t) :
    t.holds? = none := by
  rcases born?_cases born with ⟨c, -, rfl⟩ | ⟨queue, tag, h, -, rfl⟩ | ⟨tag, r, -, -, rfl⟩ <;> rfl

theorem holds?_of_isCall {t : Task} (call : isCall t = true) : t.holds? = none := by
  cases t with
  | replay => cases call
  | _ => rfl

/-- The task that acts holds what it has prepared, and the others hold what they have held. -/
theorem holds?_apply {s : Session} (numbered : s.Numbered) (e : Event) (j : TaskId) :
    ((s.apply e).task? j).bind Task.holds? =
      match s.acting? e with
      | some (k, t) => if j = k then s.draws? t else (s.task? j).bind Task.holds?
      | none => (s.task? j).bind Task.holds? := by
  rw [bind_task?_apply numbered fun _ born => holds?_of_born born]
  cases acts : s.acting? e with
  | some a =>
    rw [survivor?_of_acting acts]
    by_cases same : j = a.1
    · simp only [same, if_true]
      exact s.holds?_of_fate ..
    · simp only [same, if_false]
  | none =>
    simp only [survivor?, acts]
    split
    · next k =>
      split
      · next dropped =>
        obtain ⟨rfl, call⟩ := dropped
        cases there : s.task? j with
        | none => rfl
        | some t =>
          rw [there] at call
          exact (holds?_of_isCall call).symm
      · rfl
    · rfl

/-- What the tasks in a line hold once an event has happened to them. -/
def heldAfter (g : RegistrationId) (s : Session) (e : Event) : List (RegistrationId × Delivery) :=
  (s.channel.line g).filterMap fun k => ((s.apply e).task? k).bind Task.holds?

/-- A task that leaves a line without a delivery is no loss. -/
theorem filterMap_filter_ne {α β : Type} [DecidableEq α] {f : α → Option β} {a : α}
    (nothing : f a = none) (l : List α) : (l.filter (· ≠ a)).filterMap f = l.filterMap f := by
  rw [List.filterMap_filter]
  congr 1
  funext b
  by_cases same : b = a
  · simp [same, nothing]
  · simp [same]

/-- Who gets in line with an event comes last, and holds what the event has prepared for the
registration. -/
theorem waiting_apply {s : Session} (orderly : s.Orderly) (e : Event) (g : RegistrationId) :
    waiting g (s.apply e) = heldAfter g s e ++ (prepared s e).filter (·.1 = g) := by
  have holds := holds?_apply orderly.numbered e
  unfold waiting heldAfter prepared
  cases acts : s.acting? e with
  | some a =>
    obtain ⟨k, t⟩ := a
    have itself := holds k
    rw [acts] at itself
    simp only [if_true] at itself
    rw [line_of_acting orderly acts, Option.bind_some]
    unfold lineAfter
    rcases s.draws?_cases t with ⟨queue, tag, m, pending, r, -, -, draws, moves⟩ | ⟨none_drawn, no⟩
    · rw [draws] at itself ⊢
      simp only [moves, target?]
      by_cases same : r = g
      · simp [same, itself]
      · simp [same]
    · -- It may get in line or leave it all the same, but it holds nothing then.
      rw [none_drawn] at itself ⊢
      simp only [Option.toList_none, List.filter_nil, List.append_nil]
      split
      · split
        · simp [itself]
        · rfl
      · split
        · refine filterMap_filter_ne ?_ _
          exact itself
        · rfl
  | none =>
    simp only [Option.bind_none, Option.toList_none, List.filter_nil, List.append_nil]
    by_cases dropped : ∃ k, e = .drop k
    · obtain ⟨k, rfl⟩ := dropped
      rw [line_of_drop]
      split
      · next call =>
        refine filterMap_filter_ne ?_ _
        rw [holds, acts]
        cases there : s.task? k with
        | none => rfl
        | some t =>
          rw [there] at call
          exact holds?_of_isCall call
      · rfl
    · rw [line_of_idle acts fun k is => dropped ⟨k, is⟩]

/-- What is handed out belongs to the first in line. -/
theorem first_of_holds? {s : Session} {e : Event} {k : TaskId} {t : Task}
    {p : RegistrationId × Delivery} (acts : s.acting? e = some (k, t)) (holds : t.holds? = some p) :
    (s.channel.line p.1).head? = some k := by
  obtain ⟨queue, tag, pending, rfl⟩ := Task.holds?_eq_some holds
  exact first_of_callback? (c := .delivery p.2) acts (if_pos rfl)

/-- What is handed out has been held by the first in line, and the others in line hold what they have
held. -/
theorem handsOut_append_heldAfter {s : Session} (orderly : s.Orderly) {g : RegistrationId}
    (nodup : (s.channel.line g).Nodup) (e : Event) :
    (handsOut s e).filter (·.1 = g) ++ heldAfter g s e = waiting g s := by
  have holds := holds?_apply orderly.numbered e
  unfold waiting heldAfter handsOut
  cases acts : s.acting? e with
  | none =>
    simp only [acts] at holds
    simp only [holds]
    rfl
  | some a =>
    obtain ⟨k, t⟩ := a
    simp only [acts] at holds
    have there := (acting?_eq_some.mp acts).2.1
    rw [Option.bind_some]
    by_cases own : ∃ d, t.holds? = some (g, d)
    · obtain ⟨d, held⟩ := own
      obtain ⟨rest, line⟩ := List.head?_eq_some_iff.mp (first_of_holds? acts held)
      have behind : k ∉ rest := by
        rw [line] at nodup
        exact (List.nodup_cons.mp nodup).1
      have rest_holds : rest.filterMap (fun j => ((s.apply e).task? j).bind Task.holds?) =
          rest.filterMap fun j => (s.task? j).bind Task.holds? := by
        refine List.filterMap_congr fun j member => ?_
        rw [holds, if_neg]
        rintro rfl
        exact behind member
      rw [line, List.filterMap_cons, List.filterMap_cons, rest_holds, holds, if_pos rfl,
        draws?_of_place? (Task.place?_of_holds? held), there, Option.bind_some, held]
      simp
    · -- If the task stands in this line at all, it holds nothing before and after.
      have nothing : t.holds?.toList.filter (·.1 = g) = [] := by
        rw [List.filter_eq_nil_iff]
        intro p held same
        rw [Option.mem_toList] at held
        rw [decide_eq_true_eq] at same
        subst same
        exact own ⟨p.2, held⟩
      rw [nothing, List.nil_append]
      refine List.filterMap_congr fun j stands => ?_
      rw [holds]
      split
      · next same =>
        subst same
        have place := (orderly.standing j g).mp stands
        rw [there, Option.bind_some] at place ⊢
        rw [draws?_of_place? place]
        cases held : t.holds? with
        | none => rfl
        | some p =>
          rw [Task.place?_of_holds? held] at place
          cases place
          exact absurd ⟨p.2, held⟩ own
      · rfl

/-- **Conservation of deliveries**: what a registration has been handed and what waits in its line
is together what has been prepared for it, in the same order. -/
theorem handsOut_append_waiting (confirms : Bool) (es : List Event) (g : RegistrationId) :
    (trace handsOut (initial confirms) es).filter (·.1 = g) ++
        waiting g ((initial confirms).run es) =
      (trace prepared (initial confirms) es).filter (·.1 = g) := by
  induction es using List.reverseRecOn with
  | nil => rfl
  | append_singleton es e ih =>
    have orderly := orderly_run confirms es
    have nodup := line_nodup confirms es g
    rw [trace_concat, trace_concat, List.filter_append, List.filter_append, run_concat, ← ih,
      waiting_apply orderly, ← handsOut_append_heldAfter orderly nodup e]
    simp only [List.append_assoc]

/-! ### Order -/

/-- What is handed out has been prepared, and it is handed out no more often. -/
theorem handsOut_subperm (confirms : Bool) (es : List Event) :
    (trace handsOut (initial confirms) es).Subperm (trace prepared (initial confirms) es) := by
  rw [List.subperm_ext_iff]
  rintro p -
  have own (l : List (RegistrationId × Delivery)) : (l.filter (·.1 = p.1)).count p = l.count p :=
    List.count_filter (decide_eq_true rfl)
  calc (trace handsOut (initial confirms) es).count p
      = ((trace handsOut (initial confirms) es).filter (·.1 = p.1)).count p := (own _).symm
    _ ≤ ((trace prepared (initial confirms) es).filter (·.1 = p.1)).count p := by
        rw [← handsOut_append_waiting, List.count_append]
        exact Nat.le_add_right _ _
    _ = (trace prepared (initial confirms) es).count p := own _

/-- Each delivery that is prepared takes a tag of its own. -/
theorem tags_prepared_sublist (s : Session) (es : List Event) :
    ((trace prepared s es).map (·.2.tag)).Sublist (trace issued s es) := by
  rw [trace_map]
  refine trace_sublist (fun s e => ?_) s es
  cases e with
  | allocate => exact List.nil_sublist _
  | _ => exact List.Sublist.refl _

/-- The channel tells handlers of the deliveries that it hands out, and of no others. -/
theorem tells_delivery_iff {s : Session} {e : Event} {h : HandlerId} {d : Delivery} :
    ChannelTells h (.delivery d) s e ↔
      ∃ g, s.channel.handler? g = some h ∧ (g, d) ∈ handsOut s e := by
  rw [tells_iff]
  refine exists_congr fun g => and_congr_right fun _ => ?_
  unfold callback? handsOut
  cases s.acting? e with
  | none => simp
  | some a =>
    simp only [Option.bind_some, Option.mem_toList]
    unfold Task.callback? Task.holds?
    cases a.2 with
    | replay queue tag pending stage => cases stage <;> simp
    | confirm r tag queued => cases queued <;> simp
    | dismiss r tag => simp
    | _ => simp

/-- What holds of the delivery tags of a run: those given out are one, two, three and so on; each
delivery that is prepared takes one for itself, so that no two bear the same tag; a registration is
handed what has been prepared for it, in turn, and what it has not been handed waits in its line; so
no tag is handed out twice, and the deliveries of a registration come with rising tags. -/
structure TagsInOrder (s : Session) (es : List Event) : Prop where
  counted : (trace issued s es).map (·.number.toNat) = List.range' 1 (trace issued s es).length
  last : (s.run es).channel.lastTag.toNat = (trace issued s es).length
  own : ((trace prepared s es).map (·.2.tag)).Sublist (trace issued s es)
  distinct : ((trace prepared s es).map (·.2.tag)).Nodup
  in_turn : ∀ g, (trace handsOut s es).filter (·.1 = g) ++ waiting g (s.run es) =
    (trace prepared s es).filter (·.1 = g)
  once : ((trace handsOut s es).map (·.2.tag)).Nodup
  rising : ∀ g, (((trace handsOut s es).filter (·.1 = g)).map (·.2.tag.number.toNat)).Pairwise
    (· < ·)

/-- **Delivery tags**: in every run with fewer than 2⁶⁴ of them they are given out in order, each to
one delivery at most, and each registration is handed its deliveries in the order of their tags. -/
theorem tags_in_order (confirms : Bool) (es : List Event)
    (few : (trace issued (initial confirms) es).length < UInt64.size) :
    (∀ e h d, ChannelTells h (.delivery d) ((initial confirms).run es) e ↔
      ∃ g, ((initial confirms).run es).channel.handler? g = some h ∧
        (g, d) ∈ handsOut ((initial confirms).run es) e) ∧
    TagsInOrder (initial confirms) es := by
  refine ⟨fun _ _ _ => tells_delivery_iff, ?_⟩
  obtain ⟨tags, last⟩ := issued_run confirms es
  have counted : (trace issued (initial confirms) es).map (·.number.toNat) =
      List.range' 1 (trace issued (initial confirms) es).length := by
    conv_lhs => rw [tags, List.map_map]
    refine (List.map_congr_left ?_).trans (List.map_id _)
    intro i member
    have within := (List.mem_range'_1.mp member).2
    exact UInt64.toNat_ofNat_of_lt' (by omega)
  have own := tags_prepared_sublist (initial confirms) es
  -- The tags prepared are among those given out, in the same order.
  have among := own.map (·.number.toNat)
  rw [counted] at among
  have rising := (List.pairwise_lt_range' 1).sublist among
  have distinct : ((trace prepared (initial confirms) es).map (·.2.tag)).Nodup :=
    List.Nodup.of_map _ (rising.imp Nat.ne_of_lt)
  rw [List.map_map] at rising
  exact {
    counted := counted
    last := by rw [last]; exact UInt64.toNat_ofNat_of_lt' few
    own := own
    distinct := distinct
    in_turn := handsOut_append_waiting confirms es
    once := by
      obtain ⟨l, perm, sub⟩ := handsOut_subperm confirms es
      exact (perm.map _).nodup_iff.mp (distinct.sublist (sub.map _))
    rising := by
      intro g
      have starts : (trace handsOut (initial confirms) es).filter (·.1 = g) <+:
          (trace prepared (initial confirms) es).filter (·.1 = g) :=
        ⟨_, handsOut_append_waiting confirms es g⟩
      exact rising.sublist ((starts.sublist.trans List.filter_sublist).map _) }

/-- A handler takes its time over a delivery. Meanwhile its tag is cancelled and used again, so that
the rest of the old replay goes to the new registration; a tag is also taken without a delivery. -/
def tagUsedAgain : List Event :=
  [.publish ⟨"orders"⟩ ⟨{}, ⟨#[1]⟩⟩, .publish ⟨"orders"⟩ ⟨{}, ⟨#[2]⟩⟩,
    .addRecorder ⟨"clerk"⟩ (fun _ => 10) (fun _ => false),
    .command (.consume ⟨"orders"⟩ ⟨"clerk"⟩ 0), .step 0, .step 0, .allocate,
    .command (.cancel ⟨"clerk"⟩), .command (.consume ⟨"orders"⟩ ⟨"clerk"⟩ 0), .step 2,
    .pass 10, .step 0, .step 0, .step 2, .pass 10, .step 2, .step 0]

theorem tags_in_order_tagUsedAgain :
    trace issued (initial true) tagUsedAgain = [⟨1⟩, ⟨2⟩, ⟨3⟩, ⟨4⟩] ∧
      (trace handsOut (initial true) tagUsedAgain).map (fun p => (p.1, p.2.tag)) =
        [(0, ⟨1⟩), (1, ⟨3⟩), (1, ⟨4⟩)] ∧
      TagsInOrder (initial true) tagUsedAgain := by
  have tags : trace issued (initial true) tagUsedAgain = [⟨1⟩, ⟨2⟩, ⟨3⟩, ⟨4⟩] := rfl
  refine ⟨tags, rfl, (tags_in_order true tagUsedAgain ?_).2⟩
  rw [tags]
  decide

end Session
end Intake
