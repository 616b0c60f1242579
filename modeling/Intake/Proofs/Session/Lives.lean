import Intake.Proofs.Session.Outline

/-!
# What a run does to its consumers

`happening` reads off an event what happens to a consumer. The main statement,
`consumers_apply`, says that this is all: after the event the consumer is what it has become by
it. Hence a run leads every consumer through a life, and `life_of_receiver` and `life_of_browser`
find a consumer and all there is to see of it from a new one and that life.
-/
namespace Intake.Session

/-! ### What happens at an event -/

/-- What an event does to a consumer, and to which. Only a call that is given up may concern more
than one. -/
def happening? (s : Session) : Event → Option (HandlerId × Happening)
  | .cancelOk h tag => some (h, .cancelOk tag s.clock)
  | .cancelledByBroker h tag => some (h, .cancelledByBroker tag s.clock)
  | .cancelBrowser h => some (h, .endBrowsing (s.answer (.cancelBrowser h)))
  | .takeCollected h => some (h, .takeCollected)
  | .step k => (s.acting? (.step k)).bind fun a => s.taskHappening? k (s.answer (.step k)) a.2
  | _ => none

/-- What of a happening concerns a given consumer. -/
def concerning (h : HandlerId) : Option (HandlerId × Happening) → Happening
  | some (h', x) => if h' = h then x else .nothing
  | none => .nothing

def happening (s : Session) (h : HandlerId) : Event → Happening
  | .drop k => if (s.task? k).any isCall then .drop k else .nothing
  | e => concerning h (s.happening? e)

/-! ### An event does nothing else to a consumer -/

theorem apply_step (s : Session) (k : TaskId) :
    s.apply (.step k) =
      match s.acting? (.step k) with
      | some (k, t) => s.outline k t
      | none => s := by
  simp only [apply, step, acting?]
  cases there : s.task? k with
  | none => rfl
  | some t =>
    by_cases able : s.ready k t = true
    · simp only [able, if_true, proceed_eq, Option.filter_some, Option.map_some]
    · simp only [able, Option.filter_some]
      rfl

/-- What becomes of a command depends on the failures to come and on the channel. -/
theorem send_congr {s t : Session} (faults : s.faults = t.faults) (channel : s.channel = t.channel)
    (c : Command) : (s.send c).2 = (t.send c).2 ∧ (s.send c).1.channel = (t.send c).1.channel := by
  unfold send
  rw [faults, channel]
  split
  · exact ⟨rfl, rfl⟩
  · split
    · exact ⟨rfl, channel⟩
    · simp

theorem enrol_sends (s : Session) (t : Task) (c : Option Command) :
    ((s.enrol t).sendIfAny c).2 = (s.sendIfAny c).2 ∧
      ((s.enrol t).sendIfAny c).1.channel = (s.sendIfAny c).1.channel := by
  have same : (s.enrol t).faults = s.faults ∧ (s.enrol t).channel = s.channel := by
    unfold enrol
    split
    · split <;> exact ⟨rfl, rfl⟩
    · exact ⟨rfl, rfl⟩
  cases c with
  | none => exact ⟨rfl, same.2⟩
  | some c => exact send_congr same.1 same.2 c

theorem enrol_answer (s : Session) (t : Task) (c : Option Command) :
    ((s.enrol t).sendIfAny c).2 = (s.sendIfAny c).2 := (s.enrol_sends t c).1

@[simp] theorem meet_consumers (s : Session) (k : TaskId) (f : Fate) :
    (s.meet k f).consumers = s.consumers := by
  cases f <;> rfl

@[simp] theorem move_consumers (s : Session) (k : TaskId) (m : Movement) :
    (s.move k m).consumers = s.consumers := by
  cases m <;> rfl

theorem enrol_consumers {s : Session} {h : HandlerId} (known : h < s.consumers.length) (t : Task) :
    (s.enrol t).consumers[h]? = s.consumers[h]? := by
  unfold enrol
  split
  · split
    · rfl
    · exact List.getElem?_append_left known
  · rfl

theorem alter_consumers (s : Session) (h h' : HandlerId) (x : Happening) :
    (s.alter h' x).consumers[h]? =
      s.consumers[h]?.map (·.react (concerning h (some (h', x)))) := by
  rw [alter, List.getElem?_modify, concerning]
  by_cases same : h' = h
  · simp only [same, if_true]
    rfl
  · simp only [same, if_false, Consumer.react_nothing]
    rfl

theorem alterIfAny_consumers (s : Session) (h : HandlerId) (x : Option (HandlerId × Happening)) :
    (s.alterIfAny x).consumers[h]? = s.consumers[h]?.map (·.react (concerning h x)) := by
  cases x with
  | none => simp only [alterIfAny, concerning, Consumer.react_nothing, Option.map_id']
  | some x => exact s.alter_consumers h x.1 x.2

theorem drop_consumers (s : Session) (k : TaskId) (h : HandlerId) :
    (s.drop k).consumers[h]? = s.consumers[h]?.map (·.react (.drop k)) := by
  simp only [drop, leaveLine, retire, List.getElem?_map]
  congr 1
  funext c
  cases c <;> rfl

private theorem unconcerned (s : Session) (h : HandlerId) :
    s.consumers[h]? = s.consumers[h]?.map (·.react .nothing) := by
  simp only [Consumer.react_nothing, Option.map_id']

theorem addReceiver_consumers {s : Session} {h : HandlerId} (known : h < s.consumers.length)
    (created : Except CreationError Receiver) :
    (s.addReceiver created).consumers[h]? = s.consumers[h]? := by
  cases created with
  | ok r => exact List.getElem?_append_left known
  | error e => rfl

theorem takeCollected_eq (s : Session) (h : HandlerId) :
    s.takeCollected h = s.alter h .takeCollected := by
  unfold takeCollected
  split
  · next b there => exact setBrowser_eq_alter .takeCollected there rfl
  · next no =>
    refine (alter_eq_self ?_).symm
    intro c there
    cases c with
    | browser b => rw [browser?_eq_some.mpr there] at no; cases no
    | _ => rfl

/-- A consumer is after an event what it has become by what happened to it. -/
theorem consumers_apply (s : Session) (e : Event) {h : HandlerId}
    (known : h < s.consumers.length) :
    (s.apply e).consumers[h]? = s.consumers[h]?.map (·.react (s.happening h e)) := by
  cases e with
  | step k =>
    rw [apply_step, show s.happening h (.step k) = concerning h (s.happening? (.step k)) from rfl]
    simp only [happening?, answer, command?]
    cases acts : s.acting? (.step k) with
    | none => exact s.unconcerned h
    | some a =>
      obtain ⟨j, t⟩ := a
      -- The outline of a step changes one entry, and only by what it does to that consumer.
      have own : j = k := by
        simp only [acting?, Option.map_eq_some_iff, Prod.mk.injEq] at acts
        obtain ⟨_, _, eq, _⟩ := acts
        exact eq.symm
      subst own
      simp only [Option.bind_some, outline, meet_consumers, move_consumers, alterIfAny_consumers,
        sendIfAny_consumers, enrol_consumers known, enrol_answer]
  | drop k =>
    simp only [apply, giveUp, happening]
    split
    · exact s.drop_consumers k h
    · exact s.unconcerned h
  | cancelOk h' tag =>
    rw [apply, updateConsumer_eq_alter (Consumer.cancelOk_eq_react tag s.clock), alter_consumers]
    rfl
  | cancelledByBroker h' tag =>
    rw [apply, updateConsumer_eq_alter (Consumer.cancelledByBroker_eq_react tag s.clock),
      alter_consumers]
    rfl
  | cancelBrowser h' =>
    rw [apply, cancelBrowser_eq, alter_consumers, sendIfAny_consumers]
    rfl
  | takeCollected h' =>
    rw [apply, takeCollected_eq, alter_consumers]
    rfl
  | addReceiver queue tag converter selector config =>
    rw [apply, addReceiver_consumers known]
    exact s.unconcerned h
  | addBrowser tag converter expected selector =>
    refine (List.getElem?_append_left known).trans ?_
    exact s.unconcerned h
  | addRecorder tag effort fails =>
    refine (List.getElem?_append_left known).trans ?_
    exact s.unconcerned h
  | command c =>
    rw [apply, (s.send_frame c).1]
    exact s.unconcerned h
  | publish | allocate | close | silence | fault | call | collect | pass => exact s.unconcerned h

/-! ### Consumers that come -/

private theorem appended {s : Session} {h : HandlerId} {c c' : Consumer}
    (unknown : s.consumers.length ≤ h) (there : (s.consumers ++ [c])[h]? = some c') : c' = c := by
  rw [List.getElem?_append_right unknown, List.getElem?_singleton] at there
  split at there
  · exact (Option.some.inj there).symm
  · cases there

private theorem absent {s : Session} {h : HandlerId} {c : Consumer}
    (unknown : s.consumers.length ≤ h) : s.consumers[h]? ≠ some c := by
  rw [List.getElem?_eq_none unknown]
  exact nofun

/-- What comes behind the consumers that are there is new. -/
theorem newcomer {s : Session} {h : HandlerId} {c : Consumer} (e : Event)
    (unknown : s.consumers.length ≤ h) (there : (s.apply e).consumers[h]? = some c) : c.IsNew := by
  cases e with
  | step k =>
    rw [apply_step] at there
    cases acts : s.acting? (.step k) with
    | none => rw [acts] at there; exact absurd there (absent unknown)
    | some a =>
      simp only [acts, outline, meet_consumers, move_consumers, alterIfAny_consumers,
        sendIfAny_consumers, Option.map_eq_some_iff] at there
      obtain ⟨c₀, found, became⟩ := there
      -- A step adds no consumer but the browsing one that a scan makes for itself.
      unfold enrol at found
      split at found
      · next starts =>
        split at found
        · exact absurd found (absent unknown)
        · rw [starts] at became
          change c₀.react .nothing = c at became
          rw [← became, Consumer.react_nothing, appended unknown found]
          exact ⟨_, _, _, _, rfl⟩
      · exact absurd found (absent unknown)
  | drop k =>
    simp only [apply, giveUp] at there
    split at there
    · rw [drop_consumers, List.getElem?_eq_none unknown] at there
      cases there
    · exact absurd there (absent unknown)
  | cancelOk h' tag =>
    rw [apply, updateConsumer_eq_alter (Consumer.cancelOk_eq_react tag s.clock), alter_consumers,
      List.getElem?_eq_none unknown] at there
    cases there
  | cancelledByBroker h' tag =>
    rw [apply, updateConsumer_eq_alter (Consumer.cancelledByBroker_eq_react tag s.clock),
      alter_consumers, List.getElem?_eq_none unknown] at there
    cases there
  | cancelBrowser h' =>
    rw [apply, cancelBrowser_eq, alter_consumers, sendIfAny_consumers,
      List.getElem?_eq_none unknown] at there
    cases there
  | takeCollected h' =>
    rw [apply, takeCollected_eq, alter_consumers, List.getElem?_eq_none unknown] at there
    cases there
  | addReceiver queue tag converter selector config =>
    simp only [apply, addReceiver] at there
    split at there
    · next r₀ created =>
      rw [appended unknown there]
      exact ⟨queue, tag, converter, selector, config, created⟩
    · exact absurd there (absent unknown)
  | addBrowser tag converter expected selector =>
    rw [appended unknown there]
    exact ⟨tag, converter, expected, selector, rfl⟩
  | addRecorder tag effort fails =>
    rw [appended unknown there]
    rfl
  | command c =>
    rw [apply, (s.send_frame c).1] at there
    exact absurd there (absent unknown)
  | publish | allocate | close | silence | fault | call | collect | pass =>
    exact absurd there (absent unknown)

/-- A consumer is after an event an old one that has reacted, or a new one. -/
theorem consumer_of_apply {s : Session} {h : HandlerId} {c : Consumer} {e : Event}
    (there : (s.apply e).consumers[h]? = some c) :
    (∃ c₀, s.consumers[h]? = some c₀ ∧ c = c₀.react (s.happening h e)) ∨ c.IsNew := by
  by_cases known : h < s.consumers.length
  · rw [consumers_apply s e known, Option.map_eq_some_iff] at there
    obtain ⟨c₀, found, became⟩ := there
    exact .inl ⟨c₀, found, became.symm⟩
  · exact .inr (newcomer e (Nat.le_of_not_lt known) there)

/-- No consumer ever goes. -/
theorem length_consumers_le_apply (s : Session) (e : Event) :
    s.consumers.length ≤ (s.apply e).consumers.length := by
  -- The first number that had nobody any more would have somebody, who has reacted.
  refine Nat.le_of_not_lt fun known => ?_
  have there := s.consumers_apply e known
  rw [List.getElem?_eq_none (Nat.le_refl _), List.getElem?_eq_getElem known] at there
  cases there

/-! ### Lives of one kind of consumer -/

/-- What a run does to what is found of a consumer, from when it is there. -/
def lifeOf {σ : Type} (h : HandlerId) (find? : Session → Option σ) :
    Session → List Event → List Happening :=
  trace fun s e => if (find? s).isSome then [s.happening h e] else []

/-- Two observations agree if what is seen of an event in a session is seen of what is found. -/
def AgreesOf {σ α : Type} (h : HandlerId) (find? : Session → Option σ)
    (see : Session → Event → List α) (look : σ → Happening → List α) : Prop :=
  ∀ s e, see s e =
    match find? s with
    | some c => look c (s.happening h e)
    | none => []

section Lives

variable {σ : Type} {h : HandlerId} {find? : Session → Option σ} {react : σ → Happening → σ}
  {IsNew : σ → Prop}

theorem lifeOf_cons_of_some {s : Session} {c : σ} (e : Event) (es : List Event)
    (there : find? s = some c) :
    lifeOf h find? s (e :: es) = s.happening h e :: lifeOf h find? (s.apply e) es := by
  rw [lifeOf, trace, there]
  rfl

theorem lifeOf_cons_of_none {s : Session} (e : Event) (es : List Event) (no : find? s = none) :
    lifeOf h find? s (e :: es) = lifeOf h find? (s.apply e) es := by
  rw [lifeOf, trace, no]
  rfl

variable (find?)

/-- What reacts to each event has become by a run what it becomes by its life, and what agrees with
it is seen of that life. -/
theorem found_run
    (reacts : ∀ s e c, find? s = some c → find? (s.apply e) = some (react c (s.happening h e)))
    {s : Session} {c : σ} (es : List Event) (there : find? s = some c) :
    find? (s.run es) = some ((lifeOf h find? s es).foldl react c) ∧
      ∀ (α : Type) (see : Session → Event → List α) (look : σ → Happening → List α),
        AgreesOf h find? see look → trace see s es = historyOf react look c (lifeOf h find? s es) := by
  induction es generalizing s c with
  | nil => exact ⟨there, fun _ _ _ _ => rfl⟩
  | cons e es ih =>
    obtain ⟨became, seen⟩ := ih (reacts s e c there)
    rw [run_cons, lifeOf_cons_of_some e es there]
    refine ⟨became, ?_⟩
    intro α see look agree
    rw [trace, agree s e, there, historyOf, seen α see look agree]

/-- A run leads what is found in the end from new through its life, and all that agreeing
observations see of the run is seen of that life. -/
theorem life_of_found
    (reacts : ∀ s e c, find? s = some c → find? (s.apply e) = some (react c (s.happening h e)))
    (comes : ∀ s e c, find? s = none → find? (s.apply e) = some c → IsNew c)
    {s : Session} {c : σ} (es : List Event) (no : find? s = none)
    (there : find? (s.run es) = some c) :
    ∃ c₀, IsNew c₀ ∧ c = (lifeOf h find? s es).foldl react c₀ ∧
      ∀ (α : Type) (see : Session → Event → List α) (look : σ → Happening → List α),
        AgreesOf h find? see look → trace see s es = historyOf react look c₀ (lifeOf h find? s es) := by
  induction es generalizing s with
  | nil =>
    rw [run_nil, no] at there
    cases there
  | cons e es ih =>
    rw [lifeOf_cons_of_none e es no]
    -- Nothing is seen before the consumer is there, and it is new when it comes.
    cases after : find? (s.apply e) with
    | none =>
      obtain ⟨c₀, new, lived, seen⟩ := ih after there
      refine ⟨c₀, new, lived, ?_⟩
      intro α see look agree
      rw [trace, agree s e, no, List.nil_append, seen α see look agree]
    | some c₀ =>
      obtain ⟨became, seen⟩ := found_run find? reacts es after
      rw [run_cons, became, Option.some.injEq] at there
      refine ⟨c₀, comes s e c₀ no after, there.symm, ?_⟩
      intro α see look agree
      rw [trace, agree s e, no, List.nil_append, seen α see look agree]

end Lives

/-! ### Receiving consumers -/

theorem receiver?_apply {s : Session} {h : HandlerId} {r : Receiver} (e : Event)
    (there : s.receiver? h = some r) :
    (s.apply e).receiver? h = some (r.react (s.happening h e)) := by
  have at_h := receiver?_eq_some.mp there
  apply receiver?_eq_some.mpr
  rw [consumers_apply s e (List.getElem?_eq_some_iff.mp at_h).1, at_h]
  rfl

/-- A receiving consumer that comes with an event is new. -/
theorem receiver?_of_apply {s : Session} {h : HandlerId} {r : Receiver} {e : Event}
    (no : s.receiver? h = none) (there : (s.apply e).receiver? h = some r) : r.IsNew := by
  rcases consumer_of_apply (receiver?_eq_some.mp there) with ⟨c₀, found, became⟩ | new
  · cases c₀ with
    | receiver r₀ =>
      rw [receiver?_eq_some.mpr found] at no
      cases no
    | _ => cases became
  · exact new

/-- A receiving consumer is after an event a new one, or an old one that has reacted. -/
theorem receiver?_apply_cases {s : Session} {h : HandlerId} {r : Receiver} {e : Event}
    (there : (s.apply e).receiver? h = some r) :
    r.IsNew ∨ ∃ r₀, s.receiver? h = some r₀ ∧ r = r₀.react (s.happening h e) := by
  cases before : s.receiver? h with
  | none => exact .inl (receiver?_of_apply before there)
  | some r₀ =>
    rw [receiver?_apply e before] at there
    exact .inr ⟨r₀, rfl, (Option.some_inj.mp there).symm⟩

/-- What a run does to a receiving consumer, from when it is there. -/
def life (h : HandlerId) : Session → List Event → List Happening :=
  trace fun s e => if (s.receiver? h).isSome then [s.happening h e] else []

/-- Two observations agree if what is seen of an event in a session is seen of the consumer. -/
def Agrees {α : Type} (h : HandlerId) (see : Session → Event → List α)
    (look : Receiver → Happening → List α) : Prop :=
  ∀ s e, see s e =
    match s.receiver? h with
    | some r => look r (s.happening h e)
    | none => []

theorem receiver?_run {s : Session} {h : HandlerId} {r : Receiver} (es : List Event)
    (there : s.receiver? h = some r) :
    (s.run es).receiver? h = some (r.live (life h s es)) :=
  (found_run (·.receiver? h) (fun _ e _ => receiver?_apply e) es there).1

/-- **Lives of receiving consumers**: a run leads a receiving consumer from new through its life,
and all that agreeing observations see of the run is seen of that life. -/
theorem life_of_receiver {s : Session} {h : HandlerId} {r : Receiver} (es : List Event)
    (no : s.receiver? h = none) (there : (s.run es).receiver? h = some r) :
    ∃ r₀ : Receiver, r₀.IsNew ∧ r = r₀.live (life h s es) ∧
      ∀ (α : Type) (see : Session → Event → List α) (look : Receiver → Happening → List α),
        Agrees h see look → trace see s es = Receiver.history look r₀ (life h s es) := by
  obtain ⟨r₀, new, lived, seen⟩ := life_of_found (·.receiver? h)
    (fun _ e _ => receiver?_apply e) (fun _ _ _ => receiver?_of_apply) es no there
  refine ⟨r₀, new, lived, ?_⟩
  intro α see look agree
  rw [Receiver.history_eq]
  apply seen α see look
  intro s e
  simp only [agree s e]
  cases s.receiver? h <;> rfl

theorem initial_receiver? (confirms : Bool) (h : HandlerId) :
    (initial confirms).receiver? h = none := rfl

/-! ### Browsing consumers -/

theorem browser?_apply {s : Session} {h : HandlerId} {b : Browser} (e : Event)
    (there : s.browser? h = some b) :
    (s.apply e).browser? h = some (b.react (s.happening h e)) := by
  have at_h := browser?_eq_some.mp there
  apply browser?_eq_some.mpr
  rw [consumers_apply s e (List.getElem?_eq_some_iff.mp at_h).1, at_h]
  rfl

/-- A browsing consumer is after an event an old one that has reacted, or a new one. -/
theorem browser?_of_apply {s : Session} {h : HandlerId} {b : Browser} {e : Event}
    (no : s.browser? h = none) (there : (s.apply e).browser? h = some b) : b.IsNew := by
  rcases consumer_of_apply (browser?_eq_some.mp there) with ⟨c₀, found, became⟩ | new
  · cases c₀ with
    | browser b₀ =>
      rw [browser?_eq_some.mpr found] at no
      cases no
    | _ => cases became
  · exact new

/-- What a run does to a browsing consumer, from when it is there. -/
def browserLife (h : HandlerId) : Session → List Event → List Happening := lifeOf h (·.browser? h)

/-- Two observations agree if what is seen of an event in a session is seen of the browsing
consumer. -/
def BrowserAgrees {α : Type} (h : HandlerId) (see : Session → Event → List α)
    (look : Browser → Happening → List α) : Prop :=
  AgreesOf h (·.browser? h) see look

/-- **Lives of browsing consumers**: a run leads a browsing consumer from new through its life, and
all that agreeing observations see of the run is seen of that life. -/
theorem life_of_browser {s : Session} {h : HandlerId} {b : Browser} (es : List Event)
    (no : s.browser? h = none) (there : (s.run es).browser? h = some b) :
    ∃ b₀ : Browser, b₀.IsNew ∧ b = b₀.live (browserLife h s es) ∧
      ∀ (α : Type) (see : Session → Event → List α) (look : Browser → Happening → List α),
        BrowserAgrees h see look →
          trace see s es = historyOf Browser.react look b₀ (browserLife h s es) :=
  life_of_found (·.browser? h)
    (fun _ e _ => browser?_apply e) (fun _ _ _ => browser?_of_apply) es no there

theorem initial_browser? (confirms : Bool) (h : HandlerId) :
    (initial confirms).browser? h = none := rfl

end Intake.Session
