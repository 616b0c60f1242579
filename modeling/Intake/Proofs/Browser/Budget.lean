import Intake.Proofs.Session.Observations
import Mathlib.Data.List.Induction

/-!
# The budget of a browsing consumer

A browsing consumer collects the messages that it wants until as many as it was made for are there.
What it has collected, what is still missing and its counters are all told by the deliveries that
have reached it (`Kept`). The main statement is `budget_of_browser`.
-/
namespace Intake

/-! ### What a consumer does with a delivery -/

/-- The message that a converter makes of a delivery, if the selector lets it through. -/
def matching? (converter : Converter) (selector : Option Selector) (d : Delivery) : Option Message :=
  match converter d with
  | .ok m => if selects selector m then some m else none
  | .error _ => none

namespace BrowseVerdict

def isCollected : BrowseVerdict → Bool
  | .collected _ => true
  | _ => false

def isFiltered : BrowseVerdict → Bool
  | .filtered => true
  | _ => false

def isRejected : BrowseVerdict → Bool
  | .rejected => true
  | _ => false

def isUnconvertible : BrowseVerdict → Bool
  | .unconvertible _ => true
  | _ => false

def isSpent : BrowseVerdict → Bool
  | .spent => true
  | _ => false

end BrowseVerdict

namespace Browser

/-- The message that a consumer wants of a delivery, whether or not it still has to collect one: the
consumer has not ended, the delivery converts, and the selector wants the message. -/
def wants? (b : Browser) (d : Delivery) : Option Message :=
  if b.state.isCancelled then none else matching? b.converter b.selector d

theorem wants?_eq (b : Browser) (d : Delivery) :
    b.wants? d = if b.state = .cancelled then none else matching? b.converter b.selector d := by
  simp [wants?, ConsumerState.isCancelled]

/-- A delivery is collected if the consumer wants it and its budget is not spent. -/
theorem verdict_eq_collected {b : Browser} {d : Delivery} {m : Message} :
    b.verdict d = .collected m ↔ b.wants? d = some m ∧ b.remaining ≠ 0 := by
  unfold verdict wants? matching?
  split
  · simp
  · split
    · simp [*]
    · split
      · simp [*]
      · split <;> simp [*]

/-- A delivery is in excess if the consumer has not ended and nothing is missing. -/
theorem isSpent_verdict (b : Browser) (d : Delivery) :
    (b.verdict d).isSpent = (b.state.accepts && b.remaining == 0) := by
  unfold verdict ConsumerState.accepts
  split
  · simp [BrowseVerdict.isSpent, *]
  · split
    · simp [BrowseVerdict.isSpent, *]
    · split
      · simp [BrowseVerdict.isSpent, *]
      · split <;> simp [BrowseVerdict.isSpent, *]

/-- What a delivery does to the budget and to the messages: one less is missing if it is collected,
and all is as it was if it is not. -/
theorem keep_cases (b : Browser) (d : Delivery) :
    (∃ m, b.verdict d = .collected m ∧ (b.keep d).remaining + 1 = b.remaining ∧
      (b.keep d).collected = b.collected ++ [m]) ∨
    ((b.verdict d).isCollected = false ∧ (b.keep d).remaining = b.remaining ∧
      (b.keep d).collected = b.collected) := by
  unfold keep
  cases verdict : b.verdict d with
  | collected m =>
    have missing := (verdict_eq_collected.mp verdict).2
    refine .inl ⟨m, rfl, ?_, rfl⟩
    simp only
    omega
  | _ => exact .inr ⟨rfl, rfl, rfl⟩

theorem deliver_frame (b : Browser) (d : Delivery) (answer : Except TransportError Unit) :
    (b.deliver d answer).1.remaining = (b.keep d).remaining ∧
      (b.deliver d answer).1.collected = (b.keep d).collected ∧
      (b.deliver d answer).1.counters = count (b.verdict d) b.counters := by
  have counted : (b.keep d).counters = count (b.verdict d) b.counters := by
    unfold keep
    cases b.verdict d <;> rfl
  rw [deliver_eq]
  split
  · obtain ⟨-, collected, remaining, counters⟩ := (b.keep d).cancel_frame answer
    exact ⟨remaining, collected, counters.trans counted⟩
  · exact ⟨rfl, rfl, counted⟩

/-! ### Counters -/

/-- The counters after some verdicts. -/
def tally (verdicts : List BrowseVerdict) : Counters := verdicts.foldl (fun c v => count v c) {}

theorem tally_concat (verdicts : List BrowseVerdict) (v : BrowseVerdict) :
    tally (verdicts ++ [v]) = count v (tally verdicts) := by
  simp [tally]

/-- Each counter tells how many verdicts of its kind there have been. -/
theorem tally_spec (verdicts : List BrowseVerdict) :
    (tally verdicts).delivered = UInt64.ofNat verdicts.length ∧
      (tally verdicts).accepted = UInt64.ofNat (verdicts.countP (·.isCollected)) ∧
      (tally verdicts).filtered = UInt64.ofNat (verdicts.countP (·.isFiltered)) ∧
      (tally verdicts).rejectedAfterCancel = UInt64.ofNat (verdicts.countP (·.isRejected)) ∧
      (tally verdicts).conversionFailures = UInt64.ofNat (verdicts.countP (·.isUnconvertible)) ∧
      (tally verdicts).overflowed = 0 ∧ (tally verdicts).received = 0 := by
  induction verdicts using List.reverseRecOn with
  | nil => exact ⟨rfl, rfl, rfl, rfl, rfl, rfl, rfl⟩
  | append_singleton verdicts v ih =>
    obtain ⟨delivered, accepted, filtered, rejected, failed, overflowed, received⟩ := ih
    rw [tally_concat]
    cases v <;>
      simp [count, List.countP_append, BrowseVerdict.isCollected, BrowseVerdict.isFiltered,
        BrowseVerdict.isRejected, BrowseVerdict.isUnconvertible, UInt64.ofNat_add, *]

/-- Every verdict is of one kind. -/
theorem length_eq_sum (verdicts : List BrowseVerdict) :
    verdicts.length = verdicts.countP (·.isCollected) + verdicts.countP (·.isFiltered) +
      verdicts.countP (·.isRejected) + verdicts.countP (·.isUnconvertible) +
      verdicts.countP (·.isSpent) := by
  induction verdicts with
  | nil => rfl
  | cons v verdicts ih =>
    rw [List.length_cons, ih]
    cases v <;>
      simp [BrowseVerdict.isCollected, BrowseVerdict.isFiltered, BrowseVerdict.isRejected,
        BrowseVerdict.isUnconvertible, BrowseVerdict.isSpent] <;> omega

/-! ### Budget and messages over a life -/

/-- The delivery that comes to a consumer, with the consumer as it finds it. -/
def offers : Browser → Happening → List (Browser × Delivery)
  | b, .delivery d _ _ => [(b, d)]
  | _, _ => []

theorem offers_eq_nil {b : Browser} {x : Happening}
    (idle : ∀ d now answer, x ≠ .delivery d now answer) : b.offers x = [] := by
  cases x with
  | delivery d now answer => exact absurd rfl (idle d now answer)
  | _ => rfl

/-- The messages that somebody takes from a consumer. -/
def taking : Browser → Happening → List Message
  | b, .endScan _ => b.collected
  | b, .takeCollected => b.collected
  | _, _ => []

/-- What holds of a consumer after some deliveries have come to it and some messages have been
taken: each one collected is one less missing, and the first that it wanted are the ones it has
collected. -/
structure Kept (b : Browser) (offered : List (Browser × Delivery)) (taken : List Message) : Prop where
  balance : b.remaining + (offered.countP fun p => (p.1.verdict p.2).isCollected) = b.expected
  missing : b.remaining = b.expected - (offered.filterMap fun p => p.1.wants? p.2).length
  first : taken ++ b.collected = (offered.filterMap fun p => p.1.wants? p.2).take b.expected
  counted : b.counters = tally (offered.map fun p => p.1.verdict p.2)

variable {b : Browser} {offered : List (Browser × Delivery)} {taken : List Message}

theorem Kept.deliver (kept : Kept b offered taken) (d : Delivery)
    (answer : Except TransportError Unit) :
    Kept (b.deliver d answer).1 (offered ++ [(b, d)]) taken := by
  obtain ⟨remaining, collected, counters⟩ := b.deliver_frame d answer
  have expected : (b.deliver d answer).1.expected = b.expected :=
    congrArg (·.2.2.2) (b.deliver_settings d answer)
  have missing := kept.missing
  have counted : (b.deliver d answer).1.counters =
      tally ((offered ++ [(b, d)]).map fun p => p.1.verdict p.2) := by
    rw [List.map_append, List.map_singleton, tally_concat, counters, kept.counted]
  rcases b.keep_cases d with ⟨m, verdict, one_less, one_more⟩ | ⟨no, same, same'⟩
  · -- As one is missing, all that was wanted so far has been collected.
    obtain ⟨wants, some_missing⟩ := verdict_eq_collected.mp verdict
    have within : (offered.filterMap fun p => p.1.wants? p.2).length < b.expected := by omega
    refine ⟨?_, ?_, ?_, counted⟩
    · rw [expected, remaining, ← kept.balance, List.countP_append, List.countP_singleton, verdict]
      simp only [BrowseVerdict.isCollected, if_true]
      omega
    · rw [expected, remaining, List.filterMap_append, List.length_append]
      simp only [List.filterMap_cons, wants, List.filterMap_nil, List.length_singleton]
      omega
    · rw [expected, collected, one_more, ← List.append_assoc, kept.first, List.filterMap_append,
        List.take_of_length_le (Nat.le_of_lt within)]
      simp only [List.filterMap_cons, wants, List.filterMap_nil]
      rw [List.take_of_length_le]
      rw [List.length_append]
      exact within
  · have unwanted : b.wants? d = none ∨ b.remaining = 0 := by
      cases wants : b.wants? d with
      | none => exact .inl rfl
      | some m =>
        refine .inr (Classical.byContradiction fun some_missing => ?_)
        rw [verdict_eq_collected.mpr ⟨wants, some_missing⟩] at no
        cases no
    have wanted : ((offered ++ [(b, d)]).filterMap fun p => p.1.wants? p.2).take b.expected =
        (offered.filterMap fun p => p.1.wants? p.2).take b.expected ∧
        b.expected - ((offered ++ [(b, d)]).filterMap fun p => p.1.wants? p.2).length =
          b.remaining := by
      rw [List.filterMap_append]
      rcases unwanted with unwanted | spent
      · simp [unwanted, missing]
      · have full : b.expected ≤ (offered.filterMap fun p => p.1.wants? p.2).length := by omega
        rw [List.take_append_of_le_length full, List.length_append, spent]
        exact ⟨rfl, by omega⟩
    refine ⟨?_, ?_, ?_, counted⟩
    · rw [expected, remaining, same, ← kept.balance, List.countP_append, List.countP_singleton, no]
      rfl
    · rw [expected, remaining, same, wanted.2]
    · rw [expected, collected, same', wanted.1, kept.first]

/-- Apart from deliveries nothing changes what is missing, and messages go only to those who take
them. -/
theorem react_frame (b : Browser) (x : Happening) (idle : b.offers x = []) :
    (b.react x).remaining = b.remaining ∧ (b.react x).counters = b.counters ∧
      b.taking x ++ (b.react x).collected = b.collected := by
  cases x with
  | delivery d now answer => cases idle
  | endBrowsing answer =>
    obtain ⟨-, collected, remaining, counters⟩ := b.cancel_frame answer
    exact ⟨remaining, counters, collected⟩
  | endScan answer =>
    obtain ⟨-, -, remaining, counters⟩ := b.cancel_frame answer
    rw [react, taking]
    refine ⟨?_, ?_, List.append_nil _⟩
    · split
      · exact remaining
      · rfl
    · split
      · exact counters
      · rfl
  | takeCollected => exact ⟨rfl, rfl, List.append_nil _⟩
  | _ => exact ⟨rfl, rfl, rfl⟩

theorem Kept.react (kept : Kept b offered taken) (x : Happening) :
    Kept (b.react x) (offered ++ b.offers x) (taken ++ b.taking x) := by
  by_cases idle : b.offers x = []
  · obtain ⟨remaining, counters, collected⟩ := b.react_frame x idle
    have expected : (b.react x).expected = b.expected := congrArg (·.2.2.2) (b.react_settings x)
    rw [idle, List.append_nil]
    exact {
      balance := by rw [expected, remaining, kept.balance]
      missing := by rw [expected, remaining, kept.missing]
      first := by rw [expected, List.append_assoc, collected, kept.first]
      counted := by rw [counters, kept.counted] }
  · cases x with
    | delivery d now answer =>
      rw [taking, List.append_nil]
      · exact kept.deliver d answer
      · exact nofun
      · exact nofun
    | _ => exact absurd rfl idle

theorem Kept.live (kept : Kept b offered taken) (life : List Happening) :
    Kept (b.live life) (offered ++ historyOf Browser.react offers b life)
      (taken ++ historyOf Browser.react taking b life) := by
  induction life generalizing b offered taken with
  | nil => simpa [historyOf] using kept
  | cons x life ih =>
    have later := ih (kept.react x)
    rw [List.append_assoc, List.append_assoc] at later
    exact later

theorem IsNew.kept (new : b.IsNew) : Kept b [] [] := by
  obtain ⟨tag, converter, expected, selector, rfl⟩ := new
  exact ⟨rfl, rfl, List.take_nil.symm, rfl⟩

end Browser

namespace Session

/-! ### Deliveries to browsing consumers -/

/-- The delivery that reaches a browsing consumer at an event, with the consumer as it finds it. -/
def offered (h : HandlerId) (s : Session) (e : Event) : List (Browser × Delivery) :=
  match s.browser? h, s.handed? e with
  | some b, some (h', d) => if h' = h then [(b, d)] else []
  | _, _ => []

/-- The messages that are taken from a browsing consumer at an event, by a scan that ends or by
somebody else. -/
def handedOut (h : HandlerId) (s : Session) (e : Event) : List Message :=
  match s.browser? h with
  | some b => b.taking (s.happening h e)
  | none => []

/-- The messages that a browsing consumer wants of the deliveries that reach it in a run. -/
def wanted (h : HandlerId) (s : Session) (es : List Event) : List Message :=
  (trace (offered h) s es).filterMap fun p => p.1.wants? p.2

/-- The deliveries that reach a browsing consumer which has not ended but misses nothing. -/
def surplus (h : HandlerId) (s : Session) (es : List Event) : List (Browser × Delivery) :=
  (trace (offered h) s es).filter fun p => p.1.state.accepts && p.1.remaining == 0

theorem offered_of_handed {h : HandlerId} {s : Session} {e : Event} {b : Browser} {d : Delivery}
    (there : s.browser? h = some b) (handed : s.handed? e = some (h, d)) :
    offered h s e = [(b, d)] := by
  simp [offered, there, handed]

theorem offered_of_idle {h : HandlerId} {s : Session} {e : Event}
    (idle : ∀ d, s.handed? e ≠ some (h, d)) : offered h s e = [] := by
  unfold offered
  split
  · next b h' d _ handed =>
      refine if_neg fun same : h' = h => idle d ?_
      rw [handed, same]
  · rfl

theorem agrees_offered (h : HandlerId) : BrowserAgrees h (offered h) Browser.offers := by
  intro s e
  cases there : s.browser? h with
  | none => simp only [offered, there]
  | some b =>
    simp only [there]
    by_cases arrives : ∃ d, s.handed? e = some (h, d)
    · obtain ⟨d, handed⟩ := arrives
      rw [happening_eq_delivery.mpr ⟨handed, rfl, rfl⟩]
      exact offered_of_handed there handed
    · have idle : ∀ d, s.handed? e ≠ some (h, d) := fun d handed => arrives ⟨d, handed⟩
      rw [offered_of_idle idle, Browser.offers_eq_nil]
      intro d now answer occurs
      exact idle d (happening_eq_delivery.mp occurs).1

theorem agrees_handedOut (h : HandlerId) : BrowserAgrees h (handedOut h) Browser.taking := by
  intro s e
  simp only [handedOut]
  cases s.browser? h <;> rfl

theorem kept_run (confirms : Bool) (es : List Event) (h : HandlerId) {b : Browser}
    (there : ((initial confirms).run es).browser? h = some b) :
    b.Kept (trace (offered h) (initial confirms) es) (trace (handedOut h) (initial confirms) es) := by
  obtain ⟨b₀, new, rfl, seen⟩ := life_of_browser es (initial_browser? confirms h) there
  rw [seen _ _ _ (agrees_offered h), seen _ _ _ (agrees_handedOut h)]
  exact new.kept.live _

/-- What can be said of the budget, the messages and the counters of a browsing consumer after a
run. Counters are words and wrap around; with fewer deliveries than there are words they are exact.
-/
structure Budget (h : HandlerId) (s : Session) (es : List Event) (b : Browser) : Prop where
  within : b.remaining ≤ b.expected
  missing : b.remaining = b.expected - (wanted h s es).length
  size : (trace (handedOut h) s es ++ b.collected).length = b.expected - b.remaining
  first : trace (handedOut h) s es ++ b.collected = (wanted h s es).take (b.expected - b.remaining)
  accepted : b.counters.accepted = UInt64.ofNat (b.expected - b.remaining)
  unused : b.counters.overflowed = 0 ∧ b.counters.received = 0
  ignored : b.counters.delivered - (b.counters.accepted + b.counters.filtered +
    b.counters.rejectedAfterCancel + b.counters.conversionFailures) =
      UInt64.ofNat (surplus h s es).length
  exactly : (trace (offered h) s es).length < UInt64.size →
    b.counters.accepted.toNat = b.expected - b.remaining ∧
    b.counters.delivered.toNat = b.counters.accepted.toNat + b.counters.filtered.toNat +
      b.counters.rejectedAfterCancel.toNat + b.counters.conversionFailures.toNat +
      (surplus h s es).length

/-- What an event does to the budget and the messages of a browsing consumer: a delivery that it
wants while messages are missing is collected, and nothing else changes them but who takes the
messages. -/
structure Draws (h : HandlerId) (s : Session) (e : Event) (b b' : Browser) : Prop where
  collects : ∀ d m, s.handed? e = some (h, d) → b.wants? d = some m → b.remaining ≠ 0 →
    b'.remaining + 1 = b.remaining ∧ b'.collected = b.collected ++ [m]
  rests : (∀ d, s.handed? e = some (h, d) → b.wants? d = none ∨ b.remaining = 0) →
    b'.remaining = b.remaining ∧ handedOut h s e ++ b'.collected = b.collected

theorem length_surplus (h : HandlerId) (s : Session) (es : List Event) :
    (surplus h s es).length =
      ((trace (offered h) s es).map fun p => p.1.verdict p.2).countP (·.isSpent) := by
  rw [surplus, List.countP_map, List.countP_eq_length_filter]
  congr 2
  funext p
  exact (Browser.isSpent_verdict p.1 p.2).symm

theorem budget_of_kept {h : HandlerId} {s : Session} {es : List Event} {b : Browser}
    (kept : b.Kept (trace (offered h) s es) (trace (handedOut h) s es)) : Budget h s es b := by
  have balance := kept.balance
  have within : b.remaining ≤ b.expected := by omega
  have missing : b.remaining = b.expected - (wanted h s es).length := kept.missing
  -- What is wanted in excess of the budget is cut off by either bound.
  have first : trace (handedOut h) s es ++ b.collected =
      (wanted h s es).take (b.expected - b.remaining) := by
    refine kept.first.trans ?_
    change (wanted h s es).take b.expected = _
    rw [missing, List.take_eq_take_iff]
    omega
  have collected : ((trace (offered h) s es).map fun p => p.1.verdict p.2).countP (·.isCollected) =
      b.expected - b.remaining := by
    rw [List.countP_map]
    change (trace (offered h) s es).countP (fun p => (p.1.verdict p.2).isCollected) = _
    omega
  obtain ⟨delivered, accepted, filtered, rejected, failed, overflowed, received⟩ :=
    Browser.tally_spec ((trace (offered h) s es).map fun p => p.1.verdict p.2)
  rw [← kept.counted] at delivered accepted filtered rejected failed overflowed received
  have kinds := Browser.length_eq_sum ((trace (offered h) s es).map fun p => p.1.verdict p.2)
  have spent := length_surplus h s es
  rw [collected] at accepted kinds
  rw [← spent] at kinds
  exact {
    within := within
    missing := missing
    size := by
      rw [first, List.length_take]
      omega
    first := first
    accepted := accepted
    unused := ⟨overflowed, received⟩
    ignored := by
      rw [delivered, accepted, filtered, rejected, failed, kinds]
      simp only [UInt64.ofNat_add]
      grind
    exactly := by
      intro few
      rw [List.length_map] at delivered kinds
      have small {n : Nat} (part : n ≤ (trace (offered h) s es).length) :
          (UInt64.ofNat n).toNat = n := UInt64.toNat_ofNat_of_lt' (by omega)
      rw [delivered, accepted, filtered, rejected, failed, small (by omega), small (by omega),
        small (by omega), small (by omega), small (by omega)]
      exact ⟨rfl, kinds⟩ }

theorem draws_apply {h : HandlerId} {s : Session} {b : Browser} (there : s.browser? h = some b)
    (e : Event) : Draws h s e b (b.react (s.happening h e)) where
  collects := by
    intro d m handed wants some_missing
    rw [happening_eq_delivery.mpr ⟨handed, rfl, rfl⟩, Browser.react]
    obtain ⟨remaining, collected, -⟩ := b.deliver_frame d (s.answer e)
    rw [remaining, collected]
    have verdict := Browser.verdict_eq_collected.mpr ⟨wants, some_missing⟩
    rcases b.keep_cases d with ⟨m', verdict', one_less, one_more⟩ | ⟨no, -⟩
    · rw [verdict] at verdict'
      cases verdict'
      exact ⟨one_less, one_more⟩
    · rw [verdict] at no
      cases no
  rests := by
    intro unwanted
    by_cases arrives : ∃ d, s.handed? e = some (h, d)
    · obtain ⟨d, handed⟩ := arrives
      rw [handedOut, there, happening_eq_delivery.mpr ⟨handed, rfl, rfl⟩, Browser.react]
      obtain ⟨remaining, collected, -⟩ := b.deliver_frame d (s.answer e)
      rw [remaining, collected]
      rcases b.keep_cases d with ⟨m, verdict, -⟩ | ⟨-, same, same'⟩
      · obtain ⟨wants, some_missing⟩ := Browser.verdict_eq_collected.mp verdict
        rcases unwanted d handed with no | spent
        · rw [wants] at no
          cases no
        · exact absurd spent some_missing
      · exact ⟨same, same'⟩
    · obtain ⟨remaining, -, collected⟩ := b.react_frame (s.happening h e)
        (Browser.offers_eq_nil fun d now answer occurs =>
          arrives ⟨d, (happening_eq_delivery.mp occurs).1⟩)
      rw [handedOut, there]
      exact ⟨remaining, collected⟩

/-- **Budget**: in every run a browsing consumer has collected the first messages that it wanted, as
many as its budget has gone down, its counters tell so, and each event that draws on the budget is a
delivery that it wants. -/
theorem budget_of_browser (confirms : Bool) (es : List Event) (h : HandlerId) {b : Browser}
    (there : ((initial confirms).run es).browser? h = some b) :
    Budget h (initial confirms) es b ∧
      ∀ e, ∃ b', (((initial confirms).run es).apply e).browser? h = some b' ∧
        Draws h ((initial confirms).run es) e b b' :=
  ⟨budget_of_kept (kept_run confirms es h there),
    fun e => ⟨_, browser?_apply e there, draws_apply there e⟩⟩

/-- A consumer of two messages that have a kind, and deliveries without a kind, with one, in a form
that nobody reads, with one again, in excess, and after the end. -/
def sixDeliveries : List Event :=
  let order (tag : DeliveryTag) (properties : Properties) : Delivery :=
    { Delivery.bare tag with properties := properties }
  [.addBrowser ⟨"clerk"⟩ (standardConverter 100) 2 (some fun hs => (hs.find? "JMSType").isSome),
    .call (.deliver 0 (order ⟨1⟩ {})), .step 0,
    .call (.deliver 0 (order ⟨2⟩ { kind := some "order" })), .step 1,
    .call (.deliver 0 (order ⟨3⟩ { contentEncoding := some "gzip" })), .step 2,
    .call (.deliver 0 (order ⟨4⟩ { kind := some "order" })), .step 3,
    .call (.deliver 0 (order ⟨5⟩ { kind := some "order" })), .step 4,
    .cancelOk 0 ⟨"clerk"⟩,
    .call (.deliver 0 (order ⟨6⟩ { kind := some "order" })), .step 5]

theorem budget_of_browser_sixDeliveries :
    ∃ b, ((initial true).run sixDeliveries).browser? 0 = some b ∧
      b.collected.map (·.deliveryTag) = [⟨2⟩, ⟨4⟩] ∧
      (wanted 0 (initial true) sixDeliveries).length = 3 ∧
      b.counters = { delivered := 6, accepted := 2, filtered := 1, rejectedAfterCancel := 1
                     conversionFailures := 1 } ∧
      Budget 0 (initial true) sixDeliveries b :=
  ⟨_, rfl, rfl, rfl, rfl, (budget_of_browser true sixDeliveries 0 rfl).1⟩

end Session
end Intake
