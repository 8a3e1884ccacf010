import LocHal.Core.AdapterTable

/-!
# `LocHal.Core.AdapterDispatch`: the delivery of an event to the adapters

`LocApiBase` hands what the modem reports to its adapters. `TO_ALL_ADAPTERS` calls the method of
every adapter, and `TO_1ST_HANDLING_ADAPTER` calls the method of one adapter after the other until
one of them returns `true`. Both go through `mLocAdapters` with an index and stop at the first free
slot. The accesses are checked and the loops have fuel, as in `AdapterTable`.

What the methods of the adapters return is part of the label. `Serves` says which adapters an event
must reach, and `dispatched_run` that it reaches them, however the adapters are added and removed
between the events.

The change that `reportSv` makes to unknown satellite types is left out.

The loops are related to the list of the adapters by the invariant of `AdapterTable`: the array is
packed, so that the loop sees each registered adapter, in order, and nothing behind them.
`toAllLoop_eq_to1stHandlingLoop` makes one loop of the two. From the single events `run_serves` goes
to all events of a run, and `reports_eq` counts the reports of one adapter.
-/

set_option autoImplicit false

namespace LocHal.Core

open CheckedArray LabelledRun LocApiBase PackedSlots

/-- The two macros. -/
inductive Delivery where
  | toAll
  | to1stHandling
  deriving DecidableEq, Repr

/-- The methods that hand an event to the adapters. -/
inductive LocApiEvent where
  | handleEngineUpEvent
  | handleEngineDownEvent
  | reportPosition
  | reportWwanZppFix
  | reportOdcpiRequest
  | reportSv
  | reportSvMeasurement
  | reportSvPolynomial
  | reportStatus
  | reportNmea
  | reportXtraServer
  | requestXtraData
  | requestTime
  | requestLocation
  | requestATL
  | releaseATL
  | requestSuplES
  | reportDataCallOpened
  | reportDataCallClosed
  | requestNiNotify
  | reportGnssMeasurementData
  deriving DecidableEq, Repr

/-- The macro that each method uses. -/
def LocApiEvent.delivery : LocApiEvent → Delivery
  | handleEngineUpEvent => .toAll
  | handleEngineDownEvent => .toAll
  | reportPosition => .toAll
  | reportWwanZppFix => .to1stHandling
  | reportOdcpiRequest => .to1stHandling
  | reportSv => .toAll
  | reportSvMeasurement => .toAll
  | reportSvPolynomial => .toAll
  | reportStatus => .toAll
  | reportNmea => .toAll
  | reportXtraServer => .to1stHandling
  | requestXtraData => .to1stHandling
  | requestTime => .to1stHandling
  | requestLocation => .to1stHandling
  | requestATL => .to1stHandling
  | releaseATL => .to1stHandling
  | requestSuplES => .to1stHandling
  | reportDataCallOpened => .to1stHandling
  | reportDataCallClosed => .to1stHandling
  | requestNiNotify => .to1stHandling
  | reportGnssMeasurementData => .toAll

variable {α π : Type}

/-- One delivery: the adapters whose method is called, in this order. -/
structure Dispatched (α π : Type) where
  event : LocApiEvent
  payload : π
  adapters : List α
  deriving DecidableEq, Repr

/-- The array, and the deliveries so far. -/
structure AdapterDispatch (α π : Type) where
  mLocAdapters : List (Option α)
  log : List (Dispatched α π)
  deriving DecidableEq, Repr

/-- A change of the array, or an event. `handles` is what the method of each adapter returns. -/
inductive DispatchLabel (α π : Type) where
  | adapter (call : AdapterCall α)
  | event (event : LocApiEvent) (payload : π) (handles : α → Bool)

namespace AdapterDispatch

/-- The loop of `TO_ALL_ADAPTERS`, with the adapters that it has called. -/
def toAllLoop (mLocAdapters : List (Option α)) : Nat → Nat → List α → Option (List α)
  | 0, _, _ => none
  | fuel + 1, i, called =>
      if i < maxAdapters then do
        let slot ← read mLocAdapters i
        match slot with
        | some adapter => toAllLoop mLocAdapters fuel (i + 1) (called ++ [adapter])
        | none => some called
      else some called

/-- The loop of `TO_1ST_HANDLING_ADAPTER`. -/
def to1stHandlingLoop (handles : α → Bool) (mLocAdapters : List (Option α)) :
    Nat → Nat → List α → Option (List α)
  | 0, _, _ => none
  | fuel + 1, i, called =>
      if i < maxAdapters then do
        let slot ← read mLocAdapters i
        match slot with
        | some adapter =>
            if handles adapter then some (called ++ [adapter])
            else to1stHandlingLoop handles mLocAdapters fuel (i + 1) (called ++ [adapter])
        | none => some called
      else some called

/-- The loop of `isInSession`. -/
def isInSessionLoop (inSession : α → Bool) (mLocAdapters : List (Option α)) :
    Nat → Nat → Bool → Option Bool
  | 0, _, _ => none
  | fuel + 1, i, result =>
      if !result && decide (i < maxAdapters) then do
        let slot ← read mLocAdapters i
        match slot with
        | some adapter => isInSessionLoop inSession mLocAdapters fuel (i + 1) (inSession adapter)
        | none => some result
      else some result

/-- `LocApiBase::isInSession`, with what the adapters answer. -/
def isInSession (inSession : α → Bool) (mLocAdapters : List (Option α)) : Option Bool :=
  isInSessionLoop inSession mLocAdapters (maxAdapters + 1) 0 false

/-- The adapters that a method calls. -/
def dispatch (delivery : Delivery) (handles : α → Bool) (mLocAdapters : List (Option α)) :
    Option (List α) :=
  match delivery with
  | .toAll => toAllLoop mLocAdapters (maxAdapters + 1) 0 []
  | .to1stHandling => to1stHandlingLoop handles mLocAdapters (maxAdapters + 1) 0 []

/-- The constructor of `LocApiBase`. -/
def new : AdapterDispatch α π where
  mLocAdapters := List.replicate maxAdapters none
  log := []

variable [DecidableEq α]

def step (s : AdapterDispatch α π) : DispatchLabel α π → Option (AdapterDispatch α π)
  | .adapter call =>
      (AdapterTable.step s.mLocAdapters call).map fun array => { s with mLocAdapters := array }
  | .event event payload handles =>
      (dispatch event.delivery handles s.mLocAdapters).map fun adapters =>
        { s with log := s.log ++ [⟨event, payload, adapters⟩] }

/-! ### What must be delivered -/

/-- An event, with the adapters that are registered when it comes. -/
structure Due (α π : Type) where
  event : LocApiEvent
  payload : π
  registered : Finset α
  handles : α → Bool

/-- The events of a run from `registered` on. -/
def dues : Finset α → List (DispatchLabel α π) → List (Due α π)
  | _, [] => []
  | registered, .adapter call :: labels =>
      dues (AdapterTable.registeredAfter registered call) labels
  | registered, .event event payload handles :: labels =>
      ⟨event, payload, registered, handles⟩ :: dues registered labels

/-- The adapters that are registered after a run. -/
def registeredAfter (registered : Finset α) : List (DispatchLabel α π) → Finset α
  | [] => registered
  | .adapter call :: labels =>
      registeredAfter (AdapterTable.registeredAfter registered call) labels
  | .event _ _ _ :: labels => registeredAfter registered labels

/-- One adapter after the other is asked, until one of them handles the event. -/
structure Asks (registered : Finset α) (handles : α → Bool) (adapters : List α) : Prop where
  /-- the adapters before the last one do not handle it -/
  refused : ∀ adapter ∈ adapters.dropLast, handles adapter = false
  /-- an adapter handles it, when there is one that does -/
  taken : (∃ adapter ∈ registered, handles adapter = true) →
    ∃ adapter ∈ adapters, handles adapter = true
  /-- when there is none, all of them are asked -/
  all : (∀ adapter ∈ registered, handles adapter = false) → registered ⊆ adapters.toFinset

/-- No adapter is called twice, and only registered ones are. A report reaches all of them, and a
request goes to the first that handles it, so those that are asked before have declined it. The
registered adapters are those when the event comes. -/
structure Serves (due : Due α π) (dispatched : Dispatched α π) : Prop where
  event : dispatched.event = due.event
  payload : dispatched.payload = due.payload
  nodup : dispatched.adapters.Nodup
  registered : dispatched.adapters.toFinset ⊆ due.registered
  toAll : due.event.delivery = .toAll → due.registered ⊆ dispatched.adapters.toFinset
  to1stHandling : due.event.delivery = .to1stHandling →
    Asks due.registered due.handles dispatched.adapters

/-- The reports that one adapter gets, as often as it gets them. -/
def reports (adapter : α) (log : List (Dispatched α π)) : List (LocApiEvent × π) :=
  log.flatMap fun d =>
    if d.event.delivery = .toAll then
      List.replicate (d.adapters.count adapter) (d.event, d.payload)
    else []

/-- The reports that come while it is registered. -/
def reportsDue (adapter : α) (due : List (Due α π)) : List (LocApiEvent × π) :=
  due.flatMap fun d =>
    if d.event.delivery = .toAll ∧ adapter ∈ d.registered then [(d.event, d.payload)] else []

/-! ### The loops -/

section Loops

variable {fuel : Nat} {front : List (Option α)} {l : List α} {n : Nat}

/-- The entries up to the first one that handles the event. -/
def asked (handles : α → Bool) : List α → List α
  | [] => []
  | a :: l => if handles a then [a] else a :: asked handles l

omit [DecidableEq α] in
theorem to1stHandlingLoop_eq (handles : α → Bool) (called : List α)
    (hlength : front.length + l.length + n = maxAdapters) (hfuel : l.length < fuel) :
    to1stHandlingLoop handles (front ++ slots l n) fuel front.length called =
      some (called ++ asked handles l) := by
  induction l generalizing front fuel called with
  | nil =>
      obtain ⟨fuel, rfl⟩ := Nat.exists_eq_succ_of_ne_zero (Nat.ne_of_gt hfuel)
      rw [List.length_nil] at hlength
      rw [asked, List.append_nil, to1stHandlingLoop]
      cases n with
      | zero => rw [if_neg (by omega)]
      | succ n =>
          have hslot : slots ([] : List α) (n + 1) = none :: slots [] n := rfl
          rw [if_pos (by omega), hslot, read_append_cons]
          rfl
  | cons a l ih =>
      obtain ⟨fuel, rfl⟩ := Nat.exists_eq_succ_of_ne_zero (Nat.ne_of_gt (Nat.zero_lt_of_lt hfuel))
      rw [List.length_cons] at hlength hfuel
      rw [to1stHandlingLoop, if_pos (by omega), slots_cons, read_append_cons, asked]
      simp only [Option.bind_eq_bind, Option.bind_some]
      by_cases ha : handles a
      · rw [if_pos ha, if_pos ha]
      · have hnext := @ih fuel (front ++ [some a]) (called ++ [a])
          (by rw [List.length_append, List.length_singleton]; omega) (by omega)
        rw [List.length_append, List.length_singleton, List.append_assoc, List.append_assoc,
          List.singleton_append, List.singleton_append] at hnext
        rw [if_neg ha, if_neg ha, hnext]

omit [DecidableEq α] in
/-- All adapters are called where none of them could stop the loop. -/
theorem toAllLoop_eq_to1stHandlingLoop (mLocAdapters : List (Option α)) (fuel : Nat) :
    ∀ i called, toAllLoop mLocAdapters fuel i called =
      to1stHandlingLoop (fun _ => false) mLocAdapters fuel i called := by
  induction fuel with
  | zero => exact fun _ _ => rfl
  | succ fuel ih =>
      intro i called
      rw [toAllLoop, to1stHandlingLoop]
      simp only [ih, Bool.false_eq_true, if_false]

omit [DecidableEq α] in
theorem asked_false (l : List α) : asked (fun _ => false) l = l := by
  induction l with
  | nil => rfl
  | cons a l ih => rw [asked, if_neg Bool.false_ne_true, ih]

omit [DecidableEq α] in
/-- The loop stops behind the first adapter that is in a session. -/
theorem isInSessionLoop_eq (inSession : α → Bool)
    (hlength : front.length + l.length + n = maxAdapters) (hfuel : l.length < fuel) :
    isInSessionLoop inSession (front ++ slots l n) fuel front.length false =
      some (l.any inSession) := by
  induction l generalizing front fuel with
  | nil =>
      obtain ⟨fuel, rfl⟩ := Nat.exists_eq_succ_of_ne_zero (Nat.ne_of_gt hfuel)
      rw [List.length_nil] at hlength
      rw [isInSessionLoop, Bool.not_false, Bool.true_and]
      cases n with
      | zero =>
          rw [if_neg (by simp; omega)]
          rfl
      | succ n =>
          have hslot : slots ([] : List α) (n + 1) = none :: slots [] n := rfl
          rw [if_pos (by simp; omega), hslot, read_append_cons]
          rfl
  | cons a l ih =>
      obtain ⟨fuel, rfl⟩ := Nat.exists_eq_succ_of_ne_zero (Nat.ne_of_gt (Nat.zero_lt_of_lt hfuel))
      rw [List.length_cons] at hlength hfuel
      rw [isInSessionLoop, Bool.not_false, Bool.true_and, if_pos (by simp; omega), slots_cons,
        read_append_cons, List.any_cons]
      simp only [Option.bind_eq_bind, Option.bind_some]
      cases inSession a with
      | true =>
          -- the next pass finds the answer
          obtain ⟨fuel, rfl⟩ := Nat.exists_eq_succ_of_ne_zero
            (Nat.ne_of_gt (Nat.zero_lt_of_lt (Nat.lt_of_succ_lt_succ hfuel)))
          rw [isInSessionLoop]
          rfl
      | false =>
          have hnext := @ih fuel (front ++ [some a])
            (by rw [List.length_append, List.length_singleton]; omega) (by omega)
          rw [List.length_append, List.length_singleton, List.append_assoc,
            List.singleton_append] at hnext
          rw [hnext, Bool.false_or]

end Loops

/-! ### One event -/

variable {mLocAdapters : List (Option α)} {registered : Finset α} {l : List α}

omit [DecidableEq α] in
theorem asked_subset (handles : α → Bool) (l : List α) : List.Sublist (asked handles l) l := by
  induction l with
  | nil => exact List.Sublist.slnil
  | cons a l ih =>
      rw [asked]
      split
      · exact List.Sublist.cons_cons a (List.nil_sublist l)
      · exact List.Sublist.cons_cons a ih

theorem asked_asks (handles : α → Bool) (hl : ∀ adapter, adapter ∈ l ↔ adapter ∈ registered) :
    Asks registered handles (asked handles l) := by
  refine ⟨?_, ?_, ?_⟩
  · clear hl
    induction l with
    | nil => exact fun _ hmem => absurd hmem List.not_mem_nil
    | cons a l ih =>
        rw [asked]
        split
        · exact fun _ hmem => absurd hmem List.not_mem_nil
        · next ha =>
            cases hasked : asked handles l with
            | nil => exact fun _ hmem => absurd hmem List.not_mem_nil
            | cons b l' =>
                intro adapter hmem
                rw [List.dropLast_cons_cons, List.mem_cons] at hmem
                rcases hmem with rfl | hmem
                · exact Bool.eq_false_iff.mpr ha
                · rw [hasked] at ih
                  exact ih adapter hmem
  · rintro ⟨adapter, hadapter, hhandles⟩
    replace hadapter := (hl adapter).mpr hadapter
    clear hl
    induction l with
    | nil => exact absurd hadapter List.not_mem_nil
    | cons a l ih =>
        rw [asked]
        split
        · next ha => exact ⟨a, List.mem_singleton_self a, ha⟩
        · next ha =>
            have hmem : adapter ∈ l :=
              (List.mem_cons.mp hadapter).resolve_left fun h => ha (h ▸ hhandles)
            obtain ⟨taker, htaker, htakes⟩ := ih hmem
            exact ⟨taker, List.mem_cons_of_mem a htaker, htakes⟩
  · intro hnone adapter hadapter
    have hfalse : asked handles l = l := by
      replace hnone : ∀ b ∈ l, handles b = false := fun b hb => hnone b ((hl b).mp hb)
      clear hl
      induction l with
      | nil => rfl
      | cons a l ih =>
          rw [asked, if_neg (Bool.eq_false_iff.mp (hnone a List.mem_cons_self)),
            ih fun b hb => hnone b (List.mem_cons_of_mem a hb)]
    rw [hfalse, List.mem_toFinset]
    exact (hl adapter).mpr hadapter

/-- A method calls the adapters that it has to call. -/
theorem dispatch_serves (h : Packed mLocAdapters registered) (event : LocApiEvent) (payload : π)
    (handles : α → Bool) :
    ∃ adapters, dispatch event.delivery handles mLocAdapters = some adapters ∧
      Serves ⟨event, payload, registered, handles⟩ ⟨event, payload, adapters⟩ := by
  obtain ⟨l, n, rfl, hlength, hnodup, hmem⟩ := h
  have hregistered : ∀ adapters : List α, adapters.Sublist l → adapters.toFinset ⊆ registered :=
    fun adapters hsub adapter hadapter =>
      (hmem adapter).mp (hsub.mem (List.mem_toFinset.mp hadapter))
  have hloop := fun handles : α → Bool =>
    @to1stHandlingLoop_eq α (maxAdapters + 1) [] l n handles [] (by simpa using hlength)
      (by omega)
  unfold dispatch
  cases hdelivery : event.delivery with
  | toAll =>
      have hcalled := (toAllLoop_eq_to1stHandlingLoop (slots l n) (maxAdapters + 1) 0 []).trans
        (hloop fun _ => false)
      rw [asked_false, List.nil_append] at hcalled
      refine ⟨l, hcalled, rfl, rfl, hnodup, hregistered l (List.Sublist.refl l), fun _ => ?_, ?_⟩
      · exact fun adapter hadapter => List.mem_toFinset.mpr ((hmem adapter).mpr hadapter)
      · exact fun h1st => absurd (hdelivery.symm.trans h1st) nofun
  | to1stHandling =>
      refine ⟨asked handles l, hloop handles, rfl, rfl, (asked_subset handles l).nodup hnodup,
        hregistered _ (asked_subset handles l), ?_, fun _ => asked_asks handles hmem⟩
      exact fun hall => absurd (hdelivery.symm.trans hall) nofun

omit [DecidableEq α] in
theorem isInSession_packed (h : Packed mLocAdapters registered) (inSession : α → Bool) :
    isInSession inSession mLocAdapters
      = some (decide (∃ adapter ∈ registered, inSession adapter = true)) := by
  obtain ⟨l, n, rfl, hlength, -, hmem⟩ := h
  have hloop := @isInSessionLoop_eq α (maxAdapters + 1) [] l n inSession (by simpa using hlength)
    (by omega)
  have hany : l.any inSession = decide (∃ adapter ∈ registered, inSession adapter = true) := by
    rw [Bool.eq_iff_iff, List.any_eq_true, decide_eq_true_iff]
    simp only [hmem]
  rw [← hany]
  exact hloop

/-! ### Runs -/

/-- The events of a run reach the adapters that they must reach. -/
theorem run_serves (labels : List (DispatchLabel α π)) {s : AdapterDispatch α π}
    (h : Packed s.mLocAdapters registered) :
    ∃ t log, run step s labels = some t ∧ t.log = s.log ++ log ∧
      List.Forall₂ Serves (dues registered labels) log ∧
      Packed t.mLocAdapters (registeredAfter registered labels) := by
  induction labels generalizing s registered with
  | nil => exact ⟨s, [], rfl, (List.append_nil _).symm, .nil, h⟩
  | cons label labels ih =>
      rw [run_cons]
      cases label with
      | adapter call =>
          obtain ⟨array, hstep, hpacked⟩ := AdapterTable.step_packed h call
          rw [step, hstep, Option.map_some, Option.bind_some]
          exact ih hpacked
      | event event payload handles =>
          obtain ⟨adapters, hdispatch, hserves⟩ := dispatch_serves h event payload handles
          rw [step, hdispatch, Option.map_some, Option.bind_some]
          obtain ⟨t, log, hrun, hlog, hserved, hpacked⟩ :=
            @ih registered { s with log := s.log ++ [⟨event, payload, adapters⟩] } h
          exact ⟨t, ⟨event, payload, adapters⟩ :: log, hrun,
            by rw [hlog, List.append_assoc, List.singleton_append], .cons hserves hserved, hpacked⟩

/-- A report reaches an adapter once when it is registered, and else not. -/
theorem Serves.reports_eq {due : Due α π} {d : Dispatched α π} (h : Serves due d) (adapter : α) :
    reports adapter [d] = reportsDue adapter [due] := by
  unfold reports reportsDue
  rw [List.flatMap_singleton, List.flatMap_singleton, h.event, h.payload]
  by_cases hall : due.event.delivery = .toAll
  · by_cases hadapter : adapter ∈ due.registered
    · have hcount := List.count_eq_one_of_mem h.nodup
        (List.mem_toFinset.mp (h.toAll hall hadapter))
      rw [if_pos hall, if_pos ⟨hall, hadapter⟩, hcount, List.replicate_one]
    · have hcount : d.adapters.count adapter = 0 := by
        rw [List.count_eq_zero]
        exact fun hmem => hadapter (h.registered (List.mem_toFinset.mpr hmem))
      rw [if_pos hall, if_neg fun hboth => hadapter hboth.2, hcount, List.replicate_zero]
  · rw [if_neg hall, if_neg fun hboth => hall hboth.1]

theorem reports_eq {due : List (Due α π)} {log : List (Dispatched α π)}
    (h : List.Forall₂ Serves due log) (adapter : α) :
    reports adapter log = reportsDue adapter due := by
  induction h with
  | nil => rfl
  | @cons first d due log hserves hlog ih =>
      have hfirst := hserves.reports_eq adapter
      unfold reports reportsDue at hfirst ih ⊢
      rw [List.flatMap_singleton, List.flatMap_singleton] at hfirst
      rw [List.flatMap_cons, List.flatMap_cons, hfirst, ih]

/-- For every sequence of events, with adapters added and removed between them: every event reaches
the adapters that are registered when it comes, and each adapter gets the reports that come while it
is registered, once and in their order. A session is found exactly when a registered adapter is in
one. -/
theorem dispatched_run (labels : List (DispatchLabel α π)) :
    ∃ s, run step (new : AdapterDispatch α π) labels = some s ∧
      List.Forall₂ Serves (dues ∅ labels) s.log ∧
      (∀ adapter, reports adapter s.log = reportsDue adapter (dues ∅ labels)) ∧
      ∀ inSession, isInSession inSession s.mLocAdapters =
        some (decide (∃ adapter ∈ registeredAfter ∅ labels, inSession adapter = true)) := by
  obtain ⟨s, log, hrun, hlog, hserves, hpacked⟩ :=
    run_serves labels (s := new) (packed_new 0 fun _ => 0)
  have hs : s.log = log := hlog
  rw [← hs] at hserves
  exact ⟨s, hrun, hserves, reports_eq hserves, isInSession_packed hpacked⟩

end AdapterDispatch

end LocHal.Core
