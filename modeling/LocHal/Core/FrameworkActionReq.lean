import Mathlib.Logic.Function.Basic
import LocHal.Lib.LabelledRun

/-!
# `LocHal.Core.FrameworkActionReq`: turning framework modules on and off

`SystemStatusOsObserver` counts the requests for a framework module in `mActiveRequestCount`, one
count for each data item, and posts a message when a count starts or ends. The message of `turnOff`
calls the framework. The message of `turnOn` has got `this`, so it calls the observer itself.

`ActionCounter` is the purpose: the number of `turnOn` calls that no later `turnOff` matches, and
the framework calls for its transitions. `ObserverActions` runs the observer beside it.

* `mActiveRequestCount_eq`: the counts of the observer are those of an `ActionCounter` for which
  every processed `turnOn` message is one more call.
* `matches_iff`: the observer agrees with the purpose if and only if there
  was no `turnOn` call in the run.

A message of `turnOn` is a second call of `turnOn` at the observer when it is processed. The count
has an entry by then or another message is queued, but the framework is called in neither case. So
the framework is never asked to turn anything on (`neverOn_step`), while the purpose has asked for
it from the first call on (`turnedOn_of_mem`). Without a `turnOn` call there is nothing to turn off
either (`idle_of_run`).
-/

set_option autoImplicit false

namespace LocHal.Core

open LabelledRun

/-- A call of `IFrameworkActionReq`. -/
inductive FrameworkAction (δ : Type) where
  | turnOn (dit : δ) (timeOut : Int)
  | turnOff (dit : δ)
  deriving DecidableEq, Repr

/-- The item that is turned on or off. -/
def FrameworkAction.dit {δ : Type} : FrameworkAction δ → δ
  | .turnOn dit _ => dit
  | .turnOff dit => dit

variable {δ : Type} [DecidableEq δ]

/-! ### The purpose -/

/-- The `turnOn` calls without a later `turnOff`, and the framework calls that they ask for. -/
structure ActionCounter (δ : Type) where
  active : δ → Nat
  actions : List (FrameworkAction δ)

namespace ActionCounter

/-- No call yet. -/
def new : ActionCounter δ := ⟨fun _ => 0, []⟩

/-- One call. A transition from 0 to 1 turns the module on, and one from 1 to 0 turns it off. -/
def call (p : ActionCounter δ) : FrameworkAction δ → ActionCounter δ
  | .turnOn dit timeOut =>
      { active := Function.update p.active dit (p.active dit + 1)
        actions := if p.active dit = 0 then p.actions ++ [.turnOn dit timeOut] else p.actions }
  | .turnOff dit =>
      { active := Function.update p.active dit (p.active dit - 1)
        actions := if p.active dit = 1 then p.actions ++ [.turnOff dit] else p.actions }

/-- The module has been turned on before. -/
def TurnedOn (p : ActionCounter δ) (dit : δ) : Prop := ∃ timeOut, .turnOn dit timeOut ∈ p.actions

/-- A module with a request has been turned on. -/
def Started (p : ActionCounter δ) : Prop := ∀ dit, p.active dit ≠ 0 → p.TurnedOn dit

theorem TurnedOn.call {p : ActionCounter δ} {dit : δ} (h : p.TurnedOn dit)
    (action : FrameworkAction δ) : (p.call action).TurnedOn dit := by
  obtain ⟨timeOut, hmem⟩ := h
  refine ⟨timeOut, ?_⟩
  cases action with
  | turnOn dit' timeOut' =>
      show _ ∈ (if _ then _ else _)
      split
      · exact List.mem_append_left _ hmem
      · exact hmem
  | turnOff dit' =>
      show _ ∈ (if _ then _ else _)
      split
      · exact List.mem_append_left _ hmem
      · exact hmem

/-- After a `turnOn` call the module has been turned on, by it or by an earlier one. -/
theorem Started.turnedOn_call {p : ActionCounter δ} (h : p.Started) (dit : δ) (timeOut : Int) :
    (p.call (.turnOn dit timeOut)).TurnedOn dit := by
  by_cases hzero : p.active dit = 0
  · refine ⟨timeOut, ?_⟩
    show _ ∈ (if _ then _ else _)
    rw [if_pos hzero]
    exact List.mem_append_right _ List.mem_cons_self
  · exact (h dit hzero).call _

theorem Started.call {p : ActionCounter δ} (h : p.Started) (action : FrameworkAction δ) :
    (p.call action).Started := by
  intro dit hne
  cases action with
  | turnOn dit' timeOut =>
      by_cases hdit : dit = dit'
      · subst hdit
        exact h.turnedOn_call dit timeOut
      · have hsame : (p.call (.turnOn dit' timeOut)).active dit = p.active dit :=
          Function.update_of_ne hdit _ _
        exact (h dit (hsame ▸ hne)).call _
  | turnOff dit' =>
      refine (h dit fun hzero => hne ?_).call _
      show Function.update p.active dit' (p.active dit' - 1) dit = 0
      by_cases hdit : dit = dit'
      · subst hdit
        rw [Function.update_self, hzero]
      · rw [Function.update_of_ne hdit, hzero]

end ActionCounter

/-! ### The observer -/

/-- The part of `SystemStatusOsObserver` that counts requests, with the queue of messages and the
calls that the framework object has received. The object is set. -/
structure ObserverActions (δ : Type) where
  mActiveRequestCount : δ → Option Int
  messages : List (FrameworkAction δ)
  framework : List (FrameworkAction δ)
  /-- The purpose, from the calls alone. -/
  purpose : ActionCounter δ
  /-- The same with the processed messages of `turnOn`. -/
  counted : ActionCounter δ

/-- What happens next: a call, or the oldest message. -/
inductive ActionLabel (δ : Type) where
  | call (action : FrameworkAction δ)
  | proc
  deriving DecidableEq, Repr

namespace ObserverActions

/-- The constructor. -/
def new : ObserverActions δ := ⟨fun _ => none, [], [], .new, .new⟩

/-- `SystemStatusOsObserver::turnOn`. -/
def turnOn (s : ObserverActions δ) (dit : δ) (timeOut : Int) : ObserverActions δ :=
  match s.mActiveRequestCount dit with
  | none =>
      { s with
        mActiveRequestCount := Function.update s.mActiveRequestCount dit (some 1)
        messages := s.messages ++ [.turnOn dit timeOut] }
  | some n =>
      { s with mActiveRequestCount := Function.update s.mActiveRequestCount dit (some (n + 1)) }

/-- `SystemStatusOsObserver::turnOff`. -/
def turnOff (s : ObserverActions δ) (dit : δ) : ObserverActions δ :=
  match s.mActiveRequestCount dit with
  | none => s
  | some n =>
      if n - 1 = 0 then
        { s with
          mActiveRequestCount := Function.update s.mActiveRequestCount dit none
          messages := s.messages ++ [.turnOff dit] }
      else
        { s with mActiveRequestCount := Function.update s.mActiveRequestCount dit (some (n - 1)) }

/-- A call of the observer. -/
def act (s : ObserverActions δ) : FrameworkAction δ → ObserverActions δ
  | .turnOn dit timeOut => s.turnOn dit timeOut
  | .turnOff dit => s.turnOff dit

/-- `HandleTurnOnMsg::proc` and `HandleTurnOffMsg::proc`. The message of `turnOn` holds the
observer as its framework object, and the message of `turnOff` the framework object of the
context. -/
def procMsg (s : ObserverActions δ) : FrameworkAction δ → ObserverActions δ
  | .turnOn dit timeOut =>
      { s.turnOn dit timeOut with counted := s.counted.call (.turnOn dit timeOut) }
  | .turnOff dit => { s with framework := s.framework ++ [.turnOff dit] }

/-- One step. -/
def step (s : ObserverActions δ) : ActionLabel δ → Option (ObserverActions δ)
  | .call action =>
      some { s.act action with
        purpose := s.purpose.call action
        counted := s.counted.call action }
  | .proc =>
      match s.messages with
      | [] => none
      | msg :: rest => some (({ s with messages := rest } : ObserverActions δ).procMsg msg)

/-- The calls of the framework for one item. -/
def callsOf (actions : List (FrameworkAction δ)) (dit : δ) : List (FrameworkAction δ) :=
  actions.filter fun action => action.dit = dit

/-- The count of every item is the number of unmatched calls, and the framework has had the calls
for its transitions, in order. `purpose` counts the calls of the clients and knows no messages. -/
def Matches (s : ObserverActions δ) : Prop :=
  ∀ dit, (s.mActiveRequestCount dit).getD 0 = s.purpose.active dit ∧
    callsOf s.framework dit = callsOf s.purpose.actions dit

/-! ### What a step does -/

variable {s t : ObserverActions δ}

/-- The entry of `mActiveRequestCount` for `n` requests. -/
def countOf (n : Nat) : Option Int := if n = 0 then none else some (n : Int)

/-- The counts of the observer are those of `counted`. -/
def Counts (s : ObserverActions δ) : Prop :=
  ∀ dit, s.mActiveRequestCount dit = countOf (s.counted.active dit)

/-- A call of `turnOn` counts one more. -/
theorem Counts.turnOn (h : Counts s) (dit : δ) (timeOut : Int) :
    Counts { s.turnOn dit timeOut with counted := s.counted.call (.turnOn dit timeOut) } := by
  intro dit'
  have hdit := h dit
  have hother := h dit'
  show (s.turnOn dit timeOut).mActiveRequestCount dit' =
    countOf (Function.update s.counted.active dit (s.counted.active dit + 1) dit')
  unfold ObserverActions.turnOn
  unfold countOf at hdit
  by_cases hzero : s.counted.active dit = 0
  · rw [if_pos hzero] at hdit
    rw [hdit]
    dsimp only
    by_cases heq : dit' = dit
    · subst heq
      simp [countOf, hzero]
    · simp only [Function.update_of_ne heq]
      exact hother
  · rw [if_neg hzero] at hdit
    rw [hdit]
    dsimp only
    by_cases heq : dit' = dit
    · subst heq
      simp [countOf]
    · simp only [Function.update_of_ne heq]
      exact hother

/-- A call of `turnOff` counts one less, down to 0. -/
theorem Counts.turnOff (h : Counts s) (dit : δ) :
    Counts { s.turnOff dit with counted := s.counted.call (.turnOff dit) } := by
  intro dit'
  have hdit := h dit
  have hother := h dit'
  show (s.turnOff dit).mActiveRequestCount dit' =
    countOf (Function.update s.counted.active dit (s.counted.active dit - 1) dit')
  unfold ObserverActions.turnOff
  unfold countOf at hdit
  by_cases hzero : s.counted.active dit = 0
  · -- there is no entry, so nothing changes
    rw [if_pos hzero] at hdit
    rw [hdit]
    dsimp only
    by_cases heq : dit' = dit
    · subst heq
      rw [Function.update_self, hzero]
      exact hdit
    · simp only [Function.update_of_ne heq]
      exact hother
  · rw [if_neg hzero] at hdit
    rw [hdit]
    dsimp only
    by_cases heq : dit' = dit
    · subst heq
      split
      · -- the entry goes with the last request
        have hone : s.counted.active dit' - 1 = 0 := by omega
        simp [countOf, hone]
      · have hone : s.counted.active dit' - 1 ≠ 0 := by omega
        have hcast : (s.counted.active dit' : Int) - 1 = (s.counted.active dit' - 1 : Nat) := by
          omega
        simp [countOf, hone, hcast]
    · split
      · simp only [Function.update_of_ne heq]
        exact hother
      · simp only [Function.update_of_ne heq]
        exact hother

/-- A call does not reach the framework. -/
theorem framework_act (s : ObserverActions δ) (action : FrameworkAction δ) :
    (s.act action).framework = s.framework := by
  cases action with
  | turnOn dit timeOut =>
      show (s.turnOn dit timeOut).framework = _
      unfold turnOn
      split <;> rfl
  | turnOff dit =>
      show (s.turnOff dit).framework = _
      unfold turnOff
      split
      · rfl
      · split <;> rfl

/-- `turnOn` does not touch what is recorded beside the observer. -/
theorem purpose_turnOn (s : ObserverActions δ) (dit : δ) (timeOut : Int) :
    (s.turnOn dit timeOut).purpose = s.purpose := by
  unfold turnOn
  split <;> rfl

/-- A message changes the purpose in no way, and turns nothing on at the framework. -/
theorem procMsg_framework (s : ObserverActions δ) (msg : FrameworkAction δ) :
    (s.procMsg msg).purpose = s.purpose ∧
      ∀ dit timeOut, .turnOn dit timeOut ∈ (s.procMsg msg).framework →
        .turnOn dit timeOut ∈ s.framework := by
  cases msg with
  | turnOn dit timeOut =>
      refine ⟨purpose_turnOn s dit timeOut, fun dit' timeOut' hmem => ?_⟩
      have hsame : (s.turnOn dit timeOut).framework = s.framework :=
        framework_act s (.turnOn dit timeOut)
      exact hsame ▸ hmem
  | turnOff dit =>
      refine ⟨rfl, fun dit' timeOut' hmem => ?_⟩
      rcases List.mem_append.mp hmem with hmem | hmem
      · exact hmem
      · cases List.mem_singleton.mp hmem

/-- What is left of a step with a message. -/
theorem step_proc_eq (h : step s .proc = some t) :
    ∃ msg rest, s.messages = msg :: rest ∧
      t = ({ s with messages := rest } : ObserverActions δ).procMsg msg := by
  simp only [step] at h
  split at h
  · cases h
  · rename_i msg rest hmessages
    cases h
    exact ⟨msg, rest, hmessages, rfl⟩

/-! ### Runs -/

omit [DecidableEq δ] in
theorem counts_new : Counts (new : ObserverActions δ) := fun _ => rfl

theorem counts_step {l : ActionLabel δ} (hs : Counts s) (h : step s l = some t) : Counts t := by
  cases l with
  | call action =>
      cases h
      cases action with
      | turnOn dit timeOut => exact hs.turnOn dit timeOut
      | turnOff dit => exact hs.turnOff dit
  | proc =>
      obtain ⟨msg, rest, -, rfl⟩ := step_proc_eq h
      have hrest : Counts { s with messages := rest } := hs
      cases msg with
      | turnOn dit timeOut => exact hrest.turnOn dit timeOut
      | turnOff dit => exact hrest

/-- In every state, the count of an item is the one that the calls and the processed messages of
`turnOn` add up to. It is never negative, and an item with the count 0 has no entry. -/
theorem mActiveRequestCount_eq (labels : List (ActionLabel δ))
    (h : run step new labels = some s) (dit : δ) :
    s.mActiveRequestCount dit = countOf (s.counted.active dit) :=
  run_invariant (P := Counts) (fun _ _ _ hs hstep => counts_step hs hstep) labels new s counts_new h
    dit

/-- The framework is never asked to turn a module on, and the purpose is started. -/
def NeverOn (s : ObserverActions δ) : Prop :=
  (∀ dit timeOut, .turnOn dit timeOut ∉ s.framework) ∧ s.purpose.Started

theorem neverOn_step {l : ActionLabel δ} (hs : NeverOn s) (h : step s l = some t) : NeverOn t := by
  cases l with
  | call action =>
      cases h
      refine ⟨?_, hs.2.call action⟩
      show ∀ dit timeOut, .turnOn dit timeOut ∉ (s.act action).framework
      rw [framework_act]
      exact hs.1
  | proc =>
      obtain ⟨msg, rest, -, rfl⟩ := step_proc_eq h
      obtain ⟨hpurpose, hframework⟩ :=
        procMsg_framework ({ s with messages := rest } : ObserverActions δ) msg
      refine ⟨fun dit timeOut hmem => hs.1 dit timeOut (hframework dit timeOut hmem), ?_⟩
      rw [hpurpose]
      exact hs.2

/-- A module that has been turned on in the purpose stays so. -/
theorem turnedOn_step {l : ActionLabel δ} {dit : δ} (hs : s.purpose.TurnedOn dit)
    (h : step s l = some t) : t.purpose.TurnedOn dit := by
  cases l with
  | call action =>
      cases h
      exact hs.call action
  | proc =>
      obtain ⟨msg, rest, -, rfl⟩ := step_proc_eq h
      rw [(procMsg_framework _ msg).1]
      exact hs

/-- A run with a `turnOn` call asks for a `turnOn` of the framework. The induction is on the
labels up to the call; from then on the purpose keeps it. -/
theorem turnedOn_of_mem {dit : δ} {timeOut : Int} : ∀ {labels : List (ActionLabel δ)}
    {s t : ObserverActions δ}, s.purpose.Started → run step s labels = some t →
      .call (.turnOn dit timeOut) ∈ labels → t.purpose.TurnedOn dit := by
  intro labels
  induction labels with
  | nil =>
      intro s t _ _ hmem
      cases hmem
  | cons l labels ih =>
      intro s t hs h hmem
      obtain ⟨u, hu, ht⟩ := run_cons_eq_some.mp h
      rcases List.mem_cons.mp hmem with rfl | hmem
      · have hon : u.purpose.TurnedOn dit := by
          cases hu
          exact hs.turnedOn_call dit timeOut
        exact run_invariant (P := fun s => s.purpose.TurnedOn dit)
          (fun _ _ _ hs hstep => turnedOn_step hs hstep) labels u t hon ht
      · have hstarted : u.purpose.Started := by
          cases l with
          | call action =>
              cases hu
              exact hs.call action
          | proc =>
              obtain ⟨msg, rest, -, rfl⟩ := step_proc_eq hu
              rw [(procMsg_framework _ msg).1]
              exact hs
        exact ih hstarted ht hmem

/-- Nothing has been asked for and nothing has been done. -/
def Idle (s : ObserverActions δ) : Prop :=
  (∀ dit, s.mActiveRequestCount dit = none) ∧ s.messages = [] ∧ s.framework = [] ∧
    (∀ dit, s.purpose.active dit = 0) ∧ s.purpose.actions = []

/-- A `turnOff` without a `turnOn` does nothing. -/
theorem idle_step {l : ActionLabel δ} (hs : Idle s)
    (hl : ∀ dit timeOut, l ≠ .call (.turnOn dit timeOut)) (h : step s l = some t) : Idle t := by
  obtain ⟨hcount, hmessages, hframework, hactive, hactions⟩ := hs
  cases l with
  | call action =>
      cases action with
      | turnOn dit timeOut => exact absurd rfl (hl dit timeOut)
      | turnOff dit =>
          cases h
          have hsame : s.act (.turnOff dit) = s := by
            show s.turnOff dit = s
            unfold turnOff
            rw [hcount dit]
          rw [hsame]
          refine ⟨hcount, hmessages, hframework, fun dit' => ?_, ?_⟩
          · show Function.update s.purpose.active dit (s.purpose.active dit - 1) dit' = 0
            by_cases heq : dit' = dit
            · subst heq
              rw [Function.update_self, hactive]
            · rw [Function.update_of_ne heq, hactive]
          · show (if s.purpose.active dit = 1 then _ else s.purpose.actions) = []
            rw [if_neg (by rw [hactive]; decide)]
            exact hactions
  | proc =>
      simp [step, hmessages] at h

/-- A run without a `turnOn` call does nothing. -/
theorem idle_of_run : ∀ {labels : List (ActionLabel δ)} {s t : ObserverActions δ}, Idle s →
    (∀ dit timeOut, .call (.turnOn dit timeOut) ∉ labels) →
      run step s labels = some t → Idle t := by
  intro labels
  induction labels with
  | nil =>
      intro s t hs _ h
      cases h
      exact hs
  | cons l labels ih =>
      intro s t hs hnone h
      obtain ⟨u, hu, ht⟩ := run_cons_eq_some.mp h
      refine ih (idle_step hs (fun dit timeOut heq => ?_) hu) (fun dit timeOut hmem => ?_) ht
      · exact hnone dit timeOut (heq ▸ List.mem_cons_self)
      · exact hnone dit timeOut (List.mem_cons_of_mem l hmem)

/-- After any run, with all of its messages processed or not, the counts and the calls of the
framework are as the purpose asks for if and only if `turnOn` was not called.

The message of `turnOn` holds the observer where it should hold the object of the framework. It
calls `turnOn` of the observer again, which counts once more and calls nobody. -/
theorem matches_iff (labels : List (ActionLabel δ)) (s : ObserverActions δ)
    (h : run step new labels = some s) :
    Matches s ↔ ∀ dit timeOut, .call (.turnOn dit timeOut) ∉ labels := by
  constructor
  · intro hmatches dit timeOut hmem
    have hnew : (new : ObserverActions δ).purpose.Started := fun _ hne => absurd rfl hne
    have hnever : NeverOn s := run_invariant (fun _ _ _ hs hstep => neverOn_step hs hstep) labels
      new s ⟨fun _ _ => List.not_mem_nil, hnew⟩ h
    obtain ⟨timeOut', hon⟩ := turnedOn_of_mem hnew h hmem
    have hcalls : .turnOn dit timeOut' ∈ callsOf s.framework dit := by
      rw [(hmatches dit).2]
      exact List.mem_filter.mpr ⟨hon, decide_eq_true rfl⟩
    exact hnever.1 dit timeOut' (List.mem_filter.mp hcalls).1
  · intro hnone
    obtain ⟨hcount, -, hframework, hactive, hactions⟩ :=
      idle_of_run (s := new) ⟨fun _ => rfl, rfl, rfl, fun _ => rfl, rfl⟩ hnone h
    intro dit
    rw [hcount, hframework, hactive, hactions]
    exact ⟨rfl, rfl⟩

/-- One request, with its message processed. -/
def turnOnOnce : List (ActionLabel Nat) := [.call (.turnOn 5 0), .proc]

/-- The framework has not been called, and the count is 2. -/
theorem not_matches_turnOnOnce : ∃ s : ObserverActions Nat, run step new turnOnOnce = some s ∧
    s.messages = [] ∧ s.mActiveRequestCount 5 = some 2 ∧ ¬ Matches s := by
  refine ⟨_, rfl, rfl, by decide, fun hmatches => ?_⟩
  have hcount := (hmatches 5).1
  exact absurd hcount (by decide)

/-- The condition on this run. -/
theorem matches_iff_turnOnOnce : Matches ((run step new turnOnOnce).get rfl) ↔
    ∀ dit timeOut, .call (.turnOn dit timeOut) ∉ turnOnOnce :=
  matches_iff turnOnOnce _ (Option.some_get rfl).symm

end ObserverActions

end LocHal.Core
