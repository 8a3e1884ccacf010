import LocHal.Gnss.AgpsHeapEvents

/-!
# `LocHal.Gnss.AgpsHeapSafety`: no subscriber is used after its deletion

`HeapSystem` is `AgpsManager` over machines with pointers. A step that faults sets `fault`, and
nothing happens after it. `MemorySafe` says that there was no fault, that every subscriber in a
list is live and that every other allocated one was deleted exactly once.

`releaseATL` finds a listed subscriber and, when the subscriber does not wait for the close,
deletes it with the pointer into the list as the key. When another subscriber follows in the list,
it is compared with the deleted one. `memorySafe_iff_guarded` is the exact condition, on the run of
`AgpsSystem` with the same calls: the subscriber that a release deletes is the last of its list.

`Rep` connects the levels. Every step of `HeapSystem` without a fault is the step of `AgpsSystem`
with the same label.

The machines of this level have lists of pointers, and a heap has the subscribers. Each function of
the source that follows a pointer does so in `HeapSystem`, too, and an access to a deleted cell has
no result. So the order of the accesses counts: `deleteSubscriber` compares each element of the list
with the subscriber that it is given, and that one is gone after the first match.

`Rep` says that the pointers of the lists lead to the values of the lists of `AgpsSystem`, and that
everything else is equal. It is kept by each function that does not fault (`Rep.requestATL`,
`Rep.release_cases`, `Rep.reportAtl`, `Rep.handleModemSSR` and the others), and `Rep.memorySafe`
reads the property off it. `Rep.call_fault` is the other direction: a release against the condition
has a fault. So the condition is about the run over values, where no pointer is left.
-/

set_option autoImplicit false

namespace LocHal.Gnss

open LabelledRun
open CellHeap (Heap Ptr Owns Updates)
open AgpsStateMachine (Sane)

/-- The manager over machines with pointers. `sms` are its members. -/
structure HeapSystem where
  sms : Nif → Option HeapStateMachine
  heap : Heap AgpsSubscriber
  msgQueue : List (ConnHandle × AGpsExtType)
  retryTimers : Nat
  fault : Bool

namespace HeapSystem

/-- The system after the constructor of `AgpsManager`. -/
def init : HeapSystem := ⟨fun _ => none, .empty, [], 0, false⟩

/-- The manager after its machine at `nif` has changed. -/
def setSm (s : HeapSystem) (nif : Nif) (m : HeapStateMachine) : HeapSystem :=
  { s with sms := fun other => if other = nif then some m else s.sms other }

/-- The calls `outs` to the outside. -/
def emit (s : HeapSystem) (outs : List AgpsOutput) : HeapSystem :=
  { s with
    msgQueue := s.msgQueue ++ outs.filterMap AgpsOutput.posted
    retryTimers := s.retryTimers + outs.count .locTimerStart }

/-- The manager with a machine at `nif`. -/
def create (s : HeapSystem) (nif : Nif) : HeapSystem :=
  if (s.sms nif).isNone then s.setSm nif (.new nif) else s

/-- `AgpsManager::createAgpsStateMachines`. -/
def createAgpsStateMachines (s : HeapSystem) (env : AgpsEnv) : HeapSystem :=
  let s' := s.create .internet
  if env.agpsCapable then
    let s'' := s'.create .agnss
    if (s''.sms .ds).isNone ∧ env.useEmergencyPdnForEmergencySupl then
      match env.mDSClientInitFn with
      | none => s''
      | some ret => (if ret ≠ 0 then s'' else s''.create .ds).emit [.dsClientInit false]
    else s''
  else s'

/-- `AgpsManager::getAgpsStateMachine`. -/
def getAgpsStateMachine (s : HeapSystem) (env : AgpsEnv) (agpsType : AGpsExtType) :
    HeapSystem × Nif :=
  if agpsType = locAgpsTypeInvalid ∨ agpsType = locAgpsTypeSupl then (s, .agnss)
  else if agpsType = locAgpsTypeSuplEs then
    if env.useEmergencyPdnForEmergencySupl then
      if (s.sms .ds).isNone then (s.createAgpsStateMachines env, .ds) else (s, .ds)
    else (s, .agnss)
  else (s, .internet)

/-- The machine at `nif` has processed an event. -/
def runSm (s : HeapSystem) (nif : Nif)
    (res : Option (HeapStateMachine × Heap AgpsSubscriber × List AgpsOutput)) :
    Option HeapSystem :=
  res.map fun (m, h, outs) => ({ s with heap := h }.setSm nif m).emit outs

/-- `AgpsManager::requestATL`. The local `subscriber` is a cell that is gone after the call. -/
def requestATL (s : HeapSystem) (env : AgpsEnv) (connHandle : ConnHandle)
    (agpsType : AGpsExtType) : Option HeapSystem :=
  let (s', nif) := s.getAgpsStateMachine env agpsType
  match s'.sms nif with
  | none =>
      some (s'.emit [.atlOpenStatusCb connHandle false none agpsApnBearerInvalid agpsType])
  | some m =>
      let subscriber := s'.heap.new ⟨connHandle, agpsType = locAgpsTypeSuplEs, false⟩
      s'.runSm nif do
        let (m', h, outs) ← m.processAgpsEventSubscribe subscriber.1 env subscriber.2
        let h' ← h.delete subscriber.2
        some (m', h', outs)

/-- The search of `releaseATL` over the members. -/
def findSubscriber (s : HeapSystem) (connHandle : ConnHandle) :
    List Nif → Option (Option (Nif × HeapStateMachine × Ptr))
  | [] => some none
  | nif :: rest =>
      match s.sms nif with
      | none => findSubscriber s connHandle rest
      | some m => do
          match ← m.getSubscriber s.heap connHandle with
          | none => findSubscriber s connHandle rest
          | some subscriber => some (some (nif, m, subscriber))

/-- `AgpsManager::releaseATL`. -/
def releaseATL (s : HeapSystem) (env : AgpsEnv) (connHandle : ConnHandle) : Option HeapSystem := do
  match ← s.findSubscriber connHandle [.agnss, .internet, .ds] with
  | none => some (s.emit [.atlCloseStatusCb connHandle false])
  | some (nif, m, subscriber) =>
      s.runSm nif (m.processAgpsEventUnsubscribe s.heap env subscriber)

/-- `AgpsManager::reportDataCallOpened` and `AgpsManager::reportDataCallClosed`. -/
def reportDataCall (s : HeapSystem) (env : AgpsEnv) (event : AgpsEvent) : Option HeapSystem :=
  match s.sms .ds with
  | none => some s
  | some m => s.runSm .ds (m.processReport s.heap env event)

/-- `AgpsManager::reportAtlOpenSuccess`, `reportAtlOpenFailed` and `reportAtlClosed`. A null
machine has no step, as in `AgpsSystem`. -/
def reportAtl (s : HeapSystem) (env : AgpsEnv) (agpsType : AGpsExtType) (event : AgpsEvent)
    (update : HeapStateMachine → HeapStateMachine) : Option (Option HeapSystem) :=
  let (s', nif) := s.getAgpsStateMachine env agpsType
  (s'.sms nif).map fun m => s'.runSm nif ((update m).processReport s'.heap env event)

/-- `dropAllSubscribers` for the machine at `nif`, if there is one. -/
def dropSm (s : HeapSystem) (nif : Nif) : Option HeapSystem :=
  match s.sms nif with
  | none => some s
  | some m => s.runSm nif ((m.dropAllSubscribers s.heap).map fun r => (r.1, r.2, []))

/-- `AgpsManager::handleModemSSR`. -/
def handleModemSSR (s : HeapSystem) (env : AgpsEnv) : Option HeapSystem := do
  let s₁ ← s.dropSm .agnss
  let s₂ ← s₁.dropSm .internet
  let s₃ ← s₂.dropSm .ds
  some (if env.useEmergencyPdnForEmergencySupl then
    s₃.emit [.dsClientStopDataCall, .dsClientCloseDataCall, .dsClientRelease, .dsClientInit true]
  else s₃)

/-- `delay_callback`, which runs `DSStateMachine::retryCallback`. -/
def delayCallback (s : HeapSystem) : Option (Option HeapSystem) :=
  match s.retryTimers, s.sms .ds with
  | n + 1, some m =>
      some ((m.retryCallback s.heap).map fun outs => { s with retryTimers := n }.emit outs)
  | _, _ => none

/-- `AgpsMsgRequestATL::proc` for the message at position `i`. -/
def procMsgRequestATL (s : HeapSystem) (env : AgpsEnv) (i : Nat) : Option (Option HeapSystem) :=
  (s.msgQueue[i]?).map fun (connHandle, agpsType) =>
    { s with msgQueue := s.msgQueue.eraseIdx i }.requestATL env connHandle agpsType

/-- One call: `none` when it cannot happen, and `some none` when it faults. -/
def call (s : HeapSystem) : AgpsCall × AgpsEnv → Option (Option HeapSystem)
  | (.createAgpsStateMachines, env) => some (some (s.createAgpsStateMachines env))
  | (.requestATL connHandle agpsType, env) => some (s.requestATL env connHandle agpsType)
  | (.procMsgRequestATL i, env) => s.procMsgRequestATL env i
  | (.releaseATL connHandle, env) => some (s.releaseATL env connHandle)
  | (.reportDataCallOpened, env) => some (s.reportDataCall env .granted)
  | (.reportDataCallClosed, env) => some (s.reportDataCall env .released)
  | (.reportAtlOpenSuccess agpsType apnName apnLen bearerType, env) =>
      s.reportAtl env agpsType .granted fun m =>
        { m with mBearer := bearerType, mAPN := apnName.map fun name => name.take apnLen }
  | (.reportAtlOpenFailed agpsType, env) => s.reportAtl env agpsType .denied id
  | (.reportAtlClosed agpsType, env) => s.reportAtl env agpsType .released id
  | (.handleModemSSR, env) => some (s.handleModemSSR env)
  | (.delayCallback, _) => s.delayCallback

/-- One step. -/
def step (s : HeapSystem) (i : AgpsCall × AgpsEnv) : Option HeapSystem :=
  if s.fault then none else (s.call i).map fun r => r.getD { s with fault := true }

/-- A machine lists the subscriber at `p`. -/
def Listed (s : HeapSystem) (p : Ptr) : Prop :=
  ∃ nif m, s.sms nif = some m ∧ p ∈ m.mSubscriberList

/-- There was no fault: no subscriber was read, written or deleted after it was deleted. A
subscriber is in one list once and not deleted, or it is in no list and was deleted exactly once. So
nothing is lost either. -/
structure MemorySafe (s : HeapSystem) : Prop where
  noFault : s.fault = false
  nodup : ∀ nif m, s.sms nif = some m → m.mSubscriberList.Nodup
  disjoint : ∀ nif nif' m m' p, s.sms nif = some m → s.sms nif' = some m' →
    p ∈ m.mSubscriberList → p ∈ m'.mSubscriberList → nif = nif'
  allocated : ∀ p, s.Listed p → p < s.heap.cells.length
  once : ∀ p, p < s.heap.cells.length →
    (s.Listed p ∧ s.heap.deletes p = some 0) ∨ (¬ s.Listed p ∧ s.heap.deletes p = some 1)

end HeapSystem

/-- The condition on one call: a release that deletes its subscriber deletes the last one of the
list. A subscriber that waits for the close is not deleted, and nobody is deleted in the released
state. -/
def AgpsSystem.DeletesLast (s : AgpsSystem) : AgpsCall × AgpsEnv → Prop
  | (.releaseATL connHandle, _) =>
      ∀ nif rest m sub, s.mgr.holders connHandle = nif :: rest → s.sm nif = some m →
        m.getSubscriber connHandle = some sub →
          m.mState = .released ∨ sub.mWaitForCloseComplete = true ∨
            m.mSubscriberList.getLast? = some sub
  | _ => True

namespace HeapSystem

/-! ### The two levels -/

variable {s t : HeapSystem} {a b : AgpsSystem} {vs : Nif → List AgpsSubscriber} {env : AgpsEnv}
  {nif : Nif} {m : HeapStateMachine}

/-- The system with pointers stands for `a`: the machine at `nif` lists the subscribers
`vs nif`, the lists share no cell, and no other cell is live. -/
structure Rep (s : HeapSystem) (a : AgpsSystem) (vs : Nif → List AgpsSubscriber) : Prop where
  sms : ∀ nif, a.sm nif = (s.sms nif).map fun m => m.withValues (vs nif)
  owns : ∀ nif m, s.sms nif = some m → Owns s.heap m.mSubscriberList (vs nif)
  disjoint : ∀ nif nif' m m' p, s.sms nif = some m → s.sms nif' = some m' →
    p ∈ m.mSubscriberList → p ∈ m'.mSubscriberList → nif = nif'
  live : ∀ p, (s.heap.read p).isSome → s.Listed p
  msgQueue : s.msgQueue = a.msgQueue
  retryTimers : s.retryTimers = a.retryTimers
  noFault : s.fault = false

theorem rep_init : Rep init .init fun _ => [] where
  sms := fun nif => by cases nif <;> rfl
  owns := fun _ _ hm => by cases hm
  disjoint := fun _ _ _ _ _ hm => by cases hm
  live := fun p hp => by simp [init] at hp
  msgQueue := rfl
  retryTimers := rfl
  noFault := rfl

/-- The history of the value level does not matter. -/
theorem Rep.congr (h : Rep s a vs) (hmgr : b.mgr = a.mgr) (hqueue : b.msgQueue = a.msgQueue)
    (htimers : b.retryTimers = a.retryTimers) : Rep s b vs where
  sms := fun nif => by
    show b.mgr.sm nif = _
    rw [hmgr]
    exact h.sms nif
  owns := h.owns
  disjoint := h.disjoint
  live := h.live
  msgQueue := h.msgQueue.trans hqueue.symm
  retryTimers := h.retryTimers.trans htimers.symm
  noFault := h.noFault

theorem Rep.note (h : Rep s a vs) (entry : AgpsLogEntry) : Rep s (a.note entry) vs :=
  h.congr rfl rfl rfl

/-- The same calls to the outside. -/
theorem Rep.emit (h : Rep s a vs) (sm : Option Nif) (outs : List AgpsOutput) :
    Rep (s.emit outs) (a.emit sm outs) vs where
  sms := h.sms
  owns := h.owns
  disjoint := h.disjoint
  live := h.live
  msgQueue := by
    show s.msgQueue ++ _ = a.msgQueue ++ _
    rw [h.msgQueue]
  retryTimers := by
    show s.retryTimers + _ = a.retryTimers + _
    rw [h.retryTimers]
  noFault := h.noFault

theorem Rep.sm_eq (h : Rep s a vs) (hm : s.sms nif = some m) :
    a.sm nif = some (m.withValues (vs nif)) := by
  rw [h.sms nif, hm]
  rfl

theorem Rep.isNone_iff (h : Rep s a vs) (nif : Nif) : (s.sms nif).isNone ↔ a.sm nif = none := by
  rw [h.sms nif, Option.map_eq_none_iff, Option.isNone_iff_eq_none]

/-- One machine has changed, and owns the cells of its new list. -/
theorem Rep.update (h : Rep s a vs) {l : List Ptr} (hl : ∀ m, s.sms nif = some m →
      m.mSubscriberList = l) (hnone : s.sms nif = none → l = [])
    {m' : HeapStateMachine} {h' : Heap AgpsSubscriber} {vs' : List AgpsSubscriber}
    (ho : Owns h' m'.mSubscriberList vs') (hu : Updates s.heap l h' m'.mSubscriberList) :
    Rep ({ s with heap := h' }.setSm nif m')
      { a with mgr := a.mgr.setSm nif (m'.withValues vs') }
      (fun other => if other = nif then vs' else vs other) := by
  -- the cells of another machine are live and not in `l`
  have hother : ∀ other m p, other ≠ nif → s.sms other = some m → p ∈ m.mSubscriberList →
      p ∉ l := by
    intro other m p hne hm hp hmem
    cases hsm : s.sms nif with
    | none =>
        rw [hnone hsm] at hmem
        cases hmem
    | some n =>
        rw [← hl n hsm] at hmem
        exact hne (h.disjoint other nif m n p hm hsm hp hmem)
  have hframe : ∀ other m p, other ≠ nif → s.sms other = some m → p ∈ m.mSubscriberList →
      p ∉ m'.mSubscriberList := by
    intro other m p hne hm hp
    obtain ⟨v, -, hv⟩ := (h.owns other m hm).read_of_mem hp
    exact (hu.frame p v (hother other m p hne hm hp) hv).2
  refine ⟨fun other => ?_, fun other m hm => ?_, fun i j n n' p hn hn' hp hp' => ?_, fun p hp => ?_,
    h.msgQueue, h.retryTimers, h.noFault⟩
  · by_cases heq : other = nif
    · subst heq
      show (a.mgr.setSm other (m'.withValues vs')).sm other = _
      simp [setSm]
    · show (a.mgr.setSm nif (m'.withValues vs')).sm other = _
      rw [AgpsManager.sm_setSm_of_ne _ heq]
      simp only [setSm, heq, if_false]
      exact h.sms other
  · by_cases heq : other = nif
    · subst heq
      simp only [setSm, if_true, Option.some.injEq] at hm
      simp only [if_true]
      rw [← hm]
      exact ho
    · simp only [setSm, heq, if_false] at hm
      simp only [heq, if_false]
      -- the frame keeps every cell of the other list
      exact (h.owns other m hm).frame fun p hp v hv =>
        (hu.frame p v (hother other m p heq hm hp) hv).1
  · by_cases hi : i = nif <;> by_cases hj : j = nif
    · exact hi.trans hj.symm
    · subst hi
      simp only [setSm, if_true, hj, if_false, Option.some.injEq] at hn hn'
      subst hn
      exact absurd hp (hframe j n' p hj hn' hp')
    · subst hj
      simp only [setSm, if_true, hi, if_false, Option.some.injEq] at hn hn'
      subst hn'
      exact absurd hp' (hframe i n p hi hn hp)
    · simp only [setSm, hi, hj, if_false] at hn hn'
      exact h.disjoint i j n n' p hn hn' hp hp'
  · rcases hu.live p hp with hmem | ⟨hlive, hnot⟩
    · exact ⟨nif, m', by simp [setSm], hmem⟩
    · obtain ⟨other, n, hn, hpn⟩ := h.live p hlive
      have hne : other ≠ nif := by
        rintro rfl
        rw [hl n hn] at hpn
        exact hnot hpn
      exact ⟨other, n, by simp [setSm, hne, hn], hpn⟩

/-- A machine that runs as the value level says. -/
theorem Rep.runSm (h : Rep s a vs) (hm : s.sms nif = some m)
    {res : Option (HeapStateMachine × Heap AgpsSubscriber × List AgpsOutput)}
    {value : AgpsStateMachine × List AgpsOutput}
    (hrun : HeapStateMachine.Runs s.heap m.mSubscriberList res value) :
    ∃ t vs', s.runSm nif res = some t ∧ Rep t (a.runSm nif value) vs' := by
  obtain ⟨m', h', outs, vs', hres, ho, hu, hvalue⟩ := hrun
  subst hvalue
  have hl : ∀ n, s.sms nif = some n → n.mSubscriberList = m.mSubscriberList := fun n hn => by
    cases hm.symm.trans hn
    rfl
  have hrep := h.update hl (fun hnone => by cases hnone.symm.trans hm) ho hu
  exact ⟨_, _, by rw [hres]; rfl, hrep.emit (some nif) outs⟩

/-- A machine that the look-up creates. -/
theorem Rep.create (h : Rep s a vs) (nif : Nif) :
    ∃ vs', Rep (s.create nif) { a with mgr := a.mgr.create nif } vs' := by
  unfold HeapSystem.create AgpsManager.create
  by_cases hnone : (s.sms nif).isNone = true
  · have hvnone : a.mgr.sm nif = none := (h.isNone_iff nif).mp hnone
    have hsnone : s.sms nif = none := Option.isNone_iff_eq_none.mp hnone
    rw [if_pos hnone, if_pos hvnone]
    have hnew : (HeapStateMachine.new nif).withValues [] = AgpsManager.newSm nif := by
      cases nif <;> rfl
    have howns : Owns s.heap (HeapStateMachine.new nif).mSubscriberList [] := .nil s.heap
    have hrep := h.update (fun m hm => by cases hsnone.symm.trans hm) (fun _ => rfl) howns
      (.refl s.heap [])
    rw [hnew] at hrep
    exact ⟨_, hrep⟩
  · have hvsome : a.mgr.sm nif ≠ none := fun heq => hnone ((h.isNone_iff nif).mpr heq)
    rw [if_neg hnone, if_neg hvsome]
    exact ⟨vs, h.congr rfl rfl rfl⟩

theorem Rep.createAgpsStateMachines (h : Rep s a vs) (env : AgpsEnv) :
    ∃ vs', Rep (s.createAgpsStateMachines env) (a.createAgpsStateMachines env) vs' := by
  obtain ⟨vs₁, h₁⟩ := h.create .internet
  obtain ⟨vs₂, h₂⟩ := h₁.create .agnss
  have hds := h₂.isNone_iff .ds
  unfold HeapSystem.createAgpsStateMachines AgpsSystem.createAgpsStateMachines
    AgpsManager.createAgpsStateMachines
  dsimp only
  cases env.agpsCapable with
  | false => exact ⟨vs₁, h₁.congr rfl (by simp) rfl⟩
  | true =>
      simp only [if_true]
      by_cases hcond : (((s.create .internet).create .agnss).sms .ds).isNone = true ∧
          env.useEmergencyPdnForEmergencySupl = true
      · have hvcond : ((a.mgr.create .internet).create .agnss).mDsNif = none ∧
            env.useEmergencyPdnForEmergencySupl = true := ⟨hds.mp hcond.1, hcond.2⟩
        rw [if_pos hcond, if_pos hvcond]
        cases env.mDSClientInitFn with
        | none => exact ⟨vs₂, h₂.congr rfl (by simp) rfl⟩
        | some ret =>
            dsimp only
            by_cases hret : ret ≠ 0
            · rw [if_pos hret, if_pos hret]
              exact ⟨vs₂, h₂.emit none [.dsClientInit false]⟩
            · obtain ⟨vs₃, h₃⟩ := h₂.create .ds
              rw [if_neg hret, if_neg hret]
              exact ⟨vs₃, h₃.emit none [.dsClientInit false]⟩
      · have hvcond : ¬ (((a.mgr.create .internet).create .agnss).mDsNif = none ∧
            env.useEmergencyPdnForEmergencySupl = true) :=
          fun hc => hcond ⟨hds.mpr hc.1, hc.2⟩
        rw [if_neg hcond, if_neg hvcond]
        exact ⟨vs₂, h₂.congr rfl (by simp) rfl⟩

theorem Rep.getAgpsStateMachine (h : Rep s a vs) (env : AgpsEnv) (agpsType : AGpsExtType) :
    ∃ vs', Rep (s.getAgpsStateMachine env agpsType).1 (a.getAgpsStateMachine env agpsType).1 vs' ∧
      (s.getAgpsStateMachine env agpsType).2 = (a.getAgpsStateMachine env agpsType).2 := by
  have hsame : Rep s (a.emit none []) vs := h.congr rfl (by simp) rfl
  have hds := h.isNone_iff .ds
  unfold HeapSystem.getAgpsStateMachine AgpsSystem.getAgpsStateMachine
    AgpsManager.getAgpsStateMachine
  by_cases hsupl : agpsType = locAgpsTypeInvalid ∨ agpsType = locAgpsTypeSupl
  · rw [if_pos hsupl, if_pos hsupl]
    exact ⟨vs, hsame, rfl⟩
  · rw [if_neg hsupl, if_neg hsupl]
    by_cases hes : agpsType = locAgpsTypeSuplEs
    · rw [if_pos hes, if_pos hes]
      cases env.useEmergencyPdnForEmergencySupl with
      | false => exact ⟨vs, hsame, rfl⟩
      | true =>
          simp only [if_true]
          by_cases hnone : (s.sms .ds).isNone = true
          · have hvnone : a.mgr.mDsNif = none := hds.mp hnone
            rw [if_pos hnone, if_pos hvnone]
            obtain ⟨vs', hrep⟩ := h.createAgpsStateMachines env
            exact ⟨vs', hrep, rfl⟩
          · have hvsome : ¬ a.mgr.mDsNif = none := fun heq => hnone (hds.mpr heq)
            rw [if_neg hnone, if_neg hvsome]
            exact ⟨vs, hsame, rfl⟩
    · rw [if_neg hes, if_neg hes]
      exact ⟨vs, hsame, rfl⟩

/-! ### The calls -/

/-- A call does on both levels the same, or cannot happen on either. -/
def SameCall (res : Option (Option HeapSystem)) (value : Option AgpsSystem) : Prop :=
  (res = none ∧ value = none) ∨
    ∃ t b vs, res = some (some t) ∧ value = some b ∧ Rep t b vs

theorem Rep.requestATL (h : Rep s a vs) (env : AgpsEnv) (connHandle : ConnHandle)
    (agpsType : AGpsExtType) (posted : Bool) :
    ∃ t vs', s.requestATL env connHandle agpsType = some t ∧
      Rep t (a.requestATL env connHandle agpsType posted) vs' := by
  obtain ⟨vs₁, h₁, hnif⟩ := h.getAgpsStateMachine env agpsType
  unfold HeapSystem.requestATL AgpsSystem.requestATL
  dsimp only
  rw [hnif]
  cases hm : (s.getAgpsStateMachine env agpsType).1.sms (a.getAgpsStateMachine env agpsType).2 with
  | none =>
      have hvm := (h₁.isNone_iff _).mp (by rw [hm]; rfl)
      rw [hvm]
      exact ⟨_, vs₁, rfl, (h₁.note _).emit none _⟩
  | some m =>
      rw [h₁.sm_eq hm]
      dsimp only
      have ho := h₁.owns _ m hm
      generalize (s.getAgpsStateMachine env agpsType).1 = s' at h₁ hm ho ⊢
      let sub : AgpsSubscriber := ⟨connHandle, agpsType = locAgpsTypeSuplEs, false⟩
      -- the local subscriber is a cell of its own during the event
      have hsub := Heap.read_new_self s'.heap sub
      obtain ⟨m', h', outs, vs', hrun, ho', hu, hvalue⟩ :=
        HeapStateMachine.processAgpsEventSubscribe_runs (ho.new sub) hsub env
      obtain ⟨hlive, hnot⟩ := hu.frame _ sub (ho.not_mem_new sub) hsub
      have hdel := Heap.delete_eq hlive
      have hruns : HeapStateMachine.Runs s'.heap m.mSubscriberList
          ((m.processAgpsEventSubscribe (s'.heap.new sub).1 env (s'.heap.new sub).2).bind fun r =>
            (r.2.1.delete (s'.heap.new sub).2).bind fun h'' => some (r.1, h'', r.2.2))
          ((m.withValues (vs₁ (a.getAgpsStateMachine env agpsType).2)).processAgpsEventSubscribe
            env sub) :=
        ⟨m', _, outs, vs', by simp [hrun, hdel], ho'.delete hnot hdel, hu.scoped hdel, hvalue⟩
      exact (h₁.note _).runSm hm hruns

/-- The search of `releaseATL` finds the first holder, and the pointer to its subscriber. -/
theorem Rep.findSubscriber (h : Rep s a vs) (connHandle : ConnHandle) :
    ∀ nifs : List Nif,
      let holders := nifs.filter fun nif =>
        (a.mgr.sm nif).any fun m => (m.getSubscriber connHandle).isSome
      (s.findSubscriber connHandle nifs = some none ∧ holders = []) ∨
      ∃ nif rest m p sub, s.findSubscriber connHandle nifs = some (some (nif, m, p)) ∧
        holders = nif :: rest ∧ s.sms nif = some m ∧ p ∈ m.mSubscriberList ∧
        s.heap.read p = some sub ∧ (m.withValues (vs nif)).getSubscriber connHandle = some sub := by
  intro nifs
  induction nifs with
  | nil => exact Or.inl ⟨rfl, rfl⟩
  | cons nif nifs ih =>
      dsimp only at ih ⊢
      cases hm : s.sms nif with
      | none =>
          have hvm : a.mgr.sm nif = none := (h.isNone_iff nif).mp (by rw [hm]; rfl)
          have hloop : s.findSubscriber connHandle (nif :: nifs)
              = s.findSubscriber connHandle nifs := by simp [HeapSystem.findSubscriber, hm]
          rw [hloop, List.filter_cons_of_neg (by simp [hvm])]
          exact ih
      | some m =>
          have hvm : a.mgr.sm nif = some (m.withValues (vs nif)) := h.sm_eq hm
          rcases HeapStateMachine.findLoop_cases (h.owns nif m hm)
            (fun sub => sub.mConnHandle = connHandle) with
            ⟨hloop, hfind⟩ | ⟨p, v, hloop, hp, hv, hfind⟩
          · -- the handle is not in this list
            have hget : m.getSubscriber s.heap connHandle = some none := hloop
            have hvget : (m.withValues (vs nif)).getSubscriber connHandle = none := hfind
            have hrest : s.findSubscriber connHandle (nif :: nifs)
                = s.findSubscriber connHandle nifs := by simp [HeapSystem.findSubscriber, hm, hget]
            rw [hrest, List.filter_cons_of_neg (by simp [hvm, hvget])]
            exact ih
          · have hget : m.getSubscriber s.heap connHandle = some (some p) := hloop
            have hvget : (m.withValues (vs nif)).getSubscriber connHandle = some v := hfind
            refine Or.inr ⟨nif, nifs.filter fun nif =>
              (a.mgr.sm nif).any fun m => (m.getSubscriber connHandle).isSome,
              m, p, v, ?_, ?_, hm, hp, hv, hvget⟩
            · simp [HeapSystem.findSubscriber, hm, hget]
            · exact List.filter_cons_of_pos (by simp [hvm, hvget])

/-- A release on both levels: nobody lists the handle, or the machine of the first holder
unsubscribes the subscriber. -/
theorem Rep.release_cases (h : Rep s a vs) (env : AgpsEnv) (connHandle : ConnHandle) :
    (s.releaseATL env connHandle = some (s.emit [.atlCloseStatusCb connHandle false]) ∧
      a.mgr.holders connHandle = [] ∧
      a.releaseATL env connHandle = (a.note (.releaseATL connHandle [])).emit none
        [.atlCloseStatusCb connHandle false]) ∨
    ∃ nif rest m p sub,
      s.releaseATL env connHandle = s.runSm nif (m.processAgpsEventUnsubscribe s.heap env p) ∧
      a.releaseATL env connHandle = (a.note (.releaseATL connHandle (nif :: rest))).runSm nif
        ((m.withValues (vs nif)).processAgpsEventUnsubscribe env sub) ∧
      a.mgr.holders connHandle = nif :: rest ∧ s.sms nif = some m ∧ p ∈ m.mSubscriberList ∧
      s.heap.read p = some sub ∧ (m.withValues (vs nif)).getSubscriber connHandle = some sub := by
  rcases h.findSubscriber connHandle [.agnss, .internet, .ds] with
    ⟨hfind, hholders⟩ | ⟨nif, rest, m, p, sub, hfind, hholders, hm, hp, hread, hget⟩
  · have hnone : a.mgr.holders connHandle = [] := hholders
    refine Or.inl ⟨?_, hnone, ?_⟩
    · simp [HeapSystem.releaseATL, hfind]
    · simp [AgpsSystem.releaseATL, hnone]
  · have hsome : a.mgr.holders connHandle = nif :: rest := hholders
    refine Or.inr ⟨nif, rest, m, p, sub, ?_, ?_, hsome, hm, hp, hread, hget⟩
    · simp [HeapSystem.releaseATL, hfind]
    · simp [AgpsSystem.releaseATL, hsome, h.sm_eq hm, hget]

theorem Rep.reportAtl (h : Rep s a vs) (env : AgpsEnv) (agpsType : AGpsExtType)
    (event : AgpsEvent) {update : HeapStateMachine → HeapStateMachine}
    {vupdate : AgpsStateMachine → AgpsStateMachine}
    (hlist : ∀ m, (update m).mSubscriberList = m.mSubscriberList)
    (hupdate : ∀ m l, (update m).withValues l = vupdate (m.withValues l)) :
    SameCall (s.reportAtl env agpsType event update) (a.reportAtl env agpsType event vupdate) := by
  obtain ⟨vs₁, h₁, hnif⟩ := h.getAgpsStateMachine env agpsType
  unfold HeapSystem.reportAtl AgpsSystem.reportAtl
  dsimp only
  rw [hnif]
  cases hm : (s.getAgpsStateMachine env agpsType).1.sms (a.getAgpsStateMachine env agpsType).2 with
  | none =>
      have hvm := (h₁.isNone_iff _).mp (by rw [hm]; rfl)
      rw [hvm]
      exact Or.inl ⟨rfl, rfl⟩
  | some m =>
      rw [h₁.sm_eq hm]
      have ho := h₁.owns _ m hm
      rw [← hlist m] at ho
      have hruns := HeapStateMachine.processReport_runs ho env event
      rw [hlist m, hupdate m] at hruns
      obtain ⟨t, vs', ht, hrep⟩ := (h₁.note _).runSm hm hruns
      exact Or.inr ⟨t, _, vs', by rw [Option.map_some, ht], rfl, hrep⟩

theorem Rep.reportDataCall (h : Rep s a vs) (env : AgpsEnv) (event : AgpsEvent) :
    ∃ t vs', s.reportDataCall env event = some t ∧ Rep t (a.reportDataCall env event) vs' := by
  unfold HeapSystem.reportDataCall AgpsSystem.reportDataCall
  cases hm : s.sms .ds with
  | none =>
      have hvm := (h.isNone_iff .ds).mp (by rw [hm]; rfl)
      rw [hvm]
      exact ⟨s, vs, rfl, h⟩
  | some m =>
      rw [h.sm_eq hm]
      have hruns := HeapStateMachine.processReport_runs (h.owns _ m hm) env event
      exact (h.note _).runSm hm hruns

/-- The value level of `dropSm`. -/
def dropValue (a : AgpsSystem) (nif : Nif) : AgpsSystem :=
  { a with mgr := (a.sm nif).elim a.mgr fun m => a.mgr.setSm nif m.dropAllSubscribers }

theorem Rep.dropSm (h : Rep s a vs) (nif : Nif) :
    ∃ t vs', s.dropSm nif = some t ∧ Rep t (dropValue a nif) vs' := by
  unfold HeapSystem.dropSm dropValue
  cases hm : s.sms nif with
  | none =>
      have hvm := (h.isNone_iff nif).mp (by rw [hm]; rfl)
      rw [hvm]
      exact ⟨s, vs, rfl, h.congr rfl rfl rfl⟩
  | some m =>
      rw [h.sm_eq hm]
      obtain ⟨h', hdrop, hu⟩ := HeapStateMachine.dropAllSubscribers_spec (h.owns _ m hm)
      have hruns : HeapStateMachine.Runs s.heap m.mSubscriberList
          ((m.dropAllSubscribers s.heap).map fun r => (r.1, r.2, []))
          ((m.withValues (vs nif)).dropAllSubscribers, []) :=
        ⟨{ m with mSubscriberList := [] }, h', [], [], by rw [hdrop]; rfl, .nil h', hu, rfl⟩
      obtain ⟨t, vs', ht, hrep⟩ := h.runSm hm hruns
      exact ⟨t, vs', ht, hrep.congr rfl (by simp) rfl⟩

theorem Rep.handleModemSSR (h : Rep s a vs) (env : AgpsEnv) :
    ∃ t vs', s.handleModemSSR env = some t ∧ Rep t (a.handleModemSSR env) vs' := by
  obtain ⟨s₁, vs₁, hs₁, h₁⟩ := h.dropSm .agnss
  obtain ⟨s₂, vs₂, hs₂, h₂⟩ := h₁.dropSm .internet
  obtain ⟨s₃, vs₃, hs₃, h₃⟩ := h₂.dropSm .ds
  -- one machine after the other is all three at once
  have hvalue : dropValue (dropValue (dropValue a .agnss) .internet) .ds
      = { a with mgr := {
          mAgnssNif := a.mgr.mAgnssNif.map .dropAllSubscribers
          mInternetNif := a.mgr.mInternetNif.map .dropAllSubscribers
          mDsNif := a.mgr.mDsNif.map .dropAllSubscribers } } := by
    obtain ⟨⟨agnss, internet, ds⟩, msgQueue, retryTimers, log⟩ := a
    cases agnss <;> cases internet <;> cases ds <;> rfl
  rw [hvalue] at h₃
  unfold HeapSystem.handleModemSSR AgpsSystem.handleModemSSR
  cases hflag : env.useEmergencyPdnForEmergencySupl with
  | true => exact ⟨_, vs₃, by simp [hs₁, hs₂, hs₃], h₃.emit none _⟩
  | false => exact ⟨s₃, vs₃, by simp [hs₁, hs₂, hs₃], h₃⟩

theorem Rep.delayCallback (h : Rep s a vs) : SameCall s.delayCallback a.delayCallback := by
  unfold HeapSystem.delayCallback AgpsSystem.delayCallback
  rw [← h.retryTimers]
  cases htimers : s.retryTimers with
  | zero => exact Or.inl ⟨rfl, rfl⟩
  | succ n =>
      cases hm : s.sms .ds with
      | none =>
          have hvm := (h.isNone_iff .ds).mp (by rw [hm]; rfl)
          rw [hvm]
          exact Or.inl ⟨rfl, rfl⟩
      | some m =>
          rw [h.sm_eq hm]
          have hretry := HeapStateMachine.retryCallback_eq (h.owns _ m hm)
          have htimer : Rep { s with retryTimers := n } { a with retryTimers := n } vs :=
            ⟨h.sms, h.owns, h.disjoint, h.live, h.msgQueue, rfl, h.noFault⟩
          refine Or.inr ⟨_, _, vs, ?_, rfl, htimer.emit (some .ds) _⟩
          simp [hretry]

theorem Rep.procMsgRequestATL (h : Rep s a vs) (env : AgpsEnv) (i : Nat) :
    SameCall (s.procMsgRequestATL env i) (a.procMsgRequestATL env i) := by
  unfold HeapSystem.procMsgRequestATL AgpsSystem.procMsgRequestATL
  rw [← h.msgQueue]
  cases hmsg : s.msgQueue[i]? with
  | none => exact Or.inl ⟨rfl, rfl⟩
  | some msg =>
      have hqueue : Rep { s with msgQueue := s.msgQueue.eraseIdx i }
          { a with msgQueue := s.msgQueue.eraseIdx i } vs :=
        ⟨h.sms, h.owns, h.disjoint, h.live, rfl, h.retryTimers, h.noFault⟩
      obtain ⟨t, vs', ht, hrep⟩ := hqueue.requestATL env msg.1 msg.2 true
      exact Or.inr ⟨t, _, vs', congrArg some ht, rfl, hrep⟩

/-- A call that meets the condition is the same on both levels. -/
theorem Rep.call_same (h : Rep s a vs) (hsane : ∀ nif m, a.sm nif = some m → Sane nif m)
    {call : AgpsCall} (hok : a.DeletesLast (call, env)) :
    SameCall (s.call (call, env)) (a.step (call, env)) := by
  cases call with
  | createAgpsStateMachines =>
      obtain ⟨vs', hrep⟩ := h.createAgpsStateMachines env
      exact Or.inr ⟨_, _, vs', rfl, rfl, hrep⟩
  | requestATL connHandle agpsType =>
      obtain ⟨t, vs', ht, hrep⟩ := h.requestATL env connHandle agpsType false
      exact Or.inr ⟨t, _, vs', congrArg some ht, rfl, hrep⟩
  | procMsgRequestATL i => exact h.procMsgRequestATL env i
  | releaseATL connHandle =>
      rcases h.release_cases env connHandle with ⟨hs, -, ha⟩ |
        ⟨nif, rest, m, p, sub, hs, ha, hholders, hm, hp, hread, hget⟩
      · refine Or.inr ⟨_, _, vs, congrArg some hs, congrArg some ha, ?_⟩
        exact (h.note _).emit none _
      · have hvm := h.sm_eq hm
        have hlast := hok nif rest _ sub hholders hvm hget
        have hruns := HeapStateMachine.processAgpsEventUnsubscribe_runs (h.owns nif m hm) hp hread
          (hsane nif _ hvm).list.nodup env hlast
        obtain ⟨t, vs', ht, hrep⟩ := (h.note (.releaseATL connHandle (nif :: rest))).runSm hm hruns
        exact Or.inr ⟨t, _, vs', congrArg some (hs.trans ht), congrArg some ha, hrep⟩
  | reportDataCallOpened =>
      obtain ⟨t, vs', ht, hrep⟩ := h.reportDataCall env .granted
      exact Or.inr ⟨t, _, vs', congrArg some ht, rfl, hrep⟩
  | reportDataCallClosed =>
      obtain ⟨t, vs', ht, hrep⟩ := h.reportDataCall env .released
      exact Or.inr ⟨t, _, vs', congrArg some ht, rfl, hrep⟩
  | reportAtlOpenSuccess agpsType apnName apnLen bearerType =>
      exact h.reportAtl env agpsType .granted (fun _ => rfl) (fun _ _ => rfl)
  | reportAtlOpenFailed agpsType =>
      exact h.reportAtl env agpsType .denied (fun _ => rfl) (fun _ _ => rfl)
  | reportAtlClosed agpsType =>
      exact h.reportAtl env agpsType .released (fun _ => rfl) (fun _ _ => rfl)
  | handleModemSSR =>
      obtain ⟨t, vs', ht, hrep⟩ := h.handleModemSSR env
      exact Or.inr ⟨t, _, vs', congrArg some ht, rfl, hrep⟩
  | delayCallback => exact h.delayCallback

/-- A call that does not meet the condition faults. -/
theorem Rep.call_fault (h : Rep s a vs) (hsane : ∀ nif m, a.sm nif = some m → Sane nif m)
    {call : AgpsCall} (hnot : ¬ a.DeletesLast (call, env)) : s.call (call, env) = some none := by
  cases call with
  | releaseATL connHandle =>
      simp only [AgpsSystem.DeletesLast, not_forall, not_or] at hnot
      obtain ⟨nif, rest, n, sub, hholders, hn, hget, hst, hwait, hlast⟩ := hnot
      rcases h.release_cases env connHandle with ⟨-, hnone, -⟩ |
        ⟨nif', rest', m, p, sub', hs, -, hholders', hm, hp, hread, hget'⟩
      · cases hholders.symm.trans hnone
      · -- both levels reach the same machine and the same subscriber
        cases hholders.symm.trans hholders'
        have hvm := h.sm_eq hm
        cases hn.symm.trans hvm
        cases hget.symm.trans hget'
        have hsm := hsane nif _ hvm
        have hstale := HeapStateMachine.processAgpsEventUnsubscribe_stale (h.owns nif m hm) hp hread
          hsm.list.nodup env hsm.list.valid hst ((Bool.not_eq_true _).mp hwait) hlast
        rw [hstale] at hs
        exact congrArg some hs
  | _ => exact absurd trivial hnot

/-! ### Every run -/

theorem Rep.memorySafe (h : Rep s a vs) : MemorySafe s where
  noFault := h.noFault
  nodup := fun nif m hm => (h.owns nif m hm).nodup
  disjoint := h.disjoint
  allocated := fun p hp => by
    obtain ⟨nif, m, hm, hmem⟩ := hp
    obtain ⟨v, -, hv⟩ := (h.owns nif m hm).read_of_mem hmem
    exact Heap.lt_of_read hv
  once := fun p hp => by
    have hdeletes := Heap.deletes_eq hp
    by_cases hlive : (s.heap.read p).isSome = true
    · rw [if_pos hlive] at hdeletes
      exact Or.inl ⟨h.live p hlive, hdeletes⟩
    · rw [if_neg hlive] at hdeletes
      refine Or.inr ⟨fun hlisted => ?_, hdeletes⟩
      obtain ⟨nif, m, hm, hmem⟩ := hlisted
      obtain ⟨v, -, hv⟩ := (h.owns nif m hm).read_of_mem hmem
      exact hlive (by rw [hv]; rfl)

/-- The two levels agree, and the machines of the value level are sane. -/
structure Related (s : HeapSystem) (a : AgpsSystem) : Prop where
  rep : ∃ vs, Rep s a vs
  sane : ∀ nif m, a.sm nif = some m → Sane nif m

/-- A step that meets the condition is the same on both levels. -/
theorem Related.step_cases (h : Related s a) {i : AgpsCall × AgpsEnv} (hok : a.DeletesLast i) :
    (s.step i = none ∧ a.step i = none) ∨
      ∃ t b vs, s.step i = some t ∧ a.step i = some b ∧ Rep t b vs := by
  obtain ⟨call, env⟩ := i
  obtain ⟨vs, hrep⟩ := h.rep
  unfold step
  rw [if_neg (by simp [hrep.noFault])]
  rcases hrep.call_same h.sane hok with ⟨hs, ha⟩ | ⟨t, b, vs', hs, ha, hrep'⟩
  · exact Or.inl ⟨by rw [hs]; rfl, ha⟩
  · exact Or.inr ⟨t, b, vs', by rw [hs]; rfl, ha, hrep'⟩

/-- A step that does not meet the condition faults. -/
theorem Related.step_fault (h : Related s a) {i : AgpsCall × AgpsEnv} (hnot : ¬ a.DeletesLast i) :
    s.step i = some { s with fault := true } := by
  obtain ⟨call, env⟩ := i
  obtain ⟨vs, hrep⟩ := h.rep
  unfold step
  rw [if_neg (by simp [hrep.noFault]), hrep.call_fault h.sane hnot]
  rfl

/-- The exact condition: a run over pointers is memory safe in every state if and only if, in the
run over values with the same calls, every release that deletes a subscriber deletes the last one
of its list. -/
theorem memorySafe_iff_guarded (calls : List (AgpsCall × AgpsEnv)) :
    Along step MemorySafe init calls
      ↔ Guarded AgpsSystem.step AgpsSystem.DeletesLast .init calls := by
  refine along_iff_guarded_of_sim (R := Related) (fun s a h => ?_) (fun s a i t h hok ht => ?_)
    (fun s a i t h ht hsafe => ?_) (fun s a i h hnone => ?_) calls init .init
    ⟨⟨_, rep_init⟩, AgpsSystem.sane_init⟩
  · obtain ⟨vs, hrep⟩ := h.rep
    exact hrep.memorySafe
  · rcases h.step_cases hok with ⟨hs, -⟩ | ⟨t', b, vs, hs, ha, hrep⟩
    · cases hs.symm.trans ht
    · cases hs.symm.trans ht
      exact ⟨b, ha, ⟨vs, hrep⟩, AgpsSystem.sane_step h.sane ha⟩
  · by_contra hnot
    cases (h.step_fault hnot).symm.trans ht
    cases hsafe.noFault
  · have hok : a.DeletesLast i := by
      by_contra hnot
      cases (h.step_fault hnot).symm.trans hnone
    rcases h.step_cases hok with ⟨-, ha⟩ | ⟨t, b, vs, hs, -⟩
    · exact ⟨hok, ha⟩
    · cases hs.symm.trans hnone

/-- The first of two subscribers of the AGNSS machine is released. -/
def releaseFirst : List (AgpsCall × AgpsEnv) :=
  [(.createAgpsStateMachines, .supl), (.requestATL 1 locAgpsTypeSupl, .supl),
    (.requestATL 2 locAgpsTypeSupl, .supl), (.releaseATL 1, .supl)]

/-- The second subscriber is compared with the first one after its deletion. -/
theorem releaseFirst_faults :
    ∃ s, run step init releaseFirst = some s ∧ s.fault = true := ⟨_, rfl, rfl⟩

end HeapSystem

end LocHal.Gnss
