import LocHal.Gnss.AgpsHeap

/-!
# `LocHal.Gnss.AgpsHeapEvents`: the methods with pointers refine the methods with values

Each method over pointers does what the method of `Agps.lean` does over the subscribers that the
pointers hold, and `Runs` says so: no fault, the list after the call owns the subscribers of the
value level, and no cell outside the list is touched. `deleteSubscriber` is the exception. It
faults when another subscriber follows the deleted one in the list
(`deleteSubscriber_stale`), and it runs when none does (`deleteSubscriber_last`).

The loops are the places where pointers and values differ, since an element is deleted while the
loop runs. `notifyAllSubscribers` takes the pointer out of the list with the subscriber and goes on
behind it, so the list of the pointers and the list of the values shrink together
(`notifyAllLoop_spec`). `deleteSubscriber` compares each element with a subscriber that may be
deleted by then, and this has no counterpart among the values.

So every lemma on a method ends with `Runs`, apart from those on the release, which have two: one
for the last subscriber of the list, and one for another (`processAgpsEventUnsubscribe_runs` and
`processAgpsEventUnsubscribe_stale`).
-/

set_option autoImplicit false

namespace LocHal.Gnss

open CellHeap (Heap Ptr Owns Updates)

namespace HeapStateMachine

variable {m : HeapStateMachine} {h : Heap AgpsSubscriber} {ps : List Ptr}
  {vs : List AgpsSubscriber} {sub : Ptr} {a : AgpsSubscriber}

/-- A method returns without a fault what the value level says, and the machine owns its list
again. `ps` is the list before the call. -/
def Runs (h : Heap AgpsSubscriber) (ps : List Ptr)
    (res : Option (HeapStateMachine × Heap AgpsSubscriber × List AgpsOutput))
    (value : AgpsStateMachine × List AgpsOutput) : Prop :=
  ∃ m' h' outs vs', res = some (m', h', outs) ∧ Owns h' m'.mSubscriberList vs' ∧
    Updates h ps h' m'.mSubscriberList ∧ value = (m'.withValues vs', outs)

/-- Nothing happens. -/
theorem Runs.idle (ho : Owns h m.mSubscriberList vs) (outs : List AgpsOutput) :
    Runs h m.mSubscriberList (some (m, h, outs)) (m.withValues vs, outs) :=
  ⟨m, h, outs, vs, rfl, ho, .refl h _, rfl⟩

@[simp] theorem withValues_list (m : HeapStateMachine) (l : List AgpsSubscriber) :
    (m.withValues l).mSubscriberList = l := rfl

@[simp] theorem withValues_mState (m : HeapStateMachine) (l : List AgpsSubscriber) :
    (m.withValues l).mState = m.mState := rfl

/-! ### Reading the list -/

/-- The loop of the searches finds what `List.find?` finds among the values. -/
theorem findLoop_cases (ho : Owns h ps vs) (test : AgpsSubscriber → Bool) :
    (findLoop h test ps = some none ∧ vs.find? test = none) ∨
      ∃ p v, findLoop h test ps = some (some p) ∧ p ∈ ps ∧ h.read p = some v ∧
        vs.find? test = some v := by
  have hreads := ho.reads
  clear ho
  induction hreads with
  | nil => exact Or.inl ⟨rfl, rfl⟩
  | cons hv _ ih =>
      rename_i p v rest vrest _
      cases htest : test v with
      | true =>
          -- the search ends here
          refine Or.inr ⟨p, v, ?_, List.mem_cons_self, hv, ?_⟩
          · simp [findLoop, hv, htest]
          · simp [htest]
      | false =>
          have hstep : findLoop h test (p :: rest) = findLoop h test rest := by
            simp [findLoop, hv, htest]
          have hfind : (v :: vrest).find? test = vrest.find? test := by simp [htest]
          rw [hstep, hfind]
          rcases ih with hnone | ⟨q, w, hloop, hmem, hw, hfound⟩
          · exact Or.inl hnone
          · exact Or.inr ⟨q, w, hloop, List.mem_cons_of_mem _ hmem, hw, hfound⟩

theorem anyActiveSubscribers_eq (ho : Owns h m.mSubscriberList vs) :
    m.anyActiveSubscribers h = some (m.withValues vs).anyActiveSubscribers := by
  show (findLoop h (fun s => !s.mIsInactive) m.mSubscriberList).map Option.isSome
    = some (vs.any fun s => !s.mIsInactive)
  rcases findLoop_cases ho (fun s => !s.mIsInactive) with
    ⟨hloop, hfind⟩ | ⟨p, v, hloop, -, -, hfind⟩
  · have hany : (vs.any fun s => !s.mIsInactive) = false := by
      rw [List.find?_eq_none] at hfind
      simpa using hfind
    rw [hloop, hany]
    rfl
  · have hany : (vs.any fun s => !s.mIsInactive) = true := by
      rw [List.any_eq_true]
      exact ⟨v, List.mem_of_find?_eq_some hfind, by simpa using List.find?_some hfind⟩
    rw [hloop, hany]
    rfl

theorem listedLoop_eq (ho : Owns h ps vs) (hsub : h.read sub = some a) :
    listedLoop h sub ps = some (vs.any fun s => s.mConnHandle = a.mConnHandle) := by
  have hreads := ho.reads
  clear ho
  induction hreads with
  | nil => rfl
  | cons hv _ ih =>
      rename_i p v rest vrest _
      by_cases heq : v.mConnHandle = a.mConnHandle
      · simp [listedLoop, hv, hsub, heq]
      · simp [listedLoop, hv, hsub, heq, ih]

/-! ### Notifications -/

/-- A notification reads the subscriber and changes `mRetries` at most. -/
theorem notifyEvent_eq (m : HeapStateMachine) (hsub : h.read sub = some a) (event : AgpsEvent) :
    ∃ m' outs, m.notifyEvent h event sub = some (m', outs) ∧
      m'.mSubscriberList = m.mSubscriberList ∧
      ∀ l, (m.withValues l).notifyEvent event a = (m'.withValues l, outs) := by
  refine ⟨{ m with mRetries := ((m.withValues []).notifyEvent event a).1.mRetries },
    ((m.withValues []).notifyEvent event a).2, by simp [notifyEvent, hsub], rfl, fun l => ?_⟩
  obtain ⟨cls, _, _, _, _, _, _⟩ := m
  cases cls <;> cases event <;> rfl

/-- The value level notifies in the same way when it does not delete. -/
theorem notifyEventToSubscriber_keep (n : AgpsStateMachine) (event : AgpsEvent)
    (s : AgpsSubscriber) : n.notifyEventToSubscriber event s false = n.notifyEvent event s := rfl

/-- The loop of `notifyAllSubscribers`. A deleted subscriber is not read again, since its pointer
has left the list. -/
theorem notifyAllLoop_spec (event : AgpsEvent) (delete : Bool) (type : AgpsNotificationType) :
    ∀ (ps : List Ptr) (m : HeapStateMachine) (h : Heap AgpsSubscriber) (vs : List AgpsSubscriber),
      Owns h ps vs →
      ∃ m' h' kept vkept outs,
        notifyAllLoop event delete type m h ps = some (m', h', kept, outs) ∧
        Owns h' kept vkept ∧ Updates h ps h' kept ∧
        ∀ l, AgpsStateMachine.notifyAllLoop event delete type (m.withValues l) vs
          = (m'.withValues l, vkept, outs) := by
  intro ps
  induction ps with
  | nil =>
      intro m h vs ho
      cases ho.reads
      exact ⟨m, h, [], [], [], rfl, .nil h, .refl h [], fun l => rfl⟩
  | cons p rest ih =>
      intro m h vs ho
      cases vs with
      | nil => cases ho.reads
      | cons v vrest =>
          obtain ⟨hp, hv, hrest⟩ := CellHeap.owns_cons.mp ho
          cases hsel : type.selects v with
          | false =>
              -- the subscriber stays, and the rest of the list is as before
              obtain ⟨m', h', kept, vkept, outs, hloop, ho', hu, hvalue⟩ := ih m h vrest hrest
              refine ⟨m', h', p :: kept, v :: vkept, outs, ?_,
                ho'.cons_of_updates hu hp hv, hu.cons p, fun l => ?_⟩
              · simp [notifyAllLoop, hv, hsel, hloop]
              · simp [AgpsStateMachine.notifyAllLoop, hsel, hvalue l]
          | true =>
              obtain ⟨m', outs, hnotify, -, hnotified⟩ := notifyEvent_eq m hv event
              cases delete with
              | false =>
                  obtain ⟨m'', h', kept, vkept, outs', hloop, ho', hu, hvalue⟩ :=
                    ih m' h vrest hrest
                  refine ⟨m'', h', p :: kept, v :: vkept, outs ++ outs', ?_,
                    ho'.cons_of_updates hu hp hv, hu.cons p, fun l => ?_⟩
                  · simp [notifyAllLoop, hv, hsel, hnotify, hloop]
                  · simp [AgpsStateMachine.notifyAllLoop, hsel, notifyEventToSubscriber_keep,
                      hnotified l, hvalue l]
              | true =>
                  -- the cell of the head is deleted, and the rest does not have its pointer
                  have hdel := Heap.delete_eq hv
                  obtain ⟨m'', h', kept, vkept, outs', hloop, ho', hu, hvalue⟩ :=
                    ih m' _ vrest (hrest.delete hp hdel)
                  refine ⟨m'', h', kept, vkept, outs ++ outs', ?_, ho',
                    (Updates.delete hdel (by simp)).trans hu, fun l => ?_⟩
                  · simp [notifyAllLoop, hv, hsel, hnotify, hdel, hloop]
                  · simp [AgpsStateMachine.notifyAllLoop, hsel, notifyEventToSubscriber_keep,
                      hnotified l, hvalue l]

theorem notifyAllSubscribers_runs (ho : Owns h m.mSubscriberList vs) (event : AgpsEvent)
    (delete : Bool) (type : AgpsNotificationType) :
    Runs h m.mSubscriberList (m.notifyAllSubscribers h event delete type)
      ((m.withValues vs).notifyAllSubscribers event delete type) := by
  obtain ⟨m', h', kept, vkept, outs, hloop, ho', hu, hvalue⟩ :=
    notifyAllLoop_spec event delete type m.mSubscriberList m h vs ho
  refine ⟨{ m' with mSubscriberList := kept }, h', outs, vkept, ?_, ho', hu, ?_⟩
  · simp [notifyAllSubscribers, hloop]
  · simp only [AgpsStateMachine.notifyAllSubscribers, withValues_list, hvalue vs]
    rfl

/-! ### The data connection -/

/-- A request reads the first active subscriber at most, and the list stays. -/
theorem requestOrReleaseDataConn_spec (ho : Owns h m.mSubscriberList vs) (env : AgpsEnv)
    (request : Bool) :
    ∃ m' outs ret, m.requestOrReleaseDataConn h env request = some (m', outs, ret) ∧
      m'.mSubscriberList = m.mSubscriberList ∧
      (m.withValues vs).requestOrReleaseDataConn env request
        = (m'.withValues vs, outs, ret) := by
  have hvcls : (m.withValues vs).cls = m.cls := rfl
  unfold requestOrReleaseDataConn AgpsStateMachine.requestOrReleaseDataConn
  rw [hvcls]
  cases m.cls with
  | agpsStateMachine => exact ⟨m, _, _, rfl, rfl, rfl⟩
  | dsStateMachine =>
      dsimp only
      split
      · exact ⟨m, _, _, rfl, rfl, rfl⟩
      · rcases findLoop_cases ho (fun s => s.mIsInactive = false) with
          ⟨hloop, hfind⟩ | ⟨p, v, hloop, -, hv, hfind⟩
        · -- no active subscriber
          have hfirst : m.getFirstSubscriber h false = some none := hloop
          have hvalue : (m.withValues vs).getFirstSubscriber false = none := hfind
          rw [hfirst, hvalue]
          exact ⟨m, _, _, rfl, rfl, rfl⟩
        · have hfirst : m.getFirstSubscriber h false = some (some p) := hloop
          have hvalue : (m.withValues vs).getFirstSubscriber false = some v := hfind
          -- a denial is told to one subscriber, on the heap as on the values
          have hdenied : ∀ n : HeapStateMachine, ∃ n' outs,
              n.notifyEvent h .denied p = some (n', outs) ∧
              n'.mSubscriberList = n.mSubscriberList ∧
              (n.withValues vs).notifyEvent .denied v = (n'.withValues vs, outs) := fun n => by
            obtain ⟨n', outs, hnotify, hlist, hnotified⟩ := notifyEvent_eq n hv .denied
            exact ⟨n', outs, hnotify, hlist, hnotified vs⟩
          rw [hfirst, hvalue]
          simp only [notifyEventToSubscriber_keep]
          cases env.mDSClientOpenAndStartDataCallFn with
          -- without a client the call fails at once
          | none =>
              obtain ⟨n', outs, hnotify, hlist, hnotified⟩ := hdenied m
              exact ⟨n', outs, -1, by simp [hnotify], hlist, by rw [hnotified]⟩
          | some ret =>
              dsimp only
              split
              · -- busy: a retry timer, or the fallback to SUPL after the last retry
                have hcount : (m.withValues vs).mRetries = m.mRetries := rfl
                rw [hcount]
                -- the machine after the failed attempt
                let busy : HeapStateMachine := ⟨.dsStateMachine, m.mAgpsType, m.mState,
                  m.mSubscriberList, m.mAPN, m.mBearer, m.mRetries + 1⟩
                split
                · obtain ⟨n', outs, hnotify, hlist, hnotified⟩ := hdenied busy
                  refine ⟨n', .dsClientOpenAndStartDataCall ret :: outs, ret, ?_, hlist, ?_⟩
                  · show (busy.notifyEvent h .denied p).bind _ = _
                    simp [hnotify]
                  · exact congrArg (fun r => (r.1, .dsClientOpenAndStartDataCall ret :: r.2, ret))
                      hnotified
                · split
                  · exact ⟨busy, _, _, rfl, rfl, rfl⟩
                  · exact ⟨busy, _, _, rfl, rfl, rfl⟩
              · split
                · obtain ⟨n', outs, hnotify, hlist, hnotified⟩ := hdenied m
                  refine ⟨n', .dsClientOpenAndStartDataCall ret :: outs, ret, ?_, hlist, ?_⟩
                  · simp [hnotify]
                  · rw [hnotified]
                · exact ⟨m, _, _, rfl, rfl, rfl⟩

/-! ### Adding and deleting -/

/-- The clone is a new cell at the end of the list. -/
theorem addSubscriber_spec (ho : Owns h m.mSubscriberList vs) (hsub : h.read sub = some a) :
    ∃ m' h' vs', m.addSubscriber h sub = some (m', h') ∧ Owns h' m'.mSubscriberList vs' ∧
      Updates h m.mSubscriberList h' m'.mSubscriberList ∧
      (m.withValues vs).addSubscriber a = m'.withValues vs' := by
  have hlisted := listedLoop_eq ho hsub
  cases hany : vs.any fun s => s.mConnHandle = a.mConnHandle with
  | true =>
      refine ⟨m, h, vs, ?_, ho, .refl h _, ?_⟩
      · simp [addSubscriber, hlisted, hany]
      · simp [AgpsStateMachine.addSubscriber, hany]
  | false =>
      refine ⟨{ m with mSubscriberList := m.mSubscriberList ++ [(h.new a).2] }, (h.new a).1,
        vs ++ [a], ?_, ho.push a, .push h _ a, ?_⟩
      · simp [addSubscriber, hlisted, hany, hsub]
      · simp only [AgpsStateMachine.addSubscriber, withValues_list, hany]
        rfl

/-- The loop of `deleteSubscriber` up to the deleted subscriber. -/
theorem deleteLoop_append (hsub : h.read sub = some a) (rest : List Ptr) :
    ∀ (pre : List Ptr) (vpre : List AgpsSubscriber),
      List.Forall₂ (fun p v => h.read p = some v) pre vpre →
      (∀ v ∈ vpre, v.mConnHandle ≠ a.mConnHandle) →
      deleteLoop sub h (pre ++ rest)
        = (deleteLoop sub h rest).map fun r => (r.1, pre ++ r.2) := by
  intro pre vpre hreads
  induction hreads with
  | nil =>
      intro _
      simp
  | cons hv _ ih =>
      rename_i p v tail vtail _
      intro hne
      have hhead : v.mConnHandle ≠ a.mConnHandle := hne v List.mem_cons_self
      have htail := ih fun w hw => hne w (List.mem_cons_of_mem _ hw)
      simp only [List.cons_append, deleteLoop, hv, hsub, hhead, htail, if_false,
        Option.bind_eq_bind, Option.bind_some]
      cases deleteLoop sub h rest with
      | none => rfl
      | some r => rfl

/-- The deleted subscriber is the last one. -/
theorem deleteLoop_self_last (hsub : h.read sub = some a) :
    deleteLoop sub h [sub] = (h.delete sub).map fun h' => (h', []) := by
  have hdel := Heap.delete_eq hsub
  simp [deleteLoop, hsub, hdel]

/-- Another subscriber follows: it is compared with the deleted one. -/
theorem deleteLoop_self_stale (hsub : h.read sub = some a) {q : Ptr} {rest : List Ptr} :
    deleteLoop sub h (sub :: q :: rest) = none := by
  have hdel := Heap.delete_eq hsub
  have hdead := Heap.read_of_delete hdel
  simp only [deleteLoop, hsub, hdel, Option.bind_eq_bind, Option.bind_some, if_true, hdead]
  cases Heap.read _ q with
  | none => rfl
  | some w => rfl

/-- Where a listed subscriber stands, when the handles of the list are different. -/
theorem split_of_listed (ho : Owns h ps vs) (hmem : sub ∈ ps) (hsub : h.read sub = some a)
    (hnodup : (vs.map AgpsSubscriber.mConnHandle).Nodup) :
    ∃ pre post vpre vpost, ps = pre ++ sub :: post ∧ vs = vpre ++ a :: vpost ∧
      Owns h pre vpre ∧ Owns h post vpost ∧ sub ∉ pre ∧ sub ∉ post ∧
      (∀ v ∈ vpre, v.mConnHandle ≠ a.mConnHandle) ∧
      (∀ v ∈ vpost, v.mConnHandle ≠ a.mConnHandle) := by
  obtain ⟨pre, post, vpre, v, vpost, hps, hvs, hread, hpre, hpost, hnpre, hnpost⟩ :=
    ho.split_of_mem hmem
  cases hsub.symm.trans hread
  refine ⟨pre, post, vpre, vpost, hps, hvs, hpre, hpost, hnpre, hnpost, ?_, ?_⟩
  · intro v hv heq
    rw [hvs, List.map_append, List.map_cons, List.nodup_append] at hnodup
    exact hnodup.2.2 _ (List.mem_map_of_mem hv) _ List.mem_cons_self heq
  · intro v hv heq
    rw [hvs, List.map_append, List.map_cons, List.nodup_append] at hnodup
    refine (List.nodup_cons.mp hnodup.2.1).1 ?_
    rw [← heq]
    exact List.mem_map_of_mem hv

/-- The deletion of the last subscriber of the list. -/
theorem deleteSubscriber_last (ho : Owns h m.mSubscriberList vs) (hmem : sub ∈ m.mSubscriberList)
    (hsub : h.read sub = some a) (hnodup : (vs.map AgpsSubscriber.mConnHandle).Nodup)
    (hlast : vs.getLast? = some a) :
    ∃ m' h' vs', m.deleteSubscriber h sub = some (m', h') ∧ Owns h' m'.mSubscriberList vs' ∧
      Updates h m.mSubscriberList h' m'.mSubscriberList ∧
      (m.withValues vs).deleteSubscriber a = m'.withValues vs' := by
  obtain ⟨pre, post, vpre, vpost, hps, hvs, hpre, hpost, hnpre, -, hne, hne'⟩ :=
    split_of_listed ho hmem hsub hnodup
  -- nothing follows the last subscriber
  have hnil : vpost = [] := by
    by_contra hcons
    obtain ⟨w, hw⟩ := List.getLast?_isSome.mpr hcons |> Option.isSome_iff_exists.mp
    have hlast' : vs.getLast? = some w := by
      rw [hvs, List.getLast?_append, List.getLast?_cons, hw]
      rfl
    cases hlast.symm.trans hlast'
    exact hne' a (List.mem_of_getLast? hw) rfl
  subst hnil
  have hpnil : post = [] := List.length_eq_zero_iff.mp hpost.length_eq
  subst hpnil
  have hdel := Heap.delete_eq hsub
  have hloop := deleteLoop_append hsub [sub] pre vpre hpre.reads hne
  rw [deleteLoop_self_last hsub, hdel] at hloop
  refine ⟨{ m with mSubscriberList := pre }, _, vpre, ?_, hpre.delete hnpre hdel,
    .delete hdel (by simp [hps, or_comm]), ?_⟩
  · simp [deleteSubscriber, hps, hloop]
  · have hfilter : (vpre ++ [a]).filter (fun s => s.mConnHandle ≠ a.mConnHandle) = vpre := by
      rw [List.filter_append, List.filter_eq_self.mpr (by simpa using hne)]
      simp
    have hdelete : (m.withValues vs).deleteSubscriber a
        = m.withValues (vs.filter fun s => s.mConnHandle ≠ a.mConnHandle) := rfl
    rw [hdelete, hvs, hfilter]
    rfl

/-- The deletion of a subscriber that another one follows in the list: the other one is compared
with a subscriber that is gone. -/
theorem deleteSubscriber_stale (ho : Owns h m.mSubscriberList vs) (hmem : sub ∈ m.mSubscriberList)
    (hsub : h.read sub = some a) (hnodup : (vs.map AgpsSubscriber.mConnHandle).Nodup)
    (hlast : vs.getLast? ≠ some a) : m.deleteSubscriber h sub = none := by
  obtain ⟨pre, post, vpre, vpost, hps, hvs, hpre, hpost, -, -, hne, -⟩ :=
    split_of_listed ho hmem hsub hnodup
  cases post with
  | nil =>
      -- the subscriber would be the last one
      cases hpost.reads
      exact absurd (by simp [hvs]) hlast
  | cons q rest =>
      have hloop := deleteLoop_append hsub (sub :: q :: rest) pre vpre hpre.reads hne
      rw [deleteLoop_self_stale hsub] at hloop
      simp [deleteSubscriber, hps, hloop]

/-! ### The events -/

theorem processAgpsEventSubscribe_runs (ho : Owns h m.mSubscriberList vs)
    (hsub : h.read sub = some a) (env : AgpsEnv) :
    Runs h m.mSubscriberList (m.processAgpsEventSubscribe h env sub)
      ((m.withValues vs).processAgpsEventSubscribe env a) := by
  -- three states only add the subscriber
  have hadd : Runs h m.mSubscriberList
      ((m.addSubscriber h sub).bind fun r => some (r.1, r.2, []))
      ((m.withValues vs).addSubscriber a, []) := by
    obtain ⟨m', h', vs', hadd, ho', hu, hvalue⟩ := addSubscriber_spec ho hsub
    exact ⟨m', h', [], vs', by rw [hadd]; rfl, ho', hu, by rw [hvalue]⟩
  unfold processAgpsEventSubscribe AgpsStateMachine.processAgpsEventSubscribe
  rw [withValues_mState]
  cases m.mState with
  | invalid => exact .idle ho []
  | pending => exact hadd
  | releasing => exact hadd
  | released =>
      obtain ⟨m', h', vs', hadd, ho', hu, hvalue⟩ := addSubscriber_spec ho hsub
      obtain ⟨m'', outs, ret, hreq, hlist, hvreq⟩ := requestOrReleaseDataConn_spec ho' env true
      rw [← hlist] at ho' hu
      by_cases hret : ret = 0
      · refine ⟨m''.transitionState .pending, h', outs, vs', ?_, ho', hu, ?_⟩
        · simp [hadd, hreq, hret]
        · simp only [hvalue, hvreq, hret, if_true]
          rfl
      · refine ⟨m'', h', outs, vs', ?_, ho', hu, ?_⟩
        · simp [hadd, hreq, hret]
        · simp only [hvalue, hvreq, hret, if_false]
  | acquired =>
      obtain ⟨m', outs, hnotify, hlist, hnotified⟩ := notifyEvent_eq m hsub .granted
      rw [← hlist] at ho
      obtain ⟨m'', h', vs', hadd, ho', hu, hvalue⟩ := addSubscriber_spec ho hsub
      rw [hlist] at hu
      refine ⟨m'', h', outs, vs', ?_, ho', hu, ?_⟩
      · simp [hnotify, hadd]
      · simp only [notifyEventToSubscriber_keep, hnotified vs, hvalue]

/-- The subscriber of `releaseATL` becomes inactive. -/
theorem markInactive_spec (ho : Owns h ps vs) (hmem : sub ∈ ps) (hsub : h.read sub = some a)
    (hnodup : (vs.map AgpsSubscriber.mConnHandle).Nodup) :
    ∃ h', markInactive h sub = some h' ∧
      Owns h' ps (AgpsStateMachine.setInactive a.mConnHandle vs) ∧ Updates h ps h' ps := by
  obtain ⟨pre, post, vpre, vpost, hps, hvs, hpre, hpost, hnpre, hnpost, hne, -⟩ :=
    split_of_listed ho hmem hsub hnodup
  have hset : ∀ l : List AgpsSubscriber, (∀ v ∈ l, v.mConnHandle ≠ a.mConnHandle) →
      AgpsStateMachine.setInactive a.mConnHandle (l ++ a :: vpost)
        = l ++ { a with mIsInactive := true } :: vpost := by
    intro l
    induction l with
    | nil => intro _; simp [AgpsStateMachine.setInactive]
    | cons v l ih =>
        intro hl
        have hv := hl v List.mem_cons_self
        have hrest := ih fun w hw => hl w (List.mem_cons_of_mem _ hw)
        simp [AgpsStateMachine.setInactive, hv, hrest]
  have hzero : (⟨{ a with mIsInactive := true }, 0⟩ : CellHeap.Cell AgpsSubscriber).deletes ≤ 1 :=
    Nat.zero_le 1
  refine ⟨h.set sub ⟨{ a with mIsInactive := true }, 0⟩ hzero, ?_, ⟨ho.nodup, ?_⟩, .set _ hmem⟩
  · simp [markInactive, hsub, Heap.write_eq _ hsub]
  · rw [hvs, hset vpre hne, hps]
    refine List.rel_append (hpre.set_of_not_mem hzero hnpre).reads (.cons ?_ ?_)
    · rw [Heap.read_set_self _ (Heap.lt_of_read hsub)]
      rfl
    · exact (hpost.set_of_not_mem hzero hnpost).reads

theorem unsubscribeCurrent_runs (ho : Owns h m.mSubscriberList vs) (hmem : sub ∈ m.mSubscriberList)
    (hsub : h.read sub = some a) (hnodup : (vs.map AgpsSubscriber.mConnHandle).Nodup)
    (hok : a.mWaitForCloseComplete = true ∨ vs.getLast? = some a) :
    Runs h m.mSubscriberList (m.unsubscribeCurrent h sub)
      ((m.withValues vs).unsubscribeCurrent a) := by
  cases hwait : a.mWaitForCloseComplete with
  | true =>
      obtain ⟨h', hmark, ho', hu⟩ := markInactive_spec ho hmem hsub hnodup
      refine ⟨m, h', [], _, ?_, ho', hu, ?_⟩
      · simp [unsubscribeCurrent, hsub, hwait, hmark]
      · simp [AgpsStateMachine.unsubscribeCurrent, hwait, AgpsStateMachine.markInactive, withValues]
  | false =>
      have hlast := hok.resolve_left (by simp [hwait])
      obtain ⟨m', outs, hnotify, hlist, hnotified⟩ := notifyEvent_eq m hsub .unsubscribe
      rw [← hlist] at ho hmem
      obtain ⟨m'', h', vs', hdelete, ho', hu, hvalue⟩ :=
        deleteSubscriber_last ho hmem hsub hnodup hlast
      rw [hlist] at hu
      refine ⟨m'', h', outs, vs', ?_, ho', hu, ?_⟩
      · simp [unsubscribeCurrent, hsub, hwait, hnotify, hdelete]
      · simp [AgpsStateMachine.unsubscribeCurrent, hwait,
          AgpsStateMachine.notifyEventToSubscriber, hnotified vs, hvalue]

/-- The deletion of a subscriber that is not the last one faults. -/
theorem unsubscribeCurrent_stale (ho : Owns h m.mSubscriberList vs) (hmem : sub ∈ m.mSubscriberList)
    (hsub : h.read sub = some a) (hnodup : (vs.map AgpsSubscriber.mConnHandle).Nodup)
    (hwait : a.mWaitForCloseComplete = false) (hlast : vs.getLast? ≠ some a) :
    m.unsubscribeCurrent h sub = none := by
  obtain ⟨m', outs, hnotify, hlist, -⟩ := notifyEvent_eq m hsub .unsubscribe
  rw [← hlist] at ho hmem
  have hdelete := deleteSubscriber_stale ho hmem hsub hnodup hlast
  simp [unsubscribeCurrent, hsub, hwait, hnotify, hdelete]

theorem isEmpty_eq (ho : Owns h ps vs) : ps.isEmpty = vs.isEmpty := by
  cases ho.reads with
  | nil => rfl
  | cons _ _ => rfl

theorem releaseUnused_spec (ho : Owns h m.mSubscriberList vs) (env : AgpsEnv) :
    ∃ m' outs, m.releaseUnused h env = some (m', outs) ∧
      m'.mSubscriberList = m.mSubscriberList ∧
      (m.withValues vs).releaseUnused env = (m'.withValues vs, outs) := by
  have hrelease : ∀ st, ∃ m' outs ret,
      (m.transitionState st).requestOrReleaseDataConn h env false = some (m', outs, ret) ∧
      m'.mSubscriberList = m.mSubscriberList ∧
      ((m.withValues vs).transitionState st).requestOrReleaseDataConn env false
        = (m'.withValues vs, outs, ret) := fun st =>
    requestOrReleaseDataConn_spec (m := m.transitionState st) ho env false
  have hempty := isEmpty_eq ho
  have hactive := anyActiveSubscribers_eq ho
  unfold releaseUnused AgpsStateMachine.releaseUnused
  rw [withValues_list, hempty]
  cases vs.isEmpty with
  | true =>
      obtain ⟨m', outs, ret, hreq, hlist, hvalue⟩ := hrelease .released
      exact ⟨m', outs, by simp [hreq], hlist, by simp [hvalue]⟩
  | false =>
      rw [hactive]
      cases (m.withValues vs).anyActiveSubscribers with
      | true => exact ⟨m, [], rfl, rfl, rfl⟩
      | false =>
          obtain ⟨m', outs, ret, hreq, hlist, hvalue⟩ := hrelease .releasing
          exact ⟨m', outs, by simp [hreq], hlist, by simp [hvalue]⟩

/-- An unsubscription runs when it does not delete the subscriber, or deletes the last one. -/
theorem processAgpsEventUnsubscribe_runs (ho : Owns h m.mSubscriberList vs)
    (hmem : sub ∈ m.mSubscriberList) (hsub : h.read sub = some a)
    (hnodup : (vs.map AgpsSubscriber.mConnHandle).Nodup) (env : AgpsEnv)
    (hok : m.mState = .released ∨ a.mWaitForCloseComplete = true ∨ vs.getLast? = some a) :
    Runs h m.mSubscriberList (m.processAgpsEventUnsubscribe h env sub)
      ((m.withValues vs).processAgpsEventUnsubscribe env a) := by
  -- the pending and the acquired state share their branch
  have hrelease : m.mState ≠ .released → Runs h m.mSubscriberList
      ((m.unsubscribeCurrent h sub).bind fun r =>
        (r.1.releaseUnused r.2.1 env).bind fun r' => some (r'.1, r.2.1, r.2.2 ++ r'.2))
      (let r := (m.withValues vs).unsubscribeCurrent a
       let r' := r.1.releaseUnused env
       (r'.1, r.2 ++ r'.2)) := fun hst => by
    obtain ⟨m', h', outs, vs', hrun, ho', hu, hvalue⟩ :=
      unsubscribeCurrent_runs ho hmem hsub hnodup (hok.resolve_left hst)
    obtain ⟨m'', outs', hunused, hlist, hvalue'⟩ := releaseUnused_spec ho' env
    rw [← hlist] at ho' hu
    exact ⟨m'', h', outs ++ outs', vs', by simp [hrun, hunused], ho', hu,
      by simp [hvalue, hvalue']⟩
  unfold processAgpsEventUnsubscribe AgpsStateMachine.processAgpsEventUnsubscribe
  rw [withValues_mState]
  cases hst : m.mState with
  | invalid => exact .idle ho []
  | pending => exact hrelease (by simp [hst])
  | acquired => exact hrelease (by simp [hst])
  | released =>
      obtain ⟨m', outs, hnotify, hlist, hnotified⟩ := notifyEvent_eq m hsub .unsubscribe
      have hrefl := Updates.refl h m.mSubscriberList
      rw [← hlist] at ho
      refine ⟨m', h, outs, vs, by simp [hnotify], ho, by rw [hlist]; exact hrefl, ?_⟩
      simp only [notifyEventToSubscriber_keep, hnotified vs]
  | releasing =>
      obtain ⟨m', h', outs, vs', hrun, ho', hu, hvalue⟩ :=
        unsubscribeCurrent_runs ho hmem hsub hnodup (hok.resolve_left (by simp [hst]))
      have hempty := isEmpty_eq ho'
      refine ⟨if m'.mSubscriberList.isEmpty then m'.transitionState .released else m', h', outs,
        vs', by simp [hrun], ?_, ?_, ?_⟩
      · split <;> exact ho'
      · split <;> exact hu
      · simp only [hvalue, withValues_list, hempty]
        split <;> rfl

/-- An unsubscription that deletes a subscriber which is not the last one faults. -/
theorem processAgpsEventUnsubscribe_stale (ho : Owns h m.mSubscriberList vs)
    (hmem : sub ∈ m.mSubscriberList) (hsub : h.read sub = some a)
    (hnodup : (vs.map AgpsSubscriber.mConnHandle).Nodup) (env : AgpsEnv)
    (hvalid : m.mState ≠ .invalid) (hst : m.mState ≠ .released)
    (hwait : a.mWaitForCloseComplete = false) (hlast : vs.getLast? ≠ some a) :
    m.processAgpsEventUnsubscribe h env sub = none := by
  have hstale := unsubscribeCurrent_stale ho hmem hsub hnodup hwait hlast
  unfold processAgpsEventUnsubscribe
  cases hcase : m.mState with
  | invalid => exact absurd hcase hvalid
  | released => exact absurd hcase hst
  | _ => simp [hstale]

theorem finishReleasing_runs (ho : Owns h m.mSubscriberList vs) (env : AgpsEnv) :
    Runs h m.mSubscriberList (m.finishReleasing h env) ((m.withValues vs).finishReleasing env) := by
  obtain ⟨m', h', outs, vs', hnotify, ho', hu, hvalue⟩ :=
    notifyAllSubscribers_runs ho .released true .forInactiveSubscribers
  have hactive := anyActiveSubscribers_eq ho'
  cases hany : (m'.withValues vs').anyActiveSubscribers with
  | true =>
      obtain ⟨m'', outs', ret, hreq, hlist, hvreq⟩ :=
        requestOrReleaseDataConn_spec (m := m'.transitionState .pending) ho' env true
      have hvreq' : ((m'.withValues vs').transitionState .pending).requestOrReleaseDataConn env true
          = (m''.withValues vs', outs', ret) := hvreq
      have hlist' : m''.mSubscriberList = m'.mSubscriberList := hlist
      rw [← hlist'] at ho' hu
      refine ⟨m'', h', outs ++ outs', vs', ?_, ho', hu, ?_⟩
      · simp [finishReleasing, hnotify, hactive, hany, hreq]
      · simp [AgpsStateMachine.finishReleasing, hvalue, hany, hvreq']
  | false =>
      refine ⟨m'.transitionState .released, h', outs, vs', ?_, ho', hu, ?_⟩
      · simp [finishReleasing, hnotify, hactive, hany]
      · simp only [AgpsStateMachine.finishReleasing, hvalue, hany]
        rfl

/-- A report runs without a fault. -/
theorem processReport_runs (ho : Owns h m.mSubscriberList vs) (env : AgpsEnv) (event : AgpsEvent) :
    Runs h m.mSubscriberList (m.processReport h env event)
      ((m.withValues vs).processReport env event) := by
  have hidle : Runs h m.mSubscriberList (some (m, h, [])) (m.withValues vs, []) := .idle ho []
  have hnotify : ∀ st ev delete type, Runs h m.mSubscriberList
      ((m.transitionState st).notifyAllSubscribers h ev delete type)
      (((m.withValues vs).transitionState st).notifyAllSubscribers ev delete type) :=
    fun st ev delete type =>
      notifyAllSubscribers_runs (m := m.transitionState st) ho ev delete type
  have hfinish := finishReleasing_runs ho env
  have htranslate : (m.withValues vs).translateEvent event = m.translateEvent event := rfl
  unfold processReport AgpsStateMachine.processReport
  rw [htranslate]
  cases m.translateEvent event with
  | granted =>
      unfold processAgpsEventGranted AgpsStateMachine.processAgpsEventGranted
      rw [withValues_mState]
      cases m.mState with
      | pending => exact hnotify .acquired .granted false .forActiveSubscribers
      | _ => exact hidle
  | released =>
      unfold processAgpsEventReleased AgpsStateMachine.processAgpsEventReleased
      rw [withValues_mState]
      cases m.mState with
      | acquired => exact hnotify .released .released true .forAllSubscribers
      | releasing => exact hfinish
      | _ => exact hidle
  | denied =>
      unfold processAgpsEventDenied AgpsStateMachine.processAgpsEventDenied
      rw [withValues_mState]
      cases m.mState with
      | pending => exact hnotify .released .denied true .forAllSubscribers
      | releasing => exact hfinish
      | _ => exact hidle
  | _ => exact hidle

/-- The retry reads the first active subscriber. -/
theorem retryCallback_eq (ho : Owns h m.mSubscriberList vs) :
    m.retryCallback h = some (m.withValues vs).retryCallback := by
  unfold retryCallback AgpsStateMachine.retryCallback
  rcases findLoop_cases ho (fun s => s.mIsInactive = false) with
    ⟨hloop, hfind⟩ | ⟨p, v, hloop, -, hv, hfind⟩
  · have hfirst : m.getFirstSubscriber h false = some none := hloop
    have hvalue : (m.withValues vs).getFirstSubscriber false = none := hfind
    rw [hfirst, hvalue]
    rfl
  · have hfirst : m.getFirstSubscriber h false = some (some p) := hloop
    have hvalue : (m.withValues vs).getFirstSubscriber false = some v := hfind
    rw [hfirst, hvalue]
    simp [hv]

/-- A restart deletes every subscriber of the list. -/
theorem dropAllSubscribers_spec (ho : Owns h m.mSubscriberList vs) :
    ∃ h', m.dropAllSubscribers h = some ({ m with mSubscriberList := [] }, h') ∧
      Updates h m.mSubscriberList h' [] := by
  have hloop : ∀ (ps : List Ptr) (vs : List AgpsSubscriber) (h : Heap AgpsSubscriber),
      Owns h ps vs → ∃ h', dropLoop h ps = some h' ∧ Updates h ps h' [] := by
    intro ps
    induction ps with
    | nil => intro vs h _; exact ⟨h, rfl, .refl h []⟩
    | cons p rest ih =>
        intro vs h ho
        cases vs with
        | nil => cases ho.reads
        | cons v vrest =>
            obtain ⟨hp, hv, hrest⟩ := CellHeap.owns_cons.mp ho
            have hdel := Heap.delete_eq hv
            obtain ⟨h', hdrop, hu⟩ := ih vrest _ (hrest.delete hp hdel)
            exact ⟨h', by simp [dropLoop, hdel, hdrop],
              (Updates.delete hdel (by simp)).trans hu⟩
  obtain ⟨h', hdrop, hu⟩ := hloop m.mSubscriberList vs h ho
  exact ⟨h', by simp [dropAllSubscribers, hdrop], hu⟩

end HeapStateMachine

end LocHal.Gnss
