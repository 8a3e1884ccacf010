import LocHal.Lib.LabelledRun
import LocHal.Util.LocUnorderedSetMap

/-!
# `LocHal.Core.SystemStatusOsObserver`: the subscriptions of `SystemStatusOsObserver.cpp`

`SystemStatusOsObserver` keeps the subscriptions twice: the items of each client, and the clients
of each item. A call of the `IDataItemSubscription` interface becomes a message, and the messages
are processed one after the other, so a step is one call with its message. The types of the
clients and of the item identifiers are parameters. A null client is `none`.

`sent` records what the subscription object of the framework is told. The cached data items that
a client is sent after a subscription are left out; they change no map.

`LocUnorderedSetMap::trimOrRemove` reads the key of an entry that it has just erased, and these keys
become the items of `IDataItemSubscription::unsubscribe`. So a message carries `freed`, the values
that the freed entries of `mDataItemToClients` have when they are read. The maps do not depend on
it, and `inverse_iff_guarded` holds for every `freed`; what the framework is told does
(`LocHal.Core.FrameworkMirror`).

`updateSubscription` takes the result of `LocUnorderedSetMap::update` for the items that the
client gives up, and it is the items that the client keeps. So an update of a client that has a
subscription breaks the agreement of the maps: the items that it keeps lose the client, and the
items that it gives up keep it (`not_inverse_update`). `inverse_iff_guarded` is the exact
condition over every run: the maps are mutually inverse in every state if and only if no such
update is processed.
-/

set_option autoImplicit false

namespace LocHal.Core

open LabelledRun
open LocHal.Util (LocUnorderedSetMap)

/-- A call of the subscription object of the framework. -/
inductive FrameworkSubscription (δ : Type) where
  | subscribe (l : List δ)
  | requestData (l : List δ)
  | unsubscribe (l : List δ)
  deriving DecidableEq, Repr

/-- `SystemStatusOsObserver`. `mSubscriptionObj` says whether the pointer of the context is
set. -/
structure SystemStatusOsObserver (κ δ : Type) where
  mSubscriptionObj : Bool
  mClientToDataItems : LocUnorderedSetMap κ δ
  mDataItemToClients : LocUnorderedSetMap δ κ
  sent : List (FrameworkSubscription δ)
  deriving DecidableEq

/-- The calls of the interface. -/
inductive SubscriptionCall (κ δ : Type) where
  | setSubscriptionObj
  | subscribe (l : List δ) (client : Option κ)
  | requestData (l : List δ) (client : Option κ)
  | updateSubscription (l : List δ) (client : Option κ)
  | unsubscribe (l : List δ) (client : Option κ)
  | unsubscribeAll (client : Option κ)
  deriving DecidableEq, Repr

/-- A call with what the memory holds while its message is processed: `freed d` is read in place of
the key `d` when the entry of `d` in `mDataItemToClients` has been erased. -/
structure SubscriptionMessage (κ δ : Type) where
  call : SubscriptionCall κ δ
  freed : δ → δ

namespace SystemStatusOsObserver

variable {κ δ : Type} [DecidableEq κ] [DecidableEq δ]

/-- The constructor. -/
def new : SystemStatusOsObserver κ δ := ⟨false, .new, .new, []⟩

/-- `containerTransfer` from a list to a set. -/
def toSet (l : List δ) : UnorderedSet δ := l.foldl .insert ∅

/-- `containerTransfer` from a set to a list. Every element goes to the front. -/
def toList (s : UnorderedSet δ) : List δ := s.toList.reverse

/-- A call of the subscription object, when it is set and there is an item to name. -/
def send (s : SystemStatusOsObserver κ δ) (items : UnorderedSet δ)
    (call : List δ → FrameworkSubscription δ) : SystemStatusOsObserver κ δ :=
  if s.mSubscriptionObj && !items.isEmpty then { s with sent := s.sent ++ [call (toList items)] }
  else s

/-- `SetSubsObj::proc`. -/
def setSubscriptionObj (s : SystemStatusOsObserver κ δ) : SystemStatusOsObserver κ δ :=
  let s' := { s with mSubscriptionObj := true }
  if s'.mDataItemToClients.empty then s'
  else
    let dis := toList s'.mDataItemToClients.getKeys
    { s' with sent := s'.sent ++ [.subscribe dis, .requestData dis] }

/-- `HandleSubscribeReq::proc`. -/
def handleSubscribeReq (s : SystemStatusOsObserver κ δ) (mDataItemSet : UnorderedSet δ)
    (mClient : κ) (mToRequestData : Bool) : SystemStatusOsObserver κ δ :=
  let (dataItemToClients, dataItemsToSubscribe) :=
    s.mDataItemToClients.addKeys mDataItemSet (.singleton mClient) ∅
  { s with
    mDataItemToClients := dataItemToClients
    mClientToDataItems := (s.mClientToDataItems.add mClient mDataItemSet).1
  }.send dataItemsToSubscribe (if mToRequestData then .requestData else .subscribe)

/-- `HandleUpdateSubscriptionReq::proc`. -/
def handleUpdateSubscriptionReq (s : SystemStatusOsObserver κ δ) (freed : δ → δ)
    (mDataItemSet : UnorderedSet δ) (mClient : κ) : SystemStatusOsObserver κ δ :=
  let (clientToDataItems, goneVals, mDataItemSet') :=
    s.mClientToDataItems.update mClient mDataItemSet
  let (dataItemToClients, dataItemsToUnsubscribe, _) :=
    s.mDataItemToClients.trimOrRemove freed goneVals (.singleton mClient) ∅ ∅
  let (dataItemToClients', dataItemsToSubscribe) :=
    dataItemToClients.addKeys mDataItemSet' (.singleton mClient) ∅
  ({ s with
    mDataItemToClients := dataItemToClients'
    mClientToDataItems := clientToDataItems
  }.send dataItemsToSubscribe .subscribe).send dataItemsToUnsubscribe .unsubscribe

/-- `HandleUnsubscribeReq::proc`. Nothing reads `clientToRemove`, so the keys that the first
`trimOrRemove` reports are dropped. -/
def handleUnsubscribeReq (s : SystemStatusOsObserver κ δ) (freed : δ → δ)
    (mDataItemSet : UnorderedSet δ) (mClient : κ) : SystemStatusOsObserver κ δ :=
  let (clientToDataItems, _, dataItemsUnusedByClient) :=
    s.mClientToDataItems.trimOrRemove id (.singleton mClient) mDataItemSet ∅ ∅
  let (dataItemToClients, dataItemsToUnsubscribe, _) :=
    s.mDataItemToClients.trimOrRemove freed dataItemsUnusedByClient (.singleton mClient) ∅ ∅
  { s with
    mDataItemToClients := dataItemToClients
    mClientToDataItems := clientToDataItems
  }.send dataItemsToUnsubscribe .unsubscribe

/-- `HandleUnsubscribeAllReq::proc`. -/
def handleUnsubscribeAllReq (s : SystemStatusOsObserver κ δ) (freed : δ → δ) (mClient : κ) :
    SystemStatusOsObserver κ δ :=
  let diByClient := s.mClientToDataItems.getValSet mClient
  if diByClient.isEmpty then s
  else
    let (dataItemToClients, dataItemsToUnsubscribe, _) :=
      s.mDataItemToClients.trimOrRemove freed diByClient (.singleton mClient) ∅ ∅
    { s with
      mDataItemToClients := dataItemToClients
      mClientToDataItems := s.mClientToDataItems.remove mClient
    }.send dataItemsToUnsubscribe .unsubscribe

/-- One call, and its message if it passes the test of the call: an empty list or a null client
posts no message. -/
def step (s : SystemStatusOsObserver κ δ) (m : SubscriptionMessage κ δ) :
    Option (SystemStatusOsObserver κ δ) :=
  match m.call with
  | .setSubscriptionObj => some s.setSubscriptionObj
  | .subscribe l (some client) =>
      some (if l.isEmpty then s else s.handleSubscribeReq (toSet l) client false)
  | .requestData l (some client) =>
      some (if l.isEmpty then s else s.handleSubscribeReq (toSet l) client true)
  | .updateSubscription l (some client) =>
      some (if l.isEmpty then s else s.handleUpdateSubscriptionReq m.freed (toSet l) client)
  | .unsubscribe l (some client) =>
      some (if l.isEmpty then s else s.handleUnsubscribeReq m.freed (toSet l) client)
  | .unsubscribeAll (some client) => some (s.handleUnsubscribeAllReq m.freed client)
  | _ => some s

/-! ### The property and the condition -/

/-- The two maps are mutually inverse: a client has an item in its entry exactly when the item has
the client in its own. No entry has an empty set, since an empty entry would keep its key alive, and
the framework would be asked for an item that no client wants. -/
structure Inverse (s : SystemStatusOsObserver κ δ) : Prop where
  mem_iff : ∀ c d, d ∈ s.mClientToDataItems.getValSet c ↔ c ∈ s.mDataItemToClients.getValSet d
  clientEntries : s.mClientToDataItems.NoEmpty
  itemEntries : s.mDataItemToClients.NoEmpty

/-- The condition on one step: an update comes from a client without a subscription. For a client
that has one, `update` returns the values that stay instead of those that go, so the entries of the
removed items keep the client, while the entries of the kept items lose it. An update to the empty
list is ignored, like every request with an empty list. -/
def UpdateFresh (s : SystemStatusOsObserver κ δ) : SubscriptionCall κ δ → Prop
  | .updateSubscription (_ :: _) (some client) => s.mClientToDataItems.mMap.lookup client = none
  | _ => True

/-! ### The messages -/

variable {s t : SystemStatusOsObserver κ δ} {S : UnorderedSet δ} {client c : κ} {d : δ}
  {freed : δ → δ}

omit [DecidableEq κ] in
theorem mem_toSet {l : List δ} : d ∈ toSet l ↔ d ∈ l := by
  refine (UnorderedSet.mem_foldl_insert l).trans ?_
  simp

omit [DecidableEq κ] [DecidableEq δ] in
/-- A call of the subscription object changes no map. -/
theorem maps_send (s : SystemStatusOsObserver κ δ) (items : UnorderedSet δ)
    (call : List δ → FrameworkSubscription δ) :
    (s.send items call).mClientToDataItems = s.mClientToDataItems ∧
      (s.send items call).mDataItemToClients = s.mDataItemToClients := by
  unfold send
  split <;> exact ⟨rfl, rfl⟩

/-- `Inverse` is about the maps. -/
theorem Inverse.congr (h : Inverse s)
    (hmaps : t.mClientToDataItems = s.mClientToDataItems ∧
      t.mDataItemToClients = s.mDataItemToClients) : Inverse t := by
  obtain ⟨hclients, hitems⟩ := hmaps
  constructor
  · rw [hclients, hitems]
    exact h.mem_iff
  · rw [hclients]
    exact h.clientEntries
  · rw [hitems]
    exact h.itemEntries

theorem inverse_new : Inverse (new : SystemStatusOsObserver κ δ) where
  mem_iff := by
    intro c d
    constructor
    · intro hd
      exact absurd hd (LocUnorderedSetMap.not_mem_new c d)
    · intro hc
      exact absurd hc (LocUnorderedSetMap.not_mem_new d c)
  clientEntries := LocUnorderedSetMap.noEmpty_new
  itemEntries := LocUnorderedSetMap.noEmpty_new

theorem Inverse.setSubscriptionObj (h : Inverse s) : Inverse s.setSubscriptionObj := by
  refine h.congr ?_
  unfold SystemStatusOsObserver.setSubscriptionObj
  dsimp only
  split <;> exact ⟨rfl, rfl⟩

/-- A call of the subscription object keeps the maps inverse. -/
theorem Inverse.send (h : Inverse s) (items : UnorderedSet δ)
    (call : List δ → FrameworkSubscription δ) : Inverse (s.send items call) :=
  h.congr (maps_send s items call)

/-- A subscription adds the same pairs to both maps. -/
theorem Inverse.subscribe (h : Inverse s) (S : UnorderedSet δ) (client : κ) (request : Bool) :
    Inverse (s.handleSubscribeReq S client request) := by
  refine Inverse.send ⟨?_, h.clientEntries.add client S, h.itemEntries.addKeys S _ ∅⟩ _ _
  intro c d
  show d ∈ (s.mClientToDataItems.add client S).1.getValSet c ↔
    c ∈ (s.mDataItemToClients.addKeys S (.singleton client) ∅).1.getValSet d
  rw [LocUnorderedSetMap.mem_add, LocUnorderedSetMap.mem_addKeys, h.mem_iff,
    UnorderedSet.mem_singleton, and_comm]

/-- The items that a client gives up lose the client. -/
theorem Inverse.unsubscribe (h : Inverse s) (freed : δ → δ) (S : UnorderedSet δ) (client : κ) :
    Inverse (s.handleUnsubscribeReq freed S client) := by
  refine Inverse.send ⟨?_, h.clientEntries.trimOrRemove _ _ S ∅ ∅,
    h.itemEntries.trimOrRemove _ _ _ ∅ ∅⟩ _ _
  intro c d
  -- the items that the client gives up
  let gone := (s.mClientToDataItems.trimOrRemove id (.singleton client) S ∅ ∅).2.2
  have hgone : d ∈ gone ↔ d ∈ s.mClientToDataItems.getValSet client ∧ d ∈ S := by
    rw [LocUnorderedSetMap.mem_goneVals_trimOrRemove]
    constructor
    · rintro (hnone | ⟨k, hk, hd⟩)
      · exact absurd hnone (UnorderedSet.not_mem_empty d)
      · rwa [UnorderedSet.mem_singleton.mp hk] at hd
    · intro hd
      exact Or.inr ⟨client, UnorderedSet.mem_singleton.mpr rfl, hd⟩
  show d ∈ (s.mClientToDataItems.trimOrRemove id (.singleton client) S ∅ ∅).1.getValSet c ↔
    c ∈ (s.mDataItemToClients.trimOrRemove freed gone (.singleton client) ∅ ∅).1.getValSet d
  rw [LocUnorderedSetMap.mem_trimOrRemove, LocUnorderedSetMap.mem_trimOrRemove, hgone,
    UnorderedSet.mem_singleton, h.mem_iff]
  refine and_congr_right fun hc => not_congr ⟨?_, ?_⟩
  · rintro ⟨rfl, hd⟩
    exact ⟨⟨(h.mem_iff c d).mpr hc, hd⟩, rfl⟩
  · rintro ⟨⟨-, hd⟩, rfl⟩
    exact ⟨rfl, hd⟩

/-- All items of the client lose it. -/
theorem Inverse.unsubscribeAll (h : Inverse s) (freed : δ → δ) (client : κ) :
    Inverse (s.handleUnsubscribeAllReq freed client) := by
  unfold handleUnsubscribeAllReq
  dsimp only
  split
  · exact h
  · refine Inverse.send ⟨?_, h.clientEntries.remove client,
      h.itemEntries.trimOrRemove _ _ _ ∅ ∅⟩ _ _
    intro c d
    show d ∈ (s.mClientToDataItems.remove client).getValSet c ↔ _
    rw [LocUnorderedSetMap.mem_remove, LocUnorderedSetMap.mem_trimOrRemove,
      UnorderedSet.mem_singleton, h.mem_iff]
    refine and_congr_right fun hc => ⟨fun hne hgone => hne hgone.2, fun hnot heq => ?_⟩
    subst heq
    exact hnot ⟨(h.mem_iff c d).mpr hc, rfl⟩

/-- The sets after an update with a nonempty set. The items lose the client when the client had
them and keeps them, and they gain it when they are new. -/
theorem mem_update (s : SystemStatusOsObserver κ δ) (freed : δ → δ) (hnonempty : S.isEmpty = false)
    (client c : κ) (d : δ) :
    (d ∈ (s.handleUpdateSubscriptionReq freed S client).mClientToDataItems.getValSet c ↔
      if c = client then d ∈ S else d ∈ s.mClientToDataItems.getValSet c) ∧
    (c ∈ (s.handleUpdateSubscriptionReq freed S client).mDataItemToClients.getValSet d ↔
      c ∈ s.mDataItemToClients.getValSet d ∧
          ¬ ((d ∈ s.mClientToDataItems.getValSet client ∧ d ∈ S) ∧ c = client) ∨
        (d ∈ S ∧ d ∉ s.mClientToDataItems.getValSet client) ∧ c = client) := by
  obtain ⟨hgone, hnew⟩ := LocUnorderedSetMap.mem_update_sets (m := s.mClientToDataItems)
    hnonempty client d
  unfold handleUpdateSubscriptionReq
  dsimp only
  rw [(maps_send _ _ _).1, (maps_send _ _ _).1, (maps_send _ _ _).2, (maps_send _ _ _).2]
  dsimp only
  rw [LocUnorderedSetMap.mem_update, LocUnorderedSetMap.mem_addKeys,
    LocUnorderedSetMap.mem_trimOrRemove, hgone, hnew, UnorderedSet.mem_singleton]
  exact ⟨Iff.rfl, Iff.rfl⟩

theorem noEmpty_update (h : Inverse s) (freed : δ → δ) (S : UnorderedSet δ) (client : κ) :
    (s.handleUpdateSubscriptionReq freed S client).mClientToDataItems.NoEmpty ∧
      (s.handleUpdateSubscriptionReq freed S client).mDataItemToClients.NoEmpty := by
  unfold handleUpdateSubscriptionReq
  dsimp only
  rw [(maps_send _ _ _).1, (maps_send _ _ _).1, (maps_send _ _ _).2, (maps_send _ _ _).2]
  exact ⟨h.clientEntries.update client S, (h.itemEntries.trimOrRemove _ _ _ ∅ ∅).addKeys _ _ ∅⟩

/-- An update of a client without a subscription keeps the maps inverse. -/
theorem Inverse.update (h : Inverse s) (hnonempty : S.isEmpty = false)
    (hfresh : s.mClientToDataItems.mMap.lookup client = none) :
    Inverse (s.handleUpdateSubscriptionReq freed S client) := by
  have hnone : ∀ d, d ∉ s.mClientToDataItems.getValSet client := fun d =>
    LocUnorderedSetMap.not_mem_of_lookup_none hfresh
  obtain ⟨hclients, hitems⟩ := noEmpty_update h freed S client
  refine ⟨fun c d => ?_, hclients, hitems⟩
  obtain ⟨hc, hd⟩ := mem_update s freed hnonempty client c d
  rw [hc, hd]
  by_cases hself : c = client
  · subst hself
    have hitem : c ∉ s.mDataItemToClients.getValSet d := fun hmem =>
      hnone d ((h.mem_iff c d).mpr hmem)
    simp [hnone d, hitem]
  · rw [if_neg hself, h.mem_iff]
    simp [hself]

/-- An update of a client with a subscription breaks the agreement. Any old item shows it: when
the client keeps the item, the item has lost the client, and when it gives the item up, the item
still has the client. -/
theorem not_inverse_update (h : Inverse s) (hnonempty : S.isEmpty = false)
    (hold : d ∈ s.mClientToDataItems.getValSet client) :
    ¬ Inverse (s.handleUpdateSubscriptionReq freed S client) := by
  intro hinv
  have hitem : client ∈ s.mDataItemToClients.getValSet d := (h.mem_iff client d).mp hold
  obtain ⟨hc, hd⟩ := mem_update s freed hnonempty client client d
  have hiff := hinv.mem_iff client d
  rw [hc, hd, if_pos rfl] at hiff
  by_cases hkeep : d ∈ S
  · simp [hkeep, hold] at hiff
  · simp [hkeep, hold, hitem] at hiff

/-! ### One step and every run -/

/-- A nonempty list makes a nonempty set. -/
theorem toSet_nonempty (d : δ) (l : List δ) : (toSet (d :: l)).isEmpty = false := by
  rw [Bool.eq_false_iff]
  intro hempty
  rw [UnorderedSet.isEmpty_iff] at hempty
  exact hempty d (mem_toSet.mpr List.mem_cons_self)

/-- The calls that post no message: the client is missing, or the list is empty. -/
def NoMessage : SubscriptionCall κ δ → Prop
  | .setSubscriptionObj => False
  | .subscribe l client => client = none ∨ l = []
  | .requestData l client => client = none ∨ l = []
  | .updateSubscription l client => client = none ∨ l = []
  | .unsubscribe l client => client = none ∨ l = []
  | .unsubscribeAll client => client = none

/-- What one call does: nothing, or what its message does for the one client. -/
inductive StepCase (s : SystemStatusOsObserver κ δ) (freed : δ → δ) :
    SubscriptionCall κ δ → SystemStatusOsObserver κ δ → Prop
  | noMessage (call : SubscriptionCall κ δ) : NoMessage call → StepCase s freed call s
  | setSubscriptionObj : StepCase s freed .setSubscriptionObj s.setSubscriptionObj
  | subscribe (d : δ) (l : List δ) (client : κ) :
      StepCase s freed (.subscribe (d :: l) (some client))
        (s.handleSubscribeReq (toSet (d :: l)) client false)
  | requestData (d : δ) (l : List δ) (client : κ) :
      StepCase s freed (.requestData (d :: l) (some client))
        (s.handleSubscribeReq (toSet (d :: l)) client true)
  | updateSubscription (d : δ) (l : List δ) (client : κ) :
      StepCase s freed (.updateSubscription (d :: l) (some client))
        (s.handleUpdateSubscriptionReq freed (toSet (d :: l)) client)
  | unsubscribe (d : δ) (l : List δ) (client : κ) :
      StepCase s freed (.unsubscribe (d :: l) (some client))
        (s.handleUnsubscribeReq freed (toSet (d :: l)) client)
  | unsubscribeAll (client : κ) :
      StepCase s freed (.unsubscribeAll (some client)) (s.handleUnsubscribeAllReq freed client)

theorem step_cases {m : SubscriptionMessage κ δ} (ht : s.step m = some t) :
    StepCase s m.freed m.call t := by
  obtain ⟨call, freed⟩ := m
  cases call with
  | setSubscriptionObj =>
      cases ht
      exact .setSubscriptionObj
  | unsubscribeAll client =>
      cases client with
      | none =>
          cases ht
          exact .noMessage _ rfl
      | some client =>
          cases ht
          exact .unsubscribeAll client
  | subscribe l client =>
      match l, client, ht with
      | _, none, rfl => exact .noMessage _ (Or.inl rfl)
      | [], some _, rfl => exact .noMessage _ (Or.inr rfl)
      | d :: l, some client, rfl => exact .subscribe d l client
  | requestData l client =>
      match l, client, ht with
      | _, none, rfl => exact .noMessage _ (Or.inl rfl)
      | [], some _, rfl => exact .noMessage _ (Or.inr rfl)
      | d :: l, some client, rfl => exact .requestData d l client
  | updateSubscription l client =>
      match l, client, ht with
      | [], none, rfl => exact .noMessage _ (Or.inl rfl)
      | _ :: _, none, rfl => exact .noMessage _ (Or.inl rfl)
      | [], some _, rfl => exact .noMessage _ (Or.inr rfl)
      | d :: l, some client, rfl => exact .updateSubscription d l client
  | unsubscribe l client =>
      match l, client, ht with
      | _, none, rfl => exact .noMessage _ (Or.inl rfl)
      | [], some _, rfl => exact .noMessage _ (Or.inr rfl)
      | d :: l, some client, rfl => exact .unsubscribe d l client

omit [DecidableEq δ] in
theorem updateFresh_of_noMessage {call : SubscriptionCall κ δ} (h : NoMessage call) :
    s.UpdateFresh call := by
  unfold UpdateFresh
  split
  · rcases h with h | h <;> cases h
  · trivial

/-- A step keeps the maps inverse if and only if it meets the condition. -/
theorem inverse_step_iff {m : SubscriptionMessage κ δ} (h : Inverse s)
    (ht : s.step m = some t) : Inverse t ↔ s.UpdateFresh m.call := by
  obtain ⟨call, freed⟩ := m
  cases step_cases ht with
  | noMessage _ hno => exact iff_of_true h (updateFresh_of_noMessage hno)
  | setSubscriptionObj => exact iff_of_true h.setSubscriptionObj trivial
  | subscribe d l client => exact iff_of_true (h.subscribe _ client false) trivial
  | requestData d l client => exact iff_of_true (h.subscribe _ client true) trivial
  | updateSubscription d l client =>
      show _ ↔ s.mClientToDataItems.mMap.lookup client = none
      constructor
      · intro hinv
        refine h.clientEntries.lookup_eq_none fun d' hd' => ?_
        exact not_inverse_update h (toSet_nonempty d l) hd' hinv
      · exact h.update (toSet_nonempty d l)
  | unsubscribe d l client => exact iff_of_true (h.unsubscribe freed _ client) trivial
  | unsubscribeAll client => exact iff_of_true (h.unsubscribeAll freed client) trivial

/-- Every call has a step. -/
theorem step_isSome (s : SystemStatusOsObserver κ δ) (m : SubscriptionMessage κ δ) :
    s.step m ≠ none := by
  unfold step
  split <;> simp

/-- After an update the client map has exactly the items of the list. -/
theorem mem_clientItems_update {d' : δ} {l : List δ}
    (ht : s.step ⟨.updateSubscription (d' :: l) (some client), freed⟩ = some t) :
    d ∈ t.mClientToDataItems.getValSet client ↔ d ∈ d' :: l := by
  cases ht
  rw [if_neg (by simp)]
  obtain ⟨hc, -⟩ := mem_update s freed (toSet_nonempty d' l) client client d
  rw [hc, if_pos rfl, mem_toSet]

/-- The subscription maps are mutually inverse in every state of a run if and only if every
update comes from a client without a subscription, whatever the freed entries read as. Where they
are inverse after the message of an update, the items that list the client are exactly the ids of
the update; an update with an empty list posts no message. -/
theorem inverse_iff_guarded (messages : List (SubscriptionMessage κ δ)) :
    (Along step Inverse new messages ↔
      Guarded step (fun s m => s.UpdateFresh m.call) new messages) ∧
    ∀ (before : List (SubscriptionMessage κ δ)) (l : List δ) (client : κ) (freed : δ → δ)
      (t : SystemStatusOsObserver κ δ), l ≠ [] →
      run step new (before ++ [⟨.updateSubscription l (some client), freed⟩]) = some t →
        Inverse t → ∀ d, client ∈ t.mDataItemToClients.getValSet d ↔ d ∈ l := by
  constructor
  · exact along_iff_guarded (I := Inverse) (fun _ h => h)
      (fun _ _ _ h hok ht => (inverse_step_iff h ht).mpr hok)
      (fun _ _ _ h ht hinv => (inverse_step_iff h ht).mp hinv)
      (fun s m _ hnone => absurd hnone (step_isSome s m)) messages new inverse_new
  · intro before l client freed t hl hrun hinv d
    rw [run_append] at hrun
    obtain ⟨s, -, hlast⟩ := Option.bind_eq_some_iff.mp hrun
    obtain ⟨u, hu, hnil⟩ := run_cons_eq_some.mp hlast
    cases hnil
    cases l with
    | nil => exact absurd rfl hl
    | cons d' l =>
        rw [← hinv.mem_iff]
        exact mem_clientItems_update hu

/-- A client that updates its subscription from item 1 to item 2. -/
def updateToOther : List (SubscriptionMessage Nat Nat) :=
  [⟨.subscribe [1] (some 0), id⟩, ⟨.updateSubscription [2] (some 0), id⟩]

/-- Item 1 still lists the client, which has given it up. -/
theorem updateToOther_not_inverse :
    ∃ s, run step new updateToOther = some s ∧ ¬ Inverse s ∧
      0 ∈ s.mDataItemToClients.getValSet 1 ∧ 1 ∉ s.mClientToDataItems.getValSet 0 := by
  refine ⟨_, rfl, fun hinv => ?_, by decide, by decide⟩
  exact absurd ((hinv.mem_iff 0 1).mpr (by decide)) (by decide)

end SystemStatusOsObserver

end LocHal.Core
