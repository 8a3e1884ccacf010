import Mathlib.Order.BooleanAlgebra.Set
import LocHal.Core.SystemStatusOsObserver

/-!
# `LocHal.Core.FrameworkMirror`: the subscription at the framework and those of the clients

`SystemStatusOsObserver` subscribes at the framework for its clients. `upstream` is the set of
items that the framework object has been asked for, from the calls that it has received: a
`subscribe` adds its items, an `unsubscribe` removes them, and a `requestData` does neither.

`FrameworkMirror` runs the observer beside what the clients have asked for. `subscribed` has the
items of `subscribe` and `updateSubscription`, and `held` has those of `requestData` as well. Both
are folds over the calls (`itemsAfter`) that never look at the observer. `Mirrors` says that, once
the framework object is set, `upstream` has every subscribed item and only items that are held.

Three things go wrong in the source, and `Forwarded` has one clause for each.

An item is subscribed at the framework when its entry is made in the map of the items. When
`requestData` has made the entry, a later `subscribe` finds it and is not forwarded.

An update of a client that has a subscription takes the items that it keeps for those that it gives
up (`LocUnorderedSetMap::update`), so the maps no longer agree.

When an item loses its last client, `LocUnorderedSetMap::trimOrRemove` erases its entry and reports
`iter->first` of the erased entry. What `unsubscribe` then names is whatever the freed memory holds,
which the message carries as `freed`. `mem_upstream_step` says what becomes of `upstream`, and a bad
`freed` leaves an abandoned item subscribed or drops one that is still wanted. So a call that
abandons an item is harmless for every `freed` only if there is nothing in `upstream` that it
should remove and nothing subscribed that it could remove.

`mirrors_of_guarded` has both directions. A run whose messages are all forwarded mirrors the
subscriptions whatever the freed entries read as; and if the runs of a list of calls do so for every
content of the freed memory, with the maps inverse, then all of them have forwarded messages only.
-/

set_option autoImplicit false

namespace LocHal.Core

open LabelledRun
open LocHal.Util (LocUnorderedSetMap)

/-! ### What the clients and the framework have been asked -/

section Purpose
variable {κ δ : Type} [DecidableEq κ]

/-- The items of every client after a call. `requests` says whether a `requestData` counts. A call
with an empty list posts no message. -/
def itemsAfter (requests : Bool) (items : κ → Set δ) : SubscriptionCall κ δ → κ → Set δ
  | .subscribe l (some client) => Function.update items client (items client ∪ {d | d ∈ l})
  | .requestData l (some client) =>
      if requests then Function.update items client (items client ∪ {d | d ∈ l}) else items
  | .updateSubscription (d :: l) (some client) => Function.update items client {d' | d' ∈ d :: l}
  | .unsubscribe l (some client) => Function.update items client (items client \ {d | d ∈ l})
  | .unsubscribeAll (some client) => Function.update items client ∅
  | _ => items

/-- The items that the framework is subscribed to after one more call. -/
def upstreamAfter (items : Set δ) : FrameworkSubscription δ → Set δ
  | .subscribe l => items ∪ {d | d ∈ l}
  | .requestData _ => items
  | .unsubscribe l => items \ {d | d ∈ l}

/-- The items that the framework is subscribed to. -/
def upstream (sent : List (FrameworkSubscription δ)) : Set δ := sent.foldl upstreamAfter ∅

theorem upstream_concat (sent : List (FrameworkSubscription δ)) (call : FrameworkSubscription δ) :
    upstream (sent ++ [call]) = upstreamAfter (upstream sent) call := by
  unfold upstream
  rw [List.foldl_append]
  rfl

/-- One client's items are grown by `T`. -/
theorem mem_update_union {items : κ → Set δ} {client c : κ} {T : Set δ} {d : δ} :
    d ∈ Function.update items client (items client ∪ T) c ↔ d ∈ items c ∨ c = client ∧ d ∈ T := by
  by_cases hc : c = client
  · subst hc
    simp
  · simp [hc]

/-- One client's items are cut down by `T`. -/
theorem mem_update_diff {items : κ → Set δ} {client c : κ} {T : Set δ} {d : δ} :
    d ∈ Function.update items client (items client \ T) c ↔
      d ∈ items c ∧ ¬ (c = client ∧ d ∈ T) := by
  by_cases hc : c = client
  · subst hc
    simp
  · simp [hc]

/-- One client's items are replaced by `T`. -/
theorem mem_update_iff {items : κ → Set δ} {client c : κ} {T : Set δ} {d : δ} :
    d ∈ Function.update items client T c ↔ if c = client then d ∈ T else d ∈ items c := by
  by_cases hc : c = client
  · subst hc
    rw [Function.update_self, if_pos rfl]
  · rw [Function.update_of_ne hc, if_neg hc]

/-- What is subscribed stays among what is held. -/
theorem itemsAfter_subset {subscribed held : κ → Set δ} (h : ∀ c, subscribed c ⊆ held c)
    (call : SubscriptionCall κ δ) (c : κ) :
    itemsAfter false subscribed call c ⊆ itemsAfter true held call c := by
  intro d hd
  unfold itemsAfter at hd ⊢
  split at hd
  · rw [mem_update_union] at hd ⊢
    exact hd.imp_left fun hd => h c hd
  · rw [if_pos rfl, mem_update_union]
    exact Or.inl (h c hd)
  · rw [mem_update_iff] at hd ⊢
    split_ifs at hd ⊢
    · exact hd
    · exact h c hd
  · rw [mem_update_diff] at hd ⊢
    exact hd.imp_left fun hd => h c hd
  · rw [mem_update_iff] at hd ⊢
    split_ifs at hd ⊢
    · exact hd
    · exact h c hd
  · exact h c hd

/-- The items that a call subscribes to. -/
def subscribedItems : SubscriptionCall κ δ → List δ
  | .subscribe l (some _) => l
  | .updateSubscription l (some _) => l
  | _ => []

/-- An item that is subscribed after a call was so before, or the call subscribes to it. -/
theorem mem_of_mem_itemsAfter {items : κ → Set δ} {call : SubscriptionCall κ δ} {c : κ} {d : δ}
    (hd : d ∈ itemsAfter false items call c) : d ∈ items c ∨ d ∈ subscribedItems call := by
  unfold itemsAfter at hd
  unfold subscribedItems
  split at hd
  · exact (mem_update_union.mp hd).imp_right And.right
  · exact Or.inl hd
  · rw [mem_update_iff] at hd
    split at hd
    · exact Or.inr hd
    · exact Or.inl hd
  · exact Or.inl (mem_update_diff.mp hd).1
  · rw [mem_update_iff] at hd
    split at hd
    · exact absurd hd (Set.notMem_empty d)
    · exact Or.inl hd
  · exact Or.inl hd

/-- What a call subscribes to has a client afterwards. -/
theorem exists_mem_itemsAfter (requests : Bool) (items : κ → Set δ) {call : SubscriptionCall κ δ}
    {d : δ} (hd : d ∈ subscribedItems call) : ∃ c, d ∈ itemsAfter requests items call c := by
  unfold subscribedItems at hd
  split at hd
  · rename_i l client
    refine ⟨client, ?_⟩
    simp only [itemsAfter, Function.update_self]
    exact Or.inr hd
  · rename_i l client
    refine ⟨client, ?_⟩
    cases l with
    | nil => cases hd
    | cons d' l =>
        simp only [itemsAfter, Function.update_self]
        exact hd
  · cases hd

theorem itemsAfter_of_noMessage {call : SubscriptionCall κ δ}
    (h : SystemStatusOsObserver.NoMessage call) (requests : Bool) (items : κ → Set δ) :
    itemsAfter requests items call = items := by
  have hunion : ∀ client : κ,
      Function.update items client (items client ∪ {d | d ∈ ([] : List δ)}) = items := by simp
  have hdiff : ∀ client : κ,
      Function.update items client (items client \ {d | d ∈ ([] : List δ)}) = items := by simp
  match call, h with
  | .subscribe _ none, _ => rfl
  | .subscribe [] (some client), _ => exact hunion client
  | .requestData _ none, _ => rfl
  | .requestData [] (some client), _ =>
      cases requests with
      | true => exact hunion client
      | false => rfl
  | .updateSubscription [] none, _ => rfl
  | .updateSubscription (_ :: _) none, _ => rfl
  | .updateSubscription [] (some _), _ => rfl
  | .unsubscribe _ none, _ => rfl
  | .unsubscribe [] (some client), _ => exact hdiff client
  | .unsubscribeAll none, _ => rfl

/-- The items that lose their last client by a call. -/
def abandonedItems (held : κ → Set δ) (call : SubscriptionCall κ δ) : Set δ :=
  {d | (∃ c, d ∈ held c) ∧ ∀ c, d ∉ itemsAfter true held call c}

/-- A subscription abandons nothing. -/
theorem not_abandons_subscribe {held : κ → Set δ} {l : List δ} {client : κ} :
    ¬ (abandonedItems held (.subscribe l (some client))).Nonempty := by
  rintro ⟨d, ⟨c, hc⟩, hnone⟩
  exact hnone c (mem_update_union.mpr (Or.inl hc))

/-- Nor does a client that gives up items which other clients hold. -/
theorem not_abandons_unsubscribe {held : κ → Set δ} {l : List δ} {client : κ}
    (hshared : ∀ d ∈ l, ∃ c ≠ client, d ∈ held c) :
    ¬ (abandonedItems held (.unsubscribe l (some client))).Nonempty := by
  rintro ⟨d, ⟨c, hc⟩, hnone⟩
  by_cases hd : d ∈ l
  · obtain ⟨c', hne, hc'⟩ := hshared d hd
    exact hnone c' (mem_update_diff.mpr ⟨hc', fun h => hne h.1⟩)
  · exact hnone c (mem_update_diff.mpr ⟨hc, fun h => hd h.2⟩)

omit [DecidableEq κ] in
theorem subscribedItems_of_noMessage {call : SubscriptionCall κ δ}
    (h : SystemStatusOsObserver.NoMessage call) : subscribedItems call = [] := by
  unfold subscribedItems
  split
  · exact h.resolve_left nofun
  · exact h.resolve_left nofun
  · rfl

end Purpose

namespace SystemStatusOsObserver

variable {κ δ : Type} [DecidableEq κ] [DecidableEq δ] {s t : SystemStatusOsObserver κ δ}
  {S items : UnorderedSet δ} {client c : κ} {d : δ} {m : SubscriptionMessage κ δ} {freed : δ → δ}

/-! ### The calls of the framework object -/

omit [DecidableEq κ] [DecidableEq δ] in
theorem mem_toList : d ∈ toList items ↔ d ∈ items := List.mem_reverse

omit [DecidableEq κ] [DecidableEq δ] in
@[simp] theorem send_mSubscriptionObj (s : SystemStatusOsObserver κ δ) (items : UnorderedSet δ)
    (call : List δ → FrameworkSubscription δ) :
    (s.send items call).mSubscriptionObj = s.mSubscriptionObj := by
  unfold send
  split <;> rfl

omit [DecidableEq κ] [DecidableEq δ] in
/-- Without the object nothing is sent. -/
theorem sent_send_of_unset (hset : s.mSubscriptionObj = false) (items : UnorderedSet δ)
    (call : List δ → FrameworkSubscription δ) : (s.send items call).sent = s.sent := by
  unfold send
  rw [hset]
  rfl

omit [DecidableEq κ] [DecidableEq δ] in
/-- What a call adds to `upstream` or removes from it. Without items there is no call. -/
theorem upstream_send_subscribe (hset : s.mSubscriptionObj = true) :
    upstream (s.send items .subscribe).sent = upstream s.sent ∪ {d | d ∈ items} := by
  unfold send
  rw [hset]
  by_cases hempty : items.isEmpty = true
  · have hnone : {d | d ∈ items} = ∅ :=
      Set.eq_empty_of_forall_notMem (UnorderedSet.isEmpty_iff.mp hempty)
    rw [hnone]
    simp [hempty]
  · simp [hempty, upstream_concat, upstreamAfter, mem_toList]

omit [DecidableEq κ] [DecidableEq δ] in
theorem upstream_send_requestData (hset : s.mSubscriptionObj = true) :
    upstream (s.send items .requestData).sent = upstream s.sent := by
  unfold send
  rw [hset]
  by_cases hempty : items.isEmpty = true
  · simp [hempty]
  · simp [hempty, upstream_concat, upstreamAfter]

omit [DecidableEq κ] [DecidableEq δ] in
theorem upstream_send_unsubscribe (hset : s.mSubscriptionObj = true) :
    upstream (s.send items .unsubscribe).sent = upstream s.sent \ {d | d ∈ items} := by
  unfold send
  rw [hset]
  by_cases hempty : items.isEmpty = true
  · have hnone : {d | d ∈ items} = ∅ :=
      Set.eq_empty_of_forall_notMem (UnorderedSet.isEmpty_iff.mp hempty)
    rw [hnone, Set.sdiff_empty]
    simp [hempty]
  · simp [hempty, upstream_concat, upstreamAfter, mem_toList]

/-- The items that have an entry, when the maps are inverse. -/
theorem Inverse.lookup_eq_none (h : Inverse s) :
    s.mDataItemToClients.mMap.lookup d = none ↔ ∀ c, d ∉ s.mClientToDataItems.getValSet c := by
  constructor
  · intro hnone c hd
    exact LocUnorderedSetMap.not_mem_of_lookup_none hnone ((h.mem_iff c d).mp hd)
  · intro hnone
    exact h.itemEntries.lookup_eq_none fun c hc => hnone c ((h.mem_iff c d).mpr hc)

/-! ### The items of the clients -/

/-- The items of every client, as the observer keeps them. -/
def clientItems (s : SystemStatusOsObserver κ δ) (c : κ) : Set δ :=
  {d | d ∈ s.mClientToDataItems.getValSet c}

omit [DecidableEq δ] in
theorem mem_clientItems : d ∈ s.clientItems c ↔ d ∈ s.mClientToDataItems.getValSet c := Iff.rfl

theorem mem_clientItems_subscribe (request : Bool) :
    d ∈ (s.handleSubscribeReq S client request).clientItems c ↔
      d ∈ s.clientItems c ∨ c = client ∧ d ∈ S := by
  unfold handleSubscribeReq
  dsimp only
  rw [mem_clientItems, (maps_send _ _ _).1]
  exact LocUnorderedSetMap.mem_add

theorem mem_clientItems_unsubscribe :
    d ∈ (s.handleUnsubscribeReq freed S client).clientItems c ↔
      d ∈ s.clientItems c ∧ ¬ (c = client ∧ d ∈ S) := by
  unfold handleUnsubscribeReq
  dsimp only
  rw [mem_clientItems, (maps_send _ _ _).1]
  dsimp only
  rw [LocUnorderedSetMap.mem_trimOrRemove, UnorderedSet.mem_singleton]
  exact Iff.rfl

theorem mem_clientItems_unsubscribeAll :
    d ∈ (s.handleUnsubscribeAllReq freed client).clientItems c ↔
      d ∈ s.clientItems c ∧ c ≠ client := by
  unfold handleUnsubscribeAllReq
  dsimp only
  split
  · rename_i hempty
    rw [UnorderedSet.isEmpty_iff] at hempty
    refine ⟨fun hd => ⟨hd, fun hc => ?_⟩, And.left⟩
    subst hc
    exact hempty d hd
  · rw [mem_clientItems, (maps_send _ _ _).1]
    exact LocUnorderedSetMap.mem_remove

/-- The observer keeps the items that the clients have asked for. -/
theorem mem_clientItems_step (ht : s.step m = some t) :
    d ∈ t.clientItems c ↔ d ∈ itemsAfter true s.clientItems m.call c := by
  obtain ⟨call, freed⟩ := m
  cases step_cases ht with
  | noMessage _ hno => rw [itemsAfter_of_noMessage hno]
  | setSubscriptionObj =>
      unfold setSubscriptionObj
      dsimp only
      split <;> exact Iff.rfl
  | subscribe d' l client =>
      simp only [itemsAfter, mem_update_union]
      rw [mem_clientItems_subscribe, mem_toSet]
      exact Iff.rfl
  | requestData d' l client =>
      simp only [itemsAfter, if_true, mem_update_union]
      rw [mem_clientItems_subscribe, mem_toSet]
      exact Iff.rfl
  | updateSubscription d' l client =>
      simp only [itemsAfter, mem_update_iff]
      rw [mem_clientItems, (mem_update s freed (toSet_nonempty d' l) client c d).1, mem_toSet]
      exact Iff.rfl
  | unsubscribe d' l client =>
      simp only [itemsAfter, mem_update_diff]
      rw [mem_clientItems_unsubscribe, mem_toSet]
      exact Iff.rfl
  | unsubscribeAll client =>
      simp only [itemsAfter, mem_update_iff]
      rw [mem_clientItems_unsubscribeAll]
      by_cases hc : c = client
      · simp [hc]
      · simp [hc]

/-! ### The framework -/

/-- No client has the item. -/
def Unheld (s : SystemStatusOsObserver κ δ) (d : δ) : Prop := ∀ c, d ∉ s.clientItems c

/-- A subscription is forwarded for the items that no client had, and a request for data is not
a subscription. -/
theorem upstream_subscribe (h : Inverse s) (hset : s.mSubscriptionObj = true)
    (S : UnorderedSet δ) (client : κ) :
    upstream (s.handleSubscribeReq S client false).sent =
      upstream s.sent ∪ {d | d ∈ S ∧ s.Unheld d} ∧
    upstream (s.handleSubscribeReq S client true).sent = upstream s.sent := by
  unfold handleSubscribeReq
  dsimp only
  rw [if_pos rfl, if_neg (by simp)]
  constructor
  · rw [upstream_send_subscribe]
    swap
    · exact hset
    congr 1
    ext d
    have hone : (UnorderedSet.singleton client).isEmpty = false := rfl
    refine (LocUnorderedSetMap.mem_newKeys_addKeys hone).trans ?_
    rw [h.lookup_eq_none]
    simp [Unheld, mem_clientItems]
  · rw [upstream_send_requestData]
    exact hset

/-- For an item that has no client left, the framework loses what is read from its freed entry. -/
theorem upstream_unsubscribe (h : Inverse s) (hset : s.mSubscriptionObj = true) (freed : δ → δ)
    (S : UnorderedSet δ) (client : κ) :
    upstream (s.handleUnsubscribeReq freed S client).sent = upstream s.sent \
      freed '' {d | ¬ s.Unheld d ∧ (s.handleUnsubscribeReq freed S client).Unheld d} := by
  have hitems : ∀ d, (s.handleUnsubscribeReq freed S client).Unheld d ↔
      (s.handleUnsubscribeReq freed S client).mDataItemToClients.mMap.lookup d = none :=
    fun d => (h.unsubscribe freed S client).lookup_eq_none.symm
  simp only [hitems]
  unfold handleUnsubscribeReq
  dsimp only
  rw [upstream_send_unsubscribe, (maps_send _ _ _).2]
  swap
  · exact hset
  congr 1
  ext d
  refine LocUnorderedSetMap.mem_goneKeys_trimOrRemove.trans ?_
  simp only [Ne, h.lookup_eq_none]
  simp [Unheld, mem_clientItems, and_comm]

theorem upstream_unsubscribeAll (h : Inverse s) (hset : s.mSubscriptionObj = true) (freed : δ → δ)
    (client : κ) :
    upstream (s.handleUnsubscribeAllReq freed client).sent = upstream s.sent \
      freed '' {d | ¬ s.Unheld d ∧ (s.handleUnsubscribeAllReq freed client).Unheld d} := by
  have hitems : ∀ d, (s.handleUnsubscribeAllReq freed client).Unheld d ↔
      (s.handleUnsubscribeAllReq freed client).mDataItemToClients.mMap.lookup d = none :=
    fun d => (h.unsubscribeAll freed client).lookup_eq_none.symm
  have hold : ∀ d, s.Unheld d ↔ s.mDataItemToClients.mMap.lookup d = none :=
    fun d => h.lookup_eq_none.symm
  simp only [hitems, hold]
  unfold handleUnsubscribeAllReq
  dsimp only
  split
  · ext d
    simp +contextual
  · rw [upstream_send_unsubscribe, (maps_send _ _ _).2]
    swap
    · exact hset
    congr 1
    ext d
    refine LocUnorderedSetMap.mem_goneKeys_trimOrRemove.trans ?_
    simp [and_comm]

/-- An update of a client without a subscription is forwarded for the items that no client had,
and unsubscribes nothing. -/
theorem upstream_update (h : Inverse s) (hset : s.mSubscriptionObj = true)
    (hnonempty : S.isEmpty = false)
    (hfresh : s.mClientToDataItems.mMap.lookup client = none) :
    upstream (s.handleUpdateSubscriptionReq freed S client).sent =
      upstream s.sent ∪ {d | d ∈ S ∧ s.Unheld d} := by
  have hsets := LocUnorderedSetMap.mem_update_sets (m := s.mClientToDataItems) hnonempty client
  have hnone : ∀ d, d ∉ s.mClientToDataItems.getValSet client := fun d =>
    LocUnorderedSetMap.not_mem_of_lookup_none hfresh
  -- the client keeps none of its items, since it has none
  have hkept : (s.mClientToDataItems.update client S).2.1.toList = [] := by
    rw [← List.isEmpty_iff]
    exact UnorderedSet.isEmpty_iff.mpr fun d hd => hnone d ((hsets d).1.mp hd).1
  have htrim : s.mDataItemToClients.trimOrRemove freed
      (s.mClientToDataItems.update client S).2.1 (.singleton client) ∅ ∅ =
        (s.mDataItemToClients, ∅, ∅) := by
    unfold LocUnorderedSetMap.trimOrRemove
    rw [hkept]
    rfl
  unfold handleUpdateSubscriptionReq
  dsimp only
  rw [htrim, upstream_send_unsubscribe, upstream_send_subscribe]
  rotate_left
  · exact hset
  · rw [send_mSubscriptionObj]
    exact hset
  ext d
  have hone : (UnorderedSet.singleton client).isEmpty = false := rfl
  have hnew : d ∈ (s.mDataItemToClients.addKeys (s.mClientToDataItems.update client S).2.2
      (.singleton client) ∅).2 ↔ d ∈ (∅ : UnorderedSet δ) ∨
        d ∈ (s.mClientToDataItems.update client S).2.2 ∧
          s.mDataItemToClients.mMap.lookup d = none :=
    LocUnorderedSetMap.mem_newKeys_addKeys hone
  rw [(hsets d).2, h.lookup_eq_none] at hnew
  simp [hnew, Unheld, mem_clientItems, hnone]

/-- Setting the object subscribes every item that a client has. -/
theorem upstream_setSubscriptionObj (h : Inverse s) :
    upstream s.setSubscriptionObj.sent = upstream s.sent ∪ {d | ¬ s.Unheld d} := by
  have hkeys : ∀ d, d ∈ s.mDataItemToClients.getKeys ↔ ¬ s.Unheld d := by
    intro d
    have hold : s.Unheld d ↔ s.mDataItemToClients.mMap.lookup d = none := h.lookup_eq_none.symm
    rw [hold, ← Ne, ← Option.isSome_iff_ne_none, AList.lookup_isSome]
    exact Iff.rfl
  unfold setSubscriptionObj
  dsimp only
  split
  · rename_i hempty
    have hnone : ∀ d, d ∉ s.mDataItemToClients.getKeys := UnorderedSet.isEmpty_iff.mp hempty
    ext d
    simp [← hkeys, hnone]
  · have hsent : ∀ l l' : List δ, s.sent ++ [.subscribe l, .requestData l'] =
        (s.sent ++ [.subscribe l]) ++ [.requestData l'] := by simp
    rw [hsent, upstream_concat, upstream_concat]
    ext d
    simp [upstreamAfter, mem_toList, hkeys]

/-! ### One step -/

/-- Setting the object is the only call that changes the pointer, and nothing is sent before. -/
theorem mSubscriptionObj_step (ht : s.step m = some t) (hcall : m.call ≠ .setSubscriptionObj) :
    t.mSubscriptionObj = s.mSubscriptionObj ∧
      (s.mSubscriptionObj = false → t.sent = s.sent) := by
  obtain ⟨call, freed⟩ := m
  cases step_cases ht with
  | noMessage _ _ => exact ⟨rfl, fun _ => rfl⟩
  | setSubscriptionObj => exact absurd rfl hcall
  | subscribe d l client =>
      exact ⟨send_mSubscriptionObj _ _ _, fun hset => sent_send_of_unset (by exact hset) _ _⟩
  | requestData d l client =>
      exact ⟨send_mSubscriptionObj _ _ _, fun hset => sent_send_of_unset (by exact hset) _ _⟩
  | updateSubscription d l client =>
      -- an update sends twice
      unfold handleUpdateSubscriptionReq
      dsimp only
      refine ⟨by simp, fun hset => ?_⟩
      rw [sent_send_of_unset (by rw [send_mSubscriptionObj]; exact hset),
        sent_send_of_unset (by exact hset)]
  | unsubscribe d l client =>
      exact ⟨send_mSubscriptionObj _ _ _, fun hset => sent_send_of_unset (by exact hset) _ _⟩
  | unsubscribeAll client =>
      unfold handleUnsubscribeAllReq
      dsimp only
      split
      · exact ⟨rfl, fun _ => rfl⟩
      · exact ⟨send_mSubscriptionObj _ _ _, fun hset => sent_send_of_unset (by exact hset) _ _⟩

/-- With the object set, a call adds the items that it subscribes to and that no client had. For the
items that lose their last client it removes what is read from their freed entries. -/
theorem mem_upstream_step (h : Inverse s) (hset : s.mSubscriptionObj = true)
    (hfresh : s.UpdateFresh m.call) (hcall : m.call ≠ .setSubscriptionObj)
    (ht : s.step m = some t) :
    d ∈ upstream t.sent ↔
      (d ∈ upstream s.sent ∨ d ∈ subscribedItems m.call ∧ s.Unheld d) ∧
        d ∉ m.freed '' {e | ¬ s.Unheld e ∧ t.Unheld e} := by
  obtain ⟨call, freed⟩ := m
  -- a subscription takes no client from an item
  have hgrow : (∀ c, s.clientItems c ⊆ t.clientItems c) →
      d ∉ freed '' {e | ¬ s.Unheld e ∧ t.Unheld e} := by
    rintro hsub ⟨e, ⟨hheld, hunheld⟩, -⟩
    exact hheld fun c hc => hunheld c (hsub c hc)
  cases step_cases ht with
  | noMessage _ hno =>
      rw [subscribedItems_of_noMessage hno]
      simp
  | setSubscriptionObj => exact absurd rfl hcall
  | subscribe d' l client =>
      have hno := hgrow fun c d hd => (mem_clientItems_subscribe false).mpr (Or.inl hd)
      rw [(upstream_subscribe h hset _ client).1]
      simp only [hno, not_false_eq_true, and_true, subscribedItems]
      exact or_congr_right (and_congr_left' mem_toSet)
  | requestData d' l client =>
      have hno := hgrow fun c d hd => (mem_clientItems_subscribe true).mpr (Or.inl hd)
      rw [(upstream_subscribe h hset _ client).2]
      simp only [hno, not_false_eq_true, and_true, subscribedItems]
      simp
  | updateSubscription d' l client =>
      -- the client of the update has no items yet
      have hno := hgrow fun c d hd => by
        refine (mem_update s freed (toSet_nonempty d' l) client c d).1.mpr ?_
        split
        · rename_i hc
          subst hc
          exact absurd hd (LocUnorderedSetMap.not_mem_of_lookup_none hfresh)
        · exact hd
      rw [upstream_update h hset (toSet_nonempty d' l) hfresh]
      simp only [hno, not_false_eq_true, and_true, subscribedItems]
      exact or_congr_right (and_congr_left' mem_toSet)
  | unsubscribe d' l client =>
      rw [upstream_unsubscribe h hset]
      simp only [subscribedItems, List.not_mem_nil, false_and, or_false]
      exact Iff.rfl
  | unsubscribeAll client =>
      rw [upstream_unsubscribeAll h hset]
      simp only [subscribedItems, List.not_mem_nil, false_and, or_false]
      exact Iff.rfl

end SystemStatusOsObserver

/-! ### Runs -/

/-- The observer beside what its clients have asked for. -/
structure FrameworkMirror (κ δ : Type) where
  observer : SystemStatusOsObserver κ δ
  subscribed : κ → Set δ
  held : κ → Set δ

namespace FrameworkMirror

open SystemStatusOsObserver

variable {κ δ : Type} [DecidableEq κ] [DecidableEq δ] {r r' : FrameworkMirror κ δ}
  {m : SubscriptionMessage κ δ}

/-- The constructor of the observer, before the first call. -/
def new : FrameworkMirror κ δ := ⟨.new, fun _ => ∅, fun _ => ∅⟩

/-- One call with its message. The clients' items follow the call, whatever the observer does. -/
def step (r : FrameworkMirror κ δ) (m : SubscriptionMessage κ δ) :
    Option (FrameworkMirror κ δ) :=
  (r.observer.step m).map fun observer =>
    ⟨observer, itemsAfter false r.subscribed m.call, itemsAfter true r.held m.call⟩

/-- Once the object is set, the framework is subscribed to every subscribed item, and to no item
that no client holds. An item that clients hold through `requestData` only may be subscribed or not.
What the framework is subscribed to is what the calls sent so far leave, in their order. -/
def Mirrors (r : FrameworkMirror κ δ) : Prop :=
  r.observer.mSubscriptionObj = true →
    (∀ c, r.subscribed c ⊆ upstream r.observer.sent) ∧
      ∀ d ∈ upstream r.observer.sent, ∃ c, d ∈ r.held c

/-- The condition on one call, on what the clients hold before it and on what the framework is
subscribed to. None of the clauses looks at the freed memory, and none at what the observer sends
for the call. -/
structure Forwarded (r : FrameworkMirror κ δ) (call : SubscriptionCall κ δ) : Prop where
  /-- An update comes from a client without a subscription: `LocUnorderedSetMap::update` returns
  the items that are kept, and such a client keeps none. -/
  fresh : r.observer.UpdateFresh call
  /-- Once the object is set, an item that the call subscribes to is subscribed at the framework
  already or is held by no client. Otherwise clients hold it through `requestData` only; then it has
  an entry, and the subscription is not forwarded. -/
  forwards : r.observer.mSubscriptionObj = true →
    ∀ d ∈ subscribedItems call, d ∈ upstream r.observer.sent ∨ ∀ c, d ∉ r.held c
  /-- Once the object is set, a call that takes the last client of an item finds nothing to
  unsubscribe at the framework and leaves nothing subscribed. The names that it unsubscribes are
  read from freed entries: an item that has to go may not be among them, and an item that has to
  stay may be. -/
  abandons : r.observer.mSubscriptionObj = true → (abandonedItems r.held call).Nonempty →
    (∀ d ∈ abandonedItems r.held call, d ∉ upstream r.observer.sent) ∧
      ∀ c, itemsAfter false r.subscribed call c = ∅

/-- What holds after every forwarded call. -/
structure Synced (r : FrameworkMirror κ δ) : Prop where
  inverse : Inverse r.observer
  held : r.held = r.observer.clientItems
  subset : ∀ c, r.subscribed c ⊆ r.held c
  unset : r.observer.mSubscriptionObj = false → upstream r.observer.sent = ∅
  mirrors : Mirrors r

theorem synced_new : Synced (new : FrameworkMirror κ δ) where
  inverse := inverse_new
  held := by
    funext c
    exact (Set.eq_empty_of_forall_notMem fun d => LocUnorderedSetMap.not_mem_new c d).symm
  subset _ := Set.Subset.refl _
  unset _ := rfl
  mirrors hset := by cases hset

theorem step_eq_some : r.step m = some r' ↔ ∃ observer, r.observer.step m = some observer ∧
    r' = ⟨observer, itemsAfter false r.subscribed m.call, itemsAfter true r.held m.call⟩ := by
  unfold step
  rw [Option.map_eq_some_iff]
  exact exists_congr fun _ => and_congr_right fun _ => eq_comm

/-- Every call has a step. -/
theorem exists_step (r : FrameworkMirror κ δ) (m : SubscriptionMessage κ δ) :
    ∃ r', r.step m = some r' := by
  obtain ⟨observer, hobserver⟩ := Option.ne_none_iff_exists'.mp (step_isSome r.observer m)
  exact ⟨_, step_eq_some.mpr ⟨observer, hobserver, rfl⟩⟩

/-- What the clients hold, as the observer keeps it after a step. -/
theorem Synced.held_step (h : Synced r) {observer : SystemStatusOsObserver κ δ}
    (hobserver : r.observer.step m = some observer) :
    itemsAfter true r.held m.call = observer.clientItems := by
  funext c
  ext d
  rw [h.held]
  exact (mem_clientItems_step hobserver).symm

/-- The items that lose their last client, by what the clients hold and by what the observer
keeps. -/
theorem Synced.abandonedItems_eq (h : Synced r) {observer : SystemStatusOsObserver κ δ}
    (hobserver : r.observer.step m = some observer) :
    {e | ¬ r.observer.Unheld e ∧ observer.Unheld e} = abandonedItems r.held m.call := by
  ext e
  unfold abandonedItems Unheld
  rw [← h.held, ← h.held_step hobserver]
  exact and_congr_left' not_forall_not

/-- What the framework is subscribed to after a call, by what the clients have asked for. -/
theorem Synced.mem_upstream_step (h : Synced r) {observer : SystemStatusOsObserver κ δ}
    (hset : r.observer.mSubscriptionObj = true) (hfresh : r.observer.UpdateFresh m.call)
    (hcall : m.call ≠ .setSubscriptionObj) (hobserver : r.observer.step m = some observer) (d : δ) :
    d ∈ upstream observer.sent ↔
      (d ∈ upstream r.observer.sent ∨ d ∈ subscribedItems m.call ∧ ∀ c, d ∉ r.held c) ∧
        d ∉ m.freed '' abandonedItems r.held m.call := by
  rw [SystemStatusOsObserver.mem_upstream_step h.inverse hset hfresh hcall hobserver,
    h.abandonedItems_eq hobserver, h.held]
  exact Iff.rfl

/-- Setting the object makes the framework subscribed to what the clients hold. -/
theorem Synced.setSubscriptionObj (h : Synced r) {freed : δ → δ}
    (hstep : r.step ⟨.setSubscriptionObj, freed⟩ = some r') : Synced r' := by
  obtain ⟨observer, hobserver, rfl⟩ := step_eq_some.mp hstep
  cases hobserver
  have hunheld : ∀ d, ¬ r.observer.Unheld d ↔ ∃ c, d ∈ r.held c := by
    intro d
    rw [h.held, Unheld]
    push Not
    exact Iff.rfl
  have hset : r.observer.setSubscriptionObj.mSubscriptionObj = true := by
    unfold SystemStatusOsObserver.setSubscriptionObj
    dsimp only
    split <;> rfl
  have hheld : r.observer.setSubscriptionObj.clientItems = r.observer.clientItems := by
    unfold SystemStatusOsObserver.setSubscriptionObj
    dsimp only
    split <;> rfl
  have hup := upstream_setSubscriptionObj h.inverse
  refine ⟨h.inverse.setSubscriptionObj, h.held.trans hheld.symm, h.subset, fun hunset => ?_,
    fun _ => ⟨fun c d hd => ?_, fun d hd => ?_⟩⟩
  · rw [hset] at hunset
    cases hunset
  · rw [hup]
    exact Or.inr ((hunheld d).mpr ⟨c, h.subset c hd⟩)
  · rw [hup] at hd
    rcases hd with hd | hd
    · cases hobj : r.observer.mSubscriptionObj with
      | true => exact (h.mirrors hobj).2 d hd
      | false =>
          rw [h.unset hobj] at hd
          exact absurd hd (Set.notMem_empty d)
    · exact (hunheld d).mp hd

/-- A forwarded call keeps the framework in step, whatever is read from freed entries. -/
theorem Synced.step (h : Synced r) (hok : Forwarded r m.call) (hstep : r.step m = some r') :
    Synced r' := by
  by_cases hcall : m.call = .setSubscriptionObj
  · obtain ⟨call, freed⟩ := m
    obtain rfl : call = .setSubscriptionObj := hcall
    exact h.setSubscriptionObj hstep
  -- any other call is one for the observer
  obtain ⟨observer, hobserver, rfl⟩ := step_eq_some.mp hstep
  obtain ⟨hobj, hsent⟩ := mSubscriptionObj_step hobserver hcall
  have hsubset := itemsAfter_subset h.subset m.call
  refine ⟨(inverse_step_iff h.inverse hobserver).mpr hok.fresh, h.held_step hobserver,
    hsubset, fun hunset => ?_, fun hset => ?_⟩
  · rw [hobj] at hunset
    show upstream observer.sent = ∅
    rw [hsent hunset]
    exact h.unset hunset
  · rw [hobj] at hset
    have hmem := h.mem_upstream_step hset hok.fresh hcall hobserver
    refine ⟨fun c d hd => (hmem d).mpr ⟨?_, ?_⟩, fun d hd => ?_⟩
    · rcases mem_of_mem_itemsAfter hd with hd | hd
      · exact Or.inl ((h.mirrors hset).1 c hd)
      · -- the item is new: the framework has it already, or it is forwarded
        exact (hok.forwards hset d hd).imp_right fun hnone => ⟨hd, hnone⟩
    · -- nothing is named for removal when an item is still subscribed
      rintro ⟨e, he, -⟩
      have hd' : d ∈ itemsAfter false r.subscribed m.call c := hd
      rw [(hok.abandons hset ⟨e, he⟩).2 c] at hd'
      exact hd'
    · obtain ⟨hbefore, -⟩ := (hmem d).mp hd
      show ∃ c, d ∈ itemsAfter true r.held m.call c
      rcases hbefore with hbefore | ⟨hnew, -⟩
      · -- an item that loses its last client was not subscribed
        by_contra hnone
        have habandoned : d ∈ abandonedItems r.held m.call :=
          ⟨(h.mirrors hset).2 d hbefore, not_exists.mp hnone⟩
        exact (hok.abandons hset ⟨d, habandoned⟩).1 d habandoned hbefore
      · exact exists_mem_itemsAfter true r.held hnew

/-- A call that keeps the framework in step and the maps inverse for every content of the freed
memory was forwarded. The two bad contents are another item than the one that has to go, and an item
that has to stay. -/
theorem Synced.forwarded [Nontrivial δ] (h : Synced r) {call : SubscriptionCall κ δ}
    (hnext : ∀ freed r', r.step ⟨call, freed⟩ = some r' → Mirrors r' ∧ Inverse r'.observer) :
    Forwarded r call := by
  obtain ⟨r', hstep⟩ := exists_step r ⟨call, id⟩
  obtain ⟨observer, hobserver, rfl⟩ := step_eq_some.mp hstep
  obtain ⟨hmirrors, hinv⟩ := hnext id _ hstep
  have hfresh : r.observer.UpdateFresh call := (inverse_step_iff h.inverse hobserver).mp hinv
  have hupstream : r.observer.mSubscriptionObj = true → call ≠ .setSubscriptionObj →
      ∀ freed, ∃ sent : List (FrameworkSubscription δ),
        (∀ d, d ∈ upstream sent ↔
          (d ∈ upstream r.observer.sent ∨ d ∈ subscribedItems call ∧ ∀ c, d ∉ r.held c) ∧
            d ∉ freed '' abandonedItems r.held call) ∧
        (∀ c, itemsAfter false r.subscribed call c ⊆ upstream sent) ∧
          ∀ d ∈ upstream sent, ∃ c, d ∈ itemsAfter true r.held call c := by
    intro hset hcall freed
    obtain ⟨r', hstep⟩ := exists_step r ⟨call, freed⟩
    obtain ⟨observer, hobserver, rfl⟩ := step_eq_some.mp hstep
    obtain ⟨hmirrors, -⟩ := hnext freed _ hstep
    have hobj := (mSubscriptionObj_step hobserver hcall).1.trans hset
    exact ⟨observer.sent, h.mem_upstream_step (m := ⟨call, freed⟩) hset hfresh hcall hobserver,
      hmirrors hobj⟩
  refine ⟨hfresh, fun hset d hd => ?_, fun hset hsome => ?_⟩
  · have hcall : call ≠ .setSubscriptionObj := by
      rintro rfl
      cases hd
    obtain ⟨sent, hmem, hsub, -⟩ := hupstream hset hcall id
    obtain ⟨c, hc⟩ := exists_mem_itemsAfter false r.subscribed hd
    exact ((hmem d).mp (hsub c hc)).1.imp_right And.right
  · have hcall : call ≠ .setSubscriptionObj := by
      rintro rfl
      obtain ⟨d, ⟨c, hc⟩, hnone⟩ := hsome
      exact hnone c hc
    constructor
    · -- the memory names another item, so this one stays
      intro d hd hup
      obtain ⟨other, hother⟩ := exists_ne d
      obtain ⟨sent, hmem, -, hheld⟩ := hupstream hset hcall fun _ => other
      have hstays : d ∈ upstream sent := by
        refine (hmem d).mpr ⟨Or.inl hup, ?_⟩
        rintro ⟨e, -, heq⟩
        exact hother heq
      obtain ⟨c, hc⟩ := hheld d hstays
      exact hd.2 c hc
    · -- the memory names an item that is still subscribed
      refine fun c => Set.eq_empty_of_forall_notMem fun d hd => ?_
      obtain ⟨e, he⟩ := hsome
      obtain ⟨sent, hmem, hsub, -⟩ := hupstream hset hcall fun _ => d
      exact ((hmem d).mp (hsub c hd)).2 ⟨e, he, rfl⟩

/-- Two messages with the same call. They differ in what the freed memory holds, which no caller
knows or chooses. -/
def SameCall (m m' : SubscriptionMessage κ δ) : Prop := m.call = m'.call

/-- In a run whose messages are all forwarded, the framework's subscription mirrors those of the
clients in every state, whatever is read from freed entries. Conversely, if it does so for every
content of the freed memory and the maps stay inverse, then all messages are forwarded. The messages
`ms` are those with the calls of `messages`. -/
theorem mirrors_of_guarded [Nontrivial δ] (messages : List (SubscriptionMessage κ δ)) :
    (Guarded step (fun r m => Forwarded r m.call) (new : FrameworkMirror κ δ) messages →
      Along step Mirrors new messages) ∧
    ((∀ ms, List.Forall₂ SameCall messages ms →
        Along step (fun r => Mirrors r ∧ Inverse r.observer) (new : FrameworkMirror κ δ) ms) ↔
      ∀ ms, List.Forall₂ SameCall messages ms →
        Guarded step (fun r m => Forwarded r m.call) new ms) := by
  have hkeep : ∀ (r : FrameworkMirror κ δ) (m : SubscriptionMessage κ δ) r', Synced r →
      Forwarded r m.call → r.step m = some r' → Synced r' := fun _ _ _ h hok hstep =>
    h.step hok hstep
  refine ⟨Guarded.along (I := Synced) (fun _ h => h.mirrors) hkeep messages new synced_new, ?_⟩
  refine along_iff_guarded_of_choice (I := Synced) (R := SameCall) (fun _ => rfl)
    (fun _ h => ⟨h.mirrors, h.inverse⟩) hkeep (fun r m h hnext m' hm' => ?_) messages new
    synced_new
  rw [← show m.call = m'.call from hm']
  exact h.forwarded fun freed r' hstep => hnext ⟨m.call, freed⟩ rfl r' hstep

/-- Two clients share item 1, and the first one gives it up. A freed entry would read as item 2. -/
def sharedItem : List (SubscriptionMessage Nat Nat) :=
  [⟨.setSubscriptionObj, id⟩, ⟨.subscribe [1, 2] (some 0), id⟩, ⟨.subscribe [1] (some 1), id⟩,
    ⟨.unsubscribe [1] (some 0), fun _ => 2⟩]

/-- No entry is erased, so the framework stays subscribed to both items. -/
theorem mirrors_of_guarded_sharedItem :
    Along step Mirrors (new : FrameworkMirror Nat Nat) sharedItem := by
  refine (mirrors_of_guarded sharedItem).1 ?_
  refine ⟨⟨trivial, fun _ => nofun, fun _ ⟨_, ⟨c, hc⟩, hnone⟩ => absurd hc (hnone c)⟩,
    fun r hr => ?_⟩
  cases hr
  refine ⟨⟨trivial, fun _ d _ => Or.inr fun c hc => hc,
    fun _ h => absurd h not_abandons_subscribe⟩, fun r hr => ?_⟩
  cases hr
  -- the second client subscribes to an item that the framework has
  refine ⟨⟨trivial, fun _ d hd => Or.inl ?_, fun _ h => absurd h not_abandons_subscribe⟩,
    fun r hr => ?_⟩
  · obtain rfl := List.mem_singleton.mp hd
    exact Or.inr (by decide)
  cases hr
  refine ⟨⟨trivial, fun _ => nofun, fun _ h => absurd h (not_abandons_unsubscribe ?_)⟩,
    fun _ _ => trivial⟩
  intro d hd
  obtain rfl := List.mem_singleton.mp hd
  exact ⟨1, by decide, Or.inr List.mem_cons_self⟩

/-- A client requests the data of item 1, and then another one subscribes to it. -/
def requestThenSubscribe : List (SubscriptionMessage Nat Nat) :=
  [⟨.setSubscriptionObj, id⟩, ⟨.requestData [1] (some 0), id⟩, ⟨.subscribe [1] (some 1), id⟩]

/-- The subscription is not forwarded. -/
theorem not_mirrors_requestThenSubscribe :
    ¬ Along step Mirrors (new : FrameworkMirror Nat Nat) requestThenSubscribe := by
  intro h
  have hlast := h.last (t := (run step new requestThenSubscribe).get rfl) rfl
  have hmem : 1 ∈ upstream [FrameworkSubscription.requestData [1]] :=
    (hlast rfl).1 1 (Or.inr List.mem_cons_self)
  exact hmem

end FrameworkMirror

end LocHal.Core
