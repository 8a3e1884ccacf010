import Mathlib.Data.List.Induction
import LocHal.Core.SystemStatus
import LocHal.Core.SystemStatusOsObserver

/-!
# `LocHal.Core.DataItemNotify`: how a changed data item reaches the clients

`SystemStatusOsObserver::notify` copies its items and posts a message. For each item the message
asks `SystemStatus` to record it, and on success compares it with its own cache. The ids of the
items that have changed there are collected. After the last item, each client of these ids is sent
the cached items of the ids that it is subscribed to.

`createNewDataItem` and `copy` are in another library. They make an equal item, and `copy` reports
whether the items differ.

`Propagates` says that a changed item is recorded as the newest entry of the report of its type,
and sent to every client that is subscribed to its id. `propagates_iff` is the exact condition, in
every state that can be reached and for every item of every call. The two caches of an id depend on
the items of that id only (`record_processItems`), which carries the proof.
-/

set_option autoImplicit false

namespace LocHal.Core

open LabelledRun
open LocHal.Util (LocUnorderedSetMap)

/-- The observer with its subscriptions and its cache, and the reports of `SystemStatus`. -/
structure DataItemNotify (κ ρ : Type) where
  observer : SystemStatusOsObserver κ DataItemId
  mCache : SystemStatus ρ
  mDataItemCache : DataItemId → Option (DataItem ρ)

/-- A message of the observer. -/
inductive NotifyLabel (κ ρ : Type) where
  | subscription (m : SubscriptionMessage κ DataItemId)
  | notify (dlist : List (DataItem ρ))

namespace DataItemNotify

section Defs
variable {κ ρ : Type} [DecidableEq κ] [DecidableEq ρ]

/-- The constructor. -/
def new : DataItemNotify κ ρ := ⟨.new, fun _ => [], fun _ => none⟩

/-- `SystemStatusOsObserver::updateCache`: the state, the return value, and the item with the mask
that `SystemStatus` has written back. -/
def updateCache (s : DataItemNotify κ ρ) (d : DataItem ρ) :
    DataItemNotify κ ρ × Bool × DataItem ρ :=
  let (mCache, ret, d') := eventDataItemNotify s.mCache d
  if ret then
    ({ s with
        mCache := mCache
        mDataItemCache := Function.update s.mDataItemCache d.getId (some d') },
      -- a new item of the cache, or what `copy` reports
      s.mDataItemCache d.getId ≠ some d', d')
  else ({ s with mCache := mCache }, false, d')

/-- The loop of `HandleNotify::proc` over the items: the state and `dataItemIdsToBeSent`. -/
def processItems (s : DataItemNotify κ ρ) (ids : UnorderedSet DataItemId) :
    List (DataItem ρ) → DataItemNotify κ ρ × UnorderedSet DataItemId
  | [] => (s, ids)
  | d :: dlist =>
      let (s', updated, _) := s.updateCache d
      s'.processItems (if updated then ids.insert d.getId else ids) dlist

/-- `SystemStatusOsObserver::sendCachedDataItems`: the call of the client, if there is one. -/
def sendCachedDataItems (s : DataItemNotify κ ρ) (ids : List DataItemId) (client : κ) :
    Option (κ × List (DataItem ρ)) :=
  let dataItems := (ids.filterMap s.mDataItemCache).reverse
  if dataItems.isEmpty then none else some (client, dataItems)

/-- The clients of `mDataItemToClients` for the ids. -/
def clientSet (s : DataItemNotify κ ρ) (ids : UnorderedSet DataItemId) : UnorderedSet κ :=
  ids.toList.foldl
    (fun clients each =>
      (s.observer.mDataItemToClients.getValSet each).toList.foldl .insert clients) ∅

/-- `HandleNotify::proc`: the state and the calls of the clients. -/
def handleNotify (s : DataItemNotify κ ρ) (mDiVec : List (DataItem ρ)) :
    DataItemNotify κ ρ × List (κ × List (DataItem ρ)) :=
  let (s', dataItemIdsToBeSent) := s.processItems ∅ mDiVec
  (s', (s'.clientSet dataItemIdsToBeSent).toList.filterMap fun client =>
    let dataItemIdsForThisClient :=
      (s'.observer.mClientToDataItems.getValSet client).toList.filter (· ∈ dataItemIdsToBeSent)
    s'.sendCachedDataItems dataItemIdsForThisClient client)

/-- One message. -/
def step (s : DataItemNotify κ ρ) : NotifyLabel κ ρ → Option (DataItemNotify κ ρ)
  | .subscription m => (s.observer.step m).map fun observer => { s with observer := observer }
  | .notify dlist => some (s.handleNotify dlist).1

/-! ### The property and the condition -/

/-- The report of the type of an id, by its name. -/
def matchingReport : DataItemId → Option ReportName
  | .btleScan => some .mBtLeDeviceScanDetail
  | .btScan => some .mBtDeviceScanDetail
  | id => reportOf id

/-- The newest entry of the report of the type. -/
def newestMatching (mCache : SystemStatus ρ) (id : DataItemId) : Option (DataItem ρ) :=
  (matchingReport id).bind fun name => (mCache name).getLast?

/-- The last item of the id that was recorded. -/
def lastRecorded (mCache : SystemStatus ρ) (id : DataItemId) : Option (DataItem ρ) :=
  (reportOf id).bind fun name => (mCache name).getLast?

/-- A data item without its timestamps. -/
def content : DataItem ρ → DataItem ρ
  | .btleScan details =>
      .btleScan
        { details with mApSrnTimestamp := 0, mRequestTimestamp := 0, mReceiveTimestamp := 0 }
  | .btScan details =>
      .btScan { details with mApSrnTimestamp := 0, mRequestTimestamp := 0, mReceiveTimestamp := 0 }
  | d => d

/-- The item differs from the last recorded one, or is the first one. -/
def Changed (last : Option (DataItem ρ)) (d : DataItem ρ) : Prop :=
  last.map content ≠ some (content d)

/-- The item `d` of the message with the items `before ++ d :: after`. When it differs from the last
recorded one, it becomes a new entry, the newest one of its report, and every client that is
subscribed to its id is sent it. The item is meant with the mask that `SystemStatus` writes back. -/
def Propagates (s : DataItemNotify κ ρ) (before : List (DataItem ρ)) (d : DataItem ρ)
    (after : List (DataItem ρ)) : Prop :=
  let reached := (s.processItems ∅ before).1
  let result := eventDataItemNotify reached.mCache d
  Changed (lastRecorded reached.mCache d.getId) d →
    (result.2.1 = true ∧ newestMatching result.1 d.getId = some result.2.2) ∧
      ∀ client, d.getId ∈ s.observer.mClientToDataItems.getValSet client →
        ∃ dataItems, (client, dataItems) ∈ (s.handleNotify (before ++ d :: after)).2 ∧
          result.2.2 ∈ dataItems

/-- The change is one that `equals` of the type sees, and the new entry is the item. The network
item is compared by its collated types only, and the supplicant status without the address of the
access point. The entry of a RIL item loses its data when it is copied into the report, so it is the
item only if that has none. A scan item goes to the report of the other scan type, and its `equals`
says that nothing ever changes. The other types compare and keep all that they carry. -/
def Visible (last : Option (DataItem ρ)) : DataItem ρ → Prop
  | .networkInfo info =>
      ∀ curInfo, last = some (.networkInfo curInfo) → info.collatedTypes curInfo ≠ curInfo.mAllTypes
  | .wifiSupplicantStatus status =>
      ∀ cur, last = some (.wifiSupplicantStatus cur) →
        { status with mApMacAddress := cur.mApMacAddress } ≠ cur
  | .rilServiceInfo mData => mData = none
  | .rilCellInfo mData => mData = none
  | .btleScan _ => False
  | .btScan _ => False
  | _ => True

/-- What `SystemStatus` and the observer keep of one id: the newest entry of its report and the
cached item. The two can differ, since an entry may have fields that the item lacked. -/
structure ItemRecord (ρ : Type) where
  newest : Option (DataItem ρ)
  cached : Option (DataItem ρ)

/-- The record of an id after one more item of the id. The entry and the cache are not written under
the same condition: `newestAfter` is the newest entry with what `SystemStatus` makes of the item,
and the observer caches the item, with the fields that were written back into it, only if
`SystemStatus` has recorded it. -/
def ItemRecord.next (r : ItemRecord ρ) (d : DataItem ρ) : ItemRecord ρ where
  newest := newestAfter r.newest d
  cached := if isRecorded r.newest d then some (collated r.newest d) else r.cached

/-- The record of an id. -/
def record (s : DataItemNotify κ ρ) (id : DataItemId) : ItemRecord ρ :=
  ⟨lastRecorded s.mCache id, s.mDataItemCache id⟩

/-- The items of an id. -/
def itemsOf (id : DataItemId) (dlist : List (DataItem ρ)) : List (DataItem ρ) :=
  dlist.filter fun d => d.getId = id

/-- The later items of the id leave the item in the cache of the observer. A message may have
several items of one id. The clients are sent what the cache holds at the end, so a later item that
is recorded takes the place of this one. -/
def Kept (r : ItemRecord ρ) (d : DataItem ρ) (after : List (DataItem ρ)) : Prop :=
  ((itemsOf d.getId after).foldl ItemRecord.next (r.next d)).cached =
    some (collated r.newest d)

/-- The item `e`, after the items `before`, is new to `SystemStatus` and to the observer. Only then
is its id among those whose clients are looked up. -/
def Updates (s : DataItemNotify κ ρ) (before : List (DataItem ρ)) (e : DataItem ρ) : Prop :=
  let r := (s.processItems ∅ before).1.record e.getId
  reportOf e.getId ≠ none ∧ isRecorded r.newest e = true ∧ r.cached ≠ some (collated r.newest e)

/-- The entry of an item that the message updates lists the client. It need not be the item in
question: a client that is looked up gets all updated items that it is subscribed to. -/
def Listed (s : DataItemNotify κ ρ) (dlist : List (DataItem ρ)) (client : κ) : Prop :=
  ∃ before e after, dlist = before ++ e :: after ∧ s.Updates before e ∧
    client ∈ s.observer.mDataItemToClients.getValSet e.getId

/-- The condition on the item `d` of the message with the items `before ++ d :: after`. If it is
changed, the change is visible to `SystemStatus`, or the item would be taken for a repetition. When
a client is subscribed to the id, no later item of the message replaces `d` in the cache, since the
observer reads the cache after the whole message. And the client is listed under an id that the
message updates, since the maps need not be inverse here. The condition reads the state before the
message and the items of it. -/
def Transparent (s : DataItemNotify κ ρ) (before : List (DataItem ρ)) (d : DataItem ρ)
    (after : List (DataItem ρ)) : Prop :=
  let r := (s.processItems ∅ before).1.record d.getId
  Changed r.newest d → Visible r.newest d ∧
    ∀ client, d.getId ∈ s.observer.mClientToDataItems.getValSet client →
      Kept r d after ∧ s.Listed (before ++ d :: after) client

end Defs

/-! ### The newest entries -/

variable {κ ρ : Type} {s : DataItemNotify κ ρ} {d : DataItem ρ}

theorem lastRecorded_of_reportOf {mCache : SystemStatus ρ} {id : DataItemId} {name : ReportName}
    (hname : reportOf id = some name) : lastRecorded mCache id = (mCache name).getLast? := by
  unfold lastRecorded
  rw [hname]
  rfl

/-- `eventDataItemNotify` for an item, by the last recorded item of its id. -/
theorem eventDataItemNotify_record (mCache : SystemStatus ρ) {name : ReportName}
    (hname : reportOf d.getId = some name) :
    lastRecorded (eventDataItemNotify mCache d).1 d.getId =
        newestAfter (lastRecorded mCache d.getId) d ∧
      (eventDataItemNotify mCache d).2 =
        (isRecorded (lastRecorded mCache d.getId) d, collated (lastRecorded mCache d.getId) d) := by
  obtain ⟨hnewest, hresult, -⟩ := eventDataItemNotify_eq mCache hname
  rw [lastRecorded_of_reportOf hname, lastRecorded_of_reportOf hname]
  exact ⟨hnewest, hresult⟩

/-- An item does not touch the reports of other ids. -/
theorem lastRecorded_of_ne (mCache : SystemStatus ρ) {id : DataItemId} (hne : id ≠ d.getId) :
    lastRecorded (eventDataItemNotify mCache d).1 id = lastRecorded mCache id := by
  cases hname : reportOf d.getId with
  | none =>
      unfold eventDataItemNotify
      rw [hname]
  | some name =>
      obtain ⟨-, -, hother⟩ := eventDataItemNotify_eq mCache hname
      unfold lastRecorded
      cases hid : reportOf id with
      | none => rfl
      | some name' =>
          have hname' : name' ≠ name := by
            rintro rfl
            exact hne (reportOf_injective hid hname)
          show ((eventDataItemNotify mCache d).1 name').getLast? = _
          rw [hother name' hname']
          rfl

@[simp] theorem getId_collated (newest : Option (DataItem ρ)) (d : DataItem ρ) :
    (collated newest d).getId = d.getId := by
  cases newest with
  | none => rfl
  | some last => exact DataItem.getId_collate d last

/-- The RIL types are the ones whose copy differs, before and after `collate`. -/
theorem stored_collated_iff (last : Option (DataItem ρ)) :
    (collated last d).stored = collated last d ↔ d.stored = d := by
  cases last with
  | none => exact Iff.rfl
  | some e =>
      show (d.collate e).stored = d.collate e ↔ _
      unfold DataItem.collate
      split
      · exact iff_of_true rfl rfl
      · exact Iff.rfl

/-- `equals` of the Wi-Fi status overlooks the MAC address, and nothing else. -/
theorem equals_wifiSupplicantStatus (cur status : WifiSupplicantStatus) :
    (DataItem.wifiSupplicantStatus cur : DataItem ρ).equals (.wifiSupplicantStatus status) = true ↔
      { status with mApMacAddress := cur.mApMacAddress } = cur := by
  obtain ⟨state, valid, mac, ssidValid, ssid⟩ := status
  obtain ⟨state', valid', mac', ssidValid', ssid'⟩ := cur
  constructor
  · intro h
    simp only [DataItem.equals, Bool.and_eq_true, beq_iff_eq] at h
    obtain ⟨⟨⟨rfl, rfl⟩, rfl⟩, rfl⟩ := h
    rfl
  · intro h
    cases h
    simp [DataItem.equals]

/-- With an entry in the report, a changed item of another type than Bluetooth is visible if and
only if it makes a new entry with its own content. -/
theorem visible_some {e : DataItem ρ} (hstored : e.stored = e) (hid : e.getId = d.getId)
    (hchanged : Changed (some e) d) (hbt : matchingReport d.getId = reportOf d.getId) :
    Visible (some e) d ↔ isRecorded (some e) d = true ∧ d.stored = d := by
  cases d <;> cases e <;> cases hid
  case networkInfo info curInfo =>
    simp only [Visible, Option.some.injEq, DataItem.networkInfo.injEq, forall_eq']
    simp only [isRecorded, DataItem.collate, DataItem.equals, NetworkInfo.collate,
      Bool.not_eq_true', beq_eq_false_iff_ne, DataItem.stored, and_true]
    exact ne_comm
  case wifiSupplicantStatus status cur =>
    simp only [Visible, Option.some.injEq, DataItem.wifiSupplicantStatus.injEq, forall_eq']
    simp only [isRecorded, DataItem.collate, DataItem.stored, and_true]
    rw [Bool.not_eq_true', ← Bool.not_eq_true, equals_wifiSupplicantStatus]
  case rilServiceInfo mData mData' =>
    cases hstored
    -- the entry has no data, so the changed item has
    have hdata : mData ≠ none := fun h => hchanged (by rw [h]; rfl)
    exact iff_of_false hdata fun h => hdata (by cases h.2; rfl)
  case rilCellInfo mData mData' =>
    cases hstored
    have hdata : mData ≠ none := fun h => hchanged (by rw [h]; rfl)
    exact iff_of_false hdata fun h => hdata (by cases h.2; rfl)
  all_goals
    simp_all [Visible, Changed, content, isRecorded, DataItem.stored, DataItem.equals,
      DataItem.collate, matchingReport, reportOf, DataItem.getId]

/-- The first item of an id that is not of Bluetooth. -/
theorem visible_none (hbt : matchingReport d.getId = reportOf d.getId) :
    Visible none d ↔ d.stored = d := by
  cases d <;> simp_all [Visible, DataItem.stored, matchingReport, reportOf, DataItem.getId, eq_comm]

/-- A change is visible if and only if the report is the one of the type, and there is a new entry
with the content of the item. -/
theorem visible_iff_recorded {last : Option (DataItem ρ)}
    (hlast : ∀ e ∈ last, e.stored = e ∧ e.getId = d.getId) (hchanged : Changed last d) :
    Visible last d ↔ matchingReport d.getId = reportOf d.getId ∧ isRecorded last d = true ∧
      (collated last d).stored = collated last d := by
  rw [stored_collated_iff]
  by_cases hbt : matchingReport d.getId = reportOf d.getId
  · rw [and_iff_right hbt]
    cases last with
    | none => exact (visible_none hbt).trans (and_iff_right rfl).symm
    | some e =>
        obtain ⟨hstored, hid⟩ := hlast e rfl
        exact visible_some hstored hid hchanged hbt
  · refine iff_of_false ?_ fun h => hbt h.1
    cases d with
    | btleScan details => exact id
    | btScan details => exact id
    | _ => exact absurd rfl hbt

/-- An entry equals itself. -/
theorem equals_self (hname : reportOf d.getId ≠ none) (hstored : d.stored = d) :
    d.equals d = true := by
  cases d <;> simp_all [DataItem.equals, DataItem.stored, reportOf, DataItem.getId, eq_comm]

/-! ### The invariant -/

/-- The newest entry is the copy of the cached item, and that is one of the id. -/
structure ItemRecord.Coherent (r : ItemRecord ρ) (id : DataItemId) : Prop where
  newest : r.newest = r.cached.map DataItem.stored
  id_eq : ∀ c ∈ r.cached, c.getId = id

/-- The records of all ids are coherent. -/
def Coherent (s : DataItemNotify κ ρ) : Prop := ∀ id, (s.record id).Coherent id

theorem ItemRecord.Coherent.next {r : ItemRecord ρ} (h : r.Coherent d.getId) :
    (r.next d).Coherent d.getId := by
  unfold ItemRecord.next newestAfter
  cases hrec : isRecorded r.newest d with
  | true =>
      refine ⟨rfl, fun c hc => ?_⟩
      cases hc
      exact getId_collated r.newest d
  | false => exact ⟨h.newest, h.id_eq⟩

/-- What `SystemStatus` has recorded of an id is a copy of an item of the id. -/
theorem Coherent.of_lastRecorded (h : Coherent s) (id : DataItemId) :
    ∀ e ∈ lastRecorded s.mCache id, e.stored = e ∧ e.getId = id := by
  intro e he
  obtain ⟨hnewest, hid⟩ := h id
  replace hnewest : lastRecorded s.mCache id = (s.mDataItemCache id).map .stored := hnewest
  rw [hnewest] at he
  obtain ⟨c, hc, rfl⟩ := Option.map_eq_some_iff.mp he
  refine ⟨?_, (DataItem.getId_stored c).trans (hid c hc)⟩
  cases c <;> rfl

/-- The reports of the two types of Bluetooth items are exchanged, so neither is recorded in the
report of its type. -/
theorem newestMatching_ne (h : Coherent s) (hbt : matchingReport d.getId ≠ reportOf d.getId) :
    newestMatching s.mCache d.getId ≠ some d := by
  intro hnewest
  cases d with
  | btleScan details =>
      have hother := (h.of_lastRecorded .btScan _ hnewest).2
      cases hother
  | btScan details =>
      have hother := (h.of_lastRecorded .btleScan _ hnewest).2
      cases hother
  | _ => exact hbt rfl

/-! ### The record of one id -/

variable [DecidableEq ρ]

/-- `updateCache` moves the record of the id of its item, and tells whether the cached item is
another one. -/
theorem record_updateCache (s : DataItemNotify κ ρ) {name : ReportName}
    (hname : reportOf d.getId = some name) :
    (s.updateCache d).1.record d.getId = (s.record d.getId).next d ∧
      (s.updateCache d).2.1 = (isRecorded (s.record d.getId).newest d &&
        decide (s.mDataItemCache d.getId ≠ some (collated (s.record d.getId).newest d))) := by
  obtain ⟨hnewest, hresult⟩ := eventDataItemNotify_record s.mCache hname
  unfold updateCache ItemRecord.next record
  -- the result is taken apart
  generalize eventDataItemNotify s.mCache d = result at hnewest hresult
  obtain ⟨mCache, ret, d'⟩ := result
  obtain ⟨rfl, rfl⟩ := Prod.mk.inj hresult
  dsimp only at hnewest ⊢
  cases hrec : isRecorded (lastRecorded s.mCache d.getId) d with
  | true =>
      simp only [if_true, Bool.true_and]
      rw [hnewest, Function.update_self]
      simp
  | false =>
      simp only [Bool.false_and, Bool.false_eq_true, if_false]
      rw [hnewest]
      simp

/-- The records of other ids stay. -/
theorem record_updateCache_of_ne (s : DataItemNotify κ ρ) {id : DataItemId} (hne : id ≠ d.getId) :
    (s.updateCache d).1.record id = s.record id := by
  unfold updateCache record
  dsimp only
  split
  · simp only [lastRecorded_of_ne s.mCache hne, Function.update_of_ne hne]
  · simp only [lastRecorded_of_ne s.mCache hne]

theorem mCache_updateCache (s : DataItemNotify κ ρ) (d : DataItem ρ) :
    (s.updateCache d).1.mCache = (eventDataItemNotify s.mCache d).1 := by
  unfold updateCache
  dsimp only
  split <;> rfl

/-- `updateCache` does not touch the subscriptions. -/
@[simp] theorem observer_updateCache (s : DataItemNotify κ ρ) (d : DataItem ρ) :
    (s.updateCache d).1.observer = s.observer := by
  unfold updateCache
  dsimp only
  split <;> rfl

@[simp] theorem observer_processItems (s : DataItemNotify κ ρ) (ids : UnorderedSet DataItemId)
    (dlist : List (DataItem ρ)) : (s.processItems ids dlist).1.observer = s.observer := by
  induction dlist generalizing s ids with
  | nil => rfl
  | cons d dlist ih => exact (ih _ _).trans (observer_updateCache s d)

/-- The record of an id after a list of items is the one after the items of the id. -/
theorem record_processItems (s : DataItemNotify κ ρ) {id : DataItemId} {name : ReportName}
    (hname : reportOf id = some name) (ids : UnorderedSet DataItemId) (dlist : List (DataItem ρ)) :
    (s.processItems ids dlist).1.record id =
      (itemsOf id dlist).foldl ItemRecord.next (s.record id) := by
  induction dlist generalizing s ids with
  | nil => rfl
  | cons d dlist ih =>
      have hrest := ih (s.updateCache d).1
        (if (s.updateCache d).2.1 then ids.insert d.getId else ids)
      refine hrest.trans ?_
      unfold itemsOf
      by_cases hid : d.getId = id
      · subst hid
        rw [List.filter_cons_of_pos (by simp), List.foldl_cons,
          (record_updateCache s hname).1]
      · rw [List.filter_cons_of_neg (by simpa using hid),
          record_updateCache_of_ne s fun heq => hid heq.symm]

/-- Items in two halves. -/
theorem processItems_append (s : DataItemNotify κ ρ) (ids : UnorderedSet DataItemId)
    (before after : List (DataItem ρ)) :
    s.processItems ids (before ++ after) =
      (s.processItems ids before).1.processItems (s.processItems ids before).2 after := by
  induction before generalizing s ids with
  | nil => rfl
  | cons d before ih => exact ih _ _

/-- `updateCache` without a report of the type. -/
theorem updateCache_of_none (s : DataItemNotify κ ρ) (hname : reportOf d.getId = none) :
    s.updateCache d = (s, false, d) := by
  unfold updateCache eventDataItemNotify
  rw [hname]
  rfl

/-- `updateCache` returns true exactly on an update. -/
theorem updateCache_iff (s : DataItemNotify κ ρ) (before : List (DataItem ρ)) :
    ((s.processItems ∅ before).1.updateCache d).2.1 = true ↔ s.Updates before d := by
  unfold Updates
  dsimp only
  cases hname : reportOf d.getId with
  | none =>
      rw [updateCache_of_none _ hname]
      simp
  | some name =>
      rw [(record_updateCache _ hname).2, Bool.and_eq_true, decide_eq_true_iff]
      exact (and_iff_right (by simp)).symm

/-- The ids that are to be sent are those of the updates. -/
theorem mem_processItems (s : DataItemNotify κ ρ) {id : DataItemId} (dlist : List (DataItem ρ)) :
    id ∈ (s.processItems ∅ dlist).2 ↔
      ∃ before e after, dlist = before ++ e :: after ∧ s.Updates before e ∧ e.getId = id := by
  induction dlist using List.reverseRecOn with
  | nil =>
      refine iff_of_false (UnorderedSet.not_mem_empty id) ?_
      rintro ⟨before, e, after, hnil, -⟩
      simp at hnil
  | append_singleton dlist d ih =>
      have hlast : id ∈ (s.processItems ∅ (dlist ++ [d])).2 ↔
          id ∈ (s.processItems ∅ dlist).2 ∨ s.Updates dlist d ∧ d.getId = id := by
        rw [processItems_append, ← updateCache_iff]
        show id ∈ (if ((s.processItems ∅ dlist).1.updateCache d).2.1 then _ else _) ↔ _
        split
        · rename_i hupdated
          rw [UnorderedSet.mem_insert]
          simp [hupdated, or_comm, eq_comm]
        · rename_i hsame
          simp [hsame]
      rw [hlast, ih]
      constructor
      · rintro (⟨before, e, after, rfl, hupd, hid⟩ | ⟨hupd, hid⟩)
        · exact ⟨before, e, after ++ [d], by simp, hupd, hid⟩
        · exact ⟨dlist, d, [], rfl, hupd, hid⟩
      · rintro ⟨before, e, after, heq, hupd, hid⟩
        -- the item is the last one or one before it
        rcases List.eq_nil_or_concat after with rfl | ⟨after', d', rfl⟩
        · obtain ⟨rfl, hd⟩ := List.append_inj' heq rfl
          cases hd
          exact Or.inr ⟨hupd, hid⟩
        · have hsplit : dlist ++ [d] = (before ++ e :: after') ++ [d'] := by simpa using heq
          obtain ⟨rfl, -⟩ := List.append_inj' hsplit rfl
          exact Or.inl ⟨before, e, after', rfl, hupd, hid⟩

theorem Coherent.updateCache (h : Coherent s) (d : DataItem ρ) : Coherent (s.updateCache d).1 := by
  intro id
  by_cases hid : id = d.getId
  · subst hid
    cases hname : reportOf d.getId with
    | none =>
        rw [updateCache_of_none s hname]
        exact h d.getId
    | some name =>
        rw [(record_updateCache s hname).1]
        exact (h d.getId).next
  · rw [record_updateCache_of_ne s hid]
    exact h id

theorem Coherent.processItems (h : Coherent s) (ids : UnorderedSet DataItemId)
    (dlist : List (DataItem ρ)) : Coherent (s.processItems ids dlist).1 := by
  induction dlist generalizing s ids with
  | nil => exact h
  | cons d dlist ih => exact ih (h.updateCache d) _

/-- A changed item is recorded as the newest entry of the report of its type if and only if the
change is visible. -/
theorem visible_iff (h : Coherent s) (hname : reportOf d.getId ≠ none)
    (hchanged : Changed (lastRecorded s.mCache d.getId) d) :
    Visible (lastRecorded s.mCache d.getId) d ↔
      (eventDataItemNotify s.mCache d).2.1 = true ∧
        newestMatching (eventDataItemNotify s.mCache d).1 d.getId =
          some (eventDataItemNotify s.mCache d).2.2 := by
  obtain ⟨name, hname⟩ := Option.ne_none_iff_exists'.mp hname
  obtain ⟨hnewest, hresult⟩ := eventDataItemNotify_record s.mCache hname
  rw [visible_iff_recorded (h.of_lastRecorded d.getId) hchanged]
  by_cases hbt : matchingReport d.getId = reportOf d.getId
  · have hmatching : newestMatching (eventDataItemNotify s.mCache d).1 d.getId =
        newestAfter (lastRecorded s.mCache d.getId) d := by
      rw [← hnewest]
      unfold newestMatching
      rw [hbt]
      rfl
    rw [hmatching, hresult, and_iff_right hbt]
    refine and_congr_right fun hrec => ?_
    unfold newestAfter
    rw [if_pos hrec, Option.some.injEq]
  · refine iff_of_false (fun hrec => hbt hrec.1) fun hrec => ?_
    have hne := newestMatching_ne (d := collated (lastRecorded s.mCache d.getId) d)
      (h.updateCache d) (by rw [getId_collated]; exact hbt)
    rw [mCache_updateCache, getId_collated] at hne
    rw [hresult] at hrec
    exact hne hrec.2

/-- A visible change is an update for the observer. -/
theorem updates_of_visible (h : Coherent s) {before : List (DataItem ρ)}
    (hname : reportOf d.getId ≠ none)
    (hchanged : Changed ((s.processItems ∅ before).1.record d.getId).newest d)
    (hvisible : Visible ((s.processItems ∅ before).1.record d.getId).newest d) :
    s.Updates before d := by
  have hreached := h.processItems ∅ before
  have hlast : ∀ e ∈ ((s.processItems ∅ before).1.record d.getId).newest,
      e.stored = e ∧ e.getId = d.getId := hreached.of_lastRecorded d.getId
  obtain ⟨-, hrec, hcopy⟩ := (visible_iff_recorded hlast hchanged).mp hvisible
  refine ⟨hname, hrec, fun hcached => ?_⟩
  -- the new item would be the newest entry already, and that equals itself
  have hnewest := (hreached d.getId).newest
  rw [hcached, Option.map_some, hcopy] at hnewest
  have hself : (collated ((s.processItems ∅ before).1.record d.getId).newest d).equals
      (collated ((s.processItems ∅ before).1.record d.getId).newest d) = true :=
    equals_self (by rw [getId_collated]; exact hname) hcopy
  generalize hd' : collated ((s.processItems ∅ before).1.record d.getId).newest d = d'
    at hnewest hself
  rw [hnewest] at hrec hd'
  replace hd' : d.collate d' = d' := hd'
  replace hrec : (!d'.equals (d.collate d')) = true := hrec
  rw [hd', hself] at hrec
  cases hrec

/-- The cached item of the id of `d` after the message, from the record before `d`. -/
theorem cached_processItems (s : DataItemNotify κ ρ) (hname : reportOf d.getId ≠ none)
    (before after : List (DataItem ρ)) :
    (s.processItems ∅ (before ++ d :: after)).1.mDataItemCache d.getId =
      some (collated ((s.processItems ∅ before).1.record d.getId).newest d) ↔
      Kept ((s.processItems ∅ before).1.record d.getId) d after := by
  obtain ⟨name, hname⟩ := Option.ne_none_iff_exists'.mp hname
  have hrecord := record_processItems (s.processItems ∅ before).1 hname
    (s.processItems ∅ before).2 (d :: after)
  rw [← processItems_append] at hrecord
  unfold itemsOf at hrecord
  rw [List.filter_cons_of_pos (by simp), List.foldl_cons] at hrecord
  unfold Kept itemsOf
  rw [← hrecord]
  exact Iff.rfl

/-! ### What the clients are sent -/

variable [DecidableEq κ]

omit [DecidableEq ρ] in
theorem mem_clientSet {ids : UnorderedSet DataItemId} {client : κ} :
    client ∈ s.clientSet ids ↔
      ∃ id ∈ ids, client ∈ s.observer.mDataItemToClients.getValSet id := by
  unfold clientSet
  refine (UnorderedSet.foldl_or_iff (P := fun clients => client ∈ clients)
    (Q := fun id => client ∈ s.observer.mDataItemToClients.getValSet id)
    (fun clients id => UnorderedSet.mem_foldl_insert _) ids.toList ∅).trans ?_
  simp only [UnorderedSet.not_mem_empty, false_or]
  exact Iff.rfl

/-- A client is sent an item when it is a client of an id that is to be sent, and the item is the
cached one of such an id that is among its own. -/
theorem mem_handleNotify {dlist : List (DataItem ρ)} {client : κ} {item : DataItem ρ} :
    (∃ dataItems, (client, dataItems) ∈ (s.handleNotify dlist).2 ∧ item ∈ dataItems) ↔
      (∃ id ∈ (s.processItems ∅ dlist).2,
        client ∈ s.observer.mDataItemToClients.getValSet id) ∧
      ∃ id ∈ (s.processItems ∅ dlist).2, id ∈ s.observer.mClientToDataItems.getValSet client ∧
        (s.processItems ∅ dlist).1.mDataItemCache id = some item := by
  unfold handleNotify
  dsimp only
  simp only [List.mem_filterMap, sendCachedDataItems, observer_processItems]
  rw [show (∃ id ∈ (s.processItems ∅ dlist).2,
    client ∈ s.observer.mDataItemToClients.getValSet id) ↔
      client ∈ (s.processItems ∅ dlist).1.clientSet (s.processItems ∅ dlist).2 by
    rw [mem_clientSet, observer_processItems]]
  constructor
  · rintro ⟨dataItems, ⟨c, hc, hsome⟩, hitem⟩
    split at hsome
    · cases hsome
    · cases hsome
      refine ⟨hc, ?_⟩
      rw [List.mem_reverse, List.mem_filterMap] at hitem
      obtain ⟨id, hid, hcached⟩ := hitem
      rw [List.mem_filter] at hid
      exact ⟨id, of_decide_eq_true hid.2, hid.1, hcached⟩
  · rintro ⟨hc, id, hid, hmine, hcached⟩
    have hitem : item ∈ ((((s.observer.mClientToDataItems.getValSet client).toList.filter
        (· ∈ (s.processItems ∅ dlist).2)).filterMap
          (s.processItems ∅ dlist).1.mDataItemCache).reverse) := by
      rw [List.mem_reverse, List.mem_filterMap]
      exact ⟨id, List.mem_filter.mpr ⟨hmine, decide_eq_true hid⟩, hcached⟩
    refine ⟨_, ⟨client, hc, ?_⟩, hitem⟩
    rw [if_neg (by simpa using List.ne_nil_of_mem hitem)]

/-- The records are coherent in every reachable state. -/
theorem coherent_run {labels : List (NotifyLabel κ ρ)} (hrun : run step new labels = some s) :
    Coherent s := by
  refine run_invariant (P := Coherent) (fun s label t h ht => ?_) labels new s (fun id => ?_) hrun
  · cases label with
    | subscription m =>
        obtain ⟨observer, -, rfl⟩ := Option.map_eq_some_iff.mp ht
        exact h
    | notify dlist =>
        cases ht
        exact h.processItems ∅ dlist
  · refine ⟨?_, fun c hc => by cases hc⟩
    show lastRecorded (fun _ => []) id = none
    unfold lastRecorded
    cases reportOf id <;> rfl

/-- In every reachable state of the observer, an item of a handled id propagates if and only if the
condition holds.

The condition follows an item on its way. The comparison of its type has to see the difference, the
report of its type has to be its own, no later item of the same call may replace it in the cache,
and the map of the items has to list the subscribers. -/
theorem propagates_iff (labels : List (NotifyLabel κ ρ)) (s : DataItemNotify κ ρ)
    (hrun : run step new labels = some s) (before : List (DataItem ρ)) (d : DataItem ρ)
    (after : List (DataItem ρ)) (hname : reportOf d.getId ≠ none) :
    s.Propagates before d after ↔ s.Transparent before d after := by
  have h := coherent_run hrun
  have hreached := h.processItems ∅ before
  have hfinal := h.processItems ∅ (before ++ d :: after)
  obtain ⟨name, hsome⟩ := Option.ne_none_iff_exists'.mp hname
  have hresult : (eventDataItemNotify (s.processItems ∅ before).1.mCache d).2.2 =
      collated ((s.processItems ∅ before).1.record d.getId).newest d := by
    rw [(eventDataItemNotify_record _ hsome).2]
    rfl
  unfold Propagates Transparent
  dsimp only
  refine imp_congr_right fun hchanged => ?_
  rw [← visible_iff hreached hname hchanged]
  refine and_congr_right fun hvisible => forall₂_congr fun client hmine => ?_
  rw [mem_handleNotify, hresult]
  have hlisted : (∃ id ∈ (s.processItems ∅ (before ++ d :: after)).2,
      client ∈ s.observer.mDataItemToClients.getValSet id) ↔
        s.Listed (before ++ d :: after) client := by
    simp only [mem_processItems]
    constructor
    · rintro ⟨-, ⟨before', e, after', hsplit, hupd, rfl⟩, hclient⟩
      exact ⟨before', e, after', hsplit, hupd, hclient⟩
    · rintro ⟨before', e, after', hsplit, hupd, hclient⟩
      exact ⟨e.getId, ⟨before', e, after', hsplit, hupd, rfl⟩, hclient⟩
  rw [hlisted, and_comm]
  refine and_congr_left fun _ => ?_
  rw [← cached_processItems s hname]
  constructor
  · rintro ⟨id, -, -, hcached⟩
    -- a cached item is one of its id
    have hid := (hfinal id).id_eq _ hcached
    rw [getId_collated] at hid
    subst hid
    exact hcached
  · intro hcached
    refine ⟨d.getId, ?_, hmine, hcached⟩
    exact (mem_processItems s _).mpr
      ⟨before, d, after, rfl, updates_of_visible h hname hchanged hvisible, rfl⟩

/-- A client subscribes to the Wi-Fi status and to the airplane mode. -/
def subscribed : List (NotifyLabel Unit Unit) :=
  [.subscription ⟨.subscribe [.wifiSupplicantStatus, .airplaneMode] (some ()), id⟩,
    .notify [.airplaneMode false]]

/-- The airplane mode is switched on, and the client gets it. -/
theorem propagates_airplaneMode :
    ∃ s, run step new subscribed = some s ∧ s.Propagates [] (.airplaneMode true) [] := by
  refine ⟨(run step new subscribed).get rfl, rfl, ?_⟩
  refine (propagates_iff subscribed _ rfl [] (.airplaneMode true) [] (by decide)).mpr ?_
  refine fun _ => ⟨trivial, fun client _ => ⟨rfl, [], .airplaneMode true, [], rfl, ?_, ?_⟩⟩
  · unfold Updates
    decide
  · cases client
    decide

/-- A Wi-Fi status with an access point. -/
def associated (mApMacAddress : MacAddress) : DataItem Unit :=
  .wifiSupplicantStatus
    { mState := .completed
      mApMacAddressValid := true
      mApMacAddress := mApMacAddress
      mWifiApSsidValid := true
      mWifiApSsid := "ap" }

/-- The phone roams to another access point of the network. The new MAC address is not recorded. -/
theorem not_propagates_roaming :
    ∃ s, run step (new : DataItemNotify Unit Unit)
        (subscribed ++ [.notify [associated #v[0, 0, 0, 0, 0, 1]]]) = some s ∧
      ¬ s.Propagates [] (associated #v[0, 0, 0, 0, 0, 2]) [] := by
  refine ⟨(run step new (subscribed ++ [.notify [associated #v[0, 0, 0, 0, 0, 1]]])).get rfl, rfl,
    fun h => ?_⟩
  have hrecorded := (h (by unfold Changed; decide)).1.1
  revert hrecorded
  decide

end DataItemNotify

end LocHal.Core
