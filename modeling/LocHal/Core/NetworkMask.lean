import Mathlib.Order.BooleanAlgebra.Set
import LocHal.Core.SystemStatus
import LocHal.Lib.LabelledRun

/-!
# `LocHal.Core.NetworkMask`: the connected networks

`SystemStatusNetworkInfo::collate` folds the network infos into one mask: a connected network joins
the types of the newest entry, a disconnected one leaves them, and a disconnected one without types
clears them. `connectedAfter` is the same over sets of types. `NetworkMask` runs
`eventDataItemNotify` beside it.

With an empty report `collate` is not called. So a network that is disconnected in the first event
is recorded as connected. `along_maskCorrect_iff` shows that this is the only case in which the
mask is wrong.

`typesOf` reads a mask as a set of types, so that the bit operations of `collate` are operations on
sets (`typesOf_or`, `typesOf_and_not`), and `typesOf_collatedTypes` says that it computes the
connected types from those of the entry. An entry equal to the new one is not replaced, and its mask
is then the same one (`Recorded.step`).
-/

set_option autoImplicit false

namespace LocHal.Core

open LabelledRun

/-- The types of a mask: the numbers of its bits. -/
def typesOf (mask : BitVec 64) : Set Nat := {i | mask.getLsbD i = true}

/-- The types whose latest event was a connection, after one more event. A disconnection without
types is one of every type. -/
def connectedAfter (connected : Set Nat) (info : NetworkInfo) : Set Nat :=
  if info.mConnected then connected ∪ typesOf info.mAllTypes
  else if info.mAllTypes ≠ 0 then connected \ typesOf info.mAllTypes
  else ∅

@[simp] theorem typesOf_zero : typesOf 0#64 = ∅ := by
  ext i
  simp [typesOf]

theorem typesOf_or (m m' : BitVec 64) : typesOf (m ||| m') = typesOf m ∪ typesOf m' := by
  ext i
  simp [typesOf]

theorem typesOf_and_not (m m' : BitVec 64) : typesOf (m &&& ~~~m') = typesOf m \ typesOf m' := by
  ext i
  simp only [typesOf, BitVec.getLsbD_and, BitVec.getLsbD_not, Set.mem_sdiff, Set.mem_ofPred_eq]
  by_cases hi : i < 64
  · simp [hi]
  · have hout : m.getLsbD i = false := BitVec.getLsbD_of_ge m i (by omega)
    simp [hout]

/-- A mask has no type only when it is 0. -/
theorem typesOf_ne_empty {mask : BitVec 64} (h : mask ≠ 0#64) : typesOf mask ≠ ∅ := by
  intro hempty
  refine h (BitVec.eq_of_getLsbD_eq fun i _ => ?_)
  have hnot : i ∉ typesOf mask := by
    rw [hempty]
    exact Set.notMem_empty i
  simpa [typesOf] using hnot

/-- `collate` is the same over masks. -/
theorem typesOf_collatedTypes (s curInfo : NetworkInfo) :
    typesOf (s.collatedTypes curInfo) = connectedAfter (typesOf curInfo.mAllTypes) s := by
  unfold NetworkInfo.collatedTypes connectedAfter
  split
  · rw [typesOf_or, Set.union_comm]
  · split
    · exact typesOf_and_not _ _
    · rename_i hzero
      rw [not_not.mp hzero]
      exact typesOf_zero

/-- The reports beside the set of connected types. `notified` is the item of the last event as
`eventDataItemNotify` has left it. -/
structure NetworkMask (ρ : Type) where
  mCache : SystemStatus ρ
  notified : Option (DataItem ρ)
  connected : Set Nat

namespace NetworkMask

variable {ρ : Type} {s t : NetworkMask ρ} {info : NetworkInfo}

/-- The empty cache. -/
def new : NetworkMask ρ := ⟨fun _ => [], none, ∅⟩

/-- One event. -/
def step (s : NetworkMask ρ) (info : NetworkInfo) : Option (NetworkMask ρ) :=
  let result := eventDataItemNotify s.mCache (.networkInfo info)
  some ⟨result.1, some result.2.2, connectedAfter s.connected info⟩

/-- The newest entry of `mNetworkInfo`. -/
def newest (s : NetworkMask ρ) : Option (DataItem ρ) := (s.mCache .mNetworkInfo).getLast?

/-- The item is a network info with the connected types as its mask. -/
def HasMask (s : NetworkMask ρ) (item : DataItem ρ) : Prop :=
  ∃ info, item = .networkInfo info ∧ typesOf info.mAllTypes = s.connected

/-- After an event, the newest entry and the notified item have the connected types as their mask.
The item is what the clients are sent, and the entry is what the next event is collated with. -/
def MaskCorrect (s : NetworkMask ρ) : Prop :=
  ∀ item ∈ s.notified, s.HasMask item ∧ ∃ entry ∈ s.newest, s.HasMask entry

/-- What one event does, from the newest entry before. -/
theorem newest_step (h : step s info = some t) :
    t.newest = newestAfter s.newest (.networkInfo info) ∧
    t.notified = some (collated s.newest (.networkInfo info)) ∧
    t.connected = connectedAfter s.connected info := by
  cases h
  have hname : reportOf (DataItem.networkInfo info : DataItem ρ).getId = some .mNetworkInfo := rfl
  obtain ⟨hnewest, hresult, -⟩ := eventDataItemNotify_eq s.mCache hname
  refine ⟨hnewest, ?_, rfl⟩
  dsimp only
  rw [hresult]
  rfl

/-- The newest entry has the connected types as its mask. -/
def Recorded (s : NetworkMask ρ) : Prop := ∃ entry ∈ s.newest, s.HasMask entry

/-- An event after the first one. The entry that is kept has the mask that a new one would get. -/
theorem Recorded.step (hs : Recorded s) (h : step s info = some t) :
    Recorded t ∧ MaskCorrect t := by
  obtain ⟨entry, hentry, last, rfl, hlast⟩ := hs
  obtain ⟨hnewest, hnotified, hconnected⟩ := newest_step h
  rw [Option.mem_def.mp hentry] at hnewest hnotified
  have hmask : typesOf (info.collatedTypes last) = t.connected := by
    rw [typesOf_collatedTypes, hlast, hconnected]
  have hitem : t.HasMask (.networkInfo (info.collate last)) := ⟨_, rfl, hmask⟩
  have hrecorded : Recorded t := by
    by_cases hsame : last.mAllTypes = info.collatedTypes last
    · have hkept : isRecorded (some (.networkInfo last : DataItem ρ)) (.networkInfo info) =
          false := by
        simp [isRecorded, DataItem.collate, DataItem.equals, NetworkInfo.collate, hsame]
      rw [newestAfter, hkept] at hnewest
      exact ⟨_, hnewest, last, rfl, hsame ▸ hmask⟩
    · have hnew : isRecorded (some (.networkInfo last : DataItem ρ)) (.networkInfo info) =
          true := by
        simp [isRecorded, DataItem.collate, DataItem.equals, NetworkInfo.collate, hsame]
      rw [newestAfter, if_pos hnew] at hnewest
      exact ⟨_, hnewest, hitem⟩
  refine ⟨hrecorded, fun item hmem => ⟨?_, hrecorded⟩⟩
  rw [hnotified] at hmem
  cases hmem
  exact hitem

/-- The first event is recorded as it is. -/
theorem first_step (h : step (new : NetworkMask ρ) info = some t) :
    t.newest = some (.networkInfo info) ∧ t.notified = some (.networkInfo info) ∧
      t.connected = connectedAfter ∅ info := newest_step h

/-- The condition on the first event: it is a connection, or has no types. The first event becomes
the entry as it is, with the mask that it came with, and for a disconnection that is the mask of
what was disconnected. All later events are collated with an entry. -/
def FirstConnected (info : NetworkInfo) : Prop := info.mConnected = true ∨ info.mAllTypes = 0

instance (info : NetworkInfo) : Decidable (FirstConnected info) :=
  inferInstanceAs (Decidable (_ ∨ _))

/-- The mask of the first event is right if and only if the event is not the disconnection of
some type. -/
theorem first_mask_iff (info : NetworkInfo) :
    typesOf info.mAllTypes = connectedAfter ∅ info ↔ FirstConnected info := by
  unfold connectedAfter FirstConnected
  by_cases hconnected : info.mConnected = true
  · simp [hconnected]
  · by_cases hzero : info.mAllTypes = 0#64
    · simp [hzero]
    · simp [hconnected, hzero, typesOf_ne_empty hzero]

theorem maskCorrect_first_iff (h : step (new : NetworkMask ρ) info = some t) :
    Recorded t ∧ MaskCorrect t ↔ FirstConnected info := by
  obtain ⟨hnewest, hnotified, hconnected⟩ := first_step h
  have hmask : t.HasMask (.networkInfo info) ↔ FirstConnected info := by
    rw [← first_mask_iff info, ← hconnected]
    constructor
    · rintro ⟨info', heq, htypes⟩
      cases heq
      exact htypes
    · intro htypes
      exact ⟨info, rfl, htypes⟩
  rw [← hmask]
  constructor
  · rintro ⟨-, hcorrect⟩
    exact (hcorrect _ hnotified).1
  · intro hitem
    have hrecorded : Recorded t := ⟨_, hnewest, hitem⟩
    refine ⟨hrecorded, fun item hmem => ⟨?_, hrecorded⟩⟩
    rw [hnotified] at hmem
    cases hmem
    exact hitem

/-- After every event the mask is the set of connected types, in the newest entry and in the
notified item, if and only if the first event is not the disconnection of some type.

The first item is recorded as it comes, since there is nothing to collate it with. A connection has
the right mask by itself, and so has the disconnection of everything. -/
theorem along_maskCorrect_iff (events : List NetworkInfo) :
    Along step MaskCorrect (new : NetworkMask ρ) events ↔
      ∀ info ∈ events.head?, FirstConnected info := by
  have hnew : MaskCorrect (new : NetworkMask ρ) := fun _ hmem => by cases hmem
  cases events with
  | nil => exact iff_of_true hnew fun _ hmem => by cases hmem
  | cons info events =>
      have hfirst : ∀ t, step (new : NetworkMask ρ) info = some t →
          (Recorded t ∧ MaskCorrect t ↔ FirstConnected info) := fun _ h => maskCorrect_first_iff h
      constructor
      · rintro ⟨-, hrest⟩ info' hmem
        cases hmem
        have hcorrect := (hrest _ rfl).head
        obtain ⟨hitem, hrecorded⟩ := hcorrect _ rfl
        exact (hfirst _ rfl).mp ⟨hrecorded, hcorrect⟩
      · intro hok
        refine ⟨hnew, fun t ht => ?_⟩
        exact along_of_invariant (I := fun s => Recorded s ∧ MaskCorrect s) (fun _ hs => hs.2)
          (fun _ _ _ hs h => hs.1.step h) events t ((hfirst t ht).mpr (hok info rfl))

/-- Wi-Fi is disconnected in the first event. -/
def wifiDisconnected : NetworkInfo := .ofType 1 "" "" false false

/-- It is recorded as connected. -/
theorem not_along_maskCorrect :
    ¬ Along step MaskCorrect (new : NetworkMask Unit) [wifiDisconnected] := by
  rw [along_maskCorrect_iff]
  intro h
  exact absurd (h wifiDisconnected rfl) (by decide)

end NetworkMask

end LocHal.Core
