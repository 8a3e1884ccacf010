import Mathlib.Logic.Function.Basic
import Mathlib.Data.List.Basic

/-!
# `LocHal.Core.SystemStatus`: the data items of `SystemStatus.cpp`

`SystemStatus::eventDataItemNotify` records a data item in the report of its type. A report keeps
the last five entries, and a new entry is made when `equals` finds a difference to the newest one.
`collate` runs before the comparison; it changes network infos only, and writes the new mask back
into the item that was notified.

The types of the data items are those of `DataItemConcreteTypesBase.h`. The content of the two RIL
types is opaque, so its type `ρ` is a parameter, and `none` is the null pointer. The times at which
an entry was made and last reported are left out.
-/

set_option autoImplicit false

namespace LocHal.Core

/-! ### The data items -/

/-- The ids that `eventDataItemNotify` does not handle. -/
inductive OtherDataItemId where
  | rilVersion
  | voiceCall
  | oemGtpUploadTriggerReady
  | batteryLevel
  deriving DecidableEq, Repr

/-- `DataItemId`. -/
inductive DataItemId where
  | airplaneMode
  | enh
  | gpsState
  | nlpStatus
  | wifiHardwareState
  | networkInfo
  | rilServiceInfo
  | rilCellInfo
  | serviceStatus
  | model
  | manufacturer
  | assistedGps
  | screenState
  | powerConnectedState
  | timeZoneChange
  | timeChange
  | wifiSupplicantStatus
  | shutdownState
  | tac
  | mccMnc
  | btleScan
  | btScan
  | other (id : OtherDataItemId)
  deriving DecidableEq, Repr

/-- `NetworkInfoDataItemBase`. -/
structure NetworkInfo where
  mAllTypes : BitVec 64
  mType : Int
  mTypeName : String
  mSubTypeName : String
  mAvailable : Bool
  mConnected : Bool
  mRoaming : Bool
  deriving DecidableEq, Repr

/-- `TimeZoneChangeDataItemBase` and `TimeChangeDataItemBase`. -/
structure TimeInfo where
  mCurrTimeMillis : Int
  mRawOffsetTZ : Int
  mDstOffsetTZ : Int
  deriving DecidableEq, Repr

/-- `WifiSupplicantState`. -/
inductive WifiSupplicantState where
  | disconnected
  | interfaceDisabled
  | inactive
  | scanning
  | authenticating
  | associating
  | associated
  | fourWayHandshake
  | groupHandshake
  | completed
  | dormant
  | uninitialized
  | invalid
  deriving DecidableEq, Repr

/-- A MAC address. -/
abbrev MacAddress : Type := Vector UInt8 6

/-- `WifiSupplicantStatusDataItemBase`. -/
structure WifiSupplicantStatus where
  mState : WifiSupplicantState
  mApMacAddressValid : Bool
  mApMacAddress : MacAddress
  mWifiApSsidValid : Bool
  mWifiApSsid : String
  deriving DecidableEq, Repr

/-- `SrnDeviceScanDetailsDataItemBase`. -/
structure SrnDeviceScanDetails where
  mValidSrnData : Bool
  mApSrnRssi : Int
  mApSrnMacAddress : MacAddress
  mApSrnTimestamp : Int
  mRequestTimestamp : Int
  mReceiveTimestamp : Int
  mErrorCause : Int
  deriving DecidableEq, Repr

/-- A data item, with the fields of its type. -/
inductive DataItem (ρ : Type) where
  | airplaneMode (mMode : Bool)
  | enh (mEnabled : Bool)
  | gpsState (mEnabled : Bool)
  | nlpStatus (mEnabled : Bool)
  | wifiHardwareState (mEnabled : Bool)
  | networkInfo (info : NetworkInfo)
  | rilServiceInfo (mData : Option ρ)
  | rilCellInfo (mData : Option ρ)
  | serviceStatus (mServiceState : Int)
  | model (mModel : String)
  | manufacturer (mManufacturer : String)
  | assistedGps (mEnabled : Bool)
  | screenState (mState : Bool)
  | powerConnectedState (mState : Bool)
  | timeZoneChange (time : TimeInfo)
  | timeChange (time : TimeInfo)
  | wifiSupplicantStatus (status : WifiSupplicantStatus)
  | shutdownState (mState : Bool)
  | tac (mValue : String)
  | mccMnc (mValue : String)
  | btleScan (details : SrnDeviceScanDetails)
  | btScan (details : SrnDeviceScanDetails)
  | other (id : OtherDataItemId)
  deriving DecidableEq

/-- `NetworkInfoDataItemBase::typeToAllTypes`. `TYPE_UNKNOWN` is 9. -/
def typeToAllTypes (type : Int) : BitVec 64 :=
  if type ≥ 9 ∨ type < 0 then 0 else 1#64 <<< type.toNat

/-- The constructor of `SystemStatusNetworkInfo` that `eventConnectionStatus` uses. -/
def NetworkInfo.ofType (type : Int) (typeName subTypeName : String) (connected roaming : Bool) :
    NetworkInfo where
  mAllTypes := typeToAllTypes type
  mType := type
  mTypeName := typeName
  mSubTypeName := subTypeName
  mAvailable := connected && !roaming
  mConnected := connected
  mRoaming := roaming

/-- The mask after `SystemStatusNetworkInfo::collate`. -/
def NetworkInfo.collatedTypes (s curInfo : NetworkInfo) : BitVec 64 :=
  if s.mConnected then s.mAllTypes ||| curInfo.mAllTypes
  else if s.mAllTypes ≠ 0 then curInfo.mAllTypes &&& ~~~s.mAllTypes
  -- no more connections
  else s.mAllTypes

/-- `SystemStatusNetworkInfo::collate`. -/
def NetworkInfo.collate (s curInfo : NetworkInfo) : NetworkInfo :=
  { s with mAllTypes := s.collatedTypes curInfo }

namespace DataItem

variable {ρ : Type}

/-- `IDataItemCore::getId`. -/
def getId : DataItem ρ → DataItemId
  | airplaneMode _ => .airplaneMode
  | enh _ => .enh
  | gpsState _ => .gpsState
  | nlpStatus _ => .nlpStatus
  | wifiHardwareState _ => .wifiHardwareState
  | networkInfo _ => .networkInfo
  | rilServiceInfo _ => .rilServiceInfo
  | rilCellInfo _ => .rilCellInfo
  | serviceStatus _ => .serviceStatus
  | model _ => .model
  | manufacturer _ => .manufacturer
  | assistedGps _ => .assistedGps
  | screenState _ => .screenState
  | powerConnectedState _ => .powerConnectedState
  | timeZoneChange _ => .timeZoneChange
  | timeChange _ => .timeChange
  | wifiSupplicantStatus _ => .wifiSupplicantStatus
  | shutdownState _ => .shutdownState
  | tac _ => .tac
  | mccMnc _ => .mccMnc
  | btleScan _ => .btleScan
  | btScan _ => .btScan
  | other id => .other id

/-- `equals` of the entry `e` of a report for the new item `peer` of the same type. The pointers of
two RIL objects are compared, and each object that has data has a copy of its own. -/
def equals (e peer : DataItem ρ) : Bool :=
  match e, peer with
  | airplaneMode mMode, airplaneMode mMode' => mMode == mMode'
  | enh mEnabled, enh mEnabled' => mEnabled == mEnabled'
  | gpsState mEnabled, gpsState mEnabled' => mEnabled == mEnabled'
  | nlpStatus mEnabled, nlpStatus mEnabled' => mEnabled == mEnabled'
  | wifiHardwareState mEnabled, wifiHardwareState mEnabled' => mEnabled == mEnabled'
  | networkInfo info, networkInfo info' => info.mAllTypes == info'.mAllTypes
  | rilServiceInfo mData, rilServiceInfo mData' => mData.isNone && mData'.isNone
  | rilCellInfo mData, rilCellInfo mData' => mData.isNone && mData'.isNone
  | serviceStatus mServiceState, serviceStatus mServiceState' => mServiceState == mServiceState'
  | model mModel, model mModel' => mModel == mModel'
  | manufacturer mManufacturer, manufacturer mManufacturer' => mManufacturer == mManufacturer'
  | assistedGps mEnabled, assistedGps mEnabled' => mEnabled == mEnabled'
  | screenState mState, screenState mState' => mState == mState'
  | powerConnectedState mState, powerConnectedState mState' => mState == mState'
  | timeZoneChange time, timeZoneChange time' => time == time'
  | timeChange time, timeChange time' => time == time'
  | wifiSupplicantStatus status, wifiSupplicantStatus status' =>
      -- `mApMacAddress` is not compared
      status.mState == status'.mState &&
      status.mApMacAddressValid == status'.mApMacAddressValid &&
      status.mWifiApSsidValid == status'.mWifiApSsidValid &&
      status.mWifiApSsid == status'.mWifiApSsid
  | shutdownState mState, shutdownState mState' => mState == mState'
  | tac mValue, tac mValue' => mValue == mValue'
  | mccMnc mValue, mccMnc mValue' => mValue == mValue'
  | btleScan _, btleScan _ => true
  | btScan _, btScan _ => true
  | _, _ => false

/-- `collate`, against the newest entry of the report. -/
def collate (s cur : DataItem ρ) : DataItem ρ :=
  match s, cur with
  | networkInfo info, networkInfo curInfo => networkInfo (info.collate curInfo)
  | _, _ => s

/-- The copy that `push_back` makes. The copy constructor of the RIL types asks the new object of
the report for its data, and `SystemStatusServiceInfo` and `SystemStatusRilCellInfo` do not
override `setPeerData`, so the pointer of the copy is null. -/
def stored : DataItem ρ → DataItem ρ
  | rilServiceInfo _ => rilServiceInfo none
  | rilCellInfo _ => rilCellInfo none
  | s => s

@[simp] theorem getId_collate (s cur : DataItem ρ) : (s.collate cur).getId = s.getId := by
  unfold collate
  split <;> rfl

@[simp] theorem getId_stored (s : DataItem ρ) : s.stored.getId = s.getId := by
  unfold stored
  split <;> rfl

end DataItem

/-! ### The reports -/

/-- The reports of `SystemStatusReports` for data items. -/
inductive ReportName where
  | mAirplaneMode
  | mENH
  | mGPSState
  | mNLPStatus
  | mWifiHardwareState
  | mNetworkInfo
  | mRilServiceInfo
  | mRilCellInfo
  | mServiceStatus
  | mModel
  | mManufacturer
  | mAssistedGps
  | mScreenState
  | mPowerConnectState
  | mTimeZoneChange
  | mTimeChange
  | mWifiSupplicantStatus
  | mShutdownState
  | mTac
  | mMccMnc
  | mBtDeviceScanDetail
  | mBtLeDeviceScanDetail
  deriving DecidableEq, Repr

/-- The switch of `eventDataItemNotify`. -/
def reportOf : DataItemId → Option ReportName
  | .airplaneMode => some .mAirplaneMode
  | .enh => some .mENH
  | .gpsState => some .mGPSState
  | .nlpStatus => some .mNLPStatus
  | .wifiHardwareState => some .mWifiHardwareState
  | .networkInfo => some .mNetworkInfo
  | .rilServiceInfo => some .mRilServiceInfo
  | .rilCellInfo => some .mRilCellInfo
  | .serviceStatus => some .mServiceStatus
  | .model => some .mModel
  | .manufacturer => some .mManufacturer
  | .assistedGps => some .mAssistedGps
  | .screenState => some .mScreenState
  | .powerConnectedState => some .mPowerConnectState
  | .timeZoneChange => some .mTimeZoneChange
  | .timeChange => some .mTimeChange
  | .wifiSupplicantStatus => some .mWifiSupplicantStatus
  | .shutdownState => some .mShutdownState
  | .tac => some .mTac
  | .mccMnc => some .mMccMnc
  | .btleScan => some .mBtDeviceScanDetail
  | .btScan => some .mBtLeDeviceScanDetail
  | .other _ => none

/-- `SystemStatusItemBase::maxItem`. -/
def maxItem : Nat := 5

section Reports
variable {ρ : Type}

/-- `push_back`, and `erase` of the oldest entry when there are more than `maxItem`. -/
def pushReport (report : List (DataItem ρ)) (s : DataItem ρ) : List (DataItem ρ) :=
  let report' := report ++ [s.stored]
  if maxItem < report'.length then report'.tail else report'

/-- `SystemStatus::setIteminReport`: the report, the return value, and the notified item with the
mask that `collate` has written back. -/
def setIteminReport (report : List (DataItem ρ)) (s : DataItem ρ) :
    List (DataItem ρ) × Bool × DataItem ρ :=
  match report.getLast? with
  -- without an entry, `collate` is not called
  | none => (pushReport report s, true, s)
  | some last =>
      let s' := s.collate last
      if last.equals s' then (report, false, s') else (pushReport report s', true, s')

/-- The reports of `SystemStatus::mCache`. -/
abbrev SystemStatus (ρ : Type) : Type := ReportName → List (DataItem ρ)

/-- `SystemStatus::eventDataItemNotify`: the reports, the return value, and the notified item. -/
def eventDataItemNotify (mCache : SystemStatus ρ) (dataitem : DataItem ρ) :
    SystemStatus ρ × Bool × DataItem ρ :=
  match reportOf dataitem.getId with
  | none => (mCache, false, dataitem)
  | some name =>
      let result := setIteminReport (mCache name) dataitem
      (Function.update mCache name result.1, result.2)

/-- The new entry is the newest one. -/
theorem getLast?_pushReport (report : List (DataItem ρ)) (s : DataItem ρ) :
    (pushReport report s).getLast? = some s.stored := by
  unfold pushReport
  dsimp only
  split
  · rename_i hlong
    cases report with
    | nil => simp [maxItem] at hlong
    | cons a report =>
        rw [List.cons_append, List.tail_cons, List.getLast?_concat]
  · rw [List.getLast?_concat]

/-! The effect on the newest entry, from the newest entry before. -/

/-- The notified item afterwards. -/
def collated (newest : Option (DataItem ρ)) (s : DataItem ρ) : DataItem ρ :=
  match newest with
  | none => s
  | some last => s.collate last

/-- Whether there is a new entry. -/
def isRecorded (newest : Option (DataItem ρ)) (s : DataItem ρ) : Bool :=
  match newest with
  | none => true
  | some last => !last.equals (s.collate last)

/-- The newest entry afterwards. -/
def newestAfter (newest : Option (DataItem ρ)) (s : DataItem ρ) : Option (DataItem ρ) :=
  if isRecorded newest s then some (collated newest s).stored else newest

theorem setIteminReport_eq (report : List (DataItem ρ)) (s : DataItem ρ) :
    (setIteminReport report s).1.getLast? = newestAfter report.getLast? s ∧
    (setIteminReport report s).2 = (isRecorded report.getLast? s, collated report.getLast? s) := by
  unfold setIteminReport newestAfter
  cases hlast : report.getLast? with
  | none => exact ⟨getLast?_pushReport report s, rfl⟩
  | some last =>
      by_cases heq : last.equals (s.collate last) = true
      · simp [isRecorded, collated, heq, hlast]
      · simp [isRecorded, collated, heq, getLast?_pushReport]

/-- `eventDataItemNotify` for an id that it handles. -/
theorem eventDataItemNotify_eq (mCache : SystemStatus ρ) {dataitem : DataItem ρ}
    {name : ReportName} (hname : reportOf dataitem.getId = some name) :
    ((eventDataItemNotify mCache dataitem).1 name).getLast? =
        newestAfter (mCache name).getLast? dataitem ∧
      (eventDataItemNotify mCache dataitem).2 =
        (isRecorded (mCache name).getLast? dataitem, collated (mCache name).getLast? dataitem) ∧
      ∀ name', name' ≠ name → (eventDataItemNotify mCache dataitem).1 name' = mCache name' := by
  obtain ⟨hnewest, hresult⟩ := setIteminReport_eq (mCache name) dataitem
  unfold eventDataItemNotify
  rw [hname]
  dsimp only
  refine ⟨?_, hresult, fun name' hne => Function.update_of_ne hne _ _⟩
  rw [Function.update_self]
  exact hnewest

/-- A report keeps `maxItem` entries at most. -/
theorem length_setIteminReport {report : List (DataItem ρ)} (h : report.length ≤ maxItem)
    (s : DataItem ρ) : (setIteminReport report s).1.length ≤ maxItem := by
  have hpush : ∀ s' : DataItem ρ, (pushReport report s').length ≤ maxItem := by
    intro s'
    unfold pushReport
    dsimp only
    split
    · simp only [List.length_tail, List.length_append, List.length_singleton]
      omega
    · rename_i hshort
      omega
  unfold setIteminReport
  split
  · exact hpush s
  · dsimp only
    split
    · exact h
    · exact hpush _

/-- Different ids have different reports. -/
theorem reportOf_injective {id id' : DataItemId} {name : ReportName} (h : reportOf id = some name)
    (h' : reportOf id' = some name) : id = id' := by
  cases id <;> cases h <;> cases id' <;> first | rfl | cases h'

end Reports

end LocHal.Core
