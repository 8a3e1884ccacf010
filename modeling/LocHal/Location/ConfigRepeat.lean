import LocHal.Lib.LabelledRun
import LocHal.Location.ControlResponses

/-!
# `LocHal.Location.ConfigRepeat`: configurations that are the same as before

`locAPIGnssUpdateConfig` returns success at once when the bytes of the configuration are those that
it stored last. They are stored before the outcome is known, they are zero at the start, and they
hold the address of the host name in place of its characters.

`SkipIsRepeat` is what the early return is for: the configuration is that of the latest call that
`gnssUpdateConfig` accepted. `skipIsRepeat_iff` says when a run has this property, in terms of the
last call that was handed on, whose bytes are the stored ones (`StoresLast`).

The members of the configuration, the address of the host name and the bytes between the members are
kept apart (`GnssConfigBytes`), since `memcmp` compares them all. The string behind the address is
an input of each call (`text`), as the caller may write another one there between two calls. So is
the answer of the service.

`StoresLast` is the invariant: the stored bytes are those of the last call that was handed on, or
zeros. With it, a call is skipped if and only if its bytes are these
(`locAPIGnssUpdateConfig_skips_iff`), and the property of one call becomes the condition on it
(`skipIsRepeat_iff_repeatsLast`). Both are about the history of the calls, and the client is gone
from the condition.
-/

set_option autoImplicit false

namespace LocHal.Location

open LabelledRun

namespace ConfigRepeat

/-! ### Configurations in memory -/

/-- The members of `GnssConfig` and of its assistance server, without the host name. -/
structure ConfigFields where
  size : BitVec 64
  flags : BitVec 32
  gpsLock : BitVec 32
  suplVersion : BitVec 32
  assistanceServerSize : BitVec 64
  assistanceServerType : BitVec 32
  assistanceServerPort : BitVec 32
  lppProfile : BitVec 32
  lppeControlPlaneMask : BitVec 16
  lppeUserPlaneMask : BitVec 16
  aGlonassPositionProtocolMask : BitVec 16
  emergencyPdnForEmergencySupl : BitVec 32
  suplEmergencyServices : BitVec 32
  suplModeMask : BitVec 16
  deriving DecidableEq, Repr

/-- The bytes of a `GnssConfig`: the members, the address of the host name, and the 16 bytes
between the members. -/
structure GnssConfigBytes where
  fields : ConfigFields
  hostName : BitVec 64
  padding : BitVec 128
  deriving DecidableEq, Repr

/-- `memset(&mConfig, 0, sizeof(GnssConfig))`. -/
def GnssConfigBytes.zero : GnssConfigBytes :=
  ⟨⟨0, 0, 0, 0, 0, 0, 0, 0, 0, 0, 0, 0, 0, 0⟩, 0, 0⟩

/-- A `GnssConfig` with the host name as a string. -/
structure GnssConfigValue where
  fields : ConfigFields
  hostName : Option (List Char)
  deriving DecidableEq, Repr

/-- A call of `locAPIGnssUpdateConfig`: the configuration, the string that is at the address of the
host name at the time of the call, and whether `LocationControlAPI::gnssUpdateConfig` returns an
array of ids if it is called. -/
structure UpdateCall where
  config : GnssConfigBytes
  text : List Char
  accepted : Bool
  address : Nat
  deriving DecidableEq, Repr

/-- The host name of the call. -/
def UpdateCall.hostName (call : UpdateCall) : Option (List Char) :=
  if call.config.hostName = 0 then none else some call.text

/-- The configuration of the call. -/
def UpdateCall.value (call : UpdateCall) : GnssConfigValue := ⟨call.config.fields, call.hostName⟩

/-! ### The client -/

/-- `CONFIG_SESSION_ID`. -/
def configSessionId : UInt32 := 0xFFFFFFFF

/-- The part of `LocationAPIControlClient` that the method uses. The requests of its queue are given
by their addresses. -/
structure Client where
  mLocationControlAPI : Bool
  mConfig : GnssConfigBytes
  configQueue : RequestQueueOf Nat

/-- The constructor. -/
def Client.new (mLocationControlAPI : Bool) : Client := ⟨mLocationControlAPI, .zero, .new⟩

/-- `LocationAPIControlClient::locAPIGnssUpdateConfig`: the client, what it returns, and whether
`gnssUpdateConfig` was called. -/
def locAPIGnssUpdateConfig (c : Client) (call : UpdateCall) : Client × LocationError × Bool :=
  if c.mConfig = call.config then (c, .success, false)
  else if c.mLocationControlAPI then
    let c₁ := { c with mConfig := call.config }
    if call.accepted then
      let queue := if c.configQueue.mSession ≠ configSessionId
        then c.configQueue.reset configSessionId else c.configQueue
      ({ c₁ with configQueue := queue.push call.address }, .success, true)
    else (c₁, .generalFailure, true)
  else (c, .generalFailure, false)

/-! ### Runs -/

/-- The client, and the calls that were handed on to `gnssUpdateConfig`, the last one first. -/
structure System where
  client : Client
  handed : List UpdateCall

/-- The start. -/
def System.new (mLocationControlAPI : Bool) : System := ⟨.new mLocationControlAPI, []⟩

/-- A call of `locAPIGnssUpdateConfig`. -/
def System.step (s : System) (call : UpdateCall) : Option System :=
  let (c, _, handedOn) := locAPIGnssUpdateConfig s.client call
  some ⟨c, if handedOn then call :: s.handed else s.handed⟩

/-- The configuration of the latest call for which `gnssUpdateConfig` returned an array. -/
def latestAccepted (handed : List UpdateCall) : Option GnssConfigValue :=
  (handed.find? UpdateCall.accepted).map UpdateCall.value

/-- A call that returns success without calling `gnssUpdateConfig` has the configuration of the
latest accepted call. The configuration has the host name as a string, since that is what the
service was told. -/
def SkipIsRepeat (s : System) (call : UpdateCall) : Prop :=
  (locAPIGnssUpdateConfig s.client call).2 = (.success, false) →
    latestAccepted s.handed = some call.value

/-- What a call must keep to, given the calls that were handed on before. The first one does not
consist of zeros, as the stored bytes do at the start. One with the bytes of the last one finds the
same host name as that one, if it was accepted, since the bytes hold its address only. If the last
one was refused, its bytes are stored all the same, so then the configuration must be that of the
latest call before it that was accepted. -/
def RepeatsLast (handed : List UpdateCall) (call : UpdateCall) : Prop :=
  match handed with
  | [] => call.config ≠ .zero
  | last :: earlier =>
      last.config = call.config →
        if last.accepted then last.hostName = call.hostName
        else latestAccepted earlier = some call.value

/-- `mConfig` has the bytes of the last call that was handed on. -/
def StoresLast (s : System) : Prop :=
  s.client.mConfig = (s.handed.head?.map UpdateCall.config).getD .zero

theorem storesLast_new (mLocationControlAPI : Bool) : StoresLast (.new mLocationControlAPI) := rfl

/-- The early return is taken for the bytes that are stored, and in no other case. -/
theorem locAPIGnssUpdateConfig_skips_iff (c : Client) (call : UpdateCall) :
    (locAPIGnssUpdateConfig c call).2 = (.success, false) ↔ c.mConfig = call.config := by
  unfold locAPIGnssUpdateConfig
  by_cases hsame : c.mConfig = call.config
  · rw [if_pos hsame]
    exact ⟨fun _ => hsame, fun _ => rfl⟩
  · rw [if_neg hsame]
    refine ⟨fun h => absurd h ?_, fun h => absurd h hsame⟩
    -- what is handed on says so, and without a control API there is no success
    cases c.mLocationControlAPI <;> cases call.accepted <;> simp

/-- A step keeps the stored bytes and the calls together. -/
theorem storesLast_step {s t : System} {call : UpdateCall} (hs : StoresLast s)
    (h : s.step call = some t) : StoresLast t := by
  unfold System.step locAPIGnssUpdateConfig at h
  by_cases hsame : s.client.mConfig = call.config
  · -- nothing is stored, and nothing is handed on
    rw [if_pos hsame] at h
    cases h
    exact hs
  · rw [if_neg hsame] at h
    cases hcontrol : s.client.mLocationControlAPI with
    | false =>
        rw [hcontrol] at h
        cases h
        exact hs
    | true =>
        rw [hcontrol] at h
        cases haccepted : call.accepted <;> rw [haccepted] at h <;> cases h <;> exact rfl

/-- With the stored bytes in place of the memory, the property is about the last call. -/
theorem skipIsRepeat_iff_repeatsLast {s : System} (hs : StoresLast s) (call : UpdateCall) :
    SkipIsRepeat s call ↔ RepeatsLast s.handed call := by
  unfold SkipIsRepeat
  rw [locAPIGnssUpdateConfig_skips_iff, hs]
  unfold RepeatsLast
  match s.handed with
  | [] =>
      -- no call was accepted
      exact ⟨fun h hzero => absurd (h hzero.symm) nofun, fun h hzero => absurd hzero.symm h⟩
  | last :: earlier =>
      show (last.config = call.config → latestAccepted (last :: earlier) = some call.value) ↔
        (last.config = call.config → _)
      refine imp_congr_right fun hconfig => ?_
      unfold latestAccepted
      cases haccepted : last.accepted with
      | true =>
          rw [List.find?_cons_of_pos haccepted, if_pos rfl, Option.map_some, Option.some.injEq]
          -- the bytes give the members, and the string behind the address is left
          have hfields : last.config.fields = call.config.fields := congrArg _ hconfig
          unfold UpdateCall.value
          rw [GnssConfigValue.mk.injEq]
          exact ⟨fun h => h.2, fun h => ⟨hfields, h⟩⟩
      | false =>
          rw [List.find?_cons_of_neg (by rw [haccepted]; decide), if_neg Bool.false_ne_true]

/-- In a run of calls, every call that is skipped has the configuration of the latest accepted call
if and only if every call keeps to `RepeatsLast`.

The call is compared by its bytes with the last one that was made, whether that was accepted or not,
and with zeros if there was none. The name of the host is a pointer in these bytes, so another text
in the same buffer looks the same. -/
theorem skipIsRepeat_iff (mLocationControlAPI : Bool) (calls : List UpdateCall) :
    Guarded System.step SkipIsRepeat (.new mLocationControlAPI) calls ↔
      Guarded System.step (fun s call => RepeatsLast s.handed call) (.new mLocationControlAPI)
        calls :=
  guarded_congr (fun _ call hs => skipIsRepeat_iff_repeatsLast hs call)
    (fun _ _ _ hs _ hstep => storesLast_step hs hstep) calls _ (storesLast_new _)

/-- The GPS lock is set while there is no GNSS interface. -/
def refusedCall : UpdateCall where
  config := ⟨⟨80, 1, 1, 0, 32, 0, 0, 0, 0, 0, 0, 0, 0, 0⟩, 0, 0⟩
  text := []
  accepted := false
  address := 0

/-- The call is refused, and made again it is skipped. -/
theorem not_skipIsRepeat_refused :
    ¬Guarded System.step SkipIsRepeat (.new true) [refusedCall, refusedCall] := by
  intro h
  have hskip := (h.2 _ rfl).1
  exact absurd (hskip (by decide)) (by decide)

end ConfigRepeat

end LocHal.Location
