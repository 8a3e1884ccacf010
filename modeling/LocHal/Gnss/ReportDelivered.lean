import LocHal.Gnss.ReportPipeline
import LocHal.Lib.LabelledRun
import LocHal.Lib.SinceLast

/-!
# `LocHal.Gnss.ReportDelivered`: what a client receives

A client wants to hear of the events while it is registered, and nothing else. `Delivered` says
this of the messages that have been processed, and it names neither the state of the adapter nor
its functions: it is what the interface of the clients promises.

* `Registered`, `Tracking` and `UsesSatellites` are what the messages before have left in force: the
  callbacks of the client, whether a tracking session is left, and the satellites of the last
  position. Each is an instance of `Stands`.
* `Wanted` says which positions go to the clients: a final fix of satellites or sensors, and an
  intermediate one if the configuration asks for those and it is not too inaccurate.
* `ShowsSv` is a satellite as the client sees it. It has the flag of the fix if it came with it, or
  if its bit of the satellites of the last position is tested. A satellite is tested by one bit, but
  for satellite 32, where the sign of an `int` is extended, and the later ones, where the shift is
  undefined and `wideShift` is what the machine does.
* `Receives` puts these together for each kind of message, in the order of the callbacks.

`delivered_run` says that in any interleaving a client receives exactly this. The text of the NMEA
sentences is that of `loc_nmea_generate_pos` and `loc_nmea_generate_sv`, which have modules of their
own; what is said here is when they are generated, and from what.

`LocHal.Gnss.ReportGains` is about the one thing that is read when the event comes in and not when
its message is processed.
-/

set_option autoImplicit false

namespace LocHal.Gnss.ReportPipeline

open LabelledRun
open SinceLast
open LocHal.Core hiding setIteminReport
open LocHal.Gnss.DebugReport
open LocHal.Gnss.LocationReport
open LocHal.Gnss.ReportSv
open LocHal.Util (CString)
open LocHal.Util.LocNmea (GnssSv GnssSvNotification GnssSvType GnssSvUsedInPosition
  locNmeaGeneratePos locNmeaGenerateSv)

variable {κ δ φ τ μ : Type}

/-! ### What the messages say -/

/-- The message is about the registration of a client. -/
def AboutClient (c : κ) (msg : ReportMsg κ δ φ τ μ) : Prop :=
  (∃ callbacks, msg = .addClient c callbacks) ∨ msg = .removeClient c

/-- The client has registered these callbacks last, and it has not been removed since. -/
def Registered (c : κ) (before : List (ReportMsg κ δ φ τ μ)) (callbacks : LocationCallbacks) :
    Prop :=
  Stands (fun msg => msg = .addClient c callbacks) (AboutClient c) before

/-- A tracking session is left. -/
def Tracking (before : List (ReportMsg κ δ φ τ μ)) : Prop :=
  Stands (fun msg => msg = .sessions true) (fun msg => ∃ left, msg = .sessions left) before

/-- The modem says how inaccurate the position is, there is a threshold, and it is exceeded. -/
def Inaccurate (a : ReportArith δ φ) (conf : GpsConf) (p : UlpLocation δ φ) : Prop :=
  p.flags.getLsbD 4 = true ∧ conf.ACCURACY_THRES ≠ 0 ∧
    a.exceeds p.accuracy conf.ACCURACY_THRES = true

/-- The positions that the clients get. -/
inductive Wanted (a : ReportArith δ φ) (conf : GpsConf) (p : UlpLocation δ φ) :
    LocSessStatus → BitVec 32 → Prop
  /-- A final fix of the satellites, the sensors or both. -/
  | final {techMask : BitVec 32} {b : Nat} (hb : b = 0 ∨ b = 3 ∨ b = 7)
      (htech : techMask.getLsbD b = true) : Wanted a conf p .success techMask
  /-- An intermediate fix, if these are wanted at all. -/
  | intermediate {techMask : BitVec 32} (hconf : conf.INTERMEDIATE_POS = 1)
      (hacc : ¬ Inaccurate a conf p) : Wanted a conf p .intermediate techMask

/-- The message is a position for the clients, and says that it used these satellites. -/
def GivesSatellites (a : ReportArith δ φ) (conf : GpsConf) (ids : GnssSvUsedInPosition)
    (msg : ReportMsg κ δ φ τ μ) : Prop :=
  ∃ time p e status techMask, msg = .reportPosition time p e status techMask ∧
    Wanted a conf p status techMask ∧ e.flags.getLsbD 12 = true ∧ e.gnss_sv_used_ids = ids

/-- The message is a position, or a report of satellites, which is the one that the satellites of
the position before it are for. -/
def EndsSatellites (msg : ReportMsg κ δ φ τ μ) : Prop :=
  (∃ time p e status techMask, msg = .reportPosition time p e status techMask) ∨
    ∃ svNotify, msg = .reportSv svNotify

/-- The satellites of the last position, if no report of satellites came since. -/
def UsesSatellites (a : ReportArith δ φ) (conf : GpsConf) (before : List (ReportMsg κ δ φ τ μ))
    (ids : GnssSvUsedInPosition) : Prop :=
  Stands (GivesSatellites a conf ids) EndsSatellites before

/-! ### What a client gets from a message -/

/-- The bit of a satellite is set in the mask of its constellation. There are five masks. -/
inductive UsedBit (ids : GnssSvUsedInPosition) (n : Nat) : GnssSvType → Prop
  | gps (h : ids.gpsSvUsedIdsMask.getLsbD n = true) : UsedBit ids n .gps
  | glonass (h : ids.gloSvUsedIdsMask.getLsbD n = true) : UsedBit ids n .glonass
  | beidou (h : ids.bdsSvUsedIdsMask.getLsbD n = true) : UsedBit ids n .beidou
  | galileo (h : ids.galSvUsedIdsMask.getLsbD n = true) : UsedBit ids n .galileo
  | qzss (h : ids.qzssSvUsedIdsMask.getLsbD n = true) : UsedBit ids n .qzss

/-- The bits that are tested for a satellite. It is its own bit up to satellite 31. -/
inductive TestedBit (wideShift : Int → BitVec 32) (n : Nat) : Int → Prop
  | own {id : Int} (hlast : id ≤ 31) (h : id = n + 1) : TestedBit wideShift n id
  /-- The sign is extended to all the bits from 31 on. -/
  | sign (hn : 31 ≤ n) (hlast : n < 64) : TestedBit wideShift n 32
  /-- The shift is not defined. -/
  | wide {id : Int} (hid : id ≤ 0 ∨ 32 < id)
      (h : ((wideShift (id - 1)).signExtend 64).getLsbD n = true) : TestedBit wideShift n id

/-- A satellite for the clients. The ids of QZSS are shifted, and only the flag of the fix may
change. `uses` says which satellites the last position used. -/
structure ShowsSv (wideShift : Int → BitVec 32) (uses : GnssSvUsedInPosition → Prop)
    (sv shown : GnssSv φ) : Prop where
  qzss : sv.type = .qzss → shown.svId = sv.svId + 192
  other : sv.type ≠ .qzss → shown.svId = sv.svId
  kept : (shown.type, shown.cN0Dbhz, shown.elevation, shown.azimuth) =
    (sv.type, sv.cN0Dbhz, sv.elevation, sv.azimuth)
  flag : shown.gnssSvOptionsMask.getLsbD 2 = true ↔ sv.gnssSvOptionsMask.getLsbD 2 = true ∨
    ∃ ids n, uses ids ∧ UsedBit ids n sv.type ∧ TestedBit wideShift n sv.svId.toInt
  options : ∀ b, b ≠ 2 →
    shown.gnssSvOptionsMask.getLsbD b = sv.gnssSvOptionsMask.getLsbD b

/-- Under the condition there are notifications as `Q` says, and otherwise there are none. -/
def SentWhen {β : Type} (p : Prop) (Q : List β → Prop) (sent : List β) : Prop :=
  (p → Q sent) ∧ (¬ p → sent = [])

/-- Sentences are generated here for a client: the modem does not provide them, a session is left,
and the client has the callback. `NMEA_PROVIDER_AP` is 0. -/
def Generates (conf : GpsConf) (before : List (ReportMsg κ δ φ τ μ))
    (callbacks : LocationCallbacks) : Prop :=
  conf.NMEA_PROVIDER = 0 ∧ Tracking before ∧ callbacks.gnssNmeaCb = true

/-- The notifications of sentences that are generated here. -/
def sentencesOf (sentences : List CString) : List (Notification δ φ μ) :=
  sentences.map fun sentence => .nmea sentence sentence.length

/-- The position is all zero and has no reliability: only blank sentences are made of it. -/
def Blank (a : ReportArith δ φ) (p : UlpLocation δ φ) (e : GpsLocationExtended φ) : Prop :=
  a.isZero p.latitude = true ∧ a.isZero p.longitude = true ∧ e.horizontal_reliability = .notSet

/-- A sentence for `SystemStatus`. It begins with `$PQW`, and has from 6 to 4096 characters. -/
def IsDebug (nmea : CString) (length : Nat) : Prop :=
  "$PQW".toList <+: nmea ∧ 6 ≤ length ∧ length ≤ 4096

/-- What a registered client gets from one message, after the messages `before`. A position gives up
to three kinds of calls, in this order: the location and its extension if it is wanted, and the
sentences if they are generated, which are blank for a position that is not wanted or has nothing to
print. Satellites give the list and its sentences. A client gets what it has a callback for. -/
def Receives (a : ReportArith δ φ) (conf : GpsConf) (before : List (ReportMsg κ δ φ τ μ))
    (callbacks : LocationCallbacks) :
    ReportMsg κ δ φ τ μ → List (Notification δ φ μ) → Prop
  | .reportPosition _ p e status techMask, sent =>
      ∃ locations infos sentences, sent = locations ++ infos ++ sentences ∧
        SentWhen (Wanted a conf p status techMask ∧ callbacks.trackingCb = true)
          (fun sent => ∃ l, sent = [.location l] ∧
            ShowsPosition a.floats.zero (a.floats.ofInt 0) p e techMask l) locations ∧
        SentWhen (Wanted a conf p status techMask ∧ callbacks.gnssLocationInfoCb = true)
          (fun sent => ∃ i, sent = [.locationInfo i] ∧ ShowsExtension (a.floats.ofInt 0) e i)
          infos ∧
        SentWhen (Generates conf before callbacks)
          (fun sent => ∃ values, (values = true ↔ Wanted a conf p status techMask ∧ ¬ Blank a p e) ∧
            sent = sentencesOf (locNmeaGeneratePos a.reals (nmeaLocation p) (nmeaExtended e)
              a.gmtime values)) sentences
  | .reportSv svNotify, sent =>
      ∃ svs sentences shown, sent = svs ++ sentences ∧
        List.Forall₂ (ShowsSv a.wideShift (UsesSatellites a conf before)) svNotify.gnssSvs
          shown.gnssSvs ∧
        SentWhen (callbacks.gnssSvCb = true) (fun sent => sent = [.sv shown]) svs ∧
        SentWhen (Generates conf before callbacks)
          (fun sent => sent = sentencesOf (locNmeaGenerateSv a.reals shown)) sentences
  | .reportNmea _ _ nmea length, sent =>
      SentWhen (¬ IsDebug nmea length ∧ callbacks.gnssNmeaCb = true)
        (fun sent => sent = [.nmea nmea length]) sent
  | .reportGnssMeasurementData measurements, sent =>
      SentWhen (callbacks.gnssMeasurementsCb = true)
        (fun sent => sent = [.measurements measurements]) sent
  | _, sent => sent = []

/-- What a client gets from the messages in order. Each message is read with those before it, which
say whether the client is registered by then and with which callbacks. A message that comes while it
is not registered gives it nothing. -/
inductive Delivered (a : ReportArith δ φ) (conf : GpsConf) (c : κ) :
    List (ReportMsg κ δ φ τ μ) → List (Notification δ φ μ) → Prop
  | nil : Delivered a conf c [] []
  | registered {before : List (ReportMsg κ δ φ τ μ)} {msg : ReportMsg κ δ φ τ μ}
      {callbacks : LocationCallbacks} {received sent : List (Notification δ φ μ)}
      (hbefore : Delivered a conf c before received) (hc : Registered c before callbacks)
      (hsent : Receives a conf before callbacks msg sent) :
      Delivered a conf c (before ++ [msg]) (received ++ sent)
  | unregistered {before : List (ReportMsg κ δ φ τ μ)} {msg : ReportMsg κ δ φ τ μ}
      {received : List (Notification δ φ μ)} (hbefore : Delivered a conf c before received)
      (hc : ∀ callbacks, ¬ Registered c before callbacks) :
      Delivered a conf c (before ++ [msg]) received

/-- The calls of the callbacks of one client. -/
def callsOf [DecidableEq κ] (c : κ) (delivered : List (κ × Notification δ φ μ)) :
    List (Notification δ φ μ) :=
  delivered.filterMap fun e => if e.1 = c then some e.2 else none

/-! ### The decisions of the adapter -/

section
variable {a : ReportArith δ φ} {conf : GpsConf}

/-- The mask of the technologies that make a final fix. -/
theorem getLsbD_finalMask (b : Nat) : (0x89#32).getLsbD b = true ↔ b = 0 ∨ b = 3 ∨ b = 7 := by
  by_cases hb : b < 32
  · interval_cases b <;> decide
  · rw [BitVec.getLsbD_of_ge _ _ (by omega)]
    exact iff_of_false Bool.false_ne_true (by omega)

/-- `needReport` picks the wanted positions. -/
theorem needReport_iff {p : UlpLocation δ φ} {status : LocSessStatus} {techMask : BitVec 32} :
    needReport a conf p status techMask = true ↔ Wanted a conf p status techMask := by
  unfold needReport
  cases status with
  | success =>
      dsimp only
      rw [bne_iff_ne, and_ne_zero_iff]
      constructor
      · rintro ⟨b, htech, hb⟩
        exact .final ((getLsbD_finalMask b).mp hb) htech
      · rintro (@⟨_, b, hb, htech⟩)
        exact ⟨b, htech, (getLsbD_finalMask b).mpr hb⟩
  | intermediate =>
      dsimp only
      rw [Bool.and_eq_true, beq_iff_eq, Bool.not_eq_true', Bool.eq_false_iff, ne_eq,
        Bool.and_eq_true, Bool.and_eq_true, bne_iff_ne, and_assoc]
      exact ⟨fun h => .intermediate h.1 h.2, fun h => by cases h with
        | intermediate hconf hacc => exact ⟨hconf, hacc⟩⟩
  | failure =>
      dsimp only
      exact iff_of_false Bool.false_ne_true (by rintro ⟨⟩)

theorem locNmeaIsDebug_iff {nmea : CString} {length : Nat} :
    locNmeaIsDebug nmea length = true ↔ IsDebug nmea length := by
  unfold locNmeaIsDebug IsDebug
  rw [Bool.and_eq_true, Bool.and_eq_true, decide_eq_true_eq, decide_eq_true_eq,
    decide_eq_true_eq, List.prefix_iff_eq_take, and_comm, eq_comm]
  rfl

/-- The values of a sentence are those of a wanted position that is not blank. -/
theorem positionSentences_eq (a : ReportArith δ φ) (conf : GpsConf) (p : UlpLocation δ φ)
    (e : GpsLocationExtended φ) (status : LocSessStatus) (techMask : BitVec 32) :
    ∃ values, (values = true ↔ Wanted a conf p status techMask ∧ ¬ Blank a p e) ∧
      positionSentences a conf p e status techMask =
        locNmeaGeneratePos a.reals (nmeaLocation p) (nmeaExtended e) a.gmtime values := by
  have hblank : (a.isZero p.latitude && a.isZero p.longitude &&
      e.horizontal_reliability == .notSet) = true ↔ Blank a p e := by
    rw [Bool.and_eq_true, Bool.and_eq_true, beq_iff_eq, and_assoc, Blank]
  refine ⟨_, ?_, rfl⟩
  rw [Bool.and_eq_true, Bool.and_eq_true, bne_iff_ne, Bool.not_eq_true', Bool.eq_false_iff,
    and_assoc, needReport_iff]
  refine and_congr_right fun hwanted => ?_
  -- a failed position is not wanted, so that its own test does nothing
  have hstatus : status ≠ .failure := by
    rintro rfl
    cases hwanted
  exact (and_iff_right hstatus).trans (not_congr hblank)

/-- The mask of a constellation has the bits of its satellites. -/
theorem getLsbD_maskOf {ids : GnssSvUsedInPosition} {n : Nat} {type : GnssSvType} :
    (maskOf ids type).getLsbD n = true ↔ UsedBit ids n type := by
  constructor
  · intro h
    cases type with
    | gps => exact .gps h
    | glonass => exact .glonass h
    | beidou => exact .beidou h
    | galileo => exact .galileo h
    | qzss => exact .qzss h
    | _ => simp [maskOf] at h
  · rintro (h | h | h | h | h) <;> exact h

/-- The bits that the shift tests. -/
theorem getLsbD_shiftOne_iff {wideShift : Int → BitVec 32} {n : Nat} {id : Int} :
    (shiftOne wideShift (id - 1)).getLsbD n = true ↔ TestedBit wideShift n id := by
  by_cases hid : 1 ≤ id ∧ id ≤ 32
  · -- a shift that is defined: satellite 32 is the one whose sign is extended
    obtain ⟨k, rfl⟩ : ∃ k : Nat, id = k + 1 := ⟨(id - 1).toNat, by omega⟩
    rw [Int.add_sub_cancel, getLsbD_shiftOne (by omega), decide_eq_true_eq]
    constructor
    · rintro (rfl | ⟨rfl, hn, hlast⟩)
      · by_cases h31 : n < 31
        · exact .own (by omega) rfl
        · obtain rfl : n = 31 := by omega
          exact .sign (by omega) (by omega)
      · exact .sign hn hlast
    · intro h
      generalize hk : (k : Int) + 1 = id at h
      cases h with
      | own hlast h => exact Or.inl (by omega)
      | sign hn hlast => exact Or.inr ⟨by omega, hn, hlast⟩
      | wide hid => omega
  · -- any other shift is what the machine makes of it
    have hshift : shiftOne wideShift (id - 1) = (wideShift (id - 1)).signExtend 64 := by
      unfold shiftOne
      rw [if_neg (by omega)]
    rw [hshift]
    constructor
    · exact fun h => .wide (by omega) h
    · intro h
      cases h with
      | own hlast h => omega
      | sign hn hlast => omega
      | wide _ h => exact h

/-- The loop of `reportSv` shows a satellite. -/
theorem showsSv_reportOne (wideShift : Int → BitVec 32) {state : UsedInPosition}
    {uses : GnssSvUsedInPosition → Prop}
    (huses : ∀ ids, uses ids ↔
      state.mGnssSvIdUsedInPosAvail = true ∧ state.mGnssSvIdUsedInPosition = ids)
    (sv : GnssSv φ) : ShowsSv wideShift uses sv (reportOne wideShift state sv) where
  qzss := fun h => if_pos h
  other := fun h => if_neg h
  kept := rfl
  flag := by
    refine (isFlagged_reportOne wideShift state sv).trans (or_congr_right ?_)
    -- the two masks have a bit in common: one that is used and tested
    rw [and_ne_zero_iff]
    simp only [getLsbD_maskOf, getLsbD_shiftOne_iff, huses]
    constructor
    · rintro ⟨havail, n, hused, htested⟩
      exact ⟨_, n, ⟨havail, rfl⟩, hused, htested⟩
    · rintro ⟨_, n, ⟨havail, rfl⟩, hused, htested⟩
      exact ⟨havail, n, hused, htested⟩
  options := fun b hb => getLsbD_reportOne wideShift state sv hb

end

/-! ### The calls of one message -/

section
variable [LinearOrder κ] {s : ReportAdapter κ δ φ τ}

theorem callsOf_append (c : κ) (calls calls' : List (κ × Notification δ φ μ)) :
    callsOf c (calls ++ calls') = callsOf c calls ++ callsOf c calls' :=
  List.filterMap_append

/-- A client is called as its callbacks ask for it, and only if it is registered. -/
theorem callsOf_forClients (c : κ) (notify : LocationCallbacks → List (Notification δ φ μ)) :
    callsOf c (s.forClients notify) = (s.mClientData.find c).elim [] notify := by
  rw [← SortedMap.flatMap_key notify]
  unfold callsOf ReportAdapter.forClients
  rw [List.filterMap_flatMap]
  refine congrArg (List.flatMap · _) (funext fun e => ?_)
  rw [List.filterMap_map]
  by_cases he : e.1 = c
  · simp [he]
  · simp [he]

/-- The sentences reach a client in order. -/
theorem callsOf_sentences (c : κ) (nmeaArraystr : List CString) :
    callsOf c (s.reportSentences nmeaArraystr : List (κ × Notification δ φ μ))
      = (s.mClientData.find c).elim [] fun callbacks =>
          if callbacks.gnssNmeaCb then sentencesOf nmeaArraystr else [] := by
  unfold ReportAdapter.reportSentences
  induction nmeaArraystr with
  -- by induction on the sentences, each of which goes to all clients
  | nil => cases s.mClientData.find c <;> simp [callsOf, sentencesOf]
  | cons sentence nmeaArraystr ih =>
      have hone : callsOf c (s.reportNmea sentence sentence.length : List (κ × Notification δ φ μ))
          = _ := callsOf_forClients c _
      rw [List.flatMap_cons, callsOf_append, hone, ih]
      cases s.mClientData.find c with
      | none => rfl
      | some callbacks => cases hcb : callbacks.gnssNmeaCb <;> simp [sentencesOf, hcb]

/-- No message reaches a client that is not registered. -/
theorem callsOf_proc_of_find_eq_none [BEq δ] [BEq φ] {a : ReportArith δ φ} {conf : GpsConf} {c : κ}
    (hc : s.mClientData.find c = none) (msg : ReportMsg κ δ φ τ μ) :
    callsOf c (s.proc a conf msg).2 = [] := by
  cases msg with
  | reportPosition time p e status techMask =>
      unfold ReportAdapter.proc ReportAdapter.reportPosition
      dsimp only
      rw [callsOf_append, callsOf_sentences, hc]
      split
      · rw [callsOf_forClients]
        simp [hc]
      · rfl
  | reportSv svNotify =>
      unfold ReportAdapter.proc ReportAdapter.reportSv
      dsimp only
      rw [callsOf_append, callsOf_sentences, callsOf_forClients, hc]
      rfl
  | reportNmea uninit clock nmea length =>
      unfold ReportAdapter.proc
      dsimp only
      split
      · rfl
      · refine (callsOf_forClients c _).trans ?_
        rw [hc]
        rfl
  | reportGnssMeasurementData measurements =>
      unfold ReportAdapter.proc
      dsimp only
      refine (callsOf_forClients c _).trans ?_
      rw [hc]
      rfl
  | _ => rfl

end

/-! ### The state against the messages -/

/-- The satellites after a position are those that it gives. -/
theorem uses_position {a : ReportArith δ φ} {conf : GpsConf} {before : List (ReportMsg κ δ φ τ μ)}
    {time : τ} {p : UlpLocation δ φ} {e : GpsLocationExtended φ}
    {status : LocSessStatus} {techMask : BitVec 32} {ids : GnssSvUsedInPosition} :
    UsesSatellites a conf
        (before ++ [.reportPosition time p e status techMask]) ids ↔
      (Wanted a conf p status techMask ∧ e.flags.getLsbD 12 = true) ∧ e.gnss_sv_used_ids = ids := by
  refine Iff.trans (stands_concat_of_ends (Or.inl ⟨_, _, _, _, _, rfl⟩)) ⟨?_, ?_⟩
  · rintro ⟨time, p, e, status, techMask, heq, hwanted, hflag, hids⟩
    cases heq
    exact ⟨⟨hwanted, hflag⟩, hids⟩
  · rintro ⟨⟨hwanted, hflag⟩, hids⟩
    exact ⟨_, _, _, _, _, rfl, hwanted, hflag, hids⟩

section
variable [LinearOrder κ] [BEq δ] [BEq φ]

/-- The adapter after the messages `before`. -/
structure Follows (a : ReportArith δ φ) (conf : GpsConf) (s : ReportAdapter κ δ φ τ)
    (before : List (ReportMsg κ δ φ τ μ)) : Prop where
  clients : ∀ c callbacks, s.mClientData.find c = some callbacks ↔ Registered c before callbacks
  tracking : s.mTrackingSessions = true ↔ Tracking before
  used : ∀ ids, UsesSatellites a conf before ids ↔
    s.used.mGnssSvIdUsedInPosAvail = true ∧ s.used.mGnssSvIdUsedInPosition = ids
  status : s.mSystemStatus = runEvents a.floats (before.filterMap statusEvent)

variable {a : ReportArith δ φ} {conf : GpsConf} {s t : ReportAdapter κ δ φ τ}
  {before : List (ReportMsg κ δ φ τ μ)} {msg : ReportMsg κ δ φ τ μ}

theorem follows_new : Follows a conf (.new : ReportAdapter κ δ φ τ)
    ([] : List (ReportMsg κ δ φ τ μ)) where
  clients := fun _ _ => iff_of_false nofun not_stands_nil
  tracking := iff_of_false nofun not_stands_nil
  used := fun _ => iff_of_false not_stands_nil fun h => Bool.false_ne_true h.1
  status := rfl

/-- What the message does to the reports, after the messages before it. -/
theorem Follows.status_concat (h : Follows a conf s before)
    (hstatus : t.mSystemStatus
      = (statusEvent msg).elim s.mSystemStatus (procEvent a.floats s.mSystemStatus)) :
    t.mSystemStatus = runEvents a.floats ((before ++ [msg]).filterMap statusEvent) := by
  rw [hstatus, h.status, List.filterMap_append]
  unfold runEvents
  rw [List.foldl_append]
  cases hevent : statusEvent msg with
  | none => simp [hevent]
  | some event => simp [hevent]

/-- A message that is not about the clients leaves their callbacks. -/
theorem Follows.clients_concat (h : Follows a conf s before)
    (hclients : t.mClientData = s.mClientData) (hmsg : ∀ c, ¬ AboutClient c msg) (c : κ)
    (callbacks : LocationCallbacks) :
    t.mClientData.find c = some callbacks ↔ Registered c (before ++ [msg]) callbacks := by
  -- the last message about the client is the one before
  rw [hclients, h.clients]
  exact Iff.symm (stands_concat_of_neither (fun hadd => hmsg c (Or.inl ⟨callbacks, hadd⟩)) (hmsg c))

/-- A message that is not about the sessions leaves them. -/
theorem Follows.tracking_concat (h : Follows a conf s before)
    (htracking : t.mTrackingSessions = s.mTrackingSessions) (hmsg : ∀ left, msg ≠ .sessions left) :
    t.mTrackingSessions = true ↔ Tracking (before ++ [msg]) := by
  rw [htracking, h.tracking]
  exact Iff.symm (stands_concat_of_neither (hmsg true) fun ⟨left, hleft⟩ => hmsg left hleft)

/-- A message that is neither a position nor a report of satellites leaves the satellites of the
last position. -/
theorem Follows.used_concat (h : Follows a conf s before) (hused : t.used = s.used)
    (hmsg : ¬ EndsSatellites msg) (ids : GnssSvUsedInPosition) :
    UsesSatellites a conf (before ++ [msg]) ids ↔
      t.used.mGnssSvIdUsedInPosAvail = true ∧ t.used.mGnssSvIdUsedInPosition = ids := by
  -- a message that gives satellites would be a position
  have hgives : ¬ GivesSatellites a conf ids msg := by
    rintro ⟨time, p, e, status, techMask, rfl, -⟩
    exact hmsg (Or.inl ⟨time, p, e, status, techMask, rfl⟩)
  rw [hused, ← h.used]
  exact stands_concat_of_neither hgives hmsg

/-- What a message does to the adapter. -/
theorem Follows.proc (h : Follows a conf s before) (msg : ReportMsg κ δ φ τ μ) :
    Follows a conf (s.proc a conf msg).1 (before ++ [msg]) := by
  cases msg with
  | addClient mClient mCallbacks =>
      refine ⟨fun c callbacks => ?_, h.tracking_concat rfl nofun,
        h.used_concat rfl (by simp [EndsSatellites]), h.status_concat rfl⟩
      unfold ReportAdapter.proc
      dsimp only
      rw [SortedMap.find_insert]
      by_cases hc : c = mClient
      · subst hc
        rw [if_pos rfl, Option.some_inj]
        refine Iff.trans ?_ (Iff.symm (stands_concat_of_ends (Or.inl ⟨mCallbacks, rfl⟩)))
        exact ⟨fun heq => heq ▸ rfl, fun hmsg => by cases hmsg; rfl⟩
      · rw [if_neg hc, h.clients]
        refine Iff.symm (stands_concat_of_neither ?_ ?_)
        · rintro ⟨⟩
          exact hc rfl
        · rintro (⟨callbacks, hadd⟩ | hremove)
          · cases hadd
            exact hc rfl
          · cases hremove
  | removeClient mClient =>
      refine ⟨fun c callbacks => ?_, h.tracking_concat rfl nofun,
        h.used_concat rfl (by simp [EndsSatellites]), h.status_concat rfl⟩
      unfold ReportAdapter.proc
      dsimp only
      rw [SortedMap.find_erase]
      by_cases hc : c = mClient
      · subst hc
        rw [if_pos rfl]
        refine Iff.trans ?_ (Iff.symm (stands_concat_of_ends (Or.inr rfl)))
        exact iff_of_false nofun nofun
      · rw [if_neg hc, h.clients]
        refine Iff.symm (stands_concat_of_neither nofun ?_)
        rintro (⟨callbacks, hadd⟩ | hremove)
        · cases hadd
        · cases hremove
          exact hc rfl
  | sessions left =>
      refine ⟨h.clients_concat rfl (by simp [AboutClient]), ?_,
        h.used_concat rfl (by simp [EndsSatellites]), h.status_concat rfl⟩
      refine Iff.trans ?_ (Iff.symm (stands_concat_of_ends ⟨left, rfl⟩))
      exact ⟨fun hleft => congrArg _ hleft, fun hmsg => by cases hmsg; rfl⟩
  | deleteAidingData deleteAll clock stale =>
      exact ⟨h.clients_concat rfl (by simp [AboutClient]), h.tracking_concat rfl nofun,
        h.used_concat rfl (by simp [EndsSatellites]), h.status_concat rfl⟩
  | reportPosition time p e status techMask =>
      refine ⟨h.clients_concat rfl (by simp [AboutClient]), h.tracking_concat rfl nofun,
        fun ids => ?_, h.status_concat rfl⟩
      -- the position replaces the satellites or clears them, by the same test
      rw [uses_position, ← needReport_iff, ← Bool.and_eq_true]
      unfold ReportAdapter.proc ReportAdapter.reportPosition usedAfterPosition
      dsimp only
      split
      · next hgives => exact and_congr_left fun _ => iff_of_true hgives rfl
      · next hgives => exact iff_of_false (fun hids => hgives hids.1) (fun hids => nomatch hids.1)
  | reportSv svNotify =>
      refine ⟨h.clients_concat rfl (by simp [AboutClient]), h.tracking_concat rfl nofun,
        fun ids => ?_, h.status_concat rfl⟩
      -- the report of satellites has used them up
      refine Iff.trans (stands_concat_of_ends (Or.inr ⟨svNotify, rfl⟩)) ?_
      exact iff_of_false (by simp [GivesSatellites]) fun hids => nomatch hids.1
  | reportNmea uninit clock nmea length =>
      exact ⟨h.clients_concat rfl (by simp [AboutClient]), h.tracking_concat rfl nofun,
        h.used_concat rfl (by simp [EndsSatellites]), h.status_concat rfl⟩
  | reportGnssMeasurementData measurements =>
      exact ⟨h.clients_concat rfl (by simp [AboutClient]), h.tracking_concat rfl nofun,
        h.used_concat rfl (by simp [EndsSatellites]), h.status_concat rfl⟩

/-- Notifications that are sent under a condition that is tested. -/
theorem sentWhen_ite {β : Type} {p : Prop} {Q : List β → Prop} {test : Bool} {sent : List β}
    (htest : test = true ↔ p) (hsent : Q sent) :
    SentWhen p Q (if test then sent else []) := by
  refine ⟨fun hp => ?_, fun hp => ?_⟩
  · rw [if_pos (htest.mpr hp)]
    exact hsent
  · rw [if_neg fun h => hp (htest.mp h)]

/-- The sentences of the adapter for a client, and none if they are not generated here. -/
theorem Follows.sentWhen_generates (h : Follows a conf s before) {callbacks : LocationCallbacks}
    {Q : List (Notification δ φ μ) → Prop} {sentences : List CString}
    (hsent : Q (sentencesOf sentences)) :
    SentWhen (Generates conf before callbacks) Q
      (if callbacks.gnssNmeaCb then
        sentencesOf (if generatesNmea conf s.mTrackingSessions then sentences else [])
      else []) := by
  have htest : (generatesNmea conf s.mTrackingSessions && callbacks.gnssNmeaCb) = true ↔
      Generates conf before callbacks := by
    unfold generatesNmea Generates
    rw [Bool.and_eq_true, Bool.and_eq_true, beq_iff_eq, h.tracking, and_assoc]
  -- the adapter tests its own part once, and the callback for each client
  have heq : (if callbacks.gnssNmeaCb then
        sentencesOf (if generatesNmea conf s.mTrackingSessions then sentences else []) else []) =
      if generatesNmea conf s.mTrackingSessions && callbacks.gnssNmeaCb then
        (sentencesOf sentences : List (Notification δ φ μ)) else [] := by
    cases generatesNmea conf s.mTrackingSessions <;> cases callbacks.gnssNmeaCb <;> rfl
  rw [heq]
  exact sentWhen_ite htest hsent

/-- A registered client gets from a message what it should. -/
theorem Follows.receives (h : Follows a conf s before) {c : κ} {callbacks : LocationCallbacks}
    (hc : Registered c before callbacks) (msg : ReportMsg κ δ φ τ μ) :
    Receives a conf before callbacks msg (callsOf c (s.proc a conf msg).2) := by
  have hfind := (h.clients c callbacks).mpr hc
  cases msg with
  | reportPosition time p e status techMask =>
      -- the position and its extension go out first, then the sentences
      obtain ⟨values, hvalues, hsentences⟩ :=
        positionSentences_eq a conf p e status techMask
      refine ⟨if needReport a conf p status techMask && callbacks.trackingCb then
          [.location (convertLocation a.floats.zero (a.floats.ofInt 0) p e techMask)] else [],
        if needReport a conf p status techMask && callbacks.gnssLocationInfoCb then
          [.locationInfo (convertLocationInfo (a.floats.ofInt 0) e)] else [], _, ?_, ?_, ?_,
        h.sentWhen_generates ⟨values, hvalues, congrArg sentencesOf hsentences⟩⟩
      · unfold ReportAdapter.proc ReportAdapter.reportPosition
        dsimp only
        rw [callsOf_append, callsOf_sentences, hfind]
        congr 1
        -- without a need for the report no client is called
        cases needReport a conf p status techMask with
        | false => rfl
        | true =>
            rw [if_pos rfl, callsOf_forClients]
            exact congrArg (fun o => Option.elim o [] _) hfind
      · refine sentWhen_ite ?_ ⟨_, rfl, showsPosition_convertLocation _ _ p e techMask⟩
        rw [Bool.and_eq_true, needReport_iff]
      · refine sentWhen_ite ?_ ⟨_, rfl, showsExtension_convertLocationInfo _ e⟩
        rw [Bool.and_eq_true, needReport_iff]
  | reportSv svNotify =>
      refine ⟨if callbacks.gnssSvCb then [.sv _] else [], _,
        (ReportSv.reportSv a.reals a.wideShift (generatesNmea conf s.mTrackingSessions) s.used
          svNotify).svNotify, ?_, ?_, sentWhen_ite Iff.rfl rfl, h.sentWhen_generates rfl⟩
      · unfold ReportAdapter.proc ReportAdapter.reportSv
        dsimp only
        rw [callsOf_append, callsOf_sentences, callsOf_forClients, hfind]
        rfl
      · -- satellite by satellite
        show List.Forall₂ _ _ (svNotify.gnssSvs.map _)
        rw [List.forall₂_map_right_iff, List.forall₂_same]
        exact fun sv _ => showsSv_reportOne a.wideShift h.used sv
  | reportNmea uninit clock nmea length =>
      have hcalls : callsOf c (s.proc a conf (.reportNmea uninit clock nmea length)).2 =
          if !locNmeaIsDebug nmea length && callbacks.gnssNmeaCb then [.nmea nmea length]
          else ([] : List (Notification δ φ μ)) := by
        unfold ReportAdapter.proc setNmeaString
        dsimp only
        -- a debug sentence is stored and goes to nobody
        cases hdebug : locNmeaIsDebug nmea length with
        | true =>
            rw [if_pos rfl]
            cases debugKind nmea <;> rfl
        | false =>
            rw [if_neg Bool.false_ne_true, if_neg Bool.false_ne_true]
            refine (callsOf_forClients c _).trans ?_
            rw [hfind]
            rfl
      rw [hcalls]
      refine sentWhen_ite (Q := fun sent => sent = [Notification.nmea nmea length]) ?_ rfl
      rw [Bool.and_eq_true, Bool.not_eq_true', Bool.eq_false_iff, ne_eq, locNmeaIsDebug_iff]
  | reportGnssMeasurementData measurements =>
      have hcalls : callsOf c (s.proc a conf (.reportGnssMeasurementData measurements)).2 =
          if callbacks.gnssMeasurementsCb then [.measurements measurements] else [] := by
        unfold ReportAdapter.proc
        dsimp only
        refine (callsOf_forClients c _).trans ?_
        rw [hfind]
        rfl
      rw [hcalls]
      exact sentWhen_ite (Q := fun sent => sent = [Notification.measurements measurements])
        Iff.rfl rfl
  | _ => rfl

end

/-! ### Any interleaving -/

section
variable [LinearOrder κ] [BEq δ] [BEq φ]

/-- The system against its history. -/
structure Accounted (a : ReportArith δ φ) (conf : GpsConf) (s : ReportSystem κ δ φ τ μ) :
    Prop where
  follows : Follows a conf s.adapter s.processed
  queue : s.accepted = s.processed ++ s.msgs
  delivered : ∀ c, Delivered a conf c s.processed (callsOf c s.delivered)

variable {a : ReportArith δ φ} {conf : GpsConf} {s t : ReportSystem κ δ φ τ μ}

theorem accounted_new : Accounted a conf (.new : ReportSystem κ δ φ τ μ) :=
  ⟨follows_new, rfl, fun _ => .nil⟩

theorem Accounted.sendMsg (h : Accounted a conf s) (msg : ReportMsg κ δ φ τ μ) :
    Accounted a conf (s.sendMsg msg) := by
  refine ⟨h.follows, ?_, h.delivered⟩
  show s.accepted ++ [msg] = s.processed ++ (s.msgs ++ [msg])
  rw [h.queue, List.append_assoc]

/-- A message that is processed adds to what every client has received. -/
theorem Accounted.delivered_proc (h : Accounted a conf s) (c : κ) (msg : ReportMsg κ δ φ τ μ) :
    Delivered a conf c (s.processed ++ [msg])
      (callsOf c (s.delivered ++ (s.adapter.proc a conf msg).2)) := by
  rw [callsOf_append]
  cases hfind : s.adapter.mClientData.find c with
  | none =>
      -- by the history the client is not registered either
      rw [callsOf_proc_of_find_eq_none hfind, List.append_nil]
      refine .unregistered (h.delivered c) fun callbacks hc => ?_
      cases hfind.symm.trans ((h.follows.clients c callbacks).mpr hc)
  | some callbacks =>
      have hc := (h.follows.clients c callbacks).mp hfind
      exact .registered (h.delivered c) hc (h.follows.receives hc msg)

theorem Accounted.step (h : Accounted a conf s) {i : ReportLabel κ δ φ τ μ}
    (ht : s.step a conf i = some t) : Accounted a conf t := by
  cases i with
  | addClientCommand client callbacks =>
      cases ht
      exact h.sendMsg _
  | removeClientCommand client =>
      cases ht
      exact h.sendMsg _
  | trackingCommand left =>
      cases ht
      exact h.sendMsg _
  | gnssDeleteAidingDataCommand deleteAll clock stale =>
      cases ht
      exact h.sendMsg _
  | reportPositionEvent fromUlp taken time ulpLocation locationExtended status techMask =>
      simp only [ReportSystem.step] at ht
      split at ht <;> cases ht
      · exact h
      · exact h.sendMsg _
  | reportSvEvent fromUlp taken svNotify =>
      simp only [ReportSystem.step] at ht
      split at ht <;> cases ht
      · exact h
      · exact h.sendMsg _
  | reportNmeaEvent fromUlp taken uninit clock nmea length =>
      cases ht
      unfold ReportSystem.reportNmeaEvent
      dsimp only
      have hoffer : Accounted a conf { s with offered := s.offered ++ [(nmea, length)] } :=
        ⟨h.follows, h.queue, h.delivered⟩
      split
      · split
        · exact hoffer
        · exact hoffer.sendMsg _
      · exact h.sendMsg _
  | reportGnssMeasurementDataEvent measurements msInWeek =>
      cases ht
      exact h.sendMsg _
  | proc =>
      simp only [ReportSystem.step] at ht
      cases hmsgs : s.msgs with
      | nil =>
          rw [hmsgs] at ht
          cases ht
      | cons msg msgs =>
          rw [hmsgs] at ht
          cases ht
          refine ⟨h.follows.proc msg, ?_, fun c => ?_⟩
          · show s.accepted = s.processed ++ [msg] ++ msgs
            rw [h.queue, hmsgs, List.append_assoc, List.singleton_append]
          · exact h.delivered_proc c msg

/-- In any interleaving, the messages are processed in the order in which they came, and a client
receives what the processed messages say while it is registered.

`Receives` is what one of them says, by the messages before it alone: which clients are registered,
whether a session is left, and which position was the last one that is wanted. The modem, the proxy,
the clients and the thread of the messages take their steps in any order. -/
theorem delivered_run (a : ReportArith δ φ) (conf : GpsConf)
    (labels : List (ReportLabel κ δ φ τ μ)) :
    Along (ReportSystem.step a conf)
      (fun s => s.accepted = s.processed ++ s.msgs ∧
        ∀ c, Delivered a conf c s.processed (callsOf c s.delivered)) .new labels :=
  along_of_invariant (I := Accounted a conf) (fun _ hs => ⟨hs.queue, hs.delivered⟩)
    (fun _ _ _ hs ht => hs.step ht) labels _ accounted_new

end

/-- Integers for the floating-point numbers, and texts without digits. -/
def intArith : ReportArith Int Int where
  reals :=
    { ofFloat := fun x => x, toFloat := fun x => x, ofRat := fun q => q.num / q.den
      add := (· + ·), sub := (· - ·), mul := (· * ·), fmod := Int.tmod, floor := fun x => x
      lt := fun x y => decide (x < y), toInt := BitVec.ofInt 32, toUint8 := BitVec.ofInt 8
      format1 := fun _ => [], format6 := fun _ => [] }
  floats := intFloats
  gmtime := fun _ => none
  wideShift := fun _ => 0
  isZero := (· == 0)
  exceeds := fun x threshold => decide (threshold.toNat < x)

/-- Satellite 3 of GPS with these options, and the one of GLONASS. -/
def thirdSvs (options : BitVec 16) : GnssSvNotification Int :=
  ⟨[⟨3, .gps, 40, 50, 60, options⟩, ⟨3, .glonass, 41, 51, 61, 0⟩], (by decide : 2 ≤ 64)⟩

/-- Two clients register, the second one only for satellites. A position uses satellite 3 of GPS,
and two reports of satellites follow, the second one without that client. Then comes a position that
is a final fix of a cell only. -/
def twoReports : List (ReportLabel Nat Int Int Nat Unit) :=
  let p : UlpLocation Int Int := ⟨0x11, 48, 11, 500, 3, 90, 7, 1000⟩
  let e : GpsLocationExtended Int :=
    ⟨0x1000, 0, 0, 0, 0, 0, 0, 0, 0, .notSet, .notSet, 0, 0, 0, ⟨4, 0, 0, 0, 0⟩, 0, 0⟩
  [.addClientCommand 1 ⟨true, false, true, true, false⟩,
    .addClientCommand 2 ⟨false, false, true, false, false⟩, .trackingCommand true,
    .reportPositionEvent false false 0 p e .success 1, .reportSvEvent false false (thirdSvs 0),
    .removeClientCommand 2, .reportSvEvent true true (thirdSvs 0),
    .reportPositionEvent false false 1 p e .success 2] ++ List.replicate 8 .proc

/-- The first client gets one position, and the satellites twice. Satellite 3 of GPS has the flag of
the fix the first time only. -/
theorem delivered_run_twoReports :
    ∃ s, run (ReportSystem.step intArith ⟨0, 0, 1⟩) .new twoReports = some s ∧
      Delivered intArith ⟨0, 0, 1⟩ 1 s.processed
        [.location ⟨0x11, 1000, 48, 11, 0, 0, 0, 7, 0, 0, 0, 1⟩, .sv (thirdSvs 4),
          .sv (thirdSvs 0)] := by
  refine ⟨_, rfl, ?_⟩
  have halong := delivered_run intArith ⟨0, 0, 1⟩ twoReports
  exact (Along.last halong rfl).2 1

end LocHal.Gnss.ReportPipeline
