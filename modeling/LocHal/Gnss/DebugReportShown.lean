import LocHal.Gnss.DebugReport
import LocHal.Lib.CivilTime
import Mathlib.Tactic.Ring

/-!
# `LocHal.Gnss.DebugReportShown`: the place and the time of a bug report

`GnssAdapter::getDebugReport` copies members of the newest positions and sentences into a
`GnssDebugReport`. Here is what a reader of the report wants, said of the events alone.

The time is that of the last time sentence, unless all aiding data has been deleted since.
`ShowsTime` says what the block then has: the estimate is the number of milliseconds since 1970 at
which GPS time stands, from the week, the time of week and the leap seconds. The beginning of GPS
time is a date of the calendar (`gpsEpoch`), and the source has the days up to it as a number.

The place is that of a position report, if there is a valid one, and else that of a best-position
sentence, which is in radians. An item that `equals` takes for the one before it is not stored, only
its time is. So the item that is shown is the first one of the row of equal ones at the end, and the
time is that of the last one (`Newest`); a deletion ends the row, since a default is always stored.
Two positions are equal when latitude, longitude and altitude are: speed, bearing and accuracy of
the report can be older than its time.

`newest_iff` identifies these rows with the newest elements that `getReport_run` finds in
`SystemStatus`, and `getDebugReport_run` says that after any events the report shows exactly this.
Numbers are compared by `==` of the floating-point types, where a value need not equal itself.
-/

set_option autoImplicit false

namespace LocHal.Gnss.DebugReport

open LocHal.Core hiding setIteminReport
open LocHal.Core.ReportHistory
open LocHal.Util (CString)

variable {δ φ τ β : Type}

/-! ### The rows of equal items -/

/-- The item that stands after the calls, and its time. A call stores `item`, and every later call
sets an item that equals it. The time is that of the last of these calls. -/
def Newest (equals : β → β → Bool) (calls : List (ReportCall τ β)) (item : β) (time : τ) : Prop :=
  ∃ before first rest, calls = before ++ first :: rest ∧ first.entry.item = item ∧
    first.dropped equals (before.getLast?.map ReportCall.entry) = false ∧
    (∀ call ∈ rest, ∃ s, call = .setItem s ∧ equals item s.item = true) ∧
    (rest.getLastD first).entry.mUtcReported = time

section
variable {equals : β → β → Bool} {calls rest : List (ReportCall τ β)} {call : ReportCall τ β}
  {e : Entry τ β} {item : β} {time : τ}

/-- In a row, an item equals the one before it as well. -/
theorem dropped_of_row (hequals : ∀ a b, equals a b = true → equals a = equals b)
    (hitem : equals item = equals e.item)
    (hcall : ∃ s, call = .setItem s ∧ equals item s.item = true) :
    call.dropped equals (some e) = true ∧ equals item = equals call.entry.item := by
  obtain ⟨s, rfl, hs⟩ := hcall
  refine ⟨?_, hequals item s.item hs⟩
  show equals e.item s.item = true
  rw [← hitem, hs]

/-- A row keeps its first item, and the time moves on. -/
theorem held_of_row (hequals : ∀ a b, equals a b = true → equals a = equals b)
    (hitem : equals item = equals e.item)
    (hrow : ∀ call ∈ rest, ∃ s, call = .setItem s ∧ equals item s.item = true) :
    heldFrom equals (some e) rest = [] ∧
      reportedFrom equals e rest = ((rest.getLast?.map ReportCall.entry).getD e).mUtcReported := by
  induction rest generalizing e with
  | nil => exact ⟨rfl, rfl⟩
  | cons call rest ih =>
      -- the call is dropped, and the next one is compared with its item
      obtain ⟨hdropped, hnext⟩ := dropped_of_row hequals hitem (hrow call List.mem_cons_self)
      obtain ⟨hheld, htime⟩ := ih hnext fun c hc => hrow c (List.mem_cons_of_mem _ hc)
      rw [heldFrom, reportedFrom, if_pos hdropped, if_pos hdropped]
      refine ⟨hheld, htime.trans ?_⟩
      rw [List.getLast?_cons]
      cases rest.getLast? <;> rfl

/-- The items that are held up to a call that is stored are those held before it. -/
theorem heldFrom_append (before : Option (Entry τ β)) (rest : List (ReportCall τ β))
    (hstored : call.dropped equals
      ((calls.getLast?.map ReportCall.entry).or before) = false) :
    ∃ held, heldFrom equals before (calls ++ call :: rest) =
      held ++ { call.entry with mUtcReported := reportedFrom equals call.entry rest } ::
        heldFrom equals (some call.entry) rest := by
  induction calls generalizing before with
  | nil =>
      refine ⟨[], ?_⟩
      rw [List.nil_append, heldFrom, if_neg (by simpa using hstored)]
      rfl
  | cons c calls ih =>
      -- the call before the stored one is the same, seen from the next call on
      have hlast : (((c :: calls).getLast?.map ReportCall.entry).or before) =
          ((calls.getLast?.map ReportCall.entry).or (some c.entry)) := by
        rw [List.getLast?_cons]
        cases calls.getLast? <;> rfl
      obtain ⟨held, hheld⟩ := ih (some c.entry) (hlast ▸ hstored)
      rw [List.cons_append, heldFrom, hheld]
      dsimp only
      split
      · exact ⟨held, rfl⟩
      · exact ⟨_ :: held, rfl⟩

/-- The row that stands is the newest element of the history. -/
theorem Newest.lastKept_eq (hequals : ∀ a b, equals a b = true → equals a = equals b)
    (h : Newest equals calls item time) :
    ∃ e, lastKept equals calls = some e ∧ e.item = item ∧ e.mUtcReported = time := by
  obtain ⟨before, first, rest, rfl, rfl, hstored, hrow, rfl⟩ := h
  obtain ⟨hheld, htime⟩ := held_of_row hequals rfl hrow
  obtain ⟨held, hall⟩ := heldFrom_append none rest (by rwa [Option.or_none])
  refine ⟨{ first.entry with mUtcReported := reportedFrom equals first.entry rest }, ?_, rfl, ?_⟩
  · rw [lastKept, hall, hheld, List.getLast?_concat]
  · show reportedFrom equals first.entry rest = _
    rw [htime]
    cases hlast : rest.getLast? <;> simp [List.getLastD_eq_getLast?, hlast]

/-- After any call there is a row. The last call begins one, or it continues the one before. -/
theorem exists_newest (hequals : ∀ a b, equals a b = true → equals a = equals b)
    (hne : calls ≠ []) : ∃ item time, Newest equals calls item time := by
  induction calls using List.reverseRecOn with
  | nil => exact absurd rfl hne
  | append_singleton calls call ih =>
      cases hdropped : call.dropped equals (calls.getLast?.map ReportCall.entry) with
      | false => exact ⟨_, _, calls, call, [], rfl, rfl, hdropped, by simp, rfl⟩
      | true =>
          -- the first call is never dropped, and a default is not either
          have hne' : calls ≠ [] := by
            rintro rfl
            cases call <;> cases hdropped
          obtain ⟨item, time, before, first, rest, rfl, rfl, hstored, hrow, -⟩ := ih hne'
          refine ⟨_, _, before, first, rest ++ [call], by simp, rfl, hstored, ?_, rfl⟩
          intro c hc
          rcases List.mem_append.mp hc with hc | hc
          · exact hrow c hc
          · obtain rfl := List.mem_singleton.mp hc
            cases c with
            | setDefault s => cases hdropped
            | setItem s =>
                refine ⟨s, rfl, ?_⟩
                -- the item of the row equals the last one, and so this one
                cases hlast : rest.getLast? with
                | none =>
                    rw [List.getLast?_eq_none_iff.mp hlast] at hdropped
                    simpa [ReportCall.dropped] using hdropped
                | some last =>
                    obtain ⟨s', rfl, hs'⟩ := hrow last (List.mem_of_getLast? hlast)
                    rw [hequals _ _ hs']
                    simpa [ReportCall.dropped, List.getLast?_append, List.getLast?_cons, hlast,
                      ReportCall.entry] using hdropped

/-- The newest element of the history is the row that stands, if there has been a call. -/
theorem newest_iff (hequals : ∀ a b, equals a b = true → equals a = equals b) :
    Newest equals calls item time ↔
      ∃ e, lastKept equals calls = some e ∧ e.item = item ∧ e.mUtcReported = time := by
  refine ⟨fun h => h.lastKept_eq hequals, ?_⟩
  rintro ⟨e, he, rfl, rfl⟩
  have hne : calls ≠ [] := by
    rintro rfl
    cases he
  obtain ⟨item, time, h⟩ := exists_newest hequals hne
  obtain ⟨e', he', rfl, rfl⟩ := h.lastKept_eq hequals
  cases he.symm.trans he'
  exact h

end

/-! ### What the events say -/

/-- The time sentences and the deletions. -/
def times (fl : NmeaFloats δ φ) (events : List (StatusEvent δ φ τ)) :
    List (ReportCall τ SystemStatusTimeAndClock) :=
  events.filterMap (sentenceCall .pqwm1
    (0, fun _ fields => timeAndClock (pqwm1Parser fl fields)) (1, defaultTimeAndClock))

/-- The positions that are not failures and the deletions. -/
def positions (events : List (StatusEvent δ φ τ)) :
    List (ReportCall τ (SystemStatusLocation δ φ)) :=
  events.filterMap locationCall

/-- The best-position sentences and the deletions. -/
def bestPositions (fl : NmeaFloats δ φ) (events : List (StatusEvent δ φ τ)) :
    List (ReportCall τ (SystemStatusBestPosition φ)) :=
  events.filterMap (sentenceCall .pqwp2
    (0, fun u fields => bestPosition (pqwp2Parser fl u.mP2 fields))
    (6, defaultBestPosition (fl.ofInt 0)))

/-- The beginning of GPS time, midnight of 6 January 1980. -/
def gpsEpoch : CivilTime := ⟨1980, 0, 6, 0, 0, 0⟩

/-- The milliseconds since 1970 of a time sentence. A week has 604800 seconds, and GPS time has no
leap seconds. -/
def unixMs (t : SystemStatusTimeAndClock) : Int :=
  (gpsEpoch.seconds + 604800 * t.mGpsWeek.toNat - t.mLeapSeconds) * 1000 + t.mGpsTowMs.toNat

/-- The time block says what a time sentence says. -/
structure ShowsTime (fl : ReportFloats δ φ) (t : SystemStatusTimeAndClock)
    (r : GnssDebugTime φ) : Prop where
  valid : r.mValid = true
  estimate : r.timeEstimate = BitVec.ofInt 64 (unixMs t)
  /-- In nanoseconds, the uncertainty of the time and that of the leap seconds. -/
  uncertainty : r.timeUncertaintyNs = fl.timeUnc t.mTimeUnc t.mLeapSecUnc
  frequency : r.frequencyUncertaintyNsPerSec = fl.ofInt t.mClockFreqBiasUnc

/-- The location block says what a position report says, at a time. -/
structure ShowsPosition (fl : ReportFloats δ φ) (p : DebugPosition δ φ) (time : τ)
    (r : GnssDebugLocation δ φ τ) : Prop where
  valid : r.mValid = true
  place : (r.latitude, r.longitude, r.altitude) = (p.latitude, p.longitude, p.altitude)
  motion : (r.speed, r.bearing) = (p.speed, p.bearing)
  accuracy : (r.accuracy, r.verticalAccuracyMeters) = (p.accuracy, fl.toDouble p.vert_unc)
  motionAccuracy : (r.speedAccuracyMetersPerSecond, r.bearingAccuracyDegrees) =
    (fl.toDouble p.speed_unc, fl.toDouble p.bearing_unc)
  reported : r.mUtcReported = some time

/-- The location block says what a best-position sentence says, at a time. The sentence has its
place in radians, and nothing on the motion. -/
structure ShowsBestPosition (fl : ReportFloats δ φ) (b : SystemStatusBestPosition φ) (time : τ)
    (r : GnssDebugLocation δ φ τ) : Prop where
  valid : r.mValid = true
  place : (r.latitude, r.longitude, r.altitude) =
    (fl.toDegrees (fl.toDouble b.mBestLat), fl.toDegrees (fl.toDouble b.mBestLon),
      fl.toDouble b.mBestAlt)
  accuracy : r.accuracy = b.mBestHepe
  motion : (r.speed, r.bearing) = (fl.ofInt 0, fl.ofInt 0)
  reported : r.mUtcReported = some time

/-- The report shows the newest place and time of the events, and says so when there is none. A
reported position goes before a best position, however old it is. A position that is marked invalid
counts as the newest one too, and hides the valid ones before it. -/
structure Shows [BEq δ] [BEq φ] (fl : ReportFloats δ φ) (events : List (StatusEvent δ φ τ))
    (r : GnssDebugReport δ φ τ) : Prop where
  time : ∀ t, lastItem (times fl.toNmeaFloats events) = some t → t.mTimeValid ≠ 0 →
    ShowsTime fl t r.mTime
  noTime : (∀ t, lastItem (times fl.toNmeaFloats events) = some t → t.mTimeValid = 0) →
    r.mTime.mValid = false
  position : ∀ l time, Newest locationEquals (positions events) l time → l.mValid = true →
    ShowsPosition fl l.mLocation time r.mLocation
  /-- Without a valid position. -/
  bestPosition : (∀ l time, Newest locationEquals (positions events) l time → l.mValid = false) →
    ∀ b time, Newest bestPositionEquals (bestPositions fl.toNmeaFloats events) b time →
      b.mValid = true → ShowsBestPosition fl b time r.mLocation
  noPlace : (∀ l time, Newest locationEquals (positions events) l time → l.mValid = false) →
    (∀ b time, Newest bestPositionEquals (bestPositions fl.toNmeaFloats events) b time →
      b.mValid = false) → r.mLocation.mValid = false

/-! ### The blocks of the report -/

section
variable {fl : ReportFloats δ φ} {reports : LatestReports δ φ τ}

/-- The source counts the days up to the beginning of GPS time, and seven a week from then on. -/
theorem timeEstimate_eq (t : SystemStatusTimeAndClock) :
    timeEstimate t = BitVec.ofInt 64 (unixMs t) := by
  -- ten years with two leap days, and the first five days of January
  have hepoch : gpsEpoch.seconds = 3657 * 24 * 60 * 60 := by decide
  have hweeks : ∀ week leap tow : Int,
      ((week * 7 + 3657) * 24 * 60 * 60 - leap) * 1000 + tow =
        (3657 * 24 * 60 * 60 + 604800 * week - leap) * 1000 + tow := by
    intro week leap tow
    ring
  unfold timeEstimate unixMs
  rw [hepoch, hweeks]

theorem showsTime_debugTime {t : SystemStatusTimeAndClock}
    (ht : reports.mTimeAndClock = some t) (hvalid : t.mTimeValid ≠ 0) :
    ShowsTime fl t (debugTime fl reports) := by
  have hfilter : reports.mTimeAndClock.filter (fun t => t.mTimeValid != 0) = some t := by
    rw [ht, Option.filter_some, if_pos (by simpa using hvalid)]
  unfold debugTime
  rw [hfilter]
  exact ⟨rfl, timeEstimate_eq t, rfl, rfl⟩

theorem debugTime_invalid (h : ∀ t, reports.mTimeAndClock = some t → t.mTimeValid = 0) :
    (debugTime fl reports).mValid = false := by
  have hfilter : reports.mTimeAndClock.filter (fun t => t.mTimeValid != 0) = none := by
    rw [Option.filter_eq_none_iff]
    intro t ht
    simp [h t ht]
  unfold debugTime
  rw [hfilter]

theorem showsPosition_debugLocation {e : Entry τ (SystemStatusLocation δ φ)}
    (he : reports.mLocation = some e) (hvalid : e.item.mValid = true) :
    ShowsPosition fl e.item.mLocation e.mUtcReported (debugLocation fl reports) := by
  have hfilter : reports.mLocation.filter (fun e => e.item.mValid) = some e := by
    rw [he, Option.filter_some, if_pos hvalid]
  unfold debugLocation
  rw [hfilter]
  exact ⟨rfl, rfl, rfl, rfl, rfl, rfl⟩

/-- Without a valid position, the best position is looked at. -/
theorem filter_mLocation (h : ∀ e, reports.mLocation = some e → e.item.mValid = false) :
    reports.mLocation.filter (fun e => e.item.mValid) = none := by
  rw [Option.filter_eq_none_iff]
  intro e he
  simp [h e he]

theorem showsBestPosition_debugLocation
    (hnone : ∀ e, reports.mLocation = some e → e.item.mValid = false)
    {e : Entry τ (SystemStatusBestPosition φ)} (he : reports.mBestPosition = some e)
    (hvalid : e.item.mValid = true) :
    ShowsBestPosition fl e.item e.mUtcReported (debugLocation fl reports) := by
  have hfilter : reports.mBestPosition.filter (fun e => e.item.mValid) = some e := by
    rw [he, Option.filter_some, if_pos hvalid]
  unfold debugLocation
  rw [filter_mLocation hnone, hfilter]
  exact ⟨rfl, rfl, rfl, rfl, rfl⟩

theorem debugLocation_invalid
    (hlocation : ∀ e, reports.mLocation = some e → e.item.mValid = false)
    (hbest : ∀ e, reports.mBestPosition = some e → e.item.mValid = false) :
    (debugLocation fl reports).mValid = false := by
  have hfilter : reports.mBestPosition.filter (fun e => e.item.mValid) = none := by
    rw [Option.filter_eq_none_iff]
    intro e he
    simp [hbest e he]
  unfold debugLocation
  rw [filter_mLocation hlocation, hfilter]
  rfl

end

/-! ### Any events -/

/-- After any sentences, positions and deletions, the report shows the place and the time that the
events say.

The place is that of the newest row of equal positions, with the time of the last of the row, since
`SystemStatus` keeps one entry for a row. It is looked for in the reported positions first and in
the best-position sentences then. The time is that of the last time sentence, which the deletion of
the aiding data resets. -/
theorem getDebugReport_run [BEq δ] [BEq φ] [PartialEquivBEq δ] [PartialEquivBEq φ]
    (fl : ReportFloats δ φ) (events : List (StatusEvent δ φ τ)) :
    Shows fl events (getDebugReport fl (runEvents fl.toNmeaFloats events)) := by
  unfold getDebugReport
  rw [getReport_run]
  have hposition : ∀ e, (history fl.toNmeaFloats events).mLocation = some e ↔
      lastKept locationEquals (positions events) = some e := fun e => Iff.rfl
  have hbest : ∀ e, (history fl.toNmeaFloats events).mBestPosition = some e ↔
      lastKept bestPositionEquals (bestPositions fl.toNmeaFloats events) = some e :=
    fun e => Iff.rfl
  have hnoPosition :
      (∀ l time, Newest locationEquals (positions events) l time → l.mValid = false) →
        ∀ e, (history fl.toNmeaFloats events).mLocation = some e → e.item.mValid = false :=
    fun h e he => h e.item e.mUtcReported
      ((newest_iff locationEquals_congr).mpr ⟨e, (hposition e).mp he, rfl, rfl⟩)
  constructor
  · exact fun t ht hvalid => showsTime_debugTime ht hvalid
  · exact fun h => debugTime_invalid h
  · intro l time hnewest hvalid
    obtain ⟨e, he, rfl, rfl⟩ := (newest_iff locationEquals_congr).mp hnewest
    exact showsPosition_debugLocation ((hposition e).mpr he) hvalid
  · intro hnone b time hnewest hvalid
    obtain ⟨e, he, rfl, rfl⟩ := (newest_iff bestPositionEquals_congr).mp hnewest
    exact showsBestPosition_debugLocation (hnoPosition hnone) ((hbest e).mpr he) hvalid
  · intro hnone hnoBest
    refine debugLocation_invalid (hnoPosition hnone) fun e he => ?_
    exact hnoBest e.item e.mUtcReported
      ((newest_iff bestPositionEquals_congr).mpr ⟨e, (hbest e).mp he, rfl, rfl⟩)

/-- Integers for the floating-point numbers of a report. -/
def intReportFloats : ReportFloats Int Int where
  toNmeaFloats := intFloats
  toDouble x := x
  toDegrees x := x
  timeUnc a b := (a + b) * 1000

/-- A time sentence. It is the second day of the week 2000, at 18 leap seconds. -/
def timeSentence : CString :=
  "$PQWM1,2000,86400000,1,0,5,0,7,0,0,0,0,0,0,0,0,0,0,0,0,0,0,0,18,1*00".toList

/-- All data is deleted, then come a position, a second one at another place, the time, and a third
position at the place of the second. -/
def samePlace : List (StatusEvent Int Int Nat) :=
  [.deleteAidingData true (fun i => i) ⟨0, 0, 0, 0, 0, 0, 0, 0, 0⟩,
    .position .success 20 ⟨11, 20, 30, 1, 1, 1, 1, 1, 1⟩,
    .position .success 21 ⟨10, 20, 30, 4, 5, 6, 7, 8, 9⟩,
    .nmea zeroUninit (fun i => i) timeSentence 68,
    .position .intermediate 22 ⟨10, 20, 30, 0, 0, 0, 0, 0, 0⟩]

/-- The report has the motion of the second position with the time of the third one, and it is 18
seconds before 7 May 2018. -/
theorem getDebugReport_run_samePlace :
    let r := getDebugReport intReportFloats (runEvents intFloats samePlace)
    ShowsPosition intReportFloats ⟨10, 20, 30, 4, 5, 6, 7, 8, 9⟩ 22 r.mLocation ∧
      r.mTime.timeEstimate = 1525651182000 := by
  have hshows := getDebugReport_run intReportFloats samePlace
  constructor
  · refine hshows.position ⟨true, _⟩ 22 ?_ rfl
    -- the row begins with the second position, and the third one continues it
    refine ⟨[.setDefault ⟨0, 0, false, _⟩, .setItem (.new 20 ⟨true, _⟩)],
      .setItem (.new 21 ⟨true, _⟩), [.setItem (.new 22 ⟨true, _⟩)], rfl, rfl, by decide,
      fun call hcall => ?_, rfl⟩
    obtain rfl := List.mem_singleton.mp hcall
    exact ⟨_, rfl, by decide⟩
  · have htime : lastItem (times intFloats samePlace) =
        some ⟨2000, 86400000, 1, 0, 5, 0, 7, 18, 1⟩ := by decide
    exact (hshows.time _ htime (by decide)).estimate

end LocHal.Gnss.DebugReport
