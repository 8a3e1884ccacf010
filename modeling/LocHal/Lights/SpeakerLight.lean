import LocHal.Util.NmeaPrint
import Mathlib.Logic.Function.Basic
import Mathlib.Data.List.Induction

/-!
# `LocHal.Lights.SpeakerLight`: the notification light of `lights.c`

Three lights of the framework share one LED with three colours: attention, notifications and
battery. `set_light` keeps the state of each, and shows the first of them that is lit. The LED is
set through files of `/sys/class/leds`.

`holds_run` says what the files hold after any calls: what `set_speaker_light_locked` writes for the
light that wins among the last states (`winner`), whatever has been written for the states before,
and the brightness of the last states of the backlight and the buttons. It says this in the terms of
the source. What it means to the framework, which knows priorities, colours and times, is in
`LocHal.Lights.SpeakerLightShown`.

The calls are serialised by `g_lock`. All writes succeed. `dev` is not null.
-/

set_option autoImplicit false

namespace LocHal.Lights

open LocHal.Util (CString)
open LocHal.Util.LocNmea (formatD length_formatD_natCast_le)

/-! ### The files -/

/-- The colours of the LED. -/
inductive Led where
  | red
  | green
  | blue
  deriving DecidableEq, Repr

/-- The files. -/
inductive SysFile where
  | brightness (led : Led)
  | dutyPcts (led : Led)
  | startIdx (led : Led)
  | pauseLo (led : Led)
  | pauseHi (led : Led)
  | rampStepMs (led : Led)
  | blink (led : Led)
  | rgbBlink
  | lcd
  | buttons
  deriving DecidableEq, Repr

/-- What has been written to the files last. -/
abbrev SysFiles := SysFile → Option CString

/-- `write_int`: the line that is written. -/
def writeInt (value : Int) : CString := formatD 1 value ++ ['\n']

/-- `write_str`: the line that is written. -/
def writeStr (value : CString) : CString := value ++ ['\n']

/-- The writes in order. -/
def writeAll (files : SysFiles) (writes : List (SysFile × CString)) : SysFiles :=
  writes.foldl (fun files w => Function.update files w.1 (some w.2)) files

/-! ### The lights -/

/-- The members of `light_state_t` that are used. -/
structure LightState where
  color : BitVec 32
  flashMode : BitVec 32
  flashOnMS : BitVec 32
  flashOffMS : BitVec 32
  deriving DecidableEq, Repr

/-- Static storage. -/
def LightState.zero : LightState := ⟨0, 0, 0, 0⟩

/-- The names that `open_lights` knows. -/
inductive LightId where
  | backlight
  | buttons
  | battery
  | notifications
  | attention
  deriving DecidableEq, Repr

/-- `is_lit`. -/
def isLit (state : LightState) : Bool := state.color &&& 0x00ffffff != 0

/-- A colour of the state. -/
def component (state : LightState) : Led → Nat
  | .red => (state.color >>> 16 &&& 0xff).toNat
  | .green => (state.color >>> 8 &&& 0xff).toNat
  | .blue => (state.color &&& 0xff).toNat

/-- `rgb_to_brightness`. -/
def rgbToBrightness (state : LightState) : Nat :=
  (77 * component state .red + 150 * component state .green + 29 * component state .blue) >>> 8

/-- `BRIGHTNESS_RAMP`. -/
def brightnessRamp : List Nat := [0, 12, 25, 37, 50, 72, 85, 100]

/-- `RAMP_STEP_DURATION`. -/
def rampStepDuration : Int := 50

/-- The loop of `get_scaled_duty_pcts`. `temp` has room for four characters. -/
def dutyLoop (brightness : Nat) : List Nat → CString → CString → CString
  | [], _, buf => buf
  | pct :: ramp, pad, buf =>
      let temp := (pad ++ formatD 1 (pct * brightness / 255 : Nat)).take 4
      dutyLoop brightness ramp [','] (buf ++ temp)

/-- `get_scaled_duty_pcts`. -/
def getScaledDutyPcts (brightness : Nat) : CString := dutyLoop brightness brightnessRamp [] []

/-- `onMS` and `offMS`. `LIGHT_FLASH_TIMED` is 1. -/
def flashTimes (state : LightState) : Int × Int :=
  if state.flashMode = 1 then (state.flashOnMS.toInt, state.flashOffMS.toInt) else (0, 0)

/-- The LED blinks. -/
def blinks (state : LightState) : Bool :=
  0 < (flashTimes state).1 && 0 < (flashTimes state).2

/-- `stepDuration` and `pauseHi`. The ramp has eight steps and goes up and down. -/
def rampTimes (onMS : Int) : Int × Int :=
  if rampStepDuration * 8 * 2 > onMS then (onMS.tdiv (8 * 2), 0)
  else (rampStepDuration, onMS - rampStepDuration * 8 * 2)

/-- The number of a colour. -/
def ledIndex : Led → Nat
  | .red => 0
  | .green => 1
  | .blue => 2

/-- The writes for one colour that blinks. -/
def blinkWrites (state : LightState) (led : Led) : List (SysFile × CString) :=
  let (onMS, offMS) := flashTimes state
  let (stepDuration, pauseHi) := rampTimes onMS
  [(.startIdx led, writeInt (8 * ledIndex led : Nat)),
    (.dutyPcts led, writeStr (getScaledDutyPcts (component state led))),
    (.pauseLo led, writeInt offMS),
    (.pauseHi led, writeInt pauseHi),
    (.rampStepMs led, writeInt stepDuration)]

/-- `set_speaker_light_locked`. -/
def setSpeakerLightLocked (state : LightState) : List (SysFile × CString) :=
  let red := component state .red
  let green := component state .green
  let blue := component state .blue
  (.rgbBlink, writeInt 0) ::
    if blinks state then
      blinkWrites state .red ++ blinkWrites state .green ++ blinkWrites state .blue
        ++ [(.rgbBlink, writeInt 1)]
    else
      (if red = 0 ∧ green = 0 ∧ blue = 0 then
        [(.blink .red, writeInt 0), (.blink .green, writeInt 0), (.blink .blue, writeInt 0)]
      else []) ++
        [(.brightness .red, writeInt red), (.brightness .green, writeInt green),
          (.brightness .blue, writeInt blue)]

/-- The globals and the files. -/
structure LightGlobals where
  g_attention : LightState
  g_notification : LightState
  g_battery : LightState
  files : SysFiles

/-- Before the first call. -/
def LightGlobals.init : LightGlobals := ⟨.zero, .zero, .zero, fun _ => none⟩

/-- The light that is shown. -/
def shown (g_attention g_notification g_battery : LightState) : LightState :=
  if isLit g_attention then g_attention
  else if isLit g_notification then g_notification
  else g_battery

/-- `handle_speaker_light_locked`. -/
def handleSpeakerLightLocked (s : LightGlobals) : LightGlobals :=
  let writes := setSpeakerLightLocked (shown s.g_attention s.g_notification s.g_battery)
  { s with files := writeAll s.files writes }

/-- A colour with the brightness applied. -/
def scale (brightness value : Nat) : Nat := if 0 < value then value * brightness / 0xFF else value

/-- What `set_light_notifications` makes of a state: a brightness of the user is in the upper
bits. -/
def applyBrightness (state : LightState) : LightState :=
  let brightness := ((state.color &&& 0xFF000000) >>> 24).toNat
  if 0 < brightness ∧ brightness < 0xFF then
    let color := scale brightness (component state .red) <<< 16
      + scale brightness (component state .green) <<< 8 + scale brightness (component state .blue)
    { state with color := BitVec.ofNat 32 color }
  else state

/-- `set_light` of the device with this name. -/
def setLight (s : LightGlobals) (name : LightId) (state : LightState) : LightGlobals :=
  match name with
  | .backlight => { s with files := writeAll s.files [(.lcd, writeInt (rgbToBrightness state))] }
  | .buttons => { s with files := writeAll s.files [(.buttons, writeInt (rgbToBrightness state))] }
  | .battery => handleSpeakerLightLocked { s with g_battery := state }
  | .notifications => handleSpeakerLightLocked { s with g_notification := applyBrightness state }
  | .attention => handleSpeakerLightLocked { s with g_attention := state }

/-- The calls in order. -/
def runCalls (calls : List (LightId × LightState)) : LightGlobals :=
  calls.foldl (fun s call => setLight s call.1 call.2) .init

/-! ### What the files hold -/

/-- The last state of a light. -/
def lastState (calls : List (LightId × LightState)) (name : LightId) : Option LightState :=
  (calls.filterMap fun call => if call.1 = name then some call.2 else none).getLast?

/-- The light that wins: attention before notifications before battery. -/
def winner (calls : List (LightId × LightState)) : LightState :=
  shown ((lastState calls .attention).getD .zero)
    (((lastState calls .notifications).map applyBrightness).getD .zero)
    ((lastState calls .battery).getD .zero)

/-- The percentages of the ramp for a colour. -/
def duties (value : Nat) : List Nat := brightnessRamp.map fun pct => pct * value / 255

/-- A colour blinks: it is on for the time of the ramp and of the pause, which is less than
sixteen milliseconds short of `onMS`, and off for `offMS`. Each colour has its own eight entries
of the table. -/
structure LedBlinks (files : SysFiles) (led : Led) (value : Nat) (onMS offMS : Int) : Prop where
  startIdx : files (.startIdx led) = some (writeInt (8 * ledIndex led : Nat))
  duty : files (.dutyPcts led)
    = some (writeStr ([','].intercalate ((duties value).map fun (pct : Nat) => formatD 1 pct)))
  pauseLo : files (.pauseLo led) = some (writeInt offMS)
  times : ∃ stepDuration pauseHi : Int,
    files (.rampStepMs led) = some (writeInt stepDuration) ∧
      files (.pauseHi led) = some (writeInt pauseHi) ∧ 0 ≤ stepDuration ∧ stepDuration ≤ 50 ∧
      0 ≤ pauseHi ∧ 16 * stepDuration + pauseHi ≤ onMS ∧ onMS < 16 * stepDuration + pauseHi + 16

/-- The LED shows the state. -/
def LedShows (files : SysFiles) (state : LightState) : Prop :=
  if blinks state then
    files .rgbBlink = some (writeInt 1) ∧
      ∀ led, LedBlinks files led (component state led) (flashTimes state).1 (flashTimes state).2
  else
    files .rgbBlink = some (writeInt 0) ∧
      (∀ led, files (.brightness led) = some (writeInt (component state led))) ∧
      ((∀ led, component state led = 0) → ∀ led, files (.blink led) = some (writeInt 0))

/-- The files hold what is written for the last states of the lights. -/
structure Holds (files : SysFiles) (calls : List (LightId × LightState)) : Prop where
  led : (∃ call ∈ calls, call.1 ≠ .backlight ∧ call.1 ≠ .buttons) → LedShows files (winner calls)
  lcd : ∀ state ∈ lastState calls .backlight, files .lcd = some (writeInt (rgbToBrightness state))
  buttons : ∀ state ∈ lastState calls .buttons,
    files .buttons = some (writeInt (rgbToBrightness state))

/-! ### The writes of one call -/

theorem component_le (state : LightState) (led : Led) : component state led ≤ 255 := by
  have hmask : ∀ x : BitVec 32, (x &&& 0xff).toNat ≤ 255 := by
    intro x
    rw [BitVec.toNat_and]
    exact Nat.and_le_right
  cases led <;> exact hmask _

/-- A percentage never gets out of `temp`. -/
theorem dutyLoop_eq {brightness : Nat} (hbrightness : brightness ≤ 255) (ramp : List Nat)
    (hramp : ∀ pct ∈ ramp, pct ≤ 100) (buf : CString) :
    dutyLoop brightness ramp [','] buf
      = buf ++ ramp.flatMap fun pct => ',' :: formatD 1 (pct * brightness / 255 : Nat) := by
  induction ramp generalizing buf with
  | nil => rw [dutyLoop, List.flatMap_nil, List.append_nil]
  | cons pct ramp ih =>
      have hpct : pct * brightness / 255 < 10 ^ 3 := by
        have hle := hramp pct List.mem_cons_self
        have hmul : pct * brightness ≤ 100 * 255 := Nat.mul_le_mul hle hbrightness
        omega
      have hfit := length_formatD_natCast_le 1 (k := 3) (by decide) hpct
      rw [dutyLoop, ih (fun pct hmem => hramp pct (List.mem_cons_of_mem _ hmem)),
        List.take_of_length_le (by rw [List.length_append, List.length_singleton]; omega),
        List.flatMap_cons, List.append_assoc]
      rfl

/-- The text has the percentages of the ramp, with commas between them. -/
theorem getScaledDutyPcts_eq {brightness : Nat} (hbrightness : brightness ≤ 255) :
    getScaledDutyPcts brightness
      = [','].intercalate ((duties brightness).map fun (pct : Nat) => formatD 1 pct) := by
  have hfirst : (([] : CString) ++ formatD 1 (0 * brightness / 255 : Nat)).take 4
      = formatD 1 (0 * brightness / 255 : Nat) := by
    rw [Nat.zero_mul]
    rfl
  unfold getScaledDutyPcts brightnessRamp duties
  rw [dutyLoop, hfirst, dutyLoop_eq hbrightness _ (by decide)]
  simp [List.intercalate, brightnessRamp]

/-- The times of the ramp. -/
theorem rampTimes_spec {onMS : Int} (h : 0 < onMS) :
    0 ≤ (rampTimes onMS).1 ∧ (rampTimes onMS).1 ≤ 50 ∧ 0 ≤ (rampTimes onMS).2 ∧
      16 * (rampTimes onMS).1 + (rampTimes onMS).2 ≤ onMS ∧
      onMS < 16 * (rampTimes onMS).1 + (rampTimes onMS).2 + 16 := by
  unfold rampTimes rampStepDuration
  split
  · rw [Int.tdiv_eq_ediv_of_nonneg (Int.le_of_lt h)]
    omega
  · omega

/-- The LED after `set_speaker_light_locked`. -/
theorem ledShows_writeAll (files : SysFiles) (state : LightState) :
    LedShows (writeAll files (setSpeakerLightLocked state)) state := by
  unfold LedShows
  cases hblinks : blinks state with
  | true =>
      rw [if_pos rfl]
      have hon : 0 < (flashTimes state).1 := by
        unfold blinks at hblinks
        rw [Bool.and_eq_true, decide_eq_true_iff, decide_eq_true_iff] at hblinks
        exact hblinks.1
      unfold setSpeakerLightLocked
      dsimp only
      rw [if_pos hblinks]
      refine ⟨by simp [writeAll], fun led => ?_⟩
      obtain ⟨hstep, hmax, hpause, hle, hlt⟩ := rampTimes_spec hon
      have hduty := getScaledDutyPcts_eq (component_le state led)
      constructor
      · cases led <;> simp [writeAll, blinkWrites]
      · rw [← hduty]
        cases led <;> simp [writeAll, blinkWrites]
      · cases led <;> simp [writeAll, blinkWrites]
      · refine ⟨(rampTimes (flashTimes state).1).1, (rampTimes (flashTimes state).1).2, ?_, ?_,
          hstep, hmax, hpause, hle, hlt⟩
        · cases led <;> simp [writeAll, blinkWrites]
        · cases led <;> simp [writeAll, blinkWrites]
  | false =>
      rw [if_neg Bool.false_ne_true]
      unfold setSpeakerLightLocked
      dsimp only
      rw [hblinks, if_neg Bool.false_ne_true]
      refine ⟨?_, fun led => ?_, fun hall led => ?_⟩
      · split <;> simp [writeAll]
      · split <;> cases led <;> simp [writeAll, *]
      · rw [if_pos ⟨hall .red, hall .green, hall .blue⟩]
        cases led <;> simp [writeAll]

/-- The backlight and the buttons are not files of the LED. -/
theorem writeAll_speaker (files : SysFiles) (state : LightState) :
    writeAll files (setSpeakerLightLocked state) .lcd = files .lcd ∧
      writeAll files (setSpeakerLightLocked state) .buttons = files .buttons := by
  unfold setSpeakerLightLocked
  dsimp only
  split
  · simp [writeAll, blinkWrites]
  · split <;> simp [writeAll]

/-- The LED does not depend on the other files. -/
theorem LedShows.update {files : SysFiles} {state : LightState} (h : LedShows files state)
    {file : SysFile} (hfile : file = .lcd ∨ file = .buttons) (text : CString) :
    LedShows (writeAll files [(file, text)]) state := by
  have hsame : ∀ other : SysFile, other ≠ .lcd → other ≠ .buttons →
      writeAll files [(file, text)] other = files other := by
    intro other hlcd hbuttons
    refine Function.update_of_ne (fun heq => ?_) _ _
    rcases hfile with rfl | rfl
    · exact hlcd heq
    · exact hbuttons heq
  unfold LedShows at h ⊢
  rw [hsame .rgbBlink nofun nofun]
  split
  · rename_i hblinks
    rw [if_pos hblinks] at h
    refine ⟨h.1, fun led => ?_⟩
    obtain ⟨hidx, hduty, hlo, stepDuration, pauseHi, hstep, hpause, htimes⟩ := h.2 led
    exact ⟨(hsame (.startIdx led) nofun nofun).trans hidx,
      (hsame (.dutyPcts led) nofun nofun).trans hduty,
      (hsame (.pauseLo led) nofun nofun).trans hlo, stepDuration, pauseHi,
      (hsame (.rampStepMs led) nofun nofun).trans hstep,
      (hsame (.pauseHi led) nofun nofun).trans hpause, htimes⟩
  · rename_i hblinks
    rw [if_neg hblinks] at h
    exact ⟨h.1, fun led => (hsame (.brightness led) nofun nofun).trans (h.2.1 led),
      fun hall led => (hsame (.blink led) nofun nofun).trans (h.2.2 hall led)⟩

/-! ### Any calls -/

theorem lastState_concat (calls : List (LightId × LightState)) (call : LightId × LightState)
    (name : LightId) :
    lastState (calls ++ [call]) name
      = if call.1 = name then some call.2 else lastState calls name := by
  unfold lastState
  rw [List.filterMap_append]
  by_cases hname : call.1 = name
  · simp [hname]
  · simp [hname]

/-- The globals and the files after the calls. -/
structure Follows (s : LightGlobals) (calls : List (LightId × LightState)) : Prop where
  attention : s.g_attention = (lastState calls .attention).getD .zero
  notification : s.g_notification
    = ((lastState calls .notifications).map applyBrightness).getD .zero
  battery : s.g_battery = (lastState calls .battery).getD .zero
  holds : Holds s.files calls

variable {s : LightGlobals} {calls : List (LightId × LightState)}

theorem follows_init : Follows .init [] :=
  ⟨rfl, rfl, rfl, by simp, by simp [lastState], by simp [lastState]⟩

/-- A call that changes one of the three lights. -/
theorem Follows.speaker (h : Follows s calls) (name : LightId) (state : LightState)
    (hname : name ≠ .backlight ∧ name ≠ .buttons) {t : LightGlobals} (hfiles : t.files = s.files)
    (hattention : t.g_attention
      = (lastState (calls ++ [(name, state)]) .attention).getD .zero)
    (hnotification : t.g_notification
      = ((lastState (calls ++ [(name, state)]) .notifications).map applyBrightness).getD .zero)
    (hbattery : t.g_battery = (lastState (calls ++ [(name, state)]) .battery).getD .zero) :
    Follows (handleSpeakerLightLocked t) (calls ++ [(name, state)]) := by
  refine ⟨hattention, hnotification, hbattery, fun _ => ?_, ?_, ?_⟩
  · unfold winner
    rw [← hattention, ← hnotification, ← hbattery]
    exact ledShows_writeAll t.files _
  · rw [lastState_concat, if_neg hname.1]
    intro last hlast
    refine (writeAll_speaker t.files _).1.trans ?_
    rw [hfiles]
    exact h.holds.lcd last hlast
  · rw [lastState_concat, if_neg hname.2]
    intro last hlast
    refine (writeAll_speaker t.files _).2.trans ?_
    rw [hfiles]
    exact h.holds.buttons last hlast

/-- A call for one of the two other lights. -/
theorem Follows.brightness (h : Follows s calls) {name : LightId} {state : LightState}
    (hname : name = .backlight ∨ name = .buttons) {file : SysFile} {text : CString}
    (hfile : file = .lcd ∨ file = .buttons)
    (hlcd : ∀ last ∈ lastState (calls ++ [(name, state)]) .backlight,
      writeAll s.files [(file, text)] .lcd = some (writeInt (rgbToBrightness last)))
    (hbuttons : ∀ last ∈ lastState (calls ++ [(name, state)]) .buttons,
      writeAll s.files [(file, text)] .buttons = some (writeInt (rgbToBrightness last))) :
    Follows { s with files := writeAll s.files [(file, text)] } (calls ++ [(name, state)]) := by
  have hlast : ∀ other : LightId, other ≠ .backlight → other ≠ .buttons →
      lastState (calls ++ [(name, state)]) other = lastState calls other := by
    intro other hne hne'
    rw [lastState_concat, if_neg]
    rintro rfl
    exact hname.elim hne hne'
  have hattention := hlast .attention nofun nofun
  have hnotification := hlast .notifications nofun nofun
  have hbattery := hlast .battery nofun nofun
  refine ⟨?_, ?_, ?_, fun hspeaker => ?_, hlcd, hbuttons⟩
  · rw [hattention]
    exact h.attention
  · rw [hnotification]
    exact h.notification
  · rw [hbattery]
    exact h.battery
  · -- the winner is the same when none of the three lights changes
    obtain ⟨call, hcall, hother⟩ := hspeaker
    unfold winner
    rw [hattention, hnotification, hbattery]
    rcases List.mem_append.mp hcall with hcall | hcall
    · exact (h.holds.led ⟨call, hcall, hother⟩).update hfile _
    · rw [List.mem_singleton.mp hcall] at hother
      exact absurd hname (not_or.mpr hother)

theorem Follows.setLight (h : Follows s calls) (call : LightId × LightState) :
    Follows (setLight s call.1 call.2) (calls ++ [call]) := by
  obtain ⟨name, state⟩ := call
  cases name with
  | backlight =>
      refine h.brightness (.inl rfl) (.inl rfl) ?_ ?_
      · rw [lastState_concat, if_pos rfl]
        rintro _ ⟨⟩
        rfl
      · rw [lastState_concat, if_neg nofun]
        exact h.holds.buttons
  | buttons =>
      refine h.brightness (.inr rfl) (.inr rfl) ?_ ?_
      · rw [lastState_concat, if_neg nofun]
        exact h.holds.lcd
      · rw [lastState_concat, if_pos rfl]
        rintro _ ⟨⟩
        rfl
  | battery =>
      refine h.speaker .battery state ⟨nofun, nofun⟩ rfl ?_ ?_ ?_ <;> rw [lastState_concat]
      · exact h.attention
      · exact h.notification
      · rfl
  | notifications =>
      refine h.speaker .notifications state ⟨nofun, nofun⟩ rfl ?_ ?_ ?_ <;> rw [lastState_concat]
      · exact h.attention
      · rfl
      · exact h.battery
  | attention =>
      refine h.speaker .attention state ⟨nofun, nofun⟩ rfl ?_ ?_ ?_ <;> rw [lastState_concat]
      · rfl
      · exact h.notification
      · exact h.battery

/-- After any calls, the files hold what the last states of the lights say. -/
theorem holds_run (calls : List (LightId × LightState)) : Holds (runCalls calls).files calls := by
  have hfollows : Follows (runCalls calls) calls := by
    induction calls using List.reverseRecOn with
    | nil => exact follows_init
    | append_singleton calls call ih =>
        have hstep : runCalls (calls ++ [call])
            = Lights.setLight (runCalls calls) call.1 call.2 := by
          unfold runCalls
          rw [List.foldl_append]
          rfl
        rw [hstep]
        exact ih.setLight call
  exact hfollows.holds

end LocHal.Lights
