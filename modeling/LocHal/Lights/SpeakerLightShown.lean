import LocHal.Lights.SpeakerLight
import Mathlib.Data.List.Forall2

/-!
# `LocHal.Lights.SpeakerLightShown`: what the framework sees of the lights

The framework sets lights, and a light has a colour and possibly a flash. This module says what the
files have to hold for the last states that it has set, without the functions of the source.

* A colour is a word with four digits in base 256 (`Argb`). The upper one is a brightness that the
  user has chosen, if it is neither 0 nor 255, and only notifications have it. Such a notification
  has its colours scaled by it (`ColourOf`), and may be dark then.
* The LED belongs to the first of attention and notifications that is lit, and to the battery
  otherwise (`Wins`), lit or not. A light that has never been set is dark.
* A light flashes if it is in the timed mode and both its times are positive (`FlashOf`). While the
  LED blinks, each colour goes up and down through eight entries of a table of its own (`Blinks`).
  The ramp takes sixteen steps, and a pause at the top fills the time up as far as whole
  milliseconds allow. Without a flash the LED has the colours and does not blink (`Steady`).
* The backlight and the buttons have no colour, and get the brightness of theirs: a weighted mean.

All divisions are those of whole numbers (`WholePart`). `shows_run` says that the files are so after
any calls, and it is derived from `holds_run`, which is about the writes.
-/

set_option autoImplicit false

namespace LocHal.Lights

open LocHal.Util (CString)
open LocHal.Util.LocNmea (formatD)

/-! ### What has been asked for -/

/-- `q` is the whole part of `n` divided by `d`. -/
def WholePart (n d q : Nat) : Prop := d * q ≤ n ∧ n < d * (q + 1)

/-- The word has these digits in base 256: the brightness of the user, and the three colours. -/
structure Argb (color : BitVec 32) (alpha : Nat) (rgb : Led → Nat) : Prop where
  word : color.toNat = ((alpha * 256 + rgb .red) * 256 + rgb .green) * 256 + rgb .blue
  digits : ∀ led, rgb led < 256

/-- The colours of a light. -/
inductive ColourOf (calls : List (LightId × LightState)) : LightId → (Led → Nat) → Prop
  /-- The light has never been set. -/
  | dark {name : LightId} (hlast : lastState calls name = none) : ColourOf calls name fun _ => 0
  /-- The user has chosen a brightness. -/
  | dimmed {state : LightState} {alpha : Nat} {rgb colour : Led → Nat}
      (hlast : lastState calls .notifications = some state) (hargb : Argb state.color alpha rgb)
      (halpha : 0 < alpha ∧ alpha < 255)
      (hcolour : ∀ led, WholePart (rgb led * alpha) 255 (colour led)) :
      ColourOf calls .notifications colour
  | plain {name : LightId} {state : LightState} {alpha : Nat} {rgb : Led → Nat}
      (hlast : lastState calls name = some state) (hargb : Argb state.color alpha rgb)
      (halpha : name = .notifications → alpha = 0 ∨ 255 ≤ alpha) : ColourOf calls name rgb

/-- The light has a colour that is not zero. -/
def Lit (calls : List (LightId × LightState)) (name : LightId) : Prop :=
  ∃ colour, ColourOf calls name colour ∧ ∃ led, colour led ≠ 0

/-- The light that the LED belongs to. -/
inductive Wins (calls : List (LightId × LightState)) : LightId → Prop
  | attention (hlit : Lit calls .attention) : Wins calls .attention
  | notifications (hattention : ¬ Lit calls .attention) (hlit : Lit calls .notifications) :
      Wins calls .notifications
  | battery (hattention : ¬ Lit calls .attention) (hnotifications : ¬ Lit calls .notifications) :
      Wins calls .battery

/-- The light flashes with these times. `LIGHT_FLASH_TIMED` is 1. -/
structure FlashOf (calls : List (LightId × LightState)) (name : LightId) (onMS offMS : Int) :
    Prop where
  asked : ∃ state, lastState calls name = some state ∧ state.flashMode = 1 ∧
    state.flashOnMS.toInt = onMS ∧ state.flashOffMS.toInt = offMS
  on : 0 < onMS
  off : 0 < offMS

/-! ### What is shown -/

/-- The LED blinks in these colours. It is on for the sixteen steps of the ramp and a pause, which
is less than sixteen milliseconds short of `onMS`, and off for `offMS`. -/
structure Blinks (files : SysFiles) (colour : Led → Nat) (onMS offMS : Int) : Prop where
  blink : files .rgbBlink = some (writeInt 1)
  /-- The eight entries of each colour are its own. -/
  entries : ∃ first : Led → Nat, (∀ led, files (.startIdx led) = some (writeInt (first led))) ∧
    ∀ led led', led ≠ led' → first led + 8 ≤ first led' ∨ first led' + 8 ≤ first led
  duty : ∀ led, ∃ pcts : List Nat,
    List.Forall₂ (fun pct shown => WholePart (pct * colour led) 255 shown)
      [0, 12, 25, 37, 50, 72, 85, 100] pcts ∧
    files (.dutyPcts led)
      = some (writeStr ([','].intercalate (pcts.map fun (pct : Nat) => formatD 1 pct)))
  pauseLo : ∀ led, files (.pauseLo led) = some (writeInt offMS)
  times : ∀ led, ∃ stepMS pauseMS : Int, files (.rampStepMs led) = some (writeInt stepMS) ∧
    files (.pauseHi led) = some (writeInt pauseMS) ∧ 0 ≤ stepMS ∧ stepMS ≤ 50 ∧ 0 ≤ pauseMS ∧
      16 * stepMS + pauseMS ≤ onMS ∧ onMS < 16 * stepMS + pauseMS + 16

/-- The LED has these colours and does not blink. -/
structure Steady (files : SysFiles) (colour : Led → Nat) : Prop where
  noBlink : files .rgbBlink = some (writeInt 0)
  brightness : ∀ led, files (.brightness led) = some (writeInt (colour led))
  /-- A dark LED has the blinking of each colour turned off as well. -/
  dark : (∀ led, colour led = 0) → ∀ led, files (.blink led) = some (writeInt 0)

/-- A file has the brightness of the colours of a light, weighted as the eye sees them. -/
def ShowsBrightness (calls : List (LightId × LightState)) (name : LightId) (text : Option CString) :
    Prop :=
  ∀ state alpha rgb, lastState calls name = some state → Argb state.color alpha rgb →
    ∃ brightness : Nat,
      WholePart (77 * rgb .red + 150 * rgb .green + 29 * rgb .blue) 256 brightness ∧
        text = some (writeInt brightness)

/-- The files show what the framework has asked for. The LED has not been written before the first
call for one of its three lights. -/
structure Shows (files : SysFiles) (calls : List (LightId × LightState)) : Prop where
  led : (∃ call ∈ calls, call.1 ≠ .backlight ∧ call.1 ≠ .buttons) →
    ∃ name colour, Wins calls name ∧ ColourOf calls name colour ∧
      (∀ onMS offMS, FlashOf calls name onMS offMS → Blinks files colour onMS offMS) ∧
      ((∀ onMS offMS, ¬ FlashOf calls name onMS offMS) → Steady files colour)
  lcd : ShowsBrightness calls .backlight (files .lcd)
  buttons : ShowsBrightness calls .buttons (files .buttons)

/-! ### Colours in base 256 -/

theorem wholePart_iff {n d q : Nat} (hd : 0 < d) : WholePart n d q ↔ q = n / d := by
  unfold WholePart
  constructor
  · rintro ⟨hle, hlt⟩
    exact (Nat.div_eq_of_lt_le (by rwa [Nat.mul_comm]) (by rwa [Nat.mul_comm])).symm
  · rintro rfl
    exact ⟨Nat.mul_div_le n d, Nat.lt_mul_div_succ n hd⟩

/-- The weight of a colour in the word. -/
def weight : Led → Nat
  | .red => 65536
  | .green => 256
  | .blue => 1

/-- The last digit of a word. -/
theorem toNat_and_0xff (x : BitVec 32) : (x &&& 0xff).toNat = x.toNat % 256 := by
  rw [BitVec.toNat_and]
  exact Nat.and_two_pow_sub_one_eq_mod x.toNat 8

theorem component_eq (state : LightState) (led : Led) :
    component state led = state.color.toNat / weight led % 256 := by
  cases led <;> refine (toNat_and_0xff _).trans ?_
  · rw [BitVec.toNat_ushiftRight, Nat.shiftRight_eq_div_pow]
    rfl
  · rw [BitVec.toNat_ushiftRight, Nat.shiftRight_eq_div_pow]
    rfl
  · rw [weight, Nat.div_one]

/-- The digits of the word are the components. -/
theorem Argb.eq_component {state : LightState} {alpha : Nat} {rgb : Led → Nat}
    (h : Argb state.color alpha rgb) : rgb = component state := by
  have hr := h.digits .red
  have hg := h.digits .green
  have hb := h.digits .blue
  funext led
  rw [component_eq, h.word]
  cases led <;> simp only [weight] <;> omega

theorem Argb.alpha_eq {color : BitVec 32} {alpha : Nat} {rgb : Led → Nat}
    (h : Argb color alpha rgb) : alpha = color.toNat / 2 ^ 24 := by
  have hr := h.digits .red
  have hg := h.digits .green
  have hb := h.digits .blue
  rw [h.word]
  omega

/-- Every word has digits. -/
theorem argb_component (state : LightState) :
    Argb state.color (state.color.toNat / 2 ^ 24) (component state) where
  word := by
    rw [component_eq, component_eq, component_eq]
    simp only [weight]
    omega
  digits := fun led => by
    rw [component_eq]
    exact Nat.mod_lt _ (by decide)

/-- The brightness of the user, as `set_light_notifications` reads it. -/
theorem alpha_toNat (color : BitVec 32) :
    ((color &&& 0xFF000000) >>> 24).toNat = color.toNat / 2 ^ 24 := by
  -- the word has 32 bits, so the mask before the shift drops nothing that the shift keeps
  have hbits : (color &&& 0xFF000000) >>> 24 = color >>> 24 &&& 0xff := by
    rw [BitVec.ushiftRight_and_distrib]
    rfl
  rw [hbits, toNat_and_0xff, BitVec.toNat_ushiftRight, Nat.shiftRight_eq_div_pow]
  exact Nat.mod_eq_of_lt (by omega)

/-- The colours that `set_light_notifications` leaves. -/
theorem component_applyBrightness (state : LightState) (led : Led) :
    component (applyBrightness state) led =
      if 0 < state.color.toNat / 2 ^ 24 ∧ state.color.toNat / 2 ^ 24 < 255 then
        component state led * (state.color.toNat / 2 ^ 24) / 255
      else component state led := by
  -- the source leaves a component of 0 alone, and the product would be 0 as well
  have hscale : ∀ brightness value : Nat, scale brightness value = value * brightness / 255 := by
    intro brightness value
    unfold scale
    split
    · rfl
    · next hvalue => simp [Nat.eq_zero_of_not_pos hvalue]
  unfold applyBrightness
  rw [alpha_toNat]
  dsimp only
  split
  · next halpha =>
      -- a scaled component is still a digit, so the digits do not run into each other
      have hlt : ∀ led, component state led * (state.color.toNat / 2 ^ 24) / 255 < 256 := by
        intro led
        have hmul := Nat.mul_le_mul (component_le state led) (Nat.le_of_lt halpha.2)
        omega
      have hr := hlt .red
      have hg := hlt .green
      have hb := hlt .blue
      rw [component_eq]
      simp only [hscale, Nat.shiftLeft_eq, BitVec.toNat_ofNat]
      cases led <;> simp only [weight] <;> omega
  · rfl

/-! ### The last states -/

/-- What `lights.c` keeps of the last state of a light. -/
def stateOf (calls : List (LightId × LightState)) (name : LightId) : LightState :=
  ((lastState calls name).map fun state =>
    if name = .notifications then applyBrightness state else state).getD .zero

section
variable {calls : List (LightId × LightState)} {name : LightId} {colour : Led → Nat}

theorem applyBrightness_flash (state : LightState) :
    (applyBrightness state).flashMode = state.flashMode ∧
      (applyBrightness state).flashOnMS = state.flashOnMS ∧
      (applyBrightness state).flashOffMS = state.flashOffMS := by
  unfold applyBrightness
  dsimp only
  split <;> exact ⟨rfl, rfl, rfl⟩

theorem component_zero : component .zero = fun _ => 0 := by
  funext led
  cases led <;> decide

theorem stateOf_of_none (hlast : lastState calls name = none) : stateOf calls name = .zero := by
  rw [stateOf, hlast]
  rfl

theorem stateOf_of_some {state : LightState} (hlast : lastState calls name = some state) :
    stateOf calls name = if name = .notifications then applyBrightness state else state := by
  rw [stateOf, hlast]
  rfl

/-- A light has the colours of its last state. -/
theorem colourOf_iff : ColourOf calls name colour ↔ colour = component (stateOf calls name) := by
  constructor
  · intro h
    cases h with
    | dark hlast => rw [stateOf_of_none hlast, component_zero]
    -- the digits of the word are unique, so the ones that the specification names are those
    | @dimmed state alpha rgb _ hlast hargb halpha hcolour =>
        funext led
        rw [stateOf_of_some hlast, if_pos rfl, component_applyBrightness, ← hargb.alpha_eq,
          if_pos halpha, ← hargb.eq_component]
        exact (wholePart_iff (by decide)).mp (hcolour led)
    | @plain _ state alpha rgb hlast hargb halpha =>
        rw [stateOf_of_some hlast, hargb.eq_component]
        split
        · next hname =>
            funext led
            rw [component_applyBrightness, ← hargb.alpha_eq, if_neg]
            have := halpha hname
            omega
        · rfl
  · rintro rfl
    cases hlast : lastState calls name with
    | none =>
        rw [stateOf_of_none hlast, component_zero]
        exact .dark hlast
    | some state =>
        have hargb := argb_component state
        -- every word has digits; the alpha of a notification says whether it is dimmed
        by_cases hdim : name = .notifications ∧
            0 < state.color.toNat / 2 ^ 24 ∧ state.color.toNat / 2 ^ 24 < 255
        · obtain ⟨rfl, halpha⟩ := hdim
          refine .dimmed hlast hargb halpha fun led => ?_
          rw [wholePart_iff (by decide), stateOf_of_some hlast, if_pos rfl,
            component_applyBrightness, if_pos halpha]
        · have hsame : component (stateOf calls name) = component state := by
            rw [stateOf_of_some hlast]
            split
            · next hname =>
                funext led
                rw [component_applyBrightness, if_neg fun h => hdim ⟨hname, h⟩]
            · rfl
          rw [hsame]
          exact .plain hlast hargb fun hname => by
            have := not_and.mp hdim hname
            omega

/-- The test of `is_lit` looks at the three colours. -/
theorem isLit_iff (state : LightState) : isLit state = true ↔ ∃ led, component state led ≠ 0 := by
  -- `is_lit` looks at the word without its alpha
  have hmask : (state.color &&& 0x00ffffff).toNat = state.color.toNat % 2 ^ 24 := by
    rw [BitVec.toNat_and]
    exact Nat.and_two_pow_sub_one_eq_mod state.color.toNat 24
  have hword := (argb_component state).word
  have hr := component_le state .red
  have hg := component_le state .green
  have hb := component_le state .blue
  unfold isLit
  rw [bne_iff_ne, ne_eq, ← BitVec.toNat_inj, hmask, show (0 : BitVec 32).toNat = 0 from rfl]
  constructor
  · intro h
    -- a word whose three last digits are 0 is 0 but for the alpha
    by_contra hnone
    have hzero : ∀ led, component state led = 0 := fun led => not_not.mp (not_exists.mp hnone led)
    rw [hzero, hzero, hzero] at hword
    exact h (by omega)
  · rintro ⟨led, hled⟩ h
    cases led <;> omega

theorem lit_iff : Lit calls name ↔ isLit (stateOf calls name) = true := by
  unfold Lit
  simp only [colourOf_iff, exists_eq_left, isLit_iff]

/-- The winner is the last state of the light that wins. -/
theorem exists_wins (calls : List (LightId × LightState)) :
    ∃ name, Wins calls name ∧ winner calls = stateOf calls name := by
  have hwinner : winner calls = shown (stateOf calls .attention) (stateOf calls .notifications)
      (stateOf calls .battery) := by
    unfold winner stateOf
    simp
  -- the order of the tests is that of the priorities
  rw [hwinner, shown]
  split
  · next hlit => exact ⟨_, .attention (lit_iff.mpr hlit), rfl⟩
  · next hattention =>
      have hattention := fun h => hattention (lit_iff.mp h)
      split
      · next hlit => exact ⟨_, .notifications hattention (lit_iff.mpr hlit), rfl⟩
      · next hlit => exact ⟨_, .battery hattention fun h => hlit (lit_iff.mp h), rfl⟩

/-- The flash of a light is that of its last state. -/
theorem flashOf_iff {onMS offMS : Int} : FlashOf calls name onMS offMS ↔
    blinks (stateOf calls name) = true ∧ flashTimes (stateOf calls name) = (onMS, offMS) := by
  -- without the mode the source takes both times for 0, which does not blink
  have hblinks : ∀ state : LightState, (blinks state = true ∧ flashTimes state = (onMS, offMS)) ↔
      (state.flashMode = 1 ∧ state.flashOnMS.toInt = onMS ∧ state.flashOffMS.toInt = offMS) ∧
        0 < onMS ∧ 0 < offMS := by
    intro state
    unfold blinks flashTimes
    rw [Bool.and_eq_true, decide_eq_true_eq, decide_eq_true_eq]
    split
    · next hmode =>
        rw [Prod.mk.injEq, and_iff_right hmode]
        constructor
        · rintro ⟨htimes, rfl, rfl⟩
          exact ⟨⟨rfl, rfl⟩, htimes⟩
        · rintro ⟨⟨rfl, rfl⟩, htimes⟩
          exact ⟨htimes, rfl, rfl⟩
    · next hmode =>
        exact iff_of_false (fun h => Int.lt_irrefl 0 h.1.1) fun h => hmode h.1.1
  rw [hblinks]
  -- dimming does not touch the times, and a light without a call has the mode 0
  have hasked : (∃ state, lastState calls name = some state ∧ state.flashMode = 1 ∧
      state.flashOnMS.toInt = onMS ∧ state.flashOffMS.toInt = offMS) ↔
      (stateOf calls name).flashMode = 1 ∧ (stateOf calls name).flashOnMS.toInt = onMS ∧
        (stateOf calls name).flashOffMS.toInt = offMS := by
    cases hlast : lastState calls name with
    | none =>
        rw [stateOf_of_none hlast]
        exact iff_of_false (by simp) fun h => absurd h.1 (by decide)
    | some state =>
        have hsame : (stateOf calls name).flashMode = state.flashMode ∧
            (stateOf calls name).flashOnMS = state.flashOnMS ∧
            (stateOf calls name).flashOffMS = state.flashOffMS := by
          rw [stateOf_of_some hlast]
          split
          · exact applyBrightness_flash state
          · exact ⟨rfl, rfl, rfl⟩
        rw [hsame.1, hsame.2.1, hsame.2.2]
        simp
  rw [← hasked]
  exact ⟨fun h => ⟨h.asked, h.on, h.off⟩, fun h => ⟨h.1, h.2.1, h.2.2⟩⟩

end

/-! ### Any calls -/

section
variable {files : SysFiles} {state : LightState}

/-- The writes for a state that blinks. -/
theorem LedShows.blinks_of (h : LedShows files state) {onMS offMS : Int}
    (hblinks : blinks state = true) (htimes : flashTimes state = (onMS, offMS)) :
    Blinks files (component state) onMS offMS := by
  unfold LedShows at h
  rw [if_pos hblinks, htimes] at h
  refine ⟨h.1, ⟨fun led => 8 * ledIndex led, fun led => (h.2 led).startIdx, ?_⟩, fun led => ?_,
    fun led => (h.2 led).pauseLo, fun led => (h.2 led).times⟩
  · intro led led' hne
    cases led <;> cases led' <;> simp [ledIndex] at hne ⊢
  · refine ⟨duties (component state led), ?_, (h.2 led).duty⟩
    unfold duties
    rw [List.forall₂_map_right_iff]
    exact List.forall₂_same.mpr fun pct _ => (wholePart_iff (by decide)).mpr rfl

/-- The writes for a state that does not blink. -/
theorem LedShows.steady_of (h : LedShows files state) (hblinks : blinks state = false) :
    Steady files (component state) := by
  unfold LedShows at h
  rw [hblinks, if_neg Bool.false_ne_true] at h
  exact ⟨h.1, h.2.1, h.2.2⟩

end

/-- `rgb_to_brightness` is the weighted mean. -/
theorem showsBrightness_of {calls : List (LightId × LightState)} {name : LightId}
    {text : Option CString}
    (h : ∀ state ∈ lastState calls name, text = some (writeInt (rgbToBrightness state))) :
    ShowsBrightness calls name text := by
  intro state alpha rgb hlast hargb
  refine ⟨rgbToBrightness state, ?_, h state hlast⟩
  rw [wholePart_iff (by decide), hargb.eq_component]
  unfold rgbToBrightness
  rw [Nat.shiftRight_eq_div_pow]

/-- After any calls, the files show what the framework has asked for.

`Shows` is about the last state of each light. It says which of the three lights has the LED, what
its colour is after the brightness of the user, and what the files then hold: a blinking LED with
its table and its times, or a steady one. The files of the other two lights hold a weighted mean of
the colours. -/
theorem shows_run (calls : List (LightId × LightState)) : Shows (runCalls calls).files calls := by
  have hholds := holds_run calls
  refine ⟨fun hcalled => ?_, showsBrightness_of hholds.lcd, showsBrightness_of hholds.buttons⟩
  -- the LED shows the state of the light that wins; it blinks if that light flashes
  obtain ⟨name, hwins, hwinner⟩ := exists_wins calls
  have hled := hholds.led hcalled
  rw [hwinner] at hled
  refine ⟨name, _, hwins, colourOf_iff.mpr rfl, fun onMS offMS hflash => ?_, fun hnone => ?_⟩
  · obtain ⟨hblinks, htimes⟩ := flashOf_iff.mp hflash
    exact hled.blinks_of hblinks htimes
  · refine hled.steady_of (Bool.eq_false_iff.mpr fun hblinks => ?_)
    exact hnone _ _ (flashOf_iff.mpr ⟨hblinks, rfl⟩)

/-- The battery shows a steady green, and then a red notification comes that the user has dimmed to
the half, with a trace of blue. -/
def dimmedCalls : List (LightId × LightState) :=
  [(.battery, ⟨0xFF00FF00, 0, 0, 0⟩), (.backlight, ⟨0xFFFFFFFF, 0, 0, 0⟩),
    (.notifications, ⟨0x80FF0001, 1, 1000, 2000⟩)]

/-- The notification wins. It blinks in half of its red, and its blue is gone. -/
theorem shows_run_dimmed :
    Blinks (runCalls dimmedCalls).files (fun led => if led = .red then 128 else 0) 1000 2000 := by
  obtain ⟨name, colour, hwins, hcolour, hblinks, -⟩ :=
    (shows_run dimmedCalls).led ⟨(.battery, ⟨0xFF00FF00, 0, 0, 0⟩), by decide⟩
  have hname : name = .notifications := by
    cases hwins with
    | attention hlit => exact absurd (lit_iff.mp hlit) (by decide)
    | notifications => rfl
    | battery _ hdark => exact absurd (lit_iff.mpr (by decide)) hdark
  subst hname
  have hred : colour = fun led => if led = .red then 128 else 0 := by
    rw [colourOf_iff.mp hcolour]
    funext led
    cases led <;> decide
  rw [← hred]
  exact hblinks 1000 2000 ⟨⟨_, rfl, rfl, rfl, rfl⟩, by decide, by decide⟩

end LocHal.Lights
