import LocHal.Util.LocTimer

/-!
# `LocHal.Util.LocTimerDeadline`: the deadlines of the C timer API

`loc_timer_start` takes the delay as 64 bits and hands it on to `LocTimer::start`, which takes 32.
`LocTimerDelegate::ranks` subtracts seconds of 64 bits and returns an `int`.

`ExactDeadlines` is the property of two started timers: each deadline is the clock reading plus the
delay, and the rank has the sign of the comparison. `exactDeadlines_iff` gives the exact condition:
the delays fit 32 bits, and the difference of seconds keeps its sign when it is cut to 32 bits
(`SignKept`).

The two slips are independent. A delay of 2^32 ms or more is cut by the call of `start`, so the
deadline is early by a multiple of 2^32 ms (`nanos_locTimerStart_iff`). And two deadlines whose
seconds differ by 2^31 or more are ranked by the lower half of the difference
(`signOf_rankTimes_iff`).

The clock readings are arbitrary normalised times, one for each timer. `nanos` is the time as one
number. `addMs` keeps a normalised time normalised and adds the delay to it, so the proofs compare
numbers, and `Normalised.tvSec_eq` and `Normalised.tvNsec_eq` lead back to the two fields that
`ranks` reads.
-/

set_option autoImplicit false

namespace LocHal.Util

namespace Timespec

variable {now a b : Timespec}

/-- The nanoseconds are a fraction of a second. -/
def Normalised (a : Timespec) : Prop := 0 ≤ a.tvNsec ∧ a.tvNsec < 1000000000

instance (a : Timespec) : Decidable a.Normalised := inferInstanceAs (Decidable (_ ∧ _))

/-- The time in nanoseconds. -/
def nanos (a : Timespec) : Int := a.tvSec * 1000000000 + a.tvNsec

/-- `loc_timer_start`: the deadline of the delegate. The delay becomes the `unsigned int` of
`LocTimer::start`. -/
def locTimerStart (now : Timespec) (msec : UInt64) : Timespec := now.addMs msec.toUInt32.toNat

theorem Normalised.addMs (h : now.Normalised) (ms : Nat) : (now.addMs ms).Normalised := by
  obtain ⟨hlow, hhigh⟩ := h
  unfold Timespec.addMs Normalised
  dsimp only
  split
  · exact ⟨by dsimp only; omega, by dsimp only; omega⟩
  · exact ⟨by dsimp only; omega, by dsimp only; omega⟩

/-- The sum is exact, with or without a carry. -/
theorem nanos_addMs (now : Timespec) (ms : Nat) :
    (now.addMs ms).nanos = now.nanos + ms * 1000000 := by
  unfold Timespec.addMs nanos
  dsimp only
  split
  · dsimp only
    omega
  · dsimp only
    omega

/-- The deadline is exact if and only if nothing of the delay is cut off. -/
theorem nanos_locTimerStart_iff (now : Timespec) (msec : UInt64) :
    (now.locTimerStart msec).nanos = now.nanos + msec.toNat * 1000000 ↔ msec.toNat < 2 ^ 32 := by
  unfold locTimerStart
  rw [nanos_addMs, UInt64.toNat_toUInt32]
  omega

/-- The seconds and nanoseconds of a normalised time. -/
theorem Normalised.tvSec_eq (h : a.Normalised) : a.tvSec = a.nanos / 1000000000 := by
  obtain ⟨hlow, hhigh⟩ := h
  unfold nanos
  omega

theorem Normalised.tvNsec_eq (h : a.Normalised) : a.tvNsec = a.nanos % 1000000000 := by
  obtain ⟨hlow, hhigh⟩ := h
  unfold nanos
  omega

/-! ### The rank -/

/-- The rank has the sign of the comparison: positive when the first deadline is the earlier one,
and 0 only for equal deadlines. -/
def SignOf (rank : Int) (a b : Timespec) : Prop :=
  (0 < rank ↔ a.nanos < b.nanos) ∧ (rank = 0 ↔ a.nanos = b.nanos) ∧ (rank < 0 ↔ b.nanos < a.nanos)

/-- The difference of the seconds of two times in nanoseconds keeps its sign when it is cut to 32
bits. A positive difference must not become negative, nor a negative one positive. When nothing of
it is left, the nanoseconds of the two decide, as they do for equal seconds, and then they have to
decide the same way. -/
def SignKept (a b : Int) : Prop :=
  let diff := b / 1000000000 - a / 1000000000
  (0 < diff → 0 < diff % 2 ^ 32 ∧ diff % 2 ^ 32 < 2 ^ 31 ∨
    diff % 2 ^ 32 = 0 ∧ a % 1000000000 < b % 1000000000) ∧
  (diff < 0 → 2 ^ 31 ≤ diff % 2 ^ 32 ∨
    diff % 2 ^ 32 = 0 ∧ b % 1000000000 < a % 1000000000)

instance (a b : Int) : Decidable (SignKept a b) :=
  inferInstanceAs (Decidable ((_ → _ ∨ _) ∧ (_ → _ ∨ _)))

/-- The conversion to `int` is the remainder, moved below zero from the middle on. -/
theorem intOfLong_eq (x : Int) :
    intOfLong x = if x % 2 ^ 32 < 2 ^ 31 then x % 2 ^ 32 else x % 2 ^ 32 - 2 ^ 32 := by
  unfold intOfLong
  rw [Int.bmod_def]
  rfl

/-- The difference of two fractions of a second is not cut. -/
theorem Normalised.intOfLong_tvNsec (ha : a.Normalised) (hb : b.Normalised) :
    intOfLong (b.tvNsec - a.tvNsec) = b.tvNsec - a.tvNsec := by
  obtain ⟨halow, hahigh⟩ := ha
  obtain ⟨hblow, hbhigh⟩ := hb
  exact Int.bmod_eq_of_le (by omega) (by omega)

/-- `ranks` compares two normalised deadlines right if and only if the sign is kept. -/
theorem signOf_rankTimes_iff (ha : a.Normalised) (hb : b.Normalised) :
    SignOf (rankTimes a b) a b ↔ SignKept a.nanos b.nanos := by
  have hnsec := ha.intOfLong_tvNsec hb
  unfold SignOf SignKept
  rw [← ha.tvSec_eq, ← hb.tvSec_eq, ← ha.tvNsec_eq, ← hb.tvNsec_eq]
  unfold rankTimes
  rw [hnsec, intOfLong_eq]
  obtain ⟨halow, hahigh⟩ := ha
  obtain ⟨hblow, hbhigh⟩ := hb
  unfold nanos
  have hlow : 0 ≤ (b.tvSec - a.tvSec) % 2 ^ 32 := Int.emod_nonneg _ (by decide)
  have hhigh : (b.tvSec - a.tvSec) % 2 ^ 32 < 2 ^ 32 := Int.emod_lt_of_pos _ (by decide)
  have hzero : b.tvSec - a.tvSec = 0 → (b.tvSec - a.tvSec) % 2 ^ 32 = 0 := fun h => by rw [h]; rfl
  dsimp only
  generalize hdiff : b.tvSec - a.tvSec = diff at *
  generalize diff % 2 ^ 32 = rest at *
  -- the order of the times is the order of the seconds, or that of the nanoseconds
  rcases Int.lt_trichotomy diff 0 with hneg | rfl | hpos
  · have hlater : b.tvSec * 1000000000 + b.tvNsec < a.tvSec * 1000000000 + a.tvNsec := by omega
    split <;> split <;> omega
  · rw [hzero rfl]
    split <;> omega
  · have hearlier : a.tvSec * 1000000000 + a.tvNsec < b.tvSec * 1000000000 + b.tvNsec := by omega
    split <;> split <;> omega

/-! ### Two started timers -/

/-- Both deadlines are the clock reading plus the delay, and `ranks` compares them. A deadline is a
`timespec`, so its nanoseconds have to be a fraction of a second as well. -/
structure ExactDeadlines (now₁ now₂ : Timespec) (msec₁ msec₂ : UInt64) : Prop where
  normalised₁ : (now₁.locTimerStart msec₁).Normalised
  normalised₂ : (now₂.locTimerStart msec₂).Normalised
  exact₁ : (now₁.locTimerStart msec₁).nanos = now₁.nanos + msec₁.toNat * 1000000
  exact₂ : (now₂.locTimerStart msec₂).nanos = now₂.nanos + msec₂.toNat * 1000000
  ranked : SignOf (rankTimes (now₁.locTimerStart msec₁) (now₂.locTimerStart msec₂))
    (now₁.locTimerStart msec₁) (now₂.locTimerStart msec₂)

/-- The deadlines of two timers that are started at any two normalised clock readings are exact and
ranked right, if and only if the delays fit 32 bits and the difference of the seconds keeps its
sign. -/
theorem exactDeadlines_iff (now₁ now₂ : Timespec) (msec₁ msec₂ : UInt64) (h₁ : now₁.Normalised)
    (h₂ : now₂.Normalised) :
    ExactDeadlines now₁ now₂ msec₁ msec₂ ↔
      msec₁.toNat < 2 ^ 32 ∧ msec₂.toNat < 2 ^ 32 ∧
        SignKept (now₁.nanos + msec₁.toNat * 1000000) (now₂.nanos + msec₂.toNat * 1000000) := by
  have hn₁ : (now₁.locTimerStart msec₁).Normalised := h₁.addMs _
  have hn₂ : (now₂.locTimerStart msec₂).Normalised := h₂.addMs _
  rw [← nanos_locTimerStart_iff now₁, ← nanos_locTimerStart_iff now₂]
  constructor
  · intro h
    refine ⟨h.exact₁, h.exact₂, ?_⟩
    rw [← h.exact₁, ← h.exact₂]
    exact (signOf_rankTimes_iff hn₁ hn₂).mp h.ranked
  · rintro ⟨hexact₁, hexact₂, hsign⟩
    rw [← hexact₁, ← hexact₂] at hsign
    exact ⟨hn₁, hn₂, hexact₁, hexact₂, (signOf_rankTimes_iff hn₁ hn₂).mpr hsign⟩

/-- Two timers that are started a minute apart for one and for two hours. -/
theorem exactDeadlines_hours :
    ExactDeadlines ⟨60, 999999999⟩ ⟨120, 0⟩ 3600000 7200000 :=
  (exactDeadlines_iff ⟨60, 999999999⟩ ⟨120, 0⟩ 3600000 7200000 (by decide) (by decide)).mpr
    (by decide)

/-- A delay of 2^32 milliseconds has run out at once. -/
theorem not_exactDeadlines_longDelay :
    ¬ ExactDeadlines ⟨60, 0⟩ ⟨60, 0⟩ 4294967296 1000 := by
  intro h
  have hexact := h.exact₁
  revert hexact
  decide

end Timespec

end LocHal.Util
