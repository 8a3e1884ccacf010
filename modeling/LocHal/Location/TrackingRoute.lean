import LocHal.Location.ClientRegistration

/-!
# `LocHal.Location.TrackingRoute`: the interface that a tracking session is started with

`startTracking` chooses between the GNSS and the FLP interface by the options and the callbacks, and
registration goes by other callbacks. `Routed` is the property: a tracking start of a client that
the GNSS or the FLP interface knows is passed to one that knows the client, if it is passed on.

`along_routed_iff` gives the exact condition. It speaks about clients that have asked for one of the
two interfaces only, while another client has had the other interface loaded.

Two rules decide where a client is known and where its session goes. The first one reads the
callbacks only, for each interface on its own, and remembers: an interface that was asked for once
stays registered. The second one reads the latest callbacks and the options of the session: with a
minimal distance, or without a need for GNSS tracking info, it is the FLP interface, if that is
loaded. So a client of the GNSS interface can be sent to the FLP interface that somebody else had
loaded, where its session is unknown.

The proof goes by the calls: `routed_call` says that a start is judged when it is made,
`asked_trackingInterface_iff` compares the two rules, and every other call keeps the property, as it
adds no start. The invariant is the one of `LocHal.Location.ClientRegistration`.
-/

set_option autoImplicit false

namespace LocHal.Location

open LabelledRun

namespace LocationAPIData

variable {κ : Type} {s t : LocationAPIData κ} {calls : List (InterfaceCall κ)}
  {i : LocationInterface} {client : κ} {callbacks : LocationCallbacks} {options : LocationOptions}

/-- A start of a client that one of the two tracking interfaces knows goes to one that knows it.
Each start is judged by the calls before it in the history, since the client may come and go
afterwards. -/
def Routed (s : LocationAPIData κ) : Prop :=
  ∀ before i client options after, s.calls = before ++ .startTracking i client options :: after →
    Registered before .gnss client ∨ Registered before .flp client → Registered before i client

/-- A client that has asked for the GNSS interface only, while the FLP interface is loaded, needs
GNSS tracking info and no minimal distance. A client that has asked for the FLP interface only,
while the GNSS interface is loaded, needs a minimal distance or no GNSS tracking info. With one
interface loaded the start goes to it, and a client that has asked for both is known wherever it
goes. -/
def AsksForRoute (s : LocationAPIData κ) (this : κ) (options : LocationOptions)
    (callbacks : LocationCallbacks) : Prop :=
  s.interface .gnss = true → s.interface .flp = true →
    (s.asked .gnss this = true → s.asked .flp this = false →
      options.minDistance = 0 ∧ needsGnssTrackingInfo callbacks = true) ∧
    (s.asked .flp this = true → s.asked .gnss this = false →
      0 < options.minDistance ∨ needsGnssTrackingInfo callbacks = false)

/-- The condition on a call: a start asks for the route on which its client is known. It reads the
latest callback set, as `startTracking` does. The other calls start nothing. -/
def StartAsksForRoute (s : LocationAPIData κ) : ApiCall κ → Prop
  | .startTracking this options => ∀ callbacks ∈ s.clientData this,
      s.AsksForRoute this options callbacks
  | _ => True

/-- Starts are judged one by one. -/
theorem routed_call {c : InterfaceCall κ} :
    (s.call c).Routed ↔ s.Routed ∧ ∀ i client options, c = .startTracking i client options →
      Registered s.calls .gnss client ∨ Registered s.calls .flp client →
        Registered s.calls i client := by
  constructor
  · intro h
    refine ⟨fun before i client options after heq => ?_, fun i client options heq => ?_⟩
    · refine h before i client options (after ++ [c]) ?_
      simp [LocationAPIData.call, heq]
    · refine h s.calls i client options [] ?_
      simp [LocationAPIData.call, heq]
  · rintro ⟨hold, hlast⟩ before i client options after heq
    unfold LocationAPIData.call at heq
    rcases List.eq_nil_or_concat after with rfl | ⟨after, last, rfl⟩
    · obtain ⟨rfl, hc⟩ := List.append_inj' heq rfl
      exact hlast i client options (List.singleton_inj.mp hc)
    · rw [List.concat_eq_append, ← List.cons_append, ← List.append_assoc] at heq
      exact hold before i client options after (List.append_inj' heq rfl).1

/-- A call that starts no tracking. -/
theorem Routed.call (h : s.Routed) {c : InterfaceCall κ}
    (hstart : ∀ i client options, c ≠ .startTracking i client options) : (s.call c).Routed :=
  routed_call.mpr ⟨h, fun i client options heq => absurd heq (hstart i client options)⟩

theorem Routed.load (h : s.Routed) (loads : LocationInterface → Bool) (i : LocationInterface) :
    (s.load loads i).Routed := by
  unfold LocationAPIData.load
  split
  · split
    · exact Routed.call h nofun
    · exact h
  · exact h

theorem Routed.addClient (h : s.Routed) (client : κ) (callbacks : LocationCallbacks)
    (loads : LocationInterface → Bool) (i : LocationInterface) :
    (s.addClient client callbacks loads i).Routed := by
  unfold LocationAPIData.addClient
  split
  · dsimp only
    split
    · exact (h.load loads i).call nofun
    · exact h.load loads i
  · exact h

theorem Routed.addClientFirst {p : LocationAPIData κ × Bool} (h : p.1.Routed) (client : κ)
    (callbacks : LocationCallbacks) (loads : LocationInterface → Bool) (i : LocationInterface) :
    (LocationAPIData.addClientFirst p client callbacks loads i).1.Routed := by
  have hadd := h.addClient client callbacks loads i
  rcases addClientFirst_cases p client callbacks loads i with heq | heq
  · rw [heq]
    exact hadd
  · rw [heq]
    exact hadd.call nofun

theorem Routed.removeClient (h : s.Routed) (client : κ) (callbacks : LocationCallbacks)
    (i : LocationInterface) : (s.removeClient client callbacks i).Routed := by
  unfold LocationAPIData.removeClient
  split
  · exact h.call nofun
  · exact h

theorem Routed.controlCreateInstance (h : s.Routed) (responseCb : Bool)
    (loads : LocationInterface → Bool) : (s.controlCreateInstance responseCb loads).Routed := by
  unfold LocationAPIData.controlCreateInstance
  split
  · dsimp only
    split
    · exact Routed.call (h.load loads .gnss) nofun
    · exact h.load loads .gnss
  · exact h

/-- A start goes to a loaded interface. -/
theorem interface_of_trackingInterface (hroute : s.trackingInterface callbacks options = some i) :
    s.interface i = true := by
  unfold trackingInterface at hroute
  split at hroute
  · simp_all
  · split at hroute
    · simp_all
    · split at hroute
      · simp_all
      · split at hroute
        · simp_all
        · cases hroute

/-- The interface of a start is one that the client has asked for, if and only if the start meets
the condition. -/
theorem asked_trackingInterface_iff (hroute : s.trackingInterface callbacks options = some i)
    (hasked : s.interface .gnss = true ∧ s.asked .gnss client = true ∨
      s.interface .flp = true ∧ s.asked .flp client = true) :
    s.asked i client = true ↔ s.AsksForRoute client options callbacks := by
  have hdistance : options.minDistance = 0 ↔ ¬ 0 < options.minDistance := by
    rw [UInt32.not_lt, UInt32.le_zero_iff]
  unfold AsksForRoute
  rw [hdistance]
  unfold trackingInterface at hroute
  cases hgnss : s.interface .gnss with
  | false =>
      cases hflp : s.interface .flp with
      | false => simp [hgnss, hflp] at hasked
      | true =>
          -- the only interface is the one that the client has asked for
          obtain rfl : i = .flp := by
            by_cases hd : 0 < options.minDistance <;> simp_all
          simpa [hgnss, hflp] using hasked
  | true =>
      cases hflp : s.interface .flp with
      | false =>
          obtain rfl : i = .gnss := by
            cases hneeds : needsGnssTrackingInfo callbacks <;> simp_all
          simpa [hgnss, hflp] using hasked
      | true =>
          simp only [hgnss, hflp, true_and, forall_true_left] at hasked ⊢
          by_cases hd : 0 < options.minDistance
          · obtain rfl : i = .flp := by simp_all
            cases hflp' : s.asked .flp client <;> simp_all
          · cases hneeds : needsGnssTrackingInfo callbacks with
            | true =>
                obtain rfl : i = .gnss := by simp_all
                cases hgnss' : s.asked .gnss client <;> simp_all
            | false =>
                obtain rfl : i = .flp := by simp_all
                cases hflp' : s.asked .flp client <;> simp_all

/-- A start is routed right if and only if it meets the condition. -/
theorem routed_startTracking_iff (hinv : s.Inv) (h : s.Routed) {this : κ}
    (hdata : s.clientData this = some callbacks) :
    (s.startTracking this options).Routed ↔ s.AsksForRoute this options callbacks := by
  unfold LocationAPIData.startTracking
  rw [hdata]
  dsimp only
  cases hroute : s.trackingInterface callbacks options with
  | none =>
      -- none of the two interfaces is loaded
      refine iff_of_true h fun hgnss hflp => ?_
      by_cases hd : 0 < options.minDistance <;> cases hneeds : needsGnssTrackingInfo callbacks <;>
        simp [trackingInterface, hgnss, hflp, hd, hneeds] at hroute
  | some i =>
      dsimp only
      rw [routed_call]
      by_cases hasked : s.interface .gnss = true ∧ s.asked .gnss this = true ∨
          s.interface .flp = true ∧ s.asked .flp this = true
      · rw [← asked_trackingInterface_iff hroute hasked]
        constructor
        · rintro ⟨-, hlast⟩
          have hregistered := hlast i this options rfl
            (hasked.imp (hinv.registered _ _).mpr (hinv.registered _ _).mpr)
          exact ((hinv.registered i this).mp hregistered).2
        · intro hi
          refine ⟨h, fun j client options' heq _ => ?_⟩
          cases heq
          exact (hinv.registered i this).mpr ⟨interface_of_trackingInterface hroute, hi⟩
      · -- neither interface knows the client
        refine iff_of_true ⟨h, fun j client options' heq hregistered => ?_⟩ fun hgnss hflp => ?_
        · cases heq
          exact absurd (hregistered.imp (hinv.registered _ _).mp (hinv.registered _ _).mp) hasked
        · rw [hgnss, hflp] at hasked
          simp only [true_and, not_or] at hasked
          exact ⟨fun hi => absurd hi hasked.1, fun hi => absurd hi hasked.2⟩

variable [DecidableEq κ]

theorem Routed.createInstance (h : s.Routed) (newLocationAPI : κ) (callbacks : LocationCallbacks)
    (loads : LocationInterface → Bool) :
    (s.createInstance newLocationAPI callbacks loads).1.Routed := by
  unfold LocationAPIData.createInstance
  split
  · have hgnss := Routed.addClientFirst (p := (s, false)) h newLocationAPI callbacks loads .gnss
    exact (hgnss.addClientFirst _ _ _ .flp).addClientFirst _ _ _ .geofence
  · exact h

theorem Routed.updateCallbacks (h : s.Routed) (this : κ) (callbacks : LocationCallbacks)
    (loads : LocationInterface → Bool) : (s.updateCallbacks this callbacks loads).Routed := by
  unfold LocationAPIData.updateCallbacks
  split
  · exact ((h.addClient this callbacks loads .gnss).addClient _ _ _ .flp).addClient _ _ _ .geofence
  · exact h

theorem Routed.destroy (h : s.Routed) (this : κ) : (s.destroy this).Routed := by
  unfold LocationAPIData.destroy
  split
  · rename_i callbacks _
    exact ((h.removeClient this callbacks .gnss).removeClient _ _ .flp).removeClient _ _ .geofence
  · exact h

/-- A call is routed right if and only if it meets the condition. -/
theorem routed_step_iff (hinv : s.Inv) (h : s.Routed) {c : ApiCall κ} (ht : s.step c = some t) :
    t.Routed ↔ s.StartAsksForRoute c := by
  cases c with
  | createInstance newLocationAPI callbacks loads =>
      simp only [step, Option.ite_none_right_eq_some, Option.some.injEq] at ht
      rw [← ht.2]
      exact iff_of_true (h.createInstance newLocationAPI callbacks loads) trivial
  | updateCallbacks this callbacks loads =>
      simp only [step, Option.ite_none_right_eq_some, Option.some.injEq] at ht
      rw [← ht.2]
      exact iff_of_true (h.updateCallbacks this callbacks loads) trivial
  | destroy this =>
      simp only [step, Option.ite_none_right_eq_some, Option.some.injEq] at ht
      rw [← ht.2]
      exact iff_of_true (h.destroy this) trivial
  | startTracking this options =>
      simp only [step, Option.ite_none_right_eq_some, Option.some.injEq] at ht
      rw [← ht.2]
      obtain ⟨callbacks, hdata⟩ := Option.isSome_iff_exists.mp ht.1
      rw [routed_startTracking_iff hinv h hdata]
      simp [StartAsksForRoute, hdata]
  | controlCreateInstance responseCb loads =>
      cases ht
      exact iff_of_true (h.controlCreateInstance responseCb loads) trivial
  | controlDestroy =>
      cases ht
      exact iff_of_true h trivial

theorem startAsksForRoute_of_step_none {c : ApiCall κ} (hnone : s.step c = none) :
    s.StartAsksForRoute c := by
  cases c with
  | startTracking this options =>
      intro callbacks hdata
      have hlive : (s.clientData this).isSome = true := Option.isSome_iff_exists.mpr ⟨_, hdata⟩
      simp [step, hlive] at hnone
  | _ => trivial

/-- In every run every start of a client that a tracking interface knows goes to one that knows it,
if and only if every start of a client that has asked for one of the two interfaces only asks for
the right one. -/
theorem along_routed_iff (calls : List (ApiCall κ)) :
    Along step Routed (init : LocationAPIData κ) calls ↔
      Guarded step StartAsksForRoute init calls := by
  refine along_iff_guarded (I := fun s => s.Inv ∧ s.Routed) (fun s hs => hs.2) ?_ ?_ ?_ calls init
    ?_
  · intro s c t hs hok ht
    exact ⟨hs.1.step ht, (routed_step_iff hs.1 hs.2 ht).mpr hok⟩
  · intro s c t hs ht hrouted
    exact (routed_step_iff hs.1 hs.2 ht).mp hrouted
  · intro s c _ hnone
    exact startAsksForRoute_of_step_none hnone
  · refine ⟨knows_init, fun before i client options after heq => ?_⟩
    cases before <;> cases heq

/-- A client that wants network initiated requests only, and another one that has the FLP interface
loaded. -/
def startOfNiClient : List (ApiCall Nat) :=
  [.createInstance 0 { mandatoryCallbacks with gnssNiCb := true } fun _ => true,
    .createInstance 1 { mandatoryCallbacks with batchingCb := true } fun _ => true,
    .startTracking 0 ⟨1000, 0⟩]

/-- The start of the first client goes to the FLP interface, which does not know it. -/
theorem not_along_startOfNiClient :
    ¬ Along step Routed (init : LocationAPIData Nat) startOfNiClient := by
  intro halong
  have hrouted := halong.last rfl
  have hflp := hrouted [.initializeInterface .gnss, .addClient .gnss 0 _,
    .requestCapabilities .gnss 0, .initializeInterface .flp, .addClient .flp 1 _,
    .requestCapabilities .flp 1] .flp 0 ⟨1000, 0⟩ [] rfl
    (Or.inl ⟨[.initializeInterface .gnss], _, _, rfl, by decide⟩)
  obtain ⟨before, callbacks, after, heq, -⟩ := hflp
  have hmem : InterfaceCall.addClient .flp 0 callbacks ∈
      before ++ .addClient .flp 0 callbacks :: after := by simp
  rw [← heq] at hmem
  simp at hmem

end LocationAPIData

end LocHal.Location
