import LocHal.Location.LocationAPI

/-!
# `LocHal.Location.ClientRegistration`: the interfaces that know a client

`Registered` reads off the calls whether an interface knows a client: it has received an `addClient`
that no `removeClient` follows. `Inv` says which clients these are: once its library is loaded, an
interface knows the clients that asked for it and no others (`Knows`).

The destructor deregisters a client from the interfaces that its latest callback set calls for.
`along_clean_iff` gives the exact condition under which nothing of a destroyed client is left: the
latest set calls for every loaded interface that an earlier set called for.

The model has the three interfaces with their loaded flags, the callback sets of the clients and the
calls that the interfaces have received. An interface is loaded when a client first needs it, and a
library may fail to load. `asked` is a record of the callback sets so far: for each interface, the
clients one of whose sets called for it.

`Knows` is the step invariant. It connects the calls with that record, and it has one lemma for each
of the calls that change an interface (`Knows.addClient`, `Knows.removeClient`, `Knows.load`).
`clean_destroy_iff` is the only step that needs the condition: the clients that are left are
unaffected, and the destroyed one is gone from an interface exactly if the latest set calls for it.
-/

set_option autoImplicit false

namespace LocHal.Location

open LabelledRun

namespace LocationAPIData

variable {κ : Type} {s t : LocationAPIData κ} {calls : List (InterfaceCall κ)}
  {asked : LocationInterface → κ → Bool} {i : LocationInterface} {client other : κ}

/-! ### Who is registered -/

/-- The interface has received an `addClient` for the client that no `removeClient` follows. -/
def Registered (calls : List (InterfaceCall κ)) (i : LocationInterface) (client : κ) : Prop :=
  ∃ before callbacks after, calls = before ++ .addClient i client callbacks :: after ∧
    .removeClient i client ∉ after

theorem not_registered_nil : ¬ Registered ([] : List (InterfaceCall κ)) i client := by
  rintro ⟨before, callbacks, after, heq, -⟩
  cases before <;> cases heq

/-- The last call adds the client, or it does not remove it. -/
theorem registered_concat {c : InterfaceCall κ} :
    Registered (calls ++ [c]) i client ↔
      (∃ callbacks, c = .addClient i client callbacks) ∨
        Registered calls i client ∧ c ≠ .removeClient i client := by
  constructor
  · rintro ⟨before, callbacks, after, heq, hafter⟩
    rcases List.eq_nil_or_concat after with rfl | ⟨after, last, rfl⟩
    · obtain ⟨-, hlast⟩ := List.append_inj' heq rfl
      cases hlast
      exact Or.inl ⟨callbacks, rfl⟩
    · rw [List.concat_eq_append, ← List.cons_append, ← List.append_assoc] at heq
      obtain ⟨hcalls, hlast⟩ := List.append_inj' heq rfl
      cases hlast
      rw [List.concat_eq_append, List.mem_append, not_or] at hafter
      refine Or.inr ⟨⟨before, callbacks, after, hcalls, hafter.1⟩, ?_⟩
      rintro rfl
      exact hafter.2 List.mem_cons_self
  · rintro (⟨callbacks, rfl⟩ | ⟨⟨before, callbacks, after, rfl, hafter⟩, hne⟩)
    · exact ⟨calls, callbacks, [], rfl, List.not_mem_nil⟩
    · refine ⟨before, callbacks, after ++ [c], by simp, ?_⟩
      simp [hafter, Ne.symm hne]

/-- Of a list of clients per interface, an interface knows those that are on its list once it is
loaded. A load that is needed for one of them has been tried. -/
structure Knows (s : LocationAPIData κ) (asked : LocationInterface → κ → Bool) : Prop where
  registered : ∀ i client,
    Registered s.calls i client ↔ s.interface i = true ∧ asked i client = true
  tried : ∀ i client, asked i client = true → s.interface i = true ∨ s.loadFailed i = true

theorem knows_init : Knows (init : LocationAPIData κ) init.asked where
  registered := fun _ _ => iff_of_false not_registered_nil nofun
  tried := fun _ _ h => nomatch h

/-- A call that neither adds nor removes a client. -/
theorem Knows.call (h : s.Knows asked) {c : InterfaceCall κ}
    (hadd : ∀ i client callbacks, c ≠ .addClient i client callbacks)
    (hremove : ∀ i client, c ≠ .removeClient i client) : (s.call c).Knows asked where
  registered := fun i client => by
    unfold LocationAPIData.call
    rw [registered_concat, ← h.registered i client]
    simp [hadd, hremove]
  tried := h.tried

/-- Afterwards the load of the interface has been tried. -/
theorem Knows.load (h : s.Knows asked) (loads : LocationInterface → Bool)
    (i : LocationInterface) :
    (s.load loads i).Knows asked ∧
      ((s.load loads i).interface i = true ∨ (s.load loads i).loadFailed i = true) := by
  unfold LocationAPIData.load
  cases hinterface : s.interface i with
  | true => exact ⟨h, Or.inl hinterface⟩
  | false =>
      cases hfailed : s.loadFailed i with
      | true => exact ⟨h, Or.inr hfailed⟩
      | false =>
          -- nobody has needed the interface before
          have hnone : ∀ client, asked i client = false := fun client => by
            by_contra hasked
            rcases h.tried i client (by simpa using hasked) with h | h
            · cases hinterface.symm.trans h
            · cases hfailed.symm.trans h
          cases loads i with
          | false =>
              refine ⟨⟨h.registered, fun j client hasked => ?_⟩, Or.inr (by simp)⟩
              by_cases hj : j = i
              · exact Or.inr (by simp [hj])
              · simpa [hj] using h.tried j client hasked
          | true =>
              refine ⟨Knows.call ⟨fun j client => ?_, fun j client hasked => ?_⟩ (by simp)
                (by simp), Or.inl (by simp [LocationAPIData.call])⟩
              · show Registered s.calls j client ↔ _
                rw [h.registered j client]
                by_cases hj : j = i
                · simp [hj, hnone client]
                · simp [hj]
              · by_cases hj : j = i
                · exact Or.inl (by simp [hj])
                · simpa [hj] using h.tried j client hasked

/-! ### What the blocks leave alone -/

/-- A load touches no client. -/
theorem load_frame (s : LocationAPIData κ) (loads : LocationInterface → Bool)
    (i : LocationInterface) :
    (s.load loads i).asked = s.asked ∧ (s.load loads i).clientData = s.clientData := by
  unfold LocationAPIData.load
  split
  · split <;> exact ⟨rfl, rfl⟩
  · exact ⟨rfl, rfl⟩

/-- A registration with one interface leaves the data of the clients alone. -/
theorem addClient_frame (s : LocationAPIData κ) (client : κ) (callbacks : LocationCallbacks)
    (loads : LocationInterface → Bool) (i : LocationInterface) :
    (s.addClient client callbacks loads i).asked = s.asked ∧
      (s.addClient client callbacks loads i).clientData = s.clientData := by
  unfold LocationAPIData.addClient
  split
  · dsimp only
    split
    · exact s.load_frame loads i
    · exact s.load_frame loads i
  · exact ⟨rfl, rfl⟩

theorem removeClient_frame (s : LocationAPIData κ) (client : κ) (callbacks : LocationCallbacks)
    (i : LocationInterface) :
    (s.removeClient client callbacks i).asked = s.asked ∧
      (s.removeClient client callbacks i).clientData = s.clientData ∧
      (s.removeClient client callbacks i).interface = s.interface := by
  unfold LocationAPIData.removeClient
  split <;> exact ⟨rfl, rfl, rfl⟩

/-- The block of `createInstance` is the one of `updateCallbacks`, with at most a request for
capabilities. -/
theorem addClientFirst_cases (p : LocationAPIData κ × Bool) (client : κ)
    (callbacks : LocationCallbacks) (loads : LocationInterface → Bool) (i : LocationInterface) :
    (addClientFirst p client callbacks loads i).1 = p.1.addClient client callbacks loads i ∨
      (addClientFirst p client callbacks loads i).1
        = (p.1.addClient client callbacks loads i).call (.requestCapabilities i client) := by
  unfold addClientFirst
  dsimp only
  split
  · exact Or.inr rfl
  · exact Or.inl rfl

theorem addClientFirst_frame (p : LocationAPIData κ × Bool) (client : κ)
    (callbacks : LocationCallbacks) (loads : LocationInterface → Bool) (i : LocationInterface) :
    (addClientFirst p client callbacks loads i).1.asked = p.1.asked ∧
      (addClientFirst p client callbacks loads i).1.clientData = p.1.clientData := by
  have hadd := p.1.addClient_frame client callbacks loads i
  rcases addClientFirst_cases p client callbacks loads i with heq | heq
  · rw [heq]
    exact hadd
  · rw [heq]
    exact hadd

/-- A call that neither adds nor removes the client. -/
theorem registered_call {c : InterfaceCall κ}
    (hadd : ∀ callbacks, c ≠ .addClient i client callbacks)
    (hremove : c ≠ .removeClient i client) :
    Registered (s.call c).calls i client ↔ Registered s.calls i client := by
  unfold LocationAPIData.call
  rw [registered_concat]
  simp [hadd, hremove]

theorem registered_load (s : LocationAPIData κ) (loads : LocationInterface → Bool)
    (j : LocationInterface) :
    Registered (s.load loads j).calls i client ↔ Registered s.calls i client := by
  unfold LocationAPIData.load
  split
  · split
    · exact registered_call (by simp) (by simp)
    · exact Iff.rfl
  · exact Iff.rfl

/-- The other clients of a registration. -/
theorem registered_addClient_of_ne (hne : other ≠ client) (s : LocationAPIData κ)
    (callbacks : LocationCallbacks) (loads : LocationInterface → Bool) (j : LocationInterface) :
    Registered (s.addClient client callbacks loads j).calls i other ↔
      Registered s.calls i other := by
  unfold LocationAPIData.addClient
  split
  · dsimp only
    split
    · refine Iff.trans (registered_call (fun _ heq => ?_) (fun heq => ?_))
        (registered_load s loads j)
      · cases heq
        exact hne rfl
      · cases heq
    · exact registered_load s loads j
  · exact Iff.rfl

theorem registered_addClientFirst_of_ne (hne : other ≠ client) (p : LocationAPIData κ × Bool)
    (callbacks : LocationCallbacks) (loads : LocationInterface → Bool) (j : LocationInterface) :
    Registered (addClientFirst p client callbacks loads j).1.calls i other ↔
      Registered p.1.calls i other := by
  have hadd := registered_addClient_of_ne (i := i) hne p.1 callbacks loads j
  rcases addClientFirst_cases p client callbacks loads j with heq | heq
  · rw [heq]
    exact hadd
  · rw [heq]
    refine Iff.trans (registered_call (fun _ heq => ?_) (fun heq => ?_)) hadd
    · cases heq
    · cases heq

theorem registered_removeClient_of_ne (hne : other ≠ client) (s : LocationAPIData κ)
    (callbacks : LocationCallbacks) (j : LocationInterface) :
    Registered (s.removeClient client callbacks j).calls i other ↔
      Registered s.calls i other := by
  unfold LocationAPIData.removeClient
  split
  · refine registered_call (by simp) fun heq => ?_
    cases heq
    exact hne rfl
  · exact Iff.rfl

/-! ### The lists of the interfaces -/

/-- Each interface knows the clients that asked for it, once it is loaded. -/
def Inv (s : LocationAPIData κ) : Prop := s.Knows s.asked

theorem Inv.startTracking (h : s.Inv) (this : κ) (options : LocationOptions) :
    (s.startTracking this options).Inv := by
  unfold LocationAPIData.startTracking
  split
  · split
    · exact Knows.call h (by simp) (by simp)
    · exact h
  · exact h

theorem Inv.controlCreateInstance (h : s.Inv) (responseCb : Bool)
    (loads : LocationInterface → Bool) : (s.controlCreateInstance responseCb loads).Inv := by
  unfold LocationAPIData.controlCreateInstance
  obtain ⟨hload, -⟩ := Knows.load h loads .gnss
  split
  · dsimp only
    split
    · refine Knows.call ⟨?_, ?_⟩ (by simp) (by simp)
      · rw [(s.load_frame loads .gnss).1]
        exact hload.registered
      · rw [(s.load_frame loads .gnss).1]
        exact hload.tried
    · unfold Inv
      rw [(s.load_frame loads .gnss).1]
      exact hload
  · exact h

/-- No interface knows a client that is not there: each one that has received its `addClient` has
received a `removeClient` after that. An interface that still knows it would call back into memory
that is gone. -/
def Clean (s : LocationAPIData κ) : Prop :=
  ∀ client, s.clientData client = none → ∀ i, ¬ Registered s.calls i client

/-- A call that neither adds nor removes a client. -/
theorem Clean.call (h : s.Clean) {c : InterfaceCall κ}
    (hadd : ∀ i client callbacks, c ≠ .addClient i client callbacks)
    (hremove : ∀ i client, c ≠ .removeClient i client) : (s.call c).Clean := by
  intro client hclient i
  rw [registered_call (hadd i client) (hremove i client)]
  exact h client hclient i

theorem Clean.startTracking (h : s.Clean) (this : κ) (options : LocationOptions) :
    (s.startTracking this options).Clean := by
  unfold LocationAPIData.startTracking
  split
  · split
    · exact h.call (by simp) (by simp)
    · exact h
  · exact h

theorem Clean.controlCreateInstance (h : s.Clean) (responseCb : Bool)
    (loads : LocationInterface → Bool) : (s.controlCreateInstance responseCb loads).Clean := by
  have hload : (s.load loads .gnss).Clean := by
    intro client hclient i
    rw [registered_load]
    exact h client ((s.load_frame loads .gnss).2 ▸ hclient) i
  unfold LocationAPIData.controlCreateInstance
  split
  · dsimp only
    split
    · exact Clean.call hload (by simp) (by simp)
    · exact hload
  · exact h

variable [DecidableEq κ]

/-- The client is put on the list of one interface, or taken off it. -/
def askedSet (asked : LocationInterface → κ → Bool) (i : LocationInterface) (client : κ)
    (b : Bool) : LocationInterface → κ → Bool :=
  Function.update asked i (Function.update (asked i) client b)

theorem askedSet_apply (asked : LocationInterface → κ → Bool) (i j : LocationInterface)
    (client other : κ) (b : Bool) :
    askedSet asked i client b j other = if j = i ∧ other = client then b else asked j other := by
  unfold askedSet
  by_cases hj : j = i
  · subst hj
    by_cases hother : other = client
    · simp [hother]
    · simp [hother]
  · simp [hj]

theorem askedSet_self (asked : LocationInterface → κ → Bool) (i : LocationInterface) (client : κ) :
    askedSet asked i client (asked i client) = asked := by
  unfold askedSet
  simp

/-- The block of a registration for one interface. -/
theorem Knows.addClient (h : s.Knows asked) (client : κ) (callbacks : LocationCallbacks)
    (loads : LocationInterface → Bool) (i : LocationInterface) {b : Bool}
    (hb : b = (asked i client || isClient i callbacks)) :
    (s.addClient client callbacks loads i).Knows (askedSet asked i client b) := by
  subst hb
  unfold LocationAPIData.addClient
  cases hclient : isClient i callbacks with
  | false =>
      rw [Bool.or_false, askedSet_self]
      exact h
  | true =>
      obtain ⟨hload, htried⟩ := h.load loads i
      rw [if_pos rfl, Bool.or_true]
      cases hinterface : (s.load loads i).interface i with
      | false =>
          -- without the interface nobody is registered with it
          have hfailed := htried.resolve_left (by simp [hinterface])
          refine ⟨fun j other => ?_, fun j other hasked => ?_⟩
          · rw [if_neg (by simp [hinterface]), hload.registered j other, askedSet_apply]
            by_cases hj : j = i
            · simp [hj, hinterface]
            · simp [hj]
          · rw [if_neg (by simp [hinterface])]
            rw [askedSet_apply] at hasked
            split at hasked
            · rename_i hsame
              exact Or.inr (hsame.1 ▸ hfailed)
            · exact hload.tried j other hasked
      | true =>
          refine ⟨fun j other => ?_, fun j other hasked => ?_⟩
          · dsimp only
            rw [hinterface, if_pos rfl, askedSet_apply]
            unfold LocationAPIData.call
            rw [registered_concat, hload.registered j other]
            by_cases hsame : j = i ∧ other = client
            · obtain ⟨rfl, rfl⟩ := hsame
              simp [hinterface]
            · rw [if_neg hsame]
              constructor
              · rintro (⟨_, heq⟩ | ⟨hold, -⟩)
                · cases heq
                  exact absurd ⟨rfl, rfl⟩ hsame
                · exact hold
              · exact fun hold => Or.inr ⟨hold, nofun⟩
          · dsimp only
            rw [hinterface, if_pos rfl]
            rw [askedSet_apply] at hasked
            split at hasked
            · rename_i hsame
              exact Or.inl (hsame.1 ▸ hinterface)
            · exact hload.tried j other hasked

/-- The block of the destructor for one interface. -/
theorem Knows.removeClient (h : s.Knows asked) (client : κ) (callbacks : LocationCallbacks)
    (i : LocationInterface) {b : Bool} (hb : b = (asked i client && !isClient i callbacks)) :
    (s.removeClient client callbacks i).Knows (askedSet asked i client b) := by
  subst hb
  unfold LocationAPIData.removeClient
  cases hclient : isClient i callbacks with
  | false =>
      rw [Bool.not_false, Bool.and_true, askedSet_self]
      exact h
  | true =>
      rw [Bool.not_true, Bool.and_false, Bool.true_and]
      -- a removal asks for nothing new
      have htried : ∀ j other, askedSet asked i client false j other = true →
          s.interface j = true ∨ s.loadFailed j = true := by
        intro j other hasked
        rw [askedSet_apply] at hasked
        split at hasked
        · cases hasked
        · exact h.tried j other hasked
      cases hinterface : s.interface i with
      | false =>
          refine ⟨fun j other => ?_, htried⟩
          rw [if_neg (by simp), h.registered j other, askedSet_apply]
          by_cases hj : j = i
          · simp [hj, hinterface]
          · simp [hj]
      | true =>
          refine ⟨fun j other => ?_, htried⟩
          unfold LocationAPIData.call
          rw [if_pos rfl, registered_concat, h.registered j other, askedSet_apply]
          -- only the pair of this client and this interface changes
          by_cases hsame : j = i ∧ other = client
          · obtain ⟨rfl, rfl⟩ := hsame
            simp
          · rw [if_neg hsame]
            constructor
            · rintro (⟨_, heq⟩ | ⟨hold, -⟩)
              · cases heq
              · exact hold
            · refine fun hold => Or.inr ⟨hold, fun heq => hsame ?_⟩
              cases heq
              exact ⟨rfl, rfl⟩

/-- The lists after the blocks of the three interfaces. -/
theorem askedSet_all (asked : LocationInterface → κ → Bool) (client : κ)
    (f : LocationInterface → Bool) :
    askedSet (askedSet (askedSet asked .gnss client (f .gnss)) .flp client (f .flp))
        .geofence client (f .geofence)
      = fun i => Function.update (asked i) client (f i) := by
  funext i other
  simp only [askedSet_apply]
  by_cases hother : other = client
  · cases i <;> simp [hother]
  · simp [hother]

theorem Knows.addClientFirst {p : LocationAPIData κ × Bool} (h : p.1.Knows asked) (client : κ)
    (callbacks : LocationCallbacks) (loads : LocationInterface → Bool) (i : LocationInterface)
    {b : Bool} (hb : b = (asked i client || isClient i callbacks)) :
    (LocationAPIData.addClientFirst p client callbacks loads i).1.Knows
      (askedSet asked i client b) := by
  have hadd := h.addClient client callbacks loads i hb
  rcases addClientFirst_cases p client callbacks loads i with heq | heq
  · rw [heq]
    exact hadd
  · rw [heq]
    exact hadd.call (by simp) (by simp)

/-- The new callback set, after the blocks of the three interfaces. -/
theorem Knows.setClientData {callbacks : LocationCallbacks}
    (h : s.Knows fun i => Function.update (s.asked i) client
      (s.asked i client || isClient i callbacks)) : (s.setClientData client callbacks).Inv :=
  ⟨h.registered, h.tried⟩

theorem Knows.eraseClientData {callbacks : LocationCallbacks}
    (h : s.Knows fun i => Function.update (s.asked i) client
      (s.asked i client && !isClient i callbacks)) : (s.eraseClientData client callbacks).Inv :=
  ⟨h.registered, h.tried⟩

theorem Inv.createInstance (h : s.Inv) (newLocationAPI : κ) (callbacks : LocationCallbacks)
    (loads : LocationInterface → Bool) :
    (s.createInstance newLocationAPI callbacks loads).1.Inv := by
  unfold LocationAPIData.createInstance
  split
  · apply Knows.setClientData
    simp only [addClientFirst_frame]
    rw [← askedSet_all s.asked newLocationAPI fun i =>
      s.asked i newLocationAPI || isClient i callbacks]
    have hgnss := Knows.addClientFirst (p := (s, false)) h newLocationAPI callbacks loads .gnss rfl
    refine Knows.addClientFirst (Knows.addClientFirst hgnss _ _ _ _ ?_) _ _ _ _ ?_
    · simp [askedSet_apply]
    · simp [askedSet_apply]
  · exact h

theorem Inv.updateCallbacks (h : s.Inv) (this : κ) (callbacks : LocationCallbacks)
    (loads : LocationInterface → Bool) : (s.updateCallbacks this callbacks loads).Inv := by
  unfold LocationAPIData.updateCallbacks
  split
  · apply Knows.setClientData
    simp only [addClient_frame]
    rw [← askedSet_all s.asked this fun i => s.asked i this || isClient i callbacks]
    have hgnss := Knows.addClient h this callbacks loads .gnss rfl
    refine Knows.addClient (Knows.addClient hgnss _ _ _ _ ?_) _ _ _ _ ?_
    · simp [askedSet_apply]
    · simp [askedSet_apply]
  · exact h

theorem Inv.destroy (h : s.Inv) (this : κ) : (s.destroy this).Inv := by
  unfold LocationAPIData.destroy
  split
  · rename_i callbacks _
    apply Knows.eraseClientData
    simp only [removeClient_frame]
    rw [← askedSet_all s.asked this fun i => s.asked i this && !isClient i callbacks]
    have hgnss := Knows.removeClient h this callbacks .gnss rfl
    refine Knows.removeClient (Knows.removeClient hgnss _ _ _ ?_) _ _ _ ?_
    · simp [askedSet_apply]
    · simp [askedSet_apply]
  · exact h

/-- Every call keeps the invariant. -/
theorem Inv.step (h : s.Inv) {c : ApiCall κ} (ht : s.step c = some t) : t.Inv := by
  cases c with
  | createInstance newLocationAPI callbacks loads =>
      simp only [LocationAPIData.step, Option.ite_none_right_eq_some, Option.some.injEq] at ht
      rw [← ht.2]
      exact h.createInstance newLocationAPI callbacks loads
  | updateCallbacks this callbacks loads =>
      simp only [LocationAPIData.step, Option.ite_none_right_eq_some, Option.some.injEq] at ht
      rw [← ht.2]
      exact h.updateCallbacks this callbacks loads
  | destroy this =>
      simp only [LocationAPIData.step, Option.ite_none_right_eq_some, Option.some.injEq] at ht
      rw [← ht.2]
      exact h.destroy this
  | startTracking this options =>
      simp only [LocationAPIData.step, Option.ite_none_right_eq_some, Option.some.injEq] at ht
      rw [← ht.2]
      exact h.startTracking this options
  | controlCreateInstance responseCb loads =>
      cases ht
      exact h.controlCreateInstance responseCb loads
  | controlDestroy =>
      cases ht
      exact ⟨h.registered, h.tried⟩

/-! ### What is left of a destroyed client -/

/-- The condition on a call. The destructor reads the latest callback set of the client, and
deregisters it from the interfaces that this set calls for. An interface that was registered for an
earlier set is only reached if the latest set calls for it as well. An interface that is not loaded
knows no client. The other calls leave no client behind. -/
def LatestCovers (s : LocationAPIData κ) : ApiCall κ → Prop
  | .destroy this => ∀ callbacks ∈ s.clientData this, ∀ i,
      s.interface i = true → s.asked i this = true → isClient i callbacks = true
  | _ => True

/-- The other clients of a call. -/
theorem clean_of_frame (h : s.Clean) (this : κ)
    (hdata : ∀ client, client ≠ this → t.clientData client = s.clientData client)
    (hcalls : ∀ i client, client ≠ this →
      (Registered t.calls i client ↔ Registered s.calls i client))
    (hthis : t.clientData this = none → ∀ i, ¬ Registered t.calls i this) : t.Clean := by
  intro client hclient i
  by_cases hsame : client = this
  · subst hsame
    exact hthis hclient i
  · rw [hcalls i client hsame]
    exact h client (hdata client hsame ▸ hclient) i

theorem Clean.createInstance (h : s.Clean) (newLocationAPI : κ) (callbacks : LocationCallbacks)
    (loads : LocationInterface → Bool) :
    (s.createInstance newLocationAPI callbacks loads).1.Clean := by
  unfold LocationAPIData.createInstance
  split
  · refine clean_of_frame h newLocationAPI (fun client hne => ?_)
      (fun i client hne => ?_) fun hnone => ?_
    · simp [setClientData, addClientFirst_frame, hne]
    · refine Iff.trans ?_ (registered_addClientFirst_of_ne hne (s, false) callbacks loads .gnss)
      refine Iff.trans ?_ (registered_addClientFirst_of_ne hne _ callbacks loads .flp)
      exact registered_addClientFirst_of_ne hne _ callbacks loads .geofence
    · simp [setClientData] at hnone
  · exact h

theorem Clean.updateCallbacks (h : s.Clean) (this : κ) (callbacks : LocationCallbacks)
    (loads : LocationInterface → Bool) : (s.updateCallbacks this callbacks loads).Clean := by
  unfold LocationAPIData.updateCallbacks
  split
  · refine clean_of_frame h this (fun client hne => ?_) (fun i client hne => ?_)
      fun hnone => ?_
    · simp [setClientData, addClient_frame, hne]
    · refine Iff.trans ?_ (registered_addClient_of_ne hne s callbacks loads .gnss)
      refine Iff.trans ?_ (registered_addClient_of_ne hne _ callbacks loads .flp)
      exact registered_addClient_of_ne hne _ callbacks loads .geofence
    · simp [setClientData] at hnone
  · exact h

/-- A destruction leaves nothing of the client if and only if it meets the condition. -/
theorem clean_destroy_iff (hinv : s.Inv) (h : s.Clean) {this : κ} {callbacks : LocationCallbacks}
    (hdata : s.clientData this = some callbacks) :
    (s.destroy this).Clean ↔ s.LatestCovers (.destroy this) := by
  have hafter := hinv.destroy this
  have hinterface : (s.destroy this).interface = s.interface := by
    unfold destroy
    simp [hdata, eraseClientData, removeClient_frame]
  have hasked : ∀ i, (s.destroy this).asked i this
      = (s.asked i this && !isClient i callbacks) := by
    intro i
    unfold destroy
    simp [hdata, eraseClientData, removeClient_frame]
  have hnone : (s.destroy this).clientData this = none := by
    unfold destroy
    simp [hdata, eraseClientData]
  constructor
  · intro hclean callbacks' hdata' i hi hi'
    cases hdata.symm.trans hdata'
    by_contra hcovered
    refine hclean this hnone i ((hafter.registered i this).mpr ⟨hinterface ▸ hi, ?_⟩)
    rw [hasked, hi']
    simpa using hcovered
  · intro hok
    refine clean_of_frame h this (fun client hne => ?_) (fun i client hne => ?_)
      fun _ i hregistered => ?_
    · unfold destroy
      simp [hdata, eraseClientData, removeClient_frame, hne]
    · unfold destroy
      rw [hdata]
      refine Iff.trans ?_ (registered_removeClient_of_ne hne s callbacks .gnss)
      refine Iff.trans ?_ (registered_removeClient_of_ne hne _ callbacks .flp)
      exact registered_removeClient_of_ne hne _ callbacks .geofence
    · obtain ⟨hi, hi'⟩ := (hafter.registered i this).mp hregistered
      rw [hasked, Bool.and_eq_true] at hi'
      have hcovered := hok callbacks hdata i (hinterface ▸ hi) hi'.1
      simp [hcovered] at hi'

/-- A call leaves nothing of a destroyed client if and only if it meets the condition. -/
theorem clean_step_iff (hinv : s.Inv) (h : s.Clean) {c : ApiCall κ} (ht : s.step c = some t) :
    t.Clean ↔ s.LatestCovers c := by
  cases c with
  | createInstance newLocationAPI callbacks loads =>
      simp only [step, Option.ite_none_right_eq_some, Option.some.injEq] at ht
      rw [← ht.2]
      exact iff_of_true (h.createInstance newLocationAPI callbacks loads) trivial
  | updateCallbacks this callbacks loads =>
      simp only [step, Option.ite_none_right_eq_some, Option.some.injEq] at ht
      rw [← ht.2]
      exact iff_of_true (h.updateCallbacks this callbacks loads) trivial
  | destroy this =>
      simp only [step, Option.ite_none_right_eq_some, Option.some.injEq] at ht
      rw [← ht.2]
      obtain ⟨callbacks, hdata⟩ := Option.isSome_iff_exists.mp ht.1
      exact clean_destroy_iff hinv h hdata
  | startTracking this options =>
      simp only [step, Option.ite_none_right_eq_some, Option.some.injEq] at ht
      rw [← ht.2]
      exact iff_of_true (h.startTracking this options) trivial
  | controlCreateInstance responseCb loads =>
      cases ht
      exact iff_of_true (h.controlCreateInstance responseCb loads) trivial
  | controlDestroy =>
      cases ht
      exact iff_of_true h trivial

/-- A call that cannot be made destroys nothing. -/
theorem latestCovers_of_step_none {c : ApiCall κ} (hnone : s.step c = none) : s.LatestCovers c := by
  cases c with
  | destroy this =>
      intro callbacks hdata
      have hlive : (s.clientData this).isSome = true := Option.isSome_iff_exists.mpr ⟨_, hdata⟩
      simp [step, hlive] at hnone
  | _ => trivial

/-- In every run nothing of a destroyed client is left with any interface if and only if each client
that is destroyed has at last a callback set that calls for every loaded interface it asked for.

A callback set adds the client to the interfaces that it calls for, and replaces the one before it.
The removal looks at the last one only, so an interface that an earlier one has asked for keeps the
client. -/
theorem along_clean_iff (calls : List (ApiCall κ)) :
    Along step Clean (init : LocationAPIData κ) calls ↔ Guarded step LatestCovers init calls := by
  refine along_iff_guarded (I := fun s => s.Inv ∧ s.Clean) (fun s hs => hs.2) ?_ ?_ ?_ calls init ?_
  · intro s c t hs hok ht
    exact ⟨hs.1.step ht, (clean_step_iff hs.1 hs.2 ht).mpr hok⟩
  · intro s c t hs ht hclean
    exact (clean_step_iff hs.1 hs.2 ht).mp hclean
  · intro s c _ hnone
    exact latestCovers_of_step_none hnone
  · exact ⟨knows_init, fun _ _ _ => not_registered_nil⟩

/-- The mandatory callbacks and no other one. -/
def mandatoryCallbacks : LocationCallbacks :=
  ⟨true, true, true, false, false, false, false, false, false, false, false, false⟩

/-- A client with a tracking callback gives it up before it is destroyed. -/
def droppedTracking : List (ApiCall Nat) :=
  [.createInstance 0 { mandatoryCallbacks with trackingCb := true } fun _ => true,
    .updateCallbacks 0 mandatoryCallbacks fun _ => true, .destroy 0]

/-- Both interfaces still know it. -/
theorem not_along_droppedTracking :
    ¬ Along step Clean (init : LocationAPIData Nat) droppedTracking := by
  intro halong
  refine halong.last rfl 0 rfl .gnss ?_
  exact ⟨[.initializeInterface .gnss], _, [.requestCapabilities .gnss 0, .initializeInterface .flp,
    .addClient .flp 0 _], rfl, by decide⟩

end LocationAPIData

end LocHal.Location
