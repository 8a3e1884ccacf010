import LocHal.Gnss.GnssConfig
import LocHal.Lib.LabelledRun

/-!
# `LocHal.Gnss.SuplServer`: the SUPL server of the adapter and the one of the modem

`mServerUrl` is the URL that was sent last, and `setSuplHostServer` sends a URL that differs from
it. It is written before `setServer` has answered, a restart of the engine leaves it alone, and
the answer for the URL that is there already is `LOCATION_ERROR_INVALID_PARAMETER`.

`Agrees` is the property of one call: the two agree afterwards, a server that the modem holds is
answered with a success, and the length is the one of the text. `guarded_agrees_iff` gives the
exact condition on each call of a run.

The three slips are in different places. The answer for an unchanged URL is an error. The buffer of
the URL is too small for a long host name, and `snprintf` returns the length that it would have
written, so the modem gets a length beyond the end of the text. The third one is the restart, after
which the modem has no server and the adapter sends none for the same URL.

A call that sends nothing leaves both servers alone (`agrees_iff_of_quiet`); a call that sends the
URL makes them the same if the modem accepts it (`sameServer_sent_iff`), and then the length decides
(`agrees_iff_of_sent`). URLs are compared as `strncasecmp` does, without regard to case.
-/

set_option autoImplicit false

namespace LocHal.Gnss.Config

open LabelledRun

/-- What can happen next: a call of `setSuplHostServer` with the answer of the modem, or a restart
of the engine, which forgets its server. -/
inductive ServerCall where
  | setSuplHostServer (server : Option CString) (port : Int) (answer : LocationError)
  | restart

namespace ConfigAdapter

/-- One step. -/
def serverStep (s : ConfigAdapter) : ServerCall → Option ConfigAdapter
  | .setSuplHostServer server port answer =>
      some ((s.withAnswers [answer]).setSuplHostServer server port).1
  | .restart => some { s with mLocApi := .new }

/-- The URL that the modem accepted last. -/
def heldUrl (s : ConfigAdapter) : Option CString := s.mLocApi.server.map Prod.fst

/-- `mServerUrl` is the URL of the modem, or the initial marker. -/
def SameServer (s : ConfigAdapter) : Prop := s.mServerUrl = s.heldUrl.getD [':']

/-- The URL and the length that `setSuplHostServer` passes to `setServer`, when it calls it. -/
def setServerCall (s : ConfigAdapter) (server : Option CString) (port : Int) :
    Option (CString × Int) :=
  let (serverUrl, length) := suplUrl server port
  if 0 ≤ length && !sameIgnoringCase s.mServerUrl serverUrl then some (serverUrl, length) else none

/-- The property of one call: the adapter and the modem agree on the server after it, the server
that the modem holds is answered with a success, and the length that is passed on is that of the
text. -/
def Agrees (s : ConfigAdapter) (call : ServerCall) : Prop :=
  (∀ t ∈ s.serverStep call, t.SameServer) ∧
  match call with
  | .setSuplHostServer server port answer =>
      -- the server whose URL the modem holds
      (0 ≤ (suplUrl server port).2 → s.heldUrl = some (suplUrl server port).1 →
        ((s.withAnswers [answer]).setSuplHostServer server port).2 = .success) ∧
      ∀ c ∈ s.setServerCall server port, c.2 = c.1.length
  | .restart => True

/-- The text fits into `serverUrl`. -/
def FitsUrl (server : Option CString) (port : Int) : Prop :=
  noHost server = false → (hostPort (server.getD []) port).length < maxUrlLen

/-- The condition on one call. A server with the URL that `mServerUrl` has is answered with an
error, although it is in force, so a call with a valid server must be for another URL. When the URL
differs, it is sent: the text must fit its buffer, since otherwise the length that is passed on is
not that of the text, and the modem must accept it, since `mServerUrl` is written in any case. A
restart comes before the first call, since it does not send the server again. -/
def KeepsServer (s : ConfigAdapter) : ServerCall → Prop
  | .setSuplHostServer server port answer =>
      0 ≤ (suplUrl server port).2 →
        (suplUrl server port).1 ≠ s.mServerUrl ∧
        (sameIgnoringCase s.mServerUrl (suplUrl server port).1 = false →
          answer = .success ∧ FitsUrl server port)
  | .restart => s.mServerUrl = [':']

variable {s t : ConfigAdapter} {server : Option CString} {port : Int} {answer : LocationError}

/-! ### The URL -/

theorem sameIgnoringCase_self (a : CString) : sameIgnoringCase a a = true :=
  decide_eq_true rfl

/-- The URL is not the marker: it is empty, or a host stands before the colon. -/
theorem suplUrl_ne_marker (server : Option CString) (port : Int) :
    (suplUrl server port).1 ≠ [':'] := by
  unfold suplUrl
  split
  · simp
  · rename_i hhost
    split
    · intro hmarker
      have hlength := congrArg List.length hmarker
      have hhost : (server.getD []) ≠ [] := by
        intro hnil
        cases server with
        | none => simp [noHost] at hhost
        | some server =>
            have hnil : server = [] := hnil
            simp [noHost, hnil] at hhost
      have hpos : 0 < (server.getD []).length := List.length_pos_iff.mpr hhost
      have hdigits : 0 < (Nat.toDigits 10 port.toNat).length := Nat.length_toDigits_pos
      simp only [List.length_take, hostPort, List.length_append, List.length_cons,
        List.length_nil, maxUrlLen] at hlength
      omega
    · simp

/-- The length is the one of the text if and only if the text has not been cut. -/
theorem suplUrl_length_iff (hvalid : 0 ≤ (suplUrl server port).2) :
    (suplUrl server port).2 = (suplUrl server port).1.length ↔ FitsUrl server port := by
  unfold FitsUrl
  unfold suplUrl at hvalid ⊢
  by_cases hhost : noHost server = true
  · rw [if_pos hhost]
    simp [hhost]
  · rw [if_neg hhost] at hvalid ⊢
    by_cases hport : 0 < port
    · rw [if_pos hport] at hvalid ⊢
      dsimp only at hvalid ⊢
      split at hvalid
      · rename_i hsmall
        rw [if_pos hsmall, List.length_take, imp_iff_right (Bool.eq_false_iff.mpr hhost)]
        unfold maxUrlLen
        omega
      · omega
    · rw [if_neg hport] at hvalid
      omega

/-! ### One call -/

theorem setServerCall_eq_some {url : CString} {len : Int} :
    s.setServerCall server port = some (url, len) ↔
      0 ≤ (suplUrl server port).2 ∧
        sameIgnoringCase s.mServerUrl (suplUrl server port).1 = false ∧
        (suplUrl server port).1 = url ∧ (suplUrl server port).2 = len := by
  unfold setServerCall
  dsimp only
  rw [Option.ite_none_right_eq_some, Option.some.injEq, Prod.mk.injEq]
  simp [and_assoc]

/-- A call that sends nothing. -/
theorem setSuplHostServer_none (hinjects : s.injects = true)
    (hcall : s.setServerCall server port = none) :
    (s.withAnswers [answer]).setSuplHostServer server port =
      (s.withAnswers [answer], .invalidParameter) := by
  unfold setServerCall at hcall
  unfold setSuplHostServer
  dsimp only at hcall ⊢
  split at hcall
  · cases hcall
  · rename_i hquiet
    exact (if_pos hinjects).trans (if_neg hquiet)

/-- A call that sends the URL. -/
theorem setSuplHostServer_some {url : CString} {len : Int} (answer : LocationError)
    (hinjects : s.injects = true)
    (hcall : s.setServerCall server port = some (url, len)) :
    ((s.withAnswers [answer]).setSuplHostServer server port).2 = answer ∧
    ((s.withAnswers [answer]).setSuplHostServer server port).1.mServerUrl = url ∧
    ((s.withAnswers [answer]).setSuplHostServer server port).1.heldUrl =
      if answer = .success then some url else s.heldUrl := by
  obtain ⟨hvalid, hdiffers, rfl, rfl⟩ := setServerCall_eq_some.mp hcall
  have heq : (s.withAnswers [answer]).setSuplHostServer server port =
      ({ s.withAnswers [answer] with
          mServerUrl := (suplUrl server port).1
          mLocApi := ((s.withAnswers [answer]).mLocApi.setServer (suplUrl server port).1
            (suplUrl server port).2).1 }, answer) := by
    have hsends : (0 ≤ (suplUrl server port).2 &&
        !sameIgnoringCase s.mServerUrl (suplUrl server port).1) = true := by
      simp [hvalid, hdiffers]
    unfold setSuplHostServer
    exact (if_pos hinjects).trans (if_pos hsends)
  rw [heq]
  refine ⟨rfl, rfl, ?_⟩
  unfold heldUrl
  show Option.map Prod.fst (if answer = .success then _ else _) = _
  split
  · rfl
  · rfl

/-- What the invariant says: the injection is on, and the servers are the same. -/
structure ServerInv (s : ConfigAdapter) : Prop where
  injects : s.injects = true
  same : s.SameServer

theorem injects_serverStep {call : ServerCall} (hs : s.injects = true)
    (h : s.serverStep call = some t) : t.injects = true := by
  cases call with
  | restart =>
      cases h
      exact hs
  | setSuplHostServer server port answer =>
      cases h
      unfold setSuplHostServer
      dsimp only
      split
      · split
        · exact hs
        · exact hs
      · exact hs

/-- The URL of the modem is the one of the adapter. -/
theorem ServerInv.heldUrl_iff (hs : ServerInv s) :
    s.heldUrl = some (suplUrl server port).1 ↔ (suplUrl server port).1 = s.mServerUrl := by
  have hsame := hs.same
  unfold SameServer at hsame
  constructor
  · intro hheld
    rw [hsame, hheld]
    rfl
  · intro hurl
    cases hheld : s.heldUrl with
    | none =>
        rw [hheld] at hsame
        exact absurd (hurl.trans hsame) (suplUrl_ne_marker server port)
    | some url =>
        rw [hheld] at hsame
        rw [hurl, hsame]
        rfl

/-- The step is the only one. -/
theorem sameServer_serverStep_iff {call : ServerCall} (h : s.serverStep call = some t) :
    (∀ u ∈ s.serverStep call, u.SameServer) ↔ t.SameServer := by
  simp [h]

/-- Nothing is sent: the servers stay the same, and the answer is an error. -/
theorem agrees_iff_of_quiet (hs : ServerInv s) (answer : LocationError)
    (hcall : s.setServerCall server port = none) :
    s.Agrees (.setSuplHostServer server port answer) ↔
      s.KeepsServer (.setSuplHostServer server port answer) := by
  unfold Agrees KeepsServer
  rw [sameServer_serverStep_iff rfl]
  dsimp only
  rw [hs.heldUrl_iff, setSuplHostServer_none hs.injects hcall]
  have hkept : (s.withAnswers [answer]).SameServer := hs.same
  -- a valid URL that is not sent is the one of the adapter, up to case
  have hequal : 0 ≤ (suplUrl server port).2 →
      sameIgnoringCase s.mServerUrl (suplUrl server port).1 = true := by
    intro hvalid
    unfold setServerCall at hcall
    simpa [hvalid] using hcall
  rw [and_iff_right hkept]
  constructor
  · rintro ⟨hheld, -⟩ hvalid
    refine ⟨fun hurl => ?_, fun hdiffers => ?_⟩
    · cases hheld hvalid hurl
    · exact absurd (hdiffers.symm.trans (hequal hvalid)) Bool.false_ne_true
  · intro h
    refine ⟨fun hvalid hurl => absurd hurl (h hvalid).1, fun c hc => ?_⟩
    rw [hcall] at hc
    cases hc

/-- The URL is sent: the servers are the same afterwards when the modem accepts it. -/
theorem sameServer_sent_iff (hs : ServerInv s) {url : CString} {len : Int} (answer : LocationError)
    (hcall : s.setServerCall server port = some (url, len)) (hne : url ≠ s.mServerUrl) :
    ((s.withAnswers [answer]).setSuplHostServer server port).1.SameServer ↔
      answer = .success := by
  obtain ⟨-, hurl, hheld⟩ := setSuplHostServer_some answer hs.injects hcall
  unfold SameServer
  rw [hurl, hheld]
  by_cases hsuccess : answer = .success
  · rw [if_pos hsuccess]
    exact iff_of_true rfl hsuccess
  · rw [if_neg hsuccess, ← hs.same]
    exact iff_of_false hne hsuccess

/-- The URL is sent: it is a new one, so only the answer and the length count. -/
theorem agrees_iff_of_sent (hs : ServerInv s) {url : CString} {len : Int} (answer : LocationError)
    (hcall : s.setServerCall server port = some (url, len)) :
    s.Agrees (.setSuplHostServer server port answer) ↔
      s.KeepsServer (.setSuplHostServer server port answer) := by
  obtain ⟨hvalid, hdiffers, rfl, rfl⟩ := setServerCall_eq_some.mp hcall
  have hne : (suplUrl server port).1 ≠ s.mServerUrl := by
    intro heq
    rw [heq, sameIgnoringCase_self] at hdiffers
    cases hdiffers
  unfold Agrees KeepsServer
  rw [sameServer_serverStep_iff rfl]
  dsimp only
  rw [hs.heldUrl_iff, hcall, sameServer_sent_iff hs answer hcall hne, imp_iff_right hvalid,
    imp_iff_right hvalid, and_iff_right hne, imp_iff_right hdiffers]
  refine and_congr_right fun _ => ?_
  rw [← suplUrl_length_iff hvalid]
  constructor
  · intro h
    exact h.2 _ rfl
  · intro h
    refine ⟨fun heq => absurd heq hne, fun c hc => ?_⟩
    cases hc
    exact h

/-- The condition is exact for one call. -/
theorem agrees_iff_keepsServer (hs : ServerInv s) (call : ServerCall) :
    s.Agrees call ↔ s.KeepsServer call := by
  cases call with
  | restart =>
      unfold Agrees
      rw [sameServer_serverStep_iff rfl]
      exact and_iff_left trivial
  | setSuplHostServer server port answer =>
      cases hcall : s.setServerCall server port with
      | none => exact agrees_iff_of_quiet hs answer hcall
      | some call => exact agrees_iff_of_sent hs answer hcall

/-- In every run of calls and restarts the two servers agree if and only if every step meets the
condition.

The URL of a call is compared with `mServerUrl`, which is written before the modem has answered, and
which a restart does not clear. So an unchanged URL, which is answered as an invalid parameter, a
refused one and a restart after any call are excluded. The length is a bound because the one that is
passed is that of the text before it is cut. -/
theorem guarded_agrees_iff (mGps_conf : GpsConf) (hinject : mGps_conf.AGPS_CONFIG_INJECT ≠ 0)
    (calls : List ServerCall) :
    Guarded serverStep Agrees (new mGps_conf) calls ↔
      Guarded serverStep KeepsServer (new mGps_conf) calls := by
  refine guarded_congr (I := ServerInv) (fun s call hs => agrees_iff_keepsServer hs call)
    (fun s call t hs hagrees h => ?_) calls (new mGps_conf) ⟨decide_eq_true hinject, rfl⟩
  exact ⟨injects_serverStep hs.injects h, hagrees.1 t h⟩

/-- A configuration with the injection on. -/
def injecting : GpsConf := ⟨1, 0, 0, 0, 0, 0, 0, 0, 0, 0, [], 0⟩

/-- The modem accepts a server, and then another one. -/
def twoServers : List ServerCall :=
  [.setSuplHostServer (some ['h']) 7275 .success, .setSuplHostServer none 0 .success]

theorem guarded_agrees_twoServers : Guarded serverStep Agrees (new injecting) twoServers := by
  refine (guarded_agrees_iff injecting (by decide) _).mpr ⟨fun _ => ?_, fun s hs => ?_⟩
  · exact ⟨by decide, fun _ => ⟨rfl, fun _ => by decide⟩⟩
  · cases hs
    exact ⟨fun _ => ⟨by decide, fun _ => ⟨rfl, fun h => by cases h⟩⟩, fun _ _ => trivial⟩

/-- The modem accepts a server, and the same call is made again. -/
def sameServerTwice : List ServerCall :=
  [.setSuplHostServer (some ['h']) 7275 .success, .setSuplHostServer (some ['h']) 7275 .success]

/-- The second call is answered with an error. -/
theorem not_guarded_sameServerTwice :
    ¬ Guarded serverStep Agrees (new injecting) sameServerTwice := by
  rintro ⟨-, h⟩
  have hanswer := ((h _ rfl).1.2).1 (by decide) (by decide)
  exact absurd hanswer (by decide)

end ConfigAdapter

end LocHal.Gnss.Config
