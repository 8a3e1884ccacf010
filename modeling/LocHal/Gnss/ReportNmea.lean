import LocHal.Gnss.ReportDelivered
import LocHal.Util.NmeaGsa

/-!
# `LocHal.Gnss.ReportNmea`: debug sentences stay inside

The sentences of the modem that begin with `$PQW` are for `SystemStatus`. The adapter does not offer
them to the ULP proxy, and `SystemStatus` takes them before any client sees them. It takes only a
sentence of 6 to 4096 characters for one of these: `loc_nmea_is_debug` looks at the length too. A
shorter or a longer one goes the way of all sentences, and reaches the clients.

`KeptInside` says what holds then. A `$PQW` that the proxy is offered has such a length. One that a
client receives has it too, and it is word for word a sentence that the modem has sent: the adapter
generates sentences itself, and some of them begin with `$PQ`, but none with `$PQW`. This is what
`Named` is about. Such a sentence has a talker of two letters, and the letter after it is never a
`W`.

`noDebug_run` says that every state of every interleaving is so. What the clients receive is taken
from `delivered_run`, so that only the generated sentences need to be looked at here.
-/

set_option autoImplicit false

namespace LocHal.Gnss.ReportPipeline

open LabelledRun
open LocHal.Core hiding setIteminReport
open LocHal.Gnss.LocationReport
open LocHal.Util (CString)
open LocHal.Util.LocNmea

variable {κ δ φ τ μ : Type}

/-! ### The sentences that are generated -/

/-- The text begins with a talker and with a letter that no debug sentence has there. -/
def Named (text : CString) : Prop :=
  ∃ talker c, talker.length = 2 ∧ c ≠ 'W' ∧ '$' :: talker ++ [c] <+: text

theorem Named.extend {text text' : CString} (h : Named text) (hstarts : text <+: text') :
    Named text' := by
  obtain ⟨talker, c, hlength, hc, hbegins⟩ := h
  exact ⟨talker, c, hlength, hc, hbegins.trans hstarts⟩

/-- A sentence with a name does not begin like a debug sentence. -/
theorem Named.not_debug {text : CString} (h : Named text) : ¬ "$PQW".toList <+: text := by
  obtain ⟨talker, c, hlength, hc, hbegins⟩ := h
  obtain ⟨x, y, rfl⟩ := List.length_eq_two.mp hlength
  intro hpqw
  -- both are the first four characters
  have heq : "$PQW".toList = ['$', x, y, c] := by
    rw [List.prefix_iff_eq_take] at hpqw hbegins
    exact hpqw.trans hbegins.symm
  have hlast := congrArg (fun l : CString => l[3]?) heq
  exact hc (Option.some.inj hlast).symm

theorem prefix_snprintf (text piece : CString) : text <+: snprintf text piece :=
  List.prefix_append _ _

theorem prefix_tryPrint {text piece text' : CString} (h : tryPrint text piece = some text') :
    text <+: text' := by
  unfold tryPrint at h
  split at h
  · cases h
  · cases h
    exact List.prefix_append _ _

/-- A sentence whose first piece has a name. -/
theorem named_tryPrint {talker piece text : CString} {c : Char} (htalker : talker.length = 2)
    (hc : c ≠ 'W') (hpiece : '$' :: talker ++ [c] <+: piece)
    (h : tryPrint [] piece = some text) : Named text := by
  unfold tryPrint at h
  split at h
  · cases h
  · cases h
    exact ⟨talker, c, htalker, hc, hpiece⟩

theorem named_snprintf {talker piece : CString} {c : Char} (htalker : talker.length = 2)
    (hc : c ≠ 'W') (hpiece : '$' :: talker ++ [c] <+: piece) : Named (snprintf [] piece) := by
  refine ⟨talker, c, htalker, hc, List.prefix_take_iff.mpr ⟨hpiece, ?_⟩⟩
  simp [htalker]

theorem Named.putChecksum {text : CString} (h : Named text) : Named (locNmeaPutChecksum text) :=
  h.extend (prefix_snprintf _ _)

theorem talker_length {cache : LocSvCacheInfo} {svType : GnssSvType} {needCombine : Bool}
    {svMeta : LocNmeaSvMeta} (h : locNmeaSvMetaInit cache svType needCombine = some svMeta) :
    svMeta.talker.length = 2 := by
  unfold locNmeaSvMetaInit at h
  cases svType <;> dsimp only at h <;> split at h <;> cases h <;> rfl

section
variable (r : Reals φ δ)

/-- The inner loop of a GSV sentence only adds to the text. -/
theorem prefix_gsvSvLoop (svType : GnssSvType) (svIdOffset : Nat) (svs : List (GnssSv φ))
    {i : Nat} {text : CString} {p : CString × List (GnssSv φ)}
    (h : gsvSvLoop r svType svIdOffset svs i text = some p) : text <+: p.1 := by
  induction svs generalizing i text with
  | nil =>
      cases h
      exact List.prefix_rfl
  | cons sv svs ih =>
      -- each piece of a satellite is added, and a piece that does not fit ends the sentence
      unfold gsvSvLoop at h
      split at h
      · cases h
        exact List.prefix_rfl
      · split at h
        · obtain ⟨first, hfirst, h⟩ := Option.bind_eq_some_iff.mp h
          refine (prefix_tryPrint hfirst).trans ?_
          dsimp only at h
          split at h
          · obtain ⟨second, hsecond, h⟩ := Option.bind_eq_some_iff.mp h
            exact (prefix_tryPrint hsecond).trans (ih h)
          · exact ih h
        · exact ih h

theorem named_gsvLoop {svMeta : LocNmeaSvMeta} (htalker : svMeta.talker.length = 2)
    (sentenceCount n : Nat) {sentenceNumber : Nat} {svs : List (GnssSv φ)} :
    ∀ text ∈ gsvLoop r svMeta sentenceCount n sentenceNumber svs, Named text := by
  induction n generalizing sentenceNumber svs with
  | zero =>
      intro text htext
      cases htext
  | succ n ih =>
      intro text htext
      unfold gsvLoop at htext
      dsimp only at htext
      split at htext
      · cases htext
      · rename_i body rest hbody
        obtain ⟨header, hheader, hbody⟩ := Option.bind_eq_some_iff.mp hbody
        rcases List.mem_cons.mp htext with rfl | htext
        · have hnamed : Named header := named_tryPrint htalker (c := 'G') (by decide)
            ⟨_, by simp only [List.append_assoc, List.cons_append]; rfl⟩ hheader
          exact ((hnamed.extend (prefix_gsvSvLoop r _ _ _ hbody)).extend
            (prefix_snprintf _ _)).putChecksum
        · exact ih text htext

/-- The sentences of a satellite report. -/
theorem named_sv (svNotify : GnssSvNotification φ) :
    ∀ text ∈ locNmeaGenerateSv r svNotify, Named text := by
  -- one constellation: it has no sentences, a blank one, or those of the loop
  have hgsv : ∀ cache svType, ∀ text ∈
      locNmeaGenerateGSV r svNotify (locNmeaSvMetaInit cache svType false), Named text := by
    intro cache svType text htext
    cases hmeta : locNmeaSvMetaInit cache svType false with
    | none =>
        rw [hmeta] at htext
        cases htext
    | some svMeta =>
        have htalker := talker_length hmeta
        rw [hmeta] at htext
        unfold locNmeaGenerateGSV at htext
        dsimp only at htext
        split at htext
        · rw [List.mem_singleton.mp htext]
          exact (named_snprintf htalker (c := 'G') (by decide)
            ⟨_, by simp only [List.append_assoc, List.cons_append]; rfl⟩).putChecksum
        · exact named_gsvLoop r htalker _ _ text htext
  intro text htext
  unfold locNmeaGenerateSv at htext
  simp only [List.mem_append] at htext
  rcases htext with (((h | h) | h) | h) | h <;> exact hgsv _ _ text h

theorem prefix_foldlM_tryPrint {α : Type} (piece : α → CString) (l : List α) {text text' : CString}
    (h : l.foldlM (fun text x => tryPrint text (piece x)) text = some text') :
    text <+: text' := by
  induction l generalizing text with
  | nil =>
      cases h
      exact List.prefix_rfl
  | cons x l ih =>
      rw [List.foldlM_cons] at h
      obtain ⟨next, hnext, h⟩ := Option.bind_eq_some_iff.mp h
      exact (prefix_tryPrint hnext).trans (ih h)

variable (location : Util.LocNmea.GpsLocation φ δ)
  (extended : Util.LocNmea.GpsLocationExtended φ)

theorem named_gsaSentences : ∀ text ∈ gsaSentences r extended, Named text := by
  -- one constellation: it has no sentence, or one whose header has the name
  have hgsa : ∀ svType needCombine, ∀ text ∈ (gsaOf r extended svType needCombine).2,
      Named text := by
    intro svType needCombine text htext
    unfold gsaOf locNmeaGenerateGSA at htext
    cases hmeta : locNmeaSvMetaInit (usedCache extended) svType needCombine with
    | none =>
        rw [hmeta] at htext
        cases htext
    | some svMeta =>
        rw [hmeta] at htext
        dsimp only at htext
        split at htext
        · cases htext
        · split at htext
          · cases htext
          · rename_i body hbody
            rw [List.mem_singleton.mp htext]
            unfold gsaText at hbody
            obtain ⟨header, hheader, hbody⟩ := Option.bind_eq_some_iff.mp hbody
            obtain ⟨ids, hids, hbody⟩ := Option.bind_eq_some_iff.mp hbody
            cases hbody
            have hnamed : Named header :=
              named_tryPrint (talker_length hmeta) (c := 'G') (by decide)
                ⟨_, by simp only [List.append_assoc, List.cons_append]; rfl⟩ hheader
            exact (((hnamed.extend (prefix_foldlM_tryPrint _ _ hids)).extend
              (prefix_snprintf _ _)).extend (prefix_snprintf _ _)).putChecksum
  intro text htext
  unfold gsaSentences at htext
  simp only [List.mem_append] at htext
  rcases htext with (((h | h) | h) | h) | h <;> exact hgsa _ _ text h

theorem posTalker_length : (posTalker r extended).length = 2 := by
  -- the talker starts as `GP`, and a constellation that replaces it has two letters as well
  have hfold : ∀ (l : List GnssSvType) (talker : CString), talker.length = 2 →
      (l.foldl (fun talker svType =>
        if 0 < (gsaOf r extended svType true).1 then
          ((locNmeaSvMetaInit (usedCache extended) svType true).elim talker LocNmeaSvMeta.talker)
        else talker) talker).length = 2 := by
    intro l
    induction l with
    | nil => exact fun talker h => h
    | cons svType l ih =>
        intro talker h
        rw [List.foldl_cons]
        refine ih _ ?_
        split
        · cases hmeta : locNmeaSvMetaInit (usedCache extended) svType true with
          | none => exact h
          | some svMeta => exact talker_length hmeta
        · exact h
  exact hfold _ _ rfl

theorem named_vtgText {talker text : CString} (htalker : talker.length = 2)
    (h : vtgText r location extended talker = some text) : Named text := by
  unfold vtgText at h
  obtain ⟨track, htrack, h⟩ := Option.bind_eq_some_iff.mp h
  obtain ⟨speed, hspeed, h⟩ := Option.bind_eq_some_iff.mp h
  cases h
  have hnamed : Named track := by
    refine named_tryPrint htalker (c := 'V') (by decide) ?_ htrack
    -- the first piece has the talker with or without a course behind it
    unfold vtgTrack
    split <;> exact ⟨_, by simp only [List.append_assoc, List.cons_append]; rfl⟩
  exact (hnamed.extend (prefix_tryPrint hspeed)).extend (prefix_snprintf _ _)

theorem named_rmcText {talker text : CString} {tm : Tm} (htalker : talker.length = 2)
    (h : rmcText r location extended tm talker = some text) : Named text := by
  unfold rmcText at h
  obtain ⟨t₁, h₁, h⟩ := Option.bind_eq_some_iff.mp h
  obtain ⟨t₂, h₂, h⟩ := Option.bind_eq_some_iff.mp h
  obtain ⟨t₃, h₃, h⟩ := Option.bind_eq_some_iff.mp h
  obtain ⟨t₄, h₄, h⟩ := Option.bind_eq_some_iff.mp h
  obtain ⟨t₅, h₅, h⟩ := Option.bind_eq_some_iff.mp h
  obtain ⟨t₆, h₆, h⟩ := Option.bind_eq_some_iff.mp h
  cases h
  have hnamed : Named t₁ := named_tryPrint htalker (c := 'R') (by decide)
    ⟨_, by simp only [List.append_assoc, List.cons_append]; rfl⟩ h₁
  -- the later pieces only add to the first one
  have hall : t₁ <+: t₆ := (prefix_tryPrint h₂).trans ((prefix_tryPrint h₃).trans
    ((prefix_tryPrint h₄).trans ((prefix_tryPrint h₅).trans (prefix_tryPrint h₆))))
  exact ((hnamed.extend hall).extend (prefix_snprintf _ _)).extend (prefix_snprintf _ _)

theorem named_ggaHead {talker text : CString} {tm : Tm} {svUsedCount : Nat}
    (htalker : talker.length = 2)
    (h : ggaHead r location extended tm talker svUsedCount = some text) : Named text := by
  unfold ggaHead at h
  obtain ⟨t₁, h₁, h⟩ := Option.bind_eq_some_iff.mp h
  obtain ⟨t₂, h₂, h⟩ := Option.bind_eq_some_iff.mp h
  obtain ⟨t₃, h₃, h⟩ := Option.bind_eq_some_iff.mp h
  have hnamed : Named t₁ := named_tryPrint htalker (c := 'G') (by decide)
    ⟨_, by simp only [List.append_assoc, List.cons_append]; rfl⟩ h₁
  exact hnamed.extend ((prefix_tryPrint h₂).trans ((prefix_tryPrint h₃).trans (prefix_tryPrint h)))

/-- The sentences from VTG on. The first one that does not fit is the end. -/
theorem named_trackSentences (tm : Tm) :
    ∀ text ∈ trackSentences r location extended tm, Named text := by
  intro text htext
  have htalker := posTalker_length r extended
  unfold trackSentences at htext
  dsimp only at htext
  split at htext
  · cases htext
  · rename_i vtg hvtg
    rcases List.mem_cons.mp htext with rfl | htext
    · exact (named_vtgText r location extended htalker hvtg).putChecksum
    · split at htext
      · cases htext
      · rename_i rmc hrmc
        rcases List.mem_cons.mp htext with rfl | htext
        · exact (named_rmcText r location extended htalker hrmc).putChecksum
        · split at htext
          · cases htext
          · rename_i gga hgga
            rw [List.mem_singleton.mp htext]
            -- the piece behind the head may be cut, but the head is there
            exact ((named_ggaHead r location extended htalker hgga).extend
              (prefix_snprintf _ _)).putChecksum

/-- The sentences of a position. -/
theorem named_pos (gmtime : Int → Option Tm) (generateNmea : Bool) :
    ∀ text ∈ locNmeaGeneratePos r location extended gmtime generateNmea, Named text := by
  intro text htext
  unfold locNmeaGeneratePos at htext
  split at htext
  · cases htext
  · split at htext
    · rcases List.mem_append.mp htext with htext | htext
      · exact named_gsaSentences r extended text htext
      · exact named_trackSentences r location extended _ text htext
    · obtain ⟨body, hbody, rfl⟩ := List.mem_map.mp htext
      have hnamed : Named body.toList := by
        simp only [List.mem_cons, List.not_mem_nil, or_false] at hbody
        rcases hbody with rfl | rfl | rfl | rfl | rfl | rfl
        · exact ⟨['G', 'P'], 'G', rfl, by decide, by decide⟩
        · exact ⟨['G', 'N'], 'G', rfl, by decide, by decide⟩
        · exact ⟨['P', 'Q'], 'G', rfl, by decide, by decide⟩
        · exact ⟨['G', 'P'], 'V', rfl, by decide, by decide⟩
        · exact ⟨['G', 'P'], 'R', rfl, by decide, by decide⟩
        · exact ⟨['G', 'P'], 'G', rfl, by decide, by decide⟩
      exact hnamed.putChecksum

end

/-! ### Any interleaving -/

/-- A length that no debug sentence has. -/
def OtherLength (length : Nat) : Prop := length < 6 ∨ 4096 < length

/-- A sentence that begins like a debug sentence has another length, and the modem has sent it. The
messages that have been processed are `processed`. -/
def Notification.Harmless (processed : List (ReportMsg κ δ φ τ μ)) : Notification δ φ μ → Prop
  | .nmea text length => "$PQW".toList <+: text →
      OtherLength length ∧ ∃ uninit clock, .reportNmea uninit clock text length ∈ processed
  | _ => True

theorem otherLength_of_not_isDebug {nmea : CString} {length : Nat} (h : ¬ IsDebug nmea length)
    (hpqw : "$PQW".toList <+: nmea) : OtherLength length := by
  unfold OtherLength
  by_contra hlength
  exact h ⟨hpqw, by omega, by omega⟩

theorem harmless_mono {processed later : List (ReportMsg κ δ φ τ μ)} {n : Notification δ φ μ}
    (h : n.Harmless processed) : n.Harmless (processed ++ later) := by
  cases n with
  | nmea text length =>
      intro hpqw
      obtain ⟨hlength, uninit, clock, hmem⟩ := h hpqw
      exact ⟨hlength, uninit, clock, List.mem_append_left _ hmem⟩
  | _ => trivial

/-- What is sent under a condition is sent as it says. -/
theorem SentWhen.of_mem {β : Type} {p : Prop} {Q : List β → Prop} {sent : List β} {n : β}
    (h : SentWhen p Q sent) (hn : n ∈ sent) : p ∧ Q sent := by
  by_cases hp : p
  · exact ⟨hp, h.1 hp⟩
  · rw [h.2 hp] at hn
    cases hn

/-- Sentences with a name are harmless. -/
theorem harmless_sentencesOf {processed : List (ReportMsg κ δ φ τ μ)} {sentences : List CString}
    (h : ∀ text ∈ sentences, Named text) :
    ∀ n ∈ (sentencesOf sentences : List (Notification δ φ μ)), n.Harmless processed := by
  intro n hn
  obtain ⟨text, htext, rfl⟩ := List.mem_map.mp hn
  exact fun hpqw => absurd hpqw (h text htext).not_debug

section
variable {a : ReportArith δ φ} {conf : GpsConf}

/-- What a client gets from a message is harmless. -/
theorem Receives.harmless {before : List (ReportMsg κ δ φ τ μ)} {callbacks : LocationCallbacks}
    {msg : ReportMsg κ δ φ τ μ} {sent : List (Notification δ φ μ)}
    (h : Receives a conf before callbacks msg sent) :
    ∀ n ∈ sent, n.Harmless (before ++ [msg]) := by
  intro n hn
  cases msg with
  | reportPosition time p e status techMask =>
      obtain ⟨locations, infos, sentences, rfl, hlocations, hinfos, hsentences⟩ := h
      rcases List.mem_append.mp hn with hn | hn
      · rcases List.mem_append.mp hn with hn | hn
        · obtain ⟨-, l, rfl, -⟩ := hlocations.of_mem hn
          obtain rfl := List.mem_singleton.mp hn
          trivial
        · obtain ⟨-, i, rfl, -⟩ := hinfos.of_mem hn
          obtain rfl := List.mem_singleton.mp hn
          trivial
      · obtain ⟨-, values, -, rfl⟩ := hsentences.of_mem hn
        exact harmless_sentencesOf (named_pos _ _ _ _ _) n hn
  | reportSv svNotify =>
      obtain ⟨svs, sentences, shown, rfl, -, hsvs, hsentences⟩ := h
      rcases List.mem_append.mp hn with hn | hn
      · obtain ⟨-, rfl⟩ := hsvs.of_mem hn
        obtain rfl := List.mem_singleton.mp hn
        trivial
      · obtain ⟨-, rfl⟩ := hsentences.of_mem hn
        exact harmless_sentencesOf (named_sv _ _) n hn
  | reportNmea uninit clock nmea length =>
      simp only [Receives] at h
      -- the modem has sent it, and it was no debug sentence
      obtain ⟨⟨hdebug, -⟩, rfl⟩ := h.of_mem hn
      obtain rfl := List.mem_singleton.mp hn
      exact fun hpqw => ⟨otherLength_of_not_isDebug hdebug hpqw, uninit, clock, by simp⟩
  | reportGnssMeasurementData measurements =>
      simp only [Receives] at h
      obtain ⟨-, rfl⟩ := h.of_mem hn
      obtain rfl := List.mem_singleton.mp hn
      trivial
  | _ =>
      rw [show sent = [] from h] at hn
      cases hn

/-- What a client gets from all messages is harmless. -/
theorem Delivered.harmless {c : κ} {processed : List (ReportMsg κ δ φ τ μ)}
    {received : List (Notification δ φ μ)} (h : Delivered a conf c processed received) :
    ∀ n ∈ received, n.Harmless processed := by
  induction h with
  | nil => simp
  | registered _ _ hsent ih =>
      intro n hn
      rcases List.mem_append.mp hn with hn | hn
      · exact harmless_mono (ih n hn)
      · exact hsent.harmless n hn
  | unregistered _ _ ih => exact fun n hn => harmless_mono (ih n hn)

end

section
variable [LinearOrder κ] [BEq δ] [BEq φ] {a : ReportArith δ φ} {conf : GpsConf}
  {s t : ReportSystem κ δ φ τ μ}

/-- The debug sentences are kept inside. Of those that begin like one, only the ones with another
length have been offered to the proxy, and only those that the modem has sent with another length
have reached a client. -/
structure KeptInside (s : ReportSystem κ δ φ τ μ) : Prop where
  offered : ∀ nmea length, (nmea, length) ∈ s.offered → "$PQW".toList <+: nmea → OtherLength length
  delivered : ∀ c nmea length, (c, .nmea nmea length) ∈ s.delivered → "$PQW".toList <+: nmea →
    OtherLength length ∧ ∃ uninit clock, .reportNmea uninit clock nmea length ∈ s.processed

/-- The sentences that have been offered. -/
def Offered (s : ReportSystem κ δ φ τ μ) : Prop :=
  ∀ e ∈ s.offered, ¬ IsDebug e.1 e.2

theorem Offered.step (h : Offered s) {i : ReportLabel κ δ φ τ μ}
    (ht : s.step a conf i = some t) : Offered t := by
  cases i with
  | reportPositionEvent fromUlp taken time ulpLocation locationExtended status techMask =>
      simp only [ReportSystem.step] at ht
      split at ht <;> cases ht <;> exact h
  | reportSvEvent fromUlp taken svNotify =>
      simp only [ReportSystem.step] at ht
      split at ht <;> cases ht <;> exact h
  | reportNmeaEvent fromUlp taken uninit clock nmea length =>
      cases ht
      unfold ReportSystem.reportNmeaEvent
      dsimp only
      split
      · next hoffer =>
        rw [Bool.and_eq_true, Bool.not_eq_true', Bool.not_eq_true'] at hoffer
        -- the sentence has passed the test, whether the proxy takes it or not
        have hoffered : ∀ e ∈ s.offered ++ [(nmea, length)], ¬ IsDebug e.1 e.2 := by
          intro e he
          rcases List.mem_append.mp he with he | he
          · exact h e he
          · rw [List.mem_singleton.mp he, ← locNmeaIsDebug_iff, hoffer.2]
            exact Bool.false_ne_true
        split <;> exact hoffered
      · exact h
  | proc =>
      simp only [ReportSystem.step] at ht
      split at ht <;> cases ht
      exact h
  | _ =>
      cases ht
      exact h

/-- In any interleaving, the debug sentences are kept inside.

The test of the adapter looks at the length as well as at the first characters, so a sentence that
is too short or too long for it is not held back. Such a sentence is one of the modem, since no
printed sentence begins like a debug sentence. -/
theorem noDebug_run (a : ReportArith δ φ) (conf : GpsConf)
    (labels : List (ReportLabel κ δ φ τ μ)) :
    Along (ReportSystem.step a conf) KeptInside .new labels := by
  refine along_of_invariant (I := fun s => Offered s ∧ Accounted a conf s) (fun s hs => ?_)
    (fun _ _ _ hs ht => ⟨hs.1.step ht, hs.2.step ht⟩) labels _
    ⟨by simp [Offered, ReportSystem.new], accounted_new⟩
  refine ⟨fun nmea length hmem hpqw => otherLength_of_not_isDebug (hs.1 _ hmem) hpqw,
    fun c nmea length hmem hpqw => ?_⟩
  have hcalls : .nmea nmea length ∈ callsOf c s.delivered :=
    List.mem_filterMap.mpr ⟨_, hmem, if_pos rfl⟩
  exact (hs.2.delivered c).harmless _ hcalls hpqw

end

end LocHal.Gnss.ReportPipeline
