import LocHal.Core.DebugReports

/-!
# `LocHal.Core.DebugTruncated`: truncated debug sentences

A parser that finds too few fields leaves the cleared record, or what its memory held, and
`setNmeaString` stores that. `map_setDebugItem_eq_iff` says when the new item changes a report, and
`setNmeaString_truncated_iff` says when a truncated sentence changes none.

A sentence is truncated when its parser does not find all the fields that it requires. The parsers
then return before they fill their record, and nothing tells the caller so. `Truncated.short` says
that this is what the two cases of `Truncated` have in common.

`Keeps` is the condition for one report and `KeepsReports` the one for all reports of a kind. Both
are stated for a view of an entry. `setIteminReport` writes the reported time of an entry even if
the item is not new, so there are two questions: whether the entries without these times stay
(`Entry.unreported`), and whether the whole entries do. One lemma answers both
(`storeNmea_map_eq_iff`), and the theorem has a half for each.

The memory of a parser is a parameter (`Uninit`), since its constructor returns before it clears the
record. So is the clock, which each stored item reads once.
-/

set_option autoImplicit false

namespace LocHal.Core

open LocHal.Util (CString)

variable {δ φ τ β γ : Type}

/-! ### One report -/

/-- A report keeps what `view` shows when the item is stored: the newest entry equals the item, so
that only its reported time is written again, or the report is full of entries that look like the
new one. The latter needs an `equals` that is not reflexive, as with NaN. -/
def Keeps (view : Entry τ β → γ) (equals : β → β → Bool) (report : List (Entry τ β))
    (s : Entry τ β) : Prop :=
  ∃ last, report.getLast? = some last ∧
    if equals last.item s.item then view { last with mUtcReported := s.mUtcReported } = view last
    else maxItem ≤ report.length ∧ ∀ e ∈ report, view e = view s

/-- Shifting a list by one changes nothing when its members are all the new one. -/
theorem tail_concat_eq_iff (xs : List γ) (x : γ) :
    (xs ++ [x]).tail = xs ↔ ∀ y ∈ xs, y = x := by
  induction xs with
  | nil => simp
  | cons y xs ih =>
      cases xs with
      | nil => simp [eq_comm]
      | cons z xs =>
          rw [List.cons_append, List.tail_cons, List.cons_append, List.cons.injEq]
          rw [List.cons_append, List.tail_cons] at ih
          rw [ih]
          constructor
          · rintro ⟨rfl, hall⟩
            exact List.forall_mem_cons.mpr ⟨hall z List.mem_cons_self, hall⟩
          · intro hall
            obtain ⟨rfl, hrest⟩ := List.forall_mem_cons.mp hall
            exact ⟨hrest z List.mem_cons_self, hrest⟩

theorem map_setDebugItem_eq_iff (view : Entry τ β → γ) (equals : β → β → Bool)
    (report : List (Entry τ β)) (s : Entry τ β) :
    (setDebugItem equals report s).map view = report.map view ↔ Keeps view equals report s := by
  unfold setDebugItem Keeps
  rcases List.eq_nil_or_concat report with rfl | ⟨init, last, rfl⟩
  · simp [maxItem]
  · rw [List.concat_eq_append, List.getLast?_concat]
    simp only [Option.some.injEq, exists_eq_left']
    by_cases heq : equals last.item s.item = true
    · simp [heq]
    · rw [if_neg heq, if_neg heq]
      by_cases hfull : maxItem ≤ (init ++ [last]).length
      · -- the oldest entry goes
        rw [if_pos (by simp at hfull ⊢; omega), List.map_tail, List.map_append, List.map_singleton,
          tail_concat_eq_iff, List.forall_mem_map]
        exact (and_iff_right hfull).symm
      · rw [if_neg (by simp at hfull ⊢; omega)]
        exact iff_of_false (fun h => by simpa using congrArg List.length h) fun h => hfull h.1

/-! ### All reports -/

theorem DebugReports.map_id (mCache : DebugReports δ φ τ) : mCache.map (fun e => e) = mCache := by
  simp [DebugReports.map]

section
variable [BEq δ] [BEq φ]

/-- The reports of a kind keep what `view` shows when the record of a parser that stopped early is
stored. That record is cleared for `$PQWM1`, whose parser clears it first, and it is what the memory
held for the other kinds. `$PQWM1` is stored in four reports, and each of them has to keep its own
part. -/
def KeepsReports (view : {β : Type} → Entry τ β → Entry τ β) (fl : NmeaFloats δ φ)
    (uninit : Uninit φ) (clock : Nat → τ) (mCache : DebugReports δ φ τ) : DebugKind → Prop
  | .pqwm1 =>
      let s := SystemStatusPQWM1.cleared fl
      Keeps view (· == ·) mCache.mTimeAndClock (.new (clock 0) (timeAndClock s)) ∧
        Keeps view (· == ·) mCache.mXoState (.new (clock 1) (xoState s)) ∧
        Keeps view rfAndParamsEquals mCache.mRfAndParams (.new (clock 2) (rfAndParams s)) ∧
        Keeps view (· == ·) mCache.mErrRecovery (.new (clock 3) (errRecovery s))
  | .pqwp1 => Keeps view injectedPositionEquals mCache.mInjectedPosition (.new (clock 0) uninit.mP1)
  | .pqwp2 =>
      Keeps view bestPositionEquals mCache.mBestPosition (.new (clock 0) (bestPosition uninit.mP2))
  | .pqwp3 => Keeps view (· == ·) mCache.mXtra (.new (clock 0) uninit.mP3)
  | .pqwp4 => Keeps view (· == ·) mCache.mEphemeris (.new (clock 0) uninit.mP4)
  | .pqwp5 => Keeps view (· == ·) mCache.mSvHealth (.new (clock 0) uninit.mP5)
  | .pqwp6 => Keeps view (· == ·) mCache.mPdr (.new (clock 0) uninit.mP6)
  | .pqwp7 => Keeps view (· == ·) mCache.mNavData (.new (clock 0) uninit.mP7)
  | .pqws1 => Keeps view (· == ·) mCache.mPositionFailure (.new (clock 0) uninit.mS1)

theorem storeNmea_map_eq_iff (view : {β : Type} → Entry τ β → Entry τ β) (fl : NmeaFloats δ φ)
    (uninit : Uninit φ) (clock : Nat → τ) (mCache : DebugReports δ φ τ) {kind : DebugKind}
    {fields : List CString} (hshort : fields.length < kind.requiredFields) :
    (storeNmea fl uninit clock kind fields mCache).map view = mCache.map view ↔
      KeepsReports view fl uninit clock mCache kind := by
  -- each parser returns before its first field and leaves the record as it was
  cases kind with
  | pqwm1 =>
      have hparser : pqwm1Parser fl fields = .cleared fl := if_pos (Nat.le_of_lt_succ hshort)
      simp [storeNmea, hparser, DebugReports.map, KeepsReports, map_setDebugItem_eq_iff]
  | pqwp1 =>
      have hparser : pqwp1Parser fl uninit.mP1 fields = uninit.mP1 := if_pos hshort
      simp [storeNmea, hparser, DebugReports.map, KeepsReports, map_setDebugItem_eq_iff]
  | pqwp2 =>
      have hparser : pqwp2Parser fl uninit.mP2 fields = uninit.mP2 := if_pos hshort
      simp [storeNmea, hparser, DebugReports.map, KeepsReports, map_setDebugItem_eq_iff]
  | pqwp3 =>
      have hparser : pqwp3Parser uninit.mP3 fields = uninit.mP3 := if_pos hshort
      simp [storeNmea, hparser, DebugReports.map, KeepsReports, map_setDebugItem_eq_iff]
  | pqwp4 =>
      have hparser : pqwp4Parser uninit.mP4 fields = uninit.mP4 := if_pos hshort
      simp [storeNmea, hparser, DebugReports.map, KeepsReports, map_setDebugItem_eq_iff]
  | pqwp5 =>
      have hparser : pqwp5Parser uninit.mP5 fields = uninit.mP5 := if_pos hshort
      simp [storeNmea, hparser, DebugReports.map, KeepsReports, map_setDebugItem_eq_iff]
  | pqwp6 =>
      have hparser : pqwp6Parser uninit.mP6 fields = uninit.mP6 := if_pos hshort
      simp [storeNmea, hparser, DebugReports.map, KeepsReports, map_setDebugItem_eq_iff]
  | pqwp7 =>
      have hparser : pqwp7Parser uninit.mP7 fields = uninit.mP7 := if_pos hshort
      simp [storeNmea, hparser, DebugReports.map, KeepsReports, map_setDebugItem_eq_iff]
  | pqws1 =>
      have hparser : pqws1Parser uninit.mS1 fields = uninit.mS1 := if_pos hshort
      simp [storeNmea, hparser, DebugReports.map, KeepsReports, map_setDebugItem_eq_iff]

theorem mField_of_not_mem {sentence : CString} {length : Nat} (h : '*' ∉ sentence) :
    mField sentence length = [] := by
  unfold mField
  rw [findChar_of_not_mem h, ite_self]

/-- The sentence has no `*`, or fewer fields than its parser requires. Without a `*` the sentence is
not cut at all, and then there are no fields. -/
def Truncated (data : CString) (len : Nat) (kind : DebugKind) : Prop :=
  '*' ∉ data.take 4096 ∨ (mField (data.take 4096) len).length < kind.requiredFields

theorem Truncated.short {data : CString} {len : Nat} {kind : DebugKind}
    (h : Truncated data len kind) : (mField (data.take 4096) len).length < kind.requiredFields := by
  rcases h with hstar | hshort
  · rw [mField_of_not_mem hstar]
    cases kind <;> decide
  · exact hshort

/-- A truncated sentence leaves the reports alone exactly when they keep the record that its parser
left: first for the entries without their reported times, then for the whole entries.

A parser that returns early leaves its record cleared, or as the memory was, and the record is
stored like a parsed one. It changes nothing if the newest entry equals it, apart from the reported
time, which is then that of the truncated sentence. -/
theorem setNmeaString_truncated_iff (fl : NmeaFloats δ φ) (uninit : Uninit φ) (clock : Nat → τ)
    (mCache : DebugReports δ φ τ) {data : CString} {len : Nat} {kind : DebugKind}
    (hdebug : locNmeaIsDebug data len = true) (hkind : debugKind data = some kind)
    (htruncated : Truncated data len kind) :
    ((setNmeaString fl uninit clock data len mCache).2.map Entry.unreported
          = mCache.map Entry.unreported ↔
        KeepsReports Entry.unreported fl uninit clock mCache kind) ∧
      ((setNmeaString fl uninit clock data len mCache).2 = mCache ↔
        KeepsReports (fun e => e) fl uninit clock mCache kind) := by
  have hset : (setNmeaString fl uninit clock data len mCache).2
      = storeNmea fl uninit clock kind (mField (data.take 4096) len) mCache := by
    unfold setNmeaString
    rw [if_pos hdebug, hkind]
  rw [hset]
  refine ⟨storeNmea_map_eq_iff _ fl uninit clock mCache htruncated.short, ?_⟩
  -- the whole entries are those that the identity shows
  rw [← storeNmea_map_eq_iff (fun e => e) fl uninit clock mCache htruncated.short,
    DebugReports.map_id, DebugReports.map_id]

end

/-- Integers for the floating-point numbers. -/
def intFloats : NmeaFloats Int Int where
  atof := Util.LocCfg.strtol 10
  zero := 0
  toFloat x := x
  ofInt n := n

/-- A memory with all bits zero. -/
def zeroUninit : Uninit Int where
  mP1 := ⟨0, 0, 0, 0, 0, 0, 0⟩
  mP2 := ⟨0, 0, 0, 0, 0⟩
  mP3 := ⟨0, 0, 0, 0, 0, 0, 0, 0, 0, 0, 0⟩
  mP4 := ⟨0, 0, 0, 0, 0⟩
  mP5 := ⟨0, 0, 0, 0, 0, 0, 0, 0, 0, 0, 0, 0, 0, 0, 0⟩
  mP6 := ⟨0⟩
  mP7 := ⟨Vector.replicate svAllNum ⟨0, 0, 0⟩⟩
  mS1 := ⟨0, 0⟩

theorem setNmeaString_truncated_pdr :
    let mCache : DebugReports Int Int Nat := { DebugReports.clear with mPdr := [.new 3 ⟨0⟩] }
    (setNmeaString intFloats zeroUninit (fun _ => 8) "$PQWP6*00".toList 9 mCache).2.map
      Entry.unreported = mCache.map Entry.unreported :=
  have hkind : debugKind "$PQWP6*00".toList = some .pqwp6 := by decide
  (setNmeaString_truncated_iff intFloats zeroUninit (fun _ => 8) _ (by decide) hkind
    (.inr (by decide))).1.mpr ⟨_, rfl, rfl⟩

/-- A sentence without a single value overwrites the time with zeros. -/
theorem setNmeaString_truncated_stores :
    let data := "$PQWM1*00".toList
    let mCache : DebugReports Int Int Nat := DebugReports.clear
    locNmeaIsDebug data 9 = true ∧ debugKind data = some .pqwm1 ∧ Truncated data 9 .pqwm1 ∧
      (setNmeaString intFloats zeroUninit (fun _ => 8) data 9 mCache).2.mTimeAndClock
        = [.new 8 ⟨0, 0, 0, 0, 0, 0, 0, 0, 0⟩] ∧
      mCache.mTimeAndClock = [] :=
  ⟨by decide, by decide, .inr (by decide), by decide, rfl⟩

end LocHal.Core
