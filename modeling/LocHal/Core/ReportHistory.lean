import LocHal.Core.DebugReports
import Mathlib.Data.List.DropRight

/-!
# `LocHal.Core.ReportHistory`: what a report holds

`SystemStatus` has a report for each kind of item. `setIteminReport` compares an item with the
newest element only, and `setDefaultIteminReport` compares nothing. The oldest element is erased
when there are more than `maxItem`.

`runCalls_eq` says what a report holds after any calls, without the report: `heldFrom` drops every
item that equals the one before it, dropped or not, and the report is the end of what is left. The
newest element may be older than the last item, and here `equals` has to be an equivalence: the last
item equals the newest element through all that were dropped between them.

The items are those that do not override `collate`.

`pushEntry_eq` says that a report of at most `maxItem` elements stays one, and that it is the end of
the longer list. `setIteminReport_of_equals` and `setIteminReport_of_not_equals` are the two cases
of a call, for a report that is the end of the items that were held so far. `runCalls_concat` is the
run lemma, by induction on the calls, with the history before them as a parameter.

A default is set without a comparison, so the same default set twice stands there twice. A dropped
item changes the reported time of the newest element. `reportedFrom` is that time: the one of the
last item that was dropped after the element.
-/

set_option autoImplicit false

namespace LocHal.Core.ReportHistory

variable {τ β : Type}

/-! ### The calls -/

/-- `push_back`, and `erase` of the oldest element when there are more than `maxItem`. -/
def pushEntry (report : List (Entry τ β)) (s : Entry τ β) : List (Entry τ β) :=
  let report' := report ++ [s]
  if maxItem < report'.length then report'.tail else report'

/-- `SystemStatus::setIteminReport`: the report and the return value. -/
def setIteminReport (equals : β → β → Bool) (report : List (Entry τ β)) (s : Entry τ β) :
    List (Entry τ β) × Bool :=
  match report.getLast? with
  | some last =>
      if equals last.item s.item then
        (report.dropLast ++ [{ last with mUtcReported := s.mUtcReported }], false)
      else (pushEntry report s, true)
  | none => (pushEntry report s, true)

/-- `SystemStatus::setDefaultIteminReport`. -/
def setDefaultIteminReport (report : List (Entry τ β)) (s : Entry τ β) : List (Entry τ β) :=
  pushEntry report s

/-- The debug sentences set their items in this way. -/
theorem setIteminReport_fst (equals : β → β → Bool) (report : List (Entry τ β)) (s : Entry τ β) :
    (setIteminReport equals report s).1 = setDebugItem equals report s := by
  unfold setIteminReport setDebugItem
  cases report.getLast? with
  | none => rfl
  | some last =>
      dsimp only
      split <;> rfl

/-- A call with its item. -/
inductive ReportCall (τ β : Type) where
  | setItem (s : Entry τ β)
  | setDefault (s : Entry τ β)

/-- The item of a call. -/
def ReportCall.entry : ReportCall τ β → Entry τ β
  | .setItem s => s
  | .setDefault s => s

/-- The calls in order: the report, and what each returns. A default returns nothing. -/
def runCalls (equals : β → β → Bool) :
    List (Entry τ β) → List (ReportCall τ β) → List (Entry τ β) × List (Option Bool)
  | report, [] => (report, [])
  | report, .setItem s :: calls =>
      let set := setIteminReport equals report s
      let rest := runCalls equals set.1 calls
      (rest.1, some set.2 :: rest.2)
  | report, .setDefault s :: calls =>
      let rest := runCalls equals (setDefaultIteminReport report s) calls
      (rest.1, none :: rest.2)

/-! ### The history -/

/-- An item is dropped when it equals the one before it. A default is not. -/
def ReportCall.dropped (equals : β → β → Bool) (before : Option (Entry τ β)) :
    ReportCall τ β → Bool
  | .setItem s => before.any fun e => equals e.item s.item
  | .setDefault _ => false

/-- The reported time of the latest item that is dropped onto `e`, and its own without one. -/
def reportedFrom (equals : β → β → Bool) : Entry τ β → List (ReportCall τ β) → τ
  | e, [] => e.mUtcReported
  | e, call :: calls =>
      if call.dropped equals (some e) then reportedFrom equals call.entry calls
      else e.mUtcReported

/-- The items of the calls that are not dropped, each with the time of the last item that was
dropped onto it. An item is dropped when it equals the one before it, which may have been dropped
itself. -/
def heldFrom (equals : β → β → Bool) :
    Option (Entry τ β) → List (ReportCall τ β) → List (Entry τ β)
  | _, [] => []
  | before, call :: calls =>
      let held := heldFrom equals (some call.entry) calls
      if call.dropped equals before then held
      else { call.entry with mUtcReported := reportedFrom equals call.entry calls } :: held

/-- `true` for an item that is not dropped. -/
def returnedFrom (equals : β → β → Bool) :
    Option (Entry τ β) → List (ReportCall τ β) → List (Option Bool)
  | _, [] => []
  | before, call :: calls =>
      let returned :=
        match call with
        | .setItem _ => some !call.dropped equals before
        | .setDefault _ => none
      returned :: returnedFrom equals (some call.entry) calls

/-! ### The last elements -/

section

variable {α : Type} {l m : List α} {n : Nat}

/-- Nothing is cut off a short list. -/
theorem rtake_of_length_le (h : l.length ≤ n) : l.rtake n = l := by
  unfold List.rtake
  rw [Nat.sub_eq_zero_of_le h, List.drop_zero]

theorem length_rtake (l : List α) (n : Nat) : (l.rtake n).length ≤ n := by
  unfold List.rtake
  rw [List.length_drop]
  omega

/-- What is cut off before more comes would be cut off afterwards too. -/
theorem rtake_rtake_append (h : m ≠ []) :
    (l.rtake n ++ m).rtake (n + 1) = (l ++ m).rtake (n + 1) := by
  have hpos := List.length_pos_iff.mpr h
  unfold List.rtake
  rw [List.drop_append, List.drop_append, List.drop_drop]
  simp only [List.length_append, List.length_drop]
  congr 2 <;> omega

end

/-! ### One call -/

variable {equals : β → β → Bool} {report : List (Entry τ β)} {last e s : Entry τ β}

theorem pushEntry_eq (h : report.length ≤ maxItem) :
    pushEntry report s = report.rtake (maxItem - 1) ++ [s] := by
  unfold pushEntry
  dsimp only
  rw [List.length_append, List.length_singleton]
  by_cases hfull : maxItem < report.length + 1
  · -- the oldest one goes
    rw [if_pos hfull]
    have hlength : report.length - (maxItem - 1) = 1 := by
      unfold maxItem at h hfull ⊢
      omega
    have hne : report ≠ [] := List.length_pos_iff.mp (by omega)
    rw [List.rtake, hlength, List.tail_append_of_ne_nil hne, List.drop_one]
  · rw [if_neg hfull, rtake_of_length_le (by omega)]

theorem setIteminReport_of_equals {before : List (Entry τ β)}
    (h : equals last.item s.item = true) :
    setIteminReport equals (before ++ [last]) s
      = (before ++ [{ last with mUtcReported := s.mUtcReported }], false) := by
  unfold setIteminReport
  rw [List.getLast?_concat, List.dropLast_concat]
  exact if_pos h

theorem setIteminReport_of_not_equals {before : List (Entry τ β)}
    (h : equals last.item s.item = false) :
    setIteminReport equals (before ++ [last]) s = (pushEntry (before ++ [last]) s, true) := by
  unfold setIteminReport
  rw [List.getLast?_concat]
  exact if_neg (Bool.eq_false_iff.mp h)

/-- A reported time that an element has already. -/
theorem reported_self {t : τ} (h : last.mUtcReported = t) :
    ({ last with mUtcReported := t } : Entry τ β) = last := by
  rw [← h]

/-! ### Any calls -/

/-- A report with an element, which equals the item `e` of the last call and has its reported
time. -/
theorem runCalls_concat (hequals : Equivalence fun a b => equals a b = true)
    {before : List (Entry τ β)} (hlength : before.length < maxItem)
    (hitem : equals last.item e.item = true) (htime : last.mUtcReported = e.mUtcReported)
    (calls : List (ReportCall τ β)) :
    runCalls equals (before ++ [last]) calls =
      ((before ++ { last with mUtcReported := reportedFrom equals e calls }
        :: heldFrom equals (some e) calls).rtake maxItem, returnedFrom equals (some e) calls) := by
  induction calls generalizing before last e with
  | nil =>
      rw [runCalls, reportedFrom, heldFrom, returnedFrom, reported_self htime,
        rtake_of_length_le (by rw [List.length_append]; exact hlength)]
  | cons call calls ih =>
      -- what an item leaves that is not dropped
      have hpush : ∀ s : Entry τ β,
          runCalls equals (pushEntry (before ++ [last]) s) calls =
            ((before ++ last :: { s with mUtcReported := reportedFrom equals s calls }
              :: heldFrom equals (some s) calls).rtake maxItem,
              returnedFrom equals (some s) calls) := by
        intro s
        rw [pushEntry_eq (by rw [List.length_append]; exact hlength),
          ih (Nat.lt_of_le_of_lt (length_rtake _ _) (by decide)) (hequals.refl s.item) rfl]
        have hcut := @rtake_rtake_append _ (before ++ [last])
          ({ s with mUtcReported := reportedFrom equals s calls }
            :: heldFrom equals (some s) calls) (maxItem - 1) (List.cons_ne_nil _ _)
        rw [List.append_assoc before] at hcut
        exact congrArg (·, _) hcut
      cases call with
      | setDefault s =>
          rw [runCalls]
          unfold setDefaultIteminReport
          rw [hpush, reportedFrom, heldFrom, returnedFrom]
          simp [ReportCall.dropped, ReportCall.entry, reported_self htime]
      | setItem s =>
          rw [runCalls]
          cases hdropped : equals e.item s.item with
          | true =>
              -- the newest element equals the item too
              have hlast := hequals.trans hitem hdropped
              have hrest := @ih { last with mUtcReported := s.mUtcReported } s before hlength
                hlast rfl
              rw [setIteminReport_of_equals hlast]
              dsimp only
              rw [hrest, reportedFrom, heldFrom, returnedFrom]
              simp [ReportCall.dropped, ReportCall.entry, hdropped]
          | false =>
              have hlast : equals last.item s.item = false :=
                Bool.eq_false_iff.mpr fun h =>
                  Bool.eq_false_iff.mp hdropped (hequals.trans (hequals.symm hitem) h)
              rw [setIteminReport_of_not_equals hlast]
              dsimp only
              rw [hpush, reportedFrom, heldFrom, returnedFrom]
              simp [ReportCall.dropped, ReportCall.entry, hdropped, reported_self htime]

/-- After any calls on an empty report, it holds the last `maxItem` of the items that were not
dropped, and each call has returned whether its item was dropped.

An item is dropped if it equals the one before it, which then gets its reported time. A default item
is never dropped. `heldFrom` says this without the report. -/
theorem runCalls_eq (equals : β → β → Bool) (hequals : Equivalence fun a b => equals a b = true)
    (calls : List (ReportCall τ β)) :
    runCalls equals [] calls =
      ((heldFrom equals none calls).rtake maxItem, returnedFrom equals none calls) := by
  cases calls with
  | nil => rfl
  | cons call calls =>
      -- the first item is stored in any case
      have hfirst := @runCalls_concat τ β equals call.entry call.entry hequals []
        (Nat.succ_pos 4) (hequals.refl _) rfl calls
      cases call with
      | setItem s =>
          show ((runCalls equals ([] ++ [s]) calls).1,
            some true :: (runCalls equals ([] ++ [s]) calls).2) = _
          rw [show s = (ReportCall.setItem s).entry from rfl, hfirst]
          rfl
      | setDefault s =>
          show ((runCalls equals ([] ++ [s]) calls).1,
            none :: (runCalls equals ([] ++ [s]) calls).2) = _
          rw [show s = (ReportCall.setDefault s).entry from rfl, hfirst]
          rfl

/-- Items that are compared by all their members. -/
theorem equivalence_beq [BEq β] [LawfulBEq β] : Equivalence fun a b : β => (a == b) = true :=
  ⟨fun a => beq_self_eq_true a, fun h => beq_iff_eq.mpr (beq_iff_eq.mp h).symm,
    fun h h' => beq_iff_eq.mpr ((beq_iff_eq.mp h).trans (beq_iff_eq.mp h'))⟩

/-- An item, the same again, and the same as a default. -/
theorem runCalls_same_item :
    runCalls (· == ·) [] [.setItem ⟨0, 0, 7⟩, .setItem ⟨1, 1, 7⟩, .setDefault ⟨2, 2, (7 : Nat)⟩]
      = ([⟨0, 1, 7⟩, ⟨2, (2 : Nat), 7⟩], [some true, some false, none]) :=
  (runCalls_eq (· == ·) equivalence_beq _).trans rfl

end LocHal.Core.ReportHistory
