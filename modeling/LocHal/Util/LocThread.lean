import LocHal.Lib.LabelledRun
import LocHal.Lib.LastUse
import Mathlib.Tactic.Common

/-!
# `LocHal.Util.LocThread`: who deletes a thread and its runnable

`LocThread::start` makes a `LocThreadDelegate` and a thread that runs `threadMain` on it. From then
on two threads share the delegate: the parent, which stops it or deletes its `LocThread`, and the
spawned one. `LocThreadSystem.step` is one read or write of either of them.

`Released` is the property: when both sides have finished, the runnable and the delegate have been
deleted once, the delegate after both calls of `destroy`, and nothing has used it since.
`along_released_iff` is the exact condition. The reference count makes the part about the delegate
true of every run. The runnable has no such count: `threadMain` deletes it only if `mRunnable` was
not yet cleared when it read it, and `stop` can clear it before.

`Owned` is the invariant of the delegate. Each side is in one of three phases: it holds its
reference, it has found the count at zero and is about to delete, or it is through. `Counted` says
that the count is the number of references held, that one side at most deletes, and that the history
ends in one deletion. It is proved once for a side, whichever it is, and used for both.

`Kept` is the invariant of the runnable: the child will delete it, or has done so. The parent loses
it with one step only, `clearRunnable` before the child has read it (`kept_parent_iff`), and the
child never (`kept_child_iff`). A loss is for good, so the condition is necessary too: at the end of
a run in which both sides finish, `Released` says that the runnable was deleted.
-/

set_option autoImplicit false

namespace LocHal.Util

open LabelledRun

/-- The two threads that share a delegate. -/
inductive ThreadSide where
  | parent
  | child
  deriving DecidableEq, Repr

/-- The methods of `LocRunnable`. -/
inductive RunnableMethod where
  | prerun
  | run
  | postrun
  deriving DecidableEq, Repr

/-- The next step in `LocThreadDelegate::destroy`. `decrement` is the critical section. -/
inductive DestroyStep where
  | checkRefCount
  | decrement
  | deleteThis
  deriving DecidableEq, Repr

/-- The next step in `LocThreadDelegate::threadMain`. -/
inductive ChildStep where
  | readRunnable
  | checkPrerun
  | prerun
  | checkRun
  | run
  | checkPostrun
  | postrun
  | clearRunnable
  | deleteRunnable
  | destroy (next : DestroyStep)
  | returned
  deriving DecidableEq, Repr

/-- The next step of the parent. `setName` is the rest of the constructor of the delegate, and
`checkRunning` the test in `LocThreadDelegate::create`. `LocThread` points to the delegate in
`started`, and no longer in `released`. `bye` and the steps from `checkRunnable` to `join` are those
of the methods `bye` and `stop`. -/
inductive ParentStep where
  | setName
  | checkRunning
  | started
  | bye
  | checkRunnable
  | clearRunnable
  | checkJoinable
  | join
  | destroy (next : DestroyStep)
  | released
  deriving DecidableEq, Repr

/-- One entry of the history. `use` is a read or write of a member of the delegate, and `destroy`
is the critical section of a call of `destroy`. -/
inductive ThreadEntry where
  | use (side : ThreadSide)
  | destroy (side : ThreadSide)
  | deleteDelegate
  | call (method : RunnableMethod)
  | deleteRunnable
  deriving DecidableEq, Repr

/-- The entry is a use of the delegate. -/
def ThreadEntry.usesDelegate : ThreadEntry → Bool
  | .use _ => true
  | .destroy _ => true
  | .deleteDelegate => true
  | .call _ => false
  | .deleteRunnable => false

/-- The entry is a use of the runnable. -/
def ThreadEntry.usesRunnable : ThreadEntry → Bool
  | .call _ => true
  | .deleteRunnable => true
  | _ => false

/-- The delegate, with the next step of each side and the history. `mRunnable` says that the member
is not null. -/
structure LocThreadSystem where
  mRunnable : Bool
  mJoinable : Bool
  mRefCount : Int
  child : ChildStep
  parent : ParentStep
  log : List ThreadEntry
  deriving DecidableEq, Repr

/-- What can happen next. `child` carries the result of `run`, `stop` is a call of
`LocThread::stop`, and `deleteThread` the destructor of `LocThread`. -/
inductive ThreadLabel where
  | child (again : Bool)
  | parent
  | stop
  | deleteThread
  deriving DecidableEq, Repr

namespace LocThreadSystem

/-- The thread has been created. -/
def init (joinable : Bool) : LocThreadSystem where
  mRunnable := true
  mJoinable := joinable
  mRefCount := 2
  child := .readRunnable
  parent := .setName
  log := []

/-- Both sides are through. -/
def finished (s : LocThreadSystem) : Prop := s.child = .returned ∧ s.parent = .released

instance (s : LocThreadSystem) : Decidable s.finished := by
  unfold finished
  infer_instance

/-- One step of `LocThreadDelegate::destroy`: the counter, the next step, and the entry. -/
def destroy (mRefCount : Int) (side : ThreadSide) :
    DestroyStep → Int × Option DestroyStep × ThreadEntry
  | .checkRefCount => (mRefCount, if 0 < mRefCount then some .decrement else none, .use side)
  | .decrement => (mRefCount - 1, if mRefCount = 1 then some .deleteThis else none, .destroy side)
  | .deleteThis => (mRefCount, none, .deleteDelegate)

/-- One step of `LocThreadDelegate::threadMain`. -/
def threadMain (s : LocThreadSystem) (again : Bool) : Option LocThreadSystem :=
  let goto (next : ChildStep) (entry : ThreadEntry) : Option LocThreadSystem :=
    some { s with child := next, log := s.log ++ [entry] }
  match s.child with
  | .readRunnable =>
      goto (if s.mRunnable then .checkPrerun else .destroy .checkRefCount) (.use .child)
  | .checkPrerun => goto (if s.mRunnable then .prerun else .checkRun) (.use .child)
  | .prerun => goto .checkRun (.call .prerun)
  | .checkRun => goto (if s.mRunnable then .run else .checkPostrun) (.use .child)
  | .run => goto (if again then .checkRun else .checkPostrun) (.call .run)
  | .checkPostrun => goto (if s.mRunnable then .postrun else .clearRunnable) (.use .child)
  | .postrun => goto .clearRunnable (.call .postrun)
  | .clearRunnable =>
      some { s with mRunnable := false, child := .deleteRunnable, log := s.log ++ [.use .child] }
  | .deleteRunnable => goto (.destroy .checkRefCount) .deleteRunnable
  | .destroy d =>
      let (mRefCount, next, entry) := destroy s.mRefCount .child d
      some { s with
        mRefCount := mRefCount
        child := next.elim .returned .destroy
        log := s.log ++ [entry] }
  | .returned => none

/-- One step of the parent inside a call. -/
def parentStep (s : LocThreadSystem) : Option LocThreadSystem :=
  let goto (next : ParentStep) : Option LocThreadSystem :=
    some { s with parent := next, log := s.log ++ [.use .parent] }
  match s.parent with
  | .setName => goto .checkRunning
  | .checkRunning => goto (if s.mRunnable then .started else .destroy .checkRefCount)
  | .started => none
  | .bye => goto (if s.mJoinable then .checkRunnable else .destroy .checkRefCount)
  | .checkRunnable => goto (if s.mRunnable then .clearRunnable else .checkJoinable)
  | .clearRunnable =>
      some { s with mRunnable := false, parent := .checkJoinable, log := s.log ++ [.use .parent] }
  | .checkJoinable =>
      -- a joinable thread is joined once
      some { s with
        mJoinable := false
        parent := if s.mJoinable then .join else .destroy .checkRefCount
        log := s.log ++ [.use .parent] }
  | .join =>
      -- `pthread_join` returns when the child has returned
      if s.child = .returned then some { s with parent := .destroy .checkRefCount } else none
  | .destroy d =>
      let (mRefCount, next, entry) := destroy s.mRefCount .parent d
      some { s with
        mRefCount := mRefCount
        parent := next.elim .released .destroy
        log := s.log ++ [entry] }
  | .released => none

/-- A call of a method of `LocThread`, which does nothing once `mThread` is null. -/
def call (s : LocThreadSystem) (first : ParentStep) : Option LocThreadSystem :=
  match s.parent with
  | .started => some { s with parent := first }
  | .released => some s
  | _ => none

/-- One step. -/
def step (s : LocThreadSystem) : ThreadLabel → Option LocThreadSystem
  | .child again => s.threadMain again
  | .parent => s.parentStep
  | .stop => s.call .checkRunnable
  | .deleteThread => s.call .bye

/-- When both sides have finished, what they share has been deleted once. The delegate goes after
both sides have called `destroy`, and nothing is used after it was deleted. The counts are asked of
the end only, the order of the entries of every state on the way. -/
structure Released (s : LocThreadSystem) : Prop where
  runnable : s.finished → s.log.count .deleteRunnable = 1
  delegate : s.finished → s.log.count .deleteDelegate = 1
  runnableLast : ∀ before after, s.log = before ++ .deleteRunnable :: after →
    ∀ e ∈ after, e.usesRunnable = false
  delegateLast : ∀ before after, s.log = before ++ .deleteDelegate :: after →
    (∀ side, .destroy side ∈ before) ∧ ∀ e ∈ after, e.usesDelegate = false

/-- The condition on one step: the parent does not clear `mRunnable` before the child has read it.
Once the child has read it, it has a copy on its stack and deletes the runnable whatever the parent
does. A child that finds it cleared takes it for no runnable and goes straight to `destroy`. -/
def ReadFirst (s : LocThreadSystem) (i : ThreadLabel) : Prop :=
  i = .parent → s.parent = .clearRunnable → s.child ≠ .readRunnable

instance (s : LocThreadSystem) (i : ThreadLabel) : Decidable (s.ReadFirst i) := by
  unfold ReadFirst
  infer_instance

end LocThreadSystem

/-! ### The reference count -/

/-- How far a side is with the delegate. -/
inductive SidePhase where
  | holds
  | deletes
  | gone
  deriving DecidableEq, Repr

/-- The references that a side holds. -/
def SidePhase.refs : SidePhase → Int
  | .holds => 1
  | _ => 0

/-- The other side. -/
def ThreadSide.other : ThreadSide → ThreadSide
  | .parent => .child
  | .child => .parent

/-- The reference count against the phases of the two sides. The side that deletes the delegate is
the last one. -/
structure Counted (mRefCount : Int) (phase : ThreadSide → SidePhase) (log : List ThreadEntry) :
    Prop where
  refCount : ∀ side, mRefCount = (phase side).refs + (phase side.other).refs
  alone : ∀ side, phase side = .deletes → phase side.other = .gone
  destroyed : ∀ side, .destroy side ∈ log ↔ phase side ≠ .holds
  deleted : log.count .deleteDelegate
    = if phase .parent = .gone ∧ phase .child = .gone then 1 else 0
  last : LastUse (fun before => ∀ side, .destroy side ∈ before) ThreadEntry.usesDelegate
    .deleteDelegate log

@[simp] theorem ThreadSide.other_other (side : ThreadSide) : side.other.other = side := by
  cases side <;> rfl

theorem ThreadSide.eq_or_eq_other (side side' : ThreadSide) :
    side' = side ∨ side' = side.other := by
  cases side <;> cases side' <;> simp [ThreadSide.other]

@[simp] theorem ThreadSide.ne_other (side : ThreadSide) : side ≠ side.other := by
  cases side <;> simp [ThreadSide.other]

/-- Both sides. -/
theorem ThreadSide.both_iff {Q : ThreadSide → Prop} (side : ThreadSide) :
    Q .parent ∧ Q .child ↔ Q side ∧ Q side.other := by
  cases side
  · rfl
  · exact and_comm

namespace Counted

variable {log : List ThreadEntry} {e : ThreadEntry} {mRefCount : Int}
  {phase phase' : ThreadSide → SidePhase} {side : ThreadSide}

/-- The delegate is there while a side is not gone. -/
theorem not_deleted (h : Counted mRefCount phase log) (side : ThreadSide)
    (hside : phase side ≠ .gone) :
    log.count .deleteDelegate = 0 ∧ .deleteDelegate ∉ log := by
  have hzero : log.count .deleteDelegate = 0 := by
    rw [h.deleted, if_neg]
    cases side
    · exact fun hall => hside hall.1
    · exact fun hall => hside hall.2
  exact ⟨hzero, List.count_eq_zero.mp hzero⟩

/-- A side that holds the delegate uses it, or does something else. -/
theorem plain (h : Counted mRefCount phase log) (side : ThreadSide)
    (hside : phase side = .holds)
    (hdelete : e ≠ .deleteDelegate) (hdestroy : ∀ side, e ≠ .destroy side) :
    Counted mRefCount phase (log ++ [e]) where
  refCount := h.refCount
  alone := h.alone
  destroyed := fun side' => by
    rw [List.mem_append, h.destroyed, List.mem_singleton]
    exact or_iff_left fun heq => hdestroy side' heq.symm
  deleted := by
    rw [List.count_append, List.count_singleton, h.deleted]
    simp [hdelete]
  last := by
    refine h.last.concat (fun hmem => ?_) fun heq => absurd heq hdelete
    exact absurd hmem (h.not_deleted side (by rw [hside]; simp)).2

/-- The critical section: the last side deletes the delegate, the other one is gone. -/
theorem decrement (h : Counted mRefCount phase log) (hside : phase side = .holds)
    (hphase : phase' side = if mRefCount = 1 then .deletes else .gone)
    (hother : phase' side.other = phase side.other) :
    Counted (mRefCount - 1) phase' (log ++ [.destroy side]) := by
  have hrefs := h.refCount side
  rw [hside] at hrefs
  have hnotDeletes : phase side.other ≠ .deletes := fun hdeletes => by
    have hgone := h.alone side.other hdeletes
    rw [ThreadSide.other_other, hside] at hgone
    cases hgone
  -- the other side is gone exactly when one reference is left
  have hcases : phase side.other = .holds ∧ mRefCount = 2 ∧ phase' side = .gone ∨
      phase side.other = .gone ∧ mRefCount = 1 ∧ phase' side = .deletes := by
    cases hcase : phase side.other with
    | holds =>
        rw [hcase] at hrefs
        exact Or.inl ⟨rfl, hrefs, by rw [hphase, hrefs]; rfl⟩
    | deletes => exact absurd hcase hnotDeletes
    | gone =>
        rw [hcase] at hrefs
        exact Or.inr ⟨rfl, hrefs, by rw [hphase, hrefs]; rfl⟩
  have hnotDeleted := h.not_deleted side (by rw [hside]; simp)
  clear hphase hrefs
  refine ⟨fun side' => ?_, fun side' hdeletes => ?_, fun side' => ?_, ?_, ?_⟩
  · -- one reference for each side that still holds the object
    rcases side.eq_or_eq_other side' with rfl | rfl <;>
      rcases hcases with ⟨hholds, hcount, hgone⟩ | ⟨hgone, hcount, hdeletes⟩ <;>
      simp [*, SidePhase.refs]
  · rcases side.eq_or_eq_other side' with rfl | rfl
    · rcases hcases with ⟨-, -, hgone⟩ | ⟨hgone, -, -⟩
      · rw [hgone] at hdeletes
        cases hdeletes
      · rw [hother, hgone]
    · rw [hother] at hdeletes
      exact absurd hdeletes hnotDeletes
  · rw [List.mem_append, h.destroyed, List.mem_singleton]
    rcases side.eq_or_eq_other side' with rfl | rfl
    · rcases hcases with ⟨-, -, hgone⟩ | ⟨-, -, hdeletes⟩ <;> simp [*]
    · rw [hother]
      refine or_iff_left fun heq => ?_
      exact side.ne_other (ThreadEntry.destroy.inj heq).symm
  · have hnot : ¬ (phase' .parent = .gone ∧ phase' .child = .gone) := by
      rw [ThreadSide.both_iff (Q := fun side => phase' side = .gone) side, hother]
      rcases hcases with ⟨hholds, -, -⟩ | ⟨-, -, hdeletes⟩ <;> simp [*]
    rw [List.count_append, if_neg hnot, hnotDeleted.1]
    rfl
  · refine h.last.concat (fun hmem => absurd hmem hnotDeleted.2) (by simp)

/-- The deletion of the delegate. -/
theorem delete (h : Counted mRefCount phase log) (hside : phase side = .deletes)
    (hphase : phase' side = .gone) (hother : phase' side.other = phase side.other) :
    Counted mRefCount phase' (log ++ [.deleteDelegate]) := by
  have hgone := h.alone side hside
  have hnotDeleted := h.not_deleted side (by rw [hside]; simp)
  have hall : ∀ side', phase' side' = .gone := by
    intro side'
    rcases side.eq_or_eq_other side' with rfl | rfl
    · exact hphase
    · rw [hother, hgone]
  have hdestroyed : ∀ side', .destroy side' ∈ log := by
    intro side'
    rw [h.destroyed]
    rcases side.eq_or_eq_other side' with rfl | rfl <;> simp [*]
  refine ⟨fun side' => ?_, fun side' hdeletes => ?_, fun side' => ?_, ?_, ?_⟩
  · rw [h.refCount side, hside, hgone, hall, hall]
    rfl
  · rw [hall] at hdeletes
    cases hdeletes
  · rw [hall]
    simp [hdestroyed]
  · rw [List.count_append, hnotDeleted.1, if_pos ⟨hall _, hall _⟩]
    rfl
  · exact h.last.concat (fun hmem => absurd hmem hnotDeleted.2) fun _ => hdestroyed

/-- The phase of a side in `destroy`. -/
def destroyPhase : Option DestroyStep → SidePhase
  | none => .gone
  | some .deleteThis => .deletes
  | some _ => .holds

/-- One step of `destroy`. The test of the counter does not fail: the side has not given up its own
reference. -/
theorem destroy (h : Counted mRefCount phase log) (side : ThreadSide) {d : DestroyStep}
    (hside : phase side = destroyPhase (some d))
    (hphase : phase' side = destroyPhase (LocThreadSystem.destroy mRefCount side d).2.1)
    (hother : phase' side.other = phase side.other) :
    Counted (LocThreadSystem.destroy mRefCount side d).1 phase'
      (log ++ [(LocThreadSystem.destroy mRefCount side d).2.2]) := by
  cases d with
  | checkRefCount =>
      have hpos : 0 < mRefCount := by
        have hrefs := h.refCount side
        rw [hside] at hrefs
        rw [hrefs]
        cases phase side.other <;> simp [destroyPhase, SidePhase.refs]
      have hsame : phase' = phase := by
        funext side'
        rcases side.eq_or_eq_other side' with rfl | rfl
        · rw [hphase, hside]
          simp [LocThreadSystem.destroy, hpos, destroyPhase]
        · exact hother
      rw [hsame]
      exact h.plain side hside (by simp [LocThreadSystem.destroy])
        (by simp [LocThreadSystem.destroy])
  | decrement =>
      refine h.decrement hside ?_ hother
      rw [hphase]
      unfold LocThreadSystem.destroy
      dsimp only
      split <;> rfl
  | deleteThis => exact h.delete hside hphase hother

end Counted

/-! ### The two sides -/

/-- The phase of the child. -/
def ChildStep.phase : ChildStep → SidePhase
  | .destroy .deleteThis => .deletes
  | .returned => .gone
  | _ => .holds

/-- The child is through with the runnable. -/
def ChildStep.past : ChildStep → Bool
  | .destroy _ => true
  | .returned => true
  | _ => false

/-- The phase of the parent. -/
def ParentStep.phase : ParentStep → SidePhase
  | .destroy .deleteThis => .deletes
  | .released => .gone
  | _ => .holds

namespace LocThreadSystem

variable {s t : LocThreadSystem}

/-- The phases of the two sides. -/
def phase (s : LocThreadSystem) : ThreadSide → SidePhase
  | .parent => s.parent.phase
  | .child => s.child.phase

/-- What every step keeps. -/
structure Owned (s : LocThreadSystem) : Prop where
  counted : Counted s.mRefCount s.phase s.log
  runnableLast : LastUse (fun _ => True) ThreadEntry.usesRunnable .deleteRunnable s.log
  notDeleted : s.child.past = false → .deleteRunnable ∉ s.log

/-- A call of `LocThread` starts a method of the delegate, or it does nothing. -/
theorem call_cases {first : ParentStep} (ht : s.call first = some t) :
    s.parent = .started ∧ t = { s with parent := first } ∨ t = s := by
  unfold call at ht
  split at ht
  · rename_i hparent
    cases ht
    exact Or.inl ⟨hparent, rfl⟩
  · cases ht
    exact Or.inr rfl
  · cases ht

theorem owned_init (joinable : Bool) : (init joinable).Owned where
  counted :=
    { refCount := fun side => by cases side <;> rfl
      alone := fun side h => by cases side <;> cases h
      destroyed := fun side => by
        cases side <;> simp [init, phase, ChildStep.phase, ParentStep.phase]
      deleted := rfl
      last := lastUse_nil }
  runnableLast := lastUse_nil
  notDeleted := fun _ => by simp [init]

/-- A step of the child before it calls `destroy`, and before it deletes the runnable. -/
theorem Owned.child (h : s.Owned) {next : ChildStep} {mRunnable : Bool} {e : ThreadEntry}
    (hpast : s.child.past = false) (hnext : next.phase = .holds)
    (hdelete : e ≠ .deleteDelegate) (hdestroy : ∀ side, e ≠ .destroy side)
    (hrunnable : e = .deleteRunnable → next.past = true) :
    Owned { s with mRunnable := mRunnable, child := next, log := s.log ++ [e] } := by
  have hholds : s.child.phase = .holds := by
    cases hchild : s.child <;> simp [hchild, ChildStep.past, ChildStep.phase] at hpast ⊢
  have hphase : phase { s with mRunnable := mRunnable, child := next, log := s.log ++ [e] }
      = s.phase := by
    funext side
    cases side with
    | parent => rfl
    | child => exact hnext.trans hholds.symm
  refine ⟨?_, ?_, fun hnot => ?_⟩
  · rw [hphase]
    exact h.counted.plain .child hholds hdelete hdestroy
  · exact h.runnableLast.concat (fun hmem => absurd hmem (h.notDeleted hpast)) fun _ => trivial
  · rw [List.mem_append, List.mem_singleton]
    rintro (hmem | heq)
    · exact h.notDeleted hpast hmem
    · rw [hrunnable heq.symm] at hnot
      cases hnot

/-- A use of the delegate by the parent before it calls `destroy`. -/
theorem Owned.parent (h : s.Owned) {next : ParentStep} {mRunnable mJoinable : Bool}
    (hholds : s.parent.phase = .holds) (hnext : next.phase = .holds) :
    Owned { s with
      mRunnable := mRunnable, mJoinable := mJoinable, parent := next
      log := s.log ++ [.use .parent] } := by
  have hphase : phase { s with
      mRunnable := mRunnable, mJoinable := mJoinable, parent := next
      log := s.log ++ [.use .parent] } = s.phase := by
    funext side
    cases side with
    | parent => exact hnext.trans hholds.symm
    | child => rfl
  refine ⟨?_, ?_, fun hnot => ?_⟩
  · rw [hphase]
    exact h.counted.plain .parent hholds (by simp) (by simp)
  · exact h.runnableLast.concat (fun _ => ⟨rfl, by simp⟩) (by simp)
  · rw [List.mem_append, List.mem_singleton]
    exact fun hmem => h.notDeleted hnot (hmem.resolve_right (by simp))

/-- A step of the parent that does not touch the delegate. -/
theorem Owned.parent_goto (h : s.Owned) {next : ParentStep} (hnext : next.phase = s.parent.phase) :
    Owned { s with parent := next } := by
  have hphase : phase { s with parent := next } = s.phase := by
    funext side
    cases side with
    | parent => exact hnext
    | child => rfl
  exact ⟨by rw [hphase]; exact h.counted, h.runnableLast, h.notDeleted⟩

/-- A step of `destroy` uses no runnable. -/
theorem destroy_entry (mRefCount : Int) (side : ThreadSide) (d : DestroyStep) :
    (destroy mRefCount side d).2.2.usesRunnable = false ∧
      (destroy mRefCount side d).2.2 ≠ .deleteRunnable := by
  cases d <;> exact ⟨rfl, by simp [destroy]⟩

/-- The child calls `destroy`. -/
theorem Owned.child_destroy (h : s.Owned) {d : DestroyStep} (hchild : s.child = .destroy d) :
    Owned { s with
      mRefCount := (destroy s.mRefCount .child d).1
      child := (destroy s.mRefCount .child d).2.1.elim .returned .destroy
      log := s.log ++ [(destroy s.mRefCount .child d).2.2] } := by
  obtain ⟨huse, hne⟩ := destroy_entry s.mRefCount .child d
  refine ⟨h.counted.destroy .child ?_ ?_ rfl,
    h.runnableLast.concat (fun _ => ⟨huse, hne⟩) fun _ => trivial, fun hnot => ?_⟩
  · show s.child.phase = _
    rw [hchild]
    cases d <;> rfl
  · show ChildStep.phase (Option.elim _ _ _) = _
    cases (destroy s.mRefCount .child d).2.1 with
    | none => rfl
    | some next => cases next <;> rfl
  · change ChildStep.past (Option.elim _ _ _) = false at hnot
    cases hnext : (destroy s.mRefCount .child d).2.1 <;> rw [hnext] at hnot <;> cases hnot

/-- The parent calls `destroy`. -/
theorem Owned.parent_destroy (h : s.Owned) {d : DestroyStep} (hparent : s.parent = .destroy d) :
    Owned { s with
      mRefCount := (destroy s.mRefCount .parent d).1
      parent := (destroy s.mRefCount .parent d).2.1.elim .released .destroy
      log := s.log ++ [(destroy s.mRefCount .parent d).2.2] } := by
  obtain ⟨huse, hne⟩ := destroy_entry s.mRefCount .parent d
  refine ⟨h.counted.destroy .parent ?_ ?_ rfl,
    h.runnableLast.concat (fun _ => ⟨huse, hne⟩) fun _ => trivial, fun hnot => ?_⟩
  · show s.parent.phase = _
    rw [hparent]
    cases d <;> rfl
  · show ParentStep.phase (Option.elim _ _ _) = _
    cases (destroy s.mRefCount .parent d).2.1 with
    | none => rfl
    | some next => cases next <;> rfl
  · rw [List.mem_append, List.mem_singleton]
    exact fun hmem => h.notDeleted hnot (hmem.resolve_right hne.symm)

/-- Every step keeps the ownership. -/
theorem Owned.step {i : ThreadLabel} (h : s.Owned) (ht : s.step i = some t) : t.Owned := by
  cases i with
  | child again =>
      simp only [LocThreadSystem.step, threadMain] at ht
      cases hchild : s.child with
      | destroy d =>
          rw [hchild] at ht
          cases ht
          exact h.child_destroy hchild
      | returned =>
          rw [hchild] at ht
          cases ht
      | _ =>
          -- every other step of the child happens before it lets go
          have hpast : s.child.past = false := by rw [hchild]; rfl
          rw [hchild] at ht
          cases ht
          refine h.child hpast ?_ (by simp) (by simp) (by simp [ChildStep.past])
          first | rfl | (split <;> rfl)
  | parent =>
      simp only [LocThreadSystem.step, parentStep] at ht
      cases hparent : s.parent with
      | destroy d =>
          rw [hparent] at ht
          cases ht
          exact h.parent_destroy hparent
      | started =>
          rw [hparent] at ht
          cases ht
      | released =>
          rw [hparent] at ht
          cases ht
      | join =>
          rw [hparent] at ht
          dsimp only at ht
          -- the join waits for the child to return
          split at ht
          · cases ht
            exact h.parent_goto (by rw [hparent]; rfl)
          · cases ht
      | _ =>
          -- every other step of the parent happens while it holds the object
          have hholds : s.parent.phase = .holds := by rw [hparent]; rfl
          rw [hparent] at ht
          cases ht
          refine h.parent hholds ?_
          first | rfl | (split <;> rfl)
  | stop =>
      rcases call_cases ht with ⟨hparent, rfl⟩ | rfl
      · exact h.parent_goto (by rw [hparent]; rfl)
      · exact h
  | deleteThread =>
      rcases call_cases ht with ⟨hparent, rfl⟩ | rfl
      · exact h.parent_goto (by rw [hparent]; rfl)
      · exact h

/-! ### The runnable -/

/-- The child will delete the runnable, or has done so. Before the child reads `mRunnable`, that is
so as long as the parent has not cleared it. -/
structure Kept (s : LocThreadSystem) : Prop where
  unread : s.child = .readRunnable → s.mRunnable = true
  past : s.child.past = true → .deleteRunnable ∈ s.log

theorem kept_init (joinable : Bool) : (init joinable).Kept :=
  ⟨fun _ => rfl, fun h => by cases h⟩

/-- The child has the runnable. -/
theorem kept_of_midway (hne : s.child ≠ .readRunnable) (hpast : s.child.past = false) : s.Kept :=
  ⟨fun h => absurd h hne, fun h => by rw [hpast] at h; cases h⟩

/-- The child decides about the runnable with its first step. -/
theorem kept_child_iff (hs : s.Owned) {again : Bool} (ht : s.threadMain again = some t) :
    t.Kept ↔ s.Kept := by
  unfold threadMain at ht
  cases hchild : s.child with
  | readRunnable =>
      rw [hchild] at ht
      cases ht
      -- nothing has been deleted before the runnable is read
      have hmem : .deleteRunnable ∉ s.log := hs.notDeleted (by rw [hchild]; rfl)
      -- it goes on with the runnable, or straight to `destroy`
      cases hrunnable : s.mRunnable with
      | true =>
          refine iff_of_true (kept_of_midway ?_ rfl) ⟨fun _ => hrunnable, ?_⟩
          · simp
          · rw [hchild]
            exact fun h => by cases h
      | false =>
          refine iff_of_false (fun h => ?_) (fun h => ?_)
          · have hdeleted := h.past rfl
            rw [List.mem_append] at hdeleted
            exact hmem (hdeleted.resolve_right (by simp))
          · rw [h.unread hchild] at hrunnable
            cases hrunnable
  | deleteRunnable =>
      rw [hchild] at ht
      cases ht
      refine iff_of_true ⟨nofun, fun _ => by simp⟩ (kept_of_midway ?_ ?_)
      · simp [hchild]
      · rw [hchild]
        rfl
  | destroy d =>
      rw [hchild] at ht
      cases ht
      -- `destroy` logs no deletion of the runnable
      have hne := (destroy_entry s.mRefCount .child d).2
      constructor
      · refine fun h => ⟨fun hread => absurd (hchild.symm.trans hread) (by simp), fun _ => ?_⟩
        have hpast : ChildStep.past ((destroy s.mRefCount .child d).2.1.elim .returned .destroy)
            = true := by
          cases (destroy s.mRefCount .child d).2.1 <;> rfl
        exact (List.mem_append.mp (h.past hpast)).resolve_right fun hmem =>
          hne (List.mem_singleton.mp hmem).symm
      · refine fun h => ⟨fun hread => ?_, fun _ => ?_⟩
        · change (destroy s.mRefCount .child d).2.1.elim _ _ = _ at hread
          cases hnext : (destroy s.mRefCount .child d).2.1 <;> rw [hnext] at hread <;> cases hread
        · exact List.mem_append_left _ (h.past (by rw [hchild]; rfl))
  | returned =>
      rw [hchild] at ht
      cases ht
  | _ =>
      rw [hchild] at ht
      cases ht
      refine iff_of_true (kept_of_midway ?_ ?_) (kept_of_midway (by simp [hchild]) ?_)
      · first | (dsimp only; split <;> exact nofun) | exact nofun
      · first | rfl | (dsimp only; split <;> rfl)
      · rw [hchild]
        rfl

/-- The child and the history stay as they are, as far as the runnable goes. -/
theorem kept_congr (hchild : t.child = s.child) (hrunnable : t.mRunnable = s.mRunnable)
    (hlog : .deleteRunnable ∈ t.log ↔ .deleteRunnable ∈ s.log) : t.Kept ↔ s.Kept := by
  constructor
  · intro h
    exact ⟨by rw [← hchild, ← hrunnable]; exact h.unread, by rw [← hchild, ← hlog]; exact h.past⟩
  · intro h
    exact ⟨by rw [hchild, hrunnable]; exact h.unread, by rw [hchild, hlog]; exact h.past⟩

/-- A step of the parent keeps the runnable unless it clears `mRunnable` too early. -/
theorem kept_parent_iff (ht : s.parentStep = some t) : t.Kept ↔ s.Kept ∧ s.ReadFirst .parent := by
  have hreadFirst : s.parent ≠ .clearRunnable → s.ReadFirst .parent := fun hne _ h => absurd h hne
  -- any other entry is no deletion of the runnable
  have huse : ∀ e : ThreadEntry, e ≠ .deleteRunnable →
      (.deleteRunnable ∈ s.log ++ [e] ↔ .deleteRunnable ∈ s.log) := by
    intro e he
    rw [List.mem_append, List.mem_singleton]
    exact or_iff_left he.symm
  unfold parentStep at ht
  cases hparent : s.parent with
  | clearRunnable =>
      rw [hparent] at ht
      cases ht
      constructor
      · intro h
        -- the one step that can go wrong: the child may still have to read the runnable
        have hread : s.child ≠ .readRunnable := fun hread => by cases h.unread hread
        exact ⟨⟨fun h => absurd h hread, fun hpast => (huse _ (by simp)).mp (h.past hpast)⟩,
          fun _ _ => hread⟩
      · rintro ⟨h, hok⟩
        exact ⟨fun hread => absurd hread (hok rfl hparent),
          fun hpast => (huse _ (by simp)).mpr (h.past hpast)⟩
  | started =>
      rw [hparent] at ht
      cases ht
  | released =>
      rw [hparent] at ht
      cases ht
  | join =>
      rw [hparent] at ht
      dsimp only at ht
      rw [and_iff_left (hreadFirst (by simp [hparent]))]
      split at ht
      · cases ht
        exact kept_congr rfl rfl Iff.rfl
      · cases ht
  | destroy d =>
      rw [hparent] at ht
      cases ht
      rw [and_iff_left (hreadFirst (by simp [hparent]))]
      exact kept_congr rfl rfl (huse _ (destroy_entry s.mRefCount .parent d).2)
  | _ =>
      rw [hparent] at ht
      cases ht
      rw [and_iff_left (hreadFirst (by simp [hparent]))]
      exact kept_congr rfl rfl (huse _ (by simp))

/-- Every step keeps the runnable if and only if it meets the condition. -/
theorem kept_step_iff (hs : s.Owned) {i : ThreadLabel} (ht : s.step i = some t) :
    t.Kept ↔ s.Kept ∧ s.ReadFirst i := by
  cases i with
  | child again =>
      rw [and_iff_left (show s.ReadFirst (.child again) from fun h => by cases h)]
      exact kept_child_iff hs ht
  | parent => exact kept_parent_iff ht
  | stop =>
      rw [and_iff_left (show s.ReadFirst .stop from fun h => by cases h)]
      rcases call_cases ht with ⟨-, rfl⟩ | rfl <;> exact kept_congr rfl rfl Iff.rfl
  | deleteThread =>
      rw [and_iff_left (show s.ReadFirst .deleteThread from fun h => by cases h)]
      rcases call_cases ht with ⟨-, rfl⟩ | rfl <;> exact kept_congr rfl rfl Iff.rfl

/-- What the sides own is released. -/
theorem Owned.released (h : s.Owned) (hkept : s.Kept) : s.Released where
  runnable := fun hfinished =>
    h.runnableLast.count_eq_one rfl (hkept.past (by rw [hfinished.1]; rfl))
  delegate := fun hfinished => by
    rw [h.counted.deleted, if_pos]
    exact ⟨by show s.parent.phase = _; rw [hfinished.2]; rfl,
      by show s.child.phase = _; rw [hfinished.1]; rfl⟩
  runnableLast := fun before after hlog => (h.runnableLast before after hlog).2
  delegateLast := h.counted.last

/-- In every run in which both sides finish, what they share is released in every state if and only
if the parent does not clear `mRunnable` before the child has read it.

The child deletes the runnable that it has read. When it reads `NULL` it goes to its end, and the
parent, which has given the runnable away, does not delete it either. The reference count and the
thread itself are released in any order. -/
theorem along_released_iff (joinable : Bool) {labels : List ThreadLabel} {t : LocThreadSystem}
    (hrun : run step (init joinable) labels = some t) (hfinished : t.finished) :
    Along step Released (init joinable) labels ↔ Guarded step ReadFirst (init joinable) labels := by
  constructor
  · intro h
    have hreleased := h.last hrun
    have hkept : t.Kept := by
      refine ⟨fun hread => absurd (hfinished.1.symm.trans hread) (by simp), fun _ => ?_⟩
      rw [← List.count_pos_iff, hreleased.runnable hfinished]
      exact Nat.one_pos
    -- a run that is not guarded has lost the runnable
    rcases guarded_or_of_lost (P := fun s => s.Owned ∧ s.Kept) (Q := fun s => s.Owned ∧ ¬ s.Kept)
      (fun s i t hs hok ht => ⟨hs.1.step ht, (kept_step_iff hs.1 ht).mpr ⟨hs.2, hok⟩⟩)
      (fun s i t hs hok ht => ⟨hs.1.step ht, fun h => hok ((kept_step_iff hs.1 ht).mp h).2⟩)
      (fun s i t hs ht => ⟨hs.1.step ht, fun h => hs.2 ((kept_step_iff hs.1 ht).mp h).1⟩)
      labels _ t ⟨owned_init joinable, kept_init joinable⟩ hrun with hguarded | hlost
    · exact hguarded.1
    · exact absurd hkept hlost.2.2
  · refine Guarded.along (I := fun s => s.Owned ∧ s.Kept) (fun s hs => hs.1.released hs.2) ?_ labels
      _ ⟨owned_init joinable, kept_init joinable⟩
    intro s i t hs hok ht
    exact ⟨hs.1.step ht, (kept_step_iff hs.1 ht).mpr ⟨hs.2, hok⟩⟩

/-- A joinable thread whose `run` returns false after the first call, and which is stopped after
that. -/
def runOnce : List ThreadLabel :=
  [.parent, .parent] ++ List.replicate 11 (.child false) ++ [.stop] ++ List.replicate 6 .parent

theorem along_released_runOnce : Along step Released (init true) runOnce :=
  (along_released_iff true (t := (run step (init true) runOnce).get (by decide)) (by simp)
    (by decide)).mpr (by decide)

/-- A thread that is stopped before its first step. -/
def stoppedAtOnce : List ThreadLabel :=
  [.parent, .parent, .stop, .parent, .parent, .parent] ++ List.replicate 3 (.child false) ++
    List.replicate 4 .parent

/-- Nobody deletes the runnable. -/
theorem not_along_stoppedAtOnce : ¬ Along step Released (init true) stoppedAtOnce := by
  intro h
  have hlast := h.last (t := (run step (init true) stoppedAtOnce).get (by decide)) (by simp)
  exact absurd (hlast.runnable (by decide)) (by decide)

end LocThreadSystem

end LocHal.Util
