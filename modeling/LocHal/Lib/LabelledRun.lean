import Mathlib.Data.List.Forall2
import Mathlib.Tactic.Common

/-!
# `LocHal.Lib.LabelledRun`: runs of a partial labelled machine

A machine is a partial step function `step : σ → ι → Option σ`. The label `i` names what
happens next (a call, a message that is processed, a step of a thread), and `step s i` is
`none` when `i` cannot happen in `s`. A nondeterministic system is such a machine with the
choice in the label.

`run` composes the steps of a label list. Two predicates speak about every position of a
run, and both are defined by recursion on the labels:

* `Along P`: every state that the run passes through satisfies `P`, the first state and the
  last state included;
* `Guarded ok`: every label is taken in a state where `ok` allows it.

The rules:

* `run_invariant`: an invariant of every step is an invariant of every run.
* `along_of_invariant`: a run stays in what such an invariant implies.
* `Guarded.run_invariant`: an invariant of the steps that `ok` allows is an invariant of
  every guarded run, and `Guarded.along` is its form for what the run passes through.
* `guarded_or_of_lost`: when a step that `ok` does not allow loses something for good, a run that
  is not guarded has lost it at the end.
* `Guarded.imp`: a condition that implies another one where an invariant holds.
* `guarded_congr`: conditions that agree in every state of a guarded run guard the same runs.
* `along_iff_guarded`: when `ok` is the exact condition under which one step keeps `P`, a
  run stays in `P` if and only if it is guarded. `along_iff_guarded_of_sim` is the same with a
  condition on an abstract machine that is run beside it, and `Guarded.along_iff_guarded` the same
  among the runs that already meet another condition.
* `along_iff_guarded_of_choice`: part of a label is a choice of the environment, such as the
  contents of memory that has been freed. When every choice has to keep `P`, the exact condition is
  one on the rest of the label: a single bad choice is enough to need it.
-/

set_option autoImplicit false

namespace LabelledRun

variable {σ ι : Type*}

section Defs
variable (step : σ → ι → Option σ)

/-- The state after the labels in order, or `none` when one of them is not enabled. -/
def run : σ → List ι → Option σ
  | s, [] => some s
  | s, i :: is => (step s i).bind fun t => run t is

/-- `P` holds in every state that the labels pass through. -/
def Along (P : σ → Prop) : σ → List ι → Prop
  | s, [] => P s
  | s, i :: is => P s ∧ ∀ t ∈ step s i, Along P t is

/-- Every label is taken in a state where `ok` allows it. -/
def Guarded (ok : σ → ι → Prop) : σ → List ι → Prop
  | _, [] => True
  | s, i :: is => ok s i ∧ ∀ t ∈ step s i, Guarded ok t is

/-- Whether a run is guarded can be computed. -/
instance decidableGuarded (ok : σ → ι → Prop) [∀ s i, Decidable (ok s i)] :
    ∀ (s : σ) (is : List ι), Decidable (Guarded step ok s is)
  | _, [] => inferInstanceAs (Decidable True)
  | s, i :: is =>
      have : ∀ t, Decidable (Guarded step ok t is) := fun t => decidableGuarded ok t is
      inferInstanceAs (Decidable (ok s i ∧ ∀ t ∈ step s i, Guarded step ok t is))

end Defs

variable {step : σ → ι → Option σ} {P Q : σ → Prop} {ok ok' : σ → ι → Prop}

theorem run_cons (s : σ) (i : ι) (is : List ι) :
    run step s (i :: is) = (step s i).bind fun t => run step t is := rfl

/-- A run of a nonempty label list starts with an enabled step. -/
theorem run_cons_eq_some {s t : σ} {i : ι} {is : List ι} :
    run step s (i :: is) = some t ↔ ∃ u, step s i = some u ∧ run step u is = some t := by
  rw [run_cons, Option.bind_eq_some_iff]

/-- Runs compose. -/
theorem run_append (s : σ) (is js : List ι) :
    run step s (is ++ js) = (run step s is).bind fun t => run step t js := by
  induction is generalizing s with
  | nil => rfl
  | cons i is ih =>
      rw [List.cons_append, run_cons, run_cons, Option.bind_assoc]
      exact congrArg _ (funext fun t => ih t)

/-- Runs compose, on the enabled side. -/
theorem run_append_of_run {s t : σ} {is js : List ι} (h : run step s is = some t) :
    run step s (is ++ js) = run step t js := by
  rw [run_append, h, Option.bind_some]

/-- A block of labels whose run leads from one state of a sequence to the next one can be repeated
any number of times. -/
theorem run_flatten_replicate {f : Nat → σ} {is : List ι}
    (hblock : ∀ k, run step (f k) is = some (f (k + 1))) :
    ∀ n k, run step (f k) (List.replicate n is).flatten = some (f (k + n)) := by
  intro n
  induction n with
  | zero => intro k; rfl
  | succ n ih =>
      intro k
      rw [List.replicate_succ, List.flatten_cons, run_append_of_run (hblock k), ih (k + 1)]
      congr 2
      omega

/-! ### The invariant rules -/

/-- An invariant of every step is an invariant of every run. -/
theorem run_invariant (hstep : ∀ s i t, P s → step s i = some t → P t) :
    ∀ (is : List ι) (s t : σ), P s → run step s is = some t → P t := by
  intro is
  induction is with
  | nil =>
      intro s t hs h
      cases h
      exact hs
  | cons i is ih =>
      intro s t hs h
      obtain ⟨u, hu, ht⟩ := run_cons_eq_some.mp h
      exact ih u t (hstep s i u hs hu) ht

/-- An invariant of the allowed steps is an invariant of every guarded run. -/
theorem Guarded.run_invariant
    (hstep : ∀ s i t, P s → ok s i → step s i = some t → P t) :
    ∀ (is : List ι) (s t : σ), P s → Guarded step ok s is → run step s is = some t → P t := by
  intro is
  induction is with
  | nil =>
      intro s t hs _ h
      cases h
      exact hs
  | cons i is ih =>
      intro s t hs hg h
      obtain ⟨u, hu, ht⟩ := run_cons_eq_some.mp h
      exact ih u t (hstep s i u hs hg.1 hu) (hg.2 u hu) ht

/-- A guarded run stays in what an invariant of the allowed steps implies. -/
theorem Guarded.along {I : σ → Prop} (hI : ∀ s, I s → P s)
    (hstep : ∀ s i t, I s → ok s i → step s i = some t → I t) :
    ∀ (is : List ι) (s : σ), I s → Guarded step ok s is → Along step P s is := by
  intro is
  induction is with
  | nil => intro s hs _; exact hI s hs
  | cons i is ih =>
      intro s hs hg
      exact ⟨hI s hs, fun t ht => ih t (hstep s i t hs hg.1 ht) (hg.2 t ht)⟩

/-- A run stays in what an invariant implies. -/
theorem along_of_invariant {I : σ → Prop} (hI : ∀ s, I s → P s)
    (hstep : ∀ s i t, I s → step s i = some t → I t) :
    ∀ (is : List ι) (s : σ), I s → Along step P s is := by
  intro is
  induction is with
  | nil => intro s hs; exact hI s hs
  | cons i is ih => intro s hs; exact ⟨hI s hs, fun t ht => ih t (hstep s i t hs ht)⟩

/-- A run is guarded and keeps `P`, or it is not guarded and ends in `Q`: the first step that is
not allowed leads into `Q`, and no step leads out of it. -/
theorem guarded_or_of_lost
    (hkeep : ∀ s i t, P s → ok s i → step s i = some t → P t)
    (hlose : ∀ s i t, P s → ¬ ok s i → step s i = some t → Q t)
    (hlost : ∀ s i t, Q s → step s i = some t → Q t) :
    ∀ (is : List ι) (s t : σ), P s → run step s is = some t →
      Guarded step ok s is ∧ P t ∨ ¬ Guarded step ok s is ∧ Q t := by
  intro is
  induction is with
  | nil =>
      intro s t hs h
      cases h
      exact Or.inl ⟨trivial, hs⟩
  | cons i is ih =>
      intro s t hs h
      obtain ⟨u, hu, ht⟩ := run_cons_eq_some.mp h
      by_cases hok : ok s i
      · rcases ih u t (hkeep s i u hs hok hu) ht with ⟨hg, hp⟩ | ⟨hg, hq⟩
        · refine Or.inl ⟨⟨hok, fun u' hu' => ?_⟩, hp⟩
          cases hu.symm.trans hu'
          exact hg
        · exact Or.inr ⟨fun hg' => hg (hg'.2 u hu), hq⟩
      · exact Or.inr ⟨fun hg => hok hg.1,
          run_invariant hlost is u t (hlose s i u hs hok hu) ht⟩

/-- The first state of a run that stays in `P` is in `P`. -/
theorem Along.head {s : σ} {is : List ι} (h : Along step P s is) : P s := by
  cases is with
  | nil => exact h
  | cons i is => exact h.1

/-- The last state of a run that stays in `P` is in `P`. -/
theorem Along.last : ∀ {is : List ι} {s t : σ},
    Along step P s is → run step s is = some t → P t := by
  intro is
  induction is with
  | nil =>
      intro s t h hr
      cases hr
      exact h
  | cons i is ih =>
      intro s t h hr
      obtain ⟨u, hu, ht⟩ := run_cons_eq_some.mp hr
      exact ih (h.2 u hu) ht

/-- A condition that every label of the list meets in every state. -/
theorem guarded_of_forall : ∀ {is : List ι} (s : σ), (∀ i ∈ is, ∀ s, ok s i) →
    Guarded step ok s is := by
  intro is
  induction is with
  | nil => intro s _; exact trivial
  | cons i is ih =>
      intro s h
      exact ⟨h i List.mem_cons_self s, fun t _ => ih t fun j hj => h j (List.mem_cons_of_mem i hj)⟩

/-- A condition that implies another one in every state of an invariant of the steps. -/
theorem Guarded.imp {I : σ → Prop} (himp : ∀ s i, I s → ok s i → ok' s i)
    (hstep : ∀ s i t, I s → step s i = some t → I t) :
    ∀ (is : List ι) (s : σ), I s → Guarded step ok s is → Guarded step ok' s is := by
  intro is
  induction is with
  | nil => intro s _ _; exact trivial
  | cons i is ih =>
      intro s hs h
      exact ⟨himp s i hs h.1, fun t ht => ih t (hstep s i t hs ht) (h.2 t ht)⟩

/-- Two conditions at once. -/
theorem Guarded.and : ∀ {is : List ι} {s : σ}, Guarded step ok s is → Guarded step ok' s is →
    Guarded step (fun s i => ok s i ∧ ok' s i) s is := by
  intro is
  induction is with
  | nil => intro s _ _; exact trivial
  | cons i is ih =>
      intro s h h'
      exact ⟨⟨h.1, h'.1⟩, fun t ht => ih (h.2 t ht) (h'.2 t ht)⟩

/-- Two conditions that say the same of every step that a guarded run can take. -/
theorem guarded_congr {I : σ → Prop} (hiff : ∀ s i, I s → (ok s i ↔ ok' s i))
    (hkeep : ∀ s i t, I s → ok s i → step s i = some t → I t) :
    ∀ (is : List ι) (s : σ), I s → (Guarded step ok s is ↔ Guarded step ok' s is) := by
  intro is
  induction is with
  | nil => intro s _; exact Iff.rfl
  | cons i is ih =>
      intro s hs
      constructor
      · rintro ⟨hok, hrest⟩
        refine ⟨(hiff s i hs).mp hok, fun t ht => ?_⟩
        exact (ih t (hkeep s i t hs hok ht)).mp (hrest t ht)
      · rintro ⟨hok', hrest⟩
        have hok : ok s i := (hiff s i hs).mpr hok'
        refine ⟨hok, fun t ht => ?_⟩
        exact (ih t (hkeep s i t hs hok ht)).mpr (hrest t ht)

/-- The exact-condition rule over two levels. `R` relates a state to one of an abstract machine
with the same labels, and `ok` speaks about the abstract states. When an allowed step keeps `R`,
and a step from a related state ends in `P` exactly when it is allowed, then a run stays in `P` if
and only if the abstract run is guarded. The induction is on the labels; the first label that is
not allowed is the first one after which `P` fails. -/
theorem along_iff_guarded_of_sim {τ : Type*} {step' : τ → ι → Option τ} {R : σ → τ → Prop}
    {okA : τ → ι → Prop} (hP : ∀ s a, R s a → P s)
    (hkeep : ∀ s a i t, R s a → okA a i → step s i = some t → ∃ b, step' a i = some b ∧ R t b)
    (hexact : ∀ s a i t, R s a → step s i = some t → P t → okA a i)
    (henabled : ∀ s a i, R s a → step s i = none → okA a i ∧ step' a i = none) :
    ∀ (is : List ι) (s : σ) (a : τ), R s a →
      (Along step P s is ↔ Guarded step' okA a is) := by
  intro is
  induction is with
  | nil =>
      intro s a hs
      exact ⟨fun _ => trivial, fun _ => hP s a hs⟩
  | cons i is ih =>
      intro s a hs
      constructor
      · rintro ⟨-, hrest⟩
        cases hstep : step s i with
        | none =>
            obtain ⟨hok, hnone⟩ := henabled s a i hs hstep
            exact ⟨hok, fun b hb => by simp [hnone] at hb⟩
        | some u =>
            have hu := hrest u hstep
            have hok : okA a i := hexact s a i u hs hstep hu.head
            obtain ⟨b, hb, hrel⟩ := hkeep s a i u hs hok hstep
            refine ⟨hok, fun b' hb' => ?_⟩
            cases hb.symm.trans hb'
            exact (ih u b hrel).mp hu
      · rintro ⟨hok, hrest⟩
        refine ⟨hP s a hs, fun t ht => ?_⟩
        obtain ⟨b, hb, hrel⟩ := hkeep s a i t hs hok ht
        exact (ih t b hrel).mpr (hrest b hb)

/-- The exact-condition rule. `I` is what the steps need beyond `P`. When an allowed step
keeps `I`, and a step from an `I`-state ends in `P` exactly when it is allowed, then a run
from an `I`-state stays in `P` if and only if it is guarded. -/
theorem along_iff_guarded {I : σ → Prop} (hI : ∀ s, I s → P s)
    (hkeep : ∀ s i t, I s → ok s i → step s i = some t → I t)
    (hexact : ∀ s i t, I s → step s i = some t → P t → ok s i)
    (henabled : ∀ s i, I s → step s i = none → ok s i) :
    ∀ (is : List ι) (s : σ), I s → (Along step P s is ↔ Guarded step ok s is) := by
  intro is s hs
  -- the machine is its own abstraction
  refine along_iff_guarded_of_sim (R := fun s a => s = a ∧ I s) ?_ ?_ ?_ ?_ is s s ⟨rfl, hs⟩
  · rintro s a ⟨-, hs⟩
    exact hI s hs
  · rintro s a i t ⟨rfl, hs⟩ hok ht
    exact ⟨t, ht, rfl, hkeep s i t hs hok ht⟩
  · rintro s a i t ⟨rfl, hs⟩ ht hP
    exact hexact s i t hs ht hP
  · rintro s a i ⟨rfl, hs⟩ hnone
    exact ⟨henabled s i hs hnone, hnone⟩

/-- The exact-condition rule for runs that already meet a condition `base`: the steps are only
looked at where it allows them. -/
theorem Guarded.along_iff_guarded {I : σ → Prop} {base : σ → ι → Prop} (hI : ∀ s, I s → P s)
    (hkeep : ∀ s i t, I s → base s i → ok s i → step s i = some t → I t)
    (hexact : ∀ s i t, I s → base s i → step s i = some t → P t → ok s i)
    (henabled : ∀ s i, I s → step s i = none → ok s i) :
    ∀ (is : List ι) (s : σ), I s → Guarded step base s is →
      (Along step P s is ↔ Guarded step ok s is) := by
  intro is
  induction is with
  | nil =>
      intro s hs _
      exact ⟨fun _ => trivial, fun _ => hI s hs⟩
  | cons i is ih =>
      rintro s hs ⟨hbase, hguard⟩
      constructor
      · rintro ⟨-, hrest⟩
        have hok : ok s i := by
          cases hstep : step s i with
          | none => exact henabled s i hs hstep
          | some u => exact hexact s i u hs hbase hstep (hrest u hstep).head
        refine ⟨hok, fun t ht => ?_⟩
        exact (ih t (hkeep s i t hs hbase hok ht) (hguard t ht)).mp (hrest t ht)
      · rintro ⟨hok, hrest⟩
        refine ⟨hI s hs, fun t ht => ?_⟩
        exact (ih t (hkeep s i t hs hbase hok ht) (hguard t ht)).mpr (hrest t ht)

/-- The exact-condition rule when the environment chooses. `R` relates the labels that differ in
the choice only. When a step from an `I`-state ends in `P` for all choices only if it is allowed,
then the runs of all choices stay in `P` if and only if all of them are guarded. The induction is on
the labels; the choices of the later labels are still free when the first one is judged. -/
theorem along_iff_guarded_of_choice {I : σ → Prop} {R : ι → ι → Prop} (hrefl : ∀ i, R i i)
    (hI : ∀ s, I s → P s) (hkeep : ∀ s i t, I s → ok s i → step s i = some t → I t)
    (hexact : ∀ s i, I s → (∀ j, R i j → ∀ t, step s j = some t → P t) →
      ∀ j, R i j → ok s j)
    (is : List ι) (s : σ) (hs : I s) :
    (∀ js, List.Forall₂ R is js → Along step P s js) ↔
      ∀ js, List.Forall₂ R is js → Guarded step ok s js := by
  constructor
  · induction is generalizing s with
    | nil =>
        intro _ js hjs
        cases hjs
        exact trivial
    | cons i is ih =>
        intro h js hjs
        obtain ⟨j, js, hj, hrest, rfl⟩ := List.forall₂_cons_left_iff.mp hjs
        have hnext : ∀ k, R i k → ∀ t, step s k = some t → P t := fun k hk t ht =>
          ((h (k :: is) (.cons hk (List.forall₂_same.mpr fun i _ => hrefl i))).2 t ht).head
        have hok : ok s j := hexact s i hs hnext j hj
        refine ⟨hok, fun t ht => ih t (hkeep s j t hs hok ht) (fun ks hks => ?_) js hrest⟩
        exact (h (j :: ks) (.cons hj hks)).2 t ht
  · exact fun h js hjs => (h js hjs).along hI hkeep js s hs

end LabelledRun
