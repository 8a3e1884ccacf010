import Mathlib.Logic.Function.Basic
import Mathlib.Tactic.Common

/-!
# `LocHal.Lib.InversePair`: two partial maps that are inverse to each other

A dictionary that is read in both directions keeps two partial maps. They are inverse to each other
when each binding of one is a binding of the other. `bind` is a new binding of two unbound sides,
`rebind` repeats one that is there, and `unbind` removes one.

A side that is bound again elsewhere leaves its old binding behind in the other map. Such a stale
binding stays (`StaleBinding.bind`), whatever is bound on other sides later, and the maps are not
inverse (`StaleBinding.not_inverse`).

The lemmas hold for every two types. Nothing here names the program.
-/

set_option autoImplicit false

variable {α β : Type*}

/-- Each binding of one map is a binding of the other. -/
def InversePair (f : α → Option β) (g : β → Option α) : Prop := ∀ a b, f a = some b ↔ g b = some a

/-- The binding of `b` in the second map is not one of the first map. -/
def StaleBinding (f : α → Option β) (g : β → Option α) (b : β) : Prop :=
  ∃ a, g b = some a ∧ f a ≠ some b

variable {f : α → Option β} {g : β → Option α} {a : α} {b : β}

theorem StaleBinding.not_inverse (h : StaleBinding f g b) : ¬ InversePair f g := by
  obtain ⟨a, hg, hf⟩ := h
  exact fun hinv => hf ((hinv a b).mpr hg)

variable [DecidableEq α] [DecidableEq β]

/-- A new binding of two unbound sides. -/
theorem InversePair.bind (h : InversePair f g) (hf : f a = none) (hg : g b = none) :
    InversePair (Function.update f a (some b)) (Function.update g b (some a)) := by
  intro a' b'
  by_cases ha : a' = a
  · subst ha
    by_cases hb : b' = b
    · subst hb
      simp
    · have hnone : g b' ≠ some a' := by
        rw [Ne, ← h a' b', hf]
        exact nofun
      simp [hb, hnone, Ne.symm hb]
  · by_cases hb : b' = b
    · subst hb
      have hnone : f a' ≠ some b' := by
        rw [Ne, h a' b', hg]
        exact nofun
      simp [ha, hnone, Ne.symm ha]
    · simp [ha, hb, h a' b']

/-- A binding that is there already changes nothing. -/
theorem InversePair.rebind (h : InversePair f g) (hf : f a = some b) :
    Function.update f a (some b) = f ∧ Function.update g b (some a) = g :=
  ⟨hf ▸ Function.update_eq_self a f, (h a b).mp hf ▸ Function.update_eq_self b g⟩

/-- A binding is removed from both maps. -/
theorem InversePair.unbind (h : InversePair f g) (hf : f a = some b) :
    InversePair (Function.update f a none) (Function.update g b none) := by
  have hg : g b = some a := (h a b).mp hf
  intro a' b'
  by_cases ha : a' = a
  · subst ha
    by_cases hb : b' = b
    · subst hb
      simp
    · -- another binding of `a` would be the same one
      have hnone : g b' ≠ some a' := by
        intro hg'
        have hf' := (h a' b').mpr hg'
        exact hb (Option.some.inj (hf'.symm.trans hf))
      simp [hb, hnone]
  · by_cases hb : b' = b
    · subst hb
      have hnone : f a' ≠ some b' := by
        intro hf'
        have hg' := (h a' b').mp hf'
        exact ha (Option.some.inj (hg'.symm.trans hg))
      simp [ha, hnone]
    · simp [ha, hb, h a' b']

/-- A side that is bound to another one leaves a stale binding. -/
theorem InversePair.stale_bind {b' : β} (h : InversePair f g) (hf : f a = some b') (hb : b' ≠ b) :
    StaleBinding (Function.update f a (some b)) (Function.update g b (some a)) b' := by
  refine ⟨a, ?_, ?_⟩
  · rw [Function.update_of_ne hb]
    exact (h a b').mp hf
  · rw [Function.update_self]
    exact fun heq => hb (Option.some.inj heq).symm

/-- A stale binding stays when other sides are bound. -/
theorem StaleBinding.bind {b' : β} (h : StaleBinding f g b') (hb : b' ≠ b) :
    StaleBinding (Function.update f a (some b)) (Function.update g b (some a)) b' := by
  obtain ⟨a', hg, hf⟩ := h
  refine ⟨a', ?_, ?_⟩
  · rw [Function.update_of_ne hb]
    exact hg
  · by_cases ha : a' = a
    · subst ha
      rw [Function.update_self]
      exact fun heq => hb (Option.some.inj heq).symm
    · rw [Function.update_of_ne ha]
      exact hf
