import LocHal.Recovery.BmTables
import Mathlib.Data.Nat.Find

/-!
# `LocHal.Recovery.BmSearch`: the search for the version of the modem

`bm_search` compares the window from its end. After a mismatch it moves on by the greater of two
table entries. The first loop of `bm_make_delta2` puts the next border one place too far when it
does not begin at the offset itself, and then the window is moved over an occurrence at the border.

`bmSearch_eq_iff` says for which patterns the search is right on every text: each offset with such a
border gets another entry by the second loop. That leaves few of the patterns that overlap
themselves (`safePattern_iff`): a pattern is safe if it has no border, or if it repeats one
character, or if it is so long that no text holds the miss. The pattern that `get_modem_version`
looks for has no border (`bmSearch_modemVerStr`).

`bmSearch_advances` holds for every pattern: the search stays within its arrays, each mismatch moves
the window on, and the search ends.

The tables are those of `LocHal.Recovery.BmTables`, and the general facts about borders, shifts and
occurrences those of the library. A pass of the outer loop either finds the pattern or moves the
window on: `pass_mismatch` and `pass_occursAt` say which, in terms of the tables. For a safe pattern
neither entry moves the window over an occurrence (`not_occursAt_of_bad`, `not_occursAt_of_good`),
so the search finds what the naive search finds (`searchLoop_spec`). For another one, `missedText`
is the text in which the occurrence at the border is missed (`bmSearch_missedText`).
-/

set_option autoImplicit false

namespace LocHal.Recovery

open CheckedArray StringSearch

/-- `INT_MAX`. -/
def intMax : Int := 2147483647

/-- An addition of `int`s. There is no result when it overflows. -/
def addInt (a b : Int) : Option Int :=
  if a + b ≤ intMax then some (a + b) else none

/-- `delta1` and `delta2` of `bm_search`, with what is in them before they are filled. -/
structure Tables (pat : List UInt8) where
  delta1 : List Int
  delta2 : List Int
  delta1_length : delta1.length = alphabetLen
  delta2_length : delta2.length = pat.length

/-- Tables that are all 0. -/
def Tables.zero (pat : List UInt8) : Tables pat :=
  ⟨List.replicate alphabetLen 0, List.replicate pat.length 0, List.length_replicate,
    List.length_replicate⟩

/-- The inner loop of `bm_search`. -/
def compareLoop (str pat : List UInt8) : Nat → Int → Int → Option (Int × Int)
  | 0, _, _ => none
  | fuel + 1, i, j =>
      if 0 ≤ j then do
        let a ← read str i
        let b ← read pat j
        if a = b then compareLoop str pat fuel (i - 1) (j - 1) else some (i, j)
      else some (i, j)

/-- The outer loop of `bm_search`. The result is an offset in `str`, or `NULL`. -/
def searchLoop (str pat : List UInt8) (delta1 delta2 : List Int) :
    Nat → Int → Option (Option Int)
  | 0, _ => none
  | fuel + 1, i =>
      if i < str.length then do
        let (i, j) ← compareLoop str pat (pat.length + 1) i (pat.length - 1)
        if j < 0 then some (some (i + 1))
        else
          let c ← read str i
          let bad ← read delta1 c.toNat
          let good ← read delta2 j
          let i ← addInt i (max bad good)
          searchLoop str pat delta1 delta2 fuel i
      else some none

/-- What a pass of the outer loop ends with: the result, or the next end of the window. -/
inductive Pass where
  | found (offset : Int)
  | moved (i : Int)
  deriving DecidableEq, Repr

/-- A pass of the outer loop, for the window that ends at `i`. -/
def pass (str pat : List UInt8) (delta1 delta2 : List Int) (i : Int) : Option Pass := do
  let (i, j) ← compareLoop str pat (pat.length + 1) i (pat.length - 1)
  if j < 0 then some (.found (i + 1))
  else
    let c ← read str i
    let bad ← read delta1 c.toNat
    let good ← read delta2 j
    let i ← addInt i (max bad good)
    some (.moved i)

/-- The ends of the windows that the outer loop comes to: the first window, and the one after a pass
that has found nothing, as long as it ends within the text. -/
inductive WindowEnd (str pat : List UInt8) (delta1 delta2 : List Int) : Int → Prop
  | first : WindowEnd str pat delta1 delta2 (pat.length - 1)
  | moved {i i' : Int} (hi : WindowEnd str pat delta1 delta2 i) (hlt : i < str.length)
      (hpass : pass str pat delta1 delta2 i = some (.moved i')) :
      WindowEnd str pat delta1 delta2 i'

/-- `bm_search`. -/
def bmSearch (str pat : List UInt8) (tables : Tables pat) : Option (Option Int) := do
  let delta1 ← bmMakeDelta1 tables.delta1 pat
  let delta2 ← bmMakeDelta2 tables.delta2 pat
  if pat.length = 0 then some (some 0)
  else searchLoop str pat delta1 delta2 (str.length + 1) (pat.length - 1)

/-- `MODEM_VER_STR`. -/
def modemVerStr : List UInt8 :=
  [84, 105, 109, 101, 95, 83, 116, 97, 109, 112, 34, 58, 32, 34]

/-! ### One window -/

variable {str pat : List UInt8} {delta1 delta2 : List Int} {w p q d s : Nat}

/-- What the comparison of the window at `w` ends with. -/
inductive Compared (str pat : List UInt8) (w : Nat) : Int × Int → Prop
  | occurs (h : OccursAt pat str w) : Compared str pat w (w - 1, -1)
  | mismatch (p : Nat) (h : Mismatch pat str w p) : Compared str pat w (w + p, p)

/-- The comparison of the first `m` characters of a window that agrees behind them. -/
theorem compareLoop_spec {fuel m : Nat} (hw : w + pat.length ≤ str.length) (hm : m ≤ pat.length)
    (hfuel : m < fuel) (hagrees : ∀ j, m ≤ j → j < pat.length → str[w + j]? = pat[j]?) :
    ∃ ij, compareLoop str pat fuel ((w : Int) + m - 1) ((m : Int) - 1) = some ij ∧
      Compared str pat w ij := by
  induction m generalizing fuel with
  | zero =>
      obtain ⟨fuel, rfl⟩ := Nat.exists_eq_succ_of_ne_zero (Nat.ne_of_gt hfuel)
      refine ⟨(w - 1, -1), ?_, .occurs fun j hj => hagrees j (Nat.zero_le j) hj⟩
      rw [compareLoop, if_neg (by omega)]
      congr 2
  | succ m ih =>
      obtain ⟨fuel, rfl⟩ := Nat.exists_eq_succ_of_ne_zero (show fuel ≠ 0 by omega)
      have ha : str[w + m]? = some (str[w + m]) := List.getElem?_eq_getElem _
      have hb : pat[m]? = some (pat[m]) := List.getElem?_eq_getElem _
      rw [show (w : Int) + (m + 1 : Nat) - 1 = ((w + m : Nat) : Int) by omega,
        show ((m + 1 : Nat) : Int) - 1 = ((m : Nat) : Int) by omega, compareLoop,
        if_pos (Int.natCast_nonneg m), read_of_getElem? ha, read_of_getElem? hb]
      simp only [Option.bind_eq_bind, Option.bind_some]
      by_cases heq : str[w + m] = pat[m]
      · -- one more character agrees
        rw [if_pos heq, Int.natCast_add]
        refine ih (by omega) (by omega) fun j hj hjn => ?_
        rcases Nat.eq_or_lt_of_le hj with rfl | hlt
        · rw [ha, hb, heq]
        · exact hagrees j hlt hjn
      · rw [if_neg heq]
        refine ⟨_, rfl, .mismatch m ⟨hm, by omega, fun j hj hjn => hagrees j hj hjn, ?_⟩⟩
        rw [ha, hb]
        exact fun h => heq (Option.some.inj h)

/-- The comparison of a whole window. -/
theorem compareLoop_window (hw : w + pat.length ≤ str.length) :
    ∃ ij, compareLoop str pat (pat.length + 1) ((w : Int) + pat.length - 1) (pat.length - 1)
      = some ij ∧ Compared str pat w ij :=
  compareLoop_spec hw (Nat.le_refl _) (Nat.lt_succ_self _) fun _ hj hjn =>
    absurd hjn (Nat.not_lt.mpr hj)

/-- What the two tables are when they are filled. -/
structure Filled (pat : List UInt8) (delta1 delta2 : List Int) : Prop where
  bad : ∀ c, Delta1Entry pat (pat.length - 1) delta1 c
  good : Delta2 pat 1 delta2

/-- After a mismatch at `p` the window moves on by `d`: by the shift of the offset, or further when
the entry of the character says so. -/
inductive Moves (str pat : List UInt8) (w p d : Nat) : Prop
  | intro (c : UInt8) (v shift : Nat) (hc : str[w + p]? = some c) (hle : v ≤ pat.length)
      (hbad : ∀ k < pat.length - 1, pat.length - 1 < k + v → pat[k]? ≠ some c)
      (hshift : Shift pat 1 p shift)
      (hd : d + (pat.length - 1 - p) = max v (shift + (pat.length - 1 - p)))

/-- A shift is not longer than the pattern. -/
theorem shift_le (h : Shift pat 1 p s) (hp : p < pat.length) : s ≤ pat.length := by
  cases h with
  | reappears hm hs hleast =>
      have hle := hs.le
      omega
  | lastPrefix hnone hl =>
      cases hl with
      | border q hle hlt hborder hleast => exact hlt
      | none hnone => omega

theorem shift_pos (h : Shift pat 1 p s) (hp : p < pat.length) : 0 < s := by
  cases h with
  | reappears hm hs hleast => exact hs.pos
  | lastPrefix hnone hl =>
      cases hl with
      | border q hle hlt hborder hleast => exact Nat.succ_pos q
      | none hnone =>
          -- the whole pattern is a border, so `p` is not 0
          rcases Nat.eq_zero_or_pos p with rfl | hpos
          · exact absurd (border_zero pat) (hnone 0 (Nat.le_refl 0) hp)
          · omega

/-- The outer loop is its passes. -/
theorem searchLoop_succ (str pat : List UInt8) (delta1 delta2 : List Int) (fuel : Nat) (i : Int) :
    searchLoop str pat delta1 delta2 (fuel + 1) i =
      if i < str.length then
        (pass str pat delta1 delta2 i).bind fun
          | .found offset => some (some offset)
          | .moved i => searchLoop str pat delta1 delta2 fuel i
      else some none := by
  rw [searchLoop]
  unfold pass
  simp only [Option.bind_eq_bind, Option.bind_assoc]
  congr 2
  funext ij
  split
  · rfl
  · simp only [Option.bind_assoc, Option.bind_some]

theorem pass_mismatch (h : Mismatch pat str w p) (hfilled : Filled pat delta1 delta2)
    (hw : w + pat.length ≤ str.length) (hfits : (str.length + 2 * pat.length : Nat) ≤ intMax) :
    ∃ d, Moves str pat w p d ∧
      pass str pat delta1 delta2 ((w : Int) + pat.length - 1)
        = some (.moved (((w + d : Nat) : Int) + pat.length - 1)) := by
  have hp := h.lt
  obtain ⟨ij, hcompare, hij⟩ := compareLoop_window hw
  have hc : str[w + p]? = some (str[w + p]) := List.getElem?_eq_getElem _
  obtain ⟨v, hv, hle, hbad⟩ := hfilled.bad (str[w + p])
  obtain ⟨shift, hshift, hgood⟩ := hfilled.good.entry p hp
  have hshiftLe := shift_le hshift hp
  have hshiftPos := shift_pos hshift hp
  have hread : read str ((w : Int) + p) = some (str[w + p]) := by
    rw [← Int.natCast_add]
    exact read_of_getElem? hc
  have hadd : addInt ((w : Int) + p) (max (v : Int) ((shift + (pat.length - 1 - p) : Nat) : Int))
      = some (((w + (max v (shift + (pat.length - 1 - p)) - (pat.length - 1 - p)) : Nat) : Int)
        + pat.length - 1) := by
    unfold addInt
    rw [if_pos (by omega)]
    congr 1
    omega
  refine ⟨max v (shift + (pat.length - 1 - p)) - (pat.length - 1 - p),
    ⟨_, v, shift, hc, hle, hbad, hshift, by omega⟩, ?_⟩
  rw [pass, hcompare]
  cases hij with
  | occurs hoccurs => exact absurd hoccurs h.not_occursAt
  | mismatch p' h' =>
      obtain rfl := h.unique h'
      simp only [Option.bind_eq_bind, Option.bind_some]
      rw [if_neg (by omega), hread]
      simp only [Option.bind_some]
      rw [read_of_getElem? hv, read_of_getElem? hgood]
      simp only [Option.bind_some]
      rw [hadd, Option.bind_some]

/-- A window at which the pattern occurs is the result. -/
theorem pass_occursAt (h : OccursAt pat str w) (hw : w + pat.length ≤ str.length) :
    pass str pat delta1 delta2 ((w : Int) + pat.length - 1) = some (.found w) := by
  obtain ⟨ij, hcompare, hij⟩ := compareLoop_window hw
  rw [pass, hcompare]
  cases hij with
  | occurs _ =>
      simp only [Option.bind_eq_bind, Option.bind_some]
      rw [if_pos (by decide)]
      congr 2
      omega
  | mismatch p h' => exact absurd h h'.not_occursAt

theorem searchLoop_mismatch (h : Mismatch pat str w p) (hfilled : Filled pat delta1 delta2)
    (hw : w + pat.length ≤ str.length) (hfits : (str.length + 2 * pat.length : Nat) ≤ intMax)
    (fuel : Nat) :
    ∃ d, Moves str pat w p d ∧
      searchLoop str pat delta1 delta2 (fuel + 1) ((w : Int) + pat.length - 1)
        = searchLoop str pat delta1 delta2 fuel (((w + d : Nat) : Int) + pat.length - 1) := by
  have hp := h.lt
  obtain ⟨d, hd, hpass⟩ := pass_mismatch h hfilled hw hfits
  refine ⟨d, hd, ?_⟩
  rw [searchLoop_succ, if_pos (by omega), hpass, Option.bind_some]

theorem searchLoop_occursAt (h : OccursAt pat str w) (hw : w + pat.length ≤ str.length)
    (hpat : pat ≠ []) (fuel : Nat) :
    searchLoop str pat delta1 delta2 (fuel + 1) ((w : Int) + pat.length - 1)
      = some (some (w : Int)) := by
  have hpos := List.length_pos_iff.mpr hpat
  rw [searchLoop_succ, if_pos (by omega), pass_occursAt h hw, Option.bind_some]

/-! ### What a move skips -/

/-- Every offset whose next border does not begin at it gets another entry by the second loop. At
such an offset `p` the first loop has put a shift that goes past the border at `q`. The second loop
writes over it if what follows `p` stands somewhere earlier in the pattern behind another character
(`Reappears`). An offset may be left out for which no text is long enough: the miss takes `q`
characters and three times the pattern. -/
def SafePattern (pat : List UInt8) : Prop :=
  ∀ p q, p < q → q < pat.length → Border pat q → (∀ q', p ≤ q' → q' < q → ¬ Border pat q') →
    (∃ s, Reappears pat p s) ∨ intMax < (q + 3 * pat.length : Nat)

/-- The entry of the character skips no occurrence. -/
theorem not_occursAt_of_bad {c : UInt8} {v : Nat} (h : Mismatch pat str w p)
    (hc : str[w + p]? = some c) (hle : v ≤ pat.length)
    (hbad : ∀ k < pat.length - 1, pat.length - 1 < k + v → pat[k]? ≠ some c) (hpos : 0 < s)
    (hs : s + (pat.length - 1 - p) < v) : ¬ OccursAt pat str (w + s) := by
  have hp := h.lt
  intro hoccurs
  have heq := h.getElem?_eq hoccurs (by omega)
  rw [hc] at heq
  exact hbad (p - s) (by omega) (by omega) heq

/-- The shift of the offset skips none either when the pattern is safe. -/
theorem not_occursAt_of_good {shift : Nat} (h : Mismatch pat str w p) (hsafe : SafePattern pat)
    (hfits : (str.length + 2 * pat.length : Nat) ≤ intMax) (hshift : Shift pat 1 p shift)
    (hpos : 0 < s) (hs : s < shift) : ¬ OccursAt pat str (w + s) := by
  have hp := h.lt
  intro hoccurs
  have hpat : pat ≠ [] := List.length_pos_iff.mp (by omega)
  have hlength := hoccurs.length_le hpat
  cases hshift with
  | reappears hm hreappears hleast =>
      have hle := hreappears.le
      have := hleast s hpos (h.reappears hoccurs hpos (by omega))
      omega
  | lastPrefix hnone hl =>
      rcases Nat.lt_or_ge p s with hlt | hle
      · have hborder := h.border hoccurs hlt
        cases hl with
        | border q hle' hlt' hborder' hleast =>
            -- only the border itself could be skipped
            have heq : s = q := by
              rcases Nat.lt_or_ge s q with hsq | hsq
              · exact absurd hborder (hleast s (Nat.le_of_lt hlt) hsq)
              · omega
            subst heq
            rcases hsafe p s hlt hlt' hborder' hleast with ⟨s', hs'⟩ | hshort
            · exact hnone s' hs'.pos hs'
            · omega
        | none hnone' => exact hnone' s (Nat.le_of_lt hlt) (by omega) hborder
      · exact hnone s hpos (h.reappears hoccurs hpos hle)

theorem moves_skip (h : Mismatch pat str w p) (hsafe : SafePattern pat)
    (hfits : (str.length + 2 * pat.length : Nat) ≤ intMax) (hd : Moves str pat w p d) :
    ∀ s < d, ¬ OccursAt pat str (w + s) := by
  intro s hs
  obtain ⟨c, v, shift, hc, hle, hbad, hshift, hd⟩ := hd
  rcases Nat.eq_zero_or_pos s with rfl | hpos
  · exact h.not_occursAt
  · rcases Nat.lt_or_ge s shift with hlt | hge
    · exact not_occursAt_of_good h hsafe hfits hshift hpos hlt
    · exact not_occursAt_of_bad h hc hle hbad hpos (by omega)

theorem moves_pos (hp : p < pat.length) (hd : Moves str pat w p d) : 0 < d := by
  obtain ⟨c, v, shift, -, -, -, hshift, hd⟩ := hd
  have hpos := shift_pos hshift hp
  omega

/-! ### The search -/

/-- Every window agrees with the pattern or differs from it at an offset. -/
theorem occursAt_or_mismatch (hw : w + pat.length ≤ str.length) :
    OccursAt pat str w ∨ ∃ p, Mismatch pat str w p := by
  obtain ⟨ij, -, hij⟩ := compareLoop_window hw
  cases hij with
  | occurs h => exact Or.inl h
  | mismatch p h => exact Or.inr ⟨p, h⟩

theorem searchLoop_spec {fuel : Nat} (hfilled : Filled pat delta1 delta2) (hpat : pat ≠ [])
    (hsafe : SafePattern pat) (hfits : (str.length + 2 * pat.length : Nat) ≤ intMax)
    (hnone : NoneBefore pat str w) (hfuel : str.length < fuel + w) (hleft : 0 < fuel) :
    searchLoop str pat delta1 delta2 fuel ((w : Int) + pat.length - 1)
      = some ((naiveSearch pat str).map Int.ofNat) := by
  have hpos := List.length_pos_iff.mpr hpat
  induction fuel generalizing w with
  | zero => exact absurd hleft (Nat.lt_irrefl 0)
  | succ fuel ih =>
      by_cases hw : w + pat.length ≤ str.length
      · rcases occursAt_or_mismatch hw with hoccurs | ⟨p, hmismatch⟩
        · rw [searchLoop_occursAt hoccurs hw hpat, hnone.naiveSearch_eq_some hpat hoccurs]
          rfl
        · obtain ⟨d, hd, hstep⟩ := searchLoop_mismatch hmismatch hfilled hw hfits fuel
          rw [hstep]
          have hdpos := moves_pos hmismatch.lt hd
          exact ih (hnone.advance (moves_skip hmismatch hsafe hfits hd)) (by omega) (by omega)
      · rw [searchLoop, if_neg (by omega), hnone.naiveSearch_eq_none hpat (by omega)]
        rfl

/-- The tables are filled, whatever was in them. -/
theorem exists_filled (tables : Tables pat) (hpat : pat ≠ []) (hzero : (0 : UInt8) ∉ pat) :
    ∃ delta1 delta2, bmMakeDelta1 tables.delta1 pat = some delta1 ∧
      bmMakeDelta2 tables.delta2 pat = some delta2 ∧ Filled pat delta1 delta2 := by
  obtain ⟨delta1, hdelta1, -, hbad⟩ := @bmMakeDelta1_spec pat _ tables.delta1_length
  obtain ⟨delta2, hdelta2, hgood⟩ := bmMakeDelta2_spec tables.delta2_length hpat hzero
  exact ⟨delta1, delta2, hdelta1, hdelta2, hbad, hgood⟩

/-- The search begins with the filled tables and the first window. -/
theorem bmSearch_of_filled (str : List UInt8) {tables : Tables pat} (hpat : pat ≠ [])
    (hdelta1 : bmMakeDelta1 tables.delta1 pat = some delta1)
    (hdelta2 : bmMakeDelta2 tables.delta2 pat = some delta2) :
    bmSearch str pat tables
      = searchLoop str pat delta1 delta2 (str.length + 1) ((0 : Nat) + pat.length - 1) := by
  have hpos := List.length_pos_iff.mpr hpat
  unfold bmSearch
  rw [hdelta1, hdelta2]
  simp only [Option.bind_eq_bind, Option.bind_some]
  rw [if_neg (by omega), Int.natCast_zero, Int.zero_add]

/-- The tables are filled before the search. -/
theorem bmSearch_eq (str : List UInt8) (tables : Tables pat) (hpat : pat ≠ [])
    (hzero : (0 : UInt8) ∉ pat) :
    ∃ delta1 delta2, Filled pat delta1 delta2 ∧
      bmSearch str pat tables
        = searchLoop str pat delta1 delta2 (str.length + 1) ((0 : Nat) + pat.length - 1) := by
  obtain ⟨delta1, delta2, hdelta1, hdelta2, hfilled⟩ := exists_filled tables hpat hzero
  exact ⟨delta1, delta2, hfilled, bmSearch_of_filled str hpat hdelta1 hdelta2⟩

/-- The search is right on every text when the pattern is safe. -/
theorem bmSearch_of_safe (str : List UInt8) (tables : Tables pat) (hpat : pat ≠ [])
    (hzero : (0 : UInt8) ∉ pat) (hsafe : SafePattern pat)
    (hfits : (str.length + 2 * pat.length : Nat) ≤ intMax) :
    bmSearch str pat tables = some ((naiveSearch pat str).map Int.ofNat) := by
  obtain ⟨delta1, delta2, hfilled, heq⟩ := bmSearch_eq str tables hpat hzero
  rw [heq]
  exact searchLoop_spec hfilled hpat hsafe hfits (noneBefore_zero pat str) (by omega) (by omega)

/-! ### The window moves on -/

/-- A pass has a result, and the next window ends further on. -/
theorem pass_advances (hfilled : Filled pat delta1 delta2) (hw : w + pat.length ≤ str.length)
    (hfits : (str.length + 2 * pat.length : Nat) ≤ intMax) :
    pass str pat delta1 delta2 ((w : Int) + pat.length - 1) = some (.found w) ∨
      ∃ d, 0 < d ∧ pass str pat delta1 delta2 ((w : Int) + pat.length - 1)
        = some (.moved (((w + d : Nat) : Int) + pat.length - 1)) := by
  rcases occursAt_or_mismatch hw with hoccurs | ⟨p, hmismatch⟩
  · exact Or.inl (pass_occursAt hoccurs hw)
  · obtain ⟨d, hd, hpass⟩ := pass_mismatch hmismatch hfilled hw hfits
    exact Or.inr ⟨d, moves_pos hmismatch.lt hd, hpass⟩

/-- Every window begins at an offset of the text. -/
theorem exists_eq_of_windowEnd {i : Int} (h : WindowEnd str pat delta1 delta2 i)
    (hfilled : Filled pat delta1 delta2)
    (hfits : (str.length + 2 * pat.length : Nat) ≤ intMax) :
    ∃ w : Nat, i = (w : Int) + pat.length - 1 := by
  induction h with
  | first => exact ⟨0, by omega⟩
  | moved hi hlt hpass ih =>
      obtain ⟨w, rfl⟩ := ih
      rcases pass_advances hfilled (w := w) (by omega) hfits with hfound | ⟨d, -, hmoved⟩
      · rw [hfound] at hpass
        cases hpass
      · rw [hmoved] at hpass
        cases hpass
        exact ⟨w + d, rfl⟩

/-- The distance of the window from the end of the text is fuel enough. -/
theorem exists_searchLoop {fuel : Nat} (hfilled : Filled pat delta1 delta2) (hpat : pat ≠ [])
    (hfits : (str.length + 2 * pat.length : Nat) ≤ intMax) (hfuel : str.length < fuel + w)
    (hleft : 0 < fuel) :
    ∃ result, searchLoop str pat delta1 delta2 fuel ((w : Int) + pat.length - 1)
      = some result := by
  have hpos := List.length_pos_iff.mpr hpat
  induction fuel generalizing w with
  | zero => exact absurd hleft (Nat.lt_irrefl 0)
  | succ fuel ih =>
      rw [searchLoop_succ]
      by_cases hw : w + pat.length ≤ str.length
      · rw [if_pos (by omega)]
        rcases pass_advances hfilled hw hfits with hfound | ⟨d, hd, hmoved⟩
        · rw [hfound]
          exact ⟨_, rfl⟩
        · rw [hmoved]
          exact ih (by omega) (by omega)
      · rw [if_neg (by omega)]
        exact ⟨_, rfl⟩

/-- For every text and every pattern without a 0: the tables are filled within their bounds, every
pass of the search stays within the bounds, the window of the next pass ends further on, and the
search has a result. -/
theorem bmSearch_advances (str pat : List UInt8) (tables : Tables pat) (hpat : pat ≠ [])
    (hzero : (0 : UInt8) ∉ pat) (hfits : (str.length + 2 * pat.length : Nat) ≤ intMax) :
    ∃ delta1 delta2, bmMakeDelta1 tables.delta1 pat = some delta1 ∧
      bmMakeDelta2 tables.delta2 pat = some delta2 ∧
      (∀ i, WindowEnd str pat delta1 delta2 i → i < str.length →
        ∃ ends, pass str pat delta1 delta2 i = some ends ∧ ∀ i', ends = .moved i' → i < i') ∧
      ∃ result, bmSearch str pat tables = some result := by
  obtain ⟨delta1, delta2, hdelta1, hdelta2, hfilled⟩ := exists_filled tables hpat hzero
  refine ⟨delta1, delta2, hdelta1, hdelta2, fun i hi hlt => ?_, ?_⟩
  · obtain ⟨w, rfl⟩ := exists_eq_of_windowEnd hi hfilled hfits
    rcases pass_advances hfilled (w := w) (by omega) hfits with hfound | ⟨d, hd, hmoved⟩
    · exact ⟨_, hfound, nofun⟩
    · refine ⟨_, hmoved, fun i' hi' => ?_⟩
      cases hi'
      omega
  · rw [bmSearch_of_filled str hpat hdelta1 hdelta2]
    exact exists_searchLoop hfilled hpat hfits (by omega) (by omega)

/-- Also where the search misses an occurrence. -/
theorem bmSearch_advances_aba :
    ∃ delta1 delta2, bmMakeDelta1 (List.replicate 256 0) [97, 98, 97] = some delta1 ∧
      bmMakeDelta2 (List.replicate 3 0) [97, 98, 97] = some delta2 ∧
      (∀ i, WindowEnd [120, 120, 97, 98, 97] [97, 98, 97] delta1 delta2 i →
        i < ([120, 120, 97, 98, 97] : List UInt8).length →
          ∃ ends, pass [120, 120, 97, 98, 97] [97, 98, 97] delta1 delta2 i = some ends ∧
            ∀ i', ends = .moved i' → i < i') ∧
      ∃ result, bmSearch [120, 120, 97, 98, 97] [97, 98, 97] (.zero _) = some result :=
  bmSearch_advances [120, 120, 97, 98, 97] [97, 98, 97] (.zero _) (by decide) (by decide)
    (by decide)

/-! ### The text that a border is missed in -/

/-- A text whose first window differs from the pattern at `p`, with the character `c` there, and in
which the pattern occurs at `q`. -/
def missedText (c : UInt8) (pat : List UInt8) (p q : Nat) : List UInt8 :=
  List.replicate (p + 1) c ++ (pat.take q).drop (p + 1) ++ pat

variable {c : UInt8}

theorem missedText_length (hpq : p < q) (hq : q < pat.length) :
    (missedText c pat p q).length = q + pat.length := by
  unfold missedText
  simp only [List.length_append, List.length_replicate, List.length_drop, List.length_take]
  omega

theorem occursAt_missedText (hpq : p < q) (hq : q < pat.length) :
    OccursAt pat (missedText c pat p q) q := by
  intro j hj
  have hfront : (List.replicate (p + 1) c ++ (pat.take q).drop (p + 1)).length = q := by
    simp only [List.length_append, List.length_replicate, List.length_drop, List.length_take]
    omega
  unfold missedText
  rw [List.getElem?_append_right (by omega), hfront, Nat.add_sub_cancel_left]

theorem mismatch_missedText (hpq : p < q) (hq : q < pat.length) (hborder : Border pat q)
    (hc : c ∉ pat) : Mismatch pat (missedText c pat p q) 0 p := by
  have hlength := @missedText_length pat p q c hpq hq
  refine ⟨by omega, by omega, fun j hj hjn => ?_, ?_⟩
  · rw [Nat.zero_add]
    rcases Nat.lt_or_ge j q with hlt | hge
    · -- between the two offsets
      unfold missedText
      rw [List.append_assoc, List.getElem?_append_right (by rw [List.length_replicate]; omega),
        List.length_replicate, List.getElem?_append_left
          (by rw [List.length_drop, List.length_take]; omega),
        List.getElem?_drop, show p + 1 + (j - (p + 1)) = j by omega, List.getElem?_take_of_lt hlt]
    · -- from `q` on the text and the pattern begin again
      have hoccurs := @occursAt_missedText pat p q c hpq hq (j - q) (by omega)
      have hbegin := hborder (j - q) (by omega)
      rw [show q + (j - q) = j by omega] at hoccurs hbegin
      rw [hoccurs, hbegin]
  · have hfirst : (missedText c pat p q)[0 + p]? = some c := by
      unfold missedText
      rw [List.append_assoc, List.getElem?_append_left (by rw [List.length_replicate]; omega),
        List.getElem?_replicate, if_pos (by omega)]
    rw [hfirst]
    exact fun h => hc (List.mem_of_getElem? h.symm)

/-- An offset whose entry is one more than a border moves the window behind the occurrence at it. -/
theorem moves_over (hmoves : Moves str pat w p d) (hpq : p < q) (hq : q < pat.length)
    (hborder : Border pat q) (hleast : ∀ q', p ≤ q' → q' < q → ¬ Border pat q')
    (hnone : ¬ ∃ s, Reappears pat p s) : q < d := by
  obtain ⟨c, v, shift, -, -, -, hshift, hd⟩ := hmoves
  cases hshift with
  | reappears hm hs _ => exact absurd ⟨_, hs⟩ hnone
  | lastPrefix _ hl =>
      cases hl with
      | border q' hle hlt hborder' _ =>
          have hge : ¬ q' < q := fun hlt' => hleast q' hle hlt' hborder'
          omega
      | none hnone' => exact absurd hborder (hnone' q (Nat.le_of_lt hpq) hq)

/-- The pattern is not found in the text. -/
theorem bmSearch_missedText (tables : Tables pat) (hzero : (0 : UInt8) ∉ pat) (hc : c ∉ pat)
    (hpq : p < q) (hq : q < pat.length) (hborder : Border pat q)
    (hleast : ∀ q', p ≤ q' → q' < q → ¬ Border pat q') (hnone : ¬ ∃ s, Reappears pat p s)
    (hfits : (q + 3 * pat.length : Nat) ≤ intMax) :
    bmSearch (missedText c pat p q) pat tables = some none := by
  have hpat : pat ≠ [] := List.length_pos_iff.mp (by omega)
  have hlength := @missedText_length pat p q c hpq hq
  obtain ⟨delta1, delta2, hfilled, heq⟩ := bmSearch_eq (missedText c pat p q) tables hpat hzero
  obtain ⟨d, hmoves, hstep⟩ := searchLoop_mismatch (mismatch_missedText hpq hq hborder hc) hfilled
    (by omega) (by omega) (missedText c pat p q).length
  have hd := moves_over hmoves hpq hq hborder hleast hnone
  -- the window is over the end of the text
  obtain ⟨fuel, hfuel⟩ := Nat.exists_eq_succ_of_ne_zero
    (show (missedText c pat p q).length ≠ 0 by omega)
  rw [heq, hstep, hfuel, searchLoop, if_neg (by omega)]

/-- A pattern that is found in every text is safe. -/
theorem safe_of_bmSearch (hpat : pat ≠ []) (hzero : (0 : UInt8) ∉ pat)
    (h : ∀ (str : List UInt8) (tables : Tables pat),
      (str.length + 2 * pat.length : Nat) ≤ intMax →
        bmSearch str pat tables = some ((naiveSearch pat str).map Int.ofNat)) :
    SafePattern pat := by
  intro p q hpq hq hborder hleast
  by_contra hnot
  rw [not_or] at hnot
  obtain ⟨hnone, hshort⟩ := hnot
  have hlength := @missedText_length pat p q 0 hpq hq
  have hfound := h (missedText 0 pat p q) (.zero pat) (by omega)
  rw [bmSearch_missedText (.zero pat) hzero hzero hpq hq hborder hleast hnone (by omega),
    Option.some.injEq, eq_comm, Option.map_eq_none_iff, naiveSearch_eq_none_iff hpat] at hfound
  exact hfound q (occursAt_missedText hpq hq)

/-- For a pattern without a 0 the search is right on every text exactly when the pattern is safe.

The first loop of the second table compares the suffix at an offset and stores it for the one
before, so after a mismatch there the window moves one too far. `safePattern_iff` says which
patterns are safe: those without a border, those of one character, and those for which no text is
long enough. -/
theorem bmSearch_eq_iff (pat : List UInt8) (hpat : pat ≠ []) (hzero : (0 : UInt8) ∉ pat) :
    (∀ (str : List UInt8) (tables : Tables pat), (str.length + 2 * pat.length : Nat) ≤ intMax →
      bmSearch str pat tables = some ((naiveSearch pat str).map Int.ofNat)) ↔ SafePattern pat :=
  ⟨safe_of_bmSearch hpat hzero, fun hsafe str tables hfits =>
    bmSearch_of_safe str tables hpat hzero hsafe hfits⟩

/-- A pattern that repeats one character has a border at every offset. -/
theorem border_of_one (h : Border pat 1) (q : Nat) : Border pat q := by
  intro j hj
  induction q with
  | zero => rw [Nat.zero_add]
  | succ q ih =>
      rw [← ih (by omega), ← h (q + j) (by omega)]
      congr 1
      omega

/-- What the condition leaves of the patterns that overlap themselves. For the least border the
offset 1 is looked at, and behind it the pattern can only be there again one place before, with all
its characters equal up to the end. So the least border is 1, and the pattern repeats a single
character, or no text is long enough. -/
theorem safePattern_iff : SafePattern pat ↔
    ∀ q, 1 < q → q < pat.length → Border pat q → (∀ q', 0 < q' → q' < q → ¬ Border pat q') →
      intMax < (q + 3 * pat.length : Nat) := by
  constructor
  · intro hsafe q hone hq hborder hleast
    rcases hsafe 1 q hone hq hborder hleast with ⟨s, hs⟩ | hshort
    · -- the border begins with the second character, which is another one than the first
      have hle := hs.le
      have hpos := hs.pos
      obtain rfl : s = 1 := by omega
      have hsame : ∀ k, k + 1 < pat.length → pat[k + 1]? = pat[1]? := by
        intro k
        induction k with
        | zero => exact fun _ => rfl
        | succ k ih =>
            intro hk
            rw [← ih (by omega)]
            exact (hs.behind (k + 2) (by omega) hk).symm
      obtain ⟨k, rfl⟩ := Nat.exists_eq_add_of_lt hone
      have hfirst := hborder 0 (by omega)
      refine absurd ?_ hs.differs
      rw [← hfirst, ← hsame (1 + k) (by omega)]
    · exact hshort
  · intro h p q hpq hq hborder hleast
    have hp : p ≠ 0 := by
      rintro rfl
      exact hleast 0 (Nat.le_refl 0) hpq (border_zero pat)
    have hex : ∃ q, 0 < q ∧ Border pat q := ⟨q, by omega, hborder⟩
    obtain ⟨hpos, hfirst⟩ := Nat.find_spec hex
    have hle : Nat.find hex ≤ q := Nat.find_min' hex ⟨by omega, hborder⟩
    rcases Nat.lt_or_ge 1 (Nat.find hex) with hone | hone
    · have hlong := h _ hone (by omega) hfirst fun q' hq' hlt hb => Nat.find_min hex hlt ⟨hq', hb⟩
      exact .inr (by omega)
    · -- every offset of the pattern is one of a border
      have hconstant : Border pat 1 := by
        rwa [show Nat.find hex = 1 by omega] at hfirst
      exact absurd (border_of_one hconstant p) (hleast p (Nat.le_refl p) hpq)

/-- A pattern that overlaps itself nowhere is safe. -/
theorem safe_of_no_border (h : ∀ q < pat.length, 0 < q → ¬ Border pat q) : SafePattern pat :=
  fun _ q hpq hq hborder _ => absurd hborder (h q hq (by omega))

theorem safe_modemVerStr : SafePattern modemVerStr := safe_of_no_border (by decide)

/-- The version of the modem is found in every image. -/
theorem bmSearch_modemVerStr (str : List UInt8) (tables : Tables modemVerStr)
    (hfits : (str.length + 2 * modemVerStr.length : Nat) ≤ intMax) :
    bmSearch str modemVerStr tables = some ((naiveSearch modemVerStr str).map Int.ofNat) :=
  bmSearch_of_safe str tables (by decide) (by decide) safe_modemVerStr hfits

/-- A pattern that repeats one character is safe, although it overlaps itself at every offset. -/
theorem safe_of_border_one (h : Border pat 1) : SafePattern pat :=
  safePattern_iff.mpr fun _ hone _ _ hleast => absurd h (hleast 1 Nat.one_pos hone)

/-- The pattern `aaa` has borders, and it is found in every text. -/
theorem bmSearch_eq_iff_aaa :
    Border [97, 97, (97 : UInt8)] 1 ∧ Border [97, 97, (97 : UInt8)] 2 ∧
      ∀ (str : List UInt8) (tables : Tables [97, 97, 97]), (str.length + 2 * 3 : Nat) ≤ intMax →
        bmSearch str [97, 97, 97] tables = some ((naiveSearch [97, 97, 97] str).map Int.ofNat) :=
  ⟨by decide, by decide,
    (bmSearch_eq_iff [97, 97, 97] (by decide) (by decide)).mpr (safe_of_border_one (by decide))⟩

/-- `aba` is not found in `xxaba`. -/
theorem bmSearch_misses_aba :
    ¬ ∀ pat : List UInt8, pat ≠ [] → (0 : UInt8) ∉ pat → ∀ (str : List UInt8) (tables : Tables pat),
      (str.length + 2 * pat.length : Nat) ≤ intMax →
        bmSearch str pat tables = some ((naiveSearch pat str).map Int.ofNat) := by
  intro h
  have hfound := h [97, 98, 97] (by decide) (by decide) [120, 120, 97, 98, 97] (.zero _) (by decide)
  -- behind the offset 1 there is only the border at 2, and the last character is nowhere else
  have hnone : ¬ ∃ s, Reappears [97, 98, (97 : UInt8)] 1 s := by
    rintro ⟨s, hs⟩
    have hle := hs.le
    have hpos := hs.pos
    obtain rfl : s = 1 := by omega
    exact absurd (hs.behind 2 (by decide) (by decide)) (by decide)
  have hleast : ∀ q', 1 ≤ q' → q' < 2 → ¬ Border [97, 98, (97 : UInt8)] q' := by
    intro q' hle hlt
    obtain rfl : q' = 1 := by omega
    decide
  have hnull : bmSearch [120, 120, 97, 98, 97] [97, 98, 97] (.zero _) = some none :=
    @bmSearch_missedText [97, 98, 97] 1 2 120 (.zero _) (by decide) (by decide) (by decide)
      (by decide) (by decide) hleast hnone (by decide)
  have hnaive : naiveSearch [97, 98, 97] [120, 120, 97, 98, (97 : UInt8)] = some 2 := by
    decide
  rw [hnull, hnaive] at hfound
  cases hfound

end LocHal.Recovery
