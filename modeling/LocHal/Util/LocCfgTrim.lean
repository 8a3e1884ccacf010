import Mathlib.Data.List.DropRight
import LocHal.Util.LocCfg

/-!
# `LocHal.Util.LocCfgTrim`: the trimmed value of a line

`loc_util_trim_space` trims a string in place, in one pass with three pointers. `strip` is the
string without leading and trailing white space. `trimSpace_eq` is the pass over the memory from the
string on: it ends, it stays inside the string, and it leaves `locUtilTrimSpace` there. That is
`strip`, except for a string of white space only, which has no last non-space character where a
terminator could go.

`locFillConfItem_string` is what `loc_fill_conf_item` makes of a line of white space, a name and a
value.

The state of the pass is the string, the three pointers and the flag that says whether a character
has been found. `scanned` is the state after a part of the string, as a function of that part: the
stripped part at the beginning of the memory and the rest as it was. `step_scanned` is the step
lemma, with a case for a character that is skipped and one for a character that is copied, and
`trimLoop_scanned` the run.

A string of white space only is the exception. The pass finds no character to keep, and so it writes
no terminator, and the string stays as it is. The result is therefore not the stripped string, but
the pass may be made again without a change (`locUtilTrimSpace_idem`).

`locFillConfItem_trimmed` puts both parts together: the line and the string.
-/

set_option autoImplicit false

namespace LocHal.Util

namespace LocCfg

variable {δ : Type}

/-! ### The pass over the string -/

/-- The pointers of `loc_util_trim_space` as offsets into the memory from `org_string` on. -/
structure TrimState where
  buf : CString
  scanPtr : Nat
  writePtr : Nat
  firstNonspace : Option Nat
  lastNonspace : Option Nat
  deriving DecidableEq, Repr

/-- The body of the loop, for the character that `scan_ptr` points to. -/
def TrimState.step (st : TrimState) (c : Char) : TrimState :=
  let firstNonspace :=
    if isspace c = false ∧ st.firstNonspace = none then some st.scanPtr else st.firstNonspace
  if firstNonspace ≠ none then
    { buf := st.buf.set st.writePtr c
      scanPtr := st.scanPtr + 1
      writePtr := st.writePtr + 1
      firstNonspace := firstNonspace
      lastNonspace := if isspace c then st.lastNonspace else some (st.writePtr + 1) }
  else { st with scanPtr := st.scanPtr + 1, firstNonspace := firstNonspace }

/-- `while (*scan_ptr)`. Nothing is read after the end of the memory. -/
def trimLoop : Nat → TrimState → Option TrimState
  | 0, _ => none
  | fuel + 1, st =>
      match st.buf[st.scanPtr]? with
      | none => none
      | some c => if c = '\x00' then some st else trimLoop fuel (st.step c)

/-- `if (last_nonspace) { *last_nonspace = '\0'; }` -/
def TrimState.terminate (st : TrimState) : CString :=
  match st.lastNonspace with
  | some p => st.buf.set p '\x00'
  | none => st.buf

/-- `loc_util_trim_space` on the memory from the string on. -/
def trimSpace (buf : CString) : Option CString :=
  (trimLoop buf.length ⟨buf, 0, 0, none, none⟩).map TrimState.terminate

/-- The string that the memory starts with. -/
def cString (buf : CString) : CString := buf.takeWhile (· ≠ '\x00')

/-! ### Strings without leading and trailing white space -/

/-- The string without leading and trailing white space. -/
def strip (s : CString) : CString := (s.dropWhile isspace).rdropWhile isspace

theorem strip_eq_nil_iff {s : CString} : strip s = [] ↔ ∀ c ∈ s, isspace c = true := by
  unfold strip
  rw [List.rdropWhile_eq_nil_iff]
  constructor
  · intro h
    -- a character that stops the drop from the left would be left over
    rw [← List.dropWhile_eq_nil_iff]
    by_contra hne
    have hpos := List.length_pos_iff.mpr hne
    exact List.dropWhile_get_zero_not isspace s hpos (h _ (List.getElem_mem hpos))
  · intro h c hc
    exact h c ((List.dropWhile_sublist isspace).subset hc)

theorem dropWhile_strip (s : CString) : (strip s).dropWhile isspace = strip s := by
  rw [List.dropWhile_eq_self_iff]
  intro hpos
  -- the first character is the one where the drop from the left stopped
  have hpre : strip s <+: s.dropWhile isspace := List.rdropWhile_prefix isspace _
  have hlen := hpre.length_le
  rw [hpre.getElem hpos]
  exact List.dropWhile_get_zero_not isspace s (by omega)

theorem strip_strip (s : CString) : strip (strip s) = strip s := by
  have h : strip (strip s) = (strip s).rdropWhile isspace := by
    show ((strip s).dropWhile isspace).rdropWhile isspace = _
    rw [dropWhile_strip]
  rw [h]
  exact List.rdropWhile_idempotent isspace _

theorem rdropWhile_append_of_pos {s ws : CString} (h : ∀ c ∈ ws, isspace c = true) :
    (s ++ ws).rdropWhile isspace = s.rdropWhile isspace := by
  show ((s ++ ws).reverse.dropWhile isspace).reverse = _
  rw [List.reverse_append, List.dropWhile_append_of_pos fun c hc => h c (List.mem_reverse.mp hc)]
  rfl

/-- White space around a string does not matter. -/
theorem strip_append {ws₁ ws₂ : CString} (h₁ : ∀ c ∈ ws₁, isspace c = true)
    (h₂ : ∀ c ∈ ws₂, isspace c = true) (s : CString) : strip (ws₁ ++ s ++ ws₂) = strip s := by
  show ((ws₁ ++ s ++ ws₂).dropWhile isspace).rdropWhile isspace = _
  rw [List.append_assoc, List.dropWhile_append_of_pos h₁, List.dropWhile_append]
  split
  · rename_i hempty
    -- only white space is left: both sides are empty
    have hs : ∀ c ∈ s, isspace c = true :=
      List.dropWhile_eq_nil_iff.mp (List.isEmpty_iff.mp hempty)
    rw [List.dropWhile_eq_nil_iff.mpr h₂, List.rdropWhile_nil, strip_eq_nil_iff.mpr hs]
  · exact rdropWhile_append_of_pos h₂

/-- The trimmed string, except that a string of white space is left as it is. -/
theorem locUtilTrimSpace_eq (s : CString) :
    locUtilTrimSpace s = if strip s = [] then s else strip s := by
  unfold locUtilTrimSpace
  by_cases h : ∀ c ∈ s, isspace c = true
  · rw [if_pos (List.all_eq_true.mpr h), if_pos (strip_eq_nil_iff.mpr h)]
  · rw [if_neg (fun hall => h (List.all_eq_true.mp hall)),
      if_neg (fun hnil => h (strip_eq_nil_iff.mp hnil))]
    rfl

theorem locUtilTrimSpace_of_strip {s : CString} (h : strip s ≠ []) :
    locUtilTrimSpace s = strip s := by
  rw [locUtilTrimSpace_eq, if_neg h]

/-- Trimming a second time changes nothing. -/
theorem locUtilTrimSpace_idem (s : CString) :
    locUtilTrimSpace (locUtilTrimSpace s) = locUtilTrimSpace s := by
  by_cases h : strip s = []
  · have hs : locUtilTrimSpace s = s := by rw [locUtilTrimSpace_eq, if_pos h]
    rw [hs, hs]
  · rw [locUtilTrimSpace_of_strip h, locUtilTrimSpace_eq, strip_strip, if_neg h]

/-! ### What the pass leaves -/

/-- The pointers and the memory when the characters of `done` have been scanned. -/
def scanned (orig done : CString) : TrimState where
  buf := done.dropWhile isspace ++ orig.drop (done.dropWhile isspace).length
  scanPtr := done.length
  writePtr := (done.dropWhile isspace).length
  firstNonspace :=
    if done.dropWhile isspace = [] then none
    else some (done.length - (done.dropWhile isspace).length)
  lastNonspace := if strip done = [] then none else some (strip done).length

theorem dropWhile_eq_nil_iff_strip {s : CString} : s.dropWhile isspace = [] ↔ strip s = [] := by
  rw [strip_eq_nil_iff, List.dropWhile_eq_nil_iff]

theorem dropWhile_concat (done : CString) (c : Char) :
    (done ++ [c]).dropWhile isspace
      = if done.dropWhile isspace = [] ∧ isspace c = true then []
        else done.dropWhile isspace ++ [c] := by
  rw [List.dropWhile_append]
  by_cases hdone : done.dropWhile isspace = []
  · by_cases hc : isspace c = true
    · simp [hdone, hc]
    · simp [hdone, hc]
  · simp [hdone]

/-- The copied character takes the place of the next one of the memory. -/
theorem set_append_drop {t orig : CString} (c : Char) (h : t.length < orig.length) :
    (t ++ orig.drop t.length).set t.length c = (t ++ [c]) ++ orig.drop (t ++ [c]).length := by
  rw [List.set_append_right _ _ (Nat.le_refl _), Nat.sub_self, List.drop_eq_getElem_cons h,
    List.set_cons_zero, List.length_append, List.append_assoc]
  rfl

/-- Where the string ends so far. -/
theorem strip_concat {done : CString} {c : Char}
    (h : ¬(done.dropWhile isspace = [] ∧ isspace c = true)) :
    strip (done ++ [c])
      = if isspace c = true then strip done else done.dropWhile isspace ++ [c] := by
  show ((done ++ [c]).dropWhile isspace).rdropWhile isspace = _
  rw [dropWhile_concat, if_neg h, List.rdropWhile_concat]
  rfl

/-- Leading white space is not copied. -/
theorem step_scanned_of_skip {orig done : CString} {c : Char}
    (hdone : done.dropWhile isspace = []) (hc : isspace c = true) :
    (scanned orig done).step c = scanned orig (done ++ [c]) := by
  have hnext : (done ++ [c]).dropWhile isspace = [] := by
    rw [dropWhile_concat, if_pos ⟨hdone, hc⟩]
  have hstrip : strip done = [] := dropWhile_eq_nil_iff_strip.mp hdone
  have hstrip' : strip (done ++ [c]) = [] := dropWhile_eq_nil_iff_strip.mp hnext
  simp [scanned, TrimState.step, hdone, hc, hstrip, hnext, hstrip']

/-- The first non-space character, and every character after it, is copied. -/
theorem step_scanned_of_copy {orig done : CString} (h : done.length < orig.length) {c : Char}
    (hcopy : ¬(done.dropWhile isspace = [] ∧ isspace c = true)) :
    (scanned orig done).step c = scanned orig (done ++ [c]) := by
  have hle : (done.dropWhile isspace).length ≤ done.length :=
    (List.dropWhile_sublist isspace).length_le
  have hnext : (done ++ [c]).dropWhile isspace = done.dropWhile isspace ++ [c] := by
    rw [dropWhile_concat, if_neg hcopy]
  -- the character is copied, so the beginning of the value has been found
  have hfirst : (if isspace c = false ∧ (scanned orig done).firstNonspace = none
        then some (scanned orig done).scanPtr else (scanned orig done).firstNonspace)
      = some (done.length - (done.dropWhile isspace).length) := by
    by_cases hdone : done.dropWhile isspace = []
    · -- the first one
      have hc : isspace c = false := Bool.not_eq_true _ ▸ fun hc => hcopy ⟨hdone, hc⟩
      rw [if_pos ⟨hc, if_pos hdone⟩, hdone]
      rfl
    · have hsome : (scanned orig done).firstNonspace
          = some (done.length - (done.dropWhile isspace).length) := if_neg hdone
      rw [hsome, if_neg (fun h => nomatch h.2)]
  -- the end moves on unless the character is a space
  have hlast : (if isspace c = true then (scanned orig done).lastNonspace
        else some ((scanned orig done).writePtr + 1))
      = (scanned orig (done ++ [c])).lastNonspace := by
    show _ = if strip (done ++ [c]) = [] then none else some (strip (done ++ [c])).length
    rw [strip_concat hcopy]
    by_cases hc : isspace c = true
    · rw [if_pos hc, if_pos hc]
      rfl
    · rw [if_neg hc, if_neg hc, if_neg (List.append_ne_nil_of_right_ne_nil _ (by simp)),
        List.length_append]
      rfl
  -- it is written behind what has been copied
  have hbuf : (scanned orig done).buf.set (scanned orig done).writePtr c
      = (scanned orig (done ++ [c])).buf := by
    show _ = (done ++ [c]).dropWhile isspace
      ++ orig.drop ((done ++ [c]).dropWhile isspace).length
    rw [hnext]
    exact set_append_drop c (Nat.lt_of_le_of_lt hle h)
  have hwrite : (scanned orig done).writePtr + 1 = (scanned orig (done ++ [c])).writePtr := by
    show _ = ((done ++ [c]).dropWhile isspace).length
    rw [hnext, List.length_append]
    rfl
  have hscan : (scanned orig done).scanPtr + 1 = (scanned orig (done ++ [c])).scanPtr := by
    show _ = (done ++ [c]).length
    rw [List.length_append]
    rfl
  have hfirst' : some (done.length - (done.dropWhile isspace).length)
      = (scanned orig (done ++ [c])).firstNonspace := by
    show _ = if (done ++ [c]).dropWhile isspace = [] then none
      else some ((done ++ [c]).length - ((done ++ [c]).dropWhile isspace).length)
    rw [hnext, if_neg (List.append_ne_nil_of_right_ne_nil _ (by simp)), List.length_append,
      List.length_append, Nat.add_sub_add_right]
  unfold TrimState.step
  dsimp only
  rw [hfirst, if_pos (by simp), hbuf, hscan, hwrite, hfirst']
  rw [hwrite] at hlast
  rw [hlast]

/-- One character more. -/
theorem step_scanned {orig done : CString} (h : done.length < orig.length) (c : Char) :
    (scanned orig done).step c = scanned orig (done ++ [c]) := by
  by_cases hskip : done.dropWhile isspace = [] ∧ isspace c = true
  · exact step_scanned_of_skip hskip.1 hskip.2
  · exact step_scanned_of_copy h hskip

/-- The loop scans the string to its terminator. -/
theorem trimLoop_scanned {orig : CString} {fuel : Nat} {done todo rest : CString}
    (horig : orig = done ++ todo ++ '\x00' :: rest) (htodo : '\x00' ∉ todo)
    (hfuel : todo.length < fuel) :
    trimLoop fuel (scanned orig done) = some (scanned orig (done ++ todo)) := by
  induction fuel generalizing done todo with
  | zero => omega
  | succ fuel ih =>
      have hlt : done.length < orig.length := by
        rw [horig, List.length_append, List.length_append, List.length_cons]
        omega
      -- the copied characters lie before `scan_ptr`
      have hread : (scanned orig done).buf[(scanned orig done).scanPtr]? = orig[done.length]? := by
        have hle : (done.dropWhile isspace).length ≤ done.length :=
          (List.dropWhile_sublist isspace).length_le
        show (done.dropWhile isspace ++ orig.drop _)[done.length]? = _
        rw [List.getElem?_append_right hle, List.getElem?_drop]
        congr 1
        omega
      unfold trimLoop
      rw [hread, horig, List.append_assoc, List.getElem?_append_right (Nat.le_refl _),
        Nat.sub_self]
      cases todo with
      | nil =>
          rw [List.append_nil]
          rfl
      | cons c todo =>
          have hc : c ≠ '\x00' := fun hc => htodo (hc ▸ List.mem_cons_self)
          have hrest : orig = (done ++ [c]) ++ todo ++ '\x00' :: rest := by
            rw [horig]
            simp
          show (if c = '\x00' then some _ else trimLoop fuel _) = _
          rw [if_neg hc, ← List.append_assoc, ← horig, step_scanned hlt,
            ih hrest (fun h => htodo (List.mem_cons_of_mem _ h)) (Nat.lt_of_succ_lt_succ hfuel),
            List.append_assoc]
          rfl

theorem cString_append {s : CString} (hs : '\x00' ∉ s) (rest : CString) :
    cString (s ++ '\x00' :: rest) = s := by
  have hall : ∀ c ∈ s, decide (c ≠ '\x00') = true := fun c hc =>
    decide_eq_true fun h => hs (h ▸ hc)
  unfold cString
  rw [List.takeWhile_append_of_pos hall, List.takeWhile_cons_of_neg (by decide), List.append_nil]

/-- Nothing after the terminator is written. -/
theorem drop_scanned_buf (s rest : CString) :
    (scanned (s ++ '\x00' :: rest) s).buf.drop (s.length + 1) = rest := by
  have hle : (s.dropWhile isspace).length ≤ s.length := (List.dropWhile_sublist isspace).length_le
  show (s.dropWhile isspace ++ List.drop _ _).drop (s.length + 1) = rest
  rw [List.drop_append, List.drop_eq_nil_of_le (by omega), List.nil_append, List.drop_drop,
    Nat.add_sub_cancel' (by omega), List.drop_append, List.drop_eq_nil_of_le (by omega)]
  show List.drop (s.length + 1 - s.length) ('\x00' :: rest) = rest
  rw [Nat.add_sub_cancel_left]
  rfl

theorem length_scanned_buf (s rest : CString) :
    (scanned (s ++ '\x00' :: rest) s).buf.length = s.length + 1 + rest.length := by
  have hle : (s.dropWhile isspace).length ≤ s.length := (List.dropWhile_sublist isspace).length_le
  show (s.dropWhile isspace ++ List.drop _ _).length = _
  rw [List.length_append, List.length_drop, List.length_append, List.length_cons]
  omega

/-- What stands behind the stripped string before its terminator is written. -/
theorem exists_scanned_buf (s rest : CString) :
    ∃ c pad, (scanned (s ++ '\x00' :: rest) s).buf = strip s ++ c :: (pad ++ rest) ∧
      (strip s).length + pad.length = s.length := by
  obtain ⟨t, ht⟩ := List.rdropWhile_prefix isspace (s.dropWhile isspace)
  have hbuf : (scanned (s ++ '\x00' :: rest) s).buf
      = strip s ++ (t ++ List.drop (s.dropWhile isspace).length (s ++ '\x00' :: rest)) := by
    rw [← List.append_assoc]
    exact congrArg (· ++ _) ht.symm
  have hle : (strip s).length ≤ s.length :=
    (List.rdropWhile_prefix isspace (s.dropWhile isspace)).length_le.trans
      (List.dropWhile_sublist isspace).length_le
  generalize t ++ List.drop (s.dropWhile isspace).length (s ++ '\x00' :: rest) = tail at hbuf
  -- the last part of the memory is `rest`
  have hlength := length_scanned_buf s rest
  have hdrop := drop_scanned_buf s rest
  rw [hbuf, List.length_append] at hlength
  rw [hbuf, List.drop_append, List.drop_eq_nil_of_le (by omega), List.nil_append] at hdrop
  cases tail with
  | nil =>
      rw [List.length_nil] at hlength
      omega
  | cons c tail =>
      rw [List.length_cons] at hlength
      rw [show s.length + 1 - (strip s).length = s.length - (strip s).length + 1 by omega,
        List.drop_succ_cons] at hdrop
      refine ⟨c, tail.take (s.length - (strip s).length), ?_, ?_⟩
      · rw [hbuf]
        conv_lhs => rw [← List.take_append_drop (s.length - (strip s).length) tail, hdrop]
      · rw [List.length_take]
        omega

/-- The pass over a string ends, reads and writes inside it, and leaves the trimmed string. -/
theorem trimSpace_eq {s : CString} (hs : '\x00' ∉ s) (rest : CString) :
    ∃ pad, trimSpace (s ++ '\x00' :: rest) = some (locUtilTrimSpace s ++ '\x00' :: (pad ++ rest)) ∧
      (locUtilTrimSpace s).length + pad.length = s.length := by
  have horig : s ++ '\x00' :: rest = [] ++ s ++ '\x00' :: rest := rfl
  have hloop : trimLoop (s ++ '\x00' :: rest).length ⟨s ++ '\x00' :: rest, 0, 0, none, none⟩
      = some (scanned (s ++ '\x00' :: rest) s) :=
    trimLoop_scanned horig hs (by
      rw [List.length_append, List.length_cons]
      omega)
  have htrim : trimSpace (s ++ '\x00' :: rest)
      = some (scanned (s ++ '\x00' :: rest) s).terminate := by
    rw [trimSpace, hloop]
    rfl
  rw [htrim, TrimState.terminate]
  by_cases hstrip : strip s = []
  · -- no character was copied, and no terminator is written
    have hlast : (scanned (s ++ '\x00' :: rest) s).lastNonspace = none := if_pos hstrip
    have hbuf : (scanned (s ++ '\x00' :: rest) s).buf = s ++ '\x00' :: rest := by
      show s.dropWhile isspace ++ List.drop (s.dropWhile isspace).length _ = _
      rw [dropWhile_eq_nil_iff_strip.mpr hstrip]
      rfl
    rw [hlast, locUtilTrimSpace_eq, if_pos hstrip]
    exact ⟨[], congrArg some hbuf, rfl⟩
  · have hlast : (scanned (s ++ '\x00' :: rest) s).lastNonspace = some (strip s).length :=
      if_neg hstrip
    obtain ⟨c, pad, hbuf, hpad⟩ := exists_scanned_buf s rest
    rw [hlast, locUtilTrimSpace_of_strip hstrip]
    refine ⟨pad, congrArg some ?_, hpad⟩
    show (scanned (s ++ '\x00' :: rest) s).buf.set (strip s).length '\x00' = _
    rw [hbuf, List.set_append_right _ _ (Nat.le_refl _), Nat.sub_self, List.set_cons_zero]

theorem mem_of_mem_strip {s : CString} {c : Char} (h : c ∈ strip s) : c ∈ s :=
  (List.dropWhile_sublist isspace).subset ((List.rdropWhile_prefix isspace _).subset h)

theorem mem_of_mem_locUtilTrimSpace {s : CString} {c : Char} (h : c ∈ locUtilTrimSpace s) :
    c ∈ s := by
  rw [locUtilTrimSpace_eq] at h
  split at h
  · exact h
  · exact mem_of_mem_strip h

/-- The string after the pass, and after a second one. -/
theorem cString_trimSpace {s : CString} (hs : '\x00' ∉ s) (rest : CString) :
    ∃ buf, trimSpace (s ++ '\x00' :: rest) = some buf ∧ cString buf = locUtilTrimSpace s ∧
      (trimSpace buf).map cString = some (cString buf) := by
  have hs' : '\x00' ∉ locUtilTrimSpace s := fun h => hs (mem_of_mem_locUtilTrimSpace h)
  obtain ⟨pad, hbuf, -⟩ := trimSpace_eq hs rest
  obtain ⟨pad', hbuf', -⟩ := trimSpace_eq hs' (pad ++ rest)
  refine ⟨_, hbuf, cString_append hs' _, ?_⟩
  rw [hbuf', locUtilTrimSpace_idem, Option.map_some, cString_append hs', cString_append hs']

/-! ### Lines -/

theorem isspace_ne_equals {ws : CString} (h : ∀ c ∈ ws, isspace c = true) : '=' ∉ ws :=
  fun hmem => absurd (h _ hmem) (by decide)

/-- A line is cut at its `=`, and empty parts are dropped. -/
theorem strtok_line {pre post : CString} (hpre : '=' ∉ pre) (hpost : '=' ∉ post) :
    strtok '=' (pre ++ '=' :: post) = [pre, post].filter (· ≠ []) := by
  unfold strtok
  rw [List.splitOn_append_cons_self_of_not_mem hpre, List.splitOn_eq_singleton hpost]

theorem locFillConfItem_eq_fillTable (d : Doubles δ) {pre post : CString} (hpre : '=' ∉ pre)
    (hpost : '=' ∉ post) (hpre' : pre ≠ []) (hpost' : post ≠ []) (table : List LocParamS)
    (m : ConfMem δ) :
    locFillConfItem d (pre ++ '=' :: post) table m
      = fillTable (parseValue d (locUtilTrimSpace pre) (locUtilTrimSpace post)) table 0 m := by
  unfold locFillConfItem
  rw [strtok_line hpre hpost, List.filter_cons_of_pos (by simpa using hpre'),
    List.filter_cons_of_pos (by simpa using hpost'), List.filter_nil]

/-- A line that does not contain two operands is skipped. -/
theorem locFillConfItem_of_no_value (d : Doubles δ) {pre : CString} (hpre : '=' ∉ pre)
    (table : List LocParamS) (m : ConfMem δ) :
    locFillConfItem d (pre ++ ['=']) table m = (0, m) := by
  have htokens : strtok '=' (pre ++ ['=']) = if pre = [] then [] else [pre] := by
    rw [strtok_line hpre List.not_mem_nil]
    by_cases hpre' : pre = []
    · rw [if_pos hpre', hpre']
      rfl
    · rw [if_neg hpre', List.filter_cons_of_pos (by simpa using hpre')]
      rfl
  unfold locFillConfItem
  rw [htokens]
  by_cases hpre' : pre = []
  · rw [if_pos hpre']
  · rw [if_neg hpre']

/-- The settings of a value that are for one target and agree on it. -/
theorem fillTable_value {v : LocParamV δ} {table : List LocParamS} {target : Nat}
    {x : ParamValue δ}
    (hall : ∀ e ∈ table, ∀ w, entryWrite v e = some w → w.target = target → w.value = x)
    (ret : Nat) (m : ConfMem δ)
    (h : m.value target = x ∨ ∃ e ∈ table, ∃ w, entryWrite v e = some w ∧ w.target = target) :
    (fillTable v table ret m).2.value target = x := by
  induction table generalizing ret m with
  | nil =>
      obtain h | ⟨e, he, -⟩ := h
      · exact h
      · exact absurd he List.not_mem_nil
  | cons entry table ih =>
      have hall' := fun e he => hall e (List.mem_cons_of_mem _ he)
      unfold fillTable
      rw [locSetConfigEntry_eq]
      cases hw : entryWrite v entry with
      | none =>
          refine ih hall' _ _ (h.imp_right ?_)
          rintro ⟨e, he, w, hew, ht⟩
          obtain rfl | he := List.mem_cons.mp he
          · cases hw.symm.trans hew
          · exact ⟨e, he, w, hew, ht⟩
      | some w =>
          refine ih hall' _ _ ?_
          have hvalue : (m.apply w).value target
              = if target = w.target then w.value else m.value target :=
            Function.update_apply ..
          show (m.apply w).value target = x ∨ _
          rw [hvalue]
          by_cases ht : target = w.target
          · rw [if_pos ht]
            exact .inl (hall entry List.mem_cons_self w hw ht.symm)
          · -- another target: the setting is still to come, or was made before
            rw [if_neg ht]
            refine h.imp_right ?_
            rintro ⟨e, he, w', hew, ht'⟩
            obtain rfl | he := List.mem_cons.mp he
            · exact absurd (Option.some.inj (hw.symm.trans hew) ▸ ht').symm ht
            · exact ⟨e, he, w', hew, ht'⟩

/-- What a string record holds after the value was set. -/
def storedString (value : CString) : CString :=
  if value = ['N', 'U', 'L', 'L'] then [] else value.take 80

theorem entryWrite_string {v : LocParamV δ} {entry : LocParamS} {target : Nat}
    (hname : entry.paramName = v.paramName) (hptr : entry.paramPtr = some target)
    (htype : entry.paramType = 's') :
    entryWrite v entry = some ⟨entry, target, .str (storedString v.paramStrValue)⟩ := by
  unfold entryWrite
  rw [if_pos hname, hptr, htype]
  rfl

/-- The string records of the name that have the target are set to the string. -/
theorem fillTable_string {v : LocParamV δ} {table : List LocParamS} {entry : LocParamS}
    {target : Nat} (hmem : entry ∈ table) (hname : entry.paramName = v.paramName)
    (hptr : entry.paramPtr = some target)
    (htype : ∀ e ∈ table, e.paramName = v.paramName → e.paramPtr = some target →
      e.paramType = 's') (ret : Nat) (m : ConfMem δ) :
    (fillTable v table ret m).2.value target = .str (storedString v.paramStrValue) := by
  refine fillTable_value (fun e he w hw ht => ?_) ret m (.inr ?_)
  · have hename := (paramName_of_entryWrite hw).1
    have heptr : e.paramPtr = some target := ht ▸ paramPtr_of_entryWrite hw
    rw [entryWrite_string hename heptr (htype e he hename heptr)] at hw
    exact Option.some.inj hw ▸ rfl
  · exact ⟨entry, hmem, _, entryWrite_string hname hptr (htype entry hmem hname hptr), rfl⟩

/-- A configuration line: white space, a name, white space, `=`, white space, a value, white space
and a newline or none. -/
structure ConfLine where
  spaces₁ : CString
  name : CString
  spaces₂ : CString
  spaces₃ : CString
  value : CString
  spaces₄ : CString
  newline : Bool

/-- What stands before the `=`. -/
def ConfLine.pre (l : ConfLine) : CString := l.spaces₁ ++ l.name ++ l.spaces₂

/-- What stands after the `=`. -/
def ConfLine.post (l : ConfLine) : CString :=
  l.spaces₃ ++ l.value ++ (l.spaces₄ ++ if l.newline then ['\n'] else [])

/-- The text of the line. -/
def ConfLine.text (l : ConfLine) : CString := l.pre ++ '=' :: l.post

/-- The parts of a line are what they are called: four pieces of white space around a name and a
value, neither of which has a `=`. The name is not empty and has no white space at its ends; the
value may be anything else. -/
structure ConfLine.WellFormed (l : ConfLine) : Prop where
  spaces₁ : ∀ c ∈ l.spaces₁, isspace c = true
  spaces₂ : ∀ c ∈ l.spaces₂, isspace c = true
  spaces₃ : ∀ c ∈ l.spaces₃, isspace c = true
  spaces₄ : ∀ c ∈ l.spaces₄, isspace c = true
  nameNe : l.name ≠ []
  nameStrip : strip l.name = l.name
  nameEquals : '=' ∉ l.name
  valueEquals : '=' ∉ l.value

namespace ConfLine

variable {l : ConfLine}

theorem spacesEnd (h : l.WellFormed) :
    ∀ c ∈ l.spaces₄ ++ (if l.newline then ['\n'] else []), isspace c = true := by
  intro c hc
  obtain hc | hc := List.mem_append.mp hc
  · exact h.spaces₄ c hc
  · split at hc
    · rw [List.mem_singleton.mp hc]
      decide
    · exact absurd hc List.not_mem_nil

theorem strip_pre (h : l.WellFormed) : strip l.pre = l.name := by
  show strip (l.spaces₁ ++ l.name ++ l.spaces₂) = l.name
  rw [strip_append h.spaces₁ h.spaces₂, h.nameStrip]

theorem strip_post (h : l.WellFormed) : strip l.post = strip l.value :=
  strip_append h.spaces₃ (spacesEnd h) l.value

theorem equals_pre (h : l.WellFormed) : '=' ∉ l.pre := by
  intro hmem
  obtain hmem | hmem := List.mem_append.mp hmem
  · obtain hmem | hmem := List.mem_append.mp hmem
    · exact isspace_ne_equals h.spaces₁ hmem
    · exact h.nameEquals hmem
  · exact isspace_ne_equals h.spaces₂ hmem

theorem equals_post (h : l.WellFormed) : '=' ∉ l.post := by
  intro hmem
  obtain hmem | hmem := List.mem_append.mp hmem
  · obtain hmem | hmem := List.mem_append.mp hmem
    · exact isspace_ne_equals h.spaces₃ hmem
    · exact h.valueEquals hmem
  · exact isspace_ne_equals (spacesEnd h) hmem

end ConfLine

/-- A line with a value sets the stripped value. -/
theorem locFillConfItem_string (d : Doubles δ) {l : ConfLine} (hl : l.WellFormed)
    (hvalue : strip l.value ≠ []) {table : List LocParamS} {entry : LocParamS} {target : Nat}
    (hmem : entry ∈ table) (hname : entry.paramName = l.name)
    (hptr : entry.paramPtr = some target)
    (htype : ∀ e ∈ table, e.paramName = l.name → e.paramPtr = some target → e.paramType = 's')
    (m : ConfMem δ) :
    (locFillConfItem d l.text table m).2.value target = .str (storedString (strip l.value)) := by
  have hpre : l.pre ≠ [] := fun h => hl.nameNe (by rw [← ConfLine.strip_pre hl, h]; rfl)
  have hpost : l.post ≠ [] := fun h => hvalue (by rw [← ConfLine.strip_post hl, h]; rfl)
  have htrim : locUtilTrimSpace l.pre = l.name := by
    rw [locUtilTrimSpace_of_strip (by rw [ConfLine.strip_pre hl]; exact hl.nameNe),
      ConfLine.strip_pre hl]
  have htrim' : locUtilTrimSpace l.post = strip l.value := by
    rw [locUtilTrimSpace_of_strip (by rw [ConfLine.strip_post hl]; exact hvalue),
      ConfLine.strip_post hl]
  show (locFillConfItem d (l.pre ++ '=' :: l.post) table m).2.value target = _
  rw [locFillConfItem_eq_fillTable d (ConfLine.equals_pre hl) (ConfLine.equals_post hl) hpre hpost,
    htrim, htrim',
    fillTable_string hmem (by rw [paramName_parseValue, hname]) hptr
      (by rw [paramName_parseValue]; exact htype),
    paramStrValue_parseValue]

/-- A line sets its stripped value, unless nothing stands after the `=`; and the pass leaves the
stripped string if there is one, the same one when it is made again. -/
theorem locFillConfItem_trimmed (d : Doubles δ) {table : List LocParamS} {entry : LocParamS}
    {target : Nat} (hmem : entry ∈ table) (hptr : entry.paramPtr = some target)
    (htype : ∀ e ∈ table, e.paramName = entry.paramName → e.paramPtr = some target →
      e.paramType = 's') :
    (∀ l : ConfLine, l.WellFormed → l.name = entry.paramName → ∀ m : ConfMem δ,
      (strip l.value ≠ [] →
        (locFillConfItem d l.text table m).2.value target = .str (storedString (strip l.value))) ∧
      (l.post = [] → locFillConfItem d l.text table m = (0, m))) ∧
    ∀ s rest : CString, '\x00' ∉ s →
      ∃ buf, trimSpace (s ++ '\x00' :: rest) = some buf ∧
        (s = [] ∨ strip s ≠ [] → cString buf = strip s) ∧
        (trimSpace buf).map cString = some (cString buf) := by
  constructor
  · intro l hl hname m
    constructor
    · intro hvalue
      exact locFillConfItem_string d hl hvalue hmem hname.symm hptr (hname ▸ htype) m
    · intro hpost
      rw [ConfLine.text, hpost]
      exact locFillConfItem_of_no_value d (ConfLine.equals_pre hl) table m
  · intro s rest hs
    obtain ⟨buf, hbuf, hstring, hidem⟩ := cString_trimSpace hs rest
    refine ⟨buf, hbuf, ?_, hidem⟩
    rintro (rfl | hstrip)
    · exact hstring
    · rw [hstring, locUtilTrimSpace_of_strip hstrip]

/-- `BASEBAND` as the only record of a table. -/
def basebandRecord : LocParamS := ⟨"BASEBAND".toList, some 0, none, 's'⟩

/-- The line `BASEBAND = msm \n`. -/
def basebandLine : ConfLine := ⟨[], "BASEBAND".toList, [' '], [' '], "msm".toList, [' '], true⟩

theorem wellFormed_basebandLine : basebandLine.WellFormed where
  spaces₁ := fun _ h => absurd h List.not_mem_nil
  spaces₂ := fun _ h => List.mem_singleton.mp h ▸ rfl
  spaces₃ := fun _ h => List.mem_singleton.mp h ▸ rfl
  spaces₄ := fun _ h => List.mem_singleton.mp h ▸ rfl
  nameNe := by decide
  nameStrip := by decide
  nameEquals := by decide
  valueEquals := by decide

theorem locFillConfItem_trimmed_baseband :
    (locFillConfItem (⟨fun _ => 0, 0⟩ : Doubles Int) basebandLine.text [basebandRecord]
      ⟨fun _ => .str [], fun _ => 0, []⟩).2.value 0 = .str "msm".toList :=
  ((locFillConfItem_trimmed (⟨fun _ => 0, 0⟩ : Doubles Int)
    (show basebandRecord ∈ [basebandRecord] from List.mem_cons_self) rfl
    (fun e he _ _ => by rw [List.mem_singleton.mp he]; rfl)).1
    basebandLine wellFormed_basebandLine rfl _).1 (by decide)

/-- The line `BASEBAND=` leaves the old value, and a space is not trimmed. -/
theorem locFillConfItem_baseband_empty :
    (locFillConfItem (⟨fun _ => 0, 0⟩ : Doubles Int)
        (ConfLine.mk [] "BASEBAND".toList [] [] [] [] false).text [basebandRecord]
        ⟨fun _ => .str "msm".toList, fun _ => 0, []⟩).2.value 0
        ≠ .str (storedString (strip [])) ∧
      (trimSpace [' ', '\x00']).map cString ≠ some (strip [' ']) := by
  decide

end LocCfg

end LocHal.Util
