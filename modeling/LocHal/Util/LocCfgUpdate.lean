import Mathlib.Data.List.Dedup
import Mathlib.Data.List.Forall2
import Mathlib.Data.List.Induction
import LocHal.Util.LocCfg

/-!
# `LocHal.Util.LocCfgUpdate`: the parser of a text and the parser of a file

`loc_update_conf` is the parser of a text that `loc_read_conf_r` is for a file. `SameAsFile` is the
property: whatever the memory held, the two leave the same values in the targets, and
`loc_update_conf` returns the number of records that it has set.

`sameAsFile_iff` is the exact condition. `loc_update_conf` starts its budget one record short, so it
stops after `table_length - 1` settings; it returns the number of the lines it has gone through; and
it does not keep the newline of a line, which `loc_read_conf_r` reads as the value when there is
none. So the two agree only if each line it goes through sets a record of its own
(`sets`, `different`), and what the file does with the newlines (`newline`) and with the one setting
more (`repeats`) makes no difference.

The lines of a text are the pieces between its newlines without the empty ones (`strtok`), and the
lines of the file are the same ones with their newlines (`fileLines_forall₂`). A line that sets a
record sets the same record with its newline (`isSome_lineWrite`), but the newline may become part
of the value, and a line without a value sets a record only with it.

`taken` are the settings within the smaller budget and `extra` is the one more that the file has
room for. `locUpdateConf_eq` and `value_locReadConfR` write the results of the two parsers with
them. `values_iff` is the condition for the values and `length_usedLines_eq_iff` the one for the
number that is returned.

The three hypotheses are about the input: no line is longer than the buffer of `fgets`, the names of
the table are different, and its length fits an `unsigned int`.
-/

set_option autoImplicit false

namespace LocHal.Util

namespace LocCfg

variable {δ : Type}

/-! ### The last value of a target -/

/-- The last value that the settings have for the target. -/
def lastWrite (ws : List (ParamWrite δ)) (target : Nat) : Option (ParamValue δ) :=
  (ws.reverse.find? fun w => w.target = target).map ParamWrite.value

theorem lastWrite_concat (ws : List (ParamWrite δ)) (w : ParamWrite δ) (target : Nat) :
    lastWrite (ws ++ [w]) target
      = if w.target = target then some w.value else lastWrite ws target := by
  unfold lastWrite
  rw [List.reverse_append, List.reverse_singleton, List.singleton_append, List.find?_cons]
  by_cases htarget : w.target = target <;> simp [htarget]

/-- The settings leave each target with its last value. -/
theorem value_foldl_apply (ws : List (ParamWrite δ)) (m : ConfMem δ) (target : Nat) :
    (ws.foldl ConfMem.apply m).value target = (lastWrite ws target).getD (m.value target) := by
  induction ws using List.reverseRecOn with
  | nil => rfl
  | append_singleton ws w ih =>
      rw [List.foldl_append, lastWrite_concat]
      show Function.update (ws.foldl ConfMem.apply m).value w.target w.value target = _
      by_cases htarget : w.target = target
      · rw [← htarget, Function.update_self, if_pos rfl]
        rfl
      · rw [Function.update_of_ne (Ne.symm htarget), if_neg htarget, ih]

/-- The history of the settings. -/
theorem updated_foldl_apply (ws : List (ParamWrite δ)) (m : ConfMem δ) :
    (ws.foldl ConfMem.apply m).updated = m.updated ++ ws.map ParamWrite.entry := by
  induction ws generalizing m with
  | nil => exact (List.append_nil _).symm
  | cons w ws ih =>
      rw [List.foldl_cons, ih, List.map_cons, List.append_cons]
      rfl

/-- Two optional values are the same if they are so whatever stands in for a missing one. -/
theorem eq_of_getD {x y : Option (ParamValue δ)} (h : ∀ v, x.getD v = y.getD v) : x = y := by
  have hne : ParamValue.num (δ := δ) 0 ≠ .num 1 := by simp
  cases x with
  | some v =>
      cases y with
      | some w => exact congrArg some (h v)
      | none => exact absurd ((h (.num 0)).symm.trans (h (.num 1))) hne
  | none =>
      cases y with
      | some w => exact absurd ((h (.num 0)).trans (h (.num 1)).symm) hne
      | none => rfl

/-! ### The lines of a text and of a file -/

/-- The lines of a file that are not empty, with their newlines. -/
def fileLines (text : CString) : List CString := (fgetsAll text).filter (· ≠ ['\n'])

/-- The line of a file for a line of the text: with its newline, which may be missing at the end of
the file. -/
def IsFileLine (fileLine line : CString) : Prop := fileLine = line ++ ['\n'] ∨ fileLine = line

/-- The first line of a text is at least as long as what the text starts with. -/
theorem exists_splitOn_ge {line : CString} (hline : '\n' ∉ line) (text : CString) :
    ∃ l ∈ (line ++ text).splitOn '\n', line.length ≤ l.length := by
  by_cases hmem : '\n' ∈ text
  · obtain ⟨first, rest, rfl, hfirst⟩ := List.eq_append_cons_of_mem hmem
    refine ⟨line ++ first, ?_, by simp⟩
    have hnot : '\n' ∉ line ++ first := by simp [hline, hfirst]
    rw [← List.append_assoc, List.splitOn_append_cons_self_of_not_mem hnot]
    exact List.mem_cons_self
  · have hnot : '\n' ∉ line ++ text := by simp [hline, hmem]
    refine ⟨line ++ text, ?_, by simp⟩
    rw [List.splitOn_eq_singleton hnot]
    exact List.mem_singleton_self _

theorem filter_ne_cons {s l : CString} (h : l ≠ s) (ls : List CString) :
    (l :: ls).filter (· ≠ s) = l :: ls.filter (· ≠ s) :=
  List.filter_cons_of_pos (by simpa using h)

/-- Without long lines, `fgets` returns the lines of the text. `line` is the start of the current
one. -/
theorem fgetsLoop_eq (line : CString) {text : CString} (hline : '\n' ∉ line)
    (hlength : ∀ l ∈ (line.reverse ++ text).splitOn '\n', l.length ≤ 158) :
    List.Forall₂ IsFileLine ((fgetsLoop line text).filter (· ≠ ['\n']))
      (strtok '\n' (line.reverse ++ text)) := by
  have hreverse : '\n' ∉ line.reverse := fun hmem => hline (List.mem_reverse.mp hmem)
  unfold strtok
  induction text generalizing line with
  | nil =>
      rw [List.append_nil, List.splitOn_eq_singleton hreverse]
      unfold fgetsLoop
      by_cases hnil : line = []
      · rw [hnil]
        exact .nil
      · have hne : line.reverse ≠ ['\n'] := fun heq => hreverse (heq ▸ List.mem_singleton_self _)
        have hne' : line.reverse ≠ [] := mt List.reverse_eq_nil_iff.mp hnil
        rw [if_neg hnil, filter_ne_cons hne, filter_ne_cons hne']
        exact .cons (Or.inr rfl) .nil
  | cons c text ih =>
      unfold fgetsLoop
      by_cases hc : c = '\n'
      · subst hc
        rw [List.splitOn_append_cons_self_of_not_mem hreverse] at hlength ⊢
        have hrest := ih [] (List.not_mem_nil (a := '\n')) (fun l hl =>
          hlength l (List.mem_cons_of_mem _ hl)) (List.not_mem_nil (a := '\n'))
        rw [if_pos (Or.inl rfl), List.reverse_cons]
        by_cases hnil : line = []
        · rw [hnil]
          exact hrest
        · have hne : line.reverse ++ ['\n'] ≠ ['\n'] := by simpa using hnil
          have hne' : line.reverse ≠ [] := mt List.reverse_eq_nil_iff.mp hnil
          rw [filter_ne_cons hne, filter_ne_cons hne']
          exact .cons (Or.inl rfl) hrest
      · have hcons : (c :: line).reverse ++ text = line.reverse ++ c :: text := by simp
        have hnot : '\n' ∉ c :: line := fun hmem =>
          (List.mem_cons.mp hmem).elim (fun heq => hc heq.symm) hline
        have hnot' : '\n' ∉ (c :: line).reverse := fun hmem => hnot (List.mem_reverse.mp hmem)
        -- the buffer is not full
        obtain ⟨l, hl, hle⟩ := exists_splitOn_ge hnot' text
        have hlimit := hlength l (hcons ▸ hl)
        rw [List.length_reverse, List.length_cons] at hle
        rw [if_neg (not_or.mpr ⟨hc, by omega⟩), ← hcons]
        exact ih _ hnot (hcons ▸ hlength) hnot'

/-- The lines of a file are the lines of its text with their newlines. -/
theorem fileLines_forall₂ {text : CString}
    (hlength : ∀ l ∈ text.splitOn '\n', l.length ≤ 158) :
    List.Forall₂ IsFileLine (fileLines text) (strtok '\n' text) :=
  fgetsLoop_eq [] List.not_mem_nil hlength

/-- One more character at the end of a line goes to its last part. -/
theorem splitOn_concat {delim c : Char} (hc : c ≠ delim) :
    ∀ {line : CString} {init : List CString} {last : CString},
      line.splitOn delim = init ++ [last] →
        (line ++ [c]).splitOn delim = init ++ [last ++ [c]] := by
  intro line
  induction line with
  | nil =>
      intro init last h
      rw [List.splitOn_nil, ← List.nil_append [[]]] at h
      obtain ⟨rfl, hlast⟩ := List.append_inj' h rfl
      obtain rfl := List.singleton_inj.mp hlast
      exact List.splitOn_eq_singleton fun hmem => hc (List.mem_singleton.mp hmem).symm
  | cons x line ih =>
      intro init last h
      obtain ⟨init', last', hsplit⟩ : ∃ init' last', line.splitOn delim = init' ++ [last'] :=
        ⟨_, _, (List.dropLast_append_getLast (List.splitOn_ne_nil delim line)).symm⟩
      rw [List.cons_append, List.splitOn_cons_eq_if_modifyHead, ih hsplit]
      rw [List.splitOn_cons_eq_if_modifyHead, hsplit] at h
      by_cases hx : (x == delim) = true
      · rw [if_pos hx] at h ⊢
        rw [← List.cons_append] at h
        obtain ⟨rfl, hlast⟩ := List.append_inj' h rfl
        obtain rfl := List.singleton_inj.mp hlast
        rfl
      · rw [if_neg hx] at h ⊢
        cases init' with
        | nil =>
            rw [List.nil_append, List.modifyHead_cons, ← List.nil_append [_ :: _]] at h
            obtain ⟨rfl, hlast⟩ := List.append_inj' h rfl
            obtain rfl := List.singleton_inj.mp hlast
            rfl
        | cons part init' =>
            rw [List.cons_append, List.modifyHead_cons, ← List.cons_append] at h
            obtain ⟨rfl, hlast⟩ := List.append_inj' h rfl
            obtain rfl := List.singleton_inj.mp hlast
            rfl

/-- A line with two tokens has them with its newline too, and the first one is the same. -/
theorem strtok_newline {line name value : CString} {rest : List CString}
    (h : strtok '=' line = name :: value :: rest) :
    ∃ value' rest', strtok '=' (line ++ ['\n']) = name :: value' :: rest' := by
  obtain ⟨init, last, hsplit⟩ : ∃ init last, line.splitOn '=' = init ++ [last] :=
    ⟨_, _, (List.dropLast_append_getLast (List.splitOn_ne_nil '=' line)).symm⟩
  have hlast : ([last ++ ['\n']] : List CString).filter (· ≠ []) = [last ++ ['\n']] := by
    simp
  unfold strtok at h ⊢
  rw [hsplit, List.filter_append] at h
  rw [splitOn_concat (by decide) hsplit, List.filter_append, hlast]
  cases hinit : init.filter (· ≠ []) with
  | nil =>
      -- the last part alone is one token at most
      rw [hinit, List.nil_append] at h
      have hle := List.length_filter_le (· ≠ ([] : CString)) [last]
      rw [h] at hle
      simp at hle
  | cons first init' =>
      rw [hinit] at h
      obtain ⟨rfl, -⟩ := List.cons.inj h
      cases init' with
      | nil => exact ⟨_, _, rfl⟩
      | cons second init' => exact ⟨_, _, rfl⟩

/-- Whether a record is set does not depend on the value. -/
theorem isSome_entryWrite {v v' : LocParamV δ} (hname : v.paramName = v'.paramName)
    (entry : LocParamS) : (entryWrite v entry).isSome = (entryWrite v' entry).isSome := by
  have hstored : (stored entry.paramType v).isSome = (stored entry.paramType v').isSome := by
    unfold stored
    split <;> rfl
  unfold entryWrite
  rw [hname]
  split
  · cases entry.paramPtr with
    | none => rfl
    | some target => simpa using hstored
  · rfl

/-- The empty line of a file sets nothing. -/
theorem lineWrite_newline (d : Doubles δ) (table : List LocParamS) :
    lineWrite d table ['\n'] = none := by
  have htokens : strtok '=' ['\n'] = [['\n']] := by decide
  unfold lineWrite
  rw [htokens]

/-- A line that sets a record sets it in a file too. -/
theorem isSome_lineWrite (d : Doubles δ) {table : List LocParamS} {fileLine line : CString}
    (hfile : IsFileLine fileLine line) (h : (lineWrite d table line).isSome = true) :
    (lineWrite d table fileLine).isSome = true := by
  rcases hfile with rfl | rfl
  · unfold lineWrite at h ⊢
    split at h
    · rename_i name value rest hline
      obtain ⟨value', rest', hnewline⟩ := strtok_newline hline
      rw [hnewline]
      rw [List.findSome?_isSome_iff] at h ⊢
      obtain ⟨entry, hentry, hsome⟩ := h
      refine ⟨entry, hentry, ?_⟩
      rwa [isSome_entryWrite
        ((paramName_parseValue d _ _).trans (paramName_parseValue d _ _).symm)]
    · cases h
  · exact h

theorem filterMap_fileLines (d : Doubles δ) (table : List LocParamS) (text : CString) :
    (fileLines text).filterMap (lineWrite d table)
      = (fgetsAll text).filterMap (lineWrite d table) := by
  unfold fileLines
  rw [List.filterMap_filter]
  refine List.filterMap_congr fun line _ => ?_
  by_cases hline : line = ['\n']
  · rw [hline, lineWrite_newline, ite_self]
  · exact if_pos (by simpa using hline)

/-! ### The lines that are used -/

section Used
variable (d : Doubles δ) (table : List LocParamS)

/-- As many lines are used at least as records may be set. -/
theorem take_prefix_usedLines (n : Nat) (lines : List CString) :
    lines.take n <+: usedLines d table n lines := by
  induction lines generalizing n with
  | nil => simp [usedLines]
  | cons line lines ih =>
      cases n with
      | zero => simp
      | succ n =>
          unfold usedLines
          rw [List.take_succ_cons, List.prefix_cons_inj]
          split
          · exact ih n
          · exact (List.take_prefix_take_left (Nat.le_succ n)).trans (ih (n + 1))

/-- No more are used if each of them sets a record. -/
theorem usedLines_eq_take {n : Nat} {lines : List CString}
    (h : ∀ line ∈ lines.take n, (lineWrite d table line).isSome = true) :
    usedLines d table n lines = lines.take n := by
  induction lines generalizing n with
  | nil => simp [usedLines]
  | cons line lines ih =>
      cases n with
      | zero => rfl
      | succ n =>
          rw [List.take_succ_cons] at h ⊢
          unfold usedLines
          rw [if_pos (h line List.mem_cons_self),
            ih fun line' hline' => h line' (List.mem_cons_of_mem _ hline')]

end Used

/-! ### The two parsers -/

/-- A target of the table. -/
def IsTarget (table : List LocParamS) (target : Nat) : Prop :=
  ∃ entry ∈ table, entry.paramPtr = some target

/-- The text leaves the same values as the file, whatever the memory held, and the number that is
returned is the number of the records that were set. The records are counted from an empty record of
the settings on. -/
structure SameAsFile (d : Doubles δ) (malloc : Bool) (text : CString) (table : List LocParamS) :
    Prop where
  values : ∀ (m : ConfMem δ) target, IsTarget table target →
    (locUpdateConf d malloc text table m).2.value target
      = (locReadConfR d (some (fgetsAll text)) table m).2.1.value target
  returns : ∀ m : ConfMem δ, m.updated = [] → (locUpdateConf d malloc text table m).1
    = ((locUpdateConf d malloc text table m).2.updated.dedup.length : Int)

/-- The settings of the lines up to the budget of `loc_update_conf`. -/
def taken (d : Doubles δ) (table : List LocParamS) (lines : List CString) :
    List (ParamWrite δ) :=
  (lines.take (table.length - 1)).filterMap (lineWrite d table)

/-- The first setting of the lines after them. -/
def extra (d : Doubles δ) (table : List LocParamS) (lines : List CString) :
    Option (ParamWrite δ) :=
  ((lines.drop (table.length - 1)).filterMap (lineWrite d table)).head?

/-- The condition. There are a copy of the text, a text and a table, or the function returns at
once. Each line within its budget sets a record (`sets`), since the function counts lines and not
records, and no record twice (`different`), since the number that it returns counts the lines. The
file reads a line with its newline, which gives another value when a string ends in it: that must
not be the last value of a target (`newline`). And the file has room for one setting more, which
must repeat the value that is there (`repeats`); for its target the newlines do not matter. -/
structure ReadsLikeFile (d : Doubles δ) (malloc : Bool) (text : CString)
    (table : List LocParamS) : Prop where
  copied : malloc = true
  someText : text ≠ []
  someRecord : table ≠ []
  sets : ∀ line ∈ (strtok '\n' text).take (table.length - 1),
    (lineWrite d table line).isSome = true
  different : ((taken d table (strtok '\n' text)).map ParamWrite.entry).Nodup
  newline : ∀ target, IsTarget table target →
    (∀ w ∈ extra d table (fileLines text), w.target ≠ target) →
      lastWrite (taken d table (fileLines text)) target
        = lastWrite (taken d table (strtok '\n' text)) target
  repeats : ∀ w ∈ extra d table (fileLines text),
    lastWrite (taken d table (strtok '\n' text)) w.target = some w.value

/-- A setting is for a target of the table. -/
theorem isTarget_of_lineWrite {d : Doubles δ} {table : List LocParamS} {line : CString}
    {w : ParamWrite δ} (h : lineWrite d table line = some w) : IsTarget table w.target := by
  unfold lineWrite at h
  split at h
  · obtain ⟨entry, hentry, hw⟩ := List.exists_of_findSome?_eq_some h
    exact ⟨entry, hentry, paramPtr_of_entryWrite hw⟩
  · cases h

theorem forall_of_forall₂ {α β : Type} {R : α → β → Prop} {P : α → Prop} {Q : β → Prop}
    {xs : List α} {ys : List β} (h : List.Forall₂ R xs ys) (himp : ∀ x y, R x y → Q y → P x)
    (hys : ∀ y ∈ ys, Q y) : ∀ x ∈ xs, P x := by
  induction h with
  | nil => exact fun x hx => absurd hx List.not_mem_nil
  | cons hxy _ ih =>
      intro x hx
      rcases List.mem_cons.mp hx with rfl | hx
      · exact himp _ _ hxy (hys _ List.mem_cons_self)
      · exact ih (fun y hy => hys y (List.mem_cons_of_mem _ hy)) x hx

theorem take_append_eq {α : Type} {n : Nat} {xs : List α} (hn : n = xs.length + 1)
    (ys : List α) : (xs ++ ys).take n = xs ++ ys.head?.toList := by
  rw [hn, List.take_length_add_append, List.take_one]

/-- The file is read one setting further than the text. -/
theorem take_filterMap_fileLines (d : Doubles δ) {table : List LocParamS} (htable : table ≠ [])
    {text : CString} (hlines : ∀ l ∈ text.splitOn '\n', l.length ≤ 158)
    (hsets : ∀ line ∈ (strtok '\n' text).take (table.length - 1),
      (lineWrite d table line).isSome = true) :
    ((fgetsAll text).filterMap (lineWrite d table)).take table.length
      = taken d table (fileLines text) ++ (extra d table (fileLines text)).toList := by
  have hforall := List.forall₂_take (table.length - 1) (fileLines_forall₂ hlines)
  have hfile : ∀ line ∈ (fileLines text).take (table.length - 1),
      (lineWrite d table line).isSome = true :=
    forall_of_forall₂ hforall (fun _ _ hline hsome => isSome_lineWrite d hline hsome) hsets
  have hlength : (taken d table (fileLines text)).length
      = ((fileLines text).take (table.length - 1)).length :=
    List.filterMap_length_eq_length.mpr hfile
  have hpos := List.length_pos_iff.mpr htable
  rw [← filterMap_fileLines]
  conv_lhs => rw [← List.take_append_drop (table.length - 1) (fileLines text)]
  rw [List.filterMap_append]
  change (taken d table (fileLines text) ++ _).take table.length = _
  unfold extra
  by_cases hle : table.length - 1 ≤ (fileLines text).length
  · -- one setting is left
    rw [List.length_take, Nat.min_eq_left hle] at hlength
    exact take_append_eq (by omega) _
  · have hdrop : (fileLines text).drop (table.length - 1) = [] :=
      List.drop_eq_nil_of_le (by omega)
    rw [List.length_take] at hlength
    rw [hdrop, List.filterMap_nil, List.append_nil, List.take_of_length_le (by omega)]
    exact (List.append_nil _).symm

/-- What the two parsers leave behind. -/
theorem locUpdateConf_eq (d : Doubles δ) {text : CString} {table : List LocParamS}
    (hnames : (table.map LocParamS.paramName).Nodup) (hlen : table.length < 0x100000000)
    (htext : text ≠ []) (htable : table ≠ []) (m : ConfMem δ) :
    locUpdateConf d true text table m
      = (((usedLines d table (table.length - 1) (strtok '\n' text)).length : Int),
        ((usedLines d table (table.length - 1) (strtok '\n' text)).filterMap
          (lineWrite d table)).foldl ConfMem.apply m) := by
  unfold locUpdateConf
  rw [if_pos ⟨htext, htable⟩, if_pos rfl, updateLoop_eq d hnames (by omega), Int.zero_add]

theorem value_locReadConfR (d : Doubles δ) {table : List LocParamS}
    (hnames : (table.map LocParamS.paramName).Nodup) (hlen : table.length < 0x100000000)
    (file : List CString) (m : ConfMem δ) (target : Nat) :
    (locReadConfR d (some file) table m).2.1.value target
      = (lastWrite ((file.filterMap (lineWrite d table)).take table.length) target).getD
          (m.value target) := by
  unfold locReadConfR
  dsimp only
  rw [(readLoop_eq d hnames hlen file _).1, value_foldl_apply]
  rfl

/-- The number that is returned is right if and only if each line sets a record of its own. -/
theorem length_usedLines_eq_iff (d : Doubles δ) (table : List LocParamS)
    (lines : List CString) :
    (usedLines d table (table.length - 1) lines).length
        = (((usedLines d table (table.length - 1) lines).filterMap (lineWrite d table)).map
            ParamWrite.entry).dedup.length ↔
      (∀ line ∈ lines.take (table.length - 1), (lineWrite d table line).isSome = true) ∧
        ((taken d table lines).map ParamWrite.entry).Nodup := by
  constructor
  · intro h
    -- both steps from the lines to the records lose nothing
    have hsettings := List.length_filterMap_le (lineWrite d table)
      (usedLines d table (table.length - 1) lines)
    have hrecords := (List.dedup_sublist (((usedLines d table (table.length - 1) lines).filterMap
      (lineWrite d table)).map ParamWrite.entry)).length_le
    rw [List.length_map] at hrecords
    have hall := List.filterMap_length_eq_length.mp (Nat.le_antisymm hsettings (h ▸ hrecords))
    have hsets : ∀ line ∈ lines.take (table.length - 1),
        (lineWrite d table line).isSome = true := fun line hline =>
      hall line ((take_prefix_usedLines d table _ lines).subset hline)
    refine ⟨hsets, ?_⟩
    rw [usedLines_eq_take d table hsets] at h hsettings
    change _ = ((taken d table lines).map ParamWrite.entry).dedup.length at h
    have hle : ((taken d table lines).map ParamWrite.entry).length
        ≤ ((taken d table lines).map ParamWrite.entry).dedup.length := by
      rw [List.length_map, ← h]
      exact hsettings
    exact List.dedup_eq_self.mp ((List.dedup_sublist _).eq_of_length_le hle)
  · rintro ⟨hsets, hdifferent⟩
    rw [usedLines_eq_take d table hsets]
    change _ = ((taken d table lines).map ParamWrite.entry).dedup.length
    rw [hdifferent.dedup, List.length_map]
    exact (List.filterMap_length_eq_length.mpr hsets).symm

/-- What one more setting and the newlines change. -/
theorem lastWrite_append_toList_eq_iff {ws ws' : List (ParamWrite δ)}
    {extra : Option (ParamWrite δ)} {targets : Nat → Prop}
    (hextra : ∀ w ∈ extra, targets w.target) :
    (∀ target, targets target →
        lastWrite (ws' ++ extra.toList) target = lastWrite ws target) ↔
      (∀ target, targets target → (∀ w ∈ extra, w.target ≠ target) →
        lastWrite ws' target = lastWrite ws target) ∧
      ∀ w ∈ extra, lastWrite ws w.target = some w.value := by
  cases extra with
  | none => simp
  | some w =>
      have hw : targets w.target := hextra w rfl
      simp only [Option.toList_some, lastWrite_concat, Option.mem_def, Option.some.injEq,
        forall_eq']
      constructor
      · intro h
        refine ⟨fun target htarget hne => ?_, ?_⟩
        · have heq := h target htarget
          rwa [if_neg hne] at heq
        · have heq := h w.target hw
          rw [if_pos rfl] at heq
          exact heq.symm
      · rintro ⟨hnewline, hrepeats⟩ target htarget
        by_cases heq : w.target = target
        · rw [if_pos heq, ← heq, hrepeats]
        · rw [if_neg heq]
          exact hnewline target htarget heq

/-- Without a copy of a text or without a table nothing is done. -/
theorem locUpdateConf_fst_of_not (d : Doubles δ) {malloc : Bool} {text : CString}
    {table : List LocParamS} (h : ¬ (malloc = true ∧ text ≠ [] ∧ table ≠ [])) (m : ConfMem δ) :
    (locUpdateConf d malloc text table m).1 = -1 := by
  unfold locUpdateConf
  split
  · rename_i hsome
    rw [if_neg fun hmalloc => h ⟨hmalloc, hsome⟩]
  · rfl

/-- The values agree if and only if the newlines and the one setting more make no difference. -/
theorem values_iff (d : Doubles δ) {text : CString} {table : List LocParamS}
    (hlines : ∀ line ∈ text.splitOn '\n', line.length ≤ 158)
    (hnames : (table.map LocParamS.paramName).Nodup) (hlen : table.length < 0x100000000)
    (htext : text ≠ []) (htable : table ≠ [])
    (hsets : ∀ line ∈ (strtok '\n' text).take (table.length - 1),
      (lineWrite d table line).isSome = true) :
    (∀ (m : ConfMem δ) target, IsTarget table target →
      (locUpdateConf d true text table m).2.value target
        = (locReadConfR d (some (fgetsAll text)) table m).2.1.value target) ↔
      (∀ target, IsTarget table target →
        (∀ w ∈ extra d table (fileLines text), w.target ≠ target) →
          lastWrite (taken d table (fileLines text)) target
            = lastWrite (taken d table (strtok '\n' text)) target) ∧
      ∀ w ∈ extra d table (fileLines text),
        lastWrite (taken d table (strtok '\n' text)) w.target = some w.value := by
  have hextra : ∀ w ∈ extra d table (fileLines text), IsTarget table w.target := fun w hw => by
    obtain ⟨line, -, hline⟩ := List.mem_filterMap.mp (List.mem_of_mem_head? hw)
    exact isTarget_of_lineWrite hline
  have htaken : (usedLines d table (table.length - 1) (strtok '\n' text)).filterMap
      (lineWrite d table) = taken d table (strtok '\n' text) := by
    rw [usedLines_eq_take d table hsets]
    rfl
  rw [← lastWrite_append_toList_eq_iff hextra, ← take_filterMap_fileLines d htable hlines hsets]
  simp only [locUpdateConf_eq d hnames hlen htext htable, htaken, value_foldl_apply,
    value_locReadConfR d hnames hlen]
  constructor
  · intro h target htarget
    exact (eq_of_getD fun v => h ⟨fun _ => v, fun _ => 0, []⟩ target htarget).symm
  · intro h m target htarget
    rw [h target htarget]

/-- `loc_update_conf` does for a text what `loc_read_conf_r` does for a file, and returns the number
of the records it sets, if and only if the condition holds.

Three differences are behind it. The text is read for one record less than the table has, and every
line counts, whether it sets a record or not. A line of a file has its newline, which makes a value
of an empty one. And a text that is empty or cannot be copied is an error. -/
theorem sameAsFile_iff (d : Doubles δ) (malloc : Bool) (text : CString) (table : List LocParamS)
    (hlines : ∀ line ∈ text.splitOn '\n', line.length ≤ 158)
    (hnames : (table.map LocParamS.paramName).Nodup) (hlen : table.length < 0x100000000) :
    SameAsFile d malloc text table ↔ ReadsLikeFile d malloc text table := by
  have hreturns : ∀ m : ConfMem δ, m.updated = [] →
      ∀ ws : List (ParamWrite δ),
        (ws.foldl ConfMem.apply m).updated = ws.map ParamWrite.entry := fun m hm ws => by
    rw [updated_foldl_apply, hm, List.nil_append]
  constructor
  · intro h
    by_cases hok : malloc = true ∧ text ≠ [] ∧ table ≠ []
    · obtain ⟨rfl, htext, htable⟩ := hok
      have hret := h.returns ⟨fun _ => .num 0, fun _ => 0, []⟩ rfl
      rw [locUpdateConf_eq d hnames hlen htext htable] at hret
      dsimp only at hret
      rw [hreturns _ rfl, Int.natCast_inj, length_usedLines_eq_iff] at hret
      obtain ⟨hsets, hdifferent⟩ := hret
      obtain ⟨hnewline, hrepeats⟩ :=
        (values_iff d hlines hnames hlen htext htable hsets).mp h.values
      exact ⟨rfl, htext, htable, hsets, hdifferent, hnewline, hrepeats⟩
    · -- the number would be negative
      have hret := h.returns ⟨fun _ => .num 0, fun _ => 0, []⟩ rfl
      rw [locUpdateConf_fst_of_not d hok] at hret
      omega
  · rintro ⟨rfl, htext, htable, hsets, hdifferent, hnewline, hrepeats⟩
    refine ⟨(values_iff d hlines hnames hlen htext htable hsets).mpr ⟨hnewline, hrepeats⟩,
      fun m hm => ?_⟩
    rw [locUpdateConf_eq d hnames hlen htext htable]
    dsimp only
    rw [hreturns m hm, Int.natCast_inj]
    exact (length_usedLines_eq_iff d table _).mpr ⟨hsets, hdifferent⟩

/-- A table of numbers with these names. Every record has its own target. -/
def numberTable (names : List CString) : List LocParamS :=
  names.mapIdx fun i name => ⟨name, some i, none, 'n'⟩

/-- Two lines, each with a number. -/
def twoLines : CString := "A=1\nB=0x2".toList

/-- A table with a third record leaves room for both lines. -/
theorem sameAsFile_twoLines :
    SameAsFile (⟨fun _ => 0, 0⟩ : Doubles Int) true twoLines
      (numberTable [['A'], ['B'], ['C']]) := by
  refine (sameAsFile_iff _ _ _ _ (by decide) (by decide) (by decide)).mpr
    ⟨rfl, by decide, by decide, by decide, by decide, fun _ _ _ => ?_, by decide⟩
  exact congrArg (lastWrite · _) (by decide)

/-- With a table of two records the second line is not read. -/
theorem not_sameAsFile_twoLines :
    ¬ SameAsFile (⟨fun _ => 0, 0⟩ : Doubles Int) true twoLines
      (numberTable [['A'], ['B']]) := by
  intro h
  have hvalue := h.values ⟨fun _ => .num 0, fun _ => 0, []⟩ 1
    ⟨⟨['B'], some 1, none, 'n'⟩, by decide⟩
  exact absurd hvalue (by decide)

end LocCfg

end LocHal.Util
