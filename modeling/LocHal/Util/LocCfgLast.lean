import LocHal.Util.LocProcessBlocks

/-!
# `LocHal.Util.LocCfgLast`: the last setting of a configuration file

`loc_read_conf` reads a file until it has made as many settings as the table has records, and counts
a record again each time that a line sets it again. `LastLineWins` is what a reader of the file
expects: a record holds the value of its last line. `lastLineWins_iff` is the exact condition: the
last of the settings that are read for the target has that value already.

The lines are those of the text. What `fgets` returns is not quite that: it keeps the newline, which
counts as the value of a line `NAME=`, and it cuts long lines. Without such lines
`lastLineWins_of_length_le` shows that a file with no more settings than records is read to its end.

`settings` are the settings of all lines and `settingsRead` those that the function gets to, which
is a prefix of as many as the table has records. `value_locReadConf` says what a target holds at the
end: the value of the last setting that was read for it, or what it held before. The function reads
the file a second time for a table of its own, which leaves the targets of the other one alone if it
has none of them (`hown`).

`lastLineWins_of_length_le` connects this with a bound that a reader can check: if there are no more
settings than records, the whole file is read. The hypotheses are about the newlines and about
records that share a target.
-/

set_option autoImplicit false

namespace LocHal.Util

namespace LocCfg

variable {δ : Type}

/-- What the lines of the text set, one after the other. -/
def settings (d : Doubles δ) (table : List LocParamS) (text : CString) : List (ParamWrite δ) :=
  (text.splitOn '\n').filterMap (lineWrite d table)

/-- What the strings that `fgets` returns set, up to the budget. -/
def settingsRead (d : Doubles δ) (table : List LocParamS) (text : CString) :
    List (ParamWrite δ) :=
  ((fgetsAll text).filterMap (lineWrite d table)).take table.length

/-- The last setting of a record. -/
def lastSetting (ws : List (ParamWrite δ)) (entry : LocParamS) : Option (ParamWrite δ) :=
  ws.reverse.find? fun w => w.entry = entry

/-- Each record that a line of the file sets holds the value of its last line, whatever the memory
held. The lines are those of the whole text, also those that `loc_read_conf` does not get to. -/
def LastLineWins (d : Doubles δ) (text : CString) (table : List LocParamS) : Prop :=
  ∀ entry ∈ table, ∀ w ∈ lastSetting (settings d table text) entry,
    ∀ m : ConfMem δ, (locReadConf d (some text) table m).value w.target = w.value

/-- The last setting that is read for the target has the value of the last line. Either the line
itself is read, with the newline making no difference, or an earlier one has set the same value. A
record whose last line is not read keeps the value of the last one that is, so this is all that can
go wrong. -/
def LastLineRead (d : Doubles δ) (text : CString) (table : List LocParamS) : Prop :=
  ∀ entry ∈ table, ∀ w ∈ lastSetting (settings d table text) entry,
    lastWrite (settingsRead d table text) w.target = some w.value

theorem mem_of_lastSetting {ws : List (ParamWrite δ)} {entry : LocParamS} {w : ParamWrite δ}
    (h : lastSetting ws entry = some w) : w ∈ ws ∧ w.entry = entry :=
  ⟨List.mem_reverse.mp (List.mem_of_find?_eq_some h), by simpa using List.find?_some h⟩

/-- A setting of a text is for a record of the table and its target. -/
theorem paramPtr_of_mem_settings {d : Doubles δ} {table : List LocParamS} {text : CString}
    {w : ParamWrite δ} (h : w ∈ settings d table text) :
    w.entry ∈ table ∧ w.entry.paramPtr = some w.target := by
  obtain ⟨line, -, hline⟩ := List.mem_filterMap.mp h
  unfold lineWrite at hline
  split at hline
  · obtain ⟨entry, hentry, hw⟩ := List.exists_of_findSome?_eq_some hline
    -- the record is the one whose name the line has
    rw [(paramName_of_entryWrite hw).2]
    exact ⟨hentry, paramPtr_of_entryWrite hw⟩
  · cases hline

/-- The second pass sets its own variables only. -/
theorem value_locReadConf (d : Doubles δ) {table : List LocParamS}
    (hnames : (table.map LocParamS.paramName).Nodup) (hlen : table.length < 0x100000000)
    (hown : ∀ target, IsTarget table target → ¬ IsTarget locParamTable target) (text : CString)
    (m : ConfMem δ) {target : Nat} (htarget : IsTarget table target) :
    (locReadConf d (some text) table m).value target
      = (lastWrite (settingsRead d table text) target).getD (m.value target) := by
  have hne : table ≠ [] := by
    obtain ⟨entry, hentry, -⟩ := htarget
    exact List.ne_nil_of_mem hentry
  -- the file is read for the table, and again for the table of the library
  show (locReadConfR d (some (fgetsAll text)) locParamTable
    (if table = [] then m else (locReadConfR d (some (fgetsAll text)) table m).2.1)).2.1.value
      target = _
  rw [value_locReadConfR_of_not_isTarget d (by decide) (by decide) _ _ (hown target htarget),
    if_neg hne, value_locReadConfR d hnames hlen]
  rfl

/-- The last line wins exactly when its value is the last one read. The variables of the second
table are the program's own.

A line that sets a record again uses up the budget like a first one, so the last lines of a file
with repetitions may not be read. The condition compares the values, since a line that is not read
does no harm if it says what is there already. -/
theorem lastLineWins_iff (d : Doubles δ) (text : CString) {table : List LocParamS}
    (hnames : (table.map LocParamS.paramName).Nodup) (hlen : table.length < 0x100000000)
    (hown : ∀ target, IsTarget table target → ¬ IsTarget locParamTable target) :
    LastLineWins d text table ↔ LastLineRead d text table := by
  have hvalue : ∀ entry w, lastSetting (settings d table text) entry = some w →
      ∀ m : ConfMem δ, (locReadConf d (some text) table m).value w.target
        = (lastWrite (settingsRead d table text) w.target).getD (m.value w.target) := by
    intro entry w hw m
    obtain ⟨hentry, hptr⟩ := paramPtr_of_mem_settings (mem_of_lastSetting hw).1
    exact value_locReadConf d hnames hlen hown text m ⟨w.entry, hentry, hptr⟩
  constructor
  · intro hwins entry hentry w hw
    refine eq_of_getD fun v => ?_
    -- whatever stands in for a missing value was in the memory
    have h := hwins entry hentry w hw ⟨fun _ => v, fun _ => 0, []⟩
    rwa [hvalue entry w hw] at h
  · intro hread entry hentry w hw m
    rw [hvalue entry w hw, hread entry hentry w hw]
    rfl

/-- Two lines for `A`, an unknown name and a line without a value between them. -/
def repeatedLines : CString := "A=1\nX=9\nB=2\nB\nA=3".toList

/-- The settings are as many as the records, so the second line for `A` is read. -/
theorem lastLineWins_repeatedLines :
    (settings (⟨fun _ => 0, 0⟩ : Doubles Int) (numberTable [['A'], ['B'], ['C']])
        repeatedLines).map ParamWrite.value = [.num 1, .num 2, .num 3] ∧
      LastLineWins (⟨fun _ => 0, 0⟩ : Doubles Int) repeatedLines
        (numberTable [['A'], ['B'], ['C']]) := by
  refine ⟨by decide, (lastLineWins_iff _ _ (by decide) (by decide) ?_).mpr
    (by unfold LastLineRead; decide)⟩
  rintro target ⟨entry, hentry, hptr⟩ ⟨entry', hentry', hptr'⟩
  have hne : ∀ entry ∈ numberTable [['A'], ['B'], ['C']], ∀ entry' ∈ locParamTable,
      entry.paramPtr ≠ entry'.paramPtr := by decide
  exact hne entry hentry entry' hentry' (hptr.trans hptr'.symm)

/-- The two lines for `A` use up the budget, and `B` is not read. -/
theorem not_lastLineWins_repeated :
    ¬ LastLineWins (⟨fun _ => 0, 0⟩ : Doubles Int) "A=1\nA=2\nB=3".toList
      (numberTable [['A'], ['B']]) := by
  intro h
  have hvalue := h ⟨['B'], some 1, none, 'n'⟩ (by decide) ⟨⟨['B'], some 1, none, 'n'⟩, 1, .num 3⟩
    (by decide) ⟨fun _ => .num 0, fun _ => 0, []⟩
  exact absurd hvalue (by decide)

/-! ### Short files -/

/-- Lines whose newlines make no difference set the same in a file. -/
theorem filterMap_of_isFileLine {β : Type} {f : CString → Option β} {fileLines lines : List CString}
    (h : List.Forall₂ IsFileLine fileLines lines)
    (hnewline : ∀ line ∈ lines, f (line ++ ['\n']) = f line) :
    fileLines.filterMap f = lines.filterMap f := by
  induction h with
  | nil => rfl
  | @cons fileLine line _ _ hline _ ih =>
      have hsame : f fileLine = f line := by
        rcases hline with rfl | rfl
        · exact hnewline line List.mem_cons_self
        · rfl
      rw [List.filterMap_cons, List.filterMap_cons, hsame,
        ih fun l hl => hnewline l (List.mem_cons_of_mem _ hl)]

/-- With short lines, and if their newlines make no difference, `fgets` hands over what the lines
set. -/
theorem filterMap_fgetsAll (d : Doubles δ) {table : List LocParamS} {text : CString}
    (hlines : ∀ line ∈ text.splitOn '\n', line.length ≤ 158)
    (hnewline : ∀ line ∈ text.splitOn '\n',
      lineWrite d table (line ++ ['\n']) = lineWrite d table line) :
    (fgetsAll text).filterMap (lineWrite d table) = settings d table text := by
  rw [← filterMap_fileLines, filterMap_of_isFileLine (fileLines_forall₂ hlines) fun line hline =>
    hnewline line (List.mem_filter.mp hline).1]
  unfold strtok settings
  rw [List.filterMap_filter]
  -- an empty line sets nothing
  refine List.filterMap_congr fun line _ => ?_
  by_cases hline : line = []
  · rw [hline]
    rfl
  · exact if_pos (by simpa using hline)

/-- When every record has its own target, the last setting of a record is the last one for its
target. -/
theorem lastWrite_of_lastSetting {d : Doubles δ} {table : List LocParamS} {text : CString}
    {entry : LocParamS} {w : ParamWrite δ}
    (htargets : ∀ entry ∈ table, ∀ entry' ∈ table, ∀ target, entry.paramPtr = some target →
      entry'.paramPtr = some target → entry = entry')
    (hw : lastSetting (settings d table text) entry = some w) :
    lastWrite (settings d table text) w.target = some w.value := by
  obtain ⟨hmem, rfl⟩ := mem_of_lastSetting hw
  obtain ⟨hentry, hptr⟩ := paramPtr_of_mem_settings hmem
  -- a setting for the target is one for the record
  have hsame : ∀ w' ∈ (settings d table text).reverse,
      decide (w'.target = w.target) = decide (w'.entry = w.entry) := by
    intro w' hw'
    obtain ⟨hentry', hptr'⟩ := paramPtr_of_mem_settings (List.mem_reverse.mp hw')
    refine decide_eq_decide.mpr ⟨fun heq => ?_, fun heq => ?_⟩
    · exact htargets _ hentry' _ hentry _ (heq ▸ hptr') hptr
    · rw [heq, hptr] at hptr'
      exact (Option.some.inj hptr').symm
  unfold lastSetting at hw
  unfold lastWrite
  rw [← List.head?_filter, List.filter_congr hsame, List.head?_filter, hw]
  rfl

/-- A file that sets no more than the table has records is read to its end. -/
theorem lastLineWins_of_length_le (d : Doubles δ) {text : CString} {table : List LocParamS}
    (hnames : (table.map LocParamS.paramName).Nodup) (hlen : table.length < 0x100000000)
    (hown : ∀ target, IsTarget table target → ¬ IsTarget locParamTable target)
    (htargets : ∀ entry ∈ table, ∀ entry' ∈ table, ∀ target, entry.paramPtr = some target →
      entry'.paramPtr = some target → entry = entry')
    (hlines : ∀ line ∈ text.splitOn '\n', line.length ≤ 158)
    (hnewline : ∀ line ∈ text.splitOn '\n',
      lineWrite d table (line ++ ['\n']) = lineWrite d table line)
    (hbudget : (settings d table text).length ≤ table.length) : LastLineWins d text table := by
  refine (lastLineWins_iff d text hnames hlen hown).mpr fun entry _ w hw => ?_
  unfold settingsRead
  rw [filterMap_fgetsAll d hlines hnewline, List.take_of_length_le hbudget]
  exact lastWrite_of_lastSetting htargets hw

end LocCfg

end LocHal.Util
