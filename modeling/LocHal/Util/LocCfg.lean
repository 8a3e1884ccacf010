import Mathlib.Data.List.Nodup

/-!
# `LocHal.Util.LocCfg`: the configuration parsers

A configuration text is a list of lines `NAME = VALUE`. `loc_read_conf_r` reads lines of a file and
`loc_update_conf` cuts lines out of a text; both hand them to `loc_fill_conf_item`, which sets the
records of a table. The memory behind a table maps the addresses of its targets to values.

Strings are lists of characters without the terminator. A file is the list of the strings that the
next calls of `fgets` return (`fgetsAll`); a string that is cut with `strtok_r` is given by the list
of its tokens (`strtok`). `atof` is a parameter, since it makes floating-point numbers.

`lineWrite` says what one line sets. `locFillConfItem_eq` and the two loops (`readLoop_eq`,
`updateLoop_eq`) reduce the parsers to it, for a table whose names are different.
-/

set_option autoImplicit false

namespace LocHal.Util

/-- A C string without its terminator. -/
abbrev CString := List Char

namespace LocCfg

variable {δ : Type}

/-- `isspace`. -/
def isspace (c : Char) : Bool := c = ' ' || (9 ≤ c.toNat && c.toNat ≤ 13)

/-- What the calls of `strtok_r` with the delimiter return, one after the other. -/
def strtok (delim : Char) (s : CString) : List CString := (s.splitOn delim).filter (· ≠ [])

/-- `loc_util_trim_space`. A string of spaces is left as it is. -/
def locUtilTrimSpace (s : CString) : CString :=
  if s.all isspace then s else ((s.dropWhile isspace).reverse.dropWhile isspace).reverse

/-! ### Numbers -/

/-- The value of a digit. -/
def digit (c : Char) : Nat :=
  if '0' ≤ c ∧ c ≤ '9' then c.toNat - 48
  else if 'a' ≤ c ∧ c ≤ 'z' then c.toNat - 87
  else if 'A' ≤ c ∧ c ≤ 'Z' then c.toNat - 55
  else 36

/-- The number that the string starts with. -/
def digits (base : Nat) (s : CString) : Nat :=
  (s.takeWhile fun c => digit c < base).foldl (fun n c => n * base + digit c) 0

/-- `strtol`, with the range of a `long` of 64 bits. -/
def strtol (base : Nat) (s : CString) : Int :=
  let (negative, s₁) :=
    match s.dropWhile isspace with
    | '-' :: rest => (true, rest)
    | '+' :: rest => (false, rest)
    | rest => (false, rest)
  let s₂ :=
    match s₁ with
    | '0' :: x :: rest => if base = 16 ∧ (x = 'x' ∨ x = 'X') then rest else s₁
    | _ => s₁
  let n : Int := digits base s₂
  if negative then max (-n) (-0x8000000000000000) else min n 0x7fffffffffffffff

/-- The conversion of a `long` to an `int`. -/
def toInt (n : Int) : Int := n.bmod 0x100000000

/-- `atoi`. -/
def atoi (s : CString) : Int := toInt (strtol 10 s)

/-- The floating-point numbers of the C library: `atof`, and the number with all bits zero. -/
structure Doubles (δ : Type) where
  atof : CString → δ
  zero : δ

/-! ### Records -/

/-- What a target holds. -/
inductive ParamValue (δ : Type) where
  | str (s : CString)
  | num (n : Int)
  | dbl (x : δ)
  deriving DecidableEq, Repr

/-- `loc_param_s_type`. The pointers are addresses. -/
structure LocParamS where
  paramName : CString
  paramPtr : Option Nat
  paramSet : Option Nat
  paramType : Char
  deriving DecidableEq, Repr

/-- `loc_param_v_type`. -/
structure LocParamV (δ : Type) where
  paramName : CString
  paramStrValue : CString
  paramIntValue : Int
  paramDoubleValue : δ
  deriving DecidableEq, Repr

/-- The targets and the validity flags, with the history of the records that were set. -/
structure ConfMem (δ : Type) where
  value : Nat → ParamValue δ
  flag : Nat → Nat
  updated : List LocParamS

/-- `*param_ptr = x`, and the validity flag. -/
def ConfMem.store (m : ConfMem δ) (entry : LocParamS) (target : Nat) (x : ParamValue δ) :
    ConfMem δ where
  value := Function.update m.value target x
  flag := entry.paramSet.elim m.flag fun p => Function.update m.flag p 1
  updated := m.updated ++ [entry]

/-- The value that a record of the type stores. `strlcpy` copies up to `LOC_MAX_PARAM_STRING`
characters. -/
def stored (paramType : Char) (v : LocParamV δ) : Option (ParamValue δ) :=
  match paramType with
  | 's' => some (.str (if v.paramStrValue = ['N', 'U', 'L', 'L'] then []
      else v.paramStrValue.take 80))
  | 'n' => some (.num v.paramIntValue)
  | 'f' => some (.dbl v.paramDoubleValue)
  | _ => none

/-- `loc_set_config_entry`. -/
def locSetConfigEntry (entry : LocParamS) (v : LocParamV δ) (m : ConfMem δ) : Int × ConfMem δ :=
  match entry.paramPtr with
  | none => (-1, m)
  | some target =>
      if entry.paramName = v.paramName then
        match stored entry.paramType v with
        | some x => (0, m.store entry target x)
        | none => (-1, m)
      else (-1, m)

/-- The numbers of a value: hexadecimal after `0x`, else decimal and floating-point. -/
def parseValue (d : Doubles δ) (name value : CString) : LocParamV δ :=
  match value with
  | '0' :: x :: c :: rest =>
      if x = 'x' ∨ x = 'X' then ⟨name, value, toInt (strtol 16 (c :: rest)), d.zero⟩
      else ⟨name, value, atoi value, d.atof value⟩
  | _ => ⟨name, value, atoi value, d.atof value⟩

/-- The loop over the table in `loc_fill_conf_item`. -/
def fillTable (v : LocParamV δ) : List LocParamS → Nat → ConfMem δ → Nat × ConfMem δ
  | [], ret, m => (ret, m)
  | entry :: table, ret, m =>
      let (err, m₁) := locSetConfigEntry entry v m
      fillTable v table (if err = 0 then ret + 1 else ret) m₁

/-- `loc_fill_conf_item`. -/
def locFillConfItem (d : Doubles δ) (inputBuf : CString) (table : List LocParamS)
    (m : ConfMem δ) : Nat × ConfMem δ :=
  match strtok '=' inputBuf with
  | name :: value :: _ =>
      fillTable (parseValue d (locUtilTrimSpace name) (locUtilTrimSpace value)) table 0 m
  | _ => (0, m)

/-! ### Files -/

/-- What `fgets` with `LOC_MAX_PARAM_LINE` returns for the rest of a file, call after call. `line`
is the string that the current call has read, the last character first. -/
def fgetsLoop : CString → CString → List CString
  | line, [] => if line = [] then [] else [line.reverse]
  | line, c :: text =>
      if c = '\n' ∨ line.length + 2 = 160 then (c :: line).reverse :: fgetsLoop [] text
      else fgetsLoop (c :: line) text

/-- An open file with this content. -/
def fgetsAll (text : CString) : List CString := fgetsLoop [] text

/-- `num_params -= n` on 32 bits. -/
def subParams (numParams n : Nat) : Nat := (numParams + 0x100000000 - n) % 0x100000000

/-- The loop of `loc_read_conf_r`: the memory and the rest of the file. -/
def readLoop (d : Doubles δ) (table : List LocParamS) :
    Nat → List CString → ConfMem δ → ConfMem δ × List CString
  | _, [], m => (m, [])
  | numParams, line :: file, m =>
      if numParams = 0 then (m, line :: file)
      else
        let (n, m₁) := locFillConfItem d line table m
        readLoop d table (subParams numParams n) file m₁

/-- `*param_set = 0` for every record. -/
def clearFlags (table : List LocParamS) (m : ConfMem δ) : ConfMem δ :=
  { m with flag := fun p => if some p ∈ table.map LocParamS.paramSet then 0 else m.flag p }

/-- `loc_read_conf_r`: what it returns, the memory and the rest of the file. A file is missing if
the pointer is `NULL`. -/
def locReadConfR (d : Doubles δ) (confFp : Option (List CString)) (table : List LocParamS)
    (m : ConfMem δ) : Int × ConfMem δ × List CString :=
  match confFp with
  | none => (-1, m, [])
  | some file => (0, readLoop d table table.length file (clearFlags table m))

/-! ### Texts in memory -/

/-- The loop of `loc_update_conf`. -/
def updateLoop (d : Doubles δ) (table : List LocParamS) :
    Nat → List CString → Int → ConfMem δ → Int × ConfMem δ
  | _, [], ret, m => (ret, m)
  | numParams, line :: lines, ret, m =>
      if numParams = 0 then (ret, m)
      else
        let (n, m₁) := locFillConfItem d line table m
        updateLoop d table (subParams numParams n) lines (ret + 1) m₁

/-- `loc_update_conf`. `malloc` says whether the text can be copied. -/
def locUpdateConf (d : Doubles δ) (malloc : Bool) (confData : CString) (table : List LocParamS)
    (m : ConfMem δ) : Int × ConfMem δ :=
  if confData ≠ [] ∧ table ≠ [] then
    if malloc then updateLoop d table (table.length - 1) (strtok '\n' confData) 0 m else (-1, m)
  else (-1, m)

/-! ### What a line sets -/

/-- A value for the target of a record. -/
structure ParamWrite (δ : Type) where
  entry : LocParamS
  target : Nat
  value : ParamValue δ
  deriving DecidableEq, Repr

/-- The memory after a record was set. -/
def ConfMem.apply (m : ConfMem δ) (w : ParamWrite δ) : ConfMem δ := m.store w.entry w.target w.value

/-- What the value sets in a record. -/
def entryWrite (v : LocParamV δ) (entry : LocParamS) : Option (ParamWrite δ) :=
  if entry.paramName = v.paramName then
    entry.paramPtr.bind fun target => (stored entry.paramType v).map fun x => ⟨entry, target, x⟩
  else none

/-- What the line sets in the table. -/
def lineWrite (d : Doubles δ) (table : List LocParamS) (line : CString) :
    Option (ParamWrite δ) :=
  match strtok '=' line with
  | name :: value :: _ =>
      table.findSome?
        (entryWrite (parseValue d (locUtilTrimSpace name) (locUtilTrimSpace value)))
  | _ => none

/-- A value has the name that it was parsed with. -/
theorem paramName_parseValue (d : Doubles δ) (name value : CString) :
    (parseValue d name value).paramName = name := by
  unfold parseValue
  split
  · split <;> rfl
  · rfl

theorem paramStrValue_parseValue (d : Doubles δ) (name value : CString) :
    (parseValue d name value).paramStrValue = value := by
  unfold parseValue
  split
  · split <;> rfl
  · rfl

/-- The tests for what is set, one after the other. -/
theorem elim_entryWrite {β : Type} (v : LocParamV δ) (entry : LocParamS) (b : β)
    (f : ParamWrite δ → β) :
    (entryWrite v entry).elim b f =
      match entry.paramPtr with
      | none => b
      | some target =>
          if entry.paramName = v.paramName then
            match stored entry.paramType v with
            | some x => f ⟨entry, target, x⟩
            | none => b
          else b := by
  unfold entryWrite
  by_cases hname : entry.paramName = v.paramName
  · rw [if_pos hname]
    cases entry.paramPtr with
    | none => rfl
    | some target =>
        dsimp only
        rw [if_pos hname]
        cases stored entry.paramType v <;> rfl
  · rw [if_neg hname]
    cases entry.paramPtr with
    | none => rfl
    | some target => exact (if_neg hname).symm

theorem locSetConfigEntry_eq (entry : LocParamS) (v : LocParamV δ) (m : ConfMem δ) :
    locSetConfigEntry entry v m
      = (entryWrite v entry).elim (-1, m) fun w => (0, m.apply w) := by
  rw [elim_entryWrite]
  rfl

/-- A value for a record names it. -/
theorem paramName_of_entryWrite {v : LocParamV δ} {entry : LocParamS} {w : ParamWrite δ}
    (h : entryWrite v entry = some w) : entry.paramName = v.paramName ∧ w.entry = entry := by
  unfold entryWrite at h
  split at h
  · rename_i hname
    obtain ⟨target, -, hw⟩ := Option.bind_eq_some_iff.mp h
    obtain ⟨x, -, rfl⟩ := Option.map_eq_some_iff.mp hw
    exact ⟨hname, rfl⟩
  · cases h

/-- A setting is for the target of its record. -/
theorem paramPtr_of_entryWrite {v : LocParamV δ} {entry : LocParamS} {w : ParamWrite δ}
    (h : entryWrite v entry = some w) : entry.paramPtr = some w.target := by
  unfold entryWrite at h
  split at h
  · obtain ⟨target, htarget, hw⟩ := Option.bind_eq_some_iff.mp h
    obtain ⟨x, -, rfl⟩ := Option.map_eq_some_iff.mp hw
    exact htarget
  · cases h

/-- A value that names no record sets none. -/
theorem fillTable_of_not_mem {v : LocParamV δ} {table : List LocParamS}
    (h : v.paramName ∉ table.map LocParamS.paramName) (ret : Nat) (m : ConfMem δ) :
    fillTable v table ret m = (ret, m) := by
  induction table with
  | nil => rfl
  | cons entry table ih =>
      rw [List.map_cons, List.mem_cons, not_or] at h
      have hnone : entryWrite v entry = none := if_neg (Ne.symm h.1)
      unfold fillTable
      rw [locSetConfigEntry_eq, hnone]
      exact ih h.2

/-- Different names: a value sets one record at most. -/
theorem fillTable_eq {v : LocParamV δ} {table : List LocParamS}
    (hnames : (table.map LocParamS.paramName).Nodup) (ret : Nat) (m : ConfMem δ) :
    fillTable v table ret m
      = (table.findSome? (entryWrite v)).elim (ret, m) fun w => (ret + 1, m.apply w) := by
  induction table with
  | nil => rfl
  | cons entry table ih =>
      obtain ⟨hnot, hnames⟩ := List.nodup_cons.mp hnames
      unfold fillTable
      rw [locSetConfigEntry_eq, List.findSome?_cons]
      cases hw : entryWrite v entry with
      | none => exact ih hnames
      | some w =>
          have hname := (paramName_of_entryWrite hw).1
          exact fillTable_of_not_mem (hname ▸ hnot) _ _

/-- A line sets what `lineWrite` says. -/
theorem locFillConfItem_eq (d : Doubles δ) {table : List LocParamS}
    (hnames : (table.map LocParamS.paramName).Nodup) (line : CString) (m : ConfMem δ) :
    locFillConfItem d line table m
      = (lineWrite d table line).elim (0, m) fun w => (1, m.apply w) := by
  unfold locFillConfItem lineWrite
  split
  · exact fillTable_eq hnames 0 m
  · rfl

/-! ### The loops -/

theorem subParams_zero {n : Nat} (hn : n < 0x100000000) : subParams n 0 = n := by
  unfold subParams
  omega

theorem subParams_succ {n : Nat} (hn : n + 1 < 0x100000000) : subParams (n + 1) 1 = n := by
  unfold subParams
  omega

/-- The loop over the file applies the first settings of its lines, and leaves the others in the
file. -/
theorem readLoop_eq (d : Doubles δ) {table : List LocParamS}
    (hnames : (table.map LocParamS.paramName).Nodup) {numParams : Nat}
    (hnum : numParams < 0x100000000) (file : List CString) (m : ConfMem δ) :
    (readLoop d table numParams file m).1
        = ((file.filterMap (lineWrite d table)).take numParams).foldl ConfMem.apply m ∧
      (readLoop d table numParams file m).2.filterMap (lineWrite d table)
        = (file.filterMap (lineWrite d table)).drop numParams := by
  induction file generalizing numParams m with
  | nil => exact ⟨by rw [List.filterMap_nil, List.take_nil]; rfl, by
      rw [List.filterMap_nil, List.drop_nil]; rfl⟩
  | cons line file ih =>
      unfold readLoop
      cases numParams with
      | zero => exact ⟨rfl, rfl⟩
      | succ numParams =>
          rw [if_neg (Nat.succ_ne_zero _), locFillConfItem_eq d hnames, List.filterMap_cons]
          cases hline : lineWrite d table line with
          | none =>
              dsimp only [Option.elim]
              rw [subParams_zero hnum]
              exact ih hnum m
          | some w =>
              dsimp only [Option.elim]
              rw [subParams_succ hnum]
              exact ih (Nat.lt_of_succ_lt hnum) _

/-- The lines that the loop over a text goes through. -/
def usedLines (d : Doubles δ) (table : List LocParamS) : Nat → List CString → List CString
  | _, [] => []
  | 0, _ :: _ => []
  | n + 1, line :: lines =>
      line :: usedLines d table (if (lineWrite d table line).isSome then n else n + 1) lines

/-- The loop over the text counts the lines it goes through. -/
theorem updateLoop_eq (d : Doubles δ) {table : List LocParamS}
    (hnames : (table.map LocParamS.paramName).Nodup) {numParams : Nat}
    (hnum : numParams < 0x100000000) (lines : List CString) (ret : Int) (m : ConfMem δ) :
    updateLoop d table numParams lines ret m
      = (ret + (usedLines d table numParams lines).length,
        ((usedLines d table numParams lines).filterMap (lineWrite d table)).foldl
          ConfMem.apply m) := by
  induction lines generalizing numParams ret m with
  | nil => simp [updateLoop, usedLines]
  | cons line lines ih =>
      unfold updateLoop
      cases numParams with
      | zero => simp [usedLines]
      | succ numParams =>
          unfold usedLines
          rw [if_neg (Nat.succ_ne_zero _), locFillConfItem_eq d hnames, List.filterMap_cons,
            List.length_cons]
          have hret : ∀ n : Nat, ret + 1 + (n : Int) = ret + ((n + 1 : Nat) : Int) := fun n => by
            omega
          cases hline : lineWrite d table line with
          | none =>
              dsimp only [Option.elim]
              rw [subParams_zero hnum, ih hnum, hret]
              rfl
          | some w =>
              dsimp only [Option.elim]
              rw [subParams_succ hnum, ih (Nat.lt_of_succ_lt hnum), hret]
              rfl

end LocCfg

end LocHal.Util
