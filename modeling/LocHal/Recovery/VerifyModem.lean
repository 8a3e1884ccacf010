import LocHal.Lib.CivilTime
import LocHal.Recovery.BmSearch
import LocHal.Util.LocIpc
import Mathlib.Data.List.TakeWhile
import Mathlib.Tactic.IntervalCases

/-!
# `LocHal.Recovery.VerifyModem`: is the modem new enough?

The updater script calls `op3.verify_modem` with the time stamp of the modem that the build needs.
`get_modem_version` maps the modem partition, looks for the first `MODEM_VER_STR` and copies what
follows into a buffer for 19 characters. `VerifyModemFn` reads both stamps with `strptime`, which
begins with a cleared `struct tm`, and compares the results of `mktime`.

`verifyModemFn_iff` goes from the bytes of the partition to the answer: for stamps that exist, the
answer is `1` exactly if the modem is not older. An image without the string aborts the script.

`strptime` keeps what it has stored when it stops, and the source does not look at its result. So
the theorem is for stamps: with four digits for the year, and a date and a time that exist
(`Stamp`). Such a stamp is read whatever follows it (`civil_strptime`), and the 19 characters of the
buffer are enough for it.

The comparison is in seconds, and a reader wants it in the calendar. `LocHal.Lib.CivilTime` has the
step from one to the other, which needs times that exist. Both stamps are taken for local time, so
the offset of the time zone does not matter.
-/

set_option autoImplicit false

namespace LocHal.Recovery

open StringSearch
open LocHal.Util (isDigit isSpace ofDecimal)

/-! ### The time functions -/

/-- The members of `struct tm` that are read. -/
structure Tm where
  tm_year : Int
  tm_mon : Int
  tm_mday : Int
  tm_hour : Int
  tm_min : Int
  tm_sec : Int
  deriving DecidableEq, Repr

/-- A cleared `struct tm`. -/
def Tm.zero : Tm := ⟨0, 0, 0, 0, 0, 0⟩

/-- The time of a `struct tm`, with the year as it is written. -/
def Tm.civil (tm : Tm) : CivilTime :=
  ⟨tm.tm_year + 1900, tm.tm_mon, tm.tm_mday, tm.tm_hour, tm.tm_min, tm.tm_sec⟩

/-- `mktime`, for local time that is `gmtoff` seconds ahead. -/
def mktime (gmtoff : Int) (tm : Tm) : Int := tm.civil.seconds - gmtoff

/-- A part of a format of `strptime`: a number with its greatest width and its range, blanks, or a
character. -/
inductive Directive where
  | number (store : Tm → Int → Tm) (width llim ulim : Nat)
  | blanks
  | literal (c : UInt8)

/-- A number of at most `width` digits, and what follows it. -/
def readNumber (width llim ulim : Nat) (s : List UInt8) : Option (Nat × List UInt8) :=
  let digits := (s.take width).takeWhile isDigit
  let n := ofDecimal digits
  if digits ≠ [] ∧ llim ≤ n ∧ n ≤ ulim then some (n, s.drop digits.length) else none

/-- `strptime`. Where the text does not match it stops, and keeps what it has stored. -/
def strptime : List Directive → List UInt8 → Tm → Tm
  | [], _, tm => tm
  | .number store width llim ulim :: format, s, tm =>
      match readNumber width llim ulim s with
      | some (n, rest) => strptime format rest (store tm n)
      | none => tm
  | .blanks :: format, s, tm => strptime format (s.dropWhile isSpace) tm
  | .literal c :: format, s, tm =>
      match s with
      | c' :: rest => if c' = c then strptime format rest tm else tm
      | [] => tm

/-- `%Y-%m-%d %H:%M:%S`. -/
def stampFormat : List Directive :=
  [.number (fun tm n => { tm with tm_year := n - 1900 }) 4 0 9999, .literal 45,
    .number (fun tm n => { tm with tm_mon := n - 1 }) 2 1 12, .literal 45,
    .number (fun tm n => { tm with tm_mday := n }) 2 1 31, .blanks,
    .number (fun tm n => { tm with tm_hour := n }) 2 0 23, .literal 58,
    .number (fun tm n => { tm with tm_min := n }) 2 0 59, .literal 58,
    .number (fun tm n => { tm with tm_sec := n }) 2 0 61]

/-! ### The updater -/

/-- `MODEM_VER_BUF_LEN`. -/
def modemVerBufLen : Nat := 20

/-- `ENOENT`. -/
def enoent : Int := 2

/-- The characters before the first NUL. -/
def cStr (s : List UInt8) : List UInt8 := s.takeWhile (· ≠ 0)

/-- `get_modem_version`: the result, and `ver_str`. The partition is mapped, or `errno` says why
not. What follows the mapped bytes reads as NUL. -/
def getModemVersion (modem : Except Int (List UInt8)) (tables : Tables modemVerStr) (len : Nat) :
    Option (Int × List UInt8) :=
  match modem with
  | .error errno => some (errno, [])
  | .ok modem_data => do
      match ← bmSearch modem_data modemVerStr tables with
      | some offset =>
          some (0, (cStr (modem_data.drop (offset.toNat + modemVerStr.length))).take (len - 1))
      | none => some (-enoent, [])

/-- The codes of `ErrorAbort` that are used. -/
inductive ErrorCode where
  | kVendorFailure
  | kArgsParsingFailure
  deriving DecidableEq, Repr

/-- What a function of the updater script returns. -/
inductive Value where
  | StringValue (value : String)
  | ErrorAbort (code : ErrorCode) (message : String)
  deriving DecidableEq, Repr

/-- `VerifyModemFn`. An argument is evaluated to its characters, or it cannot be evaluated. -/
def verifyModemFn (gmtoff : Int) (name : String) (modem : Except Int (List UInt8))
    (tables : Tables modemVerStr) (argv : List (Option (List UInt8))) : Option Value := do
  let (ret, current_modem_version) ← getModemVersion modem tables modemVerBufLen
  if ret ≠ 0 then
    some (.ErrorAbort .kVendorFailure
      s!"{name}() failed to read current MODEM build time-stamp: {ret}")
  else
    match argv.head?.join with
    | none => some (.ErrorAbort .kArgsParsingFailure s!"{name}() error parsing arguments")
    | some modem_version =>
        let tm1 := strptime stampFormat current_modem_version .zero
        let tm2 := strptime stampFormat (cStr modem_version) .zero
        some (.StringValue (toString (if mktime gmtoff tm2 ≤ mktime gmtoff tm1 then 1 else ret)))

/-! ### Time stamps -/

/-- A time of four year digits that exists. -/
structure Stamp where
  time : CivilTime
  valid : time.Valid
  year_nonneg : 0 ≤ time.year
  year_lt : time.year < 10000

/-- The last `width` decimal digits of a number. -/
def decimalDigits : Nat → Nat → List UInt8
  | 0, _ => []
  | width + 1, n => decimalDigits width (n / 10) ++ [.ofNat (48 + n % 10)]

/-- The stamp as it is written. -/
def Stamp.render (t : Stamp) : List UInt8 :=
  decimalDigits 4 t.time.year.toNat ++ 45 :: (decimalDigits 2 (t.time.month.toNat + 1) ++
    45 :: (decimalDigits 2 t.time.day.toNat ++ 32 :: (decimalDigits 2 t.time.hour.toNat ++
      58 :: (decimalDigits 2 t.time.minute.toNat ++ 58 :: decimalDigits 2 t.time.second.toNat))))

theorem length_decimalDigits (width n : Nat) : (decimalDigits width n).length = width := by
  induction width generalizing n with
  | zero => rfl
  | succ width ih => rw [decimalDigits, List.length_append, ih, List.length_singleton]

/-- A digit, as a character and as a number. -/
theorem digit_spec (n : Nat) :
    isDigit (.ofNat (48 + n % 10)) = true ∧ (UInt8.ofNat (48 + n % 10)).toNat = 48 + n % 10 := by
  have hlt := Nat.mod_lt n (show 10 > 0 by decide)
  generalize n % 10 = d at hlt
  interval_cases d <;> decide

theorem isDigit_of_mem_decimalDigits {width n : Nat} {b : UInt8} (h : b ∈ decimalDigits width n) :
    isDigit b = true := by
  induction width generalizing n with
  | zero => cases h
  | succ width ih =>
      rw [decimalDigits, List.mem_append, List.mem_singleton] at h
      rcases h with h | rfl
      · exact ih h
      · exact (digit_spec n).1

/-- The digits are read back. -/
theorem ofDecimal_decimalDigits (width n : Nat) :
    ofDecimal (decimalDigits width n) = n % 10 ^ width := by
  induction width generalizing n with
  | zero => exact (Nat.mod_one n).symm
  | succ width ih =>
      rw [decimalDigits, Util.ofDecimal_append, ih, List.foldl_cons, List.foldl_nil,
        (digit_spec n).2, Nat.pow_succ']
      have hsplit := Nat.mod_mul (x := n) (a := 10) (b := 10 ^ width)
      omega

/-- A number of full width that is in its range. -/
theorem readNumber_decimalDigits {width n llim ulim : Nat} (hwidth : 0 < width)
    (hn : n < 10 ^ width) (hllim : llim ≤ n) (hulim : n ≤ ulim) (rest : List UInt8) :
    readNumber width llim ulim (decimalDigits width n ++ rest) = some (n, rest) := by
  have hlength := length_decimalDigits width n
  have hdigits : ((decimalDigits width n ++ rest).take width).takeWhile isDigit
      = decimalDigits width n := by
    rw [List.take_left' hlength, List.takeWhile_eq_self_iff]
    exact fun b hb => isDigit_of_mem_decimalDigits hb
  have hvalue : ofDecimal (decimalDigits width n) = n := by
    rw [ofDecimal_decimalDigits, Nat.mod_eq_of_lt hn]
  have hne : decimalDigits width n ≠ [] := List.length_pos_iff.mp (by rw [hlength]; exact hwidth)
  unfold readNumber
  rw [hdigits]
  dsimp only
  rw [hvalue, if_pos ⟨hne, hllim, hulim⟩, hlength, List.drop_left' hlength]

/-- A number of the format that is there is stored. -/
theorem strptime_number {store : Tm → Int → Tm} {width n llim ulim : Nat} (hwidth : 0 < width)
    (hn : n < 10 ^ width) (hllim : llim ≤ n) (hulim : n ≤ ulim) (format : List Directive)
    (rest : List UInt8) (tm : Tm) :
    strptime (.number store width llim ulim :: format) (decimalDigits width n ++ rest) tm
      = strptime format rest (store tm n) := by
  rw [strptime, readNumber_decimalDigits hwidth hn hllim hulim]

theorem strptime_literal (c : UInt8) (format : List Directive) (rest : List UInt8) (tm : Tm) :
    strptime (.literal c :: format) (c :: rest) tm = strptime format rest tm := by
  rw [strptime, if_pos rfl]

theorem isSpace_of_isDigit {b : UInt8} (h : isDigit b = true) : isSpace b = false := by
  unfold isDigit at h
  unfold isSpace
  simp only [Bool.and_eq_true, decide_eq_true_eq, UInt8.le_iff_toNat_le] at h
  have hne : b ≠ 32 := fun heq => by
    rw [heq] at h
    exact absurd h.1 (by decide)
  have hgt : ¬ b ≤ 13 := fun hle => by
    have hnat := UInt8.le_iff_toNat_le.mp hle
    have hlow : (48 : UInt8).toNat = 48 ∧ (13 : UInt8).toNat = 13 := ⟨rfl, rfl⟩
    omega
  rw [decide_eq_false hne, decide_eq_false hgt, Bool.and_false, Bool.or_false]

/-- One blank before a number. -/
theorem strptime_blank (format : List Directive) {width n : Nat} (hwidth : 0 < width)
    (rest : List UInt8) (tm : Tm) :
    strptime (.blanks :: format) (32 :: (decimalDigits width n ++ rest)) tm
      = strptime format (decimalDigits width n ++ rest) tm := by
  have hdrop : (32 :: (decimalDigits width n ++ rest)).dropWhile isSpace
      = decimalDigits width n ++ rest := by
    rw [List.dropWhile_cons_of_pos (by decide)]
    have hlength := length_decimalDigits width n
    cases hdigits : decimalDigits width n with
    | nil =>
        rw [hdigits] at hlength
        exact absurd hlength (Nat.ne_of_lt hwidth)
    | cons b bs =>
        have hb : isDigit b = true :=
          isDigit_of_mem_decimalDigits (hdigits ▸ List.mem_cons_self)
        rw [List.cons_append, List.dropWhile_cons_of_neg]
        rw [isSpace_of_isDigit hb]
        exact Bool.false_ne_true
  rw [strptime, hdrop]

/-- A stamp is read as its time, whatever follows it. -/
theorem civil_strptime (t : Stamp) (rest : List UInt8) :
    (strptime stampFormat (t.render ++ rest) .zero).civil = t.time := by
  have hyear := And.intro t.year_nonneg t.year_lt
  have hmonth := And.intro t.valid.month_nonneg t.valid.month_lt
  have hday := And.intro t.valid.day_pos t.valid.day_le
  have hmax := CivilTime.daysInMonth_le (CivilTime.isLeap t.time.year) t.time.month.toNat
  have hhour := And.intro t.valid.hour_nonneg t.valid.hour_lt
  have hminute := And.intro t.valid.minute_nonneg t.valid.minute_lt
  have hsecond := And.intro t.valid.second_nonneg t.valid.second_lt
  unfold Stamp.render stampFormat
  simp only [List.append_assoc, List.cons_append]
  rw [strptime_number (by decide) (by omega) (by omega) (by omega), strptime_literal,
    strptime_number (by decide) (by omega) (by omega) (by omega), strptime_literal,
    strptime_number (by decide) (by omega) (by omega) (by omega), strptime_blank _ (by decide),
    strptime_number (by decide) (by omega) (by omega) (by omega), strptime_literal,
    strptime_number (by decide) (by omega) (by omega) (by omega), strptime_literal,
    strptime_number (by decide) (by omega) (by omega) (by omega), strptime]
  refine CivilTime.eq_of_fields ?_
  unfold CivilTime.fields Tm.civil
  simp only [List.cons.injEq, and_true]
  omega

theorem Stamp.length_render (t : Stamp) : t.render.length = modemVerBufLen - 1 := by
  unfold Stamp.render
  simp only [List.length_append, List.length_cons, length_decimalDigits]
  decide

/-- A stamp has no NUL. -/
theorem Stamp.ne_zero_of_mem_render (t : Stamp) {b : UInt8} (h : b ∈ t.render) : b ≠ 0 := by
  have hdigit : ∀ {width n : Nat}, b ∈ decimalDigits width n → b ≠ 0 := by
    rintro width n hb rfl
    exact absurd (isDigit_of_mem_decimalDigits hb) (by decide)
  unfold Stamp.render at h
  simp only [List.mem_append, List.mem_cons] at h
  rcases h with h | rfl | h | rfl | h | rfl | h | rfl | h | rfl | h
  all_goals first | exact hdigit h | decide

/-- The characters of a stamp before a NUL, whatever follows it. -/
theorem cStr_render (t : Stamp) (rest : List UInt8) :
    cStr (t.render ++ rest) = t.render ++ cStr rest :=
  List.takeWhile_append_of_pos fun _ hb => decide_eq_true (t.ne_zero_of_mem_render hb)

/-! ### The answer -/

/-- The stamp behind the first `MODEM_VER_STR` is the version. -/
theorem getModemVersion_of_occursAt {modem_data : List UInt8} (tables : Tables modemVerStr)
    (hfits : (modem_data.length + 2 * modemVerStr.length : Nat) ≤ intMax) {k : Nat}
    (hoccurs : OccursAt modemVerStr modem_data k) (hfirst : NoneBefore modemVerStr modem_data k)
    (stamp : Stamp) {rest : List UInt8}
    (hstamp : modem_data.drop (k + modemVerStr.length) = stamp.render ++ rest) :
    getModemVersion (.ok modem_data) tables modemVerBufLen = some (0, stamp.render) := by
  have hsearch := bmSearch_modemVerStr modem_data tables hfits
  rw [hfirst.naiveSearch_eq_some (by decide) hoccurs] at hsearch
  unfold getModemVersion
  dsimp only
  rw [hsearch]
  show some (0, (cStr (modem_data.drop (k + modemVerStr.length))).take (modemVerBufLen - 1)) = _
  rw [hstamp, cStr_render, List.take_left' stamp.length_render]

/-- An image without the string has no version. -/
theorem getModemVersion_of_not_occursAt {modem_data : List UInt8} (tables : Tables modemVerStr)
    (hfits : (modem_data.length + 2 * modemVerStr.length : Nat) ≤ intMax)
    (hnone : ∀ k, ¬ OccursAt modemVerStr modem_data k) :
    getModemVersion (.ok modem_data) tables modemVerBufLen = some (-enoent, []) := by
  have hsearch := bmSearch_modemVerStr modem_data tables hfits
  rw [(naiveSearch_eq_none_iff (by decide)).mpr hnone] at hsearch
  unfold getModemVersion
  dsimp only
  rw [hsearch]
  rfl

/-- For an image in which the first `MODEM_VER_STR` is followed by a time stamp, `verify_modem`
answers `1` exactly if the required stamp is not later, field by field. An image without the string
aborts the script. -/
theorem verifyModemFn_iff (gmtoff : Int) (name : String) (modem_data : List UInt8)
    (tables : Tables modemVerStr) (required : Stamp) (trailing : List UInt8)
    (argv : List (Option (List UInt8)))
    (hfits : (modem_data.length + 2 * modemVerStr.length : Nat) ≤ intMax) :
    (∀ (k : Nat) (stamp : Stamp) (rest : List UInt8), OccursAt modemVerStr modem_data k →
      NoneBefore modemVerStr modem_data k →
      modem_data.drop (k + modemVerStr.length) = stamp.render ++ rest →
      verifyModemFn gmtoff name (.ok modem_data) tables (some (required.render ++ trailing) :: argv)
        = some (.StringValue (if required.time.fields ≤ stamp.time.fields then "1" else "0"))) ∧
    ((∀ k, ¬ OccursAt modemVerStr modem_data k) →
      verifyModemFn gmtoff name (.ok modem_data) tables (some (required.render ++ trailing) :: argv)
        = some (.ErrorAbort .kVendorFailure
            s!"{name}() failed to read current MODEM build time-stamp: {-enoent}")) := by
  refine ⟨fun k stamp rest hoccurs hfirst hstamp => ?_, fun hnone => ?_⟩
  · have hmodem := civil_strptime stamp []
    have hrequired := civil_strptime required (cStr trailing)
    rw [List.append_nil] at hmodem
    unfold verifyModemFn
    rw [getModemVersion_of_occursAt tables hfits hoccurs hfirst stamp hstamp]
    show some (Value.StringValue (toString (if mktime gmtoff (strptime stampFormat
      (cStr (required.render ++ trailing)) .zero) ≤ mktime gmtoff (strptime stampFormat
        stamp.render .zero) then (1 : Int) else 0))) = _
    have hle : mktime gmtoff (strptime stampFormat (required.render ++ cStr trailing) .zero)
        ≤ mktime gmtoff (strptime stampFormat stamp.render .zero) ↔
          required.time.fields ≤ stamp.time.fields := by
      unfold mktime
      rw [hmodem, hrequired, Int.sub_le_sub_right_iff]
      exact CivilTime.seconds_le_iff required.valid stamp.valid
    rw [cStr_render, if_congr hle rfl rfl]
    split <;> rfl
  · unfold verifyModemFn
    rw [getModemVersion_of_not_occursAt tables hfits hnone]
    rfl

/-- `2018-02-28 23:59:59`. -/
def beforeMarch : Stamp where
  time := ⟨2018, 1, 28, 23, 59, 59⟩
  valid := ⟨by decide, by decide, by decide, by decide, by decide, by decide, by decide, by decide,
    by decide, by decide⟩
  year_nonneg := by decide
  year_lt := by decide

/-- `2018-03-01 00:00:00`. -/
def inMarch : Stamp where
  time := ⟨2018, 2, 1, 0, 0, 0⟩
  valid := ⟨by decide, by decide, by decide, by decide, by decide, by decide, by decide, by decide,
    by decide, by decide⟩
  year_nonneg := by decide
  year_lt := by decide

theorem verifyModemFn_inMarch :
    verifyModemFn 0 "op3.verify_modem" (.ok (modemVerStr ++ (beforeMarch.render ++ [34])))
      (Tables.zero modemVerStr) [some (inMarch.render ++ [])] = some (.StringValue "0") := by
  have h := (verifyModemFn_iff 0 "op3.verify_modem" (modemVerStr ++ (beforeMarch.render ++ [34]))
    (Tables.zero modemVerStr) inMarch [] [] (by decide)).1 0 beforeMarch [34] (by decide)
    (noneBefore_zero _ _) (by decide)
  rwa [if_neg (by decide)] at h

end LocHal.Recovery
