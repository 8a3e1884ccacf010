import Mathlib.Algebra.GroupWithZero.Nat
import LocHal.Util.LocNmea

/-!
# `LocHal.Util.NmeaPrint`: printed numbers, and pieces that fit

How long a printed integer is and which characters it has, and what `tryPrint` and `snprintf` do
with a piece that fits the buffer.

The sentences are built in a buffer of 200 characters, piece by piece, and most pieces are checked:
`snprintf` returns the length that it would have printed, and the function gives up if that is not
less than the room that is left. So a bound on the length of each piece shows that none of them is
cut (`foldlM_tryPrint`).

A sentence is read as fields. `commas` prints a list of fields with a comma behind each, and
`splitOn_commas` gets the fields back if none of them has a comma. `IsPlain` says that of a text,
together with `$` and `*`; what is printed of numbers is plain. For integers this is proved, and for
floating-point numbers it is an assumption on the conversion (`PrintsNumbers`), with the lengths
that `printf` can have.
-/

set_option autoImplicit false

namespace LocHal.Util.LocNmea

/-! ### Integers -/

theorem length_zeroPad (width : Nat) (ds : CString) :
    (zeroPad width ds).length = max width ds.length := by
  rw [zeroPad, List.length_append, List.length_replicate]
  omega

theorem length_toDigits_le {n k : Nat} (hk : 0 < k) (h : n < 10 ^ k) :
    (Nat.toDigits 10 n).length ≤ k :=
  (Nat.length_toDigits_le_iff (by decide) hk).mpr h

/-- A number that is not negative has its digits, or the width. -/
theorem length_formatD_natCast_le (width : Nat) {n k : Nat} (hk : 0 < k) (h : n < 10 ^ k) :
    (formatD width (n : Int)).length ≤ max width k := by
  rw [formatD, if_neg (by omega), length_zeroPad, Int.natAbs_natCast]
  have := length_toDigits_le hk h
  omega

theorem length_formatD_le (width : Nat) {k : Nat} {n : Int} (hk : 0 < k) (h : n.natAbs < 10 ^ k) :
    (formatD width n).length ≤ max width (k + 1) := by
  have := length_toDigits_le hk h
  unfold formatD
  split
  · rw [List.length_cons, length_zeroPad]
    omega
  · rw [length_zeroPad]
    omega

/-- An `int` has eleven characters at most. -/
theorem length_formatD_int_le (width : Nat) (x : BitVec 32) :
    (formatD width x.toInt).length ≤ max width 11 := by
  have hlt := BitVec.toInt_lt (x := x)
  have hle := BitVec.le_toInt (x := x)
  exact length_formatD_le width (by decide) (by omega)

theorem length_formatPrecision_le {n : Int} (h : n.natAbs < 100) :
    (formatPrecision n).length ≤ 3 := by
  have := length_toDigits_le (k := 2) (by decide) h
  unfold formatPrecision
  split
  · rw [List.length_cons, length_zeroPad]
    omega
  · rw [length_zeroPad]
    omega

theorem length_formatPrecision_natCast_le {n : Nat} (h : n < 100) :
    (formatPrecision (n : Int)).length ≤ 2 := by
  have := length_toDigits_le (k := 2) (by decide) h
  rw [formatPrecision, if_neg (by omega), length_zeroPad, Int.natAbs_natCast]
  omega

/-! ### Characters -/

/-- The text has no character that separates the parts of a sentence. -/
structure IsPlain (text : CString) : Prop where
  dollar : '$' ∉ text
  star : '*' ∉ text
  comma : ',' ∉ text

theorem isPlain_nil : IsPlain [] := ⟨by simp, by simp, by simp⟩

theorem IsPlain.append {text text' : CString} (h : IsPlain text) (h' : IsPlain text') :
    IsPlain (text ++ text') :=
  ⟨by simp [h.dollar, h'.dollar], by simp [h.star, h'.star], by simp [h.comma, h'.comma]⟩

theorem isDigit_of_mem_zeroPad {width n : Nat} {c : Char}
    (hc : c ∈ zeroPad width (Nat.toDigits 10 n)) : c.isDigit = true := by
  rcases List.mem_append.mp hc with hc | hc
  · rw [List.eq_of_mem_replicate hc]
    decide
  · exact Nat.isDigit_of_mem_toDigits (by decide) (by decide) hc

theorem isPlain_zeroPad (width n : Nat) : IsPlain (zeroPad width (Nat.toDigits 10 n)) :=
  ⟨fun h => absurd (isDigit_of_mem_zeroPad h) (by decide),
    fun h => absurd (isDigit_of_mem_zeroPad h) (by decide),
    fun h => absurd (isDigit_of_mem_zeroPad h) (by decide)⟩

theorem isPlain_formatD (width : Nat) (n : Int) : IsPlain (formatD width n) := by
  have hminus : IsPlain ['-'] := ⟨by decide, by decide, by decide⟩
  unfold formatD
  split
  · exact hminus.append (isPlain_zeroPad _ _)
  · exact isPlain_zeroPad _ _

theorem isPlain_formatPrecision (n : Int) : IsPlain (formatPrecision n) := by
  have hminus : IsPlain ['-'] := ⟨by decide, by decide, by decide⟩
  unfold formatPrecision
  split
  · exact hminus.append (isPlain_zeroPad _ _)
  · exact isPlain_zeroPad _ _

/-- What `snprintf` prints of floating-point numbers: a plain text, 42 characters at most for a
`float` with one decimal, and 10 for minutes with six. A `float` is below 2^128, which has 39
digits, and beside them there are a sign, a point and a decimal. A `double` has no such bound, and
that is where GGA can fail. -/
structure PrintsNumbers {φ δ : Type} (r : Reals φ δ) : Prop where
  plain1 : ∀ x, IsPlain (r.format1 x)
  plain6 : ∀ x, IsPlain (r.format6 x)
  length_float : ∀ x, (r.format1 (r.ofFloat x)).length ≤ 42
  length_minutes : ∀ x, (r.format6 (r.fmod x (r.ofRat 60))).length ≤ 10

/-- The digits with zeros in front spell the number. -/
theorem ofDigitChars_zeroPad (width n : Nat) :
    Nat.ofDigitChars 10 (zeroPad width (Nat.toDigits 10 n)) 0 = n := by
  rw [zeroPad, Nat.ofDigitChars_append, Nat.ofDigitChars_replicate_zero, Nat.mul_zero,
    Nat.ofDigitChars_ten_toDigits]

theorem formatD_natCast (width n : Nat) :
    formatD width (n : Int) = zeroPad width (Nat.toDigits 10 n) := by
  rw [formatD, if_neg (by omega), Int.natAbs_natCast]

theorem formatD_natCast_injective (width : Nat) {m n : Nat}
    (h : formatD width (m : Int) = formatD width (n : Int)) : m = n := by
  rw [formatD_natCast, formatD_natCast] at h
  rw [← ofDigitChars_zeroPad width m, h, ofDigitChars_zeroPad]

theorem formatD_natCast_ne_nil (width n : Nat) : formatD width (n : Int) ≠ [] := by
  rw [formatD_natCast, zeroPad]
  exact List.append_ne_nil_of_right_ne_nil _ Nat.toDigits_ne_nil

/-! ### Pieces -/

theorem tryPrint_of_lt {text piece : CString} (h : text.length + piece.length < 200) :
    tryPrint text piece = some (text ++ piece) :=
  if_neg (by omega)

theorem snprintf_of_lt {text piece : CString} (h : text.length + piece.length < 200) :
    snprintf text piece = text ++ piece := by
  rw [snprintf, List.take_of_length_le (by omega)]

theorem snprintf_snprintf_of_lt {text piece piece' : CString}
    (h : text.length + piece.length + piece'.length < 200) :
    snprintf (snprintf text piece) piece' = text ++ piece ++ piece' := by
  have hfirst : snprintf text piece = text ++ piece := snprintf_of_lt (by omega)
  rw [hfirst, snprintf_of_lt (by rw [List.length_append]; omega)]

/-- Checked pieces that fit one after the other. -/
theorem foldlM_tryPrint {pieces : List CString} {text : CString}
    (h : text.length + pieces.flatten.length < 200) :
    pieces.foldlM tryPrint text = some (text ++ pieces.flatten) := by
  induction pieces generalizing text with
  | nil => exact congrArg some (List.append_nil _).symm
  | cons piece pieces ih =>
      rw [List.flatten_cons, List.length_append] at h
      rw [List.foldlM_cons, tryPrint_of_lt (by omega)]
      show pieces.foldlM tryPrint (text ++ piece) = _
      rw [ih (by rw [List.length_append]; omega), List.flatten_cons, List.append_assoc]

/-- The fields, each with a comma behind it. -/
def commas : List CString → CString
  | [] => []
  | f :: fields => f ++ ',' :: commas fields

theorem commas_append (fields fields' : List CString) :
    commas (fields ++ fields') = commas fields ++ commas fields' := by
  induction fields with
  | nil => rfl
  | cons f fields ih =>
      rw [List.cons_append, commas, commas, ih, List.append_assoc]
      rfl

theorem length_commas (fields : List CString) :
    (commas fields).length = (fields.map (·.length + 1)).sum := by
  induction fields with
  | nil => rfl
  | cons f fields ih =>
      rw [commas, List.length_append, List.length_cons, ih, List.map_cons, List.sum_cons]
      omega

theorem commas_flatten (groups : List (List CString)) :
    (groups.map commas).flatten = commas groups.flatten := by
  induction groups with
  | nil => rfl
  | cons g groups ih =>
      rw [List.map_cons, List.flatten_cons, ih, List.flatten_cons, commas_append]

/-- The `$`, and fields that are printed in groups. -/
theorem print_groups {first : List CString} {groups : List (List CString)}
    (h : (commas (first ++ groups.flatten)).length < 199) :
    (do
      let text ← tryPrint [] ('$' :: commas first)
      groups.foldlM (fun text g => tryPrint text (commas g)) text)
        = some ('$' :: commas (first ++ groups.flatten)) := by
  rw [commas_append, List.length_append] at h
  have hgroups : groups.foldlM (fun text g => tryPrint text (commas g)) ('$' :: commas first)
      = some ('$' :: commas first ++ (groups.map commas).flatten) := by
    rw [← foldlM_tryPrint (by rw [commas_flatten, List.length_cons]; omega), List.foldlM_map]
  rw [tryPrint_of_lt (by rw [List.length_nil, List.length_cons]; omega)]
  show groups.foldlM _ ('$' :: commas first) = _
  rw [hgroups, commas_flatten, commas_append, List.cons_append]

/-- Fields without a comma are what the text splits into. -/
theorem splitOn_commas {fields : List CString} (h : ∀ f ∈ fields, ',' ∉ f) (last : CString) :
    (commas fields ++ last).splitOn ',' = fields ++ last.splitOn ',' := by
  induction fields with
  | nil => rfl
  | cons f fields ih =>
      rw [commas, List.append_assoc, List.cons_append,
        List.splitOn_append_cons_self_of_not_mem (h f List.mem_cons_self),
        ih fun f' hf' => h f' (List.mem_cons_of_mem _ hf')]
      rfl

theorem length_commas_le {fields : List CString} {k : Nat} (h : ∀ f ∈ fields, f.length ≤ k) :
    (commas fields).length ≤ (k + 1) * fields.length := by
  induction fields with
  | nil => exact Nat.le_refl _
  | cons f fields ih =>
      have hf := h f List.mem_cons_self
      have := ih fun f' hf' => h f' (List.mem_cons_of_mem _ hf')
      rw [commas, List.length_append, List.length_cons, List.length_cons, Nat.mul_succ]
      omega

/-- Neither `$` nor `*`. -/
structure IsBody (text : CString) : Prop where
  dollar : '$' ∉ text
  star : '*' ∉ text

theorem IsPlain.isBody {text : CString} (h : IsPlain text) : IsBody text := ⟨h.dollar, h.star⟩

theorem IsBody.append {text text' : CString} (h : IsBody text) (h' : IsBody text') :
    IsBody (text ++ text') :=
  ⟨by simp [h.dollar, h'.dollar], by simp [h.star, h'.star]⟩

theorem IsBody.cons {c : Char} {text : CString} (hc : c ≠ '$' ∧ c ≠ '*') (h : IsBody text) :
    IsBody (c :: text) :=
  ⟨by simp [hc.1.symm, h.dollar], by simp [hc.2.symm, h.star]⟩

theorem isBody_commas {fields : List CString} (h : ∀ f ∈ fields, IsPlain f) :
    IsBody (commas fields) := by
  induction fields with
  | nil => exact isPlain_nil.isBody
  | cons f fields ih =>
      have hrest := ih fun f' hf' => h f' (List.mem_cons_of_mem _ hf')
      exact (h f List.mem_cons_self).isBody.append (hrest.cons (by decide))

theorem takeWhile_body_append {body : CString} (h : IsBody body) (rest : CString) :
    (body ++ rest).takeWhile (· ≠ '*') = body ++ rest.takeWhile (· ≠ '*') := by
  refine List.takeWhile_append_of_pos fun c hc => decide_eq_true ?_
  rintro rfl
  exact h.star hc

/-- The text ends where the first `*` is. -/
theorem takeWhile_body {body : CString} (h : IsBody body) (rest : CString) :
    (body ++ '*' :: rest).takeWhile (· ≠ '*') = body := by
  rw [takeWhile_body_append h, List.takeWhile_cons_of_neg (by decide), List.append_nil]

/-- The fields of a sentence, without the `$` and the checksum. -/
def fieldsOf (sentence : CString) : List CString :=
  (sentence.tail.takeWhile (· ≠ '*')).splitOn ','

/-- The fields that are printed are those that are read, whatever comes behind them. -/
theorem fieldsOf_append {fields : List CString} (h : ∀ f ∈ fields, IsPlain f) (rest : CString) :
    fieldsOf ('$' :: commas fields ++ rest)
      = fields ++ (rest.takeWhile (· ≠ '*')).splitOn ',' := by
  rw [fieldsOf, List.cons_append, List.tail_cons, takeWhile_body_append (isBody_commas h),
    splitOn_commas fun f hf => (h f hf).comma]

theorem fieldsOf_commas {fields : List CString} (h : ∀ f ∈ fields, IsPlain f) {last : CString}
    (hlast : IsPlain last) (rest : CString) :
    fieldsOf ('$' :: commas fields ++ last ++ '*' :: rest) = fields ++ [last] := by
  rw [List.append_assoc, fieldsOf_append h, takeWhile_body hlast.isBody,
    List.splitOn_eq_singleton hlast.comma]

/-- A text that leaves room for the checksum gets it. -/
theorem locNmeaPutChecksum_of_le {text : CString} (h : text.length ≤ 194) :
    locNmeaPutChecksum text
      = text ++ ('*' :: formatX (checksum text.tail) ++ ['\r', '\n']) :=
  snprintf_of_lt (by simp [formatX]; omega)

end LocHal.Util.LocNmea
