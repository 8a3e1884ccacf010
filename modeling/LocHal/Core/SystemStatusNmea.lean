import LocHal.Util.LocCfg

/-!
# `LocHal.Core.SystemStatusNmea`: the fields of a debug sentence

`SystemStatusNmeaBase` cuts a debug sentence into fields: it overwrites the first `*` with a comma
and cuts at every comma. `mField_eq_iff` says when the fields are the pieces of the text before the
`*`: the rest of the sentence must not have a comma, for it is cut too.

The fields are what all the parsers of `LocHal.Core.DebugParsers` read, so the lemma on them comes
first. A sentence is recognised by its first characters and its length (`locNmeaIsDebug`). The
cutting is a loop over the text, and the fuel of the model is the length of the text:
`tokenizeLoop_eq` says that it is enough and that the loop cuts at every comma. `body` and `trailer`
are the two parts of a sentence, and `mField_eq` is what the constructor leaves in the fields.

A well-formed sentence has a checksum of two hexadecimal digits after the `*`, so it meets the
condition (`mField_eq_checksum` is one). What follows the `*` is not checked anywhere, though, and
neither is the checksum.
-/

set_option autoImplicit false

namespace LocHal.Core

open LocHal.Util (CString)

/-- `loc_nmea_is_debug`. -/
def locNmeaIsDebug (nmea : CString) (length : Nat) : Bool :=
  decide (6 ≤ length) && decide (length ≤ 4096) && decide (nmea.take 4 = "$PQW".toList)

/-- `find`, and the two strings that `substr` makes of the text before and after the character. -/
def findChar (delim : Char) : CString → Option (CString × CString)
  | [] => none
  | c :: text =>
      if c = delim then some ([], text)
      else (findChar delim text).map fun (before, after) => (c :: before, after)

/-- The loop of the tokeniser. Each pass takes a character off the text at least. -/
def tokenizeLoop : Nat → CString → List CString
  | 0, _ => []
  | fuel + 1, parser =>
      match findChar ',' parser with
      | none => []
      | some (str, rest) => str :: tokenizeLoop fuel rest

/-- `mField` after the constructor of `SystemStatusNmeaBase`. -/
def mField (strIn : CString) (lenIn : Nat) : List CString :=
  if locNmeaIsDebug strIn lenIn then
    match findChar '*' strIn with
    | none => []
    | some (before, after) =>
        let parser := before ++ ',' :: after
        tokenizeLoop (parser.length + 1) parser
  else []

/-- The text before the first `*`. -/
def body (sentence : CString) : CString := sentence.takeWhile (· ≠ '*')

/-- The text after the first `*`. -/
def trailer (sentence : CString) : CString := (sentence.dropWhile (· ≠ '*')).tail

theorem findChar_of_not_mem {delim : Char} {text : CString} (h : delim ∉ text) :
    findChar delim text = none := by
  induction text with
  | nil => rfl
  | cons c text ih =>
      obtain ⟨hc, htext⟩ := List.ne_and_not_mem_of_not_mem_cons h
      rw [findChar, if_neg (Ne.symm hc), ih htext]
      rfl

theorem findChar_append {delim : Char} {before : CString} (h : delim ∉ before)
    (after : CString) : findChar delim (before ++ delim :: after) = some (before, after) := by
  induction before with
  | nil => exact if_pos rfl
  | cons c before ih =>
      obtain ⟨hc, hbefore⟩ := List.ne_and_not_mem_of_not_mem_cons h
      rw [List.cons_append, findChar, if_neg (Ne.symm hc), ih hbefore]
      rfl

/-- The tokeniser finds the pieces that a comma ends. -/
theorem tokenizeLoop_eq {fuel : Nat} {parser : CString} (hfuel : parser.length < fuel) :
    tokenizeLoop fuel parser = (parser.splitOn ',').dropLast := by
  induction fuel generalizing parser with
  | zero => omega
  | succ fuel ih =>
      unfold tokenizeLoop
      by_cases hmem : ',' ∈ parser
      · -- one token, and the loop goes on after the comma
        obtain ⟨before, after, rfl, hbefore⟩ := List.eq_append_cons_of_mem hmem
        rw [findChar_append hbefore]
        dsimp only
        rw [ih (by simp at hfuel; omega), List.splitOn_append_cons_self_of_not_mem hbefore,
          List.dropLast_cons_of_ne_nil (List.splitOn_ne_nil _ _)]
      · -- the last piece has no comma after it
        rw [findChar_of_not_mem hmem, List.splitOn_eq_singleton hmem]
        rfl

theorem body_append {before : CString} (h : '*' ∉ before) (after : CString) :
    body (before ++ '*' :: after) = before := by
  unfold body
  rw [List.takeWhile_append_of_pos fun c hc => by simpa using fun heq : c = '*' => h (heq ▸ hc)]
  simp

theorem trailer_append {before : CString} (h : '*' ∉ before) (after : CString) :
    trailer (before ++ '*' :: after) = after := by
  unfold trailer
  rw [List.dropWhile_append_of_pos fun c hc => by simpa using fun heq : c = '*' => h (heq ▸ hc)]
  simp

/-- The fields of a sentence with a `*`: the pieces of its body, and the pieces of its trailer that
a comma ends. -/
theorem mField_eq {sentence : CString} {length : Nat}
    (hdebug : locNmeaIsDebug sentence length = true) (hstar : '*' ∈ sentence) :
    mField sentence length
      = (body sentence).splitOn ',' ++ ((trailer sentence).splitOn ',').dropLast := by
  obtain ⟨before, after, rfl, hbefore⟩ := List.eq_append_cons_of_mem hstar
  rw [body_append hbefore, trailer_append hbefore]
  unfold mField
  rw [if_pos hdebug, findChar_append hbefore]
  dsimp only
  -- the `*` became a comma, so the body and the trailer are tokenised as one text
  rw [tokenizeLoop_eq (Nat.lt_succ_self _), List.splitOn_append_cons_self,
    List.dropLast_append_of_ne_nil (List.splitOn_ne_nil _ _)]

/-- The fields of a debug sentence are the pieces of its body exactly when no comma stands after the
`*`.

The `*` is turned into a comma, which ends the last field, and the cutting goes on behind it. The
checksum has no comma, so what is behind the last one is left out. -/
theorem mField_eq_iff {sentence : CString} {length : Nat}
    (hdebug : locNmeaIsDebug sentence length = true) (hstar : '*' ∈ sentence) :
    mField sentence length = (body sentence).splitOn ',' ↔ ',' ∉ trailer sentence := by
  rw [mField_eq hdebug hstar, List.append_right_eq_self]
  constructor
  · -- a comma in the trailer ends one more token
    intro hnil hcomma
    obtain ⟨before, after, heq, hbefore⟩ := List.eq_append_cons_of_mem hcomma
    rw [heq, List.splitOn_append_cons_self_of_not_mem hbefore,
      List.dropLast_cons_of_ne_nil (List.splitOn_ne_nil _ _)] at hnil
    exact List.cons_ne_nil _ _ hnil
  · intro hcomma
    rw [List.splitOn_eq_singleton hcomma]
    rfl

theorem mField_eq_checksum :
    mField "$PQWM1,1*2A".toList 11 = (body "$PQWM1,1*2A".toList).splitOn ',' :=
  (mField_eq_iff (by decide) (by decide)).mpr (by decide)

/-- The comma after the `*` makes a third field. -/
theorem mField_ne_body :
    locNmeaIsDebug "$PQWM1,1*2,3".toList 12 = true ∧ '*' ∈ "$PQWM1,1*2,3".toList ∧
      mField "$PQWM1,1*2,3".toList 12 ≠ (body "$PQWM1,1*2,3".toList).splitOn ',' := by
  decide

end LocHal.Core
