import Mathlib.Algebra.Group.Nat.Defs
import Mathlib.Tactic.Common

/-!
# `LocHal.Util.LocIpc`: messages over a local datagram socket

A message is a string of bytes. `send` turns it into datagrams: one datagram for a message of at
most `LOC_MSG_BUF_LEN` bytes, and a header with the length followed by chunks for a longer one.
`LocIpcListener` is `startListeningBlocking` between two calls of `recvfrom`. Its `msg` is the
one string that the loop receives into: it is resized, but never cleared, so the bytes behind a
received datagram are those of an earlier message.

The socket is reliable, so `sendto` sends all it is given and `recvfrom` fails for no reason of
its own. A datagram that does not fit in the room of `recvfrom` is cut off, and the memory for
`resize` is unbounded.

`send_short` and `send_long` are the datagrams of a message. `recv` is the loop for one datagram, in
one of two phases: it waits for a message, or it is in the middle of a long one and knows how much
of it has come. `recvAll_sendParts` is the lemma on which the other modules rest: a listener in the
middle of a long message that gets its remaining parts ends up with the whole message. The length in
the header is printed and read back, and `scanSize_toDecimal` says that it comes back if no digit
follows, which is up to what was in the buffer before.
-/

set_option autoImplicit false

namespace LocHal.Util

/-- The byte of an ASCII character. -/
def charByte (c : Char) : UInt8 := .ofNat c.toNat

/-- `LOC_MSG_BUF_LEN`. -/
def locMsgBufLen : Nat := 8192

/-- `LOC_MSG_HEAD`. -/
def locMsgHead : List UInt8 := ['$', 'M', 'S', 'G', 'L', 'E', 'N', '$'].map charByte

/-- `LOC_MSG_ABORT`. -/
def locMsgAbort : List UInt8 :=
  ['L', 'o', 'c', 'I', 'p', 'c', 'M', 's', 'g', ':', ':', 'A', 'B', 'O', 'R', 'T'].map charByte

/-! ### The sender -/

/-- `std::to_string`. -/
def toDecimal (n : Nat) : List UInt8 := (Nat.toDigits 10 n).map charByte

/-- The header of a long message. -/
def header (length : Nat) : List UInt8 := locMsgHead ++ toDecimal length

/-- The loop of `sendData` over the bytes that are not sent yet. -/
def sendParts (data : List UInt8) : List (List UInt8) :=
  if data = [] then []
  else data.take locMsgBufLen :: sendParts (data.drop locMsgBufLen)
termination_by data.length
decreasing_by
  rename_i hne
  have := List.length_pos_iff.mpr hne
  simp only [List.length_drop, locMsgBufLen]
  omega

/-- `LocIpc::sendData`: the datagrams in order. -/
def sendData (data : List UInt8) : List (List UInt8) :=
  if data.length ≤ locMsgBufLen then [data]
  else header data.length :: sendParts data

/-- `LocIpc::send`. The length is passed on as a `uint32_t`. -/
def send (data : List UInt8) : List (List UInt8) := sendData (data.take (data.length % 2 ^ 32))

theorem sendParts_nil : sendParts [] = [] := by
  rw [sendParts, if_pos rfl]

theorem sendParts_of_ne_nil {data : List UInt8} (h : data ≠ []) :
    sendParts data = data.take locMsgBufLen :: sendParts (data.drop locMsgBufLen) := by
  rw [sendParts, if_neg h]

/-- A message of at most `LOC_MSG_BUF_LEN` bytes is one datagram. -/
theorem send_short {data : List UInt8} (h : data.length ≤ locMsgBufLen) : send data = [data] := by
  have hlt : data.length < 2 ^ 32 := by
    show data.length < 4294967296
    have : data.length ≤ 8192 := h
    omega
  unfold send sendData
  rw [Nat.mod_eq_of_lt hlt, List.take_length, if_pos h]

/-- A longer message is a header and its parts, as long as the length fits. -/
theorem send_long {data : List UInt8} (h : locMsgBufLen < data.length)
    (hlt : data.length < 2 ^ 32) :
    send data = header data.length :: sendParts data := by
  unfold send sendData
  rw [Nat.mod_eq_of_lt hlt, List.take_length, if_neg (by omega)]

theorem length_singleton_le (b : UInt8) : [b].length ≤ locMsgBufLen := by
  rw [List.length_singleton]
  decide

/-- A message that is one byte longer than the buffer. -/
theorem send_of_length_succ {part : List UInt8} (h : part.length = locMsgBufLen) (b : UInt8) :
    send (part ++ [b]) = [header (locMsgBufLen + 1), part, [b]] := by
  have hlen : (part ++ [b]).length = locMsgBufLen + 1 := by
    rw [List.length_append, h, List.length_singleton]
  have hb := length_singleton_le b
  rw [send_long (by omega) (by rw [hlen]; decide), hlen,
    sendParts_of_ne_nil (List.append_ne_nil_of_right_ne_nil _ (List.cons_ne_nil _ _)),
    List.take_left' h, List.drop_left' h, sendParts_of_ne_nil (List.cons_ne_nil _ _),
    List.take_of_length_le hb, List.drop_of_length_le hb, sendParts_nil]

/-- Every part is nonempty and fits in the buffer. -/
theorem length_of_mem_sendParts {data : List UInt8} : ∀ part ∈ sendParts data,
    0 < part.length ∧ part.length ≤ locMsgBufLen := by
  induction data using sendParts.induct with
  | case1 => simp [sendParts_nil]
  | case2 data hne ih =>
      intro part hpart
      rw [sendParts_of_ne_nil hne] at hpart
      rcases List.mem_cons.mp hpart with rfl | hpart
      · have := List.length_pos_iff.mpr hne
        rw [List.length_take]
        simp only [locMsgBufLen]
        omega
      · exact ih part hpart

/-- The number of parts. -/
theorem length_sendParts {data : List UInt8} :
    (sendParts data).length = (data.length + locMsgBufLen - 1) / locMsgBufLen := by
  induction data using sendParts.induct with
  | case1 =>
      rw [sendParts_nil]
      rfl
  | case2 data hne ih =>
      have := List.length_pos_iff.mpr hne
      rw [sendParts_of_ne_nil hne, List.length_cons, ih, List.length_drop]
      simp only [locMsgBufLen]
      omega

/-- The header of a message that can be sent fits in the buffer. -/
theorem length_header_le {n : Nat} (hn : n < 2 ^ 32) : (header n).length ≤ 18 := by
  -- a 32-bit number has at most ten digits
  have hdigits : (Nat.toDigits 10 n).length ≤ 10 :=
    (Nat.length_toDigits_le_iff (by decide) (by decide)).mpr (by omega)
  unfold header toDecimal
  rw [List.length_append, List.length_map]
  have : locMsgHead.length = 8 := rfl
  omega

/-! ### The listener -/

/-- `std::string::resize`. -/
def resize (n : Nat) (msg : List UInt8) : List UInt8 :=
  msg.take n ++ List.replicate (n - msg.length) 0

/-- The string after bytes have been copied to an offset. -/
def overwrite (msg : List UInt8) (offset : Nat) (part : List UInt8) : List UInt8 :=
  msg.take offset ++ part ++ msg.drop (offset + part.length)

/-- `recvfrom` into the room of `msg` behind `offset`: the string and `nBytes`. -/
def recvfrom (msg : List UInt8) (offset : Nat) (datagram : List UInt8) : List UInt8 × Nat :=
  let part := datagram.take (msg.length - offset)
  (overwrite msg offset part, part.length)

/-- `isspace`. -/
def isSpace (b : UInt8) : Bool := b = 32 || (9 ≤ b && b ≤ 13)

/-- `isdigit`. -/
def isDigit (b : UInt8) : Bool := 48 ≤ b && b ≤ 57

/-- The number that a string of digits denotes. -/
def ofDecimal (digits : List UInt8) : Nat :=
  digits.foldl (fun n b => 10 * n + (b.toNat - 48)) 0

/-- The conversion `%zu` of `sscanf`: blanks, a sign, and digits. Without a digit nothing is
stored, and `msgLen` stays 0. -/
def scanSize (s : List UInt8) : Nat :=
  let s' := s.dropWhile isSpace
  let negative := s'.head? = some (charByte '-')
  let unsigned := if negative ∨ s'.head? = some (charByte '+') then s'.tail else s'
  let n := ofDecimal (unsigned.takeWhile isDigit)
  if 2 ^ 64 ≤ n then 2 ^ 64 - 1 else if negative then (2 ^ 64 - n) % 2 ^ 64 else n

@[simp] theorem length_resize (n : Nat) (msg : List UInt8) : (resize n msg).length = n := by
  unfold resize
  rw [List.length_append, List.length_take, List.length_replicate]
  omega

theorem resize_zero (msg : List UInt8) : resize 0 msg = [] := by
  simp [resize]

/-- Resizing to the length of a prefix leaves the prefix. -/
theorem resize_append (a b : List UInt8) : resize a.length (a ++ b) = a := by
  unfold resize
  rw [List.take_left, List.length_append, Nat.sub_eq_zero_of_le (Nat.le_add_right _ _),
    List.replicate_zero, List.append_nil]

theorem length_overwrite (msg part : List UInt8) (offset : Nat)
    (h : offset + part.length ≤ msg.length) : (overwrite msg offset part).length = msg.length := by
  unfold overwrite
  simp only [List.length_append, List.length_take, List.length_drop]
  omega

/-- One copy behind another one is one copy. -/
theorem overwrite_overwrite {msg a b : List UInt8} {offset : Nat}
    (h : offset + a.length ≤ msg.length) :
    overwrite (overwrite msg offset a) (offset + a.length) b = overwrite msg offset (a ++ b) := by
  have hlen : (msg.take offset ++ a).length = offset + a.length := by
    rw [List.length_append, List.length_take]
    omega
  unfold overwrite
  rw [List.take_left' hlen, ← hlen, List.drop_length_add_append, List.drop_drop, hlen,
    Nat.add_assoc, ← List.length_append, List.append_assoc (msg.take offset)]

/-- A copy that fills the string. -/
theorem overwrite_of_eq {msg part : List UInt8} {offset : Nat}
    (h : msg.length ≤ offset + part.length) :
    overwrite msg offset part = msg.take offset ++ part := by
  unfold overwrite
  rw [List.drop_eq_nil_of_le h, List.append_nil]

/-- A datagram with enough room. -/
theorem recvfrom_of_le {msg datagram : List UInt8} {offset : Nat}
    (h : offset + datagram.length ≤ msg.length) :
    recvfrom msg offset datagram = (overwrite msg offset datagram, datagram.length) := by
  unfold recvfrom
  rw [List.take_of_length_le (by omega)]

/-- `recvfrom` returns at most the length of the datagram. -/
theorem recvfrom_le (msg datagram : List UInt8) (offset : Nat) :
    (recvfrom msg offset datagram).2 ≤ datagram.length := by
  unfold recvfrom
  simp only [List.length_take]
  omega

/-! ### The length in the header -/

theorem isDigit_charByte {c : Char} (h : c.isDigit = true) :
    isDigit (charByte c) = true ∧ (charByte c).toNat = c.toNat := by
  have hc : 48 ≤ c.toNat ∧ c.toNat ≤ 57 := by
    unfold Char.isDigit at h
    simpa [UInt32.le_iff_toNat_le] using h
  have hval : (charByte c).toNat = c.toNat := by
    show (UInt8.ofNat c.toNat).toNat = c.toNat
    rw [UInt8.toNat_ofNat']
    omega
  refine ⟨?_, hval⟩
  unfold isDigit
  simp only [Bool.and_eq_true, decide_eq_true_eq, UInt8.le_iff_toNat_le, hval]
  exact hc

/-- `to_string` writes digits. -/
theorem isDigit_of_mem_toDecimal {n : Nat} {b : UInt8} (h : b ∈ toDecimal n) :
    isDigit b = true := by
  obtain ⟨c, hc, rfl⟩ := List.mem_map.mp h
  exact (isDigit_charByte (Nat.isDigit_of_mem_toDigits (by decide) (by decide) hc)).1

/-- Reading on after some digits. -/
theorem ofDecimal_append (a b : List UInt8) :
    ofDecimal (a ++ b) = b.foldl (fun n b => 10 * n + (b.toNat - 48)) (ofDecimal a) :=
  List.foldl_append

/-- `to_string` is read back. -/
theorem ofDecimal_toDecimal (n : Nat) : ofDecimal (toDecimal n) = n := by
  -- over characters the fold is the one of `Nat.ofDigitChars`
  have hfold : ∀ (cs : List Char) (acc : Nat), (∀ c ∈ cs, c.isDigit = true) →
      (cs.map charByte).foldl (fun n b => 10 * n + (b.toNat - 48)) acc
        = Nat.ofDigitChars 10 cs acc := by
    intro cs
    induction cs with
    | nil => intro acc _; rfl
    | cons c cs ih =>
        intro acc h
        rw [List.map_cons, List.foldl_cons, ih _ fun c hc => h c (List.mem_cons_of_mem _ hc),
          (isDigit_charByte (h c List.mem_cons_self)).2]
        rfl
  show ((Nat.toDigits 10 n).map charByte).foldl _ 0 = n
  rw [hfold _ 0 fun c hc => Nat.isDigit_of_mem_toDigits (by decide) (by decide) hc,
    Nat.ofDigitChars_ten_toDigits]

/-- More digits make the number no smaller. -/
theorem le_foldl_digits (digits : List UInt8) : ∀ n : Nat,
    n ≤ digits.foldl (fun n b => 10 * n + (b.toNat - 48)) n := by
  induction digits with
  | nil => intro n; exact Nat.le_refl n
  | cons b digits ih =>
      intro n
      rw [List.foldl_cons]
      have := ih (10 * n + (b.toNat - 48))
      omega

/-- Digits are read as a number without blanks and without a sign. -/
theorem scanSize_of_isDigit {b : UInt8} {s : List UInt8} (h : isDigit b = true) :
    scanSize (b :: s) = min (2 ^ 64 - 1) (ofDecimal ((b :: s).takeWhile isDigit)) := by
  have hspace : isSpace b = false := by
    unfold isDigit at h
    unfold isSpace
    simp only [Bool.and_eq_true, decide_eq_true_eq, UInt8.le_iff_toNat_le] at h
    simp only [Bool.or_eq_false_iff, Bool.and_eq_false_iff, decide_eq_false_iff_not,
      UInt8.le_iff_toNat_le, ← UInt8.toNat_inj]
    have h48 : (48 : UInt8).toNat = 48 := rfl
    have h32 : (32 : UInt8).toNat = 32 := rfl
    have h13 : (13 : UInt8).toNat = 13 := rfl
    omega
  have hne : ∀ c : UInt8, isDigit c = false → b ≠ c := by
    intro c hc heq
    rw [heq, hc] at h
    cases h
  have hminus := hne (charByte '-') (by decide)
  have hplus := hne (charByte '+') (by decide)
  unfold scanSize
  simp only [List.dropWhile_cons, hspace, Bool.false_eq_true, if_false, List.head?_cons,
    Option.some.injEq, hminus, hplus, or_self]
  split <;> omega

/-- The length that the listener reads from a header, when no digit follows. -/
theorem scanSize_toDecimal {n : Nat} (hn : n < 2 ^ 64) {rest : List UInt8}
    (hrest : ∀ b ∈ rest.head?, isDigit b = false) : scanSize (toDecimal n ++ rest) = n := by
  have hdigits : ((toDecimal n) ++ rest).takeWhile isDigit = toDecimal n := by
    rw [List.takeWhile_append_of_pos fun b hb => isDigit_of_mem_toDecimal hb]
    cases rest with
    | nil => simp
    | cons b rest => simp [hrest b rfl]
  cases hcons : toDecimal n with
  | nil => exact absurd (List.map_eq_nil_iff.mp hcons) Nat.toDigits_ne_nil
  | cons b digits =>
      have hb : isDigit b = true := isDigit_of_mem_toDecimal (hcons ▸ List.mem_cons_self)
      rw [List.cons_append, scanSize_of_isDigit hb, ← List.cons_append, ← hcons, hdigits,
        ofDecimal_toDecimal]
      omega

/-- With one more digit the listener reads a greater length. -/
theorem lt_scanSize_toDecimal {n : Nat} (hpos : 0 < n) (hn : n < 2 ^ 64 - 1) {b : UInt8}
    {rest : List UInt8} (hb : isDigit b = true) : n < scanSize (toDecimal n ++ b :: rest) := by
  have hdigits : (toDecimal n ++ b :: rest).takeWhile isDigit
      = toDecimal n ++ b :: rest.takeWhile isDigit := by
    rw [List.takeWhile_append_of_pos fun b hb => isDigit_of_mem_toDecimal hb,
      List.takeWhile_cons_of_pos hb]
  have hlt : n < ofDecimal (toDecimal n ++ b :: rest.takeWhile isDigit) := by
    rw [ofDecimal_append, ofDecimal_toDecimal, List.foldl_cons]
    have := le_foldl_digits (rest.takeWhile isDigit) (10 * n + (b.toNat - 48))
    omega
  cases hcons : toDecimal n with
  | nil => exact absurd (List.map_eq_nil_iff.mp hcons) Nat.toDigits_ne_nil
  | cons c digits =>
      have hc : isDigit c = true := isDigit_of_mem_toDecimal (hcons ▸ List.mem_cons_self)
      rw [List.cons_append, scanSize_of_isDigit hc, ← List.cons_append, ← hcons, hdigits]
      omega

/-! ### The loop -/

/-- Where `startListeningBlocking` is: it waits for the first datagram of a message, or for more
of a long message, or it has returned. -/
inductive ListenPhase where
  | waiting (msg : List UInt8)
  | waitingLong (msg : List UInt8) (msgLenReceived : Nat)
  | stopped (stopRequested : Bool)
  deriving DecidableEq, Repr

/-- `startListeningBlocking` and the arguments of `onReceive` so far. -/
structure LocIpcListener where
  phase : ListenPhase
  received : List (List UInt8)
  deriving DecidableEq, Repr

namespace LocIpcListener

/-- The listener when the socket is ready: the string is resized from the empty one. -/
def init : LocIpcListener := ⟨.waiting (resize locMsgBufLen []), []⟩

/-- `onReceive(msg)`, and `msg.resize` at the start of the next turn. -/
def onReceive (l : LocIpcListener) (msg : List UInt8) : LocIpcListener :=
  ⟨.waiting (resize locMsgBufLen msg), l.received ++ [msg]⟩

/-- The condition of the inner loop after `msgLenReceived` bytes, where the latest `nBytes` is
positive. -/
def continueLong (l : LocIpcListener) (msg : List UInt8) (msgLenReceived : Nat) :
    LocIpcListener :=
  if msgLenReceived < msg.length then { l with phase := .waitingLong msg msgLenReceived }
  else l.onReceive msg

/-- The body of the loop after its first `recvfrom`. -/
def handle (l : LocIpcListener) (msg : List UInt8) (nBytes : Nat) : LocIpcListener :=
  if locMsgAbort.isPrefixOf msg then { l with phase := .stopped true }
  else if locMsgHead.isPrefixOf msg then
    -- long message
    l.continueLong (resize (scanSize (msg.drop locMsgHead.length)) msg) 0
  else l.onReceive (resize nBytes msg)

/-- The next datagram arrives. -/
def recv (l : LocIpcListener) (datagram : List UInt8) : LocIpcListener :=
  match l.phase with
  | .waiting msg =>
      let (msg', nBytes) := recvfrom msg 0 datagram
      if nBytes = 0 then { l with phase := .waiting (resize locMsgBufLen msg') }
      else l.handle msg' nBytes
  | .waitingLong msg msgLenReceived =>
      let (msg', nBytes) := recvfrom msg msgLenReceived datagram
      if nBytes = 0 then { l with phase := .stopped false }
      else l.continueLong msg' (msgLenReceived + nBytes)
  | .stopped _ => l

/-- The datagrams arrive in order. -/
def recvAll (l : LocIpcListener) (datagrams : List (List UInt8)) : LocIpcListener :=
  datagrams.foldl recv l

theorem recvAll_cons (l : LocIpcListener) (datagram : List UInt8) (rest : List (List UInt8)) :
    l.recvAll (datagram :: rest) = (l.recv datagram).recvAll rest := rfl

theorem recvAll_append (l : LocIpcListener) (a b : List (List UInt8)) :
    l.recvAll (a ++ b) = (l.recvAll a).recvAll b :=
  List.foldl_append

theorem recv_waiting (msg datagram : List UInt8) (received : List (List UInt8)) :
    recv ⟨.waiting msg, received⟩ datagram
      = if (recvfrom msg 0 datagram).2 = 0 then
          ⟨.waiting (resize locMsgBufLen (recvfrom msg 0 datagram).1), received⟩
        else handle ⟨.waiting msg, received⟩ (recvfrom msg 0 datagram).1
          (recvfrom msg 0 datagram).2 := rfl

theorem recv_waitingLong (msg datagram : List UInt8) (k : Nat) (received : List (List UInt8)) :
    recv ⟨.waitingLong msg k, received⟩ datagram
      = if (recvfrom msg k datagram).2 = 0 then ⟨.stopped false, received⟩
        else continueLong ⟨.waitingLong msg k, received⟩ (recvfrom msg k datagram).1
          (k + (recvfrom msg k datagram).2) := rfl

/-- A datagram that starts a message is handled together with the bytes behind it. -/
theorem recv_start {msg datagram : List UInt8} (received : List (List UInt8))
    (hne : datagram ≠ []) (hle : datagram.length ≤ msg.length) :
    recv ⟨.waiting msg, received⟩ datagram
      = handle ⟨.waiting msg, received⟩ (overwrite msg 0 datagram) datagram.length := by
  have hpos := List.length_pos_iff.mpr hne
  rw [recv_waiting, recvfrom_of_le (by omega), if_neg (by show datagram.length ≠ 0; omega)]

/-- A part of a long message that fits. -/
theorem recv_part {msg datagram : List UInt8} {k : Nat} (received : List (List UInt8))
    (hne : datagram ≠ []) (hle : k + datagram.length ≤ msg.length) :
    recv ⟨.waitingLong msg k, received⟩ datagram
      = continueLong ⟨.waitingLong msg k, received⟩ (overwrite msg k datagram)
          (k + datagram.length) := by
  have hpos := List.length_pos_iff.mpr hne
  rw [recv_waitingLong, recvfrom_of_le hle, if_neg (by show datagram.length ≠ 0; omega)]

/-- The phase before a message is left has no effect. -/
theorem continueLong_of_lt {l : LocIpcListener} {msg : List UInt8} {k : Nat}
    (h : k < msg.length) : l.continueLong msg k = ⟨.waitingLong msg k, l.received⟩ := by
  unfold continueLong
  rw [if_pos h]

theorem continueLong_of_le {l : LocIpcListener} {msg : List UInt8} {k : Nat}
    (h : msg.length ≤ k) : l.continueLong msg k = l.onReceive msg := by
  unfold continueLong
  rw [if_neg (by omega)]

/-- All parts of a message arrive, and nothing else. The induction is on the parts. -/
theorem recvAll_sendParts {data : List UInt8} : ∀ {msg : List UInt8} {k : Nat}
    {received : List (List UInt8)}, data ≠ [] → k + data.length ≤ msg.length →
    recvAll ⟨.waitingLong msg k, received⟩ (sendParts data)
      = continueLong ⟨.waiting [], received⟩ (overwrite msg k data) (k + data.length) := by
  induction data using sendParts.induct with
  | case1 => intro msg k received hne; exact absurd rfl hne
  | case2 data hne ih =>
      intro msg k received _ hle
      have hpos := List.length_pos_iff.mpr hne
      have hlen : (data.take locMsgBufLen).length = min locMsgBufLen data.length :=
        List.length_take
      have htake : data.take locMsgBufLen ≠ [] := by
        rw [← List.length_pos_iff, hlen]
        simp only [locMsgBufLen]
        omega
      rw [sendParts_of_ne_nil hne, recvAll_cons, recv_part received htake (by omega)]
      by_cases hrest : data.drop locMsgBufLen = []
      · -- the last part
        have hall : data.take locMsgBufLen = data :=
          List.take_of_length_le (List.drop_eq_nil_iff.mp hrest)
        rw [hrest, sendParts_nil, hall]
        rfl
      · have hdrop : (data.drop locMsgBufLen).length = data.length - locMsgBufLen :=
          List.length_drop
        have hmore := List.length_pos_iff.mpr hrest
        have hfirst := length_overwrite msg (data.take locMsgBufLen) k (by omega)
        rw [continueLong_of_lt (by omega), ih hrest (by omega), overwrite_overwrite (by omega),
          List.take_append_drop]
        congr 1
        omega

end LocIpcListener

end LocHal.Util
