import LocHal.Util.LocIpc

/-!
# `LocHal.Util.LocIpcSequential`: the messages of one sender

One sender sends message after message. The listener takes the first bytes of its string for a
marker, whether they belong to the datagram that has arrived or to an earlier message, and it
reads the length in a header up to the first byte that is not a digit. `FramedAfter` is what a
message and the message before it must meet, so that neither goes wrong.

The condition is exact (`received_eq_iff`). For the other direction datagrams are counted: every
received message uses up at least as many datagrams as sending it takes (`exists_spent`), so a
message that is not received with its own datagrams makes the last one come too late.

There are three ways to miss the condition, and each has its lemma. A message that is too long to be
counted in the type of its length is sent in part (`received_ne_of_not_framed`). A short one can be
taken for the marker (`received_ne_of_abort`), and then the listener ends, or for a header
(`received_ne_of_head`). The number in a header can run on into digits that an earlier message has
left (`received_ne_of_digit`), and then the listener waits for bytes that are not sent, or takes
those of the next messages.
-/

set_option autoImplicit false

namespace LocHal.Util

/-- What the listener may find when `data` is sent after `previous` was received: the bytes of a
short message and of the string behind them do not begin with a marker, no digit is behind the
header of a long message, and the length is one that can be passed on. -/
def FramedAfter (previous data : List UInt8) : Prop :=
  data.length < 2 ^ 32 ∧
    (data.length ≤ locMsgBufLen →
      locMsgAbort.isPrefixOf (overwrite (resize locMsgBufLen previous) 0 data) = false ∧
        locMsgHead.isPrefixOf (overwrite (resize locMsgBufLen previous) 0 data) = false) ∧
    (locMsgBufLen < data.length →
      ∀ b ∈ ((resize locMsgBufLen previous).drop (header data.length).length).head?,
        isDigit b = false)

/-- Every message of the list meets `FramedAfter` with the one before it. The listener writes each
message over the one before in the same buffer, so no message further back matters. -/
def Framed : List UInt8 → List (List UInt8) → Prop
  | _, [] => True
  | previous, data :: rest => FramedAfter previous data ∧ Framed data rest

theorem overwrite_zero (msg part : List UInt8) :
    overwrite msg 0 part = part ++ msg.drop part.length := by
  unfold overwrite
  rw [List.take_zero, List.nil_append, Nat.zero_add]

namespace LocIpcListener

/-! ### A framed message is received -/

/-- A header is handled as one. -/
theorem handle_header (l : LocIpcListener) (n nBytes : Nat) (rest : List UInt8) :
    l.handle (header n ++ rest) nBytes
      = l.continueLong (resize (scanSize (toDecimal n ++ rest)) (header n ++ rest)) 0 := by
  unfold handle
  rw [if_neg (by exact Bool.false_ne_true), if_pos (by rfl)]
  rfl

/-- A short message that is not taken for a marker. -/
theorem recvAll_send_short {previous data : List UInt8} (received : List (List UInt8))
    (hne : data ≠ []) (hshort : data.length ≤ locMsgBufLen) (h : FramedAfter previous data) :
    recvAll ⟨.waiting (resize locMsgBufLen previous), received⟩ (send data)
      = ⟨.waiting (resize locMsgBufLen data), received ++ [data]⟩ := by
  obtain ⟨habort, hhead⟩ := h.2.1 hshort
  rw [send_short hshort, recvAll_cons,
    recv_start received hne (by rw [length_resize]; exact hshort)]
  unfold handle
  rw [habort, hhead, if_neg Bool.false_ne_true, if_neg Bool.false_ne_true, overwrite_zero,
    resize_append]
  rfl

/-- The header of a long message makes the listener wait for as many bytes as the number that
it reads. -/
theorem recv_header {previous : List UInt8} {n : Nat} (received : List (List UInt8))
    (hn : n < 2 ^ 32) :
    recv ⟨.waiting (resize locMsgBufLen previous), received⟩ (header n)
      = continueLong ⟨.waiting (resize locMsgBufLen previous), received⟩
          (resize (scanSize (toDecimal n ++
            (resize locMsgBufLen previous).drop (header n).length))
            (overwrite (resize locMsgBufLen previous) 0 (header n))) 0 := by
  have hlen := length_header_le hn
  have hne : header n ≠ [] := by
    unfold header locMsgHead
    simp
  have hfit : (header n).length ≤ (resize locMsgBufLen previous).length := by
    rw [length_resize]
    show (header n).length ≤ 8192
    omega
  rw [recv_start received hne hfit, overwrite_zero, handle_header]

/-- All parts of a message arrive after its header. -/
theorem recvAll_send_long {previous data : List UInt8} (received : List (List UInt8))
    (hlong : locMsgBufLen < data.length) (h : FramedAfter previous data) :
    recvAll ⟨.waiting (resize locMsgBufLen previous), received⟩ (send data)
      = ⟨.waiting (resize locMsgBufLen data), received ++ [data]⟩ := by
  have hlt : data.length < 4294967296 := h.1
  have hpos : 0 < data.length := by omega
  have hne : data ≠ [] := List.length_pos_iff.mp hpos
  rw [send_long hlong h.1, recvAll_cons, recv_header received h.1,
    scanSize_toDecimal (by omega) (h.2.2 hlong)]
  -- the string has the length of the message now, and the parts fill it
  generalize hmsg : resize data.length
    (overwrite (resize locMsgBufLen previous) 0 (header data.length)) = msg
  have hlen : msg.length = data.length := by
    rw [← hmsg, length_resize]
  have hfit : 0 + data.length ≤ msg.length := by omega
  rw [continueLong_of_lt (by omega), recvAll_sendParts hne hfit,
    continueLong_of_le (by rw [length_overwrite _ _ _ hfit]; omega),
    overwrite_of_eq (by omega), List.take_zero, List.nil_append]
  rfl

/-- A framed message is received, and its bytes are what is left in the string. -/
theorem recvAll_send {previous data : List UInt8} (received : List (List UInt8))
    (hne : data ≠ []) (h : FramedAfter previous data) :
    recvAll ⟨.waiting (resize locMsgBufLen previous), received⟩ (send data)
      = ⟨.waiting (resize locMsgBufLen data), received ++ [data]⟩ := by
  rcases Nat.lt_or_ge locMsgBufLen data.length with hlong | hshort
  · exact recvAll_send_long received hlong h
  · exact recvAll_send_short received hne hshort h

/-! ### The datagrams of a received message -/

/-- The number of datagrams that sending a message of a length takes. -/
def datagrams (length : Nat) : Nat :=
  if length ≤ locMsgBufLen then 1 else 1 + (length + locMsgBufLen - 1) / locMsgBufLen

theorem datagrams_pos (length : Nat) : 0 < datagrams length := by
  unfold datagrams
  split
  · exact Nat.one_pos
  · exact Nat.lt_of_lt_of_le Nat.one_pos (Nat.le_add_right _ _)

theorem datagrams_of_le {length n : Nat} (h : length ≤ locMsgBufLen * n) :
    datagrams length ≤ 1 + n := by
  unfold datagrams
  split
  · omega
  · simp only [locMsgBufLen] at *
    omega

theorem datagrams_mod_le (length : Nat) : datagrams (length % 2 ^ 32) ≤ datagrams length := by
  have := Nat.mod_le length (2 ^ 32)
  generalize length % 2 ^ 32 = m at *
  unfold datagrams
  split <;> split <;> simp only [locMsgBufLen] at * <;> omega

theorem datagrams_mod_lt {length : Nat} (h : 2 ^ 32 ≤ length) :
    datagrams (length % 2 ^ 32) < datagrams length := by
  have : length % 2 ^ 32 + 4294967296 ≤ length := by omega
  generalize length % 2 ^ 32 = m at *
  unfold datagrams
  split <;> split <;> simp only [locMsgBufLen] at * <;> omega

/-- `send` takes the datagrams of the length that it passes on. -/
theorem length_send (data : List UInt8) :
    (send data).length = datagrams (data.length % 2 ^ 32) := by
  have htake : (data.take (data.length % 2 ^ 32)).length = data.length % 2 ^ 32 := by
    rw [List.length_take]
    exact Nat.min_eq_left (Nat.mod_le _ _)
  unfold send sendData datagrams
  rw [htake]
  split
  · rfl
  · rw [List.length_cons, length_sendParts, htake]
    omega

/-- `send` takes no more datagrams than the message needs. -/
theorem length_send_le (data : List UInt8) : (send data).length ≤ datagrams data.length := by
  rw [length_send]
  exact datagrams_mod_le data.length

/-- The datagrams that the message in progress has used, where `n` of them were parts. -/
def used (l : LocIpcListener) (n : Nat) : Nat :=
  match l.phase with
  | .waitingLong _ _ => n + 1
  | _ => 0

/-- The parts that have arrived are parts of `n` datagrams. -/
def Parts (l : LocIpcListener) (n : Nat) : Prop :=
  ∀ msg k, l.phase = .waitingLong msg k → k < msg.length ∧ k ≤ locMsgBufLen * n

theorem parts_waiting (msg : List UInt8) (received : List (List UInt8)) (n : Nat) :
    Parts ⟨.waiting msg, received⟩ n := by
  intro msg' k hphase
  cases hphase

theorem parts_stopped (stopRequested : Bool) (received : List (List UInt8)) (n : Nat) :
    Parts ⟨.stopped stopRequested, received⟩ n := by
  intro msg' k hphase
  cases hphase

/-- The sum of `datagrams` over the messages. -/
def totalDatagrams : List (List UInt8) → Nat
  | [] => 0
  | data :: messages => datagrams data.length + totalDatagrams messages

theorem totalDatagrams_cons (data : List UInt8) (messages : List (List UInt8)) :
    totalDatagrams (data :: messages) = datagrams data.length + totalDatagrams messages := rfl

theorem totalDatagrams_append (messages new : List (List UInt8)) :
    totalDatagrams (messages ++ new) = totalDatagrams messages + totalDatagrams new := by
  induction messages with
  | nil => exact (Nat.zero_add _).symm
  | cons data messages ih =>
      rw [List.cons_append, totalDatagrams_cons, totalDatagrams_cons, ih, Nat.add_assoc]

/-- The end of a long message, or one more part of it. -/
theorem spent_continueLong (l : LocIpcListener) {msg : List UInt8} {k n : Nat}
    (hle : k ≤ locMsgBufLen * n) :
    ∃ new, (l.continueLong msg k).received = l.received ++ new ∧ (l.continueLong msg k).Parts n ∧
      totalDatagrams new + (l.continueLong msg k).used n ≤ n + 1 := by
  rcases Nat.lt_or_ge k msg.length with hlt | hge
  · rw [continueLong_of_lt hlt]
    refine ⟨[], (List.append_nil _).symm, ?_, Nat.le_of_eq (Nat.zero_add _)⟩
    intro msg' k' hphase
    cases hphase
    exact ⟨hlt, hle⟩
  · rw [continueLong_of_le hge]
    have hsum := datagrams_of_le (Nat.le_trans hge hle)
    refine ⟨[msg], rfl, parts_waiting _ _ n, ?_⟩
    show datagrams msg.length + 0 + 0 ≤ n + 1
    omega

/-- One datagram pays for what it completes. -/
theorem exists_spent_recv {l : LocIpcListener} {datagram : List UInt8} {n : Nat}
    (hlen : datagram.length ≤ locMsgBufLen) (hparts : l.Parts n) :
    ∃ new n', (l.recv datagram).received = l.received ++ new ∧ (l.recv datagram).Parts n' ∧
      totalDatagrams new + (l.recv datagram).used n' ≤ l.used n + 1 := by
  obtain ⟨phase, received⟩ := l
  cases phase with
  | waiting msg =>
      rw [recv_waiting]
      split
      · exact ⟨[], 0, (List.append_nil _).symm, parts_waiting _ _ 0, Nat.le_succ 0⟩
      · unfold handle
        split
        · exact ⟨[], 0, (List.append_nil _).symm, parts_stopped _ _ 0, Nat.le_succ 0⟩
        · split
          · obtain ⟨new, hreceived, hparts', hsum⟩ := spent_continueLong ⟨.waiting msg, received⟩
              (k := 0) (n := 0) (Nat.zero_le _)
            exact ⟨new, 0, hreceived, hparts', hsum⟩
          · refine ⟨[_], 0, rfl, parts_waiting _ _ 0, ?_⟩
            have hle : (resize (recvfrom msg 0 datagram).2 (recvfrom msg 0 datagram).1).length
                ≤ locMsgBufLen := by
              rw [length_resize]
              exact Nat.le_trans (recvfrom_le msg datagram 0) hlen
            show datagrams (resize _ _).length + 0 + 0 ≤ 0 + 1
            have hone : datagrams
                (resize (recvfrom msg 0 datagram).2 (recvfrom msg 0 datagram).1).length = 1 :=
              if_pos hle
            omega
  | waitingLong msg k =>
      rw [recv_waitingLong]
      split
      · exact ⟨[], 0, (List.append_nil _).symm, parts_stopped _ _ 0, Nat.zero_le _⟩
      · have hk := (hparts msg k rfl).2
        have hle := recvfrom_le msg datagram k
        obtain ⟨new, hreceived, hparts', hsum⟩ := spent_continueLong
          ⟨.waitingLong msg k, received⟩ (k := k + (recvfrom msg k datagram).2) (n := n + 1)
          (by simp only [locMsgBufLen] at *; omega)
        exact ⟨new, n + 1, hreceived, hparts', hsum⟩
  | stopped stopRequested =>
      exact ⟨[], 0, (List.append_nil _).symm, parts_stopped _ _ 0, Nat.zero_le _⟩

/-- All datagrams pay for all messages that they complete. The induction is on the datagrams. -/
theorem exists_spent : ∀ {ds : List (List UInt8)} {l : LocIpcListener} {n : Nat},
    (∀ d ∈ ds, d.length ≤ locMsgBufLen) → l.Parts n →
    ∃ new, (l.recvAll ds).received = l.received ++ new ∧
      totalDatagrams new ≤ l.used n + ds.length := by
  intro ds
  induction ds with
  | nil =>
      intro l n _ _
      exact ⟨[], (List.append_nil _).symm, Nat.zero_le _⟩
  | cons d ds ih =>
      intro l n hlen hparts
      obtain ⟨new, n', hreceived, hparts', hsum⟩ :=
        exists_spent_recv (hlen d List.mem_cons_self) hparts
      obtain ⟨new', hreceived', hsum'⟩ :=
        ih (fun d hd => hlen d (List.mem_cons_of_mem _ hd)) hparts'
      refine ⟨new ++ new', ?_, ?_⟩
      · rw [recvAll_cons, hreceived', hreceived, List.append_assoc]
      · rw [totalDatagrams_append, List.length_cons]
        omega

/-- A listener that has returned receives nothing. -/
theorem recvAll_stopped (stopRequested : Bool) (received : List (List UInt8)) :
    ∀ ds : List (List UInt8), recvAll ⟨.stopped stopRequested, received⟩ ds
      = ⟨.stopped stopRequested, received⟩ := by
  intro ds
  induction ds with
  | nil => rfl
  | cons d ds ih =>
      rw [recvAll_cons]
      exact ih

/-- A listener in the middle of a long message needs a datagram before the next message. -/
theorem exists_late : ∀ {ds : List (List UInt8)} {msg : List UInt8} {k : Nat}
    {received : List (List UInt8)}, (∀ d ∈ ds, d.length ≤ locMsgBufLen) →
    ∃ new, (recvAll ⟨.waitingLong msg k, received⟩ ds).received = received ++ new ∧
      (new ≠ [] → 1 + totalDatagrams new.tail ≤ ds.length) := by
  intro ds
  induction ds with
  | nil =>
      intro msg k received _
      exact ⟨[], (List.append_nil _).symm, fun h => absurd rfl h⟩
  | cons d ds ih =>
      intro msg k received hlen
      have hrest : ∀ d ∈ ds, d.length ≤ locMsgBufLen := fun d hd =>
        hlen d (List.mem_cons_of_mem _ hd)
      rw [recvAll_cons, recv_waitingLong]
      generalize recvfrom msg k d = r
      split
      · rw [recvAll_stopped]
        exact ⟨[], (List.append_nil _).symm, fun h => absurd rfl h⟩
      · unfold continueLong
        split
        · obtain ⟨new, hreceived, hsum⟩ := ih hrest
          refine ⟨new, hreceived, fun hnew => ?_⟩
          have := hsum hnew
          rw [List.length_cons]
          omega
        · obtain ⟨new, hreceived, hsum⟩ := exists_spent hrest
            (parts_waiting (resize locMsgBufLen r.1) (received ++ [r.1]) 0)
          refine ⟨r.1 :: new, ?_, fun _ => ?_⟩
          · show (recvAll ⟨.waiting (resize locMsgBufLen r.1), received ++ [r.1]⟩ ds).received = _
            rw [hreceived, List.append_assoc]
            rfl
          · have hle : totalDatagrams new ≤ 0 + ds.length := hsum
            rw [List.tail_cons, List.length_cons]
            omega

/-! ### All messages of the sender -/

/-- All datagrams fit in the buffer. -/
theorem length_of_mem_send {data d : List UInt8} (h : d ∈ send data) :
    d.length ≤ locMsgBufLen := by
  have hmod : data.length % 2 ^ 32 < 2 ^ 32 := Nat.mod_lt _ (by decide)
  unfold send sendData at h
  split at h
  · rename_i hle
    rw [List.mem_singleton.mp h]
    exact hle
  · rcases List.mem_cons.mp h with rfl | h
    · refine Nat.le_trans (length_header_le ?_) (by decide)
      rw [List.length_take]
      omega
    · exact (length_of_mem_sendParts d h).2

theorem length_of_mem_sends {messages : List (List UInt8)} :
    ∀ d ∈ messages.flatMap send, d.length ≤ locMsgBufLen := by
  intro d hd
  obtain ⟨data, -, h⟩ := List.mem_flatMap.mp hd
  exact length_of_mem_send h

/-- The datagrams of the messages are paid for by the messages. -/
theorem length_sends_le (messages : List (List UInt8)) :
    (messages.flatMap send).length ≤ totalDatagrams messages := by
  induction messages with
  | nil => exact Nat.zero_le _
  | cons data rest ih =>
      rw [List.flatMap_cons, List.length_append, totalDatagrams_cons]
      have := length_send_le data
      omega

/-- A listener that waits for more of a message when all datagrams of it have been sent comes too
late for the messages. -/
theorem received_ne_of_waitingLong {msg : List UInt8} {k : Nat} (received : List (List UInt8))
    (data : List UInt8) (rest : List (List UInt8)) :
    (recvAll ⟨.waitingLong msg k, received⟩ (rest.flatMap send)).received
      ≠ received ++ data :: rest := by
  intro heq
  obtain ⟨new, hnew, hlate⟩ : ∃ new,
      (recvAll ⟨.waitingLong msg k, received⟩ (rest.flatMap send)).received = received ++ new ∧
        (new ≠ [] → 1 + totalDatagrams new.tail ≤ (rest.flatMap send).length) :=
    exists_late length_of_mem_sends
  have hcons : new = data :: rest := List.append_cancel_left (hnew.symm.trans heq)
  subst hcons
  have h1 := hlate (List.cons_ne_nil _ _)
  have h2 := length_sends_le rest
  rw [List.tail_cons] at h1
  omega

/-- A long message with a digit behind its header makes the listener wait for more bytes than are
sent. -/
theorem received_ne_of_digit {previous data : List UInt8} {b : UInt8}
    (received rest : List (List UInt8)) (hlong : locMsgBufLen < data.length)
    (hlt : data.length < 2 ^ 32)
    (hb : ((resize locMsgBufLen previous).drop (header data.length).length).head? = some b)
    (hdigit : isDigit b = true) :
    (recvAll ⟨.waiting (resize locMsgBufLen previous), received⟩
      (send data ++ rest.flatMap send)).received ≠ received ++ data :: rest := by
  have hlt' : data.length < 4294967296 := hlt
  have hpos : 0 < data.length := by omega
  obtain ⟨tail, htail⟩ := List.head?_eq_some_iff.mp hb
  have hscan : data.length < scanSize (toDecimal data.length ++ b :: tail) :=
    lt_scanSize_toDecimal hpos (by omega) hdigit
  rw [send_long hlong hlt, List.cons_append, recvAll_cons, recv_header received hlt, htail]
  generalize hmsg : resize (scanSize (toDecimal data.length ++ b :: tail))
    (overwrite (resize locMsgBufLen previous) 0 (header data.length)) = msg
  have hlen : msg.length = scanSize (toDecimal data.length ++ b :: tail) := by
    rw [← hmsg, length_resize]
  have hfit : 0 + data.length ≤ msg.length := by omega
  rw [continueLong_of_lt (by omega), recvAll_append,
    recvAll_sendParts (List.length_pos_iff.mp hpos) hfit,
    continueLong_of_lt (by rw [length_overwrite _ _ _ hfit]; omega)]
  exact received_ne_of_waitingLong received data rest

/-- A short message that is taken for the marker of the end ends the listener. -/
theorem received_ne_of_abort {previous data : List UInt8} (received rest : List (List UInt8))
    (hne : data ≠ []) (hshort : data.length ≤ locMsgBufLen)
    (habort : locMsgAbort.isPrefixOf (overwrite (resize locMsgBufLen previous) 0 data) = true) :
    (recvAll ⟨.waiting (resize locMsgBufLen previous), received⟩
      (send data ++ rest.flatMap send)).received ≠ received ++ data :: rest := by
  rw [send_short hshort, List.singleton_append, recvAll_cons,
    recv_start received hne (by rw [length_resize]; exact hshort)]
  unfold handle
  rw [if_pos habort, recvAll_stopped]
  intro heq
  have hlen := congrArg List.length heq
  rw [List.length_append, List.length_cons] at hlen
  show False
  dsimp only at hlen
  omega

/-- A short message that is taken for a header is received as the empty message, or it makes the
listener wait. -/
theorem received_ne_of_head {previous data : List UInt8} (received rest : List (List UInt8))
    (hne : data ≠ []) (hshort : data.length ≤ locMsgBufLen)
    (habort : locMsgAbort.isPrefixOf (overwrite (resize locMsgBufLen previous) 0 data) = false)
    (hhead : locMsgHead.isPrefixOf (overwrite (resize locMsgBufLen previous) 0 data) = true) :
    (recvAll ⟨.waiting (resize locMsgBufLen previous), received⟩
      (send data ++ rest.flatMap send)).received ≠ received ++ data :: rest := by
  rw [send_short hshort, List.singleton_append, recvAll_cons,
    recv_start received hne (by rw [length_resize]; exact hshort)]
  unfold handle
  rw [habort, hhead, if_neg Bool.false_ne_true, if_pos rfl]
  generalize hn : scanSize _ = n
  rcases Nat.eq_zero_or_pos n with rfl | hpos
  · rw [resize_zero, continueLong_of_le (Nat.le_refl 0)]
    obtain ⟨new, hnew, -⟩ := exists_spent (n := 0) length_of_mem_sends
      (parts_waiting (resize locMsgBufLen []) (received ++ [[]]) 0)
    intro heq
    have happend : received ++ ([] :: new) = received ++ data :: rest := by
      rw [List.append_cons]
      exact hnew.symm.trans heq
    exact hne (List.cons.inj (List.append_cancel_left happend)).1.symm
  · rw [continueLong_of_lt (by rw [length_resize]; exact hpos)]
    exact received_ne_of_waitingLong received data rest

/-- A message that is not framed is not received in its place. The cases are the three ways to
miss `FramedAfter`: bytes are lost, a short message is taken for a marker, and the length in a
header is misread. -/
theorem received_ne_of_not_framed {previous data : List UInt8} (received rest : List (List UInt8))
    (hne : data ≠ []) (hframed : ¬ FramedAfter previous data) :
    (recvAll ⟨.waiting (resize locMsgBufLen previous), received⟩
      (send data ++ rest.flatMap send)).received ≠ received ++ data :: rest := by
  rcases Nat.lt_or_ge data.length (2 ^ 32) with hlt | hge
  · rcases Nat.lt_or_ge locMsgBufLen data.length with hlong | hshort
    · by_contra heq
      refine hframed ⟨hlt, fun hle => by omega, fun _ b hb => ?_⟩
      by_contra hdigit
      exact received_ne_of_digit received rest hlong hlt hb (Bool.not_eq_false _ ▸ hdigit) heq
    · by_contra heq
      refine hframed ⟨hlt, fun _ => ?_, fun hgt => by omega⟩
      have habort : locMsgAbort.isPrefixOf (overwrite (resize locMsgBufLen previous) 0 data)
          = false := by
        by_contra h
        exact received_ne_of_abort received rest hne hshort (by simpa using h) heq
      refine ⟨habort, ?_⟩
      by_contra h
      exact received_ne_of_head received rest hne hshort habort (by simpa using h) heq
  · intro heq
    have hfit : ∀ d ∈ send data ++ rest.flatMap send, d.length ≤ locMsgBufLen := by
      intro d hd
      rcases List.mem_append.mp hd with hd | hd
      · exact length_of_mem_send hd
      · exact length_of_mem_sends d hd
    obtain ⟨new, hnew, hsum⟩ := exists_spent hfit
      (parts_waiting (resize locMsgBufLen previous) received 0)
    have hcons : new = data :: rest := List.append_cancel_left (hnew.symm.trans heq)
    subst hcons
    have h1 : totalDatagrams (data :: rest) ≤ 0 + (send data ++ rest.flatMap send).length := hsum
    have h2 := length_sends_le rest
    have h3 := datagrams_mod_lt hge
    rw [totalDatagrams_cons, List.length_append, length_send] at h1
    omega

/-- The messages that are received are the messages that are sent if and only if they are framed.
The induction is on the messages. -/
theorem received_eq_iff_framed : ∀ {messages : List (List UInt8)} {previous : List UInt8}
    {received : List (List UInt8)}, (∀ data ∈ messages, data ≠ []) →
    ((recvAll ⟨.waiting (resize locMsgBufLen previous), received⟩
      (messages.flatMap send)).received = received ++ messages ↔ Framed previous messages) := by
  intro messages
  induction messages with
  | nil =>
      intro previous received _
      exact ⟨fun _ => trivial, fun _ => (List.append_nil _).symm⟩
  | cons data rest ih =>
      intro previous received hne
      have hdata := hne data List.mem_cons_self
      have hrest := fun d hd => hne d (List.mem_cons_of_mem data hd)
      by_cases hframed : FramedAfter previous data
      · rw [List.flatMap_cons, recvAll_append, recvAll_send received hdata hframed,
          List.append_cons received data rest, ih hrest]
        exact ⟨fun h => ⟨hframed, h⟩, fun h => h.2⟩
      · exact ⟨fun h => absurd h (received_ne_of_not_framed received rest hdata hframed),
          fun h => absurd h.1 hframed⟩

/-- The listener receives what one sender sends, message by message, if and only if the messages are
framed.

A message is recognised by the bytes of the buffer, and these are its own followed by what the
message before it has left. So a message is framed or not after another one, and the condition is on
neighbours in the list. It also bounds the length, which is printed as 32 bits. -/
theorem received_eq_iff (messages : List (List UInt8)) (hne : ∀ data ∈ messages, data ≠ []) :
    (init.recvAll (messages.flatMap send)).received = messages ↔ Framed [] messages :=
  received_eq_iff_framed hne

/-- Two framed messages. -/
theorem received_eq_two : (init.recvAll ([[1], [2, 3]].flatMap send)).received = [[1], [2, 3]] :=
  (received_eq_iff [[1], [2, 3]] (by decide)).mpr
    ⟨⟨by decide, fun _ => ⟨rfl, rfl⟩, fun h => absurd h (by decide)⟩,
      ⟨by decide, fun _ => ⟨rfl, rfl⟩, fun h => absurd h (by decide)⟩, trivial⟩

/-- The second message is the start of a header whose rest the first message has left. -/
def leftoverHeader : List (List UInt8) :=
  [['x', 'x', 'S', 'G', 'L', 'E', 'N', '$', '9'].map charByte, ['$', 'M'].map charByte]

/-- The messages are not empty and do not begin with a marker, but only the first is received. -/
theorem leftoverHeader_received :
    (∀ data ∈ leftoverHeader, data ≠ [] ∧ locMsgHead.isPrefixOf data = false ∧
      locMsgAbort.isPrefixOf data = false) ∧
    (init.recvAll (leftoverHeader.flatMap send)).received ≠ leftoverHeader :=
  ⟨by decide, by decide +kernel⟩

end LocIpcListener

end LocHal.Util
