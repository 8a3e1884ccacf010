import LocHal.Lib.LabelledRun
import LocHal.Util.LocIpcSequential
import Mathlib.Logic.Function.Basic

/-!
# `LocHal.Util.LocIpcConcurrent`: the messages of several senders

Each sender calls `LocIpc::send` for one message after another, and its datagrams arrive between
those of the other senders. A part of a long message does not say whose it is: the listener takes
whatever datagram comes next. `run_delivered` is about the runs in which no message starts while
another sender is in the middle of a long one. There the messages are received whole, in the order
in which their `send` calls return.

`Inv` has two cases. With no sender in the middle of a long message the listener waits for the next
message (`Idle`), and the first datagram that arrives is a whole message or the header of a long
one. With a sender in the middle (`Midway`), the listener has the first parts of its message and
waits for as many bytes as there are in the datagrams that are still to come.

Under `OneAtATime` the next datagram comes from that sender, so the second case goes on until the
message is complete. `run_inside` is what happens otherwise, and `insideLong_received` is a run of
two senders: both calls return, and the long message is not received.
-/

set_option autoImplicit false

namespace LocHal.Util

open LabelledRun

/-- The listener and the senders. An outbox holds the message of the call of `send` that has not
returned and its datagrams that are not sent yet; `calls` and `returned` list the calls of `send`
that were made and that have returned. -/
structure LocIpcSystem (σ : Type) where
  listener : LocIpcListener
  outbox : σ → Option (List UInt8 × List (List UInt8))
  calls : List (σ × List UInt8)
  returned : List (σ × List UInt8)

/-- A sender calls `send`, or its next `sendto` puts a datagram into the socket. -/
inductive LocIpcStep (σ : Type) where
  | send (sender : σ) (data : List UInt8)
  | sendto (sender : σ)

namespace LocIpcSystem

variable {σ : Type}

/-- The listener is ready and nothing was sent. -/
def init : LocIpcSystem σ := ⟨.init, fun _ => none, [], []⟩

/-- The messages of one sender. -/
def messagesOf [DecidableEq σ] (sender : σ) (l : List (σ × List UInt8)) : List (List UInt8) :=
  (l.filter fun c => c.1 = sender).map Prod.snd

/-- `LocIpc::send` is called. A sender has one call at a time. -/
def send [DecidableEq σ] (s : LocIpcSystem σ) (sender : σ) (data : List UInt8) :
    Option (LocIpcSystem σ) :=
  if s.outbox sender = none then
    some { s with
      outbox := Function.update s.outbox sender (some (data, Util.send data))
      calls := s.calls ++ [(sender, data)] }
  else none

/-- A datagram arrives. The socket keeps the order, so the listener may take each datagram as it
arrives. The call returns with its last datagram. -/
def arrive [DecidableEq σ] (s : LocIpcSystem σ) (sender : σ) (data datagram : List UInt8)
    (rest : List (List UInt8)) : LocIpcSystem σ :=
  if rest = [] then
    { s with
      listener := s.listener.recv datagram
      outbox := Function.update s.outbox sender none
      returned := s.returned ++ [(sender, data)] }
  else
    { s with
      listener := s.listener.recv datagram
      outbox := Function.update s.outbox sender (some (data, rest)) }

/-- `sendto` of the next datagram. -/
def sendto [DecidableEq σ] (s : LocIpcSystem σ) (sender : σ) : Option (LocIpcSystem σ) :=
  match s.outbox sender with
  | some (data, datagram :: rest) => some (s.arrive sender data datagram rest)
  | _ => none

/-- One step. -/
def step [DecidableEq σ] (s : LocIpcSystem σ) : LocIpcStep σ → Option (LocIpcSystem σ)
  | .send sender data => s.send sender data
  | .sendto sender => s.sendto sender

/-- Every message of a call that has returned was received once, in the order of the returns, and
nothing else was received. The calls of each sender return in their order, and its last one may
still be on its way. -/
structure Delivered [DecidableEq σ] (s : LocIpcSystem σ) : Prop where
  received : s.listener.received = s.returned.map Prod.snd
  order : ∀ sender, messagesOf sender s.calls
    = messagesOf sender s.returned ++ ((s.outbox sender).map Prod.fst).toList

/-- The sender is in the middle of a long message. -/
def InMessage (s : LocIpcSystem σ) (sender : σ) : Prop :=
  ∃ data rest, s.outbox sender = some (data, rest) ∧ rest ≠ Util.send data

/-- The message that was received last. -/
def latest (s : LocIpcSystem σ) : List UInt8 := (s.listener.received.getLast?).getD []

/-- What a step must meet: messages are not empty, and the first datagram of a message arrives while
no sender is in the middle of a long message and the message is framed. The datagrams of a long
message carry no name, so those of two senders cannot be told apart. -/
def OneAtATime (s : LocIpcSystem σ) : LocIpcStep σ → Prop
  | .send _ data => data ≠ []
  | .sendto sender => ∀ data, s.outbox sender = some (data, Util.send data) →
      (∀ other, ¬ s.InMessage other) ∧ FramedAfter s.latest data

end LocIpcSystem

namespace LocIpcListener

/-! ### The parts of one long message -/

/-- The listener has received `received`, and the part `k` of a long message `data`; the
datagrams `rest` are still to come. -/
def Midway (l : LocIpcListener) (received : List (List UInt8)) (data : List UInt8)
    (rest : List (List UInt8)) : Prop :=
  ∃ msg k tail, l = ⟨.waitingLong msg k, received⟩ ∧ rest = sendParts tail ∧ tail ≠ [] ∧
    k + tail.length = msg.length ∧ msg.take k ++ tail = data

/-- The listener has received `received` and waits for the next message. -/
def Idle (l : LocIpcListener) (received : List (List UInt8)) : Prop :=
  l = ⟨.waiting (resize locMsgBufLen ((received.getLast?).getD [])), received⟩

theorem idle_append (received : List (List UInt8)) (data : List UInt8) :
    Idle ⟨.waiting (resize locMsgBufLen data), received ++ [data]⟩ (received ++ [data]) := by
  unfold Idle
  rw [List.getLast?_append, List.getLast?_singleton]
  rfl

/-- The first datagram of a framed message: it is the message, or it is its header. -/
theorem Idle.recv_first {l : LocIpcListener} {received : List (List UInt8)} {data d : List UInt8}
    {rest : List (List UInt8)} (h : l.Idle received) (hne : data ≠ [])
    (hframed : FramedAfter ((received.getLast?).getD []) data) (hsend : send data = d :: rest) :
    if rest = [] then (l.recv d).Idle (received ++ [data])
    else (l.recv d).Midway received data rest := by
  cases h
  -- a long message starts with its header, a short one is its only datagram
  rcases Nat.lt_or_ge locMsgBufLen data.length with hlong | hshort
  · rw [send_long hlong hframed.1] at hsend
    obtain ⟨rfl, rfl⟩ := List.cons.inj hsend
    have hparts : sendParts data ≠ [] := by
      rw [sendParts_of_ne_nil hne]
      exact List.cons_ne_nil _ _
    have hlt : data.length < 4294967296 := hframed.1
    rw [if_neg hparts, recv_header received hframed.1,
      scanSize_toDecimal (by omega) (hframed.2.2 hlong),
      continueLong_of_lt (by rw [length_resize]; omega)]
    exact ⟨_, 0, data, rfl, rfl, hne, by rw [length_resize]; omega, by rw [List.take_zero]; rfl⟩
  · have hall := recvAll_send_short received hne hshort hframed
    rw [send_short hshort] at hsend hall
    obtain ⟨rfl, rfl⟩ := List.cons.inj hsend
    have hone : recv ⟨.waiting (resize locMsgBufLen ((received.getLast?).getD [])), received⟩ data
        = ⟨.waiting (resize locMsgBufLen data), received ++ [data]⟩ := hall
    rw [if_pos rfl, hone]
    exact idle_append received data

/-- One more part of a long message: it is the last one, or more are to come. -/
theorem Midway.recv_next {l : LocIpcListener} {received : List (List UInt8)} {data d : List UInt8}
    {rest : List (List UInt8)} (h : l.Midway received data (d :: rest)) :
    if rest = [] then (l.recv d).Idle (received ++ [data])
    else (l.recv d).Midway received data rest := by
  obtain ⟨msg, k, tail, rfl, hrest, hne, hlen, hdata⟩ := h
  rw [sendParts_of_ne_nil hne] at hrest
  obtain ⟨rfl, rfl⟩ := List.cons.inj hrest
  have hpos := List.length_pos_iff.mpr hne
  have htake : (tail.take locMsgBufLen).length = min locMsgBufLen tail.length := List.length_take
  have hd : tail.take locMsgBufLen ≠ [] := by
    rw [← List.length_pos_iff, htake]
    simp only [locMsgBufLen]
    omega
  rw [recv_part received hd (by omega)]
  have hover := length_overwrite msg (tail.take locMsgBufLen) k (by omega)
  -- the part ends the message, or a part of what is left follows
  by_cases hlast : tail.drop locMsgBufLen = []
  · have hall : tail.take locMsgBufLen = tail :=
      List.take_of_length_le (List.drop_eq_nil_iff.mp hlast)
    rw [hlast, sendParts_nil, if_pos rfl, hall, continueLong_of_le
      (by rw [length_overwrite _ _ _ (by omega)]; omega), overwrite_of_eq (by omega), hdata]
    exact idle_append received data
  · have hmore := List.length_pos_iff.mpr hlast
    rw [List.length_drop] at hmore
    have hparts : sendParts (tail.drop locMsgBufLen) ≠ [] := by
      rw [sendParts_of_ne_nil hlast]
      exact List.cons_ne_nil _ _
    rw [if_neg hparts, continueLong_of_lt (by omega)]
    refine ⟨_, _, tail.drop locMsgBufLen, rfl, rfl, hlast, ?_, ?_⟩
    · rw [hover, List.length_drop]
      omega
    · have hprefix : (msg.take k ++ tail.take locMsgBufLen).length
          = k + (tail.take locMsgBufLen).length := by
        rw [List.length_append, List.length_take]
        omega
      unfold overwrite
      rw [ List.take_left' hprefix, List.append_assoc, List.take_append_drop, hdata]

/-- A byte that arrives behind the header of a long message is taken for its first part. -/
theorem received_of_inside {part : List UInt8} {b c : UInt8} (h : part.length = locMsgBufLen)
    (hb : FramedAfter (c :: part) [b]) :
    (init.recvAll [header (locMsgBufLen + 1), [c], part, [b]]).received = [c :: part, [b]] := by
  have hpart : part ≠ [] := List.length_pos_iff.mp (by rw [h]; decide)
  have hsize : scanSize (toDecimal (locMsgBufLen + 1) ++
      (resize locMsgBufLen []).drop (header (locMsgBufLen + 1)).length) = locMsgBufLen + 1 := by
    refine scanSize_toDecimal (by decide) fun b hb => ?_
    have hmem := List.mem_of_mem_drop (List.mem_of_mem_head? hb)
    rw [resize, List.take_nil, List.nil_append] at hmem
    obtain rfl := List.eq_of_mem_replicate hmem
    rfl
  rw [recvAll_cons, init, recv_header [] (by decide), hsize]
  -- the string has the length of the message now
  generalize hmsg : resize (locMsgBufLen + 1) _ = msg
  have hlen : msg.length = locMsgBufLen + 1 := by
    rw [← hmsg, length_resize]
  have hc : 0 + [c].length ≤ msg.length := by
    rw [hlen, List.length_singleton]
    omega
  have hone : (overwrite msg 0 [c]).length = locMsgBufLen + 1 := by
    rw [length_overwrite msg [c] 0 hc, hlen]
  have hall : 0 + [c].length + part.length = locMsgBufLen + 1 := by
    rw [List.length_singleton, h]
    omega
  have hfull : overwrite msg 0 ([c] ++ part) = c :: part := by
    rw [overwrite_of_eq (by rw [List.length_append]; omega), List.take_zero]
    rfl
  have hlast := recvAll_send_short [c :: part] (List.cons_ne_nil b []) (length_singleton_le b) hb
  rw [continueLong_of_lt (by omega), recvAll_cons, recv_part [] (List.cons_ne_nil _ _) hc,
    continueLong_of_lt (by rw [hone, List.length_singleton]; decide), recvAll_cons,
    recv_part [] hpart (by omega), overwrite_overwrite hc, hfull,
    continueLong_of_le (by rw [List.length_cons]; omega)]
  rw [send_short (length_singleton_le b)] at hlast
  exact congrArg received hlast

end LocIpcListener

namespace LocIpcSystem

variable {σ : Type} [DecidableEq σ] {s t : LocIpcSystem σ}

theorem messagesOf_append (sender : σ) (a b : List (σ × List UInt8)) :
    messagesOf sender (a ++ b) = messagesOf sender a ++ messagesOf sender b := by
  unfold messagesOf
  rw [List.filter_append, List.map_append]

@[simp] theorem messagesOf_self (sender : σ) (data : List UInt8) :
    messagesOf sender [(sender, data)] = [data] := by
  simp [messagesOf]

theorem messagesOf_of_ne {sender other : σ} (h : other ≠ sender) (data : List UInt8) :
    messagesOf sender [(other, data)] = [] := by
  simp [messagesOf, h]

/-! ### One step -/

/-- A call of `send` is possible when the earlier call of the sender has returned. -/
theorem eq_of_send {sender : σ} {data : List UInt8} (h : s.send sender data = some t) :
    s.outbox sender = none ∧ t = { s with
      outbox := Function.update s.outbox sender (some (data, Util.send data))
      calls := s.calls ++ [(sender, data)] } := by
  unfold send at h
  split at h
  · rename_i hnone
    exact ⟨hnone, (Option.some.inj h).symm⟩
  · cases h

/-- A datagram arrives when there is one. -/
theorem eq_of_sendto {sender : σ} (h : s.sendto sender = some t) :
    ∃ data d rest, s.outbox sender = some (data, d :: rest) ∧ t = s.arrive sender data d rest := by
  unfold sendto at h
  split at h
  · rename_i data d rest hout
    exact ⟨data, d, rest, hout, (Option.some.inj h).symm⟩
  · cases h

theorem step_send {sender : σ} (h : s.outbox sender = none) (data : List UInt8) :
    s.step (.send sender data) = some { s with
      outbox := Function.update s.outbox sender (some (data, Util.send data))
      calls := s.calls ++ [(sender, data)] } :=
  if_pos h

theorem step_sendto {sender : σ} {data d : List UInt8} {rest : List (List UInt8)}
    (h : s.outbox sender = some (data, d :: rest)) :
    s.step (.sendto sender) = some (s.arrive sender data d rest) := by
  show s.sendto sender = _
  unfold sendto
  rw [h]

theorem arrive_listener (s : LocIpcSystem σ) (sender : σ) (data d : List UInt8)
    (rest : List (List UInt8)) : (s.arrive sender data d rest).listener = s.listener.recv d := by
  unfold arrive
  split <;> rfl

/-! ### The invariant -/

/-- What the listener has received, with at most one sender in the middle of a long message. -/
structure Inv (s : LocIpcSystem σ) : Prop where
  received : s.listener.received = s.returned.map Prod.snd
  order : ∀ sender, messagesOf sender s.calls
    = messagesOf sender s.returned ++ ((s.outbox sender).map Prod.fst).toList
  outbox : ∀ sender data rest, s.outbox sender = some (data, rest) →
    data ≠ [] ∧ rest ≠ [] ∧ rest <:+ Util.send data
  idle : (∀ sender, ¬ s.InMessage sender) → s.listener.Idle s.listener.received
  midway : ∀ sender data rest, s.outbox sender = some (data, rest) → rest ≠ Util.send data →
    s.listener.Midway s.listener.received data rest
  one : ∀ sender other, s.InMessage sender → s.InMessage other → sender = other

theorem inv_init : (init : LocIpcSystem σ).Inv where
  received := rfl
  order := fun _ => rfl
  outbox := by
    intro sender data rest h
    cases h
  idle := fun _ => rfl
  midway := by
    intro sender data rest h
    cases h
  one := by
    rintro sender other ⟨data, rest, h, -⟩
    cases h

theorem Inv.delivered (h : s.Inv) : s.Delivered := ⟨h.received, h.order⟩

/-- A new call leaves the listener and the other senders alone, and nobody gets into the middle of
a message by it. -/
theorem Inv.send (h : s.Inv) {sender : σ} {data : List UInt8} (hne : data ≠ [])
    (hstep : s.send sender data = some t) : t.Inv := by
  obtain ⟨hnone, rfl⟩ := eq_of_send hstep
  have hsend : Util.send data ≠ [] := by
    rw [← List.length_pos_iff, LocIpcListener.length_send]
    exact LocIpcListener.datagrams_pos _
  -- who is in the middle of a message now was there before
  have hin : ∀ other data' rest, Function.update s.outbox sender (some (data, Util.send data)) other
      = some (data', rest) → rest ≠ Util.send data' → s.outbox other = some (data', rest) := by
    intro other data' rest hout hmid
    by_cases heq : other = sender
    · subst heq
      rw [Function.update_self] at hout
      cases hout
      exact absurd rfl hmid
    · rwa [Function.update_of_ne heq] at hout
  refine ⟨h.received, fun other => ?_, fun other data' rest hout => ?_, fun hnot => h.idle ?_,
    fun other data' rest hout hmid =>
      h.midway other data' rest (hin other data' rest hout hmid) hmid,
    ?_⟩
  · -- the call is the latest of its sender, and its message is in flight
    show messagesOf other (s.calls ++ [(sender, data)]) = messagesOf other s.returned ++
      ((Function.update s.outbox sender (some (data, Util.send data)) other).map Prod.fst).toList
    rw [messagesOf_append, h.order other]
    by_cases heq : other = sender
    · subst heq
      rw [Function.update_self, messagesOf_self, hnone]
      simp
    · rw [Function.update_of_ne heq, messagesOf_of_ne (Ne.symm heq), List.append_nil]
  · by_cases heq : other = sender
    · have hself : some (data, Util.send data) = some (data', rest) := by
        rw [← hout, heq]
        exact (Function.update_self sender _ s.outbox).symm
      cases hself
      exact ⟨hne, hsend, List.suffix_rfl⟩
    · refine h.outbox other data' rest ?_
      rw [← hout]
      exact (Function.update_of_ne heq _ _).symm
  · -- the sender had nothing in flight, so a message that was there is another one
    rintro other ⟨data', rest, hout, hmid⟩
    refine hnot other ⟨data', rest, ?_, hmid⟩
    have heq : other ≠ sender := by
      rintro rfl
      rw [hnone] at hout
      cases hout
    rw [← hout]
    exact Function.update_of_ne heq _ _
  · rintro other other' ⟨data', rest, hout, hmid⟩ ⟨data'', rest', hout', hmid'⟩
    exact h.one other other' ⟨data', rest, hin other data' rest hout hmid, hmid⟩
      ⟨data'', rest', hin other' data'' rest' hout' hmid', hmid'⟩

/-- When the next datagram arrives, no other sender is in the middle of a message, and the message
of the datagram is received or goes on. -/
theorem Inv.recv (h : s.Inv) {sender : σ} {data d : List UInt8} {rest : List (List UInt8)}
    (hok : s.OneAtATime (.sendto sender)) (hout : s.outbox sender = some (data, d :: rest)) :
    (∀ other, other ≠ sender → ¬ s.InMessage other) ∧
      if rest = [] then (s.listener.recv d).Idle (s.listener.received ++ [data])
      else (s.listener.recv d).Midway s.listener.received data rest := by
  -- the datagram starts its message, or it continues it
  by_cases hfirst : d :: rest = Util.send data
  · obtain ⟨hnone, hframed⟩ := hok data (hout.trans (by rw [hfirst]))
    exact ⟨fun other _ => hnone other,
      (h.idle hnone).recv_first (h.outbox sender data _ hout).1 hframed hfirst.symm⟩
  · refine ⟨fun other hne hother => hne ?_, (h.midway sender data _ hout hfirst).recv_next⟩
    exact h.one other sender hother ⟨data, _, hout, hfirst⟩

/-- With its last datagram a message is received, and its call returns. -/
theorem Inv.arrive_last (h : s.Inv) {sender : σ} {data d : List UInt8}
    (hok : s.OneAtATime (.sendto sender)) (hout : s.outbox sender = some (data, [d])) :
    (s.arrive sender data d []).Inv := by
  obtain ⟨hothers, hlistener⟩ := h.recv hok hout
  have hmine := h.order sender
  rw [hout] at hmine
  unfold LocIpcSystem.arrive
  rw [if_pos rfl] at hlistener ⊢
  have hreceived : (s.listener.recv d).received = s.listener.received ++ [data] := by
    rw [hlistener]
  -- the sender has nothing left to send
  have hnot : ∀ other data' rest', Function.update s.outbox sender none other
      = some (data', rest') → other ≠ sender ∧ s.outbox other = some (data', rest') := by
    intro other data' rest' hout'
    by_cases heq : other = sender
    · rw [heq, Function.update_self] at hout'
      cases hout'
    · exact ⟨heq, by rwa [Function.update_of_ne heq] at hout'⟩
  refine ⟨?_, fun other => ?_, fun other data' rest' hout' => ?_, fun _ => ?_,
    fun other data' rest' hout' hmid => ?_, ?_⟩
  · show (s.listener.recv d).received = (s.returned ++ [(sender, data)]).map Prod.snd
    rw [hreceived, h.received, List.map_append]
    rfl
  · show messagesOf other s.calls = messagesOf other (s.returned ++ [(sender, data)]) ++
      ((Function.update s.outbox sender none other).map Prod.fst).toList
    rw [messagesOf_append]
    by_cases heq : other = sender
    · rw [heq, hmine, Function.update_self, messagesOf_self]
      simp
    · rw [h.order other, Function.update_of_ne heq, messagesOf_of_ne (Ne.symm heq),
        List.append_nil]
  · exact h.outbox other data' rest' (hnot other data' rest' hout').2
  · show (s.listener.recv d).Idle (s.listener.recv d).received
    rw [hreceived]
    exact hlistener
  · obtain ⟨heq, hout''⟩ := hnot other data' rest' hout'
    exact absurd ⟨data', rest', hout'', hmid⟩ (hothers other heq)
  · rintro other other' ⟨data', rest', hout', hmid⟩ -
    obtain ⟨heq, hout''⟩ := hnot other data' rest' hout'
    exact absurd ⟨data', rest', hout'', hmid⟩ (hothers other heq)

/-- Before its last datagram a message is received in part. -/
theorem Inv.arrive_more (h : s.Inv) {sender : σ} {data d : List UInt8} {rest : List (List UInt8)}
    (hok : s.OneAtATime (.sendto sender)) (hout : s.outbox sender = some (data, d :: rest))
    (hrest : rest ≠ []) : (s.arrive sender data d rest).Inv := by
  obtain ⟨hothers, hlistener⟩ := h.recv hok hout
  obtain ⟨hne, -, hsuffix⟩ := h.outbox sender data _ hout
  have hmine := h.order sender
  rw [hout] at hmine
  unfold LocIpcSystem.arrive
  rw [if_neg hrest] at hlistener ⊢
  have hreceived : (s.listener.recv d).received = s.listener.received := by
    obtain ⟨msg, k, tail, heq, -⟩ := hlistener
    rw [heq]
  have hmore : rest <:+ Util.send data := (List.suffix_cons d rest).trans hsuffix
  -- something of the message has arrived
  have hmid : rest ≠ Util.send data := by
    intro heq
    have hlen := hsuffix.length_le
    rw [← heq, List.length_cons] at hlen
    omega
  have hself : Function.update s.outbox sender (some (data, rest)) sender = some (data, rest) :=
    Function.update_self _ _ _
  have hin : ∀ other, LocIpcSystem.InMessage { s with
      listener := s.listener.recv d
      outbox := Function.update s.outbox sender (some (data, rest)) } other → other = sender := by
    rintro other ⟨data', rest', hout', hmid'⟩
    by_contra heq
    refine hothers other heq ⟨data', rest', ?_, hmid'⟩
    rw [← hout']
    exact (Function.update_of_ne heq _ _).symm
  refine ⟨?_, fun other => ?_, fun other data' rest' hout' => ?_, fun hnot => ?_,
    fun other data' rest' hout' hmid' => ?_, fun other other' h1 h2 => ?_⟩
  · show (s.listener.recv d).received = s.returned.map Prod.snd
    rw [hreceived, h.received]
  · show messagesOf other s.calls = messagesOf other s.returned ++
      ((Function.update s.outbox sender (some (data, rest)) other).map Prod.fst).toList
    by_cases heq : other = sender
    · rw [heq, hmine, Function.update_self]
      rfl
    · rw [h.order other, Function.update_of_ne heq]
  · by_cases heq : other = sender
    · have hsame : some (data, rest) = some (data', rest') := by
        rw [← hself, ← hout', heq]
      cases hsame
      exact ⟨hne, hrest, hmore⟩
    · refine h.outbox other data' rest' ?_
      rw [← hout']
      exact (Function.update_of_ne heq _ _).symm
  · exact absurd ⟨data, rest, hself, hmid⟩ (hnot sender)
  · obtain rfl := hin other ⟨data', rest', hout', hmid'⟩
    have hsame : some (data, rest) = some (data', rest') := by
      rw [← hself, ← hout']
    cases hsame
    show (s.listener.recv d).Midway (s.listener.recv d).received data rest
    rw [hreceived]
    exact hlistener
  · rw [hin other h1, hin other' h2]

/-- The arrival of a datagram keeps the invariant. -/
theorem Inv.arrive (h : s.Inv) {sender : σ} {data d : List UInt8} {rest : List (List UInt8)}
    (hok : s.OneAtATime (.sendto sender)) (hout : s.outbox sender = some (data, d :: rest)) :
    (s.arrive sender data d rest).Inv := by
  by_cases hrest : rest = []
  · subst hrest
    exact h.arrive_last hok hout
  · exact h.arrive_more hok hout hrest

/-- Every allowed step keeps the invariant. -/
theorem Inv.step (h : s.Inv) {i : LocIpcStep σ} (hok : s.OneAtATime i) (hstep : s.step i = some t) :
    t.Inv := by
  cases i with
  | send sender data => exact h.send hok hstep
  | sendto sender =>
      obtain ⟨data, d, rest, hout, rfl⟩ := eq_of_sendto hstep
      exact h.arrive hok hout

/-- In every run in which no message starts in the middle of a long message of another sender, and
every message is framed, the messages are received whole, once and in the order in which their
calls return. -/
theorem run_delivered (steps : List (LocIpcStep σ))
    (hok : Guarded LocIpcSystem.step OneAtATime init steps) (t : LocIpcSystem σ)
    (hrun : run LocIpcSystem.step init steps = some t) : t.Delivered :=
  (hok.run_invariant (P := Inv) (fun _ _ _ hinv hok hstep => hinv.step hok hstep) steps init t
    inv_init hrun).delivered

/-- Two senders with a short message each. -/
def twoShort : List (LocIpcStep Bool) :=
  [.send false [1], .send true [2, 3], .sendto true, .sendto false]

theorem run_delivered_twoShort :
    ∃ t, run LocIpcSystem.step init twoShort = some t ∧ t.Delivered := by
  have hok : Guarded LocIpcSystem.step OneAtATime init twoShort := by
    refine ⟨List.cons_ne_nil _ _, fun s₁ h1 => ⟨List.cons_ne_nil _ _, fun s₂ h2 => ⟨?_,
      fun s₃ h3 => ⟨?_, fun _ _ => trivial⟩⟩⟩⟩
    · cases h1
      cases h2
      intro data hout
      obtain rfl : [2, 3] = data := congrArg Prod.fst (Option.some.inj hout)
      refine ⟨?_, by decide, fun _ => ⟨rfl, rfl⟩, fun h => absurd h (by decide)⟩
      rintro other ⟨data', rest, hout', hmid⟩
      cases other <;> exact hmid (by cases hout'; rfl)
    · cases h1
      cases h2
      obtain rfl : LocIpcSystem.arrive _ true [2, 3] [2, 3] [] = s₃ := Option.some.inj h3
      intro data hout
      obtain rfl : [1] = data := congrArg Prod.fst (Option.some.inj hout)
      refine ⟨?_, by decide, fun _ => ⟨rfl, rfl⟩, fun h => absurd h (by decide)⟩
      rintro other ⟨data', rest, hout', hmid⟩
      cases other
      · exact hmid (by cases hout'; rfl)
      · cases hout'
  exact ⟨_, rfl, run_delivered twoShort hok _ rfl⟩

/-- Another sender puts a byte behind the header of a long message. -/
theorem run_inside {data h a b : List UInt8} (hsend : Util.send data = [h, a, b]) (c : UInt8) :
    ∃ t ∈ run LocIpcSystem.step init [.send false data, .send true [c], .sendto false,
        .sendto true, .sendto false, .sendto false],
      t.outbox false = none ∧ t.outbox true = none ∧
        t.listener = LocIpcListener.init.recvAll [h, [c], a, b] := by
  have hone : Util.send [c] = [[c]] := send_short (length_singleton_le c)
  rw [run_cons, step_send rfl, Option.bind_some, hsend, run_cons, step_send rfl, Option.bind_some,
    hone, run_cons, step_sendto rfl, Option.bind_some, run_cons, step_sendto rfl,
    Option.bind_some, run_cons, step_sendto rfl, Option.bind_some, run_cons, step_sendto rfl,
    Option.bind_some]
  refine ⟨_, rfl, rfl, rfl, ?_⟩
  simp only [arrive_listener, LocIpcListener.recvAll, List.foldl_cons, List.foldl_nil, init]

/-- A message of 8193 bytes, and a message that another sender sends after the header of it. -/
def insideLong : List (LocIpcStep Bool) :=
  [.send false (List.replicate 8193 0), .send true [1], .sendto false, .sendto true, .sendto false,
    .sendto false]

/-- Both calls return, and the long message is not received. -/
theorem insideLong_received :
    ∃ t ∈ run LocIpcSystem.step init insideLong,
      t.outbox false = none ∧ t.outbox true = none ∧
        List.replicate 8193 0 ∉ t.listener.received := by
  have hlength : (List.replicate locMsgBufLen (0 : UInt8)).length = locMsgBufLen :=
    List.length_replicate
  have hlong : List.replicate 8193 (0 : UInt8) = List.replicate locMsgBufLen 0 ++ [0] :=
    List.replicate_succ'
  have hframed : FramedAfter (1 :: List.replicate locMsgBufLen 0) [0] :=
    ⟨by decide, fun _ => ⟨rfl, rfl⟩, fun h => absurd h (by decide)⟩
  obtain ⟨t, ht, hfalse, htrue, hlistener⟩ := run_inside (send_of_length_succ hlength 0) 1
  refine ⟨t, ?_, hfalse, htrue, ?_⟩
  · unfold insideLong
    rw [hlong]
    exact ht
  · rw [hlistener, LocIpcListener.received_of_inside hlength hframed, hlong]
    intro hmem
    rw [List.mem_cons, List.mem_singleton, ← hlong] at hmem
    rcases hmem with hfirst | hlast
    · have hone : (1 : UInt8) ∈ List.replicate 8193 0 := hfirst ▸ List.mem_cons_self
      exact absurd (List.eq_of_mem_replicate hone) (by decide)
    · have hlen := congrArg List.length hlast
      rw [List.length_replicate, List.length_singleton] at hlen
      omega

end LocIpcSystem

end LocHal.Util
