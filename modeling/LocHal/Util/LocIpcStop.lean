import LocHal.Util.LocIpcConcurrent

/-!
# `LocHal.Util.LocIpcStop`: the end of a listener

`LocIpc::stopListening` has no channel of its own. It sends the message `LocIpcMsg::ABORT` to the
socket on which the other senders put their datagrams, and it does so only when the listener thread
has stored the descriptor in `mIpcFd`. It clears `mIpcFd` and `mRunnable` in any case, so a second
call, which the destructor of `LocIpc` makes after that of a derived class, sends nothing.

The marker waits in the socket like any datagram, and `stopListening` does not wait for the listener
to read it. Until then the socket takes the datagrams of other senders. The listener leaves its loop
at the marker and closes the socket, and what stands behind the marker is lost, although the calls
of `send` have returned `true`. After `close` a call of `send` fails.

`LocIpcLife.step` has all of this: `stopListening` at any time, the listener thread before and after
`bind` and before and after it stores the descriptor, the datagrams in the socket, the listener that
reads them one by one, and its end. A `sendto` succeeds while there is a socket of the name, and
fails otherwise. A run is clean (`Clean`) if nothing is used that is not there, and if the listener
is going to receive every message of a call that returned `true`, and to stop after a
`stopListening`, when it has read what is in the socket.

`along_stopped_iff` is the exact condition, for senders that keep to `OneAtATime`. It has three
parts (`QuietStop`). The first call of `stopListening` is made after the descriptor is stored, since
nothing is sent before and the listener goes on for ever, or after `bind` has failed. It is made
while no sender is in the middle of a long message, since the marker would be taken for a part of
that. And no call of `send` puts its last datagram into the socket between the marker and `close`.

As long as the marker is not sent, it does not matter when the listener reads. `drained` is the
listener when it has read all, and with it the system is one of `LocIpcSystem`, whose listener takes
each datagram at once (`system`). The invariant of the module before is used for it.
-/

set_option autoImplicit false

namespace LocHal.Util

open LabelledRun

/-- What has become of the socket of the listener thread. -/
inductive ListenerSocket where
  | unbound
  | bound
  | closed
  deriving DecidableEq, Repr

/-- A `LocIpc` after `startListeningNonBlocking`, with its senders. `queue` has the datagrams that
are in the socket, `outbox` and `returned` are those of `LocIpcSystem`, and only the calls that
return `true` are in `returned`. `ready` is whether the listener thread has come to its loop, behind
the assignment to `mIpcFd`. `mIpcFd` is whether the member holds a descriptor, and `mRunnable`
whether it points to the runnable, which `threadMain` deletes. `fault` is set by the use of a
runnable that is not there. -/
structure LocIpcLife (σ : Type) where
  listener : LocIpcListener
  queue : List (List UInt8)
  outbox : σ → Option (List UInt8 × List (List UInt8))
  returned : List (σ × List UInt8)
  socket : ListenerSocket
  ready : Bool
  mIpcFd : Bool
  mRunnable : Bool
  deleted : Bool
  fault : Bool

/-- `bind`, the assignment to `mIpcFd`, `recvfrom` and `close` in the listener thread, a call of
`send` and the `sendto` of its next datagram, a call of `stopListening`, or the deletion of the
runnable after `run` has returned. -/
inductive LocIpcLifeStep (σ : Type) where
  | bind (success : Bool)
  | storeFd
  | recvfrom
  | close
  | send (sender : σ) (data : List UInt8)
  | sendto (sender : σ)
  | stopListening
  | deleteRunnable

namespace LocIpcListener

/-- `startListeningBlocking` has left its loop. -/
def Stopped (l : LocIpcListener) : Prop := ∃ stopRequested, l.phase = .stopped stopRequested

instance (l : LocIpcListener) : Decidable l.Stopped :=
  match h : l.phase with
  | .stopped b => .isTrue ⟨b, h⟩
  | .waiting _ => .isFalse fun ⟨_, hb⟩ => nomatch h.symm.trans hb
  | .waitingLong _ _ => .isFalse fun ⟨_, hb⟩ => nomatch h.symm.trans hb

/-- A listener that has left its loop reads nothing more. -/
theorem Stopped.recvAll {l : LocIpcListener} (h : l.Stopped) (ds : List (List UInt8)) :
    l.recvAll ds = l := by
  obtain ⟨b, hb⟩ := h
  obtain ⟨phase, received⟩ := l
  obtain rfl : phase = .stopped b := hb
  exact recvAll_stopped b received ds

/-! ### The marker -/

theorem length_locMsgAbort : locMsgAbort.length = 16 := by decide

/-- The marker is one datagram. -/
theorem send_abort : Util.send locMsgAbort = [locMsgAbort] :=
  send_short (by rw [length_locMsgAbort]; decide)

/-- Between two messages the marker stops the listener. -/
theorem Idle.recv_abort {l : LocIpcListener} {received : List (List UInt8)}
    (h : l.Idle received) : l.recv locMsgAbort = ⟨.stopped true, received⟩ := by
  -- the first bytes of the buffer are those of the marker, whatever is behind them
  have hne : locMsgAbort ≠ [] := List.length_pos_iff.mp (by rw [length_locMsgAbort]; decide)
  cases h
  rw [recv_start received hne (by rw [length_resize, length_locMsgAbort]; decide), overwrite_zero]
  unfold handle
  rw [if_pos (List.isPrefixOf_iff_prefix.mpr (List.prefix_append _ _))]

/-- Inside a long message the marker is a part of the message, and the listener goes on. -/
theorem Midway.recv_abort {l : LocIpcListener} {received : List (List UInt8)} {data : List UInt8}
    {rest : List (List UInt8)} (h : l.Midway received data rest) :
    ¬ (l.recv locMsgAbort).Stopped := by
  obtain ⟨msg, k, tail, rfl, -, hne, hlen, -⟩ := h
  -- more of the long message is to come, so that `recvfrom` takes some of the marker for it
  have hpos := List.length_pos_iff.mpr hne
  have hbytes : (recvfrom msg k locMsgAbort).2 ≠ 0 := by
    unfold Util.recvfrom
    simp only [List.length_take, length_locMsgAbort]
    omega
  rw [recv_waitingLong, if_neg hbytes]
  -- some of the marker is in the message, which is complete now or is not
  rintro ⟨b, hb⟩
  unfold continueLong onReceive at hb
  split at hb <;> cases hb

/-- A short message is framed after any other if its first byte is not that of the marker or of a
header. -/
theorem framedAfter_of_first (previous : List UInt8) {b : UInt8} {data : List UInt8}
    (hshort : (b :: data).length ≤ locMsgBufLen) (habort : b ≠ charByte 'L')
    (hhead : b ≠ charByte '$') : FramedAfter previous (b :: data) := by
  have hlength : (b :: data).length < 2 ^ 32 := Nat.lt_of_le_of_lt hshort (by decide)
  refine ⟨hlength, fun _ => ?_, fun hlong => absurd hlong (Nat.not_lt.mpr hshort)⟩
  rw [overwrite_zero, List.cons_append]
  have hfirst : ∀ (c : UInt8) (tail rest : List UInt8), b ≠ c →
      (c :: tail).isPrefixOf (b :: rest) = false := by
    intro c tail rest hne
    rw [List.isPrefixOf, beq_eq_false_iff_ne.mpr (Ne.symm hne), Bool.false_and]
  exact ⟨hfirst _ _ _ habort, hfirst _ _ _ hhead⟩

theorem Idle.not_stopped {l : LocIpcListener} {received : List (List UInt8)}
    (h : l.Idle received) : ¬ l.Stopped := by
  rintro ⟨b, hb⟩
  cases h
  cases hb

theorem Midway.not_stopped {l : LocIpcListener} {received : List (List UInt8)} {data : List UInt8}
    {rest : List (List UInt8)} (h : l.Midway received data rest) : ¬ l.Stopped := by
  obtain ⟨msg, k, tail, rfl, -⟩ := h
  rintro ⟨b, hb⟩
  cases hb

end LocIpcListener

namespace LocIpcSystem

variable {σ : Type} [DecidableEq σ] {s : LocIpcSystem σ}

/-- As long as the senders keep to `OneAtATime`, their datagrams do not stop the listener. -/
theorem Inv.not_stopped (h : s.Inv) : ¬ s.listener.Stopped := by
  by_cases hin : ∃ sender, s.InMessage sender
  · obtain ⟨sender, data, rest, hout, hmid⟩ := hin
    exact (h.midway sender data rest hout hmid).not_stopped
  · exact (h.idle fun sender hsender => hin ⟨sender, hsender⟩).not_stopped

/-- A call of which nothing was sent can be given up. It is taken out of the list of calls. -/
theorem Inv.giveUp (h : s.Inv) {sender : σ} (hnot : ¬ s.InMessage sender) :
    ∃ calls, ({ s with outbox := Function.update s.outbox sender none, calls := calls } :
      LocIpcSystem σ).Inv := by
  -- the outboxes of the other senders are as they were
  have hout : ∀ other data rest, Function.update s.outbox sender none other = some (data, rest) →
      other ≠ sender ∧ s.outbox other = some (data, rest) := by
    intro other data rest hother
    by_cases heq : other = sender
    · subst heq
      rw [Function.update_self] at hother
      cases hother
    · rw [Function.update_of_ne heq] at hother
      exact ⟨heq, hother⟩
  -- without the call that is given up, the calls of the sender are the ones that have returned
  refine ⟨s.calls.filter (·.1 ≠ sender) ++ s.returned.filter (·.1 = sender), h.received,
    fun other => ?_, fun other data rest hother => h.outbox other data rest (hout _ _ _ hother).2,
    fun hidle => h.idle fun other hin => ?_, fun other data rest hother hmid =>
      h.midway other data rest (hout _ _ _ hother).2 hmid, ?_⟩
  · dsimp only
    rw [messagesOf_append]
    by_cases heq : other = sender
    · subst heq
      rw [Function.update_self]
      simp [messagesOf, List.filter_filter]
    · rw [Function.update_of_ne heq, ← h.order other]
      have hother : ∀ c : σ × List UInt8, (decide (c.1 = other) && decide (c.1 ≠ sender)) =
          decide (c.1 = other) := by
        intro c
        by_cases hc : c.1 = other
        · simp [hc, heq]
        · simp [hc]
      have hnone : ∀ c : σ × List UInt8,
          (decide (c.1 = other) && decide (c.1 = sender)) = false := by
        intro c
        by_cases hc : c.1 = other
        · simp [hc, heq]
        · simp [hc]
      unfold messagesOf
      rw [List.filter_filter, List.filter_filter]
      simp only [hother, hnone, List.filter_false, List.map_nil, List.append_nil]
  · obtain ⟨data, rest, hother, hmid⟩ := hin
    have hne : other ≠ sender := by
      rintro rfl
      exact hnot ⟨data, rest, hother, hmid⟩
    exact hidle other ⟨data, rest, (Function.update_of_ne hne none s.outbox).trans hother, hmid⟩
  · rintro one other ⟨data, rest, hone, hmid⟩ ⟨data', rest', hother, hmid'⟩
    exact h.one one other ⟨data, rest, (hout _ _ _ hone).2, hmid⟩
      ⟨data', rest', (hout _ _ _ hother).2, hmid'⟩

end LocIpcSystem

namespace LocIpcLife

variable {σ : Type}

/-- The thread is started, and it has no socket yet. -/
def started : LocIpcLife σ :=
  ⟨.init, [], fun _ => none, [], .unbound, false, false, true, false, false⟩

/-- The name of the socket is read from the runnable, and the marker is sent to it. The marker goes
to the end of the queue, and the call does not wait until the listener has come to it. -/
def sendAbort (s : LocIpcLife σ) : LocIpcLife σ :=
  if s.mRunnable = true ∧ s.deleted = false then
    { s with
      queue := if s.socket = .bound then s.queue ++ Util.send locMsgAbort else s.queue
      mIpcFd := false }
  else { s with fault := true }

/-- `LocIpc::stopListening`. Both members are cleared, whether the marker was sent or not. -/
def stopListening (s : LocIpcLife σ) : LocIpcLife σ :=
  let s' := if s.mIpcFd = true then s.sendAbort else s
  { s' with mRunnable := false }

/-- `bind`. Without a socket `startListeningBlocking` returns. -/
def bind (s : LocIpcLife σ) (success : Bool) : LocIpcLife σ :=
  if success = true then { s with socket := .bound }
  else { s with listener := { s.listener with phase := .stopped false }, socket := .closed }

/-- A datagram is put into the socket. The call returns `true` with its last one. -/
def put [DecidableEq σ] (s : LocIpcLife σ) (sender : σ) (data datagram : List UInt8)
    (rest : List (List UInt8)) : LocIpcLife σ :=
  if rest = [] then
    { s with
      queue := s.queue ++ [datagram]
      outbox := Function.update s.outbox sender none
      returned := s.returned ++ [(sender, data)] }
  else
    { s with
      queue := s.queue ++ [datagram]
      outbox := Function.update s.outbox sender (some (data, rest)) }

/-- `sendto` of the next datagram. Without a socket of this name it fails, and the call returns
`false`. -/
def sendto [DecidableEq σ] (s : LocIpcLife σ) (sender : σ) : Option (LocIpcLife σ) :=
  match s.outbox sender with
  | some (data, datagram :: rest) =>
      some (if s.socket = .bound then s.put sender data datagram rest
        else { s with outbox := Function.update s.outbox sender none })
  | _ => none

/-- One step. Nothing happens after a fault. The listener reads while it is in its loop. The
runnable is deleted when `startListeningBlocking` has returned. -/
def step [DecidableEq σ] (s : LocIpcLife σ) (i : LocIpcLifeStep σ) : Option (LocIpcLife σ) :=
  if s.fault = true then none
  else
    match i with
    | .bind success => if s.socket = .unbound then some (s.bind success) else none
    | .storeFd =>
        if s.socket = .bound ∧ s.ready = false then some { s with ready := true, mIpcFd := true }
        else none
    | .recvfrom =>
        match s.queue with
        | datagram :: queue =>
            if s.socket = .bound ∧ s.ready = true ∧ ¬ s.listener.Stopped then
              some { s with listener := s.listener.recv datagram, queue := queue }
            else none
        | [] => none
    | .close =>
        -- what is in the socket is gone with it
        if s.socket = .bound ∧ s.listener.Stopped then
          some { s with socket := .closed, queue := [] }
        else none
    | .send sender data =>
        if s.outbox sender = none then
          some { s with outbox := Function.update s.outbox sender (some (data, Util.send data)) }
        else none
    | .sendto sender => s.sendto sender
    | .stopListening => some s.stopListening
    | .deleteRunnable =>
        if s.socket = .closed ∧ s.deleted = false then some { s with deleted := true } else none

/-- The listener when it has read what is in the socket. -/
def drained (s : LocIpcLife σ) : LocIpcListener := s.listener.recvAll s.queue

/-- The system of the module before, for a list of the calls. Its listener takes each datagram as it
arrives. -/
def system (s : LocIpcLife σ) (calls : List (σ × List UInt8)) : LocIpcSystem σ :=
  ⟨s.drained, s.outbox, calls, s.returned⟩

/-- A sender has put a part of its message into the socket, and not all of it. -/
def InMessage (s : LocIpcLife σ) (sender : σ) : Prop :=
  ∃ data rest, s.outbox sender = some (data, rest) ∧ rest ≠ Util.send data

/-- The senders keep to `OneAtATime` as long as there is a listener to take their datagrams: a
message is not empty, and its first datagram is sent while no sender is in the middle of a long
message, behind one after which it is framed. What they send behind the marker is free. -/
def SendersOneAtATime (s : LocIpcLife σ) : LocIpcLifeStep σ → Prop
  | .send _ data => data ≠ []
  | .sendto sender => s.socket = .bound → s.mRunnable = true → ∀ data,
      s.outbox sender = some (data, Util.send data) →
        (∀ other, ¬ s.InMessage other) ∧
          FramedAfter ((s.drained.received.getLast?).getD []) data
  | _ => True

/-- Nothing is used that is not there. When the listener has read what is in the socket, it has
received every message of a call that returned `true` once, in the order of the returns, and nothing
else, and it has stopped if `stopListening` was called. -/
structure Clean (s : LocIpcLife σ) : Prop where
  fault : s.fault = false
  delivered : s.drained.received = s.returned.map Prod.snd
  stopped : s.mRunnable = false → s.drained.Stopped

/-- The condition on one step. A call of `stopListening` after the first one does nothing, so only
the first one has to meet it. That one comes after `bind`, and if there is a socket it finds the
descriptor, to which the marker is sent, and no sender in the middle of a long message, in which the
marker would be lost. While the marker is in the socket, no call puts its last datagram behind it,
since the call would return `true`. Other parts of a long message may come there, since the call
fails when the socket is closed. -/
def QuietStop (s : LocIpcLife σ) : LocIpcLifeStep σ → Prop
  | .stopListening => s.mRunnable = true →
      s.socket ≠ .unbound ∧
        (s.socket = .bound → s.ready = true ∧ ∀ sender, ¬ s.InMessage sender)
  | .sendto sender => s.socket = .bound → s.mRunnable = false →
      ∀ data datagram, s.outbox sender ≠ some (data, [datagram])
  | _ => True

/-! ### One step -/

/-- Without a descriptor `stopListening` only clears `mRunnable`. -/
theorem stopListening_of_noFd {s : LocIpcLife σ} (h : s.mIpcFd = false) :
    s.stopListening = { s with mRunnable := false } := by
  unfold stopListening
  rw [if_neg (by rw [h]; exact Bool.false_ne_true), ← h]

/-- With a descriptor, the runnable and the socket the marker is sent. -/
theorem stopListening_of_fd {s : LocIpcLife σ} (hfd : s.mIpcFd = true)
    (hrunnable : s.mRunnable = true) (hdeleted : s.deleted = false) (hsocket : s.socket = .bound) :
    s.stopListening = { s with
      queue := s.queue ++ [locMsgAbort]
      mIpcFd := false
      mRunnable := false } := by
  unfold stopListening sendAbort
  rw [if_pos hfd, if_pos ⟨hrunnable, hdeleted⟩, if_pos hsocket, LocIpcListener.send_abort]

/-- A datagram at the end of the queue is read last. -/
theorem recvAll_concat (l : LocIpcListener) (ds : List (List UInt8)) (d : List UInt8) :
    l.recvAll (ds ++ [d]) = (l.recvAll ds).recv d :=
  LocIpcListener.recvAll_append l ds [d]

/-- A listener that has stopped has read all that it is going to read. -/
theorem drained_of_stopped {s : LocIpcLife σ} (h : s.listener.Stopped) : s.drained = s.listener :=
  h.recvAll s.queue

/-- So has a listener with nothing in its socket. -/
theorem drained_of_nil {s : LocIpcLife σ} (h : s.queue = []) : s.drained = s.listener := by
  unfold drained
  rw [h]
  rfl

/-- What the listener is going to receive does not change when it reads a datagram. -/
theorem drained_recvfrom {s : LocIpcLife σ} {datagram : List UInt8}
    {queue : List (List UInt8)} (h : s.queue = datagram :: queue) :
    ({ s with listener := s.listener.recv datagram, queue := queue } : LocIpcLife σ).drained
      = s.drained := by
  unfold drained
  rw [h]
  rfl

variable [DecidableEq σ] {s t : LocIpcLife σ}

/-- To put a datagram into the socket is to let it arrive. -/
theorem system_put (s : LocIpcLife σ) (calls : List (σ × List UInt8)) (sender : σ)
    (data datagram : List UInt8) (rest : List (List UInt8)) :
    (s.put sender data datagram rest).system calls =
      (s.system calls).arrive sender data datagram rest := by
  unfold put LocIpcSystem.arrive system drained
  split
  · dsimp only
    rw [recvAll_concat]
  · dsimp only
    rw [recvAll_concat]

theorem eq_of_sendto {sender : σ} (h : s.sendto sender = some t) :
    ∃ data d rest, s.outbox sender = some (data, d :: rest) ∧
      t = if s.socket = .bound then s.put sender data d rest
        else { s with outbox := Function.update s.outbox sender none } := by
  unfold sendto at h
  split at h
  · rename_i data d rest hout
    exact ⟨data, d, rest, hout, (Option.some.inj h).symm⟩
  · cases h

/-- The phases of a run in which nothing has gone wrong. Before `bind` nothing was sent. While there
is a socket and no marker, the system is that of the module before. Once the marker is sent,
everything that the listener is going to receive stands before it. At the end the socket is closed,
and there is nothing in it. -/
inductive Sound (s : LocIpcLife σ) : Prop where
  | unbound (hfault : s.fault = false) (hsocket : s.socket = .unbound) (hready : s.ready = false)
      (hfd : s.mIpcFd = false) (hrunnable : s.mRunnable = true) (hdeleted : s.deleted = false)
      (hqueue : s.queue = []) (hinv : ∃ calls, (s.system calls).Inv)
      (hnot : ∀ sender, ¬ s.InMessage sender)
  | bound (hfault : s.fault = false) (hsocket : s.socket = .bound) (hfd : s.mIpcFd = s.ready)
      (hrunnable : s.mRunnable = true) (hdeleted : s.deleted = false)
      (hinv : ∃ calls, (s.system calls).Inv)
  | stopping (hfault : s.fault = false) (hsocket : s.socket = .bound) (hready : s.ready = true)
      (hfd : s.mIpcFd = false) (hrunnable : s.mRunnable = false) (hstopped : s.drained.Stopped)
      (hdelivered : s.drained.received = s.returned.map Prod.snd)
  | closed (hfault : s.fault = false) (hsocket : s.socket = .closed) (hfd : s.mIpcFd = false)
      (hstopped : s.listener.Stopped) (hqueue : s.queue = [])
      (hdelivered : s.listener.received = s.returned.map Prod.snd)

theorem sound_started : (started : LocIpcLife σ).Sound := by
  refine .unbound rfl rfl rfl rfl rfl rfl rfl ⟨[], LocIpcSystem.inv_init⟩ ?_
  rintro sender ⟨data, rest, hout, -⟩
  cases hout

theorem Sound.clean (h : s.Sound) : s.Clean := by
  cases h with
  | unbound hfault hsocket hready hfd hrunnable hdeleted hqueue hinv hnot =>
      obtain ⟨calls, hcalls⟩ := hinv
      exact ⟨hfault, hcalls.received, fun h => absurd (hrunnable.symm.trans h) (by decide)⟩
  | bound hfault hsocket hfd hrunnable hdeleted hinv =>
      obtain ⟨calls, hcalls⟩ := hinv
      exact ⟨hfault, hcalls.received, fun h => absurd (hrunnable.symm.trans h) (by decide)⟩
  | stopping hfault hsocket hready hfd hrunnable hstopped hdelivered =>
      exact ⟨hfault, hdelivered, fun _ => hstopped⟩
  | closed hfault hsocket hfd hstopped hqueue hdelivered =>
      have hdrained := drained_of_stopped hstopped
      exact ⟨hfault, by rw [hdrained]; exact hdelivered, fun _ => by rw [hdrained]; exact hstopped⟩

/-- `bind` gives the listener a socket, or ends it. -/
theorem Sound.bind (h : s.Sound) (hsocket : s.socket = .unbound) (success : Bool) :
    (s.bind success).Sound := by
  cases h with
  | unbound hfault _ hready hfd hrunnable hdeleted hqueue hinv hnot =>
      unfold LocIpcLife.bind
      cases success with
      | true => exact .bound hfault rfl (hfd.trans hready.symm) hrunnable hdeleted hinv
      | false =>
          obtain ⟨calls, hcalls⟩ := hinv
          have hreceived : s.drained.received = s.returned.map Prod.snd := hcalls.received
          rw [drained_of_nil hqueue] at hreceived
          exact .closed hfault rfl hfd ⟨false, rfl⟩ hqueue hreceived
  | bound hfault hbound => exact absurd (hbound.symm.trans hsocket) ListenerSocket.noConfusion
  | stopping hfault hbound => exact absurd (hbound.symm.trans hsocket) ListenerSocket.noConfusion
  | closed hfault hclosed => exact absurd (hclosed.symm.trans hsocket) ListenerSocket.noConfusion

theorem Sound.recvfrom (h : s.Sound) (hsocket : s.socket = .bound) {datagram : List UInt8}
    {queue : List (List UInt8)} (hqueue : s.queue = datagram :: queue) :
    ({ s with listener := s.listener.recv datagram, queue := queue } : LocIpcLife σ).Sound := by
  have hdrained := drained_recvfrom hqueue
  cases h with
  | unbound hfault hunbound => exact absurd (hunbound.symm.trans hsocket) ListenerSocket.noConfusion
  | bound hfault _ hfd hrunnable hdeleted hinv =>
      refine .bound hfault hsocket hfd hrunnable hdeleted ?_
      -- the listener is going to receive the same
      unfold system at hinv ⊢
      rw [hdrained]
      exact hinv
  | stopping hfault _ hready hfd hrunnable hstopped hdelivered =>
      refine .stopping hfault hsocket hready hfd hrunnable ?_ ?_
      · rw [hdrained]
        exact hstopped
      · rw [hdrained]
        exact hdelivered
  | closed hfault hclosed => exact absurd (hclosed.symm.trans hsocket) ListenerSocket.noConfusion

/-- The descriptor is stored. -/
theorem Sound.storeFd (h : s.Sound) (hsocket : s.socket = .bound) (hnot : s.ready = false) :
    ({ s with ready := true, mIpcFd := true } : LocIpcLife σ).Sound := by
  cases h with
  | unbound hfault hunbound => exact absurd (hunbound.symm.trans hsocket) ListenerSocket.noConfusion
  | bound hfault _ hfd hrunnable hdeleted hinv =>
      exact .bound hfault hsocket rfl hrunnable hdeleted hinv
  | stopping hfault _ hready => exact absurd (hready.symm.trans hnot) (by decide)
  | closed hfault hclosed => exact absurd (hclosed.symm.trans hsocket) ListenerSocket.noConfusion

/-- The listener closes the socket after it has read the marker. -/
theorem Sound.close (h : s.Sound) (hsocket : s.socket = .bound) (hstopped : s.listener.Stopped) :
    ({ s with socket := .closed, queue := [] } : LocIpcLife σ).Sound := by
  have hdrained := drained_of_stopped hstopped
  cases h with
  | unbound hfault hunbound => exact absurd (hunbound.symm.trans hsocket) ListenerSocket.noConfusion
  | bound hfault _ hfd hrunnable hdeleted hinv =>
      obtain ⟨calls, hcalls⟩ := hinv
      refine absurd (?_ : s.drained.Stopped) hcalls.not_stopped
      rw [hdrained]
      exact hstopped
  | stopping hfault _ hready hfd hrunnable _ hdelivered =>
      rw [hdrained] at hdelivered
      exact .closed hfault rfl hfd hstopped rfl hdelivered
  | closed hfault hclosed => exact absurd (hclosed.symm.trans hsocket) ListenerSocket.noConfusion

/-- Nobody is in the middle of a message after a sender starts a call or gives one up. -/
theorem not_inMessage_update (hnot : ∀ sender, ¬ s.InMessage sender) (sender : σ)
    {entry : Option (List UInt8 × List (List UInt8))}
    (hentry : ∀ data rest, entry = some (data, rest) → rest = Util.send data) (other : σ) :
    ¬ ({ s with outbox := Function.update s.outbox sender entry } : LocIpcLife σ).InMessage
      other := by
  rintro ⟨data, rest, hout, hmid⟩
  dsimp only at hout
  by_cases heq : other = sender
  · rw [heq, Function.update_self] at hout
    exact hmid (hentry data rest hout)
  · rw [Function.update_of_ne heq] at hout
    exact hnot other ⟨data, rest, hout, hmid⟩

/-- A new call of `send` puts nothing into the socket. -/
theorem Sound.send (h : s.Sound) {sender : σ} {data : List UInt8} (hne : data ≠ [])
    (hnone : s.outbox sender = none) :
    ({ s with outbox := Function.update s.outbox sender (some (data, Util.send data)) } :
      LocIpcLife σ).Sound := by
  -- for the system of the module before this is a call as well
  have hcall : ∀ calls, (s.system calls).Inv → ∃ calls', ({ s.system calls with
      outbox := Function.update s.outbox sender (some (data, Util.send data))
      calls := calls' } : LocIpcSystem σ).Inv := fun calls hcalls =>
    ⟨calls ++ [(sender, data)], hcalls.step (i := .send sender data) hne
      (LocIpcSystem.step_send hnone data)⟩
  cases h with
  | unbound hfault hsocket hready hfd hrunnable hdeleted hqueue hinv hnot =>
      obtain ⟨calls, hcalls⟩ := hinv
      refine .unbound hfault hsocket hready hfd hrunnable hdeleted hqueue (hcall calls hcalls)
        (not_inMessage_update hnot sender fun data' rest hentry => ?_)
      cases hentry
      rfl
  | bound hfault hsocket hfd hrunnable hdeleted hinv =>
      obtain ⟨calls, hcalls⟩ := hinv
      exact .bound hfault hsocket hfd hrunnable hdeleted (hcall calls hcalls)
  | stopping hfault hsocket hready hfd hrunnable hstopped hdelivered =>
      exact .stopping hfault hsocket hready hfd hrunnable hstopped hdelivered
  | closed hfault hsocket hfd hstopped hqueue hdelivered =>
      exact .closed hfault hsocket hfd hstopped hqueue hdelivered

/-- A call that finds no socket returns `false`, and nothing of it was sent before `bind`. -/
theorem Sound.giveUp (h : s.Sound) (hsocket : s.socket ≠ .bound) (sender : σ) :
    ({ s with outbox := Function.update s.outbox sender none } : LocIpcLife σ).Sound := by
  cases h with
  | unbound hfault hunbound hready hfd hrunnable hdeleted hqueue hinv hnot =>
      obtain ⟨calls, hcalls⟩ := hinv
      exact .unbound hfault hunbound hready hfd hrunnable hdeleted hqueue
        (hcalls.giveUp (hnot sender))
        (not_inMessage_update hnot sender fun data rest hentry => nomatch hentry)
  | bound hfault hbound => exact absurd hbound hsocket
  | stopping hfault hbound => exact absurd hbound hsocket
  | closed hfault hclosed hfd hstopped hqueue hdelivered =>
      exact .closed hfault hclosed hfd hstopped hqueue hdelivered

/-- A datagram behind the marker is not read. -/
theorem drained_put (hstopped : s.drained.Stopped) (sender : σ) (data datagram : List UInt8)
    (rest : List (List UInt8)) : (s.put sender data datagram rest).drained = s.drained := by
  have hqueue : (s.put sender data datagram rest).drained
      = s.listener.recvAll (s.queue ++ [datagram]) := by
    unfold put drained
    split <;> rfl
  rw [hqueue, recvAll_concat]
  exact hstopped.recvAll [datagram]

/-- A datagram that arrives is one of the system before the marker is sent. After that it must not
be the last one of its call. -/
theorem Sound.put (h : s.Sound) (hsocket : s.socket = .bound) {sender : σ}
    {data datagram : List UInt8} {rest : List (List UInt8)}
    (hbase : s.SendersOneAtATime (.sendto sender)) (hok : s.QuietStop (.sendto sender))
    (hout : s.outbox sender = some (data, datagram :: rest)) :
    (s.put sender data datagram rest).Sound := by
  cases h with
  | unbound hfault hunbound => exact absurd (hunbound.symm.trans hsocket) ListenerSocket.noConfusion
  | bound hfault _ hfd hrunnable hdeleted hinv =>
      obtain ⟨calls, hcalls⟩ := hinv
      have hinv' := hcalls.arrive (hbase hsocket hrunnable) hout
      rw [← system_put] at hinv'
      unfold LocIpcLife.put at hinv' ⊢
      by_cases hlast : rest = []
      · rw [if_pos hlast] at hinv' ⊢
        exact .bound hfault hsocket hfd hrunnable hdeleted ⟨calls, hinv'⟩
      · rw [if_neg hlast] at hinv' ⊢
        exact .bound hfault hsocket hfd hrunnable hdeleted ⟨calls, hinv'⟩
  | stopping hfault _ hready hfd hrunnable hstopped hdelivered =>
      have hmore : rest ≠ [] := by
        rintro rfl
        exact hok hsocket hrunnable data datagram hout
      have hdrained := drained_put hstopped sender data datagram rest
      -- a part of a message behind the marker changes nothing that counts
      rw [← hdrained] at hstopped hdelivered
      unfold LocIpcLife.put at hstopped hdelivered ⊢
      rw [if_neg hmore] at hstopped hdelivered ⊢
      exact .stopping hfault hsocket hready hfd hrunnable hstopped hdelivered
  | closed hfault hclosed => exact absurd (hclosed.symm.trans hsocket) ListenerSocket.noConfusion

/-- A message behind the marker is not going to be received, although its call has returned. -/
theorem Sound.quiet_of_put (h : s.Sound) {sender : σ} {data datagram : List UInt8}
    {rest : List (List UInt8)} (hout : s.outbox sender = some (data, datagram :: rest))
    (hclean : (s.put sender data datagram rest).Clean) : s.QuietStop (.sendto sender) := by
  intro hsocket hrunnable data' datagram' hlast
  cases hout.symm.trans hlast
  cases h with
  | unbound hfault hunbound => exact absurd (hunbound.symm.trans hsocket) ListenerSocket.noConfusion
  | bound hfault _ hfd hset => exact absurd (hset.symm.trans hrunnable) (by decide)
  | stopping hfault _ hready hfd _ hstopped hdelivered =>
      -- one more call has returned, and no more is going to be received
      have hmore : s.drained.received = (s.returned ++ [(sender, data)]).map Prod.snd := by
        rw [← drained_put hstopped sender data datagram []]
        exact hclean.delivered
      have hlength := congrArg List.length (hdelivered.symm.trans hmore)
      rw [List.length_map, List.length_map, List.length_append, List.length_singleton] at hlength
      omega
  | closed hfault hclosed => exact absurd (hclosed.symm.trans hsocket) ListenerSocket.noConfusion

/-- A call of `stopListening` that meets the condition puts the marker where the listener stops at
it, or finds the listener ended. -/
theorem Sound.stopListening (h : s.Sound) (hok : s.QuietStop .stopListening) :
    s.stopListening.Sound := by
  cases h with
  | unbound hfault hsocket hready hfd hrunnable => exact absurd hsocket (hok hrunnable).1
  | bound hfault hsocket hfd hrunnable hdeleted hinv =>
      obtain ⟨calls, hcalls⟩ := hinv
      -- by then the listener has read everything and waits for the next message
      obtain ⟨hready, hnot⟩ := (hok hrunnable).2 hsocket
      have hidle := hcalls.idle hnot
      rw [stopListening_of_fd (hfd.trans hready) hrunnable hdeleted hsocket]
      have hdrained : s.listener.recvAll (s.queue ++ [locMsgAbort])
          = ⟨.stopped true, s.drained.received⟩ := by
        rw [recvAll_concat]
        exact hidle.recv_abort
      refine .stopping hfault hsocket hready rfl rfl ?_ ?_
      · exact ⟨true, congrArg LocIpcListener.phase hdrained⟩
      · exact (congrArg LocIpcListener.received hdrained).trans hcalls.received
  | stopping hfault hsocket hready hfd hrunnable hstopped hdelivered =>
      rw [stopListening_of_noFd hfd]
      exact .stopping hfault hsocket hready hfd rfl hstopped hdelivered
  | closed hfault hsocket hfd hstopped hqueue hdelivered =>
      rw [stopListening_of_noFd hfd]
      exact .closed hfault hsocket hfd hstopped hqueue hdelivered

/-- After a first call of `stopListening` that does not meet the condition the listener goes on:
without a descriptor nothing is sent, and in a long message the marker is lost. -/
theorem Sound.quiet_of_stopped (h : s.Sound) (hclean : s.stopListening.Clean) :
    s.QuietStop .stopListening := by
  have hstopped : s.stopListening.drained.Stopped := hclean.stopped rfl
  intro hrunnable
  cases h with
  | unbound hfault hsocket hready hfd _ hdeleted hqueue hinv hnot =>
      obtain ⟨calls, hcalls⟩ := hinv
      rw [stopListening_of_noFd hfd] at hstopped
      exact absurd hstopped hcalls.not_stopped
  | bound hfault hsocket hfd _ hdeleted hinv =>
      obtain ⟨calls, hcalls⟩ := hinv
      refine ⟨by rw [hsocket]; exact ListenerSocket.noConfusion, fun _ => ?_⟩
      -- without the descriptor the listener does not stop
      cases hready : s.ready with
      | false =>
          rw [stopListening_of_noFd (hfd.trans hready)] at hstopped
          exact absurd hstopped hcalls.not_stopped
      | true => ?_
      refine ⟨rfl, ?_⟩
      rintro sender ⟨data, rest, hout, hmid⟩
      rw [stopListening_of_fd (hfd.trans hready) hrunnable hdeleted hsocket] at hstopped
      have hdrained : s.listener.recvAll (s.queue ++ [locMsgAbort]) = s.drained.recv locMsgAbort :=
        recvAll_concat s.listener s.queue locMsgAbort
      refine (hcalls.midway sender data rest hout hmid).recv_abort ?_
      show (s.drained.recv locMsgAbort).Stopped
      rw [← hdrained]
      exact hstopped
  | stopping hfault hsocket hready hfd hcleared =>
      exact absurd (hcleared.symm.trans hrunnable) (by decide)
  | closed hfault hsocket =>
      rw [hsocket]
      exact ⟨ListenerSocket.noConfusion, fun hbound => ListenerSocket.noConfusion hbound⟩

/-- `threadMain` deletes the runnable when the listener has ended and `mIpcFd` is not set. -/
theorem Sound.deleteRunnable (h : s.Sound) (hsocket : s.socket = .closed) :
    ({ s with deleted := true } : LocIpcLife σ).Sound := by
  cases h with
  | unbound hfault hunbound => exact absurd (hunbound.symm.trans hsocket) ListenerSocket.noConfusion
  | bound hfault hbound => exact absurd (hbound.symm.trans hsocket) ListenerSocket.noConfusion
  | stopping hfault hbound => exact absurd (hbound.symm.trans hsocket) ListenerSocket.noConfusion
  | closed hfault _ hfd hstopped hqueue hdelivered =>
      exact .closed hfault hsocket hfd hstopped hqueue hdelivered

/-- What one step does. -/
theorem step_cases {i : LocIpcLifeStep σ} (hstep : s.step i = some t) :
    (∃ success, i = .bind success ∧ s.socket = .unbound ∧ t = s.bind success) ∨
    (i = .storeFd ∧ s.socket = .bound ∧ s.ready = false ∧
      t = { s with ready := true, mIpcFd := true }) ∨
    (∃ datagram queue, i = .recvfrom ∧ s.queue = datagram :: queue ∧ s.socket = .bound ∧
      t = { s with listener := s.listener.recv datagram, queue := queue }) ∨
    (i = .close ∧ s.socket = .bound ∧ s.listener.Stopped ∧
      t = { s with socket := .closed, queue := [] }) ∨
    (∃ sender data, i = .send sender data ∧ s.outbox sender = none ∧
      t = { s with outbox := Function.update s.outbox sender (some (data, Util.send data)) }) ∨
    (∃ sender data datagram rest, i = .sendto sender ∧
      s.outbox sender = some (data, datagram :: rest) ∧
      t = if s.socket = .bound then s.put sender data datagram rest
        else { s with outbox := Function.update s.outbox sender none }) ∨
    (i = .stopListening ∧ t = s.stopListening) ∨
    (i = .deleteRunnable ∧ s.socket = .closed ∧ t = { s with deleted := true }) := by
  unfold LocIpcLife.step at hstep
  obtain ⟨-, hstep⟩ := Option.ite_none_left_eq_some.mp hstep
  cases i with
  | bind success =>
      obtain ⟨hsocket, heq⟩ := Option.ite_none_right_eq_some.mp hstep
      exact .inl ⟨success, rfl, hsocket, (Option.some.inj heq).symm⟩
  | storeFd =>
      obtain ⟨⟨hsocket, hready⟩, heq⟩ := Option.ite_none_right_eq_some.mp hstep
      exact .inr (.inl ⟨rfl, hsocket, hready, (Option.some.inj heq).symm⟩)
  | recvfrom =>
      dsimp only at hstep
      split at hstep
      · rename_i datagram queue hqueue
        obtain ⟨⟨hsocket, -⟩, heq⟩ := Option.ite_none_right_eq_some.mp hstep
        exact .inr (.inr (.inl ⟨datagram, queue, rfl, hqueue, hsocket, (Option.some.inj heq).symm⟩))
      · cases hstep
  | close =>
      obtain ⟨⟨hsocket, hstopped⟩, heq⟩ := Option.ite_none_right_eq_some.mp hstep
      exact .inr (.inr (.inr (.inl ⟨rfl, hsocket, hstopped, (Option.some.inj heq).symm⟩)))
  | send sender data =>
      obtain ⟨hnone, heq⟩ := Option.ite_none_right_eq_some.mp hstep
      exact .inr (.inr (.inr (.inr (.inl ⟨sender, data, rfl, hnone, (Option.some.inj heq).symm⟩))))
  | sendto sender =>
      obtain ⟨data, datagram, rest, hout, heq⟩ := eq_of_sendto hstep
      exact .inr (.inr (.inr (.inr (.inr (.inl ⟨sender, data, datagram, rest, rfl, hout, heq⟩)))))
  | stopListening =>
      exact .inr (.inr (.inr (.inr (.inr (.inr (.inl ⟨rfl, (Option.some.inj hstep).symm⟩))))))
  | deleteRunnable =>
      obtain ⟨⟨hsocket, -⟩, heq⟩ := Option.ite_none_right_eq_some.mp hstep
      have ht := (Option.some.inj heq).symm
      exact .inr (.inr (.inr (.inr (.inr (.inr (.inr ⟨rfl, hsocket, ht⟩))))))

/-- `mRunnable` is not set again. -/
theorem mRunnable_of_step {i : LocIpcLifeStep σ} (hstep : s.step i = some t)
    (h : s.mRunnable = false) : t.mRunnable = false := by
  obtain ⟨success, rfl, hsocket, rfl⟩ | ⟨rfl, hsocket, hready, rfl⟩ |
    ⟨datagram, queue, rfl, hqueue, hsocket, rfl⟩ | ⟨rfl, hsocket, hstopped, rfl⟩ |
    ⟨sender, data, rfl, hnone, rfl⟩ |
    ⟨sender, data, datagram, rest, rfl, hout, rfl⟩ | ⟨rfl, rfl⟩ | ⟨rfl, hsocket, rfl⟩ :=
    step_cases hstep
  · unfold LocIpcLife.bind
    split
    · exact h
    · exact h
  · exact h
  · exact h
  · exact h
  · exact h
  · unfold LocIpcLife.put
    split
    · split
      · exact h
      · exact h
    · exact h
  · rfl
  · exact h

/-- A step that meets the conditions keeps the run sound. -/
theorem Sound.step (h : s.Sound) {i : LocIpcLifeStep σ} (hbase : s.SendersOneAtATime i)
    (hok : s.QuietStop i) (hstep : s.step i = some t) : t.Sound := by
  obtain ⟨success, rfl, hsocket, rfl⟩ | ⟨rfl, hsocket, hready, rfl⟩ |
    ⟨datagram, queue, rfl, hqueue, hsocket, rfl⟩ | ⟨rfl, hsocket, hstopped, rfl⟩ |
    ⟨sender, data, rfl, hnone, rfl⟩ |
    ⟨sender, data, datagram, rest, rfl, hout, rfl⟩ | ⟨rfl, rfl⟩ | ⟨rfl, hsocket, rfl⟩ :=
    step_cases hstep
  · exact h.bind hsocket success
  · exact h.storeFd hsocket hready
  · exact h.recvfrom hsocket hqueue
  · exact h.close hsocket hstopped
  · exact h.send hbase hnone
  · by_cases hsocket : s.socket = .bound
    · rw [if_pos hsocket]
      exact h.put hsocket hbase hok hout
    · rw [if_neg hsocket]
      exact h.giveUp hsocket sender
  · exact h.stopListening hok
  · exact h.deleteRunnable hsocket

/-- A step after which the run is still clean meets the condition. -/
theorem Sound.quiet (h : s.Sound) {i : LocIpcLifeStep σ} (hstep : s.step i = some t)
    (hclean : t.Clean) : s.QuietStop i := by
  obtain ⟨success, rfl, hsocket, rfl⟩ | ⟨rfl, hsocket, hready, rfl⟩ |
    ⟨datagram, queue, rfl, hqueue, hsocket, rfl⟩ | ⟨rfl, hsocket, hstopped, rfl⟩ |
    ⟨sender, data, rfl, hnone, rfl⟩ |
    ⟨sender, data, datagram, rest, rfl, hout, rfl⟩ | ⟨rfl, rfl⟩ | ⟨rfl, hsocket, rfl⟩ :=
    step_cases hstep
  · exact trivial
  · exact trivial
  · exact trivial
  · exact trivial
  · exact trivial
  · intro hsocket
    rw [if_pos hsocket] at hclean
    exact h.quiet_of_put hout hclean hsocket
  · exact h.quiet_of_stopped hclean
  · exact trivial

/-- A `sendto` that is not possible puts nothing behind the marker, and `stopListening` can always
be called. -/
theorem Sound.quiet_of_disabled (h : s.Sound) {i : LocIpcLifeStep σ} (hstep : s.step i = none) :
    s.QuietStop i := by
  unfold LocIpcLife.step at hstep
  rw [if_neg (by rw [h.clean.fault]; exact Bool.false_ne_true)] at hstep
  cases i with
  | sendto sender =>
      intro hsocket hrunnable data datagram hout
      have hsome : s.sendto sender ≠ none := by
        unfold LocIpcLife.sendto
        rw [hout]
        exact Option.some_ne_none _
      exact hsome hstep
  | stopListening => cases hstep
  | bind success => exact trivial
  | storeFd => exact trivial
  | recvfrom => exact trivial
  | close => exact trivial
  | send sender data => exact trivial
  | deleteRunnable => exact trivial

/-! ### Every run -/

/-- While the senders keep to `OneAtATime`, a run stays clean if and only if the first call of
`stopListening` finds the thread past `bind` and no sender in the middle of a long message, and no
call of `send` puts its last datagram into the socket after it. -/
theorem along_stopped_iff (steps : List (LocIpcLifeStep σ))
    (hsenders : Guarded LocIpcLife.step SendersOneAtATime started steps) :
    Along LocIpcLife.step Clean started steps ↔
      Guarded LocIpcLife.step QuietStop started steps :=
  Guarded.along_iff_guarded (I := Sound) (fun _ h => h.clean)
    (fun _ _ _ h hbase hok hstep => h.step hbase hok hstep)
    (fun _ _ _ h _ hstep hclean => h.quiet hstep hclean)
    (fun _ _ h hnone => h.quiet_of_disabled hnone) steps started sound_started hsenders

/-- A message is in the socket before the thread is in its loop, and it is received. Another one is
in the socket when `stopListening` is called. The listener reads it and then the marker. A call that
comes after `close` returns `false`. The destructors call `stopListening` once more. -/
def twoStops : List (LocIpcLifeStep Bool) :=
  [.bind true, .send false [1], .sendto false, .storeFd, .recvfrom, .send true [2, 3],
    .sendto true, .stopListening, .send false [4], .recvfrom, .recvfrom, .close, .sendto false,
    .stopListening, .deleteRunnable]

theorem eq_of_recvfrom {datagram : List UInt8} {queue : List (List UInt8)}
    (hqueue : s.queue = datagram :: queue) (h : s.step .recvfrom = some t) :
    t = { s with listener := s.listener.recv datagram, queue := queue } := by
  unfold LocIpcLife.step at h
  obtain ⟨-, h⟩ := Option.ite_none_left_eq_some.mp h
  rw [hqueue] at h
  obtain ⟨-, h⟩ := Option.ite_none_right_eq_some.mp h
  exact (Option.some.inj h).symm

theorem eq_of_send {sender : σ} {data : List UInt8} (h : s.step (.send sender data) = some t) :
    t = { s with outbox := Function.update s.outbox sender (some (data, Util.send data)) } := by
  unfold LocIpcLife.step at h
  obtain ⟨-, h⟩ := Option.ite_none_left_eq_some.mp h
  obtain ⟨-, h⟩ := Option.ite_none_right_eq_some.mp h
  exact (Option.some.inj h).symm

theorem eq_of_close (h : s.step .close = some t) :
    t = { s with socket := .closed, queue := [] } := by
  unfold LocIpcLife.step at h
  obtain ⟨-, h⟩ := Option.ite_none_left_eq_some.mp h
  obtain ⟨-, h⟩ := Option.ite_none_right_eq_some.mp h
  exact (Option.some.inj h).symm

theorem along_stopped_twoStops :
    (run LocIpcLife.step started twoStops).any (fun t =>
        t.deleted && t.listener.received == [[1], [2, 3]]) = true ∧
      Along LocIpcLife.step Clean started twoStops := by
  refine ⟨by decide +kernel, (along_stopped_iff twoStops ?_).mpr ?_⟩
  · refine ⟨trivial, fun s₁ h₁ => ⟨List.cons_ne_nil _ _, fun s₂ h₂ => ⟨fun _ _ => ?_,
      fun s₃ h₃ => ⟨trivial, fun s₄ h₄ => ⟨trivial, fun s₅ h₅ => ⟨List.cons_ne_nil _ _,
      fun s₆ h₆ => ⟨fun _ _ => ?_, fun s₇ h₇ => ⟨trivial, fun s₈ h₈ => ⟨List.cons_ne_nil _ _,
      fun s₉ h₉ => ⟨trivial, fun s₁₀ h₁₀ => ⟨trivial, fun s₁₁ h₁₁ => ⟨trivial,
      fun s₁₂ h₁₂ => ⟨fun hbound => ?_, fun _ _ => ⟨trivial, fun _ _ => ⟨trivial,
      fun _ _ => trivial⟩⟩⟩⟩⟩⟩⟩⟩⟩⟩⟩⟩⟩⟩⟩
    · cases h₁
      cases h₂
      intro data hout
      obtain rfl : [1] = data := congrArg Prod.fst (Option.some.inj hout)
      refine ⟨?_, LocIpcListener.framedAfter_of_first _ (by decide) (by decide) (by decide)⟩
      rintro other ⟨data', rest, hout', hmid⟩
      cases other
      · exact hmid (by cases hout'; rfl)
      · cases hout'
    · cases h₁
      cases h₂
      cases h₃
      cases h₄
      obtain rfl := eq_of_recvfrom rfl h₅
      obtain rfl := eq_of_send h₆
      intro data hout
      obtain rfl : [2, 3] = data := congrArg Prod.fst (Option.some.inj hout)
      refine ⟨?_, LocIpcListener.framedAfter_of_first _ (by decide) (by decide) (by decide)⟩
      rintro other ⟨data', rest, hout', hmid⟩
      cases other
      · cases hout'
      · exact hmid (by cases hout'; rfl)
    · obtain rfl := eq_of_close h₁₂
      cases hbound
  · refine ⟨trivial, fun s₁ h₁ => ⟨trivial, fun s₂ h₂ => ⟨fun _ h => ?_, fun s₃ h₃ => ⟨trivial,
      fun s₄ h₄ => ⟨trivial, fun s₅ h₅ => ⟨trivial, fun s₆ h₆ => ⟨fun _ h => ?_,
      fun s₇ h₇ => ⟨fun _ => ?_, fun s₈ h₈ => ⟨trivial, fun s₉ h₉ => ⟨trivial,
      fun s₁₀ h₁₀ => ⟨trivial, fun s₁₁ h₁₁ => ⟨trivial, fun s₁₂ h₁₂ => ⟨fun hbound => ?_,
      fun s₁₃ h₁₃ => ⟨fun h => ?_, fun _ _ => ⟨trivial, fun _ _ => trivial⟩⟩⟩⟩⟩⟩⟩⟩⟩⟩⟩⟩⟩⟩⟩
    · cases h₁
      cases h₂
      cases h
    · cases h₁
      cases h₂
      cases h₃
      cases h₄
      obtain rfl := eq_of_recvfrom rfl h₅
      obtain rfl := eq_of_send h₆
      cases h
    · cases h₁
      cases h₂
      cases h₃
      cases h₄
      obtain rfl := eq_of_recvfrom rfl h₅
      obtain rfl := eq_of_send h₆
      obtain rfl : LocIpcLife.put _ true [2, 3] [2, 3] [] = s₇ := Option.some.inj h₇
      -- both calls have returned
      refine ⟨ListenerSocket.noConfusion, fun _ => ⟨rfl, ?_⟩⟩
      rintro sender ⟨data, rest, hout, -⟩
      cases sender
      · cases hout
      · cases hout
    · obtain rfl := eq_of_close h₁₂
      cases hbound
    · obtain rfl : LocIpcLife.stopListening _ = s₈ := by
        obtain ⟨-, h⟩ := Option.ite_none_left_eq_some.mp h₈
        exact Option.some.inj h
      have h₉' := mRunnable_of_step h₉ rfl
      have h₁₀' := mRunnable_of_step h₁₀ h₉'
      have h₁₁' := mRunnable_of_step h₁₁ h₁₀'
      have h₁₂' := mRunnable_of_step h₁₂ h₁₁'
      exact absurd ((mRunnable_of_step h₁₃ h₁₂').symm.trans h) Bool.false_ne_true

end LocIpcLife

end LocHal.Util
