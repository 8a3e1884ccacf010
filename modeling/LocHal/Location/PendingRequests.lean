import LocHal.Lib.SinceLast
import LocHal.Location.RequestQueues

/-!
# `LocHal.Location.PendingRequests`: a queue of requests and its unanswered calls

The calls of a client wait for their responses in the order in which they were made. A call with
`p` starts a new session: it resets the request queue. `Pending` relates the queue to the waiting
calls. The queue has the session of the last start and the requests of the calls from it on. When
`live` does not hold and no start is waiting, the calls get no response, and the requests of the
queue are free.

There is one rule for each thing that happens: a call on the session (`push`), a new session
(`reset`), the response to the oldest call (`pop`), and an oldest call that the queue has forgotten
already (`skip`).

`Pending.mem_of_head?` is for the other direction of the exact conditions: when a start is waiting
behind the oldest call, the head of the queue is the request of a later call. With `Distinct`, which
says that the request objects are different, it is not the request of the oldest one.
-/

set_option autoImplicit false

namespace LocHal.Location

open SinceLast

variable {C : Type} {p : ClientCall C → Bool} {live : Prop}
  {messages rest : List (ClientCall C)} {call : ClientCall C} {q : RequestQueueOf (ClientRequest C)}

/-- The queue `q` against the waiting calls `messages`. -/
structure Pending (p : ClientCall C → Bool) (live : Prop) (messages : List (ClientCall C))
    (q : RequestQueueOf (ClientRequest C)) : Prop where
  session : ∀ c ∈ sinceLast p messages, c.session = q.mSession
  requests : messages.any p = true ∨ live →
    q.mQueue = (sinceLast p messages).map ClientCall.request

namespace Pending

/-- A queue without a request and without a waiting call. -/
theorem nil (h : live → q.mQueue = []) : Pending p live [] q :=
  ⟨fun _ hc => absurd hc List.not_mem_nil, fun hlive => h (hlive.resolve_left nofun)⟩

/-- A call on the session of the queue. -/
theorem push (h : Pending p live messages q) {request : ClientRequest C}
    (hp : p ⟨q.mSession, request⟩ = false) :
    Pending p live (messages ++ [⟨q.mSession, request⟩]) (q.push request) := by
  have hlast := sinceLast_concat_of_not_mark hp messages
  constructor
  · intro c hc
    rw [hlast, List.mem_append, List.mem_singleton] at hc
    rcases hc with hc | rfl
    · exact h.session c hc
    · rfl
  · intro hany
    have hany' : messages.any p = true ∨ live :=
      hany.imp_left fun h' => by simpa [hp] using h'
    rw [hlast, List.map_append, RequestQueueOf.push_mQueue, h.requests hany']
    rfl

/-- A call that starts a new session. -/
theorem reset (q : RequestQueueOf (ClientRequest C)) (messages : List (ClientCall C))
    {session : UInt32} {request : ClientRequest C} (hp : p ⟨session, request⟩ = true) :
    Pending p live (messages ++ [⟨session, request⟩]) ((q.reset session).push request) := by
  have hlast := sinceLast_concat_of_mark hp messages
  constructor
  · intro c hc
    rw [hlast, List.mem_singleton] at hc
    rw [hc]
    rfl
  · intro _
    rw [hlast]
    rfl

/-- The oldest call is of the session of the queue when no start is behind it. -/
theorem session_head (h : Pending p live (call :: rest) q) (hany : rest.any p = false) :
    q.mSession = call.session := by
  have hmem : call ∈ sinceLast p (call :: rest) := by
    rw [sinceLast_cons_of_not_any hany]
    exact List.mem_cons_self
  exact (h.session call hmem).symm

/-- Its request is in front then. -/
theorem mQueue_head (h : Pending p live (call :: rest) q) (hany : rest.any p = false)
    (hlive : p call = true ∨ live) :
    q.mQueue = call.request :: rest.map ClientCall.request := by
  have hreq := h.requests (hlive.imp_left fun hp => by simp [hp])
  rw [hreq, sinceLast_cons_of_not_any hany]
  rfl

/-- The response to the oldest call, when no start is behind it. -/
theorem pop (h : Pending p live (call :: rest) q) (hany : rest.any p = false)
    (hlive : p call = true ∨ live) (live' : Prop) : Pending p live' rest q.pop.2 := by
  have hqueue := h.mQueue_head hany hlive
  have hrest := sinceLast_of_not_any hany
  constructor
  · intro c hc
    have hmem : c ∈ sinceLast p (call :: rest) := by
      rw [sinceLast_cons_of_not_any hany]
      exact List.mem_cons_of_mem call (mem_of_mem_sinceLast hc)
    exact h.session c hmem
  · intro _
    rw [RequestQueueOf.pop_mQueue, hqueue, hrest]
    rfl

/-- The oldest call goes without response, or is of an older session than the queue. -/
theorem skip (h : Pending p live (call :: rest) q) (hskip : rest.any p = true ∨ ¬ live) :
    Pending p live rest q := by
  by_cases hany : rest.any p = true
  · have hlast : sinceLast p (call :: rest) = sinceLast p rest := sinceLast_cons_of_any hany
    constructor
    · rw [← hlast]
      exact h.session
    · intro _
      rw [← hlast]
      exact h.requests (Or.inl (by simp [hany]))
  · have hany' : rest.any p = false := Bool.eq_false_iff.mpr hany
    constructor
    · intro c hc
      have hmem : c ∈ sinceLast p (call :: rest) := by
        rw [sinceLast_cons_of_not_any hany']
        exact List.mem_cons_of_mem call (mem_of_mem_sinceLast hc)
      exact h.session c hmem
    · intro hlive
      exact absurd hlive (not_or.mpr ⟨hany, hskip.resolve_left hany⟩)

/-- With a start further back, the queue has requests of later calls only. -/
theorem mem_of_head? (h : Pending p live (call :: rest) q) (hany : rest.any p = true)
    {request : ClientRequest C} (hhead : q.mQueue.head? = some request) :
    request ∈ rest.map ClientCall.request := by
  rw [h.requests (Or.inl (by simp [hany])), sinceLast_cons_of_any hany] at hhead
  obtain ⟨c, hc, hreq⟩ := List.mem_map.mp (List.mem_of_head? hhead)
  exact hreq ▸ List.mem_map_of_mem (mem_of_mem_sinceLast hc)

end Pending

/-- The calls that wait have request objects of their own, and the next object is a new one. -/
structure Distinct (nextAddress : Nat) (messages : List (ClientCall C)) : Prop where
  fresh : ∀ c ∈ messages, c.request.address < nextAddress
  nodup : (messages.map ClientCall.request).Nodup

namespace Distinct

variable {nextAddress : Nat}

theorem nil (nextAddress : Nat) : Distinct nextAddress ([] : List (ClientCall C)) :=
  ⟨fun _ hc => absurd hc List.not_mem_nil, List.nodup_nil⟩

/-- A new call. -/
theorem concat (h : Distinct nextAddress messages) (session : UInt32) (cls : C) :
    Distinct (nextAddress + 1) (messages ++ [⟨session, ⟨cls, nextAddress⟩⟩]) := by
  constructor
  · intro c hc
    rw [List.mem_append, List.mem_singleton] at hc
    rcases hc with hc | rfl
    · exact Nat.lt_succ_of_lt (h.fresh c hc)
    · exact Nat.lt_succ_self _
  · rw [List.map_append, List.map_singleton, List.nodup_append]
    refine ⟨h.nodup, List.pairwise_singleton _ _, fun r hr r' hr' => ?_⟩
    obtain ⟨c, hc, rfl⟩ := List.mem_map.mp hr
    rw [List.mem_singleton.mp hr']
    intro heq
    have hlt := h.fresh c hc
    rw [heq] at hlt
    exact absurd hlt (Nat.lt_irrefl _)

/-- The oldest call is gone. -/
theorem tail (h : Distinct nextAddress (call :: rest)) : Distinct nextAddress rest :=
  ⟨fun c hc => h.fresh c (List.mem_cons_of_mem call hc), (List.nodup_cons.mp h.nodup).2⟩

/-- The request of the oldest call is not one of the later calls. -/
theorem head_not_mem (h : Distinct nextAddress (call :: rest)) :
    call.request ∉ rest.map ClientCall.request := (List.nodup_cons.mp h.nodup).1

end Distinct

end LocHal.Location
