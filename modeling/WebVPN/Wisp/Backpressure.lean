import WebVPN.Library.System
import WebVPN.Wisp.Packet

namespace WebVPN.Wisp

open WebVPN.Library

/-!
# Wisp — backpressure in `sendFrame`

`sendFrame` holds `sendMu` while it waits for the data channel to drain.  It reads the buffered
amount, and if that is too much it waits for a token on `bufferedLow`, a channel with one place; the
data channel's low-watermark callback puts the token there, or drops it if the place is taken.

The calls of `sendFrame`, the callback and the buffered amount as a `System`: a step is a piece of one
call between two points where another thread can act, one execution of the callback, or a change of
the amount.  Everything else in the server sees a call of `sendFrame` as one step with an outcome.

* `Outbox.Stranded` — a call waits although the amount is low, and nothing will wake it;
* `Outbox.Step`, `Outbox.step_cases` — every step, once;
* `Outbox.Watched` — one call at a time is inside, and whoever waits will be woken or has reason to;
* `run_not_stranded` — no wake-up is lost.
-/

/-- A call waits above this amount. -/
def maxBufferedAmount : Nat := 4 * 2 ^ 20

/-- The threshold of the callback. -/
def lowWatermark : Nat := maxBufferedAmount / 2

/-- Where a call of `sendFrame` stands.  At `selecting` it is about to look at the cases of its
    `select`, at `blocked` it is parked there. -/
inductive SendPC
  | locking
  | checking
  | selecting
  | blocked
  | sending
  | returned (sent : Bool)
deriving DecidableEq, Repr

/-- The call holds `sendMu`. -/
def SendPC.inside : SendPC → Bool
  | .locking | .returned _ => false
  | .checking | .selecting | .blocked | .sending => true

/-- The call waits for `bufferedLow`. -/
def SendPC.waits : SendPC → Bool
  | .selecting | .blocked => true
  | _ => false

theorem SendPC.inside_of_waits {pc : SendPC} (h : pc.waits = true) : pc.inside = true := by
  cases pc <;> simp_all [SendPC.waits, SendPC.inside]

/-- A call of `sendFrame`. -/
structure SendCall where
  frame : Frame
  pc : SendPC
deriving DecidableEq, Repr

/-- What the calls of `sendFrame` share.  `token` is the content of `bufferedLow`, and `callbacks` the
    number of times that the amount has become low and the callback has not run yet. -/
structure Outbox where
  amount : Nat
  token : Bool
  callbacks : Nat
  cancelled : Bool
  locked : Bool
  calls : List SendCall
  sent : List (List UInt8)
deriving DecidableEq, Repr

/-- Nothing is buffered and nobody calls. -/
def Outbox.new : Outbox := ⟨0, false, 0, false, false, [], []⟩

/-- A call moves on. -/
def Outbox.setPc (s : Outbox) (i : Nat) (call : SendCall) (pc : SendPC) : Outbox :=
  { s with calls := s.calls.set i { call with pc := pc } }

/-! ### Steps -/

/-- The threads: calls of `sendFrame` and their pieces, the callback (with the call that is parked, if
    there is one), the data channel and the context. -/
inductive SendAction
  | call (frame : Frame)
  | lock (i : Nat)
  | check (i : Nat)
  | take (i : Nat)
  | park (i : Nat)
  | giveUp (i : Nat)
  | send (i : Nat) (sent : Bool)
  | callback (receiver : Option Nat)
  | changeAmount (amount : Nat)
  | cancel
deriving DecidableEq, Repr

/-- One piece of a call. -/
def Outbox.stepCall (s : Outbox) (i : Nat) (call : SendCall) : SendAction → Option Outbox
  | .lock _ =>
    if call.pc = .locking ∧ s.locked = false then
      some { s.setPc i call .checking with locked := true }
    else none
  | .check _ =>
    if call.pc = .checking then
      some (s.setPc i call (if maxBufferedAmount < s.amount then .selecting else .sending))
    else none
  | .take _ =>
    if call.pc = .selecting ∧ s.token = true then
      some { s.setPc i call .checking with token := false }
    else none
  | .park _ =>
    if call.pc = .selecting ∧ s.token = false ∧ s.cancelled = false then
      some (s.setPc i call .blocked)
    else none
  | .giveUp _ =>
    -- `ctx.Done()` is ready; `sendMu` is released on return
    if call.pc.waits = true ∧ s.cancelled = true then
      some { s.setPc i call (.returned false) with locked := false }
    else none
  | .send _ sent =>
    if call.pc = .sending then
      some { s.setPc i call (.returned sent) with
        locked := false
        amount := if sent then s.amount + call.frame.packet.length else s.amount
        sent := if sent then s.sent ++ [call.frame.packet] else s.sent }
    else none
  | _ => none

/-- The callback hands its token to the call that is parked, and puts it into the channel if there is
    none. -/
def Outbox.callback (s : Outbox) (receiver : Option Nat) : Option Outbox :=
  if s.callbacks = 0 then none
  else
    match receiver with
    | some i =>
      match s.calls[i]? with
      | none => none
      | some call =>
        if call.pc = .blocked then
          some { s.setPc i call .checking with callbacks := s.callbacks - 1 }
        else none
    | none =>
      if ∃ call ∈ s.calls, call.pc = .blocked then none
      else some { s with token := true, callbacks := s.callbacks - 1 }

/-- One step. -/
def Outbox.step (s : Outbox) (a : SendAction) : Option Outbox :=
  match a with
  | .call frame => some { s with calls := s.calls ++ [⟨frame, .locking⟩] }
  | .lock i | .check i | .take i | .park i | .giveUp i | .send i _ =>
    match s.calls[i]? with
    | none => none
    | some call => s.stepCall i call a
  | .callback receiver => s.callback receiver
  | .changeAmount amount =>
    some { s with
      amount := amount
      callbacks := if lowWatermark < s.amount ∧ amount ≤ lowWatermark then s.callbacks + 1
        else s.callbacks }
  | .cancel => some { s with cancelled := true }

/-- The calls of `sendFrame` of one server. -/
def outboxSystem : System Outbox SendAction Unit where
  init := .new
  step s a := (s.step a).map (fun s' => (s', ()))

/-- A call waits, the amount is low, and nothing will wake the call. -/
def Outbox.Stranded (s : Outbox) : Prop :=
  ∃ call ∈ s.calls, call.pc.waits = true ∧ s.token = false ∧ s.callbacks = 0 ∧ s.cancelled = false ∧
    s.amount ≤ lowWatermark

/-! ### What a step can do -/

/-- The ways in which a step can be taken. -/
inductive Outbox.Step (s : Outbox) : SendAction → Outbox → Prop
  | called (frame : Frame) : Step s (.call frame) { s with calls := s.calls ++ [⟨frame, .locking⟩] }
  | locked (i : Nat) (call : SendCall) (hcall : s.calls[i]? = some call) (hpc : call.pc = .locking)
      (hfree : s.locked = false) : Step s (.lock i) { s.setPc i call .checking with locked := true }
  | full (i : Nat) (call : SendCall) (hcall : s.calls[i]? = some call) (hpc : call.pc = .checking)
      (hamount : maxBufferedAmount < s.amount) : Step s (.check i) (s.setPc i call .selecting)
  | clear (i : Nat) (call : SendCall) (hcall : s.calls[i]? = some call) (hpc : call.pc = .checking) :
      Step s (.check i) (s.setPc i call .sending)
  | took (i : Nat) (call : SendCall) (hcall : s.calls[i]? = some call) (hpc : call.pc = .selecting) :
      Step s (.take i) { s.setPc i call .checking with token := false }
  | parked (i : Nat) (call : SendCall) (hcall : s.calls[i]? = some call) (hpc : call.pc = .selecting) :
      Step s (.park i) (s.setPc i call .blocked)
  | gaveUp (i : Nat) (call : SendCall) (hcall : s.calls[i]? = some call) (hpc : call.pc.waits = true) :
      Step s (.giveUp i) { s.setPc i call (.returned false) with locked := false }
  | sent (i : Nat) (call : SendCall) (hcall : s.calls[i]? = some call) (hpc : call.pc = .sending) :
      Step s (.send i true) { s.setPc i call (.returned true) with
        locked := false
        amount := s.amount + call.frame.packet.length
        sent := s.sent ++ [call.frame.packet] }
  | sendFailed (i : Nat) (call : SendCall) (hcall : s.calls[i]? = some call)
      (hpc : call.pc = .sending) :
      Step s (.send i false) { s.setPc i call (.returned false) with locked := false }
  | woke (i : Nat) (call : SendCall) (hcall : s.calls[i]? = some call) (hpc : call.pc = .blocked)
      (callbacks : Nat) :
      Step s (.callback (some i)) { s.setPc i call .checking with callbacks := callbacks }
  | signalled (callbacks : Nat) :
      Step s (.callback none) { s with token := true, callbacks := callbacks }
  | fell (amount : Nat) (hhigh : lowWatermark < s.amount) (hlow : amount ≤ lowWatermark) :
      Step s (.changeAmount amount) { s with amount := amount, callbacks := s.callbacks + 1 }
  | changed (amount : Nat) (h : ¬ (lowWatermark < s.amount ∧ amount ≤ lowWatermark)) :
      Step s (.changeAmount amount) { s with amount := amount }
  | cancelled : Step s .cancel { s with cancelled := true }

section Steps

variable {s s' : Outbox} {a : SendAction}

/-- **Inversion.** -/
theorem Outbox.step_cases (h : s.step a = some s') : s.Step a s' := by
  -- a piece of a call
  have hcalls : ∀ i, (match s.calls[i]? with
      | none => none
      | some call => s.stepCall i call a) = some s' →
      ∃ call, s.calls[i]? = some call ∧ s.stepCall i call a = some s' := by
    intro i h
    split at h
    · cases h
    · exact ⟨_, ‹_›, h⟩
  cases a with
  | call frame =>
    cases h
    exact .called frame
  | lock i =>
    obtain ⟨call, hcall, h⟩ := hcalls i h
    simp only [Outbox.stepCall] at h
    split at h <;> cases h
    exact .locked i call hcall (by simp_all) (by simp_all)
  | check i =>
    obtain ⟨call, hcall, h⟩ := hcalls i h
    simp only [Outbox.stepCall] at h
    split at h <;> cases h
    rename_i hpc
    split
    · exact .full i call hcall hpc ‹_›
    · exact .clear i call hcall hpc
  | take i =>
    obtain ⟨call, hcall, h⟩ := hcalls i h
    simp only [Outbox.stepCall] at h
    split at h <;> cases h
    exact .took i call hcall (by simp_all)
  | park i =>
    obtain ⟨call, hcall, h⟩ := hcalls i h
    simp only [Outbox.stepCall] at h
    split at h <;> cases h
    exact .parked i call hcall (by simp_all)
  | giveUp i =>
    obtain ⟨call, hcall, h⟩ := hcalls i h
    simp only [Outbox.stepCall] at h
    split at h <;> cases h
    exact .gaveUp i call hcall (by simp_all)
  | send i sent =>
    obtain ⟨call, hcall, h⟩ := hcalls i h
    simp only [Outbox.stepCall] at h
    split at h <;> cases h
    rename_i hpc
    cases sent with
    | true => exact .sent i call hcall hpc
    | false => exact .sendFailed i call hcall hpc
  | callback receiver =>
    simp only [Outbox.step, Outbox.callback] at h
    split at h
    · cases h
    split at h
    · split at h
      · cases h
      rename_i i call hcall
      split at h <;> cases h
      exact .woke _ call hcall ‹_› _
    · split at h <;> cases h
      exact .signalled _
  | changeAmount amount =>
    cases h
    by_cases hfell : lowWatermark < s.amount ∧ amount ≤ lowWatermark
    · rw [if_pos hfell]
      exact .fell amount hfell.1 hfell.2
    · rw [if_neg hfell]
      exact .changed amount hfell
  | cancel =>
    cases h
    exact .cancelled

end Steps

/-! ### The invariant -/

/-- At most one call is inside, and if one waits then there is a token, or a callback is to come, or the
    amount is not low. -/
structure Outbox.Watched (s : Outbox) : Prop where
  single : ∀ (i j : Nat) call call', s.calls[i]? = some call → s.calls[j]? = some call' →
    call.pc.inside = true → call'.pc.inside = true → i = j
  guarded : ∀ (i : Nat) call, s.calls[i]? = some call → call.pc.inside = true → s.locked = true
  attended : ∀ (i : Nat) call, s.calls[i]? = some call → call.pc.waits = true →
    s.token = true ∨ 0 < s.callbacks ∨ lowWatermark < s.amount

section Invariant

variable {s s' : Outbox} {i : Nat} {call : SendCall} {pc : SendPC}

/-- The other calls stay where they are. -/
theorem Outbox.getElem?_setPc (hcall : s.calls[i]? = some call) (j : Nat) :
    (s.calls.set i { call with pc := pc })[j]? =
      if i = j then some { call with pc := pc } else s.calls[j]? := by
  rw [List.getElem?_set]
  split
  · rw [if_pos (List.getElem?_eq_some_iff.mp hcall).1]
  · rfl

/-- Nobody but the call that is inside moves on, and it is inside afterwards. -/
theorem Outbox.Watched.stay (h : s.Watched) (hcall : s.calls[i]? = some call)
    (hinside : call.pc.inside = true) (hcalls : s'.calls = s.calls.set i { call with pc := pc })
    (hlocked : s'.locked = s.locked)
    (hwaits : pc.waits = true → s'.token = true ∨ 0 < s'.callbacks ∨ lowWatermark < s'.amount) :
    s'.Watched := by
  -- whoever is inside now is this call
  have hown : ∀ (j : Nat) current, s'.calls[j]? = some current → current.pc.inside = true → i = j := by
    intro j current hj hin
    rw [hcalls, Outbox.getElem?_setPc hcall] at hj
    by_cases hij : i = j
    · exact hij
    · rw [if_neg hij] at hj
      exact h.single i j call current hcall hj hinside hin
  refine ⟨fun j k current current' hj hk hin hin' => ?_, fun j current hj hin => ?_,
    fun j current hj hw => ?_⟩
  · exact (hown j current hj hin).symm.trans (hown k current' hk hin')
  · rw [hlocked]
    exact h.guarded i call hcall hinside
  · have hij := hown j current hj (SendPC.inside_of_waits hw)
    rw [hcalls, Outbox.getElem?_setPc hcall, if_pos hij] at hj
    obtain rfl := Option.some.inj hj
    exact hwaits hw

/-- The call that is inside returns. -/
theorem Outbox.Watched.leave (h : s.Watched) (hcall : s.calls[i]? = some call)
    (hinside : call.pc.inside = true) {sent : Bool}
    (hcalls : s'.calls = s.calls.set i { call with pc := .returned sent }) : s'.Watched := by
  -- and then nobody is
  have hnobody : ∀ (j : Nat) current, s'.calls[j]? = some current → current.pc.inside = false := by
    intro j current hj
    rw [hcalls, Outbox.getElem?_setPc hcall] at hj
    by_cases hij : i = j
    · rw [if_pos hij] at hj
      obtain rfl := Option.some.inj hj
      rfl
    · rw [if_neg hij] at hj
      by_contra hin
      exact hij (h.single i j call current hcall hj hinside (by simpa using hin))
  refine ⟨fun j k current _ hj _ hin => ?_, fun j current hj hin => ?_, fun j current hj hw => ?_⟩
  · simp [hnobody j current hj] at hin
  · simp [hnobody j current hj] at hin
  · have hin := SendPC.inside_of_waits hw
    simp [hnobody j current hj] at hin

/-- The calls stay where they are. -/
theorem Outbox.Watched.keep (h : s.Watched) (hcalls : s'.calls = s.calls)
    (hlocked : s'.locked = s.locked)
    (hwaits : s.token = true ∨ 0 < s.callbacks ∨ lowWatermark < s.amount →
      s'.token = true ∨ 0 < s'.callbacks ∨ lowWatermark < s'.amount) : s'.Watched := by
  refine ⟨?_, ?_, ?_⟩
  · rw [hcalls]
    exact h.single
  · rw [hcalls, hlocked]
    exact h.guarded
  · rw [hcalls]
    exact fun j current hj hw => hwaits (h.attended j current hj hw)

/-- One more call, which is outside. -/
theorem Outbox.Watched.enter (h : s.Watched) (frame : Frame) :
    Outbox.Watched { s with calls := s.calls ++ [⟨frame, .locking⟩] } := by
  -- whoever is inside was there before
  have hold : ∀ (j : Nat) current, (s.calls ++ [⟨frame, .locking⟩])[j]? = some current →
      current.pc.inside = true → s.calls[j]? = some current := by
    intro j current hj hin
    by_cases hlt : j < s.calls.length
    · rwa [List.getElem?_append_left hlt] at hj
    · rw [List.getElem?_append_right (by omega), List.getElem?_singleton] at hj
      split at hj
      · obtain rfl := Option.some.inj hj
        cases hin
      · cases hj
  refine ⟨fun j k current current' hj hk hin hin' => ?_, fun j current hj hin => ?_,
    fun j current hj hw => ?_⟩
  · exact h.single j k current current' (hold j _ hj hin) (hold k _ hk hin') hin hin'
  · exact h.guarded j current (hold j _ hj hin) hin
  · exact h.attended j current (hold j _ hj (SendPC.inside_of_waits hw)) hw

/-- A call gets `sendMu`, which nobody had. -/
theorem Outbox.Watched.lock (h : s.Watched) (hcall : s.calls[i]? = some call)
    (hfree : s.locked = false) :
    Outbox.Watched { s.setPc i call .checking with locked := true } := by
  have hnobody : ∀ (j : Nat) current, s.calls[j]? = some current → current.pc.inside = false := by
    intro j current hj
    by_contra hin
    have hlocked := h.guarded j current hj (by simpa using hin)
    rw [hfree] at hlocked
    cases hlocked
  have hown : ∀ (j : Nat) current, (s.setPc i call .checking).calls[j]? = some current →
      current.pc.inside = true → i = j := by
    intro j current hj hin
    rw [Outbox.setPc, Outbox.getElem?_setPc hcall] at hj
    by_contra hij
    rw [if_neg hij] at hj
    simp [hnobody j current hj] at hin
  refine ⟨fun j k current current' hj hk hin hin' => ?_, fun j current hj hin => rfl,
    fun j current hj hw => ?_⟩
  · exact (hown j current hj hin).symm.trans (hown k current' hk hin')
  · have hij := hown j current hj (SendPC.inside_of_waits hw)
    have hj' : (s.calls.set i { call with pc := .checking })[j]? = some current := hj
    rw [Outbox.getElem?_setPc hcall, if_pos hij] at hj'
    obtain rfl := Option.some.inj hj'
    cases hw

/-- **Step lemma.** -/
theorem Outbox.Watched.step {a : SendAction} (h : s.Watched) (hstep : s.Step a s') : s'.Watched := by
  have hlow : lowWatermark < maxBufferedAmount := by decide
  cases hstep with
  | called frame => exact h.enter frame
  | locked i call hcall _ hfree => exact h.lock hcall hfree
  | full i call hcall hpc hamount =>
    -- the amount is far above the watermark when the call decides to wait
    exact h.stay hcall (by simp [hpc, SendPC.inside]) rfl rfl
      (fun _ => .inr (.inr (Nat.lt_trans hlow hamount)))
  | clear i call hcall hpc => exact h.stay hcall (by simp [hpc, SendPC.inside]) rfl rfl nofun
  | took i call hcall hpc => exact h.stay hcall (by simp [hpc, SendPC.inside]) rfl rfl nofun
  | parked i call hcall hpc =>
    exact h.stay hcall (by simp [hpc, SendPC.inside]) rfl rfl
      (fun _ => h.attended i call hcall (by simp [hpc, SendPC.waits]))
  | gaveUp i call hcall hpc => exact h.leave hcall (SendPC.inside_of_waits hpc) rfl
  | sent i call hcall hpc => exact h.leave hcall (by simp [hpc, SendPC.inside]) rfl
  | sendFailed i call hcall hpc => exact h.leave hcall (by simp [hpc, SendPC.inside]) rfl
  | woke i call hcall hpc callbacks =>
    exact h.stay hcall (by simp [hpc, SendPC.inside]) rfl rfl nofun
  | signalled callbacks => exact h.keep rfl rfl (fun _ => .inl rfl)
  | fell amount _ _ => exact h.keep rfl rfl (fun _ => .inr (.inl (Nat.succ_pos _)))
  | changed amount hsame =>
    -- an amount that was low before has left its token or its callback
    refine h.keep rfl rfl (fun hbefore => ?_)
    rcases hbefore with htoken | hcallback | hhigh
    · exact .inl htoken
    · exact .inr (.inl hcallback)
    · exact .inr (.inr (by simp only; omega))
  | cancelled => exact h.keep rfl rfl (fun hbefore => hbefore)

end Invariant

/-! ### Runs -/

section Runs

variable {h : List (Transition Outbox SendAction Unit)} {s : Outbox}

theorem outboxSystem_step {s s' : Outbox} {a : SendAction} {e : Unit}
    (hs : outboxSystem.step s a = some (s', e)) : s.Step a s' := by
  have hs' : s.step a = some s' := by simpa [outboxSystem] using hs
  exact Outbox.step_cases hs'

/-- **No wake-up is lost.** -/
theorem run_not_stranded (hr : outboxSystem.Run h s) : ¬ s.Stranded := by
  have hwatched : s.Watched := by
    refine hr.invariant ⟨?_, ?_, ?_⟩ (fun _ _ _ _ hbefore hs => hbefore.step (outboxSystem_step hs))
    · intro i j call call' hi
      cases hi
    · intro i call hi
      cases hi
    · intro i call hi
      cases hi
  rintro ⟨call, hmem, hwaits, htoken, hcallbacks, -, hamount⟩
  obtain ⟨i, hi⟩ := List.getElem?_of_mem hmem
  rcases hwatched.attended i call hi hwaits with htoken' | hcallbacks' | hamount'
  · rw [htoken] at htoken'
    cases htoken'
  · omega
  · omega

/-- Two calls; the amount is too large, falls while the first call is parked, and the callback comes
    late. -/
def congestion : List SendAction :=
  let info : Frame := ⟨packetInfo, 0, [2, 1]⟩
  [.changeAmount (5 * 2 ^ 20), .call info, .call info, .lock 0, .check 0, .park 0,
    .changeAmount (2 ^ 20)]

/-- The state before the callback: the first call is parked, there is no token, the amount is low, and
    the call is not stranded. -/
theorem run_not_stranded_of_congestion :
    ∃ h s, outboxSystem.Run h s ∧ s.calls.map SendCall.pc = [.blocked, .locking] ∧ s.token = false ∧
      s.amount ≤ lowWatermark ∧ ¬ s.Stranded := by
  obtain ⟨h, s, hr, hc⟩ := System.exists_run_of_exec (S := outboxSystem)
    (P := fun _ s => s.calls.map SendCall.pc = [.blocked, .locking] ∧ s.token = false ∧
      s.amount ≤ lowWatermark) congestion (by decide +kernel)
  obtain ⟨hpcs, htoken, hamount⟩ := of_decide_eq_true hc
  exact ⟨h, s, hr, hpcs, htoken, hamount, run_not_stranded hr⟩

end Runs

end WebVPN.Wisp
