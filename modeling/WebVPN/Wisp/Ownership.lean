import WebVPN.Wisp.Agreement
import WebVPN.Wisp.Upstream

namespace WebVPN.Wisp

open WebVPN.Library

/-!
# Wisp — who closes a connection

`connect` hands the connection that dial has returned over to the stream, under `connMu` and after a
look at the context.  The function under `closeOnce` cancels the context first and closes what it finds
in the stream later.  `Server.Close` works on a copy of the map.

* `Stream.Owns` — a connection that dial has returned is still in `connect`'s hands, or in the stream, or
  closed, and a stream that has closed its connection gets no other one;
* `Stream.Secured`, `Server.Covered` — what `Server.Close` has made sure of when it goes on from a
  stream, also for the streams that are opened while it runs;
* `Server.Bounded` — the size of the map;
* `run_noLeak` — after a close no connection is left, and when `Server.Close` has returned at most those
  are left that another call of `close` is about to close;
* `closed_server_with_connection` — there may be such ones.
-/

/-- `connect` has left its critical section. -/
def ConnectPC.left : ConnectPC → Bool
  | .dialing _ _ | .dialed _ => false
  | .failing _ | .returned => true

/-! ### One stream -/

/-- Where the connections are that dial has returned for a stream. -/
structure Stream.Owns (st : Stream) (dialed : Conn → Prop) : Prop where
  pending : st.connect.left = false → st.conn = none
  cancelled : ∀ closing, st.closing = some closing → closing.stage ≠ .cancelling → st.cancelled = true
  released : ∀ closing, st.closing = some closing →
    (closing.stage = .notifying ∨ closing.stage = .done) → ∀ c, st.conn = some c → c ∈ st.closed
  dialed : ∀ c, dialed c → st.connect = .dialed (.connection c) ∨ c ∈ st.closed ∨ st.conn = some c

section Streams

variable {st st' : Stream} {dialed : Conn → Prop} {serverDone : Bool} {a : StreamAction}
  {effect : Effect}

/-- Nothing but the `closeOnce` has changed, and there at most that `close` was called. -/
theorem Stream.Owns.congr (h : st.Owns dialed) (hconnect : st'.connect = st.connect)
    (hconn : st'.conn = st.conn) (hclosed : st'.closed = st.closed)
    (hcancelled : st'.cancelled = st.cancelled)
    (hclosing : st'.closing = st.closing ∨
      ∃ notify reason, st'.closing = some ⟨.cancelling, notify, reason⟩) : st'.Owns dialed := by
  refine ⟨fun hleft => ?_, fun closing hc hstage => ?_, fun closing hc hstage => ?_, fun c hc => ?_⟩
  · rw [hconn]
    exact h.pending (hconnect ▸ hleft)
  · rw [hcancelled]
    rcases hclosing with hsame | ⟨notify, reason, hcalled⟩
    · exact h.cancelled closing (hsame ▸ hc) hstage
    · obtain rfl := Option.some.inj (hcalled.symm.trans hc)
      exact absurd rfl hstage
  · rw [hconn, hclosed]
    rcases hclosing with hsame | ⟨notify, reason, hcalled⟩
    · exact h.released closing (hsame ▸ hc) hstage
    · obtain rfl := Option.some.inj (hcalled.symm.trans hc)
      rcases hstage with hstage | hstage <;> cases hstage
  · rw [hconnect, hclosed, hconn]
    exact h.dialed c hc

/-- After a call of `close` the function under `closeOnce` is where it was, or at its beginning. -/
theorem Stream.callClose_closing (st : Stream) (notify : Bool) (reason : UInt8) :
    (st.callClose notify reason).closing = st.closing ∨
      ∃ notify' reason', (st.callClose notify reason).closing =
        some ⟨.cancelling, notify', reason'⟩ := by
  unfold Stream.callClose
  split
  · exact .inr ⟨notify, reason, rfl⟩
  · exact .inl rfl

@[simp] theorem Stream.callClose_conn (st : Stream) (notify : Bool) (reason : UInt8) :
    (st.callClose notify reason).conn = st.conn := by
  unfold Stream.callClose; split <;> rfl

@[simp] theorem Stream.callClose_closed (st : Stream) (notify : Bool) (reason : UInt8) :
    (st.callClose notify reason).closed = st.closed := by
  unfold Stream.callClose; split <;> rfl

@[simp] theorem Stream.callClose_cancelled (st : Stream) (notify : Bool) (reason : UInt8) :
    (st.callClose notify reason).cancelled = st.cancelled := by
  unfold Stream.callClose; split <;> rfl

theorem Stream.Owns.touched (h : st.Owns dialed) (htouched : st.Touched st') : st'.Owns dialed := by
  cases htouched with
  | same => exact h
  | enqueued payload => exact h.congr rfl rfl rfl rfl (.inl rfl)
  | called notify reason =>
    exact h.congr (st.callClose_connect notify reason) (st.callClose_conn notify reason)
      (st.callClose_closed notify reason) (st.callClose_cancelled notify reason)
      (st.callClose_closing notify reason)

theorem Stream.owns_new (id : UInt32) (hostname : List UInt8) (port : UInt16)
    (hnone : ∀ c, ¬ dialed c) : (Stream.new id hostname port).Owns dialed where
  pending _ := rfl
  cancelled closing hc := by cases hc
  released closing hc := by cases hc
  dialed c hc := absurd hc (hnone c)

/-- `connect` is past its dial, and a goroutine calls `close` or only moves on. -/
theorem Stream.Owns.left (h : st.Owns dialed) (hbefore : st.connect.left = true)
    (hleft : st'.connect.left = true) (hconn : st'.conn = st.conn) (hclosed : st'.closed = st.closed)
    (hcancelled : st'.cancelled = st.cancelled)
    (hclosing : st'.closing = st.closing ∨
      ∃ notify reason, st'.closing = some ⟨.cancelling, notify, reason⟩) : st'.Owns dialed := by
  have hsame : Stream.Owns { st' with connect := st.connect } dialed :=
    h.congr rfl hconn hclosed hcancelled hclosing
  refine ⟨fun hl => ?_, hsame.cancelled, hsame.released, fun c hc => ?_⟩
  · rw [hleft] at hl
    cases hl
  · rcases h.dialed c hc with hdialed | hin | hheld
    · rw [hdialed] at hbefore
      cases hbefore
    · exact .inr (.inl (hclosed ▸ hin))
    · exact .inr (.inr (hconn.trans hheld))

/-- The dial returns. -/
theorem Stream.Owns.dialReturned (h : st.Owns dialed) {hostname : List UInt8} {port : UInt16}
    (hdialing : st.connect = .dialing hostname port) (result : DialResult) :
    Stream.Owns { st with connect := .dialed result }
      (fun c => result = .connection c ∨ dialed c) := by
  refine ⟨fun _ => h.pending (by rw [hdialing]; rfl), h.cancelled, h.released, fun c hc => ?_⟩
  rcases hc with rfl | hc
  · exact .inl rfl
  · rcases h.dialed c hc with hdialed | hin | hheld
    · cases hdialing.symm.trans hdialed
    · exact .inr (.inl hin)
    · exact .inr (.inr hheld)

/-- The critical section of `connect`.  Whoever has closed the stream's connection has cancelled its
    context before, so that a connection that comes now is closed here. -/
theorem Stream.Owns.publish (h : st.Owns dialed) {result : DialResult}
    (hdialed : st.connect = .dialed result) {ctxDone : Bool}
    (hctx : st.cancelled = true → ctxDone = true) : (st.publish ctxDone result).Owns dialed := by
  have hnone : st.conn = none := h.pending (by rw [hdialed]; rfl)
  have hheld : ∀ c, dialed c → result = .connection c ∨ c ∈ st.closed := by
    intro c hc
    rcases h.dialed c hc with heq | hin | hconn
    · exact .inl (ConnectPC.dialed.inj (hdialed.symm.trans heq))
    · exact .inr hin
    · rw [hnone] at hconn
      cases hconn
  cases result with
  | error e =>
    refine ⟨fun _ => rfl, h.cancelled, fun _ _ _ c hc => (by cases hc), fun c hc => ?_⟩
    rcases hheld c hc with heq | hin
    · cases heq
    · exact .inr (.inl hin)
  | connection c₀ =>
    cases ctxDone with
    | true =>
      refine ⟨fun _ => rfl, h.cancelled, fun _ _ _ c hc => (by cases hc), fun c hc => .inr (.inl ?_)⟩
      show c ∈ st.closed ++ [c₀]
      rcases hheld c hc with heq | hin
      · cases heq
        simp
      · simp [hin]
    | false =>
      refine ⟨fun hleft => (by cases hleft), h.cancelled, fun closing hc hstage => ?_, fun c hc => ?_⟩
      · have hcancelled := h.cancelled closing hc (by rcases hstage with hs | hs <;> simp [hs])
        have hdone := hctx hcancelled
        cases hdone
      · rcases hheld c hc with heq | hin
        · cases heq
          exact .inr (.inr rfl)
        · exact .inr (.inl hin)

/-- **Step lemma for one stream.** -/
theorem Stream.Owns.step (h : st.Owns dialed) (hs : st.step serverDone a = some (st', effect)) :
    st'.Owns (fun c => a = .dialReturns (.connection c) ∨ dialed c) := by
  -- only the return of the dial brings a connection
  have hmore : ∀ {st' : Stream}, st'.Owns dialed → (∀ result, a ≠ .dialReturns result) →
      st'.Owns (fun c => a = .dialReturns (.connection c) ∨ dialed c) := by
    intro st' howns hne
    refine ⟨howns.pending, howns.cancelled, howns.released, fun c hc => howns.dialed c ?_⟩
    exact hc.resolve_left (hne _)
  cases Stream.step_cases hs with
  | dialed result hostname port hdialing =>
    have howns := h.dialReturned hdialing result
    refine ⟨howns.pending, howns.cancelled, howns.released, fun c hc => howns.dialed c ?_⟩
    exact hc.imp_left (fun heq => StreamAction.dialReturns.inj heq)
  | published result hdialed =>
    exact hmore (h.publish hdialed (fun hc => by simp [hc])) (by simp)
  | connectFailed reason hfailing =>
    refine hmore (h.left (by rw [hfailing]; rfl) rfl ?_ ?_ ?_ ?_) (by simp)
    · exact st.callClose_conn true reason
    · exact st.callClose_closed true reason
    · exact st.callClose_cancelled true reason
    · exact st.callClose_closing true reason
  | writeFailed notify reason _ =>
    exact hmore (h.congr (st.callClose_connect notify reason) (st.callClose_conn notify reason)
      (st.callClose_closed notify reason) (st.callClose_cancelled notify reason)
      (st.callClose_closing notify reason)) (by simp)
  | readFailed notify reason _ =>
    exact hmore (h.congr (st.callClose_connect notify reason) (st.callClose_conn notify reason)
      (st.callClose_closed notify reason) (st.callClose_cancelled notify reason)
      (st.callClose_closing notify reason)) (by simp)
  | closeCancelled notify reason _ =>
    refine hmore ⟨h.pending, fun _ _ _ => rfl, fun closing hc hstage => ?_, h.dialed⟩ (by simp)
    obtain rfl := Option.some.inj hc
    rcases hstage with hstage | hstage <;> cases hstage
  | closeDeleted notify reason hclosing =>
    refine hmore ⟨h.pending, fun _ _ _ => ?_, fun closing hc hstage => ?_, h.dialed⟩ (by simp)
    · exact h.cancelled _ hclosing (by simp)
    · obtain rfl := Option.some.inj hc
      rcases hstage with hstage | hstage <;> cases hstage
  | closeClosed notify reason hclosing =>
    refine hmore ⟨h.pending, fun _ _ _ => ?_, fun _ _ _ c hc => ?_, fun c hc => ?_⟩ (by simp)
    · exact h.cancelled _ hclosing (by simp)
    · show c ∈ st.closed ++ st.conn.toList
      rw [show st.conn = some c from hc]
      simp
    · rcases h.dialed c hc with hdialed | hin | hheld
      · exact .inl hdialed
      · exact .inr (.inl (List.mem_append_left _ hin))
      · exact .inr (.inr hheld)
  | closeNotified sent notify reason hclosing =>
    refine hmore ⟨h.pending, fun _ _ _ => ?_, fun _ _ _ => ?_, h.dialed⟩ (by simp)
    · exact h.cancelled _ hclosing (by simp)
    · exact h.released _ hclosing (.inl rfl)
  | _ => exact hmore (h.congr rfl rfl rfl rfl (.inl rfl)) (by simp)

end Streams

/-! ### The streams of a server -/

/-- Dial has returned this connection for the stream with reference `ref`. -/
def DialReturned (h : List (Transition Server Action Unit)) (ref : Nat) (c : Conn) : Prop :=
  ∃ t ∈ h, t.action = .stream ref (.dialReturns (.connection c))

instance (h : List (Transition Server Action Unit)) (ref : Nat) (c : Conn) :
    Decidable (DialReturned h ref c) :=
  inferInstanceAs (Decidable (∃ t ∈ h, _))

/-- Every stream has its connections, and for a stream that is still to come none was made. -/
structure Server.OwnsAll (s : Server) (h : List (Transition Server Action Unit)) : Prop where
  streams : ∀ (ref : Nat) st, s.table[ref]? = some st → st.Owns (DialReturned h ref)
  future : ∀ ref : Nat, s.table.length ≤ ref → ∀ c, ¬ DialReturned h ref c

section Servers

variable {h : List (Transition Server Action Unit)} {s s' : Server} {a : Action} {e : Unit}

theorem dialReturned_cons {ref : Nat} {c : Conn} (hd : DialReturned (⟨s, a, e⟩ :: h) ref c) :
    a = .stream ref (.dialReturns (.connection c)) ∨ DialReturned h ref c := by
  obtain ⟨t, ht, hact⟩ := hd
  rcases List.mem_cons.mp ht with rfl | ht
  · exact .inl hact
  · exact .inr ⟨t, ht, hact⟩

theorem Server.Step.ref_lt {ref : Nat} {action : StreamAction} (h : s.Step (.stream ref action) s') :
    ref < s.table.length := by
  cases h with
  | stream _ _ st st' effect hst _ => exact (List.getElem?_eq_some_iff.mp hst).1

/-- **Step lemma.** -/
theorem Server.OwnsAll.step (hh : s.OwnsAll h) (hs : s.Step a s') : s'.OwnsAll (⟨s, a, e⟩ :: h) := by
  -- what dial has returned for the other streams
  have hold : ∀ ref, (∀ action, a ≠ .stream ref action) → ∀ c,
      DialReturned (⟨s, a, e⟩ :: h) ref c → DialReturned h ref c :=
    fun ref ha c hd => (dialReturned_cons hd).resolve_left (ha _)
  refine ⟨fun ref st' hget => ?_, fun ref href c hd => ?_⟩
  · cases hs.origin hget with
    | new packet _ hlen _ hh' hnew =>
      subst hnew
      refine Stream.owns_new _ _ _ (fun c hd => ?_)
      rcases dialReturned_cons hd with ha | hd
      · subst ha
        have hlt := hs.ref_lt
        omega
      · exact hh.future ref (Nat.le_of_eq hlen.symm) c hd
    | touched st hst ha htouched =>
      have howns := (hh.streams ref st hst).touched htouched
      exact ⟨howns.pending, howns.cancelled, howns.released,
        fun c hd => howns.dialed c (hold ref ha c hd)⟩
    | stepped st action effect hst ha hstep =>
      have howns := (hh.streams ref st hst).step hstep
      refine ⟨howns.pending, howns.cancelled, howns.released, fun c hd => howns.dialed c ?_⟩
      rcases dialReturned_cons hd with heq | hd
      · exact .inl (Action.stream.inj (ha.symm.trans heq)).2
      · exact .inr hd
  · have hge : s.table.length ≤ ref := Nat.le_trans hs.length_le href
    rcases dialReturned_cons hd with ha | hd
    · subst ha
      have hlt := hs.ref_lt
      omega
    · exact hh.future ref hge c hd

theorem run_ownsAll (hr : system.Run h s) : s.OwnsAll h := by
  have hinit : Server.OwnsAll system.init [] := by
    refine ⟨fun ref st hst => (by cases hst), ?_⟩
    rintro ref - c ⟨t, ht, -⟩
    cases ht
  exact hr.history_invariant (P := fun h s => s.OwnsAll h) hinit
    (fun h s a s' e _ hh hs => hh.step (Server.step_cases (system_step hs)).2)

end Servers

/-! ### The map -/

/-- A number that is found is in the map. -/
theorem mem_of_lookup {l : List (UInt32 × Nat)} {id : UInt32} {ref : Nat}
    (h : l.lookup id = some ref) : (id, ref) ∈ l := by
  induction l with
  | nil => cases h
  | cons entry l ih =>
    rw [List.lookup_cons] at h
    split at h
    · rename_i heq
      obtain rfl := Option.some.inj h
      obtain rfl := beq_iff_eq.mp heq
      exact List.mem_cons_self
    · exact List.mem_cons_of_mem _ (ih h)

/-- In a map without repeated numbers, a number that is in the map is found. -/
theorem lookup_of_mem {l : List (UInt32 × Nat)} (hdistinct : (l.map Prod.fst).Nodup) {id : UInt32}
    {ref : Nat} (h : (id, ref) ∈ l) : l.lookup id = some ref := by
  induction l with
  | nil => cases h
  | cons entry l ih =>
    rw [List.map_cons, List.nodup_cons] at hdistinct
    rcases List.mem_cons.mp h with rfl | hmem
    · simp
    · have hne : (id == entry.1) = false := by
        rw [beq_eq_false_iff_ne]
        rintro rfl
        exact hdistinct.1 (List.mem_map.mpr ⟨_, hmem, rfl⟩)
      rw [List.lookup_cons, hne]
      exact ih hdistinct.2 hmem

/-- The map has room for sixteen streams, and no number twice. -/
structure Server.Bounded (s : Server) : Prop where
  few : s.streams.length ≤ maxConcurrentStreams
  distinct : (s.streams.map Prod.fst).Nodup

section Map

variable {s s' : Server} {a : Action}

/-- The map is the same or smaller. -/
theorem Server.Bounded.of_sublist (h : s.Bounded) (hsub : s'.streams.Sublist s.streams) : s'.Bounded :=
  ⟨Nat.le_trans hsub.length_le h.few, h.distinct.sublist (hsub.map Prod.fst)⟩

/-- **Step lemma for the map.**  `openStream` looks for a free number and for room. -/
theorem Server.Bounded.step (h : s.Bounded) (hs : s.Step a s') : s'.Bounded := by
  cases hs.registers with
  | kept hmap _ _ => exact h.of_sublist (hmap ▸ List.Sublist.refl _)
  | removed _ _ _ _ _ _ _ _ _ hmap _ => exact h.of_sublist (hmap ▸ List.filter_sublist)
  | inserted sent packet _ _ hfree hroom heq =>
    subst heq
    refine ⟨hroom, List.nodup_cons.mpr ⟨fun hmem => ?_, h.distinct⟩⟩
    obtain ⟨⟨number, ref⟩, hentry, hnumber⟩ := List.mem_map.mp hmem
    obtain rfl : number = packet.streamID := hnumber
    have hfound : s.lookup packet.streamID = some ref := lookup_of_mem h.distinct hentry
    cases hfree.symm.trans hfound

end Map

/-! ### Calls of `Server.Close` -/

/-- `Server.Close` need not wait for this stream: its own `close` has taken it out of the map, or it has
    no connection. -/
def Stream.Secured (st : Stream) : Prop := ¬ st.Listed ∨ st.conn = none

/-- The context is cancelled, and of the streams with a connection only some are left to close. -/
structure Server.Covered (s : Server) (left : Nat → Prop) : Prop where
  cancelled : s.cancelled = true
  streams : ∀ (ref : Nat) st, s.table[ref]? = some st → st.Secured ∨ left ref

/-- What a call of `Server.Close` has made sure of so far. -/
def Closer.Covers (s : Server) : Closer → Prop
  | .cancelling => True
  | .collecting => s.cancelled = true
  | .closing remaining => s.Covered (· ∈ remaining)
  | .awaiting ref remaining => s.Covered (fun r => r = ref ∨ r ∈ remaining)
  | .returned => s.Covered (fun _ => False)

section Closers

variable {s s' : Server} {a : Action} {st st' : Stream} {left : Nat → Prop}

theorem Stream.Secured.touched (h : st.Secured) (htouched : st.Touched st') : st'.Secured := by
  cases htouched with
  | same => exact h
  | enqueued payload => exact h
  | called notify reason =>
    rcases h with hunlisted | hnone
    · exact .inl (fun hlisted => hunlisted ((Stream.callClose_listed notify reason).mp hlisted))
    · exact .inr ((st.callClose_conn notify reason).trans hnone)

/-- Under a cancelled context no connection is published any more. -/
theorem Stream.Secured.step (h : st.Secured) {action : StreamAction} {effect : Effect}
    (hs : st.step true action = some (st', effect)) : st'.Secured := by
  rcases h with hunlisted | hnone
  · exact .inl (fun hlisted => hunlisted ((Stream.step_progress hs).listed hlisted).1)
  · right
    cases Stream.step_cases hs with
    | published result _ => cases result <;> simp [Stream.publish]
    | connectFailed reason _ => exact (st.callClose_conn true reason).trans hnone
    | writeFailed notify reason _ => exact (st.callClose_conn notify reason).trans hnone
    | readFailed notify reason _ => exact (st.callClose_conn notify reason).trans hnone
    | _ => exact hnone

/-- The context stays cancelled. -/
theorem Server.Step.cancelled (h : s.Step a s') (hc : s.cancelled = true) : s'.cancelled = true := by
  cases h with
  | received data _ =>
    have hcases := s.onMessage_cases data
    generalize s.onMessage data = s' at hcases ⊢
    cases hcases <;> exact hc
  | inserted sent packet _ =>
    rcases s.insert_cases packet with ⟨reason, -, heq⟩ | ⟨-, -, heq⟩ <;> rw [heq] <;> exact hc
  | called sent r notify reason _ => exact (s.callClose_cancelled r notify reason).trans hc
  | shut r call call' s₁ _ hcall | closer index r call call' s₁ hcall _ =>
    obtain ⟨cancelled, table, rfl, hkept, -⟩ := Server.stepCloser_frame hcall
    exact hkept hc
  | cancelParent => rfl
  | _ => exact hc

/-- Nobody undoes what `Server.Close` has made sure of; a stream that is opened later has no connection
    and gets none. -/
theorem Server.Covered.step (h : s.Covered left) (hs : s.Step a s') : s'.Covered left := by
  refine ⟨hs.cancelled h.cancelled, fun ref st' hget => ?_⟩
  cases hs.origin hget with
  | new packet _ _ _ _ hnew =>
    subst hnew
    exact .inl (.inr rfl)
  | touched st hst _ htouched => exact (h.streams ref st hst).imp_left (·.touched htouched)
  | stepped st action effect hst _ hstep =>
    rw [h.cancelled] at hstep
    exact (h.streams ref st hst).imp_left (·.step hstep)

theorem Server.Covered.mono {left' : Nat → Prop} (h : s.Covered left)
    (hleft : ∀ ref st, s.table[ref]? = some st → left ref → st.Secured ∨ left' ref) :
    s.Covered left' :=
  ⟨h.cancelled, fun ref st hst => (h.streams ref st hst).elim .inl (hleft ref st hst)⟩

theorem Closer.Covers.step {call : Closer} (h : call.Covers s) (hs : s.Step a s') :
    call.Covers s' := by
  cases call with
  | cancelling => trivial
  | collecting => exact hs.cancelled h
  | closing remaining => exact Server.Covered.step h hs
  | awaiting ref remaining => exact Server.Covered.step h hs
  | returned => exact Server.Covered.step h hs

/-- **The call itself.**  The copy of the map holds every stream that has not been taken out of it. -/
theorem Closer.Covers.advance {call call' : Closer} {ref : Nat} (h : call.Covers s) (hv : s.Valid)
    (hc : s.stepCloser call ref = some (s', call')) : call'.Covers s' := by
  unfold Server.stepCloser at hc
  split at hc
  · cases hc
    rfl
  · cases hc
    refine ⟨h, fun r st hst => ?_⟩
    by_cases hlisted : st.Listed
    · have hlookup : s.streams.lookup st.id = some r := hv.listed r st hst hlisted
      exact .inr (List.mem_map.mpr ⟨(st.id, r), mem_of_lookup hlookup, rfl⟩)
    · exact .inl (.inl hlisted)
  · cases hc
    exact Server.Covered.mono h (fun r st _ hmem => absurd hmem List.not_mem_nil)
  · rename_i remaining _
    split at hc
    · cases hc
      have hcovered : s.Covered (· ∈ remaining) := h
      refine ⟨(s.callClose_cancelled ref false closeVoluntary).trans hcovered.cancelled,
        fun r st' hget => ?_⟩
      rw [Server.getElem?_callClose] at hget
      split at hget
      · rename_i heq
        exact .inr (.inl heq.symm)
      · rename_i hne
        refine (hcovered.streams r st' hget).imp_right (fun hmem => .inr ?_)
        exact (List.mem_erase_of_ne (Ne.symm hne)).mpr hmem
    · cases hc
  · split at hc
    · rename_i hreturned
      cases hc
      refine Server.Covered.mono h (fun r st hst hleft => ?_)
      rcases hleft with rfl | hmem
      · exact .inl (.inl (Server.closeReturned_not_listed hreturned hst))
      · exact .inr hmem
    · cases hc
  · cases hc

end Closers

/-! ### Runs -/

/-- A call of `Server.Close` returns in this step. -/
def closeReturns (t : Transition Server Action Unit) : Bool :=
  match t.action with
  | .shut _ => t.before.handler = .shutting (.closing [])
  | .closer index _ => t.before.closers[index]? = some (.closing [])
  | _ => false

/-- What the calls of `Server.Close` have made sure of. -/
structure Server.Shuts (s : Server) (h : List (Transition Server Action Unit)) : Prop where
  valid : s.Valid
  shutting : ∀ call, s.handler = .shutting call → call.Covers s
  closers : ∀ call ∈ s.closers, call.Covers s
  returned : (∃ t ∈ h, closeReturns t = true) → s.Covered (fun _ => False)

/-- The function under `closeOnce` has returned. -/
def Stream.CloseDone (st : Stream) : Prop := ∃ notify reason, st.closing = some ⟨.done, notify, reason⟩

/-- The function under `closeOnce` has taken the stream out of the map and closes its connection next. -/
def Stream.Releasing (st : Stream) (c : Conn) : Prop :=
  st.conn = some c ∧ ∃ notify reason, st.closing = some ⟨.closingConn, notify, reason⟩

section Runs

variable {h : List (Transition Server Action Unit)} {s s' : Server} {a : Action} {e : Unit}

/-- What a call covers depends on the streams and the context only. -/
theorem Closer.Covers.congr {call : Closer} (hc : call.Covers s) (htable : s'.table = s.table)
    (hcancelled : s'.cancelled = s.cancelled) : call.Covers s' := by
  have hcovered : ∀ left, s.Covered left → s'.Covered left := by
    intro left hs
    refine ⟨hcancelled.trans hs.cancelled, fun ref st hst => ?_⟩
    rw [htable] at hst
    exact hs.streams ref st hst
  cases call with
  | cancelling => trivial
  | collecting => exact hcancelled.trans hc
  | closing remaining => exact hcovered _ hc
  | awaiting ref remaining => exact hcovered _ hc
  | returned => exact hcovered _ hc

/-- A call that is about to return has nothing left to close. -/
theorem Server.Shuts.covered (hh : s.Shuts h) (hreturns : closeReturns ⟨s, a, e⟩ = true) :
    s.Covered (fun _ => False) := by
  have hdone : (Closer.closing []).Covers s := by
    unfold closeReturns at hreturns
    split at hreturns
    · exact hh.shutting _ (of_decide_eq_true hreturns)
    · exact hh.closers _ (List.mem_of_getElem? (of_decide_eq_true hreturns))
    · cases hreturns
  exact Server.Covered.mono hdone (fun ref st _ hmem => absurd hmem List.not_mem_nil)

/-- The handler goes on to `Server.Close` from elsewhere only at the beginning of the call. -/
theorem Server.onMessage_not_shutting {data : List UInt8} (hidle : s.handler = .idle) (call : Closer) :
    (s.onMessage data).handler ≠ .shutting call := by
  have hcases := s.onMessage_cases data
  generalize s.onMessage data = s' at hcases ⊢
  cases hcases with
  | ignored => rw [hidle]; simp
  | _ => simp [Server.abort, Server.refuse]

/-- **Step lemma for the calls.** -/
theorem Server.Shuts.step (hh : s.Shuts h) (hs : s.step a = some s') :
    s'.Shuts (⟨s, a, e⟩ :: h) := by
  have hstep := (Server.step_cases hs).2
  have hkept : ∀ call ∈ s.closers, call.Covers s' := fun call hmem => (hh.closers call hmem).step hstep
  refine ⟨Server.step_valid hh.valid hs, fun call hcall => ?_, fun call hcall => ?_, fun hreturns => ?_⟩
  · cases hstep with
    | received data hidle => exact absurd hcall (Server.onMessage_not_shutting hidle call)
    | replied sent reply shutdown _ =>
      cases shutdown with
      | true =>
        obtain rfl : Closer.cancelling = call := Handler.shutting.inj hcall
        trivial
      | false => cases hcall
    | announceFailed _ =>
      obtain rfl : Closer.cancelling = call := Handler.shutting.inj hcall
      trivial
    | inserted sent packet _ =>
      rcases s.insert_cases packet with ⟨reason, -, heq⟩ | ⟨-, -, heq⟩ <;> rw [heq] at hcall <;> cases hcall
    | announced | enqueued | overflowed | called | awaited => cases hcall
    | shut ref call₀ call' s₁ hshutting hc =>
      -- the call itself has made a step
      have hadvance := (hh.shutting call₀ hshutting).advance hh.valid hc
      have hcall' : (if call' = .returned then Handler.idle else .shutting call') = .shutting call :=
        hcall
      split at hcall'
      · cases hcall'
      · obtain rfl := Handler.shutting.inj hcall'
        exact hadvance.congr rfl rfl
    | closer index ref call₀ call' s₁ hc _ =>
      have hstep : s.Step _ _ := .closer index ref call₀ call' s₁ hc ‹_›
      obtain ⟨cancelled, table, rfl, -, -⟩ := Server.stepCloser_frame hc
      exact (hh.shutting call hcall).step hstep
    | channelClosed => exact (hh.shutting call hcall).step .channelClosed
    | cancelParent => exact (hh.shutting call hcall).step .cancelParent
    | stream ref action st st' effect hst hstep =>
      exact (hh.shutting call hcall).step (.stream ref action st st' effect hst hstep)
  · cases hstep with
    | received data _ =>
      have hsame : (s.onMessage data).closers = s.closers := by
        have hcases := s.onMessage_cases data
        generalize s.onMessage data = s' at hcases ⊢
        cases hcases <;> rfl
      exact hkept call (hsame ▸ hcall)
    | inserted sent packet _ =>
      rcases s.insert_cases packet with ⟨reason, -, heq⟩ | ⟨-, -, heq⟩ <;> rw [heq] at hcall <;>
        exact hkept call hcall
    | called sent ref notify reason _ =>
      obtain ⟨table, heq, -⟩ := s.callClose_frame ref notify reason
      rw [heq] at hcall
      exact hkept call hcall
    | shut ref call₀ call' s₁ _ hc =>
      obtain ⟨cancelled, table, rfl, -, -⟩ := Server.stepCloser_frame hc
      exact hkept call hcall
    | channelClosed =>
      rcases List.mem_append.mp hcall with hold | hnew
      · exact hkept call hold
      · obtain rfl := List.mem_singleton.mp hnew
        trivial
    | closer index ref call₀ call' s₁ hc hcall₀ =>
      have hadvance := (hh.closers call₀ (List.mem_of_getElem? hcall₀)).advance hh.valid hc
      rcases List.mem_or_eq_of_mem_set hcall with hold | rfl
      · exact hkept call hold
      · exact hadvance.congr rfl rfl
    | _ => exact hkept call hcall
  · obtain ⟨t, ht, hreturn⟩ := hreturns
    rcases List.mem_cons.mp ht with rfl | ht
    · exact (hh.covered hreturn).step hstep
    · exact (hh.returned ⟨t, ht, hreturn⟩).step hstep

theorem run_shuts (hr : system.Run h s) : s.Shuts h := by
  have hinit : Server.Shuts system.init [] := by
    refine ⟨Server.new_valid, fun call hcall => (by cases hcall), fun call hcall => (by cases hcall), ?_⟩
    rintro ⟨t, ht, -⟩
    cases ht
  exact hr.history_invariant (P := fun h s => s.Shuts h) hinit
    (fun h s a s' e _ hh hs => hh.step (system_step hs))

theorem run_bounded (hr : system.Run h s) : s.Bounded := by
  have hinit : Server.Bounded system.init := ⟨Nat.zero_le _, List.nodup_nil⟩
  exact hr.invariant hinit (fun _ _ _ _ hb hs => hb.step (Server.step_cases (system_step hs)).2)

theorem run_mapped (hr : system.Run h s) : s.Mapped ∧ s.Valid := by
  refine hr.invariant (P := fun s => s.Mapped ∧ s.Valid) ⟨Server.new_mapped, Server.new_valid⟩ ?_
  intro s a s' e hbefore hs
  exact ⟨Server.step_mapped hbefore.1 hbefore.2 (system_step hs),
    Server.step_valid hbefore.2 (system_step hs)⟩

/-- An entry of the map leads to a stream with that number, and the number is not that of the channel
    itself. -/
theorem run_entries (hr : system.Run h s) {id : UInt32} {ref : Nat} (hentry : (id, ref) ∈ s.streams) :
    id ≠ 0 ∧ ∃ st, s.table[ref]? = some st ∧ st.id = id := by
  obtain ⟨hmapped, hvalid⟩ := run_mapped hr
  obtain ⟨st, hst, rfl⟩ := hvalid.keys id ref (lookup_of_mem (run_bounded hr).distinct hentry)
  exact ⟨hmapped.numbered ref st hst, st, hst, rfl⟩

/-- **No connection leaks.**  When `connect` has left its critical section: after the stream's `close`
    every connection that dial has returned for the stream is closed, and after a `Server.Close` it is
    closed or the stream's own `close` closes it next.  And the map stays within its bounds. -/
theorem run_noLeak (hr : system.Run h s) :
    (∀ (ref : Nat) st c, s.table[ref]? = some st → st.connect.left = true → DialReturned h ref c →
      (st.CloseDone → c ∈ st.closed) ∧
      ((∃ t ∈ h, closeReturns t = true) → c ∈ st.closed ∨ st.Releasing c)) ∧
    s.streams.length ≤ 16 ∧ (s.streams.map Prod.fst).Nodup ∧
    ∀ id ref, (id, ref) ∈ s.streams → id ≠ 0 ∧ ∃ st, s.table[ref]? = some st ∧ st.id = id := by
  refine ⟨fun ref st c hst hleft hdialed => ?_, (run_bounded hr).few, (run_bounded hr).distinct,
    fun id ref hentry => run_entries hr hentry⟩
  have howns := (run_ownsAll hr).streams ref st hst
  -- the connection is out of `connect`'s hands
  have hheld : c ∈ st.closed ∨ st.conn = some c := by
    refine (howns.dialed c hdialed).resolve_left (fun heq => ?_)
    rw [heq] at hleft
    cases hleft
  refine ⟨fun ⟨notify, reason, hdone⟩ => ?_, fun hreturned => ?_⟩
  · exact hheld.elim id (howns.released _ hdone (.inr rfl) c)
  rcases hheld with hin | hconn
  · exact .inl hin
  -- the stream was in the hands of its own `close` when `Server.Close` made its copy of the map
  rcases ((run_shuts hr).returned hreturned).streams ref st hst with (hunlisted | hnone) | hfalse
  · simp only [Stream.Listed, not_forall, not_or] at hunlisted
    obtain ⟨⟨stage, notify, reason⟩, hclosing, hearly⟩ := hunlisted
    cases stage with
    | cancelling => exact absurd rfl hearly.1
    | deleting => exact absurd rfl hearly.2
    | closingConn => exact .inr ⟨hconn, notify, reason, hclosing⟩
    | notifying => exact .inl (howns.released _ hclosing (.inl rfl) c hconn)
    | done => exact .inl (howns.released _ hclosing (.inr rfl) c hconn)
  · rw [hnone] at hconn
    cases hconn
  · exact hfalse.elim

end Runs

/-- `Server.Close` runs while stream 1 is open; stream 3 is opened meanwhile, and its dial returns at the
    end. -/
def shutdownDuringConnect : List Action :=
  openStreamOne ++
    [.stream 0 (.dialReturns (.connection 7)), .stream 0 .publish, .channelClosed, .closer 0 0,
      .closer 0 0, sampleConnect 3, .handle true, .closer 0 0, .stream 0 .closeCancels,
      .stream 0 .closeDeletes, .stream 0 .closeClosesConn, .closer 0 0, .closer 0 0,
      .stream 1 (.dialReturns (.connection 8)), .stream 1 .publish]

theorem run_noLeak_of_shutdown :
    ∃ h s, system.Run h s ∧ DialReturned h 0 7 ∧ DialReturned h 1 8 ∧
      (∃ t ∈ h, closeReturns t = true) ∧
      (∀ st, s.table[0]? = some st → 7 ∈ st.closed ∨ st.Releasing 7) ∧
      ∀ st, s.table[1]? = some st → 8 ∈ st.closed ∨ st.Releasing 8 := by
  obtain ⟨h, s, hr, hc⟩ := System.exists_run_of_exec (S := system)
    (P := fun h s => DialReturned h 0 7 ∧ DialReturned h 1 8 ∧ (∃ t ∈ h, closeReturns t = true) ∧
      s.table.all (fun st => st.connect.left) = true) shutdownDuringConnect (by decide +kernel)
  obtain ⟨hseven, height, hreturned, hleft⟩ := of_decide_eq_true hc
  have hleft' : ∀ (ref : Nat) st, s.table[ref]? = some st → st.connect.left = true :=
    fun ref st hst => List.all_eq_true.mp hleft st (List.mem_of_getElem? hst)
  refine ⟨h, s, hr, hseven, height, hreturned, fun st hst => ?_, fun st hst => ?_⟩
  · exact ((run_noLeak hr).1 0 st 7 hst (hleft' 0 st hst) hseven).2 hreturned
  · exact ((run_noLeak hr).1 1 st 8 hst (hleft' 1 st hst) height).2 hreturned

/-- The target of stream 1 ends, and `Server.Close` runs while the stream's own `close` is between the
    map and the connection. -/
def shutdownDuringClose : List Action :=
  openStreamOne ++
    [.stream 0 (.dialReturns (.connection 7)), .stream 0 .publish,
      .stream 0 (.readLoopReads [] (some .eof)), .stream 0 .readLoopFails, .stream 0 .closeCancels,
      .stream 0 .closeDeletes, .channelClosed, .closer 0 0, .closer 0 0, .closer 0 0]

/-- **`Server.Close` has returned and a connection is open.** -/
theorem closed_server_with_connection :
    ∃ h s, system.Run h s ∧ DialReturned h 0 7 ∧ s.closers = [.returned] ∧
      s.table.map (fun st => (st.connect, st.closed)) = [(.returned, [])] := by
  obtain ⟨h, s, hr, hc⟩ := System.exists_run_of_exec (S := system)
    (P := fun h s => DialReturned h 0 7 ∧ s.closers = [.returned] ∧
      s.table.map (fun st => (st.connect, st.closed)) = [(.returned, [])])
    shutdownDuringClose (by decide +kernel)
  exact ⟨h, s, hr, of_decide_eq_true hc⟩

end WebVPN.Wisp
