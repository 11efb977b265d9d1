import WebVPN.Wisp.FlowControl
import WebVPN.Wisp.Pace

namespace WebVPN.Wisp

open WebVPN.Library

/-!
# Wisp — a client that can always send again

Credit is renewed with the capacity of the moment, and the client replaces its credit instead of
adding to it.  A stream that has nothing more to do must not leave its client with no credit.

The argument follows a stream number through its life: nobody has used it (`Link.Unopened`), its
CONNECT is on its way (`Link.Pending`), or the server has dealt with the CONNECT (`Link.Serving`).
In the last two phases the credit the client will have, the packets on their way, those in the
queue and those written since the last CONTINUE make up the allowance.

* `linkRun_noStall` — if the client does not open the number of a stream twice, the credit of the
  stream, open and waiting for data with nothing in flight, is positive;
* `linkRun_stalls` — if it does, a CONTINUE for the first stream may take the credit of the second.
-/

/-- The stream that an action of the client opens. -/
def LinkAction.opens : LinkAction → Option UInt32
  | .connect id _ => some id
  | _ => none

/-- The stream that an action of the client closes. -/
def LinkAction.leaves : LinkAction → Option UInt32
  | .close id => some id
  | _ => none

/-- The stream numbers that the client has opened. -/
def opened (h : LinkHistory) : List UInt32 :=
  h.filterMap fun t => t.action.opens

/-- The stream numbers that the client has closed. -/
def left (h : LinkHistory) : List UInt32 :=
  h.filterMap fun t => t.action.leaves

/-- The frames on their way to the client. -/
def Link.downlink (l : Link) : List Frame := l.server.sent.drop l.seen

/-- The credit of a stream once the client has received what is on its way. -/
def Link.outlook (l : Link) (id : UInt32) : Option Nat :=
  forecast id (l.client.credit id) l.downlink

/-- The CONNECT of stream `id` in the hands of the message handler. -/
def Handler.incoming (h : Handler) (id : UInt32) : List Frame :=
  match h with
  | .opening packet => if packet.streamID = id then [packet] else []
  | _ => []

/-- The packets of stream `id` that the server has not dealt with. -/
def Link.inbox (l : Link) (id : UInt32) : List Frame :=
  l.server.handler.incoming id ++ l.uplink.filter (fun f => f.streamID = id)

/-- The number of DATA packets. -/
def dataCount (frames : List Frame) : Nat := frames.countP (fun f => f.kind = packetData)

/-- The reply that the message handler is about to send. -/
def Handler.reply (h : Handler) : List Frame :=
  match h with
  | .replying reply _ => [reply]
  | _ => []

/-- What the server has said, or is about to say. -/
def Server.spoken (s : Server) : List Frame := s.sent ++ s.handler.reply

/-! ### The link as a whole -/

/-- What holds of the link whatever numbers the client uses. -/
structure Link.Sane (l : Link) : Prop where
  valid : l.server.Valid
  mapped : l.server.Mapped
  frames : ∀ f ∈ l.uplink, ClientFrame f
  seen : l.seen ≤ l.server.sent.length
  opening : ∀ packet, l.server.handler = .opening packet → packet.kind = packetConnect
  replying : ∀ reply shutdown, l.server.handler = .replying reply shutdown →
    reply.kind ≠ packetContinue
  granted : ∀ f ∈ l.server.sent, f.kind = packetContinue → f.streamID = 0 →
    continueValue f = some initialPacketAllowance
  allowance : ∀ n, l.client.allowance = some n → n = initialPacketAllowance

section Links

variable {l l' : Link} {a : LinkAction}

/-- The client acts. -/
theorem Link.Sane.send (h : l.Sane) {c : Client} {f : Frame} (hf : ClientFrame f)
    (hc : c.allowance = l.client.allowance) : (l.send c f).Sane where
  valid := h.valid
  mapped := h.mapped
  frames g hg := by
    rcases List.mem_append.mp hg with hg | hg
    · exact h.frames g hg
    · exact List.mem_singleton.mp hg ▸ hf
  seen := h.seen
  opening := h.opening
  replying := h.replying
  granted := h.granted
  allowance n hn := h.allowance n (hc ▸ hn)

theorem Client.receive_allowance (c : Client) (f : Frame) :
    (c.receive f).allowance = c.allowance ∨
      (f.kind = packetContinue ∧ f.streamID = 0 ∧ (c.receive f).allowance = continueValue f) := by
  unfold Client.receive
  split
  · exact .inl rfl
  · split
    · rename_i hf
      exact .inr ⟨hf.1, hf.2, rfl⟩
    · split
      · exact .inl rfl
      · exact .inl rfl

/-- The client receives a frame. -/
theorem Link.Sane.receive (h : l.Sane) {f : Frame} (hf : l.server.sent[l.seen]? = some f) :
    Link.Sane { l with client := l.client.receive f, seen := l.seen + 1 } where
  valid := h.valid
  mapped := h.mapped
  frames := h.frames
  seen := (List.getElem?_eq_some_iff.mp hf).1
  opening := h.opening
  replying := h.replying
  granted := h.granted
  allowance n hn := by
    rcases l.client.receive_allowance f with heq | ⟨hkind, hid, heq⟩
    · exact h.allowance n (heq ▸ hn)
    · have hvalue := h.granted f (List.mem_of_getElem? hf) hkind hid
      rw [← heq, hn] at hvalue
      exact Option.some.inj hvalue

/-- The handler takes up a packet of the client. -/
theorem Server.onMessage_opening_kind {s : Server} (hidle : s.handler = .idle) (data : List UInt8)
    {packet : Frame} (hh : (s.onMessage data).handler = .opening packet) :
    packet.kind = packetConnect := by
  have hcases := s.onMessage_cases data
  generalize s.onMessage data = s' at hcases hh
  cases hcases with
  | ignored =>
    rw [hidle] at hh
    cases hh
  | opening hparse hid hkind hhand hfree =>
    cases hh
    exact hkind
  | _ => cases hh

/-- The server takes a step. -/
theorem Link.Sane.server (h : l.Sane) {s' : Server} {b : Action} {uplink : List Frame}
    (hs : l.server.step b = some s') (hup : ∀ f ∈ uplink, f ∈ l.uplink) :
    Link.Sane { l with server := s', uplink := uplink } := by
  have hne : packetClose ≠ packetContinue := by decide
  have hhandler : (∀ packet, s'.handler = .opening packet → packet.kind = packetConnect) ∧
      ∀ reply shutdown, s'.handler = .replying reply shutdown → reply.kind ≠ packetContinue := by
    by_cases hmsg : ∃ data, b = .message data
    · obtain ⟨data, rfl⟩ := hmsg
      cases (Server.step_cases hs).2 with
      | received _ hidle =>
        refine ⟨fun packet => Server.onMessage_opening_kind hidle data, ?_⟩
        intro reply shutdown hh
        obtain ⟨id, reason, rfl⟩ := Server.onMessage_reply hidle data hh
        exact hne
    · rcases Server.step_handler hs (fun data heq => hmsg ⟨data, heq⟩) with heq | ⟨hnone, hreply⟩
      · rw [heq]
        exact ⟨h.opening, h.replying⟩
      · refine ⟨fun packet hh => absurd hh (hnone packet), ?_⟩
        intro reply shutdown hh
        obtain ⟨packet, reason, -, rfl, -⟩ := hreply reply shutdown hh
        exact hne
  have hsent := Server.step_sent hs
  refine ⟨Server.step_valid h.valid hs, Server.step_mapped h.mapped h.valid hs,
    fun f hf => h.frames f (hup f hf), ?_, hhandler.1, hhandler.2, ?_, h.allowance⟩
  · rw [hsent, List.length_append]
    exact le_trans h.seen (Nat.le_add_right _ _)
  · intro f hf hkind hid
    rw [hsent] at hf
    rcases List.mem_append.mp hf with hf | hf
    · exact h.granted f hf hkind hid
    rcases Server.mem_emitted hs hf with ⟨shutdown, -, hh⟩ | rfl |
      ⟨ref, action, st, st', effect, -, hst, hstep, hmem⟩
    · exact absurd hkind (h.replying f shutdown hh)
    · exact continueValue_continueFrame 0 le_rfl
    · -- the streams have other numbers than the channel
      rw [Stream.step_sends hstep hmem] at hid
      exact absurd hid (h.mapped.numbered ref st hst)

/-- **Step lemma for the link as a whole.** -/
theorem Link.step_sane (h : l.Sane) (hs : l.step a = some l') : l'.Sane := by
  cases Link.step_cases hs with
  | hello => exact h.send ⟨.of_fits (by decide) (by decide) (by decide), .inl ⟨rfl, rfl⟩⟩ rfl
  | connect id payload n hallow hid hpayload =>
    exact h.send ⟨.of_fits (by decide) (by decide) hpayload, .inr ⟨hid, .inl rfl⟩⟩ rfl
  | data id payload k hcredit hid hpayload =>
    exact h.send ⟨.of_fits (by decide) (by decide) hpayload, .inr ⟨hid, .inr (.inl rfl)⟩⟩ rfl
  | close id hid =>
    have hwf : (closeFrame id closeVoluntary).WellFormed :=
      Frame.WellFormed.of_fits (by decide) (by decide) (by decide)
    exact h.send ⟨hwf, .inr ⟨hid, .inr (.inr rfl)⟩⟩ rfl
  | receive f hf => exact h.receive hf
  | deliver f rest server hup hserver =>
    exact h.server hserver fun g hg => hup ▸ List.mem_cons_of_mem _ hg
  | server b server hmsg hserver => exact h.server hserver fun f hf => hf

theorem Link.new_sane : Link.new.Sane where
  valid := Server.new_valid
  mapped := Server.new_mapped
  frames f hf := by cases hf
  seen := le_rfl
  opening packet hh := by cases hh
  replying reply shutdown hh := by
    cases hh
    decide
  granted f hf := by cases hf
  allowance n hn := by cases hn

end Links

/-! ### The life of a stream number -/

/-- Nobody has used the number. -/
structure Link.Unopened (l : Link) (id : UInt32) : Prop where
  inbox : l.inbox id = []
  streams : ∀ (ref : Nat) (st : Stream), l.server.table[ref]? = some st → st.id ≠ id
  spoken : ∀ f ∈ l.server.spoken, f.streamID ≠ id
  credit : l.client.credit id = none

/-- The CONNECT is on its way, and the first of the packets that the server will see. -/
structure Link.Pending (gone : List UInt32) (l : Link) (id : UInt32) : Prop where
  inbox : ∃ c rest, l.inbox id = c :: rest ∧ c.kind = packetConnect ∧
    (∀ f ∈ rest, f.kind ≠ packetConnect) ∧
    ∀ k, l.outlook id = some k → initialPacketAllowance ≤ k + dataCount rest
  streams : ∀ (ref : Nat) (st : Stream), l.server.table[ref]? = some st → st.id ≠ id
  spoken : ∀ f ∈ l.server.spoken, f.streamID ≠ id
  credit : l.outlook id = none → id ∈ gone

/-- The server has dealt with the CONNECT. -/
structure Link.Serving (gone : List UInt32) (l : Link) (id : UInt32) : Prop where
  inbox : ∀ f ∈ l.inbox id, f.kind ≠ packetConnect
  unique : ∀ (ref ref' : Nat) (st st' : Stream), l.server.table[ref]? = some st →
    l.server.table[ref']? = some st' → st.id = id → st'.id = id → ref = ref'
  closes : ∀ f ∈ l.server.spoken, f.kind = packetClose → f.streamID = id →
    ∀ (ref : Nat) (st : Stream), l.server.table[ref]? = some st → st.id = id → ¬ st.Open
  paced : ∀ (ref : Nat) (st : Stream), l.server.table[ref]? = some st → st.id = id → st.Open →
    ∀ k, l.outlook id = some k →
      st.Paced (k + dataCount (l.inbox id) + l.server.handler.held ref)
  credit : l.outlook id = none →
    id ∈ gone ∨ ∃ f ∈ l.server.sent, f.kind = packetClose ∧ f.streamID = id

/-- The phase of a number; one that the client has not opened is unopened. -/
def Link.Phase (known gone : List UInt32) (l : Link) (id : UInt32) : Prop :=
  l.Unopened id ∨ (id ∈ known ∧ (l.Pending gone id ∨ l.Serving gone id))

/-- Nothing that matters to stream `id` differs; the handler may hold more of its packets. -/
structure Link.Alike (l l' : Link) (id : UInt32) : Prop where
  inbox : l'.inbox id = l.inbox id
  table : l'.server.table = l.server.table
  sent : l'.server.sent = l.server.sent
  reply : ∀ f ∈ l'.server.handler.reply, f.streamID = id → f ∈ l.server.handler.reply
  credit : l.client.credit id = none → l'.client.credit id = none
  outlook : l'.outlook id = l.outlook id
  held : ∀ ref, l.server.handler.held ref ≤ l'.server.handler.held ref

section Phases

variable {l l' : Link} {id : UInt32} {known known' gone gone' : List UInt32} {f : Frame}
  {b : Action} {rest : List Frame} {c : Client}

theorem Link.Alike.spoken (h : l.Alike l' id) (hf : f ∈ l'.server.spoken)
    (hid : f.streamID = id) : f ∈ l.server.spoken := by
  rcases List.mem_append.mp hf with hf | hf
  · rw [h.sent] at hf
    exact List.mem_append_left _ hf
  · exact List.mem_append_right _ (h.reply f hf hid)

theorem Link.Unopened.congr (h : l.Unopened id) (hl : l.Alike l' id) : l'.Unopened id where
  inbox := hl.inbox.trans h.inbox
  streams := by
    rw [hl.table]
    exact h.streams
  spoken f hf hid := h.spoken f (hl.spoken hf hid) hid
  credit := hl.credit h.credit

theorem Link.Pending.congr (h : l.Pending gone id) (hl : l.Alike l' id)
    (hgone : ∀ id ∈ gone, id ∈ gone') : l'.Pending gone' id where
  inbox := by
    rw [hl.inbox, hl.outlook]
    exact h.inbox
  streams := by
    rw [hl.table]
    exact h.streams
  spoken f hf hid := h.spoken f (hl.spoken hf hid) hid
  credit hnone := hgone id (h.credit (hl.outlook ▸ hnone))

theorem Link.Serving.congr (h : l.Serving gone id) (hl : l.Alike l' id)
    (hgone : ∀ id ∈ gone, id ∈ gone') : l'.Serving gone' id where
  inbox := by
    rw [hl.inbox]
    exact h.inbox
  unique := by
    rw [hl.table]
    exact h.unique
  closes f hf hkind hid := by
    rw [hl.table]
    exact h.closes f (hl.spoken hf hid) hkind hid
  paced ref st hst hid hopen k hk := by
    rw [hl.table] at hst
    rw [hl.outlook] at hk
    refine (h.paced ref st hst hid hopen k hk).mono rfl le_rfl ?_
    have hheld := hl.held ref
    rw [hl.inbox]
    omega
  credit hnone := by
    rw [hl.sent]
    exact (h.credit (hl.outlook ▸ hnone)).imp_left (hgone id)

theorem Link.Phase.congr (h : l.Phase known gone id) (hl : l.Alike l' id)
    (hknown : ∀ id ∈ known, id ∈ known') (hgone : ∀ id ∈ gone, id ∈ gone') :
    l'.Phase known' gone' id := by
  rcases h with h | ⟨hmem, h | h⟩
  · exact .inl (h.congr hl)
  · exact .inr ⟨hknown id hmem, .inl (h.congr hl hgone)⟩
  · exact .inr ⟨hknown id hmem, .inr (h.congr hl hgone)⟩

/-! ### Steps of the client -/

/-- The client sends a packet of another stream. -/
theorem Link.alike_send (l : Link) (f : Frame) (hf : f.streamID ≠ id)
    (hc : c.credit id = l.client.credit id) : l.Alike (l.send c f) id where
  inbox := by
    have hnone : [f].filter (fun g => g.streamID = id) = [] := by simp [hf]
    simp only [Link.inbox, Link.send, List.filter_append, hnone, List.append_nil]
  table := rfl
  sent := rfl
  reply f hf _ := hf
  credit h := hc.trans h
  outlook := by
    simp only [Link.outlook, Link.downlink, Link.send, hc]
  held ref := le_rfl

/-- The client sends a packet of the stream. -/
theorem Link.inbox_send (l : Link) (c : Client) (hf : f.streamID = id) :
    (l.send c f).inbox id = l.inbox id ++ [f] := by
  have hone : [f].filter (fun g => g.streamID = id) = [f] := by simp [hf]
  simp only [Link.inbox, Link.send, List.filter_append, hone, List.append_assoc]

theorem Client.setCredit_self (c : Client) (id : UInt32) (credit : Option Nat) :
    (c.setCredit id credit).credit id = credit := Function.update_self _ _ _

theorem Client.setCredit_of_ne (c : Client) {id id' : UInt32} (hne : id ≠ id')
    (credit : Option Nat) : (c.setCredit id' credit).credit id = c.credit id :=
  Function.update_of_ne hne _ _

/-- What the client receives is no longer on its way. -/
theorem Link.alike_receive (l : Link) (hf : l.server.sent[l.seen]? = some f) (hid : id ≠ 0) :
    l.Alike { l with client := l.client.receive f, seen := l.seen + 1 } id where
  inbox := rfl
  table := rfl
  sent := rfl
  reply f hf _ := hf
  credit h := by
    change (l.client.receive f).credit id = none
    rw [Client.receive_credit _ _ hid, h, Frame.onCredit_none]
  outlook := by
    obtain ⟨hlt, heq⟩ := List.getElem?_eq_some_iff.mp hf
    have hdrop : l.downlink = f :: l.server.sent.drop (l.seen + 1) := by
      rw [Link.downlink, List.drop_eq_getElem_cons hlt, heq]
    rw [Link.outlook, Link.outlook, hdrop]
    change forecast id ((l.client.receive f).credit id) _ =
      forecast id (f.onCredit id (l.client.credit id)) _
    rw [Client.receive_credit _ _ hid]
    rfl
  held ref := le_rfl

/-- The frames on their way to the client do not mention the number. -/
theorem Link.outlook_of_silent (hsilent : ∀ f ∈ l.server.spoken, f.streamID ≠ id) :
    l.outlook id = l.client.credit id := by
  refine forecast_of_irrelevant _ ?_
  intro f hf hid
  exact absurd hid (hsilent f (List.mem_append_left _ (List.mem_of_mem_drop hf)))

/-- The client opens the stream. -/
theorem Link.Unopened.connect (h : l.Unopened id) (payload : List UInt8) :
    (l.send (l.client.setCredit id (some initialPacketAllowance))
      ⟨packetConnect, id, payload⟩).Pending gone id := by
  have hcredit := l.client.setCredit_self id (some initialPacketAllowance)
  have houtlook : (l.send (l.client.setCredit id (some initialPacketAllowance))
      ⟨packetConnect, id, payload⟩).outlook id = some initialPacketAllowance := by
    rw [Link.outlook_of_silent (by exact h.spoken)]
    exact hcredit
  refine ⟨⟨⟨packetConnect, id, payload⟩, [], ?_, rfl, nofun, ?_⟩, h.streams, h.spoken, ?_⟩
  · rw [Link.inbox_send l _ rfl, h.inbox, List.nil_append]
  · intro k hk
    rw [houtlook, Option.some.injEq] at hk
    rw [← hk]
    exact Nat.le_add_right _ _
  · intro hnone
    rw [houtlook] at hnone
    cases hnone

theorem dataCount_append (fs gs : List Frame) :
    dataCount (fs ++ gs) = dataCount fs + dataCount gs := List.countP_append

/-- The credit that the client will have after it has sent one more packet. -/
theorem Link.outlook_spend {k : Nat} (hcredit : l.client.credit id = some (k + 1)) (f : Frame)
    {m : Nat} (hm : (l.send (l.client.setCredit id (some k)) f).outlook id = some m) :
    ∃ m', l.outlook id = some m' ∧ m' ≤ m + 1 := by
  have hself := l.client.setCredit_self id (some k)
  change forecast id ((l.client.setCredit id (some k)).credit id) l.downlink = some m at hm
  rw [hself] at hm
  rw [Link.outlook, hcredit]
  rcases forecast_spend id k l.downlink with heq | ⟨m', hmore, hless⟩
  · exact ⟨m, heq ▸ hm, by omega⟩
  · rw [hless, Option.some.injEq] at hm
    exact ⟨m' + 1, hmore, by omega⟩

theorem Link.outlook_spend_none {k : Nat} (hcredit : l.client.credit id = some (k + 1)) (f : Frame)
    (hnone : (l.send (l.client.setCredit id (some k)) f).outlook id = none) :
    l.outlook id = none := by
  have hself := l.client.setCredit_self id (some k)
  change forecast id ((l.client.setCredit id (some k)).credit id) l.downlink = none at hnone
  rw [hself] at hnone
  rw [Link.outlook, hcredit]
  rcases forecast_spend id k l.downlink with heq | ⟨m', hmore, hless⟩
  · exact heq ▸ hnone
  · rw [hless] at hnone
    cases hnone

section OneMore

variable (hf : f.streamID = id) (hkind : f.kind ≠ packetConnect) (hgone : ∀ id ∈ gone, id ∈ gone')
  (hspend : ∀ m, (l.send c f).outlook id = some m →
    ∃ m', l.outlook id = some m' ∧ m' ≤ m + dataCount [f])
  (hnone : (l.send c f).outlook id = none → id ∈ gone' ∨ l.outlook id = none)
include hf hkind hgone hspend hnone

/-- The client sends one more packet of a stream whose CONNECT is on its way. -/
theorem Link.Pending.send (h : l.Pending gone id) : (l.send c f).Pending gone' id := by
  obtain ⟨connect, rest, hinbox, hconnect, hrest, hcount⟩ := h.inbox
  refine ⟨⟨connect, rest ++ [f], ?_, hconnect, ?_, ?_⟩, h.streams, h.spoken, ?_⟩
  · rw [Link.inbox_send l c hf, hinbox, List.cons_append]
  · intro g hg
    rcases List.mem_append.mp hg with hg | hg
    · exact hrest g hg
    · exact List.mem_singleton.mp hg ▸ hkind
  · intro m hm
    obtain ⟨m', hm', hle⟩ := hspend m hm
    have hold := hcount m' hm'
    rw [dataCount_append]
    omega
  · intro hn
    rcases hnone hn with hmem | hold
    · exact hmem
    · exact hgone id (h.credit hold)

/-- The client sends one more packet of a stream that the server knows. -/
theorem Link.Serving.send (h : l.Serving gone id) : (l.send c f).Serving gone' id := by
  have hinbox := Link.inbox_send l c hf
  refine ⟨?_, h.unique, h.closes, ?_, ?_⟩
  · intro g hg
    rw [hinbox] at hg
    rcases List.mem_append.mp hg with hg | hg
    · exact h.inbox g hg
    · exact List.mem_singleton.mp hg ▸ hkind
  · intro ref st hst hid hopen m hm
    obtain ⟨m', hm', hle⟩ := hspend m hm
    refine (h.paced ref st hst hid hopen m' hm').mono rfl le_rfl ?_
    rw [hinbox, dataCount_append]
    change _ ≤ m + _ + l.server.handler.held ref + _
    omega
  · intro hn
    rcases hnone hn with hmem | hold
    · exact .inl hmem
    · exact (h.credit hold).imp_left (hgone id)

/-- The client sends one more packet. -/
theorem Link.Phase.send (h : l.Phase known gone id) (hcredit : l.client.credit id ≠ none) :
    (l.send c f).Phase known gone' id := by
  rcases h with h | ⟨hmem, h | h⟩
  · exact absurd h.credit hcredit
  · exact .inr ⟨hmem, .inl (h.send hf hkind hgone hspend hnone)⟩
  · exact .inr ⟨hmem, .inr (h.send hf hkind hgone hspend hnone)⟩

end OneMore

/-! ### Deliveries -/

/-- What an idle handler makes of a packet of the client: nothing is sent yet, a reply is about the
    connection or refuses this packet, and only a CONNECT is kept. -/
theorem Server.onMessage_client {s : Server} (hidle : s.handler = .idle) (hf : ClientFrame f) :
    (s.onMessage f.packet).sent = s.sent ∧
      (((s.onMessage f.packet).handler = .opening f ∧ f.kind = packetConnect) ∨
        ∀ id, (s.onMessage f.packet).handler.incoming id = []) ∧
      ∀ g ∈ (s.onMessage f.packet).handler.reply, g.streamID = 0 ∨
        (g.streamID = f.streamID ∧ (s.lookup f.streamID = none ∨ f.kind = packetConnect)) := by
  have hparse := parsePacket_packet f hf.wellFormed
  have hcases := s.onMessage_cases f.packet
  generalize s.onMessage f.packet = s' at hcases ⊢
  cases hcases with
  | aborted =>
    refine ⟨rfl, .inr (fun _ => rfl), fun g hg => .inl ?_⟩
    rw [List.mem_singleton.mp hg]
    rfl
  | ignored =>
    rw [hidle]
    exact ⟨rfl, .inr (fun _ => rfl), nofun⟩
  | @refused packet reason hparse' hne hlive =>
    obtain rfl : f = packet := Except.ok.inj (hparse.symm.trans hparse')
    refine ⟨rfl, .inr (fun _ => rfl), fun g hg => .inr ⟨by rw [List.mem_singleton.mp hg]; rfl, ?_⟩⟩
    rcases hlive with hfree | ⟨hnotData, hnotClose⟩
    · exact .inl hfree
    · -- the client sends nothing else
      rcases hf.shape with ⟨-, hzero⟩ | ⟨-, hkind | hkind | hkind⟩
      · exact absurd hzero hne
      · exact .inr hkind
      · exact absurd hkind hnotData
      · exact absurd hkind hnotClose
  | @opening packet hparse' hne hkind hhand hfree =>
    obtain rfl : f = packet := Except.ok.inj (hparse.symm.trans hparse')
    exact ⟨rfl, .inl ⟨rfl, hkind⟩, nofun⟩
  | greeted | enqueueing | calling => exact ⟨rfl, .inr (fun _ => rfl), nofun⟩

/-- What is on its way to the client stays so. -/
theorem Link.outlook_deliver {server : Server} (hsent : server.sent = l.server.sent) :
    Link.outlook { l with server := server, uplink := rest } id = l.outlook id := by
  simp only [Link.outlook, Link.downlink, hsent]

/-- The packet is the first one of its stream. -/
theorem Link.inbox_deliver (hup : l.uplink = f :: rest) (hidle : l.server.handler = .idle)
    (hf : f.streamID = id) : l.inbox id = f :: rest.filter (fun g => g.streamID = id) := by
  rw [Link.inbox, hidle, hup, List.filter_cons_of_pos (by simpa using hf)]
  rfl

/-- A packet of another stream arrives. -/
theorem Link.alike_deliver (hsane : l.Sane)
    (hup : l.uplink = f :: rest) (hidle : l.server.handler = .idle) (hid : id ≠ 0)
    (hf : f.streamID ≠ id) :
    l.Alike { l with server := l.server.onMessage f.packet, uplink := rest } id := by
  obtain ⟨hsent, hkept, hreply⟩ :=
    Server.onMessage_client hidle (hsane.frames f (hup ▸ List.mem_cons_self))
  have hincoming : (l.server.onMessage f.packet).handler.incoming id = [] := by
    rcases hkept with ⟨hopening, -⟩ | hnone
    · rw [hopening]
      exact if_neg hf
    · exact hnone id
  refine ⟨?_, l.server.onMessage_table _, hsent, fun g hg heq => ?_, fun h => h,
    Link.outlook_deliver hsent, fun ref => ?_⟩
  · rw [Link.inbox, Link.inbox, hincoming, hidle, hup, List.filter_cons_of_neg (by simpa using hf)]
    rfl
  · rcases hreply g hg with hzero | ⟨hsame, -⟩
    · exact absurd (heq.symm.trans hzero) hid
    · exact absurd (hsame.symm.trans heq) hf
  · rw [hidle, Handler.idle_quiet.held]
    exact Nat.zero_le _

/-- The CONNECT arrives. -/
theorem Link.Pending.deliver (h : l.Pending gone id) (hsane : l.Sane)
    (hup : l.uplink = f :: rest) (hidle : l.server.handler = .idle)
    (hf : f.streamID = id) :
    Link.Pending gone { l with server := l.server.onMessage f.packet, uplink := rest } id ∨
      Link.Serving gone { l with server := l.server.onMessage f.packet, uplink := rest } id := by
  obtain ⟨hsent, hkept, -⟩ :=
    Server.onMessage_client hidle (hsane.frames f (hup ▸ List.mem_cons_self))
  obtain ⟨connect, others, hinbox, hconnect, hothers, hcount⟩ := h.inbox
  rw [Link.inbox_deliver hup hidle hf, List.cons.injEq] at hinbox
  obtain ⟨rfl, rfl⟩ := hinbox
  have htable := l.server.onMessage_table f.packet
  generalize l.server.onMessage f.packet = server at hsent hkept htable ⊢
  have houtlook : Link.outlook { l with server := server, uplink := rest } id = l.outlook id :=
    Link.outlook_deliver hsent
  rcases hkept with ⟨hopening, -⟩ | hincoming
  · refine .inl ⟨⟨f, _, ?_, hconnect, hothers, ?_⟩, ?_, ?_, ?_⟩
    · simp only [Link.inbox, hopening, Handler.incoming, if_pos hf, List.cons_append, List.nil_append]
    · rw [houtlook]
      exact hcount
    · exact fun ref st hst => h.streams ref st (htable ▸ hst)
    · intro g hg
      refine h.spoken g (List.mem_append_left _ ?_)
      simpa [Server.spoken, hopening, Handler.reply, hsent] using hg
    · rw [houtlook]
      exact h.credit
  · -- without a stream there is no promise to keep
    refine .inr ⟨?_, ?_, ?_, ?_, ?_⟩
    · intro g hg
      rw [Link.inbox, hincoming, List.nil_append] at hg
      exact hothers g hg
    · intro ref ref' st st' hst _ hid
      exact absurd hid (h.streams ref st (htable ▸ hst))
    · intro g _ _ _ ref st hst hid
      exact absurd hid (h.streams ref st (htable ▸ hst))
    · intro ref st hst hid
      exact absurd hid (h.streams ref st (htable ▸ hst))
    · intro hnone
      rw [houtlook] at hnone
      exact .inl (h.credit hnone)

/-- A packet of a stream that the server knows arrives. -/
theorem Link.Serving.deliver (h : l.Serving gone id) (hsane : l.Sane)
    (hup : l.uplink = f :: rest) (hidle : l.server.handler = .idle)
    (hid : id ≠ 0) (hf : f.streamID = id) :
    Link.Serving gone { l with server := l.server.onMessage f.packet, uplink := rest } id := by
  have hclient := hsane.frames f (hup ▸ List.mem_cons_self)
  have hparse := parsePacket_packet f hclient.wellFormed
  have hpackets := Link.inbox_deliver hup hidle hf
  have hconnect : f.kind ≠ packetConnect := h.inbox f (hpackets ▸ List.mem_cons_self)
  have htable := l.server.onMessage_table f.packet
  have hdata : ∀ (ref : Nat) (st : Stream), l.server.table[ref]? = some st → st.id = id → st.Open →
      f.kind = packetData →
      (l.server.onMessage f.packet).handler = .enqueueing ref f.payload := by
    intro ref st hst hst' hopen hkind
    exact Server.onMessage_listed hsane.valid hst hopen.listed hparse (hf.trans hst'.symm)
      (hst' ▸ hid) hkind
  obtain ⟨hsent, hkept, hreply⟩ := Server.onMessage_client hidle hclient
  generalize l.server.onMessage f.packet = server at htable hdata hsent hkept hreply ⊢
  have hinbox : Link.inbox { l with server := server, uplink := rest } id =
      rest.filter (fun g => g.streamID = id) := by
    rw [Link.inbox, (hkept.resolve_left (fun hopening => hconnect hopening.2)) id, List.nil_append]
  have houtlook : Link.outlook { l with server := server, uplink := rest } id = l.outlook id :=
    Link.outlook_deliver hsent
  refine ⟨?_, ?_, ?_, ?_, ?_⟩
  · intro g hg
    rw [hinbox] at hg
    exact h.inbox g (hpackets ▸ List.mem_cons_of_mem _ hg)
  · rw [htable]
    exact h.unique
  · intro g hg hkind heq ref st hst hst'
    rw [htable] at hst
    rcases List.mem_append.mp hg with hg | hg
    · rw [hsent] at hg
      exact h.closes g (List.mem_append_left _ hg) hkind heq ref st hst hst'
    · intro hopen
      have hlookup := hsane.valid.listed ref st hst hopen.listed
      rcases hreply g hg with hzero | ⟨-, hfree | hkind⟩
      · exact hid (heq.symm.trans hzero)
      · rw [hst', ← hf, hfree] at hlookup
        cases hlookup
      · exact hconnect hkind
  · intro ref st hst hst' hopen k hk
    change server.table[ref]? = some st at hst
    rw [htable] at hst
    rw [houtlook] at hk
    refine (h.paced ref st hst hst' hopen k hk).mono rfl le_rfl ?_
    have hidle' : l.server.handler.held ref = 0 := by
      rw [hidle]
      exact Handler.idle_quiet.held ref
    rw [hinbox, hpackets, hidle']
    by_cases hkind : f.kind = packetData
    · -- the packet moves from the channel into the handler's hands
      have hheld : server.handler.held ref = 1 := by
        rw [hdata ref st hst hst' hopen hkind]
        simp [Handler.held, Handler.holds, Handler.calls]
      rw [hheld, dataCount, List.countP_cons_of_pos (by simpa using hkind), dataCount]
      omega
    · rw [dataCount, List.countP_cons_of_neg (by simpa using hkind), dataCount]
      omega
  · intro hnone
    rw [houtlook] at hnone
    rw [hsent]
    exact h.credit hnone

/-! ### Steps of the server -/

/-- What the server sends is on its way to the client. -/
theorem Link.outlook_server (hsane : l.Sane) {server : Server}
    (hs : l.server.step b = some server) (id : UInt32) :
    Link.outlook { l with server := server } id =
      forecast id (l.outlook id) (l.server.emitted server) := by
  have hdown : Link.downlink { l with server := server } =
      l.downlink ++ l.server.emitted server := by
    simp only [Link.downlink]
    rw [Server.step_sent hs, List.drop_append_of_le_length hsane.seen]
  rw [Link.outlook, hdown, forecast_append]
  rfl

/-- Nobody sends a frame of a stream that does not exist. -/
theorem Link.emitted_silent {server : Server} (hs : l.server.step b = some server) (hid : id ≠ 0)
    (hstreams : ∀ (ref : Nat) (st : Stream), l.server.table[ref]? = some st → st.id ≠ id)
    (hspoken : ∀ f ∈ l.server.spoken, f.streamID ≠ id) :
    ∀ f ∈ l.server.emitted server, f.streamID ≠ id := by
  intro f hf
  rcases Server.mem_emitted hs hf with ⟨shutdown, -, hh⟩ | rfl |
    ⟨ref, action, st, st', effect, -, hst, hstep, hmem⟩
  · refine hspoken f (List.mem_append_right _ ?_)
    rw [hh]
    exact List.mem_singleton_self f
  · exact hid.symm
  · rw [Stream.step_sends hstep hmem]
    exact hstreams ref st hst

theorem Handler.incoming_of_opening {h : Handler} {packet : Frame} (hh : h = .opening packet)
    (hid : packet.streamID = id) : h.incoming id = [packet] := by
  rw [hh]
  exact if_pos hid

theorem Handler.incoming_eq_nil {h : Handler} (hh : ∀ packet, h ≠ .opening packet) :
    h.incoming id = [] := by
  unfold Handler.incoming
  split
  · rename_i packet
    exact absurd rfl (hh packet)
  · rfl

/-- What the server has said or is about to say was so before, is sent in this step, or refuses a
    CONNECT. -/
theorem Server.step_spoken {s s' : Server} (hs : s.step b = some s')
    (hmsg : ∀ data, b ≠ .message data) (hf : f ∈ s'.spoken) :
    f ∈ s.spoken ∨ f ∈ s.emitted s' ∨ ∃ packet reason shutdown, s.handler = .opening packet ∧
      f = closeFrame packet.streamID reason ∧ s'.handler = .replying f shutdown ∧
      s'.table = s.table := by
  rcases List.mem_append.mp hf with hf | hf
  · rw [Server.step_sent hs] at hf
    rcases List.mem_append.mp hf with hf | hf
    · exact .inl (List.mem_append_left _ hf)
    · exact .inr (.inl hf)
  · rcases Server.step_handler hs hmsg with heq | ⟨-, hreply⟩
    · rw [heq] at hf
      exact .inl (List.mem_append_right _ hf)
    · unfold Handler.reply at hf
      split at hf
      · rename_i reply shutdown hh
        obtain ⟨packet, reason, hpacket, hclose, htable⟩ := hreply reply shutdown hh
        obtain rfl := List.mem_singleton.mp hf
        exact .inr (.inr ⟨packet, reason, shutdown, hpacket, hclose, hh, htable⟩)
      · cases hf

/-- A stream that does not exist and whose CONNECT the handler does not hold stays unknown. -/
theorem Link.server_silent {server : Server} (hs : l.server.step b = some server)
    (hmsg : ∀ data, b ≠ .message data) (hid : id ≠ 0)
    (hincoming : l.server.handler.incoming id = [])
    (hstreams : ∀ (ref : Nat) (st : Stream), l.server.table[ref]? = some st → st.id ≠ id)
    (hspoken : ∀ f ∈ l.server.spoken, f.streamID ≠ id) :
    server.handler.incoming id = [] ∧
      (∀ (ref : Nat) (st : Stream), server.table[ref]? = some st → st.id ≠ id) ∧
      ∀ f ∈ server.spoken, f.streamID ≠ id := by
  have hopening : ∀ packet, l.server.handler = .opening packet → packet.streamID ≠ id := by
    intro packet hh heq
    rw [Handler.incoming_of_opening hh heq] at hincoming
    cases hincoming
  refine ⟨?_, ?_, ?_⟩
  · rcases Server.step_handler hs hmsg with heq | ⟨hnone, -⟩
    · rw [heq]
      exact hincoming
    · exact Handler.incoming_eq_nil hnone
  · intro ref st hst
    rcases Server.step_paced hs hmsg hst with ⟨st₀, hst₀, hsame, -⟩ | ⟨packet, hh, -, -, heq, -⟩
    · rw [hsame]
      exact hstreams ref st₀ hst₀
    · rw [heq]
      exact hopening packet hh
  · intro f hf
    rcases Server.step_spoken hs hmsg hf with hf | hf | ⟨packet, reason, _, hpacket, rfl, -, -⟩
    · exact hspoken f hf
    · exact Link.emitted_silent hs hid hstreams hspoken f hf
    · exact hopening packet hpacket

theorem Link.Unopened.server (h : l.Unopened id) {server : Server}
    (hs : l.server.step b = some server) (hmsg : ∀ data, b ≠ .message data) (hid : id ≠ 0) :
    Link.Unopened { l with server := server } id := by
  obtain ⟨hincoming, huplink⟩ := List.append_eq_nil_iff.mp h.inbox
  obtain ⟨hincoming', hstreams, hspoken⟩ :=
    Link.server_silent hs hmsg hid hincoming h.streams h.spoken
  refine ⟨?_, hstreams, hspoken, h.credit⟩
  rw [Link.inbox, hincoming']
  exact huplink

/-- The server deals with the CONNECT, or does something else. -/
theorem Link.Pending.server (h : l.Pending gone id) (hsane : l.Sane) {server : Server}
    (hs : l.server.step b = some server) (hmsg : ∀ data, b ≠ .message data) (hid : id ≠ 0) :
    Link.Pending gone { l with server := server } id ∨
      Link.Serving gone { l with server := server } id := by
  have hsilent := Link.emitted_silent hs hid h.streams h.spoken
  have houtlook : Link.outlook { l with server := server } id = l.outlook id := by
    rw [Link.outlook_server hsane hs]
    exact forecast_of_irrelevant _ fun f hf heq => absurd heq (hsilent f hf)
  have hcredit : Link.outlook { l with server := server } id = none → id ∈ gone := by
    rw [houtlook]
    exact h.credit
  obtain ⟨connect, others, hinbox, hconnect, hothers, hcount⟩ := h.inbox
  by_cases hincoming : l.server.handler.incoming id = []
  · -- the CONNECT is still on the channel
    obtain ⟨hincoming', hstreams, hspoken⟩ :=
      Link.server_silent hs hmsg hid hincoming h.streams h.spoken
    refine .inl ⟨⟨connect, others, ?_, hconnect, hothers, ?_⟩, hstreams, hspoken, hcredit⟩
    · rw [← hinbox, Link.inbox, Link.inbox, hincoming, hincoming']
    · rw [houtlook]
      exact hcount
  obtain ⟨packet, hh, hpacket⟩ : ∃ packet, l.server.handler = .opening packet ∧
      packet.streamID = id := by
    unfold Handler.incoming at hincoming
    split at hincoming
    · rename_i packet hh
      by_cases heq : packet.streamID = id
      · exact ⟨packet, hh, heq⟩
      · exact absurd (if_neg heq) hincoming
    · exact absurd rfl hincoming
  rw [Link.inbox, Handler.incoming_of_opening hh hpacket, List.singleton_append,
    List.cons.injEq] at hinbox
  obtain ⟨rfl, hrest⟩ := hinbox
  rcases Server.step_handler hs hmsg with heq | ⟨hnone, -⟩
  · -- another thread takes a step
    refine .inl ⟨⟨packet, others, ?_, hconnect, hothers, ?_⟩, ?_, ?_, hcredit⟩
    · rw [Link.inbox]
      change server.handler.incoming id ++ l.uplink.filter (fun f => f.streamID = id) = _
      rw [heq, Handler.incoming_of_opening hh hpacket, hrest]
      rfl
    · rw [houtlook]
      exact hcount
    · intro ref st hst
      rcases Server.step_paced hs hmsg hst with ⟨st₀, hst₀, hsame, -⟩ | ⟨packet', -, hidle, -⟩
      · rw [hsame]
        exact h.streams ref st₀ hst₀
      · rw [heq, hh] at hidle
        cases hidle
    · intro f hf
      rcases Server.step_spoken hs hmsg hf with hf | hf | ⟨_, _, _, -, -, hreplying, -⟩
      · exact h.spoken f hf
      · exact hsilent f hf
      · rw [heq, hh] at hreplying
        cases hreplying
  -- the handler has dealt with the CONNECT: the stream is new, or refused
  have hnew : ∀ (ref : Nat) (st : Stream), server.table[ref]? = some st → st.id = id →
      ref = l.server.table.length ∧ st.writeLoop = .waiting ∧ st.write = [] := by
    intro ref st hst heq
    rcases Server.step_paced hs hmsg hst with ⟨st₀, hst₀, hsame, -⟩ |
      ⟨packet', -, -, href, -, hloop, hqueue⟩
    · exact absurd (hsame.symm.trans heq) (h.streams ref st₀ hst₀)
    · exact ⟨href, hloop, hqueue⟩
  have hinbox' : Link.inbox { l with server := server } id = others := by
    rw [Link.inbox]
    change server.handler.incoming id ++ l.uplink.filter (fun f => f.streamID = id) = _
    rw [Handler.incoming_eq_nil hnone, hrest]
    rfl
  refine .inr ⟨?_, ?_, ?_, ?_, fun hn => .inl (hcredit hn)⟩
  · rw [hinbox']
    exact hothers
  · intro ref ref' st st' hst hst' heq heq'
    rw [(hnew ref st hst heq).1, (hnew ref' st' hst' heq').1]
  · intro f hf hkind heq ref st hst hst'
    rcases Server.step_spoken hs hmsg hf with hf | hf | ⟨_, _, _, -, -, -, htable⟩
    · exact absurd heq (h.spoken f hf)
    · exact absurd heq (hsilent f hf)
    · change server.table[ref]? = some st at hst
      rw [htable] at hst
      exact absurd hst' (h.streams ref st hst)
  · intro ref st hst heq hopen k hk
    obtain ⟨-, hloop, hqueue⟩ := hnew ref st hst heq
    rw [houtlook] at hk
    have hold := hcount k hk
    rw [Stream.Paced, hloop, hqueue, hinbox']
    change initialPacketAllowance ≤ _ + 0
    omega

section Emitted

variable {server : Server} {ref : Nat} {st : Stream} (h : l.Serving gone id)
  (hs : l.server.step b = some server) (hid : id ≠ 0) (hf : f ∈ l.server.emitted server)
  (heq : f.streamID = id) (hst : l.server.table[ref]? = some st) (hst' : st.id = id)
include h hs hid hf heq hst hst'

/-- A frame of the stream that is sent now is a reply, or comes from a goroutine of the stream. -/
theorem Link.Serving.emitted :
    (∃ shutdown, l.server.handler = .replying f shutdown) ∨ ∃ action st' effect,
      b = .stream ref action ∧ st.step l.server.cancelled action = some (st', effect) ∧
        f ∈ effect.sent := by
  rcases Server.mem_emitted hs hf with ⟨shutdown, -, hh⟩ | rfl |
    ⟨r, action, st₁, st₂, effect, hb, hst₁, hstep, hmem⟩
  · exact .inl ⟨shutdown, hh⟩
  · exact absurd heq.symm hid
  · obtain rfl := h.unique ref r st st₁ hst hst₁ hst' ((Stream.step_sends hstep hmem).symm.trans heq)
    obtain rfl : st = st₁ := Option.some.inj (hst.symm.trans hst₁)
    exact .inr ⟨action, st₂, effect, hb, hstep, hmem⟩

/-- A CLOSE of the stream that is sent now has no open stream left. -/
theorem Link.Serving.emitted_close (hkind : f.kind = packetClose) : ¬ st.Open := by
  intro hopen
  rcases h.emitted hs hid hf heq hst hst' with ⟨shutdown, hh⟩ | ⟨action, st₂, effect, -, hstep, hmem⟩
  · refine h.closes f (List.mem_append_right _ ?_) hkind heq ref st hst hst' hopen
    rw [hh]
    exact List.mem_singleton_self f
  · have howes := (Stream.step_sends_close hstep hmem hkind).2
    rw [Stream.owesClose, show st.closing = none from hopen] at howes
    cases howes

end Emitted

/-- **Step lemma for a stream that the server knows.** -/
theorem Link.Serving.server (h : l.Serving gone id) (hsane : l.Sane) {server : Server}
    (hs : l.server.step b = some server) (hmsg : ∀ data, b ≠ .message data) (hid : id ≠ 0) :
    Link.Serving gone { l with server := server } id := by
  have hopening : ∀ packet, l.server.handler = .opening packet → packet.streamID ≠ id := by
    intro packet hh heq
    refine h.inbox packet ?_ (hsane.opening packet hh)
    rw [Link.inbox, Handler.incoming_of_opening hh heq]
    exact List.mem_cons_self
  have hold : ∀ (ref : Nat) (st : Stream), server.table[ref]? = some st → st.id = id →
      ∃ st₀, l.server.table[ref]? = some st₀ ∧ st₀.id = id ∧ l.server.Keeps server b ref st₀ st := by
    intro ref st hst heq
    rcases Server.step_paced hs hmsg hst with ⟨st₀, hst₀, hsame, hkeeps⟩ | ⟨packet, hh, -, -, hnew, -⟩
    · exact ⟨st₀, hst₀, hsame.symm.trans heq, hkeeps⟩
    · exact absurd (hnew.symm.trans heq) (hopening packet hh)
  have hinbox : Link.inbox { l with server := server } id = l.inbox id := by
    rw [Link.inbox, Link.inbox]
    have hbefore : l.server.handler.incoming id = [] := by
      unfold Handler.incoming
      split
      · rename_i packet hh
        exact if_neg (hopening packet hh)
      · rfl
    rcases Server.step_handler hs hmsg with heq | ⟨hnone, -⟩
    · rw [heq]
    · rw [hbefore, Handler.incoming_eq_nil hnone]
  refine ⟨hinbox ▸ h.inbox, ?_, ?_, ?_, ?_⟩
  · intro ref ref' st st' hst hst' heq heq'
    obtain ⟨st₀, hst₀, heq₀, -⟩ := hold ref st hst heq
    obtain ⟨st₁, hst₁, heq₁, -⟩ := hold ref' st' hst' heq'
    exact h.unique ref ref' st₀ st₁ hst₀ hst₁ heq₀ heq₁
  · intro f hf hkind heq ref st hst hst' hopen
    obtain ⟨st₀, hst₀, heq₀, hopen₀⟩ := hold ref st hst hst'
    have hopen₀ := (hopen₀ hopen).1
    rcases Server.step_spoken hs hmsg hf with hf | hf | ⟨packet, reason, _, hpacket, rfl, -, -⟩
    · exact h.closes f hf hkind heq ref st₀ hst₀ heq₀ hopen₀
    · exact h.emitted_close hs hid hf heq hst₀ heq₀ hkind hopen₀
    · exact hopening packet hpacket heq
  · intro ref st hst heq hopen k hk
    obtain ⟨st₀, hst₀, heq₀, hrest⟩ := hold ref st hst heq
    obtain ⟨hopen₀, hkeeps⟩ := hrest hopen
    rw [Link.outlook_server hsane hs] at hk
    obtain ⟨k₀, hk₀⟩ : ∃ k₀, l.outlook id = some k₀ := by
      cases hcredit : l.outlook id with
      | none =>
        rw [hcredit, forecast_none] at hk
        cases hk
      | some k₀ => exact ⟨k₀, rfl⟩
    rw [hk₀] at hk
    have hpaced := h.paced ref st₀ hst₀ heq₀ hopen₀ k₀ hk₀
    rcases hkeeps _ hpaced with ⟨hkept, hquiet⟩ | ⟨remaining, hemitted, hle, hrenewed⟩
    · -- no other frame changes the credit
      have hsame : forecast id (some k₀) (l.server.emitted server) = some k₀ := by
        refine forecast_of_irrelevant _ ?_
        intro f hf hnumber
        refine ⟨?_, fun hkind => h.emitted_close hs hid hf hnumber hst₀ heq₀ hkind hopen₀⟩
        rcases h.emitted hs hid hf hnumber hst₀ heq₀ with ⟨shutdown, hh⟩ | ⟨action, _, _, hb, -⟩
        · exact hsane.replying f shutdown hh
        · exact hquiet action hb f hf
      rw [hsame, Option.some.injEq] at hk
      subst hk
      rw [hinbox]
      exact hkept
    · rw [hemitted, heq₀, forecast_continueFrame id hle, Option.some.injEq] at hk
      subst hk
      exact hrenewed.mono rfl le_rfl (by omega)
  · intro hnone
    rw [Link.outlook_server hsane hs] at hnone
    rw [Server.step_sent hs]
    cases hcredit : l.outlook id with
    | none =>
      rcases h.credit hcredit with hmem | ⟨f, hf, hclose⟩
      · exact .inl hmem
      · exact .inr ⟨f, List.mem_append_left _ hf, hclose⟩
    | some k =>
      rw [hcredit] at hnone
      obtain ⟨f, hf, hclose⟩ := forecast_lost hnone
      exact .inr ⟨f, List.mem_append_right _ hf, hclose⟩

/-- The client closes only streams that it has open. -/
theorem Link.step_close (hs : l.step (.close id) = some l') : l.client.credit id ≠ none := by
  intro hnone
  simp only [Link.step, hnone] at hs
  cases hs

/-- A packet for the number arrives. -/
theorem Link.Phase.deliver (h : l.Phase known gone id) (hsane : l.Sane)
    (hup : l.uplink = f :: rest) (hidle : l.server.handler = .idle)
    (hid : id ≠ 0) :
    Link.Phase known gone { l with server := l.server.onMessage f.packet, uplink := rest } id := by
  by_cases hf : f.streamID = id
  · rcases h with h | ⟨hmem, h | h⟩
    · have hempty := (List.append_eq_nil_iff.mp h.inbox).2
      rw [hup, List.filter_cons_of_pos (by simpa using hf)] at hempty
      cases hempty
    · exact .inr ⟨hmem, h.deliver hsane hup hidle hf⟩
    · exact .inr ⟨hmem, .inr (h.deliver hsane hup hidle hid hf)⟩
  · exact h.congr (Link.alike_deliver hsane hup hidle hid hf) (fun _ h => h) (fun _ h => h)

/-- **Step lemma.**  If the client does not open the number again, it stays in its phase or moves on to
    the next. -/
theorem Link.step_phase {a : LinkAction} (h : l.Phase known gone id) (hsane : l.Sane)
    (hid : id ≠ 0) (hs : l.step a = some l') (hfresh : a.opens = some id → id ∉ known) :
    l'.Phase (a.opens.toList ++ known) (a.leaves.toList ++ gone) id := by
  cases Link.step_cases hs with
  | hello => exact h.congr (l.alike_send _ hid.symm rfl) (fun _ h => h) (fun _ h => h)
  | connect id' payload n hallow hid' hpayload =>
    obtain rfl := hsane.allowance n hallow
    by_cases heq : id' = id
    · subst heq
      rcases h with h | ⟨hmem, -⟩
      · exact .inr ⟨List.mem_cons_self, .inl (h.connect payload)⟩
      · exact absurd hmem (hfresh rfl)
    · refine h.congr (l.alike_send _ heq ?_) (fun _ h => List.mem_cons_of_mem _ h) (fun _ h => h)
      exact l.client.setCredit_of_ne (Ne.symm heq) _
  | data id' payload k hcredit hid' hpayload =>
    by_cases heq : id' = id
    · subst heq
      have hkind : packetData ≠ packetConnect := by decide
      refine h.send rfl hkind (fun _ h => h) ?_ ?_ (by rw [hcredit]; exact nofun)
      · exact fun m hm => Link.outlook_spend hcredit _ hm
      · exact fun hnone => .inr (Link.outlook_spend_none hcredit _ hnone)
    · refine h.congr (l.alike_send _ heq ?_) (fun _ h => h) (fun _ h => h)
      exact l.client.setCredit_of_ne (Ne.symm heq) _
  | close id' hid' =>
    by_cases heq : id' = id
    · subst heq
      have hkind : packetClose ≠ packetConnect := by decide
      -- the client has given up its credit for good
      have hnone : (l.send (l.client.setCredit id' none)
          (closeFrame id' closeVoluntary)).outlook id' = none := by
        change forecast id' ((l.client.setCredit id' none).credit id') l.downlink = none
        rw [Client.setCredit_self]
        exact forecast_none id' l.downlink
      refine h.send rfl hkind (fun _ h => List.mem_cons_of_mem _ h) ?_ ?_ (Link.step_close hs)
      · intro m hm
        rw [hnone] at hm
        cases hm
      · exact fun _ => .inl List.mem_cons_self
    · refine h.congr (l.alike_send _ heq ?_) (fun _ h => h) (fun _ h => List.mem_cons_of_mem _ h)
      exact l.client.setCredit_of_ne (Ne.symm heq) _
  | receive f hf => exact h.congr (l.alike_receive hf hid) (fun _ h => h) (fun _ h => h)
  | deliver f rest server hup hserver =>
    cases (Server.step_cases hserver).2 with
    | received _ hidle => exact h.deliver hsane hup hidle hid
  | server b server hmsg hserver =>
    rcases h with h | ⟨hmem, h | h⟩
    · exact .inl (h.server hserver hmsg hid)
    · exact .inr ⟨hmem, h.server hsane hserver hmsg hid⟩
    · exact .inr ⟨hmem, .inr (h.server hsane hserver hmsg hid)⟩

end Phases

/-! ### Runs -/

theorem opened_cons (t : Transition Link LinkAction Unit)
    (h : LinkHistory) :
    opened (t :: h) = t.action.opens.toList ++ opened h := by
  rw [opened, List.filterMap_cons]
  cases t.action.opens with
  | none => rfl
  | some id => rfl

theorem left_cons (t : Transition Link LinkAction Unit)
    (h : LinkHistory) :
    left (t :: h) = t.action.leaves.toList ++ left h := by
  rw [left, List.filterMap_cons]
  cases t.action.leaves with
  | none => rfl
  | some id => rfl

variable {h : LinkHistory}

theorem mem_left {id : UInt32} (hid : id ∈ left h) : ∃ t ∈ h, t.action = .close id := by
  obtain ⟨t, ht, hleaves⟩ := List.mem_filterMap.mp hid
  refine ⟨t, ht, ?_⟩
  unfold LinkAction.leaves at hleaves
  split at hleaves
  · rename_i heq
    cases hleaves
    exact heq
  · cases hleaves

theorem Link.new_unopened {id : UInt32} (hid : id ≠ 0) : Link.new.Unopened id := by
  refine ⟨rfl, ?_, ?_, rfl⟩
  · intro ref st hst
    simp [Link.new, Server.new] at hst
  · intro f hf
    rw [List.mem_singleton.mp hf]
    exact hid.symm

theorem linkRun_sane {l : Link} (hr : linkSystem.Run h l) : l.Sane :=
  hr.invariant Link.new_sane fun _ _ _ _ hsane hs => Link.step_sane hsane (linkSystem_step hs)

/-- In every run in which the client opens the number at most once, it is in one of its phases. -/
theorem linkRun_phase {l : Link} {id : UInt32}
    (hr : linkSystem.Run h l) (hid : id ≠ 0) (honce : (opened h).count id ≤ 1) :
    l.Phase (opened h) (left h) id := by
  revert honce
  refine hr.history_invariant (P := fun h l => (opened h).count id ≤ 1 →
    l.Phase (opened h) (left h) id) ?_ ?_
  · exact fun _ => .inl (Link.new_unopened hid)
  · intro h l a l' e hbefore ih hs honce
    rw [opened_cons, List.count_append] at honce
    rw [opened_cons, left_cons]
    refine Link.step_phase (ih (by omega)) (linkRun_sane hbefore) hid (linkSystem_step hs) ?_
    intro hopens hmem
    have hbefore := List.count_pos_iff.mpr hmem
    have hnow : a.opens.toList.count id = 1 := by simp [hopens]
    change a.opens.toList.count id + (opened h).count id ≤ 1 at honce
    omega

theorem Handler.held_le_one (h : Handler) (ref : Nat) : h.held ref ≤ 1 := by
  unfold Handler.held Handler.holds Handler.calls
  cases h with
  | enqueueing ref' payload =>
    simp only [Bool.toNat_false, Nat.add_zero]
    split <;> omega
  | calling ref' notify reason =>
    simp only [Nat.zero_add]
    exact Bool.toNat_le _
  | _ => exact Nat.zero_le _

/-- **No flow-control stall.**  In every state reached in which a stream is open, its queue is empty,
    its `writeLoop` waits for data and no DATA or CONTINUE of the stream is in flight, a client that
    has opened the number of the stream only once, and has not closed it, has positive credit for it
    and can send. -/
theorem linkRun_noStall {h : LinkHistory} {l : Link}
    (hr : linkSystem.Run h l) {ref consumed : Nat} {st : Stream} {connection : Option Conn}
    (honce : (opened h).count st.id ≤ 1) (hst : l.server.table[ref]? = some st) (hopen : st.Open)
    (hwaits : st.writeLoop = .selecting connection consumed) (hempty : st.write = [])
    (hup : ∀ f ∈ l.uplink, f.streamID = st.id → f.kind ≠ packetData)
    (hdown : ∀ f ∈ l.downlink, f.streamID = st.id → f.kind ≠ packetContinue)
    (hclient : ∀ t ∈ h, t.action ≠ .close st.id) :
    (∃ k, l.client.credit st.id = some k ∧ 0 < k) ∧
      ∀ payload, fits payload = true → (l.step (.data st.id payload)).isSome = true := by
  have hsane := linkRun_sane hr
  have hid := hsane.mapped.numbered ref st hst
  have hserving : l.Serving (left h) st.id := by
    rcases linkRun_phase hr hid honce with hunopened | ⟨-, hpending | hserving⟩
    · exact absurd rfl (hunopened.streams ref st hst)
    · exact absurd rfl (hpending.streams ref st hst)
    · exact hserving
  -- no CLOSE of an open stream is in flight either
  have houtlook : l.outlook st.id = l.client.credit st.id := by
    refine forecast_of_irrelevant _ ?_
    intro f hf heq
    refine ⟨hdown f hf heq, fun hkind => ?_⟩
    have hspoken := List.mem_append_left l.server.handler.reply (List.mem_of_mem_drop hf)
    exact hserving.closes f hspoken hkind heq ref st hst rfl hopen
  have hcount : dataCount (l.inbox st.id) = 0 := by
    rw [dataCount, List.countP_eq_zero]
    intro f hf
    rcases List.mem_append.mp hf with hf | hf
    · have hconnect : packetConnect ≠ packetData := by decide
      unfold Handler.incoming at hf
      split at hf
      · rename_i packet hh
        split at hf
        · rw [List.mem_singleton.mp hf, hsane.opening packet hh]
          simpa using hconnect
        · cases hf
      · cases hf
    · obtain ⟨hmem, heq⟩ := List.mem_filter.mp hf
      simpa using hup f hmem (by simpa using heq)
  obtain ⟨k, hk, hpositive⟩ : ∃ k, l.client.credit st.id = some k ∧ 0 < k := by
    cases hcredit : l.client.credit st.id with
    | none =>
      rcases hserving.credit (houtlook.trans hcredit) with hgone | ⟨f, hf, hkind, heq⟩
      · obtain ⟨t, ht, hclose⟩ := mem_left hgone
        exact absurd hclose (hclient t ht)
      · have hspoken := List.mem_append_left l.server.handler.reply hf
        exact absurd hopen (hserving.closes f hspoken hkind heq ref st hst rfl)
    | some k =>
      refine ⟨k, rfl, ?_⟩
      have hpaced := hserving.paced ref st hst rfl hopen k (houtlook.trans hcredit)
      rw [Stream.Paced, hwaits, hempty, hcount] at hpaced
      obtain ⟨hlt, hfull⟩ := hpaced
      have hheld := l.server.handler.held_le_one ref
      have hallowance : initialPacketAllowance = 64 := rfl
      have hthreshold : continueThreshold = 32 := rfl
      rw [List.length_nil] at hfull
      omega
  refine ⟨⟨k, hk, hpositive⟩, ?_⟩
  intro payload hfits
  obtain ⟨m, rfl⟩ : ∃ m, k = m + 1 := ⟨k - 1, by omega⟩
  simp [Link.step, hk, hid, hfits]

set_option maxRecDepth 100000 in
/-- The client has sent 32 packets and has learnt that they were written.  It has opened another number
    twice. -/
theorem linkRun_noStall_of_patient_client :
    ∃ h l st, linkSystem.Run h l ∧ (opened h).count st.id ≤ 1 ∧ ¬ (opened h).Nodup ∧
      l.server.table[0]? = some st ∧ st.Open ∧ st.writeLoop = .selecting (some 7) 0 ∧ st.write = [] ∧
      (∃ k, l.client.credit st.id = some k ∧ 0 < k) ∧
      (l.step (.data st.id [1])).isSome = true := by
  obtain ⟨h, l, hr, hc⟩ := System.exists_run_of_exec (S := linkSystem)
    (P := fun h l => decide (¬ (opened h).Nodup ∧ ∃ st : Stream, st ∈ l.server.table[0]? ∧ st.Open ∧
      st.writeLoop = .selecting (some 7) 0 ∧ st.write = [] ∧ (opened h).count st.id ≤ 1 ∧
      (∀ f ∈ l.uplink, f.streamID = st.id → f.kind ≠ packetData) ∧ l.downlink = [] ∧ st.id ∉ left h))
    (uploadOpening ++ List.replicate 32 (.data 1 []) ++ drain 32 ++ announce ++
      [.connect 2 [streamTCP, 80, 0, 104], .close 2, .connect 2 [streamTCP, 80, 0, 104]])
    (by decide +kernel)
  obtain ⟨htwice, st, hst, hopen, hwaits, hempty, honce, hup, hdown, hleft⟩ := of_decide_eq_true hc
  have hclient : ∀ t ∈ h, t.action ≠ .close st.id := fun t ht heq =>
    hleft (List.mem_filterMap.mpr ⟨t, ht, by rw [heq]; rfl⟩)
  obtain ⟨hcredit, hsends⟩ := linkRun_noStall hr honce hst hopen hwaits hempty hup
    (by rw [hdown]; exact nofun) hclient
  exact ⟨h, l, st, hr, honce, htwice, hst, hopen, hwaits, hempty, hcredit, hsends [1] (by decide)⟩

/-- `n` DATA packets of the channel are put into the queue. -/
def fill (n : Nat) : List LinkAction :=
  (List.replicate n [.deliver, .server (.handle true)]).flatten

/-- The client closes stream 1 and opens a stream with the same number, which the server serves. -/
def reopen : List LinkAction :=
  [.close 1, .deliver, .server (.handle true), .server (.stream 0 .closeCancels),
    .server (.stream 0 .closeDeletes), .server (.stream 0 .closeClosesConn), .server (.handle true),
    .connect 1 [streamTCP, 80, 0, 104], .deliver, .server (.handle true),
    .server (.stream 1 (.dialReturns (.connection 8))), .server (.stream 1 .publish),
    .server (.stream 1 .writeLoopReady), .server (.stream 1 .writeLoopLoads)]

set_option maxRecDepth 100000 in
/-- **A stall.**  The queue of a stream is full when its second CONTINUE is due, so it announces 0.
    While this frame is on its way the client closes the stream and opens another one under the same
    number.  The frame takes the credit of the new stream, whose `writeLoop` waits for data that
    the client may not send. -/
theorem linkRun_stalls :
    ∃ h l st, linkSystem.Run h l ∧ l.server.table[1]? = some st ∧ st.id = 1 ∧ st.Open ∧
      st.conn = some 8 ∧ st.writeLoop = .selecting (some 8) 0 ∧ st.write = [] ∧ l.uplink = [] ∧
      l.downlink = [] ∧ l.client.credit 1 = some 0 ∧ l.step (.data 1 []) = none := by
  obtain ⟨h, l, hr, hc⟩ := System.exists_run_of_exec (S := linkSystem)
    (P := fun _ l => decide ((∃ st : Stream, st ∈ l.server.table[1]? ∧ st.id = 1 ∧ st.Open ∧
      st.conn = some 8 ∧ st.writeLoop = .selecting (some 8) 0 ∧ st.write = []) ∧ l.uplink = [] ∧
      l.downlink = [] ∧ l.client.credit 1 = some 0 ∧ (l.step (.data 1 [])).isNone = true))
    (uploadOpening ++ List.replicate 64 (.data 1 []) ++ drain 32 ++ announce ++
      List.replicate 64 (.data 1 []) ++ drain 32 ++ fill 64 ++
      [.server (.stream 0 .writeLoopMeasures), .server (.stream 0 (.writeLoopAnnounces true))] ++
      reopen ++ [.receive]) (by decide +kernel)
  obtain ⟨⟨st, hst, hstream⟩, hup, hdown, hcredit, hstuck⟩ := of_decide_eq_true hc
  obtain ⟨hid, hopen, hconn, hwaits, hempty⟩ := hstream
  exact ⟨h, l, st, hr, hst, hid, hopen, hconn, hwaits, hempty, hup, hdown, hcredit,
    Option.isNone_iff_eq_none.mp hstuck⟩

end WebVPN.Wisp
