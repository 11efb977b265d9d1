import WebVPN.Wisp.Registry

namespace WebVPN.Wisp

open WebVPN.Library

/-!
# Wisp — a conforming client on an ordered channel

The flow-control contract of `WISP_WEBRTC_BINDING.md` seen from both ends.  A `Link` is a
client, its packets in flight to the server, the server, and the frames the server has
sent of which the client has `seen` a prefix; both directions are reliable and in order,
and every delivery may be delayed for any number of other steps.

The client keeps one credit for each stream it has opened: the allowance announced by the
handshake CONTINUE, less one for every DATA packet, replaced by `n` on CONTINUE(`n`).  It
sends DATA only with positive credit, and may open, use and close any number of streams.
-/

/-- The client's side: the allowance of the handshake and the credit of each open stream. -/
structure Client where
  allowance : Option Nat
  credit : UInt32 → Option Nat

/-- Set the credit of one stream (`none`: the stream is not open at the client). -/
def Client.setCredit (c : Client) (id : UInt32) (credit : Option Nat) : Client :=
  { c with credit := Function.update c.credit id credit }

/-- The number a CONTINUE frame announces. -/
def continueValue (f : Frame) : Option Nat :=
  match f.payload with
  | [b₀, b₁, b₂, b₃] => some (uint32 b₀ b₁ b₂ b₃).toNat
  | _ => none

/-- The credit a frame grants to a stream the client has open: the stream and the number
    of a CONTINUE. -/
def Client.granted (c : Client) (f : Frame) : Option (UInt32 × Nat) :=
  if f.kind = packetContinue ∧ f.streamID ≠ 0 ∧ (c.credit f.streamID).isSome then
    (continueValue f).map (fun n => (f.streamID, n))
  else none

/-- The client's reaction to a frame of the server. -/
def Client.receive (c : Client) (f : Frame) : Client :=
  match c.granted f with
  | some (id, n) => c.setCredit id (some n)
  | none =>
    if f.kind = packetContinue ∧ f.streamID = 0 then { c with allowance := continueValue f }
    else if f.kind = packetClose then c.setCredit f.streamID none
    else c

/-- A client, a server and the packets between them. -/
structure Link where
  client : Client
  uplink : List Frame
  server : Server
  seen : Nat

/-- The start of a connection: nothing announced, nothing in flight. -/
def Link.new : Link where
  client := ⟨none, fun _ => none⟩
  uplink := []
  server := .new
  seen := 0

/-- The steps of the client (`hello` is its INFO packet), the two deliveries, and the steps
    of the server other than receiving a message. -/
inductive LinkAction
  | hello
  | connect (id : UInt32) (payload : List UInt8)
  | data (id : UInt32) (payload : List UInt8)
  | close (id : UInt32)
  | receive
  | deliver
  | server (a : Action)
deriving DecidableEq, Repr

/-- The client puts a packet on the channel. -/
def Link.send (l : Link) (c : Client) (f : Frame) : Link :=
  { l with client := c, uplink := l.uplink ++ [f] }

/-- A payload fits one message. -/
def fits (payload : List UInt8) : Bool := payload.length + 5 ≤ maxPacketSize

/-- One step of the link. -/
def Link.step (l : Link) : LinkAction → Option Link
  | .hello => some (l.send l.client ⟨packetInfo, 0, [2, 0]⟩)
  | .connect id payload =>
    match l.client.allowance, l.client.credit id with
    | some n, none =>
      if id ≠ 0 ∧ fits payload = true then
        some (l.send (l.client.setCredit id (some n)) ⟨packetConnect, id, payload⟩)
      else none
    | _, _ => none
  | .data id payload =>
    match l.client.credit id with
    | some (k + 1) =>
      if id ≠ 0 ∧ fits payload = true then
        some (l.send (l.client.setCredit id (some k)) ⟨packetData, id, payload⟩)
      else none
    | _ => none
  | .close id =>
    match l.client.credit id with
    | some _ =>
      if id ≠ 0 then some (l.send (l.client.setCredit id none) (closeFrame id closeVoluntary))
      else none
    | none => none
  | .receive =>
    match l.server.sent[l.seen]? with
    | some f => some { l with client := l.client.receive f, seen := l.seen + 1 }
    | none => none
  | .deliver =>
    match l.uplink with
    | [] => none
    | f :: rest =>
      match l.server.step (.message f.packet) with
      | none => none
      | some server => some { l with server := server, uplink := rest }
  | .server (.message _) => none
  | .server a =>
    match l.server.step a with
    | none => none
    | some server => some { l with server := server }

/-- The link as a transition system. -/
def linkSystem : System Link LinkAction Unit where
  init := .new
  step l a := (l.step a).map (fun l' => (l', ()))

/-- A recorded history of the link, the latest step first. -/
abbrev LinkHistory := List (Transition Link LinkAction Unit)

theorem linkSystem_step {l l' : Link} {a : LinkAction} {e : Unit}
    (hs : linkSystem.step l a = some (l', e)) : l.step a = some l' := by
  simpa [linkSystem] using hs

/-! ### What a step can do -/

/-- The ways in which a link can take a step. -/
inductive Link.Step (l : Link) : LinkAction → Link → Prop
  | hello : Step l .hello (l.send l.client ⟨packetInfo, 0, [2, 0]⟩)
  | connect (id : UInt32) (payload : List UInt8) (n : Nat)
      (hallow : l.client.allowance = some n) (hid : id ≠ 0) (hfits : fits payload = true) :
      Step l (.connect id payload)
        (l.send (l.client.setCredit id (some n)) ⟨packetConnect, id, payload⟩)
  | data (id : UInt32) (payload : List UInt8) (k : Nat)
      (hcredit : l.client.credit id = some (k + 1)) (hid : id ≠ 0) (hfits : fits payload = true) :
      Step l (.data id payload)
        (l.send (l.client.setCredit id (some k)) ⟨packetData, id, payload⟩)
  | close (id : UInt32) (hid : id ≠ 0) :
      Step l (.close id)
        (l.send (l.client.setCredit id none) (closeFrame id closeVoluntary))
  | receive (f : Frame) (hf : l.server.sent[l.seen]? = some f) :
      Step l .receive { l with client := l.client.receive f, seen := l.seen + 1 }
  | deliver (f : Frame) (rest : List Frame) (server : Server) (hup : l.uplink = f :: rest)
      (hs : l.server.step (.message f.packet) = some server) :
      Step l .deliver { l with server := server, uplink := rest }
  | server (a : Action) (server : Server) (hmsg : ∀ data, a ≠ .message data)
      (hs : l.server.step a = some server) : Step l (.server a) { l with server := server }

/-- **Inversion.**  Every step of the link is one of the listed ones. -/
theorem Link.step_cases {l l' : Link} {a : LinkAction} (h : l.step a = some l') :
    l.Step a l' := by
  unfold Link.step at h
  split at h
  · cases h; exact .hello
  · rename_i id payload
    split at h
    · rename_i n hallow _
      split at h
      · rename_i hg
        cases h; exact .connect id payload n hallow hg.1 hg.2
      · cases h
    · cases h
  · rename_i id payload
    split at h
    · rename_i k hcredit
      split at h
      · rename_i hg
        cases h; exact .data id payload k hcredit hg.1 hg.2
      · cases h
    · cases h
  · rename_i id
    split at h
    · split at h
      · rename_i hid
        cases h; exact .close id hid
      · cases h
    · cases h
  · split at h
    · rename_i f hf
      cases h; exact .receive f hf
    · cases h
  · split at h
    · cases h
    · rename_i f rest hup
      split at h
      · cases h
      · rename_i server hs
        cases h; exact .deliver f rest server hup hs
  · cases h
  · rename_i a hmsg
    split at h
    · cases h
    · rename_i server hs
      cases h; exact .server a server (fun data => hmsg data) hs

end WebVPN.Wisp
