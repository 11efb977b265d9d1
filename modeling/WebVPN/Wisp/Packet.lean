import WebVPN.Library.LittleEndian

namespace WebVPN.Wisp

open WebVPN.Library

/-!
# Wisp — packets and limits

The wire format of `internal/wisp/server.go`: a packet is one type byte, a little-endian
stream number and a payload, and one DataChannel message carries exactly one packet.

* `Frame.packet` — the bytes `sendFrame` hands to the data channel;
* `parsePacket` — the checks of the receiver, in the order the code makes them;
* `parsePacket_packet` — a well-formed frame survives the trip.
-/

/-! ### Constants -/

/-- The browser opens a stream. -/
def packetConnect : UInt8 := 0x01
/-- Data of a stream, either way. -/
def packetData : UInt8 := 0x02
/-- The Agent renews the credit of a stream. -/
def packetContinue : UInt8 := 0x03
/-- A stream is closed, by either side. -/
def packetClose : UInt8 := 0x04
/-- The handshake. -/
def packetInfo : UInt8 := 0x05

/-- The only type of stream. -/
def streamTCP : UInt8 := 0x01

/-- The stream has come to its end. -/
def closeVoluntary : UInt8 := 0x02
/-- Reading or writing has failed. -/
def closeNetwork : UInt8 := 0x03
/-- The packet is not expected. -/
def closeInvalidInfo : UInt8 := 0x41
/-- The dial has failed. -/
def closeUnreachable : UInt8 := 0x42
/-- The policy forbids the target. -/
def closeBlocked : UInt8 := 0x48
/-- The queue is full, or there are too many streams. -/
def closeThrottled : UInt8 := 0x49

/-- The number of DATA packets a stream may have outstanding, and the capacity of its
    write queue. -/
def initialPacketAllowance : Nat := 64

/-- After this many written packets the server announces its remaining capacity. -/
def continueThreshold : Nat := initialPacketAllowance / 2

/-- How much `readLoop` reads at once. -/
def readBufferSize : Nat := 16 * 2 ^ 10
/-- The limit for a packet. -/
def maxPacketSize : Nat := 64 * 2 ^ 10
/-- The limit for the map of streams. -/
def maxConcurrentStreams : Nat := 16

/-! ### Frames -/

/-- A parsed packet (`frame` in the source). -/
structure Frame where
  kind : UInt8
  streamID : UInt32
  payload : List UInt8
deriving DecidableEq, Repr

/-- The message `sendFrame` builds: type byte, stream number, payload. -/
def Frame.packet (f : Frame) : List UInt8 :=
  f.kind :: (putUint32 f.streamID ++ f.payload)

/-- Parse one DataChannel message. -/
def parsePacket (data : List UInt8) : Except String Frame :=
  if data.length < 5 then .error "Wisp packet is too short"
  else if maxPacketSize < data.length then .error "Wisp packet exceeds the message limit"
  else
    match data with
    | kind :: b₀ :: b₁ :: b₂ :: b₃ :: payload =>
      if kind < packetConnect ∨ packetInfo < kind then
        .error ("unknown Wisp packet type: " ++ toString kind.toNat)
      else .ok ⟨kind, uint32 b₀ b₁ b₂ b₃, payload⟩
    | _ => .error "Wisp packet is too short"

/-- A frame that the protocol allows: a known kind, and a payload that fits a message. -/
structure Frame.WellFormed (f : Frame) : Prop where
  kind_ge : packetConnect ≤ f.kind
  kind_le : f.kind ≤ packetInfo
  size : f.payload.length + 5 ≤ maxPacketSize

instance (f : Frame) : Decidable f.WellFormed :=
  decidable_of_iff (packetConnect ≤ f.kind ∧ f.kind ≤ packetInfo ∧
      f.payload.length + 5 ≤ maxPacketSize)
    ⟨fun ⟨h₁, h₂, h₃⟩ => ⟨h₁, h₂, h₃⟩, fun ⟨h₁, h₂, h₃⟩ => ⟨h₁, h₂, h₃⟩⟩

/-- **Round trip.**  Parsing the packet of a well-formed frame gives the frame back. -/
theorem parsePacket_packet (f : Frame) (hf : f.WellFormed) : parsePacket f.packet = .ok f := by
  obtain ⟨hge, hle, hsize⟩ := hf
  have hlen : f.packet.length = f.payload.length + 5 := by
    simp [Frame.packet]; omega
  have hkind : ¬ (f.kind < packetConnect ∨ packetInfo < f.kind) := by
    rintro (hk | hk)
    · exact absurd hge (UInt8.not_le.mpr hk)
    · exact absurd hle (UInt8.not_le.mpr hk)
  unfold parsePacket
  rw [if_neg (by omega), if_neg (by omega)]
  simp only [Frame.packet, putUint32, List.cons_append, List.nil_append]
  rw [if_neg hkind, uint32_putUint32]

/-- What is accepted is the packet of the well-formed frame that it is read as. -/
theorem packet_of_parsePacket {data : List UInt8} {f : Frame} (h : parsePacket data = .ok f) :
    f.WellFormed ∧ f.packet = data := by
  unfold parsePacket at h
  split at h
  · cases h
  split at h
  · cases h
  rename_i hshort hlong
  split at h
  · rename_i kind b₀ b₁ b₂ b₃ payload
    split at h
    · cases h
    rename_i hkind
    obtain ⟨hge, hle⟩ := not_or.mp hkind
    obtain rfl := Except.ok.inj h
    refine ⟨⟨UInt8.not_lt.mp hge, UInt8.not_lt.mp hle, ?_⟩, ?_⟩
    · simp only [List.length_cons] at hlong
      show payload.length + 5 ≤ maxPacketSize
      omega
    · show kind :: (putUint32 (uint32 b₀ b₁ b₂ b₃) ++ payload) = _
      rw [putUint32_uint32]
      rfl
  · cases h

end WebVPN.Wisp
