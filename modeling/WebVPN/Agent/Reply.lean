import WebVPN.Agent.Runtime
import WebVPN.Browser.Control
import WebVPN.Library.AddrText

namespace WebVPN.Agent

open WebVPN.Library WebVPN.Browser

/-!
# Agent — replies on the wire

`sendControl` of `internal/agent/runtime.go`: the map of a reply as JSON, sent unless it is longer than 512
bytes, in which case the channel is closed instead.

* `Reply.encode`, `sendControl` — the text of a reply, and whether it is sent;
* `Reply.Result` — a reply with the id and the type that a request waits for, one of the codes that the
  browser knows, and at most eight addresses without zones;
* `Reply.Result.size` — with an id of the pattern it has at most 512 bytes;
* `Reply.Result.received` — and the browser resolves the request with it.
-/

/-! ### Encoding -/

/-- `duration.Milliseconds()` is an int64. -/
def milliseconds (rtt : Nat) : Int := (Int64.ofNat rtt).toInt

/-- The addresses of a reply. -/
def addressMember (addresses : List Addr) : Member where
  name := "addresses"
  text := arrayText ((addresses.map (fun address => String.ofList address.text)).map (quote .go))
  value := .array ((addresses.map (fun address => String.ofList address.text)).map Json.string)
  reads := reads_texts .go _

/-- The members of a reply before its round-trip time.  The keys of a map are written in order, and a name
    never resolves to no addresses. -/
def Reply.members (reply : Reply) : List Member :=
  (if reply.addresses = [] then [] else [addressMember reply.addresses]) ++
    [textMember .go "code" reply.code, textMember .go "id" reply.id]

/-- The JSON text of a reply. -/
def Reply.encode (reply : Reply) : List Char :=
  let type := textMember .go "type" reply.type
  if reply.type = "pong" then objectText .go [type.written]
  else
    match reply.rtt with
    | none => objectText .go ((reply.members ++ [type]).map Member.written)
    | some rtt => objectText .go (reply.members.map Member.written
        ++ ("rtt_ms", (toString (milliseconds rtt)).toList) :: [type].map Member.written)

/-- `sendControl`: the text that is sent; the channel is closed instead of sending a longer one. -/
def sendControl (reply : Reply) : Option (List Char) :=
  if 512 < String.utf8Len reply.encode then none else some reply.encode

example : (Reply.encode { Reply.diagnostic "q" "ok" with addresses := [.v4 0x0a000001#32] })
    = "\x7b\"addresses\":[\"10.0.0.1\"],\"code\":\"ok\",\"id\":\"q\",\"type\":\"diagnostic_result\"\x7d".toList := by
  decide +kernel

/-! ### Results -/

/-- The result that a request with this id waits for. -/
structure Reply.Result (reply : Reply) (expected : ResultType) (id : String) : Prop where
  type : reply.type = expected.text
  id : reply.id = id
  code : reply.code ∈ resultCodes
  few : reply.addresses.length ≤ 8
  plain : ∀ address ∈ reply.addresses, address.Plain

section Results

variable {reply : Reply} {expected : ResultType} {id : String}

theorem ResultType.text_ne_pong (expected : ResultType) : expected.text ≠ "pong" := by
  cases expected <;> decide

theorem isBare_of_labelCharacter {c : Char} (h : labelCharacter c = true) : isBare c = true := by
  simp only [labelCharacter, Bool.or_eq_true, Bool.and_eq_true, decide_eq_true_eq, beq_iff_eq] at h
  simp only [isBare, Char.isDigit, Bool.or_eq_true, Bool.and_eq_true, decide_eq_true_eq, List.mem_cons]
  rcases h with ((h | h) | h) | h
  · exact .inl (.inl (.inr h))
  · exact .inl (.inr h)
  · exact .inl (.inl (.inl h))
  · exact .inr (.inl h)

theorem isBare_of_addrChar {c : Char} (h : addrChar c = true) : isBare c = true := by
  simp only [addrChar, Bool.or_eq_true, Bool.and_eq_true, decide_eq_true_eq, beq_iff_eq] at h
  simp only [isBare, Bool.or_eq_true, Bool.and_eq_true, decide_eq_true_eq, List.mem_cons]
  rcases h with ((h | ⟨h, h'⟩) | h) | h
  · exact .inl (.inl (.inl h))
  · exact .inl (.inl (.inr ⟨h, Nat.le_trans h' (by decide)⟩))
  · exact .inr (.inr (.inr (.inl h)))
  · exact .inr (.inr (.inr (.inr (.inl h))))

/-- An id of the pattern has one byte for each of its characters. -/
theorem escapedSize_of_validControlID (hid : validControlID id = true) : escapedSize .go id ≤ 32 := by
  simp only [validControlID, Bool.and_eq_true, decide_eq_true_eq, List.all_eq_true, Bool.or_eq_true,
    beq_iff_eq] at hid
  obtain ⟨⟨-, hlength⟩, hchars⟩ := hid
  rw [escapedSize_of_isBare (fun c hc => ?_)]
  · exact hlength
  · rcases hchars c hc with hlabel | rfl
    · exact isBare_of_labelCharacter hlabel
    · rfl

theorem escapedSize_of_plain {address : Addr} (h : address.Plain) :
    escapedSize .go (String.ofList address.text) ≤ 39 := by
  rw [escapedSize_of_isBare, String.toList_ofList]
  · exact h.length_text
  · rw [String.toList_ofList]
    exact fun c hc => isBare_of_addrChar (h.addrChar c hc)

/-- Eight addresses. -/
theorem utf8Len_addresses {addresses : List Addr} (hfew : addresses.length ≤ 8)
    (hplain : ∀ address ∈ addresses, address.Plain) :
    String.utf8Len (addressMember addresses).text ≤ 338 := by
  have hsize : ∀ item ∈ (addresses.map (fun address => String.ofList address.text)).map (quote .go),
      String.utf8Len item ≤ 41 := by
    intro item hitem
    obtain ⟨text, htext, rfl⟩ := List.mem_map.mp hitem
    obtain ⟨address, haddress, rfl⟩ := List.mem_map.mp htext
    rw [utf8Len_quote]
    exact Nat.add_le_add_right (escapedSize_of_plain (hplain address haddress)) 2
  have h := utf8Len_arrayText_le hsize
  rw [List.length_map, List.length_map] at h
  exact Nat.le_trans h (by omega)

/-- The digits of an int64, with its sign. -/
theorem utf8Len_milliseconds (rtt : Nat) : String.utf8Len (toString (milliseconds rtt)).toList ≤ 20 := by
  have hlow : -2 ^ 63 ≤ milliseconds rtt := Int64.le_toInt _
  have hhigh : milliseconds rtt < 2 ^ 63 := Int64.toInt_lt _
  have hdigits : ∀ n : Nat, n < 10 ^ 19 → String.utf8Len (Nat.toDigits 10 n) ≤ 19 := by
    intro n hn
    rw [utf8Len_of_ascii]
    · exact (Nat.length_toDigits_le_iff (by decide) (by decide)).mpr hn
    · intro c hc
      have hdigit := Nat.isDigit_of_mem_toDigits (by decide) (by decide) hc
      exact toNat_lt_of_isBare (by simp [isBare, hdigit])
  generalize milliseconds rtt = z at hlow hhigh ⊢
  cases z with
  | ofNat m =>
    rw [Int.ofNat_eq_natCast] at hhigh
    rw [toList_toString_ofNat]
    exact Nat.le_trans (hdigits m (by omega)) (by decide)
  | negSucc m =>
    rw [toList_toString_negSucc, String.utf8Len_cons]
    have h := hdigits (m + 1) (by omega)
    show _ + 1 ≤ 20
    omega

/-- **The longest result.**  Whatever a name resolves to, the reply has at most 512 bytes. -/
theorem Reply.Result.size (h : reply.Result expected id) (hid : validControlID id = true) :
    String.utf8Len reply.encode ≤ 512 := by
  have hnames : escapedSize .go "addresses" = 9 ∧ escapedSize .go "code" = 4 ∧ escapedSize .go "id" = 2 ∧
      escapedSize .go "rtt_ms" = 6 ∧ escapedSize .go "type" = 4 := by decide
  have hcodes : ∀ code ∈ resultCodes, escapedSize .go code ≤ 15 := by decide
  have hcode := hcodes reply.code h.code
  have htype : escapedSize .go reply.type ≤ 17 := by
    rw [h.type]
    cases expected <;> decide
  have hident : escapedSize .go reply.id ≤ 32 := h.id ▸ escapedSize_of_validControlID hid
  have haddresses := utf8Len_addresses h.few h.plain
  -- the members before the round-trip time, whether or not there are addresses
  have hmembers : (reply.members.map (fun m => escapedSize .go m.written.1 + String.utf8Len m.written.2 + 4)).sum
      ≤ 416 := by
    unfold Reply.members
    by_cases hempty : reply.addresses = []
    · simp only [if_pos hempty, List.nil_append, List.map_cons, List.map_nil, List.sum_cons, List.sum_nil,
        Member.written, textMember, utf8Len_quote, hnames]
      omega
    · simp only [if_neg hempty, List.singleton_append, List.map_cons, List.map_nil, List.sum_cons, List.sum_nil,
        Member.written, textMember, utf8Len_quote, hnames]
      have hname : escapedSize .go (addressMember reply.addresses).name = 9 := hnames.1
      omega
  unfold Reply.encode
  rw [if_neg (h.type ▸ ResultType.text_ne_pong expected)]
  cases hrtt : reply.rtt with
  | none =>
    simp only
    rw [utf8Len_objectText (by simp [Reply.members]), List.map_append, List.map_append, List.sum_append,
      List.map_map]
    simp only [List.map_cons, List.map_nil, List.sum_cons, List.sum_nil, Member.written, textMember, utf8Len_quote,
      hnames]
    show (reply.members.map (fun m => escapedSize .go m.written.1 + String.utf8Len m.written.2 + 4)).sum + _ + 1 ≤ 512
    omega
  | some rtt =>
    have hdigits := utf8Len_milliseconds rtt
    simp only
    rw [utf8Len_objectText (by simp), List.map_append, List.sum_append, List.map_map]
    simp only [List.map_cons, List.map_nil, List.sum_cons, List.sum_nil, Member.written, textMember, utf8Len_quote,
      hnames]
    show (reply.members.map (fun m => escapedSize .go m.written.1 + String.utf8Len m.written.2 + 4)).sum + _ + 1 ≤ 512
    omega

/-- The members of a reply as the browser sees them. -/
theorem Reply.Result.isResult (h : reply.Result expected id) (hne : id ≠ "") (late : List (String × Json))
    (hlate : ∀ entry ∈ late, entry.1 = "rtt_ms") :
    ControlClient.IsResult
      (.object (reply.members.map Member.read ++ late ++ [("type", .string reply.type)])) expected id := by
  have hskip : ∀ name : String, name ≠ "rtt_ms" → ∀ rest : List (String × Json),
      (late.reverse ++ rest).lookup name = rest.lookup name := by
    intro name hname rest
    rw [List.lookup_append, List.lookup_eq_none_iff.mpr, Option.none_or]
    intro entry hentry
    rw [hlate entry (List.mem_reverse.mp hentry)]
    simpa using hname
  have hmembers : reply.members.map Member.read
      = (if reply.addresses = [] then [] else [(addressMember reply.addresses).read]) ++
        [("code", .string reply.code), ("id", .string reply.id)] := by
    unfold Reply.members
    split <;> rfl
  have hid := hskip "id" (by decide)
  have hcode := hskip "code" (by decide)
  constructor
  case named => exact hne
  case type => simp [property, h.type]
  case id => simp [property, List.lookup_cons, hmembers, hid, h.id]
  case code => exact ⟨reply.code, h.code, by simp [property, List.lookup_cons, hmembers, hcode]⟩

/-- A result is read back. -/
theorem Reply.Result.parse (h : reply.Result expected id) (hne : id ≠ "") : ∃ response,
    parseJSON reply.encode = some response ∧ ControlClient.IsResult response expected id := by
  unfold Reply.encode
  rw [if_neg (h.type ▸ ResultType.text_ne_pong expected)]
  cases hrtt : reply.rtt with
  | none =>
    refine ⟨_, (reads_object .go _).parseJSON.1, ?_⟩
    rw [List.map_append]
    have hresult := h.isResult hne [] (by simp)
    rwa [List.append_nil] at hresult
  | some rtt =>
    obtain ⟨first, before, hmembers⟩ : ∃ first before, reply.members = first :: before := by
      unfold Reply.members
      split
      · exact ⟨_, _, rfl⟩
      · exact ⟨_, _, rfl⟩
    have hresult := h.isResult hne [("rtt_ms", .number (toString (milliseconds rtt)))] (by simp)
    rw [hmembers] at hresult ⊢
    refine ⟨_, (reads_object_int .go first before "rtt_ms" (milliseconds rtt)
      (textMember .go "type" reply.type) []).parseJSON.1, ?_⟩
    rwa [List.append_assoc] at hresult

/-- **The browser resolves the request.** -/
theorem Reply.Result.received (h : reply.Result expected id) (hid : validControlID id = true)
    (isZero : String → Bool) {client : ControlClient} (hpending : client.pending.lookup id = some expected) :
    ∃ response, parseJSON reply.encode = some response ∧
      client.receive isZero reply.encode
        = ({ client with pending := client.pending.filter (fun entry => entry.1 ≠ id) }, .resolved id response) := by
  have hne : id ≠ "" := by
    rintro rfl
    cases hid
  obtain ⟨response, hparse, hresult⟩ := h.parse hne
  have hsize : utf16Length reply.encode ≤ 512 := Nat.le_trans (utf16Length_le _) (h.size hid)
  exact ⟨response, hparse, ControlClient.receive_result hsize hparse hresult hpending⟩

end Results

end WebVPN.Agent
