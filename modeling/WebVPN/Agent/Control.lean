import WebVPN.Agent.Containment
import WebVPN.Agent.Reply

namespace WebVPN.Agent

open WebVPN.Library WebVPN.Browser

/-!
# Agent — every control request is answered

A request that arrives on a control channel is answered by the handler of the message, or by the goroutine
that the handler starts.  Such a goroutine holds one of two slots until it has replied.

* `decodeControl_message`, `handleControl_request` — what the Agent reads in a request of the browser, and
  what it does with it;
* `Handled`, `Env.handleControl_handled` — what the handler makes of a message, request or not;
* `Task.Serves`, `Task.Step.serves` — what a goroutine carries from its request to its reply, and that each
  of its steps brings it closer to the reply;
* `Peer.Balanced` — the slots that are taken are those of the goroutines at work;
* `Served`, `run_served` — a goroutine since it was started: no reply while it is at work, then one;
* `run_control_answered` — the requests of every run.
-/

/-! ### Requests -/

/-- What the Agent reads in a request of the browser. -/
def requestInput (id : String) : ControlRequest → ControlInput
  | .dns name => ⟨"dns", id, name, "", 0, ""⟩
  | .ping => ⟨"diagnostic_ping", id, "", "", 0, ""⟩
  | .temporary target => ⟨"temporary_target", id, "", target.host, target.port, target.kind⟩

theorem decodeUInt16_toString (n m : UInt16) :
    decodeUInt16 (.number (toString (Int.ofNat n.toNat))) m = some n := by
  have hdigits : ∀ c ∈ Nat.toDigits 10 n.toNat, c.isDigit = true :=
    fun c hc => Nat.isDigit_of_mem_toDigits (by decide) (by decide) hc
  unfold decodeUInt16
  simp only
  rw [toList_toString_ofNat, Nat.ofDigitChars_ten_toDigits, if_pos ⟨List.all_eq_true.mpr hdigits, n.toNat_lt⟩,
    UInt16.ofNat_toNat]

/-- **The Agent reads what the browser asks for.** -/
theorem decodeControl_message (u : Unicode) (request : ControlRequest) (id : String) :
    decodeControl u (String.ofList (request.message id)).toUTF8.data.toList = some (requestInput id request) := by
  have hbytes : ∀ bytes : ByteArray, ByteArray.mk bytes.data.toList.toArray = bytes := fun _ => rfl
  rw [decodeControl, hbytes, decodeRunes_toUTF8]
  cases request with
  | dns name =>
    have hread : parseJSON (ControlRequest.message (.dns name) id) = some (.object _) :=
      (reads_object .browser [textMember .browser "type" "dns", textMember .browser "name" name,
        textMember .browser "id" id]).parseJSON.1
    rw [hread]
    simp [decodeStruct, findField, controlFields, stringField, decodeString, Member.read, textMember, requestInput]
  | ping =>
    have hread : parseJSON (ControlRequest.message .ping id) = some (.object _) :=
      (reads_object .browser [textMember .browser "type" "diagnostic_ping",
        textMember .browser "id" id]).parseJSON.1
    rw [hread]
    simp [decodeStruct, findField, controlFields, stringField, decodeString, Member.read, textMember, requestInput]
  | temporary target =>
    have hread := (reads_object_int .browser (textMember .browser "type" "temporary_target")
      [textMember .browser "host" target.host] "port" (Int.ofNat target.port.toNat)
      (textMember .browser "kind" target.kind) [textMember .browser "id" id]).parseJSON.1
    rw [toList_toString_ofNat] at hread
    have hmessage : parseJSON (ControlRequest.message (.temporary target) id) = some (.object _) := hread
    have hport := decodeUInt16_toString target.port
    rw [hmessage]
    -- the port is a literal from here on
    generalize toString (Int.ofNat target.port.toNat) = literal at hport
    simp [decodeStruct, findField, controlFields, stringField, decodeString, Member.read, textMember, requestInput,
      hport]

/-- What `handleControl` asks of a request. -/
def Env.admits (env : Env) (peer : Peer) (id : String) : ControlRequest → Bool
  | .dns name => validControlID id && validHostname env.platform name
  | .ping => validControlID id
  | .temporary target =>
    peer.temporary && validControlID id && target.host ≠ "" && target.port ≠ 0 &&
      (target.kind = "http" || target.kind = "https")

/-- The goroutine for a request: `runDiagnostic` or `prepareTemporary`. -/
def requestTask (channel : Nat) (id : String) (request : ControlRequest) : Task :=
  match request.expectedType with
  | .diagnostic => .diagnosing channel (requestInput id request)
  | .temporary => .checking channel (requestInput id request)

/-- The reply without a goroutine. -/
def requestReply (id : String) (request : ControlRequest) (code : String) : Reply :=
  match request.expectedType with
  | .diagnostic => .diagnostic id code
  | .temporary => .temporary id code

/-- **What the browser asks for is what the Agent does.**  The message that `request` sends, with its result
    still to come, closes the channel if it is longer than 512 bytes.  Otherwise it starts a goroutine with
    the id, the name and the target that were asked for, if they pass the checks and a slot is free, and
    is refused under its id if not. -/
theorem handleControl_request {env : Env} {client : ControlClient}
    (hdecoder : env.decodeControl = decodeControl env.platform.unicode) (hopen : client.isOpen = true)
    (peer : Peer) (channel : Nat) (id : String) (request : ControlRequest) :
    ∃ message, (client.request id request).2 = some message ∧
      (client.request id request).1.pending.lookup id = some request.expectedType ∧
      env.handleControl peer channel true (String.ofList message).toUTF8.data.toList =
        if 512 < String.utf8Len message then (peer.closeChannel channel, none)
        else if env.admits peer id request then
          Env.startTask peer (requestTask channel id request) (requestReply id request "busy")
        else (peer, some (requestReply id request "invalid_request")) := by
  have hrequest : client.request id request = ({ client with
      pending := (id, request.expectedType) :: client.pending.filter (fun entry => entry.1 ≠ id) },
      some (request.message id)) := if_neg (by simp [hopen])
  refine ⟨request.message id, by rw [hrequest], by simp [hrequest], ?_⟩
  unfold Env.handleControl
  rw [length_toUTF8, hdecoder, decodeControl_message]
  by_cases hsize : 512 < String.utf8Len (request.message id)
  · rw [if_pos (.inr hsize), if_pos hsize]
  rw [if_neg (by simp [hsize]), if_neg hsize]
  cases request with
  | dns name =>
    cases hid : validControlID id <;> cases hname : validHostname env.platform name <;>
      simp [requestInput, Env.admits, requestTask, requestReply, ControlRequest.expectedType, hid, hname]
  | ping =>
    cases hid : validControlID id <;>
      simp [requestInput, Env.admits, requestTask, requestReply, ControlRequest.expectedType, hid]
  | temporary target =>
    -- the handler lists what it refuses
    have hadmits : env.admits peer id (.temporary target) = true ↔
        ¬ (peer.temporary = false ∨ validControlID id = false ∨ "" ≠ "" ∨ target.host = "" ∨
          target.port = 0 ∨ (target.kind ≠ "http" ∧ target.kind ≠ "https")) := by
      simp [Env.admits, and_assoc, or_iff_not_imp_left]
    show (if "temporary_target" = "ping" then _
      else if "temporary_target" = "dns" ∨ "temporary_target" = "diagnostic_ping" then _
      else if "temporary_target" = "temporary_target" then _ else _) = _
    rw [if_neg (by decide), if_neg (by decide), if_pos rfl, ite_congr (propext hadmits) (fun _ => rfl) (fun _ => rfl),
      ite_not]
    rfl

theorem officeEnv_decodeControl : officeEnv.decodeControl = decodeControl officeEnv.platform.unicode := rfl

/-- The small Agent starts a goroutine for a name. -/
theorem handleControl_request_of_dns :
    ∃ message, (ControlClient.request ⟨true, []⟩ "q" (.dns "wiki")).2 = some message ∧
      officeEnv.handleControl (.new officeID (Vector.replicate 32 0) false) 0 true
        (String.ofList message).toUTF8.data.toList =
        Env.startTask (.new officeID (Vector.replicate 32 0) false)
          (.diagnosing 0 ⟨"dns", "q", "wiki", "", 0, ""⟩) (.diagnostic "q" "busy") := by
  have hopen : (⟨true, []⟩ : ControlClient).isOpen = true := rfl
  obtain ⟨message, hmessage, -, heq⟩ := handleControl_request officeEnv_decodeControl hopen
    (.new officeID (Vector.replicate 32 0) false) 0 "q" (.dns "wiki")
  refine ⟨message, hmessage, heq.trans ?_⟩
  obtain rfl : (ControlRequest.dns "wiki").message "q" = message := Option.some.inj hmessage
  rfl

/-- A control message that asks for something, with an id of the pattern. -/
structure ControlInput.IsRequest (input : ControlInput) : Prop where
  type : input.type = "dns" ∨ input.type = "diagnostic_ping" ∨ input.type = "temporary_target"
  id : validControlID input.id = true

/-- The type of the result of a request. -/
def ControlInput.resultType (input : ControlInput) : ResultType :=
  if input.type = "temporary_target" then .temporary else .diagnostic

variable {input : ControlInput}

/-- It is the one that the browser waits for. -/
theorem ControlInput.resultType_eq {request : ControlRequest}
    (h : request.type = input.type) : input.resultType = request.expectedType := by
  rw [ControlInput.resultType, ← h]
  cases request <;> rfl

section Results

variable {input : ControlInput} {code : String}

theorem Reply.diagnostic_result (htype : input.type ≠ "temporary_target") (hcode : code ∈ resultCodes)
    (rtt : Option Nat) :
    Reply.Result { Reply.diagnostic input.id code with rtt := rtt } input.resultType input.id where
  type := by
    rw [ControlInput.resultType, if_neg htype]
    rfl
  id := rfl
  code := hcode
  few := Nat.zero_le 8
  plain := nofun

theorem Reply.temporary_result (htype : input.type = "temporary_target") (hcode : code ∈ resultCodes) :
    (Reply.temporary input.id code).Result input.resultType input.id where
  type := by
    rw [ControlInput.resultType, if_pos htype]
    rfl
  id := rfl
  code := hcode
  few := Nat.zero_le 8
  plain := nofun

theorem diagnosticCode_mem (e : PolicyError) : diagnosticCode e ∈ resultCodes := by
  cases e <;> simp [diagnosticCode, resultCodes]

end Results

/-! ### Goroutines -/

/-- The goroutine serves a request that came on this channel. -/
def Task.Serves (channel : Nat) (input : ControlInput) : Task → Prop
  | .checking c i | .preparing c i => c = channel ∧ i = input ∧ input.type = "temporary_target"
  | .storing c id _ => c = channel ∧ id = input.id ∧ input.type = "temporary_target"
  | .diagnosing c i => c = channel ∧ i = input ∧ input.type ≠ "temporary_target"
  | .pinging c id _ => c = channel ∧ id = input.id ∧ input.type ≠ "temporary_target"
  | .replying c reply => c = channel ∧ reply.Result input.resultType input.id
  | .finished => True

/-- How many steps a goroutine takes at most. -/
def Task.remaining : Task → Nat
  | .checking _ _ => 4
  | .preparing _ _ => 3
  | .storing _ _ _ => 2
  | .diagnosing _ _ => 3
  | .pinging _ _ _ => 2
  | .replying _ _ => 1
  | .finished => 0

/-- The channel that a goroutine replies on. -/
def Task.channel? : Task → Option Nat
  | .checking channel _ | .preparing channel _ | .storing channel _ _ | .diagnosing channel _
  | .pinging channel _ _ | .replying channel _ => some channel
  | .finished => none

section Goroutines

variable {env : Env} {index channel : Nat} {peer peer' : Peer} {world : World} {task task' : Task}
  {input : ControlInput} {e : Event}

theorem Task.remaining_eq_zero : task.remaining = 0 ↔ task = .finished := by
  cases task <;> simp [Task.remaining]

theorem Task.remaining_le (task : Task) : task.remaining ≤ 4 := by
  cases task <;> simp [Task.remaining]

/-- A name resolves to addresses without zones, for no prefix contains another one. -/
theorem plain_of_resolveHost {platform : Platform} {answer : Option (List Addr)} {host : String}
    {prefixes : List Prefix} {addresses : List Addr}
    (h : resolveHost platform answer host prefixes = .ok addresses) : ∀ address ∈ addresses, address.Plain := by
  intro address hmem
  obtain ⟨p, -, hcontains⟩ := List.any_eq_true.mp ((resolveHost_checked h).2 address hmem)
  exact Prefix.contains_plain hcontains

/-- A diagnostic ends in its result, or pings first. -/
theorem Env.runDiagnostic_serves (env : Env) (peer : Peer) (htype : input.type ≠ "temporary_target")
    (answer : Option (List Addr)) :
    (env.runDiagnostic peer channel input answer).Serves channel input ∧
      0 < (env.runDiagnostic peer channel input answer).remaining ∧
      (env.runDiagnostic peer channel input answer).remaining < 3 := by
  have hreply : ∀ reply : Reply, reply.Result input.resultType input.id →
      (Task.replying channel reply).Serves channel input ∧ 0 < (Task.replying channel reply).remaining ∧
        (Task.replying channel reply).remaining < 3 :=
    fun reply hresult => ⟨⟨rfl, hresult⟩, Nat.one_pos, Nat.lt_of_sub_pos Nat.two_pos⟩
  unfold Env.runDiagnostic
  split
  · simp only
    split
    · exact hreply _ (Reply.diagnostic_result htype (diagnosticCode_mem _) none)
    · rename_i addresses hresolved
      have hplain : ∀ address ∈ addresses, address.Plain := by
        split at hresolved
        · unfold Policy.resolveTemporaryName at hresolved
          repeat' split at hresolved
          all_goals first | cases hresolved | exact plain_of_resolveHost hresolved
        · unfold Policy.resolveName at hresolved
          repeat' split at hresolved
          all_goals first | cases hresolved | exact plain_of_resolveHost hresolved
      have hresult := Reply.diagnostic_result htype (by decide : "ok" ∈ resultCodes) none
      exact hreply _ { hresult with
        few := List.length_take_le 8 addresses
        plain := fun address hmem => hplain address (List.mem_of_mem_take hmem) }
  · simp only
    split
    · exact hreply _ (Reply.diagnostic_result htype (diagnosticCode_mem _) none)
    · exact hreply _ (Reply.diagnostic_result htype (by decide) none)
    · exact ⟨⟨rfl, rfl, htype⟩, Nat.two_pos, Nat.lt_of_sub_pos Nat.one_pos⟩

/-- What one step of a goroutine does: it replies and is finished, or it goes on without a reply. -/
structure Task.Progress (index channel : Nat) (input : ControlInput) (task task' : Task) (e : Event) :
    Prop where
  serves : task'.Serves channel input
  remaining : task'.remaining < task.remaining
  reply : task' = .finished ∧ (∃ reply, e = .reply index reply ∧ task = .replying channel reply) ∨
    task' ≠ .finished ∧ ∀ q reply, e ≠ .reply q reply

/-- **One step of a goroutine.** -/
theorem Task.Step.serves (h : Task.Step env index peer world task peer' task' e)
    (hserves : task.Serves channel input) : task.Progress index channel input task' e := by
  have hon : ∀ {task task' : Task} {e : Event}, task'.Serves channel input → 0 < task'.remaining →
      task'.remaining < task.remaining → (∀ q reply, e ≠ .reply q reply) →
      task.Progress index channel input task' e := by
    intro task task' e hserves hpos hless he
    refine ⟨hserves, hless, .inr ⟨fun hfinished => ?_, he⟩⟩
    rw [Task.remaining_eq_zero.mpr hfinished] at hpos
    exact absurd hpos (by decide)
  cases h with
  | configured c i target _ =>
    obtain ⟨rfl, rfl, htype⟩ := hserves
    exact hon ⟨rfl, Reply.temporary_result htype (by decide)⟩ Nat.one_pos (by simp [Task.remaining]) nofun
  | unconfigured c i _ => exact hon hserves (by simp [Task.remaining]) (by simp [Task.remaining]) nofun
  | refused c i error _ =>
    obtain ⟨rfl, rfl, htype⟩ := hserves
    exact hon ⟨rfl, Reply.temporary_result htype (diagnosticCode_mem error)⟩ Nat.one_pos
      (by simp [Task.remaining]) nofun
  | prepared c i target _ =>
    obtain ⟨rfl, rfl, htype⟩ := hserves
    exact hon ⟨rfl, rfl, htype⟩ Nat.two_pos (by simp [Task.remaining]) nofun
  | late c id target _ _ =>
    obtain ⟨rfl, rfl, htype⟩ := hserves
    exact hon ⟨rfl, Reply.temporary_result htype (by decide)⟩ Nat.one_pos (by simp [Task.remaining]) nofun
  | stored c id target _ =>
    obtain ⟨rfl, rfl, htype⟩ := hserves
    exact hon ⟨rfl, Reply.temporary_result htype (by decide)⟩ Nat.one_pos (by simp [Task.remaining]) nofun
  | diagnosed c i =>
    obtain ⟨rfl, rfl, htype⟩ := hserves
    obtain ⟨hnext, hpos, hless⟩ := env.runDiagnostic_serves peer htype world.answer
    exact hon hnext hpos hless nofun
  | pinged c id address code rtt hcode =>
    obtain ⟨rfl, rfl, htype⟩ := hserves
    have hknown : code ∈ resultCodes := by
      rcases hcode with rfl | rfl <;> decide
    exact hon ⟨rfl, Reply.diagnostic_result htype hknown rtt⟩ Nat.one_pos (by simp [Task.remaining]) nofun
  | replied c reply _ =>
    obtain ⟨rfl, hresult⟩ := hserves
    exact ⟨trivial, Nat.one_pos, .inl ⟨rfl, reply, rfl, rfl⟩⟩
  | unsent c reply _ =>
    obtain ⟨rfl, hresult⟩ := hserves
    exact ⟨trivial, Nat.one_pos, .inl ⟨rfl, reply, rfl, rfl⟩⟩

/-- A goroutine that is not finished can take its next step, whatever the world answers. -/
theorem Env.stepTask_enabled (env : Env) (index : Nat) (peer : Peer) (world : World) (hworking : task ≠ .finished) :
    ∃ result, env.stepTask index peer world task = some result := by
  cases task with
  | finished => exact absurd rfl hworking
  | diagnosing | pinging | replying => exact ⟨_, rfl⟩
  | checking | preparing | storing =>
    unfold Env.stepTask
    simp only
    split <;> exact ⟨_, rfl⟩

end Goroutines

/-! ### The handler -/

/-- What the handler makes of a message: a request is answered at once or gets a goroutine, and only a
    request does. -/
inductive Handled (env : Env) (peer : Peer) (channel : Nat) (isString : Bool) (data : List UInt8) :
    Peer × Option Reply → Prop
  | other (result : Peer × Option Reply) (htasks : result.1.tasks = peer.tasks)
      (hnone : ∀ input, isString = true → data.length ≤ 512 → env.decodeControl data = some input →
        ¬ input.IsRequest) : Handled env peer channel isString data result
  | answered (input : ControlInput) (reply : Reply) (hdecode : env.decodeControl data = some input)
      (hresult : reply.Result input.resultType input.id) : Handled env peer channel isString data (peer, some reply)
  | started (input : ControlInput) (task : Task) (hstring : isString = true) (hsize : data.length ≤ 512)
      (hdecode : env.decodeControl data = some input) (hrequest : input.IsRequest)
      (hserves : task.Serves channel input) (hworking : task ≠ .finished) :
      Handled env peer channel isString data
        ({ peer with slots := peer.slots + 1, tasks := peer.tasks ++ [task] }, none)

theorem Env.handleControl_handled (env : Env) (peer : Peer) (channel : Nat) (isString : Bool) (data : List UInt8) :
    Handled env peer channel isString data (env.handleControl peer channel isString data) := by
  unfold Env.handleControl
  split
  · rename_i hrefused
    refine .other _ rfl (fun input hstring hsize _ _ => ?_)
    rcases hrefused with hbinary | hlarge
    · rw [hbinary] at hstring
      cases hstring
    · omega
  rename_i haccepted
  simp only [not_or, Bool.not_eq_false, Nat.not_lt] at haccepted
  obtain ⟨rfl, hsize⟩ := haccepted
  split
  · rename_i hdecode
    refine .other _ rfl (fun input _ _ hinput _ => ?_)
    rw [hdecode] at hinput
    cases hinput
  rename_i input hdecode
  -- a message of another type is no request
  have hother : input.type ≠ "dns" → input.type ≠ "diagnostic_ping" → input.type ≠ "temporary_target" →
      ∀ i, true = true → data.length ≤ 512 → env.decodeControl data = some i → ¬ i.IsRequest := by
    intro hdns hping htemporary i _ _ hi hrequest
    obtain rfl := Option.some.inj (hdecode.symm.trans hi)
    rcases hrequest.type with h | h | h
    · exact hdns h
    · exact hping h
    · exact htemporary h
  split
  · rename_i htype
    have hnone := hother (by simp [htype]) (by simp [htype]) (by simp [htype])
    split <;> exact .other _ rfl hnone
  split
  · rename_i htype
    have hdiagnostic : input.type ≠ "temporary_target" := by
      rcases htype with h | h <;> simp [h]
    split
    · exact .answered input _ hdecode (Reply.diagnostic_result hdiagnostic (by decide) none)
    · rename_i hvalid
      have hid : validControlID input.id = true := by
        rw [not_or] at hvalid
        simpa using hvalid.1
      unfold Env.startTask
      split
      · exact .started input _ rfl hsize hdecode ⟨htype.imp_right .inl, hid⟩ ⟨rfl, rfl, hdiagnostic⟩ nofun
      · exact .answered input _ hdecode (Reply.diagnostic_result hdiagnostic (by decide) none)
  rename_i hdiagnostic
  rw [not_or] at hdiagnostic
  split
  · rename_i htype
    split
    · exact .answered input _ hdecode (Reply.temporary_result htype (by decide))
    · rename_i hvalid
      have hid : validControlID input.id = true := by
        rw [not_or, not_or] at hvalid
        simpa using hvalid.2.1
      unfold Env.startTask
      split
      · exact .started input _ rfl hsize hdecode ⟨.inr (.inr htype), hid⟩ ⟨rfl, rfl, htype⟩ nofun
      · exact .answered input _ hdecode (Reply.temporary_result htype (by decide))
  · rename_i htemporary
    exact .other _ rfl (hother hdiagnostic.1 hdiagnostic.2 htemporary)

/-! ### Slots -/

/-- The goroutine has not finished. -/
def Task.working (task : Task) : Bool := task ≠ .finished

/-- A slot is taken for each goroutine at work, and there are two of them. -/
structure Peer.Balanced (peer : Peer) : Prop where
  slots : peer.slots = peer.tasks.countP Task.working
  bound : peer.slots ≤ 2

section Slots

variable {env : Env} {index : Nat} {peer peer' : Peer} {a : Action} {e : Event}

/-- A goroutine gives its slot back with its last step and not before. -/
theorem Task.Step.slots {world : World} {task task' : Task}
    (h : Task.Step env index peer world task peer' task' e) :
    peer'.tasks = peer.tasks ∧ task.working = true ∧
      peer'.slots = peer.slots - (if task'.working then 0 else 1) := by
  cases h with
  | diagnosed channel input =>
    have hworking : (env.runDiagnostic peer channel input world.answer).working = true := by
      rcases env.runDiagnostic_cases peer channel input world.answer with ⟨_, _, h⟩ | ⟨_, h⟩ <;> rw [h] <;> rfl
    exact ⟨rfl, rfl, by rw [hworking]; rfl⟩
  | _ => exact ⟨rfl, rfl, rfl⟩

theorem Controlled.balanced {channel : Nat} {data : List UInt8} {reply : Option Reply}
    (h : Controlled env peer channel data (peer', reply)) (hpeer : peer.Balanced) : peer'.Balanced := by
  have hstart : ∀ task : Task, task.working = true → peer.slots < 2 →
      Peer.Balanced { peer with slots := peer.slots + 1, tasks := peer.tasks ++ [task] } := by
    intro task hworking hslot
    constructor
    · show peer.slots + 1 = (peer.tasks ++ [task]).countP Task.working
      rw [List.countP_append, List.countP_singleton, if_pos hworking, hpeer.slots]
    · exact hslot
  cases h with
  | closed => exact ⟨hpeer.slots, hpeer.bound⟩
  | answered => exact hpeer
  | diagnosing input _ hslot => exact hstart _ rfl hslot
  | checking input _ hslot _ _ => exact hstart _ rfl hslot

theorem Peer.Balanced.congr (h : peer.Balanced) (htasks : peer'.tasks = peer.tasks)
    (hslots : peer'.slots = peer.slots) : peer'.Balanced :=
  ⟨by rw [hslots, htasks, h.slots], hslots ▸ h.bound⟩

theorem Peer.Step.balanced (h : peer.Step env index a peer' e) (hpeer : peer.Balanced) : peer'.Balanced := by
  cases h with
  | controlled i channel isString data sent peer' _ hcontrol => exact hcontrol.balanced hpeer
  | answered i channel isString data sent reply _ _ =>
    cases sent <;> exact hpeer.congr rfl rfl
  | task i number world task task' peer₁ e htask hstep =>
    obtain ⟨htasks, hworking, hslots⟩ := hstep.slots
    obtain ⟨hlt, hget⟩ := List.getElem?_eq_some_iff.mp htask
    have hcount := List.countP_set (p := Task.working) (a := task') hlt
    rw [hget, if_pos hworking] at hcount
    -- the goroutine itself is at work, so that there is a slot to give back
    have hpos : 0 < peer.tasks.countP Task.working :=
      List.countP_pos_iff.mpr ⟨task, List.mem_of_getElem? htask, hworking⟩
    constructor
    · show peer₁.slots = (peer₁.tasks.set number task').countP Task.working
      rw [htasks, hcount, hslots, hpeer.slots]
      split <;> omega
    · show peer₁.slots ≤ 2
      have hbound := hpeer.bound
      omega
  | closeCalled i => exact hpeer.congr peer.callClose_unmoved.tasks peer.callClose_unmoved.slots
  | _ => exact hpeer.congr rfl rfl

/-- **Slots in every run.** -/
theorem run_balanced {h : History} {s : Runtime} (hr : env.system.Run h s) :
    ∀ (p : Nat) (peer : Peer), s.peers[p]? = some peer → peer.Balanced := by
  refine hr.invariant
    (P := fun s => ∀ (p : Nat) (peer : Peer), s.peers[p]? = some peer → peer.Balanced) ?_ ?_
  · intro p peer hpeer
    cases hpeer
  · intro s a s' e hall hs p peer' hpeer'
    cases (Env.step_cases hs).origin hpeer' with
    | new serviceID digest temporary _ _ hnew =>
      rw [hnew]
      exact ⟨rfl, Nat.zero_le 2⟩
    | unmoved peer hpeer _ hsame => exact (hall p peer hpeer).congr hsame.tasks hsame.slots
    | stepped peer hpeer _ hstep => exact hstep.balanced (hall p peer hpeer)

end Slots

/-! ### Requests and their answers in a run -/

/-- A goroutine of a peer, by its number. -/
def Runtime.task? (s : Runtime) (p number : Nat) : Option Task :=
  s.peers[p]?.bind (fun peer => peer.tasks[number]?)

/-- The number of goroutines that a peer has started. -/
def Runtime.started (s : Runtime) (p : Nat) : Nat :=
  (s.peers[p]?.map (fun peer => peer.tasks.length)).getD 0

/-- A reply is sent. -/
def Event.isReply : Event → Bool
  | .reply _ _ => true
  | _ => false

/-- A step of this goroutine. -/
def Action.isTask (p number : Nat) : Action → Bool
  | .task q n _ => q = p ∧ n = number
  | _ => false

/-- The goroutine replies in this step. -/
def repliesFrom (p number : Nat) (u : Transition Runtime Action Event) : Bool :=
  u.action.isTask p number && u.event.isReply

section Steps

variable {env : Env} {index p number : Nat} {peer peer' : Peer} {s s' : Runtime} {a : Action} {e : Event}
  {task : Task}

theorem Action.peer?_of_isTask (h : a.isTask p number = true) : a.peer? = some p := by
  cases a with
  | task q n world =>
    obtain ⟨rfl, -⟩ := of_decide_eq_true h
    rfl
  | _ => cases h

/-- A goroutine in a step of its peer. -/
theorem Peer.Step.task_next (h : peer.Step env index a peer' e) (ha : a.peer? = some index)
    (htask : peer.tasks[number]? = some task) :
    (a.isTask index number = false ∧ peer'.tasks[number]? = some task) ∨
    (a.isTask index number = true ∧ ∃ world peer₁ task', Task.Step env index peer world task peer₁ task' e ∧
      peer'.tasks[number]? = some task') := by
  have hlt : number < peer.tasks.length := (List.getElem?_eq_some_iff.mp htask).1
  cases h with
  | controlled i channel isString data sent peer' _ hcontrol =>
    refine .inl ⟨rfl, ?_⟩
    cases hcontrol with
    | closed => exact htask
    | diagnosing | checking =>
      show (peer.tasks ++ [_])[number]? = some task
      rw [List.getElem?_append_left hlt, htask]
  | answered i channel isString data sent reply _ _ => cases sent <;> exact .inl ⟨rfl, htask⟩
  | task i n world current task' peer₁ e hcurrent hstep =>
    obtain rfl : i = index := Option.some.inj ha
    have htasks := hstep.slots.1
    by_cases hn : n = number
    · subst hn
      obtain rfl := Option.some.inj (hcurrent.symm.trans htask)
      refine .inr ⟨decide_eq_true ⟨rfl, rfl⟩, world, peer₁, task', hstep, ?_⟩
      show (peer₁.tasks.set n task')[n]? = some task'
      rw [htasks, List.getElem?_set_self hlt]
    · refine .inl ⟨decide_eq_false (fun h => hn h.2), ?_⟩
      show (peer₁.tasks.set n task')[number]? = some task
      rw [htasks, List.getElem?_set_ne hn, htask]
  | closeCalled i =>
    refine .inl ⟨rfl, ?_⟩
    rw [peer.callClose_unmoved.tasks]
    exact htask
  | _ => exact .inl ⟨rfl, htask⟩

/-- **Inversion for one goroutine.** -/
theorem Env.step_task (hs : env.step s a = some (s', e)) (htask : s.task? p number = some task) :
    (a.isTask p number = false ∧ s'.task? p number = some task) ∨
    (a.isTask p number = true ∧ ∃ peer world peer₁ task', Task.Step env p peer world task peer₁ task' e ∧
      s'.task? p number = some task') := by
  obtain ⟨peer, hpeer, hget⟩ := Option.bind_eq_some_iff.mp htask
  have hlt : p < s.peers.length := (List.getElem?_eq_some_iff.mp hpeer).1
  have hstep := Env.step_cases hs
  obtain ⟨peer', hpeer', -⟩ := hstep.next hpeer
  have htask' : s'.task? p number = peer'.tasks[number]? := by
    rw [Runtime.task?, hpeer', Option.bind_some]
  rw [htask']
  cases hstep.origin hpeer' with
  | new _ _ _ hge _ _ => omega
  | unmoved current hcurrent ha hsame =>
    obtain rfl := Option.some.inj (hcurrent.symm.trans hpeer)
    refine .inl ⟨?_, by rw [hsame.tasks, hget]⟩
    rw [← Bool.not_eq_true]
    exact fun h => ha (Action.peer?_of_isTask h)
  | stepped current hcurrent ha hmove =>
    obtain rfl := Option.some.inj (hcurrent.symm.trans hpeer)
    rcases hmove.task_next ha hget with h | ⟨h, world, peer₁, task', hnext, hget'⟩
    · exact .inl h
    · exact .inr ⟨h, current, world, peer₁, task', hnext, hget'⟩

end Steps

/-- A goroutine, in terms of what has happened since it was started: it is on its way from the request to the
    reply, within four steps of its own, and has replied exactly when it is finished. -/
structure Served (p number channel : Nat) (input : ControlInput) (since : History)
    (s : Runtime) (task : Task) : Prop where
  present : s.task? p number = some task
  serves : task.Serves channel input
  steps : since.countP (fun u => u.action.isTask p number) + task.remaining ≤ 4
  count : (since.filter (repliesFrom p number)).length = if task.working then 0 else 1
  replies : ∀ u ∈ since.filter (repliesFrom p number), ∃ reply, u.event = .reply p reply ∧
    u.before.task? p number = some (.replying channel reply) ∧ reply.Result input.resultType input.id

/-- **What a step does to a goroutine.** -/
theorem Served.step {env : Env} {p number channel : Nat}
    {since : History} {s s' : Runtime} {a : Action} {e : Event} {task : Task}
    (h : Served p number channel input since s task) (hs : env.step s a = some (s', e)) :
    ∃ task', Served p number channel input (⟨s, a, e⟩ :: since) s' task' := by
  rcases Env.step_task hs h.present with ⟨ha, htask⟩ | ⟨ha, peer, world, peer₁, task', hstep, htask⟩
  · have hfilter : (⟨s, a, e⟩ :: since).filter (repliesFrom p number) = since.filter (repliesFrom p number) := by
      simp [repliesFrom, ha]
    refine ⟨task, htask, h.serves, ?_, hfilter ▸ h.count, hfilter ▸ h.replies⟩
    rw [List.countP_cons_of_neg (by simp [ha])]
    exact h.steps
  · have hprogress := hstep.serves h.serves
    have hless := hprogress.remaining
    have hsteps : (⟨s, a, e⟩ :: since).countP (fun u => u.action.isTask p number) + task'.remaining ≤ 4 := by
      rw [List.countP_cons_of_pos (by simp [ha])]
      have hbefore := h.steps
      omega
    -- it was at work before, and so has not replied yet
    have hnone : since.filter (repliesFrom p number) = [] := by
      have hcount := h.count
      rw [if_pos hstep.slots.2.1] at hcount
      exact List.eq_nil_of_length_eq_zero hcount
    rcases hprogress.reply with ⟨rfl, reply, rfl, rfl⟩ | ⟨hworking, hevent⟩
    · have hfilter : (⟨s, a, .reply p reply⟩ :: since).filter (repliesFrom p number) = [⟨s, a, .reply p reply⟩] := by
        rw [List.filter_cons_of_pos, hnone]
        simp [repliesFrom, ha, Event.isReply]
      refine ⟨.finished, htask, trivial, hsteps, by rw [hfilter]; rfl, fun u hu => ?_⟩
      rw [hfilter, List.mem_singleton] at hu
      subst hu
      exact ⟨reply, rfl, h.present, h.serves.2⟩
    · have hsilent : e.isReply = false := by
        cases e with
        | reply q reply => exact absurd rfl (hevent q reply)
        | _ => rfl
      have hfilter : (⟨s, a, e⟩ :: since).filter (repliesFrom p number) = [] := by
        rw [List.filter_cons_of_neg, hnone]
        simp [repliesFrom, hsilent]
      refine ⟨task', htask, hprogress.serves, hsteps, ?_, ?_⟩
      · rw [hfilter, if_pos (show task'.working = true from decide_eq_true hworking)]
        rfl
      · intro u hu
        rw [hfilter] at hu
        exact absurd hu List.not_mem_nil

/-- In this step the message of a request is received on an authenticated control channel. -/
structure Requested (env : Env) (t : Transition Runtime Action Event) (p channel : Nat) (input : ControlInput) :
    Prop where
  message : ∃ data sent, t.action = .message p channel true data sent ∧ data.length ≤ 512 ∧
    env.decodeControl data = some input
  control : ∃ peer, t.before.peers[p]? = some peer ∧ peer.channels[channel]? = some .control
  request : input.IsRequest

section Requests

variable {env : Env} {p channel : Nat} {input : ControlInput} {s s' : Runtime} {a : Action} {e : Event}

/-- A message on a control channel. -/
theorem Env.step_control {peer : Peer} (hpeer : s.peers[p]? = some peer)
    (hchannel : peer.channels[channel]? = some .control) {isString : Bool} {data : List UInt8} {sent : Bool}
    (hs : env.step s (.message p channel isString data sent) = some (s', e)) :
    ∃ peer' reply?, env.handleControl peer channel isString data = (peer', reply?) ∧
      ∃ peer₁, s'.peers = s.peers.set p peer₁ ∧ peer₁.tasks = peer'.tasks ∧
        (reply? = none ∧ e = .none ∨ ∃ reply, reply? = some reply ∧ e = .reply p reply) := by
  simp only [Env.step, hpeer, Env.stepPeer, Env.stepMessage, hchannel] at hs
  generalize hhandle : env.handleControl peer channel isString data = outcome at hs
  obtain ⟨peer', reply | reply⟩ := outcome
  · cases hs
    exact ⟨peer', none, rfl, peer', rfl, rfl, .inl ⟨rfl, rfl⟩⟩
  · cases hs
    refine ⟨peer', some reply, rfl, _, rfl, ?_, .inr ⟨reply, rfl, rfl⟩⟩
    split <;> rfl

theorem Runtime.started_eq {peer : Peer} (hpeer : s.peers[p]? = some peer) : s.started p = peer.tasks.length := by
  rw [Runtime.started, hpeer]
  rfl

/-- **The step of a request.**  It is answered at once, or it has a goroutine now. -/
theorem Requested.outcome {t : Transition Runtime Action Event} (h : Requested env t p channel input)
    (hs : env.step t.before t.action = some (s', t.event)) :
    (∃ reply, t.event = .reply p reply ∧ reply.Result input.resultType input.id) ∨
    t.event = .none ∧ ∃ task, task ≠ .finished ∧ Served p (t.before.started p) channel input [] s' task := by
  obtain ⟨data, sent, haction, hsize, hdecode⟩ := h.message
  obtain ⟨peer, hpeer, hchannel⟩ := h.control
  rw [haction] at hs
  obtain ⟨peer', reply?, hhandle, peer₁, hpeers, htasks, hevent⟩ := Env.step_control hpeer hchannel hs
  have hhandled := env.handleControl_handled peer channel true data
  rw [hhandle] at hhandled
  have hlt : p < t.before.peers.length := (List.getElem?_eq_some_iff.mp hpeer).1
  cases hhandled with
  | other _ _ hnone => exact absurd h.request (hnone input rfl hsize hdecode)
  | answered input' reply hdecode' hresult =>
    obtain rfl := Option.some.inj (hdecode.symm.trans hdecode')
    rcases hevent with ⟨hnone, -⟩ | ⟨reply', hreply, hevent⟩
    · cases hnone
    · obtain rfl := Option.some.inj hreply
      exact .inl ⟨reply, hevent, hresult⟩
  | started input' task _ _ hdecode' _ hserves hworking =>
    obtain rfl := Option.some.inj (hdecode.symm.trans hdecode')
    rcases hevent with ⟨-, hevent⟩ | ⟨reply', hreply, -⟩
    · refine .inr ⟨hevent, task, hworking, ?_, hserves, ?_, ?_, fun u hu => absurd hu List.not_mem_nil⟩
      · rw [Runtime.task?, hpeers, List.getElem?_set_self hlt, Option.bind_some, htasks, Runtime.started_eq hpeer]
        exact List.getElem?_concat_length
      · rw [List.countP_nil, Nat.zero_add]
        exact task.remaining_le
      · rw [Task.working, if_pos (decide_eq_true hworking)]
        rfl
    · cases hreply

end Requests

/-! ### The answers -/

/-- The steps that answer the message which peer `p` has received in step `t`: that step itself, or what has
    been done since by the goroutine that it started. -/
def answers (p : Nat) (since : History) (t : Transition Runtime Action Event) :
    History :=
  if t.event.isReply then [t] else since.filter (repliesFrom p (t.before.started p))

/-- The channel that a step sends its reply on. -/
def sendsOn (u : Transition Runtime Action Event) : Option Nat :=
  match u.action with
  | .message _ channel _ _ _ => some channel
  | .task p number _ => (u.before.task? p number).bind Task.channel?
  | _ => none

/-- What a request may expect of its reply. -/
structure Reply.Answers (reply : Reply) (input : ControlInput) : Prop where
  id : reply.id = input.id
  type : reply.type = input.resultType.text
  code : reply.code ∈ resultCodes
  size : String.utf8Len reply.encode ≤ 512
  sent : sendControl reply = some reply.encode
  /-- A client that waits for the result of the request gets it. -/
  resolves : ∀ (isZero : String → Bool) (request : ControlRequest) (client : ControlClient),
    request.type = input.type → client.pending.lookup input.id = some request.expectedType →
    ∃ response, parseJSON reply.encode = some response ∧ client.receive isZero reply.encode
      = ({ client with pending := client.pending.filter (fun entry => entry.1 ≠ input.id) },
        .resolved input.id response)

theorem Reply.Result.answers {reply : Reply}
    (h : reply.Result input.resultType input.id) (hrequest : input.IsRequest) : reply.Answers input where
  id := h.id
  type := h.type
  code := h.code
  size := h.size hrequest.id
  sent := if_neg (Nat.not_lt.mpr (h.size hrequest.id))
  resolves isZero request client htype hpending := by
    rw [← ControlInput.resultType_eq htype] at hpending
    exact h.received hrequest.id isZero hpending

/-- A goroutine at work: it can take its next step, whatever the world answers, and has taken less than four
    steps so far. -/
structure Working (env : Env) (s : Runtime) (p number : Nat) (since : History) :
    Prop where
  enabled : ∀ world, ∃ s' e, env.step s (.task p number world) = some (s', e)
  steps : since.countP (fun u => u.action.isTask p number) < 4

section Runs

variable {env : Env} {h later earlier : History}
  {t : Transition Runtime Action Event} {s : Runtime} {p number channel : Nat} {input : ControlInput}

/-- **The time since a request.** -/
theorem run_served (hr : env.system.Run (later ++ t :: earlier) s) (hrequest : Requested env t p channel input) :
    (∃ reply, t.event = .reply p reply ∧ reply.Result input.resultType input.id) ∨
    t.event = .none ∧ ∃ task, Served p (t.before.started p) channel input later s task := by
  obtain ⟨-, s₁, hs₁⟩ := hr.split
  rcases hrequest.outcome hs₁ with hreply | ⟨hevent, -⟩
  · exact .inl hreply
  · refine .inr ⟨hevent, hr.since (P := fun since s =>
      ∃ task, Served p (t.before.started p) channel input since s task) ?_ ?_⟩
    · intro s' hs
      rcases hrequest.outcome hs with ⟨reply, hreply, -⟩ | ⟨-, task, -, hserved⟩
      · rw [hevent] at hreply
        cases hreply
      · exact ⟨task, hserved⟩
    · rintro since s a s' e ⟨task, hserved⟩ hs
      exact hserved.step hs

theorem Served.working {task : Task} (h : Served p number channel input later s task)
    (hworking : task ≠ .finished) : Working env s p number later := by
  constructor
  · intro world
    obtain ⟨peer, hpeer, hget⟩ := Option.bind_eq_some_iff.mp h.present
    obtain ⟨⟨peer', task', e⟩, hstep⟩ := env.stepTask_enabled p peer world hworking
    refine ⟨{ s with peers := s.peers.set p { peer' with tasks := peer'.tasks.set number task' } }, e, ?_⟩
    simp only [Env.step, hpeer, Env.stepPeer, hget, hstep]
  · have hpos : 0 < task.remaining := Nat.pos_of_ne_zero (fun h => hworking (Task.remaining_eq_zero.mp h))
    have hsteps := h.steps
    omega

/-- Only a message on a control channel starts a goroutine. -/
theorem Peer.Step.tasks_length {index : Nat} {peer peer' : Peer} {a : Action} {e : Event}
    (hstep : peer.Step env index a peer' e) : peer'.tasks.length = peer.tasks.length ∨
      ∃ i channel isString data sent, a = .message i channel isString data sent ∧
        peer.channels[channel]? = some .control := by
  cases hstep with
  | controlled i channel isString data sent _ hchannel _ => exact .inr ⟨i, channel, isString, data, sent, rfl, hchannel⟩
  | answered i channel isString data sent reply hchannel _ =>
    exact .inr ⟨i, channel, isString, data, sent, rfl, hchannel⟩
  | task i n world task task' peer₁ e _ htask =>
    refine .inl ?_
    show (peer₁.tasks.set n task').length = _
    rw [List.length_set, htask.slots.1]
  | closeCalled i => exact .inl (by rw [peer.callClose_unmoved.tasks])
  | _ => exact .inl rfl

/-- A goroutine that was not there before a step has been started by it, for a request. -/
theorem Env.step_starts {s' : Runtime} {a : Action} {e : Event} (hs : env.step s a = some (s', e)) {task : Task}
    (hbefore : s.task? p number = none) (htask : s'.task? p number = some task) :
    e = .none ∧ s.started p = number ∧ ∃ channel input, Requested env ⟨s, a, e⟩ p channel input := by
  obtain ⟨peer', hpeer', hget⟩ := Option.bind_eq_some_iff.mp htask
  have hnew : number < peer'.tasks.length := (List.getElem?_eq_some_iff.mp hget).1
  cases (Env.step_cases hs).origin hpeer' with
  | new _ _ _ _ _ hpeer =>
    rw [hpeer] at hget
    cases hget
  | unmoved peer hpeer _ hsame =>
    rw [Runtime.task?, hpeer, Option.bind_some, ← hsame.tasks, hget] at hbefore
    cases hbefore
  | stepped peer hpeer ha hstep =>
    rw [Runtime.task?, hpeer, Option.bind_some, List.getElem?_eq_none_iff] at hbefore
    rcases hstep.tasks_length with hlength | ⟨i, channel, isString, data, sent, rfl, hchannel⟩
    · omega
    obtain rfl : i = p := Option.some.inj ha
    obtain ⟨peer₂, reply?, hhandle, peer₁, hpeers, htasks, hevent⟩ := Env.step_control hpeer hchannel hs
    have hlt : i < s.peers.length := (List.getElem?_eq_some_iff.mp hpeer).1
    obtain rfl : peer₁ = peer' := by
      rw [hpeers, List.getElem?_set_self hlt] at hpeer'
      exact Option.some.inj hpeer'
    rw [htasks] at hnew
    have hhandled := env.handleControl_handled peer channel isString data
    rw [hhandle] at hhandled
    cases hhandled with
    | other _ hsame _ =>
      have hsame' : peer₂.tasks = peer.tasks := hsame
      rw [hsame'] at hnew
      omega
    | answered => omega
    | started input task hstring hsize hdecode hrequest _ _ =>
      have hlast : number < (peer.tasks ++ [task]).length := hnew
      rw [List.length_append, List.length_singleton] at hlast
      have hnone : e = .none := by
        rcases hevent with ⟨-, h⟩ | ⟨reply, h, -⟩
        · exact h
        · cases h
      refine ⟨hnone, by rw [Runtime.started_eq hpeer]; omega, channel, input, ?_, ⟨peer, hpeer, hchannel⟩, hrequest⟩
      rw [hstring]
      exact ⟨data, sent, rfl, hsize, hdecode⟩

/-- **Every goroutine has been started for a request.** -/
theorem run_goroutine_requested (hr : env.system.Run h s) : ∀ p number task, s.task? p number = some task →
    ∃ later t earlier channel input, h = later ++ t :: earlier ∧ Requested env t p channel input ∧
      t.event = .none ∧ t.before.started p = number := by
  refine hr.history_invariant (P := fun h s => ∀ p number task, s.task? p number = some task →
    ∃ later t earlier channel input, h = later ++ t :: earlier ∧ Requested env t p channel input ∧
      t.event = .none ∧ t.before.started p = number) ?_ ?_
  · intro p number task htask
    cases htask
  · intro h s a s' e _ hall hs p number task htask
    cases hbefore : s.task? p number with
    | some task₀ =>
      obtain ⟨later, t, earlier, channel, input, rfl, hrest⟩ := hall p number task₀ hbefore
      exact ⟨⟨s, a, e⟩ :: later, t, earlier, channel, input, rfl, hrest⟩
    | none =>
      obtain ⟨hevent, hstarted, channel, input, hrequested⟩ := Env.step_starts hs hbefore htask
      exact ⟨[], ⟨s, a, e⟩, h, channel, input, rfl, hrequested, hevent, hstarted⟩

/-- A request has one answer, or a goroutine at work on it. -/
theorem run_request_answered (hr : env.system.Run (later ++ t :: earlier) s)
    (hrequest : Requested env t p channel input) :
    (∀ u ∈ answers p later t, sendsOn u = some channel ∧
      ∃ reply, u.event = .reply p reply ∧ reply.Answers input) ∧
    ((answers p later t).length = 1 ∨
      answers p later t = [] ∧ Working env s p (t.before.started p) later) := by
  obtain ⟨data, sent, haction, -⟩ := hrequest.message
  rcases run_served hr hrequest with ⟨reply, hevent, hresult⟩ | ⟨hevent, task, hserved⟩
  · have hanswers : answers p later t = [t] := by
      rw [answers, hevent]
      rfl
    rw [hanswers]
    refine ⟨fun u hu => ?_, .inl rfl⟩
    obtain rfl := List.mem_singleton.mp hu
    exact ⟨by rw [sendsOn, haction], reply, hevent, hresult.answers hrequest.request⟩
  · have hanswers : answers p later t = later.filter (repliesFrom p (t.before.started p)) := by
      rw [answers, hevent]
      rfl
    rw [hanswers]
    constructor
    · intro u hu
      obtain ⟨reply, hreply, hbefore, hresult⟩ := hserved.replies u hu
      refine ⟨?_, reply, hreply, hresult.answers hrequest.request⟩
      -- the step is one of the goroutine, which knows its channel
      have hfrom : repliesFrom p (t.before.started p) u = true := List.of_mem_filter hu
      have htask := (Bool.and_eq_true_iff.mp hfrom).1
      unfold sendsOn
      cases haction' : u.action with
      | task q n world =>
        rw [haction'] at htask
        obtain ⟨rfl, rfl⟩ := of_decide_eq_true htask
        simp only [hbefore]
        rfl
      | _ =>
        rw [haction'] at htask
        cases htask
    · have hcount := hserved.count
      by_cases hworking : task = .finished
      · rw [hworking] at hcount
        exact .inl hcount
      · rw [if_pos (show task.working = true from decide_eq_true hworking)] at hcount
        exact .inr ⟨List.eq_nil_of_length_eq_zero hcount, hserved.working hworking⟩

/-- A reply is sent by the handler of a message or by a goroutine. -/
theorem Runtime.Step.reply_action {s' : Runtime} {a : Action} {e : Event} {reply : Reply}
    (hstep : s.Step env a s' e) (he : e = .reply p reply) :
    (∃ channel isString data sent, a = .message p channel isString data sent) ∨
    ∃ number world task, a = .task p number world ∧ s.task? p number = some task := by
  have hpeer := hstep.reply_peer he
  cases hstep with
  | stepped index peer peer' _ _ hindex hget hmove =>
    obtain rfl : index = p := Option.some.inj (hindex.symm.trans hpeer)
    cases hmove with
    | answered i channel isString data sent reply' _ _ =>
      obtain rfl : i = index := Option.some.inj hindex
      exact .inl ⟨channel, isString, data, sent, rfl⟩
    | task i n world task task' peer₁ e htask _ =>
      obtain rfl : i = index := Option.some.inj hindex
      exact .inr ⟨n, world, task, rfl, by rw [Runtime.task?, hget, Option.bind_some, htask]⟩
    | dialed => exact absurd he (dialEvent_ne_reply _ _ _ _)
    | _ => cases he
  | _ => cases he

/-- What is sent by a goroutine is the answer to the request that it was started for. -/
theorem run_reply_requested {u : Transition Runtime Action Event} (hr : env.system.Run (later ++ u :: earlier) s)
    {reply : Reply} (hevent : u.event = .reply p reply) :
    (∃ channel isString data sent, u.action = .message p channel isString data sent) ∨
    ∃ since t rest channel input, earlier = since ++ t :: rest ∧ Requested env t p channel input ∧
      answers p (later ++ u :: since) t = [u] := by
  obtain ⟨hr₁, s₁, hs₁⟩ := hr.split
  rcases (Env.step_cases hs₁).reply_action hevent with hmessage | ⟨number, world, task, haction, hpresent⟩
  · exact .inl hmessage
  obtain ⟨since, t, rest, channel, input, rfl, hrequested, hnone, hstarted⟩ :=
    run_goroutine_requested hr₁ p number task hpresent
  have hmem : u ∈ answers p (later ++ u :: since) t := by
    rw [answers, hnone, hstarted]
    refine List.mem_filter.mpr ⟨by simp, ?_⟩
    simp [repliesFrom, haction, hevent, Action.isTask, Event.isReply]
  refine .inr ⟨since, t, rest, channel, input, rfl, hrequested, ?_⟩
  -- the request has one answer, and this step is among its answers
  rw [← List.cons_append, ← List.append_assoc] at hr
  rcases (run_request_answered hr hrequested).2 with hone | ⟨hempty, -⟩
  · obtain ⟨u', hu'⟩ := List.length_eq_one_iff.mp hone
    rw [hu'] at hmem ⊢
    rw [List.mem_singleton.mp hmem]
  · rw [hempty] at hmem
    exact absurd hmem List.not_mem_nil

/-- **Every control request is answered once.**  In every run the slots that are taken are those of the
    goroutines at work, at most two; every request that was received has one answer, or a goroutine that is
    still at work on it; and whatever a goroutine has sent is the answer to its request. -/
theorem run_control_answered (hr : env.system.Run h s) :
    (∀ (p : Nat) (peer : Peer), s.peers[p]? = some peer →
      peer.slots = peer.tasks.countP Task.working ∧ peer.slots ≤ 2) ∧
    (∀ later t earlier p channel input, h = later ++ t :: earlier → Requested env t p channel input →
      (∀ u ∈ answers p later t, sendsOn u = some channel ∧
        ∃ reply, u.event = .reply p reply ∧ reply.Answers input) ∧
      ((answers p later t).length = 1 ∨
        answers p later t = [] ∧ Working env s p (t.before.started p) later)) ∧
    ∀ later u earlier p reply, h = later ++ u :: earlier → u.event = .reply p reply →
      (∃ channel isString data sent, u.action = .message p channel isString data sent) ∨
      ∃ since t rest channel input, earlier = since ++ t :: rest ∧ Requested env t p channel input ∧
        answers p (later ++ u :: since) t = [u] := by
  refine ⟨fun p peer hpeer => ?_, ?_, ?_⟩
  · have hbalanced := run_balanced hr p peer hpeer
    exact ⟨hbalanced.slots, hbalanced.bound⟩
  · rintro later t earlier p channel input rfl hrequest
    exact run_request_answered hr hrequest
  · rintro later u earlier p reply rfl hevent
    exact run_reply_requested hr hevent

end Runs

/-! The small Agent is asked for a name. -/

/-- What the browser sends for the name. -/
def askMessage : List UInt8 := (String.ofList ((ControlRequest.dns "wiki").message "q")).toUTF8.data.toList

/-- What it decodes to. -/
def askInput : ControlInput := ⟨"dns", "q", "wiki", "", 0, ""⟩

/-- The Agent with a table of the one message in place of its decoder. -/
def askEnv : Env := { officeEnv with decodeControl := fun data => if data = askMessage then some askInput else none }

theorem askEnv_decodeControl : askEnv.decodeControl askMessage = some askInput := by
  show (if askMessage = askMessage then some askInput else none) = some askInput
  exact if_pos rfl

example : officeEnv.decodeControl askMessage = askEnv.decodeControl askMessage := by
  rw [askEnv_decodeControl, officeEnv_decodeControl, askMessage, decodeControl_message]
  rfl

/-- The peer is authenticated, asks, and is answered. -/
def askSchedule : List Action :=
  let token := String.ofList (List.replicate 43 'A')
  let world : World := ⟨some [.v4 0x0a000005#32], none, officeFiles, none, true⟩
  [.offer ⟨"offer-1", officeID, officeID, token, ⟨"offer", "v=0"⟩, "", false⟩ true,
    .negotiated true, .register, .channel 0 controlLabel true,
    .message 0 0 true ("webvpn-auth-v1:" ++ token).toUTF8.data.toList true,
    .message 0 0 true askMessage true, .task 0 0 world, .task 0 0 world]

/-- The message is received on the control channel. -/
def asks (t : Transition Runtime Action Event) : Bool :=
  match t.action with
  | .message 0 0 true data _ =>
    data = askMessage ∧ t.before.peers[0]?.bind (fun peer => peer.channels[0]?) = some .control
  | _ => false

theorem requested_of_asks {t : Transition Runtime Action Event} (h : asks t = true) :
    Requested askEnv t 0 0 askInput := by
  unfold asks at h
  split at h
  · rename_i data sent haction
    obtain ⟨rfl, hcontrol⟩ := of_decide_eq_true h
    exact ⟨⟨askMessage, sent, haction, by decide +kernel, askEnv_decodeControl⟩,
      Option.bind_eq_some_iff.mp hcontrol, .inl rfl, by decide⟩
  · cases h

/-- The name resolves, and its reply is the one answer. -/
theorem run_control_answered_of_dns : ∃ h s later t earlier, askEnv.system.Run h s ∧
    h = later ++ t :: earlier ∧ Requested askEnv t 0 0 askInput ∧ (answers 0 later t).length = 1 ∧
    ∀ u ∈ answers 0 later t, sendsOn u = some 0 ∧ ∃ reply, u.event = .reply 0 reply ∧ reply.Answers askInput := by
  obtain ⟨h, s, hr, hc⟩ := System.exists_run_of_exec (S := askEnv.system)
    (P := fun h _ => System.latest (fun u => System.latest (fun v => System.latest (fun t _ =>
      asks t && decide ((answers 0 [u, v] t).length = 1)))) h) askSchedule (by decide +kernel)
  obtain ⟨u, _, rfl, hu⟩ := System.exists_of_latest hc
  obtain ⟨v, _, rfl, hv⟩ := System.exists_of_latest hu
  obtain ⟨t, earlier, rfl, ht⟩ := System.exists_of_latest hv
  obtain ⟨hasks, hone⟩ := Bool.and_eq_true_iff.mp ht
  have hrequested := requested_of_asks hasks
  have hanswered := (run_control_answered hr).2.1 [u, v] t earlier 0 0 askInput rfl hrequested
  exact ⟨_, s, [u, v], t, earlier, hr, rfl, hrequested, of_decide_eq_true hone, hanswered.1⟩

end WebVPN.Agent
