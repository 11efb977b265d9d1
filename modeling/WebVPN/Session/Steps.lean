import WebVPN.Library.Lease
import WebVPN.Session.Operations

namespace WebVPN.Session

open WebVPN.Library WebVPN.Catalog WebVPN.Storage WebVPN.Storage.Store

/-!
# Session — what a step does to a row

* `ServiceStep`, `State.step_service` — the four things that happen to the row of a service;
* `State.step_temporaryCreated`, `State.step_returns` — where a service comes from, and which
  steps return it;
* `SessionsStep`, `State.step_sessions` — what happens to the table of sessions;
* `SessionStep`, `SessionsStep.row`, `SessionsStep.new` — the same for one row of it.
-/

/-- A recorded history of the store, the latest step first. -/
abbrev History := List (Transition State Action Event)

/-- 30 minutes and two hours, in seconds. -/
def leaseTerms : Terms := ⟨1800, 7200⟩

theorem storeSystem_step {sha256 : List UInt8 → Digest} {agents : Table AgentRow.id} {start : Int}
    {s s' : State} {a : Action} {e : Event}
    (h : (storeSystem sha256 agents start).step s a = some (s', e)) : s.step sha256 a = (s', e) :=
  Option.some.inj h

/-! ### Services -/

/-- The time at which an operation got the service from `AuthorizedService`. -/
def Event.accessTo (id : String) : Event → Option Int
  | .authorized _ now outcome =>
    if outcome.toOption.map Service.id = some id then some now else none
  | .created accessed now _ => if accessed = some id then some now else none
  | .lookedUp _ accessed now _ => if accessed = some id then some now else none
  | _ => none

/-- What a step may do to the row of a service: nothing, expire it, renew it for its owner, or
    revoke it. -/
inductive ServiceStep (now : Int) (e : Event) : ServiceRow → ServiceRow → Prop
  | keep {row : ServiceRow}
      (haccess : ∀ t, e.accessTo row.id = some t → row.ownerDigest = none ∧ row.enabled = true)
      (hrevoke : ∀ owner, e = .temporariesRevoked owner → row.ownerDigest = some owner →
        row.enabled = false) : ServiceStep now e row row
  | expired {row : ServiceRow} (hdue : due now row = true) (haccess : e.accessTo row.id = none)
      (hrevoke : ∀ owner, e ≠ .temporariesRevoked owner) : ServiceStep now e row (disable row)
  | renewed {row : ServiceRow} {owner : Digest}
      (hauthorizes : authorizes owner now row = true) (howner : row.ownerDigest = some owner)
      (haccess : e.accessTo row.id = some now) : ServiceStep now e row (leaseRow owner now row)
  | revoked {row : ServiceRow} {owner : Digest} (he : e = .temporariesRevoked owner)
      (howner : row.ownerDigest = some owner) (henabled : row.enabled = true) :
      ServiceStep now e row (disable row)

/-- A step leaves the Agent alone, and a service that is still enabled its owner. -/
theorem ServiceStep.frame {now : Int} {e : Event} {row row' : ServiceRow}
    (h : ServiceStep now e row row') :
    row'.agentID = row.agentID ∧
      (row'.enabled = true → row.enabled = true ∧ row'.ownerDigest = row.ownerDigest) := by
  cases h with
  | keep => exact ⟨rfl, fun henabled => ⟨henabled, rfl⟩⟩
  | expired => exact ⟨rfl, fun henabled => by cases henabled⟩
  | renewed =>
    unfold leaseRow
    split <;> exact ⟨rfl, fun henabled => ⟨henabled, rfl⟩⟩
  | revoked => exact ⟨rfl, fun henabled => by cases henabled⟩

section ServiceSteps

variable {now : Int} {e : Event} {row : ServiceRow}

/-- A step that neither asks for the service nor revokes services, and keeps the row. -/
theorem ServiceStep.of_kept (haccess : e.accessTo row.id = none)
    (hrevoke : ∀ owner, e ≠ .temporariesRevoked owner) : ServiceStep now e row row := by
  refine .keep (fun t ht => ?_) (fun owner heq => absurd heq (hrevoke owner))
  rw [haccess] at ht
  cases ht

/-- A step that only sweeps. -/
theorem ServiceStep.of_sweep (haccess : e.accessTo row.id = none)
    (hrevoke : ∀ owner, e ≠ .temporariesRevoked owner) :
    ServiceStep now e row (expireRow now row) := by
  unfold expireRow
  by_cases hdue : due now row = true
  · rw [if_pos hdue]
    exact .expired hdue haccess hrevoke
  · rw [if_neg hdue]
    exact .of_kept haccess hrevoke

/-- `RevokeTemporaryServices`. -/
theorem ServiceStep.of_revoke (owner : Digest) :
    ServiceStep now (.temporariesRevoked owner) row
      (if row.ownerDigest = some owner ∧ row.enabled = true then disable row else row) := by
  by_cases hmatch : row.ownerDigest = some owner ∧ row.enabled = true
  · rw [if_pos hmatch]
    exact .revoked rfl hmatch.1 hmatch.2
  · rw [if_neg hmatch]
    refine .keep (fun t ht => by cases ht) ?_
    rintro owner' heq howner
    cases heq
    exact Bool.eq_false_iff.mpr (fun henabled => hmatch ⟨howner, henabled⟩)

/-- A step that asks `AuthorizedService`. -/
theorem ServiceStep.of_authorizedService {store : Store} {serviceID : String} {owner : Digest}
    (hfind : store.services.find? row.id = some row)
    (haccess : ∀ id, e.accessTo id =
      if (if (store.selectAuthorized serviceID owner now).isSome = true then some serviceID
        else none) = some id then some now else none)
    (hrevoke : ∀ owner, e ≠ .temporariesRevoked owner) :
    ServiceStep now e row
      (if row.id = serviceID then leaseRow owner now (expireRow now row)
        else expireRow now row) := by
  by_cases hid : row.id = serviceID
  · have hselect : store.selectAuthorized serviceID owner now =
        (some row).filter (authorizes owner now) := by
      rw [selectAuthorized, ← hid, hfind]
    rw [if_pos hid]
    by_cases hauthorizes : authorizes owner now row = true
    · have hsome : e.accessTo row.id = some now := by
        rw [haccess, hselect, Option.filter_some, if_pos hauthorizes, hid]
        simp
      rw [expireRow_of_authorizes hauthorizes]
      by_cases howner : row.ownerDigest = none
      · rw [leaseRow, if_neg (fun h => h.2 howner)]
        refine .keep ?_ (fun owner heq => absurd heq (hrevoke owner))
        intro _ _
        simp only [authorizes, Bool.and_eq_true] at hauthorizes
        exact ⟨howner, hauthorizes.1⟩
      · have howner' : row.ownerDigest = some owner := by
          simp only [authorizes, Bool.and_eq_true, Bool.or_eq_true, decide_eq_true_eq]
            at hauthorizes
          obtain ⟨-, hnone | ⟨⟨hsome, -⟩, -⟩⟩ := hauthorizes
          · exact absurd hnone howner
          · exact hsome
        exact .renewed hauthorizes howner' hsome
    · have hnone : e.accessTo row.id = none := by
        rw [haccess, hselect, Option.filter_some, if_neg hauthorizes]
        simp
      rw [leaseRow, authorizes_expireRow, if_neg (fun h => hauthorizes h.1)]
      exact .of_sweep hnone hrevoke
  · rw [if_neg hid]
    refine .of_sweep ?_ hrevoke
    rw [haccess, if_neg]
    intro h
    split at h
    · exact hid (Option.some.inj h).symm
    · cases h

end ServiceSteps

variable {sha256 : List UInt8 → Digest} {s s' : State} {a : Action} {e : Event}

/-- The time that passes during an operation. -/
def Action.elapsed : Action → Nat
  | .advance duration => duration
  | .create _ _ _ _ delay => delay
  | _ => 0

theorem State.step_clock (h : s.step sha256 a = (s', e)) : s'.clock = s.clock + a.elapsed := by
  cases a with
  | advance duration => cases h; rfl
  | create userDigest serviceID raw rawToken delay => cases h; rfl
  | _ => cases h; exact (Int.add_zero _).symm

theorem State.step_clock_le (h : s.step sha256 a = (s', e)) : s.clock ≤ s'.clock := by
  rw [State.step_clock h]
  exact Int.le_add_of_nonneg_right (Int.natCast_nonneg _)

section Rows

variable {row : ServiceRow} (hfind : s.store.services.find? row.id = some row)

include hfind

/-- A row is swept. -/
theorem find?_swept :
    (s.store.expireTemporaryServices s.clock).services.find? row.id = some (expireRow s.clock row) := by
  rw [find?_expireTemporaryServices, hfind, Option.map_some]

/-- `Create` of the manager adds another row, if any. -/
theorem Manager.create_find? (request : CreateRequest) (raw : Vector UInt8 16) :
    (Manager.create s.store request raw s.clock).1.services.find? row.id = some row := by
  rcases Manager.create_cases s.store request raw s.clock with ⟨err, heq⟩ | ⟨service, hnew, heq⟩ <;> rw [heq]
  · exact hfind
  · exact Table.find?_cons_of_some hfind _ hnew

/-- `CreateTemporary` sweeps, unless it fails before, and adds another row, if any. -/
theorem Manager.createTemporary_find? (owner : Digest) (request : CreateTemporaryRequest)
    (raw rawSlug : Vector UInt8 16) :
    ∃ row' ∈ [row, expireRow s.clock row],
      (Manager.createTemporary s.store owner request raw rawSlug s.clock).1.services.find? row.id =
        some row' := by
  rcases Manager.createTemporary_cases s.store owner request raw rawSlug s.clock with
    ⟨err, heq⟩ | ⟨err, heq⟩ | ⟨service, hnew, -, -, heq⟩ <;> rw [heq]
  · exact ⟨row, by simp, hfind⟩
  · exact ⟨_, by simp, find?_swept hfind⟩
  · exact ⟨_, by simp, Table.find?_cons_of_some (find?_swept hfind) _ hnew⟩

/-- A step that leaves the services as `AuthorizedService` does. -/
theorem State.step_asked (serviceID : String) (owner : Digest)
    (hservices : s'.store.services = (s.store.authorizedService serviceID owner s.clock).1.services)
    (haccess : ∀ id, e.accessTo id =
      if (if (s.store.selectAuthorized serviceID owner s.clock).isSome = true then some serviceID
        else none) = some id then some s.clock else none)
    (hrevoke : ∀ owner, e ≠ .temporariesRevoked owner) :
    ∃ row', s'.store.services.find? row.id = some row' ∧ ServiceStep s.clock e row row' := by
  refine ⟨_, ?_, ServiceStep.of_authorizedService hfind haccess hrevoke⟩
  rw [hservices, (authorizedService_spec s.store serviceID owner s.clock).2.1, hfind, Option.map_some]

/-- **Services, step by step.**  No step deletes the row of a service, and a step does one of
    four things to it. -/
theorem State.step_service (h : s.step sha256 a = (s', e)) :
    ∃ row', s'.store.services.find? row.id = some row' ∧ ServiceStep s.clock e row row' := by
  cases a with
  | advance | listServices | revoke | revokeAll =>
    cases h
    exact ⟨row, hfind, .of_kept rfl (fun _ => Event.noConfusion)⟩
  | createService request raw =>
    cases h
    exact ⟨row, Manager.create_find? hfind request raw, .of_kept rfl (fun _ => Event.noConfusion)⟩
  | createTemporary owner request raw rawSlug =>
    cases h
    obtain ⟨row', hmem, hfind'⟩ := Manager.createTemporary_find? hfind owner request raw rawSlug
    refine ⟨row', hfind', ?_⟩
    rcases List.mem_pair.mp hmem with rfl | rfl
    · exact .of_kept rfl (fun _ => Event.noConfusion)
    · exact .of_sweep rfl (fun _ => Event.noConfusion)
  | authorizedService serviceID owner =>
    cases h
    refine State.step_asked hfind serviceID owner rfl (fun id => ?_) (fun _ => Event.noConfusion)
    simp only [Event.accessTo, authorizedService_access]
  | temporaryServiceBySlug slug owner =>
    simp only [step, after] at h
    rcases temporaryServiceBySlug_cases s.store owner s.clock slug with heq | ⟨serviceID, heq⟩ <;>
      rw [heq] at h <;> cases h
    · exact ⟨_, find?_swept hfind, .of_sweep rfl (fun _ => Event.noConfusion)⟩
    · refine State.step_asked hfind serviceID owner rfl (fun id => ?_) (fun _ => Event.noConfusion)
      simp only [Event.accessTo, authorizedService_access]
  | revokeTemporaryServices owner =>
    cases h
    refine ⟨_, ?_, .of_revoke owner⟩
    simp only [find?_revokeTemporaryServices, hfind, Option.map_some]
  | create userDigest serviceID raw rawToken delay =>
    have hservices : (Session.create sha256 s.store userDigest serviceID raw rawToken s.clock
        (s.clock + delay)).1.services =
        (s.store.authorizedService serviceID userDigest s.clock).1.services := by
      rcases create_cases sha256 s.store userDigest serviceID raw rawToken s.clock
        (s.clock + delay) with ⟨err, heq⟩ | ⟨target, record, hnew, -, -, -, heq⟩ <;> rw [heq]
    cases h
    refine State.step_asked hfind serviceID userDigest hservices (fun id => ?_) (fun _ => Event.noConfusion)
    simp only [Event.accessTo, authorizedService_access]
  | lookup id userDigest token =>
    cases h
    cases hpresented : presented sha256 s.store id userDigest token s.clock with
    | none =>
      have haccess : lookupAccess sha256 s.store id userDigest token s.clock = none := by
        rw [lookupAccess, hpresented]
      refine ⟨row, ?_, .of_kept (by simp [Event.accessTo, haccess]) (fun _ => Event.noConfusion)⟩
      rw [lookup_of_not_presented hpresented]
      exact hfind
    | some record =>
      obtain ⟨session, service, hpresents, -⟩ := presented_eq_some_iff.mp hpresented
      refine State.step_asked hfind session.serviceID userDigest (lookup_services hpresents) (fun id => ?_)
        (fun _ => Event.noConfusion)
      simp only [Event.accessTo, lookupAccess_of_presents hpresents]

end Rows

/-- The event of a successful `CreateTemporary` comes with the row it inserted. -/
theorem State.step_temporaryCreated {owner : Digest} {now : Int} {service : Service}
    (h : s.step sha256 a = (s', .temporaryCreated owner now (.ok service))) :
    now = s.clock ∧ service.temporary = true ∧ service.enabled = true ∧
      s'.store.services.find? service.id = some (temporaryRow service owner s.clock) := by
  cases a with
  | createTemporary owner' request raw rawSlug =>
    simp only [step, after] at h
    rcases Manager.createTemporary_cases s.store owner' request raw rawSlug s.clock with
      ⟨err, heq⟩ | ⟨err, heq⟩ | ⟨service', hnew, htemporary, henabled, heq⟩
    · rw [heq] at h
      cases h
    · rw [heq] at h
      cases h
    · rw [heq] at h
      cases h
      refine ⟨rfl, htemporary, henabled, ?_⟩
      rw [Table.find?_cons]
      exact if_pos rfl
  | _ => cases h

/-- The services that `ListServices` returns. -/
theorem mem_listServices {store : Store} {service : Service} (h : service ∈ store.listServices) :
    ∃ row, store.services.find? service.id = some row ∧ row.enabled = true ∧
      row.ownerDigest = none := by
  simp only [Store.listServices, List.mem_mergeSort, List.mem_map, List.mem_filter,
    Bool.and_eq_true, decide_eq_true_eq] at h
  obtain ⟨row, ⟨hrow, henabled, howner⟩, rfl⟩ := h
  exact ⟨row, Table.find?_eq_some_iff.mpr ⟨hrow, rfl⟩, henabled, howner⟩

/-- Whether an operation returned the service, or a session for it. -/
def Event.returns (id : String) : Event → Bool
  | .serviceCreated (.ok service) => service.id = id
  | .temporaryCreated _ _ (.ok service) => service.id = id
  | .authorized _ _ (.ok service) => service.id = id
  | .listed services => services.any (fun service => service.id = id)
  | .created _ _ (.ok session) => session.record.serviceID = id
  | .lookedUp _ _ _ (.ok record) => record.serviceID = id
  | _ => false

/-- A service that exists is only returned by an access or, if it is persistent, in a list. -/
theorem State.step_returns (h : s.step sha256 a = (s', e)) {row : ServiceRow}
    (hfind : s.store.services.find? row.id = some row) (hreturns : e.returns row.id = true) :
    e.accessTo row.id = some s.clock ∨ (row.enabled = true ∧ row.ownerDigest = none) := by
  cases a with
  | createService request raw =>
    simp only [step, after] at h
    rcases Manager.create_cases s.store request raw s.clock with ⟨err, heq⟩ | ⟨service, hnew, heq⟩
    · rw [heq] at h
      cases h
      cases hreturns
    · rw [heq] at h
      cases h
      have hid : service.id = row.id := of_decide_eq_true hreturns
      rw [persistentRow, hid, hfind] at hnew
      cases hnew
  | createTemporary owner request raw rawSlug =>
    simp only [step, after] at h
    rcases Manager.createTemporary_cases s.store owner request raw rawSlug s.clock with
      ⟨err, heq⟩ | ⟨err, heq⟩ | ⟨service, hnew, -, -, heq⟩
    · rw [heq] at h
      cases h
      cases hreturns
    · rw [heq] at h
      cases h
      cases hreturns
    · rw [heq] at h
      cases h
      have hid : service.id = row.id := of_decide_eq_true hreturns
      rw [temporaryRow, hid, find?_expireTemporaryServices, hfind] at hnew
      cases hnew
  | authorizedService serviceID owner =>
    simp only [step, after] at h
    generalize s.store.authorizedService serviceID owner s.clock = result at h
    obtain ⟨store, outcome⟩ := result
    cases h
    cases outcome with
    | error err => cases hreturns
    | ok service => exact .inl (if_pos (congrArg some (of_decide_eq_true hreturns)))
  | temporaryServiceBySlug slug owner =>
    simp only [step, after] at h
    generalize s.store.temporaryServiceBySlug slug owner s.clock = result at h
    obtain ⟨store, outcome⟩ := result
    cases h
    cases outcome with
    | error err => cases hreturns
    | ok service => exact .inl (if_pos (congrArg some (of_decide_eq_true hreturns)))
  | listServices =>
    cases h
    obtain ⟨service, hservice, hid⟩ := List.any_eq_true.mp hreturns
    obtain ⟨row', hfind', henabled, howner⟩ := mem_listServices hservice
    rw [of_decide_eq_true hid, hfind] at hfind'
    cases hfind'
    exact .inr ⟨henabled, howner⟩
  | create userDigest serviceID raw rawToken delay =>
    simp only [step, after] at h
    rcases create_cases sha256 s.store userDigest serviceID raw rawToken s.clock
      (s.clock + delay) with ⟨err, heq⟩ | ⟨target, record, hnew, hselect, hrecord, -, heq⟩
    · rw [heq] at h
      cases h
      cases hreturns
    · rw [heq] at h
      cases h
      have hid : record.serviceID = row.id := of_decide_eq_true hreturns
      have hkey : target.id = serviceID :=
        Table.key_of_find? (Option.filter_eq_some_iff.mp hselect).1
      have hservice : serviceID = row.id := by rw [← hkey, ← hid, hrecord]; rfl
      left
      rw [hservice] at hselect
      simp [Event.accessTo, authorizedService_access, hselect, hservice]
  | lookup id userDigest token =>
    simp only [step, after] at h
    cases hpresented : presented sha256 s.store id userDigest token s.clock with
    | none =>
      rw [lookup_of_not_presented hpresented] at h
      cases h
      cases hreturns
    | some record =>
      obtain ⟨session, service, hpresents, -⟩ := presented_eq_some_iff.mp hpresented
      rw [lookup_of_presents hpresents] at h
      by_cases hauthorizes : authorizes userDigest s.clock service = true ∧
          service.agentID = session.agentID
      · rw [if_pos hauthorizes] at h
        cases h
        have hid : session.serviceID = row.id := of_decide_eq_true hreturns
        have hselect : s.store.selectAuthorized row.id userDigest s.clock = some service := by
          rw [← hid, selectAuthorized, hpresents.find_service, Option.filter_some,
            if_pos hauthorizes.1]
        left
        simp [Event.accessTo, lookupAccess_of_presents hpresents, hid, hselect]
      · rw [if_neg hauthorizes] at h
        cases h
        cases hreturns
  | _ =>
    cases h
    cases hreturns

/-! ### Sessions -/

/-- The time of a successful `Lookup`. -/
def Event.seenAt (id : String) : Event → Option Int
  | .lookedUp id' _ now (.ok _) => if id' = id then some now else none
  | _ => none

/-- Whether a session of this user was revoked, alone or with all the others. -/
def Event.revokes (id : String) (userDigest : Digest) : Event → Bool
  | .revoked id' userDigest' (.ok ()) => id' = id && userDigest' = userDigest
  | .allRevoked userDigest' => userDigest' = userDigest
  | _ => false

/-- What a step may do to the table of sessions. -/
inductive SessionsStep (now : Int) (before after : Table SessionRow.id) : Event → Prop
  | same {e : Event} (hsame : after = before) (hsession : e.session? = none)
      (hseen : ∀ id, e.seenAt id = none) (hrevokes : ∀ id user, e.revokes id user = false) :
      SessionsStep now before after e
  | created {accessed : Option String} {asked : Int} {session : Created}
      (hnew : before.find? session.record.id = none)
      (hrows : ∀ id, after.find? id =
        if session.record.id = id then some session.record.toRow else before.find? id)
      (hfree : TokenFree before session.record.tokenDigest) :
      SessionsStep now before after (.created accessed asked (.ok session))
  | seen {id : String} {accessed : Option String} {record : Record} {row : SessionRow}
      (hfind : before.find? id = some row)
      (hrows : ∀ id', after.find? id' =
        if id' = id then some (touchRow now row) else before.find? id') :
      SessionsStep now before after (.lookedUp id accessed now (.ok record))
  | revoked {id : String} {user : Digest} {outcome : Except StoreError Unit}
      (hok : outcome = .ok () ↔
        (before.find? id).any (fun row => row.userDigest = user && row.revokedAt = none) = true)
      (hrows : ∀ id', after.find? id' = (before.find? id').map (fun row =>
        if row.id = id ∧ row.userDigest = user ∧ row.revokedAt = none then revokeRow now row
        else row)) :
      SessionsStep now before after (.revoked id user outcome)
  | allRevoked {user : Digest}
      (hrows : ∀ id, after.find? id = (before.find? id).map (fun row =>
        if row.userDigest = user ∧ row.revokedAt = none then revokeRow now row else row)) :
      SessionsStep now before after (.allRevoked user)

/-- **Sessions, step by step.** -/
theorem State.step_sessions (h : s.step sha256 a = (s', e)) :
    SessionsStep s.clock s.store.sessions s'.store.sessions e := by
  have hasked : ∀ serviceID owner,
      (s.store.authorizedService serviceID owner s.clock).1.sessions = s.store.sessions :=
    fun serviceID owner => (authorizedService_spec s.store serviceID owner s.clock).2.2.1
  cases a with
  | createService request raw =>
    simp only [step, after] at h
    rcases Manager.create_cases s.store request raw s.clock with ⟨err, heq⟩ | ⟨service, hnew, heq⟩ <;>
    · rw [heq] at h
      cases h
      exact .same rfl rfl (fun _ => rfl) (fun _ _ => rfl)
  | createTemporary owner request raw rawSlug =>
    simp only [step, after] at h
    rcases Manager.createTemporary_cases s.store owner request raw rawSlug s.clock with
      ⟨err, heq⟩ | ⟨err, heq⟩ | ⟨service, hnew, -, -, heq⟩ <;>
    · rw [heq] at h
      cases h
      exact .same rfl rfl (fun _ => rfl) (fun _ _ => rfl)
  | authorizedService serviceID owner =>
    cases h
    exact .same (hasked serviceID owner) rfl (fun _ => rfl) (fun _ _ => rfl)
  | temporaryServiceBySlug slug owner =>
    simp only [step, after] at h
    rcases temporaryServiceBySlug_cases s.store owner s.clock slug with heq | ⟨serviceID, heq⟩
    · rw [heq] at h
      cases h
      exact .same rfl rfl (fun _ => rfl) (fun _ _ => rfl)
    · rw [heq] at h
      cases h
      exact .same (hasked serviceID owner) rfl (fun _ => rfl) (fun _ _ => rfl)
  | create userDigest serviceID raw rawToken delay =>
    simp only [step, after] at h
    rcases create_cases sha256 s.store userDigest serviceID raw rawToken s.clock
      (s.clock + delay) with ⟨err, heq⟩ | ⟨target, record, hnew, -, -, hfree, heq⟩
    · rw [heq] at h
      cases h
      exact .same (hasked serviceID userDigest) rfl (fun _ => rfl) (fun _ _ => rfl)
    · rw [heq] at h
      cases h
      rw [hasked] at hfree
      refine .created (by rw [hasked] at hnew; exact hnew) (fun id => ?_) hfree
      rw [Table.find?_cons, hasked]
      rfl
  | lookup id userDigest token =>
    simp only [step, after] at h
    have hlookup := lookup_sessions sha256 s.store id userDigest token s.clock
    generalize Session.lookup sha256 s.store id userDigest token s.clock = result at h hlookup
    obtain ⟨store', outcome⟩ := result
    cases h
    rcases hlookup with ⟨err, rfl, hsame⟩ | ⟨record, row, rfl, hfind, hopen, hrows⟩
    · exact .same hsame rfl (fun _ => rfl) (fun _ _ => rfl)
    · exact .seen hfind hrows
  | revoke id userDigest =>
    obtain ⟨hok, hrows⟩ := revokeBrowserSession_spec s.store s.clock id userDigest
    cases h
    exact .revoked hok hrows
  | revokeAll userDigest =>
    cases h
    exact .allRevoked (find?_revokeBrowserSessions s.store s.clock userDigest)
  | _ =>
    cases h
    exact .same rfl rfl (fun _ => rfl) (fun _ _ => rfl)

/-- What a step may do to the row of a session: nothing, renew it, or revoke it. -/
inductive SessionStep (now : Int) (e : Event) : SessionRow → SessionRow → Prop
  | keep {row : SessionRow} (hseen : e.seenAt row.id = none)
      (hrevokes : e.revokes row.id row.userDigest = true → row.revokedAt ≠ none) :
      SessionStep now e row row
  | touched {row : SessionRow} (hseen : e.seenAt row.id = some now)
      (hrevokes : e.revokes row.id row.userDigest = false) : SessionStep now e row (touchRow now row)
  | revoked {row : SessionRow} (hseen : e.seenAt row.id = none)
      (hrevokes : e.revokes row.id row.userDigest = true) (hnone : row.revokedAt = none) :
      SessionStep now e row (revokeRow now row)

variable {now : Int} {before after : Table SessionRow.id}

theorem SessionsStep.row (h : SessionsStep now before after e) {row : SessionRow}
    (hfind : before.find? row.id = some row) :
    ∃ row', after.find? row.id = some row' ∧ SessionStep now e row row' := by
  cases h with
  | same hsame _ hseen hrevokes =>
    refine ⟨row, by rw [hsame, hfind], .keep (hseen row.id) ?_⟩
    rw [hrevokes]
    exact fun h => Bool.noConfusion h
  | created hnew hrows =>
    refine ⟨row, ?_, .keep rfl (fun h => Bool.noConfusion h)⟩
    rw [hrows, if_neg, hfind]
    intro hid
    rw [hid, hfind] at hnew
    cases hnew
  | @seen id _ _ row' hfind' hrows =>
    by_cases hid : row.id = id
    · have hsame : row' = row := by
        rw [← hid, hfind] at hfind'
        exact (Option.some.inj hfind').symm
      refine ⟨touchRow now row, ?_, .touched (if_pos hid.symm) rfl⟩
      rw [hrows, if_pos hid, hsame]
    · refine ⟨row, ?_, .keep (if_neg (fun h => hid h.symm)) (fun h => Bool.noConfusion h)⟩
      rw [hrows, if_neg hid, hfind]
  | @revoked id user outcome hok hrows =>
    refine ⟨_, by rw [hrows, hfind, Option.map_some], ?_⟩
    by_cases hmatch : row.id = id ∧ row.userDigest = user ∧ row.revokedAt = none
    · obtain ⟨rfl, rfl, hnone⟩ := hmatch
      have hsucceeds : outcome = .ok () := hok.mpr (by simp [hfind, hnone])
      subst hsucceeds
      rw [if_pos ⟨rfl, rfl, hnone⟩]
      exact .revoked rfl (by simp [Event.revokes]) hnone
    · rw [if_neg hmatch]
      refine .keep rfl ?_
      intro hrevokes hnone
      cases outcome with
      | error err => cases hrevokes
      | ok =>
        simp only [Event.revokes, Bool.and_eq_true, decide_eq_true_eq] at hrevokes
        exact hmatch ⟨hrevokes.1.symm, hrevokes.2.symm, hnone⟩
  | @allRevoked user hrows =>
    refine ⟨_, by rw [hrows, hfind, Option.map_some], ?_⟩
    by_cases hmatch : row.userDigest = user ∧ row.revokedAt = none
    · rw [if_pos hmatch]
      exact .revoked rfl (decide_eq_true hmatch.1.symm) hmatch.2
    · rw [if_neg hmatch]
      refine .keep rfl ?_
      intro hrevokes hnone
      exact hmatch ⟨(of_decide_eq_true hrevokes).symm, hnone⟩

/-- A row that was not there before is the row of a session that `Create` has returned. -/
theorem SessionsStep.new (h : SessionsStep now before after e) {row : SessionRow} {id : String}
    (hfind : before.find? id = none) (hfind' : after.find? id = some row) :
    ∃ session, e.session? = some session ∧ session.record.id = id ∧ row = session.record.toRow := by
  cases h with
  | same hsame _ _ _ =>
    rw [hsame, hfind] at hfind'
    cases hfind'
  | @created _ _ session hnew hrows =>
    rw [hrows] at hfind'
    by_cases hid : session.record.id = id
    · rw [if_pos hid] at hfind'
      exact ⟨session, rfl, hid, (Option.some.inj hfind').symm⟩
    · rw [if_neg hid, hfind] at hfind'
      cases hfind'
  | @seen id' _ _ row' hfind'' hrows =>
    rw [hrows, if_neg, hfind] at hfind'
    · cases hfind'
    · rintro rfl
      rw [hfind] at hfind''
      cases hfind''
  | revoked _ hrows =>
    rw [hrows, hfind] at hfind'
    cases hfind'
  | allRevoked hrows =>
    rw [hrows, hfind] at hfind'
    cases hfind'

/-- A successful `Create`: for whom, for which row of a service, and at which time. -/
theorem State.step_session {session : Created} (h : s.step sha256 a = (s', e))
    (hsession : e.session? = some session) :
    ∃ userDigest serviceID raw rawToken delay target,
      a = .create userDigest serviceID raw rawToken delay ∧
      s.store.services.find? serviceID = some target ∧
      session.record = newRecord target.toService userDigest (randomID raw)
        (newToken sha256 rawToken).2 s'.clock ∧
      s'.store.sessions.find? session.record.id = some session.record.toRow := by
  cases a with
  | create userDigest serviceID raw rawToken delay =>
    simp only [step, after] at h
    rcases create_cases sha256 s.store userDigest serviceID raw rawToken s.clock
      (s.clock + delay) with ⟨err, heq⟩ | ⟨target, record, hnew, hselect, hrecord, -, heq⟩
    · rw [heq] at h
      cases h
      cases hsession
    · rw [heq] at h
      cases h
      cases hsession
      refine ⟨_, _, _, _, _, target, rfl, (Option.filter_eq_some_iff.mp hselect).1, hrecord, ?_⟩
      rw [Table.find?_cons]
      exact if_pos rfl
  | _ =>
    cases h
    cases hsession

/-- A successful `Lookup`. -/
theorem State.step_found {id token : String} {userDigest : Digest} {record : Record}
    (h : s.step sha256 (.lookup id userDigest token) = (s', e)) (hfound : e.found? = some record) :
    (Session.lookup sha256 s.store id userDigest token s.clock).2 = .ok record := by
  cases h
  cases houtcome : (Session.lookup sha256 s.store id userDigest token s.clock).2 with
  | error err => rw [houtcome] at hfound; cases hfound
  | ok found => rw [houtcome] at hfound; cases hfound; rfl

end WebVPN.Session
