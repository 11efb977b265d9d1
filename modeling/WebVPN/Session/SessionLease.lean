import WebVPN.Session.TemporaryLease

namespace WebVPN.Session

open WebVPN.Library WebVPN.Catalog WebVPN.Storage WebVPN.Storage.Store

/-!
# Session — the lease of a browser session

A browser session is a lease of its own: 30 minutes after the last successful `Lookup`, two
hours in all, unless it is revoked.  `Lookup` asks three questions that live in different
statements — is the session open, does the token match, is the service still authorized —
and writes only when all three are answered.

* `sessionLease` — the lease, read off the history since the creation;
* `SessionLeased`, `run_session` — how the row stands to the lease, in every run;
* `run_session_of_find` — every row comes from a successful `Create`;
* `run_sessionLease` — when `Lookup` succeeds, and that a failing one changes no session.
-/

/-- The lease of a session, from the steps since its creation. -/
def sessionLease (record : Record) (since : History) : Lease :=
  Lease.read (unix record.createdAt) (fun t => (t.event.seenAt record.id).map unix)
    (fun t => t.event.revokes record.id record.userDigest) since

/-- How the row of a session stands to the record that `Create` returned and to the lease. -/
structure SessionLeased (record : Record) (lease : Lease) (row : SessionRow) : Prop where
  id_eq : row.id = record.id
  token : row.tokenDigest = record.tokenDigest
  user : row.userDigest = record.userDigest
  agent : row.agentID = record.agentID
  service : row.serviceID = record.serviceID
  absolute : row.absoluteExpiresAt = unix record.createdAt + 7200
  expires : row.expiresAt = lease.expiry leaseTerms
  revoked : row.revokedAt = none ↔ lease.revoked = false

section Rows

variable {record : Record} {row row' : SessionRow} {since : History}
  {t : Transition State Action Event}

theorem SessionLeased.new (target : Service) (userDigest : Digest) (id : String)
    (tokenDigest : Digest) (now : Int) :
    SessionLeased (newRecord target userDigest id tokenDigest now)
      (sessionLease (newRecord target userDigest id tokenDigest now) [])
      (newRecord target userDigest id tokenDigest now).toRow where
  id_eq := rfl
  token := rfl
  user := rfl
  agent := rfl
  service := rfl
  absolute := unix_add_absolute now
  expires := by
    have hexpiry : (sessionLease (newRecord target userDigest id tokenDigest now) []).expiry
        leaseTerms = unix now + 1800 := by
      simp [sessionLease, Lease.read, Lease.expiry, leaseTerms, newRecord]
    rw [hexpiry]
    exact unix_add_idle now
  revoked := by simp [sessionLease, Lease.read, Record.toRow]

/-- **Step lemma.** -/
theorem SessionLeased.step (h : SessionLeased record (sessionLease record since) row)
    (hstep : SessionStep t.before.clock t.event row row') :
    SessionLeased record (sessionLease record (t :: since)) row' := by
  have hid := h.id_eq
  have huser := h.user
  cases hstep with
  | keep hseen hrevokes =>
    rw [hid] at hseen hrevokes
    rw [huser] at hrevokes
    have hlease : sessionLease record (t :: since) =
        { sessionLease record since with
          revoked := t.event.revokes record.id record.userDigest ||
            (sessionLease record since).revoked } :=
      Lease.read_cons_kept _ _ _ (by rw [hseen]; rfl) since
    refine { h with expires := ?_, revoked := ?_ }
    · rw [hlease, h.expires]
      rfl
    · rw [hlease, Bool.or_eq_false_iff, ← h.revoked]
      constructor
      · intro hnone
        exact ⟨Bool.eq_false_iff.mpr (fun hrevoked => hrevokes hrevoked hnone), hnone⟩
      · exact And.right
  | touched hseen hrevokes =>
    rw [hid] at hseen hrevokes
    rw [huser] at hrevokes
    have hlease : sessionLease record (t :: since) =
        ⟨unix record.createdAt, unix t.before.clock, (sessionLease record since).revoked⟩ := by
      refine (Lease.read_cons_renewed _ _ _ (by rw [hseen]; rfl) since).trans ?_
      rw [hrevokes, Bool.false_or]
      rfl
    refine { h with expires := ?_, revoked := ?_ }
    · rw [hlease, touchRow, h.absolute]
      rfl
    · rw [hlease, ← h.revoked]
      rfl
  | revoked hseen hrevokes hnone =>
    rw [hid] at hseen hrevokes
    rw [huser] at hrevokes
    have hlease : sessionLease record (t :: since) =
        { sessionLease record since with revoked := true } := by
      refine (Lease.read_cons_kept _ _ _ (by rw [hseen]; rfl) since).trans ?_
      rw [hrevokes, Bool.true_or]
      rfl
    refine { h with expires := ?_, revoked := ?_ }
    · rw [hlease]
      exact h.expires
    · rw [hlease]
      simp [revokeRow]

/-- To whom the row is open: to its user, while the lease is in force. -/
theorem SessionLeased.sessionOpen_iff {lease : Lease} (h : SessionLeased record lease row)
    (hgranted : lease.granted = unix record.createdAt) (userDigest : Digest) (now : Int) :
    sessionOpen userDigest now row = true ↔
      userDigest = record.userDigest ∧ lease.InForce leaseTerms (unix now) := by
  simp only [sessionOpen, Bool.and_eq_true, decide_eq_true_eq]
  rw [h.user, h.revoked, h.absolute, h.expires]
  constructor
  · rintro ⟨⟨⟨huser, hrevoked⟩, hexpires⟩, -⟩
    exact ⟨huser.symm, (Lease.inForce_iff _ _ _).mpr ⟨hrevoked, hexpires⟩⟩
  · rintro ⟨huser, hforce⟩
    have habsolute := hforce.2.1
    rw [hgranted] at habsolute
    obtain ⟨hrevoked, hexpires⟩ := (Lease.inForce_iff _ _ _).mp hforce
    exact ⟨⟨⟨huser.symm, hrevoked⟩, hexpires⟩, habsolute⟩

end Rows

/-! ### Runs -/

section Runs

variable {sha256 : List UInt8 → Digest} {agents : Table AgentRow.id} {start : Int}
  {h since earlier : History} {t : Transition State Action Event} {s : State} {session : Created}

/-- **Run lemma.**  From its creation on, the row of a session is there and stands to the lease
    as `SessionLeased` says. -/
theorem run_session (hr : (storeSystem sha256 agents start).Run (since ++ t :: earlier) s)
    (hsession : t.event.session? = some session) :
    ∃ row, s.store.sessions.find? session.record.id = some row ∧
      SessionLeased session.record (sessionLease session.record since) row := by
  induction since generalizing s with
  | nil =>
    have hstep := storeSystem_step hr.cons_inv.2
    obtain ⟨user, serviceID, raw, rawToken, delay, target, -, -, hrecord, hfind⟩ :=
      State.step_session hstep hsession
    refine ⟨_, hfind, ?_⟩
    rw [hrecord]
    exact SessionLeased.new _ _ _ _ _
  | cons u since ih =>
    obtain ⟨hr', hstep⟩ := System.Run.cons_inv hr
    obtain ⟨row, hfind, hrow⟩ := ih hr'
    have hfind' : u.before.store.sessions.find? row.id = some row := by rw [hrow.id_eq, hfind]
    obtain ⟨row', hfind'', hrow'⟩ := (State.step_sessions (storeSystem_step hstep)).row hfind'
    refine ⟨row', ?_, hrow.step hrow'⟩
    rw [← hrow.id_eq]
    exact hfind''

/-- The service of a session is never deleted and stays with its Agent; as long as it is
    enabled, it is as temporary as it was when the session was created. -/
theorem run_session_service
    (hr : (storeSystem sha256 agents start).Run (since ++ t :: earlier) s)
    (hsession : t.event.session? = some session) :
    ∃ service, s.store.services.find? session.record.serviceID = some service ∧
      service.agentID = session.record.agentID ∧
      (service.enabled = true → service.ownerDigest.isSome = session.record.temporary) := by
  induction since generalizing s with
  | nil =>
    have hstep := storeSystem_step hr.cons_inv.2
    obtain ⟨user, serviceID, raw, rawToken, delay, target, -, htarget, hrecord, -⟩ :=
      State.step_session hstep hsession
    have hkey : target.id = serviceID := Table.key_of_find? htarget
    rw [← hkey] at htarget
    obtain ⟨target', hfind, hservice⟩ := State.step_service htarget hstep
    obtain ⟨hagent, howner⟩ := hservice.frame
    rw [hrecord]
    exact ⟨target', hfind, hagent, fun henabled => by rw [(howner henabled).2]; rfl⟩
  | cons u since ih =>
    obtain ⟨hr', hstep⟩ := System.Run.cons_inv hr
    obtain ⟨service, hfind, hagent, htemporary⟩ := ih hr'
    have hkey : service.id = session.record.serviceID := Table.key_of_find? hfind
    rw [← hkey] at hfind ⊢
    obtain ⟨service', hfind', hservice⟩ := State.step_service hfind (storeSystem_step hstep)
    obtain ⟨hagent', howner⟩ := hservice.frame
    refine ⟨service', hfind', hagent'.trans hagent, ?_⟩
    intro henabled
    rw [(howner henabled).2]
    exact htemporary (howner henabled).1

/-- Every row is the row of a session that `Create` has returned. -/
theorem run_session_of_find (hr : (storeSystem sha256 agents start).Run h s) {id : String}
    {row : SessionRow} (hfind : s.store.sessions.find? id = some row) :
    ∃ later t earlier session, h = later ++ t :: earlier ∧ t.event.session? = some session ∧
      session.record.id = id := by
  induction hr generalizing row with
  | init => cases hfind
  | @step h s s' a e hr hstep ih =>
    cases hbefore : s.store.sessions.find? id with
    | some row' =>
      obtain ⟨later, t, earlier, session, rfl, hsession⟩ := ih hbefore
      exact ⟨_ :: later, t, earlier, session, rfl, hsession⟩
    | none =>
      obtain ⟨session, hsession, hid, -⟩ :=
        (State.step_sessions (storeSystem_step hstep)).new hbefore hfind
      exact ⟨[], _, h, session, rfl, hsession, hid⟩

/-- No two sessions share an ID or a token. -/
theorem run_session_unique (hr : (storeSystem sha256 agents start).Run h s)
    {t t' : Transition State Action Event} {session session' : Created} (ht : t ∈ h) (ht' : t' ∈ h)
    (hsession : t.event.session? = some session) (hsession' : t'.event.session? = some session')
    (hsame : session.record.id = session'.record.id ∨
      session.record.tokenDigest = session'.record.tokenDigest) : session = session' := by
  induction hr with
  | init => cases ht
  | @step h s s' a e hr hstep ih =>
    -- a new session is inserted under an ID and with a token that are not in the table
    have hfresh : ∀ (u : Transition State Action Event) (old new : Created), u ∈ h →
        u.event.session? = some old → e.session? = some new → old.record.id ≠ new.record.id ∧
          old.record.tokenDigest ≠ new.record.tokenDigest := by
      intro u old new hu hold hnew
      obtain ⟨later, earlier, rfl⟩ := List.append_of_mem hu
      obtain ⟨row, hfind, hrow⟩ := run_session hr hold
      have hsessions := State.step_sessions (storeSystem_step hstep)
      cases hsessions with
      | same _ hnone => rw [hnone] at hnew; cases hnew
      | created hnone _ hfree =>
        cases hnew
        refine ⟨?_, ?_⟩
        · intro heq
          rw [heq, hnone] at hfind
          cases hfind
        · rw [← hrow.token]
          exact hfree _ _ hfind
      | seen => cases hnew
      | revoked => cases hnew
      | allRevoked => cases hnew
    rcases List.mem_cons.mp ht with rfl | ht
    · rcases List.mem_cons.mp ht' with rfl | ht'
      · exact Option.some.inj (hsession.symm.trans hsession')
      · obtain ⟨hid, htoken⟩ := hfresh t' session' session ht' hsession' hsession
        exact absurd hsame (not_or.mpr ⟨hid.symm, htoken.symm⟩)
    · rcases List.mem_cons.mp ht' with rfl | ht'
      · exact absurd hsame (not_or.mpr (hfresh t session session' ht hsession hsession'))
      · exact ih ht ht'

/-- Two records of one session: what never changes agrees. -/
structure SameSession (r r' : Record) : Prop where
  id_eq : r.id = r'.id
  token : r.tokenDigest = r'.tokenDigest
  user : r.userDigest = r'.userDigest
  agent : r.agentID = r'.agentID
  service : r.serviceID = r'.serviceID
  temporary : r.temporary = r'.temporary

/-- `Lookup` returns the session that `Create` made. -/
theorem run_lookup_record (hr : (storeSystem sha256 agents start).Run h s) {id : String}
    {userDigest : Digest} {token : String} {record : Record}
    (hok : (lookup sha256 s.store id userDigest token s.clock).2 = .ok record) :
    record.id = id ∧ record.userDigest = userDigest ∧
      ∃ t ∈ h, ∃ session, t.event.session? = some session ∧ SameSession record session.record := by
  obtain ⟨row, service, hpresents, -, rfl⟩ := lookup_eq_ok hok
  obtain ⟨later, t, earlier, session, rfl, hsession, hid⟩ := run_session_of_find hr hpresents.find_row
  obtain ⟨row', hfind', hrow⟩ := run_session hr hsession
  rw [hid, hpresents.find_row] at hfind'
  cases hfind'
  obtain ⟨service', hservice', -, htemporary⟩ := run_session_service hr hsession
  have hservice := hpresents.find_service
  rw [hrow.service, hservice'] at hservice
  cases hservice
  obtain ⟨huser, -⟩ := (hrow.sessionOpen_iff rfl userDigest s.clock).mp hpresents.is_open
  exact ⟨hrow.id_eq.trans hid, hrow.user.trans huser.symm, t, by simp, session, hsession,
    hrow.id_eq, hrow.token, hrow.user, hrow.agent, hrow.service, htemporary hpresents.enabled⟩

/-- The step is a successful `Create` for a user and a service. -/
def CreatesSession (t : Transition State Action Event) (userDigest : Digest) (serviceID : String)
    (session : Created) : Prop :=
  (∃ raw rawToken delay, t.action = .create userDigest serviceID raw rawToken delay) ∧
    t.event.session? = some session

theorem CreatesSession.record_eq {userDigest : Digest} {serviceID : String}
    (hr : (storeSystem sha256 agents start).Run (since ++ t :: earlier) s)
    (hcreates : CreatesSession t userDigest serviceID session) :
    session.record.userDigest = userDigest ∧ session.record.serviceID = serviceID := by
  obtain ⟨-, _, hstep⟩ := System.Run.split hr
  obtain ⟨⟨raw, rawToken, delay, haction⟩, hsession⟩ := hcreates
  obtain ⟨user', serviceID', raw', rawToken', delay', target, haction', htarget, hrecord, -⟩ :=
    State.step_session (storeSystem_step hstep) hsession
  rw [haction] at haction'
  cases haction'
  have hkey : target.id = serviceID := Table.key_of_find? htarget
  rw [hrecord]
  exact ⟨rfl, hkey⟩

theorem exists_createsSession (hr : (storeSystem sha256 agents start).Run (since ++ t :: earlier) s)
    (hsession : t.event.session? = some session) :
    CreatesSession t session.record.userDigest session.record.serviceID session := by
  obtain ⟨-, _, hstep⟩ := System.Run.split hr
  obtain ⟨user, serviceID, raw, rawToken, delay, target, haction, htarget, hrecord, -⟩ :=
    State.step_session (storeSystem_step hstep) hsession
  have hkey : target.id = serviceID := Table.key_of_find? htarget
  refine ⟨⟨raw, rawToken, delay, ?_⟩, hsession⟩
  rw [haction, hrecord, ← hkey]
  rfl

/-- `AuthorizedService` succeeds when the `SELECT` finds a row. -/
theorem exists_authorizedService_ok_iff (store : Store) (serviceID : String) (owner : Digest)
    (now : Int) :
    (∃ service, (store.authorizedService serviceID owner now).2 = .ok service) ↔
      (store.selectAuthorized serviceID owner now).isSome = true := by
  rw [(authorizedService_spec store serviceID owner now).1]
  cases store.selectAuthorized serviceID owner now <;> simp

/-- **The lease of a browser session.**  In every run, `Lookup` succeeds exactly when the
    session was made by a successful `Create` for the user, the token is valid and has the
    stored digest, the service is still authorized for the user, and the lease is in force; and
    a `Lookup` that fails changes no session. -/
theorem run_sessionLease (hr : (storeSystem sha256 agents start).Run h s) (id : String)
    (userDigest : Digest) (token : String) :
    ((∃ record, (lookup sha256 s.store id userDigest token s.clock).2 = .ok record) ↔
      ∃ later t earlier serviceID session, h = later ++ t :: earlier ∧
        CreatesSession t userDigest serviceID session ∧ session.record.id = id ∧
        validateToken token = true ∧ hashToken sha256 token = session.record.tokenDigest ∧
        (∃ service, (s.store.authorizedService serviceID userDigest s.clock).2 = .ok service) ∧
        (sessionLease session.record later).InForce leaseTerms (unix s.clock)) ∧
    (∀ e, (lookup sha256 s.store id userDigest token s.clock).2 = .error e →
      (lookup sha256 s.store id userDigest token s.clock).1.sessions = s.store.sessions) := by
  have hagent : ∀ row service, s.store.sessions.find? id = some row →
      s.store.services.find? row.serviceID = some service → service.agentID = row.agentID := by
    intro row service hfind hservice
    obtain ⟨later, t, earlier, session, rfl, hsession, rfl⟩ := run_session_of_find hr hfind
    obtain ⟨row', hfind', hrow⟩ := run_session hr hsession
    obtain ⟨service', hservice', hagent, -⟩ := run_session_service hr hsession
    rw [hfind] at hfind'
    cases hfind'
    rw [hrow.service, hservice'] at hservice
    cases hservice
    rw [hagent, hrow.agent]
  constructor
  · rw [lookup_ok_iff hagent]
    constructor
    · rintro ⟨htoken, row, hfind, hdigest, hopen, hselect⟩
      obtain ⟨later, t, earlier, session, rfl, hsession, rfl⟩ := run_session_of_find hr hfind
      obtain ⟨row', hfind', hrow⟩ := run_session hr hsession
      rw [hfind] at hfind'
      cases hfind'
      obtain ⟨rfl, hforce⟩ := (hrow.sessionOpen_iff rfl userDigest s.clock).mp hopen
      rw [hrow.service] at hselect
      refine ⟨later, t, earlier, _, session, rfl, exists_createsSession hr hsession, rfl, htoken, ?_,
        (exists_authorizedService_ok_iff _ _ _ _).mpr hselect, hforce⟩
      rw [← hdigest, hrow.token]
    · rintro ⟨later, t, earlier, serviceID, session, rfl, hcreates, rfl, htoken, hdigest, hservice,
        hforce⟩
      obtain ⟨huser, rfl⟩ := hcreates.record_eq hr
      obtain ⟨row, hfind, hrow⟩ := run_session hr hcreates.2
      refine ⟨htoken, row, hfind, by rw [hrow.token, hdigest],
        (hrow.sessionOpen_iff rfl userDigest s.clock).mpr ⟨huser.symm, hforce⟩, ?_⟩
      rw [hrow.service]
      exact (exists_authorizedService_ok_iff _ _ _ _).mp hservice
  · intro e herror
    rcases lookup_sessions sha256 s.store id userDigest token s.clock with
      ⟨_, -, hsame⟩ | ⟨record, _, hok, -⟩
    · exact hsame
    · rw [hok] at herror
      cases herror

end Runs

/-! ### A session that is looked up once

A user opens a session for their temporary service and comes back after ten minutes.
-/

/-- A session that is used again after ten minutes. -/
def returningVisit : List Action :=
  [.createTemporary sampleOwner ⟨sampleService.agentID, "lab", "http"⟩ (Vector.replicate 16 1)
      (Vector.replicate 16 2),
    .create sampleOwner sampleService.id (Vector.replicate 16 4) (Vector.replicate 32 3) 0,
    .advance (600 * 10 ^ 9),
    .lookup (randomID (Vector.replicate 16 4)) sampleOwner
      (newToken (fun _ => Digest.zero) (Vector.replicate 32 3)).1]

theorem run_sessionLease_of_returningVisit : ∃ h s, sampleSystem.Run h s ∧
    ∃ later t earlier serviceID session, h = later ++ t :: earlier ∧
      CreatesSession t sampleOwner serviceID session ∧
      session.record.id = randomID (Vector.replicate 16 4) ∧
      (sessionLease session.record later).InForce leaseTerms (unix s.clock) := by
  obtain ⟨h, s, hr, hc⟩ := System.exists_run_of_exec (S := sampleSystem)
    (P := fun _ s => (lookup (fun _ => Digest.zero) s.store (randomID (Vector.replicate 16 4))
      sampleOwner (newToken (fun _ => Digest.zero) (Vector.replicate 32 3)).1 s.clock).2.toBool)
    returningVisit (by decide +kernel)
  have hok : ∃ record, (lookup (fun _ => Digest.zero) s.store (randomID (Vector.replicate 16 4))
      sampleOwner (newToken (fun _ => Digest.zero) (Vector.replicate 32 3)).1 s.clock).2 =
        .ok record := by
    cases heq : (lookup (fun _ => Digest.zero) s.store (randomID (Vector.replicate 16 4))
      sampleOwner (newToken (fun _ => Digest.zero) (Vector.replicate 32 3)).1 s.clock).2 with
    | error e =>
      rw [heq] at hc
      cases hc
    | ok record => exact ⟨record, rfl⟩
  obtain ⟨later, t, earlier, serviceID, session, hsplit, hcreates, hid, -, -, -, hforce⟩ :=
    (run_sessionLease hr _ _ _).1.mp hok
  exact ⟨h, s, hr, later, t, earlier, serviceID, session, hsplit, hcreates, hid, hforce⟩

end WebVPN.Session
