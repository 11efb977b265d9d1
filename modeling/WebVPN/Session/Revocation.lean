import WebVPN.Session.Statements
import WebVPN.Session.TemporaryLease

namespace WebVPN.Session

open WebVPN.Library WebVPN.Catalog WebVPN.Storage WebVPN.Storage.Store

/-!
# Session — revocation is never lost

`Lookup` reads a session, authorizes its service and renews it in separate statements, and `Create`
inserts a session some statements after it has authorized the service.  A logout may run between
any two of them.

* `exec_session`, `exec_disabled` — what one statement can do to the row of a session and to a
  service that is switched off;
* `lookup_trace` — the statements of a `Lookup` that succeeds;
* `run_revocation` — in every interleaving a revoked row stays as it is, a `Lookup` that succeeds
  has renewed the session before it was revoked, and a session inserted after its service was
  revoked is of no use.
-/

/-! ### What a statement does to a row -/

/-- What a statement can do to the row of a session. -/
inductive SessionChange (row : SessionRow) : SessionRow → Prop
  | kept : SessionChange row row
  | touched (seenAt expiresAt : Int) (hopen : row.revokedAt = none) :
      SessionChange row { row with lastSeenAt := seenAt, expiresAt := expiresAt }
  | revoked (now : Int) (hopen : row.revokedAt = none) :
      SessionChange row { row with revokedAt := some now }

theorem SessionChange.serviceID {row row' : SessionRow} (h : SessionChange row row') :
    row'.serviceID = row.serviceID := by
  cases h <;> rfl

theorem SessionChange.of_revoked {row row' : SessionRow} (h : SessionChange row row')
    (hrevoked : row.revokedAt ≠ none) : row' = row := by
  cases h with
  | kept => rfl
  | touched _ _ hopen => exact absurd hopen hrevoked
  | revoked _ hopen => exact absurd hopen hrevoked

variable {id : String}

/-- An update of the open sessions that pass a test. -/
theorem SessionChange.of_update {sessions : Table SessionRow.id} {row : SessionRow}
    (hrow : sessions.find? id = some row) {p : SessionRow → Bool} {f : SessionRow → SessionRow}
    (hf : ∀ r, (f r).id = r.id) (hchange : p row = true → SessionChange row (f row)) :
    ∃ row', (sessions.update p f hf).find? id = some row' ∧ SessionChange row row' := by
  refine ⟨if p row then f row else row, by rw [Table.find?_update, hrow, Option.map_some], ?_⟩
  by_cases hp : p row = true
  · rw [if_pos hp]
    exact hchange hp
  · rw [if_neg hp]
    exact .kept

theorem insertTemporaryService_cases (store : Store) (row : ServiceRow) :
    (∃ e, Session.insertTemporaryService store row = (store, .error e)) ∨
    ∃ h, Session.insertTemporaryService store row =
      ({ store with services := store.services.cons row h }, .ok ()) := by
  unfold Session.insertTemporaryService
  split
  · rcases insertService_cases store row with heq | ⟨h, heq⟩
    · exact .inl ⟨_, heq⟩
    · exact .inr ⟨h, heq⟩
  · exact .inl ⟨_, rfl⟩

variable (statement : Statement) (s : State) {userDigest : Digest} {serviceID : String}

/-- **One statement and one session.** -/
theorem exec_session {row : SessionRow} (hrow : s.store.sessions.find? id = some row) :
    ∃ row', (exec statement s).1.store.sessions.find? id = some row' ∧ SessionChange row row' := by
  cases statement with
  | createBrowserSession record =>
    simp only [exec, State.on]
    rcases createBrowserSession_cases s.store record with heq | ⟨hfree, -, heq⟩
    · rw [heq]
      exact ⟨row, hrow, .kept⟩
    · rw [heq]
      exact ⟨row, Table.find?_cons_of_some hrow _ hfree, .kept⟩
  | touchBrowserSession id' userDigest seenAt expiresAt =>
    refine SessionChange.of_update
      (f := fun row => { row with lastSeenAt := unix seenAt, expiresAt := unix expiresAt })
      hrow (fun _ => rfl) (fun htouch => .touched _ _ ?_)
    simp only [touchable, Bool.and_eq_true, decide_eq_true_eq] at htouch
    exact htouch.1.1.2
  | revokeBrowserSessions userDigest now =>
    refine SessionChange.of_update (f := fun row => { row with revokedAt := some (unix now) })
      hrow (fun _ => rfl) (fun hmatch => .revoked _ ?_)
    simp only [Bool.and_eq_true, decide_eq_true_eq] at hmatch
    exact hmatch.2
  | revokeBrowserSession id' userDigest now =>
    refine SessionChange.of_update (f := fun row => { row with revokedAt := some (unix now) })
      hrow (fun _ => rfl) (fun hmatch => .revoked _ ?_)
    simp only [revocable, Bool.and_eq_true, decide_eq_true_eq] at hmatch
    exact hmatch.2
  | insertService service =>
    refine ⟨row, ?_, .kept⟩
    simp only [exec, State.on]
    rcases insertService_cases s.store service with heq | ⟨_, heq⟩ <;> rw [heq] <;> exact hrow
  | insertTemporaryService service =>
    refine ⟨row, ?_, .kept⟩
    simp only [exec, State.on]
    rcases insertTemporaryService_cases s.store service with ⟨_, heq⟩ | ⟨_, heq⟩ <;> rw [heq] <;>
      exact hrow
  | _ => exact ⟨row, hrow, .kept⟩

/-- A service that is switched off. -/
def Disabled (serviceID : String) (s : State) : Prop :=
  ∃ row, s.store.services.find? serviceID = some row ∧ row.enabled = false

theorem Disabled.of_update (hdisabled : Disabled serviceID s)
    {p : ServiceRow → Bool} {f : ServiceRow → ServiceRow} (hf : ∀ r, (f r).id = r.id)
    (hkeeps : ∀ r, p r = true → r.enabled = false → (f r).enabled = false) :
    Disabled serviceID
      { s with store := { s.store with services := s.store.services.update p f hf } } := by
  obtain ⟨row, hrow, henabled⟩ := hdisabled
  refine ⟨if p row then f row else row, by rw [Table.find?_update, hrow, Option.map_some], ?_⟩
  by_cases hp : p row = true
  · rw [if_pos hp]
    exact hkeeps row hp henabled
  · rw [if_neg hp]
    exact henabled

theorem Disabled.of_cons (hdisabled : Disabled serviceID s) (row : ServiceRow)
    (hfree : s.store.services.find? row.id = none) :
    Disabled serviceID
      { s with store := { s.store with services := s.store.services.cons row hfree } } := by
  obtain ⟨old, hold, henabled⟩ := hdisabled
  exact ⟨old, Table.find?_cons_of_some hold row hfree, henabled⟩

/-- **One statement and one service.**  No statement switches a service on again. -/
theorem exec_disabled (hdisabled : Disabled serviceID s) :
    Disabled serviceID (exec statement s).1 := by
  cases statement with
  | expireTemporaryServices now => exact hdisabled.of_update s _ (fun _ _ _ => rfl)
  | renewService id owner now next => exact hdisabled.of_update s _ (fun _ _ henabled => henabled)
  | revokeTemporaryServices owner => exact hdisabled.of_update s _ (fun _ _ _ => rfl)
  | insertService row =>
    simp only [exec, State.on]
    rcases insertService_cases s.store row with heq | ⟨hfree, heq⟩
    · rw [heq]
      exact hdisabled
    · rw [heq]
      exact hdisabled.of_cons s row hfree
  | insertTemporaryService row =>
    simp only [exec, State.on]
    rcases insertTemporaryService_cases s.store row with ⟨_, heq⟩ | ⟨hfree, heq⟩
    · rw [heq]
      exact hdisabled
    · rw [heq]
      exact hdisabled.of_cons s row hfree
  | createBrowserSession record =>
    simp only [exec, State.on]
    rcases createBrowserSession_cases s.store record with heq | ⟨_, -, heq⟩ <;> rw [heq] <;>
      exact hdisabled
  | _ => exact hdisabled

/-! ### The statements of a `Lookup` -/

theorem renew_trace {now : Int} {record found : Record} {l : List ((s : Statement) × Response s)}
    (h : Program.Trace (renewProgram id userDigest now record) l (.ret (.ok found))) :
    ∃ next, ⟨.touchBrowserSession id userDigest now next, .ok ()⟩ ∈ l := by
  obtain ⟨l₁, l₂, authorized, rfl, -, h₂⟩ := Program.Trace.of_bind h
  cases authorized with
  | error e => exact absurd (Program.Trace.of_ret h₂).2 nofun
  | ok target =>
    by_cases hother : target.agentID ≠ record.agentID ∨ target.temporary ≠ record.temporary
    · simp only [if_pos hother] at h₂
      exact absurd (Program.Trace.of_ret h₂).2 nofun
    · simp only [if_neg hother] at h₂
      obtain ⟨response, l₃, rfl, h₃⟩ := Program.Trace.of_call h₂
      cases response with
      | error e => exact absurd (Program.Trace.of_ret h₃).2 nofun
      | ok _ => exact ⟨_, List.mem_append_right _ List.mem_cons_self⟩

/-- **A `Lookup` that succeeds** has found the session and renewed it. -/
theorem lookup_trace {sha256 : List UInt8 → Digest} {id token : String}
    {found : Record} {l : List ((s : Statement) × Response s)}
    (h : Program.Trace ((Call.lookup id userDigest token).program sha256) l
      (.ret (.found (.ok found)))) :
    ∃ now next record, ⟨.browserSession id userDigest now, some record⟩ ∈ l ∧
      ⟨.touchBrowserSession id userDigest now next, .ok ()⟩ ∈ l := by
  obtain ⟨l₁, l₂, outcome, rfl, h₁, h₂⟩ := Program.Trace.of_bind h
  obtain ⟨rfl, heq⟩ := Program.Trace.of_ret h₂
  cases heq
  rw [List.append_nil]
  unfold lookupProgram at h₁
  by_cases htoken : validateToken token = false
  · rw [if_pos htoken] at h₁
    exact absurd (Program.Trace.of_ret h₁).2 nofun
  rw [if_neg htoken] at h₁
  obtain ⟨now, l₂, rfl, hsession⟩ := Program.Trace.of_call h₁
  obtain ⟨response, l₃, rfl, hfound⟩ := Program.Trace.of_call hsession
  cases response with
  | none => exact absurd (Program.Trace.of_ret hfound).2 nofun
  | some record =>
    have hchecked : Program.Trace (if record.tokenDigest = hashToken sha256 token then
        renewProgram id userDigest now record else pure (.error .notFound)) l₃
        (.ret (.ok found)) := hfound
    by_cases hdigest : record.tokenDigest = hashToken sha256 token
    · rw [if_pos hdigest] at hchecked
      obtain ⟨next, hmem⟩ := renew_trace hchecked
      refine ⟨now, next, record, ?_, ?_⟩
      · exact List.mem_cons_of_mem _ List.mem_cons_self
      · exact List.mem_cons_of_mem _ (List.mem_cons_of_mem _ hmem)
    · rw [if_neg hdigest] at hchecked
      exact absurd (Program.Trace.of_ret hchecked).2 nofun

/-! ### What the statements of a `Lookup` say about the store -/

/-- The renewal succeeds only on a session that is not revoked. -/
theorem touched_open {store : Store} {seenAt expiresAt : Int}
    (h : (store.touchBrowserSession id userDigest seenAt expiresAt).2 = .ok ()) :
    ∃ row, store.sessions.find? id = some row ∧ row.revokedAt = none := by
  have honly : ∀ r, touchable id userDigest seenAt expiresAt r = true → r.id = id := by
    intro r hr
    simp only [touchable, Bool.and_eq_true, decide_eq_true_eq] at hr
    exact hr.1.1.1.1
  simp only [touchBrowserSession, Table.countP_eq _ honly] at h
  by_cases hany : (store.sessions.find? id).any (touchable id userDigest seenAt expiresAt) = true
  · obtain ⟨row, hrow, htouch⟩ := (Option.any_eq_true _ _).mp hany
    simp only [touchable, Bool.and_eq_true, decide_eq_true_eq] at htouch
    exact ⟨row, hrow, htouch.1.1.2⟩
  · rw [if_neg hany] at h
    cases h

/-- A session is found only if its service is enabled. -/
theorem browserSession_enabled {store : Store} {now : Int}
    {record : Record} (h : store.browserSession id userDigest now = some record) :
    ∃ row service, store.sessions.find? id = some row ∧
      store.services.find? row.serviceID = some service ∧ service.enabled = true := by
  unfold browserSession at h
  cases hrow : (store.sessions.find? id).filter (sessionOpen userDigest now) with
  | none => rw [hrow] at h; cases h
  | some row =>
    simp only [hrow] at h
    cases hservice : (store.services.find? row.serviceID).filter ServiceRow.enabled with
    | none => rw [hservice] at h; cases h
    | some service =>
      obtain ⟨hfind, henabled⟩ := Option.filter_eq_some_iff.mp hservice
      exact ⟨row, service, (Option.filter_eq_some_iff.mp hrow).1, hfind, henabled⟩

/-- `RevokeTemporaryServices` switches the services of the user off. -/
theorem revoked_disabled {owner : Digest} {service : ServiceRow}
    (hservice : s.store.services.find? serviceID = some service)
    (howner : service.ownerDigest = some owner) (henabled : service.enabled = true) :
    Disabled serviceID (exec (.revokeTemporaryServices owner) s).1 := by
  refine ⟨disable service, ?_, rfl⟩
  refine (find?_revokeTemporaryServices s.store owner serviceID).trans ?_
  rw [hservice, Option.map_some, if_pos ⟨howner, henabled⟩]

/-! ### Interleavings -/

/-- A session whose service is switched off. -/
def Orphaned (id serviceID : String) (s : State) : Prop :=
  Disabled serviceID s ∧ ∃ row, s.store.sessions.find? id = some row ∧ row.serviceID = serviceID

theorem exec_orphaned {id serviceID : String} (h : Orphaned id serviceID s) :
    Orphaned id serviceID (exec statement s).1 := by
  obtain ⟨hdisabled, row, hrow, hservice⟩ := h
  obtain ⟨row', hrow', hchange⟩ := exec_session statement s hrow
  exact ⟨exec_disabled statement s hdisabled, row', hrow', hchange.serviceID.trans hservice⟩

theorem Orphaned.browserSession {id serviceID : String} (h : Orphaned id serviceID s)
    (userDigest : Digest) (now : Int) : s.store.browserSession id userDigest now = none := by
  obtain ⟨⟨service, hservice, hdisabled⟩, row, hrow, hid⟩ := h
  rw [Option.eq_none_iff_forall_ne_some]
  intro record hrecord
  obtain ⟨row', service', hrow', hservice', henabled⟩ := browserSession_enabled hrecord
  cases hrow.symm.trans hrow'
  rw [hid] at hservice'
  cases hservice.symm.trans hservice'
  rw [hdisabled] at henabled
  cases henabled

section Runs

variable {sha256 : List UInt8 → Digest} {init : State}
  {later earlier h : Machine.History Response Call Answer Nat State}
  {t : Machine.Taken Response Call Answer Nat State}
  {pool : Pool Response Call Answer State}

/-- A revoked row stays as it is. -/
theorem run_revoked (hr : ((storeMachine sha256).system init).Run (later ++ t :: earlier) pool)
    {id : String} {row : SessionRow} (hrow : t.before.shared.store.sessions.find? id = some row)
    (hrevoked : row.revokedAt ≠ none) : pool.shared.store.sessions.find? id = some row := by
  refine Machine.run_stable (P := fun s => s.store.sessions.find? id = some row) ?_
    (fun _ _ hrow => hrow) hr hrow
  intro statement s hrow
  obtain ⟨row', hrow', hchange⟩ := exec_session statement s hrow
  rw [hchange.of_revoked hrevoked] at hrow'
  exact hrow'

/-- A session that exists goes on to exist. -/
theorem run_exists (hr : ((storeMachine sha256).system init).Run (later ++ t :: earlier) pool)
    {id : String} {row : SessionRow} (hrow : t.before.shared.store.sessions.find? id = some row) :
    pool.shared.store.sessions.find? id ≠ none := by
  refine Machine.run_stable (P := fun s => s.store.sessions.find? id ≠ none) ?_
    (fun _ _ hsome => hsome) hr (by rw [hrow]; exact nofun)
  intro statement s hsome
  obtain ⟨row, hrow⟩ := Option.ne_none_iff_exists'.mp hsome
  obtain ⟨row', hrow', -⟩ := exec_session statement s hrow
  rw [storeMachine, hrow']
  exact nofun

/-- A renewal that succeeds comes before the revocation. -/
theorem run_touched (hr : ((storeMachine sha256).system init).Run (later ++ t :: earlier) pool)
    {i : Nat} {id : String} {userDigest : Digest} {now next : Int}
    (ht : t.event = some (i, ⟨.touchBrowserSession id userDigest now next, .ok ()⟩)) :
    ∀ u ∈ t :: earlier, ∀ row, u.before.shared.store.sessions.find? id = some row →
      row.revokedAt = none := by
  obtain ⟨row, hrow, hopen⟩ := touched_open (Machine.run_executed hr ht)
  intro u hu old hold
  by_contra hrevoked
  have hkept : t.before.shared.store.sessions.find? id = some old := by
    rcases List.mem_cons.mp hu with rfl | hu
    · exact hold
    · obtain ⟨between, before, rfl⟩ := List.append_of_mem hu
      exact run_revoked (System.Run.split hr).1 hold hrevoked
  cases hrow.symm.trans hkept
  exact hrevoked hopen

/-- A session that was inserted after its service was switched off is never found. -/
theorem run_orphaned {later' earlier' : Machine.History Response Call Answer Nat State}
    {v : Machine.Taken Response Call Answer Nat State}
    (hr : ((storeMachine sha256).system init).Run (later ++ t :: earlier) pool)
    {k : Nat} {record : Record} (ht : t.event = some (k, ⟨.createBrowserSession record, .ok ()⟩))
    (hdisabled : Disabled record.serviceID t.before.shared)
    (heq : later ++ t :: earlier = later' ++ v :: earlier') {i : Nat} {userDigest : Digest}
    {now : Int} {found : Record} :
    v.event ≠ some (i, ⟨.browserSession record.id userDigest now, some found⟩) := by
  intro hv
  have hfound : v.before.shared.store.browserSession record.id userDigest now = some found :=
    Machine.run_executed (heq ▸ hr) hv
  have hinserted : (t.before.shared.store.createBrowserSession record).2 = .ok () :=
    Machine.run_executed hr ht
  rcases createBrowserSession_cases t.before.shared.store record with hfail | ⟨hfree, -, hcons⟩
  · rw [hfail] at hinserted
    cases hinserted
  rcases System.order heq with ⟨between, rfl⟩ | ⟨rfl, -⟩ | ⟨between, rfl⟩
  · -- found before it was inserted: then the insertion would have failed
    obtain ⟨row, _, hrow, -⟩ := browserSession_enabled hfound
    exact run_exists (System.Run.split hr).1 hrow hfree
  · rw [ht] at hv
    cases hv
  · -- found after it was inserted: but by then its service is switched off
    have horphaned : Orphaned record.id record.serviceID v.before.shared := by
      refine Machine.run_established (P := Orphaned record.id record.serviceID)
        (fun statement s => exec_orphaned statement s) (fun _ _ h => h)
        (System.Run.split (heq ▸ hr)).1 ht ⟨exec_disabled _ _ hdisabled, record.toRow, ?_, rfl⟩
      simp only [storeMachine, exec, State.on, hcons]
      rw [Table.find?_cons]
      exact if_pos rfl
    rw [horphaned.browserSession] at hfound
    cases hfound

/-- **Revocation is never lost.**  In every interleaving of the single statements of any calls: a
    row that is revoked stays exactly as it is; a `Lookup` that succeeds has executed its renewal
    when the session was not yet revoked; and a session that is inserted for a temporary service
    after the service was revoked is accepted by no `Lookup`. -/
theorem run_revocation (hr : ((storeMachine sha256).system init).Run h pool) :
    (∀ later t earlier id row, h = later ++ t :: earlier →
      t.before.shared.store.sessions.find? id = some row → row.revokedAt ≠ none →
      pool.shared.store.sessions.find? id = some row) ∧
    (∀ (i : Nat) id userDigest token found,
      pool.threads[i]? = some ⟨.lookup id userDigest token, some (.ret (.found (.ok found)))⟩ →
      ∃ later t earlier now next, h = later ++ t :: earlier ∧
        t.event = some (i, ⟨.touchBrowserSession id userDigest now next, .ok ()⟩) ∧
        ∀ u ∈ t :: earlier, ∀ row, u.before.shared.store.sessions.find? id = some row →
          row.revokedAt = none) ∧
    (∀ later t between u earlier j k owner service record,
      h = later ++ t :: (between ++ u :: earlier) →
      u.event = some (j, ⟨.revokeTemporaryServices owner, ()⟩) →
      u.before.shared.store.services.find? record.serviceID = some service →
      service.ownerDigest = some owner → service.enabled = true →
      t.event = some (k, ⟨.createBrowserSession record, .ok ()⟩) →
      ∀ (i : Nat) userDigest token found, pool.threads[i]? ≠
        some ⟨.lookup record.id userDigest token, some (.ret (.found (.ok found)))⟩) := by
  refine ⟨?_, ?_, ?_⟩
  · rintro later t earlier id row rfl hrow hrevoked
    exact run_revoked hr hrow hrevoked
  · intro i id userDigest token found hthread
    obtain ⟨now, next, _, -, hmem⟩ := lookup_trace (Machine.run_trace hr hthread)
    obtain ⟨later, t, earlier, rfl, ht⟩ := Machine.mem_executed hmem
    exact ⟨later, t, earlier, now, next, rfl, ht, run_touched hr ht⟩
  · rintro later t between u earlier j k owner service record rfl hu hservice howner henabled ht
      i userDigest token found hthread
    obtain ⟨now, _, record', hmem, -⟩ := lookup_trace (Machine.run_trace hr hthread)
    obtain ⟨later', v, earlier', heq, hv⟩ := Machine.mem_executed hmem
    have hdisabled : Disabled record.serviceID t.before.shared :=
      Machine.run_established (P := Disabled record.serviceID)
        (fun statement s => exec_disabled statement s) (fun _ _ h => h)
        (System.Run.split hr).1 hu (revoked_disabled _ hservice howner henabled)
    exact run_orphaned hr ht hdisabled heq hv

end Runs

/-! ### A logout between two statements

A user looks a session up and logs out while another of their sessions is being created: the
service is already authorized, the row not yet inserted. -/

/-- A user's calls, at the end those of a logout. -/
def logoutCalls : List Call :=
  [.createTemporary sampleOwner ⟨sampleService.agentID, "lab", "http"⟩ (Vector.replicate 16 1)
      (Vector.replicate 16 2),
    .create sampleOwner sampleService.id (Vector.replicate 16 4) (Vector.replicate 32 0),
    .lookup (randomID (Vector.replicate 16 4)) sampleOwner
      (newToken sampleHash (Vector.replicate 32 0)).1,
    .create sampleOwner sampleService.id (Vector.replicate 16 5) (Vector.replicate 32 255),
    .revokeAll sampleOwner, .revokeTemporaryServices sampleOwner]

/-- The threads in the order in which they make their statements. -/
def logoutOrder : List Nat :=
  [0, 0, 0, 1, 1, 1, 1, 1, 1, 2, 2, 2, 2, 2, 2, 3, 3, 3, 3, 4, 4, 5, 3, 3]

/-- The calls in this order. -/
def logoutSchedule : List (Machine.Action Call Nat) :=
  logoutCalls.map .start ++ logoutOrder.map .step

/-- The `Lookup` has succeeded and its session is revoked; the last session was inserted after its
    service was revoked. -/
def loggedOut (h : Machine.History Response Call Answer Nat State)
    (pool : Pool Response Call Answer State) : Bool :=
  match h, (pool.threads[2]? : Option (Thread Response Call Answer)) with
  | t :: _ :: u :: _, some ⟨.lookup id _ _, some (.ret (.found (.ok _)))⟩ =>
    (u.before.shared.store.sessions.find? id).any (fun row => row.revokedAt.isSome) &&
      match t.event, u.event with
      | some (_, ⟨.createBrowserSession record, .ok ()⟩),
          some (_, ⟨.revokeTemporaryServices owner, ()⟩) =>
        (u.before.shared.store.services.find? record.serviceID).any
          (fun service => service.ownerDigest = some owner && service.enabled)
      | _, _ => false
  | _, _ => false

theorem run_revocation_of_logout :
    ∃ h pool, ((storeMachine sampleHash).system ⟨0, ⟨sampleAgents, Table.empty, Table.empty⟩⟩).Run
      h pool ∧
    (∃ id userDigest token found row, pool.threads[2]? =
        some ⟨.lookup id userDigest token, some (.ret (.found (.ok found)))⟩ ∧
      pool.shared.store.sessions.find? id = some row ∧ row.revokedAt ≠ none ∧
      ∃ t ∈ h, ∃ now next,
        t.event = some (2, ⟨.touchBrowserSession id userDigest now next, .ok ()⟩)) ∧
    ∃ t ∈ h, ∃ k record, t.event = some (k, ⟨.createBrowserSession record, .ok ()⟩) ∧
      ∀ (i : Nat) userDigest token found, pool.threads[i]? ≠
        some ⟨.lookup record.id userDigest token, some (.ret (.found (.ok found)))⟩ := by
  obtain ⟨h, pool, hr, hc⟩ := System.exists_run_of_exec
    (S := (storeMachine sampleHash).system ⟨0, ⟨sampleAgents, Table.empty, Table.empty⟩⟩)
    (P := loggedOut) logoutSchedule (by decide +kernel)
  obtain ⟨hkept, hrenewed, horphaned⟩ := run_revocation hr
  unfold loggedOut at hc
  split at hc
  · rename_i t c u earlier id userDigest token found hthread
    rw [Bool.and_eq_true] at hc
    obtain ⟨hsession, hinserted⟩ := hc
    obtain ⟨row, hrow, hrevoked⟩ := (Option.any_eq_true _ _).mp hsession
    have hrow' := hkept [t, c] u earlier id row rfl hrow (Option.isSome_iff_ne_none.mp hrevoked)
    obtain ⟨later', t', earlier', now, next, hsplit, htouch, -⟩ := hrenewed 2 _ _ _ _ hthread
    refine ⟨_, pool, hr, ⟨id, userDigest, token, found, row, hthread, hrow',
      Option.isSome_iff_ne_none.mp hrevoked, t', by simp [hsplit], now, next, htouch⟩, ?_⟩
    split at hinserted
    · rename_i k record j owner ht hu
      obtain ⟨service, hservice, hleased⟩ := (Option.any_eq_true _ _).mp hinserted
      simp only [Bool.and_eq_true, decide_eq_true_eq] at hleased
      exact ⟨t, List.mem_cons_self, k, record, ht,
        horphaned [] t [c] u earlier j k owner service record rfl hu hservice hleased.1 hleased.2 ht⟩
    · cases hinserted
  · cases hc

end WebVPN.Session
