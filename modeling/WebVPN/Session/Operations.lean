import WebVPN.Session.Service
import WebVPN.Storage.Rows

namespace WebVPN.Session

open WebVPN.Library WebVPN.Catalog WebVPN.Storage WebVPN.Storage.Store

/-!
# Session — what the operations do

One lemma for each operation of the catalog manager and of the session service: how it can
end, and which rows it leaves behind.

* `Manager.create_cases`, `Manager.createTemporary_cases` — the rows of new services;
* `create_cases` — the row of a new session;
* `Presents`, `lookup_of_presents`, `lookup_eq_ok`, `lookup_authorized_iff` — when `Lookup` succeeds;
* `lookup_ok_iff`, `lookup_sessions` — the same in terms of rows, and what `Lookup` changes.
-/

/-! ### New services -/

/-- The row that `Manager.Create` inserts. -/
def persistentRow (service : Service) (now : Int) : ServiceRow :=
  ⟨service.id, service.agentID, service.slug, service.displayName, service.kind,
    service.policyRef, true, unix now, none, none, none⟩

/-- The row that `Manager.CreateTemporary` inserts. -/
def temporaryRow (service : Service) (owner : Digest) (now : Int) : ServiceRow :=
  ⟨service.id, service.agentID, service.slug, service.displayName, service.kind,
    service.policyRef, true, unix now, some owner, some (unix now + 1800), some (unix now + 7200)⟩

theorem insertService_cases (store : Store) (row : ServiceRow) :
    store.insertService row = (store, .error .constraint) ∨
    ∃ h, store.insertService row = ({ store with services := store.services.cons row h }, .ok ()) := by
  unfold insertService
  by_cases h : store.services.find? row.id = none
  · rw [dif_pos h]
    split
    · exact .inl rfl
    · exact .inr ⟨h, rfl⟩
  · rw [dif_neg h]
    exact .inl rfl

/-- The service that `Manager.Create` asks for. -/
def persistentService (request : CreateRequest) (raw : Vector UInt8 16) : Service :=
  ⟨randomID raw, request.agentID, request.slug, request.displayName, request.kind,
    request.policyRef, true, false⟩

/-- The service that `Manager.CreateTemporary` asks for. -/
def temporaryService (request : CreateTemporaryRequest) (raw rawSlug : Vector UInt8 16) : Service :=
  ⟨randomID raw, request.agentID, randomTemporarySlug rawSlug, request.displayName, request.kind,
    "temporary", true, true⟩

/-- The outcome of an insertion, with the service that was inserted. -/
def returning (service : Service) (result : Store × Except StoreError Unit) :
    Store × Except StoreError Service :=
  (result.1, result.2.map (fun _ => service))

theorem returning_eq (service : Service) (result : Store × Except StoreError Unit) :
    (match result with
      | (store, .error e) => (store, .error e)
      | (store, .ok ()) => (store, .ok service)) = returning service result := by
  obtain ⟨store, outcome⟩ := result
  cases outcome <;> rfl

theorem Manager.create_eq (store : Store) (request : CreateRequest) (raw : Vector UInt8 16)
    (now : Int) : Manager.create store request raw now =
      match (persistentService request raw).validate with
      | .error message => (store, .error (.invalid message))
      | .ok () => returning (persistentService request raw)
          (store.insertService (persistentRow (persistentService request raw) now)) := by
  unfold Manager.create createService
  simp only
  have hservice : (⟨randomID raw, request.agentID, request.slug, request.displayName, request.kind,
    request.policyRef, true, false⟩ : Service) = persistentService request raw := rfl
  rw [hservice]
  cases (persistentService request raw).validate with
  | error message => rfl
  | ok =>
    exact returning_eq _ _

theorem Manager.create_cases (store : Store) (request : CreateRequest) (raw : Vector UInt8 16)
    (now : Int) :
    (∃ e, Manager.create store request raw now = (store, .error e)) ∨
    ∃ service h, Manager.create store request raw now =
      ({ store with services := store.services.cons (persistentRow service now) h }, .ok service) := by
  rw [Manager.create_eq]
  generalize persistentService request raw = service
  cases service.validate with
  | error message => exact .inl ⟨_, rfl⟩
  | ok =>
    rcases insertService_cases store (persistentRow service now) with heq | ⟨h, heq⟩
    · exact .inl ⟨.constraint, by rw [heq]; rfl⟩
    · exact .inr ⟨service, h, by rw [heq]; rfl⟩

theorem Manager.createTemporary_eq (store : Store) {owner : Digest} (hzero : owner ≠ Digest.zero)
    (request : CreateTemporaryRequest) (raw rawSlug : Vector UInt8 16) (now : Int) :
    Manager.createTemporary store owner request raw rawSlug now =
      match (temporaryService request raw rawSlug).validate with
      | .error message => (store, .error (.invalid message))
      | .ok () => returning (temporaryService request raw rawSlug)
          (if (store.agents.find? request.agentID).any (fun agent => agent.state = .active) then
            (store.expireTemporaryServices now).insertService
              (temporaryRow (temporaryService request raw rawSlug) owner now)
          else (store.expireTemporaryServices now, .error .notFound)) := by
  unfold Manager.createTemporary createTemporaryService
  rw [if_neg hzero]
  simp only
  have hservice : (⟨randomID raw, request.agentID, randomTemporarySlug rawSlug, request.displayName,
    request.kind, "temporary", true, true⟩ : Service) = temporaryService request raw rawSlug := rfl
  rw [hservice]
  cases (temporaryService request raw rawSlug).validate with
  | error message => rfl
  | ok =>
    -- the dates of the manager pass the check of the store
    have hguard : ¬ (true = false ∨ owner = Digest.zero ∨ ¬ now < now + 30 * minute ∨
        ¬ now + 30 * minute < now + 120 * minute) := by
      simp [hzero, minute, second]
    simp only [if_neg hguard, unix_add_idle, unix_add_absolute]
    exact returning_eq _ _

theorem Manager.createTemporary_cases (store : Store) (owner : Digest)
    (request : CreateTemporaryRequest) (raw rawSlug : Vector UInt8 16) (now : Int) :
    (∃ e, Manager.createTemporary store owner request raw rawSlug now = (store, .error e)) ∨
    (∃ e, Manager.createTemporary store owner request raw rawSlug now =
      (store.expireTemporaryServices now, .error e)) ∨
    ∃ service h, service.temporary = true ∧ service.enabled = true ∧
      Manager.createTemporary store owner request raw rawSlug now =
      ({ store.expireTemporaryServices now with
          services := (store.expireTemporaryServices now).services.cons
            (temporaryRow service owner now) h }, .ok service) := by
  by_cases hzero : owner = Digest.zero
  · rw [Manager.createTemporary, if_pos hzero]
    exact .inl ⟨_, rfl⟩
  rw [Manager.createTemporary_eq store hzero]
  cases (temporaryService request raw rawSlug).validate with
  | error message => exact .inl ⟨_, rfl⟩
  | ok =>
    by_cases hactive :
        (store.agents.find? request.agentID).any (fun agent => agent.state = .active) = true
    · simp only [if_pos hactive]
      rcases insertService_cases (store.expireTemporaryServices now)
        (temporaryRow (temporaryService request raw rawSlug) owner now) with heq | ⟨h, heq⟩
      · exact .inr (.inl ⟨.constraint, by rw [heq]; rfl⟩)
      · exact .inr (.inr ⟨_, h, rfl, rfl, by rw [heq]; rfl⟩)
    · simp only [if_neg hactive]
      exact .inr (.inl ⟨_, rfl⟩)

/-! ### Sessions -/

section Operations

variable (sha256 : List UInt8 → Digest) (store : Store)

/-- No row of the table has this token digest. -/
def TokenFree (sessions : Table SessionRow.id) (tokenDigest : Digest) : Prop :=
  ∀ id row, sessions.find? id = some row → row.tokenDigest ≠ tokenDigest

theorem createBrowserSession_cases (record : Record) :
    store.createBrowserSession record = (store, .error .constraint) ∨
    ∃ h, TokenFree store.sessions record.tokenDigest ∧ store.createBrowserSession record =
      ({ store with sessions := store.sessions.cons record.toRow h }, .ok ()) := by
  unfold createBrowserSession
  by_cases h : store.sessions.find? record.toRow.id = none
  · rw [dif_pos h]
    split
    · exact .inl rfl
    · rename_i hunique
      refine .inr ⟨h, ?_, rfl⟩
      intro id row hfind htoken
      have hmem := (Table.find?_eq_some_iff.mp hfind).1
      exact hunique (.inl (List.any_eq_true.mpr ⟨row, hmem, by simp [htoken]⟩))
  · rw [dif_neg h]
    exact .inl rfl

/-- `Create` fails, or it inserts the row of a new session for the row that authorizes the user;
    the token of the new session is not in use. -/
theorem create_cases (userDigest : Digest) (serviceID : String) (raw : Vector UInt8 16)
    (rawToken : Vector UInt8 32) (now later : Int) :
    (∃ e, create sha256 store userDigest serviceID raw rawToken now later =
      ((store.authorizedService serviceID userDigest now).1, .error e)) ∨
    ∃ target record h, store.selectAuthorized serviceID userDigest now = some target ∧
      record = newRecord target.toService userDigest (randomID raw) (newToken sha256 rawToken).2
        later ∧
      TokenFree (store.authorizedService serviceID userDigest now).1.sessions record.tokenDigest ∧
      create sha256 store userDigest serviceID raw rawToken now later =
        ({ (store.authorizedService serviceID userDigest now).1 with
            sessions := (store.authorizedService serviceID userDigest now).1.sessions.cons
              record.toRow h }, .ok ⟨record, (newToken sha256 rawToken).1⟩) := by
  have hspec := (authorizedService_spec store serviceID userDigest now).1
  unfold create
  generalize store.authorizedService serviceID userDigest now = result at hspec ⊢
  obtain ⟨store', outcome⟩ := result
  cases hselect : store.selectAuthorized serviceID userDigest now with
  | none =>
    simp only [hselect] at hspec
    subst hspec
    exact .inl ⟨_, rfl⟩
  | some target =>
    simp only [hselect] at hspec
    subst hspec
    simp only
    split
    · exact .inl ⟨_, rfl⟩
    · rcases createBrowserSession_cases store' (newRecord target.toService userDigest (randomID raw)
        (newToken sha256 rawToken).2 later) with heq | ⟨h, hfree, heq⟩
      · exact .inl ⟨.constraint, by rw [heq]⟩
      · exact .inr ⟨target, _, h, rfl, rfl, hfree, by rw [heq]⟩

/-- The row after `Lookup` has renewed it. -/
def touchRow (now : Int) (row : SessionRow) : SessionRow :=
  { row with
    lastSeenAt := unix now
    expiresAt := min (unix now + 1800) row.absoluteExpiresAt }

/-- The row of an open session whose token is presented, and the row of its enabled service. -/
structure Presents (id : String) (userDigest : Digest) (token : String) (now : Int)
    (row : SessionRow) (service : ServiceRow) : Prop where
  token_valid : validateToken token = true
  find_row : store.sessions.find? id = some row
  is_open : sessionOpen userDigest now row = true
  find_service : store.services.find? row.serviceID = some service
  enabled : service.enabled = true
  digest : row.tokenDigest = hashToken sha256 token

variable {sha256 store} {id : String} {userDigest : Digest} {token : String} {now : Int}
  {row : SessionRow} {service : ServiceRow}

theorem presented_eq_some_iff {record : Record} :
    presented sha256 store id userDigest token now = some record ↔
      ∃ row service, Presents sha256 store id userDigest token now row service ∧
        toRecord row service = record := by
  unfold presented browserSession
  by_cases htoken : validateToken token = false
  · rw [if_pos htoken]
    constructor
    · intro h
      cases h
    · rintro ⟨row, service, hpresents, -⟩
      rw [hpresents.token_valid] at htoken
      cases htoken
  rw [if_neg htoken]
  rw [Bool.not_eq_false] at htoken
  cases hrow : (store.sessions.find? id).filter (sessionOpen userDigest now) with
  | none =>
    constructor
    · intro h
      cases h
    · rintro ⟨row, service, hpresents, -⟩
      rw [hpresents.find_row, Option.filter_some, if_pos hpresents.is_open] at hrow
      cases hrow
  | some row =>
    obtain ⟨hfind, hopen⟩ := Option.filter_eq_some_iff.mp hrow
    simp only
    cases hservice : (store.services.find? row.serviceID).filter ServiceRow.enabled with
    | none =>
      constructor
      · intro h
        cases h
      · rintro ⟨row', service, hpresents, -⟩
        have hsame : row = row' := Option.some.inj (hfind.symm.trans hpresents.find_row)
        subst hsame
        rw [hpresents.find_service, Option.filter_some, if_pos hpresents.enabled] at hservice
        cases hservice
    | some service =>
      obtain ⟨hfindService, henabled⟩ := Option.filter_eq_some_iff.mp hservice
      simp only [Option.filter_eq_some_iff, Option.some.injEq, decide_eq_true_eq]
      constructor
      · rintro ⟨rfl, hdigest⟩
        exact ⟨row, service, ⟨htoken, hfind, hopen, hfindService, henabled, hdigest⟩, rfl⟩
      · rintro ⟨row', service', hpresents, rfl⟩
        have hsame : row = row' := Option.some.inj (hfind.symm.trans hpresents.find_row)
        subst hsame
        have hsame : service = service' :=
          Option.some.inj (hfindService.symm.trans hpresents.find_service)
        subst hsame
        exact ⟨rfl, hpresents.digest⟩

/-- The conditional `UPDATE` of `TouchBrowserSession` finds the row that `Lookup` has read. -/
theorem touchBrowserSession_spec (hfind : store.sessions.find? id = some row)
    (hopen : sessionOpen userDigest now row = true) :
    (store.touchBrowserSession id userDigest now
      (notAfter (now + idleTTL) (fromUnix row.absoluteExpiresAt))).2 = .ok () ∧
    ∀ id', (store.touchBrowserSession id userDigest now
      (notAfter (now + idleTTL) (fromUnix row.absoluteExpiresAt))).1.sessions.find? id' =
        if id' = id then some (touchRow now row) else store.sessions.find? id' := by
  have hkey : row.id = id := Table.key_of_find? hfind
  have hnext : unix (notAfter (now + idleTTL) (fromUnix row.absoluteExpiresAt)) =
      min (unix now + 1800) row.absoluteExpiresAt := unix_notAfter now row.absoluteExpiresAt
  generalize notAfter (now + idleTTL) (fromUnix row.absoluteExpiresAt) = next at hnext ⊢
  have htouch : touchable id userDigest now next row = true := by
    simp only [sessionOpen, Bool.and_eq_true, decide_eq_true_eq] at hopen
    obtain ⟨⟨⟨huser, hrevoked⟩, hexpires⟩, -⟩ := hopen
    have hle : unix next ≤ row.absoluteExpiresAt := by rw [hnext]; exact min_le_right _ _
    simp [touchable, hkey, huser, hrevoked, hexpires, hle]
  have honly : ∀ r, touchable id userDigest now next r = true → r.id = id := by
    intro r hr
    simp only [touchable, Bool.and_eq_true, decide_eq_true_eq] at hr
    exact hr.1.1.1.1
  unfold touchBrowserSession
  constructor
  · rw [Table.countP_eq _ honly, hfind, Option.any_some, if_pos htouch]
    rfl
  · intro id'
    by_cases hid : id' = id
    · rw [if_pos hid, hid, Table.find?_update, hfind, Option.map_some, if_pos htouch, touchRow, hnext]
    · rw [if_neg hid]
      rw [Table.find?_update_of_ne _ _ _ honly hid]

/-- **`Lookup`.**  Once the token opens the session, all that is left to ask is whether the
    service authorizes the user and belongs to the Agent of the session. -/
theorem lookup_of_presents (h : Presents sha256 store id userDigest token now row service) :
    lookup sha256 store id userDigest token now =
      if authorizes userDigest now service = true ∧ service.agentID = row.agentID then
        ((Store.touchBrowserSession (store.authorizedService row.serviceID userDigest now).1 id
            userDigest now (notAfter (now + idleTTL) (fromUnix row.absoluteExpiresAt))).1,
          .ok { toRecord row service with
            lastSeenAt := now
            expiresAt := notAfter (now + idleTTL) (fromUnix row.absoluteExpiresAt) })
      else ((store.authorizedService row.serviceID userDigest now).1, .error .notFound) := by
  have hpresented : presented sha256 store id userDigest token now = some (toRecord row service) :=
    presented_eq_some_iff.mpr ⟨row, service, h, rfl⟩
  obtain ⟨hspec, -, hsessions, -⟩ := authorizedService_spec store row.serviceID userDigest now
  have hid : (toRecord row service).serviceID = row.serviceID := rfl
  unfold lookup
  simp only [hpresented, hid]
  generalize store.authorizedService row.serviceID userDigest now = result at hspec hsessions ⊢
  obtain ⟨store', outcome⟩ := result
  rw [selectAuthorized, h.find_service, Option.filter_some] at hspec
  by_cases hauthorizes : authorizes userDigest now service = true
  · rw [if_pos hauthorizes] at hspec
    simp only at hspec hsessions
    subst hspec
    simp only
    by_cases hagent : service.agentID = row.agentID
    · have hguard : ¬ (service.toService.agentID ≠ (toRecord row service).agentID ∨
          service.toService.temporary ≠ (toRecord row service).temporary) := by
        simp [ServiceRow.toService, toRecord, hagent]
      have htouch := (touchBrowserSession_spec (hsessions ▸ h.find_row) h.is_open).1
      have habsolute : (toRecord row service).absoluteExpiresAt = fromUnix row.absoluteExpiresAt := rfl
      rw [if_neg hguard, if_pos ⟨hauthorizes, hagent⟩, habsolute]
      generalize store'.touchBrowserSession id userDigest now _ = result at htouch ⊢
      obtain ⟨store'', outcome⟩ := result
      simp only at htouch
      subst htouch
      rfl
    · have hguard : service.toService.agentID ≠ (toRecord row service).agentID ∨
          service.toService.temporary ≠ (toRecord row service).temporary := .inl hagent
      rw [if_pos hguard, if_neg (fun h => hagent h.2)]
  · rw [if_neg hauthorizes] at hspec
    simp only at hspec
    subst hspec
    rw [if_neg (fun h => hauthorizes h.1)]

theorem lookup_of_not_presented (h : presented sha256 store id userDigest token now = none) :
    lookup sha256 store id userDigest token now = (store, .error .notFound) := by
  unfold lookup
  rw [h]

/-- **Inversion.**  A successful `Lookup`, with the record that it returns. -/
theorem lookup_eq_ok {record : Record} (hok : (lookup sha256 store id userDigest token now).2 = .ok record) :
    ∃ row service, Presents sha256 store id userDigest token now row service ∧
      (authorizes userDigest now service = true ∧ service.agentID = row.agentID) ∧
      record = { toRecord row service with
        lastSeenAt := now
        expiresAt := notAfter (now + idleTTL) (fromUnix row.absoluteExpiresAt) } := by
  cases hpresented : presented sha256 store id userDigest token now with
  | none =>
    rw [lookup_of_not_presented hpresented] at hok
    cases hok
  | some record' =>
    obtain ⟨row, service, hpresents, -⟩ := presented_eq_some_iff.mp hpresented
    rw [lookup_of_presents hpresents] at hok
    split at hok
    · rename_i hauthorized
      exact ⟨row, service, hpresents, hauthorized, (Except.ok.inj hok).symm⟩
    · cases hok

/-- When `Lookup` succeeds. -/
theorem lookup_authorized_iff :
    (∃ record, (lookup sha256 store id userDigest token now).2 = .ok record) ↔
      ∃ row service, Presents sha256 store id userDigest token now row service ∧
        authorizes userDigest now service = true ∧ service.agentID = row.agentID := by
  constructor
  · rintro ⟨record, hok⟩
    obtain ⟨row, service, hpresents, hauthorized, -⟩ := lookup_eq_ok hok
    exact ⟨row, service, hpresents, hauthorized⟩
  · rintro ⟨row, service, hpresents, hauthorized⟩
    rw [lookup_of_presents hpresents, if_pos hauthorized]
    exact ⟨_, rfl⟩

/-- The same in terms of rows, given that a session has the Agent of its service. -/
theorem lookup_ok_iff
    (hagent : ∀ row service, store.sessions.find? id = some row →
      store.services.find? row.serviceID = some service → service.agentID = row.agentID) :
    (∃ record, (lookup sha256 store id userDigest token now).2 = .ok record) ↔
      validateToken token = true ∧ ∃ row, store.sessions.find? id = some row ∧
        row.tokenDigest = hashToken sha256 token ∧ sessionOpen userDigest now row = true ∧
        (store.selectAuthorized row.serviceID userDigest now).isSome = true := by
  rw [lookup_authorized_iff]
  constructor
  · rintro ⟨row, service, hpresents, hauthorizes, -⟩
    refine ⟨hpresents.token_valid, row, hpresents.find_row, hpresents.digest, hpresents.is_open, ?_⟩
    rw [selectAuthorized, hpresents.find_service, Option.filter_some, if_pos hauthorizes]
    rfl
  · rintro ⟨htoken, row, hfind, hdigest, hopen, hselect⟩
    obtain ⟨service, hservice⟩ := Option.isSome_iff_exists.mp hselect
    obtain ⟨hfindService, hauthorizes⟩ := Option.filter_eq_some_iff.mp hservice
    have henabled : service.enabled = true := by
      simp only [authorizes, Bool.and_eq_true] at hauthorizes
      exact hauthorizes.1
    exact ⟨row, service, ⟨htoken, hfind, hopen, hfindService, henabled, hdigest⟩, hauthorizes,
      hagent row service hfind hfindService⟩

/-- `Lookup` renews the row of the session if it succeeds, and changes no session if it fails. -/
theorem lookup_sessions (sha256 : List UInt8 → Digest) (store : Store) (id : String)
    (userDigest : Digest) (token : String) (now : Int) :
    (∃ e, (lookup sha256 store id userDigest token now).2 = .error e ∧
      (lookup sha256 store id userDigest token now).1.sessions = store.sessions) ∨
    ∃ record row, (lookup sha256 store id userDigest token now).2 = .ok record ∧
      store.sessions.find? id = some row ∧ sessionOpen userDigest now row = true ∧
      ∀ id', (lookup sha256 store id userDigest token now).1.sessions.find? id' =
        if id' = id then some (touchRow now row) else store.sessions.find? id' := by
  cases hpresented : presented sha256 store id userDigest token now with
  | none =>
    rw [lookup_of_not_presented hpresented]
    exact .inl ⟨_, rfl, rfl⟩
  | some record =>
    obtain ⟨row, service, hpresents, -⟩ := presented_eq_some_iff.mp hpresented
    have hsessions := (authorizedService_spec store row.serviceID userDigest now).2.2.1
    rw [lookup_of_presents hpresents]
    split
    · have hfind : (store.authorizedService row.serviceID userDigest now).1.sessions.find? id =
          some row := by rw [hsessions]; exact hpresents.find_row
      refine .inr ⟨_, row, rfl, hpresents.find_row, hpresents.is_open, fun id' => ?_⟩
      rw [(touchBrowserSession_spec hfind hpresents.is_open).2, hsessions]
    · exact .inl ⟨_, rfl, hsessions⟩

/-- `Lookup` leaves the services as `AuthorizedService` does, if it gets that far. -/
theorem lookup_services (h : Presents sha256 store id userDigest token now row service) :
    (lookup sha256 store id userDigest token now).1.services =
      (store.authorizedService row.serviceID userDigest now).1.services := by
  rw [lookup_of_presents h]
  split <;> rfl

/-- The service that an access returns is the one that was asked for. -/
theorem authorizedService_access (serviceID : String) :
    (store.authorizedService serviceID userDigest now).2.toOption.map Service.id =
      if (store.selectAuthorized serviceID userDigest now).isSome = true then some serviceID
      else none := by
  rw [(authorizedService_spec store serviceID userDigest now).1]
  cases hselect : store.selectAuthorized serviceID userDigest now with
  | none => rfl
  | some row =>
    have hkey : row.id = serviceID := Table.key_of_find? (Option.filter_eq_some_iff.mp hselect).1
    rw [Option.isSome_some, if_pos rfl, ← hkey]
    rfl

theorem lookupAccess_of_presents (h : Presents sha256 store id userDigest token now row service) :
    lookupAccess sha256 store id userDigest token now =
      if (store.selectAuthorized row.serviceID userDigest now).isSome = true then
        some row.serviceID else none := by
  have hpresented : presented sha256 store id userDigest token now = some (toRecord row service) :=
    presented_eq_some_iff.mpr ⟨row, service, h, rfl⟩
  have hid : (toRecord row service).serviceID = row.serviceID := rfl
  rw [← authorizedService_access]
  unfold lookupAccess
  simp only [hpresented, hid]
  cases (store.authorizedService row.serviceID userDigest now).2 <;> rfl

end Operations

end WebVPN.Session
