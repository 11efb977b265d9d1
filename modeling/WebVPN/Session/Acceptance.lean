import WebVPN.Session.Operations

namespace WebVPN.Session

open WebVPN.Library WebVPN.Storage WebVPN.Storage.Store

/-!
# Session — what `Lookup` accepts

* `Accepts`, `accepts_iff` — the credentials that `Lookup` accepts, and why;
* `ServicesNarrowed`, `SessionsNarrowed`, `Accepts.of_narrowed` — two stores of which the later one
  accepts nothing that the earlier one would not have accepted;
* `authorizedService_narrowed`, `lookup_narrowed`, `revoked_narrowed` — the operations that leave such
  a store.

A lease that is renewed was running, and a session that is renewed was open: both open nothing new.
-/

section Accepts

variable (sha256 : List UInt8 → Digest) (store : Store)

/-- `Lookup` accepts these credentials at this time. -/
def Accepts (id : String) (userDigest : Digest) (token : String) (now : Int) : Prop :=
  ∃ record, (lookup sha256 store id userDigest token now).2 = .ok record

variable {sha256 store}

theorem accepts_iff {id : String} {userDigest : Digest} {token : String} {now : Int} :
    Accepts sha256 store id userDigest token now ↔
      ∃ row service, Presents sha256 store id userDigest token now row service ∧
        authorizes userDigest now service = true ∧ service.agentID = row.agentID :=
  lookup_authorized_iff

end Accepts

/-! ### Rows over time -/

variable {now later : Int}

variable {row : ServiceRow}

theorem authorizes_mono {owner : Digest} (hle : now ≤ later)
    (h : authorizes owner later row = true) : authorizes owner now row = true := by
  have hunix := unix_mono hle
  simp only [authorizes, Bool.and_eq_true, Bool.or_eq_true, decide_eq_true_eq, Option.any_eq_true] at h ⊢
  obtain ⟨henabled, hnone | ⟨⟨howner, expires, hexpires, hlt⟩, absolute, habsolute, hlt'⟩⟩ := h
  · exact ⟨henabled, .inl hnone⟩
  · exact ⟨henabled, .inr ⟨⟨howner, expires, hexpires, by omega⟩, absolute, habsolute, by omega⟩⟩

theorem sessionOpen_mono {userDigest : Digest} (hle : now ≤ later) {row : SessionRow}
    (h : sessionOpen userDigest later row = true) : sessionOpen userDigest now row = true := by
  have hunix := unix_mono hle
  simp only [sessionOpen, Bool.and_eq_true, decide_eq_true_eq] at h ⊢
  obtain ⟨⟨hopen, hexpires⟩, habsolute⟩ := h
  exact ⟨⟨hopen, by omega⟩, by omega⟩

/-- A swept row authorizes no more than it did. -/
theorem authorizes_of_expireRow {owner : Digest} (hle : now ≤ later)
    (h : authorizes owner later (expireRow now row) = true) : authorizes owner now row = true := by
  unfold expireRow at h
  split at h
  · simp [authorizes, disable] at h
  · exact authorizes_mono hle h

/-- A renewed lease was running for its owner. -/
theorem authorizes_of_leaseRow {owner owner' : Digest} (hle : now ≤ later)
    (h : authorizes owner later (leaseRow owner' now row) = true) :
    authorizes owner now row = true := by
  unfold leaseRow at h
  split at h
  · rename_i hlease
    -- only the owner is authorized by a temporary service
    have howner : owner = owner' := by
      simp only [authorizes, Bool.and_eq_true, Bool.or_eq_true, decide_eq_true_eq] at h hlease
      obtain ⟨⟨-, hnone | ⟨⟨hsome, -⟩, -⟩⟩, hsomeone⟩ := hlease
      · exact absurd hnone hsomeone
      · obtain ⟨-, hnone | ⟨⟨hsome', -⟩, -⟩⟩ := h
        · exact absurd hnone hsomeone
        · exact Option.some.inj (hsome'.symm.trans hsome)
    rw [howner]
    exact hlease.1
  · exact authorizes_mono hle h

/-! ### Tables -/

/-- Every service authorizes at most whom it authorized at `now`. -/
def ServicesNarrowed (now : Int) (services services' : Table ServiceRow.id) : Prop :=
  ∀ id row', services'.find? id = some row' → ∃ row, services.find? id = some row ∧
    row.agentID = row'.agentID ∧
    ∀ owner later, now ≤ later → authorizes owner later row' = true → authorizes owner now row = true

/-- Every session that is open was open at `now`, with the same token. -/
def SessionsNarrowed (now : Int) (sessions sessions' : Table SessionRow.id) : Prop :=
  ∀ id row', sessions'.find? id = some row' → ∀ userDigest later, now ≤ later →
    sessionOpen userDigest later row' = true →
    ∃ row, sessions.find? id = some row ∧ sessionOpen userDigest now row = true ∧
      row.tokenDigest = row'.tokenDigest ∧ row.serviceID = row'.serviceID ∧ row.agentID = row'.agentID

variable {now : Int}

theorem ServicesNarrowed.refl (services : Table ServiceRow.id) : ServicesNarrowed now services services :=
  fun _ row hfind => ⟨row, hfind, rfl, fun _ _ hle => authorizes_mono hle⟩

theorem SessionsNarrowed.refl (sessions : Table SessionRow.id) : SessionsNarrowed now sessions sessions :=
  fun _ row hfind _ _ hle hopen => ⟨row, hfind, sessionOpen_mono hle hopen, rfl, rfl, rfl⟩

/-- **What a narrowed store accepts later, the store would have accepted before.** -/
theorem Accepts.of_narrowed {sha256 : List UInt8 → Digest} {store store' : Store}
    (hservices : ServicesNarrowed now store.services store'.services)
    (hsessions : SessionsNarrowed now store.sessions store'.sessions) {id : String} {userDigest : Digest}
    {token : String} {later : Int} (hle : now ≤ later)
    (h : Accepts sha256 store' id userDigest token later) : Accepts sha256 store id userDigest token now := by
  obtain ⟨row', service', hpresents, hauthorizes, hagent⟩ := accepts_iff.mp h
  obtain ⟨row, hrow, hopen, htoken, hserviceID, hrowAgent⟩ :=
    hsessions id row' hpresents.find_row userDigest later hle hpresents.is_open
  obtain ⟨service, hservice, hserviceAgent, hauthorized⟩ :=
    hservices row'.serviceID service' hpresents.find_service
  have hnow := hauthorized userDigest later hle hauthorizes
  have henabled : service.enabled = true := by
    simp only [authorizes, Bool.and_eq_true] at hnow
    exact hnow.1
  refine accepts_iff.mpr ⟨row, service, ⟨hpresents.token_valid, hrow, hopen, ?_, henabled, ?_⟩, hnow, ?_⟩
  · rw [hserviceID]
    exact hservice
  · rw [htoken]
    exact hpresents.digest
  · rw [hserviceAgent, hagent, hrowAgent]

/-! ### Operations -/

theorem agentID_expireRow (row : ServiceRow) : (expireRow now row).agentID = row.agentID := by
  unfold expireRow
  split <;> rfl

theorem agentID_leaseRow (owner : Digest) (row : ServiceRow) :
    (leaseRow owner now row).agentID = row.agentID := by
  unfold leaseRow
  split <;> rfl

/-- `AuthorizedService` sweeps and renews. -/
theorem authorizedService_narrowed (store : Store) (serviceID : String) (owner : Digest) (now : Int) :
    ServicesNarrowed now store.services (store.authorizedService serviceID owner now).1.services := by
  intro id row' hfind
  rw [(authorizedService_spec store serviceID owner now).2.1, Option.map_eq_some_iff] at hfind
  obtain ⟨row, hrow, rfl⟩ := hfind
  refine ⟨row, hrow, ?_, fun owner' later hle hauthorizes => ?_⟩
  · split
    · rw [agentID_leaseRow, agentID_expireRow]
    · exact (agentID_expireRow row).symm
  · split at hauthorizes
    · have hswept := authorizes_of_leaseRow hle hauthorizes
      exact authorizes_of_expireRow (le_refl now) hswept
    · exact authorizes_of_expireRow hle hauthorizes

/-- `Lookup` renews a session that was open. -/
theorem lookup_narrowed (sha256 : List UInt8 → Digest) (store : Store) (id : String) (userDigest : Digest)
    (token : String) (now : Int) :
    ServicesNarrowed now store.services (lookup sha256 store id userDigest token now).1.services ∧
      SessionsNarrowed now store.sessions (lookup sha256 store id userDigest token now).1.sessions := by
  constructor
  · cases hpresented : presented sha256 store id userDigest token now with
    | none =>
      rw [lookup_of_not_presented hpresented]
      exact .refl _
    | some record =>
      obtain ⟨row, service, hpresents, -⟩ := presented_eq_some_iff.mp hpresented
      rw [lookup_services hpresents]
      exact authorizedService_narrowed store row.serviceID userDigest now
  · obtain ⟨-, -, hsame⟩ | ⟨-, row, -, hrow, hopen, hrows⟩ :=
      lookup_sessions sha256 store id userDigest token now
    · rw [hsame]
      exact .refl _
    · intro id' row' hfind userDigest' later hle hopen'
      rw [hrows] at hfind
      split at hfind
      · rename_i hid
        cases hfind
        subst hid
        refine ⟨row, hrow, ?_, rfl, rfl, rfl⟩
        -- both say whose session it is
        have huser : userDigest' = userDigest := by
          simp only [sessionOpen, Bool.and_eq_true, decide_eq_true_eq] at hopen hopen'
          exact hopen'.1.1.1.symm.trans hopen.1.1.1
        rw [huser]
        exact hopen
      · exact SessionsNarrowed.refl store.sessions id' row' hfind userDigest' later hle hopen'

/-- A session that has been inserted and revoked is not open. -/
theorem revoked_narrowed (store : Store) (record : Record)
    (h : store.sessions.find? record.toRow.id = none) (time : Int) :
    SessionsNarrowed now store.sessions
      (Store.revokeBrowserSession { store with sessions := store.sessions.cons record.toRow h } record.id
        record.userDigest time).1.sessions := by
  intro id row' hfind userDigest later hle hopen
  rw [(revokeBrowserSession_spec _ time record.id record.userDigest).2, Option.map_eq_some_iff] at hfind
  obtain ⟨row, hrow, rfl⟩ := hfind
  rw [Table.find?_cons] at hrow
  split at hrow
  · cases hrow
    rw [if_pos ⟨rfl, rfl, rfl⟩] at hopen
    simp [sessionOpen, revokeRow] at hopen
  · rename_i hid
    have hkey : row.id = id := Table.key_of_find? hrow
    have hother : ¬ (row.id = record.id ∧ row.userDigest = record.userDigest ∧ row.revokedAt = none) :=
      fun hmatch => hid (hmatch.1.symm.trans hkey)
    rw [if_neg hother] at hopen ⊢
    exact SessionsNarrowed.refl store.sessions id row hrow userDigest later hle hopen

/-! ### Expiry -/

/-- Every session keeps both its expiry times, unless it is one of `allowed`. -/
def ExpiryKept (allowed : SessionRow → Prop) (sessions sessions' : Table SessionRow.id) : Prop :=
  ∀ id row, sessions.find? id = some row → ∃ row', sessions'.find? id = some row' ∧
    (row'.expiresAt = row.expiresAt ∧ row'.absoluteExpiresAt = row.absoluteExpiresAt ∨ allowed row)

/-- The session with this ID, of this user and opened by this token. -/
def OpenedBy (sha256 : List UInt8 → Digest) (id : String) (userDigest : Digest) (token : String)
    (row : SessionRow) : Prop :=
  row.id = id ∧ row.userDigest = userDigest ∧ row.tokenDigest = hashToken sha256 token

theorem ExpiryKept.refl (allowed : SessionRow → Prop) (sessions : Table SessionRow.id) :
    ExpiryKept allowed sessions sessions :=
  fun _ row hfind => ⟨row, hfind, .inl ⟨rfl, rfl⟩⟩

/-- `Lookup` renews nothing but the session whose token was presented. -/
theorem lookup_expiry (sha256 : List UInt8 → Digest) (store : Store) (id : String) (userDigest : Digest)
    (token : String) (now : Int) :
    ExpiryKept (OpenedBy sha256 id userDigest token) store.sessions
      (lookup sha256 store id userDigest token now).1.sessions := by
  obtain ⟨-, -, hsame⟩ | ⟨record, row, hok, hrow, -, hrows⟩ :=
    lookup_sessions sha256 store id userDigest token now
  · rw [hsame]
    exact .refl _ _
  · obtain ⟨row₀, service₀, hpresents, -⟩ := accepts_iff.mp ⟨record, hok⟩
    intro id' row' hfind
    rw [hrows]
    by_cases hid : id' = id
    · subst hid
      rw [if_pos rfl]
      cases hfind.symm.trans hpresents.find_row
      have hopen := hpresents.is_open
      simp only [sessionOpen, Bool.and_eq_true, decide_eq_true_eq] at hopen
      exact ⟨_, rfl, .inr ⟨Table.key_of_find? hfind, hopen.1.1.1, hpresents.digest⟩⟩
    · rw [if_neg hid]
      exact ⟨row', hfind, .inl ⟨rfl, rfl⟩⟩

/-- A session that is inserted and revoked leaves the others alone. -/
theorem revoked_expiry (allowed : SessionRow → Prop) (store : Store) (record : Record)
    (h : store.sessions.find? record.toRow.id = none) (time : Int) :
    ExpiryKept allowed store.sessions
      (Store.revokeBrowserSession { store with sessions := store.sessions.cons record.toRow h } record.id
        record.userDigest time).1.sessions := by
  intro id row hfind
  rw [(revokeBrowserSession_spec _ time record.id record.userDigest).2,
    Table.find?_cons_of_some hfind, Option.map_some]
  refine ⟨_, rfl, .inl ?_⟩
  split
  · exact ⟨rfl, rfl⟩
  · exact ⟨rfl, rfl⟩

end WebVPN.Session
