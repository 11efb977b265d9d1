import WebVPN.Library.Overlay
import WebVPN.Session.Operations

namespace WebVPN.Session

open WebVPN.Library WebVPN.Catalog WebVPN.Storage WebVPN.Storage.Store

/-!
# Session — one user's view of the store

Two stores are compared: one in which everybody has worked, and one in which only the user `u` has,
and whoever creates persistent services.  The first holds all rows of the second and some that `u`
has nothing to do with.  The rows they share are the same up to the expiry sweep, which any access
of anybody runs over all rows.

* `View u foreign now full own` — the relation at the time `now`; the random values behind the rows
  of the others are in `foreign`;
* `View.authorizedOther`, `View.insertOther`, … — the operations of the others on the full store;
* `View.authorized`, `View.insertService`, `View.lookup`, … — the operations of `u` on both stores,
  which have the same outcome.
-/

/-- The values that are drawn at random. -/
inductive Drawn
  | serviceID (id : String)
  | slug (slug : String)
  | sessionID (id : String)
  | token (digest : Digest)
deriving DecidableEq

section Definitions

variable (u : Digest) (foreign : Drawn → Prop) (now : Int)

/-- A service that is not somebody else's. -/
def Mine (row : ServiceRow) : Prop := ∀ v, row.ownerDigest = some v → v = u

/-- The rows of one service in the two stores. -/
structure SameService (a b : ServiceRow) : Prop where
  swept : expireRow now a = expireRow now b
  left : Mine u a
  right : Mine u b

/-- The row of a service of somebody else. -/
structure HiddenService (row : ServiceRow) : Prop where
  owner : row.enabled = true → ∃ v, v ≠ u ∧ row.ownerDigest = some v
  id : foreign (.serviceID row.id)
  slug : foreign (.slug row.slug)

/-- The row of a session of `u`, the same in the two stores. -/
def OwnSession (a b : SessionRow) : Prop := a = b ∧ a.userDigest = u

/-- The row of a session of somebody else. -/
structure HiddenSession (row : SessionRow) : Prop where
  user : row.userDigest ≠ u
  id : foreign (.sessionID row.id)
  token : foreign (.token row.tokenDigest)

/-- The store `own` is what `u` sees of the store `full`. -/
structure View (full own : Store) : Prop where
  agents : full.agents = own.agents
  services : Overlay (SameService u now) (HiddenService u foreign) full.services.rows
    own.services.rows
  sessions : Overlay (OwnSession u) (HiddenSession u foreign) full.sessions.rows own.sessions.rows

end Definitions

variable {u : Digest} {foreign : Drawn → Prop} {now : Int} {row : ServiceRow}

/-! ### Rows -/

theorem due_mono {now' : Int} (hle : now ≤ now') (hdue : due now row = true) :
    due now' row = true := by
  have hunix := unix_mono hle
  simp only [due, Bool.and_eq_true, Bool.or_eq_true, Option.any_eq_true, decide_eq_true_eq]
    at hdue ⊢
  obtain ⟨hleased, ⟨t, ht, hpast⟩ | ⟨t, ht, hpast⟩⟩ := hdue
  · exact ⟨hleased, .inl ⟨t, ht, by omega⟩⟩
  · exact ⟨hleased, .inr ⟨t, ht, by omega⟩⟩

/-- A later sweep does what an earlier one has left to do. -/
theorem expireRow_expireRow_of_le {now' : Int} (hle : now ≤ now') (row : ServiceRow) :
    expireRow now' (expireRow now row) = expireRow now' row := by
  by_cases hdue : due now row = true
  · rw [expireRow.eq_def now row, if_pos hdue, expireRow.eq_def now' row,
      if_pos (due_mono hle hdue)]
    rfl
  · rw [expireRow.eq_def now row, if_neg hdue]

theorem expireRow_slug (now : Int) (row : ServiceRow) : (expireRow now row).slug = row.slug := by
  unfold expireRow
  split <;> rfl

theorem Mine.expireRow (h : Mine u row) : Mine u (expireRow now row) := by
  unfold Store.expireRow
  split
  · exact nofun
  · exact h

theorem Mine.leaseRow (h : Mine u row) (owner : Digest) : Mine u (leaseRow owner now row) := by
  unfold Store.leaseRow
  split <;> exact h

/-- Nobody else renews a service. -/
theorem Mine.leaseRow_of_ne (h : Mine u row) {v : Digest} (hv : v ≠ u) :
    Store.leaseRow v now row = row := by
  refine if_neg ?_
  rintro ⟨hauthorizes, hleased⟩
  simp only [authorizes, Bool.and_eq_true, Bool.or_eq_true, decide_eq_true_eq] at hauthorizes
  obtain ⟨-, hnone | ⟨⟨hsome, -⟩, -⟩⟩ := hauthorizes
  · exact hleased hnone
  · exact hv (h v hsome)

theorem HiddenService.disable (h : HiddenService u foreign row) :
    HiddenService u foreign (disable row) :=
  ⟨nofun, h.id, h.slug⟩

theorem HiddenService.expireRow (h : HiddenService u foreign row) :
    HiddenService u foreign (expireRow now row) := by
  unfold Store.expireRow
  split
  · exact h.disable
  · exact h

theorem HiddenService.leaseRow (h : HiddenService u foreign row)
    (owner : Digest) : HiddenService u foreign (leaseRow owner now row) := by
  unfold Store.leaseRow
  split
  · exact ⟨h.owner, h.id, h.slug⟩
  · exact h

theorem HiddenService.not_authorizes (h : HiddenService u foreign row) :
    authorizes u now row = false := by
  by_contra hauthorizes
  simp only [Bool.not_eq_false, authorizes, Bool.and_eq_true, Bool.or_eq_true, decide_eq_true_eq]
    at hauthorizes
  obtain ⟨henabled, howner⟩ := hauthorizes
  obtain ⟨v, hv, hsome⟩ := h.owner henabled
  rw [hsome] at howner
  obtain hnone | ⟨⟨heq, -⟩, -⟩ := howner
  · cases hnone
  · exact hv (Option.some.inj heq)

namespace SameService

variable {a b : ServiceRow}

theorem id (h : SameService u now a b) : a.id = b.id := by
  rw [← expireRow_id now a, h.swept, expireRow_id]

theorem slug (h : SameService u now a b) : a.slug = b.slug := by
  rw [← expireRow_slug now a, h.swept, expireRow_slug]

theorem authorizes_eq (h : SameService u now a b) (owner : Digest) :
    authorizes owner now a = authorizes owner now b := by
  rw [← authorizes_expireRow owner now a, h.swept, authorizes_expireRow]

theorem eq_of_authorizes (h : SameService u now a b) {owner : Digest}
    (hauthorizes : authorizes owner now a = true) : a = b := by
  have hauthorizes' := hauthorizes
  rw [h.authorizes_eq] at hauthorizes'
  rw [← expireRow_of_authorizes hauthorizes, h.swept, expireRow_of_authorizes hauthorizes']

theorem mono {now' : Int} (hle : now ≤ now') (h : SameService u now a b) :
    SameService u now' a b := by
  refine ⟨?_, h.left, h.right⟩
  rw [← expireRow_expireRow_of_le hle a, h.swept, expireRow_expireRow_of_le hle]

theorem of_eq (h : a = b) (ha : Mine u a) : SameService u now a b := ⟨by rw [h], ha, h ▸ ha⟩

end SameService

/-- The service that `AuthorizedService` returns exists. -/
theorem authorizedService_exists {store store' : Store} {serviceID : String} {owner : Digest}
    {target : Service} (h : store.authorizedService serviceID owner now = (store', .ok target)) :
    store'.services.find? target.id ≠ none := by
  obtain ⟨houtcome, hfind, -, -⟩ := authorizedService_spec store serviceID owner now
  rw [h] at houtcome hfind
  cases hselect : store.selectAuthorized serviceID owner now with
  | none =>
    rw [hselect] at houtcome
    cases houtcome
  | some row =>
    rw [hselect] at houtcome
    cases houtcome
    have hrow := (Option.filter_eq_some_iff.mp hselect).1
    have hid : row.id = serviceID := Table.key_of_find? hrow
    have hrow' := hfind row.id
    rw [hid, hrow] at hrow'
    rw [ServiceRow.toService, hid, hrow']
    exact Option.some_ne_none _

/-! ### What `Lookup` reads -/

section Opened

variable (sha256 : List UInt8 → Digest) (store : Store) (id : String) (userDigest : Digest)
  (token : String) (now : Int)

/-- The row of the open session whose token is presented. -/
def opened : Option SessionRow :=
  if validateToken token then (store.sessions.find? id).filter
    (fun row => sessionOpen userDigest now row && row.tokenDigest = hashToken sha256 token)
  else none

/-- **`Lookup` depends on the open session and on the service that authorizes the user**, and not
    on whether the sweep has been made. -/
theorem lookup_spec :
    match opened sha256 store id userDigest token now with
    | none => lookup sha256 store id userDigest token now = (store, .error .notFound) ∧
        lookupAccess sha256 store id userDigest token now = none
    | some row =>
      match store.selectAuthorized row.serviceID userDigest now with
      | none => (lookup sha256 store id userDigest token now).2 = .error .notFound ∧
          ((lookup sha256 store id userDigest token now).1 = store ∨
            (lookup sha256 store id userDigest token now).1 = store.expireTemporaryServices now) ∧
          lookupAccess sha256 store id userDigest token now = none
      | some service => lookup sha256 store id userDigest token now =
          (if service.agentID = row.agentID then
            ((Store.touchBrowserSession (store.authorizedService row.serviceID userDigest now).1 id
                userDigest now (notAfter (now + idleTTL) (fromUnix row.absoluteExpiresAt))).1,
              .ok { toRecord row service with
                lastSeenAt := now
                expiresAt := notAfter (now + idleTTL) (fromUnix row.absoluteExpiresAt) })
          else ((store.authorizedService row.serviceID userDigest now).1, .error .notFound)) ∧
          lookupAccess sha256 store id userDigest token now = some service.id := by
  cases hopened : opened sha256 store id userDigest token now with
  | none =>
    have hnone : presented sha256 store id userDigest token now = none := by
      rw [Option.eq_none_iff_forall_ne_some]
      intro record hrecord
      obtain ⟨row, service, hpresents, -⟩ := presented_eq_some_iff.mp hrecord
      rw [opened, if_pos hpresents.token_valid, hpresents.find_row, Option.filter_some,
        hpresents.is_open, hpresents.digest, decide_eq_true rfl] at hopened
      cases hopened
    exact ⟨lookup_of_not_presented hnone, by rw [lookupAccess, hnone]⟩
  | some row =>
    have htoken : validateToken token = true := by
      by_contra hnot
      rw [opened, if_neg hnot] at hopened
      cases hopened
    rw [opened, if_pos htoken, Option.filter_eq_some_iff, Bool.and_eq_true, decide_eq_true_eq]
      at hopened
    obtain ⟨hrow, hopen, hdigest⟩ := hopened
    simp only
    cases hselect : store.selectAuthorized row.serviceID userDigest now with
    | none =>
      have hfail : store.authorizedService row.serviceID userDigest now =
          (store.expireTemporaryServices now, .error .notFound) := by
        unfold authorizedService
        simp only [selectAuthorized_expireTemporaryServices, hselect]
      cases hpresented : presented sha256 store id userDigest token now with
      | none =>
        rw [lookup_of_not_presented hpresented]
        exact ⟨rfl, .inl rfl, by rw [lookupAccess, hpresented]⟩
      | some record =>
        obtain ⟨row', service, hpresents, rfl⟩ := presented_eq_some_iff.mp hpresented
        cases hrow.symm.trans hpresents.find_row
        have hid : (toRecord row service).serviceID = row.serviceID := rfl
        unfold lookup lookupAccess
        simp only [hpresented, hid, hfail, or_true, and_self]
    | some service =>
      obtain ⟨hservice, hauthorizes⟩ := Option.filter_eq_some_iff.mp hselect
      have henabled : service.enabled = true := by
        simp only [authorizes, Bool.and_eq_true] at hauthorizes
        exact hauthorizes.1
      have hpresents : Presents sha256 store id userDigest token now row service :=
        ⟨htoken, hrow, hopen, hservice, henabled, hdigest⟩
      have hpresented := presented_eq_some_iff.mpr ⟨row, service, hpresents, rfl⟩
      constructor
      · rw [lookup_of_presents hpresents]
        simp only [hauthorizes, true_and]
      · have hid : (toRecord row service).serviceID = row.serviceID := rfl
        rw [lookupAccess, hpresented]
        simp only [hid, authorizedService_outcome, hselect]
        rfl

end Opened

/-! ### The sweep, and the operations of the others -/

namespace View

variable {full own : Store}

theorem mono {now' : Int} (hle : now ≤ now') (h : View u foreign now full own) :
    View u foreign now' full own :=
  ⟨h.agents, h.services.imp (fun _ _ hsame => hsame.mono hle), h.sessions⟩

variable (h : View u foreign now full own)
include h

/-- Somebody's access sweeps the full store. -/
theorem sweepFull : View u foreign now (full.expireTemporaryServices now) own := by
  refine ⟨h.agents, ?_, h.sessions⟩
  refine h.services.map_left ?_ (fun _ hhidden => hhidden.expireRow)
  intro a b hsame
  exact ⟨(expireRow_expireRow now a).trans hsame.swept, hsame.left.expireRow, hsame.right⟩

theorem sweepOwn : View u foreign now full (own.expireTemporaryServices now) := by
  refine ⟨h.agents, ?_, h.sessions⟩
  refine h.services.map_right ?_
  intro a b hsame
  exact ⟨hsame.swept.trans (expireRow_expireRow now b).symm, hsame.left, hsame.right.expireRow⟩

theorem sweep :
    View u foreign now (full.expireTemporaryServices now) (own.expireTemporaryServices now) :=
  h.sweepFull.sweepOwn

section Others

variable {v : Digest} (hv : v ≠ u)
include hv

/-- An access of another user renews none of the services that `u` sees. -/
theorem authorizedOther (serviceID : String) :
    View u foreign now (full.authorizedService serviceID v now).1 own := by
  obtain ⟨-, -, hsessions, hagents⟩ := authorizedService_spec full serviceID v now
  refine ⟨hagents.trans h.agents, ?_, hsessions ▸ h.sessions⟩
  rw [authorizedService_rows]
  refine h.services.map_left ?_ ?_
  · intro a b hsame
    rw [hsame.left.expireRow.leaseRow_of_ne hv, ite_self]
    exact ⟨(expireRow_expireRow now a).trans hsame.swept, hsame.left.expireRow, hsame.right⟩
  · intro a hhidden
    split
    · exact hhidden.expireRow.leaseRow v
    · exact hhidden.expireRow

theorem bySlugOther (slug : String) :
    View u foreign now (full.temporaryServiceBySlug slug v now).1 own := by
  rcases temporaryServiceBySlug_cases full v now slug with heq | ⟨serviceID, heq⟩
  · rw [heq]
    exact h.sweepFull
  · rw [heq]
    exact h.authorizedOther hv serviceID

theorem revokeServicesOther : View u foreign now (full.revokeTemporaryServices v) own := by
  refine ⟨h.agents, ?_, h.sessions⟩
  refine h.services.map_left ?_ ?_
  · intro a b hsame
    have hnot : ¬ (decide (a.ownerDigest = some v) && a.enabled) = true := by
      simp only [Bool.and_eq_true, decide_eq_true_eq]
      exact fun hmatch => hv (hsame.left v hmatch.1)
    rw [if_neg hnot]
    exact hsame
  · intro a hhidden
    split
    · exact hhidden.disable
    · exact hhidden

/-- An update of sessions of another user. -/
theorem updateSessionsOther {p : SessionRow → Bool}
    {f : SessionRow → SessionRow} (hf : ∀ r, (f r).id = r.id)
    (hp : ∀ r, p r = true → r.userDigest = v) (huser : ∀ r, (f r).userDigest = r.userDigest)
    (htoken : ∀ r, (f r).tokenDigest = r.tokenDigest) :
    View u foreign now { full with sessions := full.sessions.update p f hf } own := by
  refine ⟨h.agents, h.services, h.sessions.map_left ?_ ?_⟩
  · rintro a b ⟨heq, hmine⟩
    have hnot : ¬ p a = true := fun hmatch => hv ((hp a hmatch).symm.trans hmine)
    rw [if_neg hnot]
    exact ⟨heq, hmine⟩
  · intro a hhidden
    split
    · refine ⟨?_, ?_, ?_⟩
      · rw [huser]
        exact hhidden.user
      · rw [hf]
        exact hhidden.id
      · rw [htoken]
        exact hhidden.token
    · exact hhidden

theorem touchOther (id : String) (seenAt expiresAt : Int) :
    View u foreign now (full.touchBrowserSession id v seenAt expiresAt).1 own := by
  refine h.updateSessionsOther hv
    (f := fun row => { row with lastSeenAt := unix seenAt, expiresAt := unix expiresAt })
    (fun _ => rfl) ?_ (fun _ => rfl) (fun _ => rfl)
  intro r hmatch
  simp only [touchable, Bool.and_eq_true, decide_eq_true_eq] at hmatch
  exact hmatch.1.1.1.2

theorem revokeSessionsOther (time : Int) :
    View u foreign now (full.revokeBrowserSessions v time) own := by
  refine h.updateSessionsOther hv (f := fun row => { row with revokedAt := some (unix time) })
    (fun _ => rfl) ?_ (fun _ => rfl) (fun _ => rfl)
  intro r hmatch
  simp only [Bool.and_eq_true, decide_eq_true_eq] at hmatch
  exact hmatch.1

theorem revokeSessionOther (id : String) (time : Int) :
    View u foreign now (full.revokeBrowserSession id v time).1 own := by
  refine h.updateSessionsOther hv (f := fun row => { row with revokedAt := some (unix time) })
    (fun _ => rfl) ?_ (fun _ => rfl) (fun _ => rfl)
  intro r hmatch
  simp only [revocable, Bool.and_eq_true, decide_eq_true_eq] at hmatch
  exact hmatch.1.2

theorem createTemporaryOther (request : CreateTemporaryRequest)
    (raw rawSlug : Vector UInt8 16) (hid : foreign (.serviceID (randomID raw)))
    (hslug : foreign (.slug (randomTemporarySlug rawSlug))) :
    View u foreign now (Manager.createTemporary full v request raw rawSlug now).1 own := by
  by_cases hzero : v = Digest.zero
  · rw [Manager.createTemporary, if_pos hzero]
    exact h
  rw [Manager.createTemporary_eq full hzero]
  have hrow : HiddenService u foreign (temporaryRow (temporaryService request raw rawSlug) v now) :=
    ⟨fun _ => ⟨v, hv, rfl⟩, hid, hslug⟩
  cases (temporaryService request raw rawSlug).validate with
  | error message => exact h
  | ok =>
    simp only [returning]
    split
    · rcases insertService_cases (full.expireTemporaryServices now)
        (temporaryRow (temporaryService request raw rawSlug) v now) with heq | ⟨hfree, heq⟩
      · rw [heq]
        exact h.sweepFull
      · rw [heq]
        exact ⟨h.agents, .extra hrow h.sweepFull.services, h.sessions⟩
    · exact h.sweepFull

theorem createOther (sha256 : List UInt8 → Digest)
    (serviceID : String) (raw : Vector UInt8 16) (rawToken : Vector UInt8 32) (later : Int)
    (hid : foreign (.sessionID (randomID raw)))
    (htoken : foreign (.token (newToken sha256 rawToken).2)) :
    View u foreign now (create sha256 full v serviceID raw rawToken now later).1 own := by
  have hauthorized := h.authorizedOther hv serviceID
  rcases create_cases sha256 full v serviceID raw rawToken now later with
    ⟨e, heq⟩ | ⟨target, record, hfree, -, rfl, -, heq⟩
  · rw [heq]
    exact hauthorized
  · rw [heq]
    exact ⟨hauthorized.agents, hauthorized.services,
      .extra ⟨hv, hid, htoken⟩ hauthorized.sessions⟩

theorem lookupOther (sha256 : List UInt8 → Digest)
    (id token : String) : View u foreign now (lookup sha256 full id v token now).1 own := by
  cases hpresented : presented sha256 full id v token now with
  | none =>
    rw [lookup_of_not_presented hpresented]
    exact h
  | some record =>
    obtain ⟨row, service, hpresents, -⟩ := presented_eq_some_iff.mp hpresented
    rw [lookup_of_presents hpresents]
    have hauthorized := h.authorizedOther hv row.serviceID
    split
    · exact hauthorized.touchOther hv id now _
    · exact hauthorized

end Others

/-! ### Services, as `u` sees them -/

/-- A test that only services open to `u` pass selects the same rows in both stores. -/
theorem filter_eq {p : ServiceRow → Bool} (hp : ∀ r, p r = true → authorizes u now r = true) :
    full.services.rows.filter p = own.services.rows.filter p := by
  refine h.services.filter_eq ?_ (fun a b hab hpa => hab.eq_of_authorizes (hp a hpa)) ?_
  · intro a b hab
    by_cases hauthorizes : authorizes u now a = true
    · rw [hab.eq_of_authorizes hauthorizes]
    · have hauthorizes' : ¬ authorizes u now b = true := by
        rw [← hab.authorizes_eq]
        exact hauthorizes
      rw [Bool.eq_false_iff.mpr (fun ha => hauthorizes (hp a ha)),
        Bool.eq_false_iff.mpr (fun hb => hauthorizes' (hp b hb))]
  · intro a ha
    refine Bool.eq_false_iff.mpr (fun hpa => ?_)
    exact absurd (ha.not_authorizes.symm.trans (hp a hpa)) nofun

theorem find_eq {p : ServiceRow → Bool} (hp : ∀ r, p r = true → authorizes u now r = true) :
    full.services.rows.find? p = own.services.rows.find? p := by
  rw [← List.head?_filter, ← List.head?_filter, h.filter_eq hp]

theorem selectAuthorized_eq (serviceID : String) :
    full.selectAuthorized serviceID u now = own.selectAuthorized serviceID u now := by
  rw [selectAuthorized, selectAuthorized, Table.filter_find?, Table.filter_find?]
  refine h.find_eq (fun r hr => ?_)
  rw [Bool.and_eq_true] at hr
  exact hr.1

theorem authorized_outcome (serviceID : String) :
    (full.authorizedService serviceID u now).2 = (own.authorizedService serviceID u now).2 := by
  rw [authorizedService_outcome, authorizedService_outcome, h.selectAuthorized_eq]

theorem authorized (serviceID : String) :
    View u foreign now (full.authorizedService serviceID u now).1
      (own.authorizedService serviceID u now).1 := by
  obtain ⟨-, -, hsessions, hagents⟩ := authorizedService_spec full serviceID u now
  obtain ⟨-, -, hsessions', hagents'⟩ := authorizedService_spec own serviceID u now
  refine ⟨(hagents.trans h.agents).trans hagents'.symm, ?_, ?_⟩
  · rw [authorizedService_rows, authorizedService_rows]
    refine h.services.map ?_ ?_
    · intro a b hsame
      refine .of_eq ?_ ?_
      · rw [hsame.id, hsame.swept]
      · split
        · exact hsame.left.expireRow.leaseRow u
        · exact hsame.left.expireRow
    · intro a hhidden
      split
      · exact hhidden.expireRow.leaseRow u
      · exact hhidden.expireRow
  · rw [hsessions, hsessions']
    exact h.sessions

theorem bySlug (slug : String) :
    (full.temporaryServiceBySlug slug u now).2 = (own.temporaryServiceBySlug slug u now).2 ∧
    View u foreign now (full.temporaryServiceBySlug slug u now).1
      (own.temporaryServiceBySlug slug u now).1 := by
  have hleased : ∀ r, leasedTo slug u now r = true → authorizes u now r = true := by
    intro r hr
    simp only [leasedTo, Bool.and_eq_true, decide_eq_true_eq] at hr
    obtain ⟨⟨⟨⟨-, howner⟩, henabled⟩, hexpires⟩, habsolute⟩ := hr
    simp [authorizes, howner, henabled, hexpires, habsolute]
  unfold temporaryServiceBySlug
  simp only [h.sweep.find_eq hleased]
  cases (own.expireTemporaryServices now).services.rows.find? (leasedTo slug u now) with
  | none => exact ⟨rfl, h.sweep⟩
  | some row => exact ⟨h.sweep.authorized_outcome row.id, h.sweep.authorized row.id⟩

theorem revokeServices :
    View u foreign now (full.revokeTemporaryServices u) (own.revokeTemporaryServices u) := by
  -- revoking makes up for a sweep that has not been made
  have hswept : ∀ {row : ServiceRow}, Mine u row →
      (if (decide ((expireRow now row).ownerDigest = some u) && (expireRow now row).enabled) = true
        then disable (expireRow now row) else expireRow now row) =
      if (decide (row.ownerDigest = some u) && row.enabled) = true then disable row else row := by
    intro row hmine
    by_cases hdue : due now row = true
    · rw [expireRow, if_pos hdue]
      simp only [due, Bool.and_eq_true] at hdue
      obtain ⟨⟨hleased, henabled⟩, -⟩ := hdue
      obtain ⟨v, hv⟩ := Option.isSome_iff_exists.mp hleased
      rw [hmine v hv] at hv
      simp [disable, hv, henabled]
    · rw [expireRow, if_neg hdue]
  refine ⟨h.agents, ?_, h.sessions⟩
  refine h.services.map ?_ ?_
  · intro a b hsame
    refine .of_eq ?_ ?_
    · rw [← hswept hsame.left, hsame.swept, hswept hsame.right]
    · split
      · intro v hv
        cases hv
      · exact hsame.left
  · intro a hhidden
    split
    · exact hhidden.disable
    · exact hhidden

/-- A row whose ID and slug nobody else has drawn can be inserted in both stores or in none. -/
theorem insertService {row : ServiceRow} (hmine : Mine u row)
    (hid : ¬ foreign (.serviceID row.id)) (hslug : ¬ foreign (.slug row.slug)) :
    (full.insertService row).2 = (own.insertService row).2 ∧
    View u foreign now (full.insertService row).1 (own.insertService row).1 := by
  have hfree : full.services.find? row.id = none ↔ own.services.find? row.id = none := by
    rw [Table.find?, Table.find?]
    rcases h.services.find? (p := fun r => r.id = row.id) (q := fun r => r.id = row.id)
      (fun a b hsame => by rw [hsame.id])
      (fun a ha => decide_eq_false (fun heq => hid (heq ▸ ha.id))) with ⟨hf, ho⟩ | ⟨a, b, hf, ho, -⟩
    · rw [hf, ho]
    · rw [hf, ho]
      exact iff_of_false (Option.some_ne_none a) (Option.some_ne_none b)
  have hany : full.services.rows.any (fun other => other.slug = row.slug) =
      own.services.rows.any (fun other => other.slug = row.slug) :=
    h.services.any (fun a b hsame => by rw [hsame.slug])
      (fun a ha => decide_eq_false (fun heq => hslug (heq ▸ ha.slug)))
  unfold Store.insertService
  by_cases hnew : own.services.find? row.id = none
  · rw [dif_pos hnew, dif_pos (hfree.mpr hnew), hany, h.agents]
    split
    · exact ⟨rfl, h⟩
    · exact ⟨rfl, rfl, .shared (.of_eq rfl hmine) h.services, h.sessions⟩
  · rw [dif_neg hnew, dif_neg (fun hf => hnew (hfree.mp hf))]
    exact ⟨rfl, h⟩

theorem createService (request : CreateRequest)
    (raw : Vector UInt8 16) (hid : ¬ foreign (.serviceID (randomID raw)))
    (hslug : ¬ foreign (.slug request.slug)) :
    (Manager.create full request raw now).2 = (Manager.create own request raw now).2 ∧
    View u foreign now (Manager.create full request raw now).1
      (Manager.create own request raw now).1 := by
  rw [Manager.create_eq, Manager.create_eq]
  cases (persistentService request raw).validate with
  | error message => exact ⟨rfl, h⟩
  | ok =>
    have hmine : Mine u (persistentRow (persistentService request raw) now) := nofun
    obtain ⟨houtcome, hview⟩ := h.insertService hmine hid hslug
    simp only [returning, houtcome, true_and]
    exact hview

theorem createTemporary (request : CreateTemporaryRequest)
    (raw rawSlug : Vector UInt8 16) (hid : ¬ foreign (.serviceID (randomID raw)))
    (hslug : ¬ foreign (.slug (randomTemporarySlug rawSlug))) :
    (Manager.createTemporary full u request raw rawSlug now).2 =
      (Manager.createTemporary own u request raw rawSlug now).2 ∧
    View u foreign now (Manager.createTemporary full u request raw rawSlug now).1
      (Manager.createTemporary own u request raw rawSlug now).1 := by
  by_cases hzero : u = Digest.zero
  · rw [Manager.createTemporary, Manager.createTemporary, if_pos hzero, if_pos hzero]
    exact ⟨rfl, h⟩
  rw [Manager.createTemporary_eq full hzero, Manager.createTemporary_eq own hzero, h.agents]
  cases (temporaryService request raw rawSlug).validate with
  | error message => exact ⟨rfl, h⟩
  | ok =>
    have hmine : Mine u (temporaryRow (temporaryService request raw rawSlug) u now) := by
      intro v hv
      exact (Option.some.inj hv).symm
    obtain ⟨houtcome, hview⟩ := h.sweep.insertService hmine hid hslug
    simp only [returning]
    split
    · exact ⟨by rw [houtcome], hview⟩
    · exact ⟨rfl, h.sweep⟩

/-! ### Sessions, as `u` sees them -/

theorem sessions_find_eq {p : SessionRow → Bool} (hp : ∀ r, p r = true → r.userDigest = u) :
    full.sessions.rows.find? p = own.sessions.rows.find? p := by
  rw [← List.head?_filter, ← List.head?_filter]
  rw [h.sessions.filter_eq (fun a b hab => by rw [hab.1]) (fun a b hab _ => hab.1)]
  intro a ha
  exact Bool.eq_false_iff.mpr (fun hpa => ha.user (hp a hpa))

/-- An update of sessions of `u`. -/
theorem updateSessions {p : SessionRow → Bool}
    {f : SessionRow → SessionRow} (hf : ∀ r, (f r).id = r.id)
    (hp : ∀ r, p r = true → r.userDigest = u) (huser : ∀ r, (f r).userDigest = r.userDigest) :
    full.sessions.rows.countP p = own.sessions.rows.countP p ∧
    View u foreign now { full with sessions := full.sessions.update p f hf }
      { own with sessions := own.sessions.update p f hf } := by
  have hhidden : ∀ a, HiddenSession u foreign a → p a = false :=
    fun a ha => Bool.eq_false_iff.mpr (fun hpa => ha.user (hp a hpa))
  refine ⟨h.sessions.countP (fun a b hab => by rw [hab.1]) hhidden, h.agents, h.services, ?_⟩
  refine h.sessions.map ?_ ?_
  · rintro a b ⟨rfl, hmine⟩
    refine ⟨rfl, ?_⟩
    split
    · rw [huser, hmine]
    · exact hmine
  · intro a ha
    rw [hhidden a ha]
    exact ha

theorem touch (id : String) (seenAt expiresAt : Int) :
    (full.touchBrowserSession id u seenAt expiresAt).2 =
      (own.touchBrowserSession id u seenAt expiresAt).2 ∧
    View u foreign now (full.touchBrowserSession id u seenAt expiresAt).1
      (own.touchBrowserSession id u seenAt expiresAt).1 := by
  have hp : ∀ r, touchable id u seenAt expiresAt r = true → r.userDigest = u := by
    intro r hr
    simp only [touchable, Bool.and_eq_true, decide_eq_true_eq] at hr
    exact hr.1.1.1.2
  obtain ⟨hcount, hview⟩ := h.updateSessions
    (f := fun row => { row with lastSeenAt := unix seenAt, expiresAt := unix expiresAt })
    (fun _ => rfl) hp (fun _ => rfl)
  exact ⟨by simp only [touchBrowserSession, hcount], hview⟩

theorem revokeSession (id : String) (time : Int) :
    (full.revokeBrowserSession id u time).2 = (own.revokeBrowserSession id u time).2 ∧
    View u foreign now (full.revokeBrowserSession id u time).1
      (own.revokeBrowserSession id u time).1 := by
  have hp : ∀ r, revocable id u r = true → r.userDigest = u := by
    intro r hr
    simp only [revocable, Bool.and_eq_true, decide_eq_true_eq] at hr
    exact hr.1.2
  obtain ⟨hcount, hview⟩ := h.updateSessions
    (f := fun row => { row with revokedAt := some (unix time) }) (fun _ => rfl) hp (fun _ => rfl)
  exact ⟨by simp only [revokeBrowserSession, hcount], hview⟩

theorem revokeSessions (time : Int) :
    View u foreign now (full.revokeBrowserSessions u time) (own.revokeBrowserSessions u time) := by
  refine (h.updateSessions (f := fun row => { row with revokedAt := some (unix time) })
    (fun _ => rfl) ?_ (fun _ => rfl)).2
  intro r hr
  simp only [Bool.and_eq_true, decide_eq_true_eq] at hr
  exact hr.1

/-- A session of `u` whose ID and token nobody else has drawn can be inserted in both stores or in
    none. -/
theorem createBrowserSession (record : Record)
    (huser : record.userDigest = u) (hhost : record.temporaryHost = "")
    (hid : ¬ foreign (.sessionID record.id)) (htoken : ¬ foreign (.token record.tokenDigest))
    (hfull : full.services.find? record.serviceID ≠ none)
    (hown : own.services.find? record.serviceID ≠ none) :
    (full.createBrowserSession record).2 = (own.createBrowserSession record).2 ∧
    View u foreign now (full.createBrowserSession record).1 (own.createBrowserSession record).1 := by
  have hfree : full.sessions.find? record.toRow.id = none ↔
      own.sessions.find? record.toRow.id = none := by
    rw [Table.find?, Table.find?]
    rcases h.sessions.find? (p := fun r => r.id = record.id) (q := fun r => r.id = record.id)
      (fun a b hab => by rw [hab.1])
      (fun a ha => decide_eq_false (fun heq => hid (heq ▸ ha.id))) with ⟨hf, ho⟩ | ⟨a, b, hf, ho, -⟩
    · exact ⟨fun _ => ho, fun _ => hf⟩
    · have hsome := iff_of_false (Option.some_ne_none a) (Option.some_ne_none b)
      exact hf ▸ ho ▸ hsome
  -- no row has a host, so only the tokens are compared
  have hno : record.toRow.temporaryHost = none := if_pos hhost
  have hany : full.sessions.rows.any (fun other => other.tokenDigest = record.tokenDigest ||
        (other.temporaryHost.isSome && other.temporaryHost = record.toRow.temporaryHost)) =
      own.sessions.rows.any (fun other => other.tokenDigest = record.tokenDigest ||
        (other.temporaryHost.isSome && other.temporaryHost = record.toRow.temporaryHost)) := by
    refine h.sessions.any (fun a b hab => by rw [hab.1]) ?_
    intro a ha
    have hne : a.tokenDigest ≠ record.tokenDigest := fun heq => htoken (heq ▸ ha.token)
    cases hhost : a.temporaryHost <;> simp [hne, hno]
  unfold Store.createBrowserSession
  by_cases hnew : own.sessions.find? record.toRow.id = none
  · rw [dif_pos hnew, dif_pos (hfree.mpr hnew), hany, h.agents]
    simp only [hfull, hown]
    split
    · exact ⟨rfl, h⟩
    · exact ⟨rfl, rfl, h.services, .shared ⟨rfl, huser⟩ h.sessions⟩
  · rw [dif_neg hnew, dif_neg (fun hf => hnew (hfree.mp hf))]
    exact ⟨rfl, h⟩

theorem create (sha256 : List UInt8 → Digest)
    (serviceID : String) (raw : Vector UInt8 16) (rawToken : Vector UInt8 32) (later : Int)
    (hid : ¬ foreign (.sessionID (randomID raw)))
    (htoken : ¬ foreign (.token (newToken sha256 rawToken).2)) :
    (Session.create sha256 full u serviceID raw rawToken now later).2 =
      (Session.create sha256 own u serviceID raw rawToken now later).2 ∧
    View u foreign now (Session.create sha256 full u serviceID raw rawToken now later).1
      (Session.create sha256 own u serviceID raw rawToken now later).1 := by
  have houtcome := h.authorized_outcome serviceID
  have hview := h.authorized serviceID
  unfold Session.create
  cases hfull : full.authorizedService serviceID u now with
  | mk full' outcome =>
  cases hown : own.authorizedService serviceID u now with
  | mk own' outcome' =>
  rw [hfull, hown] at houtcome hview
  cases houtcome
  cases outcome with
  | error e => exact ⟨rfl, hview⟩
  | ok target =>
    simp only
    split
    · exact ⟨rfl, hview⟩
    · have hinserted := hview.createBrowserSession
        (newRecord target u (randomID raw) (newToken sha256 rawToken).2 later) rfl rfl hid htoken
        (authorizedService_exists hfull) (authorizedService_exists hown)
      generalize Store.createBrowserSession full' _ = result at hinserted ⊢
      generalize Store.createBrowserSession own' _ = result' at hinserted ⊢
      obtain ⟨full'', outcome⟩ := result
      obtain ⟨own'', outcome'⟩ := result'
      obtain ⟨houtcome, hview'⟩ := hinserted
      cases houtcome
      cases outcome with
      | error e => exact ⟨rfl, hview'⟩
      | ok => exact ⟨rfl, hview'⟩

theorem opened_eq (sha256 : List UInt8 → Digest) (id token : String) :
    opened sha256 full id u token now = opened sha256 own id u token now := by
  rw [opened, opened, Table.filter_find?, Table.filter_find?]
  split
  · refine h.sessions_find_eq (fun r hr => ?_)
    simp only [sessionOpen, Bool.and_eq_true, decide_eq_true_eq] at hr
    exact hr.1.1.1.1.1
  · rfl

theorem lookup (sha256 : List UInt8 → Digest) (id token : String) :
    (Session.lookup sha256 full id u token now).2 = (Session.lookup sha256 own id u token now).2 ∧
    lookupAccess sha256 full id u token now = lookupAccess sha256 own id u token now ∧
    View u foreign now (Session.lookup sha256 full id u token now).1
      (Session.lookup sha256 own id u token now).1 := by
  have hfull := lookup_spec sha256 full id u token now
  have hown := lookup_spec sha256 own id u token now
  rw [h.opened_eq] at hfull
  cases hopened : opened sha256 own id u token now with
  | none =>
    simp only [hopened] at hfull hown
    rw [hfull.1, hfull.2, hown.1, hown.2]
    exact ⟨rfl, rfl, h⟩
  | some row =>
    simp only [hopened, h.selectAuthorized_eq] at hfull hown
    cases hselect : own.selectAuthorized row.serviceID u now with
    | none =>
      -- one of the stores may be swept and the other not
      simp only [hselect] at hfull hown
      obtain ⟨houtcome, hstore, haccess⟩ := hfull
      obtain ⟨houtcome', hstore', haccess'⟩ := hown
      refine ⟨houtcome.trans houtcome'.symm, haccess.trans haccess'.symm, ?_⟩
      rcases hstore with hstore | hstore <;> rcases hstore' with hstore' | hstore' <;>
        rw [hstore, hstore']
      · exact h
      · exact h.sweepOwn
      · exact h.sweepFull
      · exact h.sweep
    | some service =>
      simp only [hselect] at hfull hown
      rw [hfull.1, hfull.2, hown.1, hown.2]
      have hview := h.authorized row.serviceID
      split
      · exact ⟨rfl, rfl, (hview.touch id now _).2⟩
      · exact ⟨rfl, rfl, hview⟩

/-- The list of services shows nothing of the others. -/
theorem listServices_eq : full.listServices = own.listServices := by
  unfold listServices
  rw [h.filter_eq]
  intro r hr
  simp only [Bool.and_eq_true, decide_eq_true_eq] at hr
  simp [authorizes, hr.1, hr.2]

end View

end WebVPN.Session
