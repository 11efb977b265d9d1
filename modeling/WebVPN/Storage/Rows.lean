import WebVPN.Storage.Store

namespace WebVPN.Storage

open WebVPN.Library WebVPN.Catalog

/-!
# Storage — what the statements do to a row

Every operation of the store is described by what it does to the row of one key, so that
later arguments follow one row and never look at a table.

* `unix_add_idle`, `unix_notAfter` — seconds and the minimum with an absolute limit;
* `Store.expireRow`, `Store.leaseRow` — expiry and renewal of one service row;
* `Store.authorizedService_rows`, `Store.authorizedService_spec` — what `AuthorizedService` returns
  and what it leaves behind.
-/

/-! ### Seconds -/

theorem unix_add_idle (t : Int) : unix (t + 30 * minute) = unix t + 1800 := by
  unfold unix minute second
  omega

theorem unix_add_absolute (t : Int) : unix (t + 120 * minute) = unix t + 7200 := by
  unfold unix minute second
  omega

theorem unix_mono {t t' : Int} (h : t ≤ t') : unix t ≤ unix t' := by
  unfold unix second
  omega

/-- Renewal up to an absolute limit in whole seconds. -/
theorem unix_notAfter (t limit : Int) :
    unix (notAfter (t + 30 * minute) (fromUnix limit)) = min (unix t + 1800) limit := by
  unfold notAfter unix fromUnix minute second
  split <;> omega

namespace Store

/-! ### Services -/

/-- The row after the expiry sweep. -/
def expireRow (now : Int) (row : ServiceRow) : ServiceRow := if due now row then disable row else row

/-- The row after an access by `owner`. -/
def leaseRow (owner : Digest) (now : Int) (row : ServiceRow) : ServiceRow :=
  if authorizes owner now row ∧ row.ownerDigest ≠ none then
    { row with expiresAt := row.absoluteExpiresAt.map (min (unix now + 1800)) }
  else row

@[simp] theorem expireRow_id (now : Int) (row : ServiceRow) : (expireRow now row).id = row.id := by
  unfold expireRow
  split <;> rfl

theorem expireTemporaryServices_rows (store : Store) (now : Int) :
    (store.expireTemporaryServices now).services.rows = store.services.rows.map (expireRow now) :=
  rfl

@[simp] theorem find?_expireTemporaryServices (store : Store) (now : Int) (id : String) :
    (store.expireTemporaryServices now).services.find? id =
      (store.services.find? id).map (expireRow now) :=
  Table.find?_update store.services (due now) disable (fun _ => rfl) id

theorem find?_revokeTemporaryServices (store : Store) (owner : Digest) (id : String) :
    (store.revokeTemporaryServices owner).services.find? id =
      (store.services.find? id).map (fun row =>
        if row.ownerDigest = some owner ∧ row.enabled = true then disable row else row) := by
  refine (Table.find?_update store.services _ disable (fun _ => rfl) id).trans ?_
  simp only [Bool.and_eq_true, decide_eq_true_eq]

variable {row : ServiceRow}

/-- A row that authorizes somebody is not due. -/
theorem due_eq_false_of_authorizes {owner : Digest} {now : Int}
    (hauthorizes : authorizes owner now row = true) : due now row = false := by
  simp only [authorizes, Bool.and_eq_true, Bool.or_eq_true, decide_eq_true_eq] at hauthorizes
  obtain ⟨-, hnone | ⟨⟨-, hexpires⟩, habsolute⟩⟩ := hauthorizes
  · simp [due, hnone]
  · obtain ⟨expires, hexp, hlt⟩ := (Option.any_eq_true _ _).mp hexpires
    obtain ⟨absolute, habs, hlt'⟩ := (Option.any_eq_true _ _).mp habsolute
    simp only [decide_eq_true_eq] at hlt hlt'
    simp [due, hexp, habs, hlt, hlt']

theorem expireRow_of_authorizes {owner : Digest} {now : Int}
    (hauthorizes : authorizes owner now row = true) : expireRow now row = row := by
  rw [expireRow, due_eq_false_of_authorizes hauthorizes]
  rfl

@[simp] theorem authorizes_expireRow (owner : Digest) (now : Int) (row : ServiceRow) :
    authorizes owner now (expireRow now row) = authorizes owner now row := by
  by_cases hauthorizes : authorizes owner now row = true
  · rw [expireRow_of_authorizes hauthorizes]
  · rw [expireRow]
    split
    · rw [Bool.not_eq_true] at hauthorizes
      rw [hauthorizes]
      rfl
    · rfl

/-- The sweep never touches what the `SELECT` after it looks for. -/
theorem selectAuthorized_expireTemporaryServices (store : Store) (serviceID : String)
    (owner : Digest) (now : Int) :
    (store.expireTemporaryServices now).selectAuthorized serviceID owner now =
      store.selectAuthorized serviceID owner now := by
  rw [selectAuthorized, selectAuthorized, find?_expireTemporaryServices]
  cases store.services.find? serviceID with
  | none => rfl
  | some row =>
    rw [Option.map_some, Option.filter_some, Option.filter_some, authorizes_expireRow]
    split
    · rw [expireRow_of_authorizes (by assumption)]
    · rfl

variable (store : Store) (serviceID : String) (owner : Digest) (now : Int)

/-- The renewal always finds the row that has just been selected. -/
theorem renewable_of_authorizes (hauthorizes : authorizes owner now row = true)
    (howner : row.ownerDigest ≠ none) :
    renewable row.id owner now
      (notAfter (now + 30 * minute) (fromUnix (row.absoluteExpiresAt.getD 0))) row = true := by
  simp only [authorizes, Bool.and_eq_true, Bool.or_eq_true, decide_eq_true_eq] at hauthorizes
  obtain ⟨henabled, hnone | ⟨⟨hsome, hexpires⟩, habsolute⟩⟩ := hauthorizes
  · exact absurd hnone howner
  · obtain ⟨absolute, habs, hlt⟩ := (Option.any_eq_true _ _).mp habsolute
    simp [renewable, hsome, henabled, hexpires, habs, unix_notAfter]

/-- Only the row of the service can be renewed, and it is renewed as `leaseRow` says. -/
theorem renew_eq_leaseRow (hauthorizes : authorizes owner now row = true)
    (howner : row.ownerDigest ≠ none) :
    { row with expiresAt := some (unix (notAfter (now + 30 * minute)
      (fromUnix (row.absoluteExpiresAt.getD 0)))) } = leaseRow owner now row := by
  have hlease : authorizes owner now row ∧ row.ownerDigest ≠ none := ⟨hauthorizes, howner⟩
  simp only [authorizes, Bool.and_eq_true, Bool.or_eq_true, decide_eq_true_eq] at hauthorizes
  obtain ⟨-, hnone | ⟨-, habsolute⟩⟩ := hauthorizes
  · exact absurd hnone howner
  · obtain ⟨absolute, habs, -⟩ := (Option.any_eq_true _ _).mp habsolute
    rw [leaseRow, if_pos hlease, habs, Option.getD_some, unix_notAfter, Option.map_some]

/-- The sweep and the renewal in one pass over the rows. -/
theorem authorizedService_rows :
    (store.authorizedService serviceID owner now).1.services.rows =
      store.services.rows.map (fun row =>
        if row.id = serviceID then leaseRow owner now (expireRow now row)
        else expireRow now row) := by
  unfold authorizedService
  simp only [selectAuthorized_expireTemporaryServices]
  cases hrow : store.selectAuthorized serviceID owner now with
  | none =>
    -- nothing is renewed: the row of the service does not authorize the owner
    simp only [expireTemporaryServices_rows]
    apply List.map_congr_left
    intro row hmem
    by_cases hid : row.id = serviceID
    · have hnot : ¬ (authorizes owner now row = true) := by
        intro hauthorizes
        rw [selectAuthorized, Table.find?_eq_some_iff.mpr ⟨hmem, hid⟩, Option.filter_some,
          if_pos hauthorizes] at hrow
        cases hrow
      rw [if_pos hid, leaseRow, authorizes_expireRow, if_neg (fun h => hnot h.1)]
    · rw [if_neg hid]
  | some row₀ =>
    rw [selectAuthorized, Option.filter_eq_some_iff] at hrow
    obtain ⟨hfind, hauthorizes⟩ := hrow
    have hkey : row₀.id = serviceID := Table.key_of_find? hfind
    have hsame : expireRow now row₀ = row₀ := expireRow_of_authorizes hauthorizes
    have hother : ∀ row ∈ store.services.rows, row.id = serviceID → row = row₀ := by
      intro row hmem hid
      exact Option.some.inj ((Table.find?_eq_some_iff.mpr ⟨hmem, hid⟩).symm.trans hfind)
    simp only
    by_cases howner : row₀.ownerDigest = none
    · -- a persistent service has no lease
      rw [if_pos howner, expireTemporaryServices_rows]
      apply List.map_congr_left
      intro row hmem
      by_cases hid : row.id = serviceID
      · rw [hother row hmem hid, if_pos hkey, hsame, leaseRow, if_neg (fun h => h.2 howner)]
      · rw [if_neg hid]
    · rw [if_neg howner]
      have hrenewable := renewable_of_authorizes owner now hauthorizes howner
      have hlease := renew_eq_leaseRow owner now hauthorizes howner
      generalize notAfter (now + 30 * minute) (fromUnix (row₀.absoluteExpiresAt.getD 0)) = next
        at hrenewable hlease
      have hrows : ((store.expireTemporaryServices now).renewService row₀.id owner now
          next).1.services.rows = store.services.rows.map (fun row =>
            if row.id = serviceID then leaseRow owner now (expireRow now row)
            else expireRow now row) := by
        refine List.map_map.trans (List.map_congr_left ?_)
        intro row hmem
        have hswept : (if due now row then disable row else row) = expireRow now row := rfl
        rw [Function.comp_apply, hswept]
        by_cases hid : row.id = serviceID
        · rw [hother row hmem hid, if_pos hkey, hsame, if_pos hrenewable]
          exact hlease
        · have hnot : renewable row₀.id owner now next (expireRow now row) = false := by
            simp [renewable, hkey, hid]
          rw [if_neg hid, hnot]
          rfl
      split <;> exact hrows

/-- `AuthorizedService` returns what the `SELECT` finds: the renewal never fails. -/
theorem authorizedService_outcome :
    (store.authorizedService serviceID owner now).2 =
      (match store.selectAuthorized serviceID owner now with
        | some row => .ok row.toService
        | none => .error .notFound) := by
  unfold authorizedService
  simp only [selectAuthorized_expireTemporaryServices]
  cases hrow : store.selectAuthorized serviceID owner now with
  | none => rfl
  | some row₀ =>
    rw [selectAuthorized, Option.filter_eq_some_iff] at hrow
    obtain ⟨hfind, hauthorizes⟩ := hrow
    have hkey : row₀.id = serviceID := Table.key_of_find? hfind
    simp only
    by_cases howner : row₀.ownerDigest = none
    · rw [if_pos howner]
    · rw [if_neg howner]
      have hrenewable := renewable_of_authorizes owner now hauthorizes howner
      generalize notAfter (now + 30 * minute) (fromUnix (row₀.absoluteExpiresAt.getD 0)) = next
        at hrenewable
      have hcount : ((store.expireTemporaryServices now).renewService row₀.id owner now next).2 =
          1 := by
        have hp : ∀ r, renewable row₀.id owner now next r = true → r.id = serviceID := by
          intro r hr
          simp only [renewable, Bool.and_eq_true, decide_eq_true_eq, hkey] at hr
          exact hr.1.1.1.1
        rw [renewService, Table.countP_eq _ hp, find?_expireTemporaryServices, hfind,
          Option.map_some, Option.any_some, expireRow_of_authorizes hauthorizes, if_pos hrenewable]
      rw [if_neg (by rw [hcount]; exact fun h => h rfl)]

@[simp] theorem leaseRow_id (row : ServiceRow) : (leaseRow owner now row).id = row.id := by
  unfold leaseRow
  split <;> rfl

/-- **`AuthorizedService`, row by row.**  It returns the row of the service if that authorizes
    the owner; every other row is swept, and the row returned is renewed. -/
theorem authorizedService_spec :
    (store.authorizedService serviceID owner now).2 =
      (match store.selectAuthorized serviceID owner now with
        | some row => .ok row.toService
        | none => .error .notFound) ∧
    (∀ id, (store.authorizedService serviceID owner now).1.services.find? id =
      (store.services.find? id).map (fun row =>
        if row.id = serviceID then leaseRow owner now (expireRow now row)
        else expireRow now row)) ∧
    (store.authorizedService serviceID owner now).1.sessions = store.sessions ∧
    (store.authorizedService serviceID owner now).1.agents = store.agents := by
  refine ⟨authorizedService_outcome store serviceID owner now, ?_, ?_⟩
  · refine Table.find?_of_rows_eq_map ?_ (authorizedService_rows store serviceID owner now)
    intro row
    split <;> simp only [leaseRow_id, expireRow_id]
  · unfold authorizedService
    simp only
    split
    · exact ⟨rfl, rfl⟩
    · split
      · exact ⟨rfl, rfl⟩
      · split <;> exact ⟨rfl, rfl⟩

@[simp] theorem expireRow_expireRow (row : ServiceRow) :
    expireRow now (expireRow now row) = expireRow now row := by
  by_cases hdue : due now row = true
  · rw [expireRow, expireRow, if_pos hdue]
    rfl
  · rw [expireRow, expireRow, if_neg hdue, if_neg hdue]

/-- A second sweep at the same time does nothing. -/
theorem expireTemporaryServices_idem :
    (store.expireTemporaryServices now).expireTemporaryServices now =
      store.expireTemporaryServices now := by
  have hrows : ((store.expireTemporaryServices now).expireTemporaryServices now).services.rows =
      (store.expireTemporaryServices now).services.rows := by
    simp only [expireTemporaryServices, Table.update, List.map_map]
    apply List.map_congr_left
    intro row _
    exact expireRow_expireRow now row
  unfold expireTemporaryServices at hrows ⊢
  simp only [Store.mk.injEq, true_and, and_true]
  exact Table.ext hrows

/-- `TemporaryServiceBySlug` only sweeps, or it ends as `AuthorizedService` does. -/
theorem temporaryServiceBySlug_cases (slug : String) :
    store.temporaryServiceBySlug slug owner now =
      (store.expireTemporaryServices now, .error .notFound) ∨
    ∃ serviceID, store.temporaryServiceBySlug slug owner now =
      store.authorizedService serviceID owner now := by
  unfold temporaryServiceBySlug
  simp only
  cases (store.expireTemporaryServices now).services.rows.find? (leasedTo slug owner now) with
  | none => exact .inl rfl
  | some row =>
    refine .inr ⟨row.id, ?_⟩
    simp only [authorizedService, expireTemporaryServices_idem]

/-! ### Sessions -/

/-- The row after its revocation. -/
def revokeRow (row : SessionRow) : SessionRow := { row with revokedAt := some (unix now) }

theorem find?_revokeBrowserSessions (userDigest : Digest) (id : String) :
    (store.revokeBrowserSessions userDigest now).sessions.find? id =
      (store.sessions.find? id).map (fun row =>
        if row.userDigest = userDigest ∧ row.revokedAt = none then revokeRow now row else row) := by
  refine (Table.find?_update store.sessions _ (revokeRow now) (fun _ => rfl) id).trans ?_
  simp only [Bool.and_eq_true, decide_eq_true_eq]

/-- `RevokeBrowserSession` succeeds exactly when it revokes the row of the session. -/
theorem revokeBrowserSession_spec (id : String) (userDigest : Digest) :
    ((store.revokeBrowserSession id userDigest now).2 = .ok () ↔
      (store.sessions.find? id).any (fun row => row.userDigest = userDigest && row.revokedAt = none)
        = true) ∧
    ∀ id', (store.revokeBrowserSession id userDigest now).1.sessions.find? id' =
      (store.sessions.find? id').map (fun row =>
        if row.id = id ∧ row.userDigest = userDigest ∧ row.revokedAt = none then revokeRow now row
        else row) := by
  have honly : ∀ r, revocable id userDigest r = true → r.id = id := by
    intro r hr
    simp only [revocable, Bool.and_eq_true, decide_eq_true_eq] at hr
    exact hr.1.1
  constructor
  · have hany : (store.sessions.find? id).any (revocable id userDigest) =
        (store.sessions.find? id).any
          (fun row => row.userDigest = userDigest && row.revokedAt = none) := by
      cases hfind : store.sessions.find? id with
      | none => rfl
      | some row => simp [revocable, Table.key_of_find? hfind]
    simp only [revokeBrowserSession, Table.countP_eq _ honly, hany]
    cases (store.sessions.find? id).any
      (fun row => row.userDigest = userDigest && row.revokedAt = none) <;> simp
  · intro id'
    refine (Table.find?_update store.sessions _ (revokeRow now) (fun _ => rfl) id').trans ?_
    simp only [revocable, Bool.and_eq_true, decide_eq_true_eq, and_assoc]

end Store

end WebVPN.Storage
