import WebVPN.Library.Text
import Mathlib.Data.List.Nodup

namespace WebVPN.Storage

open WebVPN.Library

/-!
# Storage — migrations

`ApplyMigrations` (`internal/storage/sqlite_store.go`) reads the highest recorded version and applies
the migrations above it, each in a transaction of its own that also records it.  A migration is a
function on the schema, any statement may fail, and a transaction that fails is rolled back.

* `Database`, `applyMigrations` — the recorded versions and the schema, and the call;
* `Reaches` — what a database has gained since an earlier state;
* `migrate_reaches`, `applyMigrations_reaches` — the loop, and a whole call;
* `applyMigrations_completes` — a call in which nothing fails;
* `applyMigrations_resumable` — any number of calls.
-/

/-! ### The database -/

/-- The rows of `schema_migrations`: a version and the time of its application. -/
structure VersionTable where
  rows : List (Nat × Int)
  primaryKey : (rows.map Prod.fst).Nodup

/-- No version. -/
def VersionTable.empty : VersionTable := ⟨[], List.nodup_nil⟩

/-- The recorded versions. -/
def VersionTable.versions (table : VersionTable) : List Nat := table.rows.map Prod.fst

/-- `INSERT INTO schema_migrations(version, applied_at)`. -/
def VersionTable.insert (table : VersionTable) (version : Nat) (appliedAt : Int) :
    Except String VersionTable :=
  if h : version ∈ table.rows.map Prod.fst then
    .error "UNIQUE constraint failed: schema_migrations.version"
  else
    .ok ⟨table.rows ++ [(version, appliedAt)], by
      rw [List.map_append, List.nodup_append]
      refine ⟨table.primaryKey, List.nodup_singleton _, ?_⟩
      intro v hv w hw heq
      have hw : w = version := List.mem_singleton.mp hw
      exact h (hw ▸ heq ▸ hv)⟩

/-- `schema_migrations`, absent before the first call, and everything else in the database. -/
structure Database (σ : Type) where
  table : Option VersionTable
  schema : σ

/-- A migration. -/
structure Migration (σ : Type) where
  version : Nat
  sql : σ → Except String σ

/-- The statements of a call. -/
inductive MigrationStatement
  | configure (index : Nat)
  | readVersion
  | begin (version : Nat)
  | apply (version : Nat)
  | record (version : Nat)
  | commit (version : Nat)
deriving DecidableEq, Repr

/-- What a call meets: the statements that fail, and the time at which a migration is recorded. -/
structure Conditions where
  failure : MigrationStatement → Option String
  now : Nat → Int

section Apply

variable {σ : Type}

/-- The recorded versions. -/
def Database.versions (db : Database σ) : List Nat := (db.table.getD .empty).versions

/-- The outcome of a statement, with the text that wraps its error. -/
def Conditions.exec {α : Type} (conditions : Conditions) (statement : MigrationStatement)
    (context : String) (result : Except String α) : Except String α :=
  match conditions.failure statement, result with
  | some e, _ => .error (context ++ ": " ++ e)
  | none, .error e => .error (context ++ ": " ++ e)
  | none, .ok a => .ok a

/-- `CREATE TABLE IF NOT EXISTS schema_migrations`. -/
def Database.createTable (db : Database σ) : Database σ :=
  { db with table := some (db.table.getD .empty) }

/-- `SELECT COALESCE(MAX(version), 0) FROM schema_migrations`. -/
def Database.readVersion (db : Database σ) : Except String Nat :=
  match db.table with
  | none => .error "no such table: schema_migrations"
  | some table => .ok (table.versions.max?.getD 0)

/-- The `INSERT` of a migration. -/
def Database.record (db : Database σ) (version : Nat) (appliedAt : Int) : Except String (Database σ) :=
  match db.table with
  | none => .error "no such table: schema_migrations"
  | some table => (table.insert version appliedAt).map (fun table' => { db with table := some table' })

/-- One migration in its transaction; an error leaves the database as it was. -/
def transaction (conditions : Conditions) (migration : Migration σ) (db : Database σ) :
    Except String (Database σ) := do
  let version := migration.version
  conditions.exec (.begin version) ("begin migration " ++ toString version) (.ok ())
  let schema ← conditions.exec (.apply version) ("apply migration " ++ toString version)
    (migration.sql db.schema)
  let db' ← conditions.exec (.record version) ("record migration " ++ toString version)
    (Database.record { db with schema := schema } version (conditions.now version))
  conditions.exec (.commit version) ("commit migration " ++ toString version) (.ok db')

/-- The loop over the migrations. -/
def migrate (conditions : Conditions) (current : Nat) :
    List (Migration σ) → Database σ → Database σ × Except String Unit
  | [], db => (db, .ok ())
  | migration :: rest, db =>
    if migration.version ≤ current then migrate conditions current rest db
    else
      match transaction conditions migration db with
      | .error e => (db, .error e)
      | .ok db' => migrate conditions current rest db'

/-- The statements before the version is read.  The first three are pragmas, which set up the connection
    and its journal. -/
def configure (conditions : Conditions) (db : Database σ) : Except String (Database σ) := do
  conditions.exec (.configure 0) "configure SQLite" (.ok ())
  conditions.exec (.configure 1) "configure SQLite" (.ok ())
  conditions.exec (.configure 2) "configure SQLite" (.ok ())
  conditions.exec (.configure 3) "configure SQLite" (.ok db.createTable)

/-- `ApplyMigrations`. -/
def applyMigrations (migrations : List (Migration σ)) (conditions : Conditions) (db : Database σ) :
    Database σ × Except String Unit :=
  match configure conditions db with
  | .error e => (db, .error e)
  | .ok db =>
    match conditions.exec .readVersion "read schema version" db.readVersion with
    | .error e => (db, .error e)
    | .ok current =>
      if migrations.length < current then
        (db, .error ("database schema version " ++ toString current ++
          " is newer than supported version " ++ toString migrations.length))
      else migrate conditions current migrations db

/-- Any number of calls, one after the other. -/
def applyAgain (migrations : List (Migration σ)) (db : Database σ) (calls : List Conditions) :
    Database σ :=
  calls.foldl (fun db conditions => (applyMigrations migrations conditions db).1) db

/-! ### Single statements -/

variable {conditions : Conditions}

theorem Conditions.exec_ok {α : Type} {statement : MigrationStatement}
    {context : String} {result : Except String α} {a : α}
    (h : conditions.exec statement context result = .ok a) : result = .ok a := by
  unfold Conditions.exec at h
  split at h
  · cases h
  · cases h
  · cases h
    rfl

variable {db db' : Database σ}

/-- A recorded version is the last one, and the rest of the database stays. -/
theorem record_ok {version : Nat} {appliedAt : Int} (h : db.record version appliedAt = .ok db') :
    db'.schema = db.schema ∧ db'.versions = db.versions ++ [version] ∧ db'.table.isSome = true := by
  unfold Database.record at h
  split at h
  · cases h
  · rename_i table htable
    unfold VersionTable.insert at h
    split at h
    · cases h
    · cases h
      refine ⟨rfl, ?_, rfl⟩
      show (table.rows ++ [(version, appliedAt)]).map Prod.fst = _
      rw [List.map_append, Database.versions, htable]
      rfl

variable {migration : Migration σ}

/-- A committed transaction has applied one migration and recorded its version. -/
theorem transaction_ok (h : transaction conditions migration db = .ok db') :
    migration.sql db.schema = .ok db'.schema ∧ db'.versions = db.versions ++ [migration.version] ∧
      db'.table.isSome = true := by
  obtain ⟨-, -, h⟩ := bind_eq_ok.mp h
  obtain ⟨schema, hschema, h⟩ := bind_eq_ok.mp h
  obtain ⟨recorded, hrecorded, hcommit⟩ := bind_eq_ok.mp h
  cases Conditions.exec_ok hcommit
  have hsql := Conditions.exec_ok hschema
  have hrow := Conditions.exec_ok hrecorded
  obtain ⟨hkept, hversions, htable⟩ := record_ok hrow
  exact ⟨hkept ▸ hsql, hversions, htable⟩

theorem configure_ok (h : configure conditions db = .ok db') : db' = db.createTable := by
  obtain ⟨-, -, h⟩ := bind_eq_ok.mp h
  obtain ⟨-, -, h⟩ := bind_eq_ok.mp h
  obtain ⟨-, -, h⟩ := bind_eq_ok.mp h
  exact (Except.ok.inj (Conditions.exec_ok h)).symm

theorem createTable_of_isSome {db : Database σ} (h : db.table.isSome = true) : db.createTable = db := by
  obtain ⟨table, htable⟩ := Option.isSome_iff_exists.mp h
  unfold Database.createTable
  rw [htable, Option.getD_some, ← htable]

/-! ### Progress -/

/-- The recorded versions are 1 to `k`. -/
def Database.Records (db : Database σ) (k : Nat) : Prop := ∀ v, v ∈ db.versions ↔ 1 ≤ v ∧ v ≤ k

/-- The highest recorded version. -/
theorem readVersion_of_records {db : Database σ} {k current : Nat} (h : db.Records k)
    (hread : db.readVersion = .ok current) : current = k := by
  unfold Database.readVersion at hread
  split at hread
  · cases hread
  · rename_i table htable
    cases hread
    have hversions : db.versions = table.versions := by
      rw [Database.versions, htable]
      rfl
    rw [Database.Records, hversions] at h
    cases hmax : table.versions.max? with
    | none =>
      -- no row, so that not even 1 is recorded
      rw [List.max?_eq_none_iff] at hmax
      have hone := h 1
      rw [hmax] at hone
      have : ¬ 1 ≤ k := fun hk => List.not_mem_nil (hone.mpr ⟨Nat.le_refl 1, hk⟩)
      simp only [Option.getD_none]
      omega
    | some v =>
      obtain ⟨hmem, hmost⟩ := List.max?_eq_some_iff.mp hmax
      have hv := (h v).mp hmem
      have hk := hmost k ((h k).mpr ⟨by omega, Nat.le_refl k⟩)
      simp only [Option.getD_some]
      omega

/-- The versions are 1 to the number of migrations. -/
def Contiguous (migrations : List (Migration σ)) : Prop :=
  migrations.map Migration.version = List.range' 1 migrations.length

/-- The schema that the migrations make of another one, each applied once and in order. -/
def applyAll (migrations : List (Migration σ)) (base : σ) : Except String σ :=
  migrations.foldlM (fun schema migration => migration.sql schema) base

/-- Since `db`, which had recorded `k` versions, migrations up to `j` have been applied and recorded. -/
structure Reaches (migrations : List (Migration σ)) (k : Nat) (db : Database σ) (j : Nat)
    (db' : Database σ) : Prop where
  le : k ≤ j
  records : db'.Records j
  schema : ∀ base, applyAll (migrations.take k) base = .ok db.schema →
    applyAll (migrations.take j) base = .ok db'.schema

variable {migrations done rest : List (Migration σ)} {k j : Nat} {db db' db'' : Database σ}

theorem Reaches.refl (h : db.Records k) : Reaches migrations k db k db :=
  ⟨Nat.le_refl k, h, fun _ hbase => hbase⟩

theorem Reaches.trans {i : Nat} (h : Reaches migrations k db j db')
    (h' : Reaches migrations j db' i db'') : Reaches migrations k db i db'' :=
  ⟨Nat.le_trans h.le h'.le, h'.records, fun base hbase => h'.schema base (h.schema base hbase)⟩

/-- The next migration is at the next index. -/
theorem version_of_contiguous
    (h : Contiguous (done ++ migration :: rest)) : migration.version = done.length + 1 := by
  have hleft : ((done ++ migration :: rest).map Migration.version)[done.length]? =
      some migration.version := by
    rw [List.getElem?_map, List.getElem?_append_right (Nat.le_refl _), Nat.sub_self]
    rfl
  rw [h, List.getElem?_range' (by simp), Nat.one_mul, Option.some.injEq] at hleft
  omega

/-- **A committed migration** is one step further. -/
theorem Reaches.step
    (hcontiguous : Contiguous (done ++ migration :: rest)) (h : db.Records done.length)
    (hcommit : transaction conditions migration db = .ok db') :
    Reaches (done ++ migration :: rest) done.length db (done.length + 1) db' := by
  obtain ⟨hsql, hversions, -⟩ := transaction_ok hcommit
  have hversion := version_of_contiguous hcontiguous
  refine ⟨Nat.le_succ _, fun v => ?_, fun base hbase => ?_⟩
  · rw [hversions, List.mem_append, List.mem_singleton, h v, hversion]
    omega
  · rw [List.take_left' rfl] at hbase
    have htake : (done ++ migration :: rest).take (done.length + 1) = done ++ [migration] := by
      rw [List.append_cons, List.take_left' (by simp)]
    rw [htake, applyAll, List.foldlM_append]
    rw [applyAll] at hbase
    rw [hbase]
    show (migration.sql db.schema >>= pure) = _
    rw [hsql]
    rfl

/-! ### A call -/

/-- The loop, after the migrations of `done` have been passed. -/
theorem migrate_reaches (conditions : Conditions) (hcontiguous : Contiguous migrations)
    (hk : k ≤ migrations.length) (hall : migrations = done ++ rest)
    (h : db.Records (max done.length k)) :
    ∃ j, j ≤ migrations.length ∧
      Reaches migrations (max done.length k) db j (migrate conditions k rest db).1 ∧
      ((migrate conditions k rest db).2 = .ok () → j = migrations.length) := by
  -- the database stands at the larger of the passed migrations and the version that was read
  induction rest generalizing done db with
  | nil =>
    rw [List.append_nil] at hall
    subst hall
    rw [Nat.max_eq_left hk] at h ⊢
    exact ⟨migrations.length, Nat.le_refl _, .refl h, fun _ => rfl⟩
  | cons migration rest ih =>
    subst hall
    have hversion := version_of_contiguous hcontiguous
    have hpassed : done ++ migration :: rest = (done ++ [migration]) ++ rest := List.append_cons ..
    have hlength : (done ++ [migration]).length = done.length + 1 := by simp
    unfold migrate
    by_cases hskip : migration.version ≤ k
    · rw [if_pos hskip]
      have hmax : max (done ++ [migration]).length k = max done.length k := by omega
      have hrest := ih hpassed (hmax ▸ h)
      rwa [hmax] at hrest
    · rw [if_neg hskip]
      have hmax : max done.length k = done.length := by omega
      have hmax' : max (done ++ [migration]).length k = done.length + 1 := by omega
      rw [hmax] at h ⊢
      cases hcommit : transaction conditions migration db with
      | error e =>
        refine ⟨done.length, by simp, .refl h, fun hok => ?_⟩
        cases hok
      | ok db' =>
        have hstep := Reaches.step hcontiguous h hcommit
        obtain ⟨j, hj, hreaches, hok⟩ := ih hpassed (hmax' ▸ hstep.records)
        rw [hmax'] at hreaches
        exact ⟨j, hj, hstep.trans hreaches, hok⟩

theorem migrate_table {rest : List (Migration σ)}
    (h : db.table.isSome = true) : (migrate conditions k rest db).1.table.isSome = true := by
  induction rest generalizing db with
  | nil => exact h
  | cons migration rest ih =>
    unfold migrate
    split
    · exact ih h
    · split
      · exact h
      · rename_i db' hcommit
        exact ih (transaction_ok hcommit).2.2

/-- The loop passes over migrations that are not newer. -/
theorem migrate_of_le {rest : List (Migration σ)}
    (h : ∀ migration ∈ rest, migration.version ≤ k) : migrate conditions k rest db = (db, .ok ()) := by
  induction rest with
  | nil => rfl
  | cons migration rest ih =>
    rw [migrate, if_pos (h migration (List.mem_cons_self ..))]
    exact ih (fun m hm => h m (List.mem_cons_of_mem _ hm))

theorem version_le_length (hcontiguous : Contiguous migrations)
    (h : migration ∈ migrations) : migration.version ≤ migrations.length := by
  have hmem : migration.version ∈ List.range' 1 migrations.length :=
    hcontiguous ▸ List.mem_map_of_mem h
  rw [List.mem_range'_1] at hmem
  omega

/-- How a call ends: before the version is read, with a version that is too high, or in the loop. -/
theorem applyMigrations_cases (migrations : List (Migration σ)) (conditions : Conditions)
    (h : db.Records k) :
    (∃ e, (applyMigrations migrations conditions db).2 = .error e ∧
      ((applyMigrations migrations conditions db).1 = db ∨
        (applyMigrations migrations conditions db).1 = db.createTable)) ∨
    (k ≤ migrations.length ∧
      applyMigrations migrations conditions db = migrate conditions k migrations db.createTable) := by
  unfold applyMigrations
  cases hconfigure : configure conditions db with
  | error e => exact .inl ⟨e, rfl, .inl rfl⟩
  | ok db' =>
    cases configure_ok hconfigure
    simp only
    cases hread : conditions.exec .readVersion "read schema version" db.createTable.readVersion with
    | error e => exact .inl ⟨e, rfl, .inr rfl⟩
    | ok current =>
      cases readVersion_of_records (show db.createTable.Records k from h) (Conditions.exec_ok hread)
      simp only
      split
      · exact .inl ⟨_, rfl, .inr rfl⟩
      · exact .inr ⟨by omega, rfl⟩

/-- **A call**, whatever fails in it. -/
theorem applyMigrations_reaches (hcontiguous : Contiguous migrations) (h : db.Records k)
    (conditions : Conditions) :
    ∃ j, Reaches migrations k db j (applyMigrations migrations conditions db).1 ∧
      (k ≤ migrations.length → j ≤ migrations.length) ∧
      ((applyMigrations migrations conditions db).2 = .ok () → j = migrations.length) := by
  obtain ⟨e, herror, hdb⟩ | ⟨hk, heq⟩ := applyMigrations_cases migrations conditions h
  · refine ⟨k, ?_, id, fun hok => by rw [herror] at hok; cases hok⟩
    obtain hdb | hdb := hdb
    · rw [hdb]
      exact .refl h
    · rw [hdb]
      exact ⟨Nat.le_refl k, h, fun _ hbase => hbase⟩
  · have hzero : max ([] : List (Migration σ)).length k = k := Nat.zero_max k
    have hloop := migrate_reaches conditions hcontiguous hk (List.nil_append _).symm
      (hzero.symm ▸ show db.createTable.Records k from h)
    obtain ⟨j, hj, hreaches, hok⟩ := hloop
    rw [heq]
    exact ⟨j, ⟨hreaches.le, hreaches.records, hreaches.schema⟩, fun _ => hj, hok⟩

/-- A call finds or makes `schema_migrations` when it succeeds. -/
theorem applyMigrations_table (conditions : Conditions) (h : db.Records k)
    (hok : (applyMigrations migrations conditions db).2 = .ok ()) :
    (applyMigrations migrations conditions db).1.table.isSome = true := by
  obtain ⟨e, herror, -⟩ | ⟨-, heq⟩ := applyMigrations_cases migrations conditions h
  · rw [herror] at hok
    cases hok
  · rw [heq]
    exact migrate_table rfl

/-- A call changes nothing in a database that has every version. -/
theorem applyMigrations_unchanged (hcontiguous : Contiguous migrations) (h : db.Records k)
    (hk : migrations.length ≤ k) (htable : db.table.isSome = true) (conditions : Conditions) :
    (applyMigrations migrations conditions db).1 = db := by
  obtain ⟨e, -, hdb | hdb⟩ | ⟨-, heq⟩ := applyMigrations_cases migrations conditions h
  · exact hdb
  · rw [hdb, createTable_of_isSome htable]
  · rw [heq, createTable_of_isSome htable,
      migrate_of_le (fun m hm => Nat.le_trans (version_le_length hcontiguous hm) hk)]

/-- A recorded version stands in the table. -/
theorem table_of_records (h : db.Records k) (hk : 0 < k) : db.table.isSome = true := by
  have hmem := (h k).mpr ⟨hk, Nat.le_refl k⟩
  unfold Database.versions at hmem
  cases htable : db.table with
  | none =>
    rw [htable] at hmem
    exact absurd hmem List.not_mem_nil
  | some table => rfl

/-! ### Any number of calls -/

theorem applyAgain_reaches (hcontiguous : Contiguous migrations) (calls : List Conditions)
    (h : db.Records k) :
    ∃ j, Reaches migrations k db j (applyAgain migrations db calls) ∧
      (k ≤ migrations.length → j ≤ migrations.length) := by
  induction calls generalizing db k with
  | nil => exact ⟨k, .refl h, id⟩
  | cons conditions calls ih =>
    obtain ⟨i, hcall, hi, -⟩ := applyMigrations_reaches hcontiguous h conditions
    obtain ⟨j, hrest, hj⟩ := ih hcall.records
    exact ⟨j, hcall.trans hrest, fun hk => hj (hi hk)⟩

/-- A call in which nothing fails. -/
structure Conditions.Fine (conditions : Conditions) : Prop where
  failure : ∀ statement, conditions.failure statement = none

theorem Conditions.Fine.exec {α : Type} (h : conditions.Fine)
    (statement : MigrationStatement) (context : String) (a : α) :
    conditions.exec statement context (.ok a) = .ok a := by
  unfold Conditions.exec
  rw [h.failure]

theorem Conditions.Fine.configure (h : conditions.Fine) (db : Database σ) :
    configure conditions db = .ok db.createTable := by
  unfold Storage.configure
  rw [h.exec, h.exec, h.exec, h.exec]
  rfl

/-- Without a failure the call reads the version and compares it. -/
theorem applyMigrations_of_fine (hfine : conditions.Fine) (h : db.Records k) :
    applyMigrations migrations conditions db =
      if migrations.length < k then
        (db.createTable, .error ("database schema version " ++ toString k ++
          " is newer than supported version " ++ toString migrations.length))
      else migrate conditions k migrations db.createTable := by
  obtain ⟨current, hread⟩ : ∃ current, db.createTable.readVersion = .ok current := ⟨_, rfl⟩
  have hcurrent := readVersion_of_records (show db.createTable.Records k from h) hread
  unfold applyMigrations
  rw [hfine.configure]
  simp only
  rw [hread, hfine.exec, hcurrent]

/-- A transaction in which nothing fails. -/
theorem transaction_of_fine (hfine : conditions.Fine)
    {schema : σ} (htable : db.table.isSome = true) (hnew : migration.version ∉ db.versions)
    (hsql : migration.sql db.schema = .ok schema) :
    ∃ db', transaction conditions migration db = .ok db' ∧ db'.schema = schema := by
  obtain ⟨table, htable⟩ := Option.isSome_iff_exists.mp htable
  have hinsert : ∃ table', table.insert migration.version (conditions.now migration.version) = .ok table' := by
    have hversions : migration.version ∉ table.rows.map Prod.fst := by
      rw [Database.versions, htable] at hnew
      exact hnew
    unfold VersionTable.insert
    rw [dif_neg hversions]
    exact ⟨_, rfl⟩
  obtain ⟨table', hinsert⟩ := hinsert
  refine ⟨⟨some table', schema⟩, ?_, rfl⟩
  have hrecord : Database.record { db with schema := schema } migration.version
      (conditions.now migration.version) = .ok ⟨some table', schema⟩ := by
    unfold Database.record
    rw [htable]
    simp only [hinsert]
    rfl
  refine bind_eq_ok.mpr ⟨(), hfine.exec .., ?_⟩
  refine bind_eq_ok.mpr ⟨schema, by rw [hsql, hfine.exec], ?_⟩
  exact bind_eq_ok.mpr ⟨_, by rw [hrecord, hfine.exec], hfine.exec ..⟩

theorem migrate_of_fine (hfine : conditions.Fine) (hcontiguous : Contiguous migrations)
    (hall : migrations = done ++ rest) (htable : db.table.isSome = true)
    (h : db.Records (max done.length k)) {schema : σ}
    (hschema : applyAll (rest.drop (k - done.length)) db.schema = .ok schema) :
    (migrate conditions k rest db).2 = .ok () := by
  induction rest generalizing done db with
  | nil => rfl
  | cons migration rest ih =>
    subst hall
    have hversion := version_of_contiguous hcontiguous
    have hpassed : done ++ migration :: rest = (done ++ [migration]) ++ rest := List.append_cons ..
    have hlength : (done ++ [migration]).length = done.length + 1 := by simp
    unfold migrate
    by_cases hskip : migration.version ≤ k
    · rw [if_pos hskip]
      have hmax : max (done ++ [migration]).length k = max done.length k := by omega
      have hdrop : k - done.length = (k - (done ++ [migration]).length) + 1 := by omega
      rw [hdrop, List.drop_succ_cons] at hschema
      exact ih hpassed htable (hmax ▸ h) hschema
    · rw [if_neg hskip]
      have hmax : max done.length k = done.length := by omega
      have hmax' : max (done ++ [migration]).length k = done.length + 1 := by omega
      have hdrop : k - done.length = 0 := by omega
      have hdrop' : k - (done ++ [migration]).length = 0 := by omega
      rw [hmax] at h
      rw [hdrop, List.drop_zero] at hschema
      -- the SQL of this migration, and of the rest after it
      obtain ⟨next, hsql, hrest⟩ := bind_eq_ok.mp hschema
      have hnew : migration.version ∉ db.versions := by
        rw [h]
        omega
      obtain ⟨db', hcommit, hnext⟩ := transaction_of_fine hfine htable hnew hsql
      rw [hcommit]
      refine ih hpassed (transaction_ok hcommit).2.2 (hmax' ▸ (Reaches.step hcontiguous h hcommit).records) ?_
      rw [hdrop', List.drop_zero, hnext]
      exact hrest

/-- **A call without a failure completes** when the SQL of the missing migrations does. -/
theorem applyMigrations_completes {conditions : Conditions} (hfine : conditions.Fine)
    (hcontiguous : Contiguous migrations) (h : db.Records k) (hk : k ≤ migrations.length) {schema : σ}
    (hschema : applyAll (migrations.drop k) db.schema = .ok schema) :
    (applyMigrations migrations conditions db).2 = .ok () := by
  rw [applyMigrations_of_fine hfine h, if_neg (by omega)]
  have hzero : max ([] : List (Migration σ)).length k = k := Nat.zero_max k
  exact migrate_of_fine hfine hcontiguous (List.nil_append _).symm rfl
    (hzero.symm ▸ show db.createTable.Records k from h) hschema

/-- **Migrations are applied exactly once and resumably.**  After any number of calls, whatever failed in
    them, the recorded versions are 1 to some `j` that is at least `k`, and the schema is that of the first
    `j` migrations, each applied once and in order.  A call that succeeds then has recorded them all, and a
    further call changes nothing.  A database with more versions is refused as it is. -/
theorem applyMigrations_resumable (migrations : List (Migration σ)) (hcontiguous : Contiguous migrations)
    (k : Nat) (db : Database σ) (h : db.Records k) :
    (∀ calls : List Conditions, ∃ j, Reaches migrations k db j (applyAgain migrations db calls) ∧
      (k ≤ migrations.length → j ≤ migrations.length) ∧
      ∀ (conditions : Conditions) (db' : Database σ),
        applyMigrations migrations conditions (applyAgain migrations db calls) = (db', .ok ()) →
        Reaches migrations k db migrations.length db' ∧
          ∀ conditions', (applyMigrations migrations conditions' db').1 = db') ∧
    (migrations.length < k → ∀ conditions : Conditions, ∃ e,
      applyMigrations migrations conditions db = (db, .error e) ∧
      (conditions.Fine → e = "database schema version " ++ toString k ++
        " is newer than supported version " ++ toString migrations.length)) := by
  constructor
  · intro calls
    obtain ⟨j, hreaches, hj⟩ := applyAgain_reaches hcontiguous calls h
    refine ⟨j, hreaches, hj, fun conditions db' hcall => ?_⟩
    obtain ⟨i, hlast, -, hok⟩ := applyMigrations_reaches hcontiguous hreaches.records conditions
    have hsuccess : (applyMigrations migrations conditions (applyAgain migrations db calls)).2 = .ok () := by
      rw [hcall]
    have htable := applyMigrations_table conditions hreaches.records hsuccess
    cases hok hsuccess
    rw [hcall] at hlast htable
    exact ⟨hreaches.trans hlast,
      applyMigrations_unchanged hcontiguous hlast.records (Nat.le_refl _) htable⟩
  · intro hk conditions
    have htable := table_of_records h (by omega)
    have hsame := applyMigrations_unchanged hcontiguous h (by omega) htable conditions
    obtain ⟨e, herror, -⟩ | ⟨hle, -⟩ := applyMigrations_cases migrations conditions h
    · refine ⟨e, Prod.ext hsame herror, fun hfine => ?_⟩
      rw [applyMigrations_of_fine hfine h, if_pos hk] at herror
      exact (Except.error.inj herror).symm
    · omega

end Apply

/-! ### Two versions -/

/-- The versions of `Migrations`, over a schema that lists what was applied to it. -/
def loggedMigrations : List (Migration (List Nat)) :=
  [⟨1, fun log => .ok (log ++ [1])⟩, ⟨2, fun log => .ok (log ++ [2])⟩]

/-- A new database. -/
def freshDatabase : Database (List Nat) := ⟨none, []⟩

/-- The first call cannot record the second migration. -/
def interrupted : Conditions where
  failure := fun statement => if statement = .record 2 then some "disk I/O error" else none
  now := fun _ => 0

/-- Nothing fails. -/
def uninterrupted : Conditions := ⟨fun _ => none, fun _ => 0⟩

/-- The first call stops after one migration, the second completes. -/
theorem applyMigrations_resumable_of_interrupted :
    Contiguous loggedMigrations ∧ freshDatabase.Records 0 ∧
    (applyMigrations loggedMigrations interrupted freshDatabase).2 =
      .error "record migration 2: disk I/O error" ∧
    (applyMigrations loggedMigrations interrupted freshDatabase).1.versions = [1] ∧
    ∃ db', applyMigrations loggedMigrations uninterrupted
        (applyAgain loggedMigrations freshDatabase [interrupted]) = (db', .ok ()) ∧
      db'.Records 2 ∧ applyAll loggedMigrations [] = .ok db'.schema := by
  have hrecords : freshDatabase.Records 0 := by
    intro v
    rw [show freshDatabase.versions = [] from rfl]
    simp only [List.not_mem_nil, false_iff]
    omega
  have hcontiguous : Contiguous loggedMigrations := rfl
  obtain ⟨hcalls, -⟩ := applyMigrations_resumable loggedMigrations hcontiguous 0 freshDatabase hrecords
  obtain ⟨j, -, -, hsucceeds⟩ := hcalls [interrupted]
  have hreaches := (hsucceeds uninterrupted _ rfl).1
  exact ⟨hcontiguous, hrecords, rfl, rfl, _, rfl, hreaches.records, hreaches.schema [] rfl⟩

theorem applyMigrations_completes_of_fresh :
    (applyMigrations loggedMigrations uninterrupted freshDatabase).2 = .ok () :=
  applyMigrations_completes ⟨fun _ => rfl⟩ rfl (fun v => ⟨nofun, by omega⟩) (Nat.zero_le 2) rfl

end WebVPN.Storage
