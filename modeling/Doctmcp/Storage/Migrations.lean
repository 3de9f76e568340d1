import Doctmcp.Lib.JsString
import Doctmcp.Lib.Operation
import Doctmcp.Lib.Runs
import Doctmcp.Schemas.Records
import Mathlib.Data.List.Infix

/-! # Migrations of the SQLite database

`openSqliteDatabase` and the migrations it applies. What SQLite does with a script is a parameter,
the engine; every statement that the runner makes itself may fail as well. `BEGIN IMMEDIATE`
serialises the transactions on one file, so the opens of all processes follow one another. -/

namespace Doctmcp.Storage.Migrations
open Doctmcp.Lib Doctmcp.Lib.Operation Doctmcp.Schemas
set_option autoImplicit false

/-- A migration of a release. A version that is no integer is not valid, so it is left out. -/
structure SqlMigration where
  version : ℤ
  name : String
  sql : String
  deriving DecidableEq

structure AppliedMigration where
  version : ℤ
  name : String
  deriving DecidableEq

/-- The row that records a migration. -/
def SqlMigration.record (m : SqlMigration) : AppliedMigration := ⟨m.version, m.name⟩

inductive MigrationError
  | dataDir
  | invalid
  | wal
  | incompatible
  | failed (version : ℤ) (name : String)
  /-- What the file system or a statement of SQLite throws. -/
  | native
  deriving DecidableEq

def MigrationError.message : MigrationError → Option String
  | .dataDir => some "DOCTMCP_DATA_DIR phải là đường dẫn data directory hợp lệ."
  | .invalid => some "SQLite migrations phải có version tăng dần, name duy nhất và SQL không rỗng."
  | .wal => some "SQLite không thể bật WAL trên data directory đã chọn."
  | .incompatible => some "SQLite database có migration không tương thích với release hiện tại."
  | .failed version name => some s!"SQLite migration {version} ({name}) thất bại."
  | .native => none

/-! ## Validation -/

/-- `Number.isSafeInteger(value)`, of an integer. -/
def isSafeInteger (value : ℤ) : Bool := decide (value.natAbs ≤ maxSafeInteger)

def isNameCharacter (c : Char) : Bool := isAlphanumeric c || c == '_'

/-- `/^[a-zA-Z0-9_]+$/`. -/
def migrationNamePattern (name : String) : Bool :=
  JsString.repeated isNameCharacter isNameCharacter name.toList

/-- The loop of `validateMigrations`. -/
def validateFrom (previousVersion : ℤ) (names : List String) : List SqlMigration → Bool
  | [] => true
  | m :: rest =>
    if isSafeInteger m.version = false ∨ m.version ≤ previousVersion ∨
        migrationNamePattern m.name = false ∨ m.name ∈ names ∨ JsString.trim m.sql = "" then false
    else validateFrom m.version (m.name :: names) rest

def validateMigrations (migrations : List SqlMigration) : Bool := validateFrom 0 [] migrations

/-! ## The database -/

/-- The rows of `schema_migrations`, in the order of their `INTEGER PRIMARY KEY`. -/
structure History where
  rows : List AppliedMigration
  ordered : rows.Pairwise fun a b => a.version < b.version

/-- The rows with one more, which has its place by its version. -/
def insertRow (row : AppliedMigration) : List AppliedMigration → List AppliedMigration
  | [] => [row]
  | a :: rows => if row.version < a.version then row :: a :: rows else a :: insertRow row rows

theorem mem_insertRow {row r : AppliedMigration} {rows : List AppliedMigration}
    (h : r ∈ insertRow row rows) : r = row ∨ r ∈ rows := by
  induction rows with
  | nil => exact .inl (List.mem_singleton.mp h)
  | cons a rows ih =>
    unfold insertRow at h
    split_ifs at h with hlt
    · exact List.mem_cons.mp h
    · obtain rfl | h := List.mem_cons.mp h
      · exact .inr List.mem_cons_self
      · exact (ih h).imp_right (List.mem_cons_of_mem a)

theorem insertRow_ordered {row : AppliedMigration} {rows : List AppliedMigration}
    (hrows : rows.Pairwise fun a b => a.version < b.version)
    (hnew : ∀ r ∈ rows, r.version ≠ row.version) :
    (insertRow row rows).Pairwise fun a b => a.version < b.version := by
  induction rows with
  | nil => exact List.pairwise_singleton _ _
  | cons a rows ih =>
    obtain ⟨hfirst, hrest⟩ := List.pairwise_cons.mp hrows
    unfold insertRow
    split_ifs with hlt
    · refine List.pairwise_cons.mpr ⟨?_, hrows⟩
      intro r hr
      obtain rfl | hr := List.mem_cons.mp hr
      · exact hlt
      · have ha := hfirst r hr
        omega
    · refine List.pairwise_cons.mpr ⟨?_, ih hrest fun r hr => hnew r (List.mem_cons_of_mem a hr)⟩
      intro r hr
      have hne := hnew a List.mem_cons_self
      obtain rfl | hr := mem_insertRow hr
      · omega
      · exact hfirst r hr

theorem insertRow_last {row : AppliedMigration} {rows : List AppliedMigration}
    (h : ∀ r ∈ rows, r.version < row.version) : insertRow row rows = rows ++ [row] := by
  induction rows with
  | nil => rfl
  | cons a rows ih =>
    have ha := h a List.mem_cons_self
    unfold insertRow
    rw [if_neg (by omega), ih fun r hr => h r (List.mem_cons_of_mem a hr)]
    rfl

/-- The database of one file: the table `schema_migrations`, where there is one, and the rest. -/
structure SqliteDatabase (Schema : Type) where
  schema : Schema
  schemaMigrations : Option History

/-- What SQLite does with a script, up to the statement that fails. -/
abbrev Engine (Schema : Type) := String → Operation (SqliteDatabase Schema) MigrationError Unit

/-- A statement or a call of the runner that may fail. -/
inductive Statement
  | mkdir
  | database
  | pragma
  | begin
  | createTable
  | select
  | script (version : ℤ)
  | insert (version : ℤ)
  | commit
  deriving DecidableEq

section Runner
variable {Schema : Type}

/-- The recorded migrations, `ORDER BY version`. -/
def SqliteDatabase.history (db : SqliteDatabase Schema) : List AppliedMigration :=
  match db.schemaMigrations with
  | some history => history.rows
  | none => []

/-- `CREATE TABLE IF NOT EXISTS schema_migrations`. -/
def SqliteDatabase.createTable (db : SqliteDatabase Schema) : SqliteDatabase Schema :=
  { db with schemaMigrations := some (db.schemaMigrations.getD ⟨[], .nil⟩) }

/-- A statement that may fail before it does anything. -/
def native (faults : Statement → Bool) (statement : Statement) :
    Operation (SqliteDatabase Schema) MigrationError Unit :=
  failIf (faults statement = true) .native

/-- `INSERT INTO schema_migrations (version, name) VALUES (?1, ?2)`. -/
def insertMigration (m : SqlMigration) : Operation (SqliteDatabase Schema) MigrationError Unit := do
  let db ← get
  match db.schemaMigrations with
  | none => throw .native
  | some history =>
    if hnew : ∀ r ∈ history.rows, r.version ≠ m.record.version then
      let rows : History := ⟨insertRow m.record history.rows, insertRow_ordered history.ordered hnew⟩
      set ({ db with schemaMigrations := some rows } : SqliteDatabase Schema)
    else throw .native

/-- The loop that compares the recorded migrations with those of the release. -/
def checkHistory : List AppliedMigration → List SqlMigration → Bool
  | [], _ => true
  | _ :: _, [] => false
  | r :: applied, m :: migrations =>
    if r.version ≠ m.version ∨ r.name ≠ m.name then false else checkHistory applied migrations

variable (engine : Engine Schema) (faults : Statement → Bool)

/-- The body of the `try` for one migration. -/
def applyMigration (m : SqlMigration) : Operation (SqliteDatabase Schema) MigrationError Unit := do
  native faults (.script m.version)
  engine m.sql
  native faults (.insert m.version)
  insertMigration m

/-- The loop over the migrations that are not recorded. -/
def applyPending : List SqlMigration → Operation (SqliteDatabase Schema) MigrationError Unit
  | [] => pure ()
  | m :: rest => do
    ExceptT.adapt (fun _ => .failed m.version m.name) (applyMigration engine faults m)
    applyPending rest

/-- What `applyMigrations` does between `BEGIN IMMEDIATE` and `COMMIT`. -/
def migrationTransaction (migrations : List SqlMigration) :
    Operation (SqliteDatabase Schema) MigrationError Unit := do
  native faults .createTable
  let db ← get
  set db.createTable
  native faults .select
  failIf (checkHistory db.createTable.history migrations = false) .incompatible
  applyPending engine faults (migrations.drop db.createTable.history.length)
  native faults .commit

def applyMigrations (migrations : List SqlMigration) :
    Operation (SqliteDatabase Schema) MigrationError Unit := do
  failIf (validateMigrations migrations = false) .invalid
  native faults .begin
  transaction (migrationTransaction engine faults migrations)

/-- A call of `openSqliteDatabase`: its options, what fails, and the journal mode that the second
`PRAGMA` reports. -/
structure Opening where
  dataDir : Option String
  migrations : List SqlMigration
  faults : Statement → Bool
  journalMode : Option String

def openSqliteDatabase (o : Opening) : Operation (SqliteDatabase Schema) MigrationError Unit := do
  failIf (JsString.trim (o.dataDir.getD "") = "") .dataDir
  failIf (validateMigrations o.migrations = false) .invalid
  native o.faults .mkdir
  native o.faults .database
  native o.faults .pragma
  failIf (o.journalMode.map JsString.toLowerCase ≠ some "wal") .wal
  applyMigrations engine o.faults o.migrations

/-- The database after an open. -/
def openStep (db : SqliteDatabase Schema) (o : Opening) : SqliteDatabase Schema :=
  (exec (openSqliteDatabase engine o) db).2

/-! ## The migrations of a release, each once -/

/-- Each script takes effect and is recorded, in the order of the list. -/
def migrate : List SqlMigration → Operation (SqliteDatabase Schema) MigrationError Unit
  | [] => pure ()
  | m :: rest => do
    engine m.sql
    insertMigration m
    migrate rest

/-- The script leaves the rows of `schema_migrations` to the runner. -/
def LeavesHistory (sql : String) : Prop :=
  ∀ db, (exec (engine sql) db).2.schemaMigrations = db.schemaMigrations

/-- Every migration of the list has taken effect on `db₀` exactly once and in list order, and
nothing else has changed it. -/
def Migrated (db₀ : SqliteDatabase Schema) (migrations : List SqlMigration)
    (db : SqliteDatabase Schema) : Prop :=
  (migrations = [] ∧ db = db₀) ∨ exec (migrate engine migrations) db₀.createTable = (.ok (), db)

variable {engine faults} {db db' db₀ : SqliteDatabase Schema} {m : SqlMigration}
  {migrations : List SqlMigration}

@[simp] theorem createTable_history (db : SqliteDatabase Schema) :
    db.createTable.history = db.history := by
  unfold SqliteDatabase.createTable SqliteDatabase.history
  cases db.schemaMigrations with
  | none => rfl
  | some history => rfl

theorem createTable_of_isSome (h : db.schemaMigrations.isSome = true) : db.createTable = db := by
  obtain ⟨history, hhistory⟩ := Option.isSome_iff_exists.mp h
  unfold SqliteDatabase.createTable
  rw [hhistory]
  cases db
  cases hhistory
  rfl

theorem exec_native_bind_ok {statement : Statement} {db'' : SqliteDatabase Schema} {u : Unit}
    {f : Unit → Operation (SqliteDatabase Schema) MigrationError Unit}
    (h : exec (native faults statement >>= f) db = (.ok u, db'')) :
    exec (f ()) db = (.ok u, db'') :=
  (exec_failIf_bind_ok h).2

theorem exec_adapt_ok {f : MigrationError → MigrationError} {u : Unit}
    {op : Operation (SqliteDatabase Schema) MigrationError Unit}
    (h : exec (ExceptT.adapt f op) db = (.ok u, db')) : exec op db = (.ok u, db') := by
  have hadapt : exec (ExceptT.adapt f op) db = ((exec op db).1.mapError f, (exec op db).2) := rfl
  rw [hadapt, Prod.mk.injEq] at h
  obtain ⟨hresult, hdb⟩ := h
  rcases hop : exec op db with ⟨result, db''⟩
  rw [hop] at hresult hdb
  cases result with
  | error e => cases hresult
  | ok a => exact Prod.ext rfl hdb

theorem insertMigration_ok (h : exec (insertMigration m) db = (.ok (), db'))
    (hlast : ∀ r ∈ db.history, r.version < m.version) :
    db'.history = db.history ++ [m.record] ∧ db'.schemaMigrations.isSome = true := by
  unfold insertMigration at h
  rw [exec_get_bind] at h
  cases hrows : db.schemaMigrations with
  | none =>
    rw [hrows] at h
    cases h
  | some history =>
    rw [hrows] at h
    have hhistory : db.history = history.rows := by
      unfold SqliteDatabase.history
      rw [hrows]
    dsimp only at h
    split_ifs at h with hnew
    · rw [exec_set, Prod.mk.injEq] at h
      obtain ⟨-, rfl⟩ := h
      rw [hhistory] at hlast ⊢
      exact ⟨insertRow_last hlast, rfl⟩
    · cases h

theorem applyPending_ok {ms : List SqlMigration}
    (h : exec (applyPending engine faults ms) db = (.ok (), db')) :
    exec (migrate engine ms) db = (.ok (), db') := by
  induction ms generalizing db with
  | nil => exact h
  | cons m rest ih =>
    obtain ⟨⟨⟩, db₁, hone, hrest⟩ := exec_bind_ok h
    have hone' := exec_native_bind_ok (exec_adapt_ok hone)
    obtain ⟨⟨⟩, db₂, hscript, hone''⟩ := exec_bind_ok hone'
    have hinsert := exec_native_bind_ok hone''
    unfold migrate
    rw [exec_bind, hscript]
    show exec (insertMigration m >>= fun _ => migrate engine rest) db₂ = _
    rw [exec_bind, hinsert]
    exact ih hrest

theorem exec_migrate_append {ms rest : List SqlMigration}
    (h : exec (migrate engine ms) db = (.ok (), db')) :
    exec (migrate engine (ms ++ rest)) db = exec (migrate engine rest) db' := by
  induction ms generalizing db with
  | nil =>
    cases h
    rfl
  | cons m ms ih =>
    obtain ⟨⟨⟩, db₁, hscript, h₁⟩ := exec_bind_ok h
    obtain ⟨⟨⟩, db₂, hinsert, h₂⟩ := exec_bind_ok h₁
    rw [List.cons_append, migrate, exec_bind, hscript]
    show exec (insertMigration m >>= fun _ => migrate engine (ms ++ rest)) db₁ = _
    rw [exec_bind, hinsert]
    exact ih h₂

/-- The history grows by the migrations, as long as their scripts leave it to the runner. -/
theorem migrate_history {ms : List SqlMigration}
    (hleaves : ∀ m ∈ ms, LeavesHistory engine m.sql)
    (hordered : (db.history ++ ms.map SqlMigration.record).Pairwise fun a b => a.version < b.version)
    (htable : db.schemaMigrations.isSome = true)
    (h : exec (migrate engine ms) db = (.ok (), db')) :
    db'.history = db.history ++ ms.map SqlMigration.record ∧
      db'.schemaMigrations.isSome = true := by
  induction ms generalizing db with
  | nil =>
    cases h
    exact ⟨(List.append_nil _).symm, htable⟩
  | cons m ms ih =>
    obtain ⟨⟨⟩, db₁, hscript, h₁⟩ := exec_bind_ok h
    obtain ⟨⟨⟩, db₂, hinsert, h₂⟩ := exec_bind_ok h₁
    have hsame : db₁.schemaMigrations = db.schemaMigrations := by
      have hleave := hleaves m List.mem_cons_self db
      rwa [hscript] at hleave
    have hhistory : db₁.history = db.history := by
      unfold SqliteDatabase.history
      rw [hsame]
    have hlast : ∀ r ∈ db₁.history, r.version < m.version := by
      intro r hr
      rw [hhistory] at hr
      exact (List.pairwise_append.mp hordered).2.2 r hr m.record List.mem_cons_self
    obtain ⟨hgrown, htable'⟩ := insertMigration_ok hinsert hlast
    rw [hhistory] at hgrown
    have hassoc : db₂.history ++ ms.map SqlMigration.record =
        db.history ++ (m :: ms).map SqlMigration.record := by
      rw [hgrown, List.append_assoc]
      rfl
    have hrest := ih (fun m' hm' => hleaves m' (List.mem_cons_of_mem m hm')) (hassoc ▸ hordered)
      htable' h₂
    exact ⟨hrest.1.trans hassoc, hrest.2⟩

/-! ## One open -/

theorem checkHistory_iff {applied : List AppliedMigration} :
    checkHistory applied migrations = true ↔ applied <+: migrations.map SqlMigration.record := by
  induction applied generalizing migrations with
  | nil => exact ⟨fun _ => List.nil_prefix, fun _ => rfl⟩
  | cons r applied ih =>
    cases migrations with
    | nil =>
      constructor
      · intro h
        cases h
      · intro h
        exact absurd (List.prefix_nil.mp h) (List.cons_ne_nil r applied)
    | cons m migrations =>
      rw [List.map_cons, List.cons_prefix_cons, ← ih, checkHistory]
      have hrecord : r = m.record ↔ ¬ (r.version ≠ m.version ∨ r.name ≠ m.name) := by
        rw [not_or, not_not, not_not]
        cases r
        exact AppliedMigration.mk.injEq _ _ _ _ ▸ Iff.rfl
      rw [hrecord]
      by_cases hdiffer : r.version ≠ m.version ∨ r.name ≠ m.name
      · simp [hdiffer]
      · rw [if_neg hdiffer]
        exact (and_iff_right hdiffer).symm

theorem validateFrom_ordered {previousVersion : ℤ} {names : List String}
    (h : validateFrom previousVersion names migrations = true) :
    (∀ m ∈ migrations, previousVersion < m.version) ∧
      (migrations.map SqlMigration.record).Pairwise fun a b => a.version < b.version := by
  induction migrations generalizing previousVersion names with
  | nil => exact ⟨fun m hm => absurd hm List.not_mem_nil, .nil⟩
  | cons m rest ih =>
    unfold validateFrom at h
    split_ifs at h with hinvalid
    obtain ⟨hrest, hpairwise⟩ := ih h
    have hm : previousVersion < m.version := by
      by_contra hle
      exact hinvalid (.inr (.inl (Int.not_lt.mp hle)))
    constructor
    · intro m' hm'
      obtain rfl | hm' := List.mem_cons.mp hm'
      · exact hm
      · exact Int.lt_trans hm (hrest m' hm')
    · refine List.pairwise_cons.mpr ⟨?_, hpairwise⟩
      intro r hr
      obtain ⟨m', hm', rfl⟩ := List.mem_map.mp hr
      exact hrest m' hm'

/-- An open that succeeds has found a prefix of its list, and has run the rest of it. -/
theorem openSqliteDatabase_ok {o : Opening}
    (h : exec (openSqliteDatabase engine o) db = (.ok (), db')) :
    validateMigrations o.migrations = true ∧
      db.history <+: o.migrations.map SqlMigration.record ∧
      exec (migrate engine (o.migrations.drop db.history.length)) db.createTable =
        (.ok (), db') := by
  obtain ⟨-, h⟩ := exec_failIf_bind_ok h
  obtain ⟨hvalid, h⟩ := exec_failIf_bind_ok h
  have h := exec_native_bind_ok (exec_native_bind_ok (exec_native_bind_ok h))
  obtain ⟨-, h⟩ := exec_failIf_bind_ok h
  obtain ⟨-, h⟩ := exec_failIf_bind_ok h
  have h := exec_native_bind_ok h
  rw [exec_transaction] at h
  rcases hbody : exec (migrationTransaction engine o.faults o.migrations) db with ⟨result, db''⟩
  rw [hbody] at h
  cases result with
  | error e => cases h
  | ok u =>
    obtain rfl : db'' = db' := (Prod.mk.inj h).2
    have hbody := exec_native_bind_ok hbody
    rw [exec_get_bind, exec_set_bind] at hbody
    obtain ⟨hextends, hbody⟩ := exec_failIf_bind_ok (exec_native_bind_ok hbody)
    obtain ⟨⟨⟩, db₁, hpending, hcommit⟩ := exec_bind_ok hbody
    obtain ⟨-, rfl⟩ := exec_failIf_ok hcommit
    rw [createTable_history] at hextends hpending
    exact ⟨by simpa using hvalid, checkHistory_iff.mp (by simpa using hextends),
      applyPending_ok hpending⟩

/-- An open that throws leaves the database as it was. -/
theorem openSqliteDatabase_error {o : Opening} {e : MigrationError}
    (h : (exec (openSqliteDatabase engine o) db).1 = .error e) : openStep engine db o = db := by
  have hfront : ∀ op : Operation (SqliteDatabase Schema) MigrationError Unit,
      (∀ e, (exec op db).1 = .error e → (exec op db).2 = db) →
      ∀ (p : Prop) [Decidable p] (e' : MigrationError),
        ∀ e, (exec (failIf p e' >>= fun _ => op) db).1 = .error e →
          (exec (failIf p e' >>= fun _ => op) db).2 = db := by
    intro op hop p _ e'
    exact exec_failIf_cases (P := fun r => ∀ e, r.1 = .error e → r.2 = db)
      (fun _ _ _ => rfl) (fun _ => hop)
  have htransaction : ∀ e, (exec (transaction (migrationTransaction engine o.faults o.migrations))
      db).1 = .error e → (exec (transaction (migrationTransaction engine o.faults o.migrations))
        db).2 = db := by
    exact exec_transaction_cases (P := fun r => ∀ e, r.1 = .error e → r.2 = db)
      (fun _ _ _ _ _ => rfl) (fun _ _ _ _ hcase => by cases hcase)
  exact hfront _ (hfront _ (hfront _ (hfront _ (hfront _ (hfront _ (hfront _ (hfront _
    htransaction _ _) _ _) _ _) _ _) _ _) _ _) _ _) _ _ e h

/-! ## Every run of opens -/

/-- The migrations of a list that a database has not recorded. -/
def SqliteDatabase.missing (db : SqliteDatabase Schema) (migrations : List SqlMigration) :
    List SqlMigration :=
  migrations.drop db.history.length

/-- What an open promises, of a database that was `db₀` at the start of the run. -/
structure OpenLaws (engine : Engine Schema) (db₀ db : SqliteDatabase Schema) (o : Opening) :
    Prop where
  /-- It succeeds only on a prefix of its list, when every remaining script succeeds. -/
  checked : (exec (openSqliteDatabase engine o) db).1 = .ok () →
    db.history <+: o.migrations.map SqlMigration.record ∧
      exec (migrate engine (db.missing o.migrations)) db.createTable =
        (.ok (), openStep engine db o)
  recorded : (exec (openSqliteDatabase engine o) db).1 = .ok () →
    (openStep engine db o).history = o.migrations.map SqlMigration.record
  once : (exec (openSqliteDatabase engine o) db).1 = .ok () →
    Migrated engine db₀ (db₀.missing o.migrations) (openStep engine db o)
  failed : ∀ e, (exec (openSqliteDatabase engine o) db).1 = .error e → openStep engine db o = db

/-- What the releases have made of a database: the migrations of one of them that it had not
recorded, up to some point, each once and in order. -/
def MigratedBy (engine : Engine Schema) (releases : ℕ → List SqlMigration)
    (db₀ db : SqliteDatabase Schema) : Prop :=
  ∃ migrations, Migrated engine db₀ migrations db ∧
    db.history = db₀.history ++ migrations.map SqlMigration.record ∧
    (migrations.map SqlMigration.version).Nodup ∧
    ∃ n, migrations <+: db₀.missing (releases n)

theorem prefix_of_successive {releases : ℕ → List SqlMigration}
    (hsuccessive : ∀ n, releases n <+: releases (n + 1)) {i j : ℕ} (h : i ≤ j) :
    releases i <+: releases j := by
  induction h with
  | refl => exact List.prefix_refl _
  | step _ ih => exact ih.trans (hsuccessive _)

/-- Migrations that one release has applied are those that another would apply first, as soon as
the other has as many. -/
theorem prefix_of_missing {releases : ℕ → List SqlMigration}
    (hsuccessive : ∀ n, releases n <+: releases (n + 1)) {n k : ℕ}
    (hfront : migrations <+: db₀.missing (releases n))
    (hlength : db₀.history.length + migrations.length ≤ (releases k).length) :
    migrations <+: db₀.missing (releases k) := by
  have hmissing : ∀ {i j : ℕ}, i ≤ j → db₀.missing (releases i) <+: db₀.missing (releases j) :=
    fun hle => List.IsPrefix.drop (prefix_of_successive hsuccessive hle) _
  rcases Nat.le_total n k with hle | hle
  · exact hfront.trans (hmissing hle)
  · refine List.prefix_of_prefix_length_le hfront (hmissing hle) ?_
    rw [SqliteDatabase.missing, List.length_drop]
    omega

/-- A list that passes the checks has its records in the order of their versions. -/
theorem records_ordered (h : validateMigrations migrations = true) :
    (migrations.map SqlMigration.record).Pairwise fun a b => a.version < b.version :=
  (validateFrom_ordered h).2

theorem records_split (hextends : db.history <+: migrations.map SqlMigration.record) :
    db.history ++ (db.missing migrations).map SqlMigration.record =
      migrations.map SqlMigration.record := by
  unfold SqliteDatabase.missing
  rw [List.map_drop]
  exact List.prefix_iff_eq_append.mp hextends

theorem versions_nodup (h : validateMigrations migrations = true) :
    ((db.missing migrations).map SqlMigration.version).Nodup := by
  have hversions := List.Pairwise.map AppliedMigration.version
    (fun _ _ hlt => Int.ne_of_lt hlt) (records_ordered h)
  rw [List.map_map] at hversions
  unfold SqliteDatabase.missing
  rw [List.map_drop]
  exact hversions.sublist (List.drop_sublist _ _)

theorem openLaws (releases : ℕ → List SqlMigration)
    (hsuccessive : ∀ n, releases n <+: releases (n + 1))
    (hleaves : ∀ n, ∀ m ∈ releases n, LeavesHistory engine m.sql)
    (hdb : MigratedBy engine releases db₀ db) {o : Opening} {k : ℕ}
    (hdrawn : o.migrations = releases k) :
    OpenLaws engine db₀ db o ∧ MigratedBy engine releases db₀ (openStep engine db o) := by
  rcases hopen : exec (openSqliteDatabase engine o) db with ⟨result, db'⟩
  have hstep : openStep engine db o = db' := by
    unfold openStep
    rw [hopen]
  cases result with
  | error e =>
    have herror : (exec (openSqliteDatabase engine o) db).1 = .error e := congrArg Prod.fst hopen
    have hsame : openStep engine db o = db := openSqliteDatabase_error herror
    have hnot : (exec (openSqliteDatabase engine o) db).1 ≠ .ok () := by
      rw [herror]
      exact fun h => by cases h
    constructor
    · constructor
      · exact fun h => absurd h hnot
      · exact fun h => absurd h hnot
      · exact fun h => absurd h hnot
      · exact fun _ _ => hsame
    · rw [hsame]
      exact hdb
  | ok u =>
    obtain ⟨ms, hmigrated, hhistory, -, n, hfront⟩ := hdb
    obtain ⟨hvalid, hextends, hrest⟩ := openSqliteDatabase_ok hopen
    rw [hdrawn] at hvalid hextends hrest
    have hordered := records_ordered hvalid
    have hleave : ∀ m ∈ db.missing (releases k), LeavesHistory engine m.sql :=
      fun m hm => hleaves k m (List.mem_of_mem_drop hm)
    have hextends₀ : db₀.history <+: (releases k).map SqlMigration.record :=
      (hhistory ▸ List.prefix_append _ _ : db₀.history <+: db.history).trans hextends
    -- What has taken effect and what this open runs are together what `db₀` misses.
    have hsplit : ms ++ db.missing (releases k) = db₀.missing (releases k) := by
      have hms : ms <+: db₀.missing (releases k) := by
        refine prefix_of_missing hsuccessive hfront ?_
        have hlength := hextends.length_le
        rwa [hhistory, List.length_append, List.length_map, List.length_map] at hlength
      have hdrop : db.missing (releases k) = (db₀.missing (releases k)).drop ms.length := by
        unfold SqliteDatabase.missing
        rw [List.drop_drop, hhistory, List.length_append, List.length_map]
      rw [hdrop]
      exact List.prefix_iff_eq_append.mp hms
    have hwhole : exec (migrate engine (db₀.missing (releases k))) db₀.createTable =
        (.ok (), db') := by
      rcases hmigrated with ⟨rfl, hsame⟩ | hran
      · rw [← hsame]
        exact hrest
      · have htable : db.schemaMigrations.isSome = true := by
          have hms_leave : ∀ m ∈ ms, LeavesHistory engine m.sql :=
            fun m hm => hleaves n m (List.mem_of_mem_drop (hfront.subset hm))
          refine (migrate_history hms_leave ?_ rfl hran).2
          rw [createTable_history, ← hhistory]
          exact hordered.sublist hextends.sublist
        rw [createTable_of_isSome htable] at hrest
        rw [← hsplit, exec_migrate_append hran]
        exact hrest
    have hrecorded : db'.history = (releases k).map SqlMigration.record := by
      have hgrown := (migrate_history hleave
        (by rw [createTable_history, records_split hextends]; exact hordered) rfl hrest).1
      rw [createTable_history] at hgrown
      exact hgrown.trans (records_split hextends)
    rw [hstep]
    constructor
    · constructor
      · intro _
        rw [hdrawn, hstep]
        exact ⟨hextends, hrest⟩
      · intro _
        rw [hdrawn, hstep]
        exact hrecorded
      · intro _
        rw [hdrawn, hstep]
        exact .inr hwhole
      · intro e h
        rw [hopen] at h
        cases h
    · refine ⟨db₀.missing (releases k), .inr hwhole, ?_, versions_nodup hvalid, ?_⟩
      · rw [records_split hextends₀]
        exact hrecorded
      · exact ⟨k, List.prefix_refl _⟩

/-- Opens with the lists of successive releases: every open keeps the laws, and at each moment the
database is what some of the migrations that it missed have made of it, each once and in order. -/
theorem migrations_apply_once (engine : Engine Schema) (releases : ℕ → List SqlMigration)
    (hsuccessive : ∀ n, releases n <+: releases (n + 1))
    (hleaves : ∀ n, ∀ m ∈ releases n, LeavesHistory engine m.sql) (db₀ : SqliteDatabase Schema)
    (opens : List Opening) (hdrawn : ∀ o ∈ opens, ∃ n, o.migrations = releases n) :
    Along (openStep engine) (OpenLaws engine db₀) db₀ opens ∧
      MigratedBy engine releases db₀ (runFrom (openStep engine) db₀ opens) := by
  have hstart : MigratedBy engine releases db₀ db₀ :=
    ⟨[], .inl ⟨rfl, rfl⟩, (List.append_nil _).symm, List.nodup_nil, 0, List.nil_prefix⟩
  have hguard : Along (openStep engine)
      (fun _ o => True ∧ ∃ n, o.migrations = releases n) db₀ opens :=
    Along.and_forall (along_true db₀ opens) hdrawn
  constructor
  · refine Along.of_invariant ?_ ?_ hstart hguard
    · rintro db o hdb ⟨-, k, hk⟩
      exact (openLaws releases hsuccessive hleaves hdb hk).2
    · rintro db o hdb ⟨-, k, hk⟩
      exact (openLaws releases hsuccessive hleaves hdb hk).1
  · refine Along.invariant ?_ hstart hguard
    rintro db o hdb ⟨-, k, hk⟩
    exact (openLaws releases hsuccessive hleaves hdb hk).2

end Runner

/-! ## Two databases -/

namespace Sample

/-- A script that adds a row to the table of the runner. -/
def meddling : String := "INSERT INTO schema_migrations (version, name) VALUES (2, 'extra');"

/-- An engine that keeps the scripts it has run, and runs the one that meddles. -/
def engine : Engine (List String) := fun sql => do
  if sql = meddling then insertMigration ⟨2, "extra", ""⟩
  else
    let db ← get
    set ({ db with schema := db.schema ++ [sql] } : SqliteDatabase (List String))

def database : SqliteDatabase (List String) := ⟨[], none⟩

def records : SqlMigration where
  version := 1
  name := "0001_records"
  sql := "CREATE TABLE records (id INTEGER PRIMARY KEY, value TEXT NOT NULL);"

def label : SqlMigration where
  version := 2
  name := "0002_label"
  sql := "ALTER TABLE records ADD COLUMN label TEXT NOT NULL DEFAULT 'old';"

def releases (n : ℕ) : List SqlMigration := [records, label].take n

def opening (migrations : List SqlMigration) : Opening where
  dataDir := some "/data"
  migrations := migrations
  faults := fun _ => false
  journalMode := some "wal"

theorem releases_successive (n : ℕ) : releases n <+: releases (n + 1) :=
  List.take_prefix_take_left (Nat.le_succ n)

theorem releases_leave (n : ℕ) (m : SqlMigration) (hm : m ∈ releases n) :
    LeavesHistory engine m.sql := by
  have hsql : m.sql ≠ meddling := by
    have hmem := List.mem_of_mem_take hm
    obtain rfl | hmem := List.mem_cons.mp hmem
    · decide
    · obtain rfl := List.mem_singleton.mp hmem
      decide
  intro db
  unfold engine
  rw [if_neg hsql]
  rfl

end Sample

theorem migrations_apply_once_sample :
    Along (openStep Sample.engine) (OpenLaws Sample.engine Sample.database) Sample.database
        [Sample.opening (Sample.releases 1), Sample.opening (Sample.releases 2),
          Sample.opening (Sample.releases 1)] ∧
      MigratedBy Sample.engine Sample.releases Sample.database
        (runFrom (openStep Sample.engine) Sample.database
          [Sample.opening (Sample.releases 1), Sample.opening (Sample.releases 2),
            Sample.opening (Sample.releases 1)]) := by
  refine migrations_apply_once Sample.engine Sample.releases Sample.releases_successive
    Sample.releases_leave Sample.database _ ?_
  intro o ho
  simp only [List.mem_cons, List.not_mem_nil, or_false] at ho
  obtain rfl | rfl | rfl := ho
  · exact ⟨1, rfl⟩
  · exact ⟨2, rfl⟩
  · exact ⟨1, rfl⟩

/-- A script that writes to `schema_migrations` passes the checks, and the history after the open
that runs it is not the list. -/
theorem script_writes_history :
    validateMigrations [⟨1, "0001_meddling", Sample.meddling⟩] = true ∧
      (exec (openSqliteDatabase Sample.engine
        (Sample.opening [⟨1, "0001_meddling", Sample.meddling⟩])) Sample.database).1 = .ok () ∧
      (openStep Sample.engine Sample.database
        (Sample.opening [⟨1, "0001_meddling", Sample.meddling⟩])).history ≠
          [SqlMigration.mk 1 "0001_meddling" Sample.meddling].map SqlMigration.record := by
  decide +kernel

end Doctmcp.Storage.Migrations
