import Hostpin.Foundation.Attempts
import Hostpin.Foundation.Calendar

/-!
# From SQLite to PostgreSQL

The transfer copies one table after the other, each in a transaction of its own.  Before that it looks
whether three of the tables of the target are empty.

A source is any database; every operation of the transfer may fail (`Faults`), and a commit that
fails may have been carried out.  `operations` lists what the transfer asks for when nothing fails.
The transfer can be repeated after a failure exactly if no table was committed before it
(`restartable_iff`); after a failure in a later table it cannot (`notRestartable_nodes`).
-/

namespace Hostpin

open Clock Calendar Faulty

namespace Transfer

/-! ## Rows -/

/-- A value as a database driver gives it, and a boolean. -/
inductive SQLValue where
  | null
  | int64 (value : ℤ)
  | float64 (bits : UInt64)
  | string (bytes : List UInt8)
  | bytes (raw : List UInt8)
  | bool (value : Bool)
deriving DecidableEq

/-- A row: its columns and their values. -/
abbrev Row := List (String × SQLValue)

/-- The tables in the order in which they are copied. -/
def transferTables : List String :=
  ["settings", "admins", "sessions", "nodes", "agent_credentials", "agent_configs",
    "temporary_enrollment_pins",
    "metrics_raw", "metrics_5m", "metrics_1h", "probe_tasks", "probe_results",
    "alert_rules", "alert_events", "notification_channels", "notification_deliveries",
    "themes", "geoip_cache", "audit_log", "api_keys", "share_links"]

/-- The columns of a table that are booleans in PostgreSQL. -/
def booleanColumns : String → List String
  | "nodes" => ["hidden", "auto_renewal", "location_manual", "latency_enabled"]
  | "probe_tasks" => ["enabled", "public"]
  | "probe_results" => ["success"]
  | "alert_rules" => ["enabled"]
  | "notification_channels" => ["enabled"]
  | _ => []

/-- The column of a table whose range is compared. -/
def timeColumns : String → Option String
  | "metrics_raw" | "metrics_5m" | "metrics_1h" | "probe_results" => some "ts"
  | "alert_events" | "audit_log" => some "occurred_at"
  | "temporary_enrollment_pins" => some "created_at"
  | _ => none

/-- The value that is inserted for a value of the source. -/
def convert (table column : String) (value : SQLValue) : SQLValue :=
  let value := match value with
    | .bytes raw => .string raw
    | value => value
  if column ∈ booleanColumns table then
    match value with
    | .int64 value => .bool (value != 0)
    | value => value
  else value

/-- The row that is inserted for a row of the source. -/
def convertRow (table : String) (row : Row) : Row :=
  row.map fun (column, value) => (column, convert table column value)

/-- The number in a column of a row. -/
def numberIn (column : String) (row : Row) : Option ℤ :=
  match row.lookup column with
  | some (.int64 value) => some value
  | _ => none

/-- The smallest and the greatest number in a column, or nothing when it has none. -/
def timeRange (column : String) (rows : List Row) : Option (ℤ × ℤ) :=
  let values := rows.filterMap (numberIn column)
  match values.min?, values.max? with
  | some minimum, some maximum => some (minimum, maximum)
  | _, _ => none

/-! ## The databases -/

/-- The source.  A row has a value in each column of its table. -/
structure SQLiteDatabase where
  columns : String → List String
  rows : String → List Row
  complete : ∀ table, ∀ row ∈ rows table, row.map Prod.fst = columns table

/-- The target: what is committed, and what an open transaction has inserted. -/
structure PostgresDatabase where
  tables : String → List Row := fun _ => []
  transaction : Option (List (String × Row)) := none

/-- What the transfer asks the databases for.  A row is known by its place in its table. -/
inductive TransferOp where
  | openSource
  | openTarget
  | checkEmpty (table : String)
  | metricRange
  | createPartition (table : String) (year month : ℤ)
  | columns (table : String)
  | countSource (table : String)
  | select (table : String) (columns : List String)
  | begin (table : String)
  | next (table : String) (i : ℕ)
  | scan (table : String) (i : ℕ)
  | insert (table : String) (i : ℕ) (row : Row)
  | commit (table : String)
  | rollback (table : String)
  | countTarget (table : String)
  | sourceRange (table column : String)
  | targetRange (table column : String)
  | scanRange (table : String) (ofTarget : Bool) (range : Option (ℤ × ℤ))
  | resetSequence (table : String)
deriving DecidableEq

/-- What an operation answers. -/
abbrev TransferOp.Answer : TransferOp → Type
  | .checkEmpty _ | .countSource _ | .countTarget _ => ℕ
  | .metricRange | .sourceRange _ _ | .targetRange _ _ => Option (ℤ × ℤ)
  | .columns _ => List String
  | .select _ _ => List Row
  | .scanRange _ _ _ => ℤ × ℤ
  | _ => Unit

/-- The operations that fail, with their errors, and the commits that are carried out nevertheless. -/
structure Faults where
  fails : TransferOp → Option String
  carriedOut : String → Bool

/-- No operation fails. -/
def noFaults : Faults where
  fails _ := none
  carriedOut _ := false

/-- The error of an operation.  The range of a column that has no number cannot be scanned. -/
def Faults.error (faults : Faults) (op : TransferOp) : Option String :=
  match faults.fails op with
  | some err => some err
  | none =>
    match op with
    | .scanRange _ _ none => some "converting NULL to int64 is unsupported"
    | _ => none

/-- The tables whose partitions are created. -/
def metricTables : List String := ["metrics_raw", "metrics_5m", "metrics_1h"]

/-- What an operation that works answers. -/
def answer (source : SQLiteDatabase) : (op : TransferOp) → PostgresDatabase → op.Answer
  | .checkEmpty table, target => (target.tables table).length
  | .countTarget table, target => (target.tables table).length
  | .countSource table, _ => (source.rows table).length
  | .metricRange, _ => timeRange "ts" (metricTables.flatMap source.rows)
  | .columns table, _ => source.columns table
  | .select table _, _ => source.rows table
  | .sourceRange table column, _ => timeRange column (source.rows table)
  | .targetRange table column, target => timeRange column (target.tables table)
  | .scanRange _ _ range, _ => range.getD (0, 0)
  | .openSource, _ | .openTarget, _ | .createPartition _ _ _, _ | .begin _, _ | .next _ _, _
  | .scan _ _, _ | .insert _ _ _, _ | .commit _, _ | .rollback _, _ | .resetSequence _, _ => ()

namespace PostgresDatabase

/-- The open transaction becomes visible. -/
def commit (target : PostgresDatabase) : PostgresDatabase where
  tables table := target.tables table ++
    ((target.transaction.getD []).filter fun inserted => inserted.1 = table).map Prod.snd

/-- The open transaction is forgotten. -/
def rollback (target : PostgresDatabase) : PostgresDatabase :=
  { target with transaction := none }

/-- The target after an operation that works. -/
def after (target : PostgresDatabase) : TransferOp → PostgresDatabase
  | .begin _ => { target with transaction := some [] }
  | .insert table _ row =>
    { target with transaction := target.transaction.map (· ++ [(table, row)]) }
  | .commit _ => target.commit
  | .rollback _ => target.rollback
  | _ => target

/-- The target after an operation that fails. -/
def failed (faults : Faults) (target : PostgresDatabase) : TransferOp → PostgresDatabase
  | .commit table => if faults.carriedOut table then target.commit else target.rollback
  | .rollback _ => target.rollback
  | _ => target

/-- The target when the transfer gives up at an operation: in the middle of the rows of a table it
asks for a rollback. -/
def abandon (faults : Faults) (target : PostgresDatabase) (op : TransferOp) : PostgresDatabase :=
  match op with
  | .next _ _ | .scan _ _ | .insert _ _ _ => target.rollback
  | _ => target.failed faults op

end PostgresDatabase

/-- The two databases. -/
def databases (source : SQLiteDatabase) (faults : Faults) :
    Faulty TransferOp TransferOp.Answer String PostgresDatabase where
  fails := faults.error
  answer := answer source
  after := PostgresDatabase.after
  failed := PostgresDatabase.failed faults

/-! ## The transfer -/

open Attempt

/-- A part of the transfer that may end with an error. -/
abbrev Part (ε : Type) := Attempt TransferOp TransferOp.Answer String ε

/-- Ask for an operation. -/
def query (op : TransferOp) : Part String op.Answer := ask op

/-- Ask for an operation in the middle of the rows of a table. -/
def orRollback (table : String) (op : TransferOp) : Part String op.Answer :=
  askOr (.rollback table) op

/-- What the transfer reports of a table. -/
structure TransferTable where
  name : String
  sourceRows : ℕ := 0
  targetRows : ℕ := 0
  sourceRange : Option (ℤ × ℤ) := none
  targetRange : Option (ℤ × ℤ) := none
deriving DecidableEq

/-- What the transfer reports. -/
structure TransferReport where
  tables : List TransferTable := []
  rows : ℕ := 0
deriving DecidableEq

/-- Insert the rows that a cursor gives, with their numbers. -/
def copyRows (table : String) (columns : List String) : List Row → ℕ → Part String Unit
  -- the cursor finds no further row, or fails to look for one
  | [], i => orRollback table (.next table i)
  | row :: rows, i => do
    orRollback table (.next table i)
    orRollback table (.scan table i)
    let values := (columns.zip (row.map Prod.snd)).map fun (column, value) =>
      convert table column value
    orRollback table (.insert table i (columns.zip values))
    copyRows table columns rows (i + 1)

/-- Copy the rows of a table in a transaction, if it has any. -/
def copyAllRows (table : String) (columns : List String) (sourceRows : ℕ) : Part String Unit :=
  if 0 < sourceRows then do
    let rows ← query (.select table columns)
    query (.begin table)
    copyRows table columns rows 0
    query (.commit table)
  else pure ()

/-- Compare the ranges of a column. -/
def compareRanges (table column : String) (entry : TransferTable) : Part String TransferTable := do
  let sourceRange ← query (.sourceRange table column)
  let sourceRange ← query (.scanRange table false sourceRange)
  let targetRange ← query (.targetRange table column)
  let targetRange ← query (.scanRange table true targetRange)
  if sourceRange ≠ targetRange then throw "time range mismatch"
  else
    pure { entry with sourceRange := some sourceRange, targetRange := some targetRange }

/-- Compare a table of the target with the one of the source. -/
def compareTables (table : String) (sourceRows targetRows : ℕ) : Part String TransferTable :=
  if sourceRows ≠ targetRows then
    throw ("row count mismatch: source=" ++ toString sourceRows ++ " target=" ++
      toString targetRows)
  else
    let entry : TransferTable := { name := table, sourceRows, targetRows }
    match timeColumns table with
    | none => pure entry
    | some column => if 0 < sourceRows then compareRanges table column entry else pure entry

/-- Copy a table. -/
def copyTable (table : String) : Part String TransferTable := do
  let columns ← query (.columns table)
  let sourceRows : ℕ ← query (.countSource table)
  copyAllRows table columns sourceRows
  let targetRows : ℕ ← query (.countTarget table)
  compareTables table sourceRows targetRows

/-- Copy tables, and add them to the report. -/
def copyTables : List String → TransferReport → Part (TransferReport × String) TransferReport
  | [], report => pure report
  | table :: tables, report => do
    let entry ← mapError (fun err => (report, "copy table " ++ table ++ ": " ++ err))
      (copyTable table)
    copyTables tables
      { tables := report.tables ++ [entry], rows := report.rows + entry.sourceRows }

/-- Check that tables of the target are empty. -/
def checkEmptyTables : List String → Part String Unit
  | [] => pure ()
  | table :: tables => do
    let count : ℕ ← query (.checkEmpty table)
    if count ≠ 0 then throw ("target PostgreSQL table " ++ table ++ " is not empty")
    else checkEmptyTables tables

/-- The number of months from one instant to another one, in milliseconds. -/
def monthsBetween (minimum maximum : ℤ) : ℤ :=
  let start := dayOf (ofUnixMilli minimum)
  let stop := dayOf (ofUnixMilli maximum)
  (year stop - year start) * 12 + (month stop - month start)

/-- The partitions of the months from one instant to another one. -/
def partitions (minimum maximum : ℤ) : List TransferOp :=
  let start := dayOf (ofUnixMilli minimum)
  (List.range (monthsBetween minimum maximum + 1).toNat).flatMap fun offset =>
    let first := ofDate (year start) (month start + offset) 1
    metricTables.map fun table => .createPartition table (year first) (month first)

/-- A number with leading zeros. -/
def padded (width : ℕ) (n : ℤ) : String :=
  let digits := toString n.natAbs
  if n < 0 then "-" ++ "".pushn '0' (width - 1 - digits.length) ++ digits
  else "".pushn '0' (width - digits.length) ++ digits

/-- The error of a statement that is executed on its own. -/
def statementError (op : TransferOp) (err : String) : String :=
  match op with
  | .createPartition table year month =>
    "create PostgreSQL metric partition " ++ table ++ "_" ++ padded 4 year ++ "_" ++
      padded 2 month ++ ": " ++ err
  | .resetSequence table => "reset sequence for " ++ table ++ ": " ++ err
  | _ => err

/-- Create the partitions for the metrics of the source. -/
def ensurePartitionsForSource : Part String Unit := do
  match ← query .metricRange with
  | none => pure ()
  | some (minimum, maximum) =>
    let months := monthsBetween minimum maximum
    if 240 < months then
      throw ("metric history spans " ++ toString months ++
        " months; maximum supported offline transfer span is 240")
    else askAll statementError (partitions minimum maximum)

/-- The tables whose sequences are reset. -/
def sequenceTables : List String :=
  ["probe_tasks", "alert_rules", "notification_channels", "audit_log"]

/-- The tables of the target that have to be empty. -/
def checkedTables : List String := ["admins", "nodes", "metrics_raw"]

/-- Everything up to the first table. -/
def prepare : Part String Unit := do
  mapError ("open source SQLite: " ++ ·) (query .openSource)
  mapError ("open target PostgreSQL: " ++ ·) (query .openTarget)
  checkEmptyTables checkedTables
  ensurePartitionsForSource

/-- The transfer.  An error comes with the report so far. -/
def TransferSQLiteToPostgres : Part (TransferReport × String) TransferReport := do
  mapError (fun err => ({}, err)) prepare
  let report ← copyTables transferTables {}
  askAll (fun op err => (report, statementError op err)) (sequenceTables.map .resetSequence)
  pure report

/-- A transfer into a target, which is closed at the end. -/
def transfer (source : SQLiteDatabase) (faults : Faults) (target : PostgresDatabase) :
    Except (TransferReport × String) TransferReport × PostgresDatabase :=
  let outcome := (databases source faults).run TransferSQLiteToPostgres target
  (outcome.1, outcome.2.rollback)

/-! ## What the transfer asks for when nothing fails -/

/-- The operations for the rows of a table. -/
def rowOperations (table : String) : List Row → ℕ → List TransferOp
  | [], i => [.next table i]
  | row :: rows, i =>
    [.next table i, .scan table i, .insert table i (convertRow table row)] ++
      rowOperations table rows (i + 1)

/-- The operations for a table up to its commit, if it has rows. -/
def fillOperations (source : SQLiteDatabase) (table : String) : List TransferOp :=
  if source.rows table = [] then []
  else
    [.select table (source.columns table), .begin table] ++
      rowOperations table (source.rows table) 0 ++ [.commit table]

/-- The operations that compare the ranges of a table. -/
def rangeOperations (source : SQLiteDatabase) (table : String) : List TransferOp :=
  match timeColumns table with
  | none => []
  | some column =>
    if source.rows table = [] then []
    else
      let range := timeRange column (source.rows table)
      [.sourceRange table column, .scanRange table false range, .targetRange table column,
        .scanRange table true range]

/-- The operations for a table. -/
def tableOperations (source : SQLiteDatabase) (table : String) : List TransferOp :=
  [.columns table, .countSource table] ++ fillOperations source table ++ [.countTarget table] ++
    rangeOperations source table

/-- The partitions that the metrics of a source need, or nothing when they span too many months. -/
def neededPartitions (source : SQLiteDatabase) : Option (List TransferOp) :=
  match timeRange "ts" (metricTables.flatMap source.rows) with
  | none => some []
  | some (minimum, maximum) =>
    if 240 < monthsBetween minimum maximum then none else some (partitions minimum maximum)

/-- The operations before the partitions. -/
def checkOperations : List TransferOp :=
  [.openSource, .openTarget] ++ checkedTables.map .checkEmpty ++ [.metricRange]

/-- The operations of a transfer. -/
def operations (source : SQLiteDatabase) : List TransferOp :=
  checkOperations ++
    match neededPartitions source with
    | none => []
    | some needed =>
      needed ++ transferTables.flatMap (tableOperations source) ++
        sequenceTables.map .resetSequence

/-! ## What is to be shown -/

/-- The rows that a table of the target should get. -/
def convertedRows (source : SQLiteDatabase) (table : String) : List Row :=
  (source.rows table).map (convertRow table)

/-- The tables that are committed before an operation fails, or by the commit that fails. -/
def committedTables (faults : Faults) : List TransferOp → List String
  | [] => []
  | op :: ops =>
    match faults.error op, op with
    | none, .commit table => table :: committedTables faults ops
    | none, _ => committedTables faults ops
    | some _, .commit table => if faults.carriedOut table then [table] else []
    | some _, _ => []

/-- A failed transfer leaves the tables empty, so that one without failures ends as if it was the
first one, and a transfer without an error has copied every table. -/
def Restartable (source : SQLiteDatabase) (faults : Faults) : Prop :=
  match transfer source faults {} with
  | (.error _, target) =>
    (∀ table ∈ transferTables, target.tables table = []) ∧
      transfer source noFaults target = transfer source noFaults {}
  | (.ok _, target) =>
    ∀ table ∈ transferTables, target.tables table = convertedRows source table

/-! ## What the operations do to the target -/

section Effects

variable (source : SQLiteDatabase) (target : PostgresDatabase)

/-- A table is filled. -/
def PostgresDatabase.fill (target : PostgresDatabase) (table : String) (rows : List Row) :
    PostgresDatabase where
  tables := Function.update target.tables table (target.tables table ++ rows)

/-- The rows of a table wait in the open transaction. -/
lemma run_rowOperations (table : String) (rows : List Row) (i : ℕ)
    (pending : List (String × Row)) :
    Runs.run PostgresDatabase.after { target with transaction := some pending }
        (rowOperations table rows i) =
      { target with
        transaction := some (pending ++ rows.map fun row => (table, convertRow table row)) } := by
  induction rows generalizing i pending with
  | nil =>
    simp only [rowOperations, Runs.run_cons, Runs.run_nil, PostgresDatabase.after, List.map_nil,
      List.append_nil]
  | cons row rows ih =>
    rw [rowOperations, Runs.run_append]
    simp only [Runs.run_cons, Runs.run_nil, PostgresDatabase.after, Option.map_some]
    rw [ih, List.map_cons, List.append_assoc, List.singleton_append]

lemma pending_eq (table : String) (rows : List Row) :
    rows.map (fun row => (table, convertRow table row)) =
      (rows.map (convertRow table)).map fun row => (table, row) := by
  rw [List.map_map]; rfl

/-- A commit adds the rows of its table. -/
lemma commit_pending (table : String) (rows : List Row) :
    PostgresDatabase.commit
        { target with transaction := some (rows.map fun row => (table, row)) } =
      target.fill table rows := by
  unfold PostgresDatabase.commit PostgresDatabase.fill
  congr 1
  funext other
  by_cases same : other = table
  · subst same
    simp [List.filter_map, Function.comp_def]
  · simp [List.filter_map, Function.comp_def, Function.update_of_ne same, Ne.symm same]

variable {target} in
/-- The operations for a table fill it. -/
lemma run_fillOperations (table : String) (closed : target.transaction = none) :
    Runs.run PostgresDatabase.after target (fillOperations source table) =
      target.fill table (convertedRows source table) := by
  unfold fillOperations convertedRows
  split
  · next empty =>
    rw [empty]
    cases target with
    | mk tables transaction =>
      simp only at closed
      simp only [Runs.run_nil, PostgresDatabase.fill, closed, List.map_nil, List.append_nil,
        Function.update_eq_self]
  · simp only [Runs.run_append, Runs.run_cons, Runs.run_nil, PostgresDatabase.after]
    rw [run_rowOperations, List.nil_append, pending_eq, commit_pending]

/-- Comparing the ranges changes nothing. -/
lemma run_rangeOperations (table : String) :
    Runs.run PostgresDatabase.after target (rangeOperations source table) = target := by
  unfold rangeOperations
  split
  · rfl
  · split <;> rfl

variable {target} in
lemma run_tableOperations (table : String) (closed : target.transaction = none) :
    Runs.run PostgresDatabase.after target (tableOperations source table) =
      target.fill table (convertedRows source table) := by
  simp only [tableOperations, Runs.run_append, Runs.run_cons, Runs.run_nil, PostgresDatabase.after,
    run_fillOperations source table closed, run_rangeOperations]

variable {target} in
/-- The operations for several tables fill them. -/
lemma run_tablesOperations {tables : List String} (nodup : tables.Nodup)
    (closed : target.transaction = none) (table : String) :
    (Runs.run PostgresDatabase.after target (tables.flatMap (tableOperations source))).tables table =
      target.tables table ++ if table ∈ tables then convertedRows source table else [] := by
  induction tables generalizing target with
  | nil => simp
  | cons first tables ih =>
    obtain ⟨fresh, nodup⟩ := List.nodup_cons.mp nodup
    rw [List.flatMap_cons, Runs.run_append, run_tableOperations source first closed, ih nodup rfl]
    by_cases same : table = first
    · subst same
      simp [PostgresDatabase.fill, fresh]
    · simp [PostgresDatabase.fill, same]

variable {target} in
/-- Filling a table leaves the other tables empty. -/
lemma empty_fill {table : String} {tables : List String} {rows : List Row} (fresh : table ∉ tables)
    (empty : ∀ other ∈ table :: tables, target.tables other = []) :
    ∀ other ∈ tables, (target.fill table rows).tables other = [] := by
  intro other mem
  have differ : other ≠ table := fun same => fresh (same ▸ mem)
  simp only [PostgresDatabase.fill, Function.update_of_ne differ]
  exact empty other (List.mem_cons_of_mem _ mem)

end Effects

/-! ## The procedures perform the operations -/

section Procedures

variable {source : SQLiteDatabase} {faults : Faults} {target : PostgresDatabase}

/-- A part of the transfer performs operations. -/
abbrev PerformsOn (source : SQLiteDatabase) (faults : Faults) {ε α : Type} (p : Part ε α)
    (ops : List TransferOp) (Q : Except ε α → Prop) (target : PostgresDatabase) : Prop :=
  Performs (databases source faults) (PostgresDatabase.abandon faults) p ops Q target

/-- A rollback works in any case. -/
lemma handle_rollback (table : String) :
    ((databases source faults).handle (.rollback table) target).2 = target.rollback := by
  simp only [Faulty.handle]
  cases (databases source faults).fails (.rollback table) <;> rfl

/-- An operation outside the rows of a table, and what comes after it. -/
lemma performs_query {α : Type} {op : TransferOp} {next : op.Answer → Part String α}
    {ops : List TransferOp} {Q : Except String α → Prop}
    (outside : PostgresDatabase.abandon faults target op = target.failed faults op)
    (rest : PerformsOn source faults (next (answer source op target)) ops Q (target.after op)) :
    PerformsOn source faults (query op >>= next) (op :: ops) Q target :=
  .cons_ok (.ask outside) rest

/-- An operation in the middle of the rows of a table, and what comes after it. -/
lemma performs_orRollback {α : Type} {table : String} {op : TransferOp}
    {next : op.Answer → Part String α} {ops : List TransferOp} {Q : Except String α → Prop}
    (inside : PostgresDatabase.abandon faults target op = (target.failed faults op).rollback)
    (rest : PerformsOn source faults (next (answer source op target)) ops Q (target.after op)) :
    PerformsOn source faults (orRollback table op >>= next) (op :: ops) Q target :=
  .cons_ok (.askOr ((handle_rollback table).trans inside.symm)) rest

/-- The names and the values of a row, put together again. -/
lemma zip_convert {columns : List String} {row : Row} (complete : row.map Prod.fst = columns)
    (table : String) :
    columns.zip ((columns.zip (row.map Prod.snd)).map fun x => convert table x.1 x.2) =
      convertRow table row := by
  subst complete
  induction row with
  | nil => rfl
  | cons value row ih =>
    simp only [List.map_cons, List.zip_cons_cons, convertRow, List.cons.injEq, true_and]
    exact ih

lemma performs_copyRows (table : String) {columns : List String} {rows : List Row}
    (complete : ∀ row ∈ rows, row.map Prod.fst = columns) (i : ℕ) :
    PerformsOn source faults (copyRows table columns rows i) (rowOperations table rows i)
      (· = .ok ()) target := by
  induction rows generalizing i target with
  | nil => exact .askOr (handle_rollback table)
  | cons row rows ih =>
    rw [copyRows, rowOperations]
    refine performs_orRollback rfl (performs_orRollback rfl ?_)
    dsimp only
    rw [zip_convert (complete row List.mem_cons_self)]
    refine performs_orRollback rfl ?_
    exact ih (fun row mem => complete row (List.mem_cons_of_mem _ mem)) (i + 1)

lemma performs_copyAllRows (table : String) :
    PerformsOn source faults
      (copyAllRows table (source.columns table) (source.rows table).length)
      (fillOperations source table) (· = .ok ()) target := by
  unfold copyAllRows fillOperations
  by_cases empty : source.rows table = []
  · rw [if_pos empty, empty, List.length_nil, if_neg (lt_irrefl 0)]
    exact .pure rfl
  · rw [if_neg empty, if_pos (List.length_pos_iff.mpr empty)]
    simp only [List.cons_append, List.nil_append]
    refine performs_query rfl (performs_query rfl (.bind_ok (a := ()) ?_ (.ask rfl)))
    exact performs_copyRows table (source.complete table) 0

lemma lookup_convertRow (table column : String) (row : Row) :
    (convertRow table row).lookup column = (row.lookup column).map (convert table column) := by
  induction row with
  | nil => rfl
  | cons value row ih =>
    obtain ⟨name, value⟩ := value
    simp only [convertRow, List.map_cons, List.lookup_cons] at ih ⊢
    cases same : column == name with
    | true =>
      rw [beq_iff_eq] at same
      subst same
      rfl
    | false => exact ih

/-- A time column is not a boolean. -/
lemma time_not_boolean {table column : String} (time : timeColumns table = some column) :
    column ∉ booleanColumns table := by
  unfold timeColumns at time
  split at time <;> cases time <;> decide

/-- The range of a time column is not changed by the conversion. -/
lemma timeRange_converted {table column : String} (time : timeColumns table = some column) :
    timeRange column (convertedRows source table) = timeRange column (source.rows table) := by
  have number : numberIn column ∘ convertRow table = numberIn column := by
    funext row
    simp only [Function.comp_apply, numberIn, lookup_convertRow]
    cases row.lookup column with
    | none => rfl
    | some value => cases value <;> simp [convert, time_not_boolean time]
  simp only [timeRange, convertedRows, List.filterMap_map, number]

/-- A table of the target that has the rows of the source passes the comparison. -/
lemma performs_compareTables (faults : Faults) {table : String}
    (copied : target.tables table = convertedRows source table) :
    PerformsOn source faults
      (compareTables table (source.rows table).length (target.tables table).length)
      (rangeOperations source table) (fun result => ∃ entry, result = .ok entry) target := by
  have count : (source.rows table).length = (target.tables table).length := by
    rw [copied, convertedRows, List.length_map]
  rw [compareTables, if_neg (not_not.mpr count)]
  cases time : timeColumns table with
  | none =>
    rw [rangeOperations, time]
    exact .pure ⟨_, rfl⟩
  | some column =>
    by_cases empty : source.rows table = []
    · simp only [rangeOperations, time, empty, if_true, List.length_nil, lt_irrefl, if_false]
      exact .pure ⟨_, rfl⟩
    · have same : timeRange column (target.tables table) = timeRange column (source.rows table) := by
        rw [copied, timeRange_converted time]
      have listed : rangeOperations source table =
          [.sourceRange table column, .scanRange table false (timeRange column (source.rows table)),
            .targetRange table column,
            .scanRange table true (timeRange column (target.tables table))] := by
        simp only [rangeOperations, time, empty, if_false, same]
      simp only [listed, List.length_pos_iff.mpr empty, if_true]
      refine performs_query rfl (performs_query rfl (performs_query rfl (performs_query rfl ?_)))
      split
      · next differ => exact absurd (congrArg (·.getD (0, 0)) same.symm) differ
      · exact .pure ⟨_, rfl⟩

lemma performs_copyTable {table : String} (empty : target.tables table = [])
    (closed : target.transaction = none) :
    PerformsOn source faults (copyTable table) (tableOperations source table)
      (fun result => ∃ entry, result = .ok entry) target := by
  have copied : (target.fill table (convertedRows source table)).tables table =
      convertedRows source table := by
    simp only [PostgresDatabase.fill, Function.update_self, empty, List.nil_append]
  have listed : tableOperations source table =
      .columns table :: .countSource table :: (fillOperations source table ++
        .countTarget table :: rangeOperations source table) := by
    simp only [tableOperations, List.append_assoc, List.cons_append, List.nil_append]
  have filled : Runs.run (databases source faults).after target (fillOperations source table) =
      target.fill table (convertedRows source table) := run_fillOperations source table closed
  rw [listed]
  refine performs_query rfl (performs_query rfl (.bind_ok (performs_copyAllRows table) ?_))
  refine performs_query rfl ?_
  have compared := performs_compareTables faults copied
  rw [← filled] at compared
  exact compared

lemma performs_copyTables {tables : List String} (nodup : tables.Nodup)
    (empty : ∀ table ∈ tables, target.tables table = []) (closed : target.transaction = none)
    (report : TransferReport) :
    PerformsOn source faults (copyTables tables report)
      (tables.flatMap (tableOperations source)) (fun result => ∃ report, result = .ok report)
      target := by
  induction tables generalizing target report with
  | nil => exact .pure ⟨_, rfl⟩
  | cons table tables ih =>
    obtain ⟨fresh, nodup⟩ := List.nodup_cons.mp nodup
    rw [copyTables, List.flatMap_cons]
    refine .bind (.mapError (performs_copyTable (empty table List.mem_cons_self) closed)) ?_
    rintro _ ⟨_, ⟨entry, rfl⟩, rfl⟩
    refine ⟨entry, rfl, ?_⟩
    have filled : Runs.run (databases source faults).after target (tableOperations source table) =
        target.fill table (convertedRows source table) := run_tableOperations source table closed
    rw [filled]
    exact ih nodup (empty_fill fresh empty) rfl _

lemma performs_checkEmptyTables {tables : List String}
    (empty : ∀ table ∈ tables, target.tables table = []) :
    PerformsOn source faults (checkEmptyTables tables) (tables.map .checkEmpty) (· = .ok ())
      target := by
  induction tables with
  | nil => exact .pure rfl
  | cons table tables ih =>
    rw [checkEmptyTables, List.map_cons]
    refine performs_query rfl ?_
    split
    · next filled =>
      exact absurd (List.length_eq_zero_iff.mpr (empty table List.mem_cons_self)) filled
    · exact ih fun table mem => empty table (List.mem_cons_of_mem _ mem)

lemma mem_partitions {minimum maximum : ℤ} {op : TransferOp}
    (mem : op ∈ partitions minimum maximum) :
    ∃ table year month, op = .createPartition table year month := by
  simp only [partitions, List.mem_flatMap, List.mem_map] at mem
  obtain ⟨_, _, table, _, rfl⟩ := mem
  exact ⟨table, _, _, rfl⟩

lemma mem_neededPartitions {needed : List TransferOp} (known : neededPartitions source = some needed)
    {op : TransferOp} (mem : op ∈ needed) :
    ∃ table year month, op = .createPartition table year month := by
  unfold neededPartitions at known
  split at known
  · cases known
    exact absurd mem List.not_mem_nil
  · split at known
    · cases known
    · cases known
      exact mem_partitions mem

/-- A part ends well exactly if the metrics do not span too many months. -/
def EndsWell (source : SQLiteDatabase) {ε α : Type} (result : Except ε α) : Prop :=
  match neededPartitions source with
  | none => ∃ err, result = .error err
  | some _ => ∃ a, result = .ok a

lemma performs_ensurePartitionsForSource :
    PerformsOn source faults ensurePartitionsForSource
      ([.metricRange] ++ (neededPartitions source).getD []) (EndsWell source) target := by
  have asked : answer source .metricRange target =
      timeRange "ts" (metricTables.flatMap source.rows) := rfl
  rw [ensurePartitionsForSource, List.singleton_append]
  refine performs_query rfl ?_
  rw [asked]
  unfold EndsWell neededPartitions
  cases timeRange "ts" (metricTables.flatMap source.rows) with
  | none => exact .pure ⟨_, rfl⟩
  | some range =>
    obtain ⟨minimum, maximum⟩ := range
    by_cases long : 240 < monthsBetween minimum maximum
    · simp only [long, if_true]
      exact .throw ⟨_, rfl⟩
    · simp only [long, if_false]
      refine (Performs.askAll fun op mem s => ?_).mono fun _ known => ⟨_, known⟩
      obtain ⟨table, year, month, rfl⟩ := mem_partitions mem
      rfl

lemma performs_prepare (source : SQLiteDatabase) (faults : Faults) (target : PostgresDatabase)
    (empty : ∀ table ∈ checkedTables, target.tables table = []) :
    PerformsOn source faults prepare (checkOperations ++ (neededPartitions source).getD [])
      (EndsWell source) target := by
  have listed : checkOperations ++ (neededPartitions source).getD [] =
      [.openSource] ++ ([.openTarget] ++ (checkedTables.map .checkEmpty ++
        ([.metricRange] ++ (neededPartitions source).getD []))) := by
    simp only [checkOperations, List.append_assoc, List.cons_append, List.nil_append]
  rw [listed, prepare]
  refine .bind (.mapError (.ask rfl)) ?_
  rintro _ ⟨_, rfl, rfl⟩
  refine ⟨_, rfl, .bind (.mapError (.ask rfl)) ?_⟩
  rintro _ ⟨_, rfl, rfl⟩
  refine ⟨_, rfl, .bind_ok (performs_checkEmptyTables empty) ?_⟩
  exact performs_ensurePartitionsForSource

/-- Operations that change nothing. -/
lemma run_quiet {ops : List TransferOp} (quiet : ∀ op ∈ ops, target.after op = target) :
    Runs.run PostgresDatabase.after target ops = target := by
  induction ops with
  | nil => rfl
  | cons op ops ih =>
    rw [Runs.run_cons, quiet op List.mem_cons_self]
    exact ih fun op mem => quiet op (List.mem_cons_of_mem _ mem)

/-- The operations before the first table change nothing. -/
lemma run_prepare (source : SQLiteDatabase) (target : PostgresDatabase) :
    Runs.run PostgresDatabase.after target
      (checkOperations ++ (neededPartitions source).getD []) = target := by
  refine run_quiet fun op mem => ?_
  rcases List.mem_append.mp mem with check | needed
  · have quiet : ∀ op ∈ checkOperations, target.after op = target := by
      simp [checkOperations, checkedTables, PostgresDatabase.after]
    exact quiet op check
  · cases known : neededPartitions source with
    | none => simp [known] at needed
    | some partitions =>
      rw [known] at needed
      obtain ⟨table, year, month, rfl⟩ := mem_neededPartitions known needed
      rfl

/-- The transfer into an empty target performs its operations. -/
lemma performs_transfer (source : SQLiteDatabase) (faults : Faults) :
    PerformsOn source faults TransferSQLiteToPostgres (operations source) (EndsWell source) {} := by
  have prepared := performs_prepare source faults {}
    fun _ _ => rfl
  have unchanged := run_prepare source {}
  unfold EndsWell at prepared ⊢
  rw [TransferSQLiteToPostgres, operations]
  cases needed : neededPartitions source with
  | none =>
    simp only [needed, Option.getD_none] at prepared ⊢
    refine .bind_error ((Performs.mapError prepared).mono ?_)
    rintro _ ⟨_, ⟨err, rfl⟩, rfl⟩
    exact ⟨_, rfl⟩
  | some partitions =>
    simp only [needed, Option.getD_some] at prepared unchanged ⊢
    have listed : checkOperations ++ (partitions ++
          transferTables.flatMap (tableOperations source) ++ sequenceTables.map .resetSequence) =
        (checkOperations ++ partitions) ++ (transferTables.flatMap (tableOperations source) ++
          (sequenceTables.map .resetSequence ++ [])) := by
      simp only [List.append_assoc, List.append_nil]
    rw [listed]
    refine .bind (.mapError prepared) ?_
    rintro _ ⟨_, ⟨_, rfl⟩, rfl⟩
    have start : Runs.run (databases source faults).after {} (checkOperations ++ partitions) = {} :=
      unchanged
    rw [start]
    refine ⟨_, rfl, .bind (performs_copyTables (by decide) (fun _ _ => rfl) rfl {}) ?_⟩
    rintro _ ⟨report, rfl⟩
    refine ⟨report, rfl, .bind_ok (.askAll fun op mem s => ?_) (.pure ⟨report, rfl⟩)⟩
    obtain ⟨table, -, rfl⟩ := List.mem_map.mp mem
    rfl

end Procedures

/-! ## The end of a transfer -/

section Ends

variable {source : SQLiteDatabase} {faults : Faults} {target : PostgresDatabase}

/-- The target after all operations. -/
lemma tables_operations {partitions : List TransferOp}
    (needed : neededPartitions source = some partitions) {table : String}
    (mem : table ∈ transferTables) :
    (Runs.run PostgresDatabase.after {} (operations source)).tables table =
      convertedRows source table := by
  have unchanged := run_prepare source {}
  rw [needed, Option.getD_some, Runs.run_append] at unchanged
  simp only [operations, needed, Runs.run_append, unchanged]
  rw [run_quiet, run_tablesOperations source (by decide) rfl,
    if_pos mem]
  · rfl
  · intro op mem
    obtain ⟨table, -, rfl⟩ := List.mem_map.mp mem
    rfl

/-- What a transfer into an empty target comes to. -/
lemma transfer_eq (source : SQLiteDatabase) (faults : Faults) :
    ∃ result, transfer source faults {} = (result,
        ((databases source faults).attempt (PostgresDatabase.abandon faults)
          (operations source) {}).2.rollback) ∧
      ((∃ report, result = .ok report) ↔
        (∀ op ∈ operations source, faults.error op = none) ∧ neededPartitions source ≠ none) := by
  have performs := performs_transfer source faults
  unfold PerformsOn Performs at performs
  split at performs
  · next works =>
    obtain ⟨result, run, ends⟩ := performs
    refine ⟨result, ?_, ?_⟩
    · rw [transfer, run, attempt_state works]
    · have allWork : ∀ op ∈ operations source, faults.error op = none := attempt_eq_true.mp works
      unfold EndsWell at ends
      cases needed : neededPartitions source with
      | none =>
        rw [needed] at ends
        obtain ⟨err, rfl⟩ := ends
        simp
      | some partitions =>
        rw [needed] at ends
        obtain ⟨report, rfl⟩ := ends
        simpa using allWork
  · next fails =>
    obtain ⟨err, run⟩ := performs
    refine ⟨.error err, ?_, ?_⟩
    · rw [transfer, run]
    · constructor
      · rintro ⟨report, same⟩
        cases same
      · rintro ⟨works, -⟩
        exact absurd (attempt_eq_true.mpr works) fails

end Ends

/-! ## What is committed -/

section Committed

variable {source : SQLiteDatabase} {faults : Faults} {target : PostgresDatabase}
  {ops : List TransferOp} {table : String}

/-- A commit gives its table the rows that it should get. -/
def CopiesTable (source : SQLiteDatabase) (target : PostgresDatabase) (op : TransferOp) : Prop :=
  ∀ table, op = .commit table →
    target.commit.tables = Function.update target.tables table (convertedRows source table)

/-- The tables after operations are performed until one fails. -/
lemma tables_attempt (copies : Runs.Along PostgresDatabase.after (CopiesTable source) target ops) :
    ((databases source faults).attempt (PostgresDatabase.abandon faults) ops target).2.tables table =
      if table ∈ committedTables faults ops then convertedRows source table
      else target.tables table := by
  induction ops generalizing target with
  | nil => rfl
  | cons op ops ih =>
    obtain ⟨now, later⟩ := copies
    have next := ih later
    have known : (databases source faults).fails op = faults.error op := rfl
    cases failure : faults.error op with
    | none =>
      have performed : (databases source faults).attempt (PostgresDatabase.abandon faults)
          (op :: ops) target = (databases source faults).attempt (PostgresDatabase.abandon faults)
          ops (target.after op) := by
        rw [attempt, known, failure]; rfl
      rw [performed, next]
      cases op with
      | commit other =>
        have committed : (PostgresDatabase.after target (.commit other)).tables =
            Function.update target.tables other (convertedRows source other) := now other rfl
        have names : committedTables faults (.commit other :: ops) =
            other :: committedTables faults ops := by simp only [committedTables, failure]
        rw [names, committed]
        by_cases same : table = other
        · subst same; simp
        · simp [same]
      | _ => simp only [committedTables, failure, PostgresDatabase.after, PostgresDatabase.rollback]
    | some err =>
      have given_up : (databases source faults).attempt (PostgresDatabase.abandon faults)
          (op :: ops) target = (false, target.abandon faults op) := by
        rw [attempt, known, failure]
      rw [given_up]
      cases op with
      | commit other =>
        have committed := now other rfl
        have names : committedTables faults (.commit other :: ops) =
            if faults.carriedOut other then [other] else [] := by
          simp only [committedTables, failure]
        rw [names]
        by_cases carried : faults.carriedOut other = true
        · simp only [PostgresDatabase.abandon, PostgresDatabase.failed, carried, if_true, committed,
            List.mem_singleton]
          by_cases same : table = other
          · subst same; simp
          · simp [same]
        · simp [PostgresDatabase.abandon, PostgresDatabase.failed, carried, PostgresDatabase.rollback]
      | _ =>
        simp only [committedTables, failure, List.not_mem_nil, if_false]
        rfl

lemma copies_of_noCommit (quiet : ∀ table, TransferOp.commit table ∉ ops) :
    Runs.Along PostgresDatabase.after (CopiesTable source) target ops := by
  induction ops generalizing target with
  | nil => trivial
  | cons op ops ih =>
    refine ⟨fun table same => absurd (same ▸ List.mem_cons_self) (quiet table), ih fun table mem => ?_⟩
    exact quiet table (List.mem_cons_of_mem _ mem)

lemma noCommit_rowOperations (rows : List Row) (i : ℕ) :
    ∀ other, TransferOp.commit other ∉ rowOperations table rows i := by
  intro other
  induction rows generalizing i with
  | nil => simp [rowOperations]
  | cons row rows ih => simp [rowOperations, ih]

lemma noCommit_rangeOperations :
    ∀ other, TransferOp.commit other ∉ rangeOperations source table := by
  intro other
  unfold rangeOperations
  split
  · simp
  · split <;> simp

/-- The commit of a table copies it, if it was empty before. -/
lemma copies_fillOperations (empty : target.tables table = []) :
    Runs.Along PostgresDatabase.after (CopiesTable source) target
      (fillOperations source table) := by
  unfold fillOperations
  split
  · trivial
  · refine Runs.along_append.mpr ⟨copies_of_noCommit ?_, ?_, trivial⟩
    · simp [noCommit_rowOperations]
    · rintro other same
      cases same
      simp only [Runs.run_append, Runs.run_cons, Runs.run_nil, PostgresDatabase.after]
      rw [run_rowOperations, List.nil_append, pending_eq, commit_pending]
      simp only [PostgresDatabase.fill, empty, List.nil_append, convertedRows]

lemma copies_tableOperations (empty : target.tables table = []) :
    Runs.Along PostgresDatabase.after (CopiesTable source) target
      (tableOperations source table) := by
  unfold tableOperations
  refine Runs.along_append.mpr ⟨Runs.along_append.mpr ⟨Runs.along_append.mpr ⟨?_, ?_⟩, ?_⟩, ?_⟩
  · exact copies_of_noCommit (by simp)
  · exact copies_fillOperations empty
  · exact copies_of_noCommit (by simp)
  · exact copies_of_noCommit noCommit_rangeOperations

lemma copies_tablesOperations {tables : List String} (nodup : tables.Nodup)
    (empty : ∀ table ∈ tables, target.tables table = []) (closed : target.transaction = none) :
    Runs.Along PostgresDatabase.after (CopiesTable source) target
      (tables.flatMap (tableOperations source)) := by
  induction tables generalizing target with
  | nil => trivial
  | cons table tables ih =>
    obtain ⟨fresh, nodup⟩ := List.nodup_cons.mp nodup
    rw [List.flatMap_cons]
    refine Runs.along_append.mpr ⟨copies_tableOperations (empty table List.mem_cons_self), ?_⟩
    rw [run_tableOperations source table closed]
    exact ih nodup (empty_fill fresh empty) rfl

lemma copies_operations :
    Runs.Along PostgresDatabase.after (CopiesTable source) {} (operations source) := by
  have unchanged := run_prepare source {}
  unfold operations
  refine Runs.along_append.mpr ⟨copies_of_noCommit (by simp [checkOperations]), ?_⟩
  cases needed : neededPartitions source with
  | none => trivial
  | some partitions =>
    rw [needed, Option.getD_some, Runs.run_append] at unchanged
    refine Runs.along_append.mpr ⟨Runs.along_append.mpr ⟨?_, ?_⟩, ?_⟩
    · refine copies_of_noCommit fun table mem => ?_
      obtain ⟨_, _, _, same⟩ := mem_neededPartitions needed mem
      cases same
    · rw [unchanged]
      exact copies_tablesOperations (by decide) (fun _ _ => rfl) rfl
    · exact copies_of_noCommit (by simp)

end Committed

/-! ## What a transfer leaves -/

section Outcome

variable (source : SQLiteDatabase) (faults : Faults)

/-- The tables after a transfer into an empty target. -/
lemma tables_transfer (table : String) :
    (transfer source faults {}).2.tables table =
      if table ∈ committedTables faults (operations source) then convertedRows source table
      else [] := by
  obtain ⟨result, run, -⟩ := transfer_eq source faults
  rw [run]
  exact tables_attempt copies_operations

/-- When nothing was committed the target is as it was. -/
lemma transfer_unchanged (nothing : committedTables faults (operations source) = []) :
    (transfer source faults {}).2 = {} := by
  have tables : (transfer source faults {}).2.tables = fun _ => [] := by
    funext table
    rw [tables_transfer, nothing, if_neg List.not_mem_nil]
  have closed : (transfer source faults {}).2.transaction = none := rfl
  generalize (transfer source faults {}).2 = target at tables closed
  cases target with
  | mk _ _ =>
    subst tables closed
    rfl

/-- A transfer works exactly if no operation fails and the metrics do not span too many months. -/
lemma transfer_ok_iff :
    (∃ report, (transfer source faults {}).1 = .ok report) ↔
      (∀ op ∈ operations source, faults.error op = none) ∧ neededPartitions source ≠ none := by
  obtain ⟨result, run, iff⟩ := transfer_eq source faults
  rw [run]
  exact iff

/-- A transfer that works has copied every table. -/
lemma tables_of_ok (works : ∀ op ∈ operations source, faults.error op = none)
    (short : neededPartitions source ≠ none) {table : String} (mem : table ∈ transferTables) :
    (transfer source faults {}).2.tables table = convertedRows source table := by
  obtain ⟨partitions, needed⟩ := Option.ne_none_iff_exists'.mp short
  obtain ⟨result, run, -⟩ := transfer_eq source faults
  rw [run, attempt_of_works works]
  exact tables_operations needed mem

/-- The commits of a transfer are those of its tables that have rows. -/
lemma rows_of_commit {table : String} (mem : TransferOp.commit table ∈ operations source) :
    table ∈ transferTables ∧ source.rows table ≠ [] := by
  unfold operations at mem
  rcases List.mem_append.mp mem with check | later
  · simp [checkOperations] at check
  · cases needed : neededPartitions source with
    | none => simp [needed] at later
    | some partitions =>
      rw [needed] at later
      simp only [List.mem_append, List.mem_flatMap, tableOperations] at later
      rcases later with (partition | ⟨other, listed, ((first | fill) | count) | range⟩) | sequence
      · obtain ⟨_, _, _, same⟩ := mem_neededPartitions needed partition
        cases same
      · simp at first
      · unfold fillOperations at fill
        split at fill
        · cases fill
        · next rows =>
          simp only [List.mem_append, noCommit_rowOperations, List.mem_singleton] at fill
          simp at fill
          subst fill
          exact ⟨listed, rows⟩
      · simp at count
      · exact absurd range (noCommit_rangeOperations table)
      · simp at sequence

/-- What is committed is asked for. -/
lemma commit_mem_of_committed {ops : List TransferOp} {table : String}
    (mem : table ∈ committedTables faults ops) : TransferOp.commit table ∈ ops := by
  induction ops with
  | nil => cases mem
  | cons op ops ih =>
    unfold committedTables at mem
    split at mem
    · rcases List.mem_cons.mp mem with rfl | later
      · exact List.mem_cons_self
      · exact List.mem_cons_of_mem _ (ih later)
    · exact List.mem_cons_of_mem _ (ih mem)
    · split at mem
      · rw [List.mem_singleton.mp mem]
        exact List.mem_cons_self
      · cases mem
    · cases mem

/-- Nothing is committed when the metrics span too many months. -/
lemma nothing_committed (long : neededPartitions source = none) :
    committedTables faults (operations source) = [] := by
  refine List.eq_nil_iff_forall_not_mem.mpr fun table mem => ?_
  have commit := commit_mem_of_committed faults mem
  simp [operations, long, checkOperations] at commit

/-- A failed transfer that has committed a table has left its rows. -/
lemma not_restartable {table : String} (mem : table ∈ committedTables faults (operations source))
    {err : TransferReport × String} (failed : (transfer source faults {}).1 = .error err) :
    ¬ Restartable source faults := by
  obtain ⟨listed, rows⟩ := rows_of_commit source (commit_mem_of_committed faults mem)
  intro restartable
  have left := tables_transfer source faults table
  rw [if_pos mem] at left
  unfold Restartable at restartable
  rcases run : transfer source faults {} with ⟨_ | report, target⟩
  · rw [run] at restartable left
    have empty := restartable.1 table listed
    exact rows (List.map_eq_nil_iff.mp (left.symm.trans empty))
  · rw [run] at failed
    cases failed

/-- A transfer can be repeated exactly if no operation fails, or no table is committed before one
does or by the commit that does. -/
lemma restartable_iff :
    Restartable source faults ↔
      (∀ op ∈ operations source, faults.error op = none) ∨
        committedTables faults (operations source) = [] := by
  have ends := transfer_ok_iff source faults
  constructor
  · intro restartable
    by_contra! neither
    obtain ⟨⟨op, mem, fails⟩, committed⟩ := neither
    obtain ⟨table, mem_table⟩ := List.exists_mem_of_ne_nil _ committed
    cases result : (transfer source faults {}).1 with
    | ok report => exact fails ((ends.mp ⟨report, result⟩).1 op mem)
    | error err => exact not_restartable source faults mem_table result restartable
  · intro condition
    unfold Restartable
    rcases run : transfer source faults {} with ⟨err | report, target⟩
    · have nothing : committedTables faults (operations source) = [] := by
        rcases condition with works | nothing
        · refine nothing_committed source faults (by_contra fun short => ?_)
          obtain ⟨report, ok⟩ := ends.mpr ⟨works, short⟩
          rw [run] at ok
          cases ok
        · exact nothing
      have unchanged : target = {} := by
        rw [← transfer_unchanged source faults nothing, run]
      subst unchanged
      exact ⟨fun _ _ => rfl, rfl⟩
    · obtain ⟨works, short⟩ := ends.mp ⟨report, by rw [run]⟩
      intro table mem
      have copied := tables_of_ok source faults works short mem
      rwa [run] at copied

/-- After a transfer into an empty target the tables whose commit was carried out have the rows of
the source, and the other ones are empty.  A transfer without an error has copied every table; one
with an error can be repeated exactly if no commit was carried out. -/
theorem transfer_outcome :
    (∀ table, (transfer source faults {}).2.tables table =
      if table ∈ committedTables faults (operations source) then convertedRows source table
      else []) ∧
      (∀ report, (transfer source faults {}).1 = .ok report →
        ∀ table ∈ transferTables,
          (transfer source faults {}).2.tables table = convertedRows source table) ∧
      (Restartable source faults ↔
        (∀ op ∈ operations source, faults.error op = none) ∨
          committedTables faults (operations source) = []) := by
  refine ⟨tables_transfer source faults, fun report ok table mem => ?_,
    restartable_iff source faults⟩
  obtain ⟨works, short⟩ := (transfer_ok_iff source faults).mp ⟨report, ok⟩
  exact tables_of_ok source faults works short mem

end Outcome

/-! ## A failure in the fourth table -/

/-- A database with an administrator and a node. -/
def smallDatabase : SQLiteDatabase where
  columns _ := ["id"]
  rows table :=
    if table = "admins" then [[("id", .string [97])]]
    else if table = "nodes" then [[("id", .string [110])]]
    else []
  complete table row mem := by
    split at mem
    · simp only [List.mem_singleton] at mem
      rw [mem]; rfl
    · split at mem
      · simp only [List.mem_singleton] at mem
        rw [mem]; rfl
      · exact absurd mem List.not_mem_nil

/-- The node cannot be inserted. -/
def nodeFails : Faults where
  fails op := if op matches .insert "nodes" _ _ then some "connection lost" else none
  carriedOut _ := false

/-- The administrator stays in the target, and the transfer cannot be repeated. -/
theorem notRestartable_nodes :
    (transfer smallDatabase nodeFails {}).2.tables "admins" = [[("id", .string [97])]] ∧
      (transfer smallDatabase noFaults (transfer smallDatabase nodeFails {}).2).1 =
        .error ({}, "target PostgreSQL table admins is not empty") ∧
      ¬ Restartable smallDatabase nodeFails := by
  have left : (transfer smallDatabase nodeFails {}).2.tables "admins" = [[("id", .string [97])]] := by
    decide +kernel
  have error : (transfer smallDatabase nodeFails {}).1.isOk = false := by decide +kernel
  refine ⟨left, by decide +kernel, fun restartable => ?_⟩
  unfold Restartable at restartable
  rcases run : transfer smallDatabase nodeFails {} with ⟨_ | report, target⟩
  · rw [run] at restartable left
    have empty := restartable.1 "admins" (by decide)
    simp [empty] at left
  · rw [run] at error
    cases error

end Transfer

end Hostpin
