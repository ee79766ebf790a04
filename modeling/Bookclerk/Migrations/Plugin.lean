import Mathlib.Data.List.Sort
import Bookclerk.Str.Chars
import Bookclerk.System.Threads

/-! Plugin migrations: a registered sequence, the journal of what was applied, and `apply_plugin_migrations` as hosts that
take turns on one binding. A request may arrive after its sender has given it up. -/

namespace Bookclerk.Migrations

open Str Bookclerk.System List Option

variable {i : Nat}

def maxListPage : Nat := 256

def maxPluginMigrationApplyAttempts : Nat := 8

inductive PluginMigrationOp
  | schema (sql : Str)
  | data (sql : Str)
  deriving DecidableEq

structure ProvenPluginMigration where
  id : Str
  operations : List PluginMigrationOp
  checksum : Str
  deriving DecidableEq

def PluginMigrationOp.tagged : PluginMigrationOp → Str
  | .schema sql => "schema:".toList ++ sql
  | .data sql => "data:".toList ++ sql

def pluginMigrationChecksum (canonical : List Str → Str) (id : Str) (operations : List PluginMigrationOp) : Str :=
  canonical (("id:".toList ++ id) :: operations.map PluginMigrationOp.tagged)

/-- A registration that `prove_plugin_migration_sequence` has accepted. -/
structure PluginMigrationSequence (canonical : List Str → Str) where
  migrations : List ProvenPluginMigration
  ids_nodup : (migrations.map ProvenPluginMigration.id).Nodup
  checksum_eq : ∀ m ∈ migrations, m.checksum = pluginMigrationChecksum canonical m.id m.operations
  count_le : migrations.length ≤ maxListPage

structure PluginJournalEntry where
  ordinal : Int
  migrationId : Str
  checksum : Str
  deriving DecidableEq

section History

inductive DbValue
  | int64 (n : Int)
  | text (s : Str)
  | other

abbrev ExecuteReply := List (List (List DbValue))

inductive SchemaError
  | tooManyRows
  | rowTooShort
  | ordinalNotInteger (value : DbValue)
  | idNotText (value : DbValue)
  | checksumNotText (value : DbValue)
  | ordinalNotContiguous (ordinal expect : Int)
  | longerThanRegistration (applied registered : Nat)
  | idMismatch (position : Nat) (found expected : Str)
  | checksumMismatch (position : Nat) (id found expected : Str)

/-- `SELECT ordinal, migration_id, checksum … ORDER BY ordinal`, which fails on more rows than a page. -/
def journalSelect (journal : List PluginJournalEntry) : Except SchemaError ExecuteReply :=
  if maxListPage < journal.length then .error .tooManyRows
  else .ok [(journal.insertionSort fun a b => a.ordinal ≤ b.ordinal).map fun e => [.int64 e.ordinal, .text e.migrationId, .text e.checksum]]

def entryOfRow (i : Nat) (row : List DbValue) : Except SchemaError PluginJournalEntry :=
  match row with
  | ordinal :: migrationId :: checksum :: _ =>
    match ordinal, migrationId, checksum with
    | .int64 ordinal, .text migrationId, .text checksum =>
      if ordinal ≠ i then .error (.ordinalNotContiguous ordinal i) else .ok ⟨ordinal, migrationId, checksum⟩
    | .int64 _, .text _, value => .error (.checksumNotText value)
    | .int64 _, value, _ => .error (.idNotText value)
    | value, _, _ => .error (.ordinalNotInteger value)
  | _ => .error .rowTooShort

def entriesOfRows : Nat → List (List DbValue) → Except SchemaError (List PluginJournalEntry)
  | _, [] => .ok []
  | i, row :: rows => do
      let entry ← entryOfRow i row
      let entries ← entriesOfRows (i + 1) rows
      return entry :: entries

def historyFromExecuteReply (reply : ExecuteReply) : Except SchemaError (List PluginJournalEntry) :=
  match reply with
  | [] => .ok []
  | rows :: _ => entriesOfRows 0 rows

def loadPluginMigrationHistory (journal : List PluginJournalEntry) : Except SchemaError (List PluginJournalEntry) := do
  historyFromExecuteReply (← journalSelect journal)

variable {canonical : List Str → Str}

def requirePrefixFrom : Nat → List PluginJournalEntry → List ProvenPluginMigration → Except SchemaError Unit
  | _, [], _ => .ok ()
  | i, _ :: _, [] => .error (.longerThanRegistration (i + 1) i)
  | i, entry :: entries, expected :: rest =>
    if entry.ordinal ≠ i then .error (.ordinalNotContiguous entry.ordinal i)
    else if entry.migrationId ≠ expected.id then .error (.idMismatch i entry.migrationId expected.id)
    else if entry.checksum ≠ expected.checksum then .error (.checksumMismatch i entry.migrationId entry.checksum expected.checksum)
    else requirePrefixFrom (i + 1) entries rest

def requireHistoryPrefix (history : List PluginJournalEntry) (registered : PluginMigrationSequence canonical) : Except SchemaError Unit :=
  if registered.migrations.length < history.length then
    .error (.longerThanRegistration history.length registered.migrations.length)
  else requirePrefixFrom 0 history registered.migrations

def nextPendingPluginMigration (history : List PluginJournalEntry) (registered : PluginMigrationSequence canonical) :
    Except SchemaError (Option (Nat × ProvenPluginMigration)) := do
  requireHistoryPrefix history registered
  return registered.migrations[history.length]?.map fun migration => (history.length, migration)

def pluginJournalHasEntry (history : List PluginJournalEntry) (ordinal : Int) (id checksum : Str) : Bool :=
  history.any fun e => e.ordinal = ordinal ∧ e.migrationId = id ∧ e.checksum = checksum

end History

section Database

inductive Statement
  | slotInsert
  | slotBump
  | op (op : PluginMigrationOp)
  | journalInsert (entry : PluginJournalEntry)

def pluginSlotLockSql : List Statement :=
  [.slotInsert, .slotBump]

def pluginApplyStatements (ordinal : Int) (migration : ProvenPluginMigration) : List Statement :=
  pluginSlotLockSql ++ migration.operations.map .op ++ [.journalInsert ⟨ordinal, migration.id, migration.checksum⟩]

structure Binding (δ : Type) where
  slot : Option Nat
  journal : List PluginJournalEntry
  data : δ

variable {δ : Type}

/-- `runOp` is what an operation does to the plugin's data, or none if it fails there. -/
def runStatement (runOp : PluginMigrationOp → δ → Option δ) (db : Binding δ) : Statement → Option (Binding δ)
  | .slotInsert => some { db with slot := some (db.slot.getD 0) }
  | .slotBump => some { db with slot := db.slot.map (· + 1) }
  | .op op => (runOp op db.data).map fun data => { db with data }
  | .journalInsert entry =>
    if db.journal.any fun e => e.ordinal = entry.ordinal ∨ e.migrationId = entry.migrationId then none
    else some { db with journal := db.journal ++ [entry] }

def execute (runOp : PluginMigrationOp → δ → Option δ) (statements : List Statement) (db : Binding δ) : Option (Binding δ) :=
  statements.foldlM (runStatement runOp) db

end Database

section Hosts

structure Request where
  host : Nat
  ordinal : Nat
  migration : ProvenPluginMigration

structure Shared (δ : Type) where
  binding : Binding δ
  transactions : List (List Statement)
  requests : List Request

structure Setting (δ : Type) where
  canonical : List Str → Str
  runOp : PluginMigrationOp → δ → Option δ
  registered : Nat → PluginMigrationSequence canonical

inductive Phase
  | loading
  | attempt (k ordinal : Nat) (migration : ProvenPluginMigration)
  | sending (k ordinal : Nat) (migration : ProvenPluginMigration)
  | recheck (k ordinal : Nat) (migration : ProvenPluginMigration) (retryable : Bool)
  | done (history : List PluginJournalEntry)
  | failed

/-- The next access of a host, or a request that arrives late. Errors carry whether they are retryable. -/
inductive Move
  | read
  | readFails
  | sendFails (retryable : Bool)
  | answered (retryable : Bool)
  | givenUp (retryable : Bool)
  | arrives (i : Nat)
  | crash

variable {δ : Type} (w : Setting δ)

def Shared.commit (m : Shared δ) (request : Request) : Option (Shared δ) :=
  let statements := pluginApplyStatements request.ordinal request.migration
  (execute w.runOp statements m.binding).map fun binding => { m with binding, transactions := m.transactions ++ [statements] }

def afterLoad (host : Nat) (history : List PluginJournalEntry) : Phase :=
  match nextPendingPluginMigration history (w.registered host) with
  | .error _ => .failed
  | .ok none => .done history
  | .ok (some (ordinal, migration)) => .attempt 0 ordinal migration

/-- What both reads of `apply_one_plugin_migration` decide, up to the case that the journal is as expected. -/
def afterRead (host ordinal : Nat) (migration : ProvenPluginMigration) (history : List PluginJournalEntry) (unchanged : Phase) : Phase :=
  if pluginJournalHasEntry history ordinal migration.id migration.checksum then .loading
  else
    match requireHistoryPrefix history (w.registered host) with
    | .error _ => .failed
    | .ok () => if history.length ≠ ordinal then .loading else unchanged

def retryOrFail (k ordinal : Nat) (migration : ProvenPluginMigration) (retryable : Bool) : Phase :=
  if retryable ∧ k + 1 < maxPluginMigrationApplyAttempts then .attempt (k + 1) ordinal migration else .failed

def applyPluginMigrations (host : Nat) (m : Shared δ) : Phase → Move → Option (Shared δ × Phase)
  | phase, .arrives i =>
    m.requests[i]?.map fun request =>
      let rest := { m with requests := m.requests.eraseIdx i }
      ((rest.commit w request).getD rest, phase)
  | .loading, .read =>
    match loadPluginMigrationHistory m.binding.journal with
    | .error _ => some (m, .failed)
    | .ok history => some (m, afterLoad w host history)
  | .loading, .readFails => some (m, .failed)
  | .attempt k ordinal migration, .read =>
    match loadPluginMigrationHistory m.binding.journal with
    | .error _ => some (m, .failed)
    | .ok history => some (m, afterRead w host ordinal migration history (.sending k ordinal migration))
  | .attempt _ _ _, .readFails => some (m, .failed)
  | .sending k ordinal migration, .sendFails retryable => some (m, .recheck k ordinal migration retryable)
  | .sending k ordinal migration, .answered retryable =>
    match m.commit w ⟨host, ordinal, migration⟩ with
    | some m' => some (m', .loading)
    | none => some (m, .recheck k ordinal migration retryable)
  | .sending k ordinal migration, .givenUp retryable =>
    some ({ m with requests := ⟨host, ordinal, migration⟩ :: m.requests }, .recheck k ordinal migration retryable)
  | .recheck k ordinal migration retryable, .read =>
    match loadPluginMigrationHistory m.binding.journal with
    | .error _ => some (m, retryOrFail k ordinal migration retryable)
    | .ok history => some (m, afterRead w host ordinal migration history (retryOrFail k ordinal migration retryable))
  | .recheck k ordinal migration retryable, .readFails => some (m, retryOrFail k ordinal migration retryable)
  | .done _, _ | .failed, _ => none
  | _, .crash => some (m, .failed)
  | _, _ => none

abbrev State (δ : Type) := Threads Nat (Shared δ) Phase

def State.initial (slot : Option Nat) (data : δ) : State δ :=
  ⟨⟨⟨slot, [], data⟩, [], []⟩, fun _ => .loading⟩

def step (s : State δ) (a : Nat × Move) : Option (State δ) :=
  turn (applyPluginMigrations w) s a

end Hosts

def entriesFrom : Nat → List ProvenPluginMigration → List PluginJournalEntry
  | _, [] => []
  | i, m :: ms => ⟨i, m.id, m.checksum⟩ :: entriesFrom (i + 1) ms

def transactionsFrom : Nat → List ProvenPluginMigration → List (List Statement)
  | _, [] => []
  | i, m :: ms => pluginApplyStatements i m :: transactionsFrom (i + 1) ms

variable {ms : List ProvenPluginMigration}

section Entries

@[simp]
lemma length_entriesFrom (i : Nat) (ms : List ProvenPluginMigration) : (entriesFrom i ms).length = ms.length := by
  induction ms generalizing i with
  | nil => rfl
  | cons m ms ih => rw [entriesFrom, length_cons, length_cons, ih]

lemma entriesFrom_concat (i : Nat) (ms : List ProvenPluginMigration) (m : ProvenPluginMigration) :
    entriesFrom i (ms ++ [m]) = entriesFrom i ms ++ [⟨(i + ms.length : Nat), m.id, m.checksum⟩] := by
  induction ms generalizing i with
  | nil => rfl
  | cons a ms ih => rw [cons_append, entriesFrom, ih, entriesFrom, cons_append, length_cons, Nat.add_right_comm, Nat.add_assoc]

lemma transactionsFrom_concat (i : Nat) (ms : List ProvenPluginMigration) (m : ProvenPluginMigration) :
    transactionsFrom i (ms ++ [m]) = transactionsFrom i ms ++ [pluginApplyStatements (i + ms.length : Nat) m] := by
  induction ms generalizing i with
  | nil => rfl
  | cons a ms ih =>
    rw [cons_append, transactionsFrom, ih, transactionsFrom, cons_append, length_cons, Nat.add_right_comm, Nat.add_assoc]

lemma ordinal_of_mem {e : PluginJournalEntry} (h : e ∈ entriesFrom i ms) : (i : Int) ≤ e.ordinal := by
  induction ms generalizing i with
  | nil => cases h
  | cons m ms ih =>
    rcases mem_cons.mp h with rfl | hmem
    · exact Int.le_refl _
    · have := ih hmem
      omega

lemma exists_ordinal {n : Nat} (hi : i ≤ n) (hn : n < i + ms.length) : ∃ e ∈ entriesFrom i ms, e.ordinal = n := by
  induction ms generalizing i with
  | nil => exact absurd hn (Nat.not_lt.mpr hi)
  | cons m ms ih =>
    rcases Nat.eq_or_lt_of_le hi with rfl | hlt
    · exact ⟨_, mem_cons_self, rfl⟩
    · rw [length_cons] at hn
      obtain ⟨e, he, hord⟩ := ih hlt (by omega)
      exact ⟨e, mem_cons_of_mem _ he, hord⟩

lemma id_of_mem {m : ProvenPluginMigration} (h : m ∈ ms) : ∃ e ∈ entriesFrom i ms, e.migrationId = m.id := by
  induction ms generalizing i with
  | nil => cases h
  | cons a ms ih =>
    rcases mem_cons.mp h with rfl | hmem
    · exact ⟨_, mem_cons_self, rfl⟩
    · obtain ⟨e, he, hid⟩ := ih hmem
      exact ⟨e, mem_cons_of_mem _ he, hid⟩

lemma pairwise_entriesFrom (i : Nat) (ms : List ProvenPluginMigration) : (entriesFrom i ms).Pairwise fun a b => a.ordinal ≤ b.ordinal := by
  induction ms generalizing i with
  | nil => exact List.Pairwise.nil
  | cons m ms ih =>
    refine pairwise_cons.mpr ⟨fun e he => ?_, ih (i + 1)⟩
    have := ordinal_of_mem he
    dsimp only
    omega

end Entries

section Read

lemma entriesOfRows_entriesFrom (i : Nat) (ms : List ProvenPluginMigration) :
    entriesOfRows i ((entriesFrom i ms).map fun e => [.int64 e.ordinal, .text e.migrationId, .text e.checksum]) = .ok (entriesFrom i ms) := by
  induction ms generalizing i with
  | nil => rfl
  | cons m ms ih =>
    have hentry : entryOfRow i [.int64 i, .text m.id, .text m.checksum] = .ok ⟨i, m.id, m.checksum⟩ := if_neg (not_not.mpr rfl)
    rw [entriesFrom, map_cons, entriesOfRows, hentry, ih]
    rfl

lemma load_entries {history : List PluginJournalEntry}
    (h : loadPluginMigrationHistory (entriesFrom 0 ms) = .ok history) : history = entriesFrom 0 ms := by
  unfold loadPluginMigrationHistory journalSelect at h
  by_cases hpage : maxListPage < (entriesFrom 0 ms).length
  · rw [if_pos hpage] at h
    cases h
  · rw [if_neg hpage, (pairwise_entriesFrom 0 ms).insertionSort_eq] at h
    change entriesOfRows 0 _ = _ at h
    rw [entriesOfRows_entriesFrom] at h
    exact (Except.ok.inj h).symm

lemma requirePrefixFrom_ok {entries : List PluginJournalEntry}
    (h : requirePrefixFrom i entries ms = .ok ()) : entries <+: entriesFrom i ms := by
  induction entries generalizing i ms with
  | nil => exact nil_prefix
  | cons e entries ih =>
    cases ms with
    | nil => cases h
    | cons m ms =>
      unfold requirePrefixFrom at h
      split_ifs at h with hord hid hsum
      obtain ⟨ordinal, id, checksum⟩ := e
      obtain rfl := not_not.mp hord
      obtain rfl := not_not.mp hid
      obtain rfl := not_not.mp hsum
      exact (prefix_cons_inj _).mpr (ih h)

variable {canonical : List Str → Str} {history : List PluginJournalEntry} {registered : PluginMigrationSequence canonical}

lemma requireHistoryPrefix_ok (h : requireHistoryPrefix history registered = .ok ()) : history <+: entriesFrom 0 registered.migrations := by
  unfold requireHistoryPrefix at h
  split_ifs at h
  exact requirePrefixFrom_ok h

lemma nextPending_ok {next : Option (Nat × ProvenPluginMigration)} (h : nextPendingPluginMigration history registered = .ok next) :
    history <+: entriesFrom 0 registered.migrations ∧
      next = registered.migrations[history.length]?.map fun migration => (history.length, migration) := by
  unfold nextPendingPluginMigration at h
  cases hpre : requireHistoryPrefix history registered with
  | error e =>
    rw [hpre] at h
    cases h
  | ok u =>
    rw [hpre] at h
    exact ⟨requireHistoryPrefix_ok hpre, (Except.ok.inj h).symm⟩

lemma history_eq_of_none (h : nextPendingPluginMigration history registered = .ok none) : history = entriesFrom 0 registered.migrations := by
  obtain ⟨hpre, hnext⟩ := nextPending_ok h
  refine hpre.eq_of_length_le ?_
  rw [length_entriesFrom]
  exact List.getElem?_eq_none_iff.mp (map_eq_none_iff.mp hnext.symm)

end Read

section Commit

variable {δ : Type} {runOp : PluginMigrationOp → δ → Option δ} {db db' : Binding δ}

lemma journal_of_ops {ops : List PluginMigrationOp} (h : (ops.map Statement.op).foldlM (runStatement runOp) db = some db') :
    db'.journal = db.journal := by
  induction ops generalizing db with
  | nil =>
    cases h
    rfl
  | cons op ops ih =>
    obtain ⟨db₁, hop, hrest⟩ := bind_eq_some_iff.mp h
    obtain ⟨data, -, rfl⟩ := map_eq_some_iff.mp hop
    have hjournal := ih hrest
    exact hjournal

lemma journal_of_execute {ordinal : Int} {migration : ProvenPluginMigration}
    (h : execute runOp (pluginApplyStatements ordinal migration) db = some db') :
    db'.journal = db.journal ++ [⟨ordinal, migration.id, migration.checksum⟩] ∧
      ∀ e ∈ db.journal, e.ordinal ≠ ordinal ∧ e.migrationId ≠ migration.id := by
  unfold execute pluginApplyStatements pluginSlotLockSql at h
  rw [foldlM_append, foldlM_append] at h
  obtain ⟨db₂, hops, hinsert⟩ := bind_eq_some_iff.mp h
  obtain ⟨db₁, hslot, hops⟩ := bind_eq_some_iff.mp hops
  have hjournal₁ : db₁.journal = db.journal := by
    cases hslot
    rfl
  have hjournal₂ := (journal_of_ops hops).trans hjournal₁
  obtain ⟨db₃, hrun, heq⟩ := bind_eq_some_iff.mp hinsert
  cases heq
  simp only [runStatement] at hrun
  split_ifs at hrun with hany
  cases hrun
  refine ⟨by rw [hjournal₂], fun e he => not_or.mp fun hor => hany ?_⟩
  rw [hjournal₂]
  exact List.any_eq_true.mpr ⟨e, he, decide_eq_true hor⟩

end Commit

end Bookclerk.Migrations
