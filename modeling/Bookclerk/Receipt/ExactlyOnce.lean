import Bookclerk.Receipt.Execution
import Bookclerk.System.Run

namespace Bookclerk.Receipt

open Lexical Sql Db Bookclerk.System

variable {reply : ExecuteReply} {row : ReceiptRow}

variable {δ : Type}

structure Attempt where
  execution : Execution
  interrupted : Bool

variable {a : Attempt}

namespace Adapter

variable (A : Adapter δ)

def attempt (db : Database δ) (a : Attempt) : Except Text (ExecuteReply × Database δ) :=
  if a.interrupted then .error (utf8 "interrupted")
  else A.executeTypedJoinBody a.execution.envelope a.execution.attemptElapsedUs a.execution.dbExecutionUs db

def step (db : Database δ) (a : Attempt) : Option (Database δ) :=
  some (match A.attempt db a with
    | .ok out => out.2
    | .error _ => db)

def unwrap (a : Attempt) (reply : ExecuteReply) : Except PluginError ExecuteReply :=
  unwrapGuestTypedReply A.wire A.caps a.execution.request reply

def Aborts (db : Database δ) (a : Attempt) : Prop := ∃ e, A.attempt db a = .error e

variable {A}

lemma attempt_eq_ok {db db' : Database δ}
    (h : A.attempt db a = .ok (reply, db')) :
    A.executeTypedJoinBody a.execution.envelope a.execution.attemptElapsedUs a.execution.dbExecutionUs db = .ok (reply, db') := by
  unfold attempt at h
  split at h
  · cases h
  · exact h

lemma step_of_aborts {db : Database δ} (h : A.Aborts db a) : A.step db a = some db := by
  obtain ⟨e, he⟩ := h
  simp [step, he]

end Adapter

structure Replays (A : Adapter δ) (first : Execution) (stored : ExecuteReply) (db : Database δ) (a : Attempt) :
    Prop where
  unchanged : ∀ reply db', A.attempt db a = .ok (reply, db') → db' = a.execution.pruned db
  same : a.execution.request.requestHash = first.request.requestHash →
    ∀ reply db', A.attempt db a = .ok (reply, db') → A.unwrap a reply = .ok stored
  other : a.execution.request.requestHash ≠ first.request.requestHash →
    ∀ reply db', A.attempt db a = .ok (reply, db') → A.unwrap a reply = .error conflictingHash

lemma Replays.step_data {A : Adapter δ} {first : Execution} {stored : ExecuteReply} {db db' : Database δ} (h : Replays A first stored db a) (hstep : A.step db a = some db') :
    db' = db ∨ db' = a.execution.pruned db := by
  cases hatt : A.attempt db a with
  | error e =>
    left
    simpa [Adapter.step, hatt] using hstep.symm
  | ok out =>
    right
    rw [← h.unchanged out.1 out.2 hatt]
    simpa [Adapter.step, hatt] using hstep.symm

variable {later : List Attempt}

section Histories

variable {A : Adapter δ} {first : Execution} {stored : ExecuteReply}

lemma prior_step {db db' : Database δ} (h : Replays A first stored db a)
    (hop : a.execution.operationId = first.operationId) (hprior : db.receipts.prior first.operationId = some row)
    (hstep : A.step db a = some db') : db'.receipts.prior first.operationId = some row := by
  rcases h.step_data hstep with rfl | rfl
  · exact hprior
  · rw [← hprior, ← hop]
    exact ReceiptTable.prior_prune _ _ _

section

variable (hrow : row.status = .ok ∧ row.payload ≠ [] ∧ row.requestHash = first.request.requestHash)
include hrow

lemma replays_of_finished {db : Database δ}
    (hstored : a.execution.request.requestHash = first.request.requestHash →
      replayStored A.wire A.caps a.execution.request row.payload = .ok stored)
    (hop : a.execution.operationId = first.operationId)
    (hprior : db.receipts.prior first.operationId = some row) : Replays A first stored db a := by
  have hspec : ∀ reply db', A.attempt db a = .ok (reply, db') → db' = a.execution.pruned db ∧
      A.unwrap a reply = if row.requestHash ≠ a.execution.request.requestHash then .error conflictingHash
        else replayStored A.wire A.caps a.execution.request row.payload := by
    intro reply db' hatt
    obtain ⟨hdb, hlen, hselect⟩ :=
      execute_of_finished (hop ▸ hprior) hrow.1 hrow.2.1 (Adapter.attempt_eq_ok hatt)
    exact ⟨hdb, unwrap_of_finished hlen hselect hrow.2.1⟩
  refine ⟨fun reply db' hatt => (hspec reply db' hatt).1, fun hsame reply db' hatt => ?_, fun hother reply db' hatt => ?_⟩
  · rw [(hspec reply db' hatt).2, if_neg (by simp [hrow.2.2, hsame]), hstored hsame]
  · rw [(hspec reply db' hatt).2, if_pos (by rw [hrow.2.2]; exact Ne.symm hother)]

lemma everyStep_replays {db : Database δ}
    (hstored : ∀ a ∈ later, a.execution.request.requestHash = first.request.requestHash →
      replayStored A.wire A.caps a.execution.request row.payload = .ok stored)
    (hop : ∀ a ∈ later, a.execution.operationId = first.operationId)
    (hprior : db.receipts.prior first.operationId = some row) : EveryStep A.step (Replays A first stored) db later := by
  induction later generalizing db with
  | nil => trivial
  | cons a later ih =>
    have hreplay := replays_of_finished hrow (hstored a (by simp)) (hop a (by simp)) hprior
    refine ⟨hreplay, fun db' hstep => ih (fun b hb => hstored b (by simp [hb])) (fun b hb => hop b (by simp [hb])) ?_⟩
    exact prior_step hreplay (hop a (by simp)) hprior hstep

end

lemma data_of_everyStep_replays {db s : Database δ}
    (h : EveryStep A.step (Replays A first stored) db later) (hrun : run A.step db later = some s) : s.data = db.data := by
  refine run_of_everyStep (I := fun s => s.data = db.data) (fun s a s' hs hreplay hstep => ?_) rfl h hrun
  rcases hreplay.step_data hstep with rfl | rfl
  · exact hs
  · exact hs

def CommitsFirst (A : Adapter δ) (db : Database δ) (first : Attempt) (later : List Attempt) : Prop :=
  ∃ reply db₁ results mid, A.attempt db first = .ok (reply, db₁) ∧
    A.runAll first.execution.gated (first.execution.pruned db) = .ok (results, mid) ∧ db₁.data = mid.data ∧
    A.unwrap first reply = .ok { reply with statements := results } ∧
    EveryStep A.step (Replays A first.execution (A.storedReply first.execution.operationId results)) db₁ later ∧
    ∀ s, run A.step db₁ later = some s → s.data = db₁.data

/-- Either no attempt commits, or the first one to commit is the only one whose guest statements run. -/
def ExactlyOnce (A : Adapter δ) (db : Database δ) (attempts : List Attempt) : Prop :=
  (run A.step db attempts = some db ∧ ∀ a ∈ attempts, A.Aborts db a) ∨
    ∃ before first later, attempts = before ++ first :: later ∧ (∀ a ∈ before, A.Aborts db a) ∧
      run A.step db before = some db ∧ CommitsFirst A db first later

lemma commitsFirst_of_ok (hslices : A.wire.SlicesShrink) {db db₁ : Database δ} (hnone : db.receipts.prior a.execution.operationId = none)
    (hop : ∀ b ∈ later, b.execution.operationId = a.execution.operationId)
    (hhash : ∀ b ∈ later, b.execution.request.requestHash = a.execution.request.requestHash →
      b.execution.request.statements = a.execution.request.statements)
    (hcodec : ∀ results mid, A.runAll a.execution.gated (a.execution.pruned db) = .ok (results, mid) →
      A.wire.RoundTrips (A.storedReply a.execution.operationId results))
    (hatt : A.attempt db a = .ok (reply, db₁)) : CommitsFirst A db a later := by
  have hexec := Adapter.attempt_eq_ok hatt
  obtain ⟨r₀, results, stub, mid, hrun, hstmts, hdata, hprior⟩ := execute_of_none hnone hexec
  obtain ⟨all, _, _, _, hreply, hpos, hbytes⟩ := executeTypedJoinBody_spec hexec
  obtain rfl : all = r₀ :: receiptResult none :: (results ++ [stub]) := by rw [← hstmts, hreply]
  have hlen : results.length = a.execution.request.statements.length := by
    obtain ⟨_, hvalid⟩ := runAll_guest (fun stmt hstmt => a.execution.hostStatement_gated hstmt) hrun
    simpa [Execution.gated] using hvalid.length_eq.symm
  obtain ⟨hne, hdecode⟩ := hcodec results mid hrun
  have hlater : EveryStep A.step (Replays A a.execution (A.storedReply a.execution.operationId results)) db₁ later := by
    refine everyStep_replays ⟨rfl, hne, rfl⟩ (fun b hb hsame => ?_) hop hprior
    have hvalid := validate_stored hslices hrun hreply hpos hbytes (hop b hb) (hhash b hb hsame)
    simp [replayStored, Execution.finished, hdecode, hvalid]
  exact ⟨reply, db₁, results, mid, hatt, hrun, hdata, unwrap_of_none hlen hstmts, hlater, fun s hs => data_of_everyStep_replays hlater hs⟩

end Histories

theorem attempts_exactly_once (A : Adapter δ) (hslices : A.wire.SlicesShrink) (op : Text) (db : Database δ)
    (hnone : db.receipts.prior op = none) (attempts : List Attempt)
    (hop : ∀ a ∈ attempts, a.execution.operationId = op)
    (hhash : ∀ a ∈ attempts, ∀ b ∈ attempts, b.execution.request.requestHash = a.execution.request.requestHash →
      b.execution.request.statements = a.execution.request.statements)
    (hcodec : ∀ a ∈ attempts, ∀ results mid,
      A.runAll a.execution.gated (a.execution.pruned db) = .ok (results, mid) →
        A.wire.RoundTrips (A.storedReply op results)) :
    ExactlyOnce A db attempts := by
  induction attempts with
  | nil => exact .inl ⟨rfl, nofun⟩
  | cons a attempts ih =>
    cases hatt : A.attempt db a with
    | ok out =>
      obtain rfl := hop a (by simp)
      refine .inr ⟨[], a, attempts, rfl, nofun, rfl, ?_⟩
      exact commitsFirst_of_ok hslices hnone (fun b hb => hop b (by simp [hb]))
        (fun b hb => hhash a (by simp) b (by simp [hb])) (hcodec a (by simp)) hatt
    | error e =>
      have habort : A.Aborts db a := ⟨e, hatt⟩
      have hrun : ∀ rest, run A.step db (a :: rest) = run A.step db rest := by
        simp [run, Adapter.step_of_aborts habort]
      rcases ih (fun b hb => hop b (by simp [hb])) (fun b hb c hc => hhash b (by simp [hb]) c (by simp [hc]))
          (fun b hb => hcodec b (by simp [hb])) with ⟨hnothing, haborts⟩ | ⟨before, first, later, rfl, haborts, hbefore, hfirst⟩
      · exact .inl ⟨(hrun attempts).trans hnothing, by simpa [habort] using haborts⟩
      · exact .inr ⟨a :: before, first, later, rfl, by simpa [habort] using haborts, (hrun before).trans hbefore, hfirst⟩

def insertStatement (value : String) : TypedDbStatement :=
  ⟨utf8 ("INSERT INTO t (a) VALUES ('" ++ value ++ "')"), [], .execute, 0, .affectedRows⟩

def insertAttempt (hash value created : String) (interrupted : Bool)
    (hguest : hostStatement (gateStatement (utf8 "op") (insertStatement value)) = none) : Attempt where
  execution :=
    { request := ⟨utf8 "op", utf8 hash, [insertStatement value], 0⟩
      created := utf8 created
      expires := utf8 "2026-03-01"
      attemptElapsedUs := 7
      dbExecutionUs := 5
      nonempty := by simp
      guestOnly := by simpa using hguest }
  interrupted := interrupted

def textBytes (t : Text) : Nat := 8 * ((t.length + 8) / 8)

def resultBytes (r : StatementResult) : Nat :=
  24 + (if r.columns.isEmpty then 0 else 8 + (r.columns.map fun c => 16 + textBytes c.name).sum) +
    (if r.rows.isEmpty then 0 else 8 + (r.rows.map fun row => 16 + (row.map fun v => 24 + dbValueCellLen v).sum).sum)

def envelopeBytes (reply : ExecuteReply) : Nat :=
  72 + textBytes reply.operationId + textBytes reply.timing.dbTimingSource + (reply.statements.map resultBytes).sum

def oneRowInserted : ExecuteReply := ⟨utf8 "op", [.fromAffected 1], ⟨0, 0, utf8 "sqlite_txn"⟩⟩

def oneRowInsertedJson : Text :=
  utf8 ("\x7b\"operation_id\":\"op\",\"statements\":[\x7b\"rows\":[],\"columns\":[],\"rowsAffected\":1\x7d]," ++
    "\"timing\":\x7b\"attemptElapsedUs\":0,\"dbExecutionUs\":0,\"dbTimingSource\":\"sqlite_txn\"\x7d\x7d")

def countingAdapter : Adapter Nat where
  exec := fun _ db => .ok (.fromAffected 1, db.data + 1)
  wire :=
    { statementBytes := fun r => .ok (16 + resultBytes r)
      replyBytes := fun reply => .ok (envelopeBytes reply)
      encode := fun _ => oneRowInsertedJson
      decode := fun text => if text = oneRowInsertedJson then some oneRowInserted else none }
  caps := ⟨1000, 262144, 262144, 262144, by decide⟩
  timingSource := utf8 "sqlite_txn"

def retriedInsert : List Attempt :=
  [insertAttempt "h" "x" "2026-02-01" true (by decide +kernel), insertAttempt "h" "x" "2026-02-01" false (by decide +kernel),
    insertAttempt "h" "x" "2026-02-02" false (by decide +kernel), insertAttempt "g" "y" "2026-02-02" false (by decide +kernel)]

theorem retriedInsert_exactly_once :
    ExactlyOnce countingAdapter ⟨[], 0⟩ retriedInsert ∧
      (run countingAdapter.step ⟨[], 0⟩ retriedInsert).map (·.data) = some 1 := by
  refine ⟨attempts_exactly_once countingAdapter ?_ (utf8 "op") ⟨[], 0⟩ rfl retriedInsert ?_ ?_ ?_, by decide +kernel⟩
  · intro op before stmts after t t' hsource n hn
    refine ⟨envelopeBytes ⟨op, stmts, t'⟩, ?_, rfl⟩
    obtain rfl : envelopeBytes ⟨op, before ++ stmts ++ after, t⟩ = n := Except.ok.inj hn
    simp only [envelopeBytes, hsource, List.map_append, List.sum_append]
    omega
  · decide +kernel
  · decide +kernel
  · intro a ha results mid hrun
    have hall : ∀ a ∈ retriedInsert, countingAdapter.runAll a.execution.gated (a.execution.pruned ⟨[], 0⟩) =
        .ok ([.fromAffected 1], ⟨[], 1⟩) := by decide +kernel
    rw [hall a ha] at hrun
    cases hrun
    exact ⟨by decide +kernel, by simp [countingAdapter, Adapter.storedReply, oneRowInserted]⟩

theorem retry_prunes_expired_receipt :
    let other : ReceiptRow := ⟨utf8 "other", utf8 "guestTyped", utf8 "k", .ok, utf8 "reply", utf8 "2026-01-01", utf8 "2026-02-02"⟩
    (run countingAdapter.step ⟨[other], 0⟩ (retriedInsert.take 2)).map (fun s => (s.data, s.receipts.length)) = some (1, 2) ∧
      (run countingAdapter.step ⟨[other], 0⟩ (retriedInsert.take 3)).map (fun s => (s.data, s.receipts.length)) =
        some (1, 1) := by
  decide +kernel

end Bookclerk.Receipt
