import Bookclerk.Receipt.Transaction

namespace Bookclerk.Receipt

open Lexical Sql Db List Option

variable {δ : Type}

/-- A guest request as the host wrapped it. An authorised guest names no host table, so none of its
statements is one of the host's own. -/
structure Execution where
  request : ExecuteRequest
  created : Text
  expires : Text
  attemptElapsedUs : Nat
  dbExecutionUs : Nat
  nonempty : request.statements ≠ []
  guestOnly : ∀ stmt ∈ request.statements, hostStatement (gateStatement request.operationId stmt) = none

namespace Execution

variable (x : Execution)

abbrev operationId : Text := x.request.operationId

def envelope : AdapterExecuteRequest := wrapGuestTypedRequest x.created x.expires x.request

def gated : List TypedDbStatement := x.request.statements.map (gateStatement x.operationId)

def claim : TypedDbStatement := claimReceipt x.created x.expires x.operationId x.request.requestHash

def pruned (db : Database δ) : Database δ := { db with receipts := db.receipts.prune x.created x.operationId }

def finished (payload : Text) : ReceiptRow :=
  ⟨x.operationId, utf8 "guestTyped", x.request.requestHash, .ok, payload, x.created, x.expires⟩

@[simp] lemma guestRequestHash_envelope : x.envelope.guestReceipt.guestRequestHash = x.request.requestHash := rfl

lemma hostStatement_gated {stmt : TypedDbStatement} (h : stmt ∈ x.gated) : hostStatement stmt = none := by
  obtain ⟨guest, hguest, rfl⟩ := List.mem_map.mp h
  exact x.guestOnly guest hguest

lemma statements_envelope : x.envelope.request.statements =
    pruneReceipts x.created x.operationId :: selectReceipt x.operationId :: (x.gated ++ [x.claim]) := rfl

lemma length_statements_envelope : x.envelope.request.statements.length = 2 + x.request.statements.length + 1 := by
  simp only [statements_envelope, gated, length_cons, length_append, length_map, length_nil]
  omega

lemma guestStatementLen_ne_zero : x.envelope.guestReceipt.guestStatementLen ≠ 0 := by
  have hpos := length_pos_iff.mpr x.nonempty
  show min x.request.statements.length (2 ^ 32 - 1) ≠ 0
  omega

end Execution

section OneExecution

variable {A : Adapter δ} {x : Execution} {db db' : Database δ} {results : List StatementResult}

lemma runStatements_envelope
    (h : A.runStatements x.envelope.guestReceipt x.envelope.request.statements.length
      x.envelope.request.statements [] db = .ok (results, db')) :
    ∃ r₀, (shouldSkipRemainingGuestWork [r₀, receiptResult (db.receipts.prior x.operationId)]
          x.envelope.request.statements.length x.request.requestHash = true ∧
        results = padSkippedGuestResults [r₀, receiptResult (db.receipts.prior x.operationId)]
          x.envelope.request.statements.length ∧ db' = x.pruned db) ∨
      (shouldSkipRemainingGuestWork [r₀, receiptResult (db.receipts.prior x.operationId)]
          x.envelope.request.statements.length x.request.requestHash = false ∧
        ∃ tail, A.runAll (x.gated ++ [x.claim]) (x.pruned db) = .ok (tail, db') ∧
          results = r₀ :: receiptResult (db.receipts.prior x.operationId) :: tail) := by
  rw [x.statements_envelope] at h
  obtain ⟨⟨r₀, db₀⟩, hprune, h⟩ := bind_eq_ok.mp h
  obtain rfl : db₀ = x.pruned db := runStatement_prune hprune
  have hfirst : shouldSkipRemainingGuestWork [r₀] x.envelope.request.statements.length
      x.envelope.guestReceipt.guestRequestHash = false := rfl
  rw [x.statements_envelope] at hfirst
  simp only [nil_append, hfirst, Bool.false_eq_true, and_false, if_false] at h
  obtain ⟨⟨r₁, db₁⟩, hselect, h⟩ := bind_eq_ok.mp h
  obtain ⟨rfl, rfl⟩ := runStatement_select hselect
  have hprior : (x.pruned db).receipts.prior x.operationId = db.receipts.prior x.operationId :=
    ReceiptTable.prior_prune db.receipts x.operationId x.created
  simp only [hprior] at h
  refine ⟨r₀, ?_⟩
  rw [x.statements_envelope]
  split at h
  · next hskip =>
    cases h
    exact .inl ⟨hskip.2, rfl, rfl⟩
  · next hskip =>
    rw [runStatements_eq_runAll (by simp)] at h
    obtain ⟨⟨tail, db₂⟩, htail, hpair⟩ := map_eq_ok.mp h
    cases hpair
    exact .inr ⟨by simpa [x.guestStatementLen_ne_zero] using hskip, tail, htail, rfl⟩

variable {reply : ExecuteReply}

lemma executeTypedJoinBody_spec
    (h : A.executeTypedJoinBody x.envelope x.attemptElapsedUs x.dbExecutionUs db = .ok (reply, db')) :
    ∃ results mid, A.runStatements x.envelope.guestReceipt x.envelope.request.statements.length
        x.envelope.request.statements [] db = .ok (results, mid) ∧
      A.finalizeReceipt x.envelope results mid = .ok db' ∧
      reply = ⟨x.operationId, results, ⟨x.attemptElapsedUs, x.dbExecutionUs, A.timingSource⟩⟩ ∧
      reply.positionalError = none ∧ ∃ used, A.wire.replyBytes reply = .ok used ∧
        (A.caps.maxAtomicResultBytes = 0 ∨ used ≤ A.caps.maxAtomicResultBytes) := by
  obtain ⟨⟨results, mid⟩, hloop, h⟩ := bind_eq_ok.mp h
  obtain ⟨db'', hfinal, h⟩ := bind_eq_ok.mp h
  obtain ⟨reply', hreply, hpair⟩ := map_eq_ok.mp h
  cases hpair
  obtain ⟨_, hpos, hreply⟩ := bind_eq_ok.mp hreply
  obtain ⟨used, hused, hcap⟩ := bind_eq_ok.mp hreply
  split at hcap
  · cases hcap
  · next hover =>
    cases hcap
    exact ⟨results, mid, hloop, hfinal, rfl, rejectWith_eq_ok.mp hpos, used, hused, by omega⟩

lemma execute_of_finished {row : ReceiptRow}
    (hprior : db.receipts.prior x.operationId = some row) (hok : row.status = .ok) (hpayload : row.payload ≠ [])
    (h : A.executeTypedJoinBody x.envelope x.attemptElapsedUs x.dbExecutionUs db = .ok (reply, db')) :
    db' = x.pruned db ∧ reply.statements.length = 2 + x.request.statements.length + 1 ∧
      reply.statements[1]? = some (receiptResult (some row)) := by
  obtain ⟨results, mid, hloop, hfinal, rfl, _, _⟩ := executeTypedJoinBody_spec h
  obtain ⟨r₀, hhead⟩ := runStatements_envelope hloop
  have hskip : shouldSkipRemainingGuestWork [r₀, receiptResult (some row)]
      x.envelope.request.statements.length x.request.requestHash = true := by
    have hlong : 2 < x.envelope.request.statements.length := by
      rw [x.length_statements_envelope]
      omega
    simp [shouldSkipRemainingGuestWork, priorReceiptShouldResumeGuest, priorReceiptIsClaimed_ok row hok, hlong]
  rw [hprior] at hhead
  obtain ⟨_, rfl, rfl⟩ | ⟨hnot, _⟩ := hhead
  swap
  · exact absurd hskip (by simp [hnot])
  have hlen : (padSkippedGuestResults [receiptResult (some row)] x.envelope.request.statements.length).length =
      2 + x.request.statements.length + 1 := by
    simp only [padSkippedGuestResults, x.length_statements_envelope, length_append, length_cons, length_nil, length_replicate]
    omega
  refine ⟨?_, hlen, rfl⟩
  have hnothing : A.wire.guestReceiptFinalizeStmts (A.storedReply x.operationId
      (padSkippedGuestResults [r₀, receiptResult (some row)] x.envelope.request.statements.length))
      x.envelope.guestReceipt.guestStatementLen x.envelope.guestReceipt.guestRequestHash = .ok [] ∨
      ∃ e, A.wire.guestReceiptFinalizeStmts (A.storedReply x.operationId
      (padSkippedGuestResults [r₀, receiptResult (some row)] x.envelope.request.statements.length))
      x.envelope.guestReceipt.guestStatementLen x.envelope.guestReceipt.guestRequestHash = .error e := by
    unfold Wire.guestReceiptFinalizeStmts
    split
    · exact .inr ⟨_, rfl⟩
    · left
      simp only [Adapter.storedReply, padSkippedGuestResults, cons_append, List.getElem?_cons_succ,
        List.getElem?_cons_zero, getD_some, receiptHashFrom_some, receiptPayloadText_some row hpayload,
        isSome_some, if_true, ite_self]
  rw [Adapter.finalizeReceipt, if_neg x.guestStatementLen_ne_zero] at hfinal
  obtain ⟨stmts, hstmts, hrun⟩ := bind_eq_ok.mp hfinal
  rcases hnothing with hnil | ⟨e, he⟩
  · obtain rfl : [] = stmts := Except.ok.inj (hnil.symm.trans hstmts)
    exact (Except.ok.inj hrun).symm
  · exact absurd (he.symm.trans hstmts) (by simp)

lemma execute_of_none (hprior : db.receipts.prior x.operationId = none)
    (h : A.executeTypedJoinBody x.envelope x.attemptElapsedUs x.dbExecutionUs db = .ok (reply, db')) :
    ∃ r₀ results stub mid, A.runAll x.gated (x.pruned db) = .ok (results, mid) ∧
      reply.statements = r₀ :: receiptResult none :: (results ++ [stub]) ∧ db'.data = mid.data ∧
      db'.receipts.prior x.operationId = some (x.finished (A.wire.encode (A.storedReply x.operationId results))) := by
  obtain ⟨results, mid, hloop, hfinal, rfl, _, _⟩ := executeTypedJoinBody_spec h
  obtain ⟨r₀, hhead⟩ := runStatements_envelope hloop
  rw [hprior] at hhead
  obtain ⟨hskip, _⟩ | ⟨_, tail, htail, rfl⟩ := hhead
  · simp [shouldSkipRemainingGuestWork] at hskip
  obtain ⟨guest, last, mid₁, hguest, hclaim, rfl⟩ := runAll_append htail
  obtain ⟨stub, mid₂, rest, hstub, hrest, rfl⟩ := runAll_cons.mp hclaim
  cases hrest
  obtain ⟨hreceipts, _⟩ := runAll_guest (fun stmt hstmt => x.hostStatement_gated hstmt) hguest
  have hnone : mid₁.receipts.prior x.operationId = none := by
    rw [hreceipts, ← hprior]
    exact ReceiptTable.prior_prune db.receipts x.operationId x.created
  obtain ⟨hdata, hclaimed⟩ := runStatement_claim hnone hstub
  refine ⟨r₀, guest, stub, mid₁, hguest, rfl, ?_⟩
  rw [Adapter.finalizeReceipt, if_neg x.guestStatementLen_ne_zero] at hfinal
  obtain ⟨stmts, hstmts, hrun⟩ := bind_eq_ok.mp hfinal
  unfold Wire.guestReceiptFinalizeStmts at hstmts
  split at hstmts
  · cases hstmts
  · next hlen =>
    have hslice : guestSliceReply (A.storedReply x.operationId (r₀ :: receiptResult none :: (guest ++ [stub])))
        x.envelope.guestReceipt.guestStatementLen = A.storedReply x.operationId guest := by
      have hguestLen : x.envelope.guestReceipt.guestStatementLen = guest.length := by
        simp only [Adapter.storedReply, length_cons, length_append, length_nil] at hlen
        omega
      simp [guestSliceReply, Adapter.storedReply, hguestLen]
    obtain ⟨payload, hpayload, rfl⟩ := map_eq_ok.mp hstmts
    obtain rfl : payload = A.wire.encode (A.storedReply x.operationId guest) :=
      hslice ▸ encodeGuestReplayPayload_eq hpayload
    obtain ⟨hsame, hfinished⟩ := runFinalize_claimed hrun
    refine ⟨hsame.trans hdata, hfinished.trans ?_⟩
    show (mid.receipts.prior x.operationId).map _ = _
    rw [hclaimed]
    rfl

end OneExecution

def Wire.SlicesShrink (w : Wire) : Prop :=
  ∀ op before stmts after t t', t.dbTimingSource = t'.dbTimingSource →
    ∀ n, w.replyBytes ⟨op, before ++ stmts ++ after, t⟩ = .ok n → ∃ m ≤ n, w.replyBytes ⟨op, stmts, t'⟩ = .ok m

def Wire.RoundTrips (w : Wire) (reply : ExecuteReply) : Prop :=
  w.encode reply ≠ [] ∧ w.decode (w.encode reply) = some reply

section Unwrap

variable {A : Adapter δ} {x y : Execution} {db db' : Database δ} {reply : ExecuteReply}

lemma positionalError_eq_none {reply : ExecuteReply} (h : reply.positionalError = none) {stmt : StatementResult}
    (hstmt : stmt ∈ reply.statements) : stmt.positionalError = none := by
  obtain ⟨i, hi, hget⟩ := mem_iff_getElem.mp hstmt
  have hmem : (stmt, i) ∈ reply.statements.zipIdx := by
    rw [List.mem_zipIdx_iff_getElem?]
    simp [hi, hget]
  simpa using List.findSome?_eq_none_iff.mp h _ hmem

lemma positionalError_of_forall {reply : ExecuteReply} (h : ∀ stmt ∈ reply.statements, stmt.positionalError = none) :
    reply.positionalError = none := by
  refine List.findSome?_eq_none_iff.mpr fun pair hpair => ?_
  have hmem : pair.1 ∈ reply.statements := fst_mem_of_mem_zipIdx hpair
  simp [h pair.1 hmem]

variable {results : List StatementResult}

lemma validateStatements_of_forall₂ {w : Wire} {caps : ReplyCaps} {reqs : List TypedDbStatement}
    (h : List.Forall₂ (fun stmt r => ∀ index,
      validateStatementResult w caps index stmt.resultSelection stmt.maxRows.toNat r = .ok ()) reqs results)
    (index : Nat) : validateStatements w caps index reqs results = .ok () := by
  induction h generalizing index with
  | nil => rfl
  | cons hhead _ ih =>
    rw [validateStatements, hhead index]
    exact ih (index + 1)

lemma gateStatement_selection (op : Text) (stmt : TypedDbStatement) :
    (gateStatement op stmt).resultSelection = stmt.resultSelection ∧ (gateStatement op stmt).maxRows = stmt.maxRows := by
  unfold gateStatement
  split <;> exact ⟨rfl, rfl⟩

lemma validate_stored (hslices : A.wire.SlicesShrink) {r₀ r₁ stub : StatementResult}
    {mid : Database δ}
    (hrun : A.runAll x.gated db = .ok (results, mid))
    (hreply : reply = ⟨x.operationId, r₀ :: r₁ :: (results ++ [stub]), ⟨x.attemptElapsedUs, x.dbExecutionUs, A.timingSource⟩⟩)
    (hpos : reply.positionalError = none)
    (hbytes : ∃ used, A.wire.replyBytes reply = .ok used ∧
      (A.caps.maxAtomicResultBytes = 0 ∨ used ≤ A.caps.maxAtomicResultBytes))
    (hop : y.operationId = x.operationId) (hstmts : y.request.statements = x.request.statements) :
    validateExecuteReply A.wire A.caps y.request (A.storedReply x.operationId results) = .ok () := by
  subst hreply
  obtain ⟨_, hvalid⟩ := runAll_guest (fun stmt hstmt => x.hostStatement_gated hstmt) hrun
  have hvalid' : List.Forall₂ (fun stmt r => ∀ index,
      validateStatementResult A.wire A.caps index stmt.resultSelection stmt.maxRows.toNat r = .ok ())
      y.request.statements results := by
    rw [hstmts]
    refine (forall₂_map_left_iff.mp hvalid).imp fun stmt r hr index => ?_
    obtain ⟨hsel, hmax⟩ := gateStatement_selection x.operationId stmt
    simpa [hsel, hmax] using hr index
  have hposStored : (A.storedReply x.operationId results).positionalError = none :=
    positionalError_of_forall fun stmt hstmt => positionalError_eq_none hpos (by
      have hstmt : stmt ∈ results := hstmt
      simp [hstmt])
  have hwithin : replyWithin A.wire A.caps (A.storedReply x.operationId results) = .ok () := by
    obtain ⟨used, hused, hcap⟩ := hbytes
    obtain ⟨m, hm, hmbytes⟩ := hslices x.operationId [r₀, r₁] results [stub]
      ⟨x.attemptElapsedUs, x.dbExecutionUs, A.timingSource⟩ ⟨0, 0, A.timingSource⟩ rfl used (by simpa using hused)
    unfold replyWithin Adapter.storedReply
    rw [hmbytes]
    have hadmitted := A.caps.admitted
    split
    · rfl
    · show (if min A.caps.maxAtomicResultBytes maxScalarBytes < m then _ else _) = _
      rw [if_neg (by omega)]
  have hlen : results.length = y.request.statements.length := hvalid'.length_eq.symm
  unfold validateExecuteReply
  rw [hposStored]
  show (if x.operationId ≠ y.operationId then _
    else if results.length ≠ y.request.statements.length then _
    else (validateStatements A.wire A.caps 0 y.request.statements results).bind fun _ =>
      replyWithin A.wire A.caps (A.storedReply x.operationId results)) = .ok ()
  rw [if_neg (by simp [hop]), if_neg (by simp [hlen]), validateStatements_of_forall₂ hvalid']
  exact hwithin

lemma unwrap_of_none {r₀ stub : StatementResult}
    (hlen : results.length = x.request.statements.length)
    (hreply : reply.statements = r₀ :: receiptResult none :: (results ++ [stub])) :
    unwrapGuestTypedReply A.wire A.caps x.request reply = .ok { reply with statements := results } := by
  unfold unwrapGuestTypedReply
  have hshape : reply.statements.length = 2 + x.request.statements.length + 1 := by
    simp only [hreply, length_cons, length_append, length_nil]
    omega
  rw [if_neg (not_not.mpr hshape)]
  simp [hreply, guestSliceReply, ← hlen]

lemma unwrap_of_finished {row : ReceiptRow} (hlen : reply.statements.length = 2 + y.request.statements.length + 1)
    (hprior : reply.statements[1]? = some (receiptResult (some row))) (hpayload : row.payload ≠ []) :
    unwrapGuestTypedReply A.wire A.caps y.request reply =
      if row.requestHash ≠ y.request.requestHash then .error conflictingHash
      else replayStored A.wire A.caps y.request row.payload := by
  unfold unwrapGuestTypedReply
  rw [if_neg (by omega)]
  simp only [hprior, getD_some, receiptHashFrom_some, receiptPayloadText_some row hpayload]

end Unwrap

end Bookclerk.Receipt
