import Bookclerk.Receipt.Reply

namespace Bookclerk.Receipt

open Lexical Db

def guestReceiptAppliedStmt (operationId : Text) : TypedDbStatement :=
  typedExec ("UPDATE bookclerk_receipts SET status = 'applied' " ++ "WHERE operation_id = ? AND status = 'claimed'")
    [.text operationId]

inductive ReceiptWrite where
  | claim (created expires requestHash : Text)
  | applied
  | finalize (payload : Text)

namespace ReceiptWrite

variable (operationId : Text)

def stmt : ReceiptWrite → TypedDbStatement
  | .claim created expires requestHash => claimReceipt created expires operationId requestHash
  | .applied => guestReceiptAppliedStmt operationId
  | .finalize payload => finalizeClaimedPayload payload operationId

def exec (table : ReceiptTable) : ReceiptWrite → ReceiptTable
  | .claim created expires requestHash =>
    (table.claim ⟨operationId, utf8 "guestTyped", requestHash, .claimed, [], created, expires⟩).1
  | .applied => table.update operationId .markApplied
  | .finalize payload => table.update operationId (.finalize payload)

end ReceiptWrite

def ReceiptStatus.rank : ReceiptStatus → Nat
  | .claimed => 0
  | .applied => 1
  | .ok => 2

structure ReceiptRow.Follows (row row' : ReceiptRow) : Prop where
  status : row.status.rank ≤ row'.status.rank
  requestHash : row'.requestHash = row.requestHash
  payload : row.status = .ok → row'.payload = row.payload

namespace ReceiptRow.Follows

variable {row row' row'' : ReceiptRow}

lemma refl (row : ReceiptRow) : row.Follows row :=
  ⟨Nat.le_refl _, rfl, fun _ => rfl⟩

lemma trans (h : row.Follows row') (h' : row'.Follows row'') : row.Follows row'' := by
  refine ⟨Nat.le_trans h.status h'.status, h'.requestHash.trans h.requestHash, fun hok => ?_⟩
  have hok' : row'.status = .ok := by
    have hrank := h.status
    rw [hok] at hrank
    cases hs : row'.status with
    | ok => rfl
    | claimed | applied => rw [hs] at hrank; exact absurd hrank (by decide)
  exact (h'.payload hok').trans (h.payload hok)

lemma markApplied (row : ReceiptRow) : row.Follows row.markApplied := by
  unfold ReceiptRow.markApplied
  split_ifs with h
  · exact ⟨by rw [h]; exact Nat.zero_le _, rfl, fun _ => rfl⟩
  · exact refl row

lemma finalize (payload : Text) (row : ReceiptRow) : row.Follows (row.finalize payload) := by
  unfold ReceiptRow.finalize
  split_ifs with h
  · refine ⟨?_, rfl, fun hok => ?_⟩
    · rcases h with h | h <;> rw [h] <;> exact Nat.le_of_ble_eq_true rfl
    · rw [hok] at h
      rcases h with h | h <;> cases h
  · exact refl row

end ReceiptRow.Follows

lemma ReceiptWrite.exec_follows {operationId : Text} {table : ReceiptTable} {row : ReceiptRow}
    (h : table.prior operationId = some row) (w : ReceiptWrite) :
    ∃ row', (w.exec operationId table).prior operationId = some row' ∧ row.Follows row' := by
  cases w with
  | claim created expires requestHash =>
    have hkeep := table.prior_claim_self ⟨operationId, utf8 "guestTyped", requestHash, .claimed, [], created, expires⟩
    rw [h] at hkeep
    exact ⟨row, hkeep, .refl row⟩
  | applied =>
    refine ⟨row.markApplied, ?_, .markApplied row⟩
    rw [exec, table.prior_update operationId ReceiptRow.operationId_markApplied, h, Option.map_some]
  | finalize payload =>
    refine ⟨row.finalize payload, ?_, .finalize payload row⟩
    rw [exec, table.prior_update operationId (ReceiptRow.operationId_finalize payload), h, Option.map_some]

def runWrites {ι : Type} (operationId : Text) (table : ReceiptTable) (writes : List (ι × ReceiptWrite)) : ReceiptTable :=
  writes.foldl (fun table w => w.2.exec operationId table) table

lemma runWrites_append {ι : Type} (operationId : Text) (table : ReceiptTable) (before after : List (ι × ReceiptWrite)) :
    runWrites operationId table (before ++ after) = runWrites operationId (runWrites operationId table before) after :=
  List.foldl_append ..

theorem receipt_only_moves_forward {ι : Type} {operationId : Text} {table : ReceiptTable}
    (before after : List (ι × ReceiptWrite)) {row : ReceiptRow}
    (h : (runWrites operationId table before).prior operationId = some row) :
    ∃ row', (runWrites operationId table (before ++ after)).prior operationId = some row' ∧ row.Follows row' := by
  rw [runWrites_append]
  generalize runWrites operationId table before = table' at h ⊢
  induction after generalizing table' row with
  | nil => exact ⟨row, h, .refl row⟩
  | cons w after ih =>
    obtain ⟨row', h', hfollows⟩ := w.2.exec_follows h
    obtain ⟨row'', h'', hfollows'⟩ := ih _ h'
    exact ⟨row'', h'', hfollows.trans hfollows'⟩

theorem receipt_only_moves_forward_pair : ∃ row',
    (runWrites (utf8 "op") [] [((0 : Nat), .claim [] [] (utf8 "h")), (1, .claim [] [] (utf8 "g")), (1, .finalize (utf8 "r")),
      (0, .finalize (utf8 "s"))]).prior (utf8 "op") = some row' ∧
    ReceiptRow.Follows ⟨utf8 "op", utf8 "guestTyped", utf8 "h", .claimed, [], [], []⟩ row' :=
  receipt_only_moves_forward [(0, .claim [] [] (utf8 "h"))] _ (by decide +kernel)

end Bookclerk.Receipt
