import Bookclerk.Events.ClaimReplay

namespace Bookclerk.Events

open Lexical Db Jobs Bookclerk.System List Option

variable {b' : Backend} {reply : BatchReply} {claims : Bool} {d : Claim} {rows : List Delivery}

def ReceiptsSpent (operationId : Text) (b : Backend) : Prop :=
  ∀ c ∈ b.receipts, c.status = .ok → ∀ id, c.operationId = receiptKey operationId id →
    ∃ r ∈ b.table.rows, r.id = id ∧ r.state ≠ .pending

structure ReplayInv (operationId : Text) (q : Replay) : Prop where
  receipts : ReceiptsSpent operationId q.backend
  candidates : ∀ d, q.call = some d → ∀ m ∈ d.phase.candidates, m ∈ q.backend.table.rows ∧ m.state = .pending
  answered : q.answer ≠ none → q.call = none

lemma receiptKey_inj {operationId id id' : Text} (h : receiptKey operationId id = receiptKey operationId id') : id = id' :=
  append_cancel_left h

inductive BatchMove (b : Backend) (key : Text) (m : Delivery) : Bool → Backend → BatchReply → Prop where
  | quiet (receipts : List ClaimReceipt) (reply : BatchReply) (spent : ∀ c ∈ receipts, c ∈ b.receipts ∨ c.status = .empty)
      (unclaimed : ∀ payload, reply ≠ .ok payload) : BatchMove b key m false ⟨b.table, receipts⟩ reply
  | claim (table : DeliveryTable) (receipts : List ClaimReceipt) (r : Delivery) (hr : r ∈ table.rows) (id : r.id = m.id)
      (running : r.state = .running) (kept : ∀ w ∈ b.table.rows, w.state ≠ .pending → w ∈ table.rows)
      (spent : ∀ c ∈ receipts, c ∈ b.receipts ∨ c.operationId = key) :
      BatchMove b key m true ⟨table, receipts⟩ (.ok (some r))

lemma mem_of_mem_prune {now : Stamp} {key : Text} {receipts : List ClaimReceipt} {c : ClaimReceipt}
    (h : c ∈ pruneClaimReceipts now key receipts) : c ∈ receipts :=
  mem_of_mem_filter h

variable {digest : Text → Text} {b : Backend} {key : Text} {args : ClaimArgs} {m : Delivery} {now : Stamp}

lemma hostStmt_applies {r : Delivery} (h : (hostStmt rows args m now).applies r = true) : r.state = .pending := by
  simp only [hostStmt, casDelivery, updateWhere, Bool.and_eq_true, decide_eq_true_eq] at h
  exact h.1

lemma claimedTable_of_not_applies (hm : m ∈ b.table.rows) (happ : (hostStmt b.table.rows args m now).applies m = false) :
    claimedTable b args m now = b.table := by
  refine b.table.modify_eq_self (Stmt.key_row _) fun r hr => ?_
  rcases (hostStmt b.table.rows args m now).toStmt.row_cases r with hrow | ⟨hkey, happ', -⟩
  · exact hrow
  · obtain rfl := b.table.eq_of_key hr hm hkey
    rw [happ] at happ'
    cases happ'

lemma find_claimedTable (hm : m ∈ b.table.rows) (happ : (hostStmt b.table.rows args m now).applies m = true) :
    (claimedTable b args m now).find m.id = some ((hostStmt b.table.rows args m now).set m) := by
  have hrow : (hostStmt b.table.rows args m now).toStmt.row m = (hostStmt b.table.rows args m now).set m := if_pos ⟨rfl, happ⟩
  have hfind : b.table.find m.id = some m := Table.find_eq_some.mpr ⟨hm, rfl⟩
  rw [claimedTable, Table.find_modify, hfind, map_some, hrow]

lemma batchMove_of_prior {prior : ClaimReceipt} (hprior : priorClaim b key now = some prior) (hempty : prior.status = .empty) :
    BatchMove b key m (batchClaims b key args m now) (claimEventDelivery digest b key args m now).1
      (claimEventDelivery digest b key args m now).2 := by
  have hreply : ∀ payload, prior.reply (digest (claimRequest args m)) ≠ .ok payload := by
    intro payload hok
    rw [ClaimReceipt.reply, hempty] at hok
    split_ifs at hok
  rw [batchClaims, claimEventDelivery, hprior]
  exact .quiet _ _ (fun c hc => Or.inl (mem_of_mem_prune hc)) hreply

lemma batchMove_of_fresh (hm : m ∈ b.table.rows) (hpend : m.state = .pending) (hprior : priorClaim b key now = none) :
    BatchMove b key m (batchClaims b key args m now) (claimEventDelivery digest b key args m now).1
      (claimEventDelivery digest b key args m now).2 := by
  have hfind : b.table.find m.id = some m := Table.find_eq_some.mpr ⟨hm, rfl⟩
  have hspent : ∀ c ∈ claimReceipt digest b key args m now :: pruneClaimReceipts now key b.receipts,
      c ∈ b.receipts ∨ c = claimReceipt digest b key args m now := fun c hc =>
    (mem_cons.mp hc).symm.imp mem_of_mem_prune id
  rw [batchClaims, claimEventDelivery, hprior, hfind, any_some]
  cases happ : (hostStmt b.table.rows args m now).applies m with
  | false =>
    have htable := claimedTable_of_not_applies hm happ
    have hstatus : hostStatus (claimedTable b args m now) args m now = false := by
      rw [htable, hostStatus, hfind, any_some, hpend]
      rfl
    have hempty : (claimReceipt digest b key args m now).status = .empty := by
      rw [claimReceipt, hstatus]
      rfl
    have hreply : ∀ payload, (claimReceipt digest b key args m now).reply (digest (claimRequest args m)) ≠ .ok payload := by
      intro payload hok
      rw [ClaimReceipt.reply, hempty] at hok
      split_ifs at hok
    rw [htable]
    refine .quiet _ _ (fun c hc => (hspent c hc).imp id fun hc => ?_) hreply
    rw [hc, hempty]
  | true =>
    have hrow := find_claimedTable hm happ
    have hstatus : hostStatus (claimedTable b args m now) args m now = true := by
      rw [hostStatus, hrow]
      simp [hostStmt, casDelivery, updateWhere]
    have hreply : (claimReceipt digest b key args m now).reply (digest (claimRequest args m)) =
        .ok (some ((hostStmt b.table.rows args m now).set m)) := by
      simp [ClaimReceipt.reply, claimReceipt, hstatus, hrow]
    rw [hreply]
    refine .claim _ _ _ (Table.find_eq_some.mp hrow).1 rfl rfl (fun w hw hne => ?_) fun c hc => (hspent c hc).imp id fun hc => ?_
    · refine (Table.mem_modify (Stmt.key_row _)).mpr ⟨w, hw, ?_⟩
      rcases (hostStmt b.table.rows args m now).toStmt.row_cases w with hsame | ⟨-, happw, -⟩
      · exact hsame
      · exact absurd (hostStmt_applies happw) hne
    · rw [hc]
      rfl

lemma ReplayInv.batchMove {operationId : Text} {q : Replay} (h : ReplayInv operationId q) (hm : m ∈ q.backend.table.rows)
    (hpend : m.state = .pending) (digest : Text → Text) (args : ClaimArgs) (now : Stamp) :
    BatchMove q.backend (receiptKey operationId m.id) m (batchClaims q.backend (receiptKey operationId m.id) args m now)
      (claimEventDelivery digest q.backend (receiptKey operationId m.id) args m now).1
      (claimEventDelivery digest q.backend (receiptKey operationId m.id) args m now).2 := by
  cases hprior : priorClaim q.backend (receiptKey operationId m.id) now with
  | none => exact batchMove_of_fresh hm hpend hprior
  | some prior =>
    have hmem : prior ∈ q.backend.receipts := mem_of_mem_prune (List.mem_of_find?_eq_some hprior)
    have hkey : prior.operationId = receiptKey operationId m.id := by simpa using List.find?_some hprior
    refine batchMove_of_prior hprior ?_
    cases hstatus : prior.status with
    | empty => rfl
    | ok =>
      obtain ⟨r, hr, hid, hne⟩ := h.receipts prior hmem hstatus m.id hkey
      rw [q.backend.table.eq_of_key hr hm hid] at hne
      exact absurd hpend hne

variable {operationId : Text} {q q' : Replay} {a : ReplayAction}

lemma ReceiptsSpent.batchMove (h : ReceiptsSpent operationId b)
    (hmove : BatchMove b (receiptKey operationId m.id) m claims b' reply) : ReceiptsSpent operationId b' := by
  intro c hc hok id hkey
  cases hmove with
  | quiet receipts reply hspent _ =>
    rcases hspent c hc with hold | hempty
    · exact h c hold hok id hkey
    · rw [hok] at hempty
      cases hempty
  | claim table receipts r hr hid hrun hkept hspent =>
    rcases hspent c hc with hold | hnew
    · obtain ⟨w, hw, hwid, hne⟩ := h c hold hok id hkey
      exact ⟨w, hkept w hw hne, hwid, hne⟩
    · obtain rfl := receiptKey_inj (hnew.symm.trans hkey)
      exact ⟨r, hr, hid, by rw [hrun]; nofun⟩

lemma pending_of_mem_claimPage {cursor : Cursor} (h : m ∈ claimPage args cursor rows) : m.state = .pending := by
  obtain ⟨-, hready⟩ := mem_filter.mp ((mem_insertionSort _).mp (mem_of_mem_take h))
  simp only [claimReady, Bool.and_eq_true, decide_eq_true_eq] at hready
  exact hready.1.1.1.1

lemma ReplayInv.goto (h : ReplayInv operationId q) (hcall : q.call = some d) {phase : ClaimPhase}
    (hphase : ∀ m ∈ phase.candidates, m ∈ d.phase.candidates ∨ m ∈ q.backend.table.rows ∧ m.state = .pending) :
    ReplayInv operationId (q.goto d phase) where
  receipts := h.receipts
  candidates := by
    rintro _ ⟨⟩ m hm
    exact (hphase m hm).elim (h.candidates d hcall m) id
  answered hanswer := absurd (h.answered hanswer) (by simp [hcall])

lemma ReceiptsSpent.reject (h : ReceiptsSpent operationId b) (m : Delivery) (now : Stamp) :
    ReceiptsSpent operationId
      { b with table := b.table.modify (rejectUnknownClass m now).toStmt.row (rejectUnknownClass m now).toStmt.key_row } := by
  intro c hc hok id hkey
  obtain ⟨r, hr, hid, hne⟩ := h c hc hok id hkey
  refine ⟨r, (Table.mem_modify (Stmt.key_row _)).mpr ⟨r, hr, ?_⟩, hid, hne⟩
  rcases (rejectUnknownClass m now).toStmt.row_cases r with hsame | ⟨-, happ, -⟩
  · exact hsame
  · exact absurd (of_decide_eq_true happ) hne

inductive ReplayMove (operationId : Text) (q : Replay) : ReplayAction → Replay → Prop where
  | quiet {a : ReplayAction} (q' : Replay) (moved : q'.moved = q.moved) (answer : q'.answer = none ∨ q'.answer = some .failed) :
      ReplayMove operationId q a q'
  | nothing {a : ReplayAction} (q' : Replay) (moved : q'.moved = q.moved) (answer : q'.answer = some .nothing) :
      ReplayMove operationId q a q'
  | claimed {now : Stamp} (q' : Replay) (r : Delivery) (moved : q'.moved = r.id :: q.moved) (answer : q'.answer = some (.claimed r)) :
      ReplayMove operationId q (.send now .answered) q'
  | lost {now : Stamp} (q' : Replay) (d : Claim) (m : Delivery) (hcall : q.call = some d) (chosen : d.phase.chosen = some m)
      (claims : batchClaims q.backend (receiptKey operationId m.id) d.args m now = true) (moved : q'.moved = m.id :: q.moved)
      (answer : q'.answer = none) : ReplayMove operationId q (.send now (.lost true)) q'

lemma ReplayInv.advance (h : ReplayInv operationId q) (hcall : q.call = some d) {catalogMatches : Bool}
    (hs : q.advance d catalogMatches = some q') : ReplayInv operationId q' ∧ ReplayMove operationId q (.advance catalogMatches) q' := by
  have hnone : q.answer = none := by
    by_contra hanswer
    rw [h.answered hanswer] at hcall
    cases hcall
  rw [Replay.advance] at hs
  cases hphase : d.phase with
  | sanitize ms =>
    cases ms with
    | nil =>
      simp only [hphase] at hs
      cases hs
      exact ⟨h.goto hcall (by simp [ClaimPhase.candidates]), .quiet _ rfl (Or.inl hnone)⟩
    | cons m left =>
      simp only [hphase] at hs
      cases hs
      refine ⟨⟨h.receipts.reject m d.args.now, ?_, fun hanswer => absurd hnone hanswer⟩, .quiet _ rfl (Or.inl hnone)⟩
      rintro _ ⟨⟩ m hm
      cases hm
  | query cursor =>
    simp only [hphase] at hs
    split at hs
    · cases hs
      exact ⟨⟨h.receipts, fun _ hc => absurd hc (some_ne_none _).symm, fun _ => rfl⟩, .nothing _ rfl rfl⟩
    · cases hs
      refine ⟨h.goto hcall fun m hm => Or.inr ?_, .quiet _ rfl (Or.inl hnone)⟩
      have hpage := mem_candidates_afterQuery hm
      exact ⟨(mem_claimPage hpage).1, pending_of_mem_claimPage hpage⟩
  | scan page =>
    obtain ⟨ms, cursor⟩ := page
    cases ms with
    | nil =>
      simp only [hphase] at hs
      cases hs
      exact ⟨h.goto hcall (by simp [ClaimPhase.candidates]), .quiet _ rfl (Or.inl hnone)⟩
    | cons m left =>
      simp only [hphase] at hs
      cases hs
      refine ⟨h.goto hcall fun m' hm' => Or.inl ?_, .quiet _ rfl (Or.inl hnone)⟩
      rw [hphase]
      rw [afterChecks] at hm'
      split_ifs at hm'
      · exact mem_cons_of_mem m hm'
      · exact hm'
  | passed | locked | admitted | done => simp [hphase] at hs

lemma ReplayInv.of_batchMove (h : ReplayInv operationId q)
    (hmove : BatchMove q.backend (receiptKey operationId m.id) m claims b' reply) (moved : List Text) (answer : Option Answer) :
    ReplayInv operationId ⟨b', none, moved, answer⟩ where
  receipts := h.receipts.batchMove hmove
  candidates _ hc := absurd hc (some_ne_none _).symm
  answered _ := rfl

lemma ReplayInv.send (h : ReplayInv operationId q) (hcall : q.call = some d) {page : Page}
    (hphase : d.phase = .passed m page) (now : Stamp) (fate : Fate) :
    ReplayInv operationId (q.send digest operationId d m page now fate) ∧
      ReplayMove operationId q (.send now fate) (q.send digest operationId d m page now fate) := by
  have hnone : q.answer = none := by
    by_contra hanswer
    rw [h.answered hanswer] at hcall
    cases hcall
  obtain ⟨hm, hpend⟩ := h.candidates d hcall m (by rw [hphase]; exact mem_cons_self)
  have hmove := h.batchMove hm hpend digest d.args now
  match fate with
  | .lost false =>
    exact ⟨⟨h.receipts, fun _ hc => absurd hc (some_ne_none _).symm, fun _ => rfl⟩, .quiet _ rfl (Or.inl hnone)⟩
  | .lost true =>
    refine ⟨h.of_batchMove hmove .., ?_⟩
    cases hclaims : batchClaims q.backend (receiptKey operationId m.id) d.args m now with
    | false => exact .quiet _ (by simp [Replay.send, Replay.committed, hclaims]) (Or.inl hnone)
    | true =>
      exact .lost _ d m hcall (by rw [hphase]; rfl) hclaims (by simp [Replay.send, Replay.committed, hclaims]) hnone
  | .answered =>
    rw [Replay.send, Replay.committed]
    generalize claimEventDelivery digest q.backend (receiptKey operationId m.id) d.args m now = out at hmove ⊢
    generalize batchClaims q.backend (receiptKey operationId m.id) d.args m now = claims at hmove ⊢
    obtain ⟨b', reply⟩ := out
    have hover := fun moved answer => h.of_batchMove hmove moved answer
    cases hmove with
    | claim table receipts r hr hid => exact ⟨hover .., .claimed _ r (by rw [hid]; rfl) rfl⟩
    | quiet receipts reply hspent hunclaimed =>
      cases reply with
      | ok payload => exact absurd rfl (hunclaimed payload)
      | conflict => exact ⟨hover .., .quiet _ rfl (Or.inr rfl)⟩
      | empty =>
        -- the rows are as they were, so the rest of the page is
        refine ⟨⟨(hover [] none).receipts, ?_, fun hanswer => absurd hnone hanswer⟩, .quiet _ rfl (Or.inl hnone)⟩
        rintro _ ⟨⟩ m' hm'
        exact h.candidates d hcall m' (by rw [hphase]; exact mem_cons_of_mem m hm')

variable {args : ClaimArgs}

section

variable (h : ReplayInv operationId q) (hs : q.step digest operationId args a = some q')
include h hs

lemma ReplayInv.step :
    ReplayInv operationId q' ∧ ReplayMove operationId q a q' := by
  cases a with
  | call now =>
    rw [Replay.step] at hs
    split_ifs at hs with hbusy hplugins
    · cases hs
      refine ⟨⟨h.receipts, h.candidates, fun _ => ?_⟩, .nothing _ rfl rfl⟩
      simpa using fun hcall => hbusy (Or.inr hcall)
    · cases hs
      simp only [not_or, not_isSome_iff_eq_none] at hbusy
      refine ⟨⟨h.receipts, ?_, fun hanswer => absurd hbusy.1 hanswer⟩, .quiet _ rfl (Or.inl hbusy.1)⟩
      rintro _ ⟨⟩ m hm
      cases hm
  | advance catalogMatches =>
    obtain ⟨d, hcall, hs⟩ := bind_eq_some_iff.mp hs
    exact h.advance hcall hs
  | send now fate =>
    obtain ⟨d, hcall, hs⟩ := bind_eq_some_iff.mp hs
    split at hs
    · next m page hphase =>
      cases hs
      exact h.send hcall hphase now fate
    · cases hs

lemma ReplayInv.not_answered : q.answer = none := by
  by_contra hanswer
  have hcall := h.answered hanswer
  cases a with
  | call now =>
    rw [Replay.step, if_pos (Or.inl (isSome_iff_ne_none.mpr hanswer))] at hs
    cases hs
  | advance | send =>
    simp only [Replay.step, hcall] at hs
    cases hs

end

structure OnceInv (operationId : Text) (q : Replay) : Prop where
  inv : ReplayInv operationId q
  once : q.Once
  clean : q.answer = none → q.moved = []

lemma OnceInv.step (h : OnceInv operationId q) (ha : ClaimAnswered operationId q a)
    (hs : q.step digest operationId args a = some q') : OnceInv operationId q' := by
  obtain ⟨hinv, hmove⟩ := h.inv.step hs
  have hclean := h.clean (h.inv.not_answered hs)
  cases hmove with
  | quiet _ hmoved hanswer =>
    rw [hclean] at hmoved
    refine ⟨hinv, ⟨by simp [hmoved], fun _ => hmoved, fun r hr => ?_⟩, fun _ => hmoved⟩
    rcases hanswer with hanswer | hanswer <;> rw [hanswer] at hr <;> cases hr
  | nothing _ hmoved hanswer =>
    rw [hclean] at hmoved
    refine ⟨hinv, ⟨by simp [hmoved], fun _ => hmoved, fun r hr => ?_⟩, fun _ => hmoved⟩
    rw [hanswer] at hr
    cases hr
  | claimed _ r hmoved hanswer =>
    rw [hclean] at hmoved
    refine ⟨hinv, ⟨by simp [hmoved], fun hr => ?_, fun r' hr => ?_⟩, fun hr => ?_⟩
    · rw [hanswer] at hr
      cases hr
    · rw [hanswer] at hr
      cases hr
      exact hmoved
    · rw [hanswer] at hr
      cases hr
  | lost _ d m hcall hchosen hclaims _ _ =>
    rw [ha d hcall m hchosen] at hclaims
    cases hclaims

structure Astray (operationId : Text) (q : Replay) : Prop where
  inv : ReplayInv operationId q
  moved : q.moved ≠ []
  unnamed : ∀ r, q.answer = some (.claimed r) → q.moved ≠ [r.id]

lemma Astray.step (h : Astray operationId q) (hs : q.step digest operationId args a = some q') : Astray operationId q' := by
  obtain ⟨hinv, hmove⟩ := h.inv.step hs
  cases hmove with
  | quiet _ hmoved hanswer =>
    refine ⟨hinv, hmoved ▸ h.moved, fun r hr => ?_⟩
    rcases hanswer with hanswer | hanswer <;> rw [hanswer] at hr <;> cases hr
  | nothing _ hmoved hanswer =>
    refine ⟨hinv, hmoved ▸ h.moved, fun r hr => ?_⟩
    rw [hanswer] at hr
    cases hr
  | claimed _ r hmoved hanswer =>
    refine ⟨hinv, by simp [hmoved], fun r' hr hone => ?_⟩
    rw [hmoved] at hone
    exact h.moved (List.cons.inj hone).2
  | lost _ d m _ _ _ hmoved hanswer =>
    refine ⟨hinv, by simp [hmoved], fun r hr => ?_⟩
    rw [hanswer] at hr
    cases hr

lemma astray_of_lost (h : ReplayInv operationId q) (ha : ¬ ClaimAnswered operationId q a)
    (hs : q.step digest operationId args a = some q') : Astray operationId q' := by
  have hinv := (h.step hs).1
  have hnone := h.not_answered hs
  match a with
  | .send now (.lost true) =>
    obtain ⟨d, hcall, hs⟩ := bind_eq_some_iff.mp hs
    split at hs
    · next m page hphase =>
      cases hs
      have hclaims : batchClaims q.backend (receiptKey operationId m.id) d.args m now = true := by
        by_contra hclaims
        refine ha fun d' hd' m' hm' => ?_
        cases hcall.symm.trans hd'
        rw [hphase] at hm'
        cases hm'
        simpa using hclaims
      refine ⟨hinv, by simp [Replay.send, Replay.committed, hclaims], fun r hr => ?_⟩
      rw [show (q.send digest operationId d m page now (.lost true)).answer = q.answer from rfl, hnone] at hr
      cases hr
    · cases hs
  | .call _ | .advance _ | .send _ .answered | .send _ (.lost false) => exact absurd trivial ha

theorem claim_replay_once (digest : Text → Text) (operationId : Text) (args : ClaimArgs) (table : DeliveryTable)
    (receipts : List ClaimReceipt) (hreceipts : ∀ c ∈ receipts, ∀ id, c.operationId ≠ receiptKey operationId id)
    (as : List ReplayAction) (q : Replay)
    (hrun : run (Replay.step digest operationId args) (Replay.initial table receipts) as = some q) :
    (EveryStep (Replay.step digest operationId args) (ClaimAnswered operationId) (Replay.initial table receipts) as → q.Once) ∧
      ((q.answer = some .nothing ∨ ∃ r, q.answer = some (.claimed r)) → q.Once →
        EveryStep (Replay.step digest operationId args) (ClaimAnswered operationId) (Replay.initial table receipts) as) := by
  have hinv : ReplayInv operationId (Replay.initial table receipts) :=
    ⟨fun c hc _ id hkey => absurd hkey (hreceipts c hc id), fun _ hc => absurd hc (some_ne_none _).symm,
      fun hanswer => absurd rfl hanswer⟩
  have hinit : OnceInv operationId (Replay.initial table receipts) :=
    ⟨hinv, ⟨Nat.zero_le 1, fun _ => rfl, fun r hr => absurd hr (some_ne_none _).symm⟩, fun _ => rfl⟩
  refine ⟨fun has => (run_of_everyStep (fun _ _ _ h ha hs => OnceInv.step h ha hs) hinit has hrun).once, fun hanswer honce => ?_⟩
  refine everyStep_of_not_bad (fun _ _ _ h hs => (ReplayInv.step h hs).1) (fun _ _ _ h hs => Astray.step h hs)
    (fun _ _ _ h ha hs => astray_of_lost h ha hs) hinv hrun fun hastray => ?_
  rcases hanswer with hanswer | ⟨r, hanswer⟩
  · exact hastray.moved (honce.nothing hanswer)
  · exact hastray.unnamed r hanswer (honce.claimed r hanswer)

def twoPending : DeliveryTable :=
  ⟨[newDelivery (utf8 "e") (utf8 "p") [] 1, newDelivery (utf8 "f") (utf8 "p") [] 2], by decide⟩

def callSending (now : Stamp) (fate : Fate) : List ReplayAction :=
  [.call now, .advance true, .advance true, .advance true, .send now fate]

def requestLost : List ReplayAction :=
  callSending 3 (.lost false) ++ callSending 4 .answered

theorem claim_replay_once_request_lost :
    ∃ q, run (Replay.step id (utf8 "op") ⟨utf8 "a", 60, [utf8 "p"], 2, true, 0⟩) (Replay.initial twoPending []) requestLost = some q ∧
      q.moved = [utf8 "e:p"] ∧ q.Once := by
  have hmoved : (run (Replay.step id (utf8 "op") ⟨utf8 "a", 60, [utf8 "p"], 2, true, 0⟩) (Replay.initial twoPending [])
      requestLost).map Replay.moved = some [utf8 "e:p"] := by decide +kernel
  obtain ⟨q, hrun, hmoved⟩ := map_eq_some_iff.mp hmoved
  refine ⟨q, hrun, hmoved, (claim_replay_once id (utf8 "op") _ twoPending [] ?_ requestLost q hrun).1 (by decide +kernel)⟩
  intro c hc
  cases hc

def replyLost : List ReplayAction :=
  callSending 3 (.lost true) ++ callSending 4 .answered

theorem claim_replay_claims_twice :
    ∃ q, run (Replay.step id (utf8 "op") ⟨utf8 "a", 60, [utf8 "p"], 2, true, 0⟩) (Replay.initial twoPending []) replyLost = some q ∧
      q.moved = [utf8 "f:p", utf8 "e:p"] ∧ ¬ q.Once := by
  have hmoved : (run (Replay.step id (utf8 "op") ⟨utf8 "a", 60, [utf8 "p"], 2, true, 0⟩) (Replay.initial twoPending [])
      replyLost).map Replay.moved = some [utf8 "f:p", utf8 "e:p"] := by decide +kernel
  obtain ⟨q, hrun, hmoved⟩ := map_eq_some_iff.mp hmoved
  refine ⟨q, hrun, hmoved, fun honce => ?_⟩
  have := honce.moved
  rw [hmoved] at this
  exact absurd this (by decide)

end Bookclerk.Events
