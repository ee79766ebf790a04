import Bookclerk.Events.Moves

namespace Bookclerk.Events

open Lexical Db Jobs

variable {ι : Type} [Fintype ι] [DecidableEq ι] {q q' : Outbox ι}

inductive HostMove (q : Outbox ι) (a : Action ι) (h : Nat) : Claim → Prop where
  | same (d : Claim) (hd : q.hosts h = some d) : HostMove q a h d
  | opened (args : ClaimArgs) (left : List Delivery) (action : a = .openHost h args) : HostMove q a h ⟨args, .sanitize left⟩
  | advance (d : Claim) (p : ClaimPhase) (b : Bool) (now : Stamp) (action : a = .host h b now) (hd : q.hosts h = some d)
      (hp : Advance q.store.table.rows d.args d.phase p) : HostMove q a h ⟨d.args, p⟩
  | done (d : Claim) (m : Delivery) (page : Page) (hd : q.hosts h = some d) (phase : d.phase = .passed m page) :
      HostMove q a h ⟨d.args, .done (some m)⟩

omit [Fintype ι] [DecidableEq ι] in
lemma hostMove_update {a : Action ι} {h n : Nat} {c : Option Claim} {d : Claim} (hnew : c = some d → HostMove q a h d)
    (hd : Function.update q.hosts h c n = some d) : HostMove q a n d := by
  by_cases hn : n = h
  · subst hn
    exact hnew (by simpa using hd)
  · rw [Function.update_of_ne hn] at hd
    exact .same d hd

lemma hostStep_hosts {h n : Nat} {b : Bool} {now : Stamp} {d' : Claim} (hs : hostStep q h b now = some q')
    (hd' : q'.hosts n = some d') : HostMove q (.host h b now) n d' := by
  obtain ⟨d, hd, hcase⟩ := hostStep_cases hs
  have hadvance : ∀ p, Advance q.store.table.rows d.args d.phase p →
      Function.update q.hosts h (some ⟨d.args, p⟩) n = some d' → HostMove q (.host h b now) n d' := by
    refine fun p hp => hostMove_update fun hc => ?_
    cases hc
    exact .advance d p b now rfl hd hp
  cases hcase with
  | advance p hp _ _ hhosts _ => exact hadvance p hp (hhosts ▸ hd')
  | cas m page hphase _ _ hhosts _ =>
    rw [hhosts] at hd'
    split_ifs at hd'
    · refine hostMove_update (fun hc => ?_) hd'
      cases hc
      exact .done d m page hd hphase
    · exact hadvance _ (hphase ▸ .lost m page) hd'

lemma cancelStep_hosts {j : Nat} {now : Stamp} (h : cancelStep q j now = some q') : q'.hosts = q.hosts := by
  obtain ⟨c, -, h⟩ := Option.bind_eq_some_iff.mp h
  cases hphase : c.phase with
  | round n =>
    cases n with
    | zero =>
      simp only [hphase] at h
      split_ifs at h <;> cases h <;> rfl
    | succ n =>
      simp only [hphase] at h
      split at h
      · cases h
        rfl
      · split_ifs at h <;> cases h <;> rfl
  | update n m =>
    simp only [hphase] at h
    obtain ⟨store, -, h⟩ := Option.bind_eq_some_iff.mp h
    split_ifs at h <;> cases h <;> rfl

lemma step_hosts {a : Action ι} {n : Nat} {d : Claim} (h : step q a = some q') (hd : q'.hosts n = some d) : HostMove q a n d := by
  cases a with
  | call c now =>
    rw [step] at h
    split at h
    · obtain ⟨store, -, rfl⟩ := Option.map_eq_some_iff.mp h
      exact .same d hd
    · cases h
      exact .same d hd
  | dispatch | openClaim | claim | rollback =>
    obtain ⟨store, -, rfl⟩ := Option.map_eq_some_iff.mp h
    exact .same d hd
  | retryDeadLetter id now =>
    obtain ⟨store, -, h⟩ := Option.bind_eq_some_iff.mp h
    cases h
    exact .same d hd
  | commit i =>
    obtain ⟨x, claimed, store, -, -, -, rfl⟩ := commitStep_eq_some h
    exact .same d hd
  | openHost h' args =>
    rw [step] at h
    split_ifs at h
    cases h
    refine hostMove_update (fun hc => ?_) hd
    cases hc
    exact .opened args _ rfl
  | host h' b now => exact hostStep_hosts h hd
  | dropHost h' =>
    cases h
    refine hostMove_update (fun hc => ?_) hd
    cases hc
  | openCancel j id =>
    rw [step] at h
    split_ifs at h
    cases h
    exact .same d hd
  | cancel j now =>
    rw [cancelStep_hosts h] at hd
    exact .same d hd

def Delivery.nextAttempt (m : Delivery) : Int :=
  if m.resumePending then max m.attemptCount 1 else m.attemptCount + 1

structure Seen (d : Claim) (r w : Delivery) : Prop where
  origin : w.toOrigin = r.toOrigin
  state : if d.phase.claimed.any (fun m => m.id = r.id) then r.state = .pending ∧ w.state = .running
    else w = r ∨ r.state = .pending ∧ w.state = .rejected
  count : w.attemptCount = ((d.phase.claimed.filter (·.id = r.id)).map Delivery.nextAttempt).getD r.attemptCount

def Listed (t : DeliveryTable) (m : Delivery) : Prop :=
  m.resourceClass = network ∧ ∃ r ∈ t.rows, r.toOrigin = m.toOrigin

def OriginsKept (t t' : DeliveryTable) : Prop :=
  ∀ r ∈ t.rows, ∃ r' ∈ t'.rows, r'.toOrigin = r.toOrigin

structure Base {ι : Type} (q : Outbox ι) : Prop where
  isolated : q.store.Isolated
  seen : q.store.Views Seen
  sessions : ∀ i x, q.store.session i = some x → ∀ m ∈ x.data.phase.candidates, Listed q.store.table m
  hosts : ∀ h d, q.hosts h = some d → ∀ m ∈ d.phase.candidates, Listed q.store.table m

lemma Listed.kept {t t' : DeliveryTable} {m : Delivery} (h : Listed t m) (ht : OriginsKept t t') : Listed t' m := by
  obtain ⟨hclass, r, hr, horigin⟩ := h
  obtain ⟨r', hr', horigin'⟩ := ht r hr
  exact ⟨hclass, r', hr', horigin'.trans horigin⟩

lemma Listed.origin {t : DeliveryTable} {m r : Delivery} (h : Listed t m) (hr : r ∈ t.rows) (hid : r.id = m.id) :
    r.toOrigin = m.toOrigin := by
  obtain ⟨-, r', hr', horigin⟩ := h
  obtain rfl : r = r' := t.eq_of_key hr hr' (hid.trans (congrArg Origin.id horigin).symm)
  exact horigin

lemma OriginsKept.refl (t : DeliveryTable) : OriginsKept t t :=
  fun r hr => ⟨r, hr, rfl⟩

lemma originsKept_modify {t : DeliveryTable} {f : Delivery → Delivery} (hf : ∀ r, (f r).key = r.key)
    (horigin : ∀ r ∈ t.rows, (f r).toOrigin = r.toOrigin) : OriginsKept t (t.modify f hf) :=
  fun r hr => ⟨f r, (Table.mem_modify hf).mpr ⟨r, hr, rfl⟩, horigin r hr⟩

namespace Seen

variable {d d' : Claim} {r r' w : Delivery}

lemma count_of_not_any {claimed : Option Delivery} (h : ¬ claimed.any (fun m => m.id = r.id) = true) :
    ((claimed.filter (·.id = r.id)).map Delivery.nextAttempt).getD r.attemptCount = r.attemptCount := by
  cases claimed with
  | none => rfl
  | some m =>
    have hid : ¬ decide (m.id = r.id) = true := h
    rw [Option.filter_some, if_neg hid]
    rfl

lemma transfer (h : Seen d r r) (hkey : r'.key = r.key) : Seen d r' r' := by
  have hid : r'.id = r.id := hkey
  have hstate := h.state
  rw [← hid] at hstate
  split_ifs at hstate with hany
  · rw [hstate.1] at hstate
    cases hstate.2
  · exact ⟨rfl, by rw [if_neg hany]; exact Or.inl rfl, (count_of_not_any hany).symm⟩

section

variable (h : Seen d r w) (hd : d.phase.claimed = none)
include h hd

lemma of_not_claimed (hd' : d'.phase.claimed = none) : Seen d' r w := by
  have hstate := h.state
  have hcount := h.count
  rw [hd] at hstate hcount
  exact ⟨h.origin, by rwa [hd'], by rwa [hd']⟩

lemma unclaimed : w = r ∨ r.state = .pending ∧ w.state = .rejected := by
  have hstate := h.state
  simpa only [hd, Option.any_none, Bool.false_eq_true, if_false] using hstate

lemma eq_of_pending (hw : w.state = .pending) : w = r := by
  rcases h.unclaimed hd with heq | ⟨-, hrej⟩
  · exact heq
  · rw [hw] at hrej
    cases hrej

lemma running_iff : w.state = .running ↔ r.state = .running := by
  rcases h.unclaimed hd with rfl | ⟨hpend, hrej⟩
  · exact Iff.rfl
  · simp [hpend, hrej]

end

end Seen

variable {ι : Type} {q : Outbox ι}

lemma Base.view_origin (h : Base q) {i : ι} {x : ClaimTxn} (hx : q.store.session i = some x) {r : Delivery}
    (hr : r ∈ q.store.table.rows) : (x.view Delivery.key r).toOrigin = r.toOrigin :=
  (h.seen i x hx r hr).origin

lemma Base.seen_claim (h : Base q) {i : ι} {x x' : ClaimTxn} (hx : q.store.session i = some x) (hm : ClaimMove q.store i x x') :
    ∀ r ∈ q.store.table.rows, Seen x'.data r (x'.view Delivery.key r) := by
  intro r hr
  have hseen := h.seen i x hx r hr
  cases hm with
  | advance p hp => exact hseen.of_not_claimed hp.not_claimed.1 hp.not_claimed.2
  | lock m page hphase _ => exact hseen.of_not_claimed (by rw [hphase]; rfl) rfl
  | reject m left r₀ hphase hr₀ hpend =>
    have hopen : x.data.phase.claimed = none := by rw [hphase]; rfl
    have hwrites : (⟨x.slots, (rejectUnknownClass m x.data.args.now).set (x.view Delivery.key r₀) :: x.writes, x.data.args,
        .sanitize left⟩ : ClaimTxn).writes = (rejectUnknownClass m x.data.args.now).set (x.view Delivery.key r₀) :: x.writes := rfl
    rcases Txn.view_write hr₀ hr hwrites with ⟨rfl, hview⟩ | ⟨-, hview⟩
    · have heq := hseen.eq_of_pending hopen hpend
      rw [hview, heq]
      rw [heq] at hpend
      exact ⟨rfl, Or.inr ⟨hpend, rfl⟩, rfl⟩
    · rw [hview]
      exact hseen.of_not_claimed hopen rfl
  | claim m page r₀ owner leaseExpires now hphase hr₀ hid hpend =>
    have hopen : x.data.phase.claimed = none := by rw [hphase]; rfl
    have hwrites : (⟨x.slots, (claimDelivery m owner leaseExpires now).set (x.view Delivery.key r₀) :: x.writes, x.data.args,
        .done (some m)⟩ : ClaimTxn).writes = (claimDelivery m owner leaseExpires now).set (x.view Delivery.key r₀) :: x.writes := rfl
    rcases Txn.view_write hr₀ hr hwrites with ⟨rfl, hview⟩ | ⟨hne, hview⟩
    · have heq := hseen.eq_of_pending hopen hpend
      rw [hview, heq]
      rw [heq] at hpend
      refine ⟨rfl, ?_, ?_⟩
      · rw [if_pos (by simp [ClaimPhase.claimed, hid])]
        exact ⟨hpend, rfl⟩
      · rw [ClaimPhase.claimed, Option.filter_some, if_pos (decide_eq_true hid.symm)]
        rfl
    · rw [hview]
      have hcount := hseen.count
      have hmid : ¬ (some m).any (fun m => m.id = r.id) = true := by
        have hid : m.id ≠ r.id := fun heq => hne (hid.trans heq)
        simpa using hid
      rw [hopen] at hcount
      exact ⟨hseen.origin, by rw [ClaimPhase.claimed, if_neg hmid]; exact hseen.unclaimed hopen,
        hcount.trans (Seen.count_of_not_any hmid).symm⟩

lemma Base.listed_claim (h : Base q) {i : ι} {x x' : ClaimTxn} (hx : q.store.session i = some x) (hm : ClaimMove q.store i x x') :
    ∀ m ∈ x'.data.phase.candidates, Listed q.store.table m := by
  intro m hmem
  rcases hm.mem_candidates hmem with hmem | ⟨-, hclass, r, hr, rfl⟩
  · exact h.sessions i x hx m hmem
  · exact ⟨hclass, r, hr, (h.view_origin hx hr).symm⟩

end Bookclerk.Events

namespace Bookclerk.Events

open Lexical Db Jobs

variable {ι : Type} [Fintype ι] [DecidableEq ι] {q q' : Outbox ι} {s' : OutboxStore ι} {a : Action ι}

lemma Base.originsKept (h : Base q) (hm : StoreMove q a s') : OriginsKept q.store.table s'.table := by
  have hexec : ∀ (stmt : DeliveryStmt) (s' : OutboxStore ι), q.store.exec stmt.toStmt = some s' →
      OriginsKept q.store.table s'.table := by
    intro stmt s' hs
    obtain ⟨-, rfl⟩ := Store.exec_eq_some.mp hs
    exact originsKept_modify stmt.key_row fun r _ => stmt.origin_row r
  cases hm with
  | same | claim | rollback => exact OriginsKept.refl _
  | exec stmt _ hs => exact hexec stmt s' hs
  | revive hs | cas d m page _ _ _ hs => exact hexec _ s' hs
  | insert hs =>
    rw [Store.insert] at hs
    split_ifs at hs
    cases hs
    exact fun r hr => ⟨r, List.mem_cons_of_mem _ hr, rfl⟩
  | start left hs =>
    rw [Store.start] at hs
    split_ifs at hs
    cases hs
    exact OriginsKept.refl _
  | commit hs =>
    obtain ⟨x, hx, hs⟩ := Option.bind_eq_some_iff.mp hs
    cases hs
    exact originsKept_modify x.key_view fun r hr => h.view_origin hx hr

lemma isolated_claimStep {s s' : OutboxStore ι} {i : ι} {b : Bool} (h : s.Isolated) (hs : claimStep s i b = some s') : s'.Isolated := by
  obtain ⟨x, -, hs⟩ := Option.bind_eq_some_iff.mp hs
  dsimp only at hs
  split at hs
  · exact h.execIn hs
  · exact h.setData hs
  · exact h.setData hs
  · exact h.setData hs
  · exact h.setData hs
  · exact h.lock hs
  · exact h.setData hs
  · exact h.execIn hs
  · cases hs

lemma Base.isolated_move (h : Base q) (hm : StoreMove q a s') : s'.Isolated := by
  cases hm with
  | same => exact h.isolated
  | exec stmt _ hs | revive hs | cas d m page _ _ _ hs => exact h.isolated.exec hs
  | insert hs => exact h.isolated.insert hs
  | start left hs => exact h.isolated.start hs
  | claim x x' hx hmove hs => exact isolated_claimStep h.isolated hs
  | commit hs => exact h.isolated.commit hs
  | rollback => exact h.isolated.drop _

lemma Base.seen_move (h : Base q) (hm : StoreMove q a s') : s'.Views Seen := by
  have htransfer : ∀ d r r', r'.key = r.key → Seen d r r → Seen d r' r' := fun _ _ _ hkey hs => hs.transfer hkey
  cases hm with
  | same => exact h.seen
  | exec stmt _ hs | revive hs | cas d m page _ _ _ hs => exact h.seen.exec htransfer hs
  | @insert eventId pluginId orderingKey now _ hs =>
    refine h.seen.insert h.isolated (fun i x hx => ?_) hs
    -- a claimed candidate is in the table, so it is not the new row
    have hnew : ¬ x.data.phase.claimed.any (fun m => m.id = (newDelivery eventId pluginId orderingKey now).id) = true := by
      intro hclaimed
      obtain ⟨m, hm, hid⟩ := (Option.any_eq_true ..).mp hclaimed
      have hchosen := ClaimPhase.chosen_of_slotted (ClaimPhase.slotted_of_counted (ClaimPhase.counted_of_claimed hm))
      obtain ⟨-, r, hr, horigin⟩ := h.sessions i x hx m (ClaimPhase.mem_candidates_of_chosen hchosen)
      rw [Store.insert] at hs
      split_ifs at hs with hfresh
      refine hfresh (List.mem_map.mpr ⟨r, hr, ?_⟩)
      exact (congrArg Origin.id horigin).trans (of_decide_eq_true hid)
    exact ⟨rfl, by rw [if_neg hnew]; exact Or.inl rfl, (Seen.count_of_not_any hnew).symm⟩
  | start left hs =>
    rw [Store.start] at hs
    split_ifs at hs
    cases hs
    exact h.seen.put fun r hr => ⟨rfl, Or.inl rfl, rfl⟩
  | claim x x' hx hmove hs => exact h.seen.put (h.seen_claim hx hmove)
  | commit hs => exact h.seen.commit htransfer h.isolated hs
  | rollback => exact h.seen.drop _

lemma session_move (hm : StoreMove q a s') {i : ι} {x' : ClaimTxn}
    (hx' : s'.session i = some x') :
    q.store.session i = some x' ∨ (∃ args left, a = .openClaim i args ∧ x' = ⟨[], [], args, .sanitize left⟩) ∨
      ∃ x b, a = .claim i b ∧ q.store.session i = some x ∧ ClaimMove q.store i x x' ∧ s'.table = q.store.table := by
  cases hm with
  | same => exact Or.inl hx'
  | exec stmt _ hs | revive hs | cas d m page _ _ _ hs =>
    obtain ⟨-, rfl⟩ := Store.exec_eq_some.mp hs
    exact Or.inl hx'
  | insert hs =>
    rw [Store.insert] at hs
    split_ifs at hs
    cases hs
    exact Or.inl hx'
  | @start j args _ left hs =>
    rw [Store.start] at hs
    split_ifs at hs
    cases hs
    rcases Store.session_put_cases hx' with ⟨rfl, hx⟩ | ⟨-, hx⟩
    · cases hx
      exact Or.inr (Or.inl ⟨args, left, rfl, rfl⟩)
    · exact Or.inl hx
  | @claim j b x y hx hmove hs =>
    rcases Store.session_put_cases hx' with ⟨rfl, hy⟩ | ⟨-, hy⟩
    · cases hy
      exact Or.inr (Or.inr ⟨x, b, rfl, hx, hmove, rfl⟩)
    · exact Or.inl hy
  | @commit j _ hs =>
    obtain ⟨x, -, hs⟩ := Option.bind_eq_some_iff.mp hs
    cases hs
    rcases Store.session_put_cases (show (q.store.put j none).session i = some x' from hx') with ⟨-, hx⟩ | ⟨-, hx⟩
    · cases hx
    · exact Or.inl hx
  | rollback =>
    rcases Store.session_put_cases hx' with ⟨-, hx⟩ | ⟨-, hx⟩
    · cases hx
    · exact Or.inl hx

lemma Base.step (h : Base q) (hs : step q a = some q') : Base q' := by
  have hm := step_move hs
  have hkept := h.originsKept hm
  refine ⟨h.isolated_move hm, h.seen_move hm, fun i x' hx' m hmem => ?_, fun n d' hd' m hmem => ?_⟩
  · rcases session_move hm hx' with hx | ⟨args, left, -, rfl⟩ | ⟨x, b, -, hx, hmove, -⟩
    · exact (h.sessions i x' hx m hmem).kept hkept
    · cases hmem
    · exact (h.listed_claim hx hmove m hmem).kept hkept
  · cases step_hosts hs hd' with
    | same _ hd => exact (h.hosts n d' hd m hmem).kept hkept
    | opened => cases hmem
    | advance d p b now _ hd hp =>
      rcases hp.mem_candidates hmem with hmem | ⟨hrow, hclass⟩
      · exact (h.hosts n d hd m hmem).kept hkept
      · exact Listed.kept ⟨hclass, m, hrow, rfl⟩ hkept
    | done d m' page hd hphase =>
      refine (h.hosts n d hd m ?_).kept hkept
      rw [hphase]
      exact List.mem_cons.mpr (Or.inl (List.mem_singleton.mp hmem))

omit [Fintype ι] [DecidableEq ι] in
lemma Base.initial (table : DeliveryTable) : Base (Outbox.initial table : Outbox ι) where
  isolated := ⟨fun _ _ _ _ _ hx => absurd hx (Option.some_ne_none _).symm, fun _ _ _ _ _ hx => absurd hx (Option.some_ne_none _).symm,
    fun _ _ _ hx => absurd hx (Option.some_ne_none _).symm⟩
  seen _ _ hx := absurd hx (Option.some_ne_none _).symm
  sessions _ _ hx := absurd hx (Option.some_ne_none _).symm
  hosts _ _ hd := absurd hd (Option.some_ne_none _).symm

end Bookclerk.Events
