import Bookclerk.Named.Consume

namespace Bookclerk.Named

open Lexical Jobs Bookclerk.System List Option Function

variable {ι : Type} {digest : Take → Text} {row : ConsumeRow} {s s' : ConsumeState ι}

def handedOut (row : ConsumeRow) (s : ConsumeState ι) : Nat :=
  s.log.countP fun e => e.take = row.take && e.returned.isSome

def NotReplayed (row : ConsumeRow) (s : ConsumeState ι) : ConsumeStep ι → Prop
  | .finish call => ∀ c, s.calls call = some c → c.take = row.take →
      ∀ r, answer c.take c.prior s.receipts = some r → r.status ≠ .ok
  | _ => True

def Seen (row : ConsumeRow) (s : ConsumeState ι) (r : AtomicReceipt Taken) : Prop :=
  (r ∈ s.receipts ∧ r.operationId = row.take.operationId) ∨
    ∃ call c, s.calls call = some c ∧ c.take = row.take ∧ c.prior = some r

structure Known (digest : Take → Text) (row : ConsumeRow) (s : ConsumeState ι) : Prop where
  written : ∀ r, Seen row s r → WrittenBy digest row.take r
  counted : ∀ r, Seen row s r → r.status = .ok → 1 ≤ handedOut row s
  gone : ∀ r, Seen row s r → ∀ d ∈ s.rows, d.take ≠ row.take
  keyed : ∀ r ∈ s.receipts, r.consumeKey = some row.take.consumeKey → r.operationId = row.take.operationId

lemma seen_of_answer {call : ι} {c : OpenTake} {r : AtomicReceipt Taken} (hc : s.calls call = some c) (htake : c.take = row.take)
    (h : answer c.take c.prior s.receipts = some r) : Seen row s r := by
  rw [answer] at h
  cases hprior : c.prior with
  | some r' =>
    obtain rfl : r' = r := by simpa [hprior] using h
    exact .inr ⟨call, c, hc, htake, hprior⟩
  | none =>
    obtain ⟨hmem, hid⟩ := selectReceipt_eq_some (by simpa [hprior] using h)
    exact .inl ⟨hmem, by rw [hid, htake]⟩

lemma Known.mono (h : Known digest row s)
    (hreceipts : ∀ r ∈ s'.receipts, r ∈ s.receipts ∨ (r.operationId ≠ row.take.operationId ∧ r.consumeKey ≠ some row.take.consumeKey))
    (hrows : ∀ d ∈ s'.rows, d ∈ s.rows ∨ d.take ≠ row.take)
    (hcalls : ∀ call c, s'.calls call = some c → s.calls call = some c ∨ c.prior = selectReceipt c.take.operationId s.receipts)
    (hcount : handedOut row s ≤ handedOut row s') : Known digest row s' := by
  have hseen : ∀ r, Seen row s' r → Seen row s r := by
    rintro r (⟨hr, hid⟩ | ⟨call, c, hc, htake, hprior⟩)
    · exact .inl ⟨(hreceipts r hr).resolve_right fun hne => hne.1 hid, hid⟩
    · rcases hcalls call c hc with hc | hc
      · exact .inr ⟨call, c, hc, htake, hprior⟩
      · obtain ⟨hmem, hid⟩ := selectReceipt_eq_some (hc.symm.trans hprior)
        exact .inl ⟨hmem, by rw [hid, htake]⟩
  refine ⟨fun r hr => h.written r (hseen r hr), fun r hr hok => (h.counted r (hseen r hr) hok).trans hcount, ?_, ?_⟩
  · intro r hr d hd
    rcases hrows d hd with hd | hne
    · exact h.gone r (hseen r hr) d hd
    · exact hne
  · intro r hr hkey
    rcases hreceipts r hr with hr | hne
    · exact h.keyed r hr hkey
    · exact absurd hkey hne.2

lemma handedOut_cons (e : TakeEntry) (receipts : Receipts Taken) (rows : List ConsumeRow) (calls : ι → Option OpenTake)
    (log : List TakeEntry) :
    handedOut row ⟨receipts, rows, calls, e :: log⟩ =
      handedOut row ⟨receipts, rows, calls, log⟩ + if e.take = row.take ∧ e.returned.isSome = true then 1 else 0 := by
  simp [handedOut, countP_cons]

section Finish

variable {call : ι} {c : OpenTake}

section

variable (h : Known digest row s) (hc : s.calls call = some c) (htake : c.take = row.take)
include h hc htake

lemma Known.gone_finish :
    ∀ d ∈ (wrapConsume digest c.take c.now c.prior s.receipts s.rows).rows, d.take ≠ row.take := by
  cases hanswer : answer c.take c.prior s.receipts with
  | some r => exact fun d hd => h.gone r (seen_of_answer hc htake hanswer) d (rows_wrapConsume_subset c.prior hd)
  | none =>
    cases hfind : s.rows.find? fun d => d.take = c.take with
    | none =>
      intro d hd
      rw [← htake]
      simpa using List.find?_eq_none.mp hfind d (rows_wrapConsume_subset c.prior hd)
    | some d =>
      rw [← htake]
      exact (wrapConsume_of_row hanswer (by rw [htake]; exact h.keyed) hfind).2

lemma Known.returned_of_row {d : ConsumeRow}
    (hfind : s.rows.find? (fun d => d.take = c.take) = some d) :
    TakeEntry.returned ⟨c.take, c.now, takeResult (wrapConsume digest c.take c.now c.prior s.receipts s.rows).result⟩ =
      if d.expiresAt ≤ c.now then none else some d.taken := by
  have hanswer : answer c.take c.prior s.receipts = none := by
    by_contra hsome
    obtain ⟨r, hr⟩ := ne_none_iff_exists'.mp hsome
    refine h.gone r (seen_of_answer hc htake hr) d (List.mem_of_find?_eq_some hfind) ?_
    rw [← htake]
    simpa using List.find?_some hfind
  exact (wrapConsume_of_row hanswer (by rw [htake]; exact h.keyed) hfind).1

end

end Finish

section Steps

variable [DecidableEq ι]

lemma calls_update_none {call call' : ι} {c : OpenTake} (h : Function.update s.calls call none call' = some c) :
    s.calls call' = some c := by
  by_cases hc : call' = call
  · subst hc
    simp at h
  · rwa [update_of_ne hc] at h

lemma handedOut_finishTake (call : ι) (c : OpenTake) :
    handedOut row (finishTake digest s call c) = handedOut row s + if c.take = row.take ∧ (TakeEntry.returned ⟨c.take, c.now,
      takeResult (wrapConsume digest c.take c.now c.prior s.receipts s.rows).result⟩).isSome = true then 1 else 0 :=
  handedOut_cons _ _ _ _ _

lemma Known.finish {call : ι} {c : OpenTake} (h : Known digest row s) (hc : s.calls call = some c) :
    Known digest row (finishTake digest s call c) := by
  have hcount : handedOut row s ≤ handedOut row (finishTake digest s call c) := by
    rw [handedOut_finishTake]
    exact Nat.le_add_right ..
  by_cases htake : c.take = row.take
  · have hgone := h.gone_finish hc htake
    -- a receipt seen now was seen before, or is the one that this call has written
    have hseen : ∀ r, Seen row (finishTake digest s call c) r → Seen row s r ∨ r = notConsumed digest c.take c.now ∨
        ∃ d, s.rows.find? (fun d => d.take = c.take) = some d ∧ r = consumed digest c.take c.now d := by
      rintro r (⟨hr, hid⟩ | ⟨call', c', hc', htake', hprior⟩)
      · exact (mem_wrapConsume c.prior hr).imp_left fun hr => .inl ⟨hr, hid⟩
      · exact .inl (.inr ⟨call', c', calls_update_none hc', htake', hprior⟩)
    refine ⟨fun r hr => ?_, fun r hr hok => ?_, fun r hr => hgone, fun r hr hkey => ?_⟩
    · rcases hseen r hr with hr | rfl | ⟨d, -, rfl⟩
      · exact h.written r hr
      · exact htake ▸ writtenBy_notConsumed c.take c.now
      · exact htake ▸ writtenBy_consumed c.take c.now d
    · rcases hseen r hr with hr | rfl | ⟨d, hfind, rfl⟩
      · exact (h.counted r hr hok).trans hcount
      · exact absurd hok (by simp [notConsumed])
      · have hlive : ¬ d.expiresAt ≤ c.now := by
          intro hexp
          simp [consumed, hexp] at hok
        rw [handedOut_finishTake, if_pos ⟨htake, by rw [h.returned_of_row hc htake hfind, if_neg hlive]; rfl⟩]
        exact Nat.le_add_left 1 _
    · rcases mem_wrapConsume c.prior hr with hr | rfl | ⟨d, -, rfl⟩
      · exact h.keyed r hr hkey
      · exact absurd hkey (by simp [notConsumed])
      · exact congrArg Take.operationId htake
  · refine h.mono (fun r hr => ?_) (fun d hd => ?_) (fun call' c' hc' => ?_) hcount
    · have hid : c.take.operationId ≠ row.take.operationId := fun hid => htake (Take.operationId_injective hid)
      rcases mem_wrapConsume c.prior hr with hr | rfl | ⟨d, -, rfl⟩
      · exact .inl hr
      · exact .inr ⟨hid, by simp [notConsumed]⟩
      · exact .inr ⟨hid, fun hkey => htake (Take.consumeKey_injective (some.inj hkey))⟩
    · exact .inl (rows_wrapConsume_subset c.prior hd)
    · exact .inl (calls_update_none hc')

lemma mem_insertRow {d r : ConsumeRow} {now : Stamp} {rows : List ConsumeRow} (h : d ∈ insertRow r now rows) : d ∈ rows ∨ d = r := by
  rw [insertRow] at h
  split_ifs at h
  · exact .inl (mem_of_mem_filter h)
  · exact .inl (mem_of_mem_filter h)
  · rcases mem_append.mp h with h | h
    · exact .inl (mem_of_mem_filter h)
    · exact .inr (mem_singleton.mp h)

def NotStoredAgain (row : ConsumeRow) : ConsumeStep ι → Prop
  | .insertRow r _ => r.take ≠ row.take
  | _ => True

structure Quiet (row : ConsumeRow) (s s' : ConsumeState ι) : Prop where
  receipts : ∀ r ∈ s'.receipts, r ∈ s.receipts ∨ (r.operationId ≠ row.take.operationId ∧ r.consumeKey ≠ some row.take.consumeKey)
  rows : ∀ d ∈ s'.rows, d ∈ s.rows ∨ d.take ≠ row.take
  calls : ∀ call c, s'.calls call = some c → s.calls call = some c ∨ c.prior = selectReceipt c.take.operationId s.receipts
  log : s'.log = s.log

variable {a : ConsumeStep ι}

lemma quiet_or_finish (hnew : NotStoredAgain row a) (h : consumeStep digest s a = some s') :
    Quiet row s s' ∨ ∃ call c, a = .finish call ∧ s.calls call = some c ∧ s' = finishTake digest s call c := by
  cases a with
  | begin call take now =>
    rw [consumeStep] at h
    split_ifs at h
    cases h
    refine .inl ⟨fun r hr => .inl hr, fun d hd => .inl hd, fun call' c hc => ?_, rfl⟩
    by_cases hcall : call' = call
    · subst hcall
      dsimp only at hc
      rw [update_self] at hc
      cases hc
      exact .inr rfl
    · dsimp only at hc
      rw [update_of_ne hcall] at hc
      exact .inl hc
  | finish call =>
    obtain ⟨c, hc, rfl⟩ := map_eq_some_iff.mp h
    exact .inr ⟨call, c, rfl, hc, rfl⟩
  | abort call =>
    cases h
    exact .inl ⟨fun r hr => .inl hr, fun d hd => .inl hd, fun call' c hc => .inl (calls_update_none hc), rfl⟩
  | operation receipt now =>
    rw [consumeStep] at h
    split_ifs at h with hother
    cases h
    refine .inl ⟨fun r hr => ?_, fun d hd => .inl hd, fun call' c hc => .inl hc, rfl⟩
    rcases mem_insertReceipt hr with hr | rfl
    · exact .inl (mem_of_mem_prune hr)
    · refine .inr ⟨fun hid => hother ?_, fun hkey => hother ?_⟩
      · simp [hid, isTakeId_operationId]
      · simp [hkey]
  | insertRow r now =>
    cases h
    refine .inl ⟨fun r hr => .inl hr, fun d hd => ?_, fun call' c hc => .inl hc, rfl⟩
    rcases mem_insertRow hd with hd | rfl
    · exact .inl hd
    · exact .inr hnew
  | pruneExpired table now | deleteUser userId =>
    cases h
    exact .inl ⟨fun r hr => .inl hr, fun d hd => .inl (mem_of_mem_filter hd), fun call' c hc => .inl hc, rfl⟩

omit [DecidableEq ι] in
lemma Quiet.handedOut (h : Quiet row s s') : handedOut row s' = handedOut row s := by
  rw [Named.handedOut, h.log, Named.handedOut]

lemma Known.step (hk : Known digest row s) (hnew : NotStoredAgain row a) (h : consumeStep digest s a = some s') : Known digest row s' := by
  rcases quiet_or_finish hnew h with hq | ⟨call, c, -, hc, rfl⟩
  · exact hk.mono hq.receipts hq.rows hq.calls hq.handedOut.ge
  · exact hk.finish hc

lemma handedOut_mono (hnew : NotStoredAgain row a) (h : consumeStep digest s a = some s') : handedOut row s ≤ handedOut row s' := by
  rcases quiet_or_finish hnew h with hq | ⟨call, c, -, -, rfl⟩
  · exact hq.handedOut.ge
  · rw [handedOut_finishTake]
    exact Nat.le_add_right _ _

lemma handedOut_of_replayed (hk : Known digest row s) (hreplay : ¬ NotReplayed row s a)
    (h : consumeStep digest s a = some s') : 2 ≤ handedOut row s' := by
  cases a with
  | finish call =>
    simp only [NotReplayed, not_forall, not_not] at hreplay
    obtain ⟨c, hc, htake, r, hanswer, hok⟩ := hreplay
    obtain ⟨c', hc', rfl⟩ := map_eq_some_iff.mp h
    obtain rfl := mem_unique hc hc'
    have hseen := seen_of_answer hc htake hanswer
    have hwritten : WrittenBy digest c.take r := htake ▸ hk.written r hseen
    rw [handedOut_finishTake, if_pos ⟨htake, by rw [returned_of_answer hanswer hwritten, if_pos hok]; exact hwritten.payload hok⟩]
    have := hk.counted r hseen hok
    omega
  | _ => exact absurd trivial hreplay

end Steps

structure SingleUse (row : ConsumeRow) (s : ConsumeState ι) : Prop where
  once : handedOut row s ≤ 1
  unexpired : ∀ e ∈ s.log, e.take = row.take → row.expiresAt < e.now → e.returned = none
  codes : ∀ enrolled : Int → Bool, (s.log.countP fun e => e.take = row.take && e.testsCode enrolled) ≤ 1

structure Untouched (row : ConsumeRow) (s : ConsumeState ι) : Prop where
  stored : row ∈ s.rows
  unique : ∀ d ∈ s.rows, d.take = row.take → d = row
  noReceipt : ∀ r ∈ s.receipts, r.operationId ≠ row.take.operationId ∧ r.consumeKey ≠ some row.take.consumeKey
  idle : ∀ call, s.calls call = none
  log : s.log = []

lemma Untouched.known (h : Untouched row s) : Known digest row s := by
  have hseen : ∀ r, ¬ Seen row s r := by
    rintro r (⟨hr, hid⟩ | ⟨call, c, hc, -⟩)
    · exact (h.noReceipt r hr).1 hid
    · simp [h.idle call] at hc
  exact ⟨fun r hr => absurd hr (hseen r), fun r hr => absurd hr (hseen r), fun r hr => absurd hr (hseen r),
    fun r hr hkey => absurd hkey (h.noReceipt r hr).2⟩

structure Once (digest : Take → Text) (row : ConsumeRow) (s : ConsumeState ι) : Prop where
  known : Known digest row s
  unique : ∀ d ∈ s.rows, d.take = row.take → d = row
  once : handedOut row s ≤ 1
  spent : 1 ≤ handedOut row s → ∀ d ∈ s.rows, d.take ≠ row.take
  unexpired : ∀ e ∈ s.log, e.take = row.take → row.expiresAt < e.now → e.returned = none

lemma Untouched.once (h : Untouched row s) : Once digest row s where
  known := h.known
  unique := h.unique
  once := by simp [handedOut, h.log]
  spent hpos := by simp [handedOut, h.log] at hpos
  unexpired e he := by simp [h.log] at he

lemma Once.returned {call : ι} {c : OpenTake} (h : Once digest row s) (hc : s.calls call = some c) (htake : c.take = row.take)
    (hfresh : ∀ r, answer c.take c.prior s.receipts = some r → r.status ≠ .ok)
    (hsome : (TakeEntry.returned ⟨c.take, c.now,
      takeResult (wrapConsume digest c.take c.now c.prior s.receipts s.rows).result⟩).isSome = true) :
    handedOut row s = 0 ∧ c.now < row.expiresAt := by
  cases hanswer : answer c.take c.prior s.receipts with
  | some r =>
    have hwritten : WrittenBy digest c.take r := htake ▸ h.known.written r (seen_of_answer hc htake hanswer)
    rw [returned_of_answer hanswer hwritten, if_neg (hfresh r hanswer)] at hsome
    exact absurd hsome (by simp)
  | none =>
    cases hfind : s.rows.find? fun d => d.take = c.take with
    | none =>
      rw [returned_of_absent hanswer hfind] at hsome
      exact absurd hsome (by simp)
    | some d =>
      have hd : d ∈ s.rows ∧ d.take = row.take :=
        ⟨List.mem_of_find?_eq_some hfind, by rw [← htake]; simpa using List.find?_some hfind⟩
      obtain rfl := h.unique d hd.1 hd.2
      rw [h.known.returned_of_row hc htake hfind] at hsome
      refine ⟨?_, ?_⟩
      · by_contra hne
        exact h.spent (Nat.one_le_iff_ne_zero.mpr hne) d hd.1 hd.2
      · by_contra hexp
        rw [if_pos (not_lt.mp hexp)] at hsome
        exact absurd hsome (by simp)

section Steps

variable [DecidableEq ι]

lemma Once.finish {call : ι} {c : OpenTake} (h : Once digest row s) (hc : s.calls call = some c)
    (hfresh : c.take = row.take → ∀ r, answer c.take c.prior s.receipts = some r → r.status ≠ .ok) :
    Once digest row (finishTake digest s call c) where
  known := h.known.finish hc
  unique d hd := h.unique d (rows_wrapConsume_subset c.prior hd)
  once := by
    rw [handedOut_finishTake]
    split_ifs with hout
    · have := (h.returned hc hout.1 (hfresh hout.1) hout.2).1
      omega
    · simpa using h.once
  spent hpos d hd := by
    by_cases htake : c.take = row.take
    · exact h.known.gone_finish hc htake d hd
    · rw [handedOut_finishTake, if_neg fun hout => htake hout.1] at hpos
      exact h.spent hpos d (rows_wrapConsume_subset c.prior hd)
  unexpired e he htake hlate := by
    rcases mem_cons.mp he with rfl | he
    · by_contra hsome
      have hlive := (h.returned hc htake (hfresh htake) (isSome_iff_ne_none.mpr hsome)).2
      exact absurd hlate (not_lt.mpr hlive.le)
    · exact h.unexpired e he htake hlate

lemma Once.step {a : ConsumeStep ι} (h : Once digest row s) (hstep : NotReplayed row s a ∧ NotStoredAgain row a)
    (hs : consumeStep digest s a = some s') : Once digest row s' := by
  rcases quiet_or_finish hstep.2 hs with hq | ⟨call, c, rfl, hc, rfl⟩
  · have hold : ∀ d ∈ s'.rows, d.take = row.take → d ∈ s.rows := fun d hd htake => (hq.rows d hd).resolve_right (not_not.mpr htake)
    refine ⟨h.known.step hstep.2 hs, fun d hd htake => h.unique d (hold d hd htake) htake, hq.handedOut.le.trans h.once, ?_, ?_⟩
    · intro hpos d hd htake
      exact h.spent (hq.handedOut ▸ hpos) d (hold d hd htake) htake
    · rw [hq.log]
      exact h.unexpired
  · exact h.finish hc (hstep.1 c hc)

omit [DecidableEq ι] in
lemma countP_testsCode_le (enrolled : Int → Bool) (s : ConsumeState ι) :
    (s.log.countP fun e => e.take = row.take && e.testsCode enrolled) ≤ handedOut row s := by
  refine countP_mono_left fun e _ h => ?_
  obtain ⟨htake, htest⟩ := Bool.and_eq_true_iff.mp h
  refine Bool.and_eq_true_iff.mpr ⟨htake, ?_⟩
  rw [TakeEntry.testsCode] at htest
  split at htest
  · rename_i heq
    rw [heq]
    rfl
  · exact absurd htest (by simp)

theorem single_use_iff (steps : List (ConsumeStep ι)) (hrow : Untouched row s) (hnew : ∀ a ∈ steps, NotStoredAgain row a)
    (hrun : run (consumeStep digest) s steps = some s') :
    SingleUse row s' ↔ EveryStep (consumeStep digest) (NotReplayed row) s steps := by
  have hnew : EveryStep (consumeStep digest) (fun _ a => NotStoredAgain row a) s steps :=
    everyStep_of_forall (fun a ha _ => hnew a ha) s
  constructor
  · intro huse
    refine EveryStep.of_not_bad (fun s a s' hk hq h => Known.step hk hq h)
      (fun s a s' hbad hq h => hbad.trans (handedOut_mono hq h)) (fun s a s' hk hp h => handedOut_of_replayed hk hp h)
      hrow.known hnew hrun (not_le.mpr (Nat.lt_succ_of_le huse.once))
  · intro hfresh
    have honce : Once digest row s' := by
      refine run_of_everyStep (fun s a s' h hp hs => Once.step h hp hs) hrow.once ?_ hrun
      exact EveryStep.and hfresh hnew
    exact ⟨honce.once, honce.unexpired, fun enrolled => (countP_testsCode_le enrolled s').trans honce.once⟩

end Steps

section Login

def totpChallenge : ConsumeRow :=
  .webauthnChallenge (utf8 "c") (some 7) .totpLogin (utf8 "\x7b\x7d") 300

def afterPassword : ConsumeState Nat :=
  ⟨[], [totpChallenge], fun _ => none, []⟩

def loginAt (call : Nat) (now : Stamp) : List (ConsumeStep Nat) :=
  [.begin call totpChallenge.take now, .finish call]

theorem single_use_iff_first_login :
    ∃ s', run (consumeStep Take.operationId) afterPassword (loginAt 0 10) = some s' ∧ SingleUse totpChallenge s' := by
  obtain ⟨s', hrun⟩ : ∃ s', run (consumeStep Take.operationId) afterPassword (loginAt 0 10) = some s' := ⟨_, rfl⟩
  refine ⟨s', hrun, (single_use_iff (loginAt 0 10) ⟨?_, ?_, ?_, fun _ => rfl, rfl⟩ ?_ hrun).mpr ?_⟩
  · exact mem_singleton_self _
  · intro d hd _
    exact mem_singleton.mp hd
  · exact fun r hr => absurd hr not_mem_nil
  · intro a ha
    rcases mem_pair.mp ha with rfl | rfl <;> trivial
  · refine ⟨trivial, fun s₁ h₁ => ⟨fun c hc _ r hr => ?_, fun _ _ => trivial⟩⟩
    cases h₁
    cases hc
    exact absurd hr.symm (some_ne_none r)

theorem totp_challenge_replays :
    Untouched totpChallenge afterPassword ∧
      (run (consumeStep Take.operationId) afterPassword (loginAt 0 10 ++ loginAt 1 20 ++ loginAt 2 301)).map
        (fun s => (handedOut totpChallenge s, s.log.map fun e => (e.now, e.returned.isSome, e.testsCode fun uid => uid = 7))) =
        some (3, [(301, true, true), (20, true, true), (10, true, true)]) := by
  refine ⟨⟨mem_singleton_self _, fun d hd _ => mem_singleton.mp hd, fun r hr => absurd hr not_mem_nil, fun _ => rfl, rfl⟩, ?_⟩
  decide +kernel

end Login

end Bookclerk.Named
