import Bookclerk.Login.Lockout

namespace Bookclerk.Login

open Str Bookclerk.System List Option

section History

variable (e : Event) (h : List Event) {client : Str}

lemma sinceClear_other (hne : e.call.client ≠ client) : sinceClear (e :: h) client = sinceClear h client := by
  rw [sinceClear, filter_cons_of_neg (by simpa using hne)]
  rfl

lemma sinceClear_clear (hop : e.call.op = .clear) : sinceClear (e :: h) e.call.client = [] := by
  rw [sinceClear, filter_cons_of_pos (by simp), takeWhile_cons_of_neg (by simp [hop])]

lemma sinceClear_own (hop : e.call.op ≠ .clear) : sinceClear (e :: h) e.call.client = e :: sinceClear h e.call.client := by
  rw [sinceClear, filter_cons_of_pos (by simp), takeWhile_cons_of_pos (by simpa using hop)]
  rfl

lemma times_other (hne : e.call.client ≠ client) :
    failureTimes (e :: h) client = failureTimes h client ∧ lockTimes (e :: h) client = lockTimes h client := by
  rw [failureTimes, lockTimes, sinceClear_other e h hne]
  exact ⟨rfl, rfl⟩

lemma times_clear (hop : e.call.op = .clear) : failureTimes (e :: h) e.call.client = [] ∧ lockTimes (e :: h) e.call.client = [] := by
  rw [failureTimes, lockTimes, sinceClear_clear e h hop]
  exact ⟨rfl, rfl⟩

lemma times_check (hop : e.call.op = .check) :
    failureTimes (e :: h) e.call.client = failureTimes h e.call.client ∧ lockTimes (e :: h) e.call.client = lockTimes h e.call.client := by
  rw [failureTimes, lockTimes, sinceClear_own e h (by rw [hop]; decide), filter_cons_of_neg (by simp [hop]),
    filter_cons_of_neg (by simp [hop])]
  exact ⟨rfl, rfl⟩

lemma times_failure (hop : e.call.op = .failure) :
    failureTimes (e :: h) e.call.client = e.call.time :: failureTimes h e.call.client ∧
      lockTimes (e :: h) e.call.client = if e.refused then e.call.time :: lockTimes h e.call.client else lockTimes h e.call.client := by
  rw [failureTimes, lockTimes, sinceClear_own e h (by rw [hop]; decide), filter_cons_of_pos (by simp [hop])]
  refine ⟨rfl, ?_⟩
  cases hrefused : e.refused with
  | true =>
    rw [filter_cons_of_pos (by simp [hop, hrefused])]
    rfl
  | false =>
    rw [filter_cons_of_neg (by simp [hrefused])]
    rfl

end History

def Inv (cfg : Settings) (s : State) : Prop :=
  ∀ client, ClientInv cfg s.clock (failureTimes s.history client) (lockTimes s.history client) (s.attempts client)

section Step

variable (cfg : Settings) (attempts : LoginAttempts) {call : Call}

lemma perform_other {client : Str} (hne : client ≠ call.client) :
    (perform cfg attempts call).2 client = pruneLoginAttempts cfg call.time attempts client ∨
      (perform cfg attempts call).2 client = attempts client := by
  cases hop : call.op with
  | check =>
    left
    simp only [perform, hop, loginThrottleCheck]
    split
    · rfl
    · split
      · rfl
      · split_ifs
        · rfl
        · exact if_neg hne
  | failure =>
    left
    simp only [perform, hop, recordLoginFailure]
    split_ifs
    · exact if_neg hne
    · exact if_neg hne
  | clear =>
    right
    simp only [perform, hop]
    exact if_neg hne

lemma perform_failure (hop : call.op = .failure) :
    let bucket := countingBucket cfg call.time (pruneLoginAttempts cfg call.time attempts call.client)
    let locked := decide (cfg.loginMaxFailures ≤ min (bucket.failures + 1) u32Max)
    (perform cfg attempts call).1.isSome = locked ∧
      (perform cfg attempts call).2 call.client = some { bucket with
        failures := min (bucket.failures + 1) u32Max
        lockedUntil := if locked then some (call.time + cfg.loginLockout) else bucket.lockedUntil } := by
  intro bucket locked
  simp only [perform, hop, recordLoginFailure]
  by_cases hmax : cfg.loginMaxFailures ≤ min (bucket.failures + 1) u32Max
  · rw [if_pos hmax]
    have hlocked : locked = true := decide_eq_true hmax
    rw [hlocked]
    exact ⟨rfl, if_pos rfl⟩
  · rw [if_neg hmax]
    have hlocked : locked = false := decide_eq_false hmax
    rw [hlocked]
    exact ⟨rfl, if_pos rfl⟩

lemma perform_check_refused (hop : call.op = .check) :
    (perform cfg attempts call).1.isSome ↔
      ∃ b ∈ pruneLoginAttempts cfg call.time attempts call.client, ∃ til ∈ b.lockedUntil, call.time < til := by
  simp only [perform, hop, loginThrottleCheck]
  cases hbucket : pruneLoginAttempts cfg call.time attempts call.client with
  | none => exact iff_of_false Bool.false_ne_true nofun
  | some b =>
    obtain ⟨failures, windowStart, lockedUntil⟩ := b
    cases lockedUntil with
    | none =>
      refine iff_of_false Bool.false_ne_true ?_
      rintro ⟨b, hb, til, htil, -⟩
      obtain rfl := some.inj hb
      cases htil
    | some til =>
      dsimp only
      split_ifs with hlt
      · exact iff_of_true rfl ⟨_, rfl, til, rfl, hlt⟩
      · refine iff_of_false Bool.false_ne_true ?_
        rintro ⟨b, hb, til', htil, hlt'⟩
        obtain rfl := some.inj hb
        obtain rfl := some.inj htil
        exact hlt hlt'

lemma perform_check_inv (hlockout : cfg.loginLockout = cfg.loginWindow) (hop : call.op = .check) {fails locks : List Nat}
    (h : ClientInv cfg call.time fails locks (pruneLoginAttempts cfg call.time attempts call.client)) :
    ClientInv cfg call.time fails locks ((perform cfg attempts call).2 call.client) := by
  simp only [perform, hop, loginThrottleCheck]
  cases hbucket : pruneLoginAttempts cfg call.time attempts call.client with
  | none => exact h
  | some b =>
    dsimp only
    rw [hbucket] at h
    cases htil : b.lockedUntil with
    | none =>
      dsimp only
      rwa [hbucket]
    | some til =>
      dsimp only
      split_ifs with hlt
      · dsimp only
        rwa [hbucket]
      · simp only [setBucket]
        exact h.expire hlockout htil (Nat.not_lt.mp hlt)

lemma step_inv (hlockout : cfg.loginLockout = cfg.loginWindow) (hpos : 0 < cfg.loginWindow) {s s' : State} (h : Inv cfg s)
    (hstep : step cfg s call = some s') : Inv cfg s' := by
  unfold step at hstep
  split_ifs at hstep with hclock
  obtain rfl := some.inj hstep
  intro client
  have hpruned := (h client).prune hpos hclock
  by_cases hclient : client = call.client
  · subst hclient
    cases hop : call.op with
    | check =>
      obtain ⟨hfails, hlocks⟩ := times_check ⟨call, (perform cfg s.attempts call).1.isSome⟩ s.history hop
      simp only [hfails, hlocks]
      exact perform_check_inv cfg s.attempts hlockout hop hpruned
    | failure =>
      obtain ⟨hfails, hlocks⟩ := times_failure ⟨call, (perform cfg s.attempts call).1.isSome⟩ s.history hop
      obtain ⟨hreply, hbucket⟩ := perform_failure cfg s.attempts hop
      simp only [hfails, hlocks, hbucket]
      rw [hreply]
      exact hpruned.record hpos _
    | clear =>
      obtain ⟨hfails, hlocks⟩ := times_clear ⟨call, (perform cfg s.attempts call).1.isSome⟩ s.history hop
      have hbucket : (perform cfg s.attempts call).2 call.client = none := by
        simp only [perform, hop]
        exact if_pos rfl
      simp only [hfails, hlocks, hbucket]
      exact ClientInv.clear _
  · obtain ⟨hfails, hlocks⟩ := times_other ⟨call, (perform cfg s.attempts call).1.isSome⟩ s.history (Ne.symm hclient)
    simp only [hfails, hlocks]
    rcases perform_other cfg s.attempts hclient with heq | heq
    · rw [heq]
      exact hpruned
    · rw [heq]
      exact (h client).later hclock

end Step

section Settings

variable (maxFailures : UInt32) (lockoutSecs : UInt64)

lemma new_window_pos : 0 < (Settings.new maxFailures lockoutSecs).loginWindow :=
  Nat.mul_pos (Nat.lt_of_lt_of_le Nat.one_pos (Nat.le_max_right _ 1)) (by decide)

lemma new_maxFailures_le : (Settings.new maxFailures lockoutSecs).loginMaxFailures ≤ u32Max := by
  have hlt := maxFailures.toNat_lt
  exact Nat.max_le.mpr ⟨Nat.le_sub_one_of_lt hlt, by decide⟩

end Settings

section Pointwise

variable {cfg : Settings} {s : State} {call : Call}

lemma counted_eq (h : Inv cfg s) :
    (countingBucket cfg call.time (pruneLoginAttempts cfg call.time s.attempts call.client)).failures =
      min ((failureTimes s.history call.client).filter fun t => (openSince cfg s call).any (· ≤ t)).length u32Max := by
  cases hbucket : s.attempts call.client with
  | none =>
    simp only [pruneLoginAttempts, openSince, hbucket, filter_none, countingBucket, getD_none, ite_self, map_none, any_none, filter_false]
    rfl
  | some b =>
    by_cases hopen : call.time - b.windowStart < cfg.loginWindow
    · have hkept : retained cfg call.time b = true := by
        simp only [retained, Bool.or_eq_true, decide_eq_true_eq]
        exact Or.inr (Nat.lt_of_lt_of_le hopen (Nat.le_max_left ..))
      simp only [pruneLoginAttempts, openSince, hbucket, filter_some, hkept, if_true, countingBucket, getD_some,
        if_neg (Nat.not_le.mpr hopen), map_some, hopen]
      exact ((h call.client).present b hbucket).counts
    · have hsince : openSince cfg s call = none := by
        simp only [openSince, hbucket, map_some, filter_some, hopen, decide_false, Bool.false_eq_true, if_false]
      simp only [hsince, any_none, filter_false, pruneLoginAttempts, hbucket, filter_some]
      split_ifs
      · simp only [countingBucket, getD_some, if_pos (Nat.not_lt.mp hopen)]
        rfl
      · simp only [countingBucket, getD_none, ite_self]
        rfl

lemma failure_locks_iff (hmax : cfg.loginMaxFailures ≤ u32Max) (h : Inv cfg s) (hop : call.op = .failure) :
    (perform cfg s.attempts call).1.isSome ↔ cfg.loginMaxFailures ≤
      ((failureTimes s.history call.client).filter fun t => (openSince cfg s call).any (· ≤ t)).length + 1 := by
  rw [(perform_failure cfg s.attempts hop).1, counted_eq h, decide_eq_true_eq]
  omega

lemma check_refuses_iff (h : Inv cfg s) (hop : call.op = .check) (hmust : MustRefuse cfg s call) :
    (perform cfg s.attempts call).1.isSome ↔
      ∃ bucket ∈ s.attempts call.client, ∃ t ∈ (lockTimes s.history call.client).head?, bucket.windowStart ≤ t := by
  rw [perform_check_refused cfg s.attempts hop]
  constructor
  · rintro ⟨b, hb, til, htil, -⟩
    have hbucket := (mem_filter_iff.mp hb).1
    obtain ⟨t, ht, -, hstart⟩ := ((h call.client).present b hbucket).set til htil
    exact ⟨b, hbucket, t, ht, hstart⟩
  · rintro ⟨b, hbucket, t, ht, hstart⟩
    have htil := ((h call.client).present b hbucket).kept t ht hstart
    -- the last lock lasts longest
    obtain ⟨t', ht', hlt⟩ := hmust
    have hle : t' ≤ t := by
      obtain ⟨rest, hrest⟩ := head?_eq_some_iff.mp ht
      have hsorted := (h call.client).sorted
      rw [hrest] at ht' hsorted
      rcases mem_cons.mp ht' with rfl | hmem
      · exact Nat.le_refl t'
      · exact (pairwise_cons.mp hsorted).1 t' hmem
    have hnow : call.time < t + cfg.loginLockout := by omega
    have hkept : retained cfg call.time b = true := by
      rw [retained, htil, any_some, decide_eq_true hnow, Bool.true_or]
    exact ⟨b, mem_filter_iff.mpr ⟨hbucket, hkept⟩, _, htil, hnow⟩

lemma reachedAndKept_iff (hmax : cfg.loginMaxFailures ≤ u32Max) (h : Inv cfg s) : ReachedAndKept cfg s call ↔ WindowReaches cfg s call := by
  refine imp_congr_right fun _ => ?_
  cases hop : call.op with
  | check => exact imp_congr_right fun hmust => check_refuses_iff h hop hmust
  | failure => exact imp_congr_right fun _ => failure_locks_iff hmax h hop
  | clear => exact Iff.rfl

end Pointwise

lemma initial_inv (cfg : Settings) : Inv cfg State.initial :=
  fun _ => ClientInv.clear 0

section Examples

instance (cfg : Settings) (s : State) (call : Call) : Decidable (MustLock cfg s call) :=
  inferInstanceAs (Decidable (_ ≤ _))

instance (cfg : Settings) (s : State) (call : Call) : Decidable (MustRefuse cfg s call) :=
  inferInstanceAs (Decidable (∃ _ ∈ _, _))

instance (cfg : Settings) (s : State) : (call : Call) → Decidable (ReachedAndKept cfg s call)
  | ⟨.failure, _, _⟩ => inferInstanceAs (Decidable (_ ≤ _ → MustLock cfg s _ → _ = true))
  | ⟨.check, _, _⟩ => inferInstanceAs (Decidable (_ ≤ _ → MustRefuse cfg s _ → _ = true))
  | ⟨.clear, _, _⟩ => .isTrue fun _ => trivial

def client : Str :=
  "203.0.113.7".toList

def failureAt (secs : Nat) : Call :=
  ⟨.failure, client, secs * second⟩

def checkAt (secs : Nat) : Call :=
  ⟨.check, client, secs * second⟩

end Examples

section Isolation

variable {cfg : Settings} {client : Str} {s s' t : State} {call : Call}

lemma retained_of_later {now later : Nat} (h : now ≤ later) {b : LoginThrottleBucket} (hb : retained cfg later b = true) :
    retained cfg now b = true := by
  simp only [retained, Bool.or_eq_true, Option.any_eq_true, decide_eq_true_eq] at hb ⊢
  rcases hb with ⟨til, htil, hlt⟩ | hwindow
  · exact Or.inl ⟨til, htil, by omega⟩
  · exact Or.inr (by omega)

lemma prune_prune {now later : Nat} (h : now ≤ later) (attempts : LoginAttempts) (client : Str) :
    pruneLoginAttempts cfg later (pruneLoginAttempts cfg now attempts) client = pruneLoginAttempts cfg later attempts client := by
  simp only [pruneLoginAttempts]
  cases attempts client with
  | none => rfl
  | some b =>
    by_cases hb : retained cfg later b = true
    · simp [Option.filter, hb, retained_of_later h hb]
    · cases hnow : retained cfg now b <;> simp [Option.filter, hb, hnow]

lemma perform_congr {a b : LoginAttempts}
    (h : pruneLoginAttempts cfg call.time a call.client = pruneLoginAttempts cfg call.time b call.client) :
    (perform cfg a call).1 = (perform cfg b call).1 ∧ (perform cfg a call).2 call.client = (perform cfg b call).2 call.client := by
  cases hop : call.op with
  | check =>
    simp only [perform, hop, loginThrottleCheck, h]
    split
    · exact ⟨rfl, h⟩
    · split
      · exact ⟨rfl, h⟩
      · split_ifs
        · exact ⟨rfl, h⟩
        · exact ⟨rfl, by simp [setBucket]⟩
  | failure =>
    simp only [perform, hop, recordLoginFailure, h]
    split_ifs <;> exact ⟨rfl, by simp [setBucket]⟩
  | clear => simp [perform, hop, clearLoginFailures, setBucket]

structure Mirrors (cfg : Settings) (client : Str) (s t : State) : Prop where
  clock : t.clock ≤ s.clock
  history : t.history = s.history.filter fun e => e.call.client = client
  bucket : ∀ now, s.clock ≤ now → pruneLoginAttempts cfg now s.attempts client = pruneLoginAttempts cfg now t.attempts client

lemma Mirrors.own (h : Mirrors cfg call.client s t) (hs : step cfg s call = some s') :
    ∃ t', step cfg t call = some t' ∧ Mirrors cfg call.client s' t' := by
  unfold step at hs
  split_ifs at hs with hclock
  cases hs
  obtain ⟨hreply, hbucket⟩ := perform_congr (h.bucket call.time hclock)
  refine ⟨_, if_pos (h.clock.trans hclock), le_refl call.time, ?_, fun now _ => ?_⟩
  · simp [h.history, hreply]
  · simp only [pruneLoginAttempts, hbucket]

lemma Mirrors.other (h : Mirrors cfg client s t) (hne : client ≠ call.client) (hs : step cfg s call = some s') : Mirrors cfg client s' t := by
  unfold step at hs
  split_ifs at hs with hclock
  cases hs
  refine ⟨h.clock.trans hclock, ?_, fun now hnow => ?_⟩
  · rw [h.history, filter_cons_of_neg (by simpa using hne.symm)]
  · rw [← h.bucket now (hclock.trans hnow)]
    rcases perform_other cfg s.attempts hne with heq | heq
    · exact (congrArg (Option.filter (retained cfg now)) heq).trans (prune_prune hnow s.attempts client)
    · exact congrArg (Option.filter (retained cfg now)) heq

lemma Mirrors.run {calls : List Call} (h : Mirrors cfg client s t) (hrun : run (step cfg) s calls = some s') :
    ∃ t', run (step cfg) t (calls.filter fun call => call.client = client) = some t' ∧ Mirrors cfg client s' t' := by
  induction calls generalizing s t with
  | nil =>
    cases hrun
    exact ⟨t, rfl, h⟩
  | cons call calls ih =>
    obtain ⟨u, hstep, hrest⟩ := run_cons.mp hrun
    by_cases hclient : client = call.client
    · subst hclient
      obtain ⟨t', hstep', h'⟩ := h.own hstep
      rw [filter_cons_of_pos (by simp), run_cons_of_step hstep']
      exact ih h' hrest
    · rw [filter_cons_of_neg (by simpa using Ne.symm hclient)]
      exact ih (h.other hclient hstep) hrest

theorem throttle_isolates_clients (cfg : Settings) (client : Str) (calls : List Call) (hrun : run (step cfg) .initial calls = some s) :
    ∃ t, run (step cfg) .initial (calls.filter fun call => call.client = client) = some t ∧
      t.history = s.history.filter fun e => e.call.client = client := by
  obtain ⟨t, hrun', h⟩ := Mirrors.run ⟨le_refl _, rfl, fun _ _ => rfl⟩ hrun
  exact ⟨t, hrun', h.history⟩

end Isolation

theorem throttle_isolates_neighbour :
    ∃ s t, run (step (.new 2 10)) .initial [failureAt 0, ⟨.failure, [], second⟩, checkAt 2] = some s ∧
      run (step (.new 2 10)) .initial [failureAt 0, checkAt 2] = some t ∧ t.history = s.history.filter fun e => e.call.client = client := by
  obtain ⟨s, hrun⟩ := Option.isSome_iff_exists.mp
    (by decide : (run (step (.new 2 10)) .initial [failureAt 0, ⟨.failure, [], second⟩, checkAt 2]).isSome = true)
  obtain ⟨t, hrun', hhistory⟩ := throttle_isolates_clients _ client _ hrun
  exact ⟨s, t, hrun, hrun', hhistory⟩

end Bookclerk.Login
