import Bookclerk.Str.Chars
import Bookclerk.System.Run

/-! The login throttle of `OperatorAuthState`: one bucket of failures per client, behind a lock, and the calls that
concurrent requests make on it. Instants and durations are nanoseconds, and the clock is read at one time in a call. -/

namespace Bookclerk.Login

open Str Bookclerk.System List Option

def second : Nat :=
  1000000000

def u32Max : Nat :=
  2 ^ 32 - 1

structure Settings where
  loginMaxFailures : Nat
  loginWindow : Nat
  loginLockout : Nat

/-- `OperatorAuthState::new`: failures count within the same period as the lockout. -/
def Settings.new (loginMaxFailures : UInt32) (loginLockoutSecs : UInt64) : Settings :=
  let loginLockout := max loginLockoutSecs.toNat 1 * second
  { loginMaxFailures := max loginMaxFailures.toNat 1, loginWindow := loginLockout, loginLockout }

structure LoginThrottleBucket where
  failures : Nat
  windowStart : Nat
  lockedUntil : Option Nat

abbrev LoginAttempts := Str → Option LoginThrottleBucket

def retained (cfg : Settings) (now : Nat) (bucket : LoginThrottleBucket) : Bool :=
  bucket.lockedUntil.any (now < ·) || now - bucket.windowStart < max cfg.loginWindow cfg.loginLockout

def pruneLoginAttempts (cfg : Settings) (now : Nat) (attempts : LoginAttempts) : LoginAttempts :=
  fun client => (attempts client).filter (retained cfg now)

def setBucket (attempts : LoginAttempts) (client : Str) (bucket : Option LoginThrottleBucket) : LoginAttempts :=
  fun other => if other = client then bucket else attempts other

def loginThrottleCheck (cfg : Settings) (now : Nat) (attempts : LoginAttempts) (client : Str) : Option Nat × LoginAttempts :=
  let attempts := pruneLoginAttempts cfg now attempts
  match attempts client with
  | none => (none, attempts)
  | some bucket =>
    match bucket.lockedUntil with
    | none => (none, attempts)
    | some til =>
      if now < til then (some (max (til - now) second), attempts)
      else (none, setBucket attempts client (some { failures := 0, windowStart := now, lockedUntil := none }))

def countingBucket (cfg : Settings) (now : Nat) (bucket : Option LoginThrottleBucket) : LoginThrottleBucket :=
  let bucket := bucket.getD { failures := 0, windowStart := now, lockedUntil := none }
  if cfg.loginWindow ≤ now - bucket.windowStart then { failures := 0, windowStart := now, lockedUntil := none } else bucket

def recordLoginFailure (cfg : Settings) (now : Nat) (attempts : LoginAttempts) (client : Str) : Option Nat × LoginAttempts :=
  let attempts := pruneLoginAttempts cfg now attempts
  let bucket := countingBucket cfg now (attempts client)
  let failures := min (bucket.failures + 1) u32Max
  if cfg.loginMaxFailures ≤ failures then
    (some cfg.loginLockout, setBucket attempts client (some { bucket with failures, lockedUntil := some (now + cfg.loginLockout) }))
  else (none, setBucket attempts client (some { bucket with failures }))

def clearLoginFailures (attempts : LoginAttempts) (client : Str) : LoginAttempts :=
  setBucket attempts client none

inductive Op
  | check
  | failure
  | clear
  deriving DecidableEq

structure Call where
  op : Op
  client : Str
  time : Nat

def perform (cfg : Settings) (attempts : LoginAttempts) (call : Call) : Option Nat × LoginAttempts :=
  match call.op with
  | .check => loginThrottleCheck cfg call.time attempts call.client
  | .failure => recordLoginFailure cfg call.time attempts call.client
  | .clear => (none, clearLoginFailures attempts call.client)

structure Event where
  call : Call
  refused : Bool

structure State where
  attempts : LoginAttempts
  history : List Event

def State.initial : State :=
  ⟨fun _ => none, []⟩

def State.clock (s : State) : Nat :=
  (s.history.head?.map fun e => e.call.time).getD 0

/-- The lock is held for a whole call, so calls come one after another and the clock does not go back. -/
def step (cfg : Settings) (s : State) (call : Call) : Option State :=
  if s.clock ≤ call.time then
    some ⟨(perform cfg s.attempts call).2, ⟨call, (perform cfg s.attempts call).1.isSome⟩ :: s.history⟩
  else none

section History

def sinceClear (history : List Event) (client : Str) : List Event :=
  (history.filter fun e => e.call.client = client).takeWhile fun e => e.call.op ≠ .clear

def failureTimes (history : List Event) (client : Str) : List Nat :=
  ((sinceClear history client).filter fun e => e.call.op = .failure).map fun e => e.call.time

def lockTimes (history : List Event) (client : Str) : List Nat :=
  ((sinceClear history client).filter fun e => e.call.op = .failure ∧ e.refused).map fun e => e.call.time

end History

def MustLock (cfg : Settings) (s : State) (call : Call) : Prop :=
  cfg.loginMaxFailures ≤ ((failureTimes s.history call.client).filter fun t => call.time - t < cfg.loginWindow).length + 1

def MustRefuse (cfg : Settings) (s : State) (call : Call) : Prop :=
  ∃ t ∈ lockTimes s.history call.client, call.time < t + cfg.loginLockout

def ReachedAndKept (cfg : Settings) (s : State) (call : Call) : Prop :=
  s.clock ≤ call.time →
    match call.op with
    | .failure => MustLock cfg s call → (perform cfg s.attempts call).1.isSome
    | .check => MustRefuse cfg s call → (perform cfg s.attempts call).1.isSome
    | .clear => True

def openSince (cfg : Settings) (s : State) (call : Call) : Option Nat :=
  ((s.attempts call.client).map LoginThrottleBucket.windowStart).filter fun start => call.time - start < cfg.loginWindow

/-- Where a failure must lock, enough of the failures before it fall into the window that is open; where a check must
refuse, the client's window has not started anew since the last lock. -/
def WindowReaches (cfg : Settings) (s : State) (call : Call) : Prop :=
  s.clock ≤ call.time →
    match call.op with
    | .failure => MustLock cfg s call → cfg.loginMaxFailures ≤
        ((failureTimes s.history call.client).filter fun t => (openSince cfg s call).any (· ≤ t)).length + 1
    | .check => MustRefuse cfg s call → ∃ bucket ∈ s.attempts call.client, ∃ t ∈ (lockTimes s.history call.client).head?, bucket.windowStart ≤ t
    | .clear => True

section Invariant

variable (cfg : Settings) (clock : Nat) (fails locks : List Nat)

structure BucketInv (bucket : LoginThrottleBucket) : Prop where
  started : bucket.windowStart ≤ clock
  counts : bucket.failures = min (fails.filter fun t => bucket.windowStart ≤ t).length u32Max
  within : ∀ t ∈ fails, t < bucket.windowStart + cfg.loginWindow
  kept : ∀ t ∈ locks.head?, bucket.windowStart ≤ t → bucket.lockedUntil = some (t + cfg.loginLockout)
  set : ∀ til ∈ bucket.lockedUntil, ∃ t ∈ locks.head?, til = t + cfg.loginLockout ∧ bucket.windowStart ≤ t

structure ClientInv (bucket : Option LoginThrottleBucket) : Prop where
  past : ∀ t ∈ fails, t ≤ clock
  sorted : locks.Pairwise (· ≥ ·)
  sub : ∀ t ∈ locks, t ∈ fails
  absent : bucket = none → ∀ t ∈ fails, t < clock
  present : ∀ b ∈ bucket, BucketInv cfg clock fails locks b

end Invariant

section Client

variable {cfg : Settings} {clock now : Nat} {fails locks : List Nat} {bucket : Option LoginThrottleBucket}

lemma fresh_inv (hpast : ∀ t ∈ fails, t < now) (hsub : ∀ t ∈ locks, t ∈ fails) : BucketInv cfg now fails locks ⟨0, now, none⟩ where
  started := Nat.le_refl now
  counts := by
    have hnone : (fails.filter fun t => now ≤ t) = [] :=
      filter_eq_nil_iff.mpr fun t ht => by
        have := hpast t ht
        simp only [decide_eq_true_eq]
        omega
    rw [hnone]
    rfl
  within t ht := by
    have := hpast t ht
    simp only
    omega
  kept t ht hle := by
    have := hpast t (hsub t (List.mem_of_mem_head? ht))
    simp only at hle
    omega
  set := nofun

variable {b : LoginThrottleBucket}

lemma BucketInv.later (h : BucketInv cfg clock fails locks b) (hclock : clock ≤ now) : BucketInv cfg now fails locks b :=
  { h with started := Nat.le_trans h.started hclock }

lemma ClientInv.later (h : ClientInv cfg clock fails locks bucket) (hclock : clock ≤ now) : ClientInv cfg now fails locks bucket where
  past t ht := Nat.le_trans (h.past t ht) hclock
  sorted := h.sorted
  sub := h.sub
  absent hnone t ht := Nat.lt_of_lt_of_le (h.absent hnone t ht) hclock
  present b hb := (h.present b hb).later hclock

lemma ClientInv.prune (hpos : 0 < cfg.loginWindow) (h : ClientInv cfg clock fails locks bucket) (hclock : clock ≤ now) :
    ClientInv cfg now fails locks (bucket.filter (retained cfg now)) where
  past := (h.later hclock).past
  sorted := h.sorted
  sub := h.sub
  absent := by
    intro hnone t ht
    cases bucket with
    | none => exact (h.later hclock).absent rfl t ht
    | some b =>
      have hdropped : ¬retained cfg now b = true := by
        intro hretained
        rw [filter_some, if_pos hretained] at hnone
        cases hnone
      have hin := (h.present b rfl).within t ht
      simp only [retained, Bool.or_eq_true, decide_eq_true_eq] at hdropped
      omega
  present b hb := (h.later hclock).present b (mem_filter_iff.mp hb).1

lemma countingBucket_inv (hpos : 0 < cfg.loginWindow) (h : ClientInv cfg now fails locks bucket) :
    BucketInv cfg now fails locks (countingBucket cfg now bucket) ∧ now < (countingBucket cfg now bucket).windowStart + cfg.loginWindow := by
  have hfresh : now < now + cfg.loginWindow := by omega
  cases bucket with
  | none =>
    have heq : countingBucket cfg now none = ⟨0, now, none⟩ := by
      simp only [countingBucket, getD_none, ite_self]
    rw [heq]
    exact ⟨fresh_inv (h.absent rfl) h.sub, hfresh⟩
  | some b =>
    have hb := h.present b rfl
    unfold countingBucket
    simp only [getD_some]
    split_ifs with hout
    · refine ⟨fresh_inv (fun t ht => ?_) h.sub, hfresh⟩
      have := hb.within t ht
      omega
    · exact ⟨hb, by omega⟩

lemma BucketInv.count (h : BucketInv cfg now fails locks b) (hopen : now < b.windowStart + cfg.loginWindow)
    (locked : Bool) :
    BucketInv cfg now (now :: fails) (if locked then now :: locks else locks)
      { b with failures := min (b.failures + 1) u32Max, lockedUntil := if locked then some (now + cfg.loginLockout) else b.lockedUntil } where
  started := h.started
  counts := by
    rw [filter_cons_of_pos (by simpa using h.started), length_cons]
    simp only [h.counts]
    omega
  within := forall_mem_cons.mpr ⟨hopen, h.within⟩
  kept := by
    cases locked with
    | false => exact h.kept
    | true =>
      intro t ht _
      obtain rfl : now = t := some.inj ht
      rfl
  set := by
    cases locked with
    | false => exact h.set
    | true =>
      intro til htil
      exact ⟨now, rfl, (some.inj htil).symm, h.started⟩

lemma ClientInv.record (hpos : 0 < cfg.loginWindow) (h : ClientInv cfg now fails locks bucket) (locked : Bool) :
    ClientInv cfg now (now :: fails) (if locked then now :: locks else locks)
      (some { countingBucket cfg now bucket with
        failures := min ((countingBucket cfg now bucket).failures + 1) u32Max
        lockedUntil := if locked then some (now + cfg.loginLockout) else (countingBucket cfg now bucket).lockedUntil }) where
  past := forall_mem_cons.mpr ⟨Nat.le_refl now, h.past⟩
  sorted := by
    cases locked with
    | false => exact h.sorted
    | true => exact pairwise_cons.mpr ⟨fun t ht => h.past t (h.sub t ht), h.sorted⟩
  sub := by
    cases locked with
    | false => exact fun t ht => mem_cons_of_mem now (h.sub t ht)
    | true => exact forall_mem_cons.mpr ⟨mem_cons_self, fun t ht => mem_cons_of_mem now (h.sub t ht)⟩
  absent := nofun
  present b hb := by
    obtain ⟨hcounting, hopen⟩ := countingBucket_inv hpos h
    obtain rfl := some.inj hb
    exact hcounting.count hopen locked

lemma ClientInv.expire (hlockout : cfg.loginLockout = cfg.loginWindow) {til : Nat}
    (h : ClientInv cfg now fails locks (some b)) (htil : b.lockedUntil = some til) (hover : til ≤ now) :
    ClientInv cfg now fails locks (some ⟨0, now, none⟩) where
  past := h.past
  sorted := h.sorted
  sub := h.sub
  absent := nofun
  present b' hb' := by
    obtain rfl := some.inj hb'
    obtain ⟨t, -, rfl, hstart⟩ := (h.present b rfl).set til htil
    refine fresh_inv (fun t' ht' => ?_) h.sub
    have := (h.present b rfl).within t' ht'
    omega

lemma ClientInv.clear (now : Nat) : ClientInv cfg now [] [] none where
  past := nofun
  sorted := List.Pairwise.nil
  sub := nofun
  absent _ := nofun
  present := nofun

end Client

end Bookclerk.Login
