import Bookclerk.Cluster.Align

namespace Bookclerk.Cluster

open Str Io Bookclerk.System

variable (w : Setting) (row₀ : Option ClusterRow)

def KeyAt (m : Shared) (dir : Str) (key : MasterKey) : Prop :=
  ∃ file b, m.masterKey dir = some file ∧ parseMasterKeyFile w.crypto file.content (w.password dir) = some (key, b)

def Recorded (m : Shared) (key : MasterKey) : Prop :=
  ∃ row, m.row = some row ∧ row.secretFingerprint = w.crypto.fingerprint key

def Doomed (m : Shared) (key : MasterKey) : Prop :=
  (∃ row, m.row = some row ∧ row.secretFingerprint ≠ w.crypto.fingerprint key) ∨ row₀ = none ∧ probeSealedSecrets w key = .reject

structure MemoryInv (m : Shared) : Prop where
  kept : ∀ row, row₀ = some row → m.row = some row
  accepted : row₀ = none → ∀ row, m.row = some row →
    ∃ key, probeSealedSecrets w key ≠ .reject ∧ row.secretFingerprint = w.crypto.fingerprint key
  raw : ∀ dir file key, m.masterKey dir = some file →
    parseMasterKeyFile w.crypto file.content (w.password dir) = some (key, true) → file.writer = none

def ExistingKnown (m : Shared) : Option ClusterRow → Prop
  | some row => m.row = some row
  | none => row₀ = none

def Owns (call : Nat) (m : Shared) (key : MasterKey) : Prop :=
  ∃ file, m.masterKey (w.filesDir call) = some file ∧ file.writer = some call ∧
    parseMasterKeyFile w.crypto file.content (w.password (w.filesDir call)) = some (key, false)

def Settled (m : Shared) (dir : Str) (key : MasterKey) : Prop :=
  ∃ file b, m.masterKey dir = some file ∧ file.writer = none ∧
    parseMasterKeyFile w.crypto file.content (w.password dir) = some (key, b)

def Held (call : Nat) (m : Shared) (key : MasterKey) (minted : Bool) : Prop :=
  (KeyAt w m (w.filesDir call) key ∨ Doomed w row₀ m key) ∧ (minted = true → Owns w call m key)

def GoalKnown (call : Nat) (m : Shared) : Goal → Prop
  | .first existing => ExistingKnown row₀ m existing
  | .second row => m.row = some row ∧ ∃ key, row.secretFingerprint = w.crypto.fingerprint key ∧ KeyAt w m (w.filesDir call) key

def Knows (call : Nat) (m : Shared) : Phase → Prop
  | .start | .failed => True
  | .loaded existing => ExistingKnown row₀ m existing
  | .resolving goal | .reading goal => GoalKnown w row₀ call m goal
  | .rewrapping goal key => GoalKnown w row₀ call m goal ∧ Settled w m (w.filesDir call) key
  | .minting goal => ∃ existing, goal = .first existing ∧ ExistingKnown row₀ m existing
  | .writing goal key bytes => (∃ existing, goal = .first existing ∧ ExistingKnown row₀ m existing) ∧
      (∃ env, bytes = encodeMasterKey w.crypto key (w.password (w.filesDir call)) env) ∧
      ∃ n, n < bytes.length ∧ m.masterKey (w.filesDir call) = some ⟨bytes.take n, some call⟩
  | .decided existing key minted => ExistingKnown row₀ m existing ∧ Held w row₀ call m key minted
  | .inserting key minted | .reloading key minted => row₀ = none ∧ probeSealedSecrets w key ≠ .reject ∧ Held w row₀ call m key minted
  | .rejected key minted => Doomed w row₀ m key ∧ (minted = true → Owns w call m key)
  | .removing key => Doomed w row₀ m key ∧ Owns w call m key
  | .uncaching key => Doomed w row₀ m key
  | .caching row key => m.row = some row ∧ row.secretFingerprint = w.crypto.fingerprint key
  | .done row => m.row = some row ∧ ∃ key, m.cache (w.process call) = some key ∧ row.secretFingerprint = w.crypto.fingerprint key

structure Rely (call : Nat) (m m' : Shared) : Prop where
  row : ∀ row, m.row = some row → m'.row = some row
  keyAt : ∀ dir key, KeyAt w m dir key → KeyAt w m' dir key ∨ Doomed w row₀ m' key
  own : ∀ dir file, m.masterKey dir = some file → file.writer = some call → m'.masterKey dir = some file
  settled : ∀ dir key, Settled w m dir key → Settled w m' dir key
  cache : ∀ key, m.cache (w.process call) = some key → Recorded w m key →
    ∃ key', m'.cache (w.process call) = some key' ∧ w.crypto.fingerprint key' = w.crypto.fingerprint key

section

variable {w row₀} {call : Nat} {m m' : Shared} {key : MasterKey}

lemma Doomed.not_recorded (hm : MemoryInv w row₀ m) (h : Doomed w row₀ m key) : ¬Recorded w m key := by
  rintro ⟨row, hrow, hfp⟩
  rcases h with ⟨row', hrow', hne⟩ | ⟨hnone, hreject⟩
  · rw [hrow, Option.some.injEq] at hrow'
    subst hrow'
    exact hne hfp
  · obtain ⟨key', haccept, hfp'⟩ := hm.accepted hnone row hrow
    have heq := w.crypto.fingerprint_injective (hfp.symm.trans hfp')
    subst heq
    exact haccept hreject

lemma Doomed.mono (hrow : ∀ row, m.row = some row → m'.row = some row) (h : Doomed w row₀ m key) : Doomed w row₀ m' key := by
  rcases h with ⟨row, hr, hne⟩ | hprobe
  · exact Or.inl ⟨row, hrow row hr, hne⟩
  · exact Or.inr hprobe

lemma KeyAt.unique {dir : Str} {key' : MasterKey} (h : KeyAt w m dir key) (h' : KeyAt w m dir key') : key = key' := by
  obtain ⟨file, b, hfile, hparse⟩ := h
  obtain ⟨file', b', hfile', hparse'⟩ := h'
  rw [hfile, Option.some.injEq] at hfile'
  subst hfile'
  rw [hparse, Option.some.injEq, Prod.mk.injEq] at hparse'
  exact hparse'.1

lemma Owns.keyAt (h : Owns w call m key) : KeyAt w m (w.filesDir call) key := by
  obtain ⟨file, hfile, -, hparse⟩ := h
  exact ⟨file, false, hfile, hparse⟩

lemma Settled.keyAt {dir : Str} (h : Settled w m dir key) : KeyAt w m dir key := by
  obtain ⟨file, b, hfile, -, hparse⟩ := h
  exact ⟨file, b, hfile, hparse⟩

lemma rely_refl (w : Setting) (row₀ : Option ClusterRow) (call : Nat) (m : Shared) : Rely w row₀ call m m where
  row _ h := h
  keyAt _ _ h := Or.inl h
  own _ _ h _ := h
  settled _ _ h := h
  cache key h _ := ⟨key, h, rfl⟩

section Stability

variable (hm' : MemoryInv w row₀ m') (hr : Rely w row₀ call m m')

include hr

lemma ExistingKnown.stable {existing : Option ClusterRow} (h : ExistingKnown row₀ m existing) : ExistingKnown row₀ m' existing := by
  cases existing with
  | none => exact h
  | some row => exact hr.row row h

lemma Owns.stable (h : Owns w call m key) : Owns w call m' key := by
  obtain ⟨file, hfile, hwriter, hparse⟩ := h
  exact ⟨file, hr.own _ file hfile hwriter, hwriter, hparse⟩

lemma Held.stable {minted : Bool} (h : Held w row₀ call m key minted) : Held w row₀ call m' key minted := by
  refine ⟨?_, fun hminted => (h.2 hminted).stable hr⟩
  rcases h.1 with hat | hdoomed
  · exact hr.keyAt _ key hat
  · exact Or.inr (hdoomed.mono hr.row)

include hm'

lemma GoalKnown.stable {goal : Goal} (h : GoalKnown w row₀ call m goal) : GoalKnown w row₀ call m' goal := by
  cases goal with
  | first existing => exact ExistingKnown.stable hr h
  | second row =>
    obtain ⟨hrow, key, hfp, hat⟩ := h
    refine ⟨hr.row row hrow, key, hfp, ?_⟩
    rcases hr.keyAt _ key hat with hat' | hdoomed
    · exact hat'
    · exact absurd ⟨row, hr.row row hrow, hfp⟩ (hdoomed.not_recorded hm')

lemma Knows.stable {phase : Phase} (h : Knows w row₀ call m phase) : Knows w row₀ call m' phase := by
  cases phase with
  | start | failed => trivial
  | loaded existing => exact ExistingKnown.stable hr h
  | resolving goal | reading goal => exact GoalKnown.stable hm' hr h
  | rewrapping goal key => exact ⟨GoalKnown.stable hm' hr h.1, hr.settled _ key h.2⟩
  | minting goal =>
    obtain ⟨existing, hgoal, hexisting⟩ := h
    exact ⟨existing, hgoal, hexisting.stable hr⟩
  | writing goal key bytes =>
    obtain ⟨⟨existing, hgoal, hexisting⟩, hbytes, n, hn, hfile⟩ := h
    exact ⟨⟨existing, hgoal, hexisting.stable hr⟩, hbytes, n, hn, hr.own _ _ hfile rfl⟩
  | decided existing key minted => exact ⟨h.1.stable hr, h.2.stable hr⟩
  | inserting key minted | reloading key minted => exact ⟨h.1, h.2.1, h.2.2.stable hr⟩
  | rejected key minted => exact ⟨h.1.mono hr.row, fun hminted => (h.2 hminted).stable hr⟩
  | removing key => exact ⟨h.1.mono hr.row, h.2.stable hr⟩
  | uncaching key => exact Doomed.mono hr.row h
  | caching row key => exact ⟨hr.row row h.1, h.2⟩
  | done row =>
    obtain ⟨hrow, key, hcache, hfp⟩ := h
    obtain ⟨key', hcache', hfp'⟩ := hr.cache key hcache ⟨row, hrow, hfp⟩
    exact ⟨hr.row row hrow, key', hcache', hfp.trans hfp'.symm⟩

end Stability

end

end Bookclerk.Cluster

namespace Bookclerk.Cluster

open Str Io Bookclerk.System

variable {w : Setting} {row₀ : Option ClusterRow} {call : Nat} {m m' : Shared} {key : MasterKey}

section Files

variable {dir : Str} {file : Option KeyFile}

lemma setFile_self : (m.setFile dir file).masterKey dir = file := by
  exact Function.update_self dir file m.masterKey

lemma setFile_of_ne {dir' : Str} (h : dir' ≠ dir) : (m.setFile dir file).masterKey dir' = m.masterKey dir' := by
  exact Function.update_of_ne h file m.masterKey

lemma rely_setFile (hkey : ∀ key, KeyAt w m dir key → KeyAt w (m.setFile dir file) dir key ∨ Doomed w row₀ m key)
    (hown : ∀ f, m.masterKey dir = some f → f.writer ≠ some call)
    (hsettled : ∀ key, Settled w m dir key → Settled w (m.setFile dir file) dir key) : Rely w row₀ call m (m.setFile dir file) where
  row _ h := h
  keyAt dir' key h := by
    by_cases hdir : dir' = dir
    · subst hdir
      exact hkey key h
    · obtain ⟨f, b, hfile, hparse⟩ := h
      exact Or.inl ⟨f, b, (setFile_of_ne hdir).trans hfile, hparse⟩
  own dir' f hfile hwriter := by
    by_cases hdir : dir' = dir
    · subst hdir
      exact absurd hwriter (hown f hfile)
    · exact (setFile_of_ne hdir).trans hfile
  settled dir' key h := by
    by_cases hdir : dir' = dir
    · subst hdir
      exact hsettled key h
    · obtain ⟨f, b, hfile, hrest⟩ := h
      exact ⟨f, b, (setFile_of_ne hdir).trans hfile, hrest⟩
  cache key h _ := ⟨key, h, rfl⟩

lemma memoryInv_setFile (hm : MemoryInv w row₀ m)
    (hraw : ∀ f key, file = some f → parseMasterKeyFile w.crypto f.content (w.password dir) = some (key, true) → f.writer = none) :
    MemoryInv w row₀ (m.setFile dir file) where
  kept := hm.kept
  accepted := hm.accepted
  raw dir' f key hfile hparse := by
    by_cases hdir : dir' = dir
    · subst hdir
      exact hraw f key (setFile_self.symm.trans hfile) hparse
    · exact hm.raw dir' f key ((setFile_of_ne hdir).symm.trans hfile) hparse

end Files

def Sound (w : Setting) (row₀ : Option ClusterRow) (call : Nat) (m m' : Shared) (phase : Phase) : Prop :=
  MemoryInv w row₀ m' ∧ Knows w row₀ call m' phase ∧ ∀ other, other ≠ call → Rely w row₀ other m m'

lemma Sound.quiet (hm : MemoryInv w row₀ m) {phase : Phase} (h : Knows w row₀ call m phase) : Sound w row₀ call m m phase :=
  ⟨hm, h, fun other _ => rely_refl w row₀ other m⟩

section Resolve

variable {goal : Goal}

lemma knows_resolved (hgoal : GoalKnown w row₀ call m goal)
    (hat : KeyAt w m (w.filesDir call) key) {minted : Bool} (hminted : minted = true → Owns w call m key) :
    Knows w row₀ call m (goal.resolved key minted) := by
  cases goal with
  | first existing => exact ⟨hgoal, Or.inl hat, hminted⟩
  | second row =>
    obtain ⟨hrow, key', hfp, hat'⟩ := hgoal
    obtain rfl := hat.unique hat'
    exact ⟨hrow, hfp⟩

section

variable (hm : MemoryInv w row₀ m)
include hm

lemma knows_readKeyFile (hgoal : GoalKnown w row₀ call m goal) :
    Knows w row₀ call m (readKeyFile w call m goal) := by
  unfold readKeyFile
  cases hfile : m.masterKey (w.filesDir call) with
  | none => trivial
  | some file =>
    dsimp only
    cases hparse : parseMasterKeyFile w.crypto file.content (w.password (w.filesDir call)) with
    | none => trivial
    | some r =>
      obtain ⟨key, b⟩ := r
      cases b with
      | false => exact knows_resolved hgoal ⟨file, false, hfile, hparse⟩ nofun
      | true => exact ⟨hgoal, file, true, hfile, hm.raw _ file key hfile hparse, hparse⟩

lemma sound_create (habsent : m.masterKey (w.filesDir call) = none)
    (hgoal : ∃ existing, goal = .first existing ∧ ExistingKnown row₀ m existing) (key : MasterKey) (env : Envelope) :
    Sound w row₀ call m (m.setFile (w.filesDir call) (some ⟨[], some call⟩))
      (.writing goal key (encodeMasterKey w.crypto key (w.password (w.filesDir call)) env)) := by
  refine ⟨?_, ⟨hgoal, ⟨env, rfl⟩, 0, ?_, setFile_self⟩, fun other _ => ?_⟩
  · refine memoryInv_setFile hm fun f key hf hparse => ?_
    obtain rfl := Option.some.inj hf
    cases hparse
  · have := length_of_parse w.crypto (parse_encode w.crypto key (w.password (w.filesDir call)) env)
    omega
  · refine rely_setFile (fun key h => ?_) (fun f hf => ?_) fun key h => ?_
    · obtain ⟨f, b, hf, -⟩ := h
      rw [habsent] at hf
      cases hf
    · rw [habsent] at hf
      cases hf
    · obtain ⟨f, b, hf, -⟩ := h
      rw [habsent] at hf
      cases hf

lemma sound_write {bytes : Bytes} (h : Knows w row₀ call m (.writing goal key bytes)) (n : Nat) :
    Sound w row₀ call m (m.writeFile (w.filesDir call) call (bytes.take n))
      (if n < bytes.length then .writing goal key bytes else goal.resolved key true) := by
  obtain ⟨⟨existing, rfl, hexisting⟩, ⟨env, rfl⟩, k, hk, hfile⟩ := h
  generalize hbytes : encodeMasterKey w.crypto key (w.password (w.filesDir call)) env = bytes at hk hfile ⊢
  have hwrite : m.writeFile (w.filesDir call) call (bytes.take n) = m.setFile (w.filesDir call) (some ⟨bytes.take n, some call⟩) := by
    simp only [Shared.writeFile, hfile, if_true]
  have hbefore : ∀ key, ¬KeyAt w m (w.filesDir call) key := by
    rintro key' ⟨f, b, hf, hparse⟩
    rw [hfile, Option.some.injEq] at hf
    subst hf
    subst hbytes
    rw [parse_part w.crypto key _ env hk] at hparse
    cases hparse
  have hwhole : ¬n < bytes.length → parseMasterKeyFile w.crypto (bytes.take n) (w.password (w.filesDir call)) = some (key, false) := by
    intro hn
    rw [List.take_of_length_le (Nat.not_lt.mp hn), ← hbytes, parse_encode]
  have hpart : n < bytes.length → parseMasterKeyFile w.crypto (bytes.take n) (w.password (w.filesDir call)) = none := by
    subst hbytes
    exact fun hn => parse_part w.crypto key _ env hn _
  rw [hwrite]
  refine ⟨?_, ?_, fun other hother => ?_⟩
  · refine memoryInv_setFile hm fun f key' hf hparse => ?_
    obtain rfl := Option.some.inj hf
    by_cases hn : n < bytes.length
    · rw [hpart hn] at hparse
      cases hparse
    · rw [hwhole hn] at hparse
      cases hparse
  · by_cases hn : n < bytes.length
    · rw [if_pos hn]
      exact ⟨⟨existing, rfl, hexisting⟩, ⟨env, hbytes.symm⟩, n, hn, setFile_self⟩
    · rw [if_neg hn]
      have howns : Owns w call (m.setFile (w.filesDir call) (some ⟨bytes.take n, some call⟩)) key := ⟨_, setFile_self, rfl, hwhole hn⟩
      exact ⟨hexisting, Or.inl howns.keyAt, fun _ => howns⟩
  · refine rely_setFile (fun key' h => absurd h (hbefore key')) (fun f hf hwriter => ?_) fun key' h => absurd h.keyAt (hbefore key')
    rw [hfile, Option.some.injEq] at hf
    subst hf
    exact hother (Option.some.inj hwriter).symm

lemma sound_wrap {pw : Str} (h : Knows w row₀ call m (.rewrapping goal key))
    (hpw : w.password (w.filesDir call) = some pw) (env : Envelope) :
    Sound w row₀ call m (m.setFile (w.filesDir call) (some ⟨encodeWrappedMasterKey w.crypto key pw env, none⟩)) (goal.resolved key false) := by
  obtain ⟨hgoal, hsettled⟩ := h
  have hsettled' : Settled w (m.setFile (w.filesDir call) (some ⟨encodeWrappedMasterKey w.crypto key pw env, none⟩)) (w.filesDir call) key := by
    refine ⟨_, false, setFile_self, rfl, ?_⟩
    rw [hpw]
    exact parse_encodeWrapped w.crypto key pw env
  have hm' : MemoryInv w row₀ (m.setFile (w.filesDir call) (some ⟨encodeWrappedMasterKey w.crypto key pw env, none⟩)) := by
    refine memoryInv_setFile hm fun f key' hf _ => ?_
    obtain rfl := Option.some.inj hf
    rfl
  have hrely : ∀ other, Rely w row₀ other m (m.setFile (w.filesDir call) (some ⟨encodeWrappedMasterKey w.crypto key pw env, none⟩)) := by
    intro other
    refine rely_setFile (fun key' h => ?_) (fun f hf hwriter => ?_) fun key' h => ?_
    · obtain rfl := hsettled.keyAt.unique h
      exact Or.inl hsettled'.keyAt
    · obtain ⟨f', b, hf', hnone, -⟩ := hsettled
      rw [hf', Option.some.injEq] at hf
      subst hf
      rw [hnone] at hwriter
      cases hwriter
    · obtain rfl := hsettled.keyAt.unique h.keyAt
      exact hsettled'
  exact ⟨hm', knows_resolved (hgoal.stable hm' (hrely call)) hsettled'.keyAt nofun, fun other _ => hrely other⟩

end

end Resolve

end Bookclerk.Cluster
