import Bookclerk.Cluster.OneRoot

namespace Bookclerk.Cluster

open Str Io Bookclerk.System Option Function

variable {w : Setting} {row₀ : Option ClusterRow} {call : Nat} {m m' : Shared} {key : MasterKey}

section Row

lemma knows_compareRow (hm : MemoryInv w row₀ m) {row : ClusterRow} (hrow : m.row = some row) {minted : Bool}
    (h : Held w row₀ call m key minted) : Knows w row₀ call m (compareRow w row key minted) := by
  unfold compareRow
  split_ifs with hne
  · exact ⟨Or.inl ⟨row, hrow, hne⟩, h.2⟩
  · have hfp : row.secretFingerprint = w.crypto.fingerprint key := not_not.mp hne
    refine ⟨hrow, key, hfp, ?_⟩
    rcases h.1 with hat | hdoomed
    · exact hat
    · exact absurd ⟨row, hrow, hfp⟩ (hdoomed.not_recorded hm)

lemma sound_insert {minted : Bool} (hm : MemoryInv w row₀ m) (h : Knows w row₀ call m (.inserting key minted)) (clusterId : Str) :
    Sound w row₀ call m { m with row := some (m.row.getD ⟨clusterId, w.crypto.fingerprint key⟩) } (.reloading key minted) := by
  obtain ⟨hnone, hprobe, hheld⟩ := h
  have hm' : MemoryInv w row₀ { m with row := some (m.row.getD ⟨clusterId, w.crypto.fingerprint key⟩) } := by
    refine ⟨fun row hrow => ?_, fun _ row hrow => ?_, hm.raw⟩
    · rw [hnone] at hrow
      cases hrow
    · obtain rfl := some.inj hrow
      cases hold : m.row with
      | none => exact ⟨key, hprobe, rfl⟩
      | some row => exact hm.accepted hnone row hold
  have hrely : ∀ other, Rely w row₀ other m { m with row := some (m.row.getD ⟨clusterId, w.crypto.fingerprint key⟩) } := by
    intro other
    refine ⟨fun row hrow => ?_, fun dir key h => Or.inl h, fun dir file h _ => h, fun dir key h => h, fun key h _ => ⟨key, h, rfl⟩⟩
    rw [hrow]
    rfl
  exact ⟨hm', ⟨hnone, hprobe, hheld.stable (hrely call)⟩, fun other _ => hrely other⟩

end Row

section Discard

lemma sound_remove (hm : MemoryInv w row₀ m) (h : Knows w row₀ call m (.removing key)) :
    Sound w row₀ call m (m.setFile (w.filesDir call) none) (.uncaching key) := by
  obtain ⟨hdoomed, howns⟩ := h
  refine ⟨memoryInv_setFile hm nofun, hdoomed, fun other hother => ?_⟩
  obtain ⟨file, hfile, hwriter, hparse⟩ := howns
  have hat : KeyAt w m (w.filesDir call) key := ⟨file, false, hfile, hparse⟩
  refine rely_setFile (fun key' h => ?_) (fun f hf hwriter' => ?_) fun key' h => ?_
  · obtain rfl := hat.unique h
    exact Or.inr hdoomed
  · rw [hfile, some.injEq] at hf
    subst hf
    exact hother (mem_unique hwriter' hwriter)
  · obtain ⟨f, b, hf, hnone, -⟩ := h
    rw [hfile, some.injEq] at hf
    subst hf
    rw [hwriter] at hnone
    cases hnone

lemma memoryInv_setCache (hm : MemoryInv w row₀ m) (process : Nat) (key : Option MasterKey) : MemoryInv w row₀ (m.setCache process key) :=
  ⟨hm.kept, hm.accepted, hm.raw⟩

lemma rely_setCache {process : Nat} {cached : Option MasterKey}
    (hcache : ∀ key, m.cache process = some key → Recorded w m key →
      ∃ key', cached = some key' ∧ w.crypto.fingerprint key' = w.crypto.fingerprint key) (other : Nat) :
    Rely w row₀ other m (m.setCache process cached) where
  row _ h := h
  keyAt _ _ h := Or.inl h
  own _ _ h _ := h
  settled _ _ h := h
  cache key hkey hrecorded := by
    unfold Shared.setCache
    by_cases hprocess : w.process other = process
    · subst hprocess
      dsimp only
      rw [update_self]
      exact hcache key hkey hrecorded
    · dsimp only
      rw [update_of_ne hprocess]
      exact ⟨key, hkey, rfl⟩

lemma sound_uncache (hm : MemoryInv w row₀ m) (h : Doomed w row₀ m key) :
    Sound w row₀ call m (if m.cache (w.process call) = some key then m.setCache (w.process call) none else m) .failed := by
  split_ifs with hcached
  · refine ⟨memoryInv_setCache hm .., trivial, fun other _ => rely_setCache (fun key' hkey' hrecorded => ?_) other⟩
    obtain rfl := mem_unique hcached hkey'
    exact absurd hrecorded (h.not_recorded hm)
  · exact Sound.quiet hm trivial

lemma sound_cache {row : ClusterRow} (hm : MemoryInv w row₀ m) (h : Knows w row₀ call m (.caching row key)) :
    Sound w row₀ call m (m.setCache (w.process call) (some key)) (.done row) := by
  obtain ⟨hrow, hfp⟩ := h
  refine ⟨memoryInv_setCache hm .., ⟨hrow, key, ?_, hfp⟩, fun other _ => rely_setCache (fun key' _ hrecorded => ?_) other⟩
  · exact update_self ..
  · obtain ⟨row', hrow', hfp'⟩ := hrecorded
    obtain rfl := mem_unique hrow hrow'
    exact ⟨key, rfl, hfp.symm.trans hfp'⟩

end Discard

theorem sound_access {phase phase' : Phase} {move : Move} (hm : MemoryInv w row₀ m) (h : Knows w row₀ call m phase)
    (hstep : access w call m phase move = some (m', phase')) : Sound w row₀ call m m' phase' := by
  cases phase with
  | start =>
    cases move with
    | go =>
      cases hstep
      refine Sound.quiet hm ?_
      cases hrow : m.row with
      | some row => exact hrow
      | none =>
        cases hbefore : row₀ with
        | none => rfl
        | some row => exact absurd (hm.kept row hbefore) (by rw [hrow]; nofun)
    | _ => cases hstep
  | loaded existing =>
    cases move with
    | go =>
      cases hstep
      refine Sound.quiet hm ?_
      split_ifs
      · trivial
      · exact h
    | _ => cases hstep
  | resolving goal =>
    cases move with
    | go =>
      cases hstep
      refine Sound.quiet hm ?_
      split_ifs with hfile
      · exact h
      · cases goal with
        | first existing => exact ⟨existing, rfl, h⟩
        | second row =>
          obtain ⟨-, key, -, file, b, hat, -⟩ := h
          rw [hat] at hfile
          exact absurd rfl hfile
    | _ => cases hstep
  | reading goal =>
    cases move with
    | go =>
      cases hstep
      exact Sound.quiet hm (knows_readKeyFile hm h)
    | _ => cases hstep
  | rewrapping goal key =>
    cases move with
    | wrap env =>
      obtain ⟨pw, hpw, heq⟩ := map_eq_some_iff.mp hstep
      cases heq
      exact sound_wrap hm h hpw env
    | _ => cases hstep
  | minting goal =>
    cases move with
    | mint key env =>
      change some _ = _ at hstep
      by_cases hfile : (m.masterKey (w.filesDir call)).isSome
      · rw [if_pos hfile] at hstep
        cases hstep
        obtain ⟨existing, rfl, hexisting⟩ := h
        exact Sound.quiet hm hexisting
      · rw [if_neg hfile] at hstep
        cases hstep
        exact sound_create hm (not_isSome_iff_eq_none.mp hfile) h key env
    | _ => cases hstep
  | writing goal key bytes =>
    cases move with
    | write n =>
      cases hstep
      exact sound_write hm h n
    | _ => cases hstep
  | decided existing key minted =>
    obtain ⟨hexisting, hheld⟩ := h
    cases existing with
    | some row =>
      cases move with
      | go =>
        cases hstep
        exact Sound.quiet hm (knows_compareRow hm hexisting hheld)
      | _ => cases hstep
    | none =>
      cases move with
      | go =>
        cases hstep
        refine Sound.quiet hm ?_
        split_ifs with hreject
        · exact ⟨Or.inr ⟨hexisting, hreject⟩, hheld.2⟩
        · exact ⟨hexisting, hreject, hheld⟩
      | _ => cases hstep
  | inserting key minted =>
    cases move with
    | insert clusterId =>
      cases hstep
      exact sound_insert hm h clusterId
    | _ => cases hstep
  | reloading key minted =>
    cases move with
    | go =>
      cases hstep
      refine Sound.quiet hm ?_
      cases hrow : m.row with
      | none => trivial
      | some row => exact knows_compareRow hm hrow h.2.2
    | _ => cases hstep
  | rejected key minted =>
    cases move with
    | go =>
      cases hstep
      refine Sound.quiet hm ?_
      split_ifs with hminted
      · exact ⟨h.1, h.2 hminted.1⟩
      · exact h.1
    | _ => cases hstep
  | removing key =>
    cases move with
    | go =>
      cases hstep
      exact sound_remove hm h
    | removeFails =>
      cases hstep
      exact Sound.quiet hm h.1
    | _ => cases hstep
  | uncaching key =>
    cases move with
    | go =>
      cases hstep
      exact sound_uncache hm h
    | _ => cases hstep
  | caching row key =>
    cases move with
    | go =>
      cases hstep
      exact sound_cache hm h
    | _ => cases hstep
  | done row | failed => cases hstep

lemma sound_step {phase phase' : Phase} {a : Option Move} (hm : MemoryInv w row₀ m) (h : Knows w row₀ call m phase)
    (hstep : alignClusterRoot w call m phase a = some (m', phase')) : Sound w row₀ call m m' phase' := by
  cases a with
  | some move => exact sound_access hm h hstep
  | none =>
    cases phase with
    | done row => cases hstep
    | _ =>
      cases hstep
      exact Sound.quiet hm trivial

structure OneRoot (w : Setting) (s s' : State) : Prop where
  returned : ∀ c₁ c₂ row₁ row₂, s'.phase c₁ = .done row₁ → s'.phase c₂ = .done row₂ → row₁.secretFingerprint = row₂.secretFingerprint
  cached : ∀ c row, s'.phase c = .done row →
    ∃ key, s'.shared.cache (w.process c) = some key ∧ w.crypto.fingerprint key = row.secretFingerprint
  kept : ∀ dir key, KeyAt w s.shared dir key → Recorded w s.shared key → KeyAt w s'.shared dir key

lemma stable_inv (w : Setting) (row₀ : Option ClusterRow) : Stable (step w) (Known (MemoryInv w row₀) (Knows w row₀)) :=
  stable_known (Rely w row₀) (fun _ _ _ _ _ _ hm h hstep => sound_step hm h hstep) fun _ _ _ _ hm' hrely h => h.stable hm' hrely

lemma oneRoot_of_inv {s s' : State} {a : Nat × Option Move} (h : Known (MemoryInv w row₀) (Knows w row₀) s) (hstep : step w s a = some s') :
    OneRoot w s s' := by
  have h' := stable_inv w row₀ s a s' h hstep
  have hdone : ∀ c row, s'.phase c = .done row →
      s'.shared.row = some row ∧ ∃ key, s'.shared.cache (w.process c) = some key ∧ row.secretFingerprint = w.crypto.fingerprint key := by
    intro c row hphase
    have hknows := h'.thread c
    rw [hphase] at hknows
    exact hknows
  refine ⟨fun c₁ c₂ row₁ row₂ h₁ h₂ => ?_, fun c row hphase => ?_, fun dir key hat hrecorded => ?_⟩
  · obtain rfl := some.inj ((hdone c₁ row₁ h₁).1.symm.trans (hdone c₂ row₂ h₂).1)
    rfl
  · obtain ⟨-, key, hcache, hfp⟩ := hdone c row hphase
    exact ⟨key, hcache, hfp.symm⟩
  · obtain ⟨m', phase', hact, rfl⟩ := turn_eq_some.mp hstep
    have hrely := (sound_step h.memory (h.thread a.1) hact).2.2 (a.1 + 1) (Nat.succ_ne_self _)
    rcases hrely.keyAt dir key hat with hat' | hdoomed
    · exact hat'
    · obtain ⟨row, hrow, hfp⟩ := hrecorded
      exact absurd ⟨row, hrely.row row hrow, hfp⟩ (hdoomed.not_recorded h'.memory)

lemma initial_inv (w : Setting) (masterKey : Str → Option Bytes) (row : Option ClusterRow) (cache : Nat → Option MasterKey) :
    Known (MemoryInv w row) (Knows w row) (State.initial masterKey row cache) := by
  refine ⟨⟨fun _ h => h, fun hnone row' hrow => ?_, fun dir file key hfile _ => ?_⟩, fun _ => trivial⟩
  · rw [hnone] at hrow
    cases hrow
  · obtain ⟨content, -, rfl⟩ := map_eq_some_iff.mp hfile
    rfl

end Bookclerk.Cluster
