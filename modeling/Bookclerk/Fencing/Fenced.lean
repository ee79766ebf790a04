import Bookclerk.Fencing.Watch

namespace Bookclerk.Fencing

open Str Consent Bookclerk.System List Option

variable {a : Action} {identity : ExecutorIdentity} {p : Plugin}

variable {E : Env} {st st' : State}

def Recorded (E : Env) (st : State) : Prop :=
  st.started = true → E.fingerprint st.file = st.last → AllMatch E st.file st.sessions

/-- A tick ends with this step, and the file was not replaced since its first read. -/
def Completes (E : Env) (st : State) : Action → Prop
  | .tickRead => st.epoch = .free ∧ st.started = true ∧ E.fingerprint st.file = st.last
  | .tickLoad => ∃ next, st.epoch = .ticking next true
  | _ => False

def Fences (E : Env) (st : State) (a : Action) : Prop :=
  Completes E st a → ∀ st', step E st a = some st' → AllMatch E st'.file st'.sessions

/-- The recorded file does not come back under live sessions of another entry: not by a replacement, not when a
registration ends, and not because it was replaced between the start's two reads. And no tick applies a store that has
the revision of a session's effective grant where its entry had another one. -/
def KeepsRecord (E : Env) (st : State) : Action → Prop
  | .replace file => st.epoch = .free → Recorded E (st.replaced file)
  | .startRead => st.epoch = .starting → AllMatch E st.file st.sessions
  | .tickLoad => ∀ next fresh store, st.epoch = .ticking next fresh → E.fingerprint st.file = next → E.load st.file = some store →
      ∀ s ∈ st.sessions, s.cancelled = false → E.currentRevision store s.pluginKey = s.grantRevision → s.grantRevision = s.entry
  | .registerSave saved => ∀ p identity store, st.epoch = .installing p identity store →
      if saved then
        E.stillCurrent p identity p.request p.request = .free → Recorded E { st with file := some (E.encode store) }
      else Recorded E st
  | .registerPush => ∀ session, st.epoch = .registering session → Recorded E { st with sessions := st.sessions ++ [session] }
  | _ => True

structure Inv (E : Env) (st : State) : Prop where
  sessions : ∀ s ∈ st.sessions, Sound s
  registering : ∀ s, st.epoch = .registering s → Sound s
  fresh : ∀ next, st.epoch = .ticking next true → E.fingerprint st.file = next
  notStarted : st.started = false → st.last = [] ∧ st.epoch ≠ .starting ∧ ∀ next fresh, st.epoch ≠ .ticking next fresh
  recorded : st.epoch = .free → Recorded E st

lemma inv_initial (E : Env) (file : Option ByteArray) : Inv E (.initial file) := by
  refine ⟨nofun, nofun, nofun, fun _ => ⟨rfl, nofun, nofun⟩, fun _ hstarted => ?_⟩
  exact absurd hstarted Bool.false_ne_true

lemma Inv.release (h : Inv E st) (hrecorded : Recorded E st) : Inv E { st with epoch := .free } :=
  ⟨h.sessions, nofun, nofun, fun hstarted => ⟨(h.notStarted hstarted).1, nofun, nofun⟩, fun _ => hrecorded⟩

lemma stillCurrent_cases (E : Env) (p : Plugin) (identity : ExecutorIdentity) (persisted entry : PluginGrant) :
    E.stillCurrent p identity persisted entry = .free ∨ ∃ s, E.stillCurrent p identity persisted entry = .registering s ∧ Sound s := by
  unfold Env.stillCurrent
  split_ifs with hstale
  · exact .inl rfl
  · rw [not_or] at hstale
    exact .inr ⟨_, rfl, p.key_ne, hstale.1⟩

lemma Inv.stillCurrent (h : Inv E st) {persisted entry : PluginGrant}
    (hrecorded : E.stillCurrent p identity persisted entry = .free → Recorded E st) :
    Inv E { st with epoch := E.stillCurrent p identity persisted entry } := by
  rcases stillCurrent_cases E p identity persisted entry with hfree | ⟨s, hs, hsound⟩
  · rw [hfree]
    exact h.release (hrecorded hfree)
  · rw [hs]
    refine ⟨h.sessions, fun t ht => ?_, nofun, fun hstarted => ⟨(h.notStarted hstarted).1, nofun, nofun⟩, nofun⟩
    cases ht
    exact hsound

lemma Inv.startLoad (hsha : ∀ bytes, E.sha256 bytes ≠ []) (h : Inv E st) (hstep : step E st .startLoad = some st') : Inv E st' := by
  simp only [step] at hstep
  split at hstep
  case h_2 => cases hstep
  case h_1 hepoch hstarted =>
    split at hstep
    case h_1 store hload =>
      cases hstep
      refine ⟨?_, nofun, nofun, nofun, nofun⟩
      exact sound_of_sameOrCancelled (sameOrCancelled_foldl store _ _) h.sessions
    case h_2 hload =>
      cases hstep
      refine ⟨h.sessions, h.registering, h.fresh, nofun, fun _ _ hlast => ?_⟩
      -- only a missing file has the empty fingerprint, and it loads
      have hnil : E.fingerprint st.file = [] := hlast.trans (h.notStarted hstarted).1
      cases hfile : st.file with
      | none =>
        rw [hfile] at hload
        cases hload
      | some bytes =>
        rw [hfile] at hnil
        exact absurd hnil (hsha bytes)

section

variable (h : Inv E st)
include h

lemma Inv.startRead (hkeeps : KeepsRecord E st .startRead) (hstep : step E st .startRead = some st') : Inv E st' := by
  simp only [step] at hstep
  split at hstep
  case h_2 => cases hstep
  case h_1 hepoch =>
    cases hstep
    refine ⟨h.sessions, nofun, nofun, fun hstarted => ?_, fun _ _ _ => hkeeps hepoch⟩
    exact absurd hepoch (h.notStarted hstarted).2.1

lemma Inv.tickRead (hstep : step E st .tickRead = some st') : Inv E st' := by
  simp only [step] at hstep
  split at hstep
  case h_2 => cases hstep
  case h_1 hepoch hstarted =>
    split_ifs at hstep
    · cases hstep
      exact h
    · cases hstep
      refine ⟨h.sessions, nofun, fun next hnext => ?_, fun hnot => ?_, nofun⟩
      · cases hnext
        rfl
      · exact absurd (hstarted.symm.trans hnot) Bool.true_eq_false.mp

lemma Inv.tickLoad (hkeeps : KeepsRecord E st .tickLoad) (hstep : step E st .tickLoad = some st') : Inv E st' := by
  simp only [step] at hstep
  split at hstep
  case h_2 => cases hstep
  case h_1 next fresh hepoch =>
    split at hstep
    case h_1 store hload =>
      cases hstep
      refine ⟨?_, nofun, nofun, fun hstarted => ?_, fun _ _ hnext => ?_⟩
      · exact sound_of_sameOrCancelled (sameOrCancelled_foldl store _ _) h.sessions
      · exact absurd hepoch ((h.notStarted hstarted).2.2 next fresh)
      · exact (allMatch_apply_iff hload h.sessions).mpr (hkeeps next fresh store hepoch hnext hload)
    case h_2 hload =>
      cases hstep
      refine h.release fun _ _ store hstore => ?_
      rw [hload] at hstore
      cases hstore

lemma Inv.registerRead (hstep : step E st (.registerRead p identity) = some st') : Inv E st' := by
  simp only [step] at hstep
  split at hstep
  case h_2 => cases hstep
  case h_1 hepoch =>
    split at hstep
    · cases hstep
      exact h
    · cases hstep
      exact h
    · cases hstep
      exact h.stillCurrent fun _ => h.recorded hepoch
    · cases hstep
      refine ⟨sound_of_sameOrCancelled (sameOrCancelled_fence _ _ _) h.sessions, nofun, nofun, fun hstarted => ?_, nofun⟩
      exact ⟨(h.notStarted hstarted).1, nofun, nofun⟩

lemma Inv.registerSave {saved : Bool} (hkeeps : KeepsRecord E st (.registerSave saved))
    (hstep : step E st (.registerSave saved) = some st') : Inv E st' := by
  simp only [step] at hstep
  split at hstep
  case h_2 => cases hstep
  case h_1 p identity store hepoch =>
    have hrecorded := hkeeps p identity store hepoch
    split_ifs at hstep with hsaved
    · rw [if_pos hsaved] at hrecorded
      cases hstep
      have hfile : Inv E { st with file := some (E.encode store) } :=
        ⟨h.sessions, h.registering, fun _ hticking => absurd (hepoch.symm.trans hticking) nofun, h.notStarted,
          fun hfree => absurd (hepoch.symm.trans hfree) nofun⟩
      exact hfile.stillCurrent hrecorded
    · rw [if_neg hsaved] at hrecorded
      cases hstep
      exact h.release hrecorded

lemma Inv.registerPush (hkeeps : KeepsRecord E st .registerPush)
    (hstep : step E st .registerPush = some st') : Inv E st' := by
  simp only [step] at hstep
  split at hstep
  case h_2 => cases hstep
  case h_1 session hepoch =>
    cases hstep
    refine ⟨fun s hs => ?_, nofun, nofun, fun hstarted => ⟨(h.notStarted hstarted).1, nofun, nofun⟩, fun _ => hkeeps session hepoch⟩
    rcases mem_append.mp hs with hs | hs
    · exact h.sessions s hs
    · cases mem_singleton.mp hs
      exact h.registering session hepoch

end

lemma epoch_replaced (st : State) (file : Option ByteArray) :
    ((st.replaced file).epoch = st.epoch ∧ ∀ next fresh, st.epoch ≠ .ticking next fresh) ∨
      ∃ next fresh, st.epoch = .ticking next fresh ∧ (st.replaced file).epoch = .ticking next false := by
  cases hepoch : st.epoch with
  | ticking next fresh => exact .inr ⟨next, fresh, rfl, by simp only [State.replaced, hepoch]⟩
  | free => exact .inl ⟨by simp only [State.replaced, hepoch], nofun⟩
  | starting | installing p identity store | registering session => exact .inl ⟨by simp only [State.replaced, hepoch], nofun⟩

lemma Inv.replace (h : Inv E st) {file : Option ByteArray} (hkeeps : KeepsRecord E st (.replace file)) : Inv E (st.replaced file) := by
  rcases epoch_replaced st file with ⟨hsame, hother⟩ | ⟨next, fresh, hticking, hnow⟩
  · refine ⟨h.sessions, ?_, ?_, ?_, ?_⟩ <;> rw [hsame]
    · exact h.registering
    · exact fun next hticking => absurd hticking (hother next true)
    · exact h.notStarted
    · exact hkeeps
  · refine ⟨h.sessions, ?_, ?_, fun hstarted => ?_, ?_⟩
    · rw [hnow]
      exact nofun
    · rw [hnow]
      exact nofun
    · exact absurd hticking ((h.notStarted hstarted).2.2 next fresh)
    · rw [hnow]
      exact nofun

lemma Inv.unregister (h : Inv E st) (i : Nat) : Inv E { st with sessions := st.sessions.eraseIdx i } := by
  refine ⟨fun s hs => h.sessions s (mem_of_mem_eraseIdx hs), h.registering, h.fresh, h.notStarted, ?_⟩
  intro hfree hstarted hlast store hload s hs
  exact h.recorded hfree hstarted hlast store hload s (mem_of_mem_eraseIdx hs)

theorem Inv.step (hsha : ∀ bytes, E.sha256 bytes ≠ []) (h : Inv E st) (hkeeps : KeepsRecord E st a)
    (hstep : step E st a = some st') : Inv E st' := by
  cases a with
  | replace file =>
    cases hstep
    exact h.replace hkeeps
  | startLoad => exact h.startLoad hsha hstep
  | startRead => exact h.startRead hkeeps hstep
  | tickRead => exact h.tickRead hstep
  | tickLoad => exact h.tickLoad hkeeps hstep
  | registerRead p identity => exact h.registerRead hstep
  | registerSave saved => exact h.registerSave hkeeps hstep
  | registerPush => exact h.registerPush hkeeps hstep
  | unregister i =>
    cases hstep
    exact h.unregister i

lemma Inv.fences (h : Inv E st) (hkeeps : KeepsRecord E st a) : Fences E st a := by
  intro hcompletes st' hstep
  cases a with
  | tickRead =>
    obtain ⟨hfree, hstarted, hlast⟩ := hcompletes
    simp only [Fencing.step, hfree, hstarted, if_pos hlast] at hstep
    cases hstep
    exact h.recorded hfree hstarted hlast
  | tickLoad =>
    obtain ⟨next, hepoch⟩ := hcompletes
    simp only [Fencing.step, hepoch] at hstep
    split at hstep
    case h_1 store hload =>
      cases hstep
      exact (allMatch_apply_iff hload h.sessions).mpr (hkeeps next true store hepoch (h.fresh next hepoch) hload)
    case h_2 hload =>
      cases hstep
      intro store hstore
      rw [hload] at hstore
      cases hstore
  | _ => exact hcompletes.elim

def FencesNext (E : Env) (st : State) (a : Action) : Prop :=
  Fences E st a ∧ ∀ st', step E st a = some st' → Fences E st' .tickRead

lemma recorded_of_fences (st : State) (hfree : st.epoch = .free) (h : Fences E st .tickRead) : Recorded E st := by
  intro hstarted hlast
  refine h ⟨hfree, hstarted, hlast⟩ st ?_
  simp only [step, hfree, hstarted, if_pos hlast]

lemma Inv.keepsRecord (h : Inv E st) (hnext : FencesNext E st a) : KeepsRecord E st a := by
  cases a with
  | replace file =>
    intro hfree
    refine recorded_of_fences _ ?_ (hnext.2 _ rfl)
    simp only [State.replaced, hfree]
  | startRead =>
    intro hepoch
    have hstarted : st.started = true := by
      by_contra hnot
      exact (h.notStarted (Bool.not_eq_true _ ▸ hnot)).2.1 hepoch
    have hstep : Fencing.step E st .startRead = some { st with last := E.fingerprint st.file, epoch := .free } := by
      simp only [Fencing.step, hepoch]
    exact recorded_of_fences { st with last := E.fingerprint st.file, epoch := .free } rfl (hnext.2 _ hstep) hstarted rfl
  | tickLoad =>
    intro next fresh store hepoch hlast hload
    have hstarted : st.started = true := by
      by_contra hnot
      exact (h.notStarted (Bool.not_eq_true _ ▸ hnot)).2.2 next fresh hepoch
    have hstep : Fencing.step E st .tickLoad =
        some { st with last := next, epoch := .free, sessions := applyGrantStore E store st.sessions } := by
      simp only [Fencing.step, hepoch, hload]
    refine (allMatch_apply_iff hload h.sessions).mp ?_
    exact recorded_of_fences { st with last := next, epoch := .free, sessions := applyGrantStore E store st.sessions } rfl
      (hnext.2 _ hstep) hstarted hlast
  | registerSave saved =>
    intro p identity store hepoch
    cases saved with
    | true =>
      intro hfree
      have hstep : Fencing.step E st (.registerSave true) =
          some { st with file := some (E.encode store), epoch := .free } := by
        simp only [Fencing.step, hepoch, if_true, hfree]
      exact recorded_of_fences { st with file := some (E.encode store), epoch := .free } rfl (hnext.2 _ hstep)
    | false =>
      have hstep : Fencing.step E st (.registerSave false) = some { st with epoch := .free } := by
        simp only [Fencing.step, hepoch, Bool.false_eq_true, if_false]
      exact recorded_of_fences { st with epoch := .free } rfl (hnext.2 _ hstep)
  | registerPush =>
    intro session hepoch
    have hstep : Fencing.step E st .registerPush = some { st with epoch := .free, sessions := st.sessions ++ [session] } := by
      simp only [Fencing.step, hepoch]
    exact recorded_of_fences { st with epoch := .free, sessions := st.sessions ++ [session] } rfl (hnext.2 _ hstep)
  | startLoad | tickRead | registerRead p identity | unregister i => trivial

lemma Inv.fencesNext (hsha : ∀ bytes, E.sha256 bytes ≠ []) (h : Inv E st) (hkeeps : KeepsRecord E st a) : FencesNext E st a :=
  ⟨h.fences hkeeps, fun _ hstep => (h.step hsha hkeeps hstep).fences trivial⟩

section Examples

def approvedFile : ByteArray :=
  ⟨#[1]⟩

def revokedFile : ByteArray :=
  ⟨#[2]⟩

def twoFiles : Env where
  host := plainHost
  sha256 bytes := '#' :: bytes.data.toList.map fun byte => Char.ofNat byte.toNat
  parse bytes := if bytes.data = #[1] then some [fetchGrant []] else some []
  encode _ := revokedFile
  effectiveSpawnGrant _ persisted := persisted

def fetchPlugin : Plugin where
  request := fetchRequest []
  platform := false
  key_ne := by decide

lemma effective_fetchGrant : effectiveGrant plainHost (fetchGrant []) (fetchRequest []) = fetchGrant [] := by
  have hconsumers : intersectConsumers (fetchGrant []).consumers (fetchRequest []).consumers = (fetchGrant []).consumers := by
    unfold intersectConsumers
    rw [show (fetchRequest []).consumers = ∅ from rfl, Finset.sort_empty]
    rfl
  unfold effectiveGrant
  rw [hconsumers]
  rfl

def fetchIdentity : ExecutorIdentity where
  grantRevision := twoFiles.revision (fetchGrant [])
  authorityRevision := twoFiles.authorityRevision (fetchGrant [])

def fetchSession : LiveSession where
  pluginKey := fetchPlugin.key
  grantRevision := twoFiles.revision (fetchGrant [])
  cancelled := false
  entry := twoFiles.revision (fetchGrant [])

lemma spawnGrant_fetchPlugin : (twoFiles.load (some approvedFile)).map (spawnGrant twoFiles fetchPlugin) =
    some (.granted (fetchGrant []) (fetchGrant [])) := by
  have hload : twoFiles.load (some approvedFile) = some [fetchGrant []] := rfl
  have hentry : getByPluginKey [fetchGrant []] fetchPlugin.key = some (fetchGrant []) := rfl
  rw [hload, map_some, spawnGrant, requireGrant, hentry]
  exact congrArg (fun g => some (SpawnGrant.granted g (fetchGrant []))) effective_fetchGrant

lemma stillCurrent_fetchPlugin (g : PluginGrant) :
    twoFiles.stillCurrent fetchPlugin fetchIdentity (fetchGrant []) g = .registering { fetchSession with entry := twoFiles.revision g } := by
  unfold Env.stillCurrent
  rw [if_neg]
  · rfl
  · rintro (h | h | h)
    · cases h
    · exact h rfl
    · exact h rfl

lemma register_fetchPlugin {st : State} (hfile : st.file = some approvedFile) (hfree : st.epoch = .free) (as : List Action) :
    run (step twoFiles) st (.registerRead fetchPlugin fetchIdentity :: .registerPush :: as) =
      run (step twoFiles) { st with sessions := st.sessions ++ [fetchSession] } as := by
  have hread : step twoFiles st (.registerRead fetchPlugin fetchIdentity) = some { st with epoch := .registering fetchSession } := by
    simp only [step, hfree, hfile, spawnGrant_fetchPlugin, stillCurrent_fetchPlugin]
    rfl
  have hpush : step twoFiles { st with epoch := .registering fetchSession } .registerPush =
      some { st with sessions := st.sessions ++ [fetchSession] } := by
    simp only [step, ← hfree]
  rw [run_cons_of_step hread, run_cons_of_step hpush]

lemma apply_fetchSession : applyGrantStore twoFiles [fetchGrant []] [fetchSession] = [fetchSession] := by
  have hcurrent : twoFiles.currentRevision [fetchGrant []] fetchSession.pluginKey = fetchSession.grantRevision := rfl
  rw [applyGrantStore_eq, foldl_cons, foldl_nil, fenceOne, if_neg (not_not.mpr hcurrent)]

def revokedUnfenced : State where
  file := some revokedFile
  started := true
  last := twoFiles.fingerprint (some revokedFile)
  epoch := .free
  sessions := [fetchSession]

lemma not_fences_revokedUnfenced : Completes twoFiles revokedUnfenced .tickRead ∧ ¬Fences twoFiles revokedUnfenced .tickRead := by
  refine ⟨⟨rfl, rfl, rfl⟩, fun h => ?_⟩
  have hmatch := recorded_of_fences revokedUnfenced rfl h rfl rfl [] rfl fetchSession mem_cons_self rfl
  cases hmatch

def startRace : List Action :=
  [.registerRead fetchPlugin fetchIdentity, .registerPush, .startLoad, .replace (some revokedFile), .startRead]

def backAndForth : List Action :=
  [.startLoad, .startRead, .replace (some approvedFile), .registerRead fetchPlugin fetchIdentity, .registerPush,
    .replace (some revokedFile)]

lemma run_startRace : run (step twoFiles) (.initial (some approvedFile)) startRace = some revokedUnfenced := by
  have hload : twoFiles.load (some approvedFile) = some [fetchGrant []] := rfl
  rw [startRace, register_fetchPlugin rfl rfl]
  simp only [run, step, State.initial, nil_append, hload, apply_fetchSession, bind_some, State.replaced, revokedUnfenced]

lemma run_backAndForth : run (step twoFiles) (.initial (some revokedFile)) backAndForth = some revokedUnfenced := by
  have hload : twoFiles.load (some revokedFile) = some [] := rfl
  have hstart : step twoFiles (.initial (some revokedFile)) .startLoad =
      some { State.initial (some revokedFile) with started := true, epoch := .starting } := by
    simp only [step, State.initial, hload, applyGrantStore_eq, foldl_nil]
  rw [backAndForth, run_cons_of_step hstart, run_cons_of_step rfl, run_cons_of_step rfl, register_fetchPlugin rfl rfl]
  simp only [run, step, State.initial, bind_some, State.replaced, revokedUnfenced, nil_append]

end Examples

end Bookclerk.Fencing
