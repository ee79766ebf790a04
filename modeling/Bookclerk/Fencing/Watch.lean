import Bookclerk.Consent.Revision
import Bookclerk.System.Run

/-! The grant watcher and session registration. Both work under the epoch lock; other processes replace the
grants file at any time. -/

namespace Bookclerk.Fencing

open Str Consent List

abbrev PluginGrantStore := List PluginGrant

structure Plugin where
  request : PluginGrant
  platform : Bool
  key_ne : request.pluginKey ≠ []

def Plugin.key (p : Plugin) : Str :=
  p.request.pluginKey

structure Env where
  host : Host
  sha256 : ByteArray → Str
  parse : ByteArray → Option PluginGrantStore
  encode : PluginGrantStore → ByteArray
  effectiveSpawnGrant : Plugin → PluginGrant → PluginGrant

structure ExecutorIdentity where
  grantRevision : Str
  authorityRevision : Str

/-- `entry` is not in the source: the revision of the stored grant that the session was registered from. -/
structure LiveSession where
  pluginKey : Str
  grantRevision : Str
  cancelled : Bool
  entry : Str
deriving DecidableEq

section Store

def getByPluginKey (store : PluginGrantStore) (key : Str) : Option PluginGrant :=
  if key = [] then none else store.find? fun g => g.pluginKey ≠ [] && g.pluginKey == key

def upsert (store : PluginGrantStore) (grant : PluginGrant) : PluginGrantStore :=
  match store.findIdx? fun g => if grant.pluginKey = [] then g.pluginKey = [] && g.pluginId == grant.pluginId
      else g.pluginKey == grant.pluginKey with
  | some i => store.set i grant
  | none => store ++ [grant]

def networkCompatible (existing requested : Str) : Bool :=
  eqIgnoreAsciiCase existing requested ||
    (eqIgnoreAsciiCase existing "deny".toList && eqIgnoreAsciiCase requested "outbound".toList)

def grantWithinCeiling (existing requested : PluginGrant) : Bool :=
  networkCompatible existing.networkMode requested.networkMode && existing.domains ⊆ requested.domains &&
    existing.bindings ⊆ requested.bindings && existing.compatibilityFlags ⊆ requested.compatibilityFlags &&
    consumersCover requested.consumers existing.consumers && existing.jobs ⊆ requested.jobs &&
    existing.entrypoints ⊆ requested.entrypoints && existing.producers ⊆ requested.producers

def grantCovers (existing requested : PluginGrant) : Bool :=
  if existing.pluginKey ≠ [] ∨ requested.pluginKey ≠ [] then existing.pluginKey == requested.pluginKey
  else existing.pluginId == requested.pluginId

def isSafePlatformRequest (grant : PluginGrant) : Bool :=
  grant.networkMode == "deny".toList && grant.domains = ∅ && grant.tcp = ∅ && grant.addressCidrs = ∅ &&
    !grant.allowUndeclaredPublicRedirects && grant.compatibilityFlags = ∅ &&
    grant.bindings.sort.all fun b => b == "config".toList || b == "work_fs".toList

end Store

namespace Env

variable (E : Env)

def revision (grant : PluginGrant) : Str :=
  grantRevision E.sha256 E.host grant

def authorityRevision (grant : PluginGrant) : Str :=
  hashGrant E.sha256 E.host "authority".toList grant

def load (file : Option ByteArray) : Option PluginGrantStore :=
  match file with
  | none => some []
  | some bytes => E.parse bytes

def fingerprint (file : Option ByteArray) : Str :=
  match file with
  | none => []
  | some bytes => E.sha256 bytes

def currentRevision (store : PluginGrantStore) (key : Str) : Str :=
  ((getByPluginKey store key).map E.revision).getD []

end Env

inductive SpawnGrant where
  | refused
  | granted (persisted entry : PluginGrant)
  | install (store : PluginGrantStore)

def requireGrant (E : Env) (p : Plugin) (store : PluginGrantStore) : SpawnGrant :=
  match getByPluginKey store p.key with
  | some existing => if grantCovers existing p.request then .granted (effectiveGrant E.host existing p.request) existing else .refused
  | none => .refused

def ensurePlatformGrant (E : Env) (p : Plugin) (store : PluginGrantStore) : SpawnGrant :=
  if !isSafePlatformRequest p.request then .refused
  else
    match getByPluginKey store p.key with
    | some existing =>
      if grantWithinCeiling existing p.request then .granted (effectiveGrant E.host existing p.request) existing
      else .install (upsert store p.request)
    | none => .install (upsert store p.request)

def spawnGrant (E : Env) (p : Plugin) (store : PluginGrantStore) : SpawnGrant :=
  if p.platform then ensurePlatformGrant E p store else requireGrant E p store

def fenceStaleGrantRevisions (key current : Str) (sessions : List LiveSession) : List LiveSession :=
  if key = [] then sessions
  else
    sessions.map fun s =>
      if s.pluginKey = key ∧ (current = [] ∨ s.grantRevision ≠ current) then { s with cancelled := true } else s

def applyGrantStore (E : Env) (store : PluginGrantStore) (sessions : List LiveSession) : List LiveSession :=
  sessions.foldl
    (fun live s =>
      let current := E.currentRevision store s.pluginKey
      if current ≠ s.grantRevision then fenceStaleGrantRevisions s.pluginKey current live else live)
    sessions

/-- Who holds the epoch lock. A tick that has read a fingerprint knows in `fresh` whether the file is still the
one it read; the source has no such flag. -/
inductive Epoch where
  | free
  | starting
  | ticking (next : Str) (fresh : Bool)
  | installing (p : Plugin) (identity : ExecutorIdentity) (store : PluginGrantStore)
  | registering (session : LiveSession)

structure State where
  file : Option ByteArray
  started : Bool
  last : Str
  epoch : Epoch
  sessions : List LiveSession

def State.initial (file : Option ByteArray) : State where
  file := file
  started := false
  last := []
  epoch := .free
  sessions := []

inductive Action where
  | replace (file : Option ByteArray)
  | startLoad
  | startRead
  | tickRead
  | tickLoad
  | registerRead (p : Plugin) (identity : ExecutorIdentity)
  | registerSave (saved : Bool)
  | registerPush
  | unregister (i : Nat)

def Env.stillCurrent (E : Env) (p : Plugin) (identity : ExecutorIdentity) (persisted entry : PluginGrant) : Epoch :=
  if identity.grantRevision = [] ∨ E.revision persisted ≠ identity.grantRevision ∨
      E.authorityRevision (E.effectiveSpawnGrant p persisted) ≠ identity.authorityRevision then .free
  else
    .registering
      { pluginKey := p.key
        grantRevision := identity.grantRevision
        cancelled := false
        entry := E.revision entry }

def State.replaced (st : State) (file : Option ByteArray) : State :=
  { st with
    file := file
    epoch := match st.epoch with
      | .ticking next _ => .ticking next false
      | epoch => epoch }

def step (E : Env) (st : State) : Action → Option State
  | .replace file => some (st.replaced file)
  | .startLoad =>
    match st.epoch, st.started with
    | .free, false =>
      match E.load st.file with
      | some store => some { st with started := true, epoch := .starting, sessions := applyGrantStore E store st.sessions }
      | none => some { st with started := true }
    | _, _ => none
  | .startRead =>
    match st.epoch with
    | .starting => some { st with last := E.fingerprint st.file, epoch := .free }
    | _ => none
  | .tickRead =>
    match st.epoch, st.started with
    | .free, true =>
      if E.fingerprint st.file = st.last then some st else some { st with epoch := .ticking (E.fingerprint st.file) true }
    | _, _ => none
  | .tickLoad =>
    match st.epoch with
    | .ticking next _ =>
      match E.load st.file with
      | some store => some { st with last := next, epoch := .free, sessions := applyGrantStore E store st.sessions }
      | none => some { st with epoch := .free }
    | _ => none
  | .registerRead p identity =>
    match st.epoch with
    | .free =>
      match (E.load st.file).map (spawnGrant E p) with
      | none | some .refused => some st
      | some (.granted persisted entry) => some { st with epoch := E.stillCurrent p identity persisted entry }
      | some (.install store) =>
        some { st with
          epoch := .installing p identity store
          sessions := fenceStaleGrantRevisions p.key (E.revision p.request) st.sessions }
    | _ => none
  | .registerSave saved =>
    match st.epoch with
    | .installing p identity store =>
      if saved then
        some { st with file := some (E.encode store), epoch := E.stillCurrent p identity p.request p.request }
      else some { st with epoch := .free }
    | _ => none
  | .registerPush =>
    match st.epoch with
    | .registering session => some { st with epoch := .free, sessions := st.sessions ++ [session] }
    | _ => none
  | .unregister i => some { st with sessions := st.sessions.eraseIdx i }

variable {E : Env}

def Matches (E : Env) (store : PluginGrantStore) (s : LiveSession) : Prop :=
  (getByPluginKey store s.pluginKey).map E.revision = some s.entry

def AllMatch (E : Env) (file : Option ByteArray) (sessions : List LiveSession) : Prop :=
  ∀ store, E.load file = some store → ∀ s ∈ sessions, s.cancelled = false → Matches E store s

variable {sessions : List LiveSession} {s : LiveSession} {store : PluginGrantStore}

section Apply

def SameOrCancelled (sessions sessions' : List LiveSession) : Prop :=
  ∀ s' ∈ sessions', ∃ s ∈ sessions, s' = s ∨ s' = { s with cancelled := true }

lemma sameOrCancelled_fence (key current : Str) (sessions : List LiveSession) :
    SameOrCancelled sessions (fenceStaleGrantRevisions key current sessions) := by
  unfold fenceStaleGrantRevisions
  split_ifs with hkey
  · exact fun s hs => ⟨s, hs, .inl rfl⟩
  · intro s' hs'
    obtain ⟨s, hs, rfl⟩ := mem_map.mp hs'
    refine ⟨s, hs, ?_⟩
    split_ifs with hstale
    · exact .inr rfl
    · exact .inl rfl

lemma SameOrCancelled.trans {a b c : List LiveSession} (hab : SameOrCancelled a b) (hbc : SameOrCancelled b c) : SameOrCancelled a c := by
  intro s'' hs''
  obtain ⟨s', hs', hc⟩ := hbc s'' hs''
  obtain ⟨s, hs, hb⟩ := hab s' hs'
  refine ⟨s, hs, ?_⟩
  rcases hc with rfl | rfl <;> rcases hb with rfl | rfl
  · exact .inl rfl
  · exact .inr rfl
  · exact .inr rfl
  · exact .inr rfl

lemma live_of_fence {key current : Str} (hkey : key ≠ [])
    (hs : s ∈ fenceStaleGrantRevisions key current sessions) (hlive : s.cancelled = false) :
    s ∈ sessions ∧ (s.pluginKey = key → s.grantRevision = current) := by
  rw [fenceStaleGrantRevisions, if_neg hkey] at hs
  obtain ⟨t, ht, rfl⟩ := mem_map.mp hs
  split_ifs at hlive ⊢ with hstale
  refine ⟨ht, fun hsame => ?_⟩
  by_contra hother
  exact hstale ⟨hsame, .inr hother⟩

def fenceOne (E : Env) (store : PluginGrantStore) (live : List LiveSession) (t : LiveSession) : List LiveSession :=
  if E.currentRevision store t.pluginKey ≠ t.grantRevision then
    fenceStaleGrantRevisions t.pluginKey (E.currentRevision store t.pluginKey) live
  else live

lemma applyGrantStore_eq (store : PluginGrantStore) (sessions : List LiveSession) :
    applyGrantStore E store sessions = sessions.foldl (fenceOne E store) sessions :=
  rfl

lemma sameOrCancelled_foldl (store : PluginGrantStore) (snapshot live : List LiveSession) :
    SameOrCancelled live (snapshot.foldl (fenceOne E store) live) := by
  induction snapshot generalizing live with
  | nil => exact fun s hs => ⟨s, hs, .inl rfl⟩
  | cons t snapshot ih =>
    refine SameOrCancelled.trans ?_ (ih (fenceOne E store live t))
    unfold fenceOne
    split_ifs
    · exact sameOrCancelled_fence _ _ _
    · exact fun s hs => ⟨s, hs, .inl rfl⟩

lemma live_of_foldl (store : PluginGrantStore) {snapshot live : List LiveSession} (hkeys : ∀ t ∈ snapshot, t.pluginKey ≠ []) (hs : s ∈ snapshot.foldl (fenceOne E store) live) (hlive : s.cancelled = false) :
    s ∈ live ∧ ∀ t ∈ snapshot, t.pluginKey = s.pluginKey → t.grantRevision = s.grantRevision →
      E.currentRevision store s.pluginKey = s.grantRevision := by
  induction snapshot generalizing live with
  | nil => exact ⟨hs, fun t ht => absurd ht not_mem_nil⟩
  | cons t snapshot ih =>
    obtain ⟨hmem, hrest⟩ := ih (fun u hu => hkeys u (mem_cons_of_mem t hu)) hs
    unfold fenceOne at hmem
    by_cases hcurrent : E.currentRevision store t.pluginKey = t.grantRevision
    · rw [if_neg (not_not.mpr hcurrent)] at hmem
      refine ⟨hmem, forall_mem_cons.mpr ⟨fun hkey hrevision => ?_, hrest⟩⟩
      rw [← hkey, ← hrevision]
      exact hcurrent
    · rw [if_pos hcurrent] at hmem
      obtain ⟨hmem', hsame⟩ := live_of_fence (hkeys t mem_cons_self) hmem hlive
      refine ⟨hmem', forall_mem_cons.mpr ⟨fun hkey _ => ?_, hrest⟩⟩
      rw [hsame hkey.symm, hkey]

lemma live_of_apply (hkeys : ∀ s ∈ sessions, s.pluginKey ≠ []) (hs : s ∈ applyGrantStore E store sessions) (hlive : s.cancelled = false) :
    s ∈ sessions ∧ E.currentRevision store s.pluginKey = s.grantRevision := by
  obtain ⟨hmem, hcurrent⟩ := live_of_foldl store hkeys hs hlive
  exact ⟨hmem, hcurrent s hmem rfl rfl⟩

lemma mem_fenceOne {live : List LiveSession} (hs : s ∈ live)
    (hcurrent : E.currentRevision store s.pluginKey = s.grantRevision) (hne : s.grantRevision ≠ []) (t : LiveSession) :
    s ∈ fenceOne E store live t := by
  unfold fenceOne fenceStaleGrantRevisions
  split_ifs
  · exact hs
  · refine mem_map.mpr ⟨s, hs, if_neg ?_⟩
    rintro ⟨hkey, hnil | hother⟩
    · rw [← hkey, hcurrent] at hnil
      exact hne hnil
    · rw [← hkey, hcurrent] at hother
      exact hother rfl
  · exact hs

lemma mem_apply_of_current (hs : s ∈ sessions)
    (hcurrent : E.currentRevision store s.pluginKey = s.grantRevision) (hne : s.grantRevision ≠ []) :
    s ∈ applyGrantStore E store sessions := by
  have hfold : ∀ snapshot live : List LiveSession, s ∈ live → s ∈ snapshot.foldl (fenceOne E store) live := by
    intro snapshot
    induction snapshot with
    | nil => exact fun _ h => h
    | cons t snapshot ih => exact fun live h => ih _ (mem_fenceOne h hcurrent hne t)
  exact hfold sessions sessions hs

end Apply

structure Sound (s : LiveSession) : Prop where
  pluginKey : s.pluginKey ≠ []
  grantRevision : s.grantRevision ≠ []

lemma sound_of_sameOrCancelled {a b : List LiveSession} (h : SameOrCancelled a b) (ha : ∀ s ∈ a, Sound s) : ∀ s ∈ b, Sound s := by
  intro s' hs'
  obtain ⟨s, hs, rfl | rfl⟩ := h s' hs'
  · exact ha _ hs
  · exact ⟨(ha s hs).pluginKey, (ha s hs).grantRevision⟩

lemma matches_iff_of_current (hne : s.grantRevision ≠ [])
    (hcurrent : E.currentRevision store s.pluginKey = s.grantRevision) : Matches E store s ↔ s.grantRevision = s.entry := by
  unfold Matches
  rw [← hcurrent] at hne ⊢
  unfold Env.currentRevision at hne ⊢
  cases hentry : (getByPluginKey store s.pluginKey).map E.revision with
  | none =>
    rw [hentry] at hne
    exact absurd rfl hne
  | some revision => exact Option.some_inj

lemma allMatch_apply_iff {file : Option ByteArray}
    (hload : E.load file = some store) (h : ∀ s ∈ sessions, Sound s) :
    AllMatch E file (applyGrantStore E store sessions) ↔ ∀ s ∈ sessions, s.cancelled = false →
      E.currentRevision store s.pluginKey = s.grantRevision → s.grantRevision = s.entry := by
  constructor
  · intro hall s hs hlive hcurrent
    have hmem := mem_apply_of_current hs hcurrent (h s hs).grantRevision
    exact (matches_iff_of_current (h s hs).grantRevision hcurrent).mp (hall store hload s hmem hlive)
  · intro hentries store' hload' s hs hlive
    obtain rfl := Option.mem_unique hload hload'
    obtain ⟨hmem, hcurrent⟩ := live_of_apply (fun s hs => (h s hs).pluginKey) hs hlive
    exact (matches_iff_of_current (h s hmem).grantRevision hcurrent).mpr (hentries s hmem hlive hcurrent)

end Bookclerk.Fencing
