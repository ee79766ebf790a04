import Bookclerk.Backup.Restorable

namespace Bookclerk.Backup

open Str Bookclerk.System List Option

variable {live : Finset Str} {remaining : List Str} {n : Nat} {text : Str}

variable {Object : Type*} {c : Codec Object} {f : Files} {r : Files × Next}

section Put

variable {digest : Str} {path tmp : Str × Str} {bytes : Bytes}

section

variable (h : objectPath digest = .ok path)
include h

lemma sound_lookUp (hwork : work c f (.lookUp digest path bytes) .go = some r) : Sound c f r := by
  cases hwork
  apply sound_same
  split_ifs
  · split
    · trivial
    · rename_i e herror
      exact ⟨h, spoilt_of_error h herror⟩
  · exact knows_stageObject h bytes

lemma sound_createObject
    (hwork : work c f (.createObject digest path bytes) (.tail text) = some r) : Sound c f r := by
  simp only [work] at hwork
  split at hwork
  · cases hwork
    exact sound_same trivial
  · rename_i objects hcreate
    cases hwork
    obtain ⟨_, rfl⟩ := create_eq_some hcreate
    exact ⟨keeps_hidden (hidden_uniqueTmpName ..) fun path' hne => AList.lookup_insert_ne hne, h, hidden_uniqueTmpName ..⟩

lemma sound_fillObject (htmp : Hidden tmp.2)
    (hwork : work c f (.fillObject digest path tmp bytes) (.write n) = some r) : Sound c f r := by
  cases hwork
  refine ⟨keeps_hidden htmp fun path' hne => lookup_append_ne hne _, ?_⟩
  split_ifs
  · exact ⟨h, htmp⟩
  · exact ⟨h, htmp⟩

lemma sound_linkObject (htmp : Hidden tmp.2)
    (hwork : work c f (.linkObject digest path tmp) .go = some r) : Sound c f r := by
  simp only [work] at hwork
  split at hwork
  · cases hwork
    exact sound_same trivial
  · rename_i objects hlink
    cases hwork
    exact ⟨keeps_objects fun _ _ _ _ _ hstored => lookup_linkNoClobber hlink hstored, h, htmp⟩

lemma sound_verifyObject (hwork : work c f (.verifyObject digest path) .go = some r) : Sound c f r := by
  cases hwork
  apply sound_same
  split_ifs
  · split
    · trivial
    · rename_i e herror
      exact spoilt_of_error h herror
  · trivial

end

end Put

section Publish

variable {id staging hashTmp : Str} {json rest written : Bytes}

lemma sound_verifyReferenced {manifest : BackupManifest}
    (h : ∀ digest ∈ manifest.referencedObjects, digest ∈ remaining ∨ Present c f digest)
    (hwork : work c f (.verifyReferenced manifest remaining) .go = some r) : Sound c f r := by
  cases remaining with
  | nil =>
    cases hwork
    refine sound_same (knows_stageManifest fun digest hdigest => ?_)
    exact (h digest hdigest).resolve_left not_mem_nil
  | cons d remaining =>
    cases hwork
    apply sound_same
    split
    · rename_i object hobject
      intro digest hdigest
      rcases h digest hdigest with hmem | hpresent
      · rcases mem_cons.mp hmem with rfl | hrest
        · exact Or.inr ⟨object, hobject⟩
        · exact Or.inl hrest
      · exact Or.inr hpresent
    · trivial

lemma Staged.of_lookup {manifests : Directory Str} (h : Staged c f id staging written json)
    (hlookup : manifests.lookup staging = f.manifests.lookup staging) :
    Staged c { f with manifests := manifests } id staging written json :=
  ⟨h.safe, h.hidden, hlookup.trans h.content, h.verified.of_objects rfl⟩

lemma sound_createStaging (hid : manifestIdOk id = true) (h : Verified c f json)
    (hwork : work c f (.createStaging id json) (.tail text) = some r) : Sound c f r := by
  simp only [work] at hwork
  split at hwork
  · cases hwork
    exact sound_same trivial
  · rename_i manifests hcreate
    cases hwork
    obtain ⟨_, rfl⟩ := create_eq_some hcreate
    have hhidden := hidden_uniqueTmpName (jsonName id) text
    refine ⟨keeps_manifests_of_lookup fun id' hid' => AList.lookup_insert_ne (jsonName_ne_hidden hid' hhidden), ?_⟩
    exact ⟨[], rfl, hid, hhidden, AList.lookup_insert _, h.of_objects rfl⟩

lemma sound_fillStaging (hrest : written ++ rest = json) (h : Staged c f id staging written json)
    (hwork : work c f (.fillStaging id staging json rest) (.write n) = some r) : Sound c f r := by
  cases hwork
  refine ⟨keeps_manifests_of_lookup fun id' hid' => lookup_append_ne (jsonName_ne_hidden hid' h.hidden) _, ?_⟩
  have hsplit : (written ++ rest.take (n + 1)) ++ rest.drop (n + 1) = json := by
    rw [append_assoc, take_append_drop, hrest]
  have hstaged : Staged c { f with manifests := append f.manifests staging (rest.take (n + 1)) } id staging
      (written ++ rest.take (n + 1)) json :=
    ⟨h.safe, h.hidden, lookup_append h.content _, h.verified.of_objects rfl⟩
  split_ifs with hend
  · rw [hend, append_nil] at hsplit
    rwa [hsplit] at hstaged
  · exact ⟨_, hsplit, hstaged⟩

lemma sound_createHash (h : Staged c f id staging json json)
    (hwork : work c f (.createHash id staging json) (.tail text) = some r) : Sound c f r := by
  simp only [work] at hwork
  split at hwork
  · cases hwork
    exact sound_same trivial
  · rename_i manifests hcreate
    cases hwork
    obtain ⟨hnew, rfl⟩ := create_eq_some hcreate
    have hhidden := hidden_uniqueTmpName (hashName id) text
    have hne : staging ≠ uniqueTmpName (hashName id) text := by
      rintro rfl
      cases hnew.symm.trans h.content
    refine ⟨keeps_manifests_of_lookup fun id' hid' => AList.lookup_insert_ne (jsonName_ne_hidden hid' hhidden), ?_⟩
    exact ⟨hhidden, hne, json, h.of_lookup (AList.lookup_insert_ne hne)⟩

section

variable (hhidden : Hidden hashTmp) (hne : staging ≠ hashTmp) (h : Staged c f id staging json json)
include hhidden hne h

lemma sound_fillHash
    (hwork : work c f (.fillHash id staging hashTmp rest) (.write n) = some r) : Sound c f r := by
  cases hwork
  have hstaged := h.of_lookup (lookup_append_ne hne (rest.take (n + 1)))
  refine ⟨keeps_manifests_of_lookup fun id' hid' => lookup_append_ne (jsonName_ne_hidden hid' hhidden) _, ?_⟩
  split_ifs
  · exact ⟨hhidden, hne, json, hstaged⟩
  · exact ⟨hhidden, hne, json, hstaged⟩

lemma sound_renameHash
    (hwork : work c f (.renameHash id staging hashTmp) .go = some r) : Sound c f r := by
  simp only [work] at hwork
  split at hwork
  · cases hwork
    exact sound_same trivial
  · rename_i manifests hrename
    cases hwork
    have hstaging : staging ≠ hashName id := by
      rintro rfl
      exact not_hidden_append h.safe _ h.hidden
    refine ⟨keeps_manifests_of_lookup fun id' hid' => ?_, json, h.of_lookup (lookup_rename_ne hrename hne hstaging)⟩
    exact lookup_rename_ne hrename (jsonName_ne_hidden hid' hhidden) hashName_ne_jsonName.symm

end

lemma sound_renameManifest (h : Staged c f id staging json json)
    (hwork : work c f (.renameManifest id staging) .go = some r) : Sound c f r := by
  simp only [work] at hwork
  split at hwork
  · cases hwork
    exact sound_same trivial
  · rename_i manifests hrename
    cases hwork
    refine ⟨keeps_manifests fun id' json' hid' hjson' => ?_, trivial⟩
    obtain ⟨content, hcontent, rfl⟩ := rename_eq_some hrename
    obtain rfl := mem_unique hcontent h.content
    by_cases hname : jsonName id' = jsonName id
    · rw [hname, AList.lookup_insert] at hjson'
      obtain rfl : content = json' := some.inj hjson'
      exact Or.inr h.verified
    · rw [AList.lookup_insert_ne hname, AList.lookup_erase_ne (jsonName_ne_hidden hid' h.hidden)] at hjson'
      exact Or.inl hjson'

end Publish

lemma keeps_erase_manifest (name : Str) : Keeps c f { f with manifests := f.manifests.erase name } := by
  refine keeps_manifests fun id json hid hjson => Or.inl ?_
  have hne : jsonName id ≠ name := by
    rintro rfl
    rw [AList.lookup_erase] at hjson
    cases hjson
  rwa [AList.lookup_erase_ne hne] at hjson

lemma sound_openManifests {order : List Str} (hwork : work c f .openManifests (.names order) = some r) : Sound c f r := by
  simp only [work] at hwork
  split_ifs at hwork with hperm
  cases hwork
  refine sound_same fun id json _ hjson => Or.inl (hperm.mem_iff.mpr ?_)
  rw [← AList.mem_keys, ← AList.lookup_isSome, hjson]
  rfl

lemma sound_openObjects {order : List (Str × Str)} (h : Covered c f live)
    (hwork : work c f (.openObjects live) (.paths order) = some r) : Sound c f r := by
  simp only [work] at hwork
  split_ifs at hwork
  cases hwork
  exact sound_same h

lemma sound_listManifests {out : List BackupManifest} (h : StageKnows c f (.listManifests remaining out))
    (hwork : work c f (.listManifests remaining out) .go = some r) : Sound c f r := by
  cases remaining with
  | nil =>
    cases hwork
    exact sound_same (covered_liveObjects h)
  | cons name remaining =>
    cases hwork
    exact sound_same (knows_listStrict h)

lemma sound_sweep {remaining : List (Str × Str)} {deleted : Nat} (h : Covered c f live)
    (hwork : work c f (.sweep live remaining deleted) .go = some r) : Sound c f r := by
  cases remaining with
  | nil =>
    cases hwork
    exact sound_same trivial
  | cons path remaining =>
    cases hwork
    exact sound_sweepFile h path remaining deleted

theorem sound_work {stage : Stage} {choice : Choice} (h : StageKnows c f stage) (hwork : work c f stage choice = some r) :
    Sound c f r := by
  cases choice with
  | go =>
    cases stage with
    | lookUp => exact sound_lookUp h hwork
    | replace =>
      cases hwork
      exact ⟨keeps_erase_spoilt h.2, knows_stageObject h.1 _⟩
    | linkObject => exact sound_linkObject h.1 h.2 hwork
    | unstageObject =>
      cases hwork
      exact ⟨keeps_hidden h.2 fun path' hne => AList.lookup_erase_ne hne, h.1⟩
    | verifyObject => exact sound_verifyObject h hwork
    | retract =>
      cases hwork
      exact ⟨keeps_erase_spoilt h, trivial⟩
    | verifyReferenced => exact sound_verifyReferenced h hwork
    | renameHash =>
      obtain ⟨hhidden, hne, json, hstaged⟩ := h
      exact sound_renameHash hhidden hne hstaged hwork
    | renameManifest =>
      obtain ⟨json, hstaged⟩ := h
      exact sound_renameManifest hstaged hwork
    | unlinkJson | unlinkHash =>
      cases hwork
      exact ⟨keeps_erase_manifest _, trivial⟩
    | listManifests => exact sound_listManifests h hwork
    | sweep => exact sound_sweep h hwork
    | _ => cases hwork
  | tail =>
    cases stage with
    | createObject => exact sound_createObject h hwork
    | createStaging => exact sound_createStaging h.1 h.2 hwork
    | createHash => exact sound_createHash h hwork
    | _ => cases hwork
  | write =>
    cases stage with
    | fillObject => exact sound_fillObject h.1 h.2 hwork
    | fillStaging =>
      obtain ⟨written, hrest, hstaged⟩ := h
      exact sound_fillStaging hrest hstaged hwork
    | fillHash =>
      obtain ⟨hhidden, hne, json, hstaged⟩ := h
      exact sound_fillHash hhidden hne hstaged hwork
    | _ => cases hwork
  | names =>
    cases stage with
    | openManifests => exact sound_openManifests hwork
    | _ => cases hwork
  | paths =>
    cases stage with
    | openObjects => exact sound_openObjects h hwork
    | _ => cases hwork
  | fail =>
    have hfail : work c f stage .fail = some (f, .done (.error .io)) := by cases stage <;> rfl
    cases hfail.symm.trans hwork
    exact sound_same trivial

lemma knows_begin (call : Call Object) : NextKnows c f (call.begin c) := by
  cases call with
  | putObject object =>
    simp only [Call.begin]
    split
    · trivial
    · split
      · trivial
      · assumption
  | publishManifest manifest => exact fun digest hdigest => Or.inl ((Finset.mem_sort _).mpr hdigest)
  | deleteManifest id =>
    simp only [Call.begin]
    split_ifs
    · trivial
    · trivial
  | gcUnreferencedObjects => trivial

structure Good (c : Codec Object) (m : Shared) : Prop where
  exclusive : m.locks.Exclusive
  restorable : Restorable c m.files

def Knows (c : Codec Object) (thread : Nat) (m : Shared) : Phase → Prop
  | .idle _ => True
  | .busy handle stage => m.locks.Holds thread handle ∧ StageKnows c m.files stage

def Rely (thread : Nat) (m m' : Shared) : Prop :=
  ∀ handle, m.locks.Holds thread handle → m'.locks.Holds thread handle ∧ m'.files = m.files

variable {m m' : Shared} {thread handle : Nat} {phase phase' : Phase}

lemma rely_of_holds (h : m.locks.Exclusive) (hholds : m.locks.Holds thread handle) {other : Nat} (hne : other ≠ thread) : Rely other m m' :=
  fun _ hother => absurd (hother.unique h hholds) hne

structure SoundAct (c : Codec Object) (thread : Nat) (m : Shared) (r : Shared × Phase) : Prop where
  good : Good c r.1
  knows : Knows c thread r.1 r.2
  rely : ∀ other, other ≠ thread → Rely other m r.1
  keeps : Keeps c m.files r.1.files

lemma good_settle (h : Good c m) (next : Next) : Good c (settle m handle next).1 := by
  cases next with
  | more stage => exact h
  | done result => exact ⟨h.exclusive.release handle, h.restorable⟩

lemma knows_settle (hholds : m.locks.Holds thread handle) {next : Next} (h : NextKnows c m.files next) :
    Knows c thread (settle m handle next).1 (settle m handle next).2 := by
  cases next with
  | more stage => exact ⟨hholds, h⟩
  | done result => trivial

lemma settle_files (next : Next) : (settle m handle next).1.files = m.files := by
  cases next <;> rfl

lemma sound_call (hgood : Good c m) {locks : Locks} (hacquire : m.locks.acquire thread handle = some locks) (call : Call Object) :
    SoundAct c thread m (settle { m with locks := locks } handle (call.begin c)) where
  good := good_settle (m := ⟨m.files, locks⟩) ⟨hgood.exclusive.acquire hacquire, hgood.restorable⟩ _
  knows := knows_settle (Locks.holds_acquire hacquire) (knows_begin call)
  -- the thread got the lock, so no other has it
  rely other hne handle' hother := by
    have hheld := hother.acquire_other hne.symm hacquire
    exact absurd (hheld.unique (hgood.exclusive.acquire hacquire) (Locks.holds_acquire hacquire)) hne
  keeps := by
    rw [settle_files]
    exact Keeps.refl

lemma sound_file (hgood : Good c m) (hholds : m.locks.Holds thread handle) {r : Files × Next} (h : Sound c m.files r) :
    SoundAct c thread m (settle { m with files := r.1 } handle r.2) where
  good := good_settle (m := ⟨r.1, m.locks⟩) ⟨hgood.exclusive, h.keeps.restorable hgood.restorable⟩ _
  knows := knows_settle (m := ⟨r.1, m.locks⟩) hholds h.knows
  rely other hne := rely_of_holds hgood.exclusive hholds hne
  keeps := by
    rw [settle_files]
    exact h.keeps

theorem sound_act {move : Move Object} {r : Shared × Phase} (hgood : Good c m) (hknows : Knows c thread m phase)
    (hact : act c thread m phase move = some r) : SoundAct c thread m r := by
  have hcrash : SoundAct c thread m ({ m with locks := m.locks.abandon thread }, .idle none) :=
    ⟨⟨hgood.exclusive.abandon thread, hgood.restorable⟩, trivial,
      fun other hne handle' hother => ⟨hother.abandon_other hne.symm, rfl⟩, Keeps.refl⟩
  cases phase with
  | idle last =>
    cases move with
    | call handle call =>
      obtain ⟨locks, hacquire, rfl⟩ := map_eq_some_iff.mp hact
      exact sound_call hgood hacquire call
    | lockExclusive handle =>
      obtain ⟨locks, hacquire, rfl⟩ := map_eq_some_iff.mp hact
      exact ⟨⟨hgood.exclusive.acquire hacquire, hgood.restorable⟩, trivial,
        fun other hne handle' hother => ⟨hother.acquire_other hne.symm hacquire, rfl⟩, Keeps.refl⟩
    | dropGuard handle =>
      simp only [act] at hact
      split_ifs at hact with howner
      obtain rfl := some.inj hact
      have hholds := Locks.holds_of_any howner
      exact ⟨⟨hgood.exclusive.release handle, hgood.restorable⟩, trivial,
        fun other hne => rely_of_holds hgood.exclusive hholds hne, Keeps.refl⟩
    | file => cases hact
    | crash =>
      cases hact
      exact hcrash
  | busy handle stage =>
    cases move with
    | file choice =>
      obtain ⟨r, hwork, rfl⟩ := map_eq_some_iff.mp hact
      exact sound_file hgood hknows.1 (sound_work hknows.2 hwork)
    | crash =>
      cases hact
      exact hcrash
    | _ => cases hact

theorem stable_good (c : Codec Object) : Stable (step c) (Known (Good c) (Knows c)) := by
  apply stable_known Rely
  · intro thread m phase move m' phase' hgood hknows hact
    obtain ⟨hgood', hknows', hrely, _⟩ := sound_act hgood hknows hact
    exact ⟨hgood', hknows', hrely⟩
  · intro thread m m' phase _ hrely hknows
    cases phase with
    | idle last => trivial
    | busy handle stage =>
      obtain ⟨hholds, hfiles⟩ := hrely handle hknows.1
      exact ⟨hholds, hfiles ▸ hknows.2⟩

lemma known_initial (c : Codec Object) : Known (Good c) (Knows c) State.initial where
  memory :=
    ⟨Locks.exclusive_free, by
      rintro manifest ⟨id, json, _, hjson, _⟩
      cases hjson⟩
  thread _ := trivial

def AllRestorable (c : Codec Object) (f : Files) : Prop :=
  ∀ id manifest, readManifest c f id = .ok manifest →
    ∀ digest ∈ manifest.referencedObjects, ∃ object, getObject c f digest = .ok object

def RemovesOnlyGarbage (c : Codec Object) (f f' : Files) : Prop :=
  ∀ digest path, objectPath digest = .ok path → (f.objects.lookup path).isSome → f'.objects.lookup path = none →
    ∀ id manifest, readManifest c f id = .ok manifest → digest ∉ manifest.referencedObjects

lemma Restorable.all (h : Restorable c f) : AllRestorable c f := by
  intro id manifest hread
  obtain ⟨json, hid, hjson, hdecode⟩ := listed_of_readManifest hread
  exact h manifest ⟨id, json, hid, hjson, hdecode⟩

lemma Keeps.removesOnlyGarbage {f' : Files} (h : Keeps c f f') (hf : Restorable c f) : RemovesOnlyGarbage c f f' := by
  intro digest path hpath _ hgone id manifest hread hdigest
  obtain ⟨json, hid, hjson, hdecode⟩ := listed_of_readManifest hread
  have hlisted : Listed c f manifest := ⟨id, json, hid, hjson, hdecode⟩
  rcases h.present digest (hf manifest hlisted digest hdigest) with hkept | ⟨_, hunused⟩
  · obtain ⟨path', stored, hpath', hstored⟩ := lookup_of_present hkept
    obtain rfl : path = path' := Except.ok.inj (hpath.symm.trans hpath')
    cases hgone.symm.trans hstored
  · exact hunused manifest hlisted hdigest

theorem backups_stay_restorable (c : Codec Object) (moves : List (Nat × Move Object)) :
    EveryStep (step c)
      (fun s a => ∀ s', step c s a = some s' →
        AllRestorable c s'.shared.files ∧ RemovesOnlyGarbage c s.shared.files s'.shared.files)
      State.initial moves := by
  refine (stable_good c).everyStep ?_ (known_initial c) moves
  intro s a hs s' hstep
  have hs' := stable_good c s a s' hs hstep
  obtain ⟨m, phase, hact, rfl⟩ := turn_eq_some.mp hstep
  have hsound := sound_act hs.memory (hs.thread a.1) hact
  exact ⟨hs'.memory.restorable.all, hsound.keeps.removesOnlyGarbage hs.memory.restorable⟩

structure Isolated (c : Codec Object) (s : State) (a : Nat × Move Object) : Prop where
  alone : ∀ thread thread' handle handle', s.shared.locks.Holds thread handle → s.shared.locks.Holds thread' handle' → thread = thread'
  locked : ∀ thread handle stage, s.phase thread = .busy handle stage → s.shared.locks.Holds thread handle
  unchanged : ∀ s', step c s a = some s' → ∀ thread, thread ≠ a.1 → ∀ handle, s.shared.locks.Holds thread handle →
    s'.shared.locks.Holds thread handle ∧ s'.shared.files = s.shared.files

theorem lock_isolates (c : Codec Object) (moves : List (Nat × Move Object)) : EveryStep (step c) (Isolated c) State.initial moves := by
  refine (stable_good c).everyStep (fun s a hs => ?_) (known_initial c) moves
  refine ⟨fun thread thread' handle handle' hholds hholds' => hholds.unique hs.memory.exclusive hholds', ?_, ?_⟩
  · intro thread handle stage hbusy
    have hknows := hs.thread thread
    rw [hbusy] at hknows
    exact hknows.1
  · intro s' hstep thread hne
    obtain ⟨m, phase, hact, rfl⟩ := turn_eq_some.mp hstep
    exact (sound_act hs.memory (hs.thread a.1) hact).rely thread hne

section Run

def sampleId : Str :=
  "nightly".toList

def sampleDigest : Str :=
  List.replicate 64 'a'

def sampleManifest : BackupManifest :=
  ⟨sampleId, [], [⟨sampleDigest, sampleDigest, []⟩]⟩

def sampleCodec : Codec Unit where
  sha256Hex _ := sampleDigest
  encodeCanonicalObject _ := some [7]
  decodeCanonicalObject _ := some ()
  wrapStoredObject := some
  unwrapStoredObject := some
  encodeManifest manifest := if manifest = sampleManifest then some [1] else none
  decodeManifest json := if json = [1] then some sampleManifest else none
  decode_encode {manifest json} h := by
    split_ifs at h with hmanifest
    obtain rfl := Option.some.inj h
    rw [if_pos rfl, hmanifest]

def sampleMoves : List (Move Unit) :=
  [.call 0 (.putObject ()), .file .go, .file (.tail []), .file (.write 0), .file .go, .file .go, .file .go,
    .call 0 (.publishManifest sampleManifest), .file .go, .file .go, .file (.tail []), .file (.write 0), .file (.tail []),
    .file (.write 64), .file .go, .file .go, .call 0 .gcUnreferencedObjects, .file (.names [jsonName sampleId, hashName sampleId]),
    .file .go, .file .go, .file .go, .file (.paths [(sampleDigest.take 2, sampleDigest.drop 2)]), .file .go, .file .go]

example : (run (step sampleCodec) State.initial (sampleMoves.map (0, ·))).any
    (fun s => (readManifest sampleCodec s.shared.files sampleId).toBool && (getObject sampleCodec s.shared.files sampleDigest).toBool) = true := by
  decide +kernel

end Run

end Bookclerk.Backup
