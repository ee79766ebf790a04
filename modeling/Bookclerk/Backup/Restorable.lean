import Bookclerk.Backup.Repository

namespace Bookclerk.Backup

open Str List Option

variable {manifest : BackupManifest} {content : Bytes} {manifests : Directory Str} {out : List BackupManifest}

def Hidden (name : Str) : Prop :=
  name.head? = some '.'

lemma hidden_uniqueTmpName (name tail : Str) : Hidden (uniqueTmpName name tail) :=
  rfl

section Paths

variable {digest digest' : Str} {path : Str × Str}

lemma objectPath_eq_ok : objectPath digest = .ok path ↔ objectDigestOk digest = true ∧ path = (digest.take 2, digest.drop 2) := by
  unfold objectPath
  split_ifs with hok
  · simp [hok, eq_comm]
  · simp [hok]

section

variable (h : objectPath digest = .ok path)
include h

lemma append_objectPath : path.1 ++ path.2 = digest := by
  obtain ⟨_, rfl⟩ := objectPath_eq_ok.mp h
  exact take_append_drop 2 digest

lemma objectPath_inj (h' : objectPath digest' = .ok path) : digest = digest' :=
  (append_objectPath h).symm.trans (append_objectPath h')

lemma not_hidden_objectPath : ¬ Hidden path.2 := by
  obtain ⟨hok, rfl⟩ := objectPath_eq_ok.mp h
  intro hhidden
  have hmem : '.' ∈ digest := mem_of_mem_drop (List.mem_of_mem_head? hhidden)
  have hhex := List.all_eq_true.mp (Bool.and_eq_true_iff.mp hok).2 '.' hmem
  cases hhex

end

end Paths

section Ids

variable {id id' : Str}

lemma dot_notMem_of_manifestIdOk (h : manifestIdOk id = true) : '.' ∉ id := by
  intro hmem
  have hdot := List.all_eq_true.mp (Bool.and_eq_true_iff.mp h).2 '.' hmem
  revert hdot
  decide

lemma not_hidden_append (h : manifestIdOk id = true) (extension : Str) : ¬ Hidden (id ++ extension) := by
  intro hhidden
  cases id with
  | nil => cases h
  | cons c id =>
    obtain rfl : c = '.' := some.inj hhidden
    exact dot_notMem_of_manifestIdOk h mem_cons_self

lemma hashName_ne_jsonName : hashName id ≠ jsonName id' := by
  intro h
  have hlast := congrArg getLast? h
  simp [hashName, jsonName] at hlast

lemma endsWith_jsonName : endsWith (jsonName id) ".json".toList = true := by
  rw [endsWith, isSuffixOf_iff_suffix]
  exact suffix_append id _

lemma not_endsWith_sha256_jsonName : endsWith (jsonName id) ".sha256".toList = false := by
  rw [Bool.eq_false_iff]
  intro h
  obtain ⟨front, hfront⟩ := isSuffixOf_iff_suffix.mp h
  exact hashName_ne_jsonName hfront

lemma trimEndOf_of_dot_notMem (hdot : '.' ∉ id) (n : Nat) : trimEndOf ".json".toList n id = id := by
  cases n with
  | zero => rfl
  | succ n =>
    rw [trimEndOf, if_neg]
    intro h
    exact hdot ((isSuffixOf_iff_suffix.mp h).subset (by decide))

lemma trimEndOf_jsonName (h : manifestIdOk id = true) : trimEndOf ".json".toList (jsonName id).length (jsonName id) = id := by
  have hlength : (jsonName id).length = (id.length + 4) + 1 := length_append
  have hcut : (jsonName id).take ((jsonName id).length - ".json".toList.length) = id := by
    rw [hlength]
    exact take_left
  rw [show trimEndOf ".json".toList (jsonName id).length (jsonName id) =
      trimEndOf ".json".toList (id.length + 4 + 1) (jsonName id) by rw [hlength], trimEndOf, if_pos endsWith_jsonName, hcut]
  exact trimEndOf_of_dot_notMem (dot_notMem_of_manifestIdOk h) _

end Ids

section Directories

variable {Name : Type} [DecidableEq Name] {dir dir' : Directory Name} {name name' other : Name}

lemma create_eq_some (h : create dir name = some dir') : dir.lookup name = none ∧ dir' = dir.insert name [] := by
  unfold create at h
  split_ifs at h with hsome
  exact ⟨not_isSome_iff_eq_none.mp hsome, (some.inj h).symm⟩

lemma lookup_append_ne (hne : other ≠ name) (bytes : Bytes) : (append dir name bytes).lookup other = dir.lookup other := by
  unfold append
  split
  · rfl
  · exact AList.lookup_insert_ne hne

lemma lookup_append (h : dir.lookup name = some content) (bytes : Bytes) :
    (append dir name bytes).lookup name = some (content ++ bytes) := by
  unfold append
  rw [h]
  exact AList.lookup_insert dir

lemma rename_eq_some (h : rename dir name name' = some dir') :
    ∃ content, dir.lookup name = some content ∧ dir' = (dir.erase name).insert name' content := by
  obtain ⟨content, hcontent, rfl⟩ := map_eq_some_iff.mp h
  exact ⟨content, hcontent, rfl⟩

lemma lookup_rename_ne (h : rename dir name name' = some dir') (hne : other ≠ name) (hne' : other ≠ name') :
    dir'.lookup other = dir.lookup other := by
  obtain ⟨content, _, rfl⟩ := rename_eq_some h
  rw [AList.lookup_insert_ne hne', AList.lookup_erase_ne hne]

lemma lookup_linkNoClobber (h : linkNoClobber dir name name' = some dir') (hother : dir.lookup other = some content) :
    dir'.lookup other = some content := by
  obtain ⟨stored, _, rfl⟩ := map_eq_some_iff.mp h
  split_ifs with hsome
  · exact hother
  · rw [AList.lookup_insert_ne, hother]
    rintro rfl
    rw [hother] at hsome
    exact hsome rfl

end Directories

variable {Object : Type*} (c : Codec Object)

def Present (f : Files) (digest : Str) : Prop :=
  ∃ object, getObject c f digest = .ok object

def Listed (f : Files) (manifest : BackupManifest) : Prop :=
  ∃ id json, manifestIdOk id = true ∧ f.manifests.lookup (jsonName id) = some json ∧ c.decodeManifest json = some manifest

def Restorable (f : Files) : Prop :=
  ∀ manifest, Listed c f manifest → ∀ digest ∈ manifest.referencedObjects, Present c f digest

structure Keeps (f f' : Files) : Prop where
  listed : ∀ manifest, Listed c f' manifest → Listed c f manifest ∨ ∀ digest ∈ manifest.referencedObjects, Present c f digest
  present : ∀ digest, Present c f digest →
    Present c f' digest ∨
      f'.manifests = f.manifests ∧ ∀ manifest, Listed c f manifest → digest ∉ manifest.referencedObjects

variable {c} {f f' : Files} {digest : Str}

lemma listed_of_readManifest {id : Str} (h : readManifest c f id = .ok manifest) :
    ∃ json, manifestIdOk id = true ∧ f.manifests.lookup (jsonName id) = some json ∧ c.decodeManifest json = some manifest := by
  unfold readManifest at h
  split_ifs at h with hid
  split at h
  · cases h
  · rename_i json hjson
    split at h
    · cases h
    · split_ifs at h
      split at h
      · cases h
      · rename_i found hfound
        split_ifs at h
        obtain rfl : found = manifest := Except.ok.inj h
        exact ⟨json, by simpa using hid, hjson, hfound⟩

lemma lookup_of_present (h : Present c f digest) : ∃ path stored, objectPath digest = .ok path ∧ f.objects.lookup path = some stored := by
  obtain ⟨object, hget⟩ := h
  unfold getObject at hget
  split at hget
  · cases hget
  · rename_i path hpath
    split at hget
    · cases hget
    · rename_i stored hstored
      exact ⟨path, stored, hpath, hstored⟩

lemma Present.of_lookup (h : Present c f digest)
    (hlookup : ∀ path stored, objectPath digest = .ok path → f.objects.lookup path = some stored → f'.objects.lookup path = some stored) :
    Present c f' digest := by
  obtain ⟨path, stored, hpath, hstored⟩ := lookup_of_present h
  obtain ⟨object, hget⟩ := h
  refine ⟨object, ?_⟩
  rw [getObject, hpath] at hget ⊢
  dsimp only at hget ⊢
  rw [hstored] at hget
  rw [hlookup path stored hpath hstored]
  exact hget

lemma Present.of_objects (h : Present c f digest) (hobjects : f'.objects = f.objects) : Present c f' digest :=
  h.of_lookup fun path stored _ hstored => by rwa [hobjects]

lemma Listed.of_manifests (h : Listed c f' manifest) (hmanifests : f'.manifests = f.manifests) : Listed c f manifest := by
  obtain ⟨id, json, hid, hjson, hdecode⟩ := h
  exact ⟨id, json, hid, hmanifests ▸ hjson, hdecode⟩

lemma Keeps.refl : Keeps c f f :=
  ⟨fun _ h => Or.inl h, fun _ h => Or.inl h⟩

theorem Keeps.restorable (h : Keeps c f f') (hf : Restorable c f) : Restorable c f' := by
  intro manifest hlisted digest hdigest
  have hpresent : Present c f digest := by
    rcases h.listed manifest hlisted with hold | hnew
    · exact hf manifest hold digest hdigest
    · exact hnew digest hdigest
  rcases h.present digest hpresent with hkept | ⟨hmanifests, hunused⟩
  · exact hkept
  · exact absurd hdigest (hunused manifest (hlisted.of_manifests hmanifests))

variable {objects : Directory (Str × Str)}

lemma keeps_objects
    (h : ∀ digest path stored, Present c f digest → objectPath digest = .ok path → f.objects.lookup path = some stored →
      objects.lookup path = some stored) : Keeps c f { f with objects := objects } where
  listed _ hlisted := Or.inl hlisted
  present digest hpresent := Or.inl (hpresent.of_lookup (h digest · · hpresent))

lemma keeps_hidden {tmp : Str × Str} (htmp : Hidden tmp.2)
    (h : ∀ path ≠ tmp, objects.lookup path = f.objects.lookup path) : Keeps c f { f with objects := objects } := by
  apply keeps_objects
  intro digest path stored _ hpath hstored
  rw [h path, hstored]
  rintro rfl
  exact not_hidden_objectPath hpath htmp

def Spoilt (c : Codec Object) (f : Files) (path : Str × Str) : Prop :=
  ∀ digest, objectPath digest = .ok path → ¬ Present c f digest

variable {path : Str × Str}

lemma keeps_erase_spoilt (h : Spoilt c f path) : Keeps c f { f with objects := f.objects.erase path } := by
  apply keeps_objects
  intro digest path' stored hpresent hpath hstored
  rw [AList.lookup_erase_ne, hstored]
  rintro rfl
  exact h digest hpath hpresent

lemma spoilt_of_error {e : RepoError} (hpath : objectPath digest = .ok path) (h : getObject c f digest = .error e) : Spoilt c f path := by
  rintro digest' hpath' ⟨object, hobject⟩
  obtain rfl := objectPath_inj hpath hpath'
  cases h.symm.trans hobject

lemma keeps_manifests
    (h : ∀ id json, manifestIdOk id = true → manifests.lookup (jsonName id) = some json →
      f.manifests.lookup (jsonName id) = some json ∨
        ∀ manifest, c.decodeManifest json = some manifest → ∀ digest ∈ manifest.referencedObjects, Present c f digest) :
    Keeps c f { f with manifests := manifests } where
  listed := by
    rintro manifest ⟨id, json, hid, hjson, hdecode⟩
    rcases h id json hid hjson with hold | hnew
    · exact Or.inl ⟨id, json, hid, hold, hdecode⟩
    · exact Or.inr (hnew manifest hdecode)
  present _ hpresent := Or.inl (hpresent.of_objects rfl)

lemma keeps_manifests_of_lookup
    (h : ∀ id, manifestIdOk id = true → manifests.lookup (jsonName id) = f.manifests.lookup (jsonName id)) :
    Keeps c f { f with manifests := manifests } :=
  keeps_manifests fun id _ hid hjson => Or.inl ((h id hid).symm.trans hjson)

lemma jsonName_ne_hidden {id name : Str} (hid : manifestIdOk id = true) (hname : Hidden name) : jsonName id ≠ name := by
  rintro rfl
  exact not_hidden_append hid _ hname

def Verified (c : Codec Object) (f : Files) (json : Bytes) : Prop :=
  ∀ manifest, c.decodeManifest json = some manifest → ∀ digest ∈ manifest.referencedObjects, Present c f digest

lemma Verified.of_objects {json : Bytes} (h : Verified c f json) (hobjects : f'.objects = f.objects) : Verified c f' json :=
  fun manifest hdecode digest hdigest => (h manifest hdecode digest hdigest).of_objects hobjects

structure Staged (c : Codec Object) (f : Files) (id staging : Str) (written json : Bytes) : Prop where
  safe : manifestIdOk id = true
  hidden : Hidden staging
  content : f.manifests.lookup staging = some written
  verified : Verified c f json

def Covered (c : Codec Object) (f : Files) (live : Finset Str) : Prop :=
  ∀ manifest, Listed c f manifest → manifest.referencedObjects ⊆ live

def StageKnows (c : Codec Object) (f : Files) : Stage → Prop
  | .lookUp digest path _ => objectPath digest = .ok path
  | .replace digest path _ => objectPath digest = .ok path ∧ Spoilt c f path
  | .createObject digest path _ => objectPath digest = .ok path
  | .fillObject digest path tmp _ => objectPath digest = .ok path ∧ Hidden tmp.2
  | .linkObject digest path tmp => objectPath digest = .ok path ∧ Hidden tmp.2
  | .unstageObject digest path tmp => objectPath digest = .ok path ∧ Hidden tmp.2
  | .verifyObject digest path => objectPath digest = .ok path
  | .retract path _ => Spoilt c f path
  | .verifyReferenced manifest remaining => ∀ digest ∈ manifest.referencedObjects, digest ∈ remaining ∨ Present c f digest
  | .createStaging id json => manifestIdOk id = true ∧ Verified c f json
  | .fillStaging id staging json rest => ∃ written, written ++ rest = json ∧ Staged c f id staging written json
  | .createHash id staging json => Staged c f id staging json json
  | .fillHash id staging hashTmp _ => Hidden hashTmp ∧ staging ≠ hashTmp ∧ ∃ json, Staged c f id staging json json
  | .renameHash id staging hashTmp => Hidden hashTmp ∧ staging ≠ hashTmp ∧ ∃ json, Staged c f id staging json json
  | .renameManifest id staging => ∃ json, Staged c f id staging json json
  | .unlinkJson _ => True
  | .unlinkHash _ _ => True
  | .openManifests => True
  | .listManifests remaining out => ∀ id json, manifestIdOk id = true → f.manifests.lookup (jsonName id) = some json →
      jsonName id ∈ remaining ∨ ∃ manifest ∈ out, c.decodeManifest json = some manifest
  | .openObjects live => Covered c f live
  | .sweep live _ _ => Covered c f live

def NextKnows (c : Codec Object) (f : Files) : Next → Prop
  | .more stage => StageKnows c f stage
  | .done _ => True

structure Sound (c : Codec Object) (f : Files) (r : Files × Next) : Prop where
  keeps : Keeps c f r.1
  knows : NextKnows c r.1 r.2

lemma sound_same {next : Next} (h : NextKnows c f next) : Sound c f (f, next) :=
  ⟨Keeps.refl, h⟩

lemma knows_stageObject (hpath : objectPath digest = .ok path) (uncompressed : Bytes) :
    NextKnows c f (stageObject c digest path uncompressed) := by
  unfold stageObject
  split
  · trivial
  · exact hpath

lemma knows_stageManifest (h : ∀ digest ∈ manifest.referencedObjects, Present c f digest) : NextKnows c f (stageManifest c manifest) := by
  unfold stageManifest
  split
  · trivial
  · rename_i json hjson
    split_ifs with hid
    · refine ⟨hid, fun found hfound => ?_⟩
      obtain rfl : manifest = found := some.inj ((c.decode_encode hjson).symm.trans hfound)
      exact h
    · trivial

lemma knows_listStrict {name : Str} {remaining : List Str}
    (h : StageKnows c f (.listManifests (name :: remaining) out)) : NextKnows c f (listStrict c f name remaining out) := by
  -- a name that is skipped is not the name of a manifest
  have hskip : (∀ id, manifestIdOk id = true → jsonName id ≠ name) → StageKnows c f (.listManifests remaining out) := by
    intro hname id json hid hjson
    refine (h id json hid hjson).imp_left fun hmem => ?_
    exact (mem_cons.mp hmem).resolve_left (hname id hid)
  unfold listStrict
  split_ifs with hhidden hhash hjsonName
  · exact hskip fun id hid => jsonName_ne_hidden hid hhidden
  · apply hskip
    rintro id _ rfl
    rw [not_endsWith_sha256_jsonName] at hhash
    cases hhash
  · trivial
  · split
    · trivial
    · rename_i manifest hread
      intro id json hid hjson
      rcases h id json hid hjson with hmem | ⟨found, hfound, hdecode⟩
      · rcases mem_cons.mp hmem with rfl | hrest
        · rw [trimEndOf_jsonName hid] at hread
          obtain ⟨json', _, hjson', hdecode⟩ := listed_of_readManifest hread
          obtain rfl := mem_unique hjson hjson'
          exact Or.inr ⟨manifest, mem_append_right out mem_cons_self, hdecode⟩
        · exact Or.inl hrest
      · exact Or.inr ⟨found, mem_append_left _ hfound, hdecode⟩

lemma foldl_union_subset {α : Type*} (g : α → Finset Str) (l : List α) (start : Finset Str) :
    start ⊆ l.foldl (fun out a => out ∪ g a) start := by
  induction l generalizing start with
  | nil => exact Finset.Subset.refl _
  | cons a l ih => exact Finset.subset_union_left.trans (ih (start ∪ g a))

lemma subset_foldl_union {α : Type*} (g : α → Finset Str) {l : List α} {a : α} (ha : a ∈ l) (start : Finset Str) :
    g a ⊆ l.foldl (fun out a => out ∪ g a) start := by
  induction l generalizing start with
  | nil => cases ha
  | cons b l ih =>
    rcases mem_cons.mp ha with rfl | hrest
    · exact Finset.subset_union_right.trans (foldl_union_subset g l (start ∪ g a))
    · exact ih hrest (start ∪ g b)

lemma covered_liveObjects (h : StageKnows c f (.listManifests [] out)) : Covered c f (liveObjects out) := by
  rintro manifest ⟨id, json, hid, hjson, hdecode⟩
  rcases h id json hid hjson with hmem | ⟨found, hfound, hdecode'⟩
  · cases hmem
  · obtain rfl := mem_unique hdecode hdecode'
    exact subset_foldl_union BackupManifest.referencedObjects ((mem_insertionSort _).mpr hfound) ∅

lemma sound_sweepFile {live : Finset Str} (h : Covered c f live) (path : Str × Str) (remaining : List (Str × Str)) (deleted : Nat) :
    Sound c f (sweepFile f live path remaining deleted) := by
  unfold sweepFile
  split_ifs with hhidden hok hlive
  · exact ⟨keeps_hidden hhidden fun path' hne => AList.lookup_erase_ne hne, h⟩
  · exact sound_same h
  · exact sound_same h
  · refine ⟨⟨fun _ hlisted => Or.inl hlisted, fun digest hpresent => ?_⟩, h⟩
    by_cases hpath : objectPath digest = .ok path
    · refine Or.inr ⟨rfl, fun manifest hlisted hdigest => hlive ?_⟩
      rw [append_objectPath hpath]
      exact h manifest hlisted hdigest
    · refine Or.inl (hpresent.of_lookup fun path' stored hpath' hstored => ?_)
      rw [AList.lookup_erase_ne, hstored]
      rintro rfl
      exact hpath hpath'

end Bookclerk.Backup
