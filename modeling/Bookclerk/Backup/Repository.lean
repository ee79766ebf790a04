import Mathlib.Data.List.AList
import Mathlib.Data.Finset.Sort
import Mathlib.Data.List.Lex
import Mathlib.Data.Char
import Bookclerk.Str.Edit
import Bookclerk.System.Threads

/-! The content-addressed backup repository: calls of several threads and processes on its two directories, one
file-system step at a time, with a crash before any of them. -/

namespace Bookclerk.Backup

open Str Bookclerk.System

abbrev Bytes := List UInt8

structure BackupTable where
  chunks : List Str
  deriving DecidableEq

structure BackupUnit where
  schemaObject : Str
  identityObject : Str
  tables : List BackupTable
  deriving DecidableEq

def BackupUnit.referencedObjects (unit : BackupUnit) : Finset Str :=
  unit.tables.foldl (fun out table => out ∪ table.chunks.toFinset) (insert unit.identityObject (insert unit.schemaObject ∅))

structure BackupManifest where
  id : Str
  createdAt : Str
  units : List BackupUnit
  deriving DecidableEq

def BackupManifest.referencedObjects (manifest : BackupManifest) : Finset Str :=
  manifest.units.foldl (fun out unit => out ∪ unit.referencedObjects) ∅

/-- SHA-256, gzip and JSON. -/
structure Codec (Object : Type*) where
  sha256Hex : Bytes → Str
  encodeCanonicalObject : Object → Option Bytes
  decodeCanonicalObject : Bytes → Option Object
  wrapStoredObject : Bytes → Option Bytes
  unwrapStoredObject : Bytes → Option Bytes
  encodeManifest : BackupManifest → Option Bytes
  decodeManifest : Bytes → Option BackupManifest
  decode_encode : ∀ {manifest json}, encodeManifest manifest = some json → decodeManifest json = some manifest

inductive RepoError
  | digestNotHex (digest : Str)
  | objectMissing (digest : Str)
  | objectCorrupt
  | objectMismatch (digest actual : Str)
  | objectJson
  | notInstalled (digest : Str)
  | unsafeId (id : Str)
  | manifestMissing (id : Str)
  | sidecarMissing (id : Str)
  | manifestMismatch (id : Str)
  | manifestJson (id : Str)
  | manifestIdMismatch (found id : Str)
  | unexpectedFile (name : Str)
  | cannotPublish (id : Str) (cause : RepoError)
  | encoding
  | io
  deriving DecidableEq

def isAsciiHexdigit (c : Char) : Bool :=
  c.isDigit || ('a' ≤ c && c ≤ 'f') || ('A' ≤ c && c ≤ 'F')

def objectDigestOk (digest : Str) : Bool :=
  utf8Len digest == 64 && digest.all isAsciiHexdigit

def manifestIdOk (id : Str) : Bool :=
  !id.isEmpty && !id.contains '/' && !id.contains '\\' && id != ".".toList && id != "..".toList && !(id.head? == some '.') &&
    id.all fun c => c.isAlphanum || c == '-' || c == '_'

def objectPath (digest : Str) : Except RepoError (Str × Str) :=
  if objectDigestOk digest then .ok (digest.take 2, digest.drop 2) else .error (.digestNotHex digest)

def jsonName (id : Str) : Str :=
  id ++ ".json".toList

def hashName (id : Str) : Str :=
  id ++ ".sha256".toList

def uniqueTmpName (name tail : Str) : Str :=
  '.' :: (name ++ ".tmp-".toList ++ tail)

def trimEndOf (pat : Str) : Nat → Str → Str
  | 0, s => s
  | n + 1, s => if endsWith s pat then trimEndOf pat n (s.take (s.length - pat.length)) else s

abbrev Directory (Name : Type) := AList fun _ : Name => Bytes

structure Files where
  manifests : Directory Str
  objects : Directory (Str × Str)

section Steps

variable {Name : Type} [DecidableEq Name]

def create (dir : Directory Name) (name : Name) : Option (Directory Name) :=
  if (dir.lookup name).isSome then none else some (dir.insert name [])

def append (dir : Directory Name) (name : Name) (bytes : Bytes) : Directory Name :=
  match dir.lookup name with
  | none => dir
  | some content => dir.insert name (content ++ bytes)

def rename (dir : Directory Name) (source target : Name) : Option (Directory Name) :=
  (dir.lookup source).map fun content => (dir.erase source).insert target content

def linkNoClobber (dir : Directory Name) (source target : Name) : Option (Directory Name) :=
  (dir.lookup source).map fun content => if (dir.lookup target).isSome then dir else dir.insert target content

end Steps

variable {Object : Type*} (c : Codec Object)

def getObject (f : Files) (digest : Str) : Except RepoError Object :=
  match objectPath digest with
  | .error e => .error e
  | .ok path =>
    match f.objects.lookup path with
    | none => .error (.objectMissing digest)
    | some stored =>
      match c.unwrapStoredObject stored with
      | none => .error .objectCorrupt
      | some uncompressed =>
        if c.sha256Hex uncompressed ≠ digest then .error (.objectMismatch digest (c.sha256Hex uncompressed))
        else
          match c.decodeCanonicalObject uncompressed with
          | none => .error .objectJson
          | some object => .ok object

def readManifest (f : Files) (id : Str) : Except RepoError BackupManifest :=
  if !manifestIdOk id then .error (.unsafeId id)
  else
    match f.manifests.lookup (jsonName id) with
    | none => .error (.manifestMissing id)
    | some json =>
      match (f.manifests.lookup (hashName id)).bind fromUtf8 with
      | none => .error (.sidecarMissing id)
      | some sidecar =>
        if c.sha256Hex json ≠ toAsciiLowercase (trim sidecar) then .error (.manifestMismatch id)
        else
          match c.decodeManifest json with
          | none => .error (.manifestJson id)
          | some manifest => if manifest.id ≠ id then .error (.manifestIdMismatch manifest.id id) else .ok manifest

inductive Outcome
  | stored (digest : Str)
  | published
  | deleted (removed : Bool)
  | collected (deleted : Nat)

inductive Stage
  | lookUp (digest : Str) (path : Str × Str) (uncompressed : Bytes)
  | replace (digest : Str) (path : Str × Str) (uncompressed : Bytes)
  | createObject (digest : Str) (path : Str × Str) (stored : Bytes)
  | fillObject (digest : Str) (path tmp : Str × Str) (rest : Bytes)
  | linkObject (digest : Str) (path tmp : Str × Str)
  | unstageObject (digest : Str) (path tmp : Str × Str)
  | verifyObject (digest : Str) (path : Str × Str)
  | retract (path : Str × Str) (cause : RepoError)
  | verifyReferenced (manifest : BackupManifest) (remaining : List Str)
  | createStaging (id : Str) (json : Bytes)
  | fillStaging (id staging : Str) (json rest : Bytes)
  | createHash (id staging : Str) (json : Bytes)
  | fillHash (id staging hashTmp : Str) (rest : Bytes)
  | renameHash (id staging hashTmp : Str)
  | renameManifest (id staging : Str)
  | unlinkJson (id : Str)
  | unlinkHash (id : Str) (removed : Bool)
  | openManifests
  | listManifests (remaining : List Str) (out : List BackupManifest)
  | openObjects (live : Finset Str)
  | sweep (live : Finset Str) (remaining : List (Str × Str)) (deleted : Nat)

inductive Next
  | more (stage : Stage)
  | done (result : Except RepoError Outcome)

inductive Choice
  | go
  | tail (text : Str)
  | write (n : Nat)
  | names (order : List Str)
  | paths (order : List (Str × Str))
  | fail

inductive Call (Object : Type*)
  | putObject (object : Object)
  | publishManifest (manifest : BackupManifest)
  | deleteManifest (id : Str)
  | gcUnreferencedObjects

def Call.begin : Call Object → Next
  | .putObject object =>
    match c.encodeCanonicalObject object with
    | none => .done (.error .encoding)
    | some uncompressed =>
      match objectPath (c.sha256Hex uncompressed) with
      | .error e => .done (.error e)
      | .ok path => .more (.lookUp (c.sha256Hex uncompressed) path uncompressed)
  | .publishManifest manifest => .more (.verifyReferenced manifest manifest.referencedObjects.sort)
  | .deleteManifest id => if manifestIdOk id then .more (.unlinkJson id) else .done (.error (.unsafeId id))
  | .gcUnreferencedObjects => .more .openManifests

def stageObject (digest : Str) (path : Str × Str) (uncompressed : Bytes) : Next :=
  match c.wrapStoredObject uncompressed with
  | none => .done (.error .encoding)
  | some stored => .more (.createObject digest path stored)

def stageManifest (manifest : BackupManifest) : Next :=
  match c.encodeManifest manifest with
  | none => .done (.error .encoding)
  | some json => if manifestIdOk manifest.id then .more (.createStaging manifest.id json) else .done (.error (.unsafeId manifest.id))

def listStrict (f : Files) (name : Str) (remaining : List Str) (out : List BackupManifest) : Next :=
  if name.head? = some '.' then .more (.listManifests remaining out)
  else if endsWith name ".sha256".toList then .more (.listManifests remaining out)
  else if !endsWith name ".json".toList then .done (.error (.unexpectedFile name))
  else
    match readManifest c f (trimEndOf ".json".toList name.length name) with
    | .error e => .done (.error e)
    | .ok manifest => .more (.listManifests remaining (out ++ [manifest]))

def liveObjects (manifests : List BackupManifest) : Finset Str :=
  (manifests.insertionSort fun a b => a.createdAt ≤ b.createdAt).foldl (fun live manifest => live ∪ manifest.referencedObjects) ∅

def sweepFile (f : Files) (live : Finset Str) (path : Str × Str) (remaining : List (Str × Str)) (deleted : Nat) : Files × Next :=
  if path.2.head? = some '.' then ({ f with objects := f.objects.erase path }, .more (.sweep live remaining deleted))
  else if !objectDigestOk (path.1 ++ path.2) then (f, .more (.sweep live remaining deleted))
  else if path.1 ++ path.2 ∈ live then (f, .more (.sweep live remaining deleted))
  else ({ f with objects := f.objects.erase path }, .more (.sweep live remaining (deleted + 1)))

def work (f : Files) : Stage → Choice → Option (Files × Next)
  | _, .fail => some (f, .done (.error .io))
  | .lookUp digest path uncompressed, .go =>
    some (f,
      if (f.objects.lookup path).isSome then
        match getObject c f digest with
        | .ok _ => .done (.ok (.stored digest))
        | .error _ => .more (.replace digest path uncompressed)
      else stageObject c digest path uncompressed)
  | .replace digest path uncompressed, .go =>
    some ({ f with objects := f.objects.erase path }, stageObject c digest path uncompressed)
  | .createObject digest path stored, .tail text =>
    match create f.objects (path.1, uniqueTmpName path.2 text) with
    | none => some (f, .done (.error .io))
    | some objects => some ({ f with objects := objects }, .more (.fillObject digest path (path.1, uniqueTmpName path.2 text) stored))
  | .fillObject digest path tmp rest, .write n =>
    some ({ f with objects := append f.objects tmp (rest.take (n + 1)) },
      .more (if rest.drop (n + 1) = [] then .linkObject digest path tmp else .fillObject digest path tmp (rest.drop (n + 1))))
  | .linkObject digest path tmp, .go =>
    match linkNoClobber f.objects tmp path with
    | none => some (f, .done (.error .io))
    | some objects => some ({ f with objects := objects }, .more (.unstageObject digest path tmp))
  | .unstageObject digest path tmp, .go => some ({ f with objects := f.objects.erase tmp }, .more (.verifyObject digest path))
  | .verifyObject digest path, .go =>
    some (f,
      if (f.objects.lookup path).isSome then
        match getObject c f digest with
        | .ok _ => .done (.ok (.stored digest))
        | .error e => .more (.retract path e)
      else .done (.error (.notInstalled digest)))
  | .retract path cause, .go => some ({ f with objects := f.objects.erase path }, .done (.error cause))
  | .verifyReferenced manifest [], .go => some (f, stageManifest c manifest)
  | .verifyReferenced manifest (digest :: remaining), .go =>
    some (f,
      match getObject c f digest with
      | .ok _ => .more (.verifyReferenced manifest remaining)
      | .error e => .done (.error (.cannotPublish manifest.id e)))
  | .createStaging id json, .tail text =>
    match create f.manifests (uniqueTmpName (jsonName id) text) with
    | none => some (f, .done (.error .io))
    | some manifests =>
      some ({ f with manifests := manifests }, .more (.fillStaging id (uniqueTmpName (jsonName id) text) json json))
  | .fillStaging id staging json rest, .write n =>
    some ({ f with manifests := append f.manifests staging (rest.take (n + 1)) },
      .more (if rest.drop (n + 1) = [] then .createHash id staging json else .fillStaging id staging json (rest.drop (n + 1))))
  | .createHash id staging json, .tail text =>
    match create f.manifests (uniqueTmpName (hashName id) text) with
    | none => some (f, .done (.error .io))
    | some manifests =>
      some ({ f with manifests := manifests },
        .more (.fillHash id staging (uniqueTmpName (hashName id) text) (utf8Bytes (c.sha256Hex json ++ ['\n']))))
  | .fillHash id staging hashTmp rest, .write n =>
    some ({ f with manifests := append f.manifests hashTmp (rest.take (n + 1)) },
      .more (if rest.drop (n + 1) = [] then .renameHash id staging hashTmp else .fillHash id staging hashTmp (rest.drop (n + 1))))
  | .renameHash id staging hashTmp, .go =>
    match rename f.manifests hashTmp (hashName id) with
    | none => some (f, .done (.error .io))
    | some manifests => some ({ f with manifests := manifests }, .more (.renameManifest id staging))
  | .renameManifest id staging, .go =>
    match rename f.manifests staging (jsonName id) with
    | none => some (f, .done (.error .io))
    | some manifests => some ({ f with manifests := manifests }, .done (.ok .published))
  | .unlinkJson id, .go =>
    some ({ f with manifests := f.manifests.erase (jsonName id) },
      .more (.unlinkHash id (f.manifests.lookup (jsonName id)).isSome))
  | .unlinkHash id removed, .go =>
    some ({ f with manifests := f.manifests.erase (hashName id) },
      .done (.ok (.deleted (removed || (f.manifests.lookup (hashName id)).isSome))))
  | .openManifests, .names order => if order.Perm f.manifests.keys then some (f, .more (.listManifests order [])) else none
  | .listManifests [] out, .go => some (f, .more (.openObjects (liveObjects out)))
  | .listManifests (name :: remaining) out, .go => some (f, listStrict c f name remaining out)
  | .openObjects live, .paths order => if order.Perm f.objects.keys then some (f, .more (.sweep live order 0)) else none
  | .sweep _ [] deleted, .go => some (f, .done (.ok (.collected deleted)))
  | .sweep live (path :: remaining) deleted, .go => some (sweepFile f live path remaining deleted)
  | _, _ => none

structure Shared where
  files : Files
  locks : Locks

inductive Phase
  | idle (last : Option (Except RepoError Outcome))
  | busy (handle : Nat) (stage : Stage)

inductive Move (Object : Type*)
  | call (handle : Nat) (call : Call Object)
  | lockExclusive (handle : Nat)
  | dropGuard (handle : Nat)
  | file (choice : Choice)
  | crash

def settle (m : Shared) (handle : Nat) : Next → Shared × Phase
  | .more stage => (m, .busy handle stage)
  | .done result => ({ m with locks := m.locks.release handle }, .idle (some result))

def act (thread : Nat) (m : Shared) : Phase → Move Object → Option (Shared × Phase)
  | .idle _, .call handle call =>
    (m.locks.acquire thread handle).map fun locks => settle { m with locks := locks } handle (call.begin c)
  | .idle last, .lockExclusive handle => (m.locks.acquire thread handle).map fun locks => ({ m with locks := locks }, .idle last)
  | .idle last, .dropGuard handle =>
    if (m.locks.inner handle).any fun o => o.1 = thread then some ({ m with locks := m.locks.release handle }, .idle last) else none
  | .busy handle stage, .file choice => (work c m.files stage choice).map fun r => settle { m with files := r.1 } handle r.2
  | _, .crash => some ({ m with locks := m.locks.abandon thread }, .idle none)
  | _, _ => none

abbrev State := Threads Nat Shared Phase

def State.initial : State :=
  ⟨⟨⟨∅, ∅⟩, Locks.free⟩, fun _ => .idle none⟩

def step (s : State) (a : Nat × Move Object) : Option State :=
  turn (act c) s a

end Bookclerk.Backup
