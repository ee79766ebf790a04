import Bookclerk.Storage.Io

namespace Bookclerk.Storage

open Str List Option

/-- The parts of the backend that its operations do not change. `place` is the real path behind a valid
key: root, prefix and symbolic links are fixed, no operation makes or removes a link or a directory link. -/
structure Backend (P : Type) where
  place : Str → P
  temp : P → Nat → P
  digest : Bytes → Bytes
  digest_length : ∀ b, (digest b).length = 32
  encode : ObjectMeta → Bytes
  decode : Bytes → Option ObjectMeta
  decode_encode : ∀ m, decode (encode m) = some m

inductive Site where
  | resolve
  | resolveTo
  | metadata
  | createDir
  | link
  | body
  | rename
  | removeTemp
  | exists
  | resolveMeta
  | resolveToMeta
  | createMetaDir
  | sidecar
  | remove
deriving DecidableEq

abbrev Faults :=
  Site → Outcome

def noFaults : Faults :=
  fun _ => .done

def ioError : StorageError :=
  .io .other

abbrev Local (P : Type) :=
  Io StorageError P

namespace Backend

variable {P : Type} (B : Backend P)

/-- `o` tells whether the links on the path let the key through. -/
def resolve (o : Outcome) (key : Str) : Local P P := do
  Io.lift (validateKey key)
  Io.attempt o (.invalidKey key)
  pure (B.place key)

def writesSidecar (key : Str) (info : ObjectMeta) : Bool :=
  !endsWith key metaSuffix &&
    !(info.asin.isNone && info.title.isNone && info.sha256Hex.isNone && info.commitToken.isNone &&
      info.creationTime.isNone && info.lastWriteTime.isNone)

variable [DecidableEq P]

def writeLocalMetaSidecar (f : Faults) (key : Str) (info : ObjectMeta) : Local P Unit :=
  if writesSidecar key info then do
    let path ← B.resolve (f .resolveMeta) (bookclerkMetaSidecarKey key)
    Io.attempt (f .createMetaDir) ioError
    Io.writeFile (f .sidecar) ioError path (B.encode info)
  else pure ()

def checkPutDigest (data : Bytes) (info : ObjectMeta) : Except StorageError Unit :=
  match info.sha256Hex with
  | none => .ok ()
  | some expected =>
    match parseSha256Hex expected with
    | .error e => .error e
    | .ok want =>
      if want = B.digest data then .ok () else .error (.integrity "scalar put sha256 does not match the buffer")

def put (f : Faults) (key : Str) (data : Bytes) (info : ObjectMeta) : Local P Unit := do
  Io.lift (ensureScalarLen data.length maxScalarObjectBytes)
  Io.lift (B.checkPutDigest data info)
  let path ← B.resolve (f .resolve) key
  Io.attempt (f .createDir) ioError
  Io.writeFile (f .body) ioError path data
  B.writeLocalMetaSidecar f key info

def putFile (f : Faults) (key : Str) (source : P) (info : ObjectMeta) : Local P Unit := do
  let dest ← B.resolve (f .resolve) key
  Io.attempt (f .createDir) ioError
  (Io.hardLink (f .link) ioError source dest).orElse (Io.copyFile (f .body) (.io .notFound) ioError source dest)
  B.writeLocalMetaSidecar f key info

/-- The checks `put_stream` makes before, while and after it reads the body; the digest it records. -/
def checkStream (body : Bytes) (info : ObjectMeta) : Except StorageError Str :=
  match info.contentLength with
  | some expected =>
    if expected < body.length then .error (.integrity s!"put_stream wrote past declared length {expected}")
    else if maxSupportedObjectBytes < body.length then .error (.payloadTooLarge s!"object exceeded {maxSupportedObjectBytes}")
    else if body.length ≠ expected then
      .error (.integrity s!"put_stream length mismatch: wrote {body.length}, expected {expected}")
    else digestOf
  | none =>
    if maxSupportedObjectBytes < body.length then .error (.payloadTooLarge s!"object exceeded {maxSupportedObjectBytes}")
    else digestOf
where
  digestOf : Except StorageError Str :=
    let digest := hexEncode (B.digest body)
    match info.sha256Hex with
    | some expected =>
      if eqIgnoreAsciiCase expected digest then .ok digest
      else .error (.integrity "put_stream sha256 does not match the body")
    | none => .ok digest

def checkStreamMeta (info : ObjectMeta) : Except StorageError Unit :=
  match info.sha256Hex.map parseSha256Hex, info.contentLength with
  | some (.error e), _ => .error e
  | _, some len =>
    if maxSupportedObjectBytes < len then
      .error (.payloadTooLarge s!"object length {len} exceeds {maxSupportedObjectBytes}")
    else .ok ()
  | _, none => .ok ()

/-- The body arrives in `tmp`; a check that fails, like a write or a rename that does, removes `tmp` again. -/
def receive (f : Faults) (tmp path : P) (body : Bytes) (info : ObjectMeta) : Local P Str :=
  Io.onError (do
    Io.writeFile (f .body) ioError tmp body
    let digest ← Io.lift (B.checkStream body info)
    Io.renameFile (f .rename) ioError tmp path
    pure digest) (Io.removeFile (f .removeTemp) ioError tmp)

def putStream (f : Faults) (nonce : Nat) (key : Str) (body : Bytes) (info : ObjectMeta) : Local P Str := do
  Io.lift (checkStreamMeta info)
  let path ← B.resolve (f .resolve) key
  Io.attempt (f .createDir) ioError
  let digest ← B.receive f (B.temp path nonce) path body info
  B.writeLocalMetaSidecar f key { info with sha256Hex := some digest }
  pure digest

def copyFoundSidecar (f : Faults) (src dst : Str) : Local P Unit := do
  let metaSrc ← B.resolve (f .resolveMeta) (bookclerkMetaSidecarKey src)
  let metaDest ← B.resolve (f .resolveToMeta) (bookclerkMetaSidecarKey dst)
  Io.attempt (f .createMetaDir) ioError
  Io.ignore (Io.copyFile (f .sidecar) (.io .notFound) ioError metaSrc metaDest)

def copySidecar (f : Faults) (src dst : Str) : Local P Unit := do
  let side ← B.resolve (f .exists) (bookclerkMetaSidecarKey src)
  if ← Io.tryExists side then B.copyFoundSidecar f src dst else pure ()

def copy (f : Faults) (src dst : Str) : Local P Unit :=
  if src = dst then pure ()
  else do
    let source ← B.resolve (f .resolve) src
    let dest ← B.resolve (f .resolveTo) dst
    Io.attempt (f .metadata) ioError
    let len ← Io.size (.notFound src) source
    Io.guard (len ≤ maxSupportedObjectBytes) (.payloadTooLarge s!"object length {len} exceeds {maxSupportedObjectBytes}")
    Io.attempt (f .createDir) ioError
    Io.copyFile (f .body) (.notFound src) ioError source dest
    B.copySidecar f src dst

def deleteOne (resolved removed : Outcome) (key : Str) : Local P Unit := do
  let path ← B.resolve resolved key
  Io.removeFile removed ioError path

def delete (f : Faults) (key : Str) : Local P Unit := do
  B.deleteOne (f .resolve) (f .remove) key
  if endsWith key metaSuffix then pure ()
  else Io.ignore (B.deleteOne (f .resolveMeta) (f .sidecar) (bookclerkMetaSidecarKey key))

def rename (f g : Faults) (src dst : Str) : Local P Unit :=
  if src = dst then pure ()
  else do
    B.copy f src dst
    B.delete g src

end Backend

inductive Op (P : Type) where
  | put (f : Faults) (key : Str) (data : Bytes) (info : ObjectMeta)
  | putFile (f : Faults) (key : Str) (source : P) (info : ObjectMeta)
  | putStream (f : Faults) (nonce : Nat) (key : Str) (body : Bytes) (info : ObjectMeta)
  | copy (f : Faults) (src dst : Str)
  | rename (f g : Faults) (src dst : Str)
  | delete (f : Faults) (key : Str)

def Backend.perform {P : Type} [DecidableEq P] (B : Backend P) : Op P → Local P Unit
  | .put f key data info => B.put f key data info
  | .putFile f key source info => B.putFile f key source info
  | .putStream f nonce key body info => do
      let _ ← B.putStream f nonce key body info
      pure ()
  | .copy f src dst => B.copy f src dst
  | .rename f g src dst => B.rename f g src dst
  | .delete f key => B.delete f key

def natCode (n : Nat) : Bytes :=
  List.replicate n 1 ++ [0]

def readNat : Bytes → Option (Nat × Bytes)
  | [] => none
  | b :: rest =>
    if b = 0 then some (0, rest)
    else if b = 1 then (readNat rest).map fun r => (r.1 + 1, r.2)
    else none

def readMany {α : Type} (read : Bytes → Option (α × Bytes)) : Nat → Bytes → Option (List α × Bytes)
  | 0, rest => some ([], rest)
  | k + 1, rest => (read rest).bind fun a => (readMany read k a.2).map fun r => (a.1 :: r.1, r.2)

abbrev Field :=
  Option (List Nat)

def fieldCode : Field → Bytes
  | none => [0]
  | some ns => 1 :: (natCode ns.length ++ ns.flatMap natCode)

def readField : Bytes → Option (Field × Bytes)
  | [] => none
  | b :: rest =>
    if b = 0 then some (none, rest)
    else if b = 1 then (readNat rest).bind fun k => (readMany readNat k.1 k.2).map fun r => (some r.1, r.2)
    else none

lemma readNat_natCode (n : Nat) (rest : Bytes) : readNat (natCode n ++ rest) = some (n, rest) := by
  induction n with
  | zero => rfl
  | succ n ih =>
    have hcode : natCode (n + 1) ++ rest = 1 :: (natCode n ++ rest) := by simp [natCode, replicate_succ]
    rw [hcode, readNat, if_neg (by decide), if_pos rfl, ih, map_some]

lemma readMany_code {α : Type} {read : Bytes → Option (α × Bytes)} {code : α → Bytes}
    (h : ∀ a rest, read (code a ++ rest) = some (a, rest)) (as : List α) (rest : Bytes) :
    readMany read as.length (as.flatMap code ++ rest) = some (as, rest) := by
  induction as with
  | nil => rfl
  | cons a as ih =>
    rw [length_cons, readMany, flatMap_cons, append_assoc, h, bind_some, ih, map_some]

lemma readField_code (f : Field) (rest : Bytes) : readField (fieldCode f ++ rest) = some (f, rest) := by
  cases f with
  | none => rfl
  | some ns =>
    rw [fieldCode, cons_append, readField, if_neg (by decide), if_pos rfl, append_assoc, readNat_natCode,
      bind_some, readMany_code readNat_natCode, map_some]

def textField (t : Option Str) : Field :=
  t.map fun s => s.map Char.toNat

def fieldText (f : Field) : Option Str :=
  f.map fun ns => ns.map Char.ofNat

lemma fieldText_textField (t : Option Str) : fieldText (textField t) = t := by
  cases t with
  | none => rfl
  | some s => simp [fieldText, textField, Function.comp_def]

def metaFields (m : ObjectMeta) : List Field :=
  [textField m.contentType, m.contentLength.map ([·]), textField m.asin, textField m.title, textField m.creationTime,
    textField m.lastWriteTime, textField m.sha256Hex, textField m.commitToken]

def fieldsMeta : List Field → Option ObjectMeta
  | [contentType, contentLength, asin, title, creationTime, lastWriteTime, sha256Hex, commitToken] =>
    some
      { contentType := fieldText contentType
        contentLength := contentLength.bind List.head?
        asin := fieldText asin
        title := fieldText title
        creationTime := fieldText creationTime
        lastWriteTime := fieldText lastWriteTime
        sha256Hex := fieldText sha256Hex
        commitToken := fieldText commitToken }
  | _ => none

def encodeMeta (m : ObjectMeta) : Bytes :=
  (metaFields m).flatMap fieldCode

def decodeMeta (b : Bytes) : Option ObjectMeta :=
  match readMany readField 8 b with
  | some (fields, []) => fieldsMeta fields
  | _ => none

lemma decodeMeta_encodeMeta (m : ObjectMeta) : decodeMeta (encodeMeta m) = some m := by
  have hread := readMany_code readField_code (metaFields m) []
  rw [append_nil] at hread
  have hlength : (m.contentLength.map ([·])).bind head? = m.contentLength := by cases m.contentLength <;> rfl
  rw [decodeMeta, encodeMeta, show (8 : Nat) = (metaFields m).length from rfl, hread]
  simp [metaFields, fieldsMeta, fieldText_textField, hlength]

def plainBackend : Backend Str where
  place key := "/library/".toList ++ key
  temp path nonce := path ++ ".bookclerk-tmp-".toList ++ (toString nonce).toList
  digest b := List.replicate 31 0 ++ [UInt8.ofNat b.length]
  digest_length b := by simp
  encode := encodeMeta
  decode := decodeMeta
  decode_encode := decodeMeta_encodeMeta

end Bookclerk.Storage
