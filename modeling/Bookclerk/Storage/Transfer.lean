import Bookclerk.Storage.Files

/-! `transfer_object`: one object copied between two backends whose `copy` and `put_stream` are atomic and
whose probes are truthful. The source object does not change while the transfer runs. -/

namespace Bookclerk.Storage

open Str

/-- An object with what a truthful probe says of it: a recorded digest is the digest of the bytes. -/
structure Object (digest : Bytes → Bytes) where
  bytes : Bytes
  contentType : Option Str := none
  info : ObjectMeta := {}
  etag : Option Str := none
  truthful : ∀ h ∈ info.sha256Hex, parseSha256Hex h = .ok (digest bytes)

structure PutStreamResult where
  bytesWritten : Nat
  etag : Option Str
  sha256Hex : Option Str
deriving DecidableEq

inductive TransferOutcome where
  | serverCopy
  | streamed (result : PutStreamResult)
  | alreadyPublished
deriving DecidableEq

/-- What of a backend `transfer_object` depends on: the object that `put_stream` stores for a body, and
the digest that it reports, if it computes one. -/
structure Remote (digest : Bytes → Bytes) where
  instanceId : Str
  supportsServerCopy : Bool
  keep : Bytes → ObjectMeta → Object digest
  keep_bytes : ∀ body info, (keep body info).bytes = body
  report : Bytes → Option Str
  report_truthful : ∀ body, ∀ h ∈ report body, parseSha256Hex h = .ok (digest body)

variable {digest : Bytes → Bytes}

abbrev Objects (digest : Bytes → Bytes) :=
  Str → Option (Object digest)

def Object.probe (o : Object digest) (key : Str) : ObjectProbe :=
  { key, size := o.bytes.length, contentType := o.contentType, info := o.info, etag := o.etag }

inductive Trouble where
  | fails (e : StorageError)
  | timesOut
deriving DecidableEq

def Trouble.error : Trouble → StorageError
  | fails e => e
  | timesOut => .io .timedOut

/-- The calls of one attempt, `none` where the call answers. A write that gives no answer may still have
been made; being atomic, it is then made whole. -/
structure Attempt where
  probe : Option Trouble := none
  head : Option Trouble := none
  getStream : Option Trouble := none
  uuid : Str
  arm : Option Trouble := none
  stage : Option (Trouble × Bool) := none
  verify : Option Trouble := none
  read : Option Trouble := none
  publish : Option (Trouble × Bool) := none
  cleaned : Bool := true
  cleanup : Option Trouble := none

structure TransferOptions where
  maxAttempts : Nat
  /-- The stage keys of this destination that the journal leaves to dead owners. -/
  abandoned : List Str

structure Transfer (digest : Bytes → Bytes) where
  source : Remote digest
  sourceKey : Str
  dest : Remote digest
  destKey : Str
  info : ObjectMeta
  options : TransferOptions
  elsewhere : Option (Object digest)

def isRetryable : StorageError → Bool
  | .io kind => kind ≠ .notFound ∧ kind ≠ .invalidData
  | .s3 => true
  | _ => false

def stageKey (uuid destKey : Str) : Str :=
  ".bookclerk-stage/".toList ++ uuid ++ '/' :: destKey

def filledMeta (before : ObjectProbe) (info : ObjectMeta) : ObjectMeta :=
  { info with
    sha256Hex := info.sha256Hex.or before.info.sha256Hex
    contentLength := info.contentLength.or (some before.size)
    contentType := info.contentType.or (before.contentType.or before.info.contentType) }

def fillMeta (before : ObjectProbe) (info : ObjectMeta) : Except StorageError ObjectMeta :=
  match info.sha256Hex with
  | none => .ok (filledMeta before info)
  | some expected =>
    match parseSha256Hex expected, before.info.sha256Hex with
    | .error e, _ => .error e
    | .ok _, none => .ok (filledMeta before info)
    | .ok _, some sum =>
      if !eqIgnoreAsciiCase expected sum then .error (.integrity "expected digest conflicts with the source probe")
      else .ok (filledMeta before info)

def publishedAlready (before : ObjectProbe) (expected : Str) (existing : Option ObjectProbe) : Bool :=
  existing.any fun p => p.size = before.size ∧ p.info.sha256Hex.any fun got => eqIgnoreAsciiCase got expected

def checkOpened (sourceKey : Str) (before opened : ObjectProbe) : Except StorageError Unit :=
  if opened.size ≠ before.size ∨ opened.etag ≠ before.etag then
    .error (.integrity s!"source `{String.ofList sourceKey}` changed between HEAD and GET")
  else .ok ()

def checkLength (info : ObjectMeta) (written : PutStreamResult) : Except StorageError Unit :=
  match info.contentLength with
  | some expected =>
    if written.bytesWritten ≠ expected then
      .error (.integrity s!"transferred {written.bytesWritten} bytes, source size is {expected}")
    else .ok ()
  | none => .ok ()

def checkUnchanged (sourceKey : Str) (before after : ObjectProbe) : Except StorageError Unit :=
  if after.size ≠ before.size ∨ after.etag ≠ before.etag then
    .error (.integrity s!"source `{String.ofList sourceKey}` changed during transfer")
  else .ok ()

def checkDigest (info : ObjectMeta) (written : PutStreamResult) : Except StorageError Unit :=
  match info.sha256Hex, written.sha256Hex with
  | some expected, some got =>
    if !eqIgnoreAsciiCase expected got then .error (.integrity "staged digest does not match the source") else .ok ()
  | _, _ => .ok ()

def unconfirmed (sourceKey : Str) : Trouble → StorageError
  | .fails _ => .integrity s!"source `{String.ofList sourceKey}` could not be confirmed after staging"
  | .timesOut => .io .timedOut

def verifyStaged (sourceKey : Str) (before : ObjectProbe) (answer : Except Trouble ObjectProbe) (info : ObjectMeta)
    (written : PutStreamResult) : Except StorageError Unit := do
  checkLength info written
  match answer with
  | .error t => throw (unconfirmed sourceKey t)
  | .ok after =>
    checkUnchanged sourceKey before after
    checkDigest info written

namespace Transfer

variable (T : Transfer digest)

def object (st : Objects digest) : Option (Object digest) :=
  if T.source.instanceId = T.dest.instanceId then st T.sourceKey else T.elsewhere

def serverCopies : Bool :=
  T.source.instanceId = T.dest.instanceId && T.dest.supportsServerCopy

def written (body : Bytes) (info : ObjectMeta) : PutStreamResult :=
  { bytesWritten := body.length, etag := (T.dest.keep body info).etag, sha256Hex := T.dest.report body }

def write (trouble : Option (Trouble × Bool)) (key : Str) (o : Object digest) (st : Objects digest) :
    Except StorageError Unit × Objects digest :=
  match trouble with
  | none => (.ok (), Function.update st key (some o))
  | some (t, applied) => (.error t.error, if applied then Function.update st key (some o) else st)

def cleanupNow (a : Attempt) (st : Objects digest) : Objects digest :=
  if a.cleaned then Function.update st (stageKey a.uuid T.destKey) none else st

/-- The stage object as `copy` or `get_stream` followed by `put_stream` publishes it. -/
def publishStaged (a : Attempt) (info : ObjectMeta) (written : PutStreamResult) (st : Objects digest) :
    Except StorageError Unit × Objects digest :=
  match st (stageKey a.uuid T.destKey) with
  | none => (.error (.notFound (stageKey a.uuid T.destKey)), st)
  | some staged =>
    if T.dest.supportsServerCopy then write a.publish T.destKey staged st
    else
      match a.read with
      | some t => (.error t.error, st)
      | none =>
        let publishMeta := { info with
          sha256Hex := written.sha256Hex.or info.sha256Hex
          contentLength := some written.bytesWritten }
        write a.publish T.destKey (T.dest.keep staged.bytes publishMeta) st

def stageAndPublish (a : Attempt) (s : Object digest) (info : ObjectMeta) (st : Objects digest) :
    Except StorageError TransferOutcome × Objects digest :=
  match write a.stage (stageKey a.uuid T.destKey) (T.dest.keep s.bytes info) st with
  | (.error e, st) => (.error e, T.cleanupNow a st)
  | (.ok (), st) =>
    let written := T.written s.bytes info
    let answer : Except Trouble ObjectProbe := match a.verify with
      | some t => .error t
      | none => .ok (s.probe T.sourceKey)
    match verifyStaged T.sourceKey (s.probe T.sourceKey) answer info written with
    | .error e => (.error e, T.cleanupNow a st)
    | .ok () =>
      match T.publishStaged a info written st with
      | (.error e, st) => (.error e, T.cleanupNow a st)
      | (.ok (), st) =>
        match a.cleanup with
        | some t => (.error t.error, T.cleanupNow a st)
        | none => (.ok (.streamed written), T.cleanupNow a st)

def stream (a : Attempt) (s : Object digest) (info : ObjectMeta) (st : Objects digest) :
    Except StorageError TransferOutcome × Objects digest :=
  match a.getStream with
  | some t => (.error t.error, st)
  | none =>
    match checkOpened T.sourceKey (s.probe T.sourceKey) (s.probe T.sourceKey) with
    | .error e => (.error e, st)
    | .ok () =>
      match a.arm with
      | some t => (.error t.error, st)
      | none => T.stageAndPublish a s info st

def transferOnce (source : Option (Object digest)) (a : Attempt) (st : Objects digest) :
    Except StorageError TransferOutcome × Objects digest :=
  match a.probe with
  | some t => (.error t.error, st)
  | none =>
    match source with
    | none => (.error (.notFound T.sourceKey), st)
    | some s =>
      match fillMeta (s.probe T.sourceKey) T.info with
      | .error e => (.error e, st)
      | .ok info =>
        match info.sha256Hex with
        | none => T.stream a s info st
        | some expected =>
          match a.head with
          | some t => (.error t.error, st)
          | none =>
            if publishedAlready (s.probe T.sourceKey) expected ((st T.destKey).map (·.probe T.destKey)) then
              (.ok .alreadyPublished, st)
            else T.stream a s info st

def retry (source : Option (Object digest)) (attempts : Nat → Attempt) : Nat → Nat → Objects digest →
    Except StorageError TransferOutcome × Objects digest
  | 0, _, st => (.error .other, st)
  | left + 1, i, st =>
    match T.transferOnce source (attempts i) st with
    | (.ok outcome, st) => (.ok outcome, st)
    | (.error e, st) => if !isRetryable e ∨ left = 0 then (.error e, st) else retry source attempts left (i + 1) st

def reapAbandonedStages (reaped : Str → Bool) (st : Objects digest) : Objects digest :=
  T.options.abandoned.foldl (fun st key => if reaped key then Function.update st key none else st) st

structure Run where
  probe : Option StorageError := none
  copy : Option (Trouble × Bool) := none
  reaped : Str → Bool := fun _ => true
  attempts : Nat → Attempt

def copyInside (r : Run) (st : Objects digest) : Except StorageError TransferOutcome × Objects digest :=
  match r.probe, st T.sourceKey with
  | some e, _ => (.error e, st)
  | none, none => (.error (.notFound T.sourceKey), st)
  | none, some s =>
    if maxSupportedObjectBytes < (s.probe T.sourceKey).size then
      (.error (.payloadTooLarge s!"object length {s.bytes.length} exceeds {maxSupportedObjectBytes}"), st)
    else
      match write r.copy T.destKey s st with
      | (.error e, st) => (.error e, st)
      | (.ok (), st) => (.ok .serverCopy, st)

def transferObject (r : Run) (st : Objects digest) : Except StorageError TransferOutcome × Objects digest :=
  if T.serverCopies then T.copyInside r st
  else T.retry (T.object st) r.attempts (max T.options.maxAttempts 1) 1 (T.reapAbandonedStages r.reaped st)

end Transfer

end Bookclerk.Storage
