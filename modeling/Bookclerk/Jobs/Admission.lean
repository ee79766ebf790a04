import Bookclerk.Jobs.Queue

namespace Bookclerk.Jobs

open Lexical Db List

variable {o : Option Text}

def JobKind.asStr : JobKind → Text
  | .scan => utf8 "scan"
  | .acquire => utf8 "acquire"
  | .listenSync => utf8 "listen_sync"
  | .integrationScan => utf8 "integration_scan"
  | .pluginCopy => utf8 "plugin_copy"
  | .invalid => utf8 "invalid"

def forceDigit (force : Bool) : Text :=
  if force then utf8 "1" else utf8 "0"

def JobKind.dedupKey (kind : JobKind) (payload : JobPayload) : Text :=
  let account := payload.account.getD (utf8 "all")
  match kind with
  | .scan => utf8 "scan:account=" ++ account
  | .acquire => utf8 "acquire:title=" ++ payload.title.getD (utf8 "all") ++ utf8 ":account=" ++ account
  | .listenSync => utf8 "listen_sync"
  | .integrationScan =>
    utf8 "integration_scan:id=" ++ payload.integrationId.getD (utf8 "all") ++ utf8 ":force=" ++ forceDigit payload.force
  | .pluginCopy =>
    utf8 "plugin_copy:plugin=" ++ payload.pluginId.getD (utf8 "local") ++ utf8 ":from=" ++ payload.sourceKey.getD (utf8 "-") ++
      utf8 ":to=" ++ payload.destKey.getD (utf8 "-")
  | .invalid => utf8 "invalid"

structure EnqueueJobSpec where
  kind : JobKind
  payload : JobPayload
  priority : Int
  maxAttempts : Int
  maxPending : Int
  runAfter : Option Stamp
  deriving DecidableEq

inductive EnqueueOutcome where
  | created (id : Text)
  | duplicate (existingId : Text)
  | queueFull
  deriving DecidableEq

structure Admission where
  outcome : EnqueueOutcome
  inserted : Option Job
  deriving DecidableEq

def createdBefore (a b : Job) : Prop :=
  a.createdAt ≤ b.createdAt

instance (a b : Job) : Decidable (createdBefore a b) :=
  inferInstanceAs (Decidable (_ ≤ _))

def activeByDedup (rows : List Job) (key : Text) : List Job :=
  rows.filter fun j => j.dedupKey = key && j.state.isActive

def oldestActive (rows : List Job) (key : Text) : Option Job :=
  ((activeByDedup rows key).insertionSort createdBefore).head?

def countActiveJobsOn (rows : List Job) : Nat :=
  rows.countP fun j => j.state.isActive

def newJob (spec : EnqueueJobSpec) (id key : Text) (resourceClass : JobResourceClass) (now : Stamp) : Job where
  id := id
  kind := .known spec.kind
  state := .pending
  priority := spec.priority
  resourceClass := .known resourceClass
  payload := .known spec.payload
  progress := none
  attemptCount := 0
  maxAttempts := max spec.maxAttempts 1
  runAfter := spec.runAfter.getD now
  leaseOwner := none
  leaseExpiresAt := none
  dedupKey := key
  errorKind := none
  errorMessage := none
  cancelRequested := false
  createdAt := now
  updatedAt := now
  startedAt := none
  finishedAt := none
  leaseGeneration := 0

def enqueueJobOn (t : JobTable) (spec : EnqueueJobSpec) (id : Text) (now : Stamp) : Except Text Admission :=
  if spec.kind = .invalid then .error (utf8 "cannot enqueue an invalid job kind")
  else if spec.payload.v ≠ jobPayloadVersion then
    .error (utf8 "unsupported job payload version " ++ utf8 (toString spec.payload.v))
  else
    let key := spec.kind.dedupKey spec.payload
    match oldestActive t.rows key with
    | some m =>
      match tryMapJob m with
      | .ok record => .ok ⟨.duplicate record.row.id, none⟩
      | .error reason => .error (utf8 "unreadable active job: " ++ reason)
    | none =>
      if (countActiveJobsOn t.rows : Int) ≥ max spec.maxPending 0 then .ok ⟨.queueFull, none⟩
      else .ok ⟨.created id, some (newJob spec id key spec.kind.resourceClass now)⟩

inductive PayloadField where
  | v
  | account
  | title
  | trigger
  | integrationId
  | force
  | pluginId
  | sourceKey
  | destKey
  | checkpoint
  | invocationSequence
  | resumePending
  deriving DecidableEq

inductive JsonValue where
  | text (s : Text)
  | bool (b : Bool)
  | number (n : Nat)
  | checkpoint (c : JobCheckpoint)
  deriving DecidableEq

def JsonValue.asStr : JsonValue → Option Text
  | .text s => some s
  | .bool _ | .number _ | .checkpoint _ => none

def JsonValue.asBool : JsonValue → Option Bool
  | .bool b => some b
  | .text _ | .number _ | .checkpoint _ => none

abbrev JsonObject := List (PayloadField × JsonValue)

def JsonObject.get (o : JsonObject) (name : PayloadField) : Option JsonValue :=
  (o.find? fun f => f.1 = name).map Prod.snd

def optField {α : Type} (name : PayloadField) (value : α → JsonValue) (o : Option α) : JsonObject :=
  (o.map fun a => (name, value a)).toList

def flagField (name : PayloadField) (b : Bool) : JsonObject :=
  if b then [(name, .bool true)] else []

def JobTrigger.asStr : JobTrigger → Text
  | .api => utf8 "api"
  | .scheduler => utf8 "scheduler"

def JobPayload.toJson (p : JobPayload) : JsonObject :=
  [(.v, .number p.v)] ++ optField .account .text p.account ++ optField .title .text p.title ++
    [(.trigger, .text p.trigger.asStr)] ++ optField .integrationId .text p.integrationId ++ flagField .force p.force ++
    optField .pluginId .text p.pluginId ++ optField .sourceKey .text p.sourceKey ++ optField .destKey .text p.destKey ++
    optField .checkpoint .checkpoint p.checkpoint ++ optField .invocationSequence .number p.invocationSequence ++
    flagField .resumePending p.resumePending

def jsonTextFromPayload (name : PayloadField) (payload : JsonObject) : Text :=
  (((payload.get name).bind JsonValue.asStr).filter (· ≠ [])).getD (utf8 "all")

def jsonAccountFromPayload : JsonObject → Text :=
  jsonTextFromPayload .account

def jsonTitleFromPayload : JsonObject → Text :=
  jsonTextFromPayload .title

def jsonIntegrationFromPayload : JsonObject → Text :=
  jsonTextFromPayload .integrationId

def jsonForceFromPayload (payload : JsonObject) : Text :=
  forceDigit (((payload.get .force).bind JsonValue.asBool).getD false)

def planDedupKey (kind : JobKind) (payload : JsonObject) : Text :=
  match kind with
  | .scan => utf8 "scan:account=" ++ jsonAccountFromPayload payload
  | .acquire => utf8 "acquire:title=" ++ jsonTitleFromPayload payload ++ utf8 ":account=" ++ jsonAccountFromPayload payload
  | .listenSync => utf8 "listen_sync"
  | .integrationScan =>
    utf8 "integration_scan:id=" ++ jsonIntegrationFromPayload payload ++ utf8 ":force=" ++ jsonForceFromPayload payload
  | .pluginCopy | .invalid => kind.asStr ++ utf8 ":unknown"

inductive PlanStatus where
  | ok
  | duplicate
  | queueFull
  deriving DecidableEq

def planStatus (rows : List Job) (key : Text) (now : Stamp) : PlanStatus :=
  if (activeByDedup rows key).any (·.createdAt = now) then .ok
  else if (activeByDedup rows key).isEmpty then .queueFull
  else .duplicate

/-- The batch of `plan_enqueue_job`, and what the host makes of its status and payload. -/
def planEnqueueJob (t : JobTable) (spec : EnqueueJobSpec) (id : Text) (now : Stamp) : Except Text Admission :=
  let key := planDedupKey spec.kind spec.payload.toJson
  let inserted :=
    if (activeByDedup t.rows key).isEmpty && (countActiveJobsOn t.rows : Int) < max spec.maxPending 0 then
      some (newJob spec id key .network now)
    else none
  let rows := t.rows ++ inserted.toList
  match planStatus rows key now, (oldestActive rows key).map Job.id with
  | .ok, some id => .ok ⟨.created id, inserted⟩
  | .ok, none => .error (utf8 "enqueueJob ok without id")
  | .duplicate, some id => .ok ⟨.duplicate id, inserted⟩
  | .duplicate, none => .error (utf8 "enqueueJob duplicate without id")
  | .queueFull, _ => .ok ⟨.queueFull, inserted⟩

def PlainKey (spec : EnqueueJobSpec) : Prop :=
  match spec.kind with
  | .scan => spec.payload.account ≠ some []
  | .acquire => spec.payload.title ≠ some [] ∧ spec.payload.account ≠ some []
  | .listenSync => True
  | .integrationScan => spec.payload.integrationId ≠ some []
  | .pluginCopy | .invalid => False

lemma get_append (o o' : JsonObject) (name : PayloadField) : JsonObject.get (o ++ o') name = (o.get name).or (o'.get name) := by
  rw [JsonObject.get, List.find?_append, Option.map_or]
  rfl

lemma get_singleton (n name : PayloadField) (value : JsonValue) :
    JsonObject.get [(n, value)] name = if n = name then some value else none := by
  by_cases h : n = name <;> simp [JsonObject.get, h]

lemma get_optField {α : Type} (n name : PayloadField) (value : α → JsonValue) (a : Option α) :
    (optField n value a).get name = if n = name then a.map value else none := by
  cases a with
  | none => simp [optField, JsonObject.get]
  | some a => exact get_singleton n name (value a)

lemma get_flagField (n name : PayloadField) (b : Bool) :
    (flagField n b).get name = if n = name ∧ b = true then some (.bool true) else none := by
  cases b with
  | false => simp [flagField, JsonObject.get]
  | true => simpa [flagField] using get_singleton n name (.bool true)

lemma get_toJson (p : JobPayload) :
    p.toJson.get .account = p.account.map .text ∧ p.toJson.get .title = p.title.map .text ∧
      p.toJson.get .integrationId = p.integrationId.map .text ∧ ((p.toJson.get .force).bind JsonValue.asBool).getD false = p.force := by
  simp only [JobPayload.toJson, get_append, get_singleton, get_optField, get_flagField]
  refine ⟨by simp, by simp, by simp, ?_⟩
  cases p.force <;> simp [JsonValue.asBool]

variable {payload : JsonObject} {name : PayloadField}

lemma jsonText_of_ne (h : payload.get name = o.map .text) (hne : o ≠ some []) : jsonTextFromPayload name payload = o.getD (utf8 "all") := by
  rcases o with _ | (_ | ⟨c, cs⟩)
  · simp [jsonTextFromPayload, h]
  · exact absurd rfl hne
  · simp [jsonTextFromPayload, h, JsonValue.asStr, Option.filter]

lemma length_jsonText (h : payload.get name = o.map .text) :
    (jsonTextFromPayload name payload).length = (o.getD (utf8 "all")).length + if o = some [] then 3 else 0 := by
  by_cases he : o = some []
  · subst he
    rw [jsonTextFromPayload, h]
    decide
  · rw [jsonText_of_ne h he, if_neg he, Nat.add_zero]

lemma ne_nil_of_length {n : Nat} (h : n + (if o = some [] then 3 else 0) = n) : o ≠ some [] := by
  rintro rfl
  simp at h

lemma planDedupKey_pluginCopy_ne (p : JobPayload) : planDedupKey .pluginCopy p.toJson ≠ JobKind.pluginCopy.dedupKey p := by
  intro h
  have htake := congrArg (List.take 13) h
  simp only [planDedupKey, JobKind.dedupKey, append_assoc] at htake
  have hlen : 13 ≤ (utf8 "plugin_copy:plugin=").length := by decide
  rw [take_append_of_le_length hlen] at htake
  revert htake
  decide

lemma planDedupKey_eq_iff {spec : EnqueueJobSpec} :
    planDedupKey spec.kind spec.payload.toJson = spec.kind.dedupKey spec.payload ↔ PlainKey spec := by
  obtain ⟨haccount, htitle, hintegration, hforce⟩ := get_toJson spec.payload
  have hlaccount := length_jsonText haccount
  have hltitle := length_jsonText htitle
  have hlintegration := length_jsonText hintegration
  cases hkind : spec.kind with
  | scan =>
    simp only [PlainKey, hkind, planDedupKey, JobKind.dedupKey, jsonAccountFromPayload, append_cancel_left_eq]
    refine ⟨fun h => ?_, jsonText_of_ne haccount⟩
    rw [h] at hlaccount
    exact ne_nil_of_length hlaccount.symm
  | acquire =>
    simp only [PlainKey, hkind, planDedupKey, JobKind.dedupKey, jsonAccountFromPayload, jsonTitleFromPayload]
    refine ⟨fun h => ?_, fun h => by rw [jsonText_of_ne htitle h.1, jsonText_of_ne haccount h.2]⟩
    -- the plan's texts are never shorter, so equal keys have equal texts
    have hlen := congrArg length h
    simp only [length_append] at hlen
    exact ⟨ne_nil_of_length (n := 0) (by omega), ne_nil_of_length (n := 0) (by omega)⟩
  | listenSync => simp [PlainKey, hkind, planDedupKey, JobKind.dedupKey]
  | integrationScan =>
    simp only [PlainKey, hkind, planDedupKey, JobKind.dedupKey, jsonIntegrationFromPayload, jsonForceFromPayload, hforce,
      append_cancel_right_eq, append_cancel_left_eq]
    refine ⟨fun h => ?_, jsonText_of_ne hintegration⟩
    rw [h] at hlintegration
    exact ne_nil_of_length hlintegration.symm
  | pluginCopy => simpa [PlainKey, hkind] using planDedupKey_pluginCopy_ne spec.payload
  | invalid =>
    simp only [PlainKey, hkind, planDedupKey, JobKind.dedupKey]
    decide

end Bookclerk.Jobs
