import Bookclerk.Jobs.Model

namespace Bookclerk.Events

open Lexical Db Jobs

inductive DeliveryState where
  | pending
  | running
  | acked
  | rejected
  | deadLetter
  deriving DecidableEq

def DeliveryState.isActive : DeliveryState → Bool
  | .pending | .running => true
  | .acked | .rejected | .deadLetter => false

structure Origin where
  id : Text
  eventId : Text
  pluginId : Text
  orderingKey : Text
  createdAt : Stamp
  resourceClass : Text
  maxAttempts : Int
  deriving DecidableEq

structure Delivery extends Origin where
  state : DeliveryState
  attemptCount : Int
  leaseOwner : Option Text
  leaseExpiresAt : Option Stamp
  leaseGeneration : Int
  runAfter : Stamp
  invocationSequence : Int
  resumePending : Bool
  checkpointJson : Option Text
  checkpointSchemaVersion : Int
  outcome : Option Text
  errorMessage : Option Text
  updatedAt : Stamp
  cancelRequested : Bool
  wakeEventType : Text
  wakeFilterJson : Text
  wakeGrantsJson : Text
  deriving DecidableEq

def Delivery.key (r : Delivery) : Text :=
  r.id

abbrev DeliveryTable := Table Delivery.key

def network : Text :=
  utf8 "network"

def trim (t : Text) : Text :=
  (t.take (t.length - trailingWhitespace t)).drop (leadingWhitespace t)

def resourceClassOr (resourceClass : Text) : Text :=
  if trim resourceClass = [] then network else trim resourceClass

def eventInflightSlot (pluginId resourceClass : Text) : Text :=
  utf8 "event-inflight:" ++ pluginId ++ utf8 ":" ++ resourceClassOr resourceClass

def eventDeliveryMaxAttempts : Int :=
  8

structure DeliveryFence where
  deliveryId : Text
  owner : Text
  generation : Int
  deriving DecidableEq

def DeliveryFence.owns (f : DeliveryFence) (r : Delivery) : Bool :=
  r.state = .running && r.leaseOwner = some f.owner && r.leaseGeneration = f.generation

def newDelivery (eventId pluginId orderingKey : Text) (now : Stamp) : Delivery where
  id := eventId ++ utf8 ":" ++ pluginId
  eventId := eventId
  pluginId := pluginId
  orderingKey := orderingKey
  createdAt := now
  resourceClass := network
  maxAttempts := eventDeliveryMaxAttempts
  state := .pending
  attemptCount := 0
  leaseOwner := none
  leaseExpiresAt := none
  leaseGeneration := 0
  runAfter := now
  invocationSequence := 0
  resumePending := false
  checkpointJson := none
  checkpointSchemaVersion := 0
  outcome := none
  errorMessage := none
  updatedAt := now
  cancelRequested := false
  wakeEventType := []
  wakeFilterJson := []
  wakeGrantsJson := []

/-- `serde_json::Value`. An object lists its fields by their keys; a float is the bits of its value. -/
inductive Json where
  | null
  | bool (b : Bool)
  | integer (n : Int)
  | float (bits : UInt64)
  | string (s : Text)
  | array (xs : List Json)
  | object (fields : List (Text × Json))

mutual

def Json.decEq : (a b : Json) → Decidable (a = b)
  | .null, .null => isTrue rfl
  | .bool a, .bool b => decidable_of_iff (a = b) (by simp)
  | .integer a, .integer b => decidable_of_iff (a = b) (by simp)
  | .float a, .float b => decidable_of_iff (a = b) (by simp)
  | .string a, .string b => decidable_of_iff (a = b) (by simp)
  | .array a, .array b => have := Json.decEqArray a b; decidable_of_iff (a = b) (by simp)
  | .object a, .object b => have := Json.decEqFields a b; decidable_of_iff (a = b) (by simp)
  | .null, .bool _ | .null, .integer _ | .null, .float _ | .null, .string _ | .null, .array _ | .null, .object _
  | .bool _, .null | .bool _, .integer _ | .bool _, .float _ | .bool _, .string _ | .bool _, .array _ | .bool _, .object _
  | .integer _, .null | .integer _, .bool _ | .integer _, .float _ | .integer _, .string _ | .integer _, .array _
  | .integer _, .object _
  | .float _, .null | .float _, .bool _ | .float _, .integer _ | .float _, .string _ | .float _, .array _
  | .float _, .object _
  | .string _, .null | .string _, .bool _ | .string _, .integer _ | .string _, .float _ | .string _, .array _
  | .string _, .object _
  | .array _, .null | .array _, .bool _ | .array _, .integer _ | .array _, .float _ | .array _, .string _
  | .array _, .object _
  | .object _, .null | .object _, .bool _ | .object _, .integer _ | .object _, .float _ | .object _, .string _
  | .object _, .array _ => isFalse (by simp)

def Json.decEqArray : (a b : List Json) → Decidable (a = b)
  | [], [] => isTrue rfl
  | [], _ :: _ | _ :: _, [] => isFalse (by simp)
  | x :: xs, y :: ys =>
    have := Json.decEq x y
    have := Json.decEqArray xs ys
    decidable_of_iff (x = y ∧ xs = ys) (by simp)

def Json.decEqFields : (a b : List (Text × Json)) → Decidable (a = b)
  | [], [] => isTrue rfl
  | [], _ :: _ | _ :: _, [] => isFalse (by simp)
  | (k, x) :: xs, (l, y) :: ys =>
    have := Json.decEq x y
    have := Json.decEqFields xs ys
    decidable_of_iff (k = l ∧ x = y ∧ xs = ys) (by simp [and_assoc])

end

instance : DecidableEq Json :=
  Json.decEq

abbrev JsonMap := List (Text × Json)

namespace JsonMap

def get (m : JsonMap) (key : Text) : Option Json :=
  (m.find? (·.1 = key)).map (·.2)

def insert (key : Text) (value : Json) : JsonMap → JsonMap
  | [] => [(key, value)]
  | field :: rest => if key < field.1 then (key, value) :: field :: rest else field :: insert key value rest

lemma mem_of_get {m : JsonMap} {key : Text} {value : Json} (h : m.get key = some value) : (key, value) ∈ m := by
  obtain ⟨field, hfind, rfl⟩ := Option.map_eq_some_iff.mp h
  have hkey : field.1 = key := by simpa using List.find?_some hfind
  rw [← hkey]
  exact List.mem_of_find?_eq_some hfind

lemma mem_insert {m : JsonMap} {key : Text} {value : Json} {field : Text × Json} :
    field ∈ insert key value m ↔ field = (key, value) ∨ field ∈ m := by
  induction m with
  | nil => simp [insert]
  | cons head rest ih =>
    by_cases hlt : key < head.1
    · simp [insert, hlt]
    · rw [insert, if_neg hlt, List.mem_cons, ih, List.mem_cons]
      exact or_left_comm

end JsonMap

/-- `[1]`, `network` and no filter when a stored subscription leaves them out. -/
structure EventCatalogSubscription where
  eventType : Text
  schemaVersions : List UInt32 := [1]
  supportsSuspend : Bool := false
  resourceClass : Text := network
  filter : Option Json := none
  deriving DecidableEq

def lists (schemaVersions : List UInt32) (schemaVersion : Int) : Bool :=
  schemaVersions.any fun v => (v.toNat : Int) = schemaVersion

section Filter

variable (parse : Text → Option Json)

def eventFilterMatches (filter : Option Json) (payload : Text) : Bool :=
  match filter with
  | none => true
  | some (.object fields) =>
    fields.isEmpty ||
      match parse payload with
      | some (.object found) => fields.all fun f => JsonMap.get found f.1 = some f.2
      | _ => false
  | some _ => false

end Filter

end Bookclerk.Events
