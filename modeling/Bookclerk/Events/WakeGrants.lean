import Bookclerk.Events.Model

namespace Bookclerk.Events

open Lexical List Option

variable {left right : JsonMap} {declared filter requested : Option Json}

structure EventWakeGrant where
  schemaVersions : List UInt32
  filter : Option Json
  deriving DecidableEq

structure Serde where
  parse : Text → Option Json
  renderGrants : List EventWakeGrant → Text
  parseGrants : Text → Option (List EventWakeGrant)

def asMap : Option Json → Option JsonMap
  | some (.object fields) => if fields.isEmpty then none else some fields
  | _ => none

def mergeFields (out : JsonMap) : JsonMap → Option JsonMap
  | [] => some out
  | (key, value) :: rest =>
    match out.get key with
    | some existing => if existing = value then mergeFields out rest else none
    | none => mergeFields (JsonMap.insert key value out) rest

def intersectEventFilters (declared requested : Option Json) : Option Json :=
  match asMap declared, asMap requested with
  | none, none => some (.object [])
  | some fields, none => some (.object fields)
  | none, some fields => some (.object fields)
  | some left, some right => (mergeFields left right).map .object

def grantFilter : Json → Option Json
  | .object [] => none
  | other => some other

def grantOf (requested : Option Json) (sub : EventCatalogSubscription) : Option EventWakeGrant :=
  (intersectEventFilters sub.filter requested).map fun filter => ⟨sub.schemaVersions, grantFilter filter⟩

def notWithin : Text :=
  utf8 "wake filter not within subscription"

def requestedFilter (serde : Serde) (requestedFilterJson : Text) : Except Text (Option Json) :=
  if trim requestedFilterJson = [] then .ok none
  else
    match serde.parse requestedFilterJson with
    | some (.object fields) => .ok (some (.object fields))
    | _ => .error notWithin

def wakeGrantsFromSubscriptions (serde : Serde) (subs : List EventCatalogSubscription) (wakeType requestedFilterJson : Text) :
    Except Text (List EventWakeGrant) :=
  if trim wakeType = [] then .ok []
  else do
    let requested ← requestedFilter serde requestedFilterJson
    let eligible := subs.filter fun s => s.eventType = trim wakeType
    if eligible.isEmpty then .error (utf8 "wake event type not subscribed")
    else
      let grants := eligible.filterMap (grantOf requested)
      if grants.isEmpty then .error notWithin else .ok grants

def eventMatchesWakeGrants (serde : Serde) (grantsJson legacyFilterJson : Text) (schemaVersion : Int) (payload : Text) : Bool :=
  if trim grantsJson = [] ∨ trim grantsJson = utf8 "[]" then
    eventFilterMatches serde.parse (if trim legacyFilterJson = [] then none else serde.parse legacyFilterJson) payload
  else
    match serde.parseGrants (trim grantsJson) with
    | none => false
    | some grants => grants.any fun g => lists g.schemaVersions schemaVersion && eventFilterMatches serde.parse g.filter payload

/-- What `serde_json` owes the host for `grants`: it reads back what it wrote, and never writes them
like an empty column. -/
structure ReadsBack (serde : Serde) (grants : List EventWakeGrant) : Prop where
  parse : serde.parseGrants (trim (serde.renderGrants grants)) = some grants
  written : trim (serde.renderGrants grants) ≠ []
  listed : trim (serde.renderGrants grants) ≠ utf8 "[]"

def requestedOf (serde : Serde) (requestedFilterJson : Text) : Option Json :=
  if trim requestedFilterJson = [] then none else serde.parse requestedFilterJson

def isFilter : Option Json → Bool
  | none | some (.object _) => true
  | some _ => false

section Fields

variable {parse : Text → Option Json} {payload : Text}

def FieldsIn (parse : Text → Option Json) (payload : Text) (fields : JsonMap) : Prop :=
  fields = [] ∨ ∃ found, parse payload = some (.object found) ∧ ∀ f ∈ fields, JsonMap.get found f.1 = some f.2

lemma eventFilterMatches_object {fields : JsonMap} :
    eventFilterMatches parse (some (.object fields)) payload = true ↔ FieldsIn parse payload fields := by
  rw [eventFilterMatches, Bool.or_eq_true, List.isEmpty_iff]
  refine or_congr_right ?_
  cases hparse : parse payload with
  | none => simp
  | some value => cases value <;> simp

lemma eventFilterMatches_grantFilter (fields : JsonMap) :
    eventFilterMatches parse (grantFilter (.object fields)) payload = eventFilterMatches parse (some (.object fields)) payload := by
  cases fields <;> rfl

lemma FieldsIn.union {out : JsonMap} (hmem : ∀ f, f ∈ out ↔ f ∈ left ∨ f ∈ right) :
    FieldsIn parse payload out ↔ FieldsIn parse payload left ∧ FieldsIn parse payload right := by
  constructor
  · rintro (rfl | ⟨found, hparse, hall⟩)
    · have hnone : ∀ f, f ∉ left ∧ f ∉ right := fun f => not_or.mp ((hmem f).not.mp not_mem_nil)
      exact ⟨.inl (eq_nil_iff_forall_not_mem.mpr fun f => (hnone f).1), .inl (eq_nil_iff_forall_not_mem.mpr fun f => (hnone f).2)⟩
    · exact ⟨.inr ⟨found, hparse, fun f hf => hall f ((hmem f).mpr (.inl hf))⟩,
        .inr ⟨found, hparse, fun f hf => hall f ((hmem f).mpr (.inr hf))⟩⟩
  · rintro ⟨hleft, hright⟩
    rcases hleft with rfl | ⟨found, hparse, hleft⟩
    · rcases hright with rfl | ⟨found, hparse, hright⟩
      · exact .inl (eq_nil_iff_forall_not_mem.mpr fun f hf => by simpa using (hmem f).mp hf)
      · exact .inr ⟨found, hparse, fun f hf => hright f (by simpa using (hmem f).mp hf)⟩
    · rcases hright with rfl | ⟨found', hparse', hright⟩
      · exact .inr ⟨found, hparse, fun f hf => hleft f (by simpa using (hmem f).mp hf)⟩
      · obtain rfl : found = found' := by simpa [hparse] using hparse'
        exact .inr ⟨found, hparse, fun f hf => ((hmem f).mp hf).elim (hleft f) (hright f)⟩

lemma not_fieldsIn_both {key : Text} {a b : Json} (hab : a ≠ b)
    (ha : (key, a) ∈ left ∨ (key, a) ∈ right) (hb : (key, b) ∈ right) : ¬ (FieldsIn parse payload left ∧ FieldsIn parse payload right) := by
  rintro ⟨hleft, hright⟩
  obtain rfl | ⟨found, hparse, hright⟩ := hright
  · exact not_mem_nil hb
  have hgb : JsonMap.get found key = some b := hright _ hb
  have hga : JsonMap.get found key = some a := by
    rcases ha with ha | ha
    · obtain rfl | ⟨found', hparse', hleft⟩ := hleft
      · exact absurd ha not_mem_nil
      · obtain rfl : found = found' := by simpa [hparse] using hparse'
        exact hleft _ ha
    · exact hright _ ha
  exact hab (mem_unique hga hgb)

end Fields

lemma mem_of_mergeFields {out : JsonMap} (h : mergeFields left right = some out) (f : Text × Json) : f ∈ out ↔ f ∈ left ∨ f ∈ right := by
  induction right generalizing left with
  | nil =>
    obtain rfl : left = out := by simpa [mergeFields] using h
    simp
  | cons field rest ih =>
    obtain ⟨key, value⟩ := field
    cases hget : left.get key with
    | some existing =>
      by_cases heq : existing = value
      · subst heq
        have hin := JsonMap.mem_of_get hget
        rw [ih (by simpa [mergeFields, hget] using h), mem_cons]
        refine ⟨Or.imp_right Or.inr, ?_⟩
        rintro (hf | rfl | hf)
        · exact .inl hf
        · exact .inl hin
        · exact .inr hf
      · simp [mergeFields, hget, heq] at h
    | none =>
      rw [ih (by simpa [mergeFields, hget] using h), JsonMap.mem_insert, mem_cons]
      exact or_assoc.trans or_left_comm

lemma conflict_of_mergeFields (h : mergeFields left right = none) :
    ∃ key a b, a ≠ b ∧ ((key, a) ∈ left ∨ (key, a) ∈ right) ∧ (key, b) ∈ right := by
  induction right generalizing left with
  | nil => simp [mergeFields] at h
  | cons field rest ih =>
    obtain ⟨key, value⟩ := field
    cases hget : left.get key with
    | some existing =>
      by_cases heq : existing = value
      · obtain ⟨k, a, b, hab, ha, hb⟩ := ih (by simpa [mergeFields, hget, heq] using h)
        exact ⟨k, a, b, hab, ha.imp_right (mem_cons_of_mem _), mem_cons_of_mem _ hb⟩
      · exact ⟨key, existing, value, heq, .inl (JsonMap.mem_of_get hget), mem_cons_self⟩
    | none =>
      obtain ⟨k, a, b, hab, ha, hb⟩ := ih (by simpa [mergeFields, hget] using h)
      refine ⟨k, a, b, hab, ?_, mem_cons_of_mem _ hb⟩
      rcases ha with ha | ha
      · rcases JsonMap.mem_insert.mp ha with heq | ha
        · exact .inr (heq ▸ mem_cons_self)
        · exact .inl ha
      · exact .inr (mem_cons_of_mem _ ha)

def fieldsOf (filter : Option Json) : JsonMap :=
  (asMap filter).getD []

lemma intersectEventFilters_some {filter : Json}
    (h : intersectEventFilters declared requested = some filter) :
    ∃ out, filter = .object out ∧ ∀ f, f ∈ out ↔ f ∈ fieldsOf declared ∨ f ∈ fieldsOf requested := by
  simp only [intersectEventFilters] at h
  cases hd : asMap declared with
  | none =>
    cases hr : asMap requested with
    | none => exact ⟨[], by simpa [hd, hr, eq_comm] using h, by simp [fieldsOf, hd, hr]⟩
    | some fields => exact ⟨fields, by simpa [hd, hr, eq_comm] using h, by simp [fieldsOf, hd, hr]⟩
  | some left =>
    cases hr : asMap requested with
    | none => exact ⟨left, by simpa [hd, hr, eq_comm] using h, by simp [fieldsOf, hd, hr]⟩
    | some right =>
      simp only [hd, hr] at h
      obtain ⟨out, hout, rfl⟩ := map_eq_some_iff.mp h
      exact ⟨out, rfl, by simpa [fieldsOf, hd, hr] using mem_of_mergeFields hout⟩

lemma intersectEventFilters_none (h : intersectEventFilters declared requested = none) :
    ∃ key a b, a ≠ b ∧ ((key, a) ∈ fieldsOf declared ∨ (key, a) ∈ fieldsOf requested) ∧ (key, b) ∈ fieldsOf requested := by
  simp only [intersectEventFilters] at h
  cases hd : asMap declared with
  | none => cases hr : asMap requested <;> simp [hd, hr] at h
  | some left =>
    cases hr : asMap requested with
    | none => simp [hd, hr] at h
    | some right => simpa [fieldsOf] using conflict_of_mergeFields (by simpa [hd, hr] using h)

section Matches

variable {parse : Text → Option Json} {payload : Text}

lemma eventFilterMatches_iff :
    eventFilterMatches parse filter payload = true ↔ isFilter filter = true ∧ FieldsIn parse payload (fieldsOf filter) := by
  rcases filter with _ | value
  · simp [eventFilterMatches, isFilter, fieldsOf, asMap, FieldsIn]
  · cases value with
    | object fields =>
      rw [eventFilterMatches_object]
      cases fields <;> simp [isFilter, fieldsOf, asMap]
    | _ => simp [eventFilterMatches, isFilter]

lemma fieldsIn_fieldsOf_iff :
    FieldsIn parse payload (fieldsOf filter) ↔ isFilter filter = false ∨ eventFilterMatches parse filter payload = true := by
  rw [eventFilterMatches_iff]
  rcases filter with _ | value
  · simp [isFilter]
  · cases value with
    | object fields => simp [isFilter]
    | _ => simp [fieldsOf, asMap, FieldsIn]

lemma matches_intersection (hrequested : isFilter requested = true) :
    (∃ filter, intersectEventFilters declared requested = some filter ∧
        eventFilterMatches parse (grantFilter filter) payload = true) ↔
      (isFilter declared = false ∨ eventFilterMatches parse declared payload = true) ∧
        eventFilterMatches parse requested payload = true := by
  have hreq : eventFilterMatches parse requested payload = true ↔ FieldsIn parse payload (fieldsOf requested) := by
    rw [eventFilterMatches_iff, hrequested, eq_self, true_and]
  rw [hreq, ← fieldsIn_fieldsOf_iff]
  cases hmerge : intersectEventFilters declared requested with
  | none =>
    obtain ⟨key, a, b, hab, ha, hb⟩ := intersectEventFilters_none hmerge
    simpa using not_fieldsIn_both hab ha hb
  | some filter =>
    obtain ⟨out, rfl, hmem⟩ := intersectEventFilters_some hmerge
    simp only [some.injEq, exists_eq_left']
    rw [eventFilterMatches_grantFilter, eventFilterMatches_object]
    exact FieldsIn.union hmem

end Matches

lemma requestedFilter_ok {serde : Serde} {requestedFilterJson : Text}
    (h : requestedFilter serde requestedFilterJson = .ok requested) :
    requested = requestedOf serde requestedFilterJson ∧ isFilter requested = true := by
  rw [requestedFilter] at h
  rw [requestedOf]
  by_cases hblank : trim requestedFilterJson = []
  · rw [if_pos hblank] at h
    obtain rfl : none = requested := by simpa using h
    exact ⟨(if_pos hblank).symm, rfl⟩
  · rw [if_neg hblank] at h
    rw [if_neg hblank]
    cases hparse : serde.parse requestedFilterJson with
    | none => simp [hparse] at h
    | some value =>
      cases value with
      | object fields =>
        obtain rfl : some (.object fields) = requested := by simpa [hparse] using h
        exact ⟨rfl, rfl⟩
      | _ => simp [hparse] at h

variable {grants : List EventWakeGrant}

lemma wakeGrantsFromSubscriptions_ok {serde : Serde} {subs : List EventCatalogSubscription} {wakeType requestedFilterJson : Text} (hwake : trim wakeType ≠ [])
    (h : wakeGrantsFromSubscriptions serde subs wakeType requestedFilterJson = .ok grants) :
    isFilter (requestedOf serde requestedFilterJson) = true ∧
      grants = (subs.filter fun s => s.eventType = trim wakeType).filterMap (grantOf (requestedOf serde requestedFilterJson)) := by
  rw [wakeGrantsFromSubscriptions, if_neg hwake] at h
  cases hreq : requestedFilter serde requestedFilterJson with
  | error e => simp [hreq, bind, Except.bind] at h
  | ok requested =>
    obtain ⟨rfl, hobject⟩ := requestedFilter_ok hreq
    refine ⟨hobject, ?_⟩
    simp only [hreq, bind, Except.bind] at h
    by_cases heligible : (subs.filter fun s => s.eventType = trim wakeType).isEmpty
    · simp [heligible] at h
    · rw [if_neg heligible] at h
      by_cases hgrants : ((subs.filter fun s => s.eventType = trim wakeType).filterMap
          (grantOf (requestedOf serde requestedFilterJson))).isEmpty
      · simp [hgrants] at h
      · rw [if_neg hgrants] at h
        exact (Except.ok.inj h).symm

section Wake

variable {serde : Serde} {subs : List EventCatalogSubscription} {wakeType requestedFilterJson : Text}

def Subscribed (serde : Serde) (subs : List EventCatalogSubscription) (wakeType : Text) (schemaVersion : Int) (payload : Text) : Prop :=
  ∃ sub ∈ subs, sub.eventType = trim wakeType ∧ lists sub.schemaVersions schemaVersion = true ∧
    eventFilterMatches serde.parse sub.filter payload = true

def ListedUnmatchable (subs : List EventCatalogSubscription) (wakeType : Text) (schemaVersion : Int) : Prop :=
  ∃ sub ∈ subs, sub.eventType = trim wakeType ∧ lists sub.schemaVersions schemaVersion = true ∧ isFilter sub.filter = false

lemma eventMatchesWakeGrants_of_readsBack (hserde : ReadsBack serde grants) (legacy : Text)
    (schemaVersion : Int) (payload : Text) :
    eventMatchesWakeGrants serde (serde.renderGrants grants) legacy schemaVersion payload =
      grants.any fun g => lists g.schemaVersions schemaVersion && eventFilterMatches serde.parse g.filter payload := by
  rw [eventMatchesWakeGrants, if_neg (by simp [hserde.written, hserde.listed])]
  simp only [hserde.parse]

lemma granted_iff (hwake : trim wakeType ≠ [])
    (h : wakeGrantsFromSubscriptions serde subs wakeType requestedFilterJson = .ok grants) (hserde : ReadsBack serde grants)
    (legacy : Text) (schemaVersion : Int) (payload : Text) :
    eventMatchesWakeGrants serde (serde.renderGrants grants) legacy schemaVersion payload = true ↔
      (ListedUnmatchable subs wakeType schemaVersion ∨ Subscribed serde subs wakeType schemaVersion payload) ∧
        eventFilterMatches serde.parse (requestedOf serde requestedFilterJson) payload = true := by
  obtain ⟨hobject, hgrants⟩ := wakeGrantsFromSubscriptions_ok hwake h
  rw [eventMatchesWakeGrants_of_readsBack hserde, List.any_eq_true]
  constructor
  · rintro ⟨grant, hmem, hmatch⟩
    rw [hgrants, mem_filterMap] at hmem
    obtain ⟨sub, hsub, hgrant⟩ := hmem
    obtain ⟨filter, hfilter, rfl⟩ := map_eq_some_iff.mp hgrant
    obtain ⟨hsub, htype⟩ : sub ∈ subs ∧ sub.eventType = trim wakeType := by simpa using hsub
    obtain ⟨hlists, hmatch⟩ := Bool.and_eq_true_iff.mp hmatch
    obtain ⟨hdeclared, hreq⟩ := (matches_intersection hobject).mp ⟨filter, hfilter, hmatch⟩
    exact ⟨hdeclared.imp (fun hno => ⟨sub, hsub, htype, hlists, hno⟩) fun hyes => ⟨sub, hsub, htype, hlists, hyes⟩, hreq⟩
  · rintro ⟨hcover, hreq⟩
    obtain ⟨sub, hsub, htype, hlists, hdeclared⟩ : ∃ sub ∈ subs, sub.eventType = trim wakeType ∧
        lists sub.schemaVersions schemaVersion = true ∧
        (isFilter sub.filter = false ∨ eventFilterMatches serde.parse sub.filter payload = true) := by
      rcases hcover with ⟨sub, hsub, htype, hlists, hno⟩ | ⟨sub, hsub, htype, hlists, hyes⟩
      · exact ⟨sub, hsub, htype, hlists, .inl hno⟩
      · exact ⟨sub, hsub, htype, hlists, .inr hyes⟩
    obtain ⟨filter, hfilter, hmatch⟩ := (matches_intersection hobject).mpr ⟨hdeclared, hreq⟩
    refine ⟨⟨sub.schemaVersions, grantFilter filter⟩, ?_, by simp [hlists, hmatch]⟩
    rw [hgrants, mem_filterMap]
    exact ⟨sub, by simp [hsub, htype], by rw [grantOf, hfilter, map_some]⟩

theorem wake_grants_exact_iff (grants : List EventWakeGrant) (legacy payload : Text) (schemaVersion : Int)
    (hwake : trim wakeType ≠ [])
    (hgrants : wakeGrantsFromSubscriptions serde subs wakeType requestedFilterJson = .ok grants)
    (hserde : ReadsBack serde grants) :
    (eventMatchesWakeGrants serde (serde.renderGrants grants) legacy schemaVersion payload = true ↔
        Subscribed serde subs wakeType schemaVersion payload ∧
          eventFilterMatches serde.parse (requestedOf serde requestedFilterJson) payload = true) ↔
      (ListedUnmatchable subs wakeType schemaVersion →
        eventFilterMatches serde.parse (requestedOf serde requestedFilterJson) payload = true →
          Subscribed serde subs wakeType schemaVersion payload) := by
  rw [granted_iff hwake hgrants hserde]
  tauto

end Wake

def scriptedSerde (values : List (Text × Json)) (rendered : Text) (grants : List EventWakeGrant) : Serde where
  parse text := JsonMap.get values text
  renderGrants _ := rendered
  parseGrants text := if text = rendered then some grants else none

def bookAcquired (filter : Option Json) : EventCatalogSubscription :=
  { eventType := utf8 "book_acquired", filter }

theorem wake_grants_exact_iff_store :
    let filter : Json := .object [(utf8 "store", .string (utf8 "a"))]
    let serde := scriptedSerde [(utf8 "\x7b\"store\":\"a\"\x7d", filter)]
      (utf8 "[\x7b\"schemaVersions\":[1],\"filter\":\x7b\"store\":\"a\"\x7d\x7d]") [⟨[1], some filter⟩]
    eventMatchesWakeGrants serde (serde.renderGrants [⟨[1], some filter⟩]) [] 1 (utf8 "\x7b\"store\":\"a\"\x7d") = true ↔
      Subscribed serde [bookAcquired (some filter)] (utf8 " book_acquired") 1 (utf8 "\x7b\"store\":\"a\"\x7d") ∧
        eventFilterMatches serde.parse (requestedOf serde []) (utf8 "\x7b\"store\":\"a\"\x7d") = true :=
  (wake_grants_exact_iff _ [] _ 1 (by decide +kernel) (by decide +kernel)
    ⟨by decide +kernel, by decide +kernel, by decide +kernel⟩).mpr fun ⟨sub, hsub, _, _, hno⟩ => by
      obtain rfl := mem_singleton.mp hsub
      exact absurd hno (by decide +kernel)

theorem string_filter_broadens :
    let serde := scriptedSerde [] (utf8 "[\x7b\"schemaVersions\":[1],\"filter\":null\x7d]") [⟨[1], none⟩]
    let subs := [bookAcquired (some (.string (utf8 "a")))]
    wakeGrantsFromSubscriptions serde subs (utf8 "book_acquired") [] = .ok [⟨[1], none⟩] ∧
      ReadsBack serde [⟨[1], none⟩] ∧
      eventMatchesWakeGrants serde (serde.renderGrants [⟨[1], none⟩]) [] 1 (utf8 "\x7b\x7d") = true ∧
      ¬ Subscribed serde subs (utf8 "book_acquired") 1 (utf8 "\x7b\x7d") := by
  refine ⟨by decide +kernel, ⟨by decide +kernel, by decide +kernel, by decide +kernel⟩, by decide +kernel, ?_⟩
  rintro ⟨sub, hsub, -, -, hmatch⟩
  obtain rfl := mem_singleton.mp hsub
  exact absurd hmatch (by decide +kernel)

end Bookclerk.Events
