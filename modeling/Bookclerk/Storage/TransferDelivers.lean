import Bookclerk.Storage.TransferSpec

namespace Bookclerk.Storage.Transfer

open Str Option

variable {digest : Bytes → Bytes} {T : Transfer digest} {source prev : Option (Object digest)} {st : Objects digest}

def Arrived (T : Transfer digest) (source : Option (Object digest)) (st : Objects digest) : Prop :=
  ∃ s ∈ source, ∃ o ∈ st T.destKey, o.bytes = s.bytes ∧ T.Asked o.bytes

/-- No attempt goes wrong: an object taken for the source is the source, and a digest that the destination
does not compute is right. -/
structure Sound (T : Transfer digest) (source prev : Option (Object digest)) : Prop where
  found : ∀ s ∈ source, T.Agrees s → ∀ d ∈ prev, T.Matches s d → d.bytes = s.bytes ∧ T.Asked d.bytes
  streamed : ∀ s ∈ source, T.Agrees s → T.dest.report s.bytes = none → (∀ n ∈ T.info.contentLength, s.bytes.length = n) →
    T.Asked s.bytes

variable {s : Object digest}

lemma Sound.asked (h : T.Sound source prev) (hs : source = some s) (hagree : T.Agrees s) (hverified : T.Verified s) : T.Asked s.bytes := by
  obtain ⟨hlen, hsum⟩ := hverified
  cases hgot : T.dest.report s.bytes with
  | none => exact h.streamed s hs hagree hgot hlen
  | some got =>
    refine ⟨fun sha hsha => ?_, hlen⟩
    have hexp : T.expected s = some sha := by rw [expected, hsha]; rfl
    exact parseSha256Hex_of_eqIgnoreAsciiCase (hsum got hgot sha hexp) (T.dest.report_truthful s.bytes got hgot)

def Held (T : Transfer digest) (source prev : Option (Object digest)) (st : Objects digest) : Prop :=
  st T.destKey = prev ∨ T.Arrived source st

lemma Moves.held (hsound : T.Sound source prev) (hheld : T.Held source prev st)
    {r : Except StorageError TransferOutcome} {st' : Objects digest} (h : T.Moves source st (r, st')) :
    T.Held source prev st' ∧ (r.isOk → T.Arrived source st') := by
  generalize hres : (r, st') = res at h
  cases h with
  | failed hkeep =>
    cases hres
    refine ⟨?_, nofun⟩
    rcases hheld with hprev | ⟨s, hs, o, ho, hdone⟩
    · exact Or.inl (hkeep.trans hprev)
    · exact Or.inr ⟨s, hs, o, hkeep.trans ho, hdone⟩
  | found hs hagree hd hmatch =>
    cases hres
    refine ⟨hheld, fun _ => ?_⟩
    rcases hheld with hprev | hdone
    · exact ⟨_, hs, _, hd, hsound.found _ hs hagree _ (hprev.symm.trans hd) hmatch⟩
    · exact hdone
  | published hs hagree hverified ho hbytes =>
    cases hres
    have hdone : T.Arrived source st' := ⟨_, hs, _, ho, hbytes, hbytes ▸ hsound.asked hs hagree hverified⟩
    exact ⟨Or.inr hdone, fun _ => hdone⟩

lemma retry_held (hsound : T.Sound source prev) (attempts : Nat → Attempt) (left : Nat) :
    ∀ (i : Nat) (st : Objects digest), T.Held source prev st →
      T.Held source prev (T.retry source attempts left i st).2 ∧
        ((T.retry source attempts left i st).1.isOk → T.Arrived source (T.retry source attempts left i st).2) := by
  induction left with
  | zero => exact fun i st hheld => ⟨hheld, nofun⟩
  | succ left ih =>
    intro i st hheld
    have hmoves := transferOnce_moves (T := T) source (attempts i) st
    unfold retry
    generalize T.transferOnce source (attempts i) st = res at hmoves ⊢
    match res with
    | (.ok outcome, st') => exact hmoves.held hsound hheld
    | (.error e, st') =>
      dsimp only
      split_ifs
      · exact hmoves.held hsound hheld
      · exact ih (i + 1) st' (hmoves.held hsound hheld).1

lemma reapAbandonedStages_apply (reaped : Str → Bool) (st : Objects digest) (key : Str) :
    T.reapAbandonedStages reaped st key = if key ∈ T.options.abandoned ∧ reaped key then none else st key := by
  unfold reapAbandonedStages
  induction T.options.abandoned generalizing st with
  | nil => simp
  | cons k keys ih =>
    rw [List.foldl_cons, ih]
    rcases eq_or_ne key k with rfl | hne
    · by_cases hreaped : reaped key = true <;> simp [hreaped]
    · by_cases hreaped : reaped k = true <;> simp [hreaped, hne]

/-- A transfer that returns has delivered; one that fails has left the key alone or delivered the source bytes. -/
def Delivers (T : Transfer digest) (st : Objects digest) (res : Except StorageError TransferOutcome × Objects digest) : Prop :=
  match res.1 with
  | .ok _ => T.Arrived (T.object st) res.2
  | .error _ =>
    (res.2 T.destKey).map (·.bytes) = (st T.destKey).map (·.bytes) ∨
      ∃ s ∈ T.object st, (res.2 T.destKey).map (·.bytes) = some s.bytes

structure Deliverable (T : Transfer digest) (st : Objects digest) : Prop where
  copied : T.serverCopies → ∀ s ∈ T.object st, s.bytes.length ≤ maxSupportedObjectBytes → T.Asked s.bytes
  unreaped : ¬T.serverCopies → T.destKey ∈ T.options.abandoned → st T.destKey = none
  sound : ¬T.serverCopies → T.Sound (T.object st) (st T.destKey)

variable {res : Except StorageError TransferOutcome × Objects digest}

lemma delivers_of_held
    (hheld : T.Held (T.object st) (st T.destKey) res.2) (hok : res.1.isOk → T.Arrived (T.object st) res.2) : T.Delivers st res := by
  unfold Delivers
  cases hres : res.1 with
  | ok outcome => exact hok (by rw [hres]; rfl)
  | error e =>
    rcases hheld with hprev | ⟨s, hs, o, ho, hbytes, _⟩
    · exact Or.inl (congrArg _ hprev)
    · refine Or.inr ⟨s, hs, ?_⟩
      rw [show res.2 T.destKey = some o from ho, map_some, hbytes]

lemma Delivers.arrived (h : T.Delivers st res) (hok : res.1.isOk) : T.Arrived (T.object st) res.2 := by
  unfold Delivers at h
  cases hres : res.1 with
  | ok outcome => rwa [hres] at h
  | error e => rw [hres] at hok; cases hok

lemma object_of_serverCopies (h : T.serverCopies) (st : Objects digest) : T.object st = st T.sourceKey := by
  simp only [serverCopies, Bool.and_eq_true, decide_eq_true_eq] at h
  exact if_pos h.1

lemma copyInside_delivers (h : T.Deliverable st) (hcopies : T.serverCopies) (r : Run) : T.Delivers st (T.copyInside r st) := by
  have hobject := object_of_serverCopies hcopies st
  unfold copyInside
  cases hprobe : r.probe with
  | some e => exact Or.inl rfl
  | none =>
    cases hs : st T.sourceKey with
    | none => exact Or.inl rfl
    | some s =>
      dsimp only
      split_ifs with hsize
      · exact Or.inl rfl
      · have hasked := h.copied hcopies s (hobject.trans hs) (not_lt.mp hsize)
        have hwrite := write_self r.copy T.destKey s st
        generalize write r.copy T.destKey s st = res at hwrite ⊢
        match res with
        | (.ok _, out) =>
          rcases hwrite with ho | ⟨_, e, herr⟩
          · exact ⟨s, hobject.trans hs, s, ho, rfl, hasked⟩
          · cases herr
        | (.error e, out) =>
          rcases hwrite with ho | ⟨hsame, _⟩
          · exact Or.inr ⟨s, hobject.trans hs, congrArg _ ho⟩
          · exact Or.inl (congrArg _ hsame)

lemma transferObject_delivers (h : T.Deliverable st) (r : Run) : T.Delivers st (T.transferObject r st) := by
  unfold transferObject
  split_ifs with hcopies
  · exact copyInside_delivers h hcopies r
  · have hstart : T.Held (T.object st) (st T.destKey) (T.reapAbandonedStages r.reaped st) := by
      refine Or.inl ?_
      rw [reapAbandonedStages_apply]
      split_ifs with hreaped
      · exact (h.unreaped hcopies hreaped.1).symm
      · rfl
    obtain ⟨hheld, hok⟩ := retry_held (h.sound hcopies) r.attempts (max T.options.maxAttempts 1) 1 _ hstart
    exact delivers_of_held hheld hok

def quiet : Attempt :=
  { uuid := [] }

lemma stageAndPublish_quiet (hverified : T.Verified s) : (T.stageAndPublish quiet s (T.filled s) st).1.isOk := by
  have hmid : (Function.update st (stageKey [] T.destKey) (some (T.dest.keep s.bytes (T.filled s))))
      (stageKey [] T.destKey) = some _ := Function.update_self ..
  simp only [stageAndPublish, quiet, write, verifyStaged_of_verified hverified, publishStaged, hmid]
  split_ifs <;> rfl

lemma transferOnce_quiet (st : Objects digest) (hagree : T.Agrees s) (hverified : T.Verified s) :
    (T.transferOnce (some s) quiet st).1.isOk := by
  have hopened : checkOpened T.sourceKey (s.probe T.sourceKey) (s.probe T.sourceKey) = .ok () := if_neg (by simp)
  have hstream : (T.stream quiet s (T.filled s) st).1.isOk := by
    simp only [stream, hopened]
    exact stageAndPublish_quiet hverified
  simp only [transferOnce, fillMeta_of_agrees hagree, filled_sha256Hex] at hstream ⊢
  cases T.expected s with
  | none => exact hstream
  | some expected =>
    dsimp only
    split_ifs
    · rfl
    · exact hstream

lemma transferOnce_quiet_found {s d : Object digest} (hagree : T.Agrees s) (hd : st T.destKey = some d) (hmatch : T.Matches s d) :
    T.transferOnce (some s) quiet st = (.ok .alreadyPublished, st) := by
  obtain ⟨_, expected, hexp, _⟩ := id hmatch
  have hfound := (publishedAlready_iff T.sourceKey T.destKey hexp).mpr ⟨d, hd, hmatch⟩
  simp only [transferOnce, fillMeta_of_agrees hagree, filled_sha256Hex, quiet, show T.expected s = some expected from hexp, hfound, if_true]

lemma retry_first {a : Nat → Attempt} (left : Nat) (h : (T.transferOnce source (a 1) st).1.isOk) :
    T.retry source a (left + 1) 1 st = T.transferOnce source (a 1) st := by
  rw [retry]
  generalize T.transferOnce source (a 1) st = res at h ⊢
  match res with
  | (.ok outcome, out) => rfl
  | (.error e, out) => cases h

def quietRun : Run :=
  { reaped := fun _ => false, attempts := fun _ => quiet }

lemma attempts_pos (T : Transfer digest) : ∃ left, max T.options.maxAttempts 1 = left + 1 :=
  ⟨max T.options.maxAttempts 1 - 1, (Nat.succ_pred_eq_of_pos (by omega)).symm⟩

lemma transferObject_quietRun (hcopies : ¬T.serverCopies) (hok : (T.transferOnce (T.object st) quiet st).1.isOk) :
    T.transferObject quietRun st = T.transferOnce (T.object st) quiet st := by
  have hreap : T.reapAbandonedStages (fun _ => false) st = st := by
    funext key
    simp [reapAbandonedStages_apply]
  obtain ⟨left, hleft⟩ := attempts_pos T
  rw [transferObject, if_neg hcopies, hleft]
  change T.retry (T.object st) (fun _ => quiet) (left + 1) 1 (T.reapAbandonedStages (fun _ => false) st) = _
  rw [hreap]
  exact retry_first left hok

lemma sound_of_delivers (h : ∀ r : Run, T.Delivers st (T.transferObject r st)) (hcopies : ¬T.serverCopies) :
    T.Sound (T.object st) (st T.destKey) := by
  have hfound : ∀ s ∈ T.object st, T.Agrees s → ∀ d ∈ st T.destKey, T.Matches s d → d.bytes = s.bytes ∧ T.Asked d.bytes := by
    intro s hs hagree d hd hmatch
    have honce := transferOnce_quiet_found hagree hd hmatch
    rw [← show T.object st = some s from hs] at honce
    have hrun := transferObject_quietRun hcopies (by rw [honce]; rfl)
    obtain ⟨s', hs', o, ho, hdone⟩ := (h quietRun).arrived (by rw [hrun, honce]; rfl)
    rw [hrun, honce] at ho
    cases mem_unique hs hs'
    cases mem_unique hd ho
    exact hdone
  refine ⟨hfound, fun s hs hagree hreport hlen => ?_⟩
  have hverified : T.Verified s := ⟨hlen, fun got hgot => by simp [hreport] at hgot⟩
  have honce := transferOnce_quiet st hagree hverified
  rw [← show T.object st = some s from hs] at honce
  have hrun := transferObject_quietRun hcopies honce
  obtain ⟨s', hs', o, _, hbytes, hasked⟩ := (h quietRun).arrived (by rw [hrun]; exact honce)
  cases mem_unique hs hs'
  exact hbytes ▸ hasked

def reapedRun : Run :=
  { attempts := fun _ => { quiet with probe := some (.fails .other) } }

lemma unreaped_of_delivers (h : ∀ r : Run, T.Delivers st (T.transferObject r st)) (hcopies : ¬T.serverCopies)
    (hmem : T.destKey ∈ T.options.abandoned) : st T.destKey = none := by
  have hrun : T.transferObject reapedRun st = (.error .other, T.reapAbandonedStages (fun _ => true) st) := by
    obtain ⟨left, hleft⟩ := attempts_pos T
    rw [transferObject, if_neg hcopies, hleft]
    rfl
  have hreap : T.reapAbandonedStages (fun _ => true) st T.destKey = none := by
    rw [reapAbandonedStages_apply, if_pos ⟨hmem, rfl⟩]
  have hdelivers := h reapedRun
  rw [hrun] at hdelivers
  rcases hdelivers with hsame | ⟨s, _, hbytes⟩
  · simp only [hreap] at hsame
    exact map_eq_none_iff.mp hsame.symm
  · simp only [hreap] at hbytes
    cases hbytes

lemma copied_of_delivers (h : ∀ r : Run, T.Delivers st (T.transferObject r st)) (hcopies : T.serverCopies)
    (hs : T.object st = some s) (hsize : s.bytes.length ≤ maxSupportedObjectBytes) : T.Asked s.bytes := by
  have hrun : T.transferObject quietRun st = (.ok .serverCopy, Function.update st T.destKey (some s)) := by
    have hsource := (object_of_serverCopies hcopies st).symm.trans hs
    simp only [transferObject, hcopies, if_true, copyInside, quietRun, hsource, Object.probe, not_lt.mpr hsize, if_false, write]
  obtain ⟨s', hs', o, _, hbytes, hasked⟩ := (h quietRun).arrived (by rw [hrun]; rfl)
  cases mem_unique hs hs'
  exact hbytes ▸ hasked

theorem transfer_delivers_iff (T : Transfer digest) (st : Objects digest) :
    (∀ r : Run, T.Delivers st (T.transferObject r st)) ↔ T.Deliverable st := by
  constructor
  · intro h
    exact ⟨fun hcopies s hs hsize => copied_of_delivers h hcopies hs hsize, unreaped_of_delivers h, sound_of_delivers h⟩
  · exact transferObject_delivers

def headDigest (bytes : Bytes) : Bytes :=
  List.replicate 32 (bytes.headD 0)

def bareRemote (name : Str) : Remote headDigest where
  instanceId := name
  supportsServerCopy := true
  keep body _ := { bytes := body, truthful := fun _ hmem => by cases hmem }
  keep_bytes _ _ := rfl
  report _ := none
  report_truthful := nofun

def bareObject (bytes : Bytes) : Object headDigest :=
  { bytes, truthful := fun _ hmem => by cases hmem }

def sevens : Str :=
  hexEncode (headDigest [7])

def staleDest : Objects headDigest := fun key =>
  if key = "b".toList then
    some { bytes := [7], info := { sha256Hex := some sevens }, truthful := fun h hmem => by cases hmem; rfl }
  else some (bareObject [9])

def bareTransfer (source : Str) : Transfer headDigest where
  source := bareRemote source
  sourceKey := "a".toList
  dest := bareRemote []
  destKey := "b".toList
  info := { sha256Hex := some sevens }
  options := { maxAttempts := 1, abandoned := [] }
  elsewhere := some (bareObject [9])

lemma not_asked (name : Str) : ¬(bareTransfer name).Asked [9] := by
  rintro ⟨hsha, -⟩
  have hparse : parseSha256Hex sevens = .ok (headDigest [7]) := rfl
  have heq := Except.ok.inj ((hsha sevens rfl).symm.trans hparse)
  revert heq
  decide

theorem transfer_takes_other_bytes :
    (((bareTransfer "s".toList).transferObject quietRun staleDest).1 = .ok .alreadyPublished ∧
      ¬(bareTransfer "s".toList).Delivers staleDest ((bareTransfer "s".toList).transferObject quietRun staleDest)) ∧
      ((bareTransfer []).transferObject quietRun staleDest).1 = .ok .serverCopy ∧
        ¬(bareTransfer []).Delivers staleDest ((bareTransfer []).transferObject quietRun staleDest) := by
  have hstale : (bareTransfer "s".toList).transferObject quietRun staleDest = (.ok .alreadyPublished, staleDest) := by
    rfl
  have hcopied : ((bareTransfer []).transferObject quietRun staleDest).1 = .ok .serverCopy := by rfl
  refine ⟨⟨by rw [hstale], fun h => ?_⟩, hcopied, fun h => ?_⟩
  · obtain ⟨s, hs, o, ho, hbytes, _⟩ := h.arrived (by rw [hstale]; rfl)
    cases hs
    cases ho
    revert hbytes
    decide
  · obtain ⟨s, hs, o, ho, hbytes, hasked⟩ := h.arrived (by rw [hcopied]; rfl)
    cases hs
    rw [hbytes] at hasked
    exact not_asked [] hasked

end Bookclerk.Storage.Transfer
