import Bookclerk.Storage.Transfer

namespace Bookclerk.Storage

open Str List Function

variable {digest : Bytes → Bytes}

lemma hexDecode_toAsciiLowercase (s : Str) : hexDecode (toAsciiLowercase s) = hexDecode s := by
  induction s using twoStepInduction with
  | nil | singleton c => rfl
  | cons_cons a b rest ih _ =>
    have hrest : hexDecode (rest.map Char.toLower) = hexDecode rest := ih
    simp only [toAsciiLowercase, map_cons, hexDecode, toDigit_toLower, hrest]

lemma parseSha256Hex_of_eqIgnoreAsciiCase {s t : Str} (h : eqIgnoreAsciiCase s t = true) {d : Bytes}
    (ht : parseSha256Hex t = .ok d) : parseSha256Hex s = .ok d := by
  have heq : toAsciiLowercase s = toAsciiLowercase t := by simpa [eqIgnoreAsciiCase] using h
  have hdecode : hexDecode (trim s) = hexDecode (trim t) := by
    rw [← hexDecode_toAsciiLowercase, ← trim_toAsciiLowercase, heq, trim_toAsciiLowercase, hexDecode_toAsciiLowercase]
  unfold parseSha256Hex at ht ⊢
  rw [hdecode]
  cases hraw : hexDecode (trim t) with
  | none => simp [hraw] at ht
  | some raw => simpa [hraw] using ht

lemma ne_append_cons {α : Type} (x pre : List α) (c : α) : x ≠ pre ++ c :: x := by
  intro h
  have hlen := congrArg length h
  rw [length_append, length_cons] at hlen
  omega

lemma stageKey_ne (uuid destKey : Str) : destKey ≠ stageKey uuid destKey :=
  ne_append_cons destKey _ '/'

namespace Transfer

variable (T : Transfer digest)

def Asked (bytes : Bytes) : Prop :=
  (∀ h ∈ T.info.sha256Hex, parseSha256Hex h = .ok (digest bytes)) ∧ ∀ n ∈ T.info.contentLength, bytes.length = n

def Agrees (s : Object digest) : Prop :=
  ∀ h ∈ T.info.sha256Hex, (parseSha256Hex h).isOk ∧ ∀ sum ∈ s.info.sha256Hex, eqIgnoreAsciiCase h sum

abbrev filled (s : Object digest) : ObjectMeta :=
  filledMeta (s.probe T.sourceKey) T.info

def expected (s : Object digest) : Option Str :=
  T.info.sha256Hex.or s.info.sha256Hex

def Matches (s d : Object digest) : Prop :=
  d.bytes.length = s.bytes.length ∧ ∃ h ∈ T.expected s, ∃ got ∈ d.info.sha256Hex, eqIgnoreAsciiCase got h

def Verified (s : Object digest) : Prop :=
  (∀ n ∈ T.info.contentLength, s.bytes.length = n) ∧
    ∀ got ∈ T.dest.report s.bytes, ∀ h ∈ T.expected s, eqIgnoreAsciiCase h got

variable {T} {s : Object digest} {st : Objects digest}

lemma fillMeta_of_agrees (h : T.Agrees s) : fillMeta (s.probe T.sourceKey) T.info = .ok (T.filled s) := by
  unfold fillMeta
  cases hsha : T.info.sha256Hex with
  | none => rfl
  | some expected =>
    obtain ⟨hok, hsum⟩ := h expected hsha
    cases hparse : parseSha256Hex expected with
    | error e => rw [hparse] at hok; cases hok
    | ok d =>
      cases hinfo : s.info.sha256Hex with
      | none => simp only [hparse, filled, Object.probe, hinfo]
      | some sum => simp only [hparse, filled, Object.probe, hinfo, hsum sum hinfo, Bool.not_true, Bool.false_eq_true, if_false]

lemma agrees_of_fillMeta {info : ObjectMeta} (h : fillMeta (s.probe T.sourceKey) T.info = .ok info) : T.Agrees s ∧ info = T.filled s := by
  unfold fillMeta at h
  cases hsha : T.info.sha256Hex with
  | none =>
    rw [hsha] at h
    exact ⟨fun expected hmem => by simp [hsha] at hmem, (Except.ok.inj h).symm⟩
  | some expected =>
    cases hparse : parseSha256Hex expected with
    | error e => simp [hsha, hparse] at h
    | ok d =>
      have hok : (parseSha256Hex expected).isOk := by rw [hparse]; rfl
      cases hinfo : s.info.sha256Hex with
      | none =>
        simp only [hsha, hparse, Object.probe, hinfo] at h
        refine ⟨fun e hmem => ?_, (Except.ok.inj h).symm⟩
        cases hsha.symm.trans hmem
        exact ⟨hok, fun sum hsum => by simp [hinfo] at hsum⟩
      | some sum =>
        simp only [hsha, hparse, Object.probe, hinfo] at h
        split_ifs at h with heq
        refine ⟨fun e hmem => ?_, (Except.ok.inj h).symm⟩
        cases hsha.symm.trans hmem
        refine ⟨hok, fun sum' hsum => ?_⟩
        cases hinfo.symm.trans hsum
        simpa using heq

lemma filled_sha256Hex : (T.filled s).sha256Hex = T.expected s := rfl

lemma checkLength_filled : checkLength (T.filled s) (T.written s.bytes (T.filled s)) = .ok () ↔
      ∀ n ∈ T.info.contentLength, s.bytes.length = n := by
  cases hlen : T.info.contentLength with
  | none | some n => simp [checkLength, filledMeta, hlen, written, Object.probe]

lemma checkDigest_filled : checkDigest (T.filled s) (T.written s.bytes (T.filled s)) = .ok () ↔
      ∀ got ∈ T.dest.report s.bytes, ∀ h ∈ T.expected s, eqIgnoreAsciiCase h got := by
  rw [checkDigest, filled_sha256Hex]
  cases hexp : T.expected s with
  | none => simp
  | some h =>
    cases hgot : T.dest.report s.bytes with
    | none | some got => simp [written, hgot]

lemma checkUnchanged_self (key : Str) (p : ObjectProbe) : checkUnchanged key p p = .ok () :=
  if_neg (by simp)

lemma verifyStaged_ok {answer : Except Trouble ObjectProbe}
    (h : verifyStaged T.sourceKey (s.probe T.sourceKey) answer (T.filled s) (T.written s.bytes (T.filled s)) = .ok ()) : T.Verified s := by
  unfold verifyStaged at h
  cases hlen : checkLength (T.filled s) (T.written s.bytes (T.filled s)) with
  | error e => rw [hlen] at h; cases h
  | ok _ =>
    rw [hlen] at h
    cases answer with
    | error t => cases h
    | ok after =>
      change (checkUnchanged T.sourceKey (s.probe T.sourceKey) after >>= fun _ => _) = _ at h
      cases hsame : checkUnchanged T.sourceKey (s.probe T.sourceKey) after with
      | error e => rw [hsame] at h; cases h
      | ok _ =>
        rw [hsame] at h
        exact ⟨checkLength_filled.mp hlen, checkDigest_filled.mp h⟩

lemma verifyStaged_of_verified (h : T.Verified s) : verifyStaged T.sourceKey (s.probe T.sourceKey)
    (.ok (s.probe T.sourceKey)) (T.filled s) (T.written s.bytes (T.filled s)) = .ok () := by
  rw [verifyStaged, checkLength_filled.mpr h.1, checkUnchanged_self, checkDigest_filled.mpr h.2]
  rfl

lemma publishedAlready_iff (key destKey : Str) {h : Str} {d : Option (Object digest)} (hexp : T.expected s = some h) :
    publishedAlready (s.probe key) h (d.map (·.probe destKey)) = true ↔ ∃ o ∈ d, T.Matches s o := by
  cases d with
  | none => simp [publishedAlready]
  | some o => simp [publishedAlready, Matches, hexp, Object.probe, Option.any_eq_true]

lemma write_of_ne {trouble : Option (Trouble × Bool)} {key key' : Str} (hne : key' ≠ key) (o : Object digest) :
    (write trouble key o st).2 key' = st key' := by
  match trouble with
  | none => exact update_of_ne hne ..
  | some (t, true) => exact update_of_ne hne ..
  | some (t, false) => rfl

lemma write_self (trouble : Option (Trouble × Bool)) (key : Str) (o : Object digest) (st : Objects digest) :
    (write trouble key o st).2 key = some o ∨ (write trouble key o st).2 key = st key ∧ ∃ e, (write trouble key o st).1 = .error e := by
  match trouble with
  | none => exact Or.inl (update_self ..)
  | some (t, true) => exact Or.inl (update_self ..)
  | some (t, false) => exact Or.inr ⟨rfl, t.error, rfl⟩

lemma cleanupNow_destKey (a : Attempt) : T.cleanupNow a st T.destKey = st T.destKey := by
  unfold cleanupNow
  split_ifs
  · exact update_of_ne (stageKey_ne a.uuid T.destKey) ..
  · rfl

inductive Moves (T : Transfer digest) (source : Option (Object digest)) (st : Objects digest) :
    Except StorageError TransferOutcome × Objects digest → Prop
  | failed {e : StorageError} {st' : Objects digest} (hkeep : st' T.destKey = st T.destKey) : Moves T source st (.error e, st')
  | found {s d : Object digest} (hs : source = some s) (hagree : T.Agrees s) (hd : st T.destKey = some d)
      (hmatch : T.Matches s d) : Moves T source st (.ok .alreadyPublished, st)
  | published {s o : Object digest} {r : Except StorageError TransferOutcome} {st' : Objects digest} (hs : source = some s)
      (hagree : T.Agrees s) (hverified : T.Verified s) (ho : st' T.destKey = some o) (hbytes : o.bytes = s.bytes) :
      Moves T source st (r, st')

lemma publishStaged_destKey {a : Attempt} {staged : Object digest} (info : ObjectMeta) (w : PutStreamResult)
    (hstaged : st (stageKey a.uuid T.destKey) = some staged) :
    (∃ o, (T.publishStaged a info w st).2 T.destKey = some o ∧ o.bytes = staged.bytes) ∨
      (T.publishStaged a info w st).2 T.destKey = st T.destKey ∧ ∃ e, (T.publishStaged a info w st).1 = .error e := by
  unfold publishStaged
  simp only [hstaged]
  split_ifs
  · rcases write_self a.publish T.destKey staged st with h | h
    · exact Or.inl ⟨staged, h, rfl⟩
    · exact Or.inr h
  · cases a.read with
    | some t => exact Or.inr ⟨rfl, t.error, rfl⟩
    | none =>
      rcases write_self a.publish T.destKey (T.dest.keep staged.bytes _) st with h | h
      · exact Or.inl ⟨_, h, T.dest.keep_bytes ..⟩
      · exact Or.inr h

variable {source : Option (Object digest)}

lemma stageAndPublish_moves (a : Attempt) (hs : source = some s) (hagree : T.Agrees s) :
    Moves T source st (T.stageAndPublish a s (T.filled s) st) := by
  have hkept : (write a.stage (stageKey a.uuid T.destKey) (T.dest.keep s.bytes (T.filled s)) st).2 T.destKey = st T.destKey :=
    write_of_ne (stageKey_ne a.uuid T.destKey) _
  have hstaged := write_self a.stage (stageKey a.uuid T.destKey) (T.dest.keep s.bytes (T.filled s)) st
  unfold stageAndPublish
  generalize write a.stage (stageKey a.uuid T.destKey) (T.dest.keep s.bytes (T.filled s)) st = staging at hkept hstaged ⊢
  match staging with
  | (.error e, mid) => exact .failed ((cleanupNow_destKey a).trans hkept)
  | (.ok (), mid) =>
    have hmid : mid (stageKey a.uuid T.destKey) = some (T.dest.keep s.bytes (T.filled s)) := by
      rcases hstaged with h | ⟨_, e, h⟩
      · exact h
      · cases h
    dsimp only
    split
    case h_1 e hverify => exact .failed ((cleanupNow_destKey a).trans hkept)
    case h_2 hverify =>
      have hverified := verifyStaged_ok hverify
      have hpublish := publishStaged_destKey (T.filled s)
        (T.written s.bytes (T.filled s)) hmid
      generalize T.publishStaged a (T.filled s) (T.written s.bytes (T.filled s)) mid = publishing at hpublish ⊢
      rw [T.dest.keep_bytes] at hpublish
      obtain ⟨r, out⟩ := publishing
      rcases hpublish with ⟨o, ho, hbytes⟩ | ⟨hsame, e, herr⟩
      · have hout : T.cleanupNow a out T.destKey = some o := (cleanupNow_destKey a).trans ho
        cases r with
        | error e => exact .published hs hagree hverified hout hbytes
        | ok _ =>
          cases a.cleanup with
          | some t | none => exact .published hs hagree hverified hout hbytes
      · cases herr
        exact .failed ((cleanupNow_destKey a).trans (hsame.trans hkept))

lemma stream_moves (a : Attempt) (hs : source = some s) (hagree : T.Agrees s) : Moves T source st (T.stream a s (T.filled s) st) := by
  unfold stream
  cases a.getStream with
  | some t => exact .failed rfl
  | none =>
    cases checkOpened T.sourceKey (s.probe T.sourceKey) (s.probe T.sourceKey) with
    | error e => exact .failed rfl
    | ok _ =>
      cases a.arm with
      | some t => exact .failed rfl
      | none => exact stageAndPublish_moves a hs hagree

theorem transferOnce_moves (source : Option (Object digest)) (a : Attempt) (st : Objects digest) :
    Moves T source st (T.transferOnce source a st) := by
  unfold transferOnce
  cases a.probe with
  | some t => exact .failed rfl
  | none =>
    cases source with
    | none => exact .failed rfl
    | some s =>
      dsimp only
      cases hfill : fillMeta (s.probe T.sourceKey) T.info with
      | error e => exact .failed rfl
      | ok info =>
        obtain ⟨hagree, rfl⟩ := agrees_of_fillMeta hfill
        dsimp only
        rw [filled_sha256Hex]
        cases hexp : T.expected s with
        | none => exact stream_moves a rfl hagree
        | some expected =>
          cases a.head with
          | some t => exact .failed rfl
          | none =>
            dsimp only
            split_ifs with hfound
            · obtain ⟨d, hd, hmatch⟩ := (publishedAlready_iff T.sourceKey T.destKey hexp).mp hfound
              exact .found rfl hagree hd hmatch
            · exact stream_moves a rfl hagree

end Transfer

end Bookclerk.Storage
