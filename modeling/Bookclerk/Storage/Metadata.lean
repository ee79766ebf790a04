import Bookclerk.Storage.Changes

namespace Bookclerk.Storage

open Str Option

variable {P : Type}
variable {b : Bytes} {m : ObjectMeta}

def ObjectProbe.overlay (probe : ObjectProbe) (parsed : ObjectMeta) : ObjectProbe where
  key := probe.key
  size := probe.size
  contentType := parsed.contentType.or probe.contentType
  etag := probe.etag
  info :=
    { contentType := parsed.contentType.or probe.info.contentType
      contentLength := parsed.contentLength.or probe.info.contentLength
      asin := parsed.asin.or probe.info.asin
      title := parsed.title.or probe.info.title
      creationTime := parsed.creationTime.or probe.info.creationTime
      lastWriteTime := parsed.lastWriteTime.or probe.info.lastWriteTime
      sha256Hex := parsed.sha256Hex.or probe.info.sha256Hex
      commitToken := parsed.commitToken.or probe.info.commitToken }

namespace Backend

variable (B : Backend P)

def get (f : Faults) (key : Str) : Local P Bytes := do
  let path ← B.resolve (f .resolve) key
  Io.attempt (f .metadata) ioError
  let len ← Io.size (.notFound key) path
  Io.guard (len ≤ maxScalarObjectBytes)
    (.payloadTooLarge s!"scalar object hint of {len} bytes exceeds {maxScalarObjectBytes} (use get_stream)")
  Io.readFile (f .body) (.notFound key) ioError path

def fileProbe (key : Str) (len : Nat) : ObjectProbe where
  key := key
  size := len
  contentType := none
  etag := none
  info := { contentLength := some len }

def withSidecar (probe : ObjectProbe) (got : Except StorageError Bytes) : ObjectProbe :=
  match got with
  | .ok bytes =>
    match B.decode bytes with
    | some parsed => probe.overlay parsed
    | none => probe
  | .error _ => probe

def probe (f g : Faults) (key : Str) : Local P ObjectProbe := do
  let path ← B.resolve (f .resolve) key
  Io.attempt (f .metadata) ioError
  let len ← Io.size (.notFound key) path
  let got ← Io.result (B.get g (bookclerkMetaSidecarKey key))
  pure (B.withSidecar (fileProbe key len) got)

def Describes (m : ObjectMeta) (b : Bytes) : Prop :=
  (∀ h, m.sha256Hex = some h → parseSha256Hex h = .ok (B.digest b)) ∧ ∀ n, m.contentLength = some n → n = b.length

def Described (body side : Option Bytes) : Prop :=
  ∀ b sb m, body = some b → side = some sb → sb.length ≤ maxScalarObjectBytes → B.decode sb = some m → B.Describes m b

def ProbesTruthful (fs : Files P) : Prop :=
  ∀ f g key pr fs', B.probe f g key fs = (.ok pr, fs') → ∀ b, fs.read (B.place key) = some b → B.Describes pr.info b

def ValidKey (key : Str) : Prop :=
  validateKey key = .ok ()

variable {B} {fs fs' : Files P} {key : Str}

lemma resolve_valid {o : Outcome} {p : P} (h : B.resolve o key fs = (.ok p, fs')) : validateKey key = .ok () := by
  obtain ⟨u, _, hvalid, -⟩ := Io.bind_ok.mp h
  exact (Io.lift_ok.mp hvalid).1

lemma get_ok {f : Faults} (h : B.get f key fs = (.ok b, fs')) :
    validateKey key = .ok () ∧ fs.read (B.place key) = some b ∧ b.length ≤ maxScalarObjectBytes := by
  obtain ⟨p, mid, hres, hrest⟩ := Io.bind_ok.mp h
  have hvalid := resolve_valid hres
  obtain ⟨rfl, rfl⟩ := resolve_ok hres
  have hready := attempt_bind_ok hrest
  obtain ⟨n, _, hsize, hguarded⟩ := Io.bind_ok.mp hready
  obtain ⟨b', hb', rfl, rfl⟩ := Io.size_ok hsize
  obtain ⟨_, _, hguard, hread⟩ := Io.bind_ok.mp hguarded
  obtain ⟨hlen, rfl⟩ := Io.guard_ok.mp hguard
  have hb := Io.readFile_ok hread
  obtain rfl := mem_unique hb' hb
  exact ⟨hvalid, hb, of_decide_eq_true hlen⟩

lemma resolve_done (h : validateKey key = .ok ()) : B.resolve (noFaults .resolve) key fs = (.ok (B.place key), fs) := by
  simp [resolve, noFaults, Io.lift, Io.attempt, Io.guard, h, Bind.bind, Pure.pure]

lemma get_done (h : validateKey key = .ok ()) (hb : fs.read (B.place key) = some b)
    (hlen : b.length ≤ maxScalarObjectBytes) : B.get noFaults key fs = (.ok b, fs) := by
  have hsize : Io.size (StorageError.notFound key) (B.place key) fs = (.ok b.length, fs) := by simp [Io.size, hb]
  unfold get
  rw [Io.bind_of_ok (resolve_done h), Io.bind_of_ok (x := Io.attempt (noFaults .metadata) ioError) rfl, Io.bind_of_ok hsize,
    Io.bind_of_ok (by rw [decide_eq_true hlen]; rfl)]
  simp [Io.readFile, hb, noFaults]

lemma describes_overlay (h : B.Describes m b) : B.Describes ((fileProbe key b.length).overlay m).info b := by
  constructor
  · intro digest hdigest
    apply h.1
    simpa [ObjectProbe.overlay, fileProbe] using hdigest
  · intro n hn
    cases hlen : m.contentLength with
    | none =>
      simp only [ObjectProbe.overlay, fileProbe, hlen, none_or, some.injEq] at hn
      exact hn.symm
    | some k =>
      simp only [ObjectProbe.overlay, hlen, some_or, some.injEq] at hn
      exact hn ▸ h.2 k hlen

lemma describes_fileProbe (key : Str) (b : Bytes) : B.Describes (fileProbe key b.length).info b :=
  ⟨nofun, fun _ hn => (some.inj hn).symm⟩

lemma describes_of_overlay (h : B.Describes ((fileProbe key b.length).overlay m).info b) : B.Describes m b := by
  constructor
  · intro digest hdigest
    exact h.1 digest (by simp [ObjectProbe.overlay, hdigest])
  · intro n hn
    exact h.2 n (by simp [ObjectProbe.overlay, hn])

lemma probe_ok {f g : Faults} {pr : ObjectProbe} (h : B.probe f g key fs = (.ok pr, fs')) :
    validateKey key = .ok () ∧ ∃ b, fs.read (B.place key) = some b ∧
      pr = B.withSidecar (fileProbe key b.length) (B.get g (bookclerkMetaSidecarKey key) fs).1 := by
  obtain ⟨p, mid, hres, hrest⟩ := Io.bind_ok.mp h
  have hvalid := resolve_valid hres
  obtain ⟨rfl, rfl⟩ := resolve_ok hres
  have hready := attempt_bind_ok hrest
  obtain ⟨n, _, hsize, hread⟩ := Io.bind_ok.mp hready
  obtain ⟨b, hb, rfl, rfl⟩ := Io.size_ok hsize
  exact ⟨hvalid, b, hb, (Except.ok.inj (Prod.mk.inj hread).1).symm⟩

lemma probe_done {sb : Bytes} (hkey : ValidKey key) (hb : fs.read (B.place key) = some b)
    (hside : fs.read (B.place (bookclerkMetaSidecarKey key)) = some sb) (hlen : sb.length ≤ maxScalarObjectBytes)
    (hm : B.decode sb = some m) : B.probe noFaults noFaults key fs = (.ok ((fileProbe key b.length).overlay m), fs) := by
  have hsize : Io.size (StorageError.notFound key) (B.place key) fs = (.ok b.length, fs) := by simp [Io.size, hb]
  unfold probe
  rw [Io.bind_of_ok (resolve_done hkey), Io.bind_of_ok (x := Io.attempt (noFaults .metadata) ioError) rfl, Io.bind_of_ok hsize]
  rw [Io.bind_of_ok (x := Io.result _) rfl, get_done (validateKey_sidecar hkey) hside hlen]
  simp only [withSidecar, hm, Pure.pure]

lemma probesTruthful_iff : B.ProbesTruthful fs ↔
    ∀ key, ValidKey key → B.Described (fs.read (B.place key)) (fs.read (B.place (bookclerkMetaSidecarKey key))) := by
  constructor
  · intro h key hkey b sb m hb hside hlen hm
    exact describes_of_overlay (h _ _ _ _ _ (probe_done hkey hb hside hlen hm) b hb)
  · intro h f g key pr fs' hprobe b hb
    obtain ⟨hvalid, b', hb', rfl⟩ := probe_ok hprobe
    obtain rfl := mem_unique hb' hb
    unfold withSidecar
    split
    · next sb hget =>
        split
        · next m hm =>
            obtain ⟨-, hread, hlen⟩ := get_ok (Prod.ext hget rfl)
            exact describes_overlay (h key hvalid b' sb m hb hread hlen hm)
        · exact describes_fileProbe key b'
    · exact describes_fileProbe key b'

end Backend

variable {P : Type}
variable {data : Bytes} {f : Faults} {info : ObjectMeta}

namespace Change

variable [DecidableEq P] (c : Change) {fs : Files P} {p q r : P}

lemma apply_empty (fs : Files P) (p q : P) : ({} : Change).apply fs p q = fs :=
  rfl

lemma read_apply_of_not (hp : ¬ fs.SameFile p r) (hq : ¬ fs.SameFile q r) : (c.apply fs p q).read r = fs.read r := by
  unfold apply
  cases c.body <;> cases c.sidecar <;> simp [hp, hq]

lemma read_apply_body (hpq : ¬ fs.SameFile p q) : (c.apply fs p q).read p = c.body.or (fs.read p) := by
  have hqp : ¬ fs.SameFile q p := fun h => hpq h.symm
  unfold apply
  cases c.body <;> cases c.sidecar <;> simp [hqp, Files.SameFile.refl]

lemma read_apply_sidecar (hpq : ¬ fs.SameFile p q) : (c.apply fs p q).read q = c.sidecar.or (fs.read q) := by
  unfold apply
  cases c.body <;> cases c.sidecar <;> simp [hpq, Files.SameFile.refl]

end Change

namespace Backend

variable (B : Backend P)

def sidecarPlace (key : Str) : P :=
  B.place (bookclerkMetaSidecarKey key)

def Truthful (fs : Files P) : Prop :=
  ∀ key, ValidKey key → B.Described (fs.read (B.place key)) (fs.read (B.sidecarPlace key))

/-- Every other key shares both files of `key`, as another spelling of it, or neither of them; a sidecar, seen
as an object, has no sidecar. -/
def Alone (fs : Files P) (key : Str) : Prop :=
  ¬ fs.SameFile (B.place key) (B.sidecarPlace key) ∧ ∀ k, ValidKey k →
    (B.place k = B.place key ∧ B.sidecarPlace k = B.sidecarPlace key) ∨
      (¬ fs.SameFile (B.place key) (B.place k) ∧ ¬ fs.SameFile (B.place key) (B.sidecarPlace k) ∧
        ¬ fs.SameFile (B.sidecarPlace key) (B.sidecarPlace k) ∧
        (fs.SameFile (B.sidecarPlace key) (B.place k) → fs.read (B.sidecarPlace k) = none))

def ChangeDescribed (fs : Files P) (key : Str) (c : Change) : Prop :=
  B.Described (c.body.or (fs.read (B.place key))) (c.sidecar.or (fs.read (B.sidecarPlace key)))

variable {B} {fs fs' : Files P} {key : Str} {c : Change}

lemma described_of_none (body : Option Bytes) : B.Described body none :=
  fun _ _ _ _ h => nomatch h

lemma truthful_iff_of_reads (hkey : ValidKey key) (htruth : B.Truthful fs)
    (hbody : fs'.read (B.place key) = c.body.or (fs.read (B.place key)))
    (hside : fs'.read (B.sidecarPlace key) = c.sidecar.or (fs.read (B.sidecarPlace key)))
    (hother : ∀ k, ValidKey k → ¬ (B.place k = B.place key ∧ B.sidecarPlace k = B.sidecarPlace key) →
      fs'.read (B.sidecarPlace k) = fs.read (B.sidecarPlace k) ∧
        (fs'.read (B.place k) = fs.read (B.place k) ∨ fs.read (B.sidecarPlace k) = none)) :
    B.Truthful fs' ↔ B.ChangeDescribed fs key c := by
  constructor
  · intro h
    have hthis := h key hkey
    rwa [hbody, hside] at hthis
  · intro h k hk
    by_cases halias : B.place k = B.place key ∧ B.sidecarPlace k = B.sidecarPlace key
    · rw [halias.1, halias.2, hbody, hside]
      exact h
    · obtain ⟨hs, hb | hnone⟩ := hother k hk halias
      · rw [hs, hb]
        exact htruth k hk
      · rw [hs, hnone]
        exact described_of_none _

lemma truthful_apply_iff [DecidableEq P] (halone : B.Alone fs key) (hkey : ValidKey key) (htruth : B.Truthful fs) :
    B.Truthful (c.apply fs (B.place key) (B.sidecarPlace key)) ↔ B.ChangeDescribed fs key c := by
  refine truthful_iff_of_reads hkey htruth (c.read_apply_body halone.1) (c.read_apply_sidecar halone.1) ?_
  intro k hk halias
  obtain ⟨hplace, hside, hsides, hbody⟩ := (halone.2 k hk).resolve_left halias
  refine ⟨c.read_apply_of_not hside hsides, ?_⟩
  by_cases hq : fs.SameFile (B.sidecarPlace key) (B.place k)
  · exact .inr (hbody hq)
  · exact .inl (c.read_apply_of_not hplace hq)

lemma Truthful.remove [DecidableEq P] (h : B.Truthful fs) (p : P) : B.Truthful (fs.remove p) := by
  intro key hkey b sb m hb hside hlen hm
  rw [Files.read_remove] at hb hside
  split_ifs at hb hside
  exact h key hkey b sb m hb hside hlen hm

lemma valid_of_resolves {o : Outcome} (h : resolves o key = true) : ValidKey key := by
  unfold resolves at h
  unfold ValidKey
  cases hv : validateKey key with
  | error e => simp [hv, Except.toBool] at h
  | ok u => rfl

section Operations

variable [DecidableEq P]

lemma read_elim_write (sc : Option Bytes) (mid : Files P) (q r : P) :
    (sc.elim mid (mid.write q)).read r = if mid.SameFile q r then sc.or (mid.read r) else mid.read r := by
  cases sc <;> simp

lemma truthful_sidecar_iff {mid : Files P} (hkey : ValidKey key) (htruth : B.Truthful fs) (halone : B.Alone fs key)
    (hbody : mid.read (B.place key) = c.body.or (fs.read (B.place key)))
    (hreads : ∀ r, ¬ fs.SameFile (B.place key) r → mid.read r = fs.read r)
    (hsame : c.sidecar ≠ none → ∀ r, mid.SameFile (B.sidecarPlace key) r → r ≠ B.place key ∧ fs.SameFile (B.sidecarPlace key) r) :
    B.Truthful (c.sidecar.elim mid (mid.write (B.sidecarPlace key))) ↔ B.ChangeDescribed fs key c := by
  have hunchanged (r : P) (hr : ¬ (r ≠ B.place key ∧ fs.SameFile (B.sidecarPlace key) r)) :
      (c.sidecar.elim mid (mid.write (B.sidecarPlace key))).read r = mid.read r := by
    rw [read_elim_write]
    split_ifs with hq
    · cases hsc : c.sidecar with
      | none => rfl
      | some b => exact absurd (hsame (hsc ▸ some_ne_none b) r hq) hr
    · rfl
  refine truthful_iff_of_reads hkey htruth ?_ ?_ ?_
  · rw [hunchanged _ fun h => h.1 rfl, hbody]
  · rw [read_elim_write, if_pos (.refl _), hreads _ halone.1]
  · intro k hk halias
    obtain ⟨hplace, hside, hsides, hnone⟩ := (halone.2 k hk).resolve_left halias
    refine ⟨?_, ?_⟩
    · rw [hunchanged _ fun h => hsides h.2, hreads _ hside]
    · by_cases hq : fs.SameFile (B.sidecarPlace key) (B.place k)
      · exact .inr (hnone hq)
      · left
        rw [hunchanged _ fun h => hq h.2, hreads _ hplace]

omit [DecidableEq P] in
lemma putChange_valid (h : B.putChange f key data info ≠ {}) : ValidKey key := by
  unfold putChange at h
  split at h
  · next hready =>
      simp only [Bool.and_eq_true] at hready
      exact valid_of_resolves hready.1.2
  · exact absurd rfl h

omit [DecidableEq P] in
lemma streamChange_valid {body : Bytes} (h : B.streamChange f key body info ≠ {}) : ValidKey key := by
  unfold streamChange at h
  split at h
  · next hready =>
      simp only [Bool.and_eq_true] at hready
      exact valid_of_resolves hready.1.1.1.2
  · exact absurd rfl h

lemma copyChange_valid {src dst : Str} (h : B.copyChange f src dst fs ≠ {}) : src ≠ dst ∧ ValidKey src ∧ ValidKey dst := by
  unfold copyChange at h
  split at h
  · next hready =>
      simp only [Bool.and_eq_true, decide_eq_true_eq] at hready
      exact ⟨hready.1.1.1, valid_of_resolves hready.1.1.2, valid_of_resolves hready.1.2⟩
  · exact absurd rfl h

lemma truthful_put_iff (htruth : B.Truthful fs)
    (halone : B.putChange f key data info ≠ {} → B.Alone fs key) :
    B.Truthful (B.put f key data info fs).2 ↔
      (B.putChange f key data info ≠ {} → B.ChangeDescribed fs key (B.putChange f key data info)) := by
  rw [put_files]
  rcases eq_or_ne (B.putChange f key data info) {} with hnone | hsome
  · simp [hnone, Change.apply_empty, htruth]
  · rw [forall_prop_of_true hsome]
    exact truthful_apply_iff (halone hsome) (putChange_valid hsome) htruth

lemma truthful_copy_iff {src dst : Str} (htruth : B.Truthful fs)
    (halone : B.copyChange f src dst fs ≠ {} → B.Alone fs dst) :
    B.Truthful (B.copy f src dst fs).2 ↔ (B.copyChange f src dst fs ≠ {} → B.ChangeDescribed fs dst (B.copyChange f src dst fs)) := by
  rw [copy_files]
  rcases eq_or_ne (B.copyChange f src dst fs) {} with hnone | hsome
  · simp [hnone, Change.apply_empty, htruth]
  · rw [forall_prop_of_true hsome]
    exact truthful_apply_iff (halone hsome) (copyChange_valid hsome).2.2 htruth

lemma keeps_truthful_delete (f : Faults) (key : Str) : Keeps B.Truthful (B.delete f key) :=
  B.keeps_delete f fun p _ _ h => h.remove p

end Operations

end Backend

end Bookclerk.Storage
