import Bookclerk.Storage.LocalSpec

namespace Bookclerk.Storage

open Str Option

variable {P α : Type}
variable {b : Bytes} {f : Faults} {source src : P} {key : Str}

def Outcome.written (o : Outcome) (b : Bytes) : Option Bytes :=
  match o with
  | .done => some b
  | .failed => none
  | .cut n => some (b.take n)

structure Change where
  body : Option Bytes := none
  sidecar : Option Bytes := none
deriving DecidableEq

def resolves (o : Outcome) (key : Str) : Bool :=
  (validateKey key).isOk && o = .done

namespace Backend

variable (B : Backend P) {fs : Files P}

lemma resolve_files (o : Outcome) (key : Str) (fs : Files P) (k : P → Local P α) :
    ((B.resolve o key >>= k) fs).2 = if resolves o key then (k (B.place key) fs).2 else fs := by
  unfold resolve resolves Io.attempt Io.guard
  cases hvalid : validateKey key with
  | error e => simp [Io.lift, Bind.bind, Except.toBool]
  | ok u => by_cases ho : o = .done <;> simp [Io.lift, Io.raise, Bind.bind, Pure.pure, Except.toBool, ho]

lemma attempt_files (o : Outcome) (e : StorageError) (fs : Files P) (k : Unit → Local P α) :
    ((Io.attempt o e >>= k) fs).2 = if o = .done then (k () fs).2 else fs := by
  unfold Io.attempt Io.guard
  by_cases ho : o = .done <;> simp [Io.raise, Bind.bind, Pure.pure, ho]

lemma lift_files (x : Except StorageError Unit) (fs : Files P) (k : Unit → Local P α) :
    ((Io.lift x >>= k) fs).2 = if x.isOk then (k () fs).2 else fs := by
  cases x <;> simp [Io.lift, Bind.bind, Except.toBool]

lemma bind_pure_files {β : Type} (x : Local P β) (a : α) (fs : Files P) : ((x >>= fun _ => pure a) fs).2 = (x fs).2 := by
  rcases hx : x fs with ⟨e | b, mid⟩
  · rw [Io.bind_of_error hx]
  · rw [Io.bind_of_ok hx]
    rfl

variable [DecidableEq P]

lemma writeFile_files (o : Outcome) (e : StorageError) (p : P) (b : Bytes) (fs : Files P) :
    (Io.writeFile o e p b fs).2 = (o.written b).elim fs (fs.write p) := by
  cases o <;> rfl

lemma writeFile_bind_files (o : Outcome) (e : StorageError) (p : P) (b : Bytes) (fs : Files P) (k : Unit → Local P α) :
    ((Io.writeFile o e p b >>= k) fs).2 = if o = .done then (k () (fs.write p b)).2 else (o.written b).elim fs (fs.write p) := by
  cases o <;> simp [Io.writeFile, Bind.bind, Outcome.written]

def sidecarChange (f : Faults) (key : Str) (info : ObjectMeta) : Option Bytes :=
  if writesSidecar key info && resolves (f .resolveMeta) (bookclerkMetaSidecarKey key) && f .createMetaDir = .done then
    (f .sidecar).written (B.encode info)
  else none

def putChange (f : Faults) (key : Str) (data : Bytes) (info : ObjectMeta) : Change :=
  if (ensureScalarLen data.length maxScalarObjectBytes).isOk && (B.checkPutDigest data info).isOk &&
      resolves (f .resolve) key && f .createDir = .done then
    { body := (f .body).written data
      sidecar := if f .body = .done then B.sidecarChange f key info else none }
  else {}

end Backend

def Change.apply [DecidableEq P] (c : Change) (fs : Files P) (p q : P) : Files P :=
  let mid := c.body.elim fs (fs.write p)
  c.sidecar.elim mid (mid.write q)

namespace Backend

variable (B : Backend P) {fs : Files P} [DecidableEq P]

lemma writeLocalMetaSidecar_files (f : Faults) (key : Str) (info : ObjectMeta) (fs : Files P) :
    (B.writeLocalMetaSidecar f key info fs).2 =
      (B.sidecarChange f key info).elim fs (fs.write (B.place (bookclerkMetaSidecarKey key))) := by
  unfold writeLocalMetaSidecar sidecarChange
  by_cases hside : writesSidecar key info
  · rw [if_pos hside, resolve_files]
    by_cases hres : resolves (f .resolveMeta) (bookclerkMetaSidecarKey key)
    · by_cases hdir : f .createMetaDir = .done <;> simp [attempt_files, writeFile_files, hside, hres, hdir]
    · simp [hres]
  · simp [hside, Pure.pure]

lemma put_files (f : Faults) (key : Str) (data : Bytes) (info : ObjectMeta) (fs : Files P) :
    (B.put f key data info fs).2 = (B.putChange f key data info).apply fs (B.place key) (B.place (bookclerkMetaSidecarKey key)) := by
  unfold put putChange Change.apply
  rw [lift_files, lift_files, resolve_files, attempt_files, writeFile_bind_files, writeLocalMetaSidecar_files]
  by_cases hlen : (ensureScalarLen data.length maxScalarObjectBytes).isOk <;>
    by_cases hsum : (B.checkPutDigest data info).isOk <;> by_cases hkey : resolves (f .resolve) key <;>
    by_cases hdir : f .createDir = .done <;> by_cases hbody : f .body = .done <;>
    simp [hlen, hsum, hkey, hdir, hbody, Outcome.written]

def linksFile (f : Faults) (key : Str) (source : P) (fs : Files P) : Bool :=
  f .link = .done && (fs.link source (B.place key)).isSome

def copiedContent (fs : Files P) (src dst : P) : Bytes :=
  ((fs.write dst []).read src).getD []

def putFileChange (f : Faults) (key : Str) (source : P) (info : ObjectMeta) (fs : Files P) : Change :=
  if resolves (f .resolve) key && f .createDir = .done then
    if B.linksFile f key source fs then { body := fs.read source, sidecar := B.sidecarChange f key info }
    else if (fs.read source).isSome then
      { body := (f .body).written (copiedContent fs source (B.place key))
        sidecar := if f .body = .done then B.sidecarChange f key info else none }
    else {}
  else {}

def copiedSidecar (f : Faults) (src dst : Str) (mid : Files P) : Option Bytes :=
  if resolves (f .exists) (bookclerkMetaSidecarKey src) && (mid.read (B.place (bookclerkMetaSidecarKey src))).isSome &&
      resolves (f .resolveMeta) (bookclerkMetaSidecarKey src) && resolves (f .resolveToMeta) (bookclerkMetaSidecarKey dst) &&
      f .createMetaDir = .done then
    (f .sidecar).written (copiedContent mid (B.place (bookclerkMetaSidecarKey src)) (B.place (bookclerkMetaSidecarKey dst)))
  else none

def copyChange (f : Faults) (src dst : Str) (fs : Files P) : Change :=
  if src ≠ dst && resolves (f .resolve) src && resolves (f .resolveTo) dst && f .metadata = .done then
    match fs.read (B.place src) with
    | some b =>
      if b.length ≤ maxSupportedObjectBytes && f .createDir = .done then
        let content := copiedContent fs (B.place src) (B.place dst)
        { body := (f .body).written content
          sidecar := if f .body = .done then B.copiedSidecar f src dst (fs.write (B.place dst) content) else none }
      else {}
    | none => {}
  else {}

section

variable (hb : fs.read src = some b) (o : Outcome) (missing e : StorageError)
include hb o missing e

lemma copyFile_eq (dst : P) :
    Io.copyFile o missing e src dst fs = Io.writeFile o e dst (copiedContent fs src dst) fs := by
  simp [Io.copyFile, hb, copiedContent]

lemma copyFile_bind_files (dst : P)
    (k : Unit → Local P α) :
    ((Io.copyFile o missing e src dst >>= k) fs).2 =
      if o = .done then (k () (fs.write dst (copiedContent fs src dst))).2
      else (o.written (copiedContent fs src dst)).elim fs (fs.write dst) := by
  rw [← writeFile_bind_files o e dst (copiedContent fs src dst) fs k]
  simp [Bind.bind, copyFile_eq hb]

end

lemma copyFoundSidecar_files {src dst : Str} (hb : fs.read (B.place (bookclerkMetaSidecarKey src)) = some b)
    (f : Faults) :
    (B.copyFoundSidecar f src dst fs).2 =
      (if resolves (f .resolveMeta) (bookclerkMetaSidecarKey src) && resolves (f .resolveToMeta) (bookclerkMetaSidecarKey dst) &&
          f .createMetaDir = .done then
        (f .sidecar).written (copiedContent fs (B.place (bookclerkMetaSidecarKey src)) (B.place (bookclerkMetaSidecarKey dst)))
      else none).elim fs (fs.write (B.place (bookclerkMetaSidecarKey dst))) := by
  have hcopy (o : Outcome) (missing e : StorageError) (dst : P) :
      (Io.ignore (Io.copyFile o missing e (B.place (bookclerkMetaSidecarKey src)) dst) fs).2 =
        (o.written (copiedContent fs (B.place (bookclerkMetaSidecarKey src)) dst)).elim fs (fs.write dst) := by
    rw [← writeFile_files o e, ← copyFile_eq hb o missing e dst]
    rfl
  unfold copyFoundSidecar
  rw [resolve_files, resolve_files, attempt_files, hcopy]
  by_cases hsrc : resolves (f .resolveMeta) (bookclerkMetaSidecarKey src) <;>
    by_cases hdst : resolves (f .resolveToMeta) (bookclerkMetaSidecarKey dst) <;>
    by_cases hdir : f .createMetaDir = .done <;> simp [hsrc, hdst, hdir]

lemma copySidecar_files (f : Faults) (src dst : Str) (fs : Files P) :
    (B.copySidecar f src dst fs).2 = (B.copiedSidecar f src dst fs).elim fs (fs.write (B.place (bookclerkMetaSidecarKey dst))) := by
  unfold copySidecar copiedSidecar
  rw [resolve_files, Io.bind_of_ok (x := Io.tryExists _) rfl]
  by_cases hexists : resolves (f .exists) (bookclerkMetaSidecarKey src)
  · cases hb : fs.read (B.place (bookclerkMetaSidecarKey src)) with
    | none => simp [Pure.pure]
    | some b => simp [hexists, B.copyFoundSidecar_files hb]
  · simp [hexists]

lemma copy_files (f : Faults) (src dst : Str) (fs : Files P) :
    (B.copy f src dst fs).2 = (B.copyChange f src dst fs).apply fs (B.place dst) (B.place (bookclerkMetaSidecarKey dst)) := by
  unfold copy copyChange Change.apply
  rcases eq_or_ne src dst with heq | hne
  · simp [heq, Pure.pure]
  · rw [if_neg hne, resolve_files, resolve_files, attempt_files]
    by_cases hsrc : resolves (f .resolve) src <;> by_cases hdst : resolves (f .resolveTo) dst <;>
      by_cases hmeta : f .metadata = .done <;> simp only [hsrc, hdst, hmeta] <;> simp
    cases hb : fs.read (B.place src) with
    | none =>
      have hsize : Io.size (StorageError.notFound src) (B.place src) fs = (.error (.notFound src), fs) := by simp [Io.size, hb]
      rw [Io.bind_of_error hsize]
      simp
    | some b =>
      have hsize : Io.size (StorageError.notFound src) (B.place src) fs = (.ok b.length, fs) := by simp [Io.size, hb]
      rw [Io.bind_of_ok hsize]
      by_cases hlen : b.length ≤ maxSupportedObjectBytes
      · rw [Io.bind_of_ok (by rw [decide_eq_true hlen]; rfl), attempt_files, copyFile_bind_files hb,
          copySidecar_files]
        by_cases hdir : f .createDir = .done <;> by_cases hbody : f .body = .done <;>
          simp [hne, hlen, hdir, hbody, Outcome.written]
      · rw [Io.bind_of_error (by rw [decide_eq_false hlen]; rfl)]
        simp [hlen]

lemma putFile_files_of_link (hlink : B.linksFile f key source fs = true)
    (hready : (resolves (f .resolve) key && f .createDir = .done) = true) (info : ObjectMeta) :
    (B.putFile f key source info fs).2 =
      (B.sidecarChange f key info).elim (fs.point (B.place key) source)
        ((fs.point (B.place key) source).write (B.place (bookclerkMetaSidecarKey key))) := by
  obtain ⟨hdone, hsome⟩ : f .link = .done ∧ (fs.link source (B.place key)).isSome = true := by simpa [linksFile] using hlink
  obtain ⟨hkey, hdir⟩ : resolves (f .resolve) key = true ∧ f .createDir = .done := by simpa using hready
  obtain ⟨mid, hmid⟩ := isSome_iff_exists.mp hsome
  have hpoint : mid = fs.point (B.place key) source := by
    unfold Files.link at hmid
    split_ifs at hmid
    exact (some.inj hmid).symm
  have hbody : (Io.hardLink (f .link) ioError source (B.place key)).orElse
      (Io.copyFile (f .body) (.io .notFound) ioError source (B.place key)) fs = (.ok (), fs.point (B.place key) source) := by
    simp [Io.orElse, Io.hardLink, hdone, hmid, hpoint]
  unfold putFile
  rw [resolve_files, if_pos hkey, attempt_files, if_pos hdir, Io.bind_of_ok hbody, writeLocalMetaSidecar_files]

lemma linksFile_source (h : B.linksFile f key source fs = true) : ∃ b, fs.read source = some b := by
  simp only [linksFile, Files.link] at h
  cases hb : fs.read source with
  | some b => exact ⟨b, rfl⟩
  | none => simp [Files.read_eq_none.mp hb] at h

lemma putFile_files_of_not_ready (hready : (resolves (f .resolve) key && f .createDir = .done) = false)
    (source : P) (info : ObjectMeta) : (B.putFile f key source info fs).2 = fs := by
  unfold putFile
  rw [resolve_files, attempt_files]
  split_ifs with hkey hdir
  · simp [hkey, hdir] at hready
  · rfl
  · rfl

lemma putFile_files_of_copy (hlink : B.linksFile f key source fs = false)
    (hready : (resolves (f .resolve) key && f .createDir = .done) = true) (info : ObjectMeta) :
    (B.putFile f key source info fs).2 =
      (B.putFileChange f key source info fs).apply fs (B.place key) (B.place (bookclerkMetaSidecarKey key)) := by
  obtain ⟨hkey, hdir⟩ : resolves (f .resolve) key = true ∧ f .createDir = .done := by simpa using hready
  have hfail : Io.hardLink (f .link) ioError source (B.place key) fs = (.error ioError, fs) := by
    unfold linksFile at hlink
    unfold Io.hardLink
    split
    · next hdone hmid => simp [hdone, hmid] at hlink
    · rfl
  have hbody (missing e : StorageError) : (Io.hardLink (f .link) ioError source (B.place key)).orElse
      (Io.copyFile (f .body) missing e source (B.place key)) fs = Io.copyFile (f .body) missing e source (B.place key) fs := by
    simp [Io.orElse, hfail]
  unfold putFile putFileChange Change.apply
  rw [resolve_files, if_pos hkey, attempt_files, if_pos hdir, if_pos hready, hlink]
  cases hb : fs.read source with
  | none =>
    have hmissing : Io.copyFile (f .body) (StorageError.io .notFound) ioError source (B.place key) fs = (.error (.io .notFound), fs) := by
      simp [Io.copyFile, hb]
    rw [Io.bind_of_error (by rw [hbody, hmissing])]
    simp
  | some b =>
    by_cases hdone : f .body = .done
    · rw [Io.bind_of_ok (by rw [hbody, copyFile_eq hb, hdone]; rfl), writeLocalMetaSidecar_files]
      simp [hdone, Outcome.written]
    · have herror : ∃ e, Io.writeFile (f .body) ioError (B.place key) (copiedContent fs source (B.place key)) fs =
          (.error e, ((f .body).written (copiedContent fs source (B.place key))).elim fs (fs.write (B.place key))) := by
        cases hout : f .body with
        | done => exact absurd hout hdone
        | failed | cut n => exact ⟨ioError, rfl⟩
      obtain ⟨e, he⟩ := herror
      rw [Io.bind_of_error (by rw [hbody, copyFile_eq hb, he])]
      simp [hdone]

end Backend

namespace Backend

variable {P : Type} (B : Backend P) {fs fs' : Files P} [DecidableEq P]
variable {body : Bytes} {f : Faults} {info : ObjectMeta} {tmp : P} {key : Str}

def streamChange (f : Faults) (key : Str) (body : Bytes) (info : ObjectMeta) : Change :=
  if (checkStreamMeta info).isOk && resolves (f .resolve) key && f .createDir = .done && f .body = .done && f .rename = .done then
    match B.checkStream body info with
    | .ok digest => { body := some body, sidecar := B.sidecarChange f key { info with sha256Hex := some digest } }
    | .error _ => {}
  else {}

lemma receive_done {path : P} {digest : Str}
    (htmp : fs.inode tmp = none) (hne : tmp ≠ path) (hbody : f .body = .done) (hrename : f .rename = .done)
    (hcheck : B.checkStream body info = .ok digest) :
    B.receive f tmp path body info fs = (.ok digest, ((fs.write tmp body).point path tmp).remove tmp) := by
  have hexists : (fs.write tmp body).inode tmp ≠ none := by
    rw [ne_eq, ← Files.read_eq_none, Files.read_write, if_pos (.refl tmp)]
    exact some_ne_none body
  have hapart : ¬ (fs.write tmp body).SameFile tmp path := by
    rw [Files.sameFile_write]
    rintro (heq | ⟨-, hsome⟩)
    · exact hne heq
    · exact hsome htmp
  have hmoved : (fs.write tmp body).rename tmp path = some (((fs.write tmp body).point path tmp).remove tmp) := by
    rw [Files.rename, if_neg hexists, if_neg hapart]
  simp [receive, Io.onError, Io.writeFile, Io.renameFile, Io.lift, Bind.bind, Pure.pure, hbody, hrename, hcheck, hmoved]

def OnlyTemp (fs : Files P) (tmp : P) (fs' : Files P) : Prop :=
  (∀ r, fs'.SameFile tmp r → tmp = r) ∧ ∀ r, r ≠ tmp → fs'.read r = fs.read r

lemma OnlyTemp.write (h : OnlyTemp fs tmp fs') (b : Bytes) : OnlyTemp fs tmp (fs'.write tmp b) := by
  refine ⟨fun r hsame => h.1 r ((Files.sameFile_write ..).mp hsame), fun r hr => ?_⟩
  rw [Files.read_write, if_neg fun hsame => hr (h.1 r hsame).symm]
  exact h.2 r hr

lemma OnlyTemp.remove (h : OnlyTemp fs tmp fs') : OnlyTemp fs tmp (fs'.remove tmp) := by
  refine ⟨fun r hsame => h.1 r (Files.sameFile_remove hsame), fun r hr => ?_⟩
  rw [Files.read_remove, if_neg hr]
  exact h.2 r hr

omit [DecidableEq P] in
lemma onlyTemp_refl (htmp : fs.inode tmp = none) : OnlyTemp fs tmp fs := by
  refine ⟨?_, fun _ _ => rfl⟩
  rintro r (heq | ⟨-, hsome⟩)
  · exact heq
  · exact absurd htmp hsome

lemma receive_failed (path : P) (htmp : fs.inode tmp = none)
    (hfail : ¬ (f .body = .done ∧ f .rename = .done ∧ (B.checkStream body info).isOk = true)) :
    ∃ e fs', B.receive f tmp path body info fs = (.error e, fs') ∧ OnlyTemp fs tmp fs' := by
  have hstart := onlyTemp_refl htmp
  have hinner : ∃ e mid, (do
      Io.writeFile (f .body) ioError tmp body
      let digest ← Io.lift (B.checkStream body info)
      Io.renameFile (f .rename) ioError tmp path
      pure digest : Local P Str) fs = (.error e, mid) ∧ OnlyTemp fs tmp mid := by
    cases hbody : f .body with
    | failed => exact ⟨ioError, fs, rfl, hstart⟩
    | cut n => exact ⟨ioError, _, rfl, hstart.write (body.take n)⟩
    | done =>
      rw [Io.bind_of_ok (x := Io.writeFile .done ioError tmp body) rfl]
      cases hcheck : B.checkStream body info with
      | error e => exact ⟨e, fs.write tmp body, Io.bind_of_error rfl _, hstart.write body⟩
      | ok digest =>
        have hstuck : Io.renameFile (f .rename) ioError tmp path (fs.write tmp body) = (.error ioError, fs.write tmp body) := by
          unfold Io.renameFile
          split
          · next hrename _ => exact absurd ⟨hbody, hrename, by simp [hcheck, Except.toBool]⟩ hfail
          · rfl
        exact ⟨ioError, fs.write tmp body, Io.bind_of_error hstuck _, hstart.write body⟩
  obtain ⟨e, mid, hx, hmid⟩ := hinner
  have hkeep : Keeps (OnlyTemp fs tmp) (Io.removeFile (f .removeTemp) ioError tmp) := .removeFile (fun _ h => h.remove) _ _
  refine ⟨e, (Io.removeFile (f .removeTemp) ioError tmp mid).2, ?_, hkeep mid hmid⟩
  simp only [receive, Io.onError, hx]

omit [DecidableEq P] in
lemma streamChange_of_not_ready
    (h : ¬ (((checkStreamMeta info).isOk = true ∧ resolves (f .resolve) key = true ∧ f .createDir = .done) ∧
      f .body = .done ∧ f .rename = .done ∧ (B.checkStream body info).isOk = true)) : B.streamChange f key body info = {} := by
  unfold streamChange
  split
  · next hready =>
      split
      · next digest hcheck =>
          simp only [Bool.and_eq_true, decide_eq_true_eq] at hready
          obtain ⟨⟨⟨⟨hmeta, hkey⟩, hdir⟩, hbody⟩, hrename⟩ := hready
          exact absurd ⟨⟨hmeta, hkey, hdir⟩, hbody, hrename, by rw [hcheck]; rfl⟩ h
      · rfl
  · rfl

lemma putStream_files {nonce : Nat} (body : Bytes) (info : ObjectMeta)
    (htmp : fs.inode (B.temp (B.place key) nonce) = none) (hne : B.temp (B.place key) nonce ≠ B.place key) :
    let tmp := B.temp (B.place key) nonce
    let c := B.streamChange f key body info
    let moved := ((fs.write tmp body).point (B.place key) tmp).remove tmp
    c = {} ∧ OnlyTemp fs tmp (B.putStream f nonce key body info fs).2 ∨
      c.body = some body ∧ (B.putStream f nonce key body info fs).2 =
        c.sidecar.elim moved (moved.write (B.place (bookclerkMetaSidecarKey key))) := by
  intro tmp c moved
  have hstart := onlyTemp_refl htmp
  unfold putStream
  rw [lift_files, resolve_files, attempt_files]
  by_cases hready : (checkStreamMeta info).isOk = true ∧ resolves (f .resolve) key = true ∧ f .createDir = .done
  · obtain ⟨hmeta, hkey, hdir⟩ := hready
    rw [if_pos hmeta, if_pos hkey, if_pos hdir]
    by_cases hdone : f .body = .done ∧ f .rename = .done ∧ (B.checkStream body info).isOk = true
    · obtain ⟨hbody, hrename, hok⟩ := hdone
      cases hcheck : B.checkStream body info with
      | error e => simp [hcheck, Except.toBool] at hok
      | ok digest =>
        have hc : c = { body := some body, sidecar := B.sidecarChange f key { info with sha256Hex := some digest } } := by
          simp [c, streamChange, hmeta, hkey, hdir, hbody, hrename, hcheck]
        right
        rw [hc, Io.bind_of_ok (B.receive_done htmp hne hbody hrename hcheck)]
        refine ⟨rfl, ?_⟩
        rw [← writeLocalMetaSidecar_files, bind_pure_files]
    · left
      obtain ⟨e, fs', hfailed, htemp⟩ := B.receive_failed (B.place key) htmp hdone
      rw [Io.bind_of_error hfailed]
      exact ⟨B.streamChange_of_not_ready fun h => hdone h.2, htemp⟩
  · left
    refine ⟨B.streamChange_of_not_ready fun h => hready h.1, ?_⟩
    split_ifs with hmeta hkey hdir
    · exact absurd ⟨hmeta, hkey, hdir⟩ hready
    · exact hstart
    · exact hstart
    · exact hstart

end Backend

end Bookclerk.Storage
