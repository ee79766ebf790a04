import Bookclerk.Io.Connection
import Bookclerk.Str.Chars
import Bookclerk.System.Threads

namespace Bookclerk.Cluster

open Str Io List Option

def dekLen : Nat := 32

def saltLen : Nat := 16

def nonceLen : Nat := 24

def tagLen : Nat := 16

structure MasterKey where
  bytes : Bytes
  length_eq : bytes.length = dekLen
  deriving DecidableEq

/-- SHA-256, Argon2id and XChaCha20-Poly1305, with what is taken for granted of them: no two keys have one fingerprint,
and what is decrypted is shorter than its ciphertext by the tag. -/
structure Crypto where
  fingerprint : MasterKey → Str
  fingerprint_injective : Function.Injective fingerprint
  deriveWrappingKey : Str → Bytes → Bytes
  encrypt : Bytes → Bytes → Bytes → Bytes
  decrypt : Bytes → Bytes → Bytes → Option Bytes
  decrypt_encrypt : ∀ key nonce plain, decrypt key nonce (encrypt key nonce plain) = some plain
  decrypt_length : ∀ key nonce ciphertext plain, decrypt key nonce ciphertext = some plain → ciphertext.length = plain.length + tagLen

structure Envelope where
  salt : Bytes
  nonce : Bytes
  salt_length : salt.length = saltLen
  nonce_length : nonce.length = nonceLen

def magicRaw : Bytes :=
  [66, 67, 75, 49]

def magicWrapped : Bytes :=
  [66, 67, 75, 50]

def encodeRawMasterKey (dek : MasterKey) : Bytes :=
  magicRaw ++ dek.bytes

variable (c : Crypto)

def encodeWrappedMasterKey (dek : MasterKey) (password : Str) (env : Envelope) : Bytes :=
  magicWrapped ++ (env.salt ++ (env.nonce ++ c.encrypt (c.deriveWrappingKey password env.salt) env.nonce dek.bytes))

def masterKeyOfBytes (bytes : Bytes) : Option MasterKey :=
  if h : bytes.length = dekLen then some ⟨bytes, h⟩ else none

def decodeWrappedMasterKey (body : Bytes) (password : Str) : Option MasterKey :=
  if body.length < saltLen + nonceLen + tagLen then none
  else
    let salt := body.take saltLen
    let nonce := (body.drop saltLen).take nonceLen
    let ct := body.drop (saltLen + nonceLen)
    (c.decrypt (c.deriveWrappingKey password salt) nonce ct).bind masterKeyOfBytes

def parseMasterKeyFile (raw : Bytes) (password : Option Str) : Option (MasterKey × Bool) :=
  if raw.take 4 = magicRaw then (masterKeyOfBytes (raw.drop 4)).map fun dek => (dek, password.isSome)
  else if raw.take 4 = magicWrapped then
    password.bind fun pw => (decodeWrappedMasterKey c (raw.drop 4) pw).map fun dek => (dek, false)
  else none

def encodeMasterKey (dek : MasterKey) (password : Option Str) (env : Envelope) : Bytes :=
  match password with
  | some pw => encodeWrappedMasterKey c dek pw env
  | none => encodeRawMasterKey dek

lemma masterKeyOfBytes_bytes (dek : MasterKey) : masterKeyOfBytes dek.bytes = some dek := by
  rw [masterKeyOfBytes, dif_pos dek.length_eq]

lemma length_of_masterKeyOfBytes {bytes : Bytes} {dek : MasterKey} (h : masterKeyOfBytes bytes = some dek) : bytes.length = dekLen := by
  unfold masterKeyOfBytes at h
  by_cases hlen : bytes.length = dekLen
  · exact hlen
  · rw [dif_neg hlen] at h
    cases h

lemma encrypt_length (key nonce plain : Bytes) : (c.encrypt key nonce plain).length = plain.length + tagLen :=
  c.decrypt_length _ _ _ _ (c.decrypt_encrypt key nonce plain)

lemma decodeWrapped_encodeWrapped (dek : MasterKey) (password : Str) (env : Envelope) :
    decodeWrappedMasterKey c (env.salt ++ (env.nonce ++ c.encrypt (c.deriveWrappingKey password env.salt) env.nonce dek.bytes)) password =
      some dek := by
  have hlen := encrypt_length c (c.deriveWrappingKey password env.salt) env.nonce dek.bytes
  have hsalt := env.salt_length
  have hnonce := env.nonce_length
  rw [decodeWrappedMasterKey, if_neg (by simp only [length_append]; omega)]
  dsimp only
  rw [take_left' hsalt, drop_left' hsalt, take_left' hnonce, ← drop_drop, drop_left' hsalt, drop_left' hnonce,
    c.decrypt_encrypt, bind_some, masterKeyOfBytes_bytes]

lemma parse_encodeWrapped (dek : MasterKey) (password : Str) (env : Envelope) :
    parseMasterKeyFile c (encodeWrappedMasterKey c dek password env) (some password) = some (dek, false) := by
  have hmagic : magicWrapped.length = 4 := rfl
  rw [parseMasterKeyFile, encodeWrappedMasterKey, take_left' hmagic, drop_left' hmagic, bind_some, decodeWrapped_encodeWrapped]
  rfl

lemma parse_encode (dek : MasterKey) (password : Option Str) (env : Envelope) :
    parseMasterKeyFile c (encodeMasterKey c dek password env) password = some (dek, false) := by
  cases password with
  | none =>
    have hmagic : magicRaw.length = 4 := rfl
    rw [encodeMasterKey, parseMasterKeyFile, encodeRawMasterKey, take_left' hmagic, drop_left' hmagic, masterKeyOfBytes_bytes]
    rfl
  | some pw => exact parse_encodeWrapped c dek pw env

lemma length_of_parse {raw : Bytes} {password : Option Str} {r : MasterKey × Bool} (h : parseMasterKeyFile c raw password = some r) :
    raw.take 4 = magicRaw ∧ raw.length = 4 + dekLen ∨ raw.take 4 = magicWrapped ∧ raw.length = 4 + (saltLen + nonceLen + (dekLen + tagLen)) := by
  unfold parseMasterKeyFile at h
  by_cases hraw : raw.take 4 = magicRaw
  · rw [if_pos hraw] at h
    obtain ⟨dek, hdek, -⟩ := map_eq_some_iff.mp h
    have hlen := length_of_masterKeyOfBytes hdek
    rw [length_drop] at hlen
    have hdek : dekLen = 32 := rfl
    exact Or.inl ⟨hraw, by omega⟩
  · rw [if_neg hraw] at h
    by_cases hwrapped : raw.take 4 = magicWrapped
    · rw [if_pos hwrapped] at h
      obtain ⟨pw, -, hdecode⟩ := bind_eq_some_iff.mp h
      obtain ⟨dek, hdek, -⟩ := map_eq_some_iff.mp hdecode
      unfold decodeWrappedMasterKey at hdek
      by_cases hshort : (raw.drop 4).length < saltLen + nonceLen + tagLen
      · rw [if_pos hshort] at hdek
        cases hdek
      · rw [if_neg hshort] at hdek
        obtain ⟨plain, hplain, hkey⟩ := bind_eq_some_iff.mp hdek
        have hct := c.decrypt_length _ _ _ _ hplain
        rw [length_of_masterKeyOfBytes hkey] at hct
        simp only [length_drop] at hct hshort
        have hsalt : saltLen = 16 := rfl
        exact Or.inr ⟨hwrapped, by omega⟩
    · rw [if_neg hwrapped] at h
      cases h

lemma parse_part (dek : MasterKey) (password : Option Str) (env : Envelope) {n : Nat} (hn : n < (encodeMasterKey c dek password env).length)
    (password' : Option Str) : parseMasterKeyFile c ((encodeMasterKey c dek password env).take n) password' = none := by
  cases hparse : parseMasterKeyFile c ((encodeMasterKey c dek password env).take n) password' with
  | none => rfl
  | some r =>
    have hwhole := length_of_parse c (parse_encode c dek password env)
    have hpart := length_of_parse c hparse
    rw [length_take, Nat.min_eq_left (Nat.le_of_lt hn)] at hpart
    have hfour : 4 ≤ n := by omega
    rw [take_take, Nat.min_eq_left hfour] at hpart
    have hmagic : magicRaw ≠ magicWrapped := by decide
    rcases hwhole with ⟨hw, hwlen⟩ | ⟨hw, hwlen⟩ <;> rcases hpart with ⟨hp, hplen⟩ | ⟨hp, hplen⟩
    · omega
    · exact absurd (hw.symm.trans hp) hmagic
    · exact absurd (hp.symm.trans hw) hmagic
    · omega

open Str Io Bookclerk.System

structure ClusterRow where
  clusterId : Str
  secretFingerprint : Str
  deriving DecidableEq

structure SealedRow where
  cipherNonce : Option Bytes
  ciphertext : Bytes

/-- What no call changes: the password of each files directory, the directory and process of each call, and the first
sealed row of the database. -/
structure Setting where
  crypto : Crypto
  password : Str → Option Str
  filesDir : Nat → Str
  process : Nat → Nat
  sealedRow : Option SealedRow

inductive SecretProbe
  | none
  | matches
  | reject
  deriving DecidableEq

def probeSealedSecrets (w : Setting) (key : MasterKey) : SecretProbe :=
  match w.sealedRow with
  | none => .none
  | some row =>
    match row.cipherNonce with
    | none => .reject
    | some nonce =>
      if nonce.length = nonceLen ∧ (w.crypto.decrypt key.bytes nonce row.ciphertext).isSome then .matches else .reject

/-- A file `master.key`, and the call that created it and has it open; none for a file that was there before or was
renamed into place. -/
structure KeyFile where
  content : Bytes
  writer : Option Nat

structure Shared where
  masterKey : Str → Option KeyFile
  row : Option ClusterRow
  cache : Nat → Option MasterKey

inductive Goal
  | first (existing : Option ClusterRow)
  | second (row : ClusterRow)

inductive Phase
  | start
  | loaded (existing : Option ClusterRow)
  | resolving (goal : Goal)
  | reading (goal : Goal)
  | rewrapping (goal : Goal) (key : MasterKey)
  | minting (goal : Goal)
  | writing (goal : Goal) (key : MasterKey) (bytes : Bytes)
  | decided (existing : Option ClusterRow) (key : MasterKey) (minted : Bool)
  | inserting (key : MasterKey) (minted : Bool)
  | reloading (key : MasterKey) (minted : Bool)
  | rejected (key : MasterKey) (minted : Bool)
  | removing (key : MasterKey)
  | uncaching (key : MasterKey)
  | caching (row : ClusterRow) (key : MasterKey)
  | done (row : ClusterRow)
  | failed

def Goal.resolved (goal : Goal) (key : MasterKey) (minted : Bool) : Phase :=
  match goal with
  | .first existing => .decided existing key minted
  | .second row => .caching row key

inductive Move
  | go
  | mint (key : MasterKey) (env : Envelope)
  | write (n : Nat)
  | wrap (env : Envelope)
  | insert (clusterId : Str)
  | removeFails

def Shared.setFile (m : Shared) (dir : Str) (file : Option KeyFile) : Shared :=
  { m with masterKey := Function.update m.masterKey dir file }

def Shared.setCache (m : Shared) (process : Nat) (key : Option MasterKey) : Shared :=
  { m with cache := Function.update m.cache process key }

def Shared.writeFile (m : Shared) (dir : Str) (call : Nat) (bytes : Bytes) : Shared :=
  match m.masterKey dir with
  | some file => if file.writer = some call then m.setFile dir (some { file with content := bytes }) else m
  | none => m

variable (w : Setting)

def readKeyFile (call : Nat) (m : Shared) (goal : Goal) : Phase :=
  match m.masterKey (w.filesDir call) with
  | none => .failed
  | some file =>
    match parseMasterKeyFile w.crypto file.content (w.password (w.filesDir call)) with
    | none => .failed
    | some (key, false) => goal.resolved key false
    | some (key, true) => .rewrapping goal key

def compareRow (row : ClusterRow) (key : MasterKey) (minted : Bool) : Phase :=
  if row.secretFingerprint ≠ w.crypto.fingerprint key then .rejected key minted else .resolving (.second row)

def access (call : Nat) (m : Shared) : Phase → Move → Option (Shared × Phase)
  | .start, .go => some (m, .loaded m.row)
  | .loaded existing, .go =>
    some (m, if existing.isSome ∧ (m.masterKey (w.filesDir call)).isNone then .failed else .resolving (.first existing))
  | .resolving goal, .go => some (m, if (m.masterKey (w.filesDir call)).isSome then .reading goal else .minting goal)
  | .reading goal, .go => some (m, readKeyFile w call m goal)
  | .rewrapping goal key, .wrap env =>
    (w.password (w.filesDir call)).map fun pw =>
      (m.setFile (w.filesDir call) (some ⟨encodeWrappedMasterKey w.crypto key pw env, none⟩), goal.resolved key false)
  | .minting goal, .mint key env =>
    some <|
      if (m.masterKey (w.filesDir call)).isSome then (m, .reading goal)
      else
        (m.setFile (w.filesDir call) (some ⟨[], some call⟩),
          .writing goal key (encodeMasterKey w.crypto key (w.password (w.filesDir call)) env))
  | .writing goal key bytes, .write n =>
    some (m.writeFile (w.filesDir call) call (bytes.take n),
      if n < bytes.length then .writing goal key bytes else goal.resolved key true)
  | .decided (some row) key minted, .go => some (m, compareRow w row key minted)
  | .decided none key minted, .go =>
    some (m, if probeSealedSecrets w key = .reject then .rejected key minted else .inserting key minted)
  | .inserting key minted, .insert clusterId =>
    some ({ m with row := some (m.row.getD ⟨clusterId, w.crypto.fingerprint key⟩) }, .reloading key minted)
  | .reloading key minted, .go => some (m, (m.row.map fun row => compareRow w row key minted).getD .failed)
  | .rejected key minted, .go =>
    some (m, if minted ∧ (m.masterKey (w.filesDir call)).isSome then .removing key else .uncaching key)
  | .removing key, .go => some (m.setFile (w.filesDir call) none, .uncaching key)
  | .removing key, .removeFails => some (m, .uncaching key)
  | .uncaching key, .go =>
    some (if m.cache (w.process call) = some key then m.setCache (w.process call) none else m, .failed)
  | .caching row key, .go => some (m.setCache (w.process call) (some key), .done row)
  | _, _ => none

def alignClusterRoot (call : Nat) (m : Shared) (phase : Phase) : Option Move → Option (Shared × Phase)
  | some move => access w call m phase move
  | none =>
    match phase with
    | .done _ => none
    | _ => some (m, .failed)

abbrev State := Threads Nat Shared Phase

def State.initial (masterKey : Str → Option Bytes) (row : Option ClusterRow) (cache : Nat → Option MasterKey) : State :=
  ⟨⟨fun dir => (masterKey dir).map (⟨·, none⟩), row, cache⟩, fun _ => .start⟩

def step (s : State) (a : Nat × Option Move) : Option State :=
  turn (alignClusterRoot w) s a

end Bookclerk.Cluster
