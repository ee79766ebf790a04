import Bookclerk.Io.Connection
import Bookclerk.Str.Edit

/-! The body of a granted PUT: `pump_http_body` decodes it into a channel, `ChannelReader` hands it to the
destination. The channel closes when the pump returns, whether it has finished or failed. -/

namespace Bookclerk.Granted

open Str Io List Option

abbrev Headers := List (Str × Str)

def header (headers : Headers) (name : Str) : Option Str :=
  (headers.find? fun h => eqIgnoreAsciiCase h.1 name).map Prod.snd

def isChunked (headers : Headers) : Bool :=
  ((header headers "transfer-encoding".toList).map fun v => contains "chunked".toList (toAsciiLowercase v)).getD false

def usizeBound : Nat :=
  2 ^ 64

def splitCrlf : Bytes → Option (Bytes × Bytes)
  | [] => none
  | b :: rest =>
    if b = 13 ∧ rest.head? = some 10 then some ([], rest.tail) else (splitCrlf rest).map fun p => (b :: p.1, p.2)

def usizeFromHex (s : Str) : Option Nat :=
  let body := (s.dropPrefix? ['+']).getD s
  match readDigits 16 body with
  | (d :: ds, []) => if digitsValue 16 (d :: ds) < usizeBound then some (digitsValue 16 (d :: ds)) else none
  | _ => none

def chunkSize (line : Bytes) : Nat :=
  (usizeFromHex (trim ((fromUtf8 line).getD ['0']))).getD 0

structure Pumped where
  sent : List Bytes
  ok : Bool

def Pumped.after (chunk : Bytes) (p : Pumped) : Pumped :=
  { p with sent := chunk :: p.sent }

def pumpChunks : Nat → Bytes → Connection → Pumped
  | 0, _, _ => ⟨[], false⟩
  | fuel + 1, buf, c =>
    match fillFrom (fun b => (splitCrlf b).isSome) (fun _ => 64) buf c with
    | none => ⟨[], false⟩
    | some (buf, c) =>
      match splitCrlf buf with
      | none => ⟨[], false⟩
      | some (line, buf) =>
        let size := chunkSize line
        if size = 0 then ⟨[], true⟩
        else
          match fillFrom (fun b => size ≤ b.length) (fun b => min (size - b.length) 65536) buf c with
          | none => ⟨[], false⟩
          | some (buf, c) =>
            match fillFrom (fun b => 2 ≤ b.length) (fun _ => 2) (buf.drop size) c with
            | none => ⟨[buf.take size], false⟩
            | some (rest, c) => .after (buf.take size) (pumpChunks fuel (rest.drop 2) c)

def pumpLength : Nat → Nat → Connection → Pumped
  | 0, _, _ => ⟨[], false⟩
  | fuel + 1, remaining, c =>
    if remaining = 0 then ⟨[], true⟩
    else
      match c.read (min remaining 65536) with
      | none | some ([], _) => ⟨[], false⟩
      | some (b :: bytes, c') => .after (b :: bytes) (pumpLength fuel (remaining - (b :: bytes).length) c')

def pumpToEnd : Nat → Connection → Pumped
  | 0, _ => ⟨[], false⟩
  | fuel + 1, c =>
    match c.read 65536 with
    | none => ⟨[], false⟩
    | some ([], _) => ⟨[], true⟩
    | some (b :: bytes, c') => .after (b :: bytes) (pumpToEnd fuel c')

def sendBuffered (buffered : Bytes) (p : Pumped) : Pumped :=
  if buffered = [] then p else .after buffered p

def pumpHttpBody (headers : Headers) (buffered : Bytes) (c : Connection) : Pumped :=
  if isChunked headers then pumpChunks (buffered.length + c.data.length + 1) buffered c
  else
    match (header headers "content-length".toList).bind (parseUnsigned usizeBound) with
    | some len =>
      if len < buffered.length then ⟨[], false⟩
      else sendBuffered buffered (pumpLength (c.data.length + 1) (len - buffered.length) c)
    | none => sendBuffered buffered (pumpToEnd (c.data.length + 1) c)

structure ChannelReader where
  rx : List Bytes
  buf : Bytes

def ChannelReader.refill (r : ChannelReader) : ChannelReader :=
  if r.buf = [] then
    match r.rx with
    | chunk :: rx => ⟨rx, chunk⟩
    | [] => r
  else r

def ChannelReader.pollRead (r : ChannelReader) (room : Nat) : Bytes × ChannelReader :=
  (r.refill.buf.take room, { r.refill with buf := r.refill.buf.drop room })

/-- Reads with room for at least a byte, up to the first that gets none: the end of file. -/
def readToEnd : List Nat → ChannelReader → Option Bytes
  | [], _ => none
  | room :: rooms, r =>
    match r.pollRead (room + 1) with
    | ([], _) => some []
    | (b :: bytes, r') => (readToEnd rooms r').map ((b :: bytes) ++ ·)

/-- The sender is dropped at the pump's return, so the reader sees the chunks and then the end. -/
def putReader (headers : Headers) (buffered : Bytes) (c : Connection) : ChannelReader :=
  ⟨(pumpHttpBody headers buffered c).sent, []⟩

section Reader

lemma readToEnd_eq {rooms : List Nat} {r : ChannelReader} {d : Bytes} (hsent : ∀ chunk ∈ r.rx, chunk ≠ [])
    (h : readToEnd rooms r = some d) : d = r.buf ++ r.rx.flatten := by
  induction rooms generalizing r d with
  | nil => cases h
  | cons room rooms ih =>
    have hall : r.refill.buf ++ r.refill.rx.flatten = r.buf ++ r.rx.flatten ∧
        (∀ chunk ∈ r.refill.rx, chunk ≠ []) ∧ (r.refill.buf = [] → r.rx = [] ∧ r.buf = []) := by
      obtain ⟨rx, buf⟩ := r
      cases buf with
      | cons b buf => exact ⟨rfl, hsent, nofun⟩
      | nil =>
        cases rx with
        | nil => exact ⟨rfl, hsent, fun _ => ⟨rfl, rfl⟩⟩
        | cons chunk rx =>
          refine ⟨rfl, fun c hc => hsent c (mem_cons_of_mem _ hc), fun hnil => ?_⟩
          exact absurd hnil (hsent chunk mem_cons_self)
    obtain ⟨hbytes, hrest, hend⟩ := hall
    unfold readToEnd ChannelReader.pollRead at h
    cases hbuf : r.refill.buf with
    | nil =>
      rw [hbuf] at h
      cases h
      obtain ⟨hrx, hnil⟩ := hend hbuf
      rw [hrx, hnil]
      rfl
    | cons b buf =>
      rw [hbuf] at h
      obtain ⟨tail, htail, rfl⟩ := map_eq_some_iff.mp h
      rw [ih (r := ⟨r.refill.rx, buf.drop room⟩) hrest htail, ← hbytes, hbuf, cons_append, cons_append, ← append_assoc, take_append_drop]

lemma exists_readToEnd {rx : List Bytes} (hsent : ∀ chunk ∈ rx, chunk ≠ []) : ∃ rooms, readToEnd rooms ⟨rx, []⟩ = some rx.flatten := by
  induction rx with
  | nil => exact ⟨[0], rfl⟩
  | cons chunk rx ih =>
    obtain ⟨rooms, hrooms⟩ := ih fun c hc => hsent c (mem_cons_of_mem _ hc)
    cases chunk with
    | nil => exact absurd rfl (hsent [] mem_cons_self)
    | cons b chunk =>
      refine ⟨chunk.length :: rooms, ?_⟩
      simp only [readToEnd, ChannelReader.pollRead, ChannelReader.refill, if_true, take_succ_cons, drop_succ_cons,
        take_length, drop_length, hrooms, map_some, flatten_cons]

end Reader

section Plain

lemma pumpLength_sent {fuel remaining : Nat} {c : Connection} (hfuel : c.data.length < fuel) :
    (pumpLength fuel remaining c).sent.flatten = c.data.take remaining ∧ ∀ chunk ∈ (pumpLength fuel remaining c).sent, chunk ≠ [] := by
  induction fuel generalizing remaining c with
  | zero => exact absurd hfuel (Nat.not_lt_zero _)
  | succ fuel ih =>
    unfold pumpLength
    by_cases hzero : remaining = 0
    · rw [hzero]
      exact ⟨rfl, forall_mem_nil _⟩
    · rw [if_neg hzero]
      by_cases hdata : c.data = []
      · simp only [Connection.read, hdata, take_nil]
        cases c.failed <;> exact ⟨rfl, forall_mem_nil _⟩
      · obtain ⟨b, bytes, c', hread, hsplit, -, hle⟩ := read_cons (show 0 < min remaining 65536 by omega) hdata
        have hlen : c'.data.length < fuel := by
          rw [hsplit, length_append, length_cons] at hfuel
          omega
        obtain ⟨hflat, hne⟩ := @ih (remaining - (b :: bytes).length) c' hlen
        simp only [hread, Pumped.after, flatten_cons, hflat, hsplit]
        refine ⟨?_, forall_mem_cons.mpr ⟨cons_ne_nil _ _, hne⟩⟩
        rw [take_append, take_of_length_le (show (b :: bytes).length ≤ remaining by omega)]

lemma pumpToEnd_sent {fuel : Nat} {c : Connection} (hfuel : c.data.length < fuel) :
    (pumpToEnd fuel c).sent.flatten = c.data ∧ ∀ chunk ∈ (pumpToEnd fuel c).sent, chunk ≠ [] := by
  induction fuel generalizing c with
  | zero => exact absurd hfuel (Nat.not_lt_zero _)
  | succ fuel ih =>
    unfold pumpToEnd
    by_cases hdata : c.data = []
    · simp only [Connection.read, hdata]
      cases c.failed <;> exact ⟨rfl, forall_mem_nil _⟩
    · obtain ⟨b, bytes, c', hread, hsplit, -, -⟩ := read_cons (show 0 < 65536 by decide) hdata
      have hlen : c'.data.length < fuel := by
        rw [hsplit, length_append, length_cons] at hfuel
        omega
      obtain ⟨hflat, hne⟩ := ih hlen
      simp only [hread, Pumped.after, flatten_cons, hflat]
      exact ⟨hsplit.symm, forall_mem_cons.mpr ⟨cons_ne_nil _ _, hne⟩⟩

lemma sendBuffered_sent (buffered : Bytes) {p : Pumped} (hne : ∀ chunk ∈ p.sent, chunk ≠ []) :
    (sendBuffered buffered p).sent.flatten = buffered ++ p.sent.flatten ∧ ∀ chunk ∈ (sendBuffered buffered p).sent, chunk ≠ [] := by
  unfold sendBuffered
  split_ifs with hnil
  · rw [hnil]
    exact ⟨rfl, hne⟩
  · exact ⟨rfl, forall_mem_cons.mpr ⟨hnil, hne⟩⟩

end Plain

section Chunks

lemma splitCrlf_append {a line rest : Bytes} (b : Bytes) (h : splitCrlf a = some (line, rest)) :
    splitCrlf (a ++ b) = some (line, rest ++ b) := by
  induction a generalizing line with
  | nil => cases h
  | cons x a ih =>
    rw [cons_append, splitCrlf]
    rw [splitCrlf] at h
    by_cases hbreak : x = 13 ∧ a.head? = some 10
    · rw [if_pos hbreak] at h
      cases a with
      | nil => exact absurd hbreak.2 nofun
      | cons y a =>
        rw [if_pos ⟨hbreak.1, hbreak.2⟩]
        cases h
        rfl
    · rw [if_neg hbreak] at h
      obtain ⟨⟨line', rest'⟩, hsplit, heq⟩ := map_eq_some_iff.mp h
      obtain ⟨rfl, rfl⟩ := Prod.mk.inj heq
      have hnot : ¬(x = 13 ∧ (a ++ b).head? = some 10) := by
        rintro ⟨hx, hhead⟩
        refine hbreak ⟨hx, ?_⟩
        cases a with
        | nil => cases hsplit
        | cons y a => exact hhead
      rw [if_neg hnot, ih hsplit]
      rfl

def decoded : Nat → Bytes → Bytes
  | 0, _ => []
  | fuel + 1, total =>
    match splitCrlf total with
    | none => []
    | some (line, rest) =>
      if chunkSize line = 0 ∨ rest.length < chunkSize line then []
      else
        rest.take (chunkSize line) ++
          if (rest.drop (chunkSize line)).length < 2 then [] else decoded fuel (rest.drop (chunkSize line + 2))

lemma fillFrom_spec (enough : Bytes → Bool) (cap : Bytes → Nat) (hmono : ∀ a b, enough a = true → enough (a ++ b) = true)
    (hcap : ∀ buf, enough buf = false → 0 < cap buf) (buf : Bytes) (c : Connection) :
    if enough (buf ++ c.data) then
      ∃ buf' c', fillFrom enough cap buf c = some (buf', c') ∧ enough buf' = true ∧ buf' ++ c'.data = buf ++ c.data ∧ c'.failed = c.failed
    else fillFrom enough cap buf c = none :=
  fill_spec hmono hcap _ buf c (Nat.lt_succ_self _)

lemma fill_length (n : Nat) (cap : Bytes → Nat) (hcap : ∀ buf : Bytes, buf.length < n → 0 < cap buf) (buf : Bytes) (c : Connection) :
    if n ≤ (buf ++ c.data).length then
      ∃ buf' c', fillFrom (fun b => n ≤ b.length) cap buf c = some (buf', c') ∧ n ≤ buf'.length ∧ buf' ++ c'.data = buf ++ c.data
    else fillFrom (fun b => n ≤ b.length) cap buf c = none := by
  have hspec := fillFrom_spec (fun b => decide (n ≤ b.length)) cap
    (fun a b h => by simp only [decide_eq_true_eq, length_append] at h ⊢; omega)
    (fun buf h => hcap buf (by simpa using h)) buf c
  simp only [decide_eq_true_eq] at hspec
  split_ifs at hspec ⊢ with hlen
  · obtain ⟨buf', c', hfill, henough, hall, -⟩ := hspec
    exact ⟨buf', c', hfill, henough, hall⟩
  · exact hspec

lemma fill_line (buf : Bytes) (c : Connection) :
    match splitCrlf (buf ++ c.data) with
    | some (line, rest) => ∃ buf' c' rest', fillFrom (fun b => (splitCrlf b).isSome) (fun _ => 64) buf c = some (buf', c') ∧
        splitCrlf buf' = some (line, rest') ∧ rest' ++ c'.data = rest
    | none => fillFrom (fun b => (splitCrlf b).isSome) (fun _ => 64) buf c = none := by
  have hspec := fillFrom_spec (fun b => (splitCrlf b).isSome) (fun _ => 64)
    (fun a b h => by
      obtain ⟨⟨line, rest⟩, hsplit⟩ := isSome_iff_exists.mp h
      rw [splitCrlf_append b hsplit]
      rfl)
    (fun _ _ => by decide) buf c
  cases hsplit : splitCrlf (buf ++ c.data) with
  | none =>
    simp only [hsplit] at hspec
    exact hspec
  | some p =>
    obtain ⟨line, rest⟩ := p
    simp only [hsplit] at hspec
    obtain ⟨buf', c', hfill, henough, hall, -⟩ := hspec
    obtain ⟨⟨line', rest'⟩, hsplit'⟩ := isSome_iff_exists.mp henough
    have hwhole := splitCrlf_append c'.data hsplit'
    rw [hall, hsplit] at hwhole
    obtain ⟨rfl, rfl⟩ := Prod.mk.inj (some.inj hwhole)
    exact ⟨buf', c', rest', hfill, hsplit', rfl⟩

lemma pumpChunks_sent (fuel : Nat) (buf : Bytes) (c : Connection) :
    (pumpChunks fuel buf c).sent.flatten = decoded fuel (buf ++ c.data) ∧ ∀ chunk ∈ (pumpChunks fuel buf c).sent, chunk ≠ [] := by
  induction fuel generalizing buf c with
  | zero => exact ⟨rfl, nofun⟩
  | succ fuel ih =>
    have hline := fill_line buf c
    rw [pumpChunks, decoded]
    cases hsplit : splitCrlf (buf ++ c.data) with
    | none =>
      rw [hsplit] at hline
      simp only [hline]
      exact ⟨rfl, nofun⟩
    | some p =>
      obtain ⟨line, rest⟩ := p
      rw [hsplit] at hline
      obtain ⟨buf₁, c₁, rest₁, hfill₁, hsplit₁, rfl⟩ := hline
      simp only [hfill₁, hsplit₁]
      by_cases hzero : chunkSize line = 0
      · rw [if_pos hzero, if_pos (Or.inl hzero)]
        exact ⟨rfl, nofun⟩
      rw [if_neg hzero]
      have hdata := fill_length (chunkSize line) (fun b => min (chunkSize line - b.length) 65536)
        (fun b hb => by omega) rest₁ c₁
      by_cases hshort : (rest₁ ++ c₁.data).length < chunkSize line
      · rw [if_neg (Nat.not_le.mpr hshort)] at hdata
        rw [if_pos (Or.inr hshort)]
        simp only [hdata]
        exact ⟨rfl, nofun⟩
      rw [if_pos (Nat.not_lt.mp hshort)] at hdata
      obtain ⟨buf₂, c₂, hfill₂, hlen₂, hall₂⟩ := hdata
      rw [if_neg (not_or.mpr ⟨hzero, hshort⟩), ← hall₂, take_append_of_le_length hlen₂, drop_append_of_le_length hlen₂]
      simp only [hfill₂]
      have hchunk : buf₂.take (chunkSize line) ≠ [] := by
        rw [← length_pos_iff, length_take]
        omega
      have hbreak := fill_length 2 (fun _ => 2) (fun _ _ => by decide) (buf₂.drop (chunkSize line)) c₂
      by_cases hcut : (buf₂.drop (chunkSize line) ++ c₂.data).length < 2
      · rw [if_neg (Nat.not_le.mpr hcut)] at hbreak
        simp only [hbreak, if_pos hcut, flatten_cons, flatten_nil, mem_singleton]
        exact ⟨trivial, fun chunk h => h ▸ hchunk⟩
      · rw [if_pos (Nat.not_lt.mp hcut)] at hbreak
        obtain ⟨buf₃, c₃, hfill₃, hlen₃, hall₃⟩ := hbreak
        obtain ⟨hflat, hne⟩ := ih (buf₃.drop 2) c₃
        rw [if_neg hcut, ← drop_drop, drop_append_of_le_length hlen₂, ← hall₃, drop_append_of_le_length hlen₃, ← hflat]
        simp only [hfill₃, Pumped.after, flatten_cons]
        exact ⟨trivial, forall_mem_cons.mpr ⟨hchunk, hne⟩⟩

end Chunks

end Bookclerk.Granted
