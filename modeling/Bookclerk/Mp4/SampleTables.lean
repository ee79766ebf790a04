import Mathlib.Algebra.BigOperators.Group.List.Basic
import Mathlib.Data.UInt

namespace Bookclerk.Mp4

structure ChunkMapEntry where
  firstChunk : UInt32
  samplesPerChunk : UInt32
  sampleDescriptionIndex : UInt32

structure SampleInfo where
  offset : UInt64
  size : UInt32
  startCts : UInt64
  duration : UInt32
  chunkIndex : UInt32

def maxMp4TableEntries : Nat :=
  10000000

def ensureTableEntries (count : UInt32) (entryBytes : Nat) (available : UInt64) (what : String) : Except String Nat :=
  let n := count.toNat
  if n > maxMp4TableEntries then .error s!"{what} entry_count {n} exceeds {maxMp4TableEntries}"
  else
    let need := min (n * max entryBytes 1) (2 ^ 64 - 1)
    if need > available.toNat then .error s!"{what} entry_count {n} needs {need} bytes, only {available} remain in box"
    else .ok n

/-- A vector with the largest number of elements it has held. -/
structure Grown (α : Type) where
  items : List α
  peak : Nat
  length_le : items.length ≤ peak

namespace Grown

variable {α : Type}

def empty : Grown α :=
  ⟨[], 0, le_rfl⟩

def set (v : Grown α) (items : List α) : Grown α :=
  ⟨items, max v.peak items.length, le_max_right _ _⟩

def push (v : Grown α) (x : α) : Grown α :=
  v.set (v.items ++ [x])

def resize (v : Grown α) (n : Nat) (x : α) : Grown α :=
  v.set (v.items.take n ++ List.replicate (n - v.items.length) x)

def truncate (v : Grown α) (n : Nat) : Grown α :=
  v.set (v.items.take n)

end Grown

def expandDurations (stts : List (UInt32 × UInt32)) : Grown UInt32 :=
  stts.foldl (fun v e => (fun v : Grown UInt32 => v.push e.2)^[e.1.toNat] v) .empty

def fitDurations (v : Grown UInt32) (n : Nat) : Except String (Grown UInt32) :=
  if v.items.length ≠ n then
    match v.items.getLast? with
    | none => .error "stts produced no sample durations"
    | some last => .ok (if v.items.length < n then v.resize n last else v.truncate n)
  else .ok v

def samplesInChunk (chunkNumber : UInt32) : List ChunkMapEntry → UInt32 → UInt32
  | [], spc => spc
  | e :: rest, spc => if e.firstChunk ≤ chunkNumber then samplesInChunk chunkNumber rest e.samplesPerChunk else spc

def expandChunks (stsc : List ChunkMapEntry) (spc : UInt32) (chunks : Nat) : Grown UInt32 :=
  (List.range chunks).foldl (fun v idx => v.push (samplesInChunk (UInt32.ofNat idx + 1) stsc spc)) .empty

structure Placing where
  samples : Grown SampleInfo
  cts : UInt64
  panicked : Bool

def saturatingAdd (a b : UInt64) : UInt64 :=
  if a + b < a then 0xffffffffffffffff else a + b

/-- Indexing past a table is a panic; `sample_idx` is the number of samples pushed. -/
def placeChunk (sizes durations : List UInt32) (chunk : UInt32) : Nat → UInt64 → Placing → Placing
  | 0, _, p => p
  | spc + 1, offset, p =>
    match sizes[p.samples.items.length]?, durations[p.samples.items.length]? with
    | some size, some duration =>
      placeChunk sizes durations chunk spc (offset + size.toUInt64)
        ⟨p.samples.push ⟨offset, size, p.cts, duration, chunk⟩, saturatingAdd p.cts duration.toUInt64, false⟩
    | _, _ => { p with panicked := true }

def placeSamples (sizes durations : List UInt32) : List ((UInt64 × UInt32) × Nat) → Placing → Placing
  | [], p => p
  | ((offset, spc), idx) :: rest, p =>
    if p.panicked then p
    else placeSamples sizes durations rest (placeChunk sizes durations (UInt32.ofNat idx) spc.toNat offset p)

inductive Fault where
  | container (message : String)
  | panic

/-- `peak` is the largest number of elements a vector of the call has held. -/
structure Built where
  peak : Nat
  result : Except Fault (List SampleInfo)

def buildSamples (stts : List (UInt32 × UInt32)) (stsc : List ChunkMapEntry) (sampleSizes : List UInt32)
    (chunkOffsets : List UInt64) : Built :=
  match stsc with
  | [] => ⟨0, .error (.container "stsc is empty")⟩
  | first :: _ =>
    if chunkOffsets = [] then ⟨0, .error (.container "no chunk offsets")⟩
    else
      let durations := expandDurations stts
      match fitDurations durations sampleSizes.length with
      | .error message => ⟨durations.peak, .error (.container message)⟩
      | .ok durations =>
        let samplesPerChunk := expandChunks stsc first.samplesPerChunk chunkOffsets.length
        let peak := max durations.peak samplesPerChunk.peak
        let totalFromChunks := (samplesPerChunk.items.map UInt32.toUInt64).sum
        if totalFromChunks ≠ UInt64.ofNat sampleSizes.length then
          ⟨peak, .error (.container s!"sample count mismatch: stsz={sampleSizes.length} vs stsc/chunks={totalFromChunks}")⟩
        else
          let p := placeSamples sampleSizes durations.items (chunkOffsets.zip samplesPerChunk.items).zipIdx ⟨.empty, 0, false⟩
          ⟨max peak p.samples.peak, if p.panicked then .error .panic else .ok p.samples.items⟩

section Peaks

variable {α : Type} {sizes durations : List UInt32} {p : Placing}

lemma Grown.peak_push (v : Grown α) (x : α) : (v.push x).peak = max v.peak (v.items.length + 1) := by
  simp [Grown.push, Grown.set]

lemma Grown.length_push (v : Grown α) (x : α) : (v.push x).items.length = v.items.length + 1 := by
  simp [Grown.push, Grown.set]

def Full (v : Grown α) (n : Nat) : Prop :=
  v.items.length = n ∧ v.peak = n

lemma Full.push {v : Grown α} {n : Nat} (h : Full v n) (x : α) : Full (v.push x) (n + 1) := by
  rw [Full, Grown.peak_push, Grown.length_push, h.1, h.2]
  exact ⟨rfl, max_eq_right n.le_succ⟩

lemma Full.pushes {v : Grown α} {n : Nat} (h : Full v n) (x : α) (k : Nat) : Full ((fun v : Grown α => v.push x)^[k] v) (n + k) := by
  induction k generalizing v n with
  | zero => exact h
  | succ k ih =>
    rw [Function.iterate_succ_apply, Nat.add_comm k, ← Nat.add_assoc]
    exact ih (h.push x)

lemma full_expandDurations (stts : List (UInt32 × UInt32)) : Full (expandDurations stts) (stts.map (·.1.toNat)).sum := by
  have hfold : ∀ (v : Grown UInt32) (n : Nat), Full v n →
      Full (stts.foldl (fun v e => (fun v : Grown UInt32 => v.push e.2)^[e.1.toNat] v) v) (n + (stts.map (·.1.toNat)).sum) := by
    induction stts with
    | nil => exact fun v n h => h
    | cons e stts ih =>
      intro v n h
      rw [List.map_cons, List.sum_cons, ← Nat.add_assoc]
      exact ih _ _ (h.pushes e.2 e.1.toNat)
  simpa [expandDurations] using hfold .empty 0 ⟨rfl, rfl⟩

lemma full_expandChunks (stsc : List ChunkMapEntry) (spc : UInt32) (n : Nat) : Full (expandChunks stsc spc n) n := by
  induction n with
  | zero => exact ⟨rfl, rfl⟩
  | succ n ih =>
    rw [expandChunks, List.range_succ, List.foldl_concat]
    exact ih.push _

lemma fitDurations_peak {v w : Grown UInt32} {n : Nat} (h : fitDurations v n = .ok w) : w.peak ≤ max v.peak n ∧ v.peak ≤ w.peak := by
  rw [fitDurations] at h
  split at h
  · split at h
    · cases h
    · cases h
      split_ifs
      · simp [Grown.resize, Grown.set]
        omega
      · simp [Grown.truncate, Grown.set]
        omega
  · cases h
    exact ⟨le_max_left .., le_rfl⟩

lemma placeChunk_peak (chunk : UInt32) (spc : Nat) (offset : UInt64) (h : p.samples.peak ≤ sizes.length) :
    (placeChunk sizes durations chunk spc offset p).samples.peak ≤ sizes.length := by
  induction spc generalizing offset p with
  | zero => exact h
  | succ spc ih =>
    rw [placeChunk]
    split
    · next size duration hsize _ =>
      apply ih
      rw [Grown.peak_push]
      exact max_le h (List.getElem?_eq_some_iff.mp hsize).1
    · exact h

lemma placeSamples_peak (chunks : List ((UInt64 × UInt32) × Nat)) (h : p.samples.peak ≤ sizes.length) :
    (placeSamples sizes durations chunks p).samples.peak ≤ sizes.length := by
  induction chunks generalizing p with
  | nil => exact h
  | cons c chunks ih =>
    rw [placeSamples]
    split_ifs
    · exact h
    · exact ih (placeChunk_peak _ _ _ h)

end Peaks

variable {stts : List (UInt32 × UInt32)} {stsc : List ChunkMapEntry} {sampleSizes : List UInt32} {chunkOffsets : List UInt64} {m : Nat}

lemma peak_le_of_tables_le (hsizes : sampleSizes.length ≤ m) (hoffsets : chunkOffsets.length ≤ m) :
    (buildSamples stts stsc sampleSizes chunkOffsets).peak ≤ m ↔ stsc = [] ∨ chunkOffsets = [] ∨ (stts.map (·.1.toNat)).sum ≤ m := by
  obtain ⟨-, hdurations⟩ := full_expandDurations stts
  unfold buildSamples
  split
  · exact iff_of_true (Nat.zero_le _) (Or.inl rfl)
  · next first rest =>
    obtain ⟨-, hchunks⟩ := full_expandChunks (first :: rest) first.samplesPerChunk chunkOffsets.length
    split_ifs with hempty
    · exact iff_of_true (Nat.zero_le _) (Or.inr (Or.inl hempty))
    · rw [false_or, or_iff_right hempty]
      dsimp only
      split
      · rw [hdurations]
      · next durations hfit =>
        obtain ⟨hle, hge⟩ := fitDurations_peak hfit
        have hplaced := @placeSamples_peak sampleSizes durations.items ⟨.empty, 0, false⟩
          (chunkOffsets.zip (expandChunks (first :: rest) first.samplesPerChunk chunkOffsets.length).items).zipIdx (Nat.zero_le _)
        split_ifs <;> dsimp only <;> omega

theorem buildSamples_peak_le_iff (stts : List (UInt32 × UInt32)) (stsc : List ChunkMapEntry) (sampleSizes : List UInt32)
    (chunkOffsets : List UInt64) :
    (buildSamples stts stsc sampleSizes chunkOffsets).peak ≤ max sampleSizes.length (max stts.length chunkOffsets.length) ↔
      stsc = [] ∨ chunkOffsets = [] ∨
        (stts.map (·.1.toNat)).sum ≤ max sampleSizes.length (max stts.length chunkOffsets.length) :=
  peak_le_of_tables_le (le_max_left _ _) ((le_max_right _ _).trans (le_max_right _ _))

theorem one_run_expands :
    ensureTableEntries 1 8 8 "stts" = .ok 1 ∧ ensureTableEntries 1 12 12 "stsc" = .ok 1 ∧
      ensureTableEntries 1 4 4 "stsz" = .ok 1 ∧ ensureTableEntries 1 4 4 "stco" = .ok 1 ∧
      ¬ (buildSamples [(0xffffffff, 1024)] [⟨1, 1, 1⟩] [4] [48]).peak ≤ 1 := by
  refine ⟨rfl, rfl, rfl, rfl, ?_⟩
  rw [peak_le_of_tables_le (m := 1) le_rfl le_rfl]
  decide

end Bookclerk.Mp4
