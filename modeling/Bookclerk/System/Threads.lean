import Bookclerk.System.Run

namespace Bookclerk.System

open Option Function

variable {ι σ φ α : Type*} [DecidableEq ι]

structure Threads (ι σ φ : Type*) where
  shared : σ
  phase : ι → φ

def turn (act : ι → σ → φ → α → Option (σ × φ)) (s : Threads ι σ φ) (a : ι × α) : Option (Threads ι σ φ) :=
  (act a.1 s.shared (s.phase a.1) a.2).map fun r => ⟨r.1, Function.update s.phase a.1 r.2⟩

variable {act : ι → σ → φ → α → Option (σ × φ)}

lemma turn_eq_some {s s' : Threads ι σ φ} {a : ι × α} :
    turn act s a = some s' ↔ ∃ m p, act a.1 s.shared (s.phase a.1) a.2 = some (m, p) ∧ s' = ⟨m, Function.update s.phase a.1 p⟩ := by
  unfold turn
  rw [map_eq_some_iff]
  constructor
  · rintro ⟨⟨m, p⟩, hact, rfl⟩
    exact ⟨m, p, hact, rfl⟩
  · rintro ⟨m, p, hact, rfl⟩
    exact ⟨(m, p), hact, rfl⟩

structure Known (I : σ → Prop) (P : ι → σ → φ → Prop) (s : Threads ι σ φ) : Prop where
  memory : I s.shared
  thread : ∀ i, P i s.shared (s.phase i)

variable {I : σ → Prop} {P : ι → σ → φ → Prop}

theorem stable_known (rely : ι → σ → σ → Prop)
    (hown : ∀ i m p a m' p', I m → P i m p → act i m p a = some (m', p') → I m' ∧ P i m' p' ∧ ∀ j, j ≠ i → rely j m m')
    (hrely : ∀ j m m' p, I m' → rely j m m' → P j m p → P j m' p) : Stable (turn act) (Known I P) := by
  intro s a s' hs hturn
  obtain ⟨m, p, hact, rfl⟩ := turn_eq_some.mp hturn
  obtain ⟨hmemory, hthread, hothers⟩ := hown _ _ _ _ _ _ hs.memory (hs.thread a.1) hact
  refine ⟨hmemory, fun j => ?_⟩
  by_cases hj : j = a.1
  · subst hj
    dsimp only
    rw [update_self]
    exact hthread
  · dsimp only
    rw [update_of_ne hj]
    exact hrely j _ _ _ hmemory (hothers j hj) (hs.thread j)

structure Locks where
  file : Option Nat
  inner : Nat → Option (Nat × Nat)

namespace Locks

def free : Locks :=
  ⟨none, fun _ => none⟩

def acquire (l : Locks) (thread handle : Nat) : Option Locks :=
  match l.inner handle with
  | none =>
    if l.file = none then some ⟨some handle, Function.update l.inner handle (some (thread, 1))⟩ else none
  | some (owner, depth) =>
    if owner = thread then some { l with inner := Function.update l.inner handle (some (thread, depth + 1)) } else none

def release (l : Locks) (handle : Nat) : Locks :=
  match l.inner handle with
  | none => l
  | some (owner, depth) =>
    if depth ≤ 1 then ⟨none, Function.update l.inner handle none⟩
    else { l with inner := Function.update l.inner handle (some (owner, depth - 1)) }

def Holds (l : Locks) (thread handle : Nat) : Prop :=
  ∃ depth, l.inner handle = some (thread, depth)

def abandon (l : Locks) (thread : Nat) : Locks where
  file := l.file.filter fun handle => (l.inner handle).any fun o => o.1 ≠ thread
  inner handle := (l.inner handle).filter fun o => o.1 ≠ thread

def Exclusive (l : Locks) : Prop :=
  ∀ handle, (l.inner handle).isSome → l.file = some handle

variable {l l' : Locks} {thread handle : Nat}

lemma exclusive_free : Exclusive free :=
  nofun

lemma holds_of_any (h : (l.inner handle).any fun o => o.1 = thread) : l.Holds thread handle := by
  cases hinner : l.inner handle with
  | none =>
    rw [hinner] at h
    cases h
  | some o =>
    rw [hinner] at h
    obtain rfl : o.1 = thread := of_decide_eq_true h
    exact ⟨o.2, hinner⟩

lemma Holds.unique (h : l.Exclusive) {thread' handle' : Nat} (ht : l.Holds thread handle) (ht' : l.Holds thread' handle') : thread = thread' := by
  obtain ⟨depth, hd⟩ := ht
  obtain ⟨depth', hd'⟩ := ht'
  have hfile := h handle (by rw [hd]; rfl)
  have hfile' := h handle' (by rw [hd']; rfl)
  obtain rfl := mem_unique hfile hfile'
  exact (Prod.mk.inj (mem_unique hd hd')).1

lemma Exclusive.acquire (h : l.Exclusive) (hacq : l.acquire thread handle = some l') : l'.Exclusive := by
  unfold Locks.acquire at hacq
  cases hinner : l.inner handle with
  | none =>
    simp only [hinner] at hacq
    split_ifs at hacq with hfile
    obtain rfl := some.inj hacq
    intro i hi
    by_cases hne : i = handle
    · rw [hne]
    · have hi' : (l.inner i).isSome := by simpa [update_of_ne hne] using hi
      cases hfile.symm.trans (h i hi')
  | some o =>
    simp only [hinner] at hacq
    split_ifs at hacq with howner
    obtain rfl := some.inj hacq
    intro i hi
    by_cases hne : i = handle
    · rw [hne]
      exact h handle (by rw [hinner]; rfl)
    · exact h i (by simpa [update_of_ne hne] using hi)

lemma holds_acquire (hacq : l.acquire thread handle = some l') : l'.Holds thread handle := by
  unfold Locks.acquire at hacq
  split at hacq
  · split_ifs at hacq
    obtain rfl := some.inj hacq
    exact ⟨1, update_self ..⟩
  · split_ifs at hacq
    obtain rfl := some.inj hacq
    exact ⟨_, update_self ..⟩

lemma Holds.acquire_other {thread' handle' : Nat} (hne : thread' ≠ thread) (h : l.Holds thread handle)
    (hacq : l.acquire thread' handle' = some l') : l'.Holds thread handle := by
  obtain ⟨depth, hd⟩ := h
  have hhandle : handle' ≠ handle ∨ handle' = handle := (em (handle' = handle)).symm
  unfold Locks.acquire at hacq
  rcases hhandle with hhandle | rfl
  · refine ⟨depth, ?_⟩
    split at hacq
    · split_ifs at hacq
      obtain rfl := some.inj hacq
      exact (update_of_ne hhandle.symm ..).trans hd
    · split_ifs at hacq
      obtain rfl := some.inj hacq
      exact (update_of_ne hhandle.symm ..).trans hd
  · simp only [hd] at hacq
    split_ifs at hacq with howner
    exact absurd howner.symm hne

lemma Exclusive.release (h : l.Exclusive) (handle : Nat) : (l.release handle).Exclusive := by
  unfold Locks.release
  cases hinner : l.inner handle with
  | none => exact h
  | some o =>
    have hfile := h handle (by rw [hinner]; rfl)
    dsimp only
    split_ifs
    · intro i hi
      by_cases hne : i = handle
      · rw [hne] at hi
        simp at hi
      · have hi' : (l.inner i).isSome := by simpa [update_of_ne hne] using hi
        exact absurd (some.inj ((h i hi').symm.trans hfile)) hne
    · intro i hi
      by_cases hne : i = handle
      · rw [hne]
        exact hfile
      · exact h i (by simpa [update_of_ne hne] using hi)

lemma Exclusive.abandon (h : l.Exclusive) (thread : Nat) : (l.abandon thread).Exclusive := by
  intro i hi
  obtain ⟨o, ho⟩ := isSome_iff_exists.mp hi
  obtain ⟨hinner, howner⟩ := filter_eq_some_iff.mp ho
  have hfile := h i (by rw [hinner]; rfl)
  unfold Locks.abandon
  rw [hfile, filter_some, hinner, any_some, if_pos howner]

lemma Holds.abandon_other {thread' : Nat} (hne : thread' ≠ thread) (h : l.Holds thread handle) : (l.abandon thread').Holds thread handle := by
  obtain ⟨depth, hd⟩ := h
  refine ⟨depth, ?_⟩
  unfold Locks.abandon
  dsimp only
  rw [hd, filter_some, if_pos (by simpa using hne.symm)]

end Locks

end Bookclerk.System
