import Mathlib.Data.Fintype.Basic

/-! Tables with distinct keys, and transactions over them at the isolation level READ COMMITTED. A
transaction reads the committed rows and its own writes, holds the rows it has written and the slots
it has locked, and publishes its writes when it commits; a statement that meets a held row or slot
waits. -/

namespace Bookclerk.Db

open List Option

variable {ρ κ σ δ ι : Type}

structure Table (key : ρ → κ) where
  rows : List ρ
  nodup : (rows.map key).Nodup

structure Stmt (key : ρ → κ) where
  target : κ
  applies : ρ → Bool
  set : ρ → ρ
  key_set : ∀ r, key (set r) = key r

structure Txn (ρ σ δ : Type) where
  slots : List σ
  writes : List ρ
  data : δ

structure Store (key : ρ → κ) (σ δ ι : Type) where
  table : Table key
  session : ι → Option (Txn ρ σ δ)

variable {key : ρ → κ}

namespace Table

lemma eq_of_key (t : Table key) {r r' : ρ} (hr : r ∈ t.rows) (hr' : r' ∈ t.rows) (h : key r = key r') : r = r' :=
  inj_on_of_nodup_map t.nodup hr hr' h

def modify (t : Table key) (f : ρ → ρ) (hf : ∀ r, key (f r) = key r) : Table key where
  rows := t.rows.map f
  nodup := by simpa [Function.comp_def, hf] using t.nodup

def insert (t : Table key) (r : ρ) (h : key r ∉ t.rows.map key) : Table key where
  rows := r :: t.rows
  nodup := by simpa using ⟨by simpa using h, t.nodup⟩

def filter (t : Table key) (p : ρ → Bool) : Table key where
  rows := t.rows.filter p
  nodup := t.nodup.sublist (List.filter_sublist.map key)

variable {f : ρ → ρ}

lemma mem_modify {t : Table key} (hf : ∀ r, key (f r) = key r) {r : ρ} : r ∈ (t.modify f hf).rows ↔ ∃ r' ∈ t.rows, f r' = r :=
  List.mem_map

lemma modify_eq_self (t : Table key) (hf : ∀ r, key (f r) = key r) (h : ∀ r ∈ t.rows, f r = r) : t.modify f hf = t := by
  have hrows : t.rows.map f = t.rows := by
    rw [map_congr_left h, List.map_id']
  cases t
  simpa [modify] using hrows

lemma modify_congr (t : Table key) {f g : ρ → ρ} (hf : ∀ r, key (f r) = key r) (hg : ∀ r, key (g r) = key r)
    (h : ∀ r ∈ t.rows, f r = g r) : t.modify f hf = t.modify g hg := by
  simp only [modify, map_congr_left h]

lemma countP_modify (t : Table key) (f : ρ → ρ) (hf : ∀ r, key (f r) = key r) (p : ρ → Bool) :
    (t.modify f hf).rows.countP p = t.rows.countP (p ∘ f) :=
  countP_map

variable [DecidableEq κ]

def find (t : Table key) (k : κ) : Option ρ :=
  t.rows.find? fun r => key r = k

lemma find_eq_some {t : Table key} {k : κ} {r : ρ} : t.find k = some r ↔ r ∈ t.rows ∧ key r = k := by
  constructor
  · intro h
    exact ⟨List.mem_of_find?_eq_some h, by simpa using List.find?_some h⟩
  · rintro ⟨hr, rfl⟩
    obtain ⟨r', h⟩ : ∃ r', t.find (key r) = some r' := by
      rw [← isSome_iff_exists, find, List.find?_isSome]
      exact ⟨r, hr, by simp⟩
    have hr' : r' ∈ t.rows ∧ key r' = key r := ⟨List.mem_of_find?_eq_some h, by simpa using List.find?_some h⟩
    rw [h, t.eq_of_key hr'.1 hr hr'.2]

lemma find_modify (t : Table key) (f : ρ → ρ) (hf : ∀ r, key (f r) = key r) (k : κ) : (t.modify f hf).find k = (t.find k).map f := by
  have hcomp : ((fun r => decide (key r = k)) ∘ f) = fun r => decide (key r = k) := by
    funext r
    simp [hf]
  rw [find, modify, List.find?_map, hcomp, find]

lemma countP_or_le {α : Type} (p q : α → Bool) (l : List α) : l.countP (fun r => p r || q r) ≤ l.countP p + l.countP q := by
  induction l with
  | nil => simp
  | cons r l ih =>
    simp only [countP_cons]
    cases p r <;> cases q r <;> simp <;> omega

lemma countP_key_le_one (t : Table key) (k : κ) : t.rows.countP (fun r => key r = k) ≤ 1 := by
  have := nodup_iff_count_le_one.mp t.nodup k
  rwa [count_eq_countP, countP_map] at this

lemma countP_modify_le (t : Table key) (hf : ∀ r, key (f r) = key r) {p : ρ → Bool} {k : κ}
    (h : ∀ r ∈ t.rows, p (f r) = true → p r = true ∨ key r = k) : (t.modify f hf).rows.countP p ≤ t.rows.countP p + 1 := by
  have hkey := t.countP_key_le_one k
  calc (t.modify f hf).rows.countP p = t.rows.countP (p ∘ f) := t.countP_modify f hf p
    _ ≤ t.rows.countP (fun r => p r || key r = k) := countP_mono_left fun r hr hp => by simpa using h r hr hp
    _ ≤ t.rows.countP p + t.rows.countP (fun r => key r = k) := countP_or_le p _ t.rows
    _ ≤ t.rows.countP p + 1 := by omega

end Table

variable [DecidableEq κ]

namespace Stmt

def row (q : Stmt key) (r : ρ) : ρ :=
  if key r = q.target ∧ q.applies r = true then q.set r else r

lemma key_row (q : Stmt key) (r : ρ) : key (q.row r) = key r := by
  rw [row]
  split_ifs
  · exact q.key_set r
  · rfl

lemma row_cases (q : Stmt key) (r : ρ) : q.row r = r ∨ (key r = q.target ∧ q.applies r = true ∧ q.row r = q.set r) := by
  rw [row]
  split_ifs with h
  · exact Or.inr ⟨h.1, h.2, rfl⟩
  · exact Or.inl rfl

end Stmt

namespace Txn

def holds (key : ρ → κ) (x : Txn ρ σ δ) (k : κ) : Bool :=
  x.writes.any fun r => key r = k

def view (key : ρ → κ) (x : Txn ρ σ δ) (r : ρ) : ρ :=
  (x.writes.find? fun w => key w = key r).getD r

lemma key_view (x : Txn ρ σ δ) (r : ρ) : key (x.view key r) = key r := by
  rw [view]
  cases h : x.writes.find? fun w => key w = key r with
  | none => rfl
  | some w => simpa using List.find?_some h

lemma view_of_not_holds {x : Txn ρ σ δ} {r : ρ} (h : x.holds key (key r) = false) : x.view key r = r := by
  have hnone : (x.writes.find? fun w => key w = key r) = none := by
    rw [List.find?_eq_none]
    intro w hw
    simpa using (List.any_eq_false.mp h) w hw
  rw [view, hnone, getD_none]

end Txn

namespace Store

variable [Fintype ι] [DecidableEq ι] {s s' : Store key σ δ ι}

def Held (s : Store key σ δ ι) (except : List ι) (k : κ) : Prop :=
  ∃ i, i ∉ except ∧ (s.session i).any (Txn.holds key · k) = true

instance (s : Store key σ δ ι) (except : List ι) (k : κ) : Decidable (s.Held except k) :=
  inferInstanceAs (Decidable (∃ _, _))

def exec (s : Store key σ δ ι) (q : Stmt key) : Option (Store key σ δ ι) :=
  if s.Held [] q.target then none else some { s with table := s.table.modify q.row q.key_row }

def matched (s : Store key σ δ ι) (q : Stmt key) : Bool :=
  (s.table.find q.target).any q.applies

def put (s : Store key σ δ ι) (i : ι) (x : Option (Txn ρ σ δ)) : Store key σ δ ι :=
  { s with session := Function.update s.session i x }

def start (s : Store key σ δ ι) (i : ι) (data : δ) : Option (Store key σ δ ι) :=
  if (s.session i).isNone then some (s.put i (some ⟨[], [], data⟩)) else none

/-- A statement of session `i`; `next` gives its data from whether a row was changed. -/
def execIn (s : Store key σ δ ι) (i : ι) (q : Stmt key) (next : Bool → δ) : Option (Store key σ δ ι) := do
  let x ← s.session i
  if s.Held [i] q.target then none
  else
    match ((s.table.find q.target).map (x.view key)).filter q.applies with
    | some r => some (s.put i (some { x with writes := q.set r :: x.writes, data := next true }))
    | none => some (s.put i (some { x with data := next false }))

def Locked (s : Store key σ δ ι) [DecidableEq σ] (except : List ι) (slot : σ) : Prop :=
  ∃ i, i ∉ except ∧ (s.session i).any (fun x => decide (slot ∈ x.slots)) = true

instance (s : Store key σ δ ι) [DecidableEq σ] (except : List ι) (slot : σ) : Decidable (s.Locked except slot) :=
  inferInstanceAs (Decidable (∃ _, _))

def lock (s : Store key σ δ ι) [DecidableEq σ] (i : ι) (slot : σ) (data : δ) : Option (Store key σ δ ι) := do
  let x ← s.session i
  if s.Locked [i] slot then none else some (s.put i (some { x with slots := slot :: x.slots, data := data }))

def setData (s : Store key σ δ ι) (i : ι) (data : δ) : Option (Store key σ δ ι) := do
  let x ← s.session i
  some (s.put i (some { x with data := data }))

def commit (s : Store key σ δ ι) (i : ι) : Option (Store key σ δ ι) := do
  let x ← s.session i
  some ⟨s.table.modify (x.view key) x.key_view, Function.update s.session i none⟩

def rollback (s : Store key σ δ ι) (i : ι) : Option (Store key σ δ ι) := do
  let _ ← s.session i
  some (s.put i none)

def insert (s : Store key σ δ ι) (r : ρ) : Option (Store key σ δ ι) :=
  if h : key r ∉ s.table.rows.map key then some { s with table := s.table.insert r h } else none

omit [Fintype ι] [DecidableEq ι] in
lemma not_held_iff {except : List ι} {k : κ} : ¬ s.Held except k ↔ ∀ i x, i ∉ except → s.session i = some x → x.holds key k = false := by
  constructor
  · intro h i x hi hx
    by_contra hne
    exact h ⟨i, hi, by simpa [hx] using hne⟩
  · rintro h ⟨i, hi, hany⟩
    cases hx : s.session i with
    | none => simp [hx] at hany
    | some x => simp [hx, h i x hi hx] at hany

omit [DecidableEq κ] [Fintype ι] [DecidableEq ι] in
lemma not_locked_iff [DecidableEq σ] {except : List ι} {slot : σ} :
    ¬ s.Locked except slot ↔ ∀ i x, i ∉ except → s.session i = some x → slot ∉ x.slots := by
  constructor
  · intro h i x hi hx hmem
    exact h ⟨i, hi, by simpa [hx] using hmem⟩
  · rintro h ⟨i, hi, hany⟩
    cases hx : s.session i with
    | none => simp [hx] at hany
    | some x => exact h i x hi hx (by simpa [hx] using hany)

lemma exec_eq_some {q : Stmt key} : s.exec q = some s' ↔
    (∀ i x, s.session i = some x → x.holds key q.target = false) ∧ s' = { s with table := s.table.modify q.row q.key_row } := by
  rw [exec]
  split_ifs with h
  · refine ⟨nofun, fun hs => absurd h (not_held_iff.mpr fun i x _ hx => hs.1 i x hx)⟩
  · rw [some.injEq, eq_comm]
    exact ⟨fun hs => ⟨fun i x hx => not_held_iff.mp h i x (not_mem_nil) hx, hs⟩, And.right⟩

lemma execIn_eq_some {i : ι} {q : Stmt key} {next : Bool → δ} (h : s.execIn i q next = some s') :
    ∃ x x', s.session i = some x ∧ s' = s.put i (some x') ∧ x'.slots = x.slots ∧
      (∀ j y, j ≠ i → s.session j = some y → y.holds key q.target = false) ∧
      ((x'.data = next false ∧ x'.writes = x.writes) ∨
        ∃ r ∈ s.table.rows, key r = q.target ∧ q.applies (x.view key r) = true ∧ x'.data = next true ∧
          x'.writes = q.set (x.view key r) :: x.writes) := by
  obtain ⟨x, hx, h⟩ := bind_eq_some_iff.mp h
  split_ifs at h with hheld
  have hothers := not_held_iff.mp hheld
  cases hrow : ((s.table.find q.target).map (x.view key)).filter q.applies with
  | none =>
    rw [hrow] at h
    obtain rfl := some.inj h
    exact ⟨x, _, hx, rfl, rfl, fun j y hj => hothers j y (by simpa using hj), Or.inl ⟨rfl, rfl⟩⟩
  | some w =>
    rw [hrow] at h
    obtain rfl := some.inj h
    obtain ⟨hw, happ⟩ := filter_eq_some_iff.mp hrow
    obtain ⟨r, hr, rfl⟩ := map_eq_some_iff.mp hw
    obtain ⟨hmem, hkey⟩ := Table.find_eq_some.mp hr
    exact ⟨x, _, hx, rfl, rfl, fun j y hj => hothers j y (by simpa using hj), Or.inr ⟨r, hmem, hkey, happ, rfl, rfl⟩⟩

end Store

variable {x x' : Txn ρ σ δ}

lemma Txn.view_cons {w : ρ} (h : x'.writes = w :: x.writes) (r : ρ) : x'.view key r = if key w = key r then w else x.view key r := by
  rw [Txn.view, h]
  by_cases hw : key w = key r
  · simp [hw]
  · simp [hw, Txn.view]

lemma Txn.view_congr (h : x'.writes = x.writes) (r : ρ) : x'.view key r = x.view key r := by
  rw [Txn.view, h, Txn.view]

lemma Txn.view_write {q : Stmt key} {t : Table key} {r₀ r : ρ} (hr₀ : r₀ ∈ t.rows) (hr : r ∈ t.rows)
    (h : x'.writes = q.set (x.view key r₀) :: x.writes) :
    (r₀ = r ∧ x'.view key r = q.set (x.view key r)) ∨ (key r₀ ≠ key r ∧ x'.view key r = x.view key r) := by
  have hkey : key (q.set (x.view key r₀)) = key r₀ := (q.key_set _).trans (x.key_view r₀)
  rw [Txn.view_cons h, hkey]
  by_cases hid : key r₀ = key r
  · obtain rfl := t.eq_of_key hr₀ hr hid
    exact Or.inl ⟨rfl, if_pos rfl⟩
  · exact Or.inr ⟨hid, if_neg hid⟩

end Bookclerk.Db
