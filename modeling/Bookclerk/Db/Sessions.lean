import Bookclerk.Db.ReadCommitted

namespace Bookclerk.Db

open List Option

variable {ρ κ σ δ ι : Type} {key : ρ → κ} [DecidableEq κ]

namespace Store

structure Isolated (s : Store key σ δ ι) : Prop where
  writes : ∀ i j x y k, s.session i = some x → s.session j = some y → x.holds key k = true → y.holds key k = true → i = j
  slots : ∀ i j x y slot, s.session i = some x → s.session j = some y → slot ∈ x.slots → slot ∈ y.slots → i = j
  grounded : ∀ i x k, s.session i = some x → x.holds key k = true → ∃ r ∈ s.table.rows, key r = k

def Views (P : δ → ρ → ρ → Prop) (s : Store key σ δ ι) : Prop :=
  ∀ i x, s.session i = some x → ∀ r ∈ s.table.rows, P x.data r (x.view key r)

variable [DecidableEq ι] {s s' : Store key σ δ ι}

omit [DecidableEq κ] in
lemma session_put_self (s : Store key σ δ ι) (i : ι) (x : Option (Txn ρ σ δ)) : (s.put i x).session i = x := by
  simp [put]

omit [DecidableEq κ] in
lemma session_put_of_ne (s : Store key σ δ ι) {i j : ι} (h : j ≠ i) (x : Option (Txn ρ σ δ)) : (s.put i x).session j = s.session j := by
  simp [put, h]

omit [DecidableEq κ] in
lemma session_put_cases {i j : ι} {x : Option (Txn ρ σ δ)} {y : Txn ρ σ δ} (h : (s.put i x).session j = some y) :
    (j = i ∧ x = some y) ∨ (j ≠ i ∧ s.session j = some y) := by
  by_cases hj : j = i
  · subst hj
    exact Or.inl ⟨rfl, by rwa [session_put_self] at h⟩
  · exact Or.inr ⟨hj, by rwa [session_put_of_ne s hj] at h⟩

namespace Isolated

omit [DecidableEq ι] in
lemma not_holds (h : Isolated s) {i j : ι} {x y : Txn ρ σ δ} {k : κ} (hx : s.session i = some x) (hy : s.session j = some y)
    (hj : j ≠ i) (hk : x.holds key k = true) : y.holds key k = false := by
  by_contra hheld
  exact hj (h.writes j i y x k hy hx (by simpa using hheld) hk)

variable {i : ι}

lemma put (h : Isolated s) {x' : Txn ρ σ δ}
    (hrow : ∀ k, x'.holds key k = true → ∃ r ∈ s.table.rows, key r = k)
    (hwrites : ∀ k j y, x'.holds key k = true → j ≠ i → s.session j = some y → y.holds key k = false)
    (hslots : ∀ slot j y, slot ∈ x'.slots → j ≠ i → s.session j = some y → slot ∉ y.slots) : Isolated (s.put i (some x')) where
  writes j k y z key' hy hz hk hk' := by
    rcases session_put_cases hy with ⟨hj, hx⟩ | ⟨hj, hy'⟩ <;> rcases session_put_cases hz with ⟨hk'', hx'⟩ | ⟨hk'', hz'⟩
    · rw [hj, hk'']
    · cases hx
      exact absurd hk' (by simp [hwrites key' k z hk hk'' hz'])
    · cases hx'
      exact absurd hk (by simp [hwrites key' j y hk' hj hy'])
    · exact h.writes j k y z key' hy' hz' hk hk'
  slots j k y z slot hy hz hs hs' := by
    rcases session_put_cases hy with ⟨hj, hx⟩ | ⟨hj, hy'⟩ <;> rcases session_put_cases hz with ⟨hk, hx'⟩ | ⟨hk, hz'⟩
    · rw [hj, hk]
    · cases hx
      exact absurd hs' (hslots slot k z hs hk hz')
    · cases hx'
      exact absurd hs (hslots slot j y hs' hj hy')
    · exact h.slots j k y z slot hy' hz' hs hs'
  grounded j y k hy hk := by
    rcases session_put_cases hy with ⟨rfl, hx⟩ | ⟨-, hy⟩
    · cases hx
      exact hrow k hk
    · exact h.grounded j y k hy hk

lemma drop (h : Isolated s) (i : ι) : Isolated (s.put i none) := by
  have hold : ∀ j y, (s.put i none).session j = some y → s.session j = some y := by
    intro j y hy
    rcases session_put_cases hy with ⟨-, hx⟩ | ⟨-, hy⟩
    · cases hx
    · exact hy
  exact ⟨fun j k y z key' hy hz => h.writes j k y z key' (hold j y hy) (hold k z hz),
    fun j k y z slot hy hz => h.slots j k y z slot (hold j y hy) (hold k z hz),
    fun j y k hy => h.grounded j y k (hold j y hy)⟩

omit [DecidableEq ι] in
lemma table (h : Isolated s) {t : Table key} (ht : ∀ r ∈ s.table.rows, ∃ r' ∈ t.rows, key r' = key r) : Isolated { s with table := t } where
  writes := h.writes
  slots := h.slots
  grounded i x k hx hk := by
    obtain ⟨r, hr, hkey⟩ := h.grounded i x k hx hk
    obtain ⟨r', hr', hkey'⟩ := ht r hr
    exact ⟨r', hr', hkey'.trans hkey⟩

omit [DecidableEq ι] in
lemma modify (h : Isolated s) (f : ρ → ρ) (hf : ∀ r, key (f r) = key r) : Isolated { s with table := s.table.modify f hf } :=
  h.table fun r hr => ⟨f r, (Table.mem_modify hf).mpr ⟨r, hr, rfl⟩, hf r⟩

lemma commit (h : Isolated s) (hs : s.commit i = some s') : Isolated s' := by
  obtain ⟨x, -, hs⟩ := bind_eq_some_iff.mp hs
  cases hs
  exact (h.drop i).modify (x.view key) x.key_view

lemma setData (h : Isolated s) {d : δ} (hs : s.setData i d = some s') : Isolated s' := by
  obtain ⟨x, hx, hs⟩ := bind_eq_some_iff.mp hs
  cases hs
  exact h.put (fun k => h.grounded i x k hx) (fun k j y hk hj hy => h.not_holds hx hy hj hk)
    (fun slot j y hslot hj hy hmem => hj (h.slots j i y x slot hy hx hmem hslot))

lemma start (h : Isolated s) {d : δ} (hs : s.start i d = some s') : Isolated s' := by
  rw [Store.start] at hs
  split_ifs at hs
  cases hs
  refine h.put (fun k hk => ?_) (fun k j y hk => ?_) (fun slot j y hslot => ?_)
  · simp [Txn.holds] at hk
  · simp [Txn.holds] at hk
  · simp at hslot

variable [Fintype ι]

lemma exec (h : Isolated s) {q : Stmt key} (hs : s.exec q = some s') : Isolated s' := by
  obtain ⟨-, rfl⟩ := Store.exec_eq_some.mp hs
  exact h.modify q.row q.key_row

omit [Fintype ι] [DecidableEq ι] in
lemma insert (h : Isolated s) {r : ρ} (hs : s.insert r = some s') : Isolated s' := by
  rw [Store.insert] at hs
  split_ifs at hs
  cases hs
  exact h.table fun r' hr' => ⟨r', mem_cons_of_mem r hr', rfl⟩

lemma execIn (h : Isolated s) {q : Stmt key} {next : Bool → δ} (hs : s.execIn i q next = some s') : Isolated s' := by
  obtain ⟨x, x', hx, rfl, hslots, hfree, hcase⟩ := Store.execIn_eq_some hs
  -- what the session holds now, it held before or nobody else holds
  have hholds : ∀ k, x'.holds key k = true → x.holds key k = true ∨ (k = q.target ∧ ∃ r ∈ s.table.rows, key r = k) := by
    intro k hk
    rcases hcase with ⟨-, hw⟩ | ⟨r, hr, hkey, -, -, hw⟩
    · exact Or.inl (by rwa [Txn.holds, hw] at hk)
    · rw [Txn.holds, hw, any_cons, Bool.or_eq_true] at hk
      rcases hk with hk | hk
      · have hset : key (q.set (x.view key r)) = k := by simpa using hk
        have hkk : key r = k := ((x.key_view r).symm.trans (q.key_set _).symm).trans hset
        exact Or.inr ⟨hkk.symm.trans hkey, r, hr, hkk⟩
      · exact Or.inl hk
  refine h.put (fun k hk => ?_) (fun k j y hk hj hy => ?_) (fun slot j y hslot hj hy hmem => ?_)
  · rcases hholds k hk with hk | ⟨-, hr⟩
    · exact h.grounded i x k hx hk
    · exact hr
  · rcases hholds k hk with hk | ⟨rfl, -⟩
    · exact h.not_holds hx hy hj hk
    · exact hfree j y hj hy
  · exact hj (h.slots j i y x slot hy hx hmem (hslots ▸ hslot))

lemma lock [DecidableEq σ] (h : Isolated s) {slot : σ} {d : δ} (hs : s.lock i slot d = some s') : Isolated s' := by
  obtain ⟨x, hx, hs⟩ := bind_eq_some_iff.mp hs
  split_ifs at hs with hlocked
  cases hs
  have hfree := Store.not_locked_iff.mp hlocked
  refine h.put (fun k => h.grounded i x k hx) (fun k j y hk hj hy => h.not_holds hx hy hj hk)
    (fun slot' j y hslot hj hy hmem => ?_)
  rcases mem_cons.mp hslot with rfl | hslot
  · exact hfree j y (by simpa using hj) hy hmem
  · exact hj (h.slots j i y x slot' hy hx hmem hslot)

end Isolated

namespace Views

variable {P : δ → ρ → ρ → Prop}

lemma put (h : Views P s) {i : ι} {x' : Txn ρ σ δ} (hx' : ∀ r ∈ s.table.rows, P x'.data r (x'.view key r)) :
    Views P (s.put i (some x')) := by
  intro j y hy r hr
  rcases session_put_cases hy with ⟨-, hx⟩ | ⟨-, hy⟩
  · cases hx
    exact hx' r hr
  · exact h j y hy r hr

lemma drop (h : Views P s) (i : ι) : Views P (s.put i none) := by
  intro j y hy r hr
  rcases session_put_cases hy with ⟨-, hx⟩ | ⟨-, hy⟩
  · cases hx
  · exact h j y hy r hr

omit [DecidableEq ι] in
lemma modify (hP : ∀ d r r', key r' = key r → P d r r → P d r' r') (h : Views P s) {f : ρ → ρ} (hf : ∀ r, key (f r) = key r)
    (hheld : ∀ i x r, s.session i = some x → r ∈ s.table.rows → x.holds key (key r) = true → f r = r) :
    Views P { s with table := s.table.modify f hf } := by
  intro i x hx w hw
  obtain ⟨r, hr, rfl⟩ := (Table.mem_modify hf).mp hw
  have hseen := h i x hx r hr
  cases hhold : x.holds key (key r) with
  | true => rwa [hheld i x r hx hr hhold]
  | false =>
    rw [Txn.view_of_not_holds hhold] at hseen
    rw [Txn.view_of_not_holds (by rwa [hf r])]
    exact hP x.data r (f r) (hf r) hseen

lemma commit (hP : ∀ d r r', key r' = key r → P d r r → P d r' r') (h : Views P s) (hiso : Isolated s) {i : ι}
    (hs : s.commit i = some s') : Views P s' := by
  obtain ⟨x, hx, hs⟩ := bind_eq_some_iff.mp hs
  cases hs
  refine Views.modify hP (h.drop i) x.key_view fun j y r hy hr hhold => ?_
  rcases session_put_cases hy with ⟨-, hn⟩ | ⟨hj, hy⟩
  · cases hn
  · exact Txn.view_of_not_holds (hiso.not_holds hy hx hj.symm hhold)

omit [DecidableEq ι] in
lemma insert (h : Views P s) (hiso : Isolated s) {r : ρ} (hnew : ∀ i x, s.session i = some x → P x.data r r)
    (hs : s.insert r = some s') : Views P s' := by
  rw [Store.insert] at hs
  split_ifs at hs with hfresh
  cases hs
  intro i x hx w hw
  rcases mem_cons.mp hw with rfl | hw
  · rw [Txn.view_of_not_holds]
    · exact hnew i x hx
    · by_contra hheld
      obtain ⟨r', hr', hkey⟩ := hiso.grounded i x (key w) hx (by simpa using hheld)
      exact hfresh (hkey ▸ List.mem_map_of_mem hr')
  · exact h i x hx w hw

lemma exec [Fintype ι] (hP : ∀ d r r', key r' = key r → P d r r → P d r' r') (h : Views P s) {q : Stmt key}
    (hs : s.exec q = some s') : Views P s' := by
  obtain ⟨hfree, rfl⟩ := Store.exec_eq_some.mp hs
  refine h.modify hP q.key_row fun i x r hx _ hhold => ?_
  rcases q.row_cases r with hrow | ⟨hkey, -, -⟩
  · exact hrow
  · rw [hkey, hfree i x hx] at hhold
    cases hhold

end Views

end Store

end Bookclerk.Db
