import Mathlib.Data.List.Sort
import Mathlib.Data.List.Pairwise

namespace Bookclerk.Db

open List Option

variable {α : Type} {r : α → α → Prop} [DecidableRel r]

lemma orderedInsert_of_forall {a : α} {l : List α} (h : ∀ b ∈ l, r a b) : l.orderedInsert r a = a :: l := by
  cases l with
  | nil => rfl
  | cons b l => exact orderedInsert_cons_of_le r l (h b mem_cons_self)

lemma filter_orderedInsert [IsTrans α r] (p : α → Bool) (a : α) {l : List α} (hl : l.Pairwise r) :
    (l.orderedInsert r a).filter p = if p a then (l.filter p).orderedInsert r a else l.filter p := by
  induction l with
  | nil => cases h : p a <;> simp [h]
  | cons b l ih =>
    obtain ⟨hb, hl⟩ := pairwise_cons.mp hl
    by_cases hab : r a b
    · -- everything from `b` on follows `a`, whatever the filter leaves of it
      have hall : ∀ c ∈ (b :: l).filter p, r a c := by
        intro c hc
        rcases mem_cons.mp (mem_of_mem_filter hc) with rfl | hc
        · exact hab
        · exact IsTrans.trans a b c hab (hb c hc)
      rw [orderedInsert_cons_of_le r l hab, filter_cons, orderedInsert_of_forall hall]
    · rw [orderedInsert_of_not_le r l hab, filter_cons, ih hl]
      cases hpb : p b with
      | true =>
        cases hpa : p a
        · simp [hpb]
        · simp [hpb, orderedInsert_of_not_le r _ hab]
      | false => simp [hpb]

lemma filter_insertionSort [IsTrans α r] [Std.Total r] (p : α → Bool) (l : List α) :
    (l.insertionSort r).filter p = (l.filter p).insertionSort r := by
  induction l with
  | nil => rfl
  | cons a l ih =>
    rw [insertionSort_cons, filter_orderedInsert p a (pairwise_insertionSort r l), ih]
    cases hpa : p a <;> simp [hpa]

lemma find?_insertionSort [IsTrans α r] [Std.Total r] (p : α → Bool) (l : List α) :
    (l.insertionSort r).find? p = ((l.filter p).insertionSort r).head? := by
  rw [← head?_filter, filter_insertionSort]

variable {α κ σ : Type}

/-- `none` when the processing of a row fails, and when the rounds run out. -/
def keysetLoop (page : Option κ → σ → List α) (key : α → κ) (process : σ → α → Option σ) (limit : Nat) :
    Nat → Option κ → σ → Option σ
  | 0, _, _ => none
  | rounds + 1, cursor, s =>
    match (page cursor s).getLast? with
    | none => some s
    | some last => ((page cursor s).foldlM process s).bind fun s' =>
      if (page cursor s).length < limit then some s'
      else keysetLoop page key process limit rounds (some (key last)) s'

variable {process : σ → α → Option σ} {rows : List α}

theorem foldlM_each {I : σ → Prop} {D : α → σ → Prop}
    (hround : ∀ r ∈ rows, ∀ s s', I s → process s r = some s' → I s' ∧ D r s' ∧ ∀ x, D x s → D x s') {s s' : σ} (hs : I s)
    (hpass : rows.foldlM process s = some s') : I s' ∧ (∀ r ∈ rows, D r s') ∧ ∀ x, D x s → D x s' := by
  induction rows generalizing s with
  | nil =>
    cases hpass
    exact ⟨hs, fun r hr => absurd hr not_mem_nil, fun _ h => h⟩
  | cons r rows ih =>
    obtain ⟨t, hfirst, hrest⟩ := bind_eq_some_iff.mp hpass
    obtain ⟨ht, hr, hkept⟩ := hround r mem_cons_self s t hs hfirst
    obtain ⟨hs', hrows, hkept'⟩ := ih (fun x hx => hround x (mem_cons_of_mem r hx)) ht hrest
    refine ⟨hs', fun x hx => ?_, fun x hx => hkept' x (hkept x hx)⟩
    rcases mem_cons.mp hx with rfl | hx
    · exact hkept' x hr
    · exact hrows x hx

theorem exists_foldlM {I : σ → Prop}
    (hround : ∀ r ∈ rows, ∀ s, I s → ∃ s', process s r = some s' ∧ I s') {s : σ} (hs : I s) : ∃ s', rows.foldlM process s = some s' ∧ I s' := by
  induction rows generalizing s with
  | nil => exact ⟨s, rfl, hs⟩
  | cons r rows ih =>
    obtain ⟨t, hfirst, ht⟩ := hround r mem_cons_self s hs
    obtain ⟨s', hrest, hs'⟩ := ih (fun x hx => hround x (mem_cons_of_mem r hx)) ht
    exact ⟨s', by rw [foldlM_cons, hfirst]; exact hrest, hs'⟩

variable (key : α → κ) (lt : κ → κ → Bool)

def afterCursor (cursor : Option κ) (r : α) : Bool :=
  cursor.all fun k => lt k (key r)

variable {key lt} (hirrefl : ∀ k, lt k k = false) (htrans : ∀ a b c, lt a b = true → lt b c = true → lt a c = true)

include hirrefl htrans in
lemma filter_after_append {init rest : List α} {last : α} (h : (init ++ last :: rest).Pairwise fun a b => lt (key a) (key b)) :
    (init ++ last :: rest).filter (afterCursor key lt (some (key last))) = rest := by
  obtain ⟨-, hlast, hinit⟩ := pairwise_append.mp h
  have hbefore : init.filter (afterCursor key lt (some (key last))) = [] := by
    refine filter_eq_nil_iff.mpr fun r hr hafter => ?_
    have hself := htrans _ _ _ (hinit r hr last mem_cons_self) hafter
    simp [hirrefl] at hself
  have hrest : rest.filter (afterCursor key lt (some (key last))) = rest :=
    filter_eq_self.mpr fun r hr => (pairwise_cons.mp hlast).1 r hr
  have hnot : ¬ afterCursor key lt (some (key last)) last = true := by simp [afterCursor, hirrefl]
  rw [filter_append, hbefore, filter_cons_of_neg hnot, hrest, nil_append]

include htrans in
lemma filter_after_filter (cursor : Option κ) {last : α} (h : afterCursor key lt cursor last = true) (rows : List α) :
    (rows.filter (afterCursor key lt cursor)).filter (afterCursor key lt (some (key last))) =
      rows.filter (afterCursor key lt (some (key last))) := by
  rw [List.filter_filter]
  refine filter_congr fun r _ => ?_
  cases hr : afterCursor key lt (some (key last)) r with
  | false => simp
  | true =>
    have : afterCursor key lt cursor r = true := by
      cases cursor with
      | none => rfl
      | some k => exact htrans _ _ _ h hr
    simp [this]

/-- What the loop is run over: a query whose rows are sorted by the key, and a way to process them that
keeps `I` and leaves alone what the query says after the row. -/
structure Pageable (key : α → κ) (lt : κ → κ → Bool) (query : σ → List α) (process : σ → α → Option σ) (I : σ → Prop) : Prop where
  sorted : ∀ s, I s → (query s).Pairwise fun a b => lt (key a) (key b)
  keeps : ∀ s s' r, I s → r ∈ query s → process s r = some s' → I s'
  ahead : ∀ s s' r, I s → r ∈ query s → process s r = some s' →
    (query s').filter (afterCursor key lt (some (key r))) = (query s).filter (afterCursor key lt (some (key r)))

variable {query : σ → List α} {process : σ → α → Option σ} {I : σ → Prop}

include htrans in
lemma Pageable.foldlM (hP : Pageable key lt query process I) {s s' : σ} (hs : I s)
    (hrows : ∀ r ∈ rows, r ∈ query s) (hsorted : rows.Pairwise fun a b => lt (key a) (key b)) (hfold : rows.foldlM process s = some s') :
    I s' ∧ ∀ last, (∀ r ∈ rows, r = last ∨ lt (key r) (key last) = true) →
      (query s').filter (afterCursor key lt (some (key last))) = (query s).filter (afterCursor key lt (some (key last))) := by
  induction rows generalizing s with
  | nil =>
    cases hfold
    exact ⟨hs, fun _ _ => rfl⟩
  | cons r rows ih =>
    rw [foldlM_cons] at hfold
    obtain ⟨t, hprocess, hfold⟩ := bind_eq_some_iff.mp hfold
    have hr := hrows r mem_cons_self
    have hahead := hP.ahead s t r hs hr hprocess
    obtain ⟨hfirst, hsorted⟩ := pairwise_cons.mp hsorted
    have hrest : ∀ x ∈ rows, x ∈ query t := by
      intro x hx
      have hmem : x ∈ (query s).filter (afterCursor key lt (some (key r))) :=
        mem_filter.mpr ⟨hrows x (mem_cons_of_mem r hx), hfirst x hx⟩
      rw [← hahead] at hmem
      exact (mem_filter.mp hmem).1
    obtain ⟨hs', hlater⟩ := ih (hP.keeps s t r hs hr hprocess) hrest hsorted hfold
    refine ⟨hs', fun last hlast => ?_⟩
    rw [hlater last fun x hx => hlast x (mem_cons_of_mem r hx)]
    rcases hlast r mem_cons_self with rfl | hlt
    · exact hahead
    · rw [← filter_after_filter htrans (some (key r)) hlt, hahead, filter_after_filter htrans (some (key r)) hlt]

include hirrefl htrans in
theorem Pageable.keysetLoop_eq (hP : Pageable key lt query process I) {page : Option κ → σ → List α} {limit : Nat} (hlimit : 0 < limit)
    (hpage : ∀ cursor s, page cursor s = ((query s).filter (afterCursor key lt cursor)).take limit) {rounds : Nat} {cursor : Option κ}
    {s : σ} (hs : I s) (hrounds : ((query s).filter (afterCursor key lt cursor)).length < rounds) :
    keysetLoop page key process limit rounds cursor s = ((query s).filter (afterCursor key lt cursor)).foldlM process s := by
  induction rounds generalizing cursor s with
  | zero => omega
  | succ rounds ih =>
    set rows := (query s).filter (afterCursor key lt cursor) with hrows
    have hsorted : rows.Pairwise fun a b => lt (key a) (key b) := (hP.sorted s hs).filter _
    rw [keysetLoop, hpage, ← hrows]
    cases hlast : (rows.take limit).getLast? with
    | none =>
      have hnil : rows = [] := by
        rw [getLast?_eq_none_iff, take_eq_nil_iff] at hlast
        exact hlast.resolve_left (Nat.pos_iff_ne_zero.mp hlimit)
      rw [hnil]
      rfl
    | some last =>
      obtain ⟨init, hinit⟩ := getLast?_eq_some_iff.mp hlast
      have hsplit : rows = init ++ last :: rows.drop limit := by
        conv_lhs => rw [← take_append_drop limit rows, hinit]
        simp
      dsimp only
      conv_rhs => rw [← take_append_drop limit rows, foldlM_append]
      cases hfold : (rows.take limit).foldlM process s with
      | none => rfl
      | some t =>
        simp only [bind_some, bind_eq_bind]
        split_ifs with hshort
        · have hdrop : rows.drop limit = [] := by
            rw [length_take] at hshort
            exact drop_eq_nil_of_le (by omega)
          rw [hdrop]
          rfl
        · -- the page is full: the next rounds read what is left of the rows, unchanged
          have hmem : ∀ r ∈ rows.take limit, r ∈ query s := fun r hr => mem_of_mem_filter (mem_of_mem_take hr)
          obtain ⟨ht, hahead⟩ := hP.foldlM htrans hs hmem (hsorted.sublist (take_sublist _ _)) hfold
          have hbefore : ∀ r ∈ rows.take limit, r = last ∨ lt (key r) (key last) = true := by
            intro r hr
            rw [hsplit] at hsorted
            rw [hinit] at hr
            rcases mem_append.mp hr with hr | hr
            · exact .inr ((pairwise_append.mp hsorted).2.2 r hr last mem_cons_self)
            · exact .inl (mem_singleton.mp hr)
          have hafter : afterCursor key lt cursor last = true :=
            (mem_filter.mp (show last ∈ rows by rw [hsplit]; simp)).2
          have hnext : (query t).filter (afterCursor key lt (some (key last))) = rows.drop limit := by
            rw [hahead last hbefore, ← filter_after_filter htrans cursor hafter, ← hrows]
            conv_lhs => rw [hsplit]
            exact filter_after_append hirrefl htrans (hsplit ▸ hsorted)
          rw [ih ht, hnext]
          rw [hnext, length_drop]
          rw [length_take] at hshort
          omega

end Bookclerk.Db
