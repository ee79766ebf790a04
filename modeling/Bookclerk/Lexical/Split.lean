import Bookclerk.Lexical.Automaton

namespace Bookclerk.Lexical

open List Option Nat

variable {κ : Type}

abbrev Lexer (κ : Type) := Text → Option (κ × Nat)

def splitFrom (lex : Lexer κ) : (skip : Nat) → Text → Option (List (κ × Nat))
  | _, [] => some []
  | k + 1, _ :: rest => splitFrom lex k rest
  | 0, c :: rest =>
    match lex (c :: rest) with
    | none => none
    | some seg => (splitFrom lex (seg.2 - 1) rest).map (seg :: ·)

def split (lex : Lexer κ) (t : Text) : Option (List (κ × Nat)) :=
  splitFrom lex 0 t

def EverySegment (lex : Lexer κ) (p : Text → Prop) : (skip : Nat) → Text → Prop
  | _, [] => True
  | k + 1, _ :: rest => EverySegment lex p k rest
  | 0, c :: rest => p (c :: rest) ∧ ∀ seg ∈ lex (c :: rest), EverySegment lex p (seg.2 - 1) rest

instance decidableEverySegment (lex : Lexer κ) (p : Text → Prop) [DecidablePred p] :
    (k : Nat) → (t : Text) → Decidable (EverySegment lex p k t)
  | _, [] => isTrue trivial
  | k + 1, _ :: rest => decidableEverySegment lex p k rest
  | 0, c :: rest =>
    have := fun k => decidableEverySegment lex p k rest
    match h : lex (c :: rest) with
    | none => decidable_of_iff (p (c :: rest)) (by simp [EverySegment, h])
    | some seg => decidable_of_iff (p (c :: rest) ∧ EverySegment lex p (seg.2 - 1) rest) (by simp [EverySegment, h])

variable {f g : Lexer κ}

lemma splitFrom_isSome (hg : ∀ c t, (g (c :: t)).isSome = true) (k : Nat) (t : Text) : (splitFrom g k t).isSome = true := by
  induction t generalizing k with
  | nil => cases k <;> rfl
  | cons c rest ih =>
    cases k with
    | succ k => exact ih k
    | zero =>
      obtain ⟨seg, hseg⟩ := isSome_iff_exists.mp (hg c rest)
      simpa [splitFrom, hseg] using ih (seg.2 - 1)

lemma EverySegment.and_iff {p q : Text → Prop} (k : Nat) (t : Text) :
    EverySegment g (fun u => p u ∧ q u) k t ↔ EverySegment g p k t ∧ EverySegment g q k t := by
  induction t generalizing k with
  | nil => cases k <;> simp [EverySegment]
  | cons c rest ih =>
    cases k with
    | succ k => exact ih k
    | zero => simp only [EverySegment, ih]; grind

lemma EverySegment.congr {p q : Text → Prop} (h : ∀ c t, p (c :: t) ↔ q (c :: t)) (k : Nat) (t : Text) :
    EverySegment g p k t ↔ EverySegment g q k t := by
  induction t generalizing k with
  | nil => cases k <;> exact Iff.rfl
  | cons c rest ih =>
    cases k with
    | succ k => exact ih k
    | zero => simp only [EverySegment, ih, h]

theorem splitFrom_eq_iff (hg : ∀ c t, (g (c :: t)).isSome = true) (k : Nat) (t : Text) :
    splitFrom f k t = splitFrom g k t ↔ EverySegment g (fun u => f u = g u) k t := by
  induction t generalizing k with
  | nil => cases k <;> simp [splitFrom, EverySegment]
  | cons c rest ih =>
    cases k with
    | succ k => exact ih k
    | zero =>
      obtain ⟨seg, hseg⟩ := isSome_iff_exists.mp (hg c rest)
      obtain ⟨segs, hsegs⟩ := isSome_iff_exists.mp (splitFrom_isSome hg (seg.2 - 1) rest)
      simp only [splitFrom, EverySegment, hseg, mem_some, forall_eq']
      rw [← ih]
      cases hf : f (c :: rest) with
      | none => simp [hsegs]
      | some seg' =>
        simp only [hsegs, some.injEq]
        constructor
        · intro h
          obtain ⟨segs', hs, hcons⟩ := map_eq_some_iff.mp h
          obtain ⟨rfl, rfl⟩ := List.cons.inj hcons
          exact ⟨rfl, hs⟩
        · rintro ⟨rfl, hs⟩
          rw [hs]

def findText (pat : Text) : Text → Option Nat
  | [] => if pat.isEmpty then some 0 else none
  | c :: rest => if pat.isPrefixOf (c :: rest) then some 0 else (findText pat rest).map (· + 1)

lemma findText_cons_of_ne {a c : UInt8} (h : a ≠ c) (pat t : Text) :
    findText (a :: pat) (c :: t) = (findText (a :: pat) t).map (· + 1) := by
  simp [findText, h]

variable {k m n : Nat} {t : Text} {lex : Lexer κ}

def Proper (lex : Lexer κ) : Prop :=
  ∀ t kind n, lex t = some (kind, n) → 0 < n ∧ n ≤ t.length

@[elab_as_elim]
lemma drop_induct {P : Text → Prop} (nil : P [])
    (cons : ∀ c rest, (∀ n, 0 < n → P ((c :: rest).drop n)) → P (c :: rest)) (t : Text) : P t := by
  induction hn : t.length using Nat.strong_induction_on generalizing t with
  | h n ih =>
    subst hn
    cases t with
    | nil => exact nil
    | cons c rest =>
      refine cons c rest fun n hn => ih _ ?_ _ rfl
      rw [length_drop, length_cons]
      omega

lemma skipped_drop {β : Type*} {f : Nat → Text → β} (hnil : ∀ k, f k [] = f 0 []) (hskip : ∀ k c t, f (k + 1) (c :: t) = f k t)
    (k : Nat) (t : Text) : f k t = f 0 (t.drop k) := by
  induction t generalizing k with
  | nil => rw [hnil, drop_nil]
  | cons c t ih =>
    cases k with
    | zero => rfl
    | succ k => rw [hskip, ih, drop_succ_cons]

lemma everySegment_skip {q : Text → Prop} (k : Nat) (t : Text) : EverySegment lex q k t ↔ EverySegment lex q 0 (t.drop k) :=
  Iff.of_eq (skipped_drop (f := EverySegment lex q) (fun k => by cases k <;> rfl) (fun _ _ _ => rfl) k t)

lemma EverySegment.seg (hlex : Proper lex) {q : Text → Prop} {kind : κ}
    (h : EverySegment lex q 0 t) (hseg : lex t = some (kind, n)) : q t ∧ EverySegment lex q 0 (t.drop n) := by
  obtain ⟨hpos, hle⟩ := hlex t kind n hseg
  cases t with
  | nil => exact absurd (hpos.trans_le hle) (by simp)
  | cons c rest =>
    obtain ⟨hq, htail⟩ := h
    rw [drop_cons hpos]
    exact ⟨hq, (everySegment_skip ..).mp (htail _ hseg)⟩

inductive Stop (lex : Lexer κ) : Text → Nat → Prop
  | zero (t : Text) : Stop lex t 0
  | seg {t : Text} {kind : κ} {n m : Nat} (hseg : lex t = some (kind, n)) (hle : n ≤ t.length)
      (htail : Stop lex (t.drop n) m) : Stop lex t (n + m)

namespace Stop

lemma le_length (h : Stop lex t n) : n ≤ t.length := by
  induction h with
  | zero t => exact Nat.zero_le _
  | seg hseg hle htail ih =>
    rw [length_drop] at ih
    omega

lemma one {kind : κ} (hseg : lex t = some (kind, n)) (hle : n ≤ t.length) : Stop lex t n :=
  .seg hseg hle (.zero _)

lemma add (h : Stop lex t n) (hm : Stop lex (t.drop n) m) : Stop lex t (n + m) := by
  induction h with
  | zero t => simpa using hm
  | seg hseg hle htail ih =>
    rw [Nat.add_assoc]
    refine .seg hseg hle (ih ?_)
    rwa [drop_drop]

lemma append {u : Text} (h : Stop lex (t ++ u) t.length) (hm : Stop lex u m) : Stop lex (t ++ u) (t.length + m) :=
  h.add (by rwa [drop_left])

lemma induct {u w : Text} {P : Text → Prop} (h : Stop lex (w ++ u) w.length) (nil : P [])
    (cons : ∀ kind s x, lex (s ++ (x ++ u)) = some (kind, s.length) → Stop lex (x ++ u) x.length → P x → P (s ++ x)) : P w := by
  generalize ht : w ++ u = t at h
  generalize hn : w.length = n at h
  induction h generalizing w with
  | zero t =>
    obtain rfl := length_eq_zero_iff.mp hn
    exact nil
  | @seg t kind n m hseg hle htail ih =>
    have hlen : (w.take n).length = n := by rw [length_take]; omega
    obtain ⟨s, x, rfl, rfl⟩ : ∃ s x, w = s ++ x ∧ n = s.length :=
      ⟨w.take n, w.drop n, (take_append_drop n w).symm, hlen.symm⟩
    subst ht
    have hm : x.length = m := by rw [length_append] at hn; omega
    rw [append_assoc, drop_left] at htail ih
    rw [append_assoc] at hseg
    exact cons kind s x hseg (hm ▸ htail) (ih rfl hm)

lemma sub (hlex : Proper lex) (h : Stop lex t n) (hm : Stop lex t (n + m)) : Stop lex (t.drop n) m := by
  induction h with
  | zero t => simpa using hm
  | @seg t kind n k hseg hle htail ih =>
    have hpos := (hlex _ _ _ hseg).1
    rw [← drop_drop]
    apply ih
    generalize hs : n + k + m = s at hm
    cases hm with
    | zero t => exact absurd hs (by omega)
    | @seg t kind' n' k' hseg' hle' htail' =>
      obtain ⟨rfl, rfl⟩ := Prod.mk.inj (mem_unique hseg hseg')
      rwa [show k' = k + m by omega] at htail'

lemma every (hlex : Proper lex) {q : Text → Prop} (h : Stop lex t n) (hq : EverySegment lex q 0 t) : EverySegment lex q 0 (t.drop n) := by
  induction h with
  | zero t => exact hq
  | seg hseg hle htail ih =>
    rw [← drop_drop]
    exact ih (hq.seg hlex hseg).2

section Swap

variable {q : Text → Prop} {w u u' : Text}

lemma swap (hlex : Proper lex) (hlocal : ∀ c t t', q (c :: t) → q (c :: t')) (h : Stop lex (w ++ u) w.length)
    (hq : EverySegment lex q 0 (w ++ u')) (hu : EverySegment lex q 0 u)
    (hswap : ∀ kind s x, q (s ++ (x ++ u')) → s ++ x <:+ w → lex (s ++ (x ++ u)) = some (kind, s.length) →
      lex (s ++ (x ++ u')) = some (kind, s.length)) : Stop lex (w ++ u') w.length ∧ EverySegment lex q 0 (w ++ u) := by
  revert hq hswap
  apply h.induct
  · intro _ _
    exact ⟨.zero _, hu⟩
  · intro kind s x hseg _ ih hq hswap
    rw [append_assoc] at hq
    obtain ⟨c, r, rfl⟩ : ∃ c r, s = c :: r := by
      cases s with
      | nil => exact absurd (hlex _ _ _ hseg).1 (by simp)
      | cons c r => exact ⟨c, r, rfl⟩
    have hstart : q (c :: r ++ (x ++ u')) := hq.1
    have hseg' := hswap kind (c :: r) x hstart (suffix_refl _) hseg
    have hq' := (hq.seg hlex hseg').2
    rw [drop_left] at hq'
    obtain ⟨hstop, hevery⟩ := ih hq' fun kind s' x' hs hx => hswap kind s' x' hs (hx.trans (suffix_append _ x))
    rw [append_assoc, append_assoc, length_append]
    refine ⟨(Stop.one hseg' (by simp)).append hstop, hlocal _ _ _ hstart, ?_⟩
    intro seg' hmem
    obtain rfl := mem_unique hseg hmem
    apply (everySegment_skip ..).mpr
    simpa using hevery

end Swap

end Stop

def stopsAt (lex : Lexer κ) : (n skip : Nat) → Text → Bool
  | 0, skip, _ => skip == 0
  | _ + 1, _, [] => false
  | n + 1, k + 1, _ :: rest => stopsAt lex n k rest
  | n + 1, 0, c :: rest =>
    match lex (c :: rest) with
    | none => false
    | some seg => stopsAt lex n (seg.2 - 1) rest

lemma stopsAt_skip (h : stopsAt lex n k t = true) : k ≤ n ∧ k ≤ t.length ∧ stopsAt lex (n - k) 0 (t.drop k) = true := by
  induction t generalizing n k with
  | nil =>
    cases n with
    | zero => simpa [stopsAt] using h
    | succ n => simp [stopsAt] at h
  | cons c rest ih =>
    cases n with
    | zero =>
      have hk : k = 0 := by simpa [stopsAt] using h
      subst hk
      exact ⟨le_rfl, Nat.zero_le _, h⟩
    | succ n =>
      cases k with
      | zero => exact ⟨Nat.zero_le _, Nat.zero_le _, h⟩
      | succ k =>
        obtain ⟨h1, h2, h3⟩ := ih h
        exact ⟨succ_le_succ h1, succ_le_succ h2, by rwa [Nat.add_sub_add_right]⟩

lemma stop_of_stopsAt (hlex : Proper lex) (h : stopsAt lex n 0 t = true) : Stop lex t n := by
  induction n using Nat.strong_induction_on generalizing t with
  | h n ih =>
    cases n with
    | zero => exact .zero t
    | succ n =>
      cases t with
      | nil => simp [stopsAt] at h
      | cons c rest =>
        rw [stopsAt] at h
        cases hseg : lex (c :: rest) with
        | none => simp [hseg] at h
        | some seg =>
          rw [hseg] at h
          obtain ⟨hpos, hle⟩ := hlex _ seg.1 seg.2 hseg
          obtain ⟨h1, -, h3⟩ := stopsAt_skip h
          have hsplit : n + 1 = seg.2 + (n - (seg.2 - 1)) := by omega
          rw [hsplit]
          exact .seg hseg hle (ih _ (by omega) (drop_cons hpos ▸ h3))

lemma skipped_add {f : Nat → Text → Nat} (hskip : ∀ k c t, f (k + 1) (c :: t) = f k t + 1)
    (hk : k ≤ t.length) : f k t = k + f 0 (t.drop k) := by
  induction t generalizing k with
  | nil =>
    obtain rfl : k = 0 := le_zero.mp hk
    exact (Nat.zero_add _).symm
  | cons c t ih =>
    cases k with
    | zero => exact (Nat.zero_add _).symm
    | succ k => rw [hskip, ih (le_of_succ_le_succ hk), drop_succ_cons, Nat.add_right_comm]

def byteBefore (prev : Option UInt8) (w : Text) : Option UInt8 :=
  w.getLast?.or prev

@[simp] lemma byteBefore_nil (prev : Option UInt8) : byteBefore prev [] = prev := rfl

lemma byteBefore_cons (prev : Option UInt8) (c : UInt8) (w : Text) : byteBefore prev (c :: w) = byteBefore (some c) w := by
  cases w with
  | nil => rfl
  | cons d w => simp [byteBefore, getLast?_cons]

lemma byteBefore_append (prev : Option UInt8) (w w' : Text) : byteBefore prev (w ++ w') = byteBefore (byteBefore prev w) w' := by
  simp [byteBefore, Option.or_assoc]

lemma skipped_scan {β : Type*} {f : Nat → Option UInt8 → Text → β} (hnil : ∀ k prev prev', f k prev [] = f 0 prev' [])
    (hskip : ∀ k prev c t, f (k + 1) prev (c :: t) = f k (some c) t) (k : Nat) (prev : Option UInt8) (t : Text) :
    f k prev t = f 0 (byteBefore prev (t.take k)) (t.drop k) := by
  induction t generalizing k prev with
  | nil => rw [drop_nil, hnil]
  | cons c t ih =>
    cases k with
    | zero => rfl
    | succ k => rw [hskip, ih, take_succ_cons, drop_succ_cons, byteBefore_cons]

lemma skipped_rest {β : Type*} {f : Nat → Option UInt8 → Text → β} (hnil : ∀ k prev prev', f k prev [] = f 0 prev' [])
    (hskip : ∀ k prev c t, f (k + 1) prev (c :: t) = f k (some c) t) (hn : 0 < n) (prev : Option UInt8) (c : UInt8) (t : Text) :
    f (n - 1) (some c) t = f 0 (byteBefore prev ((c :: t).take n)) ((c :: t).drop n) := by
  rw [← skipped_scan hnil hskip, ← succ_pred_eq_of_pos hn, hskip]
  rfl

def hits (lex : Lexer κ) (p : Option UInt8 → Text → Bool) : (skip : Nat) → (prev : Option UInt8) → Text → Nat
  | _, _, [] => 0
  | k + 1, _, c :: rest => hits lex p k (some c) rest
  | 0, prev, c :: rest =>
    (p prev (c :: rest)).toNat +
      match lex (c :: rest) with
      | none => 0
      | some seg => hits lex p (seg.2 - 1) (some c) rest

section Hits

variable {p : Option UInt8 → Text → Bool}

lemma hits_seg (hlex : Proper lex) {kind : κ} (h : lex t = some (kind, n))
    (prev : Option UInt8) : hits lex p 0 prev t = (p prev t).toNat + hits lex p 0 (byteBefore prev (t.take n)) (t.drop n) := by
  obtain ⟨hpos, hle⟩ := hlex t kind n h
  cases t with
  | nil => simp at hle; omega
  | cons c rest =>
    rw [hits, h, ← skipped_rest (f := hits lex p) (fun k _ _ => by cases k <;> rfl) (fun _ _ _ _ => rfl) hpos]

lemma Stop.hits_le (hlex : Proper lex) (h : Stop lex t n) (prev : Option UInt8) :
    hits lex p 0 (byteBefore prev (t.take n)) (t.drop n) ≤ hits lex p 0 prev t := by
  induction h generalizing prev with
  | zero t => exact le_rfl
  | @seg t kind n m hseg hle htail ih =>
    have hi := ih (byteBefore prev (t.take n))
    rw [hits_seg hlex hseg, take_add, ← drop_drop, byteBefore_append]
    exact hi.trans (Nat.le_add_left ..)

lemma Stop.hits_swap (hlex : Proper lex) {q : Text → Prop} {w u u' : Text} (h : Stop lex (w ++ u) w.length)
    (hq : EverySegment lex q 0 (w ++ u))
    (hswap : ∀ kind s x, q (s ++ (x ++ u)) → s ++ x <:+ w → lex (s ++ (x ++ u)) = some (kind, s.length) →
      lex (s ++ (x ++ u')) = some (kind, s.length))
    (hp : ∀ prev x, x <:+ w → x ≠ [] → p prev (x ++ u') = p prev (x ++ u)) (prev : Option UInt8) :
    hits lex p 0 prev (w ++ u') + hits lex p 0 (byteBefore prev w) u =
      hits lex p 0 prev (w ++ u) + hits lex p 0 (byteBefore prev w) u' := by
  revert hq hswap hp prev
  apply h.induct
  · intro _ _ _ prev
    exact Nat.add_comm ..
  · intro kind s x hseg _ ih hq hswap hp prev
    rw [append_assoc] at hq
    obtain ⟨hstart, hnext⟩ := hq.seg hlex hseg
    rw [drop_left] at hnext
    have hseg' := hswap kind s x hstart (suffix_refl _) hseg
    have hi := ih hnext (fun kind s' x' hs hx => hswap kind s' x' hs (hx.trans (suffix_append s x)))
      (fun prev x' hx => hp prev x' (hx.trans (suffix_append s x))) (byteBefore prev s)
    have hne : s ++ x ≠ [] := by
      have hpos := (hlex _ _ _ hseg).1
      intro he
      rw [(append_eq_nil_iff.mp he).1] at hpos
      exact absurd hpos (by simp)
    have hhit := hp prev _ (suffix_refl _) hne
    rw [append_assoc, append_assoc] at hhit
    rw [append_assoc, append_assoc, hits_seg hlex hseg', hits_seg hlex hseg, take_left, take_left,
      drop_left, drop_left, byteBefore_append, hhit]
    omega

lemma hits_congr {f g : Lexer κ} (h : EverySegment g (fun u => f u = g u) k t)
    (prev : Option UInt8) : hits f p k prev t = hits g p k prev t := by
  induction t generalizing k prev with
  | nil => cases k <;> rfl
  | cons c rest ih =>
    cases k with
    | succ k => exact ih h _
    | zero =>
      obtain ⟨heq, htail⟩ := h
      rw [hits, hits, heq]
      cases hg : g (c :: rest) with
      | none => rfl
      | some seg => simp only [ih (htail seg hg)]

end Hits

structure Lookahead (σ : Type) where
  stops : σ → UInt8 → Bool
  next : σ → UInt8 → Option UInt8 → Option σ

namespace Lookahead

variable {σ : Type} {m : Lookahead σ} {s : σ} {a y y' : Text} {c : UInt8}

def len (m : Lookahead σ) : σ → Text → Nat
  | _, [] => 0
  | s, c :: rest =>
    if m.stops s c then 0
    else
      match m.next s c rest.head? with
      | none => 1
      | some s' => m.len s' rest + 1

lemma len_le (s : σ) (t : Text) : m.len s t ≤ t.length := by
  induction t generalizing s with
  | nil => exact le_rfl
  | cons c t ih =>
    rw [len]
    split_ifs
    · exact Nat.zero_le _
    · split
      · exact succ_le_succ (Nat.zero_le _)
      · exact succ_le_succ (ih _)

lemma len_next {s' : σ} {t : Text} (hs : m.stops s c = false) (hn : m.next s c t.head? = some s') : m.len s (c :: t) = m.len s' t + 1 := by
  rw [len, hs, if_neg Bool.false_ne_true, hn]

lemma len_last {t : Text} (hs : m.stops s c = false) (hn : m.next s c t.head? = none) : m.len s (c :: t) = 1 := by
  rw [len, hs, if_neg Bool.false_ne_true, hn]

lemma len_pos (h : m.stops s c = false) (t : Text) : 0 < m.len s (c :: t) := by
  rw [len, h, if_neg Bool.false_ne_true]
  split
  · exact Nat.one_pos
  · exact succ_pos _

lemma len_append_congr (hend : ∀ s, m.len s y = 0 → m.len s y' = 0)
    (hlast : ∀ s c, m.len s (c :: y) = 1 → m.len s (c :: y') = 1) (h : m.len s (a ++ y) = a.length) : m.len s (a ++ y') = a.length := by
  induction a generalizing s with
  | nil => exact hend s h
  | cons c a ih =>
    cases a with
    | nil => exact hlast s c h
    | cons d a =>
      rw [cons_append, len, cons_append, head?_cons] at h ⊢
      split_ifs at h ⊢
      cases hnext : m.next s c (some d) with
      | none =>
        rw [hnext] at h
        cases h
      | some s' =>
        rw [hnext] at h
        exact congrArg succ (ih (succ.inj h))

lemma len_tail (hy : y.head? = y'.head?) (h : m.len s (a ++ y) = a.length) : m.len s (a ++ y') = a.length := by
  have hend : ∀ s, m.len s y = 0 → m.len s y' = 0 := by
    intro s h
    cases y with
    | nil => rw [head?_eq_none_iff.mp hy.symm, len]
    | cons c y =>
      obtain ⟨z, rfl⟩ := head?_eq_some_iff.mp hy.symm
      cases hstop : m.stops s c with
      | false => exact absurd h (len_pos hstop y).ne'
      | true => rw [len, hstop, if_pos rfl]
  refine len_append_congr hend (fun s c h => ?_) h
  rw [len, hy] at h
  rw [len]
  split_ifs at h ⊢
  cases hnext : m.next s c y'.head? with
  | none => rfl
  | some s' =>
    simp only [hnext] at h
    simp only [hend s' (succ.inj h)]

section

variable (hy : ∀ s, 0 < m.len s y) (hnext : ∀ s c, m.next s c y.head? = none → m.next s c y'.head? = none)
include hy hnext

lemma len_closed
    (h : m.len s (a ++ y) = a.length) : m.len s (a ++ y') = a.length := by
  refine len_append_congr (fun s h => absurd h (hy s).ne') (fun s c h => ?_) h
  rw [len] at h ⊢
  split_ifs at h ⊢
  cases hn : m.next s c y.head? with
  | none => rw [hnext s c hn]
  | some s' =>
    simp only [hn] at h
    exact absurd (succ.inj h) (hy s').ne'

lemma next_closed {r : Text}
    (h : m.len s (c :: r ++ y) = (c :: r).length) : m.next s c (r ++ y').head? = m.next s c (r ++ y).head? := by
  cases r with
  | cons d r => rfl
  | nil =>
    have hnone : m.next s c y.head? = none := by
      rw [cons_append, len] at h
      split_ifs at h
      cases hn : m.next s c y.head? with
      | none => rfl
      | some s' =>
        rw [nil_append, hn] at h
        exact absurd (succ.inj h) (hy s').ne'
    exact (hnext s c hnone).trans hnone.symm

end

lemma len_grows (h : m.len s a = a.length) : a.length ≤ m.len s (a ++ y) := by
  induction a generalizing s with
  | nil => exact Nat.zero_le _
  | cons c a ih =>
    rw [len] at h
    split_ifs at h with hstop
    cases a with
    | nil => exact len_pos (Bool.eq_false_of_not_eq_true hstop) y
    | cons d a =>
      rw [cons_append, len, if_neg hstop, cons_append, head?_cons]
      rw [head?_cons] at h
      cases hnext : m.next s c (some d) with
      | none =>
        rw [hnext] at h
        cases h
      | some s' =>
        rw [hnext] at h
        exact succ_le_succ (ih (succ.inj h))

end Lookahead

variable {chars : List Text}

lemma leadingRun_step {t w : Text} (hw : ∀ w ∈ chars, 0 < w.length) (h : chars.find? (·.isPrefixOf t) = some w) :
    ∃ u, t = w ++ u ∧ 0 < w.length ∧ leadingRun chars 0 t = w.length + leadingRun chars 0 u := by
  have hpos := hw w (List.mem_of_find?_eq_some h)
  have hpre : w.isPrefixOf t = true := by simpa using List.find?_some h
  obtain ⟨u, rfl⟩ := isPrefixOf_iff_prefix.mp hpre
  refine ⟨u, rfl, hpos, ?_⟩
  obtain ⟨c, w, rfl⟩ := exists_cons_of_ne_nil (length_pos_iff.mp hpos)
  rw [cons_append] at h
  have hskip : leadingRun chars w.length (w ++ u) = w.length + leadingRun chars 0 u := by
    rw [skipped_add (f := leadingRun chars) (fun _ _ _ => rfl) (by simp), drop_left]
  rw [cons_append, leadingRun, h]
  simp only [length_cons, Nat.add_sub_cancel]
  omega

section

variable (hw : ∀ w ∈ chars, 0 < w.length)
include hw

lemma leadingRun_eq_zero_iff {t : Text} :
    leadingRun chars 0 t = 0 ↔ t = [] ∨ chars.find? (·.isPrefixOf t) = none := by
  cases t with
  | nil => simp [leadingRun]
  | cons c rest =>
    cases h : chars.find? (·.isPrefixOf (c :: rest)) with
    | none => simp [leadingRun, h]
    | some w =>
      obtain ⟨u, hu, hpos, heq⟩ := leadingRun_step hw h
      exact iff_of_false (by omega) (by simp)

lemma leadingRun_spec (t : Text) : ∃ (ws : List Text) (u : Text), t = ws.flatten ++ u ∧
    leadingRun chars 0 t = ws.flatten.length ∧ (∀ w ∈ ws, w ∈ chars) ∧ leadingRun chars 0 u = 0 := by
  induction t using drop_induct with
  | nil => exact ⟨[], [], rfl, rfl, by simp, rfl⟩
  | cons c rest ih =>
    by_cases hzero : leadingRun chars 0 (c :: rest) = 0
    · exact ⟨[], _, rfl, hzero, by simp, hzero⟩
    cases h : chars.find? (·.isPrefixOf (c :: rest)) with
    | none => exact absurd ((leadingRun_eq_zero_iff hw).mpr (Or.inr h)) hzero
    | some w =>
      obtain ⟨v, ht, hpos, heq⟩ := leadingRun_step hw h
      rw [ht] at ih heq ⊢
      have hv := ih w.length hpos
      rw [drop_left] at hv
      obtain ⟨ws, u, rfl, hlen, hmem, hu⟩ := hv
      refine ⟨w :: ws, u, (append_assoc ..).symm, by rw [heq, hlen, flatten_cons, length_append], ?_, hu⟩
      exact forall_mem_cons.mpr ⟨List.mem_of_find?_eq_some h, hmem⟩

lemma leadingRun_left {t u : Text} (h : leadingRun chars 0 (t ++ u) = 0) : leadingRun chars 0 t = 0 := by
  rw [leadingRun_eq_zero_iff hw] at h ⊢
  rcases h with h | h
  · exact Or.inl (append_eq_nil_iff.mp h).1
  · refine Or.inr (List.find?_eq_none.mpr fun w hmem hpre => List.find?_eq_none.mp h w hmem ?_)
    exact isPrefixOf_iff_prefix.mpr (( isPrefixOf_iff_prefix.mp hpre).trans (prefix_append t u))

end

lemma whitespaceChars_length : ∀ w ∈ whitespaceChars, 0 < w.length := by
  decide

lemma leadingWhitespace_spec (t : Text) : ∃ r u, t = r ++ u ∧ leadingWhitespace t = r.length ∧
    (∀ b ∈ r, b ∈ whitespaceChars.flatten) ∧ leadingWhitespace u = 0 := by
  obtain ⟨ws, u, ht, hlen, hmem, hu⟩ := leadingRun_spec whitespaceChars_length t
  refine ⟨ws.flatten, u, ht, hlen, fun b hb => ?_, hu⟩
  obtain ⟨w, hw, hb⟩ := mem_flatten.mp hb
  exact mem_flatten.mpr ⟨w, hmem w hw, hb⟩

lemma reversed_length : ∀ w ∈ whitespaceChars.map reverse, 0 < w.length := by
  decide

lemma trailingWhitespace_chars (t : Text) : ∃ (u : Text) (ws : List Text), t = u ++ ws.flatten ∧
    trailingWhitespace t = ws.flatten.length ∧ (∀ w ∈ ws, w ∈ whitespaceChars) ∧ trailingWhitespace u = 0 := by
  obtain ⟨ws, u, ht, hlen, hmem, hu⟩ := leadingRun_spec reversed_length t.reverse
  refine ⟨u.reverse, (ws.map reverse).reverse, ?_, ?_, fun w hw => ?_, ?_⟩
  · rw [← reverse_flatten, ← reverse_append, ← ht, reverse_reverse]
  · rw [← reverse_flatten, length_reverse]
    exact hlen
  · obtain ⟨v, hv, rfl⟩ := List.mem_map.mp (mem_reverse.mp hw)
    obtain ⟨w, hw, rfl⟩ := List.mem_map.mp (hmem v hv)
    rwa [reverse_reverse]
  · rw [trailingWhitespace, reverse_reverse]
    exact hu

lemma trailingWhitespace_spec (t : Text) : ∃ u r, t = u ++ r ∧ trailingWhitespace t = r.length ∧
    (∀ b ∈ r, b ∈ whitespaceChars.flatten) ∧ trailingWhitespace u = 0 := by
  obtain ⟨u, ws, ht, hlen, hmem, hu⟩ := trailingWhitespace_chars t
  refine ⟨u, ws.flatten, ht, hlen, fun b hb => ?_, hu⟩
  obtain ⟨w, hw, hb⟩ := mem_flatten.mp hb
  exact mem_flatten.mpr ⟨w, hmem w hw, hb⟩

lemma trailingWhitespace_right {t u : Text} (h : trailingWhitespace (t ++ u) = 0) : trailingWhitespace u = 0 := by
  rw [trailingWhitespace, reverse_append] at h
  exact leadingRun_left reversed_length h

lemma bind_ok {ε α β : Type} {x : Except ε α} {f : α → Except ε β} {b : β} (h : (x >>= f) = .ok b) : ∃ a, x = .ok a ∧ f a = .ok b := by
  cases x with
  | error e => cases h
  | ok a => exact ⟨a, rfl, h⟩

end Bookclerk.Lexical
