import Bookclerk.Sql.Derivation
import Bookclerk.Sql.Admit

namespace Bookclerk.Sql

open Lexical P LexState

variable {ts us : List Tree} {q' : P Bool} {pr : Production}

section Logic

variable {α β : Type}

def wp (p : P α) (Q : α → List Tree → Scan → Prop) (s : Scan) : Prop :=
  match p s with
  | .error e => e ≠ .outOfFuel
  | .ok (a, ts, s') => Q a ts s'

variable {p : P α} {Q R : α → List Tree → Scan → Prop} {s : Scan}

lemma wp_mono (h : wp p Q s) (hq : ∀ a ts s', Q a ts s' → R a ts s') : wp p R s := by
  unfold wp at *
  split at h
  · exact h
  · exact hq _ _ _ h

lemma wp_pure {a : α} (h : Q a [] s) : wp (pure a : P α) Q s := h

lemma wp_fail (what : String) : wp (P.fail what : P α) Q s := by
  simp [wp, P.fail, P.throw]

lemma wp_throw {e : V1Error} (h : e ≠ .outOfFuel) : wp (P.throw e : P α) Q s := h

lemma wp_bind {f : α → P β} {S : β → List Tree → Scan → Prop}
    (h : wp p (fun a ts s' => wp (f a) (fun b us s'' => S b (ts ++ us) s'') s') s) : wp (p >>= f) S s := by
  have hb : (p >>= f) s = andThen p f s := rfl
  unfold wp at *
  rw [hb, andThen]
  cases hp : p s with
  | error e => simpa [hp] using h
  | ok r =>
    obtain ⟨a, ts, s'⟩ := r
    simp only [hp] at h ⊢
    cases hf : f a s' with
    | error e | ok r' => simpa [hf] using h

lemma wp_look {f : Scan → α} (h : Q (f s) [] s) : wp (look f) Q s := h

lemma wp_skip {Q : Unit → List Tree → Scan → Prop} (h : Q () [] s.skip) : wp P.skip Q s := h

lemma wp_node (h : wp p (fun a ts s' => Q a [.node pr ts] s') s) : wp (P.node pr p) Q s := by
  unfold wp P.node at *
  cases hp : p s with
  | error e | ok r => simpa [hp] using h

end Logic

structure Consumes (s : Scan) (ts : List Tree) (s' : Scan) : Prop where
  text : code.significant s.rest = spelled ts ++ code.significant s'.rest
  length : s'.rest.length ≤ s.rest.length

structure Yields (r : Rx) (s : Scan) (ts : List Tree) (s' : Scan) : Prop extends Consumes s ts s' where
  derives : Derives r ts

lemma Consumes.refl (s : Scan) : Consumes s [] s :=
  ⟨rfl, le_rfl⟩

variable {s s' s'' : Scan}

lemma Consumes.trans (h : Consumes s ts s') (h' : Consumes s' us s'') : Consumes s (ts ++ us) s'' :=
  ⟨by rw [h.text, h'.text, spelled, spelled, spelled, forestText_append, List.append_assoc], h'.length.trans h.length⟩

lemma Consumes.skip (s : Scan) : Consumes s [] s.skip :=
  ⟨by rw [significant_skip]; rfl, length_skip_le s⟩

lemma Consumes.lexeme {s : Scan} {k : LexKind} {n : Nat}
    (h : code.significant s.rest = s.rest.take n ++ code.significant (s.rest.drop n)) :
    Consumes s [.leaf k (s.rest.take n)] (s.advance n) :=
  ⟨by simpa [spelled, forestText, Tree.text, Scan.advance] using h, by simp [Scan.advance]⟩

lemma Yields.of_eps {r : Rx} (h : Yields .eps s ts s') (h' : Yields r s' us s'') : Yields r s (ts ++ us) s'' := by
  obtain ⟨hc, hd⟩ := h
  cases hd
  exact ⟨hc.trans h'.toConsumes, by simpa using h'.derives⟩

lemma Yields.seq {a b : Rx} (h : Yields a s ts s') (h' : Yields b s' us s'') : Yields (.seq a b) s (ts ++ us) s'' :=
  ⟨h.toConsumes.trans h'.toConsumes, .seq h.derives h'.derives⟩

lemma Yields.mono {a b : Rx} {s s' : Scan} (h : Yields a s ts s') (hab : Derives a ts → Derives b ts) : Yields b s ts s' :=
  ⟨h.toConsumes, hab h.derives⟩

section Specs

variable {α β : Type} {m n : Nat}

structure Reads (m : Nat) (r : Rx) (p : P α) : Prop where
  run (s : Scan) (hs : s.rest.length < m) : wp p (fun _ ts s' => Yields r s ts s') s

structure Branches (m : Nat) (yes no : Rx) (p : P Bool) : Prop where
  run (s : Scan) (hs : s.rest.length < m) : wp p (fun b ts s' =>
    (b = true → Yields yes s ts s' ∧ s'.rest.length < s.rest.length) ∧ (b = false → Yields no s ts s')) s

def Tests (m : Nat) (r : Rx) (p : P Bool) : Prop :=
  Branches m r .eps p

structure Closes (m : Nat) (r : Rx) (p : P α) : Prop where
  run (s : Scan) (hs : s.rest.length < m) : wp p (fun _ ts s' => Yields r s ts s' ∧ s'.rest = []) s

variable {r a b yes no : Rx} {p : P α} {q : P Bool}

lemma Reads.le (h : Reads m r p) (hn : n ≤ m) : Reads n r p :=
  ⟨fun s hs => h.run s (hs.trans_le hn)⟩

lemma Reads.zero : Reads 0 r p :=
  ⟨fun _ hs => absurd hs (Nat.not_lt_zero _)⟩

lemma Branches.mono {yes' : Rx} (h : Branches m yes no q) (hy : ∀ ts, Derives yes ts → Derives yes' ts) : Branches m yes' no q :=
  ⟨fun s hs => wp_mono (h.run s hs) fun _ ts _ hq => ⟨fun hx => ⟨(hq.1 hx).1.mono (hy ts), (hq.1 hx).2⟩, hq.2⟩⟩

lemma Reads.mono (h : Reads m a p) (hab : ∀ ts, Derives a ts → Derives b ts) : Reads m b p :=
  ⟨fun s hs => wp_mono (h.run s hs) fun _ ts _ hy => hy.mono (hab ts)⟩

lemma Reads.ret (x : α) : Reads m .eps (pure x : P α) :=
  ⟨fun s _ => wp_pure ⟨Consumes.refl s, .eps⟩⟩

lemma Reads.fail (what : String) : Reads m r (P.fail what : P α) :=
  ⟨fun _ _ => wp_fail what⟩

variable {f : α → P β}

lemma Reads.bind (hp : Reads m a p) (hf : ∀ x, Reads m b (f x)) : Reads m (.seq a b) (p >>= f) := by
  refine ⟨fun s hs => ?_⟩
  refine wp_bind (wp_mono (hp.run s hs) ?_)
  intro x ts s' hy
  exact wp_mono ((hf x).run s' (hy.length.trans_lt hs)) fun _ us s'' hy' => hy.seq hy'

lemma Reads.bind_of_eps (hp : Reads m .eps p) (hf : ∀ x, Reads m b (f x)) : Reads m b (p >>= f) :=
  (hp.bind hf).mono fun _ h => h.eps_seq

lemma Reads.bind_eps (hp : Reads m a p) (hf : ∀ x, Reads m .eps (f x)) : Reads m a (p >>= f) :=
  (hp.bind hf).mono fun _ h => h.seq_eps

lemma Reads.bind_ret (hp : Reads m a p) {f : α → β} : Reads m a (p >>= fun x => (pure (f x) : P β)) :=
  hp.bind_eps fun x => Reads.ret (f x)

lemma Reads.ite {c : Prop} [Decidable c] {p' : P α} (hp : c → Reads m r p) (hp' : ¬ c → Reads m r p') :
    Reads m r (if c then p else p') := by
  split_ifs with hc
  · exact hp hc
  · exact hp' hc

variable {t e : P α}

lemma Reads.peek (hq : Reads m .eps q) (ht : Reads m a t) (he : Reads m b e) :
    Reads m (.alt a b) (q >>= fun x => if x = true then t else e) :=
  hq.bind_of_eps fun _ => Reads.ite (fun _ => ht.mono fun _ => .inl) (fun _ => he.mono fun _ => .inr)

lemma Reads.deny {e : P α} (hq : Reads m .eps q) (what : String) (he : Reads m b e) :
    Reads m b (q >>= fun x => if x = true then P.fail what else e) :=
  hq.bind_of_eps fun _ => Reads.ite (fun _ => .fail what) (fun _ => he)

lemma wp_branch {S : α → List Tree → Scan → Prop} (hq : Branches m yes no q) (hs : s.rest.length < m)
    (ht : ∀ ts s', Yields yes s ts s' → s'.rest.length < s.rest.length → wp t (fun x us s'' => S x (ts ++ us) s'') s')
    (he : ∀ ts s', Yields no s ts s' → wp e (fun x us s'' => S x (ts ++ us) s'') s') :
    wp (q >>= fun x => if x = true then t else e) S s := by
  refine wp_bind (wp_mono (hq.run s hs) ?_)
  intro x ts s' ⟨hy, hn⟩
  cases x with
  | true => exact ht ts s' (hy rfl).1 (hy rfl).2
  | false => exact he ts s' (hn rfl)

lemma Reads.branch (hq : Branches m yes no q) (ht : Reads (m - 1) a t) (he : Reads m b e) :
    Reads m (.alt (.seq yes a) (.seq no b)) (q >>= fun x => if x = true then t else e) := by
  refine ⟨fun s hs => wp_branch hq hs (fun ts s' hy hlt => ?_) fun ts s' hn => ?_⟩
  · exact wp_mono (ht.run s' (by omega)) fun _ us s'' hy' => (hy.seq hy').mono .inl
  · exact wp_mono (he.run s' (hn.length.trans_lt hs)) fun _ us s'' hy' => (hn.seq hy').mono .inr

section

variable (hq : Tests m r q)
include hq

lemma Reads.test (ht : Reads (m - 1) a t) (he : Reads m b e) :
    Reads m (.alt (.seq r a) b) (q >>= fun x => if x = true then t else e) :=
  (Reads.branch hq ht he).mono fun _ h => by
    cases h with
    | inl h => exact .inl h
    | inr h => exact .inr h.eps_seq

lemma Reads.test_eps (ht : Reads (m - 1) .eps t) (he : Reads m b e) :
    Reads m (.alt r b) (q >>= fun x => if x = true then t else e) :=
  (Reads.test hq ht he).mono fun _ h => by
    cases h with
    | inl h => exact .inl h.seq_eps
    | inr h => exact .inr h

lemma Reads.test_fail {e : P α} (what : String) (he : Reads m b e) :
    Reads m b (q >>= fun x => if x = true then P.fail what else e) := by
  refine ⟨fun s hs => wp_branch hq hs (fun _ _ _ _ => wp_fail what) fun ts s' hn => ?_⟩
  exact wp_mono (he.run s' (hn.length.trans_lt hs)) fun _ us s'' hy => hn.of_eps hy

lemma Tests.reads_opt : Reads m (Rx.opt r) q := by
  refine ⟨fun s hs => ?_⟩
  refine wp_mono (hq.run s hs) ?_
  intro x ts s' ⟨hy, hn⟩
  cases x with
  | true => exact (hy rfl).1.mono .inl
  | false => exact (hn rfl).mono .inr

lemma Tests.require (what : String) : Reads m r (require what q) :=
  (Reads.test_eps hq (Reads.ret ()) (Reads.fail (r := r) what)).mono fun _ h => h.alt_self

lemma Tests.require_bind {rest : P β} (what : String) (hr : Reads (m - 1) b rest) :
    Reads m (.seq r b) (Sql.require what q >>= fun _ => rest) := by
  refine ⟨fun s hs => ?_⟩
  refine wp_bind (wp_bind (wp_mono (hq.run s hs) ?_))
  rintro x ts s₁ ⟨hy, -⟩
  cases x with
  | false => exact wp_fail what
  | true =>
    obtain ⟨hy, hlt⟩ := hy rfl
    refine wp_pure (wp_mono (hr.run s₁ (by omega)) ?_)
    intro _ us s₂ hy'
    simpa using hy.seq hy'

end

lemma Reads.node (hp : Reads m (Rx.rule pr) p) : Reads m (.nt pr) (P.node pr p) := by
  refine ⟨fun s hs => ?_⟩
  refine wp_node (wp_mono (hp.run s hs) ?_)
  intro x ts s' hy
  refine ⟨⟨?_, hy.length⟩, .nt hy.derives⟩
  simpa [spelled, forestText, Tree.text] using hy.text

lemma Branches.bind_test {t : Rx} (hp : Reads m r p) (hq : Tests m t q) : Branches m (.seq r t) r (p >>= fun _ => q) := by
  refine ⟨fun s hs => ?_⟩
  refine wp_bind (wp_mono (hp.run s hs) ?_)
  intro x ts s' hy
  refine wp_mono (hq.run s' (hy.length.trans_lt hs)) ?_
  intro x us s'' ⟨ht, hf⟩
  refine ⟨fun h => ?_, fun h => ?_⟩
  · obtain ⟨ht, hlt⟩ := ht h
    exact ⟨hy.seq ht, hlt.trans_le hy.length⟩
  · exact (hy.seq (hf h)).mono fun h => h.seq_eps

lemma Branches.while (hq : Branches m yes no q) (hp : Reads (m - 1) r p) :
    Branches m (.seq yes r) no (q >>= fun x => if x = true then (p >>= fun _ => (pure true : P Bool)) else (pure false : P Bool)) := by
  refine ⟨fun s hs => wp_branch hq hs (fun ts s' hy hlt => ?_) fun ts s' hn => ?_⟩
  · refine wp_bind (wp_mono (hp.run s' (by omega)) ?_)
    intro _ us s'' hy'
    refine wp_pure ⟨fun _ => ?_, by simp⟩
    simpa using And.intro (hy.seq hy') (hy'.length.trans_lt hlt)
  · exact wp_pure ⟨by simp, fun _ => by simpa using hn⟩

lemma wp_loop (hq : Branches m yes no q) (k : Nat) (s : Scan) (hs : s.rest.length < m) (hk : s.rest.length < k) :
    wp (P.loop k q) (fun j ts s' => ∃ i, j = i + 1 ∧ Yields (.seq (yes.times i) no) s ts s') s := by
  induction k generalizing s with
  | zero => omega
  | succ k ih =>
    refine wp_branch hq hs (fun ts s' hy hlt => ?_) fun ts s' hn => ?_
    · refine wp_bind (wp_mono (ih s' (by omega) (by omega)) ?_)
      rintro j us s'' ⟨i, rfl, hy'⟩
      refine wp_pure ⟨i + 1, rfl, ?_⟩
      simpa using (hy.seq hy').mono (b := .seq (yes.times (i + 1)) no) fun h => h.seq_assoc
    · refine wp_pure ⟨0, rfl, ?_⟩
      have he : Yields (.eps : Rx) s [] s := ⟨Consumes.refl s, .eps⟩
      simpa [Rx.times] using he.seq hn

lemma Reads.loop (hq : Branches m yes no q) {k : Nat} (hk : m ≤ k) : Reads m (.seq (.star yes) no) (P.loop k q) := by
  refine ⟨fun s hs => ?_⟩
  refine wp_mono (wp_loop hq k s hs (hs.trans_le hk)) ?_
  rintro j ts s' ⟨i, -, hy⟩
  refine hy.mono ?_
  intro h
  cases h with
  | seq hi hn => exact .seq hi.star_of_times hn

lemma Tests.none : Tests m r (pure false : P Bool) :=
  ⟨fun s _ => wp_pure ⟨by simp, fun _ => ⟨Consumes.refl s, .eps⟩⟩⟩

lemma Tests.of_eps (hq : Tests m r q) (hs : s.rest.length < m) (hy : Yields .eps s ts s') : wp q (fun b us s'' =>
    (b = true → Yields r s (ts ++ us) s'' ∧ s''.rest.length < s.rest.length) ∧ (b = false → Yields .eps s (ts ++ us) s'')) s' := by
  refine wp_mono (hq.run s' (hy.length.trans_lt hs)) ?_
  intro x us s'' ⟨hy', hn'⟩
  refine ⟨fun h => ?_, fun h => hy.of_eps (hn' h)⟩
  obtain ⟨hy', hlt⟩ := hy' h
  exact ⟨hy.of_eps hy', hlt.trans_le hy.length⟩

lemma Tests.alt_inr {t t' : Rx} (hq : Tests m t q) : Tests m (.alt t' t) q :=
  Branches.mono hq fun _ => .inr

lemma Tests.orElse {r' : Rx} (hq : Tests m r q) (hq' : Tests m r' q') :
    Tests m (.alt r r') (q >>= fun x => if x = true then (pure true : P Bool) else q') := by
  refine ⟨fun s hs => wp_branch hq hs (fun ts s' hy hlt => ?_) fun ts s' hn => hq'.alt_inr.of_eps hs hn⟩
  exact wp_pure ⟨fun _ => ⟨by simpa using hy.mono .inl, hlt⟩, by simp⟩

lemma Tests.thenElse {t t' : Rx} (hq : Tests m t q) (hp : Reads (m - 1) r p) (hq' : Tests m t' q') :
    Tests m (.alt (.seq t r) t') (q >>= fun x => if x = true then (p >>= fun _ => (pure true : P Bool)) else q') := by
  refine ⟨fun s hs => wp_branch hq hs (fun ts s' hy hlt => ?_) fun ts s' hn => hq'.alt_inr.of_eps hs hn⟩
  refine wp_bind (wp_mono (hp.run s' (by omega)) ?_)
  intro _ us s'' hy'
  refine wp_pure ⟨fun _ => ⟨?_, hy'.length.trans_lt hlt⟩, by simp⟩
  simpa using (hy.seq hy').mono .inl

lemma Tests.deny {look : P Bool} (hl : Reads m .eps look) (what : String) (hq : Tests m r q) :
    Tests m r (look >>= fun x => if x = true then P.fail what else q) := by
  refine ⟨fun s hs => ?_⟩
  refine wp_bind (wp_mono (hl.run s hs) ?_)
  intro x ts s₁ hy
  cases x with
  | true => exact wp_fail what
  | false => exact hq.of_eps hs hy

end Specs

end Bookclerk.Sql
