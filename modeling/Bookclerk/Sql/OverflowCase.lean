import Bookclerk.Sql.Overflow

namespace Bookclerk.Sql

open Lexical List

variable {site : IntegerArithSite} {d : OverflowDialect} {sql : Text}

namespace Overflow

inductive Fault where
  | overflow
  | divisionByZero
  deriving DecidableEq

inductive Term where
  | a
  | b
  | lit (n : Int)
  | max
  | min
  | add (x y : Term)
  | sub (x y : Term)
  | mul (x y : Term)
  | div (x y : Term)
  | abs (x : Term)
  | paren (x : Term)

inductive Cond where
  | isNull (x : Term)
  | eq (x y : Term)
  | lt (x y : Term)
  | gt (x y : Term)
  | and (p q : Cond)
  | or (p q : Cond)
  | paren (p : Cond)

structure CaseExpr where
  whens : List (Cond × Option Term)
  otherwise : Term

def i64Max : Int :=
  9223372036854775807

def i64Min : Int :=
  -9223372036854775808

def InI64 (n : Int) : Prop :=
  i64Min ≤ n ∧ n ≤ i64Max

instance (n : Int) : Decidable (InI64 n) :=
  inferInstanceAs (Decidable (_ ∧ _))

def checked (n : Int) : Except Fault (Option Int) :=
  if InI64 n then .ok (some n) else .error .overflow

def quotient (m n : Int) : Except Fault (Option Int) :=
  if n = 0 then .error .divisionByZero else checked (m.tdiv n)

def lift₂ {α : Type} (f : Int → Int → Except Fault (Option α)) (x y : Except Fault (Option Int)) : Except Fault (Option α) :=
  x.bind fun x => y.bind fun y =>
    match x, y with
    | some m, some n => f m n
    | _, _ => .ok none

def Term.eval (a b : Option Int) : Term → Except Fault (Option Int)
  | .a => .ok a
  | .b => .ok b
  | .lit n => .ok (some n)
  | .max => .ok (some i64Max)
  | .min => .ok (some i64Min)
  | .add x y => lift₂ (fun m n => checked (m + n)) (x.eval a b) (y.eval a b)
  | .sub x y => lift₂ (fun m n => checked (m - n)) (x.eval a b) (y.eval a b)
  | .mul x y => lift₂ (fun m n => checked (m * n)) (x.eval a b) (y.eval a b)
  | .div x y => lift₂ quotient (x.eval a b) (y.eval a b)
  | .abs x => lift₂ (fun m _ => checked m.natAbs) (x.eval a b) (x.eval a b)
  | .paren x => x.eval a b

def comparison (holds : Int → Int → Bool) (x y : Except Fault (Option Int)) : Except Fault (Option Bool) :=
  lift₂ (fun m n => .ok (some (holds m n))) x y

/-- The right side is not evaluated once the left one decides. -/
def Cond.eval (a b : Option Int) : Cond → Except Fault (Option Bool)
  | .isNull x => (x.eval a b).map fun v => some v.isNone
  | .eq x y => comparison (fun m n => m = n) (x.eval a b) (y.eval a b)
  | .lt x y => comparison (fun m n => m < n) (x.eval a b) (y.eval a b)
  | .gt x y => comparison (fun m n => m > n) (x.eval a b) (y.eval a b)
  | .and p q => (p.eval a b).bind fun v =>
    match v with
    | some false => .ok (some false)
    | some true => q.eval a b
    | none => (q.eval a b).map fun w => if w = some false then some false else none
  | .or p q => (p.eval a b).bind fun v =>
    match v with
    | some true => .ok (some true)
    | some false => q.eval a b
    | none => (q.eval a b).map fun w => if w = some true then some true else none
  | .paren p => p.eval a b

def evalWhens (a b : Option Int) (otherwise : Term) : List (Cond × Option Term) → Except Fault (Option Int)
  | [] => otherwise.eval a b
  | (p, arm) :: rest => (p.eval a b).bind fun v =>
    if v = some true then arm.elim (.ok none) (Term.eval a b) else evalWhens a b otherwise rest

def CaseExpr.eval (e : CaseExpr) (a b : Option Int) : Except Fault (Option Int) :=
  evalWhens a b e.otherwise e.whens

def Term.render (d : OverflowDialect) : Term → Text
  | .a => utf8 "a"
  | .b => utf8 "b"
  | .lit n => utf8 (toString n)
  | .max => i64MaxSql
  | .min => d.i64MinSql
  | .add x y => x.render d ++ utf8 " + " ++ y.render d
  | .sub x y => x.render d ++ utf8 " - " ++ y.render d
  | .mul x y => x.render d ++ utf8 " * " ++ y.render d
  | .div x y => x.render d ++ utf8 " / " ++ y.render d
  | .abs x => utf8 "abs(" ++ x.render d ++ utf8 ")"
  | .paren x => utf8 "(" ++ x.render d ++ utf8 ")"

def Cond.render (d : OverflowDialect) : Cond → Text
  | .isNull x => x.render d ++ utf8 " IS NULL"
  | .eq x y => x.render d ++ utf8 " = " ++ y.render d
  | .lt x y => x.render d ++ utf8 " < " ++ y.render d
  | .gt x y => x.render d ++ utf8 " > " ++ y.render d
  | .and p q => p.render d ++ utf8 " AND " ++ q.render d
  | .or p q => p.render d ++ utf8 " OR " ++ q.render d
  | .paren p => utf8 "(" ++ p.render d ++ utf8 ")"

def CaseExpr.render (d : OverflowDialect) (e : CaseExpr) : Text :=
  utf8 "CASE" ++
    e.whens.flatMap (fun w => utf8 " WHEN " ++ w.1.render d ++ utf8 " THEN " ++ w.2.elim (utf8 "NULL") (Term.render d)) ++
    utf8 " ELSE " ++ e.otherwise.render d ++ utf8 " END"

def caseOf : IntegerArithKind → CaseExpr
  | .abs => ⟨[(.isNull .a, none), (.eq .a .min, none)], .abs .a⟩
  | .add => ⟨[(.or (.isNull .a) (.isNull .b), some (.add .a .b)),
      (.and (.and (.gt .a (.lit 0)) (.gt .b (.lit 0))) (.gt .a (.sub .max .b)), none),
      (.and (.and (.lt .a (.lit 0)) (.lt .b (.lit 0))) (.lt .a (.sub .min .b)), none)], .add .a .b⟩
  | .sub => ⟨[(.or (.isNull .a) (.isNull .b), some (.sub .a .b)),
      (.and (.lt .b (.lit 0)) (.gt .a (.add .max .b)), none),
      (.and (.gt .b (.lit 0)) (.lt .a (.add .min .b)), none)], .sub .a .b⟩
  | .mul => ⟨[(.or (.isNull .a) (.isNull .b), some (.mul .a .b)),
      (.or (.eq .a (.lit 0)) (.eq .b (.lit 0)), some (.lit 0)),
      (.or (.paren (.and (.eq .a .min) (.eq .b (.lit (-1))))) (.paren (.and (.eq .b .min) (.eq .a (.lit (-1))))), none),
      (.eq .b (.lit (-1)), some (.paren (.sub (.lit 0) .a))),
      (.and (.gt .b (.lit 0)) (.paren (.or (.gt .a (.div .max .b)) (.lt .a (.div .min .b)))), none),
      (.and (.lt .b (.lit 0)) (.paren (.or (.lt .a (.div .max .b)) (.gt .a (.div .min .b)))), none)], .mul .a .b⟩

def exact : IntegerArithKind → Int → Int → Int
  | .add, m, n => m + n
  | .sub, m, n => m - n
  | .mul, m, n => m * n
  | .abs, m, _ => m.natAbs

def fit (u : Int) : Option Int :=
  if InI64 u then some u else none

/-- `NULL` for an operand that is `NULL`, and for a result that does not fit. -/
def bounded (kind : IntegerArithKind) (a b : Option Int) : Option Int :=
  match kind, a, b with
  | .abs, some m, _ => fit (exact .abs m 0)
  | kind, some m, some n => fit (exact kind m n)
  | _, _, _ => none

section Rules

variable {m n u v : Int} {x y : Term} {p q : Cond} {P Q : Prop}

def Yields (m n : Int) (x : Term) (u : Int) : Prop :=
  x.eval (some m) (some n) = .ok (some u)

structure Decides (m n : Int) (p : Cond) (P : Prop) : Prop where
  yes : P → p.eval (some m) (some n) = .ok (some true)
  no : ¬ P → p.eval (some m) (some n) = .ok (some false)

lemma yields_lift₂ {f : Int → Int → Except Fault (Option Int)} {z : Term} {w : Int}
    (hz : z.eval (some m) (some n) = lift₂ f (x.eval (some m) (some n)) (y.eval (some m) (some n)))
    (hx : Yields m n x u) (hy : Yields m n y v) (hf : f u v = .ok (some w)) : Yields m n z w := by
  rw [Yields, hz, hx, hy]
  exact hf

lemma checked_of (h : InI64 u) : checked u = .ok (some u) :=
  if_pos h

section

variable (hx : Yields m n x u) (hy : Yields m n y v)
include hx hy

lemma Yields.add (h : InI64 (u + v)) : Yields m n (.add x y) (u + v) :=
  yields_lift₂ rfl hx hy (checked_of h)

lemma Yields.sub (h : InI64 (u - v)) : Yields m n (.sub x y) (u - v) :=
  yields_lift₂ rfl hx hy (checked_of h)

lemma Yields.mul (h : InI64 (u * v)) : Yields m n (.mul x y) (u * v) :=
  yields_lift₂ rfl hx hy (checked_of h)

lemma Yields.div (hv : v ≠ 0) (h : InI64 (u.tdiv v)) : Yields m n (.div x y) (u.tdiv v) := by
  refine yields_lift₂ rfl hx hy ?_
  rw [quotient, if_neg hv, checked_of h]

end

lemma decides_comparison {holds : Int → Int → Bool} (hp : p.eval (some m) (some n) =
      comparison holds (x.eval (some m) (some n)) (y.eval (some m) (some n)))
    (hx : Yields m n x u) (hy : Yields m n y v) (hP : holds u v = true ↔ P) : Decides m n p P := by
  have heval : p.eval (some m) (some n) = .ok (some (holds u v)) := by
    rw [hp, hx, hy]
    rfl
  refine ⟨fun h => ?_, fun h => ?_⟩
  · rw [heval, hP.mpr h]
  · rw [heval, Bool.eq_false_iff.mpr (mt hP.mp h)]

section

variable (hx : Yields m n x u) (hy : Yields m n y v)
include hx hy

lemma Yields.eq : Decides m n (.eq x y) (u = v) :=
  decides_comparison rfl hx hy decide_eq_true_iff

lemma Yields.lt : Decides m n (.lt x y) (u < v) :=
  decides_comparison rfl hx hy decide_eq_true_iff

lemma Yields.gt : Decides m n (.gt x y) (v < u) :=
  decides_comparison rfl hx hy decide_eq_true_iff

end

lemma Decides.and (hp : Decides m n p P) (hq : P → Decides m n q Q) : Decides m n (.and p q) (P ∧ Q) := by
  by_cases hP : P
  · have heval : (Cond.and p q).eval (some m) (some n) = q.eval (some m) (some n) := by
      rw [Cond.eval, hp.yes hP]
      rfl
    exact ⟨fun h => heval.trans ((hq hP).yes h.2), fun h => heval.trans ((hq hP).no fun hQ => h ⟨hP, hQ⟩)⟩
  · refine ⟨fun h => absurd h.1 hP, fun _ => ?_⟩
    rw [Cond.eval, hp.no hP]
    rfl

lemma Decides.or (hp : Decides m n p P) (hq : ¬ P → Decides m n q Q) : Decides m n (.or p q) (P ∨ Q) := by
  by_cases hP : P
  · refine ⟨fun _ => ?_, fun h => absurd (Or.inl hP) h⟩
    rw [Cond.eval, hp.yes hP]
    rfl
  · have heval : (Cond.or p q).eval (some m) (some n) = q.eval (some m) (some n) := by
      rw [Cond.eval, hp.no hP]
      rfl
    exact ⟨fun h => heval.trans ((hq hP).yes (h.resolve_left hP)), fun h => heval.trans ((hq hP).no fun hQ => h (Or.inr hQ))⟩

lemma Decides.paren (hp : Decides m n p P) : Decides m n (.paren p) P :=
  ⟨hp.yes, hp.no⟩

variable {rest : List (Cond × Option Term)}

lemma evalWhens_cons {arm : Option Term} {otherwise : Term} {r : Except Fault (Option Int)}
    (hp : Decides m n p P) (htake : P → arm.elim (.ok none) (Term.eval (some m) (some n)) = r)
    (hskip : ¬ P → evalWhens (some m) (some n) otherwise rest = r) : evalWhens (some m) (some n) otherwise ((p, arm) :: rest) = r := by
  rw [evalWhens]
  by_cases hP : P
  · rw [hp.yes hP]
    exact htake hP
  · rw [hp.no hP]
    exact hskip hP

lemma evalWhens_notNull {arm : Option Term} {otherwise : Term} :
    evalWhens (some m) (some n) otherwise ((.or (.isNull .a) (.isNull .b), arm) :: rest) = evalWhens (some m) (some n) otherwise rest :=
  rfl

end Rules

section Kinds

variable {m n u : Int} {p : Cond} {P : Prop} {rest : List (Cond × Option Term)} {otherwise : Term}

lemma evalWhens_null (hp : Decides m n p P) (hover : P → ¬ InI64 u)
    (hskip : ¬ P → evalWhens (some m) (some n) otherwise rest = .ok (fit u)) :
    evalWhens (some m) (some n) otherwise ((p, none) :: rest) = .ok (fit u) := by
  refine evalWhens_cons hp (fun hP => ?_) hskip
  rw [fit, if_neg (hover hP)]
  rfl

lemma evalWhens_else (h : InI64 u) (hx : Yields m n otherwise u) : evalWhens (some m) (some n) otherwise [] = .ok (fit u) := by
  rw [fit, if_pos h]
  exact hx

variable (m n)

lemma yields_a : Yields m n .a m := rfl
lemma yields_b : Yields m n .b n := rfl
lemma yields_max : Yields m n .max 9223372036854775807 := rfl
lemma yields_min : Yields m n .min (-9223372036854775808) := rfl
lemma yields_lit (k : Int) : Yields m n (.lit k) k := rfl

variable {m n}

lemma inI64_iff : InI64 u ↔ -9223372036854775808 ≤ u ∧ u ≤ 9223372036854775807 :=
  Iff.rfl

lemma eval_guarded {arm : Option Term} {q : Cond} {Q : Prop} (hp : Decides m n p P) (hq : Decides m n q Q)
    (hx : InI64 u → Yields m n otherwise u) (hP : P → ¬ InI64 u) (hQ : Q → ¬ InI64 u) (hin : ¬ P → ¬ Q → InI64 u) :
    CaseExpr.eval ⟨[(.or (.isNull .a) (.isNull .b), arm), (p, none), (q, none)], otherwise⟩ (some m) (some n) = .ok (fit u) :=
  evalWhens_notNull.trans (evalWhens_null hp hP fun hp => evalWhens_null hq hQ fun hq =>
    evalWhens_else (hin hp hq) (hx (hin hp hq)))

lemma eval_add (hm : InI64 m) (hn : InI64 n) : (caseOf .add).eval (some m) (some n) = .ok (fit (m + n)) := by
  have ha := yields_a m n
  have hb := yields_b m n
  have hzero := yields_lit m n 0
  rw [inI64_iff] at hm hn
  refine eval_guarded (((ha.gt hzero).and fun _ => hb.gt hzero).and fun _ => ha.gt ((yields_max m n).sub hb ?_))
    (((ha.lt hzero).and fun _ => hb.lt hzero).and fun _ => ha.lt ((yields_min m n).sub hb ?_)) (ha.add hb) ?_ ?_ ?_
  all_goals
    rw [inI64_iff]
    omega

lemma eval_sub (hm : InI64 m) (hn : InI64 n) : (caseOf .sub).eval (some m) (some n) = .ok (fit (m - n)) := by
  have ha := yields_a m n
  have hb := yields_b m n
  have hzero := yields_lit m n 0
  rw [inI64_iff] at hm hn
  refine eval_guarded ((hb.lt hzero).and fun _ => ha.gt ((yields_max m n).add hb ?_))
    ((hb.gt hzero).and fun _ => ha.lt ((yields_min m n).add hb ?_)) (ha.sub hb) ?_ ?_ ?_
  all_goals
    rw [inI64_iff]
    omega

lemma tdiv_lt_iff {c k : Int} (hc : 0 ≤ c) (hk : 0 < k) : c.tdiv k < u ↔ c < u * k := by
  rw [Int.tdiv_eq_ediv_of_nonneg hc, Int.ediv_lt_iff_lt_mul hk]

lemma tdiv_bounds {c k : Int} (hc : 0 ≤ c) (hk : 0 < k) : 0 ≤ c.tdiv k ∧ c.tdiv k ≤ c :=
  ⟨Int.tdiv_nonneg hc hk.le, Int.tdiv_le_self k hc⟩

lemma over_of_pos (hn : 0 < n) : (9223372036854775807 : Int).tdiv n < m ∨ m < (-9223372036854775808 : Int).tdiv n ↔ ¬ InI64 (m * n) := by
  have hmax := tdiv_lt_iff (u := m) (c := 9223372036854775807) (by decide) hn
  have hmin := tdiv_lt_iff (u := -m) (c := 9223372036854775808) (by decide) hn
  rw [Int.neg_mul] at hmin
  rw [Int.neg_tdiv, inI64_iff]
  omega

lemma over_of_neg (hn : n < 0) : m < (9223372036854775807 : Int).tdiv n ∨ (-9223372036854775808 : Int).tdiv n < m ↔ ¬ InI64 (m * n) := by
  have hk : 0 < -n := by omega
  have hmax := tdiv_lt_iff (u := -m) (c := 9223372036854775807) (by decide) hk
  have hmin := tdiv_lt_iff (u := m) (c := 9223372036854775808) (by decide) hk
  rw [Int.tdiv_neg, Int.neg_mul_neg] at hmax
  rw [Int.tdiv_neg, Int.mul_neg] at hmin
  rw [Int.neg_tdiv, inI64_iff]
  omega

lemma yields_max_div (hn : n ≠ 0) : Yields m n (.div .max .b) ((9223372036854775807 : Int).tdiv n) := by
  apply (yields_max m n).div (yields_b m n) hn
  rw [inI64_iff]
  rcases Int.lt_or_gt_of_ne hn with hneg | hpos
  · have hbounds := tdiv_bounds (c := 9223372036854775807) (by decide) (show 0 < -n by omega)
    rw [Int.tdiv_neg] at hbounds
    omega
  · have hbounds := tdiv_bounds (c := 9223372036854775807) (by decide) hpos
    omega

lemma yields_min_div (hn : n ≠ 0) (hone : n ≠ -1) : Yields m n (.div .min .b) ((-9223372036854775808 : Int).tdiv n) := by
  apply (yields_min m n).div (yields_b m n) hn
  rw [inI64_iff, Int.neg_tdiv]
  rcases Int.lt_or_gt_of_ne hn with hneg | hpos
  · have hk : 0 < -n := by omega
    have hbounds := tdiv_bounds (c := 9223372036854775808) (by decide) hk
    have hlt := (tdiv_lt_iff (u := 9223372036854775808) (c := 9223372036854775808) (by decide) hk).mpr (by omega)
    rw [Int.tdiv_neg] at hbounds hlt
    omega
  · have hbounds := tdiv_bounds (c := 9223372036854775808) (by decide) hpos
    omega

lemma eval_mul (hm : InI64 m) (hn : InI64 n) : (caseOf .mul).eval (some m) (some n) = .ok (fit (m * n)) := by
  have ha := yields_a m n
  have hb := yields_b m n
  have hzero := yields_lit m n 0
  have hone := yields_lit m n (-1)
  have hmin := yields_min m n
  rw [inI64_iff] at hm hn
  refine evalWhens_notNull.trans (evalWhens_cons ((ha.eq hzero).or fun _ => hb.eq hzero) (fun hnull => ?_) fun hne => ?_)
  · have hprod : m * n = 0 := Int.mul_eq_zero.mpr hnull
    rw [hprod]
    rfl
  have hn0 : n ≠ 0 := fun h => hne (Or.inr h)
  refine evalWhens_null (((ha.eq hmin).and fun _ => hb.eq hone).paren.or fun _ => ((hb.eq hmin).and fun _ => ha.eq hone).paren) ?_ fun hedge => ?_
  · rintro (⟨rfl, rfl⟩ | ⟨rfl, rfl⟩) <;> decide
  refine evalWhens_cons (hb.eq hone) (fun hminus => ?_) fun hminus => ?_
  · subst hminus
    have hin : InI64 (0 - m) := by
      rw [inI64_iff]
      omega
    rw [show m * -1 = 0 - m by omega, fit, if_pos hin]
    exact hzero.sub ha hin
  refine evalWhens_null ((hb.gt hzero).and fun hpos => ((ha.gt (yields_max_div hn0)).or fun _ => ha.lt (yields_min_div hn0 hminus)).paren)
    (fun h => (over_of_pos h.1).mp h.2) fun hpos => ?_
  refine evalWhens_null ((hb.lt hzero).and fun hneg => ((ha.lt (yields_max_div hn0)).or fun _ => ha.gt (yields_min_div hn0 hminus)).paren)
    (fun h => (over_of_neg h.1).mp h.2) fun hneg => ?_
  have hin : InI64 (m * n) := by
    by_contra hover
    rcases Int.lt_or_gt_of_ne hn0 with h | h
    · exact hneg ⟨h, (over_of_neg h).mpr hover⟩
    · exact hpos ⟨h, (over_of_pos h).mpr hover⟩
  exact evalWhens_else hin (ha.mul hb hin)

lemma eval_abs (b : Option Int) (hm : InI64 m) : (caseOf .abs).eval (some m) b = .ok (fit m.natAbs) := by
  rw [inI64_iff] at hm
  by_cases hmin : m = -9223372036854775808
  · subst hmin
    rfl
  · have hin : InI64 m.natAbs := by
      rw [inI64_iff]
      omega
    have hne : Cond.eval (some m) b (.eq .a .min) = .ok (some false) := by
      change Except.ok (some (decide (m = i64Min))) = _
      rw [decide_eq_false (show ¬ m = i64Min from hmin)]
    have habs : Term.eval (some m) b (.abs .a) = .ok (some (m.natAbs : Int)) := checked_of hin
    simp only [caseOf, CaseExpr.eval, evalWhens, hne, habs, fit, if_pos hin]
    rfl

lemma eval_null (kind : IntegerArithKind) (hkind : kind ≠ .abs) {a b : Option Int} (h : a = none ∨ b = none) :
    (caseOf kind).eval a b = .ok none := by
  cases kind with
  | abs => exact absurd rfl hkind
  | add | sub | mul =>
    rcases h with rfl | rfl
    · rfl
    · cases a <;> rfl

end Kinds

def Operand (a : Option Int) : Prop :=
  ∀ m ∈ a, InI64 m

theorem eval_caseOf {a b : Option Int} (ha : Operand a) (hb : Operand b) (kind : IntegerArithKind) :
    (caseOf kind).eval a b = .ok (bounded kind a b) := by
  cases kind with
  | abs =>
    cases a with
    | none => rfl
    | some m => exact eval_abs b (ha m rfl)
  | add | sub | mul =>
    cases a with
    | none => exact eval_null _ (by decide) (Or.inl rfl)
    | some m =>
      cases b with
      | none => exact eval_null _ (by decide) (Or.inr rfl)
      | some n => first
        | exact eval_add (ha m rfl) (hb n rfl)
        | exact eval_sub (ha m rfl) (hb n rfl)
        | exact eval_mul (ha m rfl) (hb n rfl)

end Overflow

open Overflow

def IntegerArithSite.columns (site : IntegerArithSite) (sql : Text) : Option Text :=
  match site.kind with
  | .abs => (absCallArg (site.full.slice sql)).map fun arg => utf8 "(" ++ arg ++ utf8 ") AS a"
  | _ => some (operandColumns (site.lhs.slice sql) (site.rhs.slice sql))

def wrapped (d : OverflowDialect) (kind : IntegerArithKind) (cols : Text) : Text :=
  utf8 "(SELECT " ++ (caseOf kind).render d ++ utf8 " FROM " ++ d.rowSource cols ++ utf8 ")"

lemma wrapIntegerArith_cases (d : OverflowDialect) (sql : Text) (site : IntegerArithSite) :
    wrapIntegerArith d sql site = .error .siteRange ∨
      wrapIntegerArith d sql site = (site.columns sql).elim (.error .absCall) fun cols => .ok (wrapped d site.kind cols) := by
  unfold wrapIntegerArith
  dsimp only
  split_ifs
  · refine Or.inr ?_
    cases hkind : site.kind with
    | abs =>
      simp only [IntegerArithSite.columns, hkind]
      cases absCallArg (site.full.slice sql) with
      | none => rfl
      | some arg =>
        refine congrArg Except.ok ((append_left_inj _).mpr ((append_left_inj _).mpr ?_))
        cases d <;> decide +kernel
    | add | sub | mul =>
      simp only [IntegerArithSite.columns, hkind]
      refine congrArg Except.ok ((append_left_inj _).mpr ((append_left_inj _).mpr ?_))
      cases d <;> decide +kernel
  · exact Or.inl rfl

lemma wrapIntegerArith_eq {out : Text}
    (h : wrapIntegerArith d sql site = .ok out) : ∃ cols, site.columns sql = some cols ∧ out = wrapped d site.kind cols := by
  rcases wrapIntegerArith_cases d sql site with hrange | hcols
  · rw [hrange] at h
    cases h
  · cases hsome : site.columns sql with
    | none =>
      rw [hcols, hsome] at h
      cases h
    | some cols =>
      rw [hcols, hsome] at h
      exact ⟨cols, rfl, (Except.ok.inj h).symm⟩

theorem overflow_case_exact {d : OverflowDialect} {sql : Text} {site : IntegerArithSite} {out : Text}
    (h : wrapIntegerArith d sql site = .ok out) :
    (∃ cols, site.columns sql = some cols ∧ out = wrapped d site.kind cols) ∧
      ∀ a b, Operand a → Operand b → (caseOf site.kind).eval a b = .ok (bounded site.kind a b) :=
  ⟨wrapIntegerArith_eq h, fun _ _ ha hb => eval_caseOf ha hb site.kind⟩

def sumSite : IntegerArithSite :=
  ⟨⟨0, 3⟩, ⟨0, 1⟩, ⟨2, 3⟩, .add⟩

theorem overflow_case_exact_sum : ∃ out, wrapIntegerArith .postgres (utf8 "1+2") sumSite = .ok out ∧
    (∃ cols, sumSite.columns (utf8 "1+2") = some cols ∧ out = wrapped .postgres .add cols) ∧
      ∀ a b, Operand a → Operand b → (caseOf .add).eval a b = .ok (bounded .add a b) :=
  ⟨_, rfl, @overflow_case_exact .postgres (utf8 "1+2") sumSite _ rfl⟩

end Bookclerk.Sql
