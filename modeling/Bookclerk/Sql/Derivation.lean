import Bookclerk.Sql.ScanSpec

namespace Bookclerk.Sql

open Lexical

inductive Rx where
  | eps
  | lex (k : LexKind)
  | nt (p : Production)
  | unread
  | seq (a b : Rx)
  | alt (a b : Rx)
  | star (a : Rx)

namespace Rx

def kw (w : Kw) : Rx :=
  .lex (.keyword w)

def pn (p : Punct) : Rx :=
  .lex (.punct p)

def word : Rx :=
  .lex .word

def opt (r : Rx) : Rx :=
  .alt r .eps

def oneOf : List Rx → Rx
  | [] => .eps
  | [r] => r
  | r :: rs => .alt r (oneOf rs)

def seqs : List Rx → Rx
  | [] => .eps
  | [r] => r
  | r :: rs => .seq r (seqs rs)

def times (r : Rx) : Nat → Rx
  | 0 => .eps
  | n + 1 => .seq r (r.times n)

def commaSep (r : Rx) : Rx :=
  .seq (.star (.seq r (pn .comma))) r

def parenWords : Rx :=
  seqs [pn .lparen, commaSep word, pn .rparen]

def asName : Rx :=
  .alt (seqs [kw .AS, word]) (opt word)

def cte : Rx :=
  seqs [word, opt parenWords, kw .AS, opt (kw .NOT), opt (kw .MATERIALIZED), pn .lparen, .nt .select, pn .rparen]

def joinKw : Rx :=
  seqs [opt (kw .INNER),
    oneOf [seqs [kw .LEFT, opt (kw .OUTER), kw .JOIN], seqs [kw .CROSS, kw .JOIN], kw .JOIN]]

def joinCond : Rx :=
  oneOf [seqs [kw .ON, .nt .expr], seqs [kw .USING, parenWords], .eps]

def orderItem : Rx :=
  seqs [.nt .expr, opt (kw .ASC), opt (kw .DESC), opt (seqs [kw .NULLS, oneOf [kw .FIRST, kw .LAST]])]

def optCall : Rx :=
  opt (.seq (pn .lparen) (.nt .callArgs))

def name : Rx :=
  .seq word (.alt (.seq (pn .dot) (.alt (pn .star) (.seq word optCall))) optCall)

def whenThen : Rx :=
  seqs [kw .WHEN, .nt .expr, kw .THEN, .nt .expr]

def between : Rx :=
  seqs [.nt .concat, kw .AND, .nt .concat]

def cmpOps : List Punct :=
  [.le, .ge, .ltgt, .ne, .eq, .lt, .gt]

def rule : Production → Rx
  | .statement => .seq (opt (.seq (kw .WITH) (.nt .cteList)))
      (oneOf [.nt .select, .nt .insert, .nt .update, .nt .delete])
  | .cteList => .seq (opt (kw .RECURSIVE)) (commaSep cte)
  | .select => .alt (seqs [kw .VALUES, .nt .valuesTuples, .nt .orderLimit])
      (.seq (.seq (.star (seqs [.nt .selectCore, kw .UNION, opt (kw .ALL)])) (.nt .selectCore)) (.nt .orderLimit))
  | .selectCore => seqs [kw .SELECT, .alt (kw .DISTINCT) (opt (kw .ALL)), .nt .selectList,
      opt (.seq (kw .FROM) (commaSep (.seq (.nt .fromItem) (.nt .joins)))), opt (.seq (kw .WHERE) (.nt .expr)),
      opt (seqs [kw .GROUP, kw .BY, commaSep (.nt .expr)]), opt (.seq (kw .HAVING) (.nt .expr))]
  | .selectList => commaSep (.alt (pn .star) (.seq (.nt .expr) asName))
  | .fromItem => .alt (seqs [pn .lparen, .nt .select, pn .rparen, opt (kw .AS), opt word]) (.seq word asName)
  | .joins => .seq (.star (seqs [joinKw, .nt .fromItem, joinCond])) (opt (kw .INNER))
  | .orderLimit => seqs [opt (seqs [kw .ORDER, kw .BY, commaSep orderItem]), opt (.seq (kw .LIMIT) (.nt .expr)),
      opt (.seq (kw .OFFSET) (.nt .expr))]
  | .insert => seqs [kw .INSERT, opt (.seq (kw .OR) (kw .IGNORE)), kw .INTO, word, opt parenWords,
      oneOf [.seq (kw .VALUES) (.nt .valuesTuples), seqs [kw .WITH, .nt .cteList, .nt .select], .nt .select],
      .nt .returning]
  | .valuesTuples => commaSep (seqs [pn .lparen, commaSep (.nt .expr), pn .rparen])
  | .update => seqs [kw .UPDATE, word, kw .SET, commaSep (seqs [word, pn .eq, .nt .expr]),
      opt (.seq (kw .WHERE) (.nt .expr)), .nt .returning]
  | .delete => seqs [kw .DELETE, kw .FROM, word, opt (.seq (kw .WHERE) (.nt .expr)), .nt .returning]
  | .returning => opt (.seq (kw .RETURNING) (.alt (pn .star)
      (commaSep (.seq (.nt .expr) (opt (.seq (kw .AS) word))))))
  | .expr => .nt .or
  | .or => .seq (.nt .and) (.star (.seq (kw .OR) (.nt .and)))
  | .and => .seq (.nt .not) (.star (.seq (kw .AND) (.nt .not)))
  | .not => .alt (.seq (kw .NOT) (.nt .not)) (.nt .cmp)
  | .cmp => .seq (.nt .concat) (oneOf [seqs [kw .IS, opt (kw .NOT), kw .NULL],
      .seq (kw .NOT) (oneOf [.seq (kw .LIKE) (.nt .concat), .seq (kw .IN) (.nt .inList), .seq (kw .BETWEEN) between]),
      .seq (kw .LIKE) (.nt .concat), .seq (kw .IN) (.nt .inList), .seq (kw .BETWEEN) between,
      .seq (oneOf (cmpOps.map pn)) (.nt .concat), .eps])
  | .inList => seqs [pn .lparen, .alt (.nt .select) (commaSep (.nt .expr)), pn .rparen]
  | .concat => .seq (.nt .add) (.star (.seq (pn .concat) (.nt .add)))
  | .add => .seq (.nt .mul) (.star (.seq (oneOf [pn .plus, pn .minus]) (.nt .mul)))
  | .mul => .seq (.nt .signed) (.star (.seq (oneOf [pn .star, pn .slash, pn .percent]) (.nt .signed)))
  | .signed => .alt (.seq (oneOf [pn .plus, pn .minus]) (.nt .signed)) (.nt .atom)
  | .atom => oneOf [oneOf [kw .NULL, kw .TRUE, kw .FALSE],
      seqs [kw .EXISTS, pn .lparen, .nt .select, .unread, pn .rparen], .seq (kw .CASE) (.nt .caseExpr),
      seqs [kw .CAST, pn .lparen, .nt .expr, kw .AS, word, pn .rparen], pn .question,
      seqs [pn .lparen, .alt (.nt .select) (.nt .expr), pn .rparen], .lex .blob, .lex .number, .lex .string, name]
  | .callArgs => oneOf [pn .rparen, seqs [pn .star, pn .rparen], seqs [commaSep (.nt .expr), pn .rparen]]
  | .caseExpr => seqs [opt (.nt .expr), whenThen, .star whenThen, opt (.seq (kw .ELSE) (.nt .expr)), kw .END]

end Rx

def LexKind.Spells : LexKind → Text → Prop
  | .keyword w, t => eqIgnoreAsciiCase t w.text = true
  | .punct p, t => t = p.text
  | .word, t => ∃ c r, t = c :: r ∧ identStart c = true ∧ r.all identCont = true
  | .number, t => t ≠ [] ∧ t.all (fun c => isAsciiDigit c || c == byte '.') = true
  | .string, t => ∃ r, t = byte '\'' :: r
  | .blob, t => ∃ x r, t = x :: byte '\'' :: r ∧ toAsciiLower x = byte 'x'

inductive Derives : Rx → List Tree → Prop where
  | eps : Derives .eps []
  | lex {k : LexKind} {t : Text} : k.Spells t → Derives (.lex k) [.leaf k t]
  | nt {p : Production} {kids : List Tree} : Derives (Rx.rule p) kids → Derives (.nt p) [.node p kids]
  | unread {t : Text} : Derives .unread [.unread t]
  | seq {a b : Rx} {ts us : List Tree} : Derives a ts → Derives b us → Derives (.seq a b) (ts ++ us)
  | inl {a b : Rx} {ts : List Tree} : Derives a ts → Derives (.alt a b) ts
  | inr {a b : Rx} {ts : List Tree} : Derives b ts → Derives (.alt a b) ts
  | nil {a : Rx} : Derives (.star a) []
  | cons {a : Rx} {ts us : List Tree} : Derives a ts → Derives (.star a) us → Derives (.star a) (ts ++ us)

namespace Derives

variable {a b c : Rx} {ts : List Tree}

lemma seq_eps (h : Derives (.seq a .eps) ts) : Derives a ts := by
  cases h with
  | seq ha he =>
    cases he
    simpa using ha

lemma eps_seq (h : Derives (.seq .eps a) ts) : Derives a ts := by
  cases h with
  | seq he ha =>
    cases he
    simpa using ha

lemma alt_self (h : Derives (.alt a a) ts) : Derives a ts := by
  cases h with
  | inl h | inr h => exact h

lemma seq_assoc (h : Derives (.seq a (.seq b c)) ts) : Derives (.seq (.seq a b) c) ts := by
  cases h with
  | seq ha hbc =>
    cases hbc with
    | seq hb hc => simpa using (ha.seq hb).seq hc

lemma assoc_seq (h : Derives (.seq (.seq a b) c) ts) : Derives (.seq a (.seq b c)) ts := by
  cases h with
  | seq hab hc =>
    cases hab with
    | seq ha hb => simpa using ha.seq (hb.seq hc)

lemma seq_mono {a' b' : Rx} (h : Derives (.seq a b) ts) (ha : ∀ {ts}, Derives a ts → Derives a' ts)
    (hb : ∀ {ts}, Derives b ts → Derives b' ts) : Derives (.seq a' b') ts := by
  cases h with
  | seq h h' => exact (ha h).seq (hb h')

lemma alt_swap (h : Derives (.alt a b) ts) : Derives (.alt b a) ts := by
  cases h with
  | inl h => exact .inr h
  | inr h => exact .inl h

lemma star_of_times {n : Nat} (h : Derives (a.times n) ts) : Derives (.star a) ts := by
  induction n generalizing ts with
  | zero =>
    cases h
    exact .nil
  | succ n ih =>
    cases h with
    | seq ha hn => exact .cons ha (ih hn)

end Derives

mutual

/-- The text of a derivation; `f` is applied to what no production looked at. -/
def Tree.text (f : Text → Text) : Tree → Text
  | .leaf _ t => t
  | .node _ kids => forestText f kids
  | .unread t => f t

def forestText (f : Text → Text) : List Tree → Text
  | [] => []
  | t :: ts => t.text f ++ forestText f ts

end

mutual

def Tree.unreads : Tree → List Text
  | .leaf _ _ => []
  | .node _ kids => forestUnreads kids
  | .unread t => [t]

def forestUnreads : List Tree → List Text
  | [] => []
  | t :: ts => t.unreads ++ forestUnreads ts

end

def yield (ts : List Tree) : Text :=
  forestText (fun _ => []) ts

def spelled (ts : List Tree) : Text :=
  forestText LexState.code.significant ts

lemma forestText_append (f : Text → Text) (ts us : List Tree) : forestText f (ts ++ us) = forestText f ts ++ forestText f us := by
  induction ts with
  | nil => rfl
  | cons t ts ih => simp [forestText, ih]

end Bookclerk.Sql
