import Bookclerk.Sql.LexemeSpec

namespace Bookclerk.Sql

open Lexical P List Nat

variable {w : Kw} {k : Nat} {test : P Bool} {body operand : P Unit} {p : Production}

structure KnotSpec (m : Nat) (knot : Knot) : Prop where
  expr : Reads m (.nt .expr) knot.expr
  select : Reads m (.nt .select) knot.select

lemma KnotSpec.le {m n : Nat} {knot : Knot} (h : KnotSpec m knot) (hn : n ≤ m) : KnotSpec n knot :=
  ⟨h.expr.le hn, h.select.le hn⟩

section Combinators

variable {m fuel : Nat} {r : Rx}

lemma takeAnyKw_tests (w : Kw) (ws : List Kw) : Tests m (Rx.oneOf ((w :: ws).map Rx.kw)) (takeAnyKw (w :: ws)) := by
  induction ws generalizing w with
  | nil => exact (Tests.orElse takeKw_tests (Tests.none)).mono fun _ h => h.alt_self
  | cons v ws ih => exact Tests.orElse takeKw_tests (ih v)

lemma takeAnyPunct_tests (p : Punct) (ps : List Punct) : Tests m (Rx.oneOf ((p :: ps).map Rx.pn)) (takeAnyPunct (p :: ps)) := by
  induction ps generalizing p with
  | nil => exact (Tests.orElse takePunct_tests (Tests.none)).mono fun _ h => h.alt_self
  | cons q ps ih => exact Tests.orElse takePunct_tests (ih q)

lemma commaList_reads {item : P Unit} (hi : Reads m r item) (hf : m ≤ fuel) : Reads m (Rx.commaSep r) (commaList fuel item) :=
  Reads.loop (Branches.bind_test hi takePunct_tests) hf

lemma identList_reads (hf : m ≤ fuel) : Reads m (Rx.commaSep Rx.word) (identList fuel) :=
  commaList_reads parseV1Ident_reads.bind_ret hf

lemma optClause_reads (hb : Reads (m - 1) r body) : Reads m (Rx.opt (.seq (Rx.kw w) r)) (optClause w body) :=
  Reads.test takeKw_tests hb (Reads.ret ())

lemma optKw_reads : Reads m (Rx.opt (Rx.kw w)) (takeKw w) :=
  takeKw_tests.reads_opt

lemma requireKw_reads (what : String) : Reads m (Rx.kw w) (require what (takeKw w)) :=
  takeKw_tests.require what

lemma requirePunct_reads {p : Punct} (what : String) : Reads m (Rx.pn p) (require what (takePunct p)) :=
  takePunct_tests.require what

lemma checkV1Arity_reads (name : Text) (n : Nat) : Reads m .eps (checkV1Arity name n) := by
  refine Reads.ite (fun _ => Reads.ret ()) fun _ => ?_
  exact ⟨fun _ _ => wp_throw (by simp)⟩

lemma whileDo_reads {yes no : Rx} (ht : Branches m yes no test) (hb : Reads (m - 1) r body)
    (hf : m ≤ fuel) : Reads m (.seq (.star (.seq yes r)) no) (whileDo fuel test body) :=
  Reads.loop (Branches.while ht hb) hf

lemma whileDo_reads_eps {yes : Rx} (ht : Tests m yes test) (hb : Reads (m - 1) r body)
    (hf : m ≤ fuel) : Reads m (.star (.seq yes r)) (whileDo fuel test body) :=
  (whileDo_reads ht hb hf).mono fun _ h => h.seq_eps

lemma binaryLevel_reads {op : Punct} {ops : List Punct}
    (hrule : Rx.rule p = .seq r (.star (.seq (Rx.oneOf ((op :: ops).map Rx.pn)) r))) (ho : Reads m r operand)
    (hf : m ≤ fuel) : Reads m (.nt p) (binaryLevel fuel p (op :: ops) operand) :=
  Reads.node (hrule ▸ ho.bind fun _ =>
    (whileDo_reads_eps (takeAnyPunct_tests op ops) (ho.le (sub_le m 1)) hf).bind_ret)

lemma keywordLevel_reads
    (hrule : Rx.rule p = .seq r (.star (.seq (Rx.kw w) r))) (ho : Reads m r operand) (hf : m ≤ fuel) :
    Reads m (.nt p) (keywordLevel fuel p w operand) :=
  Reads.node (hrule ▸ ho.bind fun _ => (whileDo_reads_eps takeKw_tests (ho.le (sub_le m 1)) hf).bind_ret)

end Combinators

lemma takeJoinKw_branches : Branches m Rx.joinKw (Rx.opt (Rx.kw .INNER)) takeJoinKw := by
  refine Branches.bind_test optKw_reads (Tests.thenElse takeKw_tests ?_
    (Tests.thenElse takeKw_tests (requireKw_reads _) (Tests.deny (anyKw_reads _) _ takeKw_tests)))
  exact optKw_reads.bind fun _ => requireKw_reads _

lemma takeUnion_tests : Tests m (.seq (Rx.kw .UNION) (Rx.opt (Rx.kw .ALL))) takeUnion :=
  (Tests.thenElse takeKw_tests optKw_reads (Tests.deny (anyKw_reads _) _ Tests.none)).mono
    fun _ h => h.alt_self

lemma takeDistinct_reads : Reads m (.alt (Rx.kw .DISTINCT) (Rx.opt (Rx.kw .ALL))) takeDistinct :=
  Reads.test_eps takeKw_tests (Reads.deny (peekKw_reads _) _ (Reads.ret ())) optKw_reads.bind_ret

section Inside

variable {m fuel : Nat} {knot : Knot} (hk : KnotSpec m knot)

include hk

lemma subqueryOr_reads {other : P Unit} {r : Rx} (ho : Reads m r other) : Reads m (.alt (.nt .select) r) (subqueryOr knot other) :=
  Reads.peek (anyKw_reads _) hk.select ho

lemma parseV1WhenThen_reads : Reads m (.seq (.nt .expr) (.seq (Rx.kw .THEN) (.nt .expr))) (parseV1WhenThen knot) :=
  hk.expr.bind fun _ => (requireKw_reads _).bind fun _ => hk.expr

lemma parseV1Cast_reads : Reads m (Rx.seqs [Rx.pn .lparen, .nt .expr, Rx.kw .AS, Rx.word, Rx.pn .rparen]) (parseV1Cast knot) := by
  refine (requirePunct_reads _).bind fun _ => hk.expr.bind fun _ => (requireKw_reads _).bind fun _ => ?_
  refine parseV1Ident_reads.bind fun ty => Reads.ite (fun _ => ?_) (fun _ => Reads.fail _)
  exact requirePunct_reads _

lemma parseV1FromItem_reads : Reads m (.nt .fromItem) (parseV1FromItem knot) := by
  refine Reads.node (Reads.test takePunct_tests ?_ ?_)
  · have hb := balancedInner_reads (m := m - 1) "subquery"
      (Closes.of_reads (hk.select.le (by omega)) "subquery trailing tokens")
    exact (hb.bind fun _ => optKw_reads.bind fun _ => parseV1OptionalAlias_reads.bind_ret).mono fun _ h => h.assoc_seq
  · exact parseV1TableName_reads.bind fun _ => Reads.test_fail takePunct_tests _ optAliasAfterAs_reads

lemma parseV1OrderItem_reads : Reads m Rx.orderItem (parseV1OrderItem knot) := by
  refine hk.expr.bind fun _ => optKw_reads.bind fun _ => optKw_reads.bind fun _ => optClause_reads ?_
  exact (takeAnyKw_tests .FIRST [.LAST]).require _

variable (hf : m ≤ fuel)

include hf

lemma parseV1CallArgs_reads (name : Text) : Reads m (.nt .callArgs) (parseV1CallArgs fuel knot name) := by
  refine Reads.node (Reads.test_eps takePunct_tests (checkV1Arity_reads ..)
    (Reads.test takePunct_tests ?_ ?_))
  · exact (requirePunct_reads _).bind_eps fun _ => checkV1Arity_reads ..
  · refine (commaList_reads hk.expr hf).bind fun n => ?_
    exact (requirePunct_reads _).bind_eps fun _ => checkV1Arity_reads _ _

lemma parseV1Case_reads : Reads m (.nt .caseExpr) (parseV1Case fuel knot) := by
  have hk' := hk.le (sub_le m 1)
  have hw := Branches.while (takeKw_tests (w := .WHEN)) (parseV1WhenThen_reads hk')
  have hoperand : Reads m (Rx.opt (.nt .expr)) (parseV1CaseOperand knot) :=
    (Reads.peek (peekKw_reads _) (Reads.ret ()) hk.expr).mono fun _ h => h.alt_swap
  have htail := (optClause_reads (w := .ELSE) hk'.expr).bind fun _ =>
    requireKw_reads (w := .END) "CASE END"
  refine Reads.node (hoperand.bind fun _ => ?_)
  refine ⟨fun s hs => ?_⟩
  refine wp_bind (wp_mono (wp_loop hw fuel s hs (hs.trans_le hf)) ?_)
  rintro runs ts s₁ ⟨i, rfl, hy⟩
  cases i with
  | zero => exact wp_fail _
  | succ i =>
    refine wp_mono (htail.run s₁ (hy.length.trans_lt hs)) ?_
    intro _ us s₂ hy'
    refine ⟨hy.toConsumes.trans hy'.toConsumes, ?_⟩
    cases hy.derives.seq_eps with
    | seq hfirst hmore =>
      have h := hfirst.seq (hmore.star_of_times.seq hy'.derives)
      rwa [← append_assoc] at h

lemma parseV1Join_reads : Reads m (Rx.seqs [.nt .fromItem, Rx.joinCond]) (parseV1Join fuel knot) := by
  have hk' := hk.le (sub_le m 1)
  refine (parseV1FromItem_reads hk).bind fun _ => Reads.test takeKw_tests hk'.expr
    (Reads.test takeKw_tests ?_ (Reads.ret ()))
  exact (requirePunct_reads _).bind fun _ => (identList_reads (by omega)).bind fun _ => requirePunct_reads _

lemma parseV1Joins_reads : Reads m (.nt .joins) (parseV1Joins fuel knot) := by
  refine Reads.node (Reads.bind_ret ?_)
  exact whileDo_reads takeJoinKw_branches (parseV1Join_reads (hk.le (sub_le m 1)) (by omega)) hf

lemma parseV1SelectList_reads : Reads m (.nt .selectList) (parseV1SelectList fuel knot) := by
  refine Reads.node (Reads.bind_ret (commaList_reads (Reads.test_eps takePunct_tests (Reads.ret ()) ?_) hf))
  exact hk.expr.bind fun _ => optAliasAfterAs_reads

lemma parseV1ValuesTuples_reads : Reads m (.nt .valuesTuples) (parseV1ValuesTuples fuel knot) := by
  refine Reads.node (Reads.bind_ret (commaList_reads ?_ hf))
  exact (requirePunct_reads _).bind fun _ => (commaList_reads hk.expr hf).bind fun _ => requirePunct_reads _

end Inside

section Knot

variable {m fuel : Nat} {knot : Knot} (hk : KnotSpec (m - 1) knot) (hf : m ≤ fuel)

include hk hf

lemma parseV1OptCall_reads (name : Text) : Reads m Rx.optCall (parseV1OptCall fuel knot name) := by
  refine Reads.test takePunct_tests ?_ (Reads.ret ())
  refine (parseV1CallArgs_reads hk (by omega) name).bind_eps fun _ => Reads.deny (anyKw_reads _) _ ?_
  exact Reads.deny (peekKw_reads _) _ (Reads.ret ())

lemma parseV1NameOrCall_reads : Reads m Rx.name (parseV1NameOrCall fuel knot) := by
  refine denyQuotedIdent_reads.bind_of_eps fun _ => parseV1Ident_reads.bind fun name => ?_
  refine Reads.test takePunct_tests ?_ (parseV1OptCall_reads hk hf name)
  refine Reads.test_eps takePunct_tests (Reads.ret ()) (parseV1Ident_reads.bind fun _ => ?_)
  exact (parseV1OptCall_reads hk hf name).le (sub_le m 1)

lemma parseV1Atom_reads : Reads m (.nt .atom) (parseV1Atom fuel knot) := by
  refine Reads.node (denyDoubleColon_reads.bind_of_eps fun _ => ?_)
  refine Reads.test_eps (takeAnyKw_tests .NULL [.TRUE, .FALSE]) (Reads.ret ()) ?_
  refine Reads.test takeKw_tests ?_ ?_
  · have hk' := hk.le (sub_le (m - 1) 1)
    exact ((requirePunct_reads _).bind fun _ => balancedInner_reads _ (Closes.of_dropped hk'.select)).mono
      fun _ h => h.seq_mono id fun h => h.assoc_seq
  refine Reads.test takeKw_tests (parseV1Case_reads hk (by omega)) ?_
  refine Reads.test takeKw_tests (parseV1Cast_reads hk) ?_
  refine Reads.test_eps takePunct_tests (Reads.ret ()) ?_
  refine Reads.test takePunct_tests ?_ ?_
  · have hk' := hk.le (sub_le (m - 1) 1)
    exact balancedInner_reads _ (Closes.of_reads (subqueryOr_reads hk' hk'.expr) _)
  refine Reads.test_eps takeV1BlobHex_tests (Reads.ret ()) ?_
  refine Reads.test_eps takeV1Number_tests (Reads.ret ()) ?_
  exact Reads.test_eps takeV1String_tests (Reads.ret ()) (parseV1NameOrCall_reads hk hf)

lemma parseV1Prefix_reads (hm : m ≤ k) : Reads m (.nt .signed) (parseV1Prefix fuel knot k) := by
  induction k generalizing m with
  | zero => exact Reads.zero.le hm
  | succ k ih =>
    refine Reads.node (skip_reads.bind_of_eps fun _ => denyDoubleColon_reads.bind_of_eps fun _ => ?_)
    refine Reads.test (takeAnyPunct_tests .plus [.minus]) ?_ (parseV1Atom_reads hk hf)
    exact ih (hk.le (by omega)) (by omega) (by omega)

lemma parseV1Concat_reads : Reads m (.nt .concat) (parseV1Concat fuel knot) :=
  binaryLevel_reads rfl (binaryLevel_reads rfl
    (binaryLevel_reads rfl (parseV1Prefix_reads hk hf hf) hf) hf) hf

lemma parseV1InList_reads : Reads m (.nt .inList) (parseV1InList fuel knot) := by
  refine Reads.node ((requirePunct_reads _).bind fun _ => balancedInner_reads _ (Closes.of_reads ?_ _))
  exact subqueryOr_reads hk (commaList_reads hk.expr (by omega)).bind_ret

lemma parseV1Between_reads : Reads m Rx.between (parseV1Between fuel knot) :=
  (parseV1Concat_reads hk hf).bind fun _ => (requireKw_reads _).bind fun _ => parseV1Concat_reads hk hf

lemma parseV1Cmp_reads : Reads m (.nt .cmp) (parseV1Cmp fuel knot) := by
  have hconcat := (parseV1Concat_reads hk hf).le (sub_le m 1)
  have hin := (parseV1InList_reads hk hf).le (sub_le m 1)
  have hbetween := (parseV1Between_reads hk hf).le (sub_le m 1)
  refine Reads.node ((parseV1Concat_reads hk hf).bind fun _ => denyDoubleColon_reads.bind_of_eps fun _ => ?_)
  refine Reads.test takeKw_tests (optKw_reads.bind fun _ => requireKw_reads _) ?_
  refine Reads.test takeKw_tests ?_ ?_
  · refine Reads.test takeKw_tests (Reads.deny (peekKw_reads _) _ (hconcat.le (sub_le _ 1))) ?_
    refine Reads.test takeKw_tests (hin.le (sub_le _ 1)) ?_
    exact (Reads.test takeKw_tests (hbetween.le (sub_le _ 1)) (Reads.fail _)).mono fun _ h => h.alt_self
  refine Reads.deny (peekKw_reads _) _ ?_
  refine Reads.test takeKw_tests hconcat ?_
  refine Reads.test takeKw_tests hin ?_
  refine Reads.test takeKw_tests hbetween ?_
  refine Reads.deny (anyKw_reads _) _ ?_
  exact Reads.test (takeAnyPunct_tests ..) hconcat (Reads.ret ())

lemma parseV1Not_reads (hm : m ≤ k) : Reads m (.nt .not) (parseV1Not fuel knot k) := by
  induction k generalizing m with
  | zero => exact Reads.zero.le hm
  | succ k ih =>
    refine Reads.node (Reads.test takeKw_tests ?_ (parseV1Cmp_reads hk hf))
    exact ih (hk.le (by omega)) (by omega) (by omega)

lemma parseV1Expr_reads : Reads m (.nt .expr) (parseV1Expr fuel knot) :=
  Reads.node (denyDoubleColon_reads.bind_of_eps fun _ => keywordLevel_reads rfl
    (keywordLevel_reads rfl (parseV1Not_reads hk hf hf) hf) hf)

lemma parseV1OrderLimit_reads : Reads m (.nt .orderLimit) (parseV1OrderLimit fuel knot) := by
  refine Reads.node (Reads.bind (optClause_reads ?_) fun _ =>
    (optClause_reads hk.expr).bind fun _ => optClause_reads hk.expr)
  exact (requireKw_reads _).bind fun _ => (commaList_reads (parseV1OrderItem_reads hk) (by omega)).bind_ret

lemma parseV1SelectCore_reads : Reads m (.nt .selectCore) (parseV1SelectCore fuel knot) := by
  have hk' := hk.le (sub_le (m - 1) 1)
  refine Reads.node (Tests.require_bind takeKw_tests _ (takeDistinct_reads.bind fun _ =>
    (parseV1SelectList_reads hk (by omega)).bind fun _ => ?_))
  refine Reads.bind (optClause_reads ?_) fun _ => (optClause_reads hk'.expr).bind fun _ =>
    Reads.bind (optClause_reads ?_) fun _ => optClause_reads hk'.expr
  · refine (commaList_reads ?_ (by omega)).bind_ret
    exact (parseV1FromItem_reads hk').bind fun _ => parseV1Joins_reads hk' (by omega)
  · exact (requireKw_reads _).bind fun _ => (commaList_reads hk'.expr (by omega)).bind_ret

lemma parseV1Select_reads : Reads m (.nt .select) (parseV1Select fuel knot) := by
  refine Reads.node (Reads.test takeKw_tests ?_ ?_)
  · exact (parseV1ValuesTuples_reads hk (by omega)).bind fun _ =>
      parseV1OrderLimit_reads (hk.le (sub_le _ 1)) (by omega)
  · refine Reads.bind (Reads.loop ?_ hf) fun _ => parseV1OrderLimit_reads hk hf
    exact Branches.bind_test (parseV1SelectCore_reads hk hf) takeUnion_tests

end Knot

lemma v1Knot_spec (n : Nat) : KnotSpec n (v1Knot n) := by
  induction n with
  | zero => exact ⟨Reads.zero, Reads.zero⟩
  | succ n ih => exact ⟨parseV1Expr_reads ih le_rfl, parseV1Select_reads ih le_rfl⟩

open LexState

section Statements

variable {m fuel : Nat} {knot : Knot} (hk : KnotSpec m knot) (hf : m ≤ fuel)

include hf in
lemma parenIdentList_reads (what : String) : Reads m (Rx.opt Rx.parenWords) (parenIdentList fuel what) := by
  refine Reads.test takePunct_tests ?_ (Reads.ret ())
  exact (identList_reads (by omega)).bind fun _ => requirePunct_reads _

include hk hf

lemma parseV1Cte_reads : Reads m Rx.cte (parseV1Cte fuel knot) := by
  have hbody : Reads (m - 1) (.nt .select) (parseV1CteBody knot) :=
    (Reads.deny (anyKw_reads _) _ (Reads.ret ())).bind_of_eps fun _ => hk.select.le (sub_le m 1)
  exact parseV1Ident_reads.bind fun _ => (parenIdentList_reads hf _).bind fun _ => (requireKw_reads _).bind fun _ =>
    optKw_reads.bind fun _ => optKw_reads.bind fun _ => (requirePunct_reads _).bind fun _ =>
    balancedInner_reads _ (Closes.of_reads hbody _)

lemma parseV1CteList_reads : Reads m (.nt .cteList) (parseV1CteList fuel knot) :=
  Reads.node (optKw_reads.bind fun _ => (commaList_reads (parseV1Cte_reads hk hf) hf).bind_ret)

lemma parseV1Returning_reads : Reads m (.nt .returning) (parseV1Returning fuel knot) := by
  refine Reads.node (Reads.test takeKw_tests (Reads.test_eps takePunct_tests (Reads.ret ()) ?_) (Reads.ret ()))
  have hk' := hk.le (sub_le m 1)
  refine (commaList_reads ?_ (by omega)).bind_ret
  exact hk'.expr.bind fun _ => optClause_reads parseV1Ident_reads.bind_ret

lemma parseV1InsertSource_reads : Reads m (Rx.oneOf [.seq (Rx.kw .VALUES) (.nt .valuesTuples),
    Rx.seqs [Rx.kw .WITH, .nt .cteList, .nt .select], .nt .select]) (parseV1InsertSource fuel knot) := by
  have hk' := hk.le (sub_le m 1)
  refine Reads.test takeKw_tests (parseV1ValuesTuples_reads hk' (by omega)) (Reads.test takeKw_tests ?_ ?_)
  · exact (parseV1CteList_reads hk' (by omega)).bind fun _ => hk'.select
  · exact (Reads.peek (peekKw_reads _) hk.select (Reads.fail _)).mono fun _ h => h.alt_self

lemma parseV1Insert_reads : Reads m (.nt .insert) (parseV1Insert fuel knot) := by
  refine Reads.node ((requireKw_reads _).bind fun _ => Reads.bind (optClause_reads (requireKw_reads _)) fun _ =>
    (requireKw_reads _).bind fun _ => parseV1TableName_reads.bind fun _ => ?_)
  exact (parenIdentList_reads hf _).bind fun _ => (parseV1InsertSource_reads hk hf).bind fun _ =>
    parseV1Returning_reads hk hf

lemma parseV1Update_reads : Reads m (.nt .update) (parseV1Update fuel knot) := by
  have hset : Reads m (Rx.seqs [Rx.word, Rx.pn .eq, .nt .expr]) (parseV1Assignment knot) :=
    parseV1Ident_reads.bind fun _ => (requirePunct_reads _).bind fun _ => hk.expr
  refine Reads.node ((requireKw_reads _).bind fun _ => parseV1TableName_reads.bind fun _ =>
    (requireKw_reads _).bind fun _ => (commaList_reads hset hf).bind fun _ => ?_)
  exact (optClause_reads (hk.expr.le (sub_le m 1))).bind fun _ => parseV1Returning_reads hk hf

lemma parseV1Delete_reads : Reads m (.nt .delete) (parseV1Delete fuel knot) :=
  Reads.node ((requireKw_reads _).bind fun _ => (requireKw_reads _).bind fun _ =>
    parseV1TableName_reads.bind fun _ => (optClause_reads (hk.expr.le (sub_le m 1))).bind fun _ =>
    parseV1Returning_reads hk hf)

lemma parseV1Statement_reads : Reads m (.nt .statement) (parseV1Statement fuel knot) := by
  refine Reads.node (Reads.bind (optClause_reads (parseV1CteList_reads (hk.le (sub_le m 1)) (by omega))) fun _ => ?_)
  refine Reads.peek (anyKw_reads _) hk.select (Reads.peek (peekKw_reads _) (parseV1Insert_reads hk hf)
    (Reads.peek (peekKw_reads _) (parseV1Update_reads hk hf) ?_))
  exact (Reads.peek (peekKw_reads _) (parseV1Delete_reads hk hf) (Reads.fail _)).mono fun _ h => h.alt_self

end Statements

lemma parsePositiveSqlV1_wp (sql : Text) : wp (do
    parseV1Statement (sql.length + 1) (v1Knot (sql.length + 1))
    endOfBody "trailing tokens are not SQL v1" : P Unit)
    (fun _ ts s' => Yields (.nt .statement) (.start sql) ts s' ∧ s'.rest = []) (.start sql) :=
  (Closes.of_reads (parseV1Statement_reads (v1Knot_spec _) le_rfl) _).run (.start sql) (lt_succ_self _)

theorem parsePositiveSqlV1_ne_outOfFuel (sql : Text) : parsePositiveSqlV1 sql ≠ .error .outOfFuel := by
  have h := parsePositiveSqlV1_wp sql
  unfold wp at h
  unfold parsePositiveSqlV1
  split at h
  · rename_i e he
    simp only [he]
    simpa using h
  · rename_i a ts s' he
    simp [he]

theorem parsePositiveSqlV1_derives {sql : Text} {ts : List Tree} (h : parsePositiveSqlV1 sql = .ok ts) :
    Derives (.nt .statement) ts ∧ code.significant sql = spelled ts := by
  have hw := parsePositiveSqlV1_wp sql
  unfold wp at hw
  unfold parsePositiveSqlV1 at h
  split at hw
  · rename_i e he
    simp [he] at h
  · rename_i a us s' he
    obtain rfl : us = ts := by simpa [he] using h
    obtain ⟨hy, hr⟩ := hw
    refine ⟨hy.derives, ?_⟩
    simpa [Scan.start, hr, flush] using hy.text

mutual

lemma Tree.text_length_le (f : Text → Text) : ∀ t : Tree, (t.text fun _ => []).length ≤ (t.text f).length
  | .leaf _ _ => le_rfl
  | .node _ kids => by simpa only [Tree.text] using forestText_length_le f kids
  | .unread _ => by simp [Tree.text]

lemma forestText_length_le (f : Text → Text) :
    ∀ ts : List Tree, (forestText (fun _ => []) ts).length ≤ (forestText f ts).length
  | [] => le_rfl
  | t :: ts => by
    simpa only [forestText, List.length_append] using
      Nat.add_le_add (Tree.text_length_le f t) (forestText_length_le f ts)

end

lemma append_eq_append_iff_of_length_le {a b c d : Text} (h : a.length ≤ c.length) (h' : b.length ≤ d.length) :
    a ++ b = c ++ d ↔ a = c ∧ b = d := by
  refine ⟨fun he => ?_, fun he => by rw [he.1, he.2]⟩
  have hlen := congrArg length he
  rw [length_append, length_append] at hlen
  exact append_inj he (by omega)

mutual

lemma Tree.text_eq_iff (f : Text → Text) : ∀ t : Tree, (t.text fun _ => []) = t.text f ↔ ∀ u ∈ t.unreads, f u = []
  | .leaf _ _ => by simp [Tree.text, Tree.unreads]
  | .node _ kids => by simpa only [Tree.text, Tree.unreads] using forestText_eq_iff f kids
  | .unread t => by simp [Tree.text, Tree.unreads, eq_comm]

lemma forestText_eq_iff (f : Text → Text) :
    ∀ ts : List Tree, forestText (fun _ => []) ts = forestText f ts ↔ ∀ u ∈ forestUnreads ts, f u = []
  | [] => by simp [forestText, forestUnreads]
  | t :: ts => by
    rw [forestText, forestText, append_eq_append_iff_of_length_le (Tree.text_length_le f t) (forestText_length_le f ts),
      Tree.text_eq_iff f t, forestText_eq_iff f ts]
    simp [forestUnreads, or_imp, forall_and]

end

def acceptedWith (sql : Text) (check : List Tree → Bool) : Bool :=
  match parsePositiveSqlV1 sql with
  | .ok ts => check ts
  | .error _ => false

lemma exists_of_acceptedWith (sql : Text) (check : List Tree → Bool) (h : acceptedWith sql check = true) :
    ∃ ts, parsePositiveSqlV1 sql = .ok ts ∧ check ts = true := by
  unfold acceptedWith at h
  split at h
  · exact ⟨_, ‹_›, h⟩
  · simp at h

end Bookclerk.Sql
