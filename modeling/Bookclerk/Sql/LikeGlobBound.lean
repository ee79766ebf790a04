import Bookclerk.Sql.LikeGlob

namespace Bookclerk.Sql.Lower

open Lexical List Option

variable {k n stop : Nat} {s : Scan} {kw rest t : Text} {c : UInt8}

section Stops

lemma lowerLex_of_commentLen (h : commentLen c rest = some n) : lowerLex (c :: rest) = some (.comment, n) := by
  simp only [lowerLex, literalOrCommentLex, h]

lemma whitespaceChars_plain : ∀ w ∈ whitespaceChars, w.all plainByte = true ∧ 0 < w.length := by
  decide

lemma skipTriviaIdx_skip (hk : k ≤ t.length) : skipTriviaIdx k t = k + skipTriviaIdx 0 (t.drop k) :=
  skipped_add (fun _ _ _ => rfl) hk

lemma skipBalanced_skip (depth : Nat) (hk : k ≤ t.length) : skipBalanced k depth t = k + skipBalanced 0 depth (t.drop k) :=
  skipped_add (f := fun k t => skipBalanced k depth t) (fun _ _ _ => rfl) hk

lemma skipTriviaIdx_whitespace {w : Text} (h : whitespaceChars.find? (·.isPrefixOf t) = some w) :
    Stop lowerLex t w.length ∧ 0 < w.length ∧ skipTriviaIdx 0 t = w.length + skipTriviaIdx 0 (t.drop w.length) := by
  obtain ⟨hplain, hpos⟩ := whitespaceChars_plain w (List.mem_of_find?_eq_some h)
  have hpre := List.find?_some h
  obtain ⟨u, rfl⟩ := isPrefixOf_iff_prefix.mp hpre
  refine ⟨stop_plain hplain u, hpos, ?_⟩
  obtain ⟨c, w, rfl⟩ := exists_cons_of_ne_nil (length_pos_iff.mp hpos)
  rw [cons_append] at h
  rw [cons_append, skipTriviaIdx, h]
  simp only [length_cons, Nat.add_sub_cancel, drop_succ_cons]
  rw [skipTriviaIdx_skip (by simp)]
  omega

lemma skipTriviaIdx_comment
    (hw : whitespaceChars.find? (·.isPrefixOf (c :: rest)) = none) (h : commentLen c rest = some n) :
    0 < n ∧ n ≤ (c :: rest).length ∧ skipTriviaIdx 0 (c :: rest) = n + skipTriviaIdx 0 ((c :: rest).drop n) := by
  obtain ⟨hpos, hle⟩ := proper_lowerLex _ _ _ (lowerLex_of_commentLen h)
  refine ⟨hpos, hle, ?_⟩
  rw [length_cons] at hle
  rw [skipTriviaIdx, hw, drop_cons hpos]
  simp only [h]
  rw [skipTriviaIdx_skip (by omega)]
  omega

lemma stop_skipTriviaIdx (t : Text) : Stop lowerLex t (skipTriviaIdx 0 t) := by
  induction t using drop_induct with
  | nil => exact .zero []
  | cons c rest ih =>
    cases hw : whitespaceChars.find? (·.isPrefixOf (c :: rest)) with
    | some w =>
      obtain ⟨hstop, hpos, heq⟩ := skipTriviaIdx_whitespace hw
      rw [heq]
      exact hstop.add (ih _ hpos)
    | none =>
      cases hc : commentLen c rest with
      | some n =>
        obtain ⟨hpos, hle, heq⟩ := skipTriviaIdx_comment hw hc
        rw [heq]
        exact .seg (lowerLex_of_commentLen hc) hle (ih _ hpos)
      | none =>
        rw [skipTriviaIdx, hw]
        simp only [hc]
        exact .zero _

lemma stop_code {m : Nat} (h : lowerLex (c :: rest) = some (.code, n)) (hm : Stop lowerLex rest m) : Stop lowerLex (c :: rest) (m + 1) := by
  obtain rfl := stop_one h
  rw [Nat.add_comm]
  exact .seg h (by simp) hm

lemma stop_skipBalanced (depth : Nat) (t : Text) : Stop lowerLex t (skipBalanced 0 depth t) := by
  induction t using drop_induct generalizing depth with
  | nil => exact .zero []
  | cons c rest ih =>
    rw [skipBalanced]
    have hnext (depth : Nat) : Stop lowerLex rest (skipBalanced 0 depth rest) := ih 1 Nat.one_pos depth
    obtain ⟨⟨kind, n⟩, hseg⟩ := isSome_iff_exists.mp (lowerLex_isSome c rest)
    rw [hseg]
    obtain ⟨hpos, hle⟩ := proper_lowerLex _ _ _ hseg
    have hliteral : Stop lowerLex (c :: rest) (skipBalanced (n - 1) depth rest + 1) := by
      obtain ⟨n, rfl⟩ : ∃ m, n = m + 1 := ⟨n - 1, by omega⟩
      change Stop lowerLex (c :: rest) (skipBalanced (n + 1) depth (c :: rest))
      rw [skipBalanced_skip depth hle]
      exact .seg hseg hle (ih _ hpos depth)
    cases kind with
    | code =>
      split_ifs
      · exact stop_code hseg (hnext _)
      · exact stop_code hseg (.zero _)
      · exact stop_code hseg (hnext _)
      · exact stop_code hseg (hnext _)
    | string | ident | comment => exact hliteral

lemma stop_takeWhile {f : UInt8 → Bool} (hf : ∀ c, f c = true → plainByte c = true) (t : Text) :
    Stop lowerLex t (t.takeWhile f).length := by
  have hplain : (t.takeWhile f).all plainByte = true :=
    List.all_eq_true.mpr fun c hc => hf c (List.all_eq_true.mp (all_takeWhile) c hc)
  have h := stop_plain hplain (t.dropWhile f)
  rwa [takeWhile_append_dropWhile] at h

lemma plainByte_of_identCont (c : UInt8) (h : identCont c = true) : plainByte c = true :=
  forall_byte (p := fun c => identCont c = true → plainByte c = true) (by decide +kernel) c h

lemma plainByte_of_digit (c : UInt8) (h : isAsciiDigit c = true) : plainByte c = true :=
  forall_byte (p := fun c => isAsciiDigit c = true → plainByte c = true) (by decide +kernel) c h

lemma stop_head {b : UInt8} (h : t.head? = some b) (hb : plainByte b = true) : Stop lowerLex t 1 := by
  obtain ⟨u, rfl⟩ := head?_eq_some_iff.mp h
  exact .one (lowerLex_plain hb u) (by simp)

lemma stop_identSpanAt (h : identSpanAt t = some n) : Stop lowerLex t n := by
  cases t with
  | nil => simp [identSpanAt] at h
  | cons c rest =>
    rw [identSpanAt] at h
    split_ifs at h with hq hi <;> obtain rfl := some.inj h
    · have hseg : lowerLex (c :: rest) = some (.ident, 1 + Scan.quotedStringLen c 0 rest) := by
        rw [hq]
        rfl
      exact .one hseg (proper_lowerLex _ _ _ hseg).2
    · have hcont : plainByte c = true := plainByte_of_identCont c (by rw [identCont, hi]; rfl)
      exact .seg (lowerLex_plain hcont _) (by simp) (stop_takeWhile plainByte_of_identCont rest)

lemma stop_callEnd {other : Nat} (h : Stop lowerLex t stop) (hother : Stop lowerLex t other) : Stop lowerLex t (callEnd t stop other) := by
  rw [callEnd]
  split_ifs
  · exact (h.add (stop_skipTriviaIdx _)).add (stop_skipBalanced 0 _)
  · exact hother

lemma stop_qualifiedEnd (h : Stop lowerLex t stop) : Stop lowerLex t (qualifiedEnd t stop) := by
  rw [qualifiedEnd]
  dsimp only
  split_ifs with hdot
  · have hj := h.add (stop_skipTriviaIdx _)
    have hk := hj.add ((stop_head hdot (by decide)).add (stop_skipTriviaIdx _))
    rw [drop_drop] at hk
    cases hspan : identSpanAt (t.drop (stop + skipTriviaIdx 0 (t.drop stop) +
        (1 + skipTriviaIdx 0 (t.drop (stop + skipTriviaIdx 0 (t.drop stop) + 1))))) with
    | none => exact h
    | some n =>
      have hn := hk.add (stop_identSpanAt hspan)
      exact stop_callEnd hn hn
  · exact h

lemma stop_digits (t : Text) : Stop lowerLex t (digitsLen t) :=
  stop_takeWhile plainByte_of_digit t

lemma stop_numberLen (h : lowerLex (c :: rest) = some (.code, n)) : Stop lowerLex (c :: rest) (numberLen (c :: rest)) := by
  have hsign : Stop lowerLex (c :: rest) (signLen (c :: rest)) := by
    rw [signLen]
    split_ifs
    · exact stop_code h (.zero _)
    · exact .zero _
  have hint := hsign.add (stop_digits _)
  rw [numberLen]
  split_ifs with hdot
  · refine hint.add ((stop_head hdot (by decide)).add ?_)
    rw [drop_drop]
    exact stop_digits _
  · exact hint

lemma identCont_toAsciiLower (c : UInt8) : identCont (toAsciiLower c) = identCont c :=
  forall_byte (p := fun c => identCont (toAsciiLower c) = identCont c) (by decide +kernel) c

lemma all_of_eqIgnoreAsciiCase {f : UInt8 → Bool} (hf : ∀ c, f (toAsciiLower c) = f c) {a b : Text}
    (h : eqIgnoreAsciiCase a b = true) : a.all f = b.all f := by
  have he : toAsciiLowercase a = toAsciiLowercase b := by simpa [eqIgnoreAsciiCase] using h
  have hall (t : Text) : (toAsciiLowercase t).all f = t.all f := by
    rw [toAsciiLowercase, List.all_map]
    exact congrArg (t.all ·) (funext hf)
  rw [← hall a, he, hall b]

lemma all_identCont_of_eqIgnoreAsciiCase {a b : Text} (h : eqIgnoreAsciiCase a b = true) : a.all identCont = b.all identCont :=
  all_of_eqIgnoreAsciiCase identCont_toAsciiLower h

lemma keywordAt_parts (h : keywordAt s kw = true) : ∃ k u, s.rest = k ++ u ∧
    eqIgnoreAsciiCase k kw = true ∧ s.prev.all (fun c => !identCont c) = true ∧
    u.head?.all (fun c => !identCont c) = true := by
  simp only [keywordAt, Bool.and_eq_true] at h
  exact ⟨s.rest.take kw.length, s.rest.drop kw.length, (take_append_drop ..).symm, h.1.1, h.1.2, h.2⟩

lemma stop_keyword (h : keywordAt s kw = true) (hkw : kw.all identCont = true) : Stop lowerLex s.rest kw.length := by
  obtain ⟨k, u, hrest, hk, -, -⟩ := keywordAt_parts h
  have hplain : k.all plainByte = true := by
    rw [List.all_eq_true]
    intro c hc
    have hall := (all_identCont_of_eqIgnoreAsciiCase hk).trans hkw
    exact plainByte_of_identCont c (List.all_eq_true.mp hall c hc)
  rw [hrest, ← length_eq_of_eqIgnoreAsciiCase hk]
  exact stop_plain hplain u

lemma stop_atomLen (s : Scan) : Stop lowerLex s.rest (atomLen s) := by
  rw [atomLen]
  cases hrest : s.rest with
  | nil => exact .zero _
  | cons c rest =>
    by_cases hparen : c = byte '('
    · simp only [if_pos hparen]
      exact stop_skipBalanced 0 _
    simp only [if_neg hparen]
    obtain ⟨⟨kind, n⟩, hseg⟩ := isSome_iff_exists.mp (lowerLex_isSome c rest)
    have hliteral : Stop lowerLex (c :: rest) n := .one hseg (proper_lowerLex _ _ _ hseg).2
    rw [hseg]
    cases kind with
    | code =>
      by_cases hbind : c = byte '?'
      · rw [if_pos hbind]
        exact stop_code hseg (.zero _)
      by_cases hnull : identEqCi s "NULL" = true
      · rw [if_neg hbind, if_pos hnull]
        exact hrest ▸ stop_keyword hnull (by decide)
      rw [if_neg hbind, if_neg hnull]
      cases hspan : identSpanAt (c :: rest) with
      | some n => exact stop_callEnd (stop_identSpanAt hspan) (stop_qualifiedEnd (stop_identSpanAt hspan))
      | none =>
        split_ifs
        · exact stop_numberLen hseg
        · exact .zero _
    | string | ident | comment => exact hliteral

lemma stop_skipSqlAtom (s : Scan) : Stop lowerLex s.rest (skipSqlAtom s) :=
  (stop_skipTriviaIdx _).add (stop_atomLen (s.advance _))

lemma stop_concatEnd (fuel : Nat) (s : Scan) : Stop lowerLex s.rest (concatEnd fuel s) := by
  induction fuel generalizing s with
  | zero => exact .zero _
  | succ fuel ih =>
    rw [concatEnd]
    split_ifs with hbar
    · obtain ⟨u, hu⟩ := isPrefixOf_iff_prefix.mp hbar
      have hbars : Stop lowerLex (s.rest.drop (skipTriviaIdx 0 s.rest)) 2 := hu ▸ stop_plain (by decide) u
      have hatom : Stop lowerLex ((s.rest.drop (skipTriviaIdx 0 s.rest)).drop 2)
          (skipSqlAtom (s.advance (skipTriviaIdx 0 s.rest + 2))) := by
        rw [drop_drop]
        exact stop_skipSqlAtom (s.advance (skipTriviaIdx 0 s.rest + 2))
      exact ((stop_skipTriviaIdx _).add (hbars.add hatom)).add (ih (s.advance _))
    · exact .zero _

lemma stop_likePatternEnd (s : Scan) : Stop lowerLex s.rest (likePatternEnd s) :=
  (stop_skipSqlAtom s).add (stop_concatEnd _ (s.advance _))

end Stops

def likeHit (prev : Option UInt8) (t : Text) : Bool :=
  identEqCi ⟨prev, t⟩ "LIKE"

def likesFrom (s : Scan) : Nat :=
  hits lowerLex likeHit 0 s.prev s.rest

lemma advance_eq (s : Scan) (n : Nat) : s.advance n = ⟨byteBefore s.prev (s.rest.take n), s.rest.drop n⟩ := by
  rw [Scan.advance, byteBefore]
  cases (s.rest.take n).getLast? <;> rfl

lemma advance_advance (s : Scan) (n m : Nat) : (s.advance n).advance m = s.advance (n + m) := by
  simp only [advance_eq, drop_drop, take_add, byteBefore_append]

lemma likesFrom_stop (h : Stop lowerLex s.rest n) : likesFrom (s.advance n) ≤ likesFrom s := by
  rw [advance_eq]
  exact h.hits_le proper_lowerLex s.prev

lemma likesFrom_seg {kind : SqlKind} (h : lowerLex s.rest = some (kind, n)) :
    likesFrom s = (identEqCi s "LIKE").toNat + likesFrom (s.advance n) := by
  rw [advance_eq]
  exact hits_seg proper_lowerLex h s.prev

lemma length_likeGlobWrap : likeGlobWrapPrefix.length + likeGlobWrapSuffix.length + 1 = likeGlobRewriteOverhead := rfl

lemma globFor_bound {keyword out : Text} (h : globFor keyword s stop = (out, n)) :
    ∃ m, n = stop + m ∧ Stop lowerLex (s.rest.drop stop) m ∧ out.length + 1 ≤ keyword.length + likeGlobRewriteOverhead + m := by
  obtain ⟨rfl, rfl⟩ := Prod.mk.inj h
  have htrivia : Stop lowerLex (s.rest.drop stop) (skipTriviaIdx 0 (s.rest.drop stop)) := stop_skipTriviaIdx _
  have hpattern := stop_likePatternEnd (s.advance (patternStart s stop))
  have hm := htrivia.add (by
    rw [drop_drop]
    exact hpattern)
  refine ⟨_, Nat.add_assoc .., hm, ?_⟩
  have hlen := hm.le_length
  have hwrap := length_likeGlobWrap
  simp only [globPatternSql, length_append, length_drop, length_take] at hlen ⊢
  omega

lemma likesFrom_like (h : identEqCi s "LIKE" = true) (hn : Stop lowerLex s.rest n) (hpos : 0 < n) :
    1 + likesFrom (s.advance n) ≤ likesFrom s := by
  cases hn with
  | zero t => exact absurd hpos (by simp)
  | @seg t kind m k hseg hle htail =>
    rw [likesFrom_seg hseg, h, ← advance_advance]
    exact Nat.add_le_add_left (likesFrom_stop htail) 1

lemma afterNot_pos (hnot : identEqCi s "NOT" = true)
    (hlike : identEqCi (s.advance (3 + skipTriviaIdx 0 (s.rest.drop 3))) "LIKE" = true) : 0 < skipTriviaIdx 0 (s.rest.drop 3) := by
  rw [Nat.pos_iff_ne_zero]
  intro hzero
  obtain ⟨k, u, hrest, hk, -, hu⟩ := keywordAt_parts hnot
  have hlen : k.length = 3 := length_eq_of_eqIgnoreAsciiCase hk
  rw [hzero] at hlike
  obtain ⟨l, v, hv, hl, -, -⟩ := keywordAt_parts hlike
  have huv : u = l ++ v := by
    rw [← hv, Scan.advance, hrest]
    exact (drop_left' hlen).symm
  have hcont := all_identCont_of_eqIgnoreAsciiCase hl
  obtain ⟨c, l, rfl⟩ : ∃ c l', l = c :: l' := exists_cons_of_length_pos (by
    rw [length_eq_of_eqIgnoreAsciiCase hl]; decide)
  have hc : identCont c = true := by
    exact List.all_eq_true.mp hcont c (by simp)
  rw [huv] at hu
  simp [hc] at hu

lemma likeAt_bound {out : Text} (h : likeAt s = some (out, n)) :
    Stop lowerLex s.rest n ∧ 0 < n ∧ 1 + likesFrom (s.advance n) ≤ likesFrom s ∧ out.length ≤ n + likeGlobRewriteOverhead := by
  rw [likeAt] at h
  split_ifs at h with hnot hlike
  · have hspace := afterNot_pos hnot.1 hnot.2
    have h3 : Stop lowerLex s.rest 3 := stop_keyword hnot.1 (by decide)
    have hafter := h3.add (stop_skipTriviaIdx _)
    have hkw : Stop lowerLex (s.rest.drop (3 + skipTriviaIdx 0 (s.rest.drop 3))) 4 :=
      stop_keyword hnot.2 (by decide)
    obtain ⟨m, rfl, hm, hlen⟩ := globFor_bound (some.inj h)
    have hpattern := hkw.add (by rwa [drop_drop])
    have hcount := likesFrom_like hnot.2 hpattern (by omega)
    rw [advance_advance, ← Nat.add_assoc] at hcount
    have hk : (utf8 "NOT GLOB ").length = 9 := by decide
    exact ⟨(hafter.add hkw).add hm, by omega, hcount.trans (likesFrom_stop hafter), by omega⟩
  · have hkw : Stop lowerLex s.rest 4 := stop_keyword hlike (by decide)
    obtain ⟨m, rfl, hm, hlen⟩ := globFor_bound (some.inj h)
    have hk : (utf8 "GLOB ").length = 5 := by decide
    exact ⟨hkw.add hm, by omega, likesFrom_like hlike (hkw.add hm) (by omega), by omega⟩

lemma rewriteLikeFrom_pred (hn : 0 < n) (prev : Option UInt8) (c : UInt8) (rest : Text) :
    rewriteLikeFrom (n - 1) (some c) rest = rewriteLikeFrom 0 (byteBefore prev ((c :: rest).take n)) ((c :: rest).drop n) :=
  skipped_rest (fun k _ _ => by cases k <;> rfl) (fun _ _ _ _ => rfl) hn prev c rest

theorem length_rewriteLikeFrom (prev : Option UInt8) (t : Text) :
    (rewriteLikeFrom 0 prev t).length ≤ t.length + likesFrom ⟨prev, t⟩ * likeGlobRewriteOverhead := by
  induction t using drop_induct generalizing prev with
  | nil => exact Nat.zero_le _
  | cons c rest ih =>
    obtain ⟨⟨kind, m⟩, hseg⟩ := isSome_iff_exists.mp (lowerLex_isSome c rest)
    obtain ⟨hpos, hle⟩ := proper_lowerLex _ _ _ hseg
    have hnext {k : Nat} (hk : 0 < k) := ih k hk (byteBefore prev ((c :: rest).take k))
    have hcount : likesFrom ⟨byteBefore prev ((c :: rest).take m), (c :: rest).drop m⟩ ≤ likesFrom ⟨prev, c :: rest⟩ :=
      (Stop.one hseg hle).hits_le proper_lowerLex prev
    have hliteral : ((c :: rest).take m ++ rewriteLikeFrom (m - 1) (some c) rest).length ≤
        (c :: rest).length + likesFrom ⟨prev, c :: rest⟩ * likeGlobRewriteOverhead := by
      have hm := hnext hpos
      rw [rewriteLikeFrom_pred hpos prev, length_append, length_take]
      rw [length_drop] at hm
      have hmono := Nat.mul_le_mul_right likeGlobRewriteOverhead hcount
      omega
    rw [rewriteLikeFrom, hseg]
    cases kind with
    | code =>
      cases hat : likeAt ⟨prev, c :: rest⟩ with
      | none =>
        obtain rfl := stop_one hseg
        exact hliteral
      | some r =>
        obtain ⟨hstop, hk, hlikes, hout⟩ := likeAt_bound hat
        have hm := hnext hk
        have hkle := hstop.le_length
        rw [advance_eq] at hlikes
        dsimp only at hkle hlikes ⊢
        rw [rewriteLikeFrom_pred hk prev, length_append]
        rw [length_drop] at hm
        have hmono := Nat.mul_le_mul_right likeGlobRewriteOverhead hlikes
        rw [Nat.add_mul] at hmono
        omega
    | string | ident | comment => exact hliteral

end Bookclerk.Sql.Lower
