import Bookclerk.Sql.InsertBound
import Bookclerk.Sql.PackText

namespace Bookclerk.Sql.PackText

open Lexical Lower

variable {n : Nat} {prev : Option UInt8} {kind : SqlKind} {k rest t : Text} {c : UInt8}

lemma quotedNameLen_bounds {close : UInt8} {k : Nat} (h : quotedNameLen close k t = some n) : n ≤ t.length := by
  induction t generalizing k n with
  | nil => cases k <;> simp [quotedNameLen] at h
  | cons c rest ih =>
    have hnext {k : Nat} (h : (quotedNameLen close k rest).map (· + 1) = some n) : n ≤ (c :: rest).length := by
      obtain ⟨m, hm, rfl⟩ := Option.map_eq_some_iff.mp h
      exact Nat.succ_le_succ (ih hm)
    cases k with
    | succ k => exact hnext h
    | zero =>
      rw [quotedNameLen] at h
      split_ifs at h
      · exact hnext h
      · obtain rfl := Option.some.inj h
        simp
      · exact hnext h

lemma proper_textLex : Proper textLex := by
  intro t kind n h
  cases t with
  | nil => simp [textLex] at h
  | cons c rest =>
    have hquoted {close : UInt8} {kind' : SqlKind}
        (h : ((quotedNameLen close 0 rest).map fun n => (kind', n + 1)) = some (kind, n)) :
        0 < n ∧ n ≤ (c :: rest).length := by
      obtain ⟨m, hm, heq⟩ := Option.map_eq_some_iff.mp h
      obtain ⟨-, rfl⟩ := Prod.mk.inj heq
      exact ⟨Nat.succ_pos m, Nat.succ_le_succ (quotedNameLen_bounds hm)⟩
    rw [textLex] at h
    split_ifs at h with h1 h2
    · obtain ⟨-, rfl⟩ := Prod.mk.inj (Option.some.inj h)
      exact ⟨by omega, lineLen_of_opensLine h1 ▸ lineLen_le _⟩
    · obtain ⟨i, hi, heq⟩ := Option.map_eq_some_iff.mp h
      obtain ⟨-, rfl⟩ := Prod.mk.inj heq
      obtain ⟨r, rfl⟩ : ∃ r, rest = byte '*' :: r := List.head?_eq_some_iff.mp h2.2
      have := findText_add_length_le hi
      simp only [List.tail_cons, List.length_cons] at this ⊢
      omega
    · exact hquoted h
    · exact hquoted h
    · exact hquoted h
    · obtain ⟨-, rfl⟩ := Prod.mk.inj (Option.some.inj h)
      exact ⟨Nat.one_pos, by simp⟩

lemma likeHit_first (h : likeHit prev (c :: rest) = true) : toAsciiLower c = byte 'l' := by
  by_contra hc
  have := likeHit_quiet prev (t := []) (quiet_of_forall (by simpa using hc)) rest
  rw [List.singleton_append, h] at this
  exact absurd this (by decide)

def textLikes (prev : Option UInt8) (t : Text) : Nat :=
  hits textLex likeHit 0 prev t

lemma textLikes_seg (h : textLex (c :: rest) = some (kind, n))
    (hc : toAsciiLower c ≠ byte 'l') (prev : Option UInt8) :
    textLikes prev (c :: rest) = textLikes (byteBefore prev ((c :: rest).take n)) ((c :: rest).drop n) := by
  have hno : likeHit prev (c :: rest) = false := by
    by_contra hhit
    exact hc (likeHit_first (Bool.eq_true_of_not_eq_false hhit))
  rw [textLikes, hits_seg proper_textLex h, hno, Bool.toNat_false, Nat.zero_add]
  rfl

lemma map_ok {ε α β : Type} {x : Except ε α} {f : α → β} {b : β} (h : x.map f = .ok b) : ∃ a, x = .ok a ∧ f a = b := by
  cases x with
  | error e => cases h
  | ok a => exact ⟨a, rfl, Except.ok.inj h⟩

lemma skipTrivia_skip {k : Nat} (hk : k ≤ t.length) (h : skipTrivia k t = .ok n) : ∃ m, n = k + m ∧ skipTrivia 0 (t.drop k) = .ok m := by
  induction t generalizing k n with
  | nil =>
    obtain rfl : k = 0 := Nat.le_zero.mp hk
    exact ⟨n, (Nat.zero_add n).symm, h⟩
  | cons c rest ih =>
    cases k with
    | zero => exact ⟨n, (Nat.zero_add n).symm, h⟩
    | succ k =>
      obtain ⟨m, hm, rfl⟩ := map_ok h
      obtain ⟨j, rfl, hj⟩ := ih (Nat.le_of_succ_le_succ hk) hm
      exact ⟨j, by omega, hj⟩

lemma textLex_whitespace (h : isAsciiWhitespace c = true) (rest : Text) :
    textLex (c :: rest) = some (.code, 1) ∧ toAsciiLower c ≠ byte 'l' := by
  obtain ⟨h1, h2, h3, h4, h5, h6, h7⟩ := forall_byte (p := fun c => isAsciiWhitespace c = true → c ≠ byte '-' ∧
    c ≠ byte '/' ∧ c ≠ byte '\'' ∧ c ≠ byte '"' ∧ c ≠ backtick ∧ c ≠ byte '[' ∧ toAsciiLower c ≠ byte 'l')
    (by decide +kernel) c h
  simp [textLex, opensLine, opensBlock, h1, h2, h3, h4, h5, h6, h7]

lemma comment_first (h : textLex (c :: rest) = some (.comment, n)) :
    (opensLine c rest ∨ opensBlock c rest) ∧ toAsciiLower c ≠ byte 'l' := by
  have hopens : opensLine c rest ∨ opensBlock c rest := by
    by_contra hno
    rw [not_or] at hno
    rw [textLex, if_neg hno.1, if_neg hno.2] at h
    split_ifs at h <;> simp at h
  refine ⟨hopens, ?_⟩
  rcases hopens with ⟨rfl, -⟩ | ⟨rfl, -⟩ <;> decide

lemma skipTrivia_cases (h : skipTrivia 0 (c :: rest) = .ok n) : n = 0 ∨
    ∃ kind k m, textLex (c :: rest) = some (kind, k) ∧ n = k + m ∧ skipTrivia 0 ((c :: rest).drop k) = .ok m ∧
      toAsciiLower c ≠ byte 'l' ∧ (isAsciiWhitespace c = true ∧ k = 1 ∨ kind = .comment) := by
  rw [skipTrivia] at h
  by_cases hw : isAsciiWhitespace c = true
  · rw [if_pos hw] at h
    obtain ⟨m, hm, rfl⟩ := map_ok h
    obtain ⟨hlex, hl⟩ := textLex_whitespace hw rest
    exact Or.inr ⟨.code, 1, m, hlex, Nat.add_comm m 1, hm, hl, Or.inl ⟨hw, rfl⟩⟩
  · rw [if_neg hw] at h
    cases hlex : textLex (c :: rest) with
    | none =>
      simp only [hlex] at h
      split_ifs at h
      exact Or.inl (Except.ok.inj h).symm
    | some seg =>
      obtain ⟨kind, k⟩ := seg
      cases kind with
      | comment =>
        simp only [hlex] at h
        obtain ⟨hpos, hle⟩ := proper_textLex _ _ _ hlex
        obtain ⟨j, hj, rfl⟩ := map_ok h
        obtain ⟨m, rfl, hm⟩ := skipTrivia_skip (by rw [List.length_cons] at hle; omega) hj
        refine Or.inr ⟨.comment, k, m, rfl, by omega, ?_, (comment_first hlex).2, Or.inr rfl⟩
        rwa [List.drop_cons hpos]
      | code | string | ident => simp only [hlex] at h; exact Or.inl (Except.ok.inj h).symm

lemma textLikes_skipTrivia (h : skipTrivia 0 t = .ok n) (prev : Option UInt8) :
    textLikes prev t = textLikes (byteBefore prev (t.take n)) (t.drop n) := by
  induction t using drop_induct generalizing n prev with
  | nil =>
    obtain rfl : 0 = n := Except.ok.inj h
    rfl
  | cons c rest ih =>
    obtain rfl | ⟨kind, k, m, hlex, rfl, hm, hl, -⟩ := skipTrivia_cases h
    · rfl
    have hpos := (proper_textLex _ _ _ hlex).1
    rw [textLikes_seg hlex hl, ih _ hpos hm, List.take_add, ← List.drop_drop, byteBefore_append]

lemma likePatternSourcesFrom_pred (hn : 0 < n) (prev : Option UInt8) (bindI : Nat) (c : UInt8) (rest : Text) :
    likePatternSourcesFrom (n - 1) (some c) bindI rest =
      likePatternSourcesFrom 0 (byteBefore prev ((c :: rest).take n)) bindI ((c :: rest).drop n) :=
  skipped_rest (f := (likePatternSourcesFrom · · bindI)) (fun k _ _ => by cases k <;> rfl) (fun _ _ _ _ => rfl) hn prev c rest

lemma textLex_letter (h : identCont c = true) (rest : Text) : textLex (c :: rest) = some (.code, 1) := by
  obtain ⟨h1, h2, h3, h4, h5, h6⟩ := forall_byte (p := fun c => identCont c = true → c ≠ byte '-' ∧
    c ≠ byte '/' ∧ c ≠ byte '\'' ∧ c ≠ byte '"' ∧ c ≠ backtick ∧ c ≠ byte '[') (by decide +kernel) c h
  simp [textLex, opensLine, opensBlock, h1, h2, h3, h4, h5, h6]

lemma textLikes_word {w : Text} (hcont : w.all identCont = true) (hl : ∀ b ∈ w, toAsciiLower b ≠ byte 'l')
    (prev : Option UInt8) (u : Text) : textLikes prev (w ++ u) = textLikes (byteBefore prev w) u := by
  induction w generalizing prev with
  | nil => rfl
  | cons c w ih =>
    rw [List.all_cons, Bool.and_eq_true] at hcont
    rw [List.cons_append, textLikes_seg (textLex_letter hcont.1 _) (hl c (by simp)), byteBefore_cons]
    exact ih hcont.2 (fun b hb => hl b (List.mem_cons_of_mem c hb)) _

section

variable (h : keywordAt ⟨prev, t⟩ like = true)
include h

lemma like_parts : ∃ c k u, t = c :: (k ++ u) ∧ k.length = 3 ∧
    identCont c = true ∧ k.all identCont = true ∧ ∀ b ∈ k, toAsciiLower b ≠ byte 'l' := by
  obtain ⟨k, u, ht, hk, -, -⟩ := keywordAt_parts h
  have hcont := all_identCont_of_eqIgnoreAsciiCase hk
  rw [show like.all identCont = true by decide] at hcont
  have hlen : k.length = 4 := length_eq_of_eqIgnoreAsciiCase hk
  obtain ⟨c, k, rfl⟩ := List.exists_cons_of_length_pos (l := k) (by omega)
  rw [List.all_cons, Bool.and_eq_true] at hcont
  have htail : eqIgnoreAsciiCase k (utf8 "IKE") = true := (eqIgnoreAsciiCase_cons.mp hk).2
  have hall : k.all (fun c => toAsciiLower c != byte 'l') = true :=
    (all_of_eqIgnoreAsciiCase notL_toAsciiLower htail).trans (by decide)
  refine ⟨c, k, u, ht, length_eq_of_eqIgnoreAsciiCase htail, hcont.1, hcont.2, fun b hb => ?_⟩
  simpa using List.all_eq_true.mp hall b hb

lemma textLikes_keyword :
    textLikes prev t = 1 + textLikes (byteBefore prev (t.take 4)) (t.drop 4) := by
  have hhit : likeHit prev t = true := h
  obtain ⟨c, k, u, rfl, hlen, hc, hk, hl⟩ := like_parts h
  have hfour : (c :: (k ++ u)).take 4 = c :: k ∧ (c :: (k ++ u)).drop 4 = u := by
    simp only [List.take_succ_cons, List.drop_succ_cons, List.take_left' hlen, List.drop_left' hlen, true_and]
  rw [hfour.1, hfour.2, byteBefore_cons, ← textLikes_word hk hl (some c) u, textLikes, hits_seg proper_textLex (textLex_letter hc _), hhit]
  rfl

lemma textLikes_like (hn : skipTrivia 0 (t.drop 4) = .ok n) :
    textLikes prev t = 1 + textLikes (byteBefore prev (t.take (4 + n))) (t.drop (4 + n)) := by
  rw [textLikes_keyword h, textLikes_skipTrivia hn, List.take_add, List.drop_drop, byteBefore_append]

end

lemma textLex_code {k : Nat} (h : textLex (c :: rest) = some (.code, k)) : k = 1 := by
  rw [textLex] at h
  split_ifs at h <;> simp_all

lemma textLex_literal {k : Nat} (h : textLex (c :: rest) = some (kind, k)) (hkind : kind ≠ .code) : toAsciiLower c ≠ byte 'l' := by
  intro hc
  have hcont : identCont c = true := forall_byte (p := fun c => toAsciiLower c = byte 'l' → identCont c = true)
    (by decide +kernel) c hc
  rw [textLex_letter hcont] at h
  exact hkind (Prod.mk.inj (Option.some.inj h)).1.symm

theorem likePatternSourcesFrom_length {bindI : Nat} {srcs : List LikePatternSrc}
    (h : likePatternSourcesFrom 0 prev bindI t = .ok srcs) : srcs.length = textLikes prev t := by
  induction t using drop_induct generalizing prev bindI srcs with
  | nil =>
    obtain rfl : [] = srcs := Except.ok.inj h
    rfl
  | cons c rest ih =>
    have hnext {k bindI : Nat} {srcs : List LikePatternSrc} (hk : 0 < k)
        (h : likePatternSourcesFrom (k - 1) (some c) bindI rest = .ok srcs) :
        srcs.length = textLikes (byteBefore prev ((c :: rest).take k)) ((c :: rest).drop k) := by
      rw [likePatternSourcesFrom_pred hk prev] at h
      exact ih _ hk h
    rw [likePatternSourcesFrom] at h
    cases hlex : textLex (c :: rest) with
    | none => simp [hlex] at h
    | some seg =>
      obtain ⟨kind, k⟩ := seg
      have hpos := (proper_textLex _ _ _ hlex).1
      have hliteral (hkind : kind ≠ .code) (h : likePatternSourcesFrom (k - 1) (some c) bindI rest = .ok srcs) :
          srcs.length = textLikes prev (c :: rest) := by
        rw [textLikes_seg hlex (textLex_literal hlex hkind)]
        exact hnext hpos h
      simp only [hlex] at h
      cases kind with
      | code =>
        obtain rfl := textLex_code hlex
        have hother {bindI : Nat} (hno : likeHit prev (c :: rest) = false)
            (h : likePatternSourcesFrom 0 (some c) bindI rest = .ok srcs) :
            srcs.length = textLikes prev (c :: rest) := by
          rw [textLikes, hits_seg proper_textLex hlex, hno, Bool.toNat_false, Nat.zero_add]
          exact hnext Nat.one_pos h
        by_cases hbind : c = byte '?'
        · rw [if_pos hbind] at h
          refine hother ?_ h
          by_contra hhit
          have := likeHit_first (Bool.eq_true_of_not_eq_false hhit)
          exact absurd (hbind ▸ this) (by decide)
        by_cases hlike : keywordAt ⟨prev, c :: rest⟩ (utf8 "LIKE") = true
        · rw [if_neg hbind, if_pos hlike] at h
          obtain ⟨n, hn, h⟩ := bind_ok h
          obtain ⟨src, -, h⟩ := bind_ok h
          obtain ⟨tail, htail, h⟩ := bind_ok h
          obtain rfl : src :: tail = srcs := Except.ok.inj h
          have := hnext (k := 4 + n) (by omega) (by rwa [show 4 + n - 1 = 3 + n by omega])
          rw [textLikes_like hlike (by simpa using hn), List.length_cons, this, Nat.add_comm]
        · rw [if_neg hbind, if_neg hlike] at h
          exact hother (Bool.eq_false_of_not_eq_true hlike) h
      | string | ident | comment => exact hliteral (by decide) h

lemma countDivModFrom_skip (k : Nat) (t : Text) : countDivModFrom k t = countDivModFrom 0 (t.drop k) :=
  skipped_drop (fun k => by cases k <;> rfl) (fun _ _ _ => rfl) k t

lemma countDivModFrom_word {w : Text} (hw : w.all identCont = true) (u : Text) : countDivModFrom 0 (w ++ u) = countDivModFrom 0 u := by
  induction w with
  | nil => rfl
  | cons c w ih =>
    rw [List.all_cons, Bool.and_eq_true] at hw
    have hc : c ≠ byte '/' ∧ c ≠ byte '%' :=
      forall_byte (p := fun c => identCont c = true → c ≠ byte '/' ∧ c ≠ byte '%') (by decide +kernel) c hw.1
    rw [List.cons_append, countDivModFrom, textLex_letter hw.1]
    simp only [hc.1, hc.2]
    exact ih hw.2

lemma textLikes_add_divMods {d : Nat} (h : countDivModFrom 0 t = .ok d) (prev : Option UInt8) : 4 * textLikes prev t + d ≤ t.length := by
  induction t using drop_induct generalizing prev d with
  | nil =>
    obtain rfl : 0 = d := Except.ok.inj h
    exact Nat.le_refl _
  | cons c rest ih =>
    by_cases hlike : keywordAt ⟨prev, c :: rest⟩ like = true
    · rw [textLikes_keyword hlike]
      obtain ⟨c, k, u, heq, hlen, hc, hk, -⟩ := like_parts hlike
      rw [heq] at h ih ⊢
      have hword := countDivModFrom_word (w := c :: k) (by simp [hc, hk]) u
      rw [List.cons_append, h] at hword
      have := ih 4 (by omega) (by rw [List.drop_succ_cons, List.drop_left' hlen, hword]) (byteBefore prev ((c :: (k ++ u)).take 4))
      rw [List.drop_succ_cons, List.drop_left' hlen] at this ⊢
      simp only [List.length_cons, List.length_append]
      omega
    rw [countDivModFrom] at h
    cases hlex : textLex (c :: rest) with
    | none => simp [hlex] at h
    | some seg =>
      obtain ⟨kind, n⟩ := seg
      obtain ⟨hpos, hle⟩ := proper_textLex _ _ _ hlex
      have hnext {d : Nat} (h : countDivModFrom (n - 1) rest = .ok d) : 4 * textLikes prev (c :: rest) + d + n ≤ (c :: rest).length := by
        rw [countDivModFrom_skip, ← List.drop_cons hpos] at h
        have hno : likeHit prev (c :: rest) = false := Bool.eq_false_of_not_eq_true hlike
        have := ih n hpos h (byteBefore prev ((c :: rest).take n))
        rw [textLikes, hits_seg proper_textLex hlex, hno, Bool.toNat_false]
        rw [List.length_drop, textLikes] at this
        omega
      simp only [hlex] at h
      cases kind with
      | code =>
        obtain rfl := textLex_code hlex
        split_ifs at h
        · obtain ⟨d, hd, rfl⟩ := map_ok h
          exact hnext hd
        · exact (Nat.le_add_right ..).trans (hnext h)
      | string | ident | comment => exact (Nat.le_add_right ..).trans (hnext h)

lemma insertOrIgnoreRewriteExtra_le {sql : Text} {extra : Nat} (h : insertOrIgnoreRewriteExtra sql = .ok extra) :
    extra ≤ insertOrIgnoreMaxExtra := by
  obtain ⟨n, -, h⟩ := bind_ok h
  obtain ⟨s, -, h⟩ := bind_ok h
  cases s with
  | none =>
    obtain rfl : 0 = extra := Except.ok.inj h
    exact Nat.zero_le _
  | some s =>
    obtain ⟨s', -, h⟩ := bind_ok h
    cases s' with
    | none =>
      obtain rfl : 0 = extra := Except.ok.inj h
      exact Nat.zero_le _
    | some s' =>
      have h : (if keywordAt s' (utf8 "IGNORE") then insertOrIgnoreMaxExtra else 0) = extra := Except.ok.inj h
      rw [← h]
      split_ifs
      · exact Nat.le_refl _
      · exact Nat.zero_le _

theorem counted_bound_le_closed_form {sql : Text} {n : Nat} (h : sqliteFamilyMechanicalLenUpperBound sql = .ok n) :
    n ≤ sqliteFamilyLikeDivmodInsertUpperBound sql.length := by
  obtain ⟨likes, hlikes, h⟩ := bind_ok h
  obtain ⟨divMods, hdiv, h⟩ := bind_ok h
  obtain ⟨extra, hextra, h⟩ := bind_ok h
  obtain rfl := Except.ok.inj h
  have hcount := textLikes_add_divMods hdiv none
  rw [← likePatternSourcesFrom_length hlikes] at hcount
  have hle := insertOrIgnoreRewriteExtra_le hextra
  -- every four bytes without a `LIKE` would hold at most four operators
  have hdense : 4 * divModNullifExtra ≤ Lower.likeGlobRewriteOverhead := by decide
  have hlike : likes.length ≤ sql.length / 4 := by omega
  have hweight : likes.length * Lower.likeGlobRewriteOverhead + divMods * divModNullifExtra ≤
      sql.length / 4 * Lower.likeGlobRewriteOverhead + sql.length % 4 * divModNullifExtra := by
    obtain ⟨free, hfree⟩ := Nat.exists_eq_add_of_le hlike
    have hdivs : divMods ≤ 4 * free + sql.length % 4 := by omega
    have hfill := Nat.mul_le_mul_left free hdense
    have hops := Nat.mul_le_mul_right divModNullifExtra hdivs
    rw [hfree, Nat.add_mul]
    rw [Nat.add_mul, Nat.mul_assoc, Nat.mul_left_comm] at hops
    omega
  rw [sqliteFamilyLikeDivmodInsertUpperBound]
  omega

theorem counted_bound_le_closed_form_sample :
    ∃ n, sqliteFamilyMechanicalLenUpperBound (utf8 "SELECT a LIKE b / 2 % 3 /* LIKE */") = .ok n ∧
      n ≤ sqliteFamilyLikeDivmodInsertUpperBound 34 := by
  have hrun : (sqliteFamilyMechanicalLenUpperBound (utf8 "SELECT a LIKE b / 2 % 3 /* LIKE */")).isOk = true := by decide +kernel
  cases h : sqliteFamilyMechanicalLenUpperBound (utf8 "SELECT a LIKE b / 2 % 3 /* LIKE */") with
  | error e => simp [h, Except.toBool] at hrun
  | ok n => exact ⟨n, rfl, counted_bound_le_closed_form h⟩

lemma drop_lineLen (t : Text) : t.drop (lineLen t) = [] ∨ (t.drop (lineLen t)).head? = some (byte '\n') := by
  induction t with
  | nil => exact Or.inl rfl
  | cons c t ih =>
    rw [lineLen_cons]
    split_ifs with hc
    · exact Or.inr (by simp [hc])
    · rwa [Nat.add_comm 1]

lemma block_last (hblock : opensBlock c rest)
    (h : textLex (c :: rest) = some (.comment, n)) (prev : Option UInt8) : byteBefore prev ((c :: rest).take n) = some (byte '/') := by
  have hline : ¬ opensLine c rest := fun ho => absurd (hblock.1.symm.trans ho.1) (by decide)
  rw [textLex, if_neg hline, if_pos hblock] at h
  obtain ⟨i, hi, heq⟩ := Option.map_eq_some_iff.mp h
  obtain ⟨-, rfl⟩ := Prod.mk.inj heq
  obtain ⟨r, rfl⟩ : ∃ r, rest = byte '*' :: r := List.head?_eq_some_iff.mp hblock.2
  obtain ⟨u, hu⟩ := findText_prefix hi
  rw [List.tail_cons] at hu
  have htake : (c :: byte '*' :: r).take (i + 4) = (c :: byte '*' :: r.take i) ++ [byte '*', byte '/'] := by
    rw [List.take_succ_cons, List.take_succ_cons, List.take_add, ← hu]
    rfl
  rw [htake, byteBefore_append]
  rfl

lemma skipTrivia_newline {m : Nat} (hhead : t.head? = some (byte '\n')) (h : skipTrivia 0 t = .ok m) : m ≠ 0 := by
  obtain ⟨u, rfl⟩ := List.head?_eq_some_iff.mp hhead
  obtain ⟨j, -, rfl⟩ := map_ok h
  exact Nat.succ_ne_zero j

lemma skipTrivia_last (h : skipTrivia 0 t = .ok n) (hlt : n < t.length)
    (hprev : n = 0 → prev.all (fun c => !identCont c) = true) :
    (byteBefore prev (t.take n)).all (fun c => !identCont c) = true := by
  induction t using drop_induct generalizing n prev with
  | nil => exact absurd hlt (by simp)
  | cons c rest ih =>
    obtain rfl | ⟨kind, k, m, hlex, rfl, hm, -, hpiece⟩ := skipTrivia_cases h
    · exact hprev rfl
    have hpos := (proper_textLex _ _ _ hlex).1
    rw [List.take_add, byteBefore_append]
    refine ih _ hpos hm (by rw [List.length_drop]; omega) ?_
    intro hzero
    rcases hpiece with ⟨hw, rfl⟩ | rfl
    · have hc : identCont c = false := forall_byte (p := fun c => isAsciiWhitespace c = true → identCont c = false)
        (by decide +kernel) c hw
      simp [byteBefore, hc]
    rcases (comment_first hlex).1 with hline | hblock
    · -- a line comment ends before a newline, which is trivia too
      have hk : k = lineLen (c :: rest) := by
        rw [textLex, if_pos hline] at hlex
        rw [lineLen_of_opensLine hline]
        exact (Prod.mk.inj (Option.some.inj hlex)).2.symm
      rcases drop_lineLen (c :: rest) with hnil | hhead
      · rw [List.drop_eq_nil_iff] at hnil
        omega
      · rw [← hk] at hhead
        exact absurd hzero (skipTrivia_newline hhead hm)
    · rw [block_last hblock hlex]
      decide

lemma eqIgnoreAsciiCase_append {a b : Text} (h : eqIgnoreAsciiCase k (a ++ b) = true) :
    ∃ k₁ k₂, k = k₁ ++ k₂ ∧ eqIgnoreAsciiCase k₁ a = true ∧ eqIgnoreAsciiCase k₂ b = true := by
  induction a generalizing k with
  | nil => exact ⟨[], k, rfl, rfl, h⟩
  | cons c a ih =>
    obtain ⟨d, k, rfl⟩ := List.exists_cons_of_length_pos (by rw [length_eq_of_eqIgnoreAsciiCase h]; simp)
    rw [List.cons_append, eqIgnoreAsciiCase_cons] at h
    obtain ⟨k₁, k₂, rfl, h₁, h₂⟩ := ih h.2
    exact ⟨d :: k₁, k₂, rfl, eqIgnoreAsciiCase_cons.mpr ⟨h.1, h₁⟩, h₂⟩

lemma eqIgnoreAsciiCase_blank {b : Text} (h : eqIgnoreAsciiCase k (byte ' ' :: b) = true) :
    ∃ k', k = byte ' ' :: k' ∧ eqIgnoreAsciiCase k' b = true := by
  obtain ⟨d, k, rfl⟩ := List.exists_cons_of_length_pos (by rw [length_eq_of_eqIgnoreAsciiCase h]; simp)
  obtain ⟨hd, htail⟩ := eqIgnoreAsciiCase_cons.mp h
  have : d = byte ' ' := forall_byte (p := fun d => toAsciiLower d = toAsciiLower (byte ' ') → d = byte ' ')
    (by decide +kernel) d hd
  exact ⟨k, by rw [this], htail⟩

lemma skipTrivia_blank (hc : identCont c = true) (u : Text) : skipTrivia 0 (byte ' ' :: c :: u) = .ok 1 := by
  have hw : isAsciiWhitespace c = false := forall_byte (p := fun c => identCont c = true → isAsciiWhitespace c = false)
    (by decide +kernel) c hc
  rw [skipTrivia, if_pos (by decide), skipTrivia, hw, textLex_letter hc]
  rfl

lemma keywordAt_of_parts {kw u : Text} (hk : eqIgnoreAsciiCase k kw = true)
    (hprev : prev.all (fun c => !identCont c) = true) (hu : u.head?.all (fun c => !identCont c) = true) :
    keywordAt ⟨prev, k ++ u⟩ kw = true := by
  have hlen := length_eq_of_eqIgnoreAsciiCase hk
  rw [keywordAt, List.take_left' hlen, List.drop_left' hlen, hk, hprev, hu]
  rfl

lemma afterKeyword_blank {kw : String} {u : Text}
    (hk : eqIgnoreAsciiCase k (utf8 kw) = true) (hprev : prev.all (fun c => !identCont c) = true)
    (hc : identCont c = true) : ∃ s, afterKeyword ⟨prev, k ++ (byte ' ' :: c :: u)⟩ kw = .ok (some s) ∧ s = ⟨some (byte ' '), c :: u⟩ := by
  have hlen := length_eq_of_eqIgnoreAsciiCase hk
  rw [afterKeyword, if_pos (keywordAt_of_parts hk hprev rfl)]
  simp only [advance_eq, List.drop_left' hlen, skipTrivia_blank hc]
  refine ⟨_, rfl, ?_⟩
  simp [byteBefore]

lemma word_cons {kw : Text} (h : eqIgnoreAsciiCase k kw = true) (hpos : 0 < kw.length) (hkw : kw.all identCont = true) :
    ∃ c k', k = c :: k' ∧ identCont c = true := by
  obtain ⟨c, k', rfl⟩ := List.exists_cons_of_length_pos (by rwa [length_eq_of_eqIgnoreAsciiCase h])
  have hcont := (all_identCont_of_eqIgnoreAsciiCase h).trans hkw
  rw [List.all_cons, Bool.and_eq_true] at hcont
  exact ⟨c, k', rfl, hcont.1⟩

theorem insertOrIgnoreRewriteExtra_eq {sql : Text} (hins : insertOrIgnoreRest sql = some rest)
    (htrivia : skipTrivia 0 sql = .ok (skipTriviaIdx 0 sql)) :
    insertOrIgnoreRewriteExtra sql = .ok insertOrIgnoreMaxExtra := by
  obtain ⟨p, k, hp, hsql, hk, hstop⟩ := insertOrIgnoreRest_spec hins
  have hplen : skipTriviaIdx 0 sql = p.length := by
    rw [← hp, List.length_take, Nat.min_eq_left (stop_skipTriviaIdx sql).le_length]
  have hklen : k.length = 21 := length_eq_of_eqIgnoreAsciiCase hk
  have hprev : (byteBefore none p).all (fun c => !identCont c) = true := by
    rw [← hp]
    refine skipTrivia_last htrivia ?_ fun _ => rfl
    have := congrArg List.length hsql
    simp only [List.length_append] at this
    omega
  obtain ⟨k₁, k₂, rfl, h₁, h₂⟩ := eqIgnoreAsciiCase_append (a := utf8 "INSERT") hk
  obtain ⟨k₃, rfl, h₃⟩ := eqIgnoreAsciiCase_blank h₂
  obtain ⟨k₄, k₅, rfl, h₄, h₅⟩ := eqIgnoreAsciiCase_append (a := utf8 "OR") h₃
  obtain ⟨k₆, rfl, h₆⟩ := eqIgnoreAsciiCase_blank h₅
  obtain ⟨k₇, k₈, rfl, h₇, h₈⟩ := eqIgnoreAsciiCase_append (a := utf8 "IGNORE") h₆
  obtain ⟨k₉, rfl, -⟩ := eqIgnoreAsciiCase_blank h₈
  obtain ⟨c, k₄, rfl, hc⟩ := word_cons h₄ (by decide) (by decide)
  obtain ⟨d, k₇, rfl, hd⟩ := word_cons h₇ (by decide) (by decide)
  obtain ⟨s₁, hs₁, rfl⟩ := afterKeyword_blank h₁ hprev hc
  have hblank : (some (byte ' ')).all (fun c => !identCont c) = true := by decide
  obtain ⟨s₂, hs₂, rfl⟩ := afterKeyword_blank h₄ hblank hd
  have hignore : keywordAt ⟨some (byte ' '), (d :: k₇) ++ (byte ' ' :: k₉ ++ rest)⟩ (utf8 "IGNORE") = true :=
    keywordAt_of_parts h₇ (by decide) rfl
  have hstart : (Scan.start sql).advance (skipTriviaIdx 0 sql) = ⟨byteBefore none p,
      k₁ ++ (byte ' ' :: c :: (k₄ ++ (byte ' ' :: d :: (k₇ ++ (byte ' ' :: k₉))) ++ rest))⟩ := by
    rw [advance_eq, Scan.start]
    rw [hplen, hsql]
    simp
  simp only [List.cons_append, List.append_assoc] at hs₁ hs₂ hignore hstart
  rw [insertOrIgnoreRewriteExtra, htrivia]
  change (afterKeyword ((Scan.start sql).advance (skipTriviaIdx 0 sql)) "INSERT" >>= _) = _
  rw [hstart, hs₁]
  change (afterKeyword _ "OR" >>= _) = _
  rw [hs₂]
  change Except.ok (if keywordAt _ _ = true then _ else _) = _
  rw [if_pos hignore]

end Bookclerk.Sql.PackText
