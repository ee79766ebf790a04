import Bookclerk.Sql.InsertOrIgnore

namespace Bookclerk.Sql.Lower

open Lexical List Option

variable {head k rest t : Text} {c : UInt8}

section Swap

variable {w u u' : Text} {b b' : UInt8}

lemma lowerLex_swap {s x y : Text} {kind : SqlKind} (hu : u.head? = some b) (hb : b ≠ byte '\n')
    (hu' : u'.head? = some b') (hb' : neutralByte b' = true) (hd : (s ++ y).head? ≠ some (byte '$'))
    (h : lowerLex (s ++ (x ++ u)) = some (kind, s.length)) : lowerLex (s ++ (x ++ u')) = some (kind, s.length) := by
  obtain ⟨c, r, rfl⟩ := exists_cons_of_segment h
  cases x with
  | nil => exact lowerLex_neutral h hd hu hb hu' hb'
  | cons d x => exact lowerLex_tail h hd rfl

section

variable (hstop : Stop lowerLex (w ++ u) w.length)
include hstop

lemma likesFrom_swap (hd : NoDollar (w ++ u)) (hu : u.head? = some b)
    (hb : b ≠ byte '\n') (hu' : u'.head? = some b') (hb' : neutralByte b' = true)
    (hp : ∀ prev x, x <:+ w → x ≠ [] → likeHit prev (x ++ u') = likeHit prev (x ++ u)) (prev : Option UInt8) :
    likesFrom ⟨prev, w ++ u'⟩ + likesFrom ⟨byteBefore prev w, u⟩ = likesFrom ⟨prev, w ++ u⟩ + likesFrom ⟨byteBefore prev w, u'⟩ :=
  hstop.hits_swap proper_lowerLex hd (fun _ _ _ hs _ hseg => lowerLex_swap hu hb hu' hb' hs hseg) hp prev

lemma stop_into (hd : NoDollar (w ++ u')) (hd' : NoDollar u)
    (hu : u.head? = some b) (hb : b ≠ byte '\n') (hu' : u'.head? = some b') (hb' : neutralByte b' = true) :
    Stop lowerLex (w ++ u') w.length ∧ NoDollar (w ++ u) :=
  hstop.swap proper_lowerLex (fun _ _ _ h => h) hd hd' fun _ _ _ hs _ hseg => lowerLex_swap hu hb hu' hb' hs hseg

lemma stop_extend {v : Text} (hne : u ≠ []) (hd : NoDollar (w ++ (u ++ v))) :
    Stop lowerLex (w ++ (u ++ v)) w.length := by
  have hdu : NoDollar (w ++ u) := by
    rw [← append_assoc] at hd
    exact hd.left
  refine (hstop.swap proper_lowerLex (fun _ _ _ h => h) hd (hdu.after hstop) ?_).1
  intro kind s x hs _ hseg
  obtain ⟨c, r, rfl⟩ := exists_cons_of_segment hseg
  obtain ⟨d, u, rfl⟩ := exists_cons_of_ne_nil hne
  exact lowerLex_tail hseg hs (by cases x <;> rfl)

end

end Swap

lemma whitespace_byte : ∀ b ∈ whitespaceChars.flatten, plainByte b = true ∧ identCont b = false ∧
    neutralByte b = true ∧ toAsciiLower b ≠ byte 'l' := by
  decide +kernel

lemma eqIgnoreAsciiCase_cons {a b : UInt8} {s : Text} :
    eqIgnoreAsciiCase (a :: s) (b :: t) = true ↔ toAsciiLower a = toAsciiLower b ∧ eqIgnoreAsciiCase s t = true := by
  simp [eqIgnoreAsciiCase, toAsciiLowercase]

lemma quiet_of_forall {w : Text} (h : ∀ b ∈ w, toAsciiLower b ≠ byte 'l') : quiet w = true := by
  induction w with
  | nil => rfl
  | cons c w ih =>
    have hno : eqIgnoreAsciiCase ((c :: w).take 4) (like.take (c :: w).length) = false := by
      by_contra hyes
      have hyes := Bool.eq_true_of_not_eq_false hyes
      exact h c (by simp) (eqIgnoreAsciiCase_cons.mp hyes).1
    rw [quiet, hno, ih fun b hb => h b (mem_cons_of_mem c hb)]
    rfl

structure Blank (r : Text) : Prop where
  plain : r.all plainByte = true
  closes : closes r = true
  quiet : quiet r = true
  neutral : ∀ b, r.head? = some b → neutralByte b = true

lemma blank_of_whitespace {r : Text} (h : ∀ b ∈ r, b ∈ whitespaceChars.flatten) : Blank r where
  plain := List.all_eq_true.mpr fun b hb => (whitespace_byte b (h b hb)).1
  closes := by
    cases r with
    | nil => rfl
    | cons c r => simp [Lower.closes, (whitespace_byte c (h c (by simp))).2.1]
  quiet := quiet_of_forall fun b hb => (whitespace_byte b (h b hb)).2.2.2
  neutral b hb := (whitespace_byte b (h b (List.mem_of_head? hb))).2.2.1

lemma trimEnd_spec (t : Text) : ∃ r, t = trimEnd t ++ r ∧ Blank r ∧ trailingWhitespace (trimEnd t) = 0 := by
  obtain ⟨u, r, rfl, hlen, hmem, hu⟩ := trailingWhitespace_spec t
  have htrim : trimEnd (u ++ r) = u := by
    rw [trimEnd, hlen, length_append, Nat.add_sub_cancel, take_left]
  rw [htrim]
  exact ⟨r, rfl, blank_of_whitespace hmem, hu⟩

lemma trimEnd_eq_self (h : trailingWhitespace t = 0) : trimEnd t = t := by
  rw [trimEnd, h, Nat.sub_zero, take_length]

lemma skipTriviaIdx_behind (t : Text) : skipTriviaIdx 0 (t.drop (skipTriviaIdx 0 t)) = 0 := by
  induction t using drop_induct with
  | nil => rfl
  | cons c rest ih =>
    have hnext {k : Nat} (hpos : 0 < k) (heq : skipTriviaIdx 0 (c :: rest) = k + skipTriviaIdx 0 ((c :: rest).drop k)) :
        skipTriviaIdx 0 ((c :: rest).drop (skipTriviaIdx 0 (c :: rest))) = 0 := by
      rw [heq, ← drop_drop]
      exact ih _ hpos
    cases hw : whitespaceChars.find? (·.isPrefixOf (c :: rest)) with
    | some w =>
      obtain ⟨-, hpos, heq⟩ := skipTriviaIdx_whitespace hw
      exact hnext hpos heq
    | none =>
      cases hc : commentLen c rest with
      | some n =>
        obtain ⟨hpos, -, heq⟩ := skipTriviaIdx_comment hw hc
        exact hnext hpos heq
      | none =>
        have hzero : skipTriviaIdx 0 (c :: rest) = 0 := by
          rw [skipTriviaIdx, hw]
          simp only [hc]
        rw [hzero, drop_zero, hzero]

lemma leadingWhitespace_of_skipTriviaIdx (h : skipTriviaIdx 0 t = 0) : leadingWhitespace t = 0 := by
  refine (leadingRun_eq_zero_iff whitespaceChars_length).mpr (Or.inr ?_)
  cases hw : whitespaceChars.find? (·.isPrefixOf t) with
  | none => rfl
  | some w =>
    obtain ⟨-, hpos, heq⟩ := skipTriviaIdx_whitespace hw
    omega

lemma insertRowSourceOffset_spec {off : Nat} (h : insertRowSourceOffset head = some off) :
    Stop lowerLex head off ∧ leadingWhitespace (head.drop off) = 0 := by
  obtain ⟨n, hspan, rfl⟩ := map_eq_some_iff.mp h
  have hname := ((stop_skipTriviaIdx head).add (stop_identSpanAt hspan)).add (stop_skipTriviaIdx _)
  have hbehind {k : Nat} (hk : Stop lowerLex head k) : Stop lowerLex head (k + skipTriviaIdx 0 (head.drop k)) ∧
      leadingWhitespace (head.drop (k + skipTriviaIdx 0 (head.drop k))) = 0 := by
    refine ⟨hk.add (stop_skipTriviaIdx _), leadingWhitespace_of_skipTriviaIdx ?_⟩
    rw [← drop_drop]
    exact skipTriviaIdx_behind _
  dsimp only
  split_ifs
  · exact hbehind (hname.add (stop_skipBalanced 0 _))
  · exact hbehind ((stop_skipTriviaIdx head).add (stop_identSpanAt hspan))

lemma runsOn_word {kw : Text} (h : eqIgnoreAsciiCase k kw = true) (hlen : 3 ≤ kw.length) (hkw : runsOn kw = true)
    (v : Text) : runsOn (k ++ v) = true := by
  have hk : k.length = kw.length := length_eq_of_eqIgnoreAsciiCase h
  have he : toAsciiLowercase k = toAsciiLowercase kw := by simpa only [eqIgnoreAsciiCase, beq_iff_eq] using h
  rw [runsOn, Bool.and_eq_true] at hkw ⊢
  constructor
  · obtain ⟨c, k, rfl⟩ := exists_cons_of_length_pos (l := k) (by omega)
    obtain ⟨d, kw, rfl⟩ := exists_cons_of_length_pos (l := kw) (by omega)
    have hcd := (eqIgnoreAsciiCase_cons.mp h).1
    have hd : identCont d = true := by simpa using hkw.1
    simpa [← identCont_toAsciiLower c, hcd, identCont_toAsciiLower] using hd
  · rw [List.all_eq_true] at hkw ⊢
    intro n hn
    have htail := hkw.2 n hn
    have htake : toAsciiLowercase ((k ++ v).take (4 - n)) = toAsciiLowercase (kw.take (4 - n)) := by
      have hn' : 4 - n ≤ k.length := by simp at hn; omega
      rw [take_append_of_le_length hn', toAsciiLowercase, toAsciiLowercase, map_take, map_take]
      exact congrArg (List.take (4 - n)) he
    rwa [eqIgnoreAsciiCase, htake]

lemma isQuery_spec {source : Text} (h : isQuery source = true) : ∃ c r, source = c :: r ∧ c ≠ byte '\n' ∧
    neutralByte c = true ∧ toAsciiLower c ≠ byte 'l' ∧ ∀ v, runsOn (source ++ v) = true := by
  have hword {kw : Text} (hlen : 3 ≤ kw.length) (hruns : runsOn kw = true)
      (hfirst : ∀ c, kw.head?.map toAsciiLower = some (toAsciiLower c) →
        c ≠ byte '\n' ∧ neutralByte c = true ∧ toAsciiLower c ≠ byte 'l')
      (hkw : keywordAt (Scan.start source) kw = true) : ∃ c r, source = c :: r ∧ c ≠ byte '\n' ∧
        neutralByte c = true ∧ toAsciiLower c ≠ byte 'l' ∧ ∀ v, runsOn (source ++ v) = true := by
    obtain ⟨k, u, hrest, hk, -, -⟩ := keywordAt_parts hkw
    obtain rfl : source = k ++ u := hrest
    obtain ⟨d, kw, rfl⟩ := exists_cons_of_length_pos (l := kw) (by omega)
    obtain ⟨c, k, rfl⟩ := exists_cons_of_length_pos (by rw [length_eq_of_eqIgnoreAsciiCase hk]; simp)
    obtain ⟨h1, h2, h3⟩ := hfirst c (by simp [(eqIgnoreAsciiCase_cons.mp hk).1])
    refine ⟨c, k ++ u, rfl, h1, h2, h3, fun v => ?_⟩
    rw [append_assoc]
    exact runsOn_word hk hlen hruns _
  rw [isQuery, Bool.or_eq_true] at h
  rcases h with h | h
  · exact hword (by decide) (by decide) (forall_byte (by decide +kernel)) h
  · exact hword (by decide) (by decide) (forall_byte (by decide +kernel)) h

lemma wrapInsertSelectHead_cases (head : Text) : wrapInsertSelectHead head = head ∨
    ∃ a s r, head = a ++ (s ++ r) ∧ Blank r ∧ (trailingWhitespace head = 0 → r = []) ∧ isQuery s = true ∧
      Stop lowerLex (a ++ (s ++ r)) a.length ∧ wrapInsertSelectHead head = a ++ (wrapOpen ++ (s ++ wrapClose)) := by
  rw [wrapInsertSelectHead]
  cases hoff : insertRowSourceOffset head with
  | none => exact Or.inl rfl
  | some off =>
    obtain ⟨hstop, hlead⟩ := insertRowSourceOffset_spec hoff
    have htrim : trim (head.drop off) = trimEnd (head.drop off) := by rw [trim, hlead, drop_zero]
    dsimp only
    split_ifs with hquery
    · obtain ⟨r, hr, hblank, -⟩ := trimEnd_spec (head.drop off)
      have hcut : head = head.take off ++ (trimEnd (head.drop off) ++ r) := by rw [← hr, take_append_drop]
      have hlen : (head.take off).length = off := by
        have := hstop.le_length
        rw [length_take]
        omega
      rw [htrim] at hquery ⊢
      refine Or.inr ⟨head.take off, trimEnd (head.drop off), r, hcut, hblank, ?_, hquery, ?_, rfl⟩
      · intro hzero
        have hdrop : trailingWhitespace (head.drop off) = 0 :=
          trailingWhitespace_right (by rwa [take_append_drop])
        have hlen := congrArg length hr
        rw [trimEnd_eq_self hdrop, length_append] at hlen
        exact length_eq_zero_iff.mp (by omega)
      · rw [← hcut, hlen]
        exact hstop
    · exact Or.inl rfl

lemma runsOn_append (hlen : 3 ≤ k.length) (hk : runsOn k = true) (v : Text) : runsOn (k ++ v) = true := by
  have hself : eqIgnoreAsciiCase k k = true := by simp [eqIgnoreAsciiCase]
  exact runsOn_word hself hlen hk v

lemma likesFrom_wrapOpen (hc : toAsciiLower c ≠ byte 'l') (prev : Option UInt8) (rest : Text) :
    likesFrom ⟨prev, wrapOpen ++ (c :: rest)⟩ = likesFrom ⟨prev, c :: rest⟩ := by
  rw [likesFrom_quiet (by decide) (by decide)]
  exact likesFrom_start hc _ _ rest

lemma likesFrom_target {a s y z : Text} (hquery : isQuery s = true) (hstop : Stop lowerLex (a ++ (s ++ y)) a.length)
    (hd : NoDollar (a ++ (s ++ y))) (prev : Option UInt8) :
    likesFrom ⟨prev, a ++ (wrapOpen ++ (s ++ z))⟩ + likesFrom ⟨byteBefore prev a, s ++ y⟩ =
      likesFrom ⟨prev, a ++ (s ++ y)⟩ + likesFrom ⟨byteBefore prev a, s ++ z⟩ := by
  obtain ⟨c, r, rfl, hnl, hneutral, hl, hruns⟩ := isQuery_spec hquery
  have hopen : (wrapOpen ++ (c :: r ++ z)).head? = some (byte 'S') := rfl
  rw [likesFrom_swap hstop hd rfl hnl hopen (by decide)
    (fun prev x _ hx => likeHit_runsOn prev hx (runsOn_append (by decide) (by decide) _) (hruns y)), cons_append, cons_append,
    likesFrom_wrapOpen hl]

lemma likesFrom_head (hd : NoDollar rest) (prev : Option UInt8) :
    likesFrom ⟨prev, wrapInsertSelectHead rest ++ utf8 " ON CONFLICT DO NOTHING"⟩ = likesFrom ⟨prev, rest⟩ := by
  rcases wrapInsertSelectHead_cases rest with hsame | ⟨a, s, r, rfl, hblank, -, hquery, hstop, heq⟩
  · rw [hsame]
    exact likesFrom_append_quiet hd (by decide) (by decide) (by decide) prev
  · have hds : NoDollar s := (hd.after hstop).left
    have hopen := likesFrom_target (z := wrapClose ++ utf8 " ON CONFLICT DO NOTHING") hquery hstop hd prev
    have hx := likesFrom_append_quiet hds hblank.closes hblank.plain hblank.quiet (byteBefore prev a)
    have hy := likesFrom_append_quiet (v := wrapClose ++ utf8 " ON CONFLICT DO NOTHING") hds (by decide) (by decide)
      (by decide) (byteBefore prev a)
    rw [heq]
    simp only [append_assoc]
    omega

lemma findWordInCodeCi_spec {word : String} {k : Nat} {prev : Option UInt8} {i : Nat}
    (h : findWordInCodeCi word k prev t = some i) : identEqCi ⟨byteBefore prev (t.take i), t.drop i⟩ word = true := by
  induction t generalizing k prev i with
  | nil => simp [findWordInCodeCi] at h
  | cons c rest ih =>
    have hnext {k : Nat} (h : (findWordInCodeCi word k (some c) rest).map (· + 1) = some i) :
        identEqCi ⟨byteBefore prev ((c :: rest).take i), (c :: rest).drop i⟩ word = true := by
      obtain ⟨j, hj, rfl⟩ := map_eq_some_iff.mp h
      rw [take_succ_cons, byteBefore_cons]
      exact ih hj
    cases k with
    | succ k => exact hnext h
    | zero =>
      obtain ⟨⟨kind, n⟩, hseg⟩ := isSome_iff_exists.mp (lowerLex_isSome c rest)
      rw [findWordInCodeCi, hseg] at h
      cases kind with
      | code =>
        split_ifs at h with hword
        · obtain rfl := some.inj h
          exact hword
        · exact hnext h
      | string | ident | comment => exact hnext h

lemma likesFrom_blank (prev : Option UInt8) : likesFrom ⟨prev, [byte ' ']⟩ = 0 :=
  likesFrom_drop_quiet (v := [byte ' ']) (by decide) (by decide) prev 0

lemma likesFrom_before {w u : Text} {b : UInt8} (hstop : Stop lowerLex (w ++ [byte ' ']) w.length)
    (hd : NoDollar (w ++ [byte ' '])) (hu : u.head? = some b) (hb : neutralByte b = true)
    (hword : closes u = true ∨ w.getLast?.all (fun c => !identCont c) = true) (prev : Option UInt8) :
    likesFrom ⟨prev, w ++ u⟩ = likesFrom ⟨prev, w ++ [byte ' ']⟩ + likesFrom ⟨byteBefore prev w, u⟩ := by
  have hswap := likesFrom_swap hstop hd rfl (by decide) hu hb ?_ prev
  · rwa [likesFrom_blank] at hswap
  · intro prev x hx hne
    rcases hword with hcloses | hlast
    · exact likeHit_closes prev x hcloses (by decide)
    · obtain ⟨y, rfl⟩ := hx
      rw [getLast?_append_of_ne_nil _ hne] at hlast
      have hsome : x.getLast? = some (x.getLast hne) := getLast?_eq_some_getLast hne
      rw [hsome] at hlast
      exact likeHit_last prev hsome (by simpa using hlast) _ _

def conflictReturning : Text :=
  utf8 " ON CONFLICT DO NOTHING RETURNING"

lemma likesFrom_conflictReturning (prev : Option UInt8) (t : Text) :
    likesFrom ⟨prev, conflictReturning ++ t⟩ = likesFrom ⟨some (byte 'G'), t⟩ :=
  likesFrom_quiet (by decide) (by decide) prev t

lemma likesFrom_wrapped (htrim : trailingWhitespace head = 0)
    (hstop : Stop lowerLex (head ++ [byte ' ']) head.length) (hd : NoDollar (head ++ [byte ' '])) (t : Text)
    (prev : Option UInt8) : likesFrom ⟨prev, wrapInsertSelectHead head ++ (conflictReturning ++ t)⟩ =
      likesFrom ⟨prev, head ++ [byte ' ']⟩ + likesFrom ⟨some (byte 'G'), t⟩ := by
  rcases wrapInsertSelectHead_cases head with hsame | ⟨a, s, r, hhead, -, hnil, hquery, hstopa, heq⟩
  · rw [hsame, likesFrom_before hstop hd rfl (by decide) (Or.inl rfl), likesFrom_conflictReturning]
  obtain rfl : r = [] := hnil htrim
  rw [append_nil] at hhead hstopa
  subst hhead
  obtain ⟨c, s', hs, -⟩ := isQuery_spec hquery
  have hne : s ≠ [] := hs ▸ cons_ne_nil _ _
  rw [append_assoc] at hd hstop
  have htarget : Stop lowerLex (a ++ (s ++ [byte ' '])) a.length := stop_extend hstopa hne hd
  have hopen := likesFrom_target (z := wrapClose ++ (conflictReturning ++ t)) hquery htarget hd prev
  have hsource : Stop lowerLex (s ++ [byte ' ']) s.length := by
    rw [length_append] at hstop
    have := htarget.sub proper_lowerLex hstop
    rwa [drop_left] at this
  have hclose := likesFrom_before (u := wrapClose ++ (conflictReturning ++ t)) (b := byte ')') hsource
    (hd.after htarget) rfl (by decide) (Or.inl rfl) (byteBefore prev a)
  rw [likesFrom_quiet (w := wrapClose) (by decide) (by decide), likesFrom_conflictReturning] at hclose
  rw [heq]
  simp only [append_assoc] at hopen ⊢
  omega

lemma plainByte_toAsciiLower (c : UInt8) : plainByte (toAsciiLower c) = plainByte c :=
  forall_byte (p := fun c => plainByte (toAsciiLower c) = plainByte c) (by decide +kernel) c

lemma notL_toAsciiLower (c : UInt8) : (toAsciiLower (toAsciiLower c) != byte 'l') = (toAsciiLower c != byte 'l') :=
  forall_byte (p := fun c => (toAsciiLower (toAsciiLower c) != byte 'l') = (toAsciiLower c != byte 'l'))
    (by decide +kernel) c

lemma likesFrom_word {kw : Text} (h : eqIgnoreAsciiCase k kw = true) (hplain : kw.all plainByte = true)
    (hl : kw.all (fun c => toAsciiLower c != byte 'l') = true) (hlast : kw.getLast? = some c)
    (hc : identCont c = true) (prev : Option UInt8) (u : Text) : likesFrom ⟨prev, k ++ u⟩ = likesFrom ⟨some c, u⟩ := by
  have hk : k.all plainByte = true := (all_of_eqIgnoreAsciiCase plainByte_toAsciiLower h).trans hplain
  have hkl := (all_of_eqIgnoreAsciiCase notL_toAsciiLower h).trans hl
  rw [likesFrom_quiet hk (quiet_of_forall fun b hb => by simpa using List.all_eq_true.mp hkl b hb)]
  apply likesFrom_prev
  have he : toAsciiLowercase k = toAsciiLowercase kw := by simpa only [eqIgnoreAsciiCase, beq_iff_eq] using h
  have hlow := congrArg getLast? he
  rw [toAsciiLowercase, toAsciiLowercase, getLast?_map, getLast?_map, hlast] at hlow
  obtain ⟨d, hd, hdc⟩ := map_eq_some_iff.mp hlow
  have hdcont : identCont d = true := by rw [← identCont_toAsciiLower, hdc, identCont_toAsciiLower, hc]
  simp [byteBefore, hd, hdcont, hc]

lemma likesFrom_returning {idx : Nat} (hd : NoDollar rest)
    (hidx : findWordInCodeCi "RETURNING" 0 none rest = some idx)
    (hstands : stopsAt lowerLex (trimEnd (rest.take idx)).length 0 (trimEnd (rest.take idx) ++ [byte ' ']) = true)
    (prev : Option UInt8) :
    likesFrom ⟨prev, wrapInsertSelectHead (trimEnd (rest.take idx)) ++ (conflictReturning ++ rest.drop (idx + 9))⟩ =
      likesFrom ⟨prev, rest⟩ := by
  obtain ⟨r, hr, hblank, htrim⟩ := trimEnd_spec (rest.take idx)
  obtain ⟨k, t, hword, hk, hprev, -⟩ := keywordAt_parts (findWordInCodeCi_spec hidx)
  generalize hw : trimEnd (rest.take idx) = w at hr htrim hstands ⊢
  have hword : rest.drop idx = k ++ t := hword
  have hklen : k.length = 9 := length_eq_of_eqIgnoreAsciiCase hk
  have ht : rest.drop (idx + 9) = t := by rw [← drop_drop, hword, drop_left' hklen]
  have hrest : rest = w ++ (r ++ (k ++ t)) := by rw [← append_assoc, ← hr, ← hword, take_append_drop]
  have hstop := stop_of_stopsAt proper_lowerLex hstands
  -- the byte behind the head is white space, or the first of `RETURNING` behind a byte of no word
  obtain ⟨b, hb, hneutral, hseam⟩ : ∃ b, (r ++ (k ++ t)).head? = some b ∧ neutralByte b = true ∧
      (closes (r ++ (k ++ t)) = true ∨ w.getLast?.all (fun c => !identCont c) = true) := by
    cases r with
    | cons d r => exact ⟨d, rfl, hblank.neutral d rfl, Or.inl hblank.closes⟩
    | nil =>
      obtain ⟨d, k', rfl⟩ := exists_cons_of_length_pos (l := k) (by omega)
      have hd : toAsciiLower d = toAsciiLower (byte 'R') := (eqIgnoreAsciiCase_cons.mp hk).1
      have hneutral : neutralByte d = true := forall_byte (p := fun d => toAsciiLower d = toAsciiLower (byte 'R') →
        neutralByte d = true) (by decide +kernel) d hd
      refine ⟨d, rfl, hneutral, Or.inr ?_⟩
      rw [hr] at hprev
      simpa [byteBefore] using hprev
  rw [hrest] at hd
  obtain ⟨-, hdbase⟩ := stop_into hstop hd (by decide) rfl (by decide) hb hneutral
  have hx := likesFrom_before hstop hdbase hb hneutral hseam prev
  rw [likesFrom_quiet hblank.plain hblank.quiet, likesFrom_word hk (by decide) (by decide) (c := byte 'G') (by decide)
    (by decide)] at hx
  rw [likesFrom_wrapped htrim hstop hdbase, ht, hrest, hx]

def insertOrIgnoreInto : Text :=
  utf8 "INSERT OR IGNORE INTO"

lemma insertOrIgnoreRest_spec {sql : Text} (h : insertOrIgnoreRest sql = some rest) :
    ∃ p k, sql.take (skipTriviaIdx 0 sql) = p ∧ sql = p ++ (k ++ rest) ∧
      eqIgnoreAsciiCase k insertOrIgnoreInto = true ∧ Stop lowerLex (p ++ (k ++ rest)) p.length := by
  rw [insertOrIgnoreRest, stripPrefixCi] at h
  split_ifs at h with hk
  have hstop := stop_skipTriviaIdx sql
  have hsql : sql = sql.take (skipTriviaIdx 0 sql) ++
      ((sql.drop (skipTriviaIdx 0 sql)).take (utf8 "INSERT OR IGNORE INTO").length ++ rest) := by
    rw [← some.inj h, take_append_drop, take_append_drop]
  refine ⟨_, _, rfl, hsql, hk, ?_⟩
  rw [← hsql, length_take, Nat.min_eq_left hstop.le_length]
  exact hstop

lemma likesFrom_front {p z : Text} (hk : eqIgnoreAsciiCase k insertOrIgnoreInto = true)
    (hstop : Stop lowerLex (p ++ (k ++ rest)) p.length) (hd : NoDollar (p ++ (k ++ rest)))
    (hz : likesFrom ⟨some (byte 'O'), z⟩ = likesFrom ⟨some (byte 'O'), rest⟩) :
    likesFrom ⟨none, p ++ (utf8 "INSERT INTO" ++ z)⟩ = likesFrom ⟨none, p ++ (k ++ rest)⟩ := by
  obtain ⟨c, k', rfl⟩ := exists_cons_of_length_pos (by
    rw [length_eq_of_eqIgnoreAsciiCase hk]
    decide)
  have hc : c ≠ byte '\n' := by
    have hfirst : toAsciiLower c = toAsciiLower (byte 'I') := (eqIgnoreAsciiCase_cons.mp hk).1
    rintro rfl
    exact absurd hfirst (by decide)
  have hinto : (utf8 "INSERT INTO" ++ z).head? = some (byte 'I') := rfl
  have hswap := likesFrom_swap hstop hd rfl hc hinto (by decide)
    (fun prev x _ hx => likeHit_runsOn prev hx (runsOn_append (by decide) (by decide) z)
      (runsOn_word hk (by decide) (by decide) rest)) none
  have hself : eqIgnoreAsciiCase (utf8 "INSERT INTO") (utf8 "INSERT INTO") = true := by decide
  rw [likesFrom_word hk (by decide) (by decide) (c := byte 'O') (by decide) (by decide),
    likesFrom_word hself (by decide) (by decide) (c := byte 'O') (by decide) (by decide), hz] at hswap
  exact Nat.add_right_cancel hswap

theorem likes_rewriteInsertOrIgnoreUniqueConflict {sql : Text} (hd : NoDollar sql) (hstands : ReturningStands sql) :
    likesFrom (Scan.start (rewriteInsertOrIgnoreUniqueConflict sql)) = likesFrom (Scan.start sql) := by
  rw [rewriteInsertOrIgnoreUniqueConflict]
  cases hins : insertOrIgnoreRest sql with
  | none => rfl
  | some rest =>
    obtain ⟨p, k, hp, hsql, hk, hstop⟩ := insertOrIgnoreRest_spec hins
    have hdsql : NoDollar (p ++ (k ++ rest)) := hsql ▸ hd
    have hplain : k.all plainByte = true := (all_of_eqIgnoreAsciiCase plainByte_toAsciiLower hk).trans (by decide)
    have hdrest : NoDollar rest := (hdsql.after hstop).after (stop_plain hplain rest)
    rw [hp, hsql]
    apply likesFrom_front hk hstop hdsql
    cases hidx : findWordInCodeCi "RETURNING" 0 none rest with
    | none => exact likesFrom_head hdrest _
    | some idx => exact likesFrom_returning hdrest hidx (hstands rest hins idx hidx) _

lemma length_wrapInsertSelectHead (head : Text) : (wrapInsertSelectHead head).length ≤ head.length + 45 := by
  rcases wrapInsertSelectHead_cases head with hsame | ⟨a, s, r, hhead, -, -, -, -, heq⟩
  · rw [hsame]
    omega
  · have hopen : wrapOpen.length = 15 := by decide
    have hclose : wrapClose.length = 30 := by decide
    rw [heq, hhead]
    simp only [length_append]
    omega

theorem length_rewriteInsertOrIgnoreUniqueConflict (sql : Text) :
    (rewriteInsertOrIgnoreUniqueConflict sql).length ≤
      sql.length + if (insertOrIgnoreRest sql).isSome then 256 else 0 := by
  rw [rewriteInsertOrIgnoreUniqueConflict]
  cases hins : insertOrIgnoreRest sql with
  | none => exact Nat.le_add_right ..
  | some rest =>
    obtain ⟨p, k, hp, hsql, hk, -⟩ := insertOrIgnoreRest_spec hins
    have hinto : (utf8 "INSERT INTO").length = 11 := by decide
    dsimp only
    rw [hp, hsql]
    cases hidx : findWordInCodeCi "RETURNING" 0 none rest with
    | none =>
      have hhead := length_wrapInsertSelectHead rest
      have hconflict : (utf8 " ON CONFLICT DO NOTHING").length = 23 := by decide
      simp only [length_append, isSome_some, if_true]
      omega
    | some idx =>
      obtain ⟨k', t, hword, hk', -, -⟩ := keywordAt_parts (findWordInCodeCi_spec hidx)
      obtain ⟨r, hr, -, -⟩ := trimEnd_spec (rest.take idx)
      have hhead := length_wrapInsertSelectHead (trimEnd (rest.take idx))
      have hr := congrArg length hr
      have hconflict : (utf8 " ON CONFLICT DO NOTHING RETURNING").length = 33 := by decide
      simp only [length_append, length_drop, length_take, isSome_some, if_true] at hword hr ⊢
      omega

end Bookclerk.Sql.Lower
