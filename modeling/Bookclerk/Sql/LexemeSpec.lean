import Bookclerk.Sql.ParserSpec

namespace Bookclerk.Sql

open Lexical P LexState List

variable {n : Nat} {s : Scan} {t : Text} {c : UInt8}

lemma skip_of_atToken (h : AtToken s.rest) : s.skip = s := by
  obtain ⟨prev, rest⟩ := s
  cases rest with
  | nil => rfl
  | cons c r =>
    obtain ⟨hw, hd, hs⟩ := h c r rfl
    simp only [Scan.skip, skipTrivia]
    rw [if_neg (by simp [hw]), if_neg (fun h => hd h.1 h.2), if_neg (fun h => hs h.1 h.2)]

lemma skip_skip (s : Scan) : s.skip.skip = s.skip :=
  skip_of_atToken (atToken_skipTrivia _ _ _ _)

section Lexemes

variable {m : Nat}

lemma skip_reads : Reads m .eps P.skip :=
  ⟨fun s _ => wp_skip ⟨Consumes.skip s, .eps⟩⟩

lemma look_reads {α : Type} (f : Scan → α) : Reads m .eps (look f) :=
  ⟨fun s _ => wp_look ⟨Consumes.refl s, .eps⟩⟩

lemma lexeme_tests {k : LexKind} {n : Scan → Nat} {t : Scan → Bool} {body : P Bool}
    (hbody : ∀ s, body s = if t s.skip then .ok (true, [.leaf k (s.skip.rest.take (n s.skip))], s.skip.advance (n s.skip))
      else .ok (false, [], s.skip))
    (h : ∀ s, AtToken s.rest → t s = true → 0 < n s ∧ n s ≤ s.rest.length ∧ k.Spells (s.rest.take (n s)) ∧
      code.significant s.rest = s.rest.take (n s) ++ code.significant (s.rest.drop (n s))) : Tests m (.lex k) body := by
  refine ⟨fun s _ => ?_⟩
  have hsk : Consumes s [] s.skip := Consumes.skip s
  unfold wp
  rw [hbody]
  cases ht : t s.skip with
  | false => exact ⟨by simp, fun _ => ⟨hsk, .eps⟩⟩
  | true =>
    obtain ⟨hpos, hle, hspell, hsig⟩ := h s.skip (atToken_skipTrivia _ _ _ _) ht
    have hc := hsk.trans (Consumes.lexeme (k := k) hsig)
    refine ⟨fun _ => ⟨⟨hc, .lex hspell⟩, ?_⟩, by simp⟩
    have := hsk.length
    simp only [Scan.advance, length_drop]
    omega

lemma alphabetic_of_toAsciiLower {d : UInt8} (h : toAsciiLower c = toAsciiLower d) (hd : isAsciiAlphabetic d = true) :
    isAsciiAlphabetic c = true := by
  have hl (c : UInt8) : isAsciiAlphabetic c = isAsciiLower (toAsciiLower c) :=
    forall_byte (p := fun c => isAsciiAlphabetic c = isAsciiLower (toAsciiLower c)) (by decide +kernel) c
  rw [hl, h, ← hl, hd]

lemma plainByte_of_identCont (h : identCont c = true) : plainByte c = true :=
  forall_byte (p := fun c => identCont c = true → plainByte c = true) (by decide +kernel) c h

lemma identCont_of_alphabetic (h : isAsciiAlphabetic c = true) : identCont c = true := by
  simp [identCont, identStart, h]

lemma all_plain_of_eqIgnoreAsciiCase {w : Text} (h : eqIgnoreAsciiCase t w = true) (hw : w.all isAsciiAlphabetic = true) :
    t.all plainByte = true := by
  have he : t.map toAsciiLower = w.map toAsciiLower := by simpa [eqIgnoreAsciiCase, toAsciiLowercase] using h
  clear h
  induction t generalizing w with
  | nil => rfl
  | cons c t ih =>
    cases w with
    | nil => simp at he
    | cons d w =>
      obtain ⟨hd, hw⟩ : isAsciiAlphabetic d = true ∧ w.all isAsciiAlphabetic = true := by simpa using hw
      obtain ⟨hcd, htw⟩ : toAsciiLower c = toAsciiLower d ∧ t.map toAsciiLower = w.map toAsciiLower := by simpa using he
      rw [all_cons, ih hw htw, Bool.and_true]
      exact plainByte_of_identCont (identCont_of_alphabetic (alphabetic_of_toAsciiLower hcd hd))

lemma significant_take_drop (h : (t.take n).all plainByte = true) : code.significant t = t.take n ++ code.significant (t.drop n) := by
  conv_lhs => rw [← take_append_drop n t]
  exact significant_plain_append h _

lemma take_length_takeWhile (p : UInt8 → Bool) (t : Text) : t.take (t.takeWhile p).length = t.takeWhile p :=
  (prefix_iff_eq_take.mp ( takeWhile_prefix p)).symm

lemma bind_apply {α β : Type} (p : P α) (f : α → P β) (s : Scan) : (p >>= f) s = andThen p f s := rfl

lemma Kw.text_alphabetic (w : Kw) : w.text.all isAsciiAlphabetic = true ∧ w.text ≠ [] := by
  cases w <;> decide +kernel

lemma Punct.text_plain (p : Punct) : ∃ c r, p.text = c :: r ∧ c ≠ byte '\'' ∧ c ≠ byte '"' ∧ r.all plainByte = true := by
  cases p <;> exact ⟨_, _, rfl, by decide, by decide, by decide⟩

lemma takeKw_tests {w : Kw} : Tests m (Rx.kw w) (takeKw w) := by
  obtain ⟨hw, hne⟩ := w.text_alphabetic
  refine lexeme_tests (n := fun _ => w.text.length) (t := fun s => keywordAt s w.text) ?_ ?_
  · intro s
    cases hk : keywordAt s.skip w.text <;>
      simp [takeKw, bind_apply, andThen, P.skip, look, lexeme, pure, ret, hk]
  · intro s _ ht
    obtain ⟨heq, -⟩ : eqIgnoreAsciiCase (s.rest.take w.text.length) w.text = true ∧ _ := by
      simpa [keywordAt, and_assoc] using ht
    have hlen := length_eq_of_eqIgnoreAsciiCase heq
    rw [length_take] at hlen
    refine ⟨length_pos_of_ne_nil hne, by omega, heq, significant_take_drop ?_⟩
    exact all_plain_of_eqIgnoreAsciiCase heq hw

lemma takePunct_tests {p : Punct} : Tests m (Rx.pn p) (takePunct p) := by
  obtain ⟨c, r, hp, h1, h2, hr⟩ := p.text_plain
  refine lexeme_tests (n := fun _ => p.text.length) (t := fun s => p.text.isPrefixOf s.rest) ?_ ?_
  · intro s
    cases hk : p.text.isPrefixOf s.skip.rest <;>
      simp [takePunct, bind_apply, andThen, P.skip, look, lexeme, pure, ret, hk]
  · intro s htok ht
    obtain ⟨u, hu⟩ := isPrefixOf_iff_prefix.mp ht
    have htake : s.rest.take p.text.length = p.text := by rw [← hu]; simp
    have hdrop : s.rest.drop p.text.length = u := by rw [← hu]; simp
    rw [hp, cons_append] at hu
    refine ⟨by simp [hp], by simp [← hu, hp], htake, ?_⟩
    rw [htake, hdrop, ← hu, significant_token (hu ▸ htok) h1 h2, significant_plain_append hr, hp]
    rfl

lemma peekKw_reads (w : Kw) : Reads m .eps (P.peekKw w) :=
  skip_reads.bind_of_eps fun _ => look_reads _

lemma peekByte_reads (c : UInt8) : Reads m .eps (P.peekByte c) :=
  skip_reads.bind_of_eps fun _ => look_reads _

lemma anyKw_reads (ws : List Kw) : Reads m .eps (anyKw ws) :=
  skip_reads.bind_of_eps fun _ => look_reads _

lemma denyDoubleColon_reads : Reads m .eps denyDoubleColon :=
  skip_reads.bind_of_eps fun _ => Reads.deny (look_reads _) _ (Reads.ret ())

lemma rejectOversizeIdent_reads (ident : Text) : Reads m .eps (rejectOversizeIdent ident) :=
  Reads.ite (fun _ => Reads.ret ()) fun _ => Reads.fail _

lemma skipIdentOrQuoted_eq_some (hq : atQuotedName s = false) (h : skipIdentOrQuoted s.rest = some n) :
    ∃ c r, s.rest = c :: r ∧ identStart c = true ∧ n = 1 + (r.takeWhile identCont).length := by
  cases hr : s.rest with
  | nil => simp [hr, skipIdentOrQuoted] at h
  | cons c r =>
    have hc : ¬ (c = byte '"' ∨ c = backtick ∨ c = byte '[') := by
      simpa [atQuotedName, hr, and_assoc] using hq
    simp only [hr, skipIdentOrQuoted, if_neg hc] at h
    split_ifs at h with hs
    exact ⟨c, r, rfl, hs, by simpa [eq_comm] using h⟩

lemma readIdent_wp (hq : atQuotedName s.skip = false) :
    wp readIdent (fun x ts s' => (x.isSome → Yields Rx.word s ts s') ∧ Yields (Rx.opt Rx.word) s ts s') s := by
  have hsk : Consumes s [] s.skip := Consumes.skip s
  cases hn : skipIdentOrQuoted s.skip.rest with
  | none =>
    simp only [wp, readIdent, bind_apply, andThen, P.skip, look, hn]
    exact ⟨by simp, ⟨hsk, .inr .eps⟩⟩
  | some n =>
    obtain ⟨c, r, hr, hs, rfl⟩ := skipIdentOrQuoted_eq_some hq hn
    have htake : s.skip.rest.take (1 + (r.takeWhile identCont).length) = c :: r.takeWhile identCont := by
      rw [hr, Nat.add_comm, take_succ_cons, take_length_takeWhile]
    have hall : (c :: r.takeWhile identCont).all plainByte = true := by
      rw [all_cons, plainByte_of_identCont (by simp [identCont, hs]), Bool.true_and, all_eq_true]
      exact fun x hx => plainByte_of_identCont (all_eq_true.mp all_takeWhile x hx)
    have hc := hsk.trans (Consumes.lexeme (k := .word) (significant_take_drop (htake ▸ hall)))
    rw [htake] at hc
    have hy : Yields Rx.word s [.leaf .word (c :: r.takeWhile identCont)]
        (s.skip.advance (1 + (r.takeWhile identCont).length)) :=
      ⟨hc, .lex ⟨c, _, rfl, hs, all_takeWhile⟩⟩
    simp only [wp, readIdent, bind_apply, andThen, P.skip, look, hn, lexeme, htake]
    exact ⟨fun _ => hy, hy.mono .inl⟩

lemma denyQuotedIdent_wp (s : Scan) : wp denyQuotedIdent (fun _ ts s' => ts = [] ∧ s' = s.skip ∧ atQuotedName s.skip = false) s := by
  refine wp_bind (wp_skip (wp_bind (wp_look ?_)))
  cases hq : atQuotedName s.skip with
  | true => exact wp_fail _
  | false => exact wp_pure ⟨rfl, rfl, rfl⟩

lemma denyQuotedIdent_reads : Reads m .eps denyQuotedIdent := by
  refine ⟨fun s _ => ?_⟩
  refine wp_mono (denyQuotedIdent_wp s) ?_
  rintro _ ts s' ⟨rfl, rfl, -⟩
  exact ⟨Consumes.skip s, .eps⟩

lemma parseV1Ident_reads : Reads m Rx.word parseV1Ident := by
  refine ⟨fun s hs => ?_⟩
  refine wp_bind (wp_mono (denyQuotedIdent_wp s) ?_)
  rintro _ ts s₁ ⟨rfl, rfl, hq⟩
  refine wp_bind (wp_mono (readIdent_wp (by rwa [skip_skip])) ?_)
  rintro x us s₂ ⟨hy, -⟩
  have hsk : Yields .eps s [] s.skip := ⟨Consumes.skip s, .eps⟩
  cases x with
  | none => exact wp_fail _
  | some ident =>
    have hy := hsk.of_eps (hy rfl)
    refine wp_mono (((rejectOversizeIdent_reads ident).bind_ret).run s₂
      (hy.length.trans_lt hs)) ?_
    intro _ vs s₃ hy'
    simpa using (hy.seq hy').mono fun h => h.seq_eps

lemma parseV1TableName_reads : Reads m Rx.word parseV1TableName :=
  (parseV1Ident_reads.bind fun _ => Reads.deny (peekByte_reads _) _ (Reads.ret _)).mono fun _ h => h.seq_eps

lemma parseV1OptionalAlias_reads : Reads m (Rx.opt Rx.word) parseV1OptionalAlias := by
  refine (Reads.peek (anyKw_reads _) (Reads.ret false) (b := Rx.opt Rx.word) ?_).mono ?_
  · refine ⟨fun s hs => ?_⟩
    have hsk : Yields .eps s [] s.skip := ⟨Consumes.skip s, .eps⟩
    refine wp_bind (wp_skip (wp_bind (wp_look ?_)))
    cases hq : atQuotedName s.skip with
    | true => exact wp_pure ⟨Consumes.skip s, .inr .eps⟩
    | false =>
      refine wp_bind (wp_mono (readIdent_wp (by rwa [skip_skip])) ?_)
      rintro x us s₂ ⟨-, hy⟩
      exact wp_pure (by simpa using hsk.of_eps hy)
  · intro ts h
    cases h with
    | inl h => exact .inr h
    | inr h => exact h

lemma optAliasAfterAs_reads : Reads m Rx.asName optAliasAfterAs :=
  Reads.test takeKw_tests parseV1Ident_reads.bind_ret parseV1OptionalAlias_reads.bind_ret

lemma all_take_add {p : UInt8 → Bool} {i j : Nat} (hi : (t.take i).all p = true)
    (hj : ((t.drop i).take j).all p = true) : (t.take (i + j)).all p = true := by
  rw [take_add, all_append, hi, hj, Bool.and_true]

lemma digitsLen_le (t : Text) : digitsLen t ≤ t.length :=
  ( takeWhile_prefix _).length_le

def numberByte (c : UInt8) : Bool :=
  isAsciiDigit c || c == byte '.'

lemma plainByte_of_numberByte (h : numberByte c = true) : plainByte c = true :=
  forall_byte (p := fun c => numberByte c = true → plainByte c = true) (by decide +kernel) c h

lemma all_take_digits (t : Text) : (t.take (digitsLen t)).all numberByte = true := by
  rw [digitsLen, take_length_takeWhile, all_eq_true]
  intro c hc
  simp [numberByte, all_eq_true.mp all_takeWhile c hc]

lemma all_take_dot (t : Text) (h : t.head? = some (byte '.')) : (t.take 1).all numberByte = true := by
  cases t with
  | nil => rfl
  | cons c r =>
    obtain rfl : c = byte '.' := by simpa using h
    simp +decide

lemma numberLen_spec (t : Text) : numberLen t ≤ t.length ∧ (t.take (numberLen t)).all numberByte = true := by
  have hdot : (if t.head? = some (byte '.') then 1 else 0) ≤ t.length ∧
      (t.take (if t.head? = some (byte '.') then 1 else 0)).all numberByte = true := by
    split_ifs with h
    · refine ⟨?_, all_take_dot t h⟩
      cases t with
      | nil => simp at h
      | cons c r => simp
    · simp
  simp only [numberLen]
  generalize (if t.head? = some (byte '.') then 1 else 0) = dot at hdot ⊢
  have hwhole : dot + digitsLen (t.drop dot) ≤ t.length := by
    have := digitsLen_le (t.drop dot)
    rw [length_drop] at this
    omega
  have hall := all_take_add hdot.2 (all_take_digits (t.drop dot))
  generalize digitsLen (t.drop dot) = whole at hwhole hall ⊢
  split_ifs with h1 h2
  · obtain ⟨h1, -⟩ := h1
    have hfrac := digitsLen_le ((t.drop (dot + whole)).drop 1)
    have hne : 0 < (t.drop (dot + whole)).length := by
      cases hd : t.drop (dot + whole) with
      | nil => simp [hd] at h1
      | cons c r => simp
    rw [length_drop] at hfrac hne
    refine ⟨by rw [length_drop] at hfrac; omega, ?_⟩
    refine all_take_add (all_take_add hall (all_take_dot _ h1)) ?_
    simpa only [drop_drop] using all_take_digits ((t.drop (dot + whole)).drop 1)
  · simp
  · exact ⟨hwhole, hall⟩

lemma takeV1Number_tests : Tests m (.lex .number) takeV1Number := by
  refine lexeme_tests (n := fun s => numberLen s.rest) (t := fun s => numberLen s.rest != 0) ?_ ?_
  · intro s
    by_cases hk : numberLen s.skip.rest = 0 <;>
      simp [takeV1Number, bind_apply, andThen, P.skip, look, lexeme, pure, ret, hk]
  · intro s _ ht
    obtain ⟨hle, hall⟩ := numberLen_spec s.rest
    have hpos : 0 < numberLen s.rest := by simpa [Nat.pos_iff_ne_zero] using ht
    refine ⟨hpos, hle, ⟨?_, hall⟩, significant_take_drop ?_⟩
    · intro h
      have hlen := congrArg length h
      rw [length_take, length_nil] at hlen
      omega
    · exact all_eq_true.mpr fun c hc => plainByte_of_numberByte (all_eq_true.mp hall c hc)

lemma significant_quotedString (t : Text) :
    str.significant t = t.take (Scan.quotedStringLen (byte '\'') 0 t) ++
      code.significant (t.drop (Scan.quotedStringLen (byte '\'') 0 t)) ∧
    (t.head? = some (byte '\'') → code.significant t = t.take (Scan.quotedStringLen (byte '\'') 1 t) ++
      code.significant (t.drop (Scan.quotedStringLen (byte '\'') 1 t))) := by
  induction t with
  | nil => simp [flush]
  | cons c t ih =>
    obtain ⟨ih0, ih1⟩ := ih
    refine ⟨?_, ?_⟩
    · by_cases hc : c = byte '\''
      · subst hc
        by_cases hr : t.head? = some (byte '\'')
        · rw [significant_cons]
          simpa [Scan.quotedStringLen, hr, emit, step] using ih1 hr
        · rw [significant_cons]
          simp [Scan.quotedStringLen, hr, emit, step]
      · rw [significant_cons]
        simpa [Scan.quotedStringLen, hc, emit, step] using ih0
    · intro hc
      obtain rfl : c = byte '\'' := by simpa using hc
      rw [significant_cons]
      simpa +decide [Scan.quotedStringLen, emit, emitCode, step, fromCode] using ih0

lemma takeV1String_tests : Tests m (.lex .string) takeV1String := by
  refine lexeme_tests (n := fun s => 1 + Scan.quotedStringLen (byte '\'') 0 (s.rest.drop 1))
    (t := fun s => s.rest.head? == some (byte '\'')) ?_ ?_
  · intro s
    by_cases hk : s.skip.rest.head? = some (byte '\'') <;>
      simp [takeV1String, bind_apply, andThen, P.skip, look, lexeme, pure, ret, hk]
  · intro s _ ht
    obtain ⟨r, hr⟩ : ∃ r, s.rest = byte '\'' :: r := by
      cases hr : s.rest with
      | nil => simp [hr] at ht
      | cons c r => exact ⟨r, by simpa [hr] using ht⟩
    have hle := Scan.quotedStringLen_le (byte '\'') 0 r
    have hsig := (significant_quotedString r).1
    rw [hr]
    refine ⟨by omega, by simp; omega, ?_, ?_⟩
    · rw [Nat.add_comm]
      exact ⟨_, rfl⟩
    · rw [significant_cons, Nat.add_comm]
      simpa +decide [emit, emitCode, step, fromCode] using hsig

lemma significant_hex {h : Text} (hh : h.all isAsciiHexdigit = true) (u : Text) :
    str.significant (h ++ byte '\'' :: u) = h ++ byte '\'' :: code.significant u := by
  induction h with
  | nil => simp [significant_cons, emit, step]
  | cons c h ih =>
    obtain ⟨hc, hh⟩ : isAsciiHexdigit c = true ∧ h.all isAsciiHexdigit = true := by simpa using hh
    have hne : c ≠ byte '\'' := by
      rintro rfl
      exact absurd hc (by decide)
    rw [cons_append, significant_cons]
    simp [emit, step, hne, ih hh]

lemma blobHexLen_ne_zero (h : blobHexLen t ≠ 0) : ∃ x hex u, t = x :: byte '\'' :: (hex ++ byte '\'' :: u) ∧
    toAsciiLower x = byte 'x' ∧ hex.all isAsciiHexdigit = true ∧ blobHexLen t = hex.length + 3 := by
  simp only [blobHexLen] at h ⊢
  split_ifs at h ⊢ with hc
  · obtain ⟨hx, hq, he⟩ := hc
    match t with
    | [] => simp at hq
    | [x] => simp at hq
    | x :: q :: r =>
      obtain rfl : q = byte '\'' := by simpa using hq
      have hx : toAsciiLower x = byte 'x' := by
        have hb : (utf8 "x").map toAsciiLower = [byte 'x'] := by decide
        simpa [eqIgnoreAsciiCase, toAsciiLowercase, hb] using hx
      have hsplit := takeWhile_append_dropWhile (p := isAsciiHexdigit) (l := r)
      have hu : ∃ u, r.dropWhile isAsciiHexdigit = byte '\'' :: u := by
        have he : r[(r.takeWhile isAsciiHexdigit).length]? = some (byte '\'') := by
          simpa [Nat.add_comm 2] using he
        have he : (r.takeWhile isAsciiHexdigit ++ r.dropWhile isAsciiHexdigit)[(r.takeWhile isAsciiHexdigit).length]? =
            some (byte '\'') := by rwa [hsplit]
        cases hd : r.dropWhile isAsciiHexdigit with
        | nil => simp [hd] at he
        | cons c u => exact ⟨u, by simpa [hd] using he⟩
      obtain ⟨u, hu⟩ := hu
      refine ⟨x, r.takeWhile isAsciiHexdigit, u, ?_, hx, all_takeWhile, by simp [Nat.add_comm]⟩
      rw [← hu, hsplit]
  · simp at h

lemma takeV1BlobHex_tests : Tests m (.lex .blob) takeV1BlobHex := by
  refine lexeme_tests (n := fun s => blobHexLen s.rest) (t := fun s => blobHexLen s.rest != 0) ?_ ?_
  · intro s
    by_cases hk : blobHexLen s.skip.rest = 0 <;>
      simp [takeV1BlobHex, bind_apply, andThen, P.skip, look, lexeme, pure, ret, hk]
  · intro s _ ht
    obtain ⟨x, hex, u, hr, hx, hh, hn⟩ := blobHexLen_ne_zero (by simpa using ht)
    have hplain : plainByte x = true :=
      forall_byte (p := fun x => toAsciiLower x = byte 'x' → plainByte x = true) (by decide +kernel) x hx
    have hlen : s.rest = (x :: byte '\'' :: (hex ++ [byte '\''])) ++ u := by simp [hr]
    have htake : s.rest.take (hex.length + 3) = x :: byte '\'' :: (hex ++ [byte '\'']) := by
      rw [hlen, take_left' (by simp)]
    rw [hn, htake]
    refine ⟨by omega, by simp [hr], ⟨x, _, rfl, hx⟩, ?_⟩
    have hq : code.significant (byte '\'' :: (hex ++ byte '\'' :: u)) =
        byte '\'' :: str.significant (hex ++ byte '\'' :: u) := by
      rfl
    rw [hr, significant_plain hplain, hq, significant_hex hh]
    simp

lemma dropBody_wp (s : Scan) : wp dropBody (fun _ ts s' => Yields .unread s ts s' ∧ s'.rest = []) s := by
  refine ⟨⟨⟨?_, ?_⟩, .unread⟩, ?_⟩ <;> simp [spelled, forestText, Tree.text, Scan.advance, flush]

lemma endOfBody_wp (what : String) (s : Scan) : wp (endOfBody what) (fun _ ts s' => Yields .eps s ts s' ∧ s'.rest = []) s := by
  refine wp_bind (wp_skip (wp_bind (wp_look ?_)))
  cases hr : s.skip.rest.isEmpty with
  | true => exact wp_pure ⟨⟨Consumes.skip s, .eps⟩, by simpa using hr⟩
  | false => exact wp_fail _

variable {α : Type} {r : Rx} {p : P α}

lemma Closes.of_reads (hp : Reads m r p) (what : String) : Closes m r (p >>= fun _ => endOfBody what) := by
  refine ⟨fun s hs => ?_⟩
  refine wp_bind (wp_mono (hp.run s hs) ?_)
  intro _ ts s₁ hy
  refine wp_mono (endOfBody_wp what s₁) ?_
  intro _ us s₂ ⟨hy', he⟩
  exact ⟨(hy.seq hy').mono fun h => h.seq_eps, he⟩

lemma Closes.of_dropped (hp : Reads m r p) : Closes m (.seq r .unread) (p >>= fun _ => dropBody) := by
  refine ⟨fun s hs => ?_⟩
  refine wp_bind (wp_mono (hp.run s hs) ?_)
  intro _ ts s₁ hy
  refine wp_mono (dropBody_wp s₁) ?_
  intro _ us s₂ ⟨hy', he⟩
  exact ⟨hy.seq hy', he⟩

lemma significant_close {s : LexState} (h : s.inCode = true) (t : Text) :
    s.significant (byte ')' :: t) = s.flush ++ byte ')' :: code.significant t := by
  cases s with
  | code | dash | slash => rfl
  | line | block | star | str | ident => simp [inCode] at h

lemma significant_balanced {inner post : Text} (h : (code.run inner).inCode = true) :
    code.significant (inner ++ byte ')' :: post) = code.significant inner ++ byte ')' :: code.significant post := by
  rw [significant_append, significant_close h]
  simp [significant]

lemma takeBalancedInner_eq_some {s' : Scan} {inner : Text} (h : s.takeBalancedInner = some (inner, s')) :
    s.rest = inner ++ byte ')' :: s'.rest ∧ (code.run inner).inCode = true := by
  unfold Scan.takeBalancedInner at h
  split_ifs at h with hp
  obtain ⟨n, hn, he⟩ := Option.map_eq_some_iff.mp h
  obtain ⟨inner', post, hr, rfl, hc⟩ := skipBalancedParens_eq_some hn
  obtain ⟨rfl, rfl⟩ : inner' = inner ∧ s.advance (inner'.length + 1) = s' := by simpa [hr] using he
  refine ⟨?_, hc⟩
  simp [Scan.advance, hr]

lemma balancedInner_reads (what : String) (hp : Closes (m - 1) r p) : Reads m (.seq r (Rx.pn .rparen)) (balancedInner what p) := by
  refine ⟨fun s hs => ?_⟩
  unfold wp balancedInner
  cases hb : s.takeBalancedInner with
  | none => simp
  | some x =>
    obtain ⟨inner, s'⟩ := x
    obtain ⟨hr, hc⟩ := takeBalancedInner_eq_some hb
    have hlen : s.rest.length = inner.length + (s'.rest.length + 1) := by simp [hr]
    have hbody := hp.run (.start inner) (by simp only [Scan.start]; omega)
    unfold wp at hbody
    cases hi : p (.start inner) with
    | error e => simpa [hi] using hbody
    | ok x =>
      obtain ⟨a, ts, s''⟩ := x
      simp only [hi] at hbody ⊢
      obtain ⟨hy, he⟩ := hbody
      refine ⟨⟨?_, by omega⟩, hy.derives.seq (.lex rfl)⟩
      have hin : code.significant inner = spelled ts := by
        simpa [Scan.start, he, flush] using hy.text
      rw [hr, significant_balanced hc, hin, spelled, spelled, forestText_append]
      have hb : Punct.rparen.text = [byte ')'] := by decide
      simp [forestText, Tree.text, hb]

end Lexemes

end Bookclerk.Sql
