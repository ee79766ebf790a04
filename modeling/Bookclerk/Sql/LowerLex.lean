import Bookclerk.Sql.ScannerAgreement

namespace Bookclerk.Sql

open Lexical List Option

variable {i k n : Nat} {rest : Text} {c q : UInt8}

lemma findText_prefix {pat t : Text} (h : findText pat t = some i) : pat <+: t.drop i := by
  induction t generalizing i with
  | nil =>
    rw [findText] at h
    split_ifs at h with hp
    rw [List.isEmpty_iff.mp hp]
    exact nil_prefix
  | cons c rest ih =>
    rw [findText] at h
    split_ifs at h with hp
    · obtain rfl := some.inj h
      exact isPrefixOf_iff_prefix.mp hp
    · obtain ⟨j, hj, rfl⟩ := map_eq_some_iff.mp h
      exact ih hj

lemma findText_add_length_le {pat t : Text} (h : findText pat t = some i) : i + pat.length ≤ t.length := by
  induction t generalizing i with
  | nil =>
    rw [findText] at h
    split_ifs at h with hp
    obtain rfl := some.inj h
    rw [List.isEmpty_iff.mp hp]
    rfl
  | cons c rest ih =>
    rw [findText] at h
    split_ifs at h with hp
    · obtain rfl := some.inj h
      simpa using ( isPrefixOf_iff_prefix.mp hp).length_le
    · obtain ⟨j, hj, rfl⟩ := map_eq_some_iff.mp h
      have := ih hj
      rw [length_cons]
      omega

lemma dollarQuoteLen_bounds (h : dollarQuoteLen c rest = some n) : 0 < n ∧ n ≤ (c :: rest).length := by
  rw [dollarQuoteLen] at h
  cases htag : findText [byte '$'] rest with
  | none => simp [htag] at h
  | some tagEnd =>
    simp only [htag] at h
    split_ifs at h
    obtain ⟨close, hclose, rfl⟩ := map_eq_some_iff.mp h
    have h1 := findText_add_length_le htag
    have h2 := findText_add_length_le hclose
    simp only [length_cons, length_take, length_drop] at h1 h2 ⊢
    omega

inductive LowerState
  | start
  | line
  | block
  | closing
  | quoted (double : Bool)
  | doubled (double : Bool)
  deriving DecidableEq

def quoteByte (double : Bool) : UInt8 :=
  bif double then byte '"' else byte '\''

def lowerScan : Lookahead LowerState where
  stops s c := s = .line && c = byte '\n'
  next
    | .start, c, h =>
      if c = byte '-' ∧ h = some (byte '-') then some .line
      else if c = byte '/' ∧ h = some (byte '*') then some .block
      else if c = byte '\'' then some (.quoted false)
      else if c = byte '"' then some (.quoted true)
      else none
    | .line, _, _ => some .line
    | .block, c, h => if c = byte '*' ∧ h = some (byte '/') then some .closing else some .block
    | .closing, _, _ => none
    | .quoted q, c, h =>
      if c = quoteByte q then if h = some (quoteByte q) then some (.doubled q) else none else some (.quoted q)
    | .doubled q, _, _ => some (.quoted q)

lemma lowerScan_line (t : Text) : lowerScan.len .line t = lineLen t := by
  induction t with
  | nil => rfl
  | cons c t ih =>
    rw [lineLen_cons, Lookahead.len, Nat.add_comm]
    simp [lowerScan, ← ih]

lemma lowerScan_block (t : Text) : lowerScan.len .block t = blockLen t := by
  induction t with
  | nil => rfl
  | cons c t ih =>
    rw [blockLen_cons, ← ih, Nat.add_comm]
    cases t with
    | nil => simp [lowerScan, Lookahead.len]
    | cons d t =>
      by_cases h : c = byte '*' ∧ d = byte '/' <;> simp [lowerScan, h, Lookahead.len]

lemma lowerScan_quoted (q : Bool) (t : Text) : lowerScan.len (.quoted q) t = Scan.quotedStringLen (quoteByte q) 0 t ∧
    lowerScan.len (.doubled q) t = Scan.quotedStringLen (quoteByte q) 1 t := by
  induction t with
  | nil => exact ⟨rfl, rfl⟩
  | cons c t ih =>
    refine ⟨?_, by rw [Scan.quotedStringLen, ← ih.1]; rfl⟩
    rw [Scan.quotedStringLen, ← ih.1, ← ih.2, Lookahead.len]
    by_cases h : c = quoteByte q
    · by_cases h' : t.head? = some (quoteByte q) <;> simp [lowerScan, h, h']
    · simp [lowerScan, h]

def lowerKind : Option LowerState → SqlKind
  | none => .code
  | some (.quoted false) => .string
  | some (.quoted true) => .ident
  | some _ => .comment

lemma lowerLex_cons (hd : c ≠ byte '$') (rest : Text) :
    lowerLex (c :: rest) = some (lowerKind (lowerScan.next .start c rest.head?), lowerScan.len .start (c :: rest)) := by
  rw [lowerLex, literalOrCommentLex, commentLen]
  by_cases hline : opensLine c rest
  · have hn : lowerScan.next .start c rest.head? = some .line := if_pos hline
    rw [if_pos hline, hn, Lookahead.len_next rfl hn, lowerScan_line, lineLen_cons, if_neg (by rw [hline.1]; decide), Nat.add_comm]
    rfl
  by_cases hblock : opensBlock c rest
  · have hn : lowerScan.next .start c rest.head? = some .block := (if_neg hline).trans (if_pos hblock)
    rw [if_neg hline, if_pos hblock, hn, Lookahead.len_next rfl hn, lowerScan_block, blockLen_cons,
      if_neg fun h => absurd (hblock.1.symm.trans h.1) (by decide), Nat.add_comm]
    rfl
  have hopen : lowerScan.next .start c rest.head? = if c = byte '\'' then some (.quoted false)
      else if c = byte '"' then some (.quoted true) else none := (if_neg hline).trans (if_neg hblock)
  split_ifs with hs hi
  · rw [if_pos hs] at hopen
    rw [Lookahead.len_next rfl hopen, (lowerScan_quoted false rest).1, hs, Nat.add_comm]
    rfl
  · rw [if_neg hs, if_pos hi] at hopen
    rw [Lookahead.len_next rfl hopen, (lowerScan_quoted true rest).1, hi, Nat.add_comm]
    rfl
  · rw [if_neg hs, if_neg hi] at hopen
    rw [hopen, Lookahead.len_last rfl hopen]
    rfl

lemma lineLen_le (t : Text) : lineLen t ≤ t.length := by
  rw [← lowerScan_line]
  exact Lookahead.len_le _ t

lemma proper_lowerLex : Proper lowerLex := by
  intro t kind n h
  cases t with
  | nil => cases h
  | cons c rest =>
    by_cases hd : c = byte '$'
    · have hdollar : lowerLex (c :: rest) = some (((dollarQuoteLen c rest).map (SqlKind.string, ·)).getD (.code, 1)) := by
        simp only [lowerLex, literalOrCommentLex, hd]
        cases dollarQuoteLen (byte '$') rest <;> rfl
      rw [hdollar] at h
      cases hlen : dollarQuoteLen c rest with
      | none =>
        rw [hlen] at h
        cases h
        exact ⟨Nat.one_pos, by simp⟩
      | some m =>
        rw [hlen] at h
        cases h
        exact dollarQuoteLen_bounds hlen
    · rw [lowerLex_cons hd] at h
      cases h
      exact ⟨Lookahead.len_pos rfl rest, Lookahead.len_le ..⟩

lemma lowerLex_isSome (c : UInt8) (t : Text) : (lowerLex (c :: t)).isSome = true := by
  simp only [lowerLex, literalOrCommentLex]
  cases commentLen c t with
  | some n => rfl
  | none =>
    cases dollarQuoteLen c t <;> (dsimp only; split_ifs <;> rfl)

lemma stop_one (h : lowerLex (c :: rest) = some (.code, n)) : n = 1 := by
  simp only [lowerLex, literalOrCommentLex] at h
  cases hc : commentLen c rest with
  | some m => simp [hc] at h
  | none =>
    cases hd : dollarQuoteLen c rest <;> simp only [hd] at h <;> split_ifs at h <;> simp_all

def plainByte (c : UInt8) : Bool :=
  c != byte '-' && c != byte '/' && c != byte '\'' && c != byte '"' && c != byte '$'

lemma lowerLex_plain (h : plainByte c = true) (t : Text) : lowerLex (c :: t) = some (.code, 1) := by
  simp only [plainByte, Bool.and_eq_true, bne_iff_ne] at h
  obtain ⟨⟨⟨⟨h1, h2⟩, h3⟩, h4⟩, h5⟩ := h
  simp [lowerLex, literalOrCommentLex, commentLen, opensLine, opensBlock, h1, h2, h3, h4, h5]

lemma stop_plain {w : Text} (h : w.all plainByte = true) (u : Text) : Stop lowerLex (w ++ u) w.length := by
  induction w with
  | nil => exact .zero _
  | cons c w ih =>
    rw [all_cons, Bool.and_eq_true] at h
    rw [length_cons, Nat.add_comm]
    exact .seg (lowerLex_plain h.1 _) (by simp) (ih h.2)

section Segment

variable {s y y' : Text} {kind : SqlKind}

section

variable (h : lowerLex (s ++ y) = some (kind, s.length))
include h

lemma exists_cons_of_segment : ∃ c r, s = c :: r := by
  cases s with
  | nil => exact absurd (proper_lowerLex _ _ _ h).1 (by simp)
  | cons c r => exact ⟨c, r, rfl⟩

lemma lowerLex_segment (hd : s.head? ≠ some (byte '$')) :
    ∃ c r, s = c :: r ∧ c ≠ byte '$' ∧ kind = lowerKind (lowerScan.next .start c (r ++ y).head?) ∧
      lowerScan.len .start (c :: r ++ y) = (c :: r).length := by
  obtain ⟨c, r, rfl⟩ := exists_cons_of_segment h
  have hd : c ≠ byte '$' := fun he => hd (by rw [he]; rfl)
  rw [cons_append, lowerLex_cons hd] at h
  obtain ⟨hkind, hlen⟩ := Prod.mk.inj (some.inj h)
  exact ⟨c, r, rfl, hd, hkind.symm, hlen⟩

lemma lowerLex_tail (hd : s.head? ≠ some (byte '$'))
    (hy : y.head? = y'.head?) : lowerLex (s ++ y') = some (kind, s.length) := by
  obtain ⟨c, r, rfl, hd, rfl, hlen⟩ := lowerLex_segment h hd
  rw [cons_append, lowerLex_cons hd, ← cons_append, Lookahead.len_tail hy hlen, head?_append, head?_append, hy]

end

def neutralByte (c : UInt8) : Bool :=
  c != byte '-' && c != byte '*' && c != byte '\'' && c != byte '"'

lemma lowerScan_neutral {b b' : UInt8} (hb' : neutralByte b' = true) (s : LowerState) (c : UInt8)
    (h : lowerScan.next s c (some b) = none) : lowerScan.next s c (some b') = none := by
  simp only [neutralByte, Bool.and_eq_true, bne_iff_ne] at hb'
  obtain ⟨⟨⟨hb1, hb2⟩, hb3⟩, hb4⟩ := hb'
  cases s with
  | start =>
    refine (if_neg fun ho => hb1 (some.inj ho.2)).trans ((if_neg fun ho => hb2 (some.inj ho.2)).trans ?_)
    dsimp only [lowerScan] at h
    split_ifs at h with _ _ hs hi
    rw [if_neg hs, if_neg hi]
  | quoted q =>
    dsimp only [lowerScan] at h
    split_ifs at h with hc
    have hq : b' ≠ quoteByte q := by cases q <;> assumption
    exact (if_pos hc).trans (if_neg fun he => hq (some.inj he))
  | block =>
    dsimp only [lowerScan] at h
    split_ifs at h
  | closing => rfl
  | line | doubled => cases h

lemma lowerLex_neutral {b b' : UInt8} (h : lowerLex (s ++ y) = some (kind, s.length)) (hd : s.head? ≠ some (byte '$'))
    (hy : y.head? = some b) (hb : b ≠ byte '\n') (hy' : y'.head? = some b') (hb' : neutralByte b' = true) :
    lowerLex (s ++ y') = some (kind, s.length) := by
  obtain ⟨c, r, rfl, hd, rfl, hlen⟩ := lowerLex_segment h hd
  have hpos : ∀ s, 0 < lowerScan.len s y := by
    obtain ⟨z, rfl⟩ := head?_eq_some_iff.mp hy
    exact fun s => Lookahead.len_pos (by simp [lowerScan, hb]) z
  have hnext : ∀ s c, lowerScan.next s c y.head? = none → lowerScan.next s c y'.head? = none := by
    rw [hy, hy']
    exact lowerScan_neutral hb'
  rw [cons_append, lowerLex_cons hd, ← cons_append, Lookahead.len_closed hpos hnext hlen, Lookahead.next_closed hpos hnext hlen]

lemma lowerLex_grows (h : lowerLex s = some (kind, s.length)) (hd : s.head? ≠ some (byte '$')) (y : Text) :
    ∃ kind' n, lowerLex (s ++ y) = some (kind', n) ∧ s.length ≤ n := by
  obtain ⟨c, r, rfl, hd, -, hlen⟩ := lowerLex_segment (by rwa [append_nil]) hd
  rw [append_nil] at hlen
  exact ⟨_, _, lowerLex_cons hd _, Lookahead.len_grows hlen⟩

end Segment

end Bookclerk.Sql
