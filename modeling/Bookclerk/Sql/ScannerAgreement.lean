import Bookclerk.Lexical.Split
import Bookclerk.Sql.Admit

namespace Bookclerk.Sql

open Lexical List Option

inductive SqlKind where
  | code
  | string
  | ident
  | comment
  deriving DecidableEq

def opensLine (c : UInt8) (rest : Text) : Prop :=
  c = byte '-' ∧ rest.head? = some (byte '-')

def opensBlock (c : UInt8) (rest : Text) : Prop :=
  c = byte '/' ∧ rest.head? = some (byte '*')

instance (c : UInt8) (rest : Text) : Decidable (opensLine c rest) :=
  inferInstanceAs (Decidable (_ ∧ _))

instance (c : UInt8) (rest : Text) : Decidable (opensBlock c rest) :=
  inferInstanceAs (Decidable (_ ∧ _))

def lineLen (t : Text) : Nat :=
  (findText [byte '\n'] t).getD t.length

def blockLen (t : Text) : Nat :=
  match findText [byte '*', byte '/'] t with
  | some i => i + 2
  | none => t.length

/-- `guest_sql`: the loops of `skip_ws_comments` and `for_each_unquoted`. -/
def guestLex : Lexer SqlKind
  | [] => none
  | c :: rest =>
    if opensLine c rest then some (.comment, 2 + lineLen rest.tail)
    else if opensBlock c rest then some (.comment, 2 + blockLen rest.tail)
    else if c = byte '\'' then some (.string, 1 + Scan.quotedStringLen c 0 rest)
    else if c = byte '"' then some (.ident, 1 + Scan.quotedStringLen c 0 rest)
    else some (.code, 1)

/-- `sql_text`: `skip_trivia`, `skip_sql_string` and `skip_quoted`, which refuse what does not close. -/
def textLex : Lexer SqlKind
  | [] => none
  | c :: rest =>
    if opensLine c rest then some (.comment, 2 + lineLen rest.tail)
    else if opensBlock c rest then (findText [byte '*', byte '/'] rest.tail).map fun i => (.comment, i + 4)
    else if c = byte '\'' then (quotedNameLen c 0 rest).map fun n => (.string, n + 1)
    else if c = byte '"' ∨ c = backtick then (quotedNameLen c 0 rest).map fun n => (.ident, n + 1)
    else if c = byte '[' then (quotedNameLen (byte ']') 0 rest).map fun n => (.ident, n + 1)
    else some (.code, 1)

def commentLen (c : UInt8) (rest : Text) : Option Nat :=
  if opensLine c rest then some (lineLen (c :: rest))
  else if opensBlock c rest then some (blockLen (c :: rest))
  else none

def tagByte (c : UInt8) : Bool :=
  isAsciiAlphabetic c || isAsciiDigit c || c == byte '_'

/-- `$tag$…$tag$`, from its first `$` on. -/
def dollarQuoteLen (c : UInt8) (rest : Text) : Option Nat :=
  match findText [byte '$'] rest with
  | none => none
  | some tagEnd =>
    if (rest.take tagEnd).all tagByte then
      let tag := c :: rest.take (tagEnd + 1)
      (findText tag (rest.drop (tagEnd + 1))).map fun close => tag.length + close + tag.length
    else none

/-- `literal_or_comment_len`, one text in `sql_desugar` and in `lower`. -/
def literalOrCommentLex : Lexer SqlKind
  | [] => none
  | c :: rest =>
    match commentLen c rest with
    | some n => some (.comment, n)
    | none =>
      if c = byte '\'' then some (.string, 1 + Scan.quotedStringLen c 0 rest)
      else if c = byte '"' then some (.ident, 1 + Scan.quotedStringLen c 0 rest)
      else if c = byte '$' then
        match dollarQuoteLen c rest with
        | some n => some (.string, n)
        | none => some (.code, 1)
      else some (.code, 1)

def desugarLex : Lexer SqlKind :=
  literalOrCommentLex

def lowerLex : Lexer SqlKind :=
  literalOrCommentLex

/-- `sql_types`: `TScan::skip` and `TScan::take_string`; the type checker knows no quoted names. -/
def typesLex : Lexer SqlKind
  | [] => none
  | c :: rest =>
    if opensLine c rest then some (.comment, lineLen (c :: rest))
    else if opensBlock c rest then some (.comment, blockLen (c :: rest))
    else if c = byte '\'' then some (.string, 1 + Scan.quotedStringLen c 0 rest)
    else some (.code, 1)

inductive Scanner where
  | guest
  | text
  | desugar
  | lower
  | types
  deriving DecidableEq

def Scanner.lex : Scanner → Lexer SqlKind
  | .guest => guestLex
  | .text => textLex
  | .desugar => desugarLex
  | .lower => lowerLex
  | .types => typesLex

def ScannersAgree (sql : Text) : Prop :=
  ∀ s s' : Scanner, split s.lex sql = split s'.lex sql

def cleanStart : Text → Bool
  | [] => true
  | c :: rest =>
    if opensLine c rest then true
    else if opensBlock c rest then
      (findText [byte '*', byte '/'] rest.tail).isSome && rest.tail.head? != some (byte '/')
    else if c = byte '\'' then (quotedNameLen c 0 rest).isSome
    else c != byte '"' && c != backtick && c != byte '[' && (c != byte '$' || (dollarQuoteLen c rest).isNone)

lemma lineLen_cons (c : UInt8) (t : Text) : lineLen (c :: t) = if c = byte '\n' then 0 else 1 + lineLen t := by
  split_ifs with hc
  · simp [lineLen, findText, hc]
  · rw [lineLen, findText_cons_of_ne (Ne.symm hc), lineLen]
    cases findText [byte '\n'] t with
    | none | some i => simp; omega

lemma blockLen_cons (c : UInt8) (t : Text) :
    blockLen (c :: t) = if c = byte '*' ∧ t.head? = some (byte '/') then 2 else 1 + blockLen t := by
  have hstarts : isPrefixOf [byte '*', byte '/'] (c :: t) = true ↔ c = byte '*' ∧ t.head? = some (byte '/') := by
    cases t with
    | nil => simp
    | cons d t =>
      simp only [isPrefixOf_cons_cons, isPrefixOf_nil_left, Bool.and_true, Bool.and_eq_true, beq_iff_eq, head?_cons, some.injEq]
      exact ⟨fun h => ⟨h.1.symm, h.2.symm⟩, fun h => ⟨h.1.symm, h.2.symm⟩⟩
  rw [blockLen, findText]
  simp only [hstarts]
  split_ifs
  · rfl
  · rw [blockLen]
    cases findText [byte '*', byte '/'] t with
    | none | some i => simp; omega

lemma lineLen_of_opensLine {c : UInt8} {rest : Text} (h : opensLine c rest) : lineLen (c :: rest) = 2 + lineLen rest.tail := by
  obtain ⟨rfl, hr⟩ := h
  obtain ⟨r, rfl⟩ : ∃ r, rest = byte '-' :: r := head?_eq_some_iff.mp hr
  rw [lineLen_cons, lineLen_cons, if_neg (by decide), if_neg (by decide), tail_cons]
  omega

lemma blockLen_of_opensBlock {c : UInt8} {rest : Text} (h : opensBlock c rest) :
    blockLen (c :: rest) = if rest.tail.head? = some (byte '/') then 3 else 2 + blockLen rest.tail := by
  obtain ⟨rfl, hr⟩ := h
  obtain ⟨r, rfl⟩ : ∃ r, rest = byte '*' :: r := head?_eq_some_iff.mp hr
  rw [blockLen_cons, blockLen_cons, if_neg (by simp +decide), tail_cons]
  split_ifs with h1 h2 h2
  · rfl
  · exact absurd h1.2 h2
  · exact absurd ⟨rfl, h2⟩ h1
  · omega

section Loops

variable {σ : Type} (step : σ → Nat → Text → σ × Nat) (acc : σ)

end Loops

lemma quotedStringLen_of_closed {q : UInt8} {t : Text} {k n : Nat} (h : quotedNameLen q k t = some n) (hq : q ≠ byte ']') :
    Scan.quotedStringLen q k t = n := by
  induction t generalizing k n with
  | nil => cases k <;> simp [quotedNameLen] at h
  | cons c rest ih =>
    cases k with
    | succ k =>
      obtain ⟨m, hm, rfl⟩ := Option.map_eq_some_iff.mp h
      rw [Scan.quotedStringLen, ih hm]
    | zero =>
      simp only [quotedNameLen, hq, ne_eq, not_false_eq_true, true_and] at h
      rw [Scan.quotedStringLen]
      split_ifs at h ⊢ with hc hr
      · obtain ⟨m, hm, rfl⟩ := Option.map_eq_some_iff.mp h
        rw [ih hm]
      · exact Option.some.inj h
      · obtain ⟨m, hm, rfl⟩ := Option.map_eq_some_iff.mp h
        rw [ih hm]

lemma guestLex_isSome (c : UInt8) (t : Text) : (guestLex (c :: t)).isSome = true := by
  simp only [guestLex]
  split_ifs <;> rfl

section Start

variable {c : UInt8} {rest : Text}

lemma textLex_block_iff (h : opensBlock c rest) (h1 : ¬ opensLine c rest) :
    textLex (c :: rest) = guestLex (c :: rest) ↔ (findText [byte '*', byte '/'] rest.tail).isSome = true := by
  simp only [textLex, guestLex, if_neg h1, if_pos h, blockLen]
  cases findText [byte '*', byte '/'] rest.tail with
  | none => simp
  | some i => simp; omega

lemma textLex_string_iff (h : c = byte '\'') : textLex (c :: rest) = guestLex (c :: rest) ↔ (quotedNameLen c 0 rest).isSome = true := by
  have h1 : ¬ opensLine c rest := fun ho => absurd (h.symm.trans ho.1) (by decide)
  have h2 : ¬ opensBlock c rest := fun ho => absurd (h.symm.trans ho.1) (by decide)
  simp only [textLex, guestLex, if_neg h1, if_neg h2, if_pos h]
  cases hn : quotedNameLen c 0 rest with
  | none => simp
  | some n =>
    rw [quotedStringLen_of_closed hn (by rw [h]; decide)]
    simp; omega

lemma blockLen_iff (h : opensBlock c rest) (hclosed : (findText [byte '*', byte '/'] rest.tail).isSome = true) :
    blockLen (c :: rest) = 2 + blockLen rest.tail ↔ rest.tail.head? ≠ some (byte '/') := by
  rw [blockLen_of_opensBlock h]
  split_ifs with hs
  · obtain ⟨i, hi⟩ := isSome_iff_exists.mp hclosed
    simp [blockLen, hi, hs]
    omega
  · exact iff_of_true rfl hs

lemma code_start_iff (h1 : ¬ opensLine c rest) (h2 : ¬ opensBlock c rest) (h3 : ¬ c = byte '\'') :
    cleanStart (c :: rest) = true ↔ textLex (c :: rest) = guestLex (c :: rest) ∧
      literalOrCommentLex (c :: rest) = guestLex (c :: rest) ∧ typesLex (c :: rest) = guestLex (c :: rest) := by
  simp only [cleanStart, textLex, guestLex, literalOrCommentLex, typesLex, commentLen, if_neg h1, if_neg h2, if_neg h3]
  by_cases hd : c = byte '"'
  · simp [hd]
  by_cases hb : c = backtick
  · cases quotedNameLen c 0 rest <;> simp +decide [hb]
  by_cases hs : c = byte '['
  · cases quotedNameLen (byte ']') 0 rest <;> simp +decide [hs]
  by_cases hq : c = byte '$'
  · cases dollarQuoteLen c rest <;> simp +decide [hq]
  · simp [hd, hs, hq]

lemma cleanStart_iff : cleanStart (c :: rest) = true ↔ textLex (c :: rest) = guestLex (c :: rest) ∧
    literalOrCommentLex (c :: rest) = guestLex (c :: rest) ∧ typesLex (c :: rest) = guestLex (c :: rest) := by
  by_cases h1 : opensLine c rest
  · simp [cleanStart, textLex, guestLex, literalOrCommentLex, typesLex, commentLen, h1, lineLen_of_opensLine h1]
  by_cases h2 : opensBlock c rest
  · rw [textLex_block_iff h2 h1]
    simp only [cleanStart, guestLex, literalOrCommentLex, typesLex, commentLen, h1, h2, if_true, if_false, Bool.and_eq_true,
      some.injEq, Prod.mk.injEq]
    refine and_congr_right fun hclosed => ?_
    rw [blockLen_iff h2 hclosed]
    simp
  by_cases h3 : c = byte '\''
  · rw [textLex_string_iff h3]
    simp only [cleanStart, guestLex, literalOrCommentLex, typesLex, commentLen, if_neg h1, if_neg h2, if_pos h3, and_true]
  · exact code_start_iff h1 h2 h3

end Start

theorem scannersAgree_iff (sql : Text) : ScannersAgree sql ↔ EverySegment guestLex (fun u => cleanStart u = true) 0 sql := by
  rw [EverySegment.congr (q := fun u => textLex u = guestLex u ∧ literalOrCommentLex u = guestLex u ∧
      typesLex u = guestLex u) (fun _ _ => cleanStart_iff), EverySegment.and_iff, EverySegment.and_iff,
    ← splitFrom_eq_iff guestLex_isSome, ← splitFrom_eq_iff guestLex_isSome, ← splitFrom_eq_iff guestLex_isSome]
  constructor
  · intro h
    exact ⟨h .text .guest, h .desugar .guest, h .types .guest⟩
  · rintro ⟨htext, hlit, htypes⟩
    have hall (s : Scanner) : split s.lex sql = split guestLex sql := by
      cases s with
      | guest => rfl
      | text => exact htext
      | desugar | lower => exact hlit
      | types => exact htypes
    intro s s'
    rw [hall s, hall s']

def reopenedComment : Text :=
  utf8 "SELECT 1 /*/ + 2 /* */"

theorem reopenedComment_split : (validateSqlV1Grammar reopenedComment true).isOk = true ∧
    split guestLex reopenedComment = some (List.replicate 9 (.code, 1) ++ [(.comment, 13)]) ∧
    split desugarLex reopenedComment =
      some (List.replicate 9 (.code, 1) ++ [(.comment, 3)] ++ List.replicate 5 (.code, 1) ++ [(.comment, 5)]) ∧
    ¬ ScannersAgree reopenedComment := by
  have hguest : split guestLex reopenedComment = some (replicate 9 (.code, 1) ++ [(.comment, 13)]) := by
    decide +kernel
  have hdesugar : split desugarLex reopenedComment =
      some (replicate 9 (.code, 1) ++ [(.comment, 3)] ++ replicate 5 (.code, 1) ++ [(.comment, 5)]) := by
    decide +kernel
  refine ⟨by decide +kernel, hguest, hdesugar, fun h => ?_⟩
  have heq := h .guest .desugar
  rw [Scanner.lex, Scanner.lex, hguest, hdesugar] at heq
  exact absurd heq (by decide)

end Bookclerk.Sql
