import Bookclerk.Db.Execute

namespace Bookclerk.D1

open Lexical Db List

/-- `out.push(c as char)`: the byte is read as the code point of the same number. -/
def pushByteAsChar (c : UInt8) : Text :=
  String.utf8EncodeChar (Char.ofUInt8 c)

def bindIsBytes (params : List DbValue) (param : Nat) : Bool :=
  match params[param]? with
  | some v => v.isBytes
  | none => false

def placeholder (wrap : Bool) : Text :=
  if wrap then utf8 "unhex(?)" else utf8 "?"

/-- The loop of `wrap_bytes_placeholders`. `skip` counts the bytes that the last iteration consumed
beyond its own (the second quote of a doubled pair). -/
def wrapLoop (params : List DbValue) : (skip : Nat) → (inSquote inDquote : Bool) → (param : Nat) → Text → Text
  | _, _, _, _, [] => []
  | k + 1, inSquote, inDquote, param, _ :: rest => wrapLoop params k inSquote inDquote param rest
  | 0, true, inDquote, param, c :: rest =>
    if c = byte '\'' then
      if rest.head? = some (byte '\'') then utf8 "''" ++ wrapLoop params 1 true inDquote param rest
      else pushByteAsChar c ++ wrapLoop params 0 false inDquote param rest
    else pushByteAsChar c ++ wrapLoop params 0 true inDquote param rest
  | 0, false, true, param, c :: rest =>
    if c = byte '"' then
      if rest.head? = some (byte '"') then utf8 "\"\"" ++ wrapLoop params 1 false true param rest
      else pushByteAsChar c ++ wrapLoop params 0 false false param rest
    else pushByteAsChar c ++ wrapLoop params 0 false true param rest
  | 0, false, false, param, c :: rest =>
    if c = byte '\'' then c :: wrapLoop params 0 true false param rest
    else if c = byte '"' then c :: wrapLoop params 0 false true param rest
    else if c = byte '?' then
      placeholder (bindIsBytes params param) ++ wrapLoop params 0 false false (param + 1) rest
    -- the source copies a whole `char`; its bytes after the first are no quotes and no `?`
    else c :: wrapLoop params 0 false false param rest

def wrapBytesPlaceholders (sql : Text) (params : List DbValue) : Text :=
  if params.any DbValue.isBytes then wrapLoop params 0 false false 0 sql else sql

/-- The rewrite as it is meant: the `k`-th placeholder in code position is wrapped when the `k`-th
parameter holds bytes, and every other byte is copied. -/
def frameWrapFrom (params : List DbValue) : LexState → Nat → Text → Text
  | _, _, [] => []
  | s, k, c :: rest =>
    if s.inCode ∧ c = byte '?' then placeholder (bindIsBytes params k) ++ frameWrapFrom params (s.step c) (k + 1) rest
    else c :: frameWrapFrom params (s.step c) k rest

def frameWrap (params : List DbValue) (sql : Text) : Text :=
  frameWrapFrom params .code 0 sql

inductive QuoteState where
  | plain
  | squote
  | dquote
  deriving DecidableEq

namespace QuoteState

def fromPlain (c : UInt8) : QuoteState :=
  if c = byte '\'' then .squote else if c = byte '"' then .dquote else .plain

def step : QuoteState → UInt8 → QuoteState
  | .plain, c => fromPlain c
  | .squote, c => if c = byte '\'' then .plain else .squote
  | .dquote, c => if c = byte '"' then .plain else .dquote

def quoted : QuoteState → Bool
  | .squote | .dquote => true
  | _ => false

end QuoteState

def chunk (params : List DbValue) (q : QuoteState) (param : Nat) (c : UInt8) : Text :=
  if q.quoted then pushByteAsChar c
  else if c = byte '?' then placeholder (bindIsBytes params param)
  else [c]

def nextParam (q : QuoteState) (param : Nat) (c : UInt8) : Nat :=
  if q.quoted = false ∧ c = byte '?' then param + 1 else param

def wrapRun (params : List DbValue) : QuoteState → Nat → Text → Text
  | _, _, [] => []
  | q, param, c :: rest => chunk params q param c ++ wrapRun params (q.step c) (nextParam q param c) rest

variable {c : UInt8}

lemma pushByteAsChar_ascii (h : c < 0x80) : pushByteAsChar c = [c] :=
  forall_byte (p := fun c => c < 0x80 → pushByteAsChar c = [c]) (by decide +kernel) c h

lemma pushByteAsChar_high (h : ¬ c < 0x80) : pushByteAsChar c ≠ [c] ∧ pushByteAsChar c ≠ [] ∧ ∀ b ∈ pushByteAsChar c, ¬ b < 0x80 := by
  obtain ⟨h1, h2, h3⟩ := forall_byte (p := fun c => ¬ c < 0x80 → pushByteAsChar c ≠ [c] ∧ pushByteAsChar c ≠ [] ∧
    (pushByteAsChar c).all (fun b => !decide (b < 0x80)) = true) (by decide +kernel) c h
  exact ⟨h1, h2, by simpa using h3⟩

lemma fromPlain_squote : QuoteState.fromPlain (byte '\'') = .squote := by decide

lemma fromPlain_dquote : QuoteState.fromPlain (byte '"') = .dquote := by decide

lemma fromPlain_other (h1 : c ≠ byte '\'') (h2 : c ≠ byte '"') : QuoteState.fromPlain c = .plain := by
  simp [QuoteState.fromPlain, h1, h2]

lemma wrapLoop_plain (params : List DbValue) (param : Nat) (c : UInt8) (rest : Text) :
    wrapLoop params 0 false false param (c :: rest) = chunk params .plain param c ++
      wrapLoop params 0 (c = byte '\'') (c = byte '"') (nextParam .plain param c) rest := by
  have h12 : byte '"' ≠ byte '\'' := by decide
  have h13 : byte '\'' ≠ byte '?' := by decide
  have h23 : byte '"' ≠ byte '?' := by decide
  by_cases h1 : c = byte '\''
  · subst h1
    simp [wrapLoop, chunk, nextParam, QuoteState.quoted, h12.symm, h13]
  by_cases h2 : c = byte '"'
  · subst h2
    simp [wrapLoop, chunk, nextParam, QuoteState.quoted, h12, h23]
  by_cases h3 : c = byte '?'
  · subst h3
    simp [wrapLoop, chunk, nextParam, QuoteState.quoted, h13.symm, h23.symm]
  · simp [wrapLoop, chunk, nextParam, QuoteState.quoted, h1, h2, h3]

lemma wrapLoop_eq_wrapRun (params : List DbValue) (param : Nat) (t : Text) :
    wrapLoop params 0 false false param t = wrapRun params .plain param t ∧
    wrapLoop params 0 true false param t = wrapRun params .squote param t ∧
    wrapLoop params 0 false true param t = wrapRun params .dquote param t := by
  have h12 : byte '"' ≠ byte '\'' := by decide
  induction t generalizing param with
  | nil => simp [wrapLoop, wrapRun]
  | cons c rest ih =>
    obtain ⟨hp, hs, hd⟩ := ih param
    refine ⟨?_, ?_, ?_⟩
    · obtain ⟨hp', hs', hd'⟩ := ih (nextParam .plain param c)
      rw [wrapLoop_plain, wrapRun, QuoteState.step]
      by_cases h1 : c = byte '\''
      · simpa [h1, h12.symm, fromPlain_squote] using h1 ▸ hs'
      by_cases h2 : c = byte '"'
      · simpa [h2, h12, fromPlain_dquote] using h2 ▸ hd'
      · simpa [h1, h2, fromPlain_other h1 h2] using hp'
    · by_cases h1 : c = byte '\''
      · subst h1
        have e : wrapRun params .squote param (byte '\'' :: rest) = byte '\'' :: wrapLoop params 0 false false param rest := by
          simp [wrapRun, chunk, QuoteState.step, QuoteState.quoted, nextParam, hp, pushByteAsChar_ascii (show byte '\'' < 0x80 by decide)]
        rw [e]
        cases rest with
        | nil => simp [wrapLoop, pushByteAsChar_ascii (show byte '\'' < 0x80 by decide)]
        | cons d u =>
          by_cases h2 : d = byte '\''
          · subst h2
            have e2 : utf8 "''" = [byte '\'', byte '\''] := by decide
            simp [wrapLoop, e2]
          · simp [wrapLoop, h2, pushByteAsChar_ascii (show byte '\'' < 0x80 by decide)]
      · simpa [wrapLoop, wrapRun, chunk, QuoteState.step, QuoteState.quoted, nextParam, h1] using hs
    · by_cases h1 : c = byte '"'
      · subst h1
        have e : wrapRun params .dquote param (byte '"' :: rest) = byte '"' :: wrapLoop params 0 false false param rest := by
          simp [wrapRun, chunk, QuoteState.step, QuoteState.quoted, nextParam, hp, pushByteAsChar_ascii (show byte '"' < 0x80 by decide)]
        rw [e]
        cases rest with
        | nil => simp [wrapLoop, pushByteAsChar_ascii (show byte '"' < 0x80 by decide)]
        | cons d u =>
          by_cases h2 : d = byte '"'
          · subst h2
            have e2 : utf8 "\"\"" = [byte '"', byte '"'] := by decide
            simp [wrapLoop, e2, h12]
          · simp [wrapLoop, h2, pushByteAsChar_ascii (show byte '"' < 0x80 by decide)]
      · simpa [wrapLoop, wrapRun, chunk, QuoteState.step, QuoteState.quoted, nextParam, h1] using hd

def Aligned (params : List DbValue) : QuoteState → Nat → LexState → Nat → Text → Prop
  | _, _, _, _, [] => True
  | q, param, s, k, c :: rest =>
    (q.quoted = true → c < 0x80) ∧
    (c = byte '?' → ((q.quoted = false ∧ bindIsBytes params param = true) ↔
      (s.inCode = true ∧ bindIsBytes params k = true))) ∧
    Aligned params (q.step c) (nextParam q param c) (s.step c) (if s.inCode ∧ c = byte '?' then k + 1 else k) rest

def frameChunk (params : List DbValue) (s : LexState) (k : Nat) (c : UInt8) : Text :=
  if s.inCode ∧ c = byte '?' then placeholder (bindIsBytes params k) else [c]

lemma frameWrapFrom_cons (params : List DbValue) (s : LexState) (k : Nat) (c : UInt8) (rest : Text) :
    frameWrapFrom params s k (c :: rest) = frameChunk params s k c ++
      frameWrapFrom params (s.step c) (if s.inCode ∧ c = byte '?' then k + 1 else k) rest := by
  by_cases h : s.inCode ∧ c = byte '?' <;> simp [frameWrapFrom, frameChunk, h]

lemma frameChunk_head (params : List DbValue) (s : LexState) (k : Nat) (c : UInt8) :
    ∃ b u, frameChunk params s k c = b :: u ∧ (b = c ∧ u = [] ∨ b < 0x80 ∧ c < 0x80) := by
  by_cases h : s.inCode ∧ c = byte '?'
  · obtain ⟨h1, rfl⟩ := h
    cases hb : bindIsBytes params k
    · exact ⟨byte '?', [], by simp [frameChunk, h1, hb]; decide, Or.inl ⟨rfl, rfl⟩⟩
    · exact ⟨byte 'u', utf8 "nhex(?)", by simp [frameChunk, h1, hb]; decide, Or.inr (by decide)⟩
  · exact ⟨c, [], by simp [frameChunk, h], Or.inl ⟨rfl, rfl⟩⟩

lemma step_quoted_high {q : QuoteState} (hq : q.quoted = true) (hc : ¬ c < 0x80) : (q.step c).quoted = true := by
  have h1 : c ≠ byte '\'' := by rintro rfl; exact hc (by decide)
  have h2 : c ≠ byte '"' := by rintro rfl; exact hc (by decide)
  cases q <;> simp_all [QuoteState.quoted, QuoteState.step]

lemma surplus_ne (params : List DbValue) (t : Text) (q : QuoteState) (param : Nat) (s : LexState) (k : Nat)
    (z : Text) (hq : q.quoted = true) (hz : z ≠ []) (hh : ∀ b ∈ z, ¬ b < 0x80) :
    z ++ wrapRun params q param t ≠ frameWrapFrom params s k t := by
  induction t generalizing q param s k z with
  | nil => simp [frameWrapFrom, hz]
  | cons c rest ih =>
    obtain ⟨b, z, rfl⟩ : ∃ b z', z = b :: z' := exists_cons_of_ne_nil hz
    obtain ⟨d, u, hd, hcase⟩ := frameChunk_head params s k c
    intro he
    rw [frameWrapFrom_cons, hd] at he
    simp only [cons_append, List.cons.injEq] at he
    obtain ⟨rfl, he⟩ := he
    have hb : ¬ b < 0x80 := hh b (by simp)
    obtain ⟨rfl, rfl⟩ : b = c ∧ u = [] := hcase.resolve_right (fun h => hb h.1)
    obtain ⟨-, hne, hall⟩ := pushByteAsChar_high hb
    rw [wrapRun, chunk, if_pos hq, ← append_assoc] at he
    refine ih _ _ _ _ (z ++ pushByteAsChar b) (step_quoted_high hq hb) (by simp [hne]) ?_ he
    intro x hx
    rcases mem_append.mp hx with hx | hx
    · exact hh x (by simp [hx])
    · exact hall x hx

lemma placeholder_append_eq_iff (v w : Bool) (x y : Text) : placeholder v ++ x = placeholder w ++ y ↔ v = w ∧ x = y := by
  have hq : utf8 "?" = [byte '?'] := by decide
  have hu : utf8 "unhex(?)" = byte 'u' :: utf8 "nhex(?)" := by decide
  have hne : byte 'u' ≠ byte '?' := by decide
  cases v <;> cases w <;> simp [placeholder, hq, hu, hne, hne.symm]

section

variable (params : List DbValue)
include params

lemma chunk_question (q : QuoteState) (param : Nat) :
    chunk params q param (byte '?') = placeholder (!q.quoted && bindIsBytes params param) := by
  have hp : pushByteAsChar (byte '?') = utf8 "?" := by decide
  cases h : q.quoted <;> simp [chunk, h, hp, placeholder]

lemma frameChunk_question (s : LexState) (k : Nat) :
    frameChunk params s k (byte '?') = placeholder (s.inCode && bindIsBytes params k) := by
  have hq : utf8 "?" = [byte '?'] := by decide
  cases h : s.inCode <;> simp [frameChunk, h, hq, placeholder]

lemma wrapRun_eq_frameWrapFrom_iff (t : Text) (q : QuoteState) (param : Nat)
    (s : LexState) (k : Nat) : wrapRun params q param t = frameWrapFrom params s k t ↔ Aligned params q param s k t := by
  induction t generalizing q param s k with
  | nil => simp [wrapRun, frameWrapFrom, Aligned]
  | cons c rest ih =>
    rw [frameWrapFrom_cons, wrapRun, Aligned, ← ih]
    by_cases hc : c = byte '?'
    · subst hc
      have ha : byte '?' < 0x80 := by decide
      rw [chunk_question, frameChunk_question, placeholder_append_eq_iff]
      cases q.quoted <;> cases s.inCode <;> cases bindIsBytes params param <;> cases bindIsBytes params k <;> simp [ha]
    have hf : frameChunk params s k c = [c] := by simp [frameChunk, hc]
    by_cases hq : q.quoted = true ∧ ¬ c < 0x80
    · obtain ⟨hq, hh⟩ := hq
      refine iff_of_false ?_ (fun h => hh (h.1 hq))
      obtain ⟨hne, hnil, hall⟩ := pushByteAsChar_high hh
      obtain ⟨b, z, hz⟩ := exists_cons_of_ne_nil hnil
      rw [hf, chunk, if_pos hq, hz]
      intro he
      simp only [cons_append, List.cons.injEq] at he
      have hzn : z ≠ [] := by
        rintro rfl
        exact hne (by rw [hz, he.1])
      exact surplus_ne params rest _ _ _ _ z (step_quoted_high hq hh) hzn (fun x hx => hall x (by simp [hz, hx])) he.2
    · have hk : chunk params q param c = [c] := by
        cases hb : q.quoted
        · simp [chunk, hb, hc]
        · have ha : c < 0x80 := by
            by_contra hn
            exact hq ⟨hb, hn⟩
          simp [chunk, hb, pushByteAsChar_ascii ha]
      have ha : q.quoted = true → c < 0x80 := fun hb => by
        by_contra hn
        exact hq ⟨hb, hn⟩
      rw [hf, hk]
      simpa [hc] using fun _ => ha

lemma frameWrapFrom_of_no_bytes (h : params.any DbValue.isBytes = false) (t : Text)
    (s : LexState) (k : Nat) : frameWrapFrom params s k t = t := by
  have hb : ∀ n, bindIsBytes params n = false := by
    intro n
    cases hn : params[n]? with
    | none => simp [bindIsBytes, hn]
    | some v =>
      have hv := any_eq_false.mp h v (mem_of_getElem? hn)
      simpa [bindIsBytes, hn] using hv
  have hq : utf8 "?" = [byte '?'] := by decide
  induction t generalizing s k with
  | nil => rfl
  | cons c rest ih =>
    rw [frameWrapFrom_cons, ih]
    by_cases hc : s.inCode ∧ c = byte '?' <;> simp [frameChunk, hc, hb, placeholder, hq]

end

theorem wrapBytesPlaceholders_eq_frameWrap_iff (sql : Text) (params : List DbValue) :
    wrapBytesPlaceholders sql params = frameWrap params sql ↔
      params.any DbValue.isBytes = false ∨ Aligned params .plain 0 .code 0 sql := by
  cases h : params.any DbValue.isBytes
  · simp [wrapBytesPlaceholders, frameWrap, h, frameWrapFrom_of_no_bytes params h]
  · rw [wrapBytesPlaceholders, if_pos h, (wrapLoop_eq_wrapRun params 0 sql).1, frameWrap,
      wrapRun_eq_frameWrapFrom_iff]
    simp

theorem wrapBytesPlaceholders_recodes_literal :
    wrapBytesPlaceholders (utf8 "INSERT INTO t (a, b) VALUES ('é', ?)") [.bytes [1]] =
      utf8 "INSERT INTO t (a, b) VALUES ('Ã©', unhex(?))" ∧
    wrapBytesPlaceholders (utf8 "INSERT INTO t (a, b) VALUES ('é', ?)") [.bytes [1]] ≠
      frameWrap [.bytes [1]] (utf8 "INSERT INTO t (a, b) VALUES ('é', ?)") := by
  decide +kernel

end Bookclerk.D1
