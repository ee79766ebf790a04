import Mathlib.Data.Fintype.Basic

namespace Bookclerk.Lexical

open List

abbrev Text := List UInt8

instance : LawfulBEq Text := inferInstance

def utf8 (s : String) : Text :=
  s.toByteArray.data.toList

def byte (c : Char) : UInt8 :=
  c.toUInt8

lemma forall_byte {p : UInt8 → Prop} (h : ∀ n : Fin 256, p (UInt8.ofFin n)) (c : UInt8) : p c := by
  simpa using h c.toFin

def isAsciiWhitespace (c : UInt8) : Bool :=
  c == 0x20 || c == 0x09 || c == 0x0A || c == 0x0C || c == 0x0D

def isAsciiDigit (c : UInt8) : Bool :=
  0x30 ≤ c && c ≤ 0x39

def isAsciiUpper (c : UInt8) : Bool :=
  0x41 ≤ c && c ≤ 0x5A

def isAsciiLower (c : UInt8) : Bool :=
  0x61 ≤ c && c ≤ 0x7A

def isAsciiAlphabetic (c : UInt8) : Bool :=
  isAsciiUpper c || isAsciiLower c

def isAsciiHexdigit (c : UInt8) : Bool :=
  isAsciiDigit c || (0x41 ≤ c && c ≤ 0x46) || (0x61 ≤ c && c ≤ 0x66)

def toAsciiLower (c : UInt8) : UInt8 :=
  if isAsciiUpper c then c + 0x20 else c

def toAsciiUpper (c : UInt8) : UInt8 :=
  if isAsciiLower c then c - 0x20 else c

def toAsciiLowercase (t : Text) : Text :=
  t.map toAsciiLower

def toAsciiUppercase (t : Text) : Text :=
  t.map toAsciiUpper

def eqIgnoreAsciiCase (a b : Text) : Bool :=
  toAsciiLowercase a == toAsciiLowercase b

lemma length_eq_of_eqIgnoreAsciiCase {a b : Text} (h : eqIgnoreAsciiCase a b = true) : a.length = b.length := by
  have he : toAsciiLowercase a = toAsciiLowercase b := by simpa [eqIgnoreAsciiCase] using h
  simpa [toAsciiLowercase] using congrArg length he

def whitespaceChars : List Text :=
  [[0x09], [0x0A], [0x0B], [0x0C], [0x0D], [0x20], [0xC2, 0x85], [0xC2, 0xA0], [0xE1, 0x9A, 0x80],
    [0xE2, 0x80, 0x80], [0xE2, 0x80, 0x81], [0xE2, 0x80, 0x82], [0xE2, 0x80, 0x83], [0xE2, 0x80, 0x84],
    [0xE2, 0x80, 0x85], [0xE2, 0x80, 0x86], [0xE2, 0x80, 0x87], [0xE2, 0x80, 0x88], [0xE2, 0x80, 0x89],
    [0xE2, 0x80, 0x8A], [0xE2, 0x80, 0xA8], [0xE2, 0x80, 0xA9], [0xE2, 0x80, 0xAF], [0xE2, 0x81, 0x9F],
    [0xE3, 0x80, 0x80]]

def leadingRun (chars : List Text) : (skip : Nat) → Text → Nat
  | _, [] => 0
  | k + 1, _ :: rest => leadingRun chars k rest + 1
  | 0, c :: rest =>
    match chars.find? (·.isPrefixOf (c :: rest)) with
    | none => 0
    | some w => leadingRun chars (w.length - 1) rest + 1

def leadingWhitespace (t : Text) : Nat :=
  leadingRun whitespaceChars 0 t

def trailingWhitespace (t : Text) : Nat :=
  leadingRun (whitespaceChars.map List.reverse) 0 t.reverse

inductive LexState where
  | code
  | dash
  | slash
  | line
  | block
  | star
  | str
  | ident
  deriving DecidableEq

namespace LexState

def fromCode (c : UInt8) : LexState :=
  if c = byte '-' then .dash
  else if c = byte '/' then .slash
  else if c = byte '\'' then .str
  else if c = byte '"' then .ident
  else .code

-- a doubled quote closes the literal and opens it again, so it needs no state of its own
def step : LexState → UInt8 → LexState
  | .code, c => fromCode c
  | .dash, c => if c = byte '-' then .line else fromCode c
  | .slash, c => if c = byte '*' then .block else fromCode c
  | .line, c => if c = byte '\n' then .code else .line
  | .block, c => if c = byte '*' then .star else .block
  | .star, c => if c = byte '/' then .code else if c = byte '*' then .star else .block
  | .str, c => if c = byte '\'' then .code else .str
  | .ident, c => if c = byte '"' then .code else .ident

def run (s : LexState) (t : Text) : LexState :=
  t.foldl step s

def inCode : LexState → Bool
  | .code | .dash | .slash => true
  | _ => false

@[simp] lemma run_nil (s : LexState) : s.run [] = s := rfl

@[simp] lemma run_cons (s : LexState) (c : UInt8) (t : Text) : s.run (c :: t) = (s.step c).run t := rfl

@[simp] lemma run_append (s : LexState) (t u : Text) : s.run (t ++ u) = (s.run t).run u := by
  simp [run]

def emitCode (c : UInt8) : Text :=
  if c = byte '-' ∨ c = byte '/' ∨ isAsciiWhitespace c then [] else [c]

-- `-` and `/` are held back until the next byte tells whether they open a comment
def emit : LexState → UInt8 → Text
  | .code, c => emitCode c
  | .dash, c => if c = byte '-' then [] else byte '-' :: emitCode c
  | .slash, c => if c = byte '*' then [] else byte '/' :: emitCode c
  | .line, _ | .block, _ | .star, _ => []
  | .str, c | .ident, c => [c]

def flush : LexState → Text
  | .dash => [byte '-']
  | .slash => [byte '/']
  | _ => []

def emitted : LexState → Text → Text
  | _, [] => []
  | s, c :: t => s.emit c ++ emitted (s.step c) t

def significant (s : LexState) (t : Text) : Text :=
  s.emitted t ++ (s.run t).flush

lemma emitted_append (s : LexState) (t u : Text) : s.emitted (t ++ u) = s.emitted t ++ (s.run t).emitted u := by
  induction t generalizing s with
  | nil => rfl
  | cons c t ih => simp [emitted, ih]

lemma significant_append (s : LexState) (t u : Text) : s.significant (t ++ u) = s.emitted t ++ (s.run t).significant u := by
  simp [significant, emitted_append]

@[simp] lemma significant_nil (s : LexState) : s.significant [] = s.flush := rfl

lemma significant_cons (s : LexState) (c : UInt8) (t : Text) : s.significant (c :: t) = s.emit c ++ (s.step c).significant t := by
  simp [significant, emitted]

lemma significant_dash {t : Text} (h : t.head? ≠ some (byte '-')) : dash.significant t = byte '-' :: code.significant t := by
  cases t with
  | nil => rfl
  | cons c t =>
    have hc : c ≠ byte '-' := by simpa using h
    simp [significant_cons, emit, step, hc]

lemma significant_slash {t : Text} (h : t.head? ≠ some (byte '*')) : slash.significant t = byte '/' :: code.significant t := by
  cases t with
  | nil => rfl
  | cons c t =>
    have hc : c ≠ byte '*' := by simpa using h
    simp [significant_cons, emit, step, hc]

def plainByte (c : UInt8) : Bool :=
  fromCode c = .code && !isAsciiWhitespace c

lemma significant_plain {c : UInt8} (h : plainByte c = true) (t : Text) : code.significant (c :: t) = c :: code.significant t := by
  obtain ⟨hc, hw⟩ : fromCode c = .code ∧ isAsciiWhitespace c = false := by simpa [plainByte] using h
  have hd : c ≠ byte '-' := by rintro rfl; exact absurd hc (by decide)
  have hs : c ≠ byte '/' := by rintro rfl; exact absurd hc (by decide)
  simp [significant_cons, emit, step, hc, emitCode, hd, hs, hw]

lemma significant_plain_append {w : Text} (h : w.all plainByte = true) (t : Text) :
    code.significant (w ++ t) = w ++ code.significant t := by
  induction w with
  | nil => rfl
  | cons c w ih =>
    obtain ⟨hc, hw⟩ : plainByte c = true ∧ w.all plainByte = true := by simpa using h
    rw [cons_append, significant_plain hc, ih hw, cons_append]

end LexState

variable {σ : Type} (b : σ → UInt8)

/-- The placeholder symbols from a lexer state on; `escaped` drops the second `?` of an escape. -/
def slotsFrom : LexState → (escaped : Bool) → List σ → List σ
  | _, _, [] => []
  | s, true, x :: xs => slotsFrom (s.step (b x)) false xs
  | s, false, x :: xs =>
    if s.inCode ∧ b x = byte '?' then
      if xs.head?.map b = some (byte '?') then slotsFrom (s.step (b x)) true xs
      else x :: slotsFrom (s.step (b x)) false xs
    else slotsFrom (s.step (b x)) false xs

def slots (xs : List σ) : List σ :=
  slotsFrom b .code false xs

variable {b}

lemma mem_of_mem_slotsFrom {x : σ} (s : LexState) (k : Bool) (xs : List σ) (h : x ∈ slotsFrom b s k xs) : x ∈ xs := by
  induction xs generalizing s k with
  | nil => exact h
  | cons y ys ih =>
    cases k with
    | true => exact mem_cons_of_mem y (ih _ _ h)
    | false =>
      rw [slotsFrom] at h
      split_ifs at h
      · exact mem_cons_of_mem y (ih _ _ h)
      · rcases mem_cons.mp h with rfl | h
        · exact mem_cons_self
        · exact mem_cons_of_mem y (ih _ _ h)
      · exact mem_cons_of_mem y (ih _ _ h)

lemma slotsFrom_append {y : σ} (hy : b y ≠ byte '?') (ys : List σ) (xs : List σ) (s : LexState) (k : Bool)
    (hk : k = true → xs ≠ []) :
    slotsFrom b s k (xs ++ y :: ys) = slotsFrom b s k xs ++ slotsFrom b ((s.run (xs.map b)).step (b y)) false ys := by
  induction xs generalizing s k with
  | nil =>
    cases k with
    | true => exact absurd rfl (hk rfl)
    | false => simp [slotsFrom, hy]
  | cons x xs ih =>
    cases k with
    | true => exact ih (s.step (b x)) false (by simp)
    | false =>
      have hhead : (xs ++ y :: ys).head?.map b = some (byte '?') ↔ xs.head?.map b = some (byte '?') := by
        cases xs with
        | nil => simp [hy]
        | cons x' xs => simp
      rw [cons_append, slotsFrom, slotsFrom]
      simp only [hhead, map_cons, LexState.run_cons]
      split_ifs with hx hq
      · refine ih (s.step (b x)) true ?_
        rintro - rfl
        simp at hq
      · rw [ih (s.step (b x)) false (by simp), cons_append]
      · exact ih (s.step (b x)) false (by simp)

lemma map_slotsFrom (s : LexState) (k : Bool) (xs : List σ) : (slotsFrom b s k xs).map b = slotsFrom id s k (xs.map b) := by
  induction xs generalizing s k with
  | nil => rfl
  | cons x xs ih =>
    cases k with
    | true => exact ih ..
    | false =>
      simp only [map_cons, slotsFrom, Option.map_id_fun, id_eq, head?_map]
      split_ifs
      · exact ih ..
      · rw [map_cons, ih]
      · exact ih _ _

def quietByte (c : UInt8) : Bool :=
  c != byte '\'' && c != byte '"' && c != byte '\n' && c != byte '/'

lemma inCode_step_quiet {s : LexState} (hs : s.inCode = false) {c : UInt8} (hc : quietByte c = true) : (s.step c).inCode = false := by
  obtain ⟨h1, h2, h3, h4⟩ : c ≠ byte '\'' ∧ c ≠ byte '"' ∧ c ≠ byte '\n' ∧ c ≠ byte '/' := by
    simpa [quietByte, and_assoc] using hc
  cases s with
  | code | dash | slash => exact absurd hs (by decide)
  | line => simp [LexState.step, h3, LexState.inCode]
  | block => by_cases hb : c = byte '*' <;> simp [LexState.step, hb, LexState.inCode]
  | star =>
    rw [LexState.step, if_neg h4]
    split_ifs <;> rfl
  | str => simp [LexState.step, h1, LexState.inCode]
  | ident => simp [LexState.step, h2, LexState.inCode]

lemma slotsFrom_quiet {xs : List σ} (hq : ∀ x ∈ xs, quietByte (b x) = true) {s : LexState} (hs : s.inCode = false) :
    slotsFrom b s false xs = [] ∧ (s.run (xs.map b)).inCode = false := by
  induction xs generalizing s with
  | nil => exact ⟨rfl, hs⟩
  | cons x xs ih =>
    obtain ⟨hx, hxs⟩ := forall_mem_cons.mp hq
    obtain ⟨h1, h2⟩ := ih hxs (inCode_step_quiet hs hx)
    exact ⟨by simpa [slotsFrom, hs] using h1, h2⟩

end Bookclerk.Lexical
