import Bookclerk.Sql.Parser

namespace Bookclerk.Sql

open Lexical LexState

variable {s : LexState} {m : Mode} {k : Nat} {w : ParenWalk} {rest t : Text} {c : UInt8}

lemma fromCode_whitespace (h : isAsciiWhitespace c = true) : fromCode c = .code :=
  forall_byte (p := fun c => isAsciiWhitespace c = true → fromCode c = .code) (by decide +kernel) c h

lemma skipTrivia_rest_suffix (m : TriviaMode) (k : Nat) (prev : Option UInt8) (t : Text) : (skipTrivia m k prev t).rest <:+ t := by
  induction t generalizing m k prev with
  | nil => cases m <;> cases k <;> simp [skipTrivia]
  | cons c rest ih =>
    have hs (m' : TriviaMode) (k' : Nat) (p : Option UInt8) : (skipTrivia m' k' p rest).rest <:+ c :: rest :=
      (ih m' k' p).trans (List.suffix_cons c rest)
    cases k with
    | succ k => exact hs m k (some c)
    | zero =>
      cases m with
      | between =>
        simp only [skipTrivia]
        split_ifs
        · exact hs ..
        · exact hs ..
        · exact hs ..
        · exact List.suffix_refl _
      | line => exact hs ..
      | block =>
        simp only [skipTrivia]
        split_ifs
        · exact hs ..
        · exact hs _ _ _

def TriviaMode.Tracks : TriviaMode → Nat → LexState → Text → Prop
  | .between, 0, s, _ => s = .code
  | .between, 1, s, t => s = .star ∧ t.head? = some (byte '/')
  | .line, 0, s, _ => s = .line
  | .line, 1, s, t => s = .dash ∧ t.head? = some (byte '-')
  | .block, 0, s, t => s = .block ∨ s = .star ∧ t.head? ≠ some (byte '/')
  | .block, 1, s, t => s = .slash ∧ t.head? = some (byte '*')
  | _, _, _, _ => False

lemma TriviaMode.Tracks.cases {m : TriviaMode} (h : m.Tracks k s t) :
    m = .between ∧ k = 0 ∧ s = .code ∨ m = .between ∧ k = 1 ∧ s = .star ∧ t.head? = some (byte '/') ∨
    m = .line ∧ k = 0 ∧ s = .line ∨ m = .line ∧ k = 1 ∧ s = .dash ∧ t.head? = some (byte '-') ∨
    m = .block ∧ k = 0 ∧ (s = .block ∨ s = .star ∧ t.head? ≠ some (byte '/')) ∨
    m = .block ∧ k = 1 ∧ s = .slash ∧ t.head? = some (byte '*') := by
  match m, k with
  | .between, 0 => exact .inl ⟨rfl, rfl, h⟩
  | .between, 1 => exact .inr (.inl ⟨rfl, rfl, h⟩)
  | .line, 0 => exact .inr (.inr (.inl ⟨rfl, rfl, h⟩))
  | .line, 1 => exact .inr (.inr (.inr (.inl ⟨rfl, rfl, h⟩)))
  | .block, 0 => exact .inr (.inr (.inr (.inr (.inl ⟨rfl, rfl, h⟩))))
  | .block, 1 => exact .inr (.inr (.inr (.inr (.inr ⟨rfl, rfl, h⟩))))
  | .between, k + 2 | .line, k + 2 | .block, k + 2 => exact h.elim

lemma significant_skipTrivia (m : TriviaMode) (k : Nat) (prev : Option UInt8) (s : LexState) (t : Text)
    (h : m.Tracks k s t) : code.significant (skipTrivia m k prev t).rest = s.significant t := by
  induction t generalizing m k prev s with
  | nil =>
    rcases h.cases with ⟨rfl, rfl, rfl⟩ | ⟨-, -, -, h⟩ | ⟨rfl, rfl, rfl⟩ | ⟨-, -, -, h⟩ | ⟨rfl, rfl, rfl | ⟨rfl, -⟩⟩ |
      ⟨-, -, -, h⟩
    all_goals first | simp at h | simp [skipTrivia, flush]
  | cons c rest ih =>
    rw [significant_cons]
    rcases h.cases with ⟨rfl, rfl, rfl⟩ | ⟨rfl, rfl, rfl, hh⟩ | ⟨rfl, rfl, rfl⟩ | ⟨rfl, rfl, rfl, hh⟩ |
      ⟨rfl, rfl, hs⟩ | ⟨rfl, rfl, rfl, hh⟩
    · simp only [skipTrivia]
      split_ifs with hw hd hb
      · simp [emit, emitCode, hw, step, fromCode_whitespace hw, ih .between 0 (some c) .code rfl]
      · obtain ⟨rfl, hd⟩ := hd
        simpa [emit, emitCode, step, fromCode] using ih .line 1 (some (byte '-')) .dash ⟨rfl, hd⟩
      · obtain ⟨rfl, hb⟩ := hb
        have hne : byte '/' ≠ byte '-' := by decide
        simpa [emit, emitCode, step, fromCode, hne] using ih .block 1 (some (byte '/')) .slash ⟨rfl, hb⟩
      · rw [significant_cons]
    · obtain rfl : c = byte '/' := by simpa using hh
      simpa [skipTrivia, emit, step] using ih .between 0 (some (byte '/')) .code rfl
    · by_cases hc : c = byte '\n'
      · simpa [skipTrivia, emit, step, hc] using ih .between 0 (some (byte '\n')) .code rfl
      · simpa [skipTrivia, emit, step, hc] using ih .line 0 (some c) .line rfl
    · obtain rfl : c = byte '-' := by simpa using hh
      simpa [skipTrivia, emit, step] using ih .line 0 (some (byte '-')) .line rfl
    · have hne : byte '*' ≠ byte '/' := by decide
      -- a star at hand is followed by something else than `/`, so it is like any byte of the comment
      have hstep : c ≠ byte '*' → s.step c = .block := by
        intro hc
        rcases hs with rfl | ⟨rfl, hs⟩
        · simp [step, hc]
        · have hsl : c ≠ byte '/' := by simpa using hs
          simp [step, hc, hsl]
      have hemit : s.emit c = [] := by
        rcases hs with rfl | ⟨rfl, -⟩ <;> rfl
      by_cases hc : c = byte '*'
      · subst hc
        have hstar : s.step (byte '*') = .star := by
          rcases hs with rfl | ⟨rfl, -⟩ <;> simp [step, hne]
        by_cases hr : rest.head? = some (byte '/')
        · simpa [skipTrivia, hr, hemit, hstar] using ih .between 1 (some (byte '*')) .star ⟨rfl, hr⟩
        · simpa [skipTrivia, hr, hemit, hstar] using ih .block 0 (some (byte '*')) .star (.inr ⟨rfl, hr⟩)
      · simpa [skipTrivia, hc, hemit, hstep hc] using ih .block 0 (some c) .block (.inl rfl)
    · obtain rfl : c = byte '*' := by simpa using hh
      simpa [skipTrivia, emit, step] using ih .block 0 (some (byte '*')) .block (.inl rfl)

lemma significant_skip (s : Scan) : code.significant s.skip.rest = code.significant s.rest :=
  significant_skipTrivia .between 0 s.prev .code s.rest rfl

lemma length_skip_le (s : Scan) : s.skip.rest.length ≤ s.rest.length :=
  (skipTrivia_rest_suffix .between 0 s.prev s.rest).length_le

def AtToken (t : Text) : Prop :=
  ∀ c r, t = c :: r → isAsciiWhitespace c = false ∧ (c = byte '-' → r.head? ≠ some (byte '-')) ∧
    (c = byte '/' → r.head? ≠ some (byte '*'))

lemma atToken_skipTrivia (m : TriviaMode) (k : Nat) (prev : Option UInt8) (t : Text) : AtToken (skipTrivia m k prev t).rest := by
  induction t generalizing m k prev with
  | nil => cases m <;> cases k <;> simp [skipTrivia, AtToken]
  | cons c rest ih =>
    cases k with
    | succ k => exact ih m k (some c)
    | zero =>
      cases m with
      | between =>
        simp only [skipTrivia]
        split_ifs with hw hd hb
        · exact ih _ _ _
        · exact ih _ _ _
        · exact ih _ _ _
        · rintro d r he
          obtain ⟨rfl, rfl⟩ : c = d ∧ rest = r := by simpa using he
          exact ⟨by simpa using hw, fun h1 h2 => hd ⟨h1, h2⟩, fun h1 h2 => hb ⟨h1, h2⟩⟩
      | line => exact ih _ _ _
      | block =>
        simp only [skipTrivia]
        split_ifs
        · exact ih _ _ _
        · exact ih _ _ _

lemma significant_token (h : AtToken (c :: t)) (h1 : c ≠ byte '\'') (h2 : c ≠ byte '"') :
    code.significant (c :: t) = c :: code.significant t := by
  obtain ⟨hw, hd, hs⟩ := h c t rfl
  by_cases hd' : c = byte '-'
  · subst hd'
    rw [significant_cons, show code.step (byte '-') = .dash from rfl, significant_dash (hd rfl)]
    rfl
  by_cases hs' : c = byte '/'
  · subst hs'
    rw [significant_cons, show code.step (byte '/') = .slash from rfl, significant_slash (hs rfl)]
    rfl
  · exact significant_plain (by simp [plainByte, fromCode, h1, h2, hd', hs', hw]) t

def Mode.next : Mode → Nat → UInt8 → Text → Mode × Nat
  | m, k + 1, _, _ => (m, k)
  | .line, 0, c, _ => (if c = byte '\n' then .code else .line, 0)
  | .block, 0, c, rest => if c = byte '*' ∧ rest.head? = some (byte '/') then (.code, 1) else (.block, 0)
  | .squote, 0, c, rest =>
    if c = byte '\'' then if rest.head? = some (byte '\'') then (.squote, 1) else (.code, 0) else (.squote, 0)
  | .dquote, 0, c, rest =>
    if c = byte '"' then if rest.head? = some (byte '"') then (.dquote, 1) else (.code, 0) else (.dquote, 0)
  | .code, 0, c, rest =>
    if c = byte '-' ∧ rest.head? = some (byte '-') then (.line, 1)
    else if c = byte '/' ∧ rest.head? = some (byte '*') then (.block, 1)
    else if c = byte '\'' then (.squote, 0)
    else if c = byte '"' then (.dquote, 0)
    else (.code, 0)

def Mode.visits : Mode → Nat → UInt8 → Text → Bool
  | .code, 0, c, rest =>
    ¬ (c = byte '-' ∧ rest.head? = some (byte '-')) ∧ ¬ (c = byte '/' ∧ rest.head? = some (byte '*')) ∧
      c ≠ byte '\'' ∧ c ≠ byte '"'
  | _, _, _, _ => false

lemma forEachUnquoted_cons {σ : Type} {step : σ → Nat → Text → σ × Nat} {i : Nat} {acc : σ} (hone : m.visits k c rest = true → (step acc i (c :: rest)).2 = 1) :
    forEachUnquoted step m k i acc (c :: rest) =
      forEachUnquoted step (m.next k c rest).1 (m.next k c rest).2 (i + 1)
        (if m.visits k c rest then (step acc i (c :: rest)).1 else acc) rest := by
  cases k with
  | succ k => cases m <;> rfl
  | zero =>
    cases m with
    | line => rfl
    | block | squote | dquote => simp only [forEachUnquoted, Mode.next]; split_ifs <;> simp_all [Mode.visits]
    | code =>
      simp only [Mode.visits] at hone ⊢
      simp only [forEachUnquoted, Mode.next]
      split_ifs with h1 h2 h3 h4 <;> simp_all

lemma Mode.eq_code_of_visits (h : m.visits k c rest = true) : m = .code ∧ k = 0 := by
  cases m <;> cases k <;> simp_all [Mode.visits]

def Mode.Tracks : Mode → Nat → LexState → Text → Prop
  | .code, 0, s, t => s = .code ∨ s = .dash ∧ t.head? ≠ some (byte '-') ∨ s = .slash ∧ t.head? ≠ some (byte '*')
  | .code, 1, s, t => s = .star ∧ t.head? = some (byte '/')
  | .line, 0, s, _ => s = .line
  | .line, 1, s, t => s = .dash ∧ t.head? = some (byte '-')
  | .block, 0, s, t => s = .block ∨ s = .star ∧ t.head? ≠ some (byte '/')
  | .block, 1, s, t => s = .slash ∧ t.head? = some (byte '*')
  | .squote, 0, s, _ => s = .str
  | .squote, 1, s, t => s = .code ∧ t.head? = some (byte '\'')
  | .dquote, 0, s, _ => s = .ident
  | .dquote, 1, s, t => s = .code ∧ t.head? = some (byte '"')
  | _, _, _, _ => False

lemma Mode.Tracks.code_step (h : Mode.code.Tracks 0 s (c :: rest)) : s.inCode = true ∧ s.step c = fromCode c := by
  rcases h with rfl | ⟨rfl, h⟩ | ⟨rfl, h⟩
  · exact ⟨rfl, rfl⟩
  · have hc : c ≠ byte '-' := by simpa using h
    simp [inCode, LexState.step, hc]
  · have hc : c ≠ byte '*' := by simpa using h
    simp [inCode, LexState.step, hc]

lemma Mode.Tracks.next (h : m.Tracks k s (c :: rest)) : (m.next k c rest).1.Tracks (m.next k c rest).2 (s.step c) rest := by
  match m, k with
  | .code, 0 =>
    rw [h.code_step.2]
    have h1 : byte '/' ≠ byte '-' := by decide
    have h2 : byte '\'' ≠ byte '-' ∧ byte '\'' ≠ byte '/' := by decide
    have h3 : byte '"' ≠ byte '-' ∧ byte '"' ≠ byte '/' ∧ byte '"' ≠ byte '\'' := by decide
    simp only [Mode.next]
    split_ifs with hd hb hs hi
    · simp [Mode.Tracks, fromCode, hd]
    · simp [Mode.Tracks, fromCode, hb, h1]
    · simp [Mode.Tracks, fromCode, hs, h2]
    · simp [Mode.Tracks, fromCode, hi, h3]
    · by_cases hc : c = byte '-'
      · simp_all [Mode.Tracks, fromCode]
      by_cases hc' : c = byte '/'
      · simp_all [Mode.Tracks, fromCode]
      · simp [Mode.Tracks, fromCode, hc, hc', hs, hi]
  | .code, 1 =>
    obtain ⟨rfl, h⟩ := h
    have hc : c = byte '/' := by simpa using h
    simp [Mode.next, Mode.Tracks, LexState.step, hc]
  | .line, 0 =>
    obtain rfl : s = .line := h
    by_cases hc : c = byte '\n' <;> simp [Mode.next, Mode.Tracks, LexState.step, hc]
  | .line, 1 =>
    obtain ⟨rfl, h⟩ := h
    have hc : c = byte '-' := by simpa using h
    simp [Mode.next, Mode.Tracks, LexState.step, hc]
  | .block, 0 =>
    have hne : byte '*' ≠ byte '/' := by decide
    by_cases hc : c = byte '*'
    · have hstar : s.step c = .star := by
        rcases h with rfl | ⟨rfl, -⟩ <;> simp [LexState.step, hc, hne]
      rw [hstar]
      by_cases hr : rest.head? = some (byte '/') <;> simp [Mode.next, Mode.Tracks, hc, hr]
    · have hblock : s.step c = .block := by
        rcases h with rfl | ⟨rfl, h⟩
        · simp [LexState.step, hc]
        · have hsl : c ≠ byte '/' := by simpa using h
          simp [LexState.step, hc, hsl]
      simp [Mode.next, Mode.Tracks, hblock, hc]
  | .block, 1 =>
    obtain ⟨rfl, h⟩ := h
    have hc : c = byte '*' := by simpa using h
    simp [Mode.next, Mode.Tracks, LexState.step, hc]
  | .squote, 0 =>
    obtain rfl : s = .str := h
    by_cases hc : c = byte '\''
    · by_cases hr : rest.head? = some (byte '\'') <;> simp [Mode.next, Mode.Tracks, LexState.step, hc, hr]
    · simp [Mode.next, Mode.Tracks, LexState.step, hc]
  | .squote, 1 =>
    obtain ⟨rfl, h⟩ := h
    have hc : c = byte '\'' := by simpa using h
    have h2 : byte '\'' ≠ byte '-' ∧ byte '\'' ≠ byte '/' := by decide
    simp [Mode.next, Mode.Tracks, LexState.step, fromCode, hc, h2]
  | .dquote, 0 =>
    obtain rfl : s = .ident := h
    by_cases hc : c = byte '"'
    · by_cases hr : rest.head? = some (byte '"') <;> simp [Mode.next, Mode.Tracks, LexState.step, hc, hr]
    · simp [Mode.next, Mode.Tracks, LexState.step, hc]
  | .dquote, 1 =>
    obtain ⟨rfl, h⟩ := h
    have hc : c = byte '"' := by simpa using h
    have h3 : byte '"' ≠ byte '-' ∧ byte '"' ≠ byte '/' ∧ byte '"' ≠ byte '\'' := by decide
    simp [Mode.next, Mode.Tracks, LexState.step, fromCode, hc, h3]
  | .code, k + 2 | .line, k + 2 | .block, k + 2 | .squote, k + 2 | .dquote, k + 2 => exact h.elim

lemma Mode.Tracks.visits_eq (h : m.Tracks k s (c :: rest))
    (hc : fromCode c = .code) (hb : c ≠ byte '*') : m.visits k c rest = s.inCode := by
  have hne : c ≠ byte '-' ∧ c ≠ byte '/' ∧ c ≠ byte '\'' ∧ c ≠ byte '"' := by
    refine ⟨?_, ?_, ?_, ?_⟩ <;> (rintro rfl; exact absurd hc (by decide))
  match m, k with
  | .code, 0 => simp [Mode.visits, h.code_step.1, hne]
  | .code, 1 => exact absurd (by simpa using h.2) hne.2.1
  | .line, 0 => obtain rfl : s = .line := h; rfl
  | .line, 1 => exact absurd (by simpa using h.2) hne.1
  | .block, 0 => rcases h with rfl | ⟨rfl, -⟩ <;> rfl
  | .block, 1 => exact absurd (by simpa using h.2) hb
  | .squote, 0 => obtain rfl : s = .str := h; rfl
  | .squote, 1 => exact absurd (by simpa using h.2) hne.2.2.1
  | .dquote, 0 => obtain rfl : s = .ident := h; rfl
  | .dquote, 1 => exact absurd (by simpa using h.2) hne.2.2.2
  | .code, k + 2 | .line, k + 2 | .block, k + 2 | .squote, k + 2 | .dquote, k + 2 => exact h.elim

lemma parenStep_one (w : ParenWalk) (i : Nat) (t : Text) : (parenStep w i t).2 = 1 := by
  simp only [parenStep]
  split_ifs <;> rfl

lemma parenStep_stopped (h : w.stop.isSome) (i : Nat) (t : Text) : (parenStep w i t).1 = w := by
  simp [parenStep, h]

lemma forEachUnquoted_paren_stopped (t : Text) (m : Mode) (k i : Nat) (h : w.stop.isSome) : forEachUnquoted parenStep m k i w t = w := by
  induction t generalizing m k i with
  | nil => cases m <;> cases k <;> rfl
  | cons c rest ih =>
    rw [forEachUnquoted_cons fun _ => parenStep_one .., parenStep_stopped h, ite_self]
    exact ih _ _ _

lemma parenWalk_stop {i d n : Nat} (hm : m.Tracks k s t)
    (h : (forEachUnquoted parenStep m k i ⟨d + 1, none⟩ t).stop = some n) :
    ∃ pre post, t = pre ++ byte ')' :: post ∧ n = i + pre.length + 1 ∧ (s.run pre).inCode = true := by
  induction t generalizing m k i d s with
  | nil => cases m <;> cases k <;> simp [forEachUnquoted] at h
  | cons c rest ih =>
    rw [forEachUnquoted_cons fun _ => parenStep_one ..] at h
    -- the walk goes on after `c` with some positive depth
    have go (d' : Nat) (h : (forEachUnquoted parenStep (m.next k c rest).1 (m.next k c rest).2 (i + 1) ⟨d' + 1, none⟩
        rest).stop = some n) :
        ∃ pre post, c :: rest = pre ++ byte ')' :: post ∧ n = i + pre.length + 1 ∧ (s.run pre).inCode = true := by
      obtain ⟨pre, post, rfl, hn, hs⟩ := ih hm.next h
      exact ⟨c :: pre, post, rfl, by simp only [List.length_cons]; omega, hs⟩
    by_cases hv : m.visits k c rest = true
    · rw [if_pos hv] at h
      by_cases hop : c = byte '('
      · subst hop
        exact go (d + 1) (by simpa [parenStep] using h)
      by_cases hcl : c = byte ')'
      · subst hcl
        have hne : byte ')' ≠ byte '(' := by decide
        cases d with
        | zero =>
          rw [forEachUnquoted_paren_stopped] at h
          · refine ⟨[], rest, rfl, ?_, ?_⟩
            · simpa +decide [parenStep, eq_comm] using h
            · rw [run_nil, ← hm.visits_eq (by decide) (by decide), hv]
          · simp [parenStep, hne]
        | succ d => exact go d (by simpa [parenStep, hne] using h)
      · exact go d (by simpa [parenStep, hop, hcl] using h)
    · rw [if_neg hv] at h
      exact go d h

lemma skipBalancedParens_eq_some {r : Text} {n : Nat} (h : skipBalancedParens (byte '(' :: r) = some n) :
    ∃ inner post, r = inner ++ byte ')' :: post ∧ n = inner.length + 2 ∧ (code.run inner).inCode = true := by
  have h0 : (forEachUnquoted parenStep .code 0 0 {} (byte '(' :: r)).stop = some n := by
    simpa [skipBalancedParens] using h
  rw [forEachUnquoted_cons fun _ => parenStep_one ..] at h0
  have hv : Mode.visits .code 0 (byte '(') r = true := by
    simp +decide [Mode.visits]
  obtain ⟨inner, post, hr, hn, hs⟩ := parenWalk_stop (m := .code) (k := 0) (Or.inl rfl)
    (by simpa +decide [hv, parenStep, Mode.next] using h0)
  exact ⟨inner, post, hr, by omega, hs⟩

end Bookclerk.Sql
