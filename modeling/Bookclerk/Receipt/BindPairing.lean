import Bookclerk.Receipt.Envelope
import Bookclerk.Sql.ScanSpec

namespace Bookclerk.Receipt

open Lexical Sql Db LexState List Function

variable {kind : StatementKind} {rest : Text} {c : UInt8}

section Count

variable {σ : Type} {b : σ → UInt8}

lemma placeholderStep_of_ne (hc : c ≠ byte '?') (n i : Nat) (rest : Text) : placeholderStep n i (c :: rest) = (n, 1) := by
  simp [placeholderStep, hc]

lemma placeholderStep_single (h : rest.head? ≠ some (byte '?')) (n i : Nat) : placeholderStep n i (byte '?' :: rest) = (n + 1, 1) := by
  simp [placeholderStep, h]

lemma forEachUnquoted_escape (h : rest.head? = some (byte '?')) (n i : Nat) :
    forEachUnquoted placeholderStep .code 0 i n (byte '?' :: rest) = forEachUnquoted placeholderStep .code 1 (i + 1) n rest := by
  simp +decide [forEachUnquoted, placeholderStep, h]

lemma forEachUnquoted_no_slot {m : Mode} {k : Nat} {s : LexState} (hm : m.Tracks k s (c :: rest))
    (h : ¬ (s.inCode = true ∧ c = byte '?')) (i n : Nat) :
    forEachUnquoted placeholderStep m k i n (c :: rest) =
      forEachUnquoted placeholderStep (m.next k c rest).1 (m.next k c rest).2 (i + 1) n rest := by
  by_cases hq : c = byte '?'
  · have hv : m.visits k c rest = false := by
      rw [hm.visits_eq (by rw [hq]; decide) (by rw [hq]; decide)]
      simpa [hq] using h
    rw [forEachUnquoted_cons (by simp [hv]), hv, if_neg Bool.false_ne_true]
  · rw [forEachUnquoted_cons fun _ => by rw [placeholderStep_of_ne hq], placeholderStep_of_ne hq, ite_self]

lemma forEachUnquoted_placeholders (xs : List σ) :
    (∀ (m : Mode) (k i n : Nat) (s : LexState), m.Tracks k s (xs.map b) →
      forEachUnquoted placeholderStep m k i n (xs.map b) = n + (slotsFrom b s false xs).length) ∧
    (∀ i n : Nat, (xs.map b).head? = some (byte '?') →
      forEachUnquoted placeholderStep .code 1 i n (xs.map b) = n + (slotsFrom b .code true xs).length) := by
  induction xs with
  | nil => exact ⟨fun m k i n s _ => by cases m <;> cases k <;> rfl, fun i n h => by simp at h⟩
  | cons x xs ih =>
    obtain ⟨ih, ihe⟩ := ih
    have hnext : Mode.code.Tracks 0 .code (xs.map b) := Or.inl rfl
    refine ⟨fun m k i n s hm => ?_, fun i n hx => ?_⟩
    · rw [map_cons] at hm ⊢
      by_cases hslot : s.inCode = true ∧ b x = byte '?'
      · obtain ⟨hs, hq⟩ := hslot
        have hv := hm.visits_eq (by rw [hq]; decide) (by rw [hq]; decide)
        rw [hs] at hv
        obtain ⟨rfl, rfl⟩ := Mode.eq_code_of_visits hv
        have hcode : s.step (b x) = .code := by rw [hm.code_step.2, hq]; decide
        rw [slotsFrom, if_pos ⟨hs, hq⟩, hcode, ← head?_map]
        by_cases hd : (xs.map b).head? = some (byte '?')
        · rw [if_pos hd, hq, forEachUnquoted_escape hd]
          exact ihe (i + 1) n hd
        · have hcont : Mode.code.next 0 (byte '?') (xs.map b) = (.code, 0) := by simp +decide [Mode.next]
          rw [hq] at hv
          rw [if_neg hd, length_cons, hq, forEachUnquoted_cons fun _ => by rw [placeholderStep_single hd],
            placeholderStep_single hd, if_pos hv, hcont, ih _ _ _ _ _ hnext]
          omega
      · rw [slotsFrom, if_neg hslot, forEachUnquoted_no_slot hm hslot]
        exact ih _ _ _ _ _ hm.next
    · have hcode : LexState.code.step (b x) = .code := by
        have hq : b x = byte '?' := by simpa using hx
        rw [hq]
        decide
      rw [slotsFrom, hcode]
      exact ih .code 0 (i + 1) n .code hnext

lemma countPlaceholders_eq (xs : List σ) : countPlaceholders (xs.map b) = (slots b xs).length := by
  have h := (forEachUnquoted_placeholders (b := b) xs).1 .code 0 0 0 .code (Or.inl rfl)
  simpa [countPlaceholders, slots] using h

end Count

inductive Origin where
  | guest (i : Nat)
  | gate
  | host
  deriving DecidableEq

structure Sym where
  byte : UInt8
  origin : Origin
  deriving DecidableEq

def hostSym (c : UInt8) : Sym :=
  ⟨c, .host⟩

def guestText (sql : Text) : List Sym :=
  sql.zipIdx.map fun c => ⟨c.1, .guest c.2⟩

def gateText : List Sym :=
  writeGate.map fun c => ⟨c, .gate⟩

def gateSlot : Sym :=
  ⟨byte '?', .gate⟩

def gatedSymbols (stmt : TypedDbStatement) : List Sym :=
  applyWritePredicate Sym.byte hostSym stmt.kind gateText (guestText stmt.sql)

/-- The parameter of each placeholder. An engine refuses a text with another number of placeholders. -/
def fed (t : List Sym) (parameters : List DbValue) : Option (List (Sym × DbValue)) :=
  if (slots Sym.byte t).length = parameters.length then some ((slots Sym.byte t).zip parameters) else none

/-- The condition under which gating keeps the pairing: the splice point is in code, every placeholder of the statement stands before it, and none in the
clauses after it. -/
structure GateAfterPlaceholders (sql : Text) (kind : StatementKind) : Prop where
  inCode : (code.run (gateHead id kind (rewriteInsertValuesToSelect id id sql))).inCode = true
  before : slots Sym.byte (gateHead Sym.byte kind (rewriteInsertValuesToSelect Sym.byte hostSym (guestText sql))) =
    slots Sym.byte (guestText sql)
  after : slots id (gateClauses id id kind (rewriteInsertValuesToSelect id id sql)) = []

section Erase

variable {σ : Type} {b : σ → UInt8} {host : UInt8 → σ}

lemma map_trimEnd (xs : List σ) : (trimEnd b xs).map b = trimEnd id (xs.map b) := by
  simp [trimEnd]

lemma map_trimStart (xs : List σ) : (trimStart b xs).map b = trimStart id (xs.map b) := by
  simp [trimStart]

lemma map_hostText (hb : ∀ c, b (host c) = c) (t : Text) : (hostText host t).map b = t := by
  simp [hostText, comp_def, hb]

lemma hostText_id (t : Text) : hostText id t = t :=
  map_id t

lemma map_rewriteInsertValuesToSelect (hb : ∀ c, b (host c) = c) (xs : List σ) :
    (rewriteInsertValuesToSelect b host xs).map b = rewriteInsertValuesToSelect id id (xs.map b) := by
  simp only [rewriteInsertValuesToSelect, map_id]
  cases valuesTuple (xs.map b) with
  | none => rfl
  | some tuple => simp [map_trimStart, map_trimEnd, map_hostText hb, hostText_id]

lemma map_splitReturning (kind : StatementKind) (xs : List σ) :
    splitReturning id kind (xs.map b) = ((splitReturning b kind xs).1.map b, (splitReturning b kind xs).2.map (List.map b)) := by
  simp only [splitReturning, map_id]
  split_ifs
  · cases lastTopLevelKeyword (xs.map b) "RETURNING" with
    | none => rfl
    | some i => simp [map_trimEnd, map_trimStart]
  · rfl

lemma map_gateHead (kind : StatementKind) (xs : List σ) : (gateHead b kind xs).map b = gateHead id kind (xs.map b) := by
  simp [gateHead, map_splitReturning, map_trimEnd]

lemma map_gateClauses (hb : ∀ c, b (host c) = c) (kind : StatementKind) (xs : List σ) :
    (gateClauses b host kind xs).map b = gateClauses id id kind (xs.map b) := by
  simp only [gateClauses, map_splitReturning, map_id, ← map_drop, ← map_trimStart, isEmpty_map, map_append]
  congr 1
  · split_ifs <;> simp [hb]
  · cases (splitReturning b kind xs).2 <;> simp [hb]

lemma map_applyWritePredicate (hb : ∀ c, b (host c) = c) (kind : StatementKind) (pred xs : List σ) :
    (applyWritePredicate b host kind pred xs).map b = applyWritePredicate id id kind (pred.map b) (xs.map b) := by
  simp only [applyWritePredicate, map_append, map_hostText hb, map_gateHead, map_gateClauses hb,
    map_rewriteInsertValuesToSelect hb, map_id, hostText_id]

variable {xs : List σ} {x : σ}

lemma mem_of_mem_trimEnd (h : x ∈ trimEnd b xs) : x ∈ xs :=
  mem_of_mem_take h

lemma mem_of_mem_trimStart (h : x ∈ trimStart b xs) : x ∈ xs :=
  mem_of_mem_drop h

lemma mem_rewriteInsertValuesToSelect (h : x ∈ rewriteInsertValuesToSelect b host xs) : x ∈ xs ∨ ∃ c, x = host c := by
  unfold rewriteInsertValuesToSelect at h
  split at h
  · exact Or.inl h
  · rcases mem_append.mp h with h | h
    · rcases mem_append.mp h with h | h
      · rcases mem_append.mp h with h | h
        · exact Or.inl (mem_of_mem_take h)
        · obtain ⟨c, -, rfl⟩ := mem_map.mp h
          exact Or.inr ⟨c, rfl⟩
      · exact Or.inl (mem_of_mem_take (mem_of_mem_drop (mem_of_mem_trimEnd (mem_of_mem_trimStart h))))
    · exact Or.inl (mem_of_mem_drop h)

lemma mem_splitReturning :
    (x ∈ (splitReturning b kind xs).1 → x ∈ xs) ∧ (∀ clause ∈ (splitReturning b kind xs).2, x ∈ clause → x ∈ xs) := by
  unfold splitReturning
  split_ifs
  · cases lastTopLevelKeyword (xs.map b) "RETURNING" with
    | none => simp
    | some i =>
      refine ⟨fun h => mem_of_mem_take (mem_of_mem_trimEnd h), ?_⟩
      intro clause hc h
      obtain rfl := Option.mem_some.mp hc
      exact mem_of_mem_drop (mem_of_mem_trimStart h)
  · simp

lemma mem_gateHead (h : x ∈ gateHead b kind xs) : x ∈ xs :=
  mem_splitReturning.1 (mem_of_mem_take (mem_of_mem_trimEnd h))

lemma mem_gateClauses (h : x ∈ gateClauses b host kind xs) : x ∈ xs ∨ ∃ c, x = host c := by
  rcases mem_append.mp h with h | h
  · split_ifs at h
    · simp at h
    · rcases mem_cons.mp h with rfl | h
      · exact Or.inr ⟨_, rfl⟩
      · exact Or.inl (mem_splitReturning.1 (mem_of_mem_drop (mem_of_mem_trimStart h)))
  · split at h
    · rename_i clause hc
      rcases mem_cons.mp h with rfl | h
      · exact Or.inr ⟨_, rfl⟩
      · exact Or.inl (mem_splitReturning.2 clause hc h)
    · simp at h

end Erase

lemma byte_hostSym (c : UInt8) : (hostSym c).byte = c := rfl

lemma map_byte_guestText (sql : Text) : (guestText sql).map Sym.byte = sql := by
  simp [guestText, comp_def]

lemma map_byte_gateText : gateText.map Sym.byte = writeGate := by
  simp [gateText, comp_def]

lemma map_byte_gatedSymbols (stmt : TypedDbStatement) :
    (gatedSymbols stmt).map Sym.byte = applyWritePredicate id id stmt.kind writeGate stmt.sql := by
  rw [gatedSymbols, map_applyWritePredicate byte_hostSym, map_byte_gateText, map_byte_guestText]

lemma gateSlot_not_mem_guestText (sql : Text) : gateSlot ∉ guestText sql := by
  simp [guestText, gateSlot]

lemma gateSlot_not_mem_rewrite (sql : Text) : gateSlot ∉ rewriteInsertValuesToSelect Sym.byte hostSym (guestText sql) := by
  intro h
  rcases mem_rewriteInsertValuesToSelect h with h | ⟨c, h⟩
  · exact gateSlot_not_mem_guestText sql h
  · simp [gateSlot, hostSym] at h

lemma gateSlot_not_mem_clauses (kind : StatementKind) (sql : Text) :
    gateSlot ∉ gateClauses Sym.byte hostSym kind (rewriteInsertValuesToSelect Sym.byte hostSym (guestText sql)) := by
  intro h
  rcases mem_gateClauses h with h | ⟨c, h⟩
  · exact gateSlot_not_mem_rewrite sql h
  · simp [gateSlot, hostSym] at h

lemma map_byte_rewrite (sql : Text) :
    (rewriteInsertValuesToSelect Sym.byte hostSym (guestText sql)).map Sym.byte = rewriteInsertValuesToSelect id id sql := by
  rw [map_rewriteInsertValuesToSelect byte_hostSym, map_byte_guestText]

lemma map_byte_gateHead (kind : StatementKind) (sql : Text) :
    (gateHead Sym.byte kind (rewriteInsertValuesToSelect Sym.byte hostSym (guestText sql))).map Sym.byte =
      gateHead id kind (rewriteInsertValuesToSelect id id sql) := by
  rw [map_gateHead, map_byte_rewrite]

lemma slots_clauses_eq_nil_iff (kind : StatementKind) (sql : Text) :
    slots Sym.byte (gateClauses Sym.byte hostSym kind (rewriteInsertValuesToSelect Sym.byte hostSym (guestText sql))) = [] ↔
      slots id (gateClauses id id kind (rewriteInsertValuesToSelect id id sql)) = [] := by
  rw [slots, slots, ← map_byte_rewrite, ← map_gateClauses byte_hostSym, ← map_slotsFrom, map_eq_nil_iff]

def gateBridge (junction : Text) : List Sym :=
  hostText hostSym (junction ++ utf8 " ") ++ writeGate.dropLast.map fun c => ⟨c, .gate⟩

lemma gatedSymbols_eq (stmt : TypedDbStatement) :
    let rewritten := rewriteInsertValuesToSelect Sym.byte hostSym (guestText stmt.sql)
    gatedSymbols stmt = gateHead Sym.byte stmt.kind rewritten ++ hostSym (byte ' ') ::
      (gateBridge (whereOrAnd ((gateHead Sym.byte stmt.kind rewritten).map Sym.byte)) ++ ⟨byte ')', .gate⟩ ::
        gateClauses Sym.byte hostSym stmt.kind rewritten) := by
  have hgate : writeGate = writeGate.dropLast ++ [byte ')'] := by decide +kernel
  have hblank : utf8 " " = [byte ' '] := by decide
  simp only [gatedSymbols, applyWritePredicate, gateBridge, gateText, hostText]
  conv_lhs => rw [hgate]
  simp [hblank]

lemma whereOrAnd_cases (head : Text) : whereOrAnd head = utf8 "AND" ∨ whereOrAnd head = utf8 "WHERE" := by
  unfold whereOrAnd
  split_ifs <;> simp

lemma gateBridge_code (head : Text) :
    slotsFrom Sym.byte .code false (gateBridge (whereOrAnd head)) = [gateSlot] ∧
      (code.run ((gateBridge (whereOrAnd head)).map Sym.byte)).step (byte ')') = .code := by
  rcases whereOrAnd_cases head with h | h <;> (rw [h]; decide +kernel)

lemma gateBridge_quiet (head : Text) : ∀ x ∈ gateBridge (whereOrAnd head), quietByte x.byte = true := by
  rcases whereOrAnd_cases head with h | h <;> (rw [h]; decide +kernel)

lemma slots_gatedSymbols_of_inCode (stmt : TypedDbStatement) (hc : (code.run (gateHead id stmt.kind
    (rewriteInsertValuesToSelect id id stmt.sql))).inCode = true) :
    let rewritten := rewriteInsertValuesToSelect Sym.byte hostSym (guestText stmt.sql)
    slots Sym.byte (gatedSymbols stmt) = slots Sym.byte (gateHead Sym.byte stmt.kind rewritten) ++
      gateSlot :: slots Sym.byte (gateClauses Sym.byte hostSym stmt.kind rewritten) := by
  have hblank {s : LexState} (hs : s.inCode = true) : s.step (byte ' ') = .code := by
    cases s <;> first | rfl | exact absurd hs (by decide)
  obtain ⟨hslot, hend⟩ := gateBridge_code (gateHead id stmt.kind (rewriteInsertValuesToSelect id id stmt.sql))
  rw [gatedSymbols_eq, slots, slotsFrom_append (by decide) _ _ _ _ (by simp), map_byte_gateHead, hostSym, hblank hc,
    slotsFrom_append (by decide) _ _ _ _ (by simp), hslot, hend]
  rfl

lemma gateSlot_not_mem_slots (stmt : TypedDbStatement) (hc : (code.run (gateHead id stmt.kind
    (rewriteInsertValuesToSelect id id stmt.sql))).inCode = false) : gateSlot ∉ slots Sym.byte (gatedSymbols stmt) := by
  rw [gatedSymbols_eq, slots, slotsFrom_append (by decide) _ _ _ _ (by simp), map_byte_gateHead,
    slotsFrom_append (by decide) _ _ _ _ (by simp),
    (slotsFrom_quiet (gateBridge_quiet _) (inCode_step_quiet hc (by decide))).1]
  simp only [nil_append, mem_append, not_or]
  refine ⟨fun h => ?_, fun h => ?_⟩
  · exact gateSlot_not_mem_rewrite _ (mem_gateHead (mem_of_mem_slotsFrom _ _ _ h))
  · exact gateSlot_not_mem_clauses _ _ (mem_of_mem_slotsFrom _ _ _ h)

lemma slots_gatedSymbols_iff (stmt : TypedDbStatement) :
    slots Sym.byte (gatedSymbols stmt) = slots Sym.byte (guestText stmt.sql) ++ [gateSlot] ↔ GateAfterPlaceholders stmt.sql stmt.kind := by
  by_cases hc : (code.run (gateHead id stmt.kind (rewriteInsertValuesToSelect id id stmt.sql))).inCode = true
  · have hclauses : gateSlot ∉ slots Sym.byte (gateClauses Sym.byte hostSym stmt.kind (rewriteInsertValuesToSelect
        Sym.byte hostSym (guestText stmt.sql))) := fun h =>
      gateSlot_not_mem_clauses stmt.kind stmt.sql (mem_of_mem_slotsFrom _ _ _ h)
    have hhead : gateSlot ∉ slots Sym.byte (gateHead Sym.byte stmt.kind (rewriteInsertValuesToSelect Sym.byte hostSym
        (guestText stmt.sql))) := fun h =>
      gateSlot_not_mem_rewrite stmt.sql (mem_gateHead (mem_of_mem_slotsFrom _ _ _ h))
    rw [slots_gatedSymbols_of_inCode stmt hc, append_cons_inj_of_notMem hhead hclauses, slots_clauses_eq_nil_iff]
    exact ⟨fun ⟨hb, _, ha⟩ => ⟨hc, hb, ha⟩, fun h => ⟨h.before, rfl, h.after⟩⟩
  · refine ⟨fun h => ?_, fun h => absurd h.inCode hc⟩
    have hmem : gateSlot ∈ slots Sym.byte (gatedSymbols stmt) := by simp [h]
    exact absurd hmem (gateSlot_not_mem_slots stmt (by simpa using hc))

lemma fed_concat_iff {t : List Sym} {l : List Sym} {parameters : List DbValue} (hl : l.length = parameters.length)
    (x : Sym) (v : DbValue) : fed t (parameters ++ [v]) = some (l.zip parameters ++ [(x, v)]) ↔ slots Sym.byte t = l ++ [x] := by
  constructor
  · intro h
    unfold fed at h
    split_ifs at h with hlen
    have hz : (slots Sym.byte t).zip (parameters ++ [v]) = l.zip parameters ++ [(x, v)] := by simpa using h
    have hf := congrArg (map Prod.fst) hz
    rwa [map_fst_zip hlen.le, map_append, map_fst_zip hl.le] at hf
  · intro h
    rw [fed, h, if_pos (by simp [hl]), zip_append hl]
    rfl

lemma wrapGuestTypedRequest_statement (created expires : Text) (req : ExecuteRequest) {i : Nat} {stmt : TypedDbStatement}
    (hi : req.statements[i]? = some stmt) :
    (wrapGuestTypedRequest created expires req).request.statements[i + 2]? = some (gateStatement req.operationId stmt) := by
  have hlt := (List.getElem?_eq_some_iff.mp hi).1
  have hleft : i < (req.statements.map (gateStatement req.operationId)).length := by rwa [length_map]
  simp only [wrapGuestTypedRequest, List.getElem?_cons_succ]
  rw [List.getElem?_append_left hleft, List.getElem?_map, hi, Option.map_some]

def singleRequest (stmt : TypedDbStatement) : ExecuteRequest :=
  ⟨utf8 "op", utf8 "hash", [stmt], 0⟩

def updateStatement : TypedDbStatement :=
  ⟨utf8 "UPDATE t SET a = ? WHERE b = ? RETURNING a", [.int64 1, .text (utf8 "k")], .returning, 0, .rows⟩

def deleteReturningStatement : TypedDbStatement :=
  ⟨utf8 "DELETE FROM t RETURNING ?", [.text (utf8 "p")], .returning, 0, .rows⟩

end Bookclerk.Receipt
