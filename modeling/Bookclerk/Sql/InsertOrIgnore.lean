import Bookclerk.Sql.LikeGlobBound

namespace Bookclerk.Sql.Lower

open Lexical List

variable {n : Nat} {prev : Option UInt8} {t u u' v w x : Text} {c : UInt8}

def like : Text :=
  utf8 "LIKE"

def closes (u : Text) : Bool :=
  u.head?.all fun c => !identCont c

def runsOn (u : Text) : Bool :=
  u.head?.any identCont && [1, 2, 3].all fun n => !eqIgnoreAsciiCase (u.take (4 - n)) (like.drop n)

lemma likeHit_eq (prev : Option UInt8) (t : Text) : likeHit prev t =
    (eqIgnoreAsciiCase (t.take 4) like && prev.all (fun c => !identCont c) && closes (t.drop 4)) := rfl

lemma likeHit_long (hx : 4 < x.length) (prev : Option UInt8) (u u' : Text) : likeHit prev (x ++ u) = likeHit prev (x ++ u') := by
  have hdrop (u : Text) : closes ((x ++ u).drop 4) = closes (x.drop 4) := by
    obtain ⟨d, y, hy⟩ := exists_cons_of_length_pos (l := x.drop 4) (by rw [length_drop]; omega)
    rw [drop_append_of_le_length (by omega), hy]
    rfl
  rw [likeHit_eq, likeHit_eq, hdrop, hdrop, take_append_of_le_length (by omega),
    take_append_of_le_length (by omega)]

lemma likeHit_exact (hx : x.length = 4) (prev : Option UInt8) (hu : closes u = closes u') :
    likeHit prev (x ++ u) = likeHit prev (x ++ u') := by
  rw [likeHit_eq, likeHit_eq, take_left' hx, take_left' hx, drop_left' hx, drop_left' hx, hu]

lemma likeHit_across (hlt : x.length < 4) (h : likeHit prev (x ++ u) = true) :
    x.all identCont = true ∧ closes u = false ∧ eqIgnoreAsciiCase (u.take (4 - x.length)) (like.drop x.length) = true := by
  rw [likeHit_eq, Bool.and_eq_true, Bool.and_eq_true] at h
  have hword := h.1.1
  have hsplit : (x ++ u).take 4 = x ++ u.take (4 - x.length) := by
    rw [take_append, take_of_length_le (by omega)]
  rw [hsplit] at hword
  have hcont := (all_identCont_of_eqIgnoreAsciiCase hword).trans (show like.all identCont = true by decide)
  rw [all_append, Bool.and_eq_true] at hcont
  have hlower : toAsciiLowercase x ++ toAsciiLowercase (u.take (4 - x.length)) = toAsciiLowercase like := by
    simpa [eqIgnoreAsciiCase, toAsciiLowercase] using hword
  have htail : eqIgnoreAsciiCase (u.take (4 - x.length)) (like.drop x.length) = true := by
    have hdrop := congrArg (List.drop x.length) hlower
    simpa [eqIgnoreAsciiCase, toAsciiLowercase] using hdrop
  refine ⟨hcont.1, ?_, htail⟩
  have hlen := length_eq_of_eqIgnoreAsciiCase htail
  rw [length_drop, show like.length = 4 by decide] at hlen
  cases u with
  | nil => simp at hlen; omega
  | cons c u =>
    obtain ⟨m, hm⟩ : ∃ m, 4 - x.length = m + 1 := ⟨3 - x.length, by omega⟩
    have hc := hcont.2
    rw [hm, take_succ_cons, all_cons, Bool.and_eq_true] at hc
    simp [closes, hc.1]

lemma likeHit_of_not_across (hexact : x.length = 4 → closes u = closes u' ∨
      likeHit prev (x ++ u) = false ∧ likeHit prev (x ++ u') = false)
    (h : x.length < 4 → likeHit prev (x ++ u) = false ∧ likeHit prev (x ++ u') = false) :
    likeHit prev (x ++ u) = likeHit prev (x ++ u') := by
  rcases lt_trichotomy x.length 4 with hlt | heq | hgt
  · rw [(h hlt).1, (h hlt).2]
  · rcases hexact heq with hcl | ⟨h1, h2⟩
    · exact likeHit_exact heq prev hcl
    · rw [h1, h2]
  · exact likeHit_long hgt prev u u'

lemma likeHit_closes (prev : Option UInt8) (x : Text) (hu : closes u = true) (hu' : closes u' = true) :
    likeHit prev (x ++ u) = likeHit prev (x ++ u') := by
  have hno {v : Text} (hv : closes v = true) (hlt : x.length < 4) : likeHit prev (x ++ v) = false := by
    by_contra hhit
    exact absurd hv (by rw [(likeHit_across hlt (Bool.eq_true_of_not_eq_false hhit)).2.1]; simp)
  exact likeHit_of_not_across (fun _ => Or.inl (hu.trans hu'.symm)) fun hlt => ⟨hno hu hlt, hno hu' hlt⟩

lemma likeHit_runsOn (prev : Option UInt8) (hx : x ≠ []) (hu : runsOn u = true)
    (hu' : runsOn u' = true) : likeHit prev (x ++ u) = likeHit prev (x ++ u') := by
  have hopen {v : Text} (hv : runsOn v = true) : closes v = false := by
    rw [runsOn, Bool.and_eq_true] at hv
    cases v with
    | nil => simp at hv
    | cons c v => simpa [closes] using hv.1
  have hno {v : Text} (hv : runsOn v = true) (hlt : x.length < 4) : likeHit prev (x ++ v) = false := by
    by_contra hhit
    have htail := (likeHit_across hlt (Bool.eq_true_of_not_eq_false hhit)).2.2
    have hpos := length_pos_iff.mpr hx
    rw [runsOn, Bool.and_eq_true, all_eq_true] at hv
    have := hv.2 x.length (by simp; omega)
    simp [htail] at this
  exact likeHit_of_not_across (fun _ => Or.inl ((hopen hu).trans (hopen hu').symm)) fun hlt => ⟨hno hu hlt, hno hu' hlt⟩

lemma likeHit_last (prev : Option UInt8) (hlast : x.getLast? = some c) (hc : identCont c = false)
    (u u' : Text) : likeHit prev (x ++ u) = likeHit prev (x ++ u') := by
  have hmem : c ∈ x := List.mem_of_getLast? hlast
  have hnot : x.all identCont = false := by
    rw [← Bool.not_eq_true, all_eq_true]
    intro hall
    exact absurd (hall c hmem) (by simp [hc])
  have hno (v : Text) (hle : x.length ≤ 4) : likeHit prev (x ++ v) = false := by
    by_contra hhit
    have hhit := Bool.eq_true_of_not_eq_false hhit
    rcases lt_or_eq_of_le hle with hlt | heq
    · exact absurd (likeHit_across hlt hhit).1 (by simp [hnot])
    · rw [likeHit_eq, Bool.and_eq_true, Bool.and_eq_true, take_left' heq] at hhit
      have hcont := all_identCont_of_eqIgnoreAsciiCase hhit.1.1
      rw [hnot] at hcont
      exact absurd hcont (by decide)
  exact likeHit_of_not_across (fun heq => Or.inr ⟨hno u heq.le, hno u' heq.le⟩) fun hlt => ⟨hno u hlt.le, hno u' hlt.le⟩

def quiet : Text → Bool
  | [] => true
  | c :: t => !eqIgnoreAsciiCase ((c :: t).take 4) (like.take (c :: t).length) && quiet t

lemma likeHit_quiet (prev : Option UInt8) (hq : quiet (c :: t) = true) (u : Text) : likeHit prev (c :: t ++ u) = false := by
  by_contra hhit
  have hhit := Bool.eq_true_of_not_eq_false hhit
  rw [likeHit_eq, Bool.and_eq_true, Bool.and_eq_true] at hhit
  have hlower : toAsciiLowercase ((c :: t ++ u).take 4) = toAsciiLowercase like := by
    simpa only [eqIgnoreAsciiCase, beq_iff_eq] using hhit.1.1
  have htake := congrArg (List.take (c :: t).length) hlower
  have hstart : eqIgnoreAsciiCase ((c :: t).take 4) (like.take (c :: t).length) = true := by
    rw [toAsciiLowercase, toAsciiLowercase, ← map_take, ← map_take, take_take, Nat.min_comm, ← take_take, take_left] at htake
    rwa [eqIgnoreAsciiCase, beq_iff_eq]
  rw [quiet, Bool.and_eq_true, hstart] at hq
  exact absurd hq.1 (by decide)

lemma likesFrom_quiet (hplain : w.all plainByte = true) (hq : quiet w = true) (prev : Option UInt8) (u : Text) :
    likesFrom ⟨prev, w ++ u⟩ = likesFrom ⟨byteBefore prev w, u⟩ := by
  induction w generalizing prev with
  | nil => rfl
  | cons c w ih =>
    have hhit : identEqCi ⟨prev, c :: w ++ u⟩ "LIKE" = false := likeHit_quiet prev hq u
    rw [all_cons, Bool.and_eq_true] at hplain
    rw [quiet, Bool.and_eq_true] at hq
    rw [likesFrom_seg (lowerLex_plain hplain.1 _), hhit, advance_eq, byteBefore_cons]
    simpa [byteBefore] using ih hplain.2 hq.2 (some c)

lemma quiet_drop (hq : quiet w = true) (n : Nat) : quiet (w.drop n) = true := by
  induction w generalizing n with
  | nil => rw [drop_nil]; rfl
  | cons c w ih =>
    cases n with
    | zero => exact hq
    | succ n =>
      rw [quiet, Bool.and_eq_true] at hq
      exact ih hq.2 n

lemma likesFrom_drop_quiet (hplain : v.all plainByte = true) (hq : quiet v = true) (prev : Option UInt8)
    (n : Nat) : likesFrom ⟨prev, v.drop n⟩ = 0 := by
  have hplain' : (v.drop n).all plainByte = true :=
    all_eq_true.mpr fun c hc => all_eq_true.mp hplain c (mem_of_mem_drop hc)
  have h := likesFrom_quiet hplain' (quiet_drop hq n) prev []
  rwa [append_nil] at h

lemma likesFrom_prev {prev' : Option UInt8} (h : prev.all (fun c => !identCont c) = prev'.all (fun c => !identCont c))
    (t : Text) : likesFrom ⟨prev, t⟩ = likesFrom ⟨prev', t⟩ := by
  cases t with
  | nil => rfl
  | cons c rest => simp only [likesFrom, hits, likeHit_eq, h]

lemma likesFrom_start (hc : toAsciiLower c ≠ byte 'l') (prev prev' : Option UInt8) (rest : Text) :
    likesFrom ⟨prev, c :: rest⟩ = likesFrom ⟨prev', c :: rest⟩ := by
  have hno (prev : Option UInt8) : likeHit prev (c :: rest) = false := by
    by_contra hhit
    have hhit := Bool.eq_true_of_not_eq_false hhit
    rw [likeHit_eq, Bool.and_eq_true, Bool.and_eq_true] at hhit
    have hlower : toAsciiLowercase ((c :: rest).take 4) = toAsciiLowercase like := by
      simpa [eqIgnoreAsciiCase] using hhit.1.1
    exact hc (Option.some.inj (congrArg head? hlower))
  simp only [likesFrom, hits, hno]

def NoDollar (t : Text) : Prop :=
  EverySegment lowerLex (fun u => u.head? ≠ some (byte '$')) 0 t

instance (t : Text) : Decidable (NoDollar t) :=
  decidableEverySegment _ _ _ _

lemma NoDollar.stop (h : NoDollar t) (hn : Stop lowerLex t n) : NoDollar (t.drop n) :=
  hn.every proper_lowerLex h

lemma NoDollar.after (h : NoDollar (w ++ u)) (hw : Stop lowerLex (w ++ u) w.length) : NoDollar u := by
  have := h.stop hw
  rwa [drop_left] at this

lemma segment_before {kind : SqlKind} (h : lowerLex w = some (kind, n)) (hlt : n < w.length)
    (hd : w.head? ≠ some (byte '$')) (v : Text) : lowerLex (w ++ v) = some (kind, n) := by
  have hlen : (w.take n).length = n := by rw [length_take]; omega
  have hhead : (w.take n).head? = w.head? := by
    rw [head?_take, if_neg (by have := (proper_lowerLex _ _ _ h).1; omega)]
  have hdrop : (w.drop n).head? = (w.drop n ++ v).head? := by
    obtain ⟨d, y, hy⟩ := exists_cons_of_length_pos (l := w.drop n) (by rw [length_drop]; omega)
    rw [hy]
    rfl
  have h' : lowerLex (w.take n ++ w.drop n) = some (kind, (w.take n).length) := by
    rw [take_append_drop, hlen]
    exact h
  have := lowerLex_tail h' (by rwa [hhead]) hdrop
  rwa [← append_assoc, take_append_drop, hlen] at this

lemma NoDollar.left (h : NoDollar (w ++ v)) : NoDollar w := by
  induction w using drop_induct with
  | nil => trivial
  | cons c r ih =>
    refine ⟨h.1, fun seg hseg => (everySegment_skip ..).mpr ?_⟩
    obtain ⟨hpos, hle⟩ := proper_lowerLex _ seg.1 seg.2 hseg
    rw [← drop_cons hpos]
    rcases lt_or_eq_of_le hle with hlt | heq
    · have hseg' : lowerLex (c :: r ++ v) = some (seg.1, seg.2) := segment_before hseg hlt h.1 v
      have hnext := h.seg proper_lowerLex hseg'
      rw [drop_append_of_le_length hle] at hnext
      exact ih _ hpos hnext.2
    · rw [heq, drop_length]
      trivial

lemma likesFrom_append_quiet (hd : NoDollar w) (hcloses : closes v = true) (hplain : v.all plainByte = true)
    (hq : quiet v = true) (prev : Option UInt8) : likesFrom ⟨prev, w ++ v⟩ = likesFrom ⟨prev, w⟩ := by
  induction w using drop_induct generalizing prev with
  | nil => exact likesFrom_drop_quiet hplain hq prev 0
  | cons c r ih =>
    obtain ⟨⟨kind, n⟩, hseg⟩ := Option.isSome_iff_exists.mp (lowerLex_isSome c r)
    obtain ⟨hpos, hle⟩ := proper_lowerLex _ _ _ hseg
    have hhit : identEqCi ⟨prev, c :: r ++ v⟩ "LIKE" = identEqCi ⟨prev, c :: r⟩ "LIKE" := by
      have hnil : closes [] = true := rfl
      have := likeHit_closes prev (c :: r) hcloses hnil
      rwa [append_nil] at this
    rw [likesFrom_seg (s := ⟨prev, c :: r⟩) hseg, advance_eq]
    rcases lt_or_eq_of_le hle with hlt | heq
    · have hseg' := segment_before hseg hlt hd.1 v
      rw [likesFrom_seg hseg', advance_eq, hhit]
      simp only [take_append_of_le_length hle, drop_append_of_le_length hle]
      rw [ih _ hpos (hd.seg proper_lowerLex hseg).2]
    · rw [heq] at hseg
      obtain ⟨kind', n', hseg', hn'⟩ := lowerLex_grows hseg hd.1 v
      rw [likesFrom_seg (s := ⟨prev, c :: r ++ v⟩) hseg', advance_eq, hhit, heq]
      simp only [drop_length, drop_append, drop_eq_nil_of_le hn', nil_append]
      rw [likesFrom_drop_quiet hplain hq]
      rfl

def trimEnd (t : Text) : Text :=
  t.take (t.length - trailingWhitespace t)

def trim (t : Text) : Text :=
  trimEnd (t.drop (leadingWhitespace t))

def stripPrefixCi (t : Text) (word : String) : Option Text :=
  if eqIgnoreAsciiCase (t.take (utf8 word).length) (utf8 word) then some (t.drop (utf8 word).length) else none

def findWordInCodeCi (word : String) : (skip : Nat) → (prev : Option UInt8) → Text → Option Nat
  | _, _, [] => none
  | k + 1, _, c :: rest => (findWordInCodeCi word k (some c) rest).map (· + 1)
  | 0, prev, c :: rest =>
    match lowerLex (c :: rest) with
    | some (.code, _) =>
      if identEqCi ⟨prev, c :: rest⟩ word then some 0 else (findWordInCodeCi word 0 (some c) rest).map (· + 1)
    | some (_, n) => (findWordInCodeCi word (n - 1) (some c) rest).map (· + 1)
    | none => none

def insertRowSourceOffset (head : Text) : Option Nat :=
  let i := skipTriviaIdx 0 head
  (identSpanAt (head.drop i)).map fun n =>
    let j := i + n + skipTriviaIdx 0 (head.drop (i + n))
    if (head.drop j).head? = some (byte '(') then
      let k := j + skipBalanced 0 0 (head.drop j)
      k + skipTriviaIdx 0 (head.drop k)
    else j

def isQuery (source : Text) : Bool :=
  identEqCi (Scan.start source) "SELECT" || identEqCi (Scan.start source) "WITH"

def wrapOpen : Text :=
  utf8 "SELECT * FROM ("

def wrapClose : Text :=
  utf8 ") AS bookclerk_src WHERE true "

def wrapInsertSelectHead (head : Text) : Text :=
  match insertRowSourceOffset head with
  | none => head
  | some off =>
    let source := trim (head.drop off)
    if isQuery source then head.take off ++ (wrapOpen ++ (source ++ wrapClose)) else head

def insertOrIgnoreRest (sql : Text) : Option Text :=
  stripPrefixCi (sql.drop (skipTriviaIdx 0 sql)) "INSERT OR IGNORE INTO"

def rewriteInsertOrIgnoreUniqueConflict (sql : Text) : Text :=
  match insertOrIgnoreRest sql with
  | none => sql
  | some rest =>
    sql.take (skipTriviaIdx 0 sql) ++ (utf8 "INSERT INTO" ++
      match findWordInCodeCi "RETURNING" 0 none rest with
      | some idx => wrapInsertSelectHead (trimEnd (rest.take idx)) ++
          (utf8 " ON CONFLICT DO NOTHING RETURNING" ++ rest.drop (idx + 9))
      | none => wrapInsertSelectHead rest ++ utf8 " ON CONFLICT DO NOTHING")

/-- The head of an `INSERT OR IGNORE`, cut before `RETURNING`, does not end in a line comment. -/
def ReturningStands (sql : Text) : Prop :=
  ∀ rest ∈ insertOrIgnoreRest sql, ∀ idx ∈ findWordInCodeCi "RETURNING" 0 none rest,
    stopsAt lowerLex (trimEnd (rest.take idx)).length 0 (trimEnd (rest.take idx) ++ [byte ' ']) = true

instance (sql : Text) : Decidable (ReturningStands sql) :=
  inferInstanceAs (Decidable (∀ rest ∈ insertOrIgnoreRest sql, ∀ idx ∈ _, _))

end Bookclerk.Sql.Lower
