import Bookclerk.Naming.Segments

namespace Bookclerk.Naming

open Str Option Bool

variable {c : Char} {s t : Str}

def IsNumber (n : Str) : Prop :=
  n ≠ [] ∧ ∀ c ∈ n, c.isDigit = true

def dash : Str :=
  " - ".toList

section Trimming

variable {α : Type} {p : α → Bool}

lemma dropWhile_append_of_head {x : α} (hx : p x = false) (front back : List α) :
    (front ++ x :: back).dropWhile p = front.dropWhile p ++ x :: back := by
  induction front with
  | nil => rw [List.nil_append, List.dropWhile_cons_of_neg (by simp [hx]), List.dropWhile_nil, List.nil_append]
  | cons y front ih =>
    rw [List.cons_append, List.dropWhile_cons, List.dropWhile_cons]
    split
    · exact ih
    · rfl

lemma rdropWhile_append_of_last {x : α} (hx : p x = false) (front back : List α) :
    (front ++ x :: back).rdropWhile p = front ++ x :: back.rdropWhile p := by
  have hreverse : (front ++ x :: back).reverse = back.reverse ++ x :: front.reverse := by simp
  rw [List.rdropWhile, hreverse, dropWhile_append_of_head hx, List.rdropWhile]
  simp

end Trimming

section Number

variable {n : Str} (hn : IsNumber n)

include hn

lemma IsNumber.not_mem (hc : c.isDigit = false) : c ∉ n := fun h => by
  simp [hn.2 c h] at hc

lemma IsNumber.head_of {p : Char → Bool} (hp : ∀ c, c.isDigit = true → p c = false) : ∃ c rest, n = c :: rest ∧ p c = false := by
  obtain ⟨c, rest, rfl⟩ := List.exists_cons_of_ne_nil hn.1
  exact ⟨c, rest, rfl, hp c (hn.2 c List.mem_cons_self)⟩

lemma trim_number {p : Char → Bool} (hdigit : ∀ c, c.isDigit = true → p c = false) (hdash : p '-' = false) (front tail : Str) :
    ((front ++ n ++ ' ' :: '-' :: tail).dropWhile p).rdropWhile p = front.dropWhile p ++ n ++ ' ' :: '-' :: tail.rdropWhile p := by
  obtain ⟨c, rest, rfl, hc⟩ := hn.head_of hdigit
  have hfront : (front ++ c :: rest ++ ' ' :: '-' :: tail) = front ++ c :: (rest ++ ' ' :: '-' :: tail) := by simp
  have hback : front.dropWhile p ++ c :: (rest ++ ' ' :: '-' :: tail) = (front.dropWhile p ++ c :: rest ++ [' ']) ++ '-' :: tail := by simp
  rw [hfront, dropWhile_append_of_head hc, hback, rdropWhile_append_of_last hdash]
  simp

end Number

def hardenFront (front : Str) : Str :=
  trimStart (trimStartMatches '.' (trimStart (front.filter fun c => !isControl c)))

lemma isDigit_range (h : c.isDigit = true) : 48 ≤ c.toNat ∧ c.toNat ≤ 57 := by
  rw [Char.isDigit, and_eq_true, decide_eq_true_eq, decide_eq_true_eq] at h
  exact ⟨UInt32.le_iff_toNat_le.mp h.1, UInt32.le_iff_toNat_le.mp h.2⟩

lemma isWhitespace_of_isDigit (c : Char) (h : c.isDigit = true) : isWhitespace c = false := by
  have hrange := isDigit_range h
  simp [isWhitespace]
  omega

lemma isControl_of_isDigit (c : Char) (h : c.isDigit = true) : isControl c = false := by
  have hrange := isDigit_range h
  simp [isControl]
  omega

lemma ne_of_isDigit (c d : Char) (hc : c.isDigit = true) (hd : d.isDigit = false) : (c == d) = false := by
  rw [beq_eq_false_iff_ne]
  rintro rfl
  simp [hc] at hd

lemma hardenSegment_number {n : Str} (hn : IsNumber n) (front tail : Str) :
    ∃ tail', hardenSegment (front ++ n ++ ' ' :: '-' :: tail) = hardenFront front ++ n ++ ' ' :: '-' :: tail' := by
  have hfilter : (front ++ n ++ ' ' :: '-' :: tail).filter (fun c => !isControl c) =
      front.filter (fun c => !isControl c) ++ n ++ ' ' :: '-' :: tail.filter (fun c => !isControl c) := by
    have hkept : n.filter (fun c => !isControl c) = n := by
      rw [List.filter_eq_self]
      intro c hc
      simp [isControl_of_isDigit c (hn.2 c hc)]
    rw [List.filter_append, List.filter_append, hkept]
    rfl
  have hblank := trim_number hn isWhitespace_of_isDigit (by decide)
  have hdots := trim_number hn (fun c hc => ne_of_isDigit c '.' hc (by decide)) (by decide)
  unfold hardenSegment trim trimMatches trimEnd trimStart trimEndMatches trimStartMatches
  rw [hfilter, hblank, hdots, hblank]
  exact ⟨_, rfl⟩

section Spaces

lemma mem_of_contains {pat : Str} (h : contains (c :: pat) s = true) : c ∈ s := by
  induction s with
  | nil => simp [contains] at h
  | cons d s ih =>
    rw [contains, or_eq_true] at h
    rcases h with hhere | hlater
    · obtain ⟨rest, hrest⟩ := List.isPrefixOf_iff_prefix.mp hhere
      rw [← hrest]
      exact List.mem_cons_self
    · exact List.mem_cons_of_mem d (ih hlater)

lemma collapseSpaces_of_not_mem (h : ' ' ∉ s) : collapseSpaces s = s := by
  unfold collapseSpaces
  cases s.length with
  | zero => rfl
  | succ fuel => exact if_neg fun hcontains => h (mem_of_contains hcontains)

lemma collapseBorders_cons (prev : Str) (parts : List Str) : ∃ rest, collapseBorders prev parts = prev :: rest := by
  induction parts with
  | nil => exact ⟨[], rfl⟩
  | cons part parts ih =>
    rw [collapseBorders]
    split_ifs
    · exact ih
    · exact ⟨_, rfl⟩
    · exact ⟨_, rfl⟩

lemma collapseBorders_append {part : Str} (hpart : part.head? ≠ some ' ') (prev : Str) (before after : List Str) :
    collapseBorders prev (before ++ part :: after) = collapseBorders prev before ++ collapseBorders part after := by
  induction before generalizing prev with
  | nil => exact if_neg fun h => hpart h.2
  | cons next before ih =>
    rw [List.cons_append, collapseBorders, collapseBorders]
    split_ifs
    · exact ih prev
    · rw [ih, List.cons_append]
    · rw [ih, List.cons_append]

lemma trimLast_append (before : List Str) (part : Str) (after : List Str) :
    trimLast (before ++ part :: after) = before ++ trimLast (part :: after) := by
  induction before with
  | nil => rfl
  | cons next before ih =>
    obtain ⟨q, rest, hrest⟩ : ∃ q rest, before ++ part :: after = q :: rest :=
      List.exists_cons_of_ne_nil (List.append_ne_nil_of_right_ne_nil _ (List.cons_ne_nil part after))
    rw [List.cons_append, hrest, trimLast, ← hrest, ih, List.cons_append]
    exact List.cons_ne_nil q rest

def frontOf (parts : List Str) : Str :=
  match (trimFirst (parts.dropWhile isBlank)).map collapseSpaces with
  | [] => []
  | part :: rest => (collapseBorders part rest).flatten

variable {n : Str} (hn : IsNumber n)

include hn

lemma IsNumber.not_blank : isBlank n = false := by
  obtain ⟨c, rest, rfl, hc⟩ := hn.head_of isWhitespace_of_isDigit
  have hhead := dropWhile_append_of_head hc [] rest
  have hlast := rdropWhile_append_of_last hc [] rest
  rw [List.nil_append] at hhead
  rw [List.nil_append] at hlast
  simp [isBlank, trim, trimStart, trimEnd, hhead, hlast]

lemma IsNumber.head_ne_space : n.head? ≠ some ' ' := by
  obtain ⟨c, rest, rfl, hc⟩ := hn.head_of isWhitespace_of_isDigit
  rintro heq
  rw [List.head?_cons, some.injEq] at heq
  rw [heq] at hc
  exact absurd hc (by decide)

lemma IsNumber.trimStart : Str.trimStart n = n := by
  obtain ⟨c, rest, rfl, hc⟩ := hn.head_of isWhitespace_of_isDigit
  exact List.dropWhile_cons_of_neg (by simp [hc])

lemma IsNumber.getLast_ne_space : n.getLast? ≠ some ' ' := by
  intro heq
  exact hn.not_mem (by decide) (List.mem_of_getLast? heq)

omit hn in
lemma trimmed_tail (n ch : Str) : ∃ d rest, trimLast (n :: (([dash, ch] : List Str).rdropWhile isBlank)) = n :: (' ' :: '-' :: d) :: rest ∧
    collapseSpaces (' ' :: '-' :: d) = ' ' :: '-' :: d := by
  cases hch : isBlank ch with
  | true =>
    refine ⟨[], [], ?_, by decide⟩
    have hdrop : ([dash, ch] : List Str).rdropWhile isBlank = [dash] := by
      simp [List.rdropWhile, hch, show isBlank dash = false by decide]
    rw [hdrop]
    rfl
  | false =>
    refine ⟨[' '], [trimEnd ch], ?_, by decide⟩
    have hdrop : ([dash, ch] : List Str).rdropWhile isBlank = [dash, ch] := by
      simp [List.rdropWhile, hch]
    rw [hdrop]
    rfl

lemma removeSpaces_number (front : List Str) (ch : Str) :
    ∃ tail, removeSpaces (front ++ [n, dash, ch]) = frontOf front ++ n ++ ' ' :: '-' :: tail := by
  have hdrop : (front ++ [n, dash, ch]).dropWhile isBlank = front.dropWhile isBlank ++ [n, dash, ch] :=
    dropWhile_append_of_head hn.not_blank front [dash, ch]
  have hrdrop : (front.dropWhile isBlank ++ [n, dash, ch]).rdropWhile isBlank =
      front.dropWhile isBlank ++ n :: ([dash, ch] : List Str).rdropWhile isBlank :=
    rdropWhile_append_of_last hn.not_blank _ [dash, ch]
  have hfirst (rest : List Str) : trimFirst (front.dropWhile isBlank ++ n :: rest) = trimFirst (front.dropWhile isBlank) ++ n :: rest := by
    cases front.dropWhile isBlank with
    | nil => exact congrArg (· :: rest) hn.trimStart
    | cons part parts => rfl
  obtain ⟨d, rest, htail, hcollapse⟩ := trimmed_tail n ch
  have hborders : ∃ more, collapseBorders n ((' ' :: '-' :: d) :: rest.map collapseSpaces) = n :: (' ' :: '-' :: d) :: more := by
    obtain ⟨more, hmore⟩ := collapseBorders_cons (' ' :: '-' :: d) (rest.map collapseSpaces)
    refine ⟨more, ?_⟩
    rw [collapseBorders, if_neg fun h => hn.getLast_ne_space h.1, hmore]
  obtain ⟨more, hmore⟩ := hborders
  have hnumber := collapseSpaces_of_not_mem (hn.not_mem (by decide))
  refine ⟨d ++ more.flatten, ?_⟩
  unfold removeSpaces frontOf
  rw [hdrop, hrdrop, hfirst, trimLast_append, htail, List.map_append, List.map_cons, List.map_cons, hnumber, hcollapse]
  cases (trimFirst (front.dropWhile isBlank)).map collapseSpaces with
  | nil => simp [hmore]
  | cons part parts =>
    rw [List.cons_append]
    dsimp only
    rw [collapseBorders_append hn.head_ne_space, hmore]
    simp

end Spaces

section Cut

def frontRoom (stem : Str) (limit : Nat) : Nat :=
  if utf8Len stem ≤ limit then utf8Len stem
  else
    match splitBracketIdSuffix stem with
    | some (_, suffix) => if utf8Len suffix < limit then limit - utf8Len suffix else limit
    | none => limit

def StopsNumber (rest : Str) : Prop :=
  ∀ c ∈ rest.head?, c = ' '

lemma StopsNumber.of_isPrefix (h : StopsNumber t) (hst : s <+: t) : StopsNumber s := by
  obtain ⟨rest, rfl⟩ := hst
  cases s with
  | nil => exact fun c hc => nomatch hc
  | cons d s => exact h

lemma StopsNumber.append (hs : StopsNumber s) (ht : StopsNumber t) : StopsNumber (s ++ t) := by
  cases s with
  | nil => exact ht
  | cons d s => exact hs

lemma isPrefix_of_splitLast {pat before found : Str} (h : splitLast pat s = some (before, found)) : pat <+: found := by
  induction s generalizing before with
  | nil => simp [splitLast] at h
  | cons c s ih =>
    rw [splitLast] at h
    cases hs : splitLast pat s with
    | some q =>
      rw [hs] at h
      obtain ⟨-, rfl⟩ := Prod.mk.inj (some.inj h)
      exact ih hs
    | none =>
      rw [hs] at h
      obtain ⟨hpat, heq⟩ := ite_none_right_eq_some.mp h
      obtain ⟨-, rfl⟩ := Prod.mk.inj (some.inj heq)
      exact List.isPrefixOf_iff_prefix.mp hpat

lemma prefix_truncatePathComponent {limit : Nat} (h : t <+: s) (hlen : utf8Len t ≤ limit) :
    t <+: truncatePathComponent s limit .utf8Bytes := by
  unfold truncatePathComponent
  split
  · exact h
  · exact prefix_takeUtf8 h hlen

lemma utf8Len_le_of_isPrefix (h : s <+: t) : utf8Len s ≤ utf8Len t := by
  obtain ⟨rest, rfl⟩ := h
  rw [utf8Len_append]
  omega

variable {front n tail : Str} {limit : Nat}

lemma stops_of_isPrefix {cut : Str} (hcut : cut <+: front ++ n ++ ' ' :: '-' :: tail) (hkept : front ++ n <+: cut) :
    ∃ rest, cut = front ++ n ++ rest ∧ StopsNumber rest := by
  obtain ⟨rest, rfl⟩ := hkept
  refine ⟨rest, rfl, StopsNumber.of_isPrefix ?_ ((List.prefix_append_right_inj _).mp hcut)⟩
  intro c hc
  exact (some.inj hc).symm

lemma trimEnd_number (hn : IsNumber n) (front rest : Str) : trimEnd (front ++ n ++ rest) = front ++ n ++ trimEnd rest := by
  obtain ⟨init, last, rfl⟩ := (List.eq_nil_or_concat' n).resolve_left hn.1
  have hlast := isWhitespace_of_isDigit last (hn.2 last (List.mem_append_right _ List.mem_cons_self))
  have hsplit : front ++ (init ++ [last]) ++ rest = (front ++ init) ++ last :: rest := by simp
  rw [hsplit, trimEnd, rdropWhile_append_of_last hlast]
  simp [trimEnd]

lemma truncateStem_number (hn : IsNumber n) (hroom : utf8Len (front ++ n) ≤ frontRoom (front ++ n ++ ' ' :: '-' :: tail) limit) :
    ∃ rest, truncateStem (front ++ n ++ ' ' :: '-' :: tail) limit .utf8Bytes = front ++ n ++ rest ∧ StopsNumber rest := by
  have hpos : 0 < utf8Len (front ++ n) := by
    obtain ⟨c, cs, rfl⟩ := List.exists_cons_of_ne_nil hn.1
    have := Char.utf8Size_pos c
    rw [utf8Len_append, utf8Len_cons]
    omega
  have hstem : front ++ n <+: front ++ n ++ ' ' :: '-' :: tail := List.prefix_append ..
  have hplain (hlimit : utf8Len (front ++ n) ≤ limit) : ∃ rest,
      truncatePathComponent (front ++ n ++ ' ' :: '-' :: tail) limit .utf8Bytes = front ++ n ++ rest ∧ StopsNumber rest :=
    stops_of_isPrefix ( truncatePathComponent_isPrefix ..) (prefix_truncatePathComponent hstem hlimit)
  unfold frontRoom at hroom
  unfold truncateStem
  by_cases hfits : pathLen (front ++ n ++ ' ' :: '-' :: tail) .utf8Bytes ≤ limit
  · have hlong : utf8Len (front ++ n) ≤ limit := (utf8Len_le_of_isPrefix hstem).trans hfits
    rw [if_neg (by omega), if_pos hfits]
    exact stops_of_isPrefix List.prefix_rfl hstem
  · have hcut : ¬ utf8Len (front ++ n ++ ' ' :: '-' :: tail) ≤ limit := hfits
    rw [if_neg hcut] at hroom
    rw [if_neg hfits]
    cases hsplit : splitBracketIdSuffix (front ++ n ++ ' ' :: '-' :: tail) with
    | none =>
      rw [hsplit] at hroom
      dsimp only at hroom
      rw [if_neg (by omega)]
      exact hplain hroom
    | some found =>
      obtain ⟨title, suffix⟩ := found
      rw [hsplit] at hroom
      dsimp only at hroom ⊢
      have hlast := (filter_eq_some_iff.mp hsplit).1
      have hwhole : title ++ suffix = front ++ n ++ ' ' :: '-' :: tail := append_of_splitLast hlast
      by_cases hsuffix : pathLen suffix .utf8Bytes < limit
      · have hshorter : utf8Len suffix < limit := hsuffix
        rw [if_pos hshorter] at hroom
        have hbytes := congrArg utf8Len hwhole
        rw [utf8Len_append title] at hbytes
        have htitle : front ++ n <+: title := by
          have hboth : title <+: front ++ n ++ ' ' :: '-' :: tail := hwhole ▸ List.prefix_append ..
          refine (List.prefix_or_prefix_of_prefix hstem hboth).resolve_right fun hshort => ?_
          have := utf8Len_le_of_isPrefix hshort
          omega
        obtain ⟨rest, hrest, hstops⟩ := stops_of_isPrefix
          (( truncatePathComponent_isPrefix title (limit - utf8Len suffix) .utf8Bytes).trans (hwhole ▸ List.prefix_append ..))
          (prefix_truncatePathComponent htitle hroom)
        refine ⟨trimEnd rest ++ suffix, ?_, ?_⟩
        · rw [if_neg (by omega), if_pos hsuffix]
          change trimEnd (truncatePathComponent title (limit - utf8Len suffix) .utf8Bytes) ++ suffix = _
          rw [hrest, trimEnd_number hn, List.append_assoc]
        · refine (hstops.of_isPrefix ( List.rdropWhile_prefix ..)).append ?_
          obtain ⟨more, rfl⟩ := isPrefix_of_splitLast hlast
          intro c hc
          exact (some.inj hc).symm
      · have hlonger : ¬ utf8Len suffix < limit := hsuffix
        rw [if_neg hlonger] at hroom
        rw [if_neg (by omega), if_neg hsuffix]
        exact hplain hroom

lemma takeWhile_number (hn : IsNumber n) {rest : Str} (hrest : StopsNumber rest) (ext : Str) :
    (n ++ rest ++ '.' :: ext).takeWhile Char.isDigit = n := by
  have hstop : (rest ++ '.' :: ext).takeWhile Char.isDigit = [] := by
    cases rest with
    | nil => exact List.takeWhile_cons_of_neg (by decide)
    | cons c rest =>
      obtain rfl := hrest c rfl
      exact List.takeWhile_cons_of_neg (by decide)
  rw [List.append_assoc, List.takeWhile_append_of_pos hn.2, hstop, List.append_nil]

end Cut

end Bookclerk.Naming
