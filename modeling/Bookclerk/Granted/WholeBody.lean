import Bookclerk.Granted.PutBody

namespace Bookclerk.Granted

open Str Io List Option

def SizeLine (line : Bytes) (n : Nat) : Prop :=
  ∃ before digits after ext, line = utf8Bytes (before ++ digits ++ after) ++ ext ∧ wholeNumber 16 digits = some n ∧
    (∀ c ∈ before, c = ' ' ∨ c = '\t') ∧ (∀ c ∈ after, c = ' ' ∨ c = '\t') ∧ (ext = [] ∨ ext.head? = some 59)

inductive Chunks (sizeLine : Bytes → Nat → Prop) : Bytes → Bytes → Prop
  | last {received line rest : Bytes} : splitCrlf received = some (line, rest) → sizeLine line 0 → Chunks sizeLine received []
  | chunk {received line data rest body : Bytes} : splitCrlf received = some (line, data ++ 13 :: 10 :: rest) →
      sizeLine line data.length → data ≠ [] → Chunks sizeLine rest body → Chunks sizeLine received (data ++ body)

def IsBody (headers : Headers) (received : Bytes) (failed : Bool) (body : Bytes) : Prop :=
  if isChunked headers then Chunks SizeLine received body
  else
    match header headers "content-length".toList with
    | some v => ∃ n, wholeNumber 10 v = some n ∧ n ≤ received.length ∧ body = received.take n
    | none => failed = false ∧ body = received

def StoresWholeBody (headers : Headers) (buffered : Bytes) (c : Connection) : Prop :=
  ∀ rooms d, readToEnd rooms (putReader headers buffered c) = some d → IsBody headers (buffered ++ c.data) c.failed d

def PlainSizeLine (line : Bytes) (n : Nat) : Prop :=
  SizeLine line n ∧ (0 < n → 59 ∉ line ∧ n < usizeBound)

def BodyArrives (headers : Headers) (buffered : Bytes) (c : Connection) : Prop :=
  if isChunked headers then ∃ body, Chunks PlainSizeLine (buffered ++ c.data) body
  else
    match header headers "content-length".toList with
    | some v => ∃ n, wholeNumber 10 v = some n ∧
        if n < usizeBound then n ≤ (buffered ++ c.data).length ∧ (buffered.length ≤ n ∨ n = 0) else (buffered ++ c.data).length = n
    | none => c.failed = false

section SizeLine

lemma isWhitespace_of_blank {c : Char} (hc : c = ' ' ∨ c = '\t') : isWhitespace c = true := by
  rcases hc with rfl | rfl <;> rfl

lemma usizeFromHex_of_wholeNumber {s : Str} {n : Nat} (h : wholeNumber 16 s = some n) :
    usizeFromHex s = if n < usizeBound then some n else none := by
  obtain ⟨d, ds, hread, rfl⟩ := readDigits_of_wholeNumber h
  simp only [usizeFromHex, dropSign h, hread]

lemma usizeFromHex_of_semicolon {s : Str} (h : ';' ∈ s) : usizeFromHex s = none := by
  have hbody : ';' ∈ (s.dropPrefix? ['+']).getD s := by
    cases s with
    | nil => cases h
    | cons a s =>
      by_cases ha : a = '+'
      · subst ha
        have hmem : ';' ∈ s := (mem_cons.mp h).resolve_left (by decide)
        simpa [List.dropPrefix?] using hmem
      · simpa [List.dropPrefix?, ha] using h
  unfold usizeFromHex
  dsimp only
  split
  · rename_i hread
    have hrange := range_of_toDigit (isSome_toDigit_of_mem (by rw [hread]) hbody)
    exact absurd hrange (by decide)
  · rfl

lemma chunkSize_of_semicolon {line : Bytes} (h : 59 ∈ line) : chunkSize line = 0 := by
  unfold chunkSize
  cases hdecode : fromUtf8 line with
  | none => rfl
  | some s =>
    rw [← utf8Bytes_of_fromUtf8 hdecode] at h
    have hmem : ';' ∈ s := mem_of_mem_utf8Bytes (by decide) h
    rw [getD_some, usizeFromHex_of_semicolon (mem_trim_of_mem hmem rfl)]
    rfl

lemma chunkSize_of_sizeLine {line : Bytes} {n : Nat} (h : SizeLine line n) :
    chunkSize line = if 59 ∉ line ∧ n < usizeBound then n else 0 := by
  by_cases hmem : (59 : UInt8) ∈ line
  · rw [chunkSize_of_semicolon hmem, if_neg fun hno => hno.1 hmem]
  · obtain ⟨before, digits, after, ext, rfl, hvalue, hbefore, hafter, hext⟩ := h
    have hnil : ext = [] := by
      rcases hext with hnil | hhead
      · exact hnil
      · exact absurd (mem_append_right _ (List.mem_of_mem_head? hhead)) hmem
    obtain ⟨d, ds, hread, -⟩ := readDigits_of_wholeNumber hvalue
    have hne : digits ≠ [] := by
      rintro rfl
      cases hread
    have htrim : trim (before ++ digits ++ after) = digits :=
      trim_between (fun c hc => isWhitespace_of_blank (hbefore c hc)) (fun c hc => isWhitespace_of_blank (hafter c hc)) hne
        fun c hc => not_isWhitespace_of_toDigit (isSome_toDigit_of_mem (by rw [hread]) hc)
    subst hnil
    rw [append_nil] at hmem ⊢
    rw [chunkSize, fromUtf8_utf8Bytes, getD_some, htrim, usizeFromHex_of_wholeNumber hvalue]
    by_cases hn : n < usizeBound
    · rw [if_pos hn, if_pos ⟨hmem, hn⟩]
      rfl
    · rw [if_neg hn, if_neg fun hand => hn hand.2]
      rfl

end SizeLine

section Chunked

variable {received body : Bytes}

lemma Chunks.imp {P Q : Bytes → Nat → Prop} (hsub : ∀ line n, P line n → Q line n)
    (h : Chunks P received body) : Chunks Q received body := by
  induction h with
  | last hsplit hline => exact .last hsplit (hsub _ _ hline)
  | chunk hsplit hline hne _ ih => exact .chunk hsplit (hsub _ _ hline) hne ih

lemma splitCrlf_length {received line rest : Bytes} (h : splitCrlf received = some (line, rest)) : rest.length < received.length := by
  induction received generalizing line with
  | nil => cases h
  | cons b received ih =>
    rw [splitCrlf] at h
    by_cases hbreak : b = 13 ∧ received.head? = some 10
    · rw [if_pos hbreak] at h
      cases h
      rw [length_tail, length_cons]
      omega
    · rw [if_neg hbreak] at h
      obtain ⟨⟨line', rest'⟩, hsplit, heq⟩ := map_eq_some_iff.mp h
      obtain ⟨-, rfl⟩ := Prod.mk.inj heq
      exact Nat.lt_succ_of_lt (ih hsplit)

lemma decoded_chunk {received line data rest : Bytes} (hsplit : splitCrlf received = some (line, data ++ 13 :: 10 :: rest))
    (hsize : chunkSize line = data.length) (hne : data ≠ []) (fuel : Nat) : decoded (fuel + 1) received = data ++ decoded fuel rest := by
  have hpos := length_pos_iff.mpr hne
  rw [decoded, hsplit]
  dsimp only
  rw [hsize, if_neg (by simp only [length_append]; omega), take_left, ← drop_drop,
    drop_left]
  rfl

lemma decoded_zero {received line rest : Bytes} (hsplit : splitCrlf received = some (line, rest)) (hsize : chunkSize line = 0)
    (fuel : Nat) : decoded fuel received = [] := by
  cases fuel with
  | zero => rfl
  | succ fuel =>
    rw [decoded, hsplit]
    exact if_pos (Or.inl hsize)

lemma chunkSize_of_plain {line : Bytes} {n : Nat} (h : PlainSizeLine line n) : chunkSize line = n := by
  rw [chunkSize_of_sizeLine h.1]
  rcases Nat.eq_zero_or_pos n with rfl | hpos
  · exact ite_self 0
  · exact if_pos (h.2 hpos)

lemma decoded_of_plain (h : Chunks PlainSizeLine received body) (fuel : Nat) (hfuel : received.length < fuel) :
    decoded fuel received = body := by
  induction h generalizing fuel with
  | last hsplit hline => exact decoded_zero hsplit (chunkSize_of_plain hline) fuel
  | @chunk received line data rest body hsplit hline hne hrest ih =>
    cases fuel with
    | zero => exact absurd hfuel (Nat.not_lt_zero _)
    | succ fuel =>
      have hlt := splitCrlf_length hsplit
      simp only [length_append, length_cons] at hlt
      rw [decoded_chunk hsplit (chunkSize_of_plain hline) hne, ih fuel (by omega)]

lemma plain_of_decoded (h : Chunks SizeLine received body) (fuel : Nat) (hfuel : received.length < fuel)
    (hbody : decoded fuel received = body) : Chunks PlainSizeLine received body := by
  induction h generalizing fuel with
  | last hsplit hline => exact .last hsplit ⟨hline, fun hlt => absurd hlt (Nat.lt_irrefl 0)⟩
  | @chunk received line data rest body hsplit hline hne hrest ih =>
    have hplain : 59 ∉ line ∧ data.length < usizeBound := by
      by_contra hnot
      have hsize := chunkSize_of_sizeLine hline
      rw [if_neg hnot] at hsize
      rw [decoded_zero hsplit hsize] at hbody
      exact hne (append_eq_nil_iff.mp hbody.symm).1
    cases fuel with
    | zero => exact absurd hfuel (Nat.not_lt_zero _)
    | succ fuel =>
      have hlt := splitCrlf_length hsplit
      simp only [length_append, length_cons] at hlt
      have hline' : PlainSizeLine line data.length := ⟨hline, fun _ => hplain⟩
      rw [decoded_chunk hsplit (chunkSize_of_plain hline') hne] at hbody
      exact .chunk hsplit hline' hne (ih fuel (by omega) (append_cancel_left hbody))

end Chunked

def delivered (headers : Headers) (buffered : Bytes) (c : Connection) : Bytes :=
  (pumpHttpBody headers buffered c).sent.flatten

lemma pumpHttpBody_nonempty (headers : Headers) (buffered : Bytes) (c : Connection) :
    ∀ chunk ∈ (pumpHttpBody headers buffered c).sent, chunk ≠ [] := by
  unfold pumpHttpBody
  split_ifs
  · exact (pumpChunks_sent _ buffered c).2
  · split
    · split_ifs
      · nofun
      · exact (sendBuffered_sent buffered (pumpLength_sent (Nat.lt_succ_self _)).2).2
    · exact (sendBuffered_sent buffered (pumpToEnd_sent (Nat.lt_succ_self _)).2).2

lemma storesWholeBody_iff (headers : Headers) (buffered : Bytes) (c : Connection) :
    StoresWholeBody headers buffered c ↔ IsBody headers (buffered ++ c.data) c.failed (delivered headers buffered c) := by
  have hne := pumpHttpBody_nonempty headers buffered c
  constructor
  · intro h
    obtain ⟨rooms, hrooms⟩ := exists_readToEnd hne
    exact h rooms _ hrooms
  · intro h rooms d hread
    obtain rfl : d = [] ++ (pumpHttpBody headers buffered c).sent.flatten := readToEnd_eq hne hread
    exact h

section Delivered

variable {headers : Headers} (buffered : Bytes) (c : Connection)

lemma delivered_of_chunked (h : isChunked headers = true) :
    delivered headers buffered c = decoded (buffered.length + c.data.length + 1) (buffered ++ c.data) := by
  rw [delivered, pumpHttpBody, if_pos h]
  exact (pumpChunks_sent _ buffered c).1

lemma delivered_of_length (h : ¬isChunked headers = true) {len : Nat}
    (hlen : (header headers "content-length".toList).bind (parseUnsigned usizeBound) = some len) :
    delivered headers buffered c = if len < buffered.length then [] else (buffered ++ c.data).take len := by
  rw [delivered, pumpHttpBody, if_neg h]
  simp only [hlen]
  split_ifs with hshort
  · rfl
  · obtain ⟨hflat, hne⟩ := @pumpLength_sent _ (len - buffered.length) c (Nat.lt_succ_self _)
    rw [(sendBuffered_sent buffered hne).1, hflat, take_append, take_of_length_le (Nat.not_lt.mp hshort)]

lemma delivered_of_neither (h : ¬isChunked headers = true)
    (hlen : (header headers "content-length".toList).bind (parseUnsigned usizeBound) = none) :
    delivered headers buffered c = buffered ++ c.data := by
  rw [delivered, pumpHttpBody, if_neg h]
  simp only [hlen]
  obtain ⟨hflat, hne⟩ := pumpToEnd_sent (Nat.lt_succ_self c.data.length)
  rw [(sendBuffered_sent buffered hne).1, hflat]

end Delivered

lemma take_delivered_iff {buffered rest : Bytes} {n : Nat} :
    (n ≤ (buffered ++ rest).length ∧ (if n < buffered.length then [] else (buffered ++ rest).take n) = (buffered ++ rest).take n) ↔
      n ≤ (buffered ++ rest).length ∧ (buffered.length ≤ n ∨ n = 0) := by
  refine and_congr_right fun hle => ?_
  by_cases hshort : n < buffered.length
  · rw [if_pos hshort]
    constructor
    · intro h
      have hlen := congrArg length h
      rw [length_take, Nat.min_eq_left hle] at hlen
      exact Or.inr hlen.symm
    · rintro (hge | rfl)
      · omega
      · rfl
  · rw [if_neg hshort]
    exact iff_of_true rfl (Or.inl (Nat.not_lt.mp hshort))

theorem stores_whole_body_iff (headers : Headers) (buffered : Bytes) (c : Connection) :
    StoresWholeBody headers buffered c ↔ BodyArrives headers buffered c := by
  rw [storesWholeBody_iff, IsBody, BodyArrives]
  by_cases hchunked : isChunked headers = true
  · rw [if_pos hchunked, if_pos hchunked, delivered_of_chunked buffered c hchunked]
    have hfuel : (buffered ++ c.data).length < buffered.length + c.data.length + 1 := by
      rw [length_append]
      exact Nat.lt_succ_self _
    constructor
    · intro h
      exact ⟨_, plain_of_decoded h _ hfuel rfl⟩
    · rintro ⟨body, hbody⟩
      rw [decoded_of_plain hbody _ hfuel]
      exact hbody.imp fun _ _ hline => hline.1
  · rw [if_neg hchunked, if_neg hchunked]
    cases hheader : header headers "content-length".toList with
    | none =>
      rw [delivered_of_neither buffered c hchunked (by rw [hheader]; rfl)]
      exact and_iff_left rfl
    | some v =>
      refine exists_congr fun n => and_congr_right fun hvalue => ?_
      have hparse : (header headers "content-length".toList).bind (parseUnsigned usizeBound) = if n < usizeBound then some n else none := by
        rw [hheader, bind_some, parseUnsigned_of_wholeNumber usizeBound hvalue]
      by_cases hn : n < usizeBound
      · rw [if_pos hn] at hparse ⊢
        rw [delivered_of_length buffered c hchunked hparse]
        exact take_delivered_iff
      · rw [if_neg hn] at hparse ⊢
        rw [delivered_of_neither buffered c hchunked hparse]
        constructor
        · rintro ⟨hle, htake⟩
          have hlen := congrArg length htake
          rw [length_take, Nat.min_eq_left hle] at hlen
          exact hlen
        · rintro rfl
          exact ⟨Nat.le_refl _, (take_length).symm⟩

lemma delivered_congr (headers : Headers) (buffered : Bytes) {c c' : Connection} (h : c.data = c'.data) :
    delivered headers buffered c = delivered headers buffered c' := by
  by_cases hchunked : isChunked headers = true
  · rw [delivered_of_chunked buffered c hchunked, delivered_of_chunked buffered c' hchunked, h]
  · cases hlen : (header headers "content-length".toList).bind (parseUnsigned usizeBound) with
    | none => rw [delivered_of_neither buffered c hchunked hlen, delivered_of_neither buffered c' hchunked hlen, h]
    | some len => rw [delivered_of_length buffered c hchunked hlen, delivered_of_length buffered c' hchunked hlen, h]

theorem put_body_determined (headers : Headers) (buffered data : Bytes) :
    ∃ body, ∀ c : Connection, c.data = data →
      (∃ rooms, readToEnd rooms (putReader headers buffered c) = some body) ∧
        ∀ rooms d, readToEnd rooms (putReader headers buffered c) = some d → d = body := by
  refine ⟨delivered headers buffered ⟨data, [], false⟩, fun c hc => ?_⟩
  have hne := pumpHttpBody_nonempty headers buffered c
  have hbody : delivered headers buffered c = delivered headers buffered ⟨data, [], false⟩ := delivered_congr headers buffered hc
  rw [← hbody]
  exact ⟨exists_readToEnd hne, fun rooms d hread => readToEnd_eq hne hread⟩

section Examples

def chunkedHead : Headers :=
  [("Transfer-Encoding".toList, "chunked".toList)]

def received (text : String) : Connection :=
  ⟨utf8Bytes text.toList, [], false⟩

theorem cut_body_looks_finished :
    (¬StoresWholeBody chunkedHead [] (received "5\r\nhel") ∧
        readToEnd [0] (putReader chunkedHead [] (received "5\r\nhel")) = some []) ∧
      IsBody chunkedHead (received "5;x\r\nhello\r\n0\r\n\r\n").data false (utf8Bytes "hello".toList) ∧
        readToEnd [0] (putReader chunkedHead [] (received "5;x\r\nhello\r\n0\r\n\r\n")) = some [] := by
  refine ⟨⟨fun h => ?_, by decide⟩, ?_, by decide⟩
  · have hbody := h [0] [] (by decide)
    rw [IsBody, if_pos (by decide)] at hbody
    generalize hd : ([] : Bytes) = d at hbody
    cases hbody with
    | last hsplit hline =>
      have hsplit' : splitCrlf ([] ++ (received "5\r\nhel").data) = some (utf8Bytes "5".toList, utf8Bytes "hel".toList) := by decide
      obtain ⟨rfl, -⟩ := Prod.mk.inj (mem_unique hsplit hsplit')
      have hsize := chunkSize_of_sizeLine hline
      exact absurd hsize (by decide)
    | chunk _ _ hne _ => exact hne (append_eq_nil_iff.mp hd.symm).1
  · rw [IsBody, if_pos (by decide)]
    have hfirst : splitCrlf (received "5;x\r\nhello\r\n0\r\n\r\n").data =
        some (utf8Bytes "5;x".toList, utf8Bytes "hello".toList ++ 13 :: 10 :: utf8Bytes "0\r\n\r\n".toList) := by decide
    have hlast : splitCrlf (utf8Bytes "0\r\n\r\n".toList) = some (utf8Bytes "0".toList, utf8Bytes "\r\n".toList) := by decide
    have hfive : SizeLine (utf8Bytes "5;x".toList) (utf8Bytes "hello".toList).length :=
      ⟨[], ['5'], [], utf8Bytes ";x".toList, by decide, by decide, nofun, nofun, Or.inr (by decide)⟩
    have hzero : SizeLine (utf8Bytes "0".toList) 0 := ⟨[], ['0'], [], [], by decide, by decide, nofun, nofun, Or.inl rfl⟩
    have hbody := Chunks.chunk hfirst hfive (by decide) (.last hlast hzero)
    rwa [append_nil] at hbody

end Examples

end Bookclerk.Granted
