import Mathlib.Data.List.Basic
import Mathlib.Order.Nat

namespace Bookclerk.Codec

open List

variable {α : Type} {sep : α}

def separated (sep : α) (parts : List (List α)) : List α :=
  [sep].intercalate parts

def terminated (sep : α) (parts : List (List α)) : List α :=
  parts.flatMap (· ++ [sep])

lemma separated_inj [DecidableEq α] {l r : List (List α)} (hl : ∀ p ∈ l, sep ∉ p) (hr : ∀ p ∈ r, sep ∉ p) (hnel : l ≠ []) (hner : r ≠ [])
    (h : separated sep l = separated sep r) : l = r := by
  have hsplit := congrArg (splitOn sep) h
  unfold separated at hsplit
  rwa [splitOn_intercalate sep hl hnel, splitOn_intercalate sep hr hner] at hsplit

lemma sep_append_inj {x x' y y' : List α} (hx : sep ∉ x) (hx' : sep ∉ x') (h : x ++ sep :: y = x' ++ sep :: y') : x = x' ∧ y = y' := by
  induction x generalizing x' with
  | nil =>
    cases x' with
    | nil => exact ⟨rfl, (List.cons.inj h).2⟩
    | cons b x' =>
      obtain ⟨rfl, -⟩ := List.cons.inj h
      exact absurd mem_cons_self hx'
  | cons a x ih =>
    cases x' with
    | nil =>
      obtain ⟨rfl, -⟩ := List.cons.inj h
      exact absurd mem_cons_self hx
    | cons b x' =>
      obtain ⟨rfl, hrest⟩ := List.cons.inj h
      obtain ⟨rfl, rfl⟩ := ih (mt (mem_cons_of_mem _) hx) (mt (mem_cons_of_mem _) hx') hrest
      exact ⟨rfl, rfl⟩

lemma terminated_inj {l r : List (List α)} (hl : ∀ p ∈ l, sep ∉ p) (hr : ∀ p ∈ r, sep ∉ p)
    (h : terminated sep l = terminated sep r) : l = r := by
  induction l generalizing r with
  | nil =>
    cases r with
    | nil => rfl
    | cons q r => simp [terminated] at h
  | cons p l ih =>
    cases r with
    | nil => simp [terminated] at h
    | cons q r =>
      simp only [terminated, flatMap_cons, append_assoc] at h
      obtain ⟨rfl, hrest⟩ := sep_append_inj (hl p mem_cons_self) (hr q mem_cons_self) h
      rw [ih (fun p hp => hl p (mem_cons_of_mem _ hp)) (fun p hp => hr p (mem_cons_of_mem _ hp)) hrest]

lemma eq_of_map_eq {β : Type} {f : β → List α} {l r : List β} (hf : ∀ b ∈ l, ∀ c ∈ r, f b = f c → b = c) (h : l.map f = r.map f) :
    l = r := by
  induction l generalizing r with
  | nil => exact (map_eq_nil_iff.mp h.symm).symm
  | cons b l ih =>
    cases r with
    | nil => cases h
    | cons c r =>
      obtain ⟨hhead, htail⟩ := List.cons.inj h
      rw [hf b mem_cons_self c mem_cons_self hhead, ih (fun b hb c hc => hf b (mem_cons_of_mem _ hb) c (mem_cons_of_mem _ hc)) htail]

lemma terminated_map_inj {β : Type} {f : β → List α} {l r : List β} (hl : ∀ b ∈ l, sep ∉ f b) (hr : ∀ b ∈ r, sep ∉ f b)
    (hf : ∀ b ∈ l, ∀ c ∈ r, f b = f c → b = c) (h : terminated sep (l.map f) = terminated sep (r.map f)) : l = r :=
  eq_of_map_eq hf (terminated_inj (forall_mem_map.mpr hl) (forall_mem_map.mpr hr) h)

lemma notMem_terminated {a : α} {parts : List (List α)} (hsep : a ≠ sep) (h : ∀ p ∈ parts, a ∉ p) : a ∉ terminated sep parts := by
  intro hmem
  obtain ⟨p, hp, ha⟩ := mem_flatMap.mp hmem
  rcases mem_append.mp ha with ha | ha
  · exact h p hp ha
  · exact hsep (mem_singleton.mp ha)

lemma notMem_separated {a : α} {parts : List (List α)} (hsep : a ≠ sep) (h : ∀ p ∈ parts, a ∉ p) : a ∉ separated sep parts := by
  unfold separated
  induction parts with
  | nil => exact not_mem_nil
  | cons p parts ih =>
    have hrest := ih fun q hq => h q (mem_cons_of_mem _ hq)
    cases parts with
    | nil => simpa using h p mem_cons_self
    | cons q parts =>
      rw [intercalate_cons_cons, mem_append, mem_append, mem_singleton]
      rintro ((hp | hs) | hq)
      · exact h p mem_cons_self hp
      · exact hsep hs
      · exact hrest hq

lemma append_sep_inj {x x' y y' : List α} (hy : sep ∉ y) (hy' : sep ∉ y') (h : x ++ sep :: y = x' ++ sep :: y') : x = x' ∧ y = y' := by
  have hrev := congrArg reverse h
  simp only [reverse_append, reverse_cons, append_assoc] at hrev
  obtain ⟨hys, hxs⟩ := sep_append_inj (mt mem_reverse.mp hy) (mt mem_reverse.mp hy') hrev
  exact ⟨reverse_inj.mp hxs, reverse_inj.mp hys⟩

def decimal (n : Nat) : List Char :=
  Nat.toDigits 10 n

lemma decimal_inj {m n : Nat} (h : decimal m = decimal n) : m = n := by
  have hvalue := congrArg (fun digits => Nat.ofDigitChars 10 digits 0) h
  simpa only [decimal, Nat.ofDigitChars_toDigits (b := 10) (by decide) (by decide)] using hvalue

lemma notMem_decimal {c : Char} (hc : c.isDigit = false) (n : Nat) : c ∉ decimal n := by
  intro hmem
  have hdigit := Nat.isDigit_of_mem_toDigits (by decide) (by decide) hmem
  rw [hc] at hdigit
  cases hdigit

end Bookclerk.Codec
