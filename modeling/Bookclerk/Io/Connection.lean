import Mathlib.Data.List.Basic

namespace Bookclerk.Io

open List

abbrev Bytes := List UInt8

/-- The bytes still to come, how far the next reads get, and whether an error or the end follows. -/
structure Connection where
  data : Bytes
  splits : List Nat
  failed : Bool

/-- At least one byte while there are any, never more than `cap`; no byte is the end, `none` an error. -/
def Connection.read (c : Connection) (cap : Nat) : Option (Bytes × Connection) :=
  match c.data with
  | [] => if c.failed then none else some ([], c)
  | _ :: _ =>
    let n := min cap (c.splits.headD 0 + 1)
    some (c.data.take n, { c with data := c.data.drop n, splits := c.splits.tail })

def fill (enough : Bytes → Bool) (cap : Bytes → Nat) : Nat → Bytes → Connection → Option (Bytes × Connection)
  | 0, _, _ => none
  | fuel + 1, buf, c =>
    if enough buf then some (buf, c)
    else
      match c.read (cap buf) with
      | none | some ([], _) => none
      | some (b :: bytes, c') => fill enough cap fuel (buf ++ b :: bytes) c'

def fillFrom (enough : Bytes → Bool) (cap : Bytes → Nat) (buf : Bytes) (c : Connection) : Option (Bytes × Connection) :=
  fill enough cap (c.data.length + 1) buf c

lemma read_cons {c : Connection} {cap : Nat} (hcap : 0 < cap) (hdata : c.data ≠ []) :
    ∃ b bytes c', c.read cap = some (b :: bytes, c') ∧ c.data = b :: bytes ++ c'.data ∧ c'.failed = c.failed ∧
      (b :: bytes).length ≤ cap := by
  obtain ⟨data, splits, failed⟩ := c
  cases data with
  | nil => exact absurd rfl hdata
  | cons b data =>
    obtain ⟨n, hn⟩ : ∃ n, min cap (splits.headD 0 + 1) = n + 1 :=
      Nat.exists_eq_succ_of_ne_zero (Nat.ne_of_gt (Nat.lt_min.mpr ⟨hcap, Nat.succ_pos _⟩))
    refine ⟨b, data.take n, ⟨data.drop n, splits.tail, failed⟩, ?_, ?_, rfl, ?_⟩
    · simp only [Connection.read, hn, take_succ_cons, drop_succ_cons]
    · rw [cons_append, take_append_drop]
    · rw [length_cons, length_take]
      omega

section Fill

variable {enough : Bytes → Bool} {cap : Bytes → Nat}

lemma fill_spec (hmono : ∀ a b, enough a = true → enough (a ++ b) = true) (hcap : ∀ buf, enough buf = false → 0 < cap buf)
    (fuel : Nat) (buf : Bytes) (c : Connection) (hfuel : c.data.length < fuel) :
    if enough (buf ++ c.data) then
      ∃ buf' c', fill enough cap fuel buf c = some (buf', c') ∧ enough buf' = true ∧ buf' ++ c'.data = buf ++ c.data ∧ c'.failed = c.failed
    else fill enough cap fuel buf c = none := by
  induction fuel generalizing buf c with
  | zero => exact absurd hfuel (Nat.not_lt_zero _)
  | succ fuel ih =>
    cases henough : enough buf with
    | true =>
      rw [if_pos (hmono buf c.data henough)]
      exact ⟨buf, c, by rw [fill, if_pos henough], henough, rfl, rfl⟩
    | false =>
      by_cases hdata : c.data = []
      · have hnone : fill enough cap (fuel + 1) buf c = none := by
          simp only [fill, henough, Connection.read, hdata]
          cases c.failed <;> rfl
        rw [hdata, append_nil, henough]
        exact hnone
      · obtain ⟨b, bytes, c', hread, hsplit, hfailed, -⟩ := read_cons (hcap buf henough) hdata
        have hlen : c'.data.length < fuel := by
          rw [hsplit, length_append, length_cons] at hfuel
          omega
        have hrest := ih (buf ++ b :: bytes) c' hlen
        have hstep : fill enough cap (fuel + 1) buf c = fill enough cap fuel (buf ++ b :: bytes) c' := by
          simp only [fill, henough, hread, Bool.false_eq_true, if_false]
        rw [hstep, hsplit, ← append_assoc, ← hfailed]
        exact hrest

end Fill

end Bookclerk.Io
