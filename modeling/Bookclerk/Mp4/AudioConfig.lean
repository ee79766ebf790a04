import Mathlib.Data.List.Basic

namespace Bookclerk.Mp4

open List Option

/-- `channels_from_asc`. -/
def channelsFromAsc (asc : List UInt8) : Option Nat :=
  if asc.length < 2 then none
  else
    let freqIdx : UInt8 := ((asc.getD 0 0 &&& 0x07) <<< 1) ||| (asc.getD 1 0 >>> 7)
    let chan : Option UInt8 :=
      if freqIdx = 0x0f then
        if asc.length < 6 then none else some (((asc.getD 4 0 >>> 7 &&& 0x01) <<< 3) ||| (asc.getD 5 0 >>> 4 &&& 0x07))
      else some (asc.getD 1 0 >>> 3 &&& 0x0f)
    chan.bind fun chan => if chan = 0 then none else some chan.toNat

def bit (b : UInt8) (i : Nat) : Bool :=
  b.toNat.testBit i

def bits (b : UInt8) : List Bool :=
  [7, 6, 5, 4, 3, 2, 1, 0].map (bit b)

def value (bs : List Bool) : Nat :=
  bs.foldl (fun n b => 2 * n + b.toNat) 0

/-- `width` bits from bit `pos` on, the most significant bit first. -/
def field (asc : List UInt8) (pos width : Nat) : Option Nat :=
  let bs := ((asc.flatMap bits).drop pos).take width
  if bs.length = width then some (value bs) else none

/-- The object type takes five bits, the frequency index four, and a frequency of its own twenty-four. -/
def channelConfiguration (asc : List UInt8) : Option Nat :=
  (field asc 5 4).bind fun freqIdx => if freqIdx = 15 then field asc 33 4 else field asc 9 4

lemma byte_fields (b : UInt8) :
    b &&& 0x07 = UInt8.ofNat (value [bit b 2, bit b 1, bit b 0]) ∧
      b >>> 7 = UInt8.ofNat (value [bit b 7]) ∧ b >>> 7 &&& 0x01 = UInt8.ofNat (value [bit b 7]) ∧
      b >>> 4 &&& 0x07 = UInt8.ofNat (value [bit b 6, bit b 5, bit b 4]) ∧
      b >>> 3 &&& 0x0f = UInt8.ofNat (value [bit b 6, bit b 5, bit b 4, bit b 3]) := by
  cases b with
  | ofBitVec b =>
    cases b with
    | ofFin b =>
      revert b
      decide +kernel

section Layout

variable (a b c d e f : UInt8) (rest : List UInt8)

lemma frequencyIndex_field : field (a :: b :: rest) 5 4 = some (((a &&& 0x07) <<< 1) ||| (b >>> 7)).toNat := by
  rw [(byte_fields a).1, (byte_fields b).2.1]
  change some (value [bit a 2, bit a 1, bit a 0, bit b 7]) = _
  generalize bit a 2 = x, bit a 1 = y, bit a 0 = z, bit b 7 = w
  revert x y z w
  decide

lemma indexed_field : field (a :: b :: rest) 9 4 = some (b >>> 3 &&& 0x0f).toNat := by
  rw [(byte_fields b).2.2.2.2]
  change some (value [bit b 6, bit b 5, bit b 4, bit b 3]) = _
  generalize bit b 6 = x, bit b 5 = y, bit b 4 = z, bit b 3 = w
  revert x y z w
  decide

lemma explicit_field_iff :
    field (a :: b :: c :: d :: e :: f :: rest) 33 4 = some (((e >>> 7 &&& 0x01) <<< 3) ||| (f >>> 4 &&& 0x07)).toNat ↔
      field (a :: b :: c :: d :: e :: f :: rest) 32 1 = field (a :: b :: c :: d :: e :: f :: rest) 33 1 ∧
        field (a :: b :: c :: d :: e :: f :: rest) 41 3 = field (a :: b :: c :: d :: e :: f :: rest) 34 3 := by
  rw [(byte_fields e).2.2.1, (byte_fields f).2.2.2.1]
  change some (value [bit e 6, bit e 5, bit e 4, bit e 3]) = _ ↔
    some (value [bit e 7]) = some (value [bit e 6]) ∧
      some (value [bit f 6, bit f 5, bit f 4]) =
        some (value [bit e 5, bit e 4, bit e 3])
  generalize bit e 7 = x, bit e 6 = y, bit e 5 = z, bit e 4 = v, bit e 3 = w
  generalize bit f 6 = x', bit f 5 = y', bit f 4 = z'
  revert x y z v w x' y' z'
  decide

end Layout

lemma nonzero_eq_iff (chan : UInt8) (n : Nat) :
    (if chan = 0 then none else some chan.toNat) = (some n).filter (· ≠ 0) ↔ some n = some chan.toNat := by
  have hzero : chan = 0 ↔ chan.toNat = 0 := UInt8.toNat_inj.symm
  simp only [hzero, filter_some, decide_not, Bool.not_eq_true', decide_eq_false_iff_not]
  split_ifs <;> simp <;> omega

theorem channelsFromAsc_eq_iff (asc : List UInt8) :
    channelsFromAsc asc = (channelConfiguration asc).filter (· ≠ 0) ↔
      (field asc 5 4 = some 15 → field asc 33 4 = none ∨ asc.length = 5 ∧ field asc 33 4 = some 0 ∨
        field asc 32 1 = field asc 33 1 ∧ field asc 41 3 = field asc 34 3) := by
  match asc with
  | [] | [_] => exact iff_of_true rfl nofun
  | a :: b :: rest =>
    have hidx := frequencyIndex_field a b rest
    by_cases hexplicit : ((a &&& 0x07) <<< 1) ||| (b >>> 7) = 0x0f
    · rw [channelConfiguration, hidx, channelsFromAsc]
      simp only [getD_cons_zero, getD_cons_succ, hexplicit]
      match rest with
      | [] | [_] | [_, _] => exact iff_of_true rfl fun _ => Or.inl rfl
      | [c, d, e] =>
        have hfield : ∃ v, field [a, b, c, d, e] 33 4 = some v := ⟨_, rfl⟩
        have hpast : field [a, b, c, d, e] 41 3 ≠ field [a, b, c, d, e] 34 3 := nofun
        obtain ⟨v, hv⟩ := hfield
        rw [hv]
        refine (nonzero_eq_iff 0 v).trans ?_
        simp [hpast]
      | c :: d :: e :: f :: rest =>
        have hfield : ∃ v, field (a :: b :: c :: d :: e :: f :: rest) 33 4 = some v := ⟨_, rfl⟩
        obtain ⟨v, hv⟩ := hfield
        have hiff := explicit_field_iff a b c d e f rest
        rw [hv] at hiff
        rw [hv]
        refine (nonzero_eq_iff _ v).trans (hiff.trans ?_)
        simp
    · have hne : (((a &&& 0x07) <<< 1) ||| (b >>> 7)).toNat ≠ 15 := fun h => hexplicit (UInt8.toNat_inj.mp h)
      rw [channelConfiguration, hidx, channelsFromAsc]
      simp only [getD_cons_zero, getD_cons_succ, if_neg hexplicit, bind_some, if_neg hne, indexed_field]
      refine iff_of_true ((nonzero_eq_iff ..).mpr rfl) ?_
      exact fun h => absurd (some.inj h) hne

/-- Stereo at a frequency of its own: the code looks for the channels one bit too early and a byte too late. -/
theorem explicit_frequency_loses_channels :
    field [0x17, 0x80, 0, 0, 0x10, 0] 0 5 = some 2 ∧ channelConfiguration [0x17, 0x80, 0, 0, 0x10, 0] = some 2 ∧
      channelsFromAsc [0x17, 0x80, 0, 0, 0x10, 0] = none := by
  decide

end Bookclerk.Mp4
