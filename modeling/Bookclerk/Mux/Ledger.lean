import Bookclerk.Mux.Attached
import Mathlib.Algebra.Order.BigOperators.Group.Finset

namespace Bookclerk.Mux

open Function Finset

variable {s s' : MuxState}

lemma sum_range_of_eq_off {n g : Nat} (hg : g < n) {f e : Nat → Nat} (h : ∀ x, x ≠ g → e x = f x) :
    ∑ x ∈ range n, e x + f g = ∑ x ∈ range n, f x + e g := by
  have hmem : g ∈ range n := mem_range.mpr hg
  have hrest : ∑ x ∈ (range n).erase g, e x = ∑ x ∈ (range n).erase g, f x :=
    sum_congr rfl fun x hx => h x (ne_of_mem_erase hx)
  rw [← add_sum_erase _ f hmem, ← add_sum_erase _ e hmem]
  omega

def RecvSide.unread (r : RecvSide) : Nat := r.readBuf + r.channel.sum

-- Read, and still in both counters.
def ReadOp.taken : ReadOp → Nat
  | .consumed n => n
  | _ => 0

-- Out of the stream's counter, and still in the aggregate.
def ReadOp.unsettled : ReadOp → Nat
  | .uncounted n => n
  | _ => 0

def Life.forgotten : Life → Nat
  | .swapped left => left
  | .writtenOff left => left
  | .released left => left
  | .dropClosing left => left
  | .dropped left => left
  | _ => 0

def Life.unsettled : Life → Nat
  | .swapped left => left
  | _ => 0

@[simp] lemma forgotten_swapped (left : Nat) : (Life.swapped left).forgotten = left := rfl

@[simp] lemma unsettled_swapped (left : Nat) : (Life.swapped left).unsettled = left := rfl

def Life.uncovered (l : Life) : Nat := l.forgotten - l.unsettled

def Life.ended : Life → Bool
  | .opening => false
  | .live => false
  | .closing => false
  | _ => true

-- Counted for a stream and not yet in its channel.
def ReaderPhase.sending (r : ReaderPhase) (g : Nat) : Nat :=
  match r with
  | .enqueue g' _ len .added => if g' = g then len else 0
  | .enqueue g' _ len .counted => if g' = g then len else 0
  | _ => 0

-- In a stream's counter and not yet in the aggregate.
def ReaderPhase.uncounted : ReaderPhase → Nat
  | .enqueue _ _ len .added => len
  | _ => 0

namespace MuxState

variable (s : MuxState)

def unread (g : Nat) : Nat := (s.recv g).unread

def totalUnread : Nat := ∑ g ∈ Finset.range s.nextGen, s.unread g

def counted (g : Nat) : Nat := (s.recv g).buffered + (s.recv g).op.unsettled + (s.handle g).life.unsettled

def Balanced (g sending : Nat) : Prop :=
  s.unread g + (s.recv g).op.taken + sending ≤ (s.recv g).buffered + (s.handle g).life.forgotten

end MuxState

def RecvSide.Framed (r : RecvSide) : Prop :=
  (∀ c ∈ r.channel, c ≤ maxFramePayload) ∧ r.readBuf ≤ maxFramePayload

structure FlowInv (s : MuxState) : Prop where
  balance : ∀ g, s.Balanced g (s.reader.sending g)
  covered : ∑ g ∈ Finset.range s.nextGen, s.counted g ≤ s.aggregate + s.reader.uncounted
  idle : ∀ g, (s.handle g).life.ended = true → (s.recv g).op = .idle
  framed : ∀ g, (s.recv g).Framed
  payload : s.reader.payloadLen ≤ maxFramePayload

structure OwnerFlow (s s' : MuxState) (g : Nat) : Prop where
  nextGen : s'.nextGen = s.nextGen
  reader : s'.reader = s.reader
  recv : ∀ x, x ≠ g → s'.recv x = s.recv x
  life : ∀ x, x ≠ g → (s'.handle x).life = (s.handle x).life
  balance : s.Balanced g (s.reader.sending g) → s'.Balanced g (s.reader.sending g)
  counted : ∃ n, s'.counted g + n = s.counted g ∧ s.aggregate - n ≤ s'.aggregate
  idle : (s'.handle g).life.ended = true → (s'.recv g).op = .idle
  framed : (s.recv g).Framed → (s'.recv g).Framed
  unread : s'.unread g ≤ s.unread g

lemma FlowInv.owner (h : FlowInv s) {g : Nat} (hlt : g < s.nextGen) (hflow : OwnerFlow s s' g) : FlowInv s' where
  balance x := by
    rw [hflow.reader]
    by_cases hx : x = g
    · subst hx
      exact hflow.balance (h.balance x)
    · have hbal := h.balance x
      rw [MuxState.Balanced, MuxState.unread] at hbal ⊢
      rw [hflow.recv x hx, hflow.life x hx]
      exact hbal
  covered := by
    obtain ⟨n, hn, hagg⟩ := hflow.counted
    have hoff : ∀ x, x ≠ g → s'.counted x = s.counted x := by
      intro x hx
      rw [MuxState.counted, MuxState.counted, hflow.recv x hx, hflow.life x hx]
    have hsum := sum_range_of_eq_off hlt hoff
    have hcov := h.covered
    rw [hflow.nextGen, hflow.reader]
    omega
  idle x hx := by
    by_cases hne : x = g
    · subst hne
      exact hflow.idle hx
    · rw [hflow.recv x hne]
      exact h.idle x (hflow.life x hne ▸ hx)
  framed x := by
    by_cases hne : x = g
    · subst hne
      exact hflow.framed (h.framed x)
    · rw [hflow.recv x hne]
      exact h.framed x
  payload := hflow.reader ▸ h.payload

lemma OwnerFlow.of_sides {g : Nat} {r : RecvSide} {h' : Handle} (hgens : s'.nextGen = s.nextGen) (hreader : s'.reader = s.reader)
    (hrecv : s'.recv = Function.update s.recv g r) (hhandle : s'.handle = Function.update s.handle g h')
    (hbal : s.Balanced g (s.reader.sending g) → r.unread + r.op.taken + s.reader.sending g ≤ r.buffered + h'.life.forgotten)
    (hcounted : ∃ n, r.buffered + r.op.unsettled + h'.life.unsettled + n = s.counted g ∧ s.aggregate - n ≤ s'.aggregate)
    (hidle : h'.life.ended = true → r.op = .idle) (hframed : (s.recv g).Framed → r.Framed)
    (hunread : r.unread ≤ (s.recv g).unread) : OwnerFlow s s' g where
  nextGen := hgens
  reader := hreader
  recv x hx := by rw [hrecv, update_of_ne hx]
  life x hx := by rw [hhandle, update_of_ne hx]
  balance h := by
    rw [MuxState.Balanced, MuxState.unread, hrecv, hhandle, update_self, update_self]
    exact hbal h
  counted := by
    rw [MuxState.counted, hrecv, hhandle, update_self, update_self]
    exact hcounted
  idle := by
    rw [hrecv, hhandle, update_self, update_self]
    exact hidle
  framed := by
    rw [hrecv, update_self]
    exact hframed
  unread := by
    rw [MuxState.unread, hrecv, update_self]
    exact hunread

lemma OwnerFlow.of_handle {g : Nat} (hgens : s'.nextGen = s.nextGen) (hreader : s'.reader = s.reader)
    (hrecv : s'.recv = s.recv) (hagg : s'.aggregate = s.aggregate) {h' : Handle} (hhandle : s'.handle = Function.update s.handle g h')
    (hoff : h'.life.forgotten = (s.handle g).life.forgotten) (hset : h'.life.unsettled = (s.handle g).life.unsettled)
    (hidle : h'.life.ended = true → (s.recv g).op = .idle) : OwnerFlow s s' g := by
  refine .of_sides hgens hreader ?_ hhandle ?_ ⟨0, ?_, hagg.ge⟩ hidle (fun hf => hf) (Nat.le_refl _)
  · rw [update_eq_self, hrecv]
  · rw [hoff]
    exact fun hbal => hbal
  · rw [hset]
    rfl

end Bookclerk.Mux
