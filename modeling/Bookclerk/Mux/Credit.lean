import Mathlib.Data.List.Perm.Subperm
import Bookclerk.Mux.Moves
import Bookclerk.System.Run

namespace Bookclerk.Mux

open List Option

structure Book where
  records : List BookRecord
  closing : List Nat
  due : Nat → Prop
  gens : Nat

def Unclosed (records : List BookRecord) (g : Nat) : Prop :=
  ∃ r ∈ records, r.gen = g ∧ r.closeDone = false

structure BookInv (b : Book) : Prop where
  cap : b.records.length ≤ maxLiveStreams
  nodup : (b.records.map (·.gen)).Nodup
  lt : ∀ r ∈ b.records, r.gen < b.gens
  once : b.closing.Nodup
  unclosed : ∀ g ∈ b.closing, Unclosed b.records g
  due : ∀ g, b.due g → g ∉ b.closing ∧ Unclosed b.records g

inductive BookMove (b b' : Book) : Prop
  | quiet (records : b'.records = b.records) (closing : b'.closing.Perm b.closing)
      (due : ∀ g, b'.due g → b.due g) (gens : b'.gens = b.gens)
  | insert (room : b.records.length < maxLiveStreams)
      (records : b'.records = b.records ++ [⟨b.gens, false, false⟩]) (closing : b'.closing = b.closing)
      (due : ∀ g, b'.due g → b.due g ∨ g = b.gens) (gens : b'.gens = b.gens + 1)
  | queue (g : Nat) (isDue : b.due g) (records : b'.records = b.records)
      (closing : b'.closing.Perm (g :: b.closing)) (due : ∀ x, b'.due x → b.due x ∧ x ≠ g)
      (gens : b'.gens = b.gens)
  | credit (g : Nat) (records : b'.records = markBook b.records g true)
      (closing : b'.closing = b.closing) (due : ∀ x, b'.due x → b.due x) (gens : b'.gens = b.gens)
  | close (g : Nat) (records : b'.records = markBook b.records g false)
      (closing : b.closing = b'.closing ∨ b.closing.Perm (g :: b'.closing)) (free : g ∉ b'.closing)
      (due : ∀ x, b'.due x → b.due x ∧ x ≠ g) (gens : b'.gens = b.gens)

section MarkBook

variable {records : List BookRecord} {g : Nat} {credit : Bool}

@[simp] lemma mark_gen (r : BookRecord) (credit : Bool) : (r.mark credit).gen = r.gen := by
  cases credit with
  | false | true => rfl

lemma gens_markBook_sublist (records : List BookRecord) (g : Nat) (credit : Bool) :
    ((markBook records g credit).map (·.gen)).Sublist (records.map (·.gen)) := by
  rw [markBook]
  split
  · have hmap : (records.map fun r => if r.gen = g then r.mark credit else r).map (·.gen) = records.map (·.gen) := by
      rw [List.map_map]
      apply map_congr_left
      intro r _
      rw [Function.comp_apply]
      split
      · exact mark_gen r credit
      · rfl
    rw [← hmap]
    exact filter_sublist.map _
  · exact List.Sublist.refl _

lemma gen_mem_of_mem_markBook {r : BookRecord} (h : r ∈ markBook records g credit) : ∃ r' ∈ records, r'.gen = r.gen := by
  have hmem := (gens_markBook_sublist records g credit).subset (List.mem_map_of_mem h)
  exact List.mem_map.mp hmem

lemma Unclosed.markBook_of {x : Nat} (h : Unclosed records x) (hx : credit = true ∨ x ≠ g) : Unclosed (markBook records g credit) x := by
  obtain ⟨r, hr, rfl, hopen⟩ := h
  rw [markBook]
  split
  · refine ⟨if r.gen = g then r.mark credit else r, mem_filter.mpr ⟨List.mem_map.mpr ⟨r, hr, rfl⟩, ?_⟩, ?_, ?_⟩
    all_goals by_cases hg : r.gen = g
    all_goals simp_all [BookRecord.mark]
  · exact ⟨r, hr, rfl, hopen⟩

end MarkBook

variable {g : Nat}

lemma Unclosed.append {records : List BookRecord} (h : Unclosed records g) (r : BookRecord) : Unclosed (records ++ [r]) g := by
  obtain ⟨r', hr', hg⟩ := h
  exact ⟨r', mem_append_left _ hr', hg⟩

lemma BookInv.marked {b b' : Book} (h : BookInv b) {credit : Bool} (records : b'.records = markBook b.records g credit)
    (gens : b'.gens = b.gens) (hclosing : b'.closing.Nodup) (hunclosed : ∀ x ∈ b'.closing, Unclosed b'.records x)
    (hdue : ∀ x, b'.due x → x ∉ b'.closing ∧ Unclosed b'.records x) : BookInv b' where
  cap := by
    have hlen := (gens_markBook_sublist b.records g credit).length_le
    rw [length_map, length_map] at hlen
    rw [records]
    exact hlen.trans h.cap
  nodup := by
    rw [records]
    exact (gens_markBook_sublist b.records g credit).nodup h.nodup
  lt r hr := by
    rw [records] at hr
    obtain ⟨r', hr', hgen⟩ := gen_mem_of_mem_markBook hr
    rw [gens, ← hgen]
    exact h.lt r' hr'
  once := hclosing
  unclosed := hunclosed
  due := hdue

theorem BookInv.move {b b' : Book} (h : BookInv b) (hmove : BookMove b b') : BookInv b' := by
  cases hmove with
  | quiet records closing due gens =>
    refine ⟨records ▸ h.cap, records ▸ h.nodup, ?_, closing.nodup_iff.mpr h.once, ?_, ?_⟩
    · rw [records, gens]
      exact h.lt
    · intro g hg
      rw [records]
      exact h.unclosed g (closing.mem_iff.mp hg)
    · intro g hg
      rw [records, closing.mem_iff]
      exact h.due g (due g hg)
  | insert room records closing due gens =>
    have hfresh : ∀ r ∈ b.records, r.gen ≠ b.gens := fun r hr => (h.lt r hr).ne
    refine ⟨?_, ?_, ?_, closing ▸ h.once, ?_, ?_⟩
    · rw [records, length_append]
      exact room
    · rw [records, map_append, nodup_append]
      refine ⟨h.nodup, nodup_singleton _, ?_⟩
      intro x hx y hy hxy
      obtain ⟨r, hr, rfl⟩ := List.mem_map.mp hx
      exact hfresh r hr (hxy.trans (mem_singleton.mp hy))
    · intro r hr
      rw [records, mem_append, mem_singleton] at hr
      rw [gens]
      rcases hr with hr | rfl
      · exact (h.lt r hr).trans (Nat.lt_succ_self _)
      · exact Nat.lt_succ_self _
    · intro g hg
      rw [records]
      rw [closing] at hg
      exact (h.unclosed g hg).append _
    · intro g hg
      rw [records, closing]
      rcases due g hg with hg | rfl
      · exact ⟨(h.due g hg).1, (h.due g hg).2.append _⟩
      · refine ⟨fun hmem => ?_, _, mem_append_right _ (mem_singleton.mpr rfl), rfl, rfl⟩
        obtain ⟨r, hr, hgen, -⟩ := h.unclosed _ hmem
        exact hfresh r hr hgen
  | queue g isDue records closing due gens =>
    obtain ⟨hnew, hopen⟩ := h.due g isDue
    refine ⟨records ▸ h.cap, records ▸ h.nodup, ?_, ?_, ?_, ?_⟩
    · rw [records, gens]
      exact h.lt
    · exact closing.nodup_iff.mpr (nodup_cons.mpr ⟨hnew, h.once⟩)
    · intro x hx
      rw [records]
      rcases mem_cons.mp (closing.mem_iff.mp hx) with rfl | hx
      · exact hopen
      · exact h.unclosed x hx
    · intro x hx
      obtain ⟨hx, hne⟩ := due x hx
      rw [records, closing.mem_iff, mem_cons, not_or]
      exact ⟨⟨hne, (h.due x hx).1⟩, (h.due x hx).2⟩
  | credit g records closing due gens =>
    refine h.marked records gens (closing ▸ h.once) ?_ ?_
    · intro x hx
      rw [records]
      exact (h.unclosed x (closing ▸ hx)).markBook_of (.inl rfl)
    · intro x hx
      rw [records, closing]
      exact ⟨(h.due x (due x hx)).1, (h.due x (due x hx)).2.markBook_of (.inl rfl)⟩
  | close g records closing free due gens =>
    have hsub : ∀ x ∈ b'.closing, x ∈ b.closing := by
      intro x hx
      rcases closing with closing | closing
      · exact closing ▸ hx
      · exact closing.mem_iff.mpr (mem_cons_of_mem g hx)
    have hnodup : b'.closing.Nodup := by
      rcases closing with closing | closing
      · exact closing ▸ h.once
      · exact (nodup_cons.mp (closing.nodup_iff.mp h.once)).2
    refine h.marked records gens hnodup ?_ ?_
    · intro x hx
      rw [records]
      exact (h.unclosed x (hsub x hx)).markBook_of (.inr fun hxg => free (hxg ▸ hx))
    · intro x hx
      obtain ⟨hx, hne⟩ := due x hx
      rw [records]
      exact ⟨fun hmem => (h.due x hx).1 (hsub x hmem), (h.due x hx).2.markBook_of (.inr hne)⟩

lemma BookInv.closing_le {b : Book} (h : BookInv b) : b.closing.length ≤ maxLiveStreams := by
  have hsub : b.closing ⊆ b.records.map (·.gen) := by
    intro g hg
    obtain ⟨r, hr, rfl, -⟩ := h.unclosed g hg
    exact List.mem_map_of_mem hr
  have hlen := (subperm_of_subset h.once hsub).length_le
  rw [length_map] at hlen
  exact hlen.trans h.cap

variable {s s' : MuxState}

def WriteOp.picked : WriteOp → Nat
  | .queuing n => n
  | .queued n => n
  | _ => 0

def WriteOp.owed : WriteOp → Nat
  | .charged n => n
  | _ => 0

def ReaderPhase.granting (r : ReaderPhase) (g : Nat) : Nat :=
  match r with
  | .window g' _ (.grant take) => if g' = g then take else 0
  | _ => 0

structure SendOk (w : SendSide) (grant : Nat) : Prop where
  window : w.sendCredit + w.inFlight + w.op.owed + grant ≤ initialWindow
  picked : w.op.picked ≤ w.sendCredit
  frame : w.op.picked ≤ maxFramePayload

structure CreditInv (s : MuxState) : Prop where
  send : ∀ g, SendOk (s.send g) (s.reader.granting g)
  queue : ∀ d ∈ s.dataQueue, d.len ≤ maxFramePayload

lemma granting_of_quiet {r : ReaderPhase} (h : r.quiet = true) (g : Nat) : r.granting g = 0 := by
  cases r with
  | window g' add stage =>
    cases stage with
    | load | cas cur => rfl
    | grant take => cases h
  | _ => rfl

variable {w : SendSide}

lemma SendOk.grant_zero {n : Nat} (h : SendOk w n) : SendOk w 0 :=
  ⟨le_trans (Nat.le_add_right _ _) h.window, h.picked, h.frame⟩

lemma sendOk_new : SendOk ⟨initialWindow, 0, .idle⟩ 0 :=
  ⟨le_refl _, Nat.zero_le _, Nat.zero_le _⟩

lemma CreditInv.of_send (h : CreditInv s) (hsend : s'.send = s.send) (hqueue : s'.dataQueue = s.dataQueue)
    (hreader : s'.reader = s.reader ∨ ∀ g, s'.reader.granting g = 0) : CreditInv s' where
  send g := by
    rw [hsend]
    rcases hreader with hreader | hreader
    · rw [hreader]
      exact h.send g
    · rw [hreader g]
      exact (h.send g).grant_zero
  queue := by
    rw [hqueue]
    exact h.queue

lemma CreditInv.of_sameSend (h : CreditInv s) (hsame : SameSend s s') : CreditInv s' :=
  h.of_send hsame.send hsame.data (.inl hsame.reader)

lemma CreditInv.insertStream (h : CreditInv s) (hlock : s.reader.mapLocked = false) {id : Nat} {announced : Bool}
    {life : Life} (hs : s.insertStream id announced life = some s') : CreditInv s' := by
  obtain ⟨t, -, rfl⟩ := map_eq_some_iff.mp hs
  refine ⟨fun g => ?_, h.queue⟩
  refine forall_update (p := fun g w => SendOk w (s.reader.granting g)) ?_ (fun x _ => h.send x) g
  rw [granting_of_quiet (quiet_of_not_mapLocked hlock)]
  exact sendOk_new

lemma SendOk.charge {grant n : Nat} (h : SendOk w grant) (hop : w.op = .queued n) :
    SendOk { w with sendCredit := wrapSub w.sendCredit n, op := .charged n } grant := by
  obtain ⟨hwindow, hpicked, -⟩ := h
  simp only [hop, WriteOp.picked, initialWindow] at hwindow hpicked
  have hsub : wrapSub w.sendCredit n = w.sendCredit - n := by
    rw [wrapSub]
    omega
  refine ⟨?_, Nat.zero_le _, Nat.zero_le _⟩
  simp only [hsub, WriteOp.owed, initialWindow]
  omega

lemma SendOk.fly {grant n : Nat} (h : SendOk w grant) (hop : w.op = .charged n) :
    SendOk { w with inFlight := wrapAdd w.inFlight n, op := .idle } grant := by
  obtain ⟨hwindow, -, -⟩ := h
  simp only [hop, WriteOp.owed, initialWindow] at hwindow
  have hadd : wrapAdd w.inFlight n = w.inFlight + n := by
    rw [wrapAdd]
    omega
  refine ⟨?_, Nat.zero_le _, Nat.zero_le _⟩
  simp only [WriteOp.owed, initialWindow]
  omega

section

variable (h : CreditInv s)
include h

lemma CreditInv.setSend (hw : SendOk w (s.reader.granting g)) : CreditInv (s.setSend g w) :=
  ⟨forall_update (p := fun g w => SendOk w (s.reader.granting g)) hw fun x _ => h.send x, h.queue⟩

lemma CreditInv.setSignals (g : Nat) (sig : Signals) : CreditInv (s.setSignals g sig) :=
  ⟨h.send, h.queue⟩

lemma CreditInv.pollWrite {g len : Nat} (hs : pollWrite s g len = some s') : CreditInv s' := by
  simp only [Mux.pollWrite] at hs
  split at hs
  · rename_i hlive
    split at hs
    · cases hs
      exact h
    split at hs
    · cases hs
      exact h
    cases hs
    refine (h.setSend ⟨?_, ?_, ?_⟩).setSignals g _
    · have hwindow := (h.send g).window
      rw [hlive.2] at hwindow
      exact hwindow
    · exact min_le_right _ _
    · exact (min_le_left _ _).trans (min_le_right _ _)
  · cases hs

lemma CreditInv.pollWriteNext (hs : pollWriteNext s g = some s') : CreditInv s' := by
  have hg := h.send g
  cases hop : (s.send g).op with
  | idle => simp [Mux.pollWriteNext, hop] at hs
  | queuing n =>
    obtain ⟨hwindow, hpicked, hframe⟩ := hg
    rw [hop] at hwindow hpicked hframe
    simp only [Mux.pollWriteNext, hop] at hs
    split at hs
    · cases hs
      have hset : CreditInv (s.setSend g { s.send g with op := .queued n }) := h.setSend ⟨hwindow, hpicked, hframe⟩
      refine ⟨hset.send, fun d hd => ?_⟩
      rcases mem_append.mp hd with hd | hd
      · exact h.queue d hd
      · rw [mem_singleton.mp hd]
        exact hframe
    · cases hs
      exact (h.setSend ⟨hwindow, Nat.zero_le _, Nat.zero_le _⟩).setSignals g _
  | queued n =>
    simp only [Mux.pollWriteNext, hop, some.injEq] at hs
    subst hs
    exact h.setSend (hg.charge hop)
  | charged n =>
    simp only [Mux.pollWriteNext, hop, some.injEq] at hs
    subst hs
    exact h.setSend (hg.fly hop)

lemma CreditInv.enqueueData (g id len : Nat) (stage : EnqueueStage) : CreditInv (enqueueData s g id len stage) := by
  cases stage with
  | loaded cur | counted =>
    rw [Mux.enqueueData]
    split
    all_goals exact h.of_send rfl rfl (.inr fun _ => rfl)
  | _ => exact h.of_send rfl rfl (.inr fun _ => rfl)

lemma CreditInv.grantSendCredit {g add : Nat} {stage : WindowStage} (hreader : s.reader = .window g add stage) :
    CreditInv (grantSendCredit s g add stage) := by
  have hg := h.send g
  have hother (x : Nat) (hx : x ≠ g) : SendOk (s.send x) 0 := (h.send x).grant_zero
  cases stage with
  | load =>
    rw [Mux.grantSendCredit]
    split
    · exact h.of_send rfl rfl (.inr fun _ => rfl)
    · exact h.of_send rfl rfl (.inr fun _ => rfl)
  | cas cur =>
    rw [Mux.grantSendCredit]
    split
    · refine ⟨forall_update (p := fun x w => SendOk w (ReaderPhase.granting (.window g add (.grant (min cur add))) x)) ?_ ?_,
        h.queue⟩
      · refine ⟨?_, hg.picked, hg.frame⟩
        have hwindow := hg.window
        simp only [ReaderPhase.granting, if_true]
        omega
      · intro x hx
        simpa [ReaderPhase.granting, Ne.symm hx] using hother x hx
    · exact h.of_send rfl rfl (.inr fun _ => rfl)
  | grant take =>
    refine ⟨forall_update (p := fun x w => SendOk w (ReaderPhase.granting .idle x)) ?_ fun x hx => hother x hx, h.queue⟩
    obtain ⟨hwindow, hpicked, hframe⟩ := hg
    simp only [hreader, ReaderPhase.granting, if_true, initialWindow] at hwindow
    refine ⟨?_, hpicked.trans ?_, hframe⟩
    · simp only [ReaderPhase.granting, initialWindow]
      omega
    · simp only [initialWindow]
      omega

lemma CreditInv.owner (hmove : OwnerMove s g s') : CreditInv s' := by
  cases hmove with
  | read same _ => exact h.of_sameSend same
  | write _ _ hs =>
    rcases hs with ⟨len, hs⟩ | hs
    · exact h.pollWrite hs
    · exact h.pollWriteNext hs
  | point _ same _ _ _ _ => exact h.of_sameSend same
  | release left _ _ hrel => exact h.of_sameSend hrel.same
  | queueClose | skipClose => exact h.of_sameSend {}

end

theorem stable_creditInv : System.Stable muxStep CreditInv := by
  intro s a s' h hs
  cases muxMove_of_step hs with
  | owner g a _ hs => exact h.owner (ownerMove_of_step hs)
  | writer a hs =>
    obtain ⟨hsame, -⟩ := writerMove_of_step hs
    refine ⟨fun g => ?_, fun d hd => h.queue d (hsame.data d hd)⟩
    rw [hsame.send, hsame.reader]
    exact h.send g
  | reader r n _ hquiet _ | deferred l r _ hquiet _ _ => exact h.of_send rfl rfl (.inr (granting_of_quiet hquiet))
  | insert id announced life n hlock _ hins r hr =>
    have ht := h.insertStream hlock hins
    exact ht.of_send rfl rfl (.inr (granting_of_quiet (quiet_of_same hlock hr)))
  | closePeer id r hlock hr =>
    exact (h.of_sameSend (sameSend_closePeer s id)).of_send rfl rfl (.inr (granting_of_quiet (quiet_of_same hlock hr)))
  | lookup id len slot _ _ => exact h.of_send rfl rfl (.inr fun _ => rfl)
  | enqueue g id len stage _ _ => exact h.enqueueData g id len stage
  | window g add stage _ hreader => exact h.grantSendCredit hreader

lemma creditInv_start (idBase : Nat) : CreditInv (.start idBase) :=
  ⟨fun _ => sendOk_new, nofun⟩

end Bookclerk.Mux
