import Bookclerk.Mux.Flow

namespace Bookclerk.Mux

open List Function

variable {announced : Bool} {life : Life} {r : ReaderPhase}

variable {s s' : MuxState}

lemma sending_of_quiet (h : r.quiet = true) (g : Nat) : r.sending g = 0 := by
  cases r with
  | enqueue => cases h
  | _ => rfl

lemma uncounted_of_not_mapLocked (h : r.mapLocked = false) : r.uncounted = 0 := by
  cases r with
  | enqueue => cases h
  | _ => rfl

lemma FlowInv.of_same (h : FlowInv s) (hgens : s'.nextGen = s.nextGen) (hrecv : s'.recv = s.recv)
    (hlife : ∀ g, (s'.handle g).life = (s.handle g).life) (hagg : s'.aggregate = s.aggregate) (hbefore : s.reader.uncounted = 0)
    (hafter : ∀ g, s'.reader.sending g = 0) (hpayload : s'.reader.payloadLen ≤ maxFramePayload) : FlowInv s' where
  balance g := by
    have hbal := h.balance g
    rw [MuxState.Balanced, MuxState.unread] at hbal ⊢
    rw [hrecv, hlife, hafter]
    omega
  covered := by
    have hcov := h.covered
    have hcounted : ∀ g, s'.counted g = s.counted g := fun g => by rw [MuxState.counted, MuxState.counted, hrecv, hlife]
    simp only [hgens, hcounted]
    omega
  idle g := by
    rw [hrecv, hlife]
    exact h.idle g
  framed := hrecv ▸ h.framed
  payload := hpayload

structure Inserted (s s' : MuxState) (life : Life) : Prop where
  nextGen : s'.nextGen = s.nextGen + 1
  reader : s'.reader = s.reader
  aggregate : s'.aggregate = s.aggregate
  recv : s'.recv = Function.update s.recv s.nextGen ⟨0, [], 0, .idle⟩
  life : (s'.handle s.nextGen).life = life
  others : ∀ x, x ≠ s.nextGen → (s'.handle x).life = (s.handle x).life

lemma inserted_of_insertStream {id : Nat} (hs : s.insertStream id announced life = some s') : Inserted s s' life := by
  obtain ⟨t, -, rfl⟩ := Option.map_eq_some_iff.mp hs
  refine ⟨rfl, rfl, rfl, rfl, ?_, fun x hx => ?_⟩
  · simp
  · simp [update_of_ne hx]

lemma FlowInv.inserted (h : FlowInv s) (hlock : s.reader.mapLocked = false) (hlife : life.ended = false)
    (hins : Inserted s s' life) : FlowInv s' := by
  have hset : life.unsettled = 0 := by
    cases life with
    | swapped => cases hlife
    | _ => rfl
  have hold (x : Nat) (hx : x ≠ s.nextGen) : s'.recv x = s.recv x := by rw [hins.recv, update_of_ne hx]
  have hnew : s'.recv s.nextGen = ⟨0, [], 0, .idle⟩ := by rw [hins.recv, update_self]
  refine ⟨fun g => ?_, ?_, fun g hg => ?_, fun g => ?_, hins.reader ▸ h.payload⟩
  · have hbal := h.balance g
    rw [sending_of_quiet (quiet_of_not_mapLocked hlock)] at hbal
    rw [hins.reader, sending_of_quiet (quiet_of_not_mapLocked hlock)]
    by_cases hg : g = s.nextGen
    · subst hg
      rw [MuxState.Balanced, MuxState.unread, hnew]
      exact Nat.zero_le _
    · rw [MuxState.Balanced, MuxState.unread] at hbal ⊢
      rw [hold g hg, hins.others g hg]
      exact hbal
  · have hcov := h.covered
    have hcounted : ∀ x ∈ Finset.range s.nextGen, s'.counted x = s.counted x := by
      intro x hx
      have hne := (Finset.mem_range.mp hx).ne
      rw [MuxState.counted, MuxState.counted, hold x hne, hins.others x hne]
    have hzero : s'.counted s.nextGen = 0 := by
      rw [MuxState.counted, hnew, hins.life, hset]
      rfl
    rw [hins.nextGen, Finset.sum_range_succ, Finset.sum_congr rfl hcounted, hzero, hins.aggregate, hins.reader]
    exact hcov
  · by_cases hne : g = s.nextGen
    · subst hne
      rw [hnew]
    · rw [hold g hne]
      exact h.idle g (hins.others g hne ▸ hg)
  · by_cases hne : g = s.nextGen
    · subst hne
      rw [hnew]
      exact ⟨List.forall_mem_nil _, Nat.zero_le _⟩
    · rw [hold g hne]
      exact h.framed g

lemma FlowInv.reader (h : FlowInv s) {g : Nat} (hlt : g < s.nextGen) (hgens : s'.nextGen = s.nextGen) {r : RecvSide}
    (hrecv : s'.recv = Function.update s.recv g r) (hhandle : s'.handle = s.handle) (hop : r.op = (s.recv g).op)
    (hbal : r.unread + (s.recv g).op.taken + s'.reader.sending g ≤ r.buffered + (s.handle g).life.forgotten)
    (hothers : ∀ x, x ≠ g → s'.reader.sending x ≤ s.reader.sending x)
    (hcov : r.buffered + s.aggregate + s.reader.uncounted ≤ (s.recv g).buffered + s'.aggregate + s'.reader.uncounted)
    (hframed : r.Framed) (hpayload : s'.reader.payloadLen ≤ maxFramePayload) : FlowInv s' := by
  have hold (x : Nat) (hx : x ≠ g) : s'.recv x = s.recv x := by rw [hrecv, update_of_ne hx]
  have hnew : s'.recv g = r := by rw [hrecv, update_self]
  refine ⟨fun x => ?_, ?_, fun x hx => ?_, fun x => ?_, hpayload⟩
  · by_cases hx : x = g
    · subst hx
      rw [MuxState.Balanced, MuxState.unread, hnew, hop, hhandle]
      exact hbal
    · have hbal := h.balance x
      have hsend := hothers x hx
      rw [MuxState.Balanced, MuxState.unread] at hbal ⊢
      rw [hold x hx, hhandle]
      omega
  · have hsum := sum_range_of_eq_off (f := s.counted) (e := s'.counted) hlt fun x hx => by
      rw [MuxState.counted, MuxState.counted, hold x hx, hhandle]
    have hall := h.covered
    have hg : s'.counted g + (s.recv g).buffered = s.counted g + r.buffered := by
      rw [MuxState.counted, MuxState.counted, hnew, hop, hhandle]
      omega
    rw [hgens]
    omega
  · by_cases hne : x = g
    · subst hne
      rw [hnew, hop]
      exact h.idle x (hhandle ▸ hx)
    · rw [hold x hne]
      exact h.idle x (hhandle ▸ hx)
  · by_cases hne : x = g
    · subst hne
      rw [hnew]
      exact hframed
    · rw [hold x hne]
      exact h.framed x

lemma FlowInv.enqueueData (h : FlowInv s) (hmap : MapInv s) {g id len : Nat} {stage : EnqueueStage}
    (hreader : s.reader = .enqueue g id len stage) : FlowInv (enqueueData s g id len stage) := by
  have hlen : len ≤ maxFramePayload := by
    have hpayload := h.payload
    rw [hreader] at hpayload
    exact hpayload
  obtain ⟨hlt, hatt⟩ := hmap.held g id len stage hreader
  have hbal := h.balance g
  rw [MuxState.Balanced, MuxState.unread, hreader] at hbal
  cases stage with
  | fresh =>
    exact h.of_same rfl rfl (fun _ => rfl) rfl (by rw [hreader]; rfl) (fun _ => rfl) hlen
  | loaded cur =>
    rw [Mux.enqueueData]
    split
    · exact h.of_same rfl rfl (fun _ => rfl) rfl (by rw [hreader]; rfl) (fun _ => rfl) (Nat.zero_le _)
    · exact h.of_same rfl rfl (fun _ => rfl) rfl (by rw [hreader]; rfl) (fun _ => rfl) hlen
  | checked =>
    refine h.reader hlt rfl rfl rfl rfl ?_ ?_ ?_ (h.framed g) hlen
    · simp only [Mux.enqueueData, MuxState.setReader, ReaderPhase.sending, if_true, RecvSide.unread] at hbal ⊢
      omega
    · intro x hx
      simp [Mux.enqueueData, MuxState.setReader, ReaderPhase.sending, Ne.symm hx]
    · simp only [Mux.enqueueData, MuxState.setReader, MuxState.setRecv, hreader, ReaderPhase.uncounted]
      omega
  | added =>
    refine h.reader hlt rfl ?_ rfl rfl ?_ ?_ ?_ (h.framed g) hlen
    · rw [update_eq_self]
      rfl
    · simpa only [Mux.enqueueData, ReaderPhase.sending] using hbal
    · intro x hx
      simp [Mux.enqueueData, ReaderPhase.sending, Ne.symm hx]
    · simp only [Mux.enqueueData, hreader, ReaderPhase.uncounted]
      omega
  | counted =>
    rw [Mux.enqueueData, if_neg (by rintro hgone; rw [hgone] at hatt; cases hatt)]
    refine h.reader hlt rfl rfl rfl rfl ?_ (fun x _ => Nat.zero_le _) ?_ ?_ (Nat.zero_le _)
    · simp only [MuxState.setReader, ReaderPhase.sending, if_true, RecvSide.unread, sum_append, sum_singleton]
        at hbal ⊢
      omega
    · simp only [MuxState.setReader, MuxState.setRecv, hreader, ReaderPhase.uncounted]
      omega
    · refine ⟨fun c hc => ?_, (h.framed g).2⟩
      rcases mem_append.mp hc with hc | hc
      · exact (h.framed g).1 c hc
      · rw [mem_singleton.mp hc]
        exact hlen

lemma life_closePeer (s : MuxState) (id g : Nat) : ((s.closePeer id).handle g).life = (s.handle g).life := by
  rw [MuxState.closePeer]
  split
  · rfl
  · rename_i slot _
    exact forall_update (v := { s.handle slot.gen with peerGone := true })
      (p := fun g h => h.life = (s.handle g).life) rfl (fun _ _ => rfl) g

lemma recv_closePeer (s : MuxState) (id : Nat) : (s.closePeer id).recv = s.recv ∧ (s.closePeer id).aggregate = s.aggregate := by
  rw [MuxState.closePeer]
  split
  · exact ⟨rfl, rfl⟩
  · exact ⟨rfl, rfl⟩

lemma FlowInv.grantSendCredit (h : FlowInv s) {g add : Nat} {stage : WindowStage} (hreader : s.reader = .window g add stage) :
    FlowInv (grantSendCredit s g add stage) := by
  have hbefore : s.reader.uncounted = 0 := by
    rw [hreader]
    rfl
  cases stage with
  | load | cas cur =>
    rw [Mux.grantSendCredit]
    split
    all_goals exact h.of_same rfl rfl (fun _ => rfl) rfl hbefore (fun _ => rfl) (Nat.zero_le _)
  | grant take => exact h.of_same rfl rfl (fun _ => rfl) rfl hbefore (fun _ => rfl) (Nat.zero_le _)

lemma payloadLen_of_same (h : FlowInv s) (hr : r = s.reader ∨ r = .idle) : r.payloadLen ≤ maxFramePayload := by
  rcases hr with rfl | rfl
  · exact h.payload
  · exact Nat.zero_le _

lemma not_ended_of_insert (hlife : announced = true ∧ life = .live ∨ life = .opening) : life.ended = false := by
  rcases hlife with ⟨-, rfl⟩ | rfl
  · rfl
  · rfl

theorem FlowInv.step (h : FlowInv s) (hmap : MapInv s) {a : MuxStep} (hs : muxStep s a = some s') : FlowInv s' := by
  cases muxMove_of_step hs with
  | owner g a hlt hs => exact h.owner hlt (ownerFlow_of_step h hmap hs)
  | writer a hs =>
    obtain ⟨hsame, -⟩ := writerMove_of_step hs
    refine ⟨fun g => ?_, ?_, ?_, ?_, hsame.reader ▸ h.payload⟩
    · rw [MuxState.Balanced, MuxState.unread, hsame.recv, hsame.handle, hsame.reader]
      exact h.balance g
    · simp only [MuxState.counted, hsame.recv, hsame.handle, hsame.reader, hsame.nextGen, hsame.aggregate]
      exact h.covered
    · rw [hsame.recv, hsame.handle]
      exact h.idle
    · rw [hsame.recv]
      exact h.framed
  | reader r n hlock hquiet hlen =>
    exact h.of_same rfl rfl (fun _ => rfl) rfl (uncounted_of_not_mapLocked hlock) (sending_of_quiet hquiet)
      (hlen.trans (max_le h.payload (Nat.le_refl _)))
  | deferred l r hlock hquiet hlen _ =>
    exact h.of_same rfl rfl (fun _ => rfl) rfl (uncounted_of_not_mapLocked hlock) (sending_of_quiet hquiet)
      (hlen ▸ Nat.zero_le _)
  | insert id announced life n hlock hlife hins r hr =>
    have hinserted := inserted_of_insertStream hins
    have ht := h.inserted hlock (not_ended_of_insert hlife) hinserted
    refine ht.of_same rfl rfl (fun _ => rfl) rfl ?_ (sending_of_quiet (quiet_of_same hlock hr)) (payloadLen_of_same h hr)
    rw [hinserted.reader]
    exact uncounted_of_not_mapLocked hlock
  | closePeer id r hlock hr =>
    obtain ⟨hrecv, hagg⟩ := recv_closePeer s id
    exact h.of_same (sameSend_closePeer s id).nextGen hrecv (life_closePeer s id) hagg (uncounted_of_not_mapLocked hlock)
      (sending_of_quiet (quiet_of_same hlock hr)) (payloadLen_of_same h hr)
  | lookup id len slot hreader _ =>
    have hpayload := h.payload
    rw [hreader] at hpayload
    exact h.of_same rfl rfl (fun _ => rfl) rfl (by rw [hreader]; rfl) (fun _ => rfl) hpayload
  | enqueue g id len stage _ hreader => exact h.enqueueData hmap hreader
  | window g add stage _ hreader => exact h.grantSendCredit hreader

lemma flowInv_start (idBase : Nat) : FlowInv (.start idBase) where
  balance _ := Nat.zero_le _
  covered := Nat.le_refl _
  idle _ _ := rfl
  framed _ := ⟨nofun, Nat.zero_le _⟩
  payload := Nat.zero_le _

end Bookclerk.Mux
