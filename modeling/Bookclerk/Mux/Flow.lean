import Bookclerk.Mux.Ledger

namespace Bookclerk.Mux

open List Option Function

variable {s s' : MuxState}

section Owner

variable {g : Nat}

lemma OwnerFlow.of_recv (hgens : s'.nextGen = s.nextGen) (hreader : s'.reader = s.reader) {r : RecvSide}
    (hrecv : s'.recv = Function.update s.recv g r) (hhandle : s'.handle = s.handle)
    (hbal : ∀ k, (s.recv g).unread + (s.recv g).op.taken + k ≤ (s.recv g).buffered + (s.handle g).life.forgotten →
      r.unread + r.op.taken + k ≤ r.buffered + (s.handle g).life.forgotten)
    (hcounted : ∃ n, r.buffered + r.op.unsettled + n = (s.recv g).buffered + (s.recv g).op.unsettled ∧ s.aggregate - n ≤ s'.aggregate)
    (hidle : (s.handle g).life.ended = true → r.op = .idle) (hframed : (s.recv g).Framed → r.Framed)
    (hunread : r.unread ≤ (s.recv g).unread) : OwnerFlow s s' g := by
  obtain ⟨n, hn, hagg⟩ := hcounted
  refine .of_sides hgens hreader hrecv ?_ (hbal _) ⟨n, ?_, hagg⟩ hidle hframed hunread
  · rw [update_eq_self, hhandle]
  · rw [MuxState.counted]
    omega

lemma OwnerFlow.refl (h : FlowInv s) (hgens : s'.nextGen = s.nextGen) (hreader : s'.reader = s.reader) (hrecv : s'.recv = s.recv)
    (hhandle : s'.handle = s.handle) (hagg : s'.aggregate = s.aggregate) : OwnerFlow s s' g := by
  refine .of_recv hgens hreader ?_ hhandle (fun _ hk => hk) ⟨0, rfl, hagg.ge⟩ (h.idle g) (fun hf => hf) (Nat.le_refl _)
  rw [update_eq_self]
  exact hrecv

lemma forgotten_of_not_ended {l : Life} (h : l.ended = false) : l.forgotten = 0 := by
  cases l with
  | opening | live | closing => rfl
  | _ => cases h

lemma ownerFlow_announce (h : announce s g = some s') : OwnerFlow s s' g := by
  obtain ⟨hlife, h⟩ := ite_some h
  cases h
  exact .of_handle rfl rfl rfl rfl rfl (by rw [hlife]; rfl) (by rw [hlife]; rfl) nofun

lemma ownerFlow_pollRead {room : Nat} (h : pollRead s g room = some s') : OwnerFlow s s' g := by
  obtain ⟨⟨hlife, hop⟩, h⟩ := ite_some h
  have hended : (s.handle g).life.ended = true → ∀ n, ReadOp.consumed n = .idle := by
    rw [hlife]
    nofun
  split at h
  · cases h
    refine .of_recv rfl rfl rfl rfl ?_ ⟨0, ?_, Nat.sub_le ..⟩ (fun he => hended he _) ?_ ?_
    · simp only [RecvSide.unread, ReadOp.taken]
      omega
    · rw [hop]
      rfl
    · exact fun hf => ⟨hf.1, (Nat.sub_le ..).trans hf.2⟩
    · simp only [RecvSide.unread]
      omega
  · split at h
    · rename_i chunk rest hchan
      cases h
      refine .of_recv rfl rfl rfl rfl ?_ ⟨0, ?_, Nat.sub_le ..⟩ (fun he => hended he _) ?_ ?_
      · simp only [RecvSide.unread, ReadOp.taken, hchan, sum_cons]
        omega
      · rw [hop]
        rfl
      · intro hf
        have hchunk := hf.1 chunk (hchan ▸ mem_cons_self)
        exact ⟨fun c hc => hf.1 c (hchan ▸ mem_cons_of_mem chunk hc), (Nat.sub_le ..).trans hchunk⟩
      · simp only [RecvSide.unread, hchan, sum_cons]
        omega
    · split at h
      · cases h
      · cases h
        exact .of_handle rfl rfl rfl rfl rfl rfl rfl fun _ => hop

lemma FlowInv.not_ended (hinv : FlowInv s) (hop : (s.recv g).op ≠ .idle) : (s.handle g).life.ended = false := by
  cases hend : (s.handle g).life.ended with
  | false => rfl
  | true => exact absurd (hinv.idle g hend) hop

lemma ownerFlow_noteConsumed (hinv : FlowInv s) (h : noteConsumed s g = some s') : OwnerFlow s s' g := by
  cases hop : (s.recv g).op with
  | idle => simp [noteConsumed, hop] at h
  | consumed n =>
    have hend := hinv.not_ended (by rw [hop]; simp)
    have hbal := hinv.balance g
    rw [MuxState.Balanced, hop, forgotten_of_not_ended hend] at hbal
    simp only [ReadOp.taken] at hbal
    simp only [noteConsumed, hop, some.injEq] at h
    subst h
    refine .of_recv rfl rfl rfl rfl ?_ ⟨0, ?_, Nat.sub_le ..⟩ (by simp [hend]) (fun hf => hf) (Nat.le_refl _)
    · simp only [RecvSide.unread, ReadOp.taken, hop]
      omega
    · simp only [ReadOp.unsettled, hop]
      omega
  | uncounted n =>
    have hend := hinv.not_ended (by rw [hop]; simp)
    simp only [noteConsumed, hop, some.injEq] at h
    subst h
    refine .of_recv rfl rfl rfl rfl ?_ ⟨n, ?_, Nat.le_refl _⟩ (by simp [hend]) (fun hf => hf) (Nat.le_refl _)
    · simp only [hop]
      exact fun _ hk => hk
    · simp only [hop]
      rfl
  | granting n =>
    simp only [noteConsumed, hop, some.injEq] at h
    subst h
    refine .of_recv rfl rfl rfl rfl ?_ ⟨0, ?_, Nat.sub_le ..⟩ (fun _ => rfl) (fun hf => hf) (Nat.le_refl _)
    · simp only [hop]
      exact fun _ hk => hk
    · simp only [ReadOp.unsettled, hop]

lemma ownerFlow_pollWrite (hinv : FlowInv s) {len : Nat} (h : pollWrite s g len = some s') : OwnerFlow s s' g := by
  obtain ⟨-, h⟩ := ite_some h
  split at h
  · cases h
    exact .refl hinv rfl rfl rfl rfl rfl
  · split at h
    all_goals
      cases h
      exact .refl hinv rfl rfl rfl rfl rfl

lemma ownerFlow_pollWriteNext (hinv : FlowInv s) (h : pollWriteNext s g = some s') : OwnerFlow s s' g := by
  simp only [pollWriteNext] at h
  split at h
  · cases h
  · split at h
    all_goals
      cases h
      exact .refl hinv rfl rfl rfl rfl rfl
  all_goals
    cases h
    exact .refl hinv rfl rfl rfl rfl rfl

lemma ownerFlow_pollShutdown (h : pollShutdown s g = some s') : OwnerFlow s s' g := by
  obtain ⟨⟨hlife, -⟩, h⟩ := ite_some h
  split at h
  · cases h
    exact .of_handle rfl rfl rfl rfl rfl (by rw [hlife]; rfl) (by rw [hlife]; rfl) nofun
  · cases h
    exact .of_handle rfl rfl rfl rfl rfl rfl rfl (by simp [hlife, Life.ended])

lemma ownerFlow_pushShutdown (h : pushShutdown s g = some s') : OwnerFlow s s' g := by
  obtain ⟨hlife, h⟩ := ite_some h
  cases h
  exact .of_handle rfl rfl rfl rfl rfl (by rw [hlife]; rfl) (by rw [hlife]; rfl) nofun

lemma ownerFlow_dropStream (h : dropStream s g = some s') : OwnerFlow s s' g := by
  obtain ⟨⟨hlife, hop, -⟩, h⟩ := ite_some h
  have hend : (s.handle g).life.ended = false := by
    rcases hlife with hlife | hlife
    · rw [hlife]
      rfl
    · rw [hlife]
      rfl
  have hset : (s.handle g).life.unsettled = 0 := by
    rcases hlife with hlife | hlife
    · rw [hlife]
      rfl
    · rw [hlife]
      rfl
  cases h
  refine .of_sides rfl rfl rfl rfl ?_ ⟨0, ?_, Nat.sub_le ..⟩ (fun _ => hop) (fun hf => hf) (Nat.le_refl _)
  · simp only [MuxState.Balanced, MuxState.unread, forgotten_of_not_ended hend, RecvSide.unread, forgotten_swapped]
    omega
  · simp only [MuxState.counted, unsettled_swapped]
    omega

lemma sending_of_not_attached (hmap : MapInv s) (hatt : (s.handle g).life.attached = false) : s.reader.sending g = 0 := by
  cases hr : s.reader with
  | enqueue g' id len stage =>
    have hne : g' ≠ g := by
      rintro rfl
      have hheld := (hmap.held g' id len stage hr).2
      rw [hatt] at hheld
      cases hheld
    cases stage with
    | added | counted => exact if_neg hne
    | _ => rfl
  | _ => rfl

lemma ownerFlow_freed (hinv : FlowInv s) (hmap : MapInv s) {left : Nat} (hlife : (s.handle g).life = .dropped left) :
    OwnerFlow s ((s.setRecv g { s.recv g with channel := [], readBuf := 0 }).setLife g .gone) g := by
  have hop := hinv.idle g (by rw [hlife]; rfl)
  have hsending := sending_of_not_attached hmap (by rw [hlife]; rfl)
  refine .of_sides rfl rfl rfl rfl (fun _ => ?_) ⟨0, ?_, Nat.sub_le ..⟩ (fun _ => hop) (fun _ => ⟨nofun, Nat.zero_le _⟩) (Nat.zero_le _)
  · simp [hsending, RecvSide.unread, hop, ReadOp.taken]
  · rw [MuxState.counted, hlife]
    rfl

lemma ownerFlow_dropNext (hinv : FlowInv s) (hmap : MapInv s) (h : dropNext s g = some s') : OwnerFlow s s' g := by
  cases hlife : (s.handle g).life with
  | opening | live | closing | gone => simp [dropNext, hlife] at h
  | swapped left =>
    have hop := hinv.idle g (by rw [hlife]; rfl)
    simp only [dropNext, hlife, some.injEq] at h
    subst h
    refine .of_sides rfl rfl ?_ rfl ?_ ⟨left, ?_, Nat.le_refl _⟩ (fun _ => hop) (fun hf => hf) (Nat.le_refl _)
    · rw [update_eq_self]
      rfl
    · rw [MuxState.Balanced, hlife]
      exact fun hbal => hbal
    · rw [MuxState.counted, hlife]
      rfl
  | writtenOff left =>
    have hop := hinv.idle g (by rw [hlife]; rfl)
    simp only [dropNext, hlife] at h
    split at h
    · cases h
    · cases h
      have hrel := released_of_releaseStream s g left
      obtain ⟨gone, hhandle⟩ := hrel.handle
      exact .of_handle hrel.same.nextGen hrel.same.reader hrel.recv hrel.aggregate hhandle (by rw [hlife]; rfl) (by rw [hlife]; rfl)
        fun _ => hop
  | released left =>
    have hop := hinv.idle g (by rw [hlife]; rfl)
    simp only [dropNext, hlife] at h
    split at h
    all_goals
      split at h
      all_goals
        cases h
        exact .of_handle rfl rfl rfl rfl rfl (by rw [hlife]; rfl) (by rw [hlife]; rfl) fun _ => hop
  | dropClosing left =>
    have hop := hinv.idle g (by rw [hlife]; rfl)
    simp only [dropNext, hlife, some.injEq] at h
    subst h
    exact .of_handle rfl rfl rfl rfl rfl (by rw [hlife]; rfl) (by rw [hlife]; rfl) fun _ => hop
  | dropped left =>
    simp only [dropNext, hlife, some.injEq] at h
    subst h
    exact ownerFlow_freed hinv hmap hlife

lemma ownerFlow_of_step (hinv : FlowInv s) (hmap : MapInv s) {a : OwnerStep} (h : ownerStep s g a = some s') : OwnerFlow s s' g := by
  cases a with
  | announce => exact ownerFlow_announce h
  | read room => exact ownerFlow_pollRead h
  | readNext => exact ownerFlow_noteConsumed hinv h
  | write len => exact ownerFlow_pollWrite hinv h
  | writeNext => exact ownerFlow_pollWriteNext hinv h
  | shutdown => exact ownerFlow_pollShutdown h
  | shutdownNext => exact ownerFlow_pushShutdown h
  | drop => exact ownerFlow_dropStream h
  | dropNext => exact ownerFlow_dropNext hinv hmap h

end Owner

end Bookclerk.Mux
