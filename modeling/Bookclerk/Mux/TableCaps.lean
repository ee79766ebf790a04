import Bookclerk.Mux.Credit

namespace Bookclerk.Mux

open List Function

variable {s s' : MuxState}

-- Whether the stream's Close hold is still to be pushed.
def Handle.closeDue (h : Handle) : Bool :=
  match h.life with
  | .dropped _ => false
  | .gone => false
  | .closing => true
  | .dropClosing _ => true
  | _ => !h.closed

def MuxState.book (s : MuxState) : Book where
  records := s.tables.records
  closing := s.tables.closes.map (·.gen) ++ s.writer.closeMarks
  due g := g < s.nextGen ∧ (s.handle g).closeDue = true
  gens := s.nextGen

-- A stream that was never announced has queued no Close.
def Handle.Sane (h : Handle) : Prop :=
  h.announced = true ∨ h.closed = false ∧ h.life ≠ .live ∧ h.life ≠ .closing ∧ ∀ left, h.life ≠ .dropClosing left

structure Handle.Next (h h' : Handle) : Prop where
  due : h'.closeDue = true → h.closeDue = true
  sane : h.Sane → h'.Sane

lemma Handle.Next.refl (h : Handle) : h.Next h :=
  ⟨fun hdue => hdue, fun hsane => hsane⟩

variable {g : Nat}

lemma next_update {h : Handle} (hnext : (s.handle g).Next h) (x : Nat) : (s.handle x).Next (Function.update s.handle g h x) :=
  forall_update (p := fun x (h : Handle) => (s.handle x).Next h) hnext (fun x _ => .refl (s.handle x)) x

structure TableInv (s : MuxState) : Prop where
  book : BookInv s.book
  map : s.tables.map.length ≤ maxLiveStreams
  credits : s.tables.credits.length ≤ maxLiveStreams
  deferred : s.tables.deferredOpens.length ≤ maxLiveStreams
  sane : ∀ g, (s.handle g).Sane

section

variable (h : TableInv s)
include h

lemma TableInv.closes : s.tables.closes.length ≤ maxLiveStreams := by
  have hlen := h.book.closing_le
  rw [MuxState.book, length_append, length_map] at hlen
  exact (Nat.le_add_right ..).trans hlen

lemma TableInv.of_same (hsame : SameTables s s') : TableInv s' where
  book := by
    have hbook : s'.book = s.book := by
      simp only [MuxState.book, hsame.records, hsame.closes, hsame.closeMarks, hsame.nextGen, hsame.handle]
    exact hbook ▸ h.book
  map := hsame.map ▸ h.map
  credits := hsame.credits ▸ h.credits
  deferred := hsame.deferred ▸ h.deferred
  sane := hsame.handle ▸ h.sane

lemma TableInv.of_handle (hsame : SameSend s s') (hmap : s'.tables.map.length ≤ s.tables.map.length)
    (hrecords : s'.tables.records = s.tables.records) (hcloses : s'.tables.closes = s.tables.closes)
    (hnext : ∀ g, (s.handle g).Next (s'.handle g)) : TableInv s' where
  book := by
    refine h.book.move (.quiet hrecords ?_ ?_ hsame.nextGen)
    · simp only [MuxState.book, hcloses, hsame.writer]
      exact List.Perm.refl _
    · rintro g ⟨hlt, hg⟩
      exact ⟨hsame.nextGen ▸ hlt, (hnext g).due hg⟩
  map := hmap.trans h.map
  credits := hsame.credits ▸ h.credits
  deferred := hsame.deferred ▸ h.deferred
  sane g := (hnext g).sane (h.sane g)

lemma TableInv.queueClose (hlt : g < s.nextGen) (hdue : (s.handle g).closeDue = true)
    {h' : Handle} (hdone : h'.closeDue = false) (hsane : h'.Sane) : TableInv ((s.queueClose g).setHandle g h') where
  book := by
    refine h.book.move (.queue g ⟨hlt, hdue⟩ rfl ?_ ?_ rfl)
    · simp only [MuxState.book, MuxState.setHandle, MuxState.queueClose, Tables.pushClose, map_append,
        append_assoc]
      exact perm_middle
    · rintro x ⟨hx, hxdue⟩
      by_cases hne : x = g
      · subst hne
        simp [MuxState.setHandle, hdone] at hxdue
      · simp only [MuxState.setHandle, update_of_ne hne] at hxdue
        exact ⟨⟨hx, hxdue⟩, hne⟩
  map := h.map
  credits := h.credits
  deferred := h.deferred
  sane := forall_update hsane fun x _ => h.sane x

lemma TableInv.insertStream {id : Nat} {announced : Bool} {life : Life} (hsane : announced = true ∨ life = .opening)
    (hs : s.insertStream id announced life = some s') : TableInv s' := by
  obtain ⟨t, ht, rfl⟩ := Option.map_eq_some_iff.mp hs
  simp only [Tables.tryInsert] at ht
  split at ht
  · cases ht
  rename_i hkey
  split at ht
  · cases ht
  rename_i hroom
  cases ht
  simp only [not_or, not_le] at hkey hroom
  refine ⟨h.book.move (.insert hroom.1 rfl rfl ?_ rfl), hkey.1, ?_, h.deferred, ?_⟩
  · rintro g ⟨hg, hdue⟩
    rcases Nat.lt_succ_iff_lt_or_eq.mp hg with hlt | rfl
    · simp only [update_of_ne hlt.ne] at hdue
      exact .inl ⟨hlt, hdue⟩
    · exact .inr rfl
  · rw [length_append]
    exact hroom.2.1
  · refine forall_update ?_ fun x _ => h.sane x
    rcases hsane with rfl | rfl
    · exact .inl rfl
    · exact .inr ⟨rfl, nofun, nofun, nofun⟩

lemma TableInv.closePeer (id : Nat) : TableInv (s.closePeer id) := by
  have hsame := sameSend_closePeer s id
  rw [MuxState.closePeer] at hsame ⊢
  split at hsame
  · exact h
  · refine h.of_handle hsame (length_map _).le rfl rfl (next_update ?_)
    exact ⟨fun hdue => hdue, fun hsane => hsane⟩

end

lemma Handle.Move.next {h h' : Handle} (hmove : h.Move h') : h.Next h' := by
  cases hmove with
  | announce hlife => exact ⟨by simp [closeDue, hlife], fun _ => .inl rfl⟩
  | eof => exact ⟨fun hdue => hdue, fun hsane => hsane⟩
  | shut hlife hopen | closed hlife hopen =>
    exact ⟨by simp [closeDue, hlife, hopen], fun hsane => .inl (hsane.resolve_right fun hs => hs.2.1 hlife)⟩
  | drop n hlife =>
    refine ⟨?_, fun hsane => hsane.imp_right fun hs => ⟨hs.1, nofun, nofun, nofun⟩⟩
    rcases hlife with hlife | hlife
    all_goals simp [closeDue, hlife]
  | writtenOff left hlife => exact ⟨by simp [closeDue, hlife], fun hsane => hsane.imp_right fun hs => ⟨hs.1, nofun, nofun, nofun⟩⟩
  | dropClosing left hlife hann hopen => exact ⟨by simp [closeDue, hlife, hopen], fun _ => .inl hann⟩
  | dropped left closed hlife hann => exact ⟨by simp [closeDue], fun _ => .inl hann⟩
  | gone left hlife => exact ⟨by simp [closeDue], fun hsane => hsane.imp_right fun hs => ⟨hs.1, nofun, nofun, nofun⟩⟩

section

variable (h : TableInv s)
include h

lemma TableInv.skipClose (hlt : g < s.nextGen) (hdue : (s.handle g).closeDue = true) (left : Nat)
    (hsane : (s.handle g).closed = false) : TableInv { s.setLife g (.dropped left) with tables := s.tables.markBook g false } where
  book := by
    refine h.book.move (.close g rfl (.inl rfl) (h.book.due g ⟨hlt, hdue⟩).1 ?_ rfl)
    rintro x ⟨hx, hxdue⟩
    by_cases hne : x = g
    · subst hne
      simp [MuxState.setLife, MuxState.setHandle, Handle.closeDue] at hxdue
    · simp only [MuxState.setLife, MuxState.setHandle, update_of_ne hne] at hxdue
      exact ⟨⟨hx, hxdue⟩, hne⟩
  map := h.map
  credits := h.credits
  deferred := h.deferred
  sane := by
    refine forall_update ?_ fun x _ => h.sane x
    exact .inr ⟨hsane, by simp, by simp, by simp⟩

lemma TableInv.owner (hlt : g < s.nextGen) (hmove : OwnerMove s g s') : TableInv s' := by
  cases hmove with
  | read _ tables | write tables _ _ => exact h.of_same tables
  | point hmove same map records closes handle =>
    refine h.of_handle same (congrArg length map).le records closes ?_
    exact handle ▸ next_update hmove.next
  | release left hlife _ hrel =>
    obtain ⟨gone, hhandle⟩ := hrel.handle
    refine h.of_handle hrel.same hrel.map.length_le hrel.records hrel.closes ?_
    rw [hhandle]
    refine next_update ⟨?_, fun hsane => hsane.imp_right fun hs => ⟨hs.1, nofun, nofun, nofun⟩⟩
    simp [Handle.closeDue, hlife]
  | queueClose l hlife =>
    rcases hlife with ⟨hlife, rfl⟩ | ⟨left, hlife, rfl⟩
    · have hann := (h.sane g).resolve_right fun hsane => hsane.2.2.1 hlife
      exact h.queueClose hlt (by simp [Handle.closeDue, hlife]) rfl (.inl hann)
    · have hann := (h.sane g).resolve_right fun hsane => hsane.2.2.2 left hlife
      exact h.queueClose hlt (by simp [Handle.closeDue, hlife]) rfl (.inl hann)
  | skipClose left hlife hann =>
    have hclosed := ((h.sane g).resolve_left hann).1
    exact h.skipClose hlt (by simp [Handle.closeDue, hlife, hclosed]) left hclosed

lemma TableInv.enqueueData (g id len : Nat) (stage : EnqueueStage) : TableInv (enqueueData s g id len stage) := by
  cases stage with
  | loaded cur | counted =>
    rw [Mux.enqueueData]
    split
    all_goals exact h.of_same {}
  | _ => exact h.of_same {}

lemma TableInv.grantSendCredit (g add : Nat) (stage : WindowStage) : TableInv (grantSendCredit s g add stage) := by
  cases stage with
  | load | cas cur =>
    rw [Mux.grantSendCredit]
    split
    all_goals exact h.of_same {}
  | grant take => exact h.of_same {}

lemma bookMove_of_writerMove (hsame : SameStreams s s') (hmove : WriterMove s s') : BookMove s.book s'.book := by
  have hdue (g : Nat) (hg : s'.book.due g) : s.book.due g := by
    rw [MuxState.book, hsame.nextGen, hsame.handle] at hg
    exact hg
  cases hmove with
  | quiet same =>
    refine .quiet same.records ?_ hdue hsame.nextGen
    rw [MuxState.book, MuxState.book, same.closes, same.closeMarks]
  | holds records _ closing => exact .quiet records (closing (List.Nodup.of_append_left h.book.once)) hdue hsame.nextGen
  | mark g credit records marks _ closes =>
    cases credit with
    | true =>
      refine .credit g records ?_ hdue hsame.nextGen
      rw [MuxState.book, MuxState.book, closes, (marks : s'.writer.closeMarks = s.writer.closeMarks)]
    | false =>
      have hperm : s.book.closing.Perm (g :: s'.book.closing) := by
        rw [MuxState.book, MuxState.book, closes, (marks : s.writer.closeMarks = g :: s'.writer.closeMarks)]
        exact perm_middle
      have hmem : g ∈ s.book.closing := hperm.mem_iff.mpr mem_cons_self
      refine .close g records (.inr hperm) (nodup_cons.mp (hperm.nodup_iff.mp h.book.once)).1 (fun x hx => ⟨hdue x hx, ?_⟩)
        hsame.nextGen
      rintro rfl
      exact (h.book.due x (hdue x hx)).1 hmem

lemma TableInv.writer (hsame : SameStreams s s') (hmove : WriterMove s s') : TableInv s' where
  book := h.book.move (bookMove_of_writerMove h hsame hmove)
  map := hsame.map ▸ h.map
  credits := by
    cases hmove with
    | quiet same => exact same.credits ▸ h.credits
    | holds _ credits _ => exact credits.trans h.credits
    | mark _ _ _ _ credits _ => exact credits ▸ h.credits
  deferred := hsame.deferred ▸ h.deferred
  sane := hsame.handle ▸ h.sane

end

theorem stable_tableInv : System.Stable muxStep TableInv := by
  intro s a s' h hs
  cases muxMove_of_step hs with
  | owner g a hlt hs => exact h.owner hlt (ownerMove_of_step hs)
  | writer a hs =>
    obtain ⟨hsame, hmove⟩ := writerMove_of_step hs
    exact h.writer hsame hmove
  | reader r n _ _ _ => exact h.of_same {}
  | deferred l r _ _ _ hl => exact ⟨h.book, h.map, h.credits, hl.trans (max_le h.deferred (Nat.le_refl _)), h.sane⟩
  | insert id announced life n _ hlife hins r _ =>
    exact (h.insertStream (hlife.imp_left And.left) hins).of_same {}
  | closePeer id r _ _ => exact (h.closePeer id).of_same {}
  | lookup id len slot _ _ => exact h.of_same {}
  | enqueue g id len stage _ _ => exact h.enqueueData g id len stage
  | window g add stage _ _ => exact h.grantSendCredit g add stage

lemma tableInv_start (idBase : Nat) : TableInv (.start idBase) where
  book := ⟨Nat.zero_le _, nodup_nil, nofun, nodup_nil, nofun, fun g hg => absurd hg.1 (Nat.not_lt_zero g)⟩
  map := Nat.zero_le _
  credits := Nat.zero_le _
  deferred := Nat.zero_le _
  sane _ := .inr ⟨rfl, nofun, nofun, nofun⟩

end Bookclerk.Mux
