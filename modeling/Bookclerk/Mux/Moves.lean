import Mathlib.Order.MinMax
import Mathlib.Order.Nat
import Mathlib.Data.List.Nodup
import Bookclerk.Mux.Tasks

namespace Bookclerk.Mux

open List Option Bool Nat

variable {g : Nat} {s s' : MuxState}

lemma ite_some {α : Type*} {c : Prop} [Decidable c] {a : α} {x : Option α} (h : (if c then x else none) = some a) :
    c ∧ x = some a := by
  by_cases hc : c
  · rw [if_pos hc] at h
    exact ⟨hc, h⟩
  · simp [hc] at h

lemma forall_update {β : Type*} {f : Nat → β} {v : β} {p : Nat → β → Prop} (hv : p g v)
    (hf : ∀ x, x ≠ g → p x (f x)) (x : Nat) : p x (Function.update f g v x) := by
  by_cases hx : x = g
  · subst hx
    simpa using hv
  · simpa [hx] using hf x hx

section

variable (ready : Nat → Bool) (sig : Nat → Signals) (holds : List Hold)
include ready sig holds

lemma perm_takeReadyCloses :
    ((takeReadyCloses ready sig holds).holds.map (·.gen) ++ (takeReadyCloses ready sig holds).finished).Perm (holds.map (·.gen)) := by
  induction holds with
  | nil => exact List.Perm.refl _
  | cons h rest ih =>
    simp only [takeReadyCloses]
    split
    · exact ih.cons h.gen
    · split
      · exact perm_middle.trans (ih.cons h.gen)
      · split
        · exact ih.cons h.gen
        · exact ih.cons h.gen

lemma length_takeCredits_le :
    (takeCredits ready sig holds).holds.length ≤ holds.length := by
  induction holds with
  | nil => exact Nat.le_refl _
  | cons h rest ih =>
    simp only [takeCredits]
    split
    · exact succ_le_succ ih
    · split
      · exact succ_le_succ ih
      · split
        · exact succ_le_succ ih
        · exact ih.trans (le_succ _)

end

@[simp] lemma gens_restoreEmitting (holds : List Hold) (gen : Nat) : (restoreEmitting holds gen).map (·.gen) = holds.map (·.gen) := by
  rw [restoreEmitting, List.map_map]
  apply map_congr_left
  intro h _
  rw [Function.comp_apply]
  split
  · rfl
  · rfl

lemma perm_filter_gen {holds : List Hold} {g : Nat} (hnodup : (holds.map (·.gen)).Nodup) (hg : holds.any (·.gen = g) = true) :
    (holds.map (·.gen)).Perm (g :: (holds.filter fun h => h.gen ≠ g).map (·.gen)) := by
  induction holds with
  | nil => cases hg
  | cons h rest ih =>
    rw [map_cons, nodup_cons] at hnodup
    by_cases hh : h.gen = g
    · have hrest : (rest.filter fun h => h.gen ≠ g) = rest := by
        apply filter_eq_self.mpr
        intro x hx
        rw [decide_eq_true_eq]
        rintro rfl
        exact hnodup.1 (hh ▸ List.mem_map_of_mem hx)
      rw [filter_cons_of_neg (by simpa using hh), hrest, map_cons, hh]
    · have hg : rest.any (·.gen = g) = true := by simpa [hh] using hg
      rw [filter_cons_of_pos (by simpa using hh)]
      exact ((ih hnodup.2 hg).cons h.gen).trans (Perm.swap _ _ _)

structure SameStreams (s s' : MuxState) : Prop where
  nextGen : s'.nextGen = s.nextGen := by rfl
  recv : s'.recv = s.recv := by rfl
  send : s'.send = s.send := by rfl
  handle : s'.handle = s.handle := by rfl
  aggregate : s'.aggregate = s.aggregate := by rfl
  reader : s'.reader = s.reader := by rfl
  map : s'.tables.map = s.tables.map := by rfl
  deferred : s'.tables.deferredOpens = s.tables.deferredOpens := by rfl
  data : ∀ d ∈ s'.dataQueue, d ∈ s.dataQueue := by exact fun _ hd => hd

-- What the caps on the tables rest on.
structure SameTables (s s' : MuxState) : Prop where
  nextGen : s'.nextGen = s.nextGen := by rfl
  handle : s'.handle = s.handle := by rfl
  map : s'.tables.map = s.tables.map := by rfl
  records : s'.tables.records = s.tables.records := by rfl
  credits : s'.tables.credits = s.tables.credits := by rfl
  closes : s'.tables.closes = s.tables.closes := by rfl
  deferred : s'.tables.deferredOpens = s.tables.deferredOpens := by rfl
  closeMarks : s'.writer.closeMarks = s.writer.closeMarks := by rfl

inductive WriterMove (s s' : MuxState) : Prop
  | quiet (same : SameTables s s')
  | holds (records : s'.tables.records = s.tables.records) (credits : s'.tables.credits.length ≤ s.tables.credits.length)
      (closing : (s.tables.closes.map (·.gen)).Nodup → (s'.tables.closes.map (·.gen) ++ s'.writer.closeMarks).Perm
        (s.tables.closes.map (·.gen) ++ s.writer.closeMarks))
  | mark (g : Nat) (credit : Bool) (records : s'.tables.records = markBook s.tables.records g credit)
      (marks : bif credit then s'.writer.closeMarks = s.writer.closeMarks else s.writer.closeMarks = g :: s'.writer.closeMarks)
      (credits : s'.tables.credits = s.tables.credits) (closes : s'.tables.closes = s.tables.closes)

lemma writerMove_wroteClose (s : MuxState) (gen : Nat) (rest : List Nat) :
    SameStreams s (finishEmittingClose { s with writer := { s.writer with ready := rest } } gen) ∧
      WriterMove s (finishEmittingClose { s with writer := { s.writer with ready := rest } } gen) := by
  rw [finishEmittingClose]
  split
  · rename_i hg
    refine ⟨{}, .holds rfl (Nat.le_refl _) fun hnodup => ?_⟩
    have hclosing := (perm_filter_gen hnodup hg).append_right s.writer.closeMarks
    refine Perm.trans ?_ hclosing.symm
    rw [← append_assoc]
    exact perm_append_singleton gen _
  · exact ⟨{}, .quiet {}⟩

lemma writerMove_takeCloses (s : MuxState) : WriterMove s (takeClosesStep s) := by
  refine .holds rfl (Nat.le_refl _) fun _ => ?_
  have hperm := perm_takeReadyCloses s.tables.localPayloadReady s.signals s.tables.closes
  refine (perm_append_comm.append_left _).trans ?_
  rw [← append_assoc]
  exact hperm.append_right s.writer.closeMarks

lemma writerMove_of_step {a : WriterStep} (h : writerStep s a = some s') : SameStreams s s' ∧ WriterMove s s' := by
  unfold writerStep at h
  by_cases hstop : s.writer.stopped
  · simp [hstop] at h
  rw [if_neg hstop] at h
  cases a with
  | takeOpen =>
    simp only at h
    split at h
    · obtain ⟨-, h⟩ := ite_some h
      cases h
      exact ⟨{}, .quiet {}⟩
    · cases h
  | wroteOpen =>
    obtain ⟨o, -, rfl⟩ := map_eq_some_iff.mp h
    exact ⟨{}, .quiet {}⟩
  | takeCredits =>
    cases h
    exact ⟨{}, .holds rfl (length_takeCredits_le ..) fun _ => .refl _⟩
  | checkCredit =>
    simp only at h
    split at h
    · split at h
      · cases h
        exact ⟨{}, .quiet {}⟩
      · cases h
        rw [discardEmittingCredit]
        split
        · exact ⟨{}, .holds rfl (length_filter_le ..) fun _ => .refl _⟩
        · exact ⟨{}, .quiet {}⟩
    · cases h
  | wroteCredit =>
    obtain ⟨c, -, rfl⟩ := map_eq_some_iff.mp h
    rw [finishEmittingCredit]
    split
    · split
      · exact ⟨{}, .holds rfl (length_filter_le ..) fun _ => .refl _⟩
      · exact ⟨{}, .holds rfl (length_map _).le fun _ => .refl _⟩
    · exact ⟨{}, .quiet {}⟩
  | failedCredit =>
    obtain ⟨c, -, rfl⟩ := map_eq_some_iff.mp h
    exact ⟨{}, .holds rfl (length_map _).le fun _ => .refl _⟩
  | takeCloses =>
    cases h
    exact ⟨{}, writerMove_takeCloses s⟩
  | wroteClose =>
    simp only at h
    split at h
    · rename_i gen rest _
      cases h
      exact writerMove_wroteClose s gen rest
    · cases h
  | failedClose =>
    obtain ⟨gen, -, rfl⟩ := map_eq_some_iff.mp h
    refine ⟨{}, .holds rfl (Nat.le_refl _) fun _ => ?_⟩
    simp only [restoreEmittingClose, gens_restoreEmitting]
    exact .refl _
  | takeData =>
    simp only at h
    split at h
    · rename_i d rest _ hq
      cases h
      exact ⟨{ data := fun x hx => hq ▸ mem_cons_of_mem d hx }, .quiet {}⟩
    · cases h
  | wroteData =>
    obtain ⟨d, -, h⟩ := bind_eq_some_iff.mp h
    obtain ⟨-, h⟩ := ite_some h
    cases h
    rw [wroteData]
    split
    · exact ⟨{}, .quiet {}⟩
    · exact ⟨{}, .quiet {}⟩
  | wroteDataClose | failedDataClose =>
    obtain ⟨d, -, rfl⟩ := map_eq_some_iff.mp h
    exact ⟨{}, .quiet {}⟩
  | markCredit =>
    simp only at h
    split at h
    · cases h
      exact ⟨{}, .mark _ true rfl rfl rfl rfl⟩
    · cases h
  | markClose =>
    simp only at h
    split at h
    · rename_i gen rest hmarks
      cases h
      exact ⟨{}, .mark gen false rfl hmarks rfl rfl⟩
    · cases h
  | noteClose =>
    simp only at h
    split at h
    · cases h
      exact ⟨{}, .quiet {}⟩
    · cases h
  | stop =>
    cases h
    exact ⟨{}, .quiet {}⟩

structure SameSend (s s' : MuxState) : Prop where
  nextGen : s'.nextGen = s.nextGen := by rfl
  send : s'.send = s.send := by rfl
  data : s'.dataQueue = s.dataQueue := by rfl
  reader : s'.reader = s.reader := by rfl
  writer : s'.writer = s.writer := by rfl
  credits : s'.tables.credits = s.tables.credits := by rfl
  deferred : s'.tables.deferredOpens = s.tables.deferredOpens := by rfl

lemma sameSend_closePeer (s : MuxState) (id : Nat) : SameSend s (s.closePeer id) := by
  rw [MuxState.closePeer]
  split
  · exact {}
  · exact {}

inductive Handle.Move (h : Handle) : Handle → Prop
  | announce (hlife : h.life = .opening) : h.Move { h with announced := true, life := .live }
  | eof : h.Move { h with readEof := true }
  | shut (hlife : h.life = .live) (hopen : h.closed = false) : h.Move { h with life := .closing }
  | closed (hlife : h.life = .live) (hopen : h.closed = false) : h.Move { h with closed := true }
  | drop (n : Nat) (hlife : h.life = .live ∨ h.life = .opening) : h.Move { h with life := .swapped n }
  | writtenOff (left : Nat) (hlife : h.life = .swapped left) : h.Move { h with life := .writtenOff left }
  | dropClosing (left : Nat) (hlife : h.life = .released left) (hann : h.announced = true) (hopen : h.closed = false) :
      h.Move { h with life := .dropClosing left }
  | dropped (left : Nat) (closed : Bool) (hlife : h.life = .released left) (hann : h.announced = true) :
      h.Move { h with closed, life := .dropped left }
  | gone (left : Nat) (hlife : h.life = .dropped left) : h.Move { h with life := .gone }

lemma Handle.Move.id {h h' : Handle} (hmove : h.Move h') : h'.id = h.id := by
  cases hmove with
  | _ => rfl

structure Released (s : MuxState) (g left : Nat) (s' : MuxState) : Prop where
  same : SameSend s s'
  recv : s'.recv = s.recv
  aggregate : s'.aggregate = s.aggregate
  records : s'.tables.records = s.tables.records
  closes : s'.tables.closes = s.tables.closes
  map : s'.tables.map.Sublist s.tables.map
  slot : ∀ e ∈ s'.tables.map, e.1 = (s.handle g).id → ¬ (s.tables.slot e.1).any (·.gen = g)
  handle : ∃ gone, s'.handle = Function.update s.handle g { s.handle g with peerGone := gone, life := .released left }

lemma released_of_releaseStream (s : MuxState) (g left : Nat) : Released s g left ((s.releaseStream g).setLife g (.released left)) := by
  rw [MuxState.releaseStream]
  split
  · refine ⟨{}, rfl, rfl, rfl, rfl, filter_sublist, fun e he hid => ?_, true, ?_⟩
    · exact absurd hid (of_decide_eq_true (mem_filter.mp he).2)
    · simp [MuxState.setLife, MuxState.setHandle, MuxState.setSignals]
  · rename_i hslot
    exact ⟨{}, rfl, rfl, rfl, rfl, .refl _, fun e _ hid => hid ▸ hslot, (s.handle g).peerGone, rfl⟩

inductive OwnerMove (s : MuxState) (g : Nat) : MuxState → Prop
  | read {s' : MuxState} (same : SameSend s s') (tables : SameTables s s') : OwnerMove s g s'
  | write {s' : MuxState} (tables : SameTables s s') (reader : s'.reader = s.reader)
      (h : (∃ len, pollWrite s g len = some s') ∨ pollWriteNext s g = some s') : OwnerMove s g s'
  | point {s' : MuxState} {h' : Handle} (hmove : (s.handle g).Move h') (same : SameSend s s')
      (map : s'.tables.map = s.tables.map) (records : s'.tables.records = s.tables.records)
      (closes : s'.tables.closes = s.tables.closes) (handle : s'.handle = Function.update s.handle g h') : OwnerMove s g s'
  | release {s' : MuxState} (left : Nat) (hlife : (s.handle g).life = .writtenOff left) (hlock : s.reader.mapLocked = false)
      (h : Released s g left s') : OwnerMove s g s'
  | queueClose (l : Life) (hlife : (s.handle g).life = .closing ∧ l = .live ∨
        ∃ left, (s.handle g).life = .dropClosing left ∧ l = .dropped left) :
      OwnerMove s g ((s.queueClose g).setHandle g { s.handle g with closed := true, life := l })
  | skipClose (left : Nat) (hlife : (s.handle g).life = .released left) (hann : ¬ (s.handle g).announced = true) :
      OwnerMove s g { s.setLife g (.dropped left) with tables := s.tables.markBook g false }

lemma ownerMove_dropNext (hs : dropNext s g = some s') : OwnerMove s g s' := by
  simp only [dropNext] at hs
  split at hs
  · rename_i left hlife
    cases hs
    exact .point (.writtenOff left hlife) {} rfl rfl rfl rfl
  · rename_i left hlife
    split at hs
    · cases hs
    · rename_i hlock
      cases hs
      exact .release left hlife (not_eq_true _ ▸ hlock) (released_of_releaseStream s g left)
  · rename_i left hlife
    split at hs
    · rename_i hopen
      split at hs
      · cases hs
        exact .point (.dropped left true hlife hopen.1) {} rfl rfl rfl rfl
      · cases hs
        exact .point (.dropClosing left hlife hopen.1 hopen.2) {} rfl rfl rfl rfl
    · split at hs
      · rename_i hann
        cases hs
        exact .point (.dropped left _ hlife hann) {} rfl rfl rfl rfl
      · rename_i hann
        cases hs
        exact .skipClose left hlife hann
  · rename_i left hlife
    cases hs
    exact .queueClose _ (.inr ⟨left, hlife, rfl⟩)
  · rename_i left hlife
    cases hs
    exact .point (.gone left hlife) {} rfl rfl rfl rfl
  · cases hs

lemma ownerMove_of_step {a : OwnerStep} (hs : ownerStep s g a = some s') : OwnerMove s g s' := by
  cases a with
  | announce =>
    obtain ⟨hlife, hs⟩ := ite_some hs
    cases hs
    exact .point (.announce hlife) {} rfl rfl rfl rfl
  | read room =>
    obtain ⟨-, hs⟩ := ite_some hs
    split at hs
    · cases hs
      exact .read {} {}
    · split at hs
      · cases hs
        exact .read {} {}
      · split at hs
        · cases hs
        · cases hs
          exact .point .eof {} rfl rfl rfl rfl
  | readNext =>
    simp only [ownerStep, noteConsumed] at hs
    split at hs
    · cases hs
    all_goals
      cases hs
      exact .read {} {}
  | write len =>
    have hwrite : pollWrite s g len = some s' := hs
    obtain ⟨-, hs⟩ := ite_some hs
    split at hs
    · cases hs
      exact .write {} rfl (.inl ⟨len, hwrite⟩)
    · split at hs
      all_goals
        cases hs
        exact .write {} rfl (.inl ⟨len, hwrite⟩)
  | writeNext =>
    have hnext : pollWriteNext s g = some s' := hs
    simp only [ownerStep, pollWriteNext] at hs
    split at hs
    · cases hs
    · split at hs
      all_goals
        cases hs
        exact .write {} rfl (.inr hnext)
    all_goals
      cases hs
      exact .write {} rfl (.inr hnext)
  | shutdown =>
    obtain ⟨⟨hlife, hopen⟩, hs⟩ := ite_some hs
    split at hs
    · cases hs
      exact .point (.shut hlife hopen) {} rfl rfl rfl rfl
    · cases hs
      exact .point (.closed hlife hopen) {} rfl rfl rfl rfl
  | shutdownNext =>
    obtain ⟨hlife, hs⟩ := ite_some hs
    cases hs
    exact .queueClose _ (.inl ⟨hlife, rfl⟩)
  | drop =>
    obtain ⟨⟨hlife, -⟩, hs⟩ := ite_some hs
    cases hs
    exact .point (.drop _ hlife) {} rfl rfl rfl rfl
  | dropNext => exact ownerMove_dropNext hs

def ReaderPhase.quiet : ReaderPhase → Bool
  | .enqueue .. => false
  | .window _ _ .load => true
  | .window .. => false
  | _ => true

def ReaderPhase.payloadLen : ReaderPhase → Nat
  | .payload _ len => len
  | .enqueue _ _ len _ => len
  | _ => 0

variable {r : ReaderPhase}

lemma quiet_of_not_mapLocked (h : r.mapLocked = false) : r.quiet = true := by
  cases r with
  | enqueue | window => cases h
  | _ => rfl

lemma quiet_of_same (hlock : s.reader.mapLocked = false) (hr : r = s.reader ∨ r = .idle) : r.quiet = true := by
  rcases hr with rfl | rfl
  · exact quiet_of_not_mapLocked hlock
  · rfl

inductive MuxMove (s : MuxState) (b : MuxStep) : MuxState → Prop
  | owner {s' : MuxState} (g : Nat) (a : OwnerStep) (hlt : g < s.nextGen) (h : ownerStep s g a = some s') : MuxMove s b s'
  | writer {s' : MuxState} (a : WriterStep) (h : writerStep s a = some s') : MuxMove s b s'
  | reader (r : ReaderPhase) (n : Nat) (hlock : s.reader.mapLocked = false) (hquiet : r.quiet = true)
      (hlen : r.payloadLen ≤ max s.reader.payloadLen maxFramePayload) :
      MuxMove s b { s with reader := r, nextId := n }
  | deferred (l : List Nat) (r : ReaderPhase) (hlock : s.reader.mapLocked = false) (hquiet : r.quiet = true) (hlen : r.payloadLen = 0)
      (hl : l.length ≤ max s.tables.deferredOpens.length maxLiveStreams) :
      MuxMove s b { s with tables := { s.tables with deferredOpens := l }, reader := r }
  | insert {t : MuxState} (id : Nat) (announced : Bool) (life : Life) (n : Nat) (hlock : s.reader.mapLocked = false)
      (hlife : announced = true ∧ life = .live ∨ life = .opening) (h : s.insertStream id announced life = some t)
      (r : ReaderPhase) (hr : r = s.reader ∨ r = .idle) : MuxMove s b { t with nextId := n, reader := r }
  | closePeer (id : Nat) (r : ReaderPhase) (hlock : s.reader.mapLocked = false) (hr : r = s.reader ∨ r = .idle) :
      MuxMove s b ((s.closePeer id).setReader r)
  | lookup (id len : Nat) (slot : Slot) (hreader : s.reader = .payload id len) (hslot : s.tables.slot id = some slot) :
      MuxMove s b (s.setReader (.enqueue slot.gen id len .fresh))
  | enqueue (g id len : Nat) (stage : EnqueueStage) (hstep : b = .readerNext) (hreader : s.reader = .enqueue g id len stage) :
      MuxMove s b (enqueueData s g id len stage)
  | window (g add : Nat) (stage : WindowStage) (hstep : b = .readerNext) (hreader : s.reader = .window g add stage) :
      MuxMove s b (grantSendCredit s g add stage)

lemma MuxMove.setReader {b : MuxStep} (hlock : s.reader.mapLocked = false) (hquiet : r.quiet = true)
    (hlen : r.payloadLen ≤ max s.reader.payloadLen maxFramePayload) : MuxMove s b (s.setReader r) :=
  .reader r s.nextId hlock hquiet hlen

lemma muxMove_openStream {b : MuxStep} (h : openStream s = some s') : MuxMove s b s' := by
  simp only [openStream] at h
  split at h
  · cases h
  · rename_i hlock
    rw [not_eq_true] at hlock
    cases h
    have hins : { s with nextId := wrapAdd s.nextId 2 }.insertStream s.nextId false .opening =
        (s.insertStream s.nextId false .opening).map fun t => { t with nextId := wrapAdd s.nextId 2 } := by
      rw [MuxState.insertStream, MuxState.insertStream, Option.map_map]
      rfl
    rw [hins]
    cases h : s.insertStream s.nextId false .opening with
    | none => exact .reader s.reader _ hlock (quiet_of_not_mapLocked hlock) (le_max_left ..)
    | some t =>
      have hreader : t.reader = s.reader := by
        obtain ⟨_, -, rfl⟩ := map_eq_some_iff.mp h
        rfl
      have hmove := MuxMove.insert (b := b) s.nextId false .opening (wrapAdd s.nextId 2) hlock (.inr rfl) h s.reader (.inl rfl)
      rw [← hreader] at hmove
      exact hmove

lemma readFrame_quiet (s : MuxState) (f : Frame) : (readFrame s f).quiet = true := by
  unfold readFrame
  repeat' split
  all_goals rfl

lemma readFrame_payloadLen (s : MuxState) (f : Frame) : (readFrame s f).payloadLen ≤ maxFramePayload := by
  unfold readFrame
  split
  · exact Nat.zero_le _
  rename_i len hlen
  have hcap : len ≤ maxFramePayload := by
    rw [readHeader] at hlen
    split at hlen
    · cases hlen
    · cases hlen
      omega
  repeat' split
  all_goals first | exact Nat.zero_le _ | exact hcap

lemma muxMove_readerNext (h : readerNext s = some s') : MuxMove s .readerNext s' := by
  cases hreader : s.reader with
  | idle | stopped => simp [readerNext, hreader] at h
  | deferring id =>
    have hlock : s.reader.mapLocked = false := by
      rw [hreader]
      rfl
    simp only [readerNext, hreader] at h
    split at h
    · cases h
      exact .setReader hlock rfl (Nat.zero_le _)
    · rename_i hroom
      cases h
      refine .deferred _ _ hlock rfl rfl (le_max_of_le_right ?_)
      rw [length_append]
      exact Nat.not_le.mp hroom
  | admitted id =>
    have hlock : s.reader.mapLocked = false := by
      rw [hreader]
      rfl
    simp only [readerNext, hreader, some.injEq] at h
    subst h
    split
    · exact .setReader hlock rfl (Nat.zero_le _)
    · exact .setReader hlock rfl (Nat.zero_le _)
  | inserting id =>
    have hlock : s.reader.mapLocked = false := by
      rw [hreader]
      rfl
    simp only [readerNext, hreader, some.injEq] at h
    subst h
    cases h : s.insertStream id true .live with
    | none => exact .setReader hlock rfl (Nat.zero_le _)
    | some t => exact .insert id true .live t.nextId hlock (.inl ⟨rfl, rfl⟩) h .idle (.inr rfl)
  | closing id =>
    have hlock : s.reader.mapLocked = false := by
      rw [hreader]
      rfl
    simp only [readerNext, hreader, some.injEq] at h
    subst h
    exact .closePeer id .idle hlock (.inr rfl)
  | payload id len =>
    have hlock : s.reader.mapLocked = false := by
      rw [hreader]
      rfl
    simp only [readerNext, hreader] at h
    split at h
    · cases h
      exact .setReader hlock rfl (Nat.zero_le _)
    · rename_i slot hslot
      split at h
      · cases h
        exact .setReader hlock rfl (Nat.zero_le _)
      · cases h
        exact .lookup id len slot hreader hslot
  | enqueue g id len stage =>
    simp only [readerNext, hreader, some.injEq] at h
    subst h
    exact .enqueue g id len stage rfl hreader
  | window g add stage =>
    simp only [readerNext, hreader, some.injEq] at h
    subst h
    exact .window g add stage rfl hreader

theorem muxMove_of_step {a : MuxStep} (h : muxStep s a = some s') : MuxMove s a s' := by
  cases a with
  | openStream => exact muxMove_openStream h
  | owner g a => exact .owner g a (ite_some h).1 (ite_some h).2
  | frame f =>
    obtain ⟨hidle, h⟩ := ite_some h
    cases h
    exact .setReader (by rw [hidle]; rfl) (readFrame_quiet s f) (le_max_of_le_right (readFrame_payloadLen s f))
  | admitDeferred =>
    simp only [muxStep, admitDeferredOpens] at h
    split at h
    · rename_i id rest hidle hdeferred
      split at h
      · cases h
      · cases h
        refine .deferred rest (.admitted id) (by rw [hidle]; rfl) rfl rfl (le_max_of_le_left ?_)
        rw [hdeferred]
        exact le_succ _
    · cases h
  | readerNext => exact muxMove_readerNext h
  | stopReader =>
    simp only [muxStep] at h
    split at h
    · cases h
    · rename_i hlock
      cases h
      exact .setReader (not_eq_true _ ▸ hlock) rfl (Nat.zero_le _)
  | closePeer id =>
    simp only [muxStep] at h
    split at h
    · cases h
    · rename_i hlock
      cases h
      have hreader := (sameSend_closePeer s id).reader
      have hmove := MuxMove.closePeer (b := .closePeer id) id s.reader (not_eq_true _ ▸ hlock) (.inl rfl)
      rw [← hreader] at hmove
      exact hmove
  | writer a => exact .writer a h

end Bookclerk.Mux
