import Bookclerk.Mux.FlowRun
import Bookclerk.Mux.TableCaps

namespace Bookclerk.Mux

open Bookclerk.System Function Option Finset

variable {s s' : MuxState}

-- The stages of queuing data after its check.
def EnqueueStage.passed : EnqueueStage → Bool
  | .fresh => false
  | .loaded _ => false
  | _ => true

structure UnreadInv (s : MuxState) : Prop where
  stream : ∀ g, s.unread g ≤ maxBufferedPerStream
  total : s.totalUnread ≤ maxAggregateBuffered
  loaded : ∀ g id len cur, s.reader = .enqueue g id len (.loaded cur) → s.unread g ≤ cur
  room : ∀ g id len stage, s.reader = .enqueue g id len stage → stage.passed = true →
    s.unread g + len ≤ maxBufferedPerStream ∧ s.totalUnread + len ≤ maxAggregateBuffered

/-- The counter the reader loads next covers the data in the channels: its stream's counter while the
stream's drop has not cleared it, the aggregate while no drop has. -/
def MuxState.Covers (s : MuxState) : ReaderPhase → Prop
  | .enqueue g _ _ .fresh => (s.handle g).life.forgotten = 0
  | .enqueue _ _ _ (.loaded _) => ∀ g < s.nextGen, (s.handle g).life.uncovered = 0
  | _ => True

instance (s : MuxState) : (r : ReaderPhase) → Decidable (s.Covers r)
  | .enqueue g _ _ .fresh => inferInstanceAs (Decidable ((s.handle g).life.forgotten = 0))
  | .enqueue _ _ _ (.loaded _) => inferInstanceAs (Decidable (∀ g < s.nextGen, (s.handle g).life.uncovered = 0))
  | .enqueue _ _ _ .checked => .isTrue trivial
  | .enqueue _ _ _ .added => .isTrue trivial
  | .enqueue _ _ _ .counted => .isTrue trivial
  | .idle => .isTrue trivial
  | .deferring _ => .isTrue trivial
  | .admitted _ => .isTrue trivial
  | .inserting _ => .isTrue trivial
  | .closing _ => .isTrue trivial
  | .payload _ _ => .isTrue trivial
  | .window _ _ _ => .isTrue trivial
  | .stopped => .isTrue trivial

def LoadsCovered (s : MuxState) (a : MuxStep) : Prop := a = .readerNext → s.Covers s.reader

instance (s : MuxState) (a : MuxStep) : Decidable (LoadsCovered s a) :=
  inferInstanceAs (Decidable (a = .readerNext → s.Covers s.reader))

lemma totalUnread_congr (hgens : s'.nextGen = s.nextGen) (hunread : ∀ g, s'.unread g = s.unread g) : s'.totalUnread = s.totalUnread := by
  simp only [MuxState.totalUnread, hgens, hunread]

section

variable (h : UnreadInv s) (hgens : s'.nextGen = s.nextGen)
include h hgens

lemma UnreadInv.of_same (hunread : ∀ g, s'.unread g = s.unread g)
    (hreader : s'.reader = s.reader ∨ ∀ g id len stage, s'.reader = .enqueue g id len stage → stage = .fresh) : UnreadInv s' := by
  have htotal := totalUnread_congr hgens hunread
  refine ⟨fun g => hunread g ▸ h.stream g, htotal ▸ h.total, fun g id len cur hr => ?_, fun g id len stage hr hstage => ?_⟩
  · rcases hreader with hreader | hreader
    · exact hunread g ▸ h.loaded g id len cur (hreader ▸ hr)
    · cases hreader g id len _ hr
  · rcases hreader with hreader | hreader
    · rw [hunread, htotal]
      exact h.room g id len stage (hreader ▸ hr) hstage
    · cases hreader g id len stage hr
      cases hstage

-- After the check the reader counts the payload in, with the same room.
lemma UnreadInv.of_passed (hunread : ∀ g, s'.unread g = s.unread g)
    {g id len : Nat} {stage stage' : EnqueueStage} (hreader : s.reader = .enqueue g id len stage)
    (hpassed : stage.passed = true) (hreader' : s'.reader = .enqueue g id len stage') (hpassed' : stage'.passed = true) : UnreadInv s' := by
  have htotal := totalUnread_congr hgens hunread
  refine ⟨fun g => hunread g ▸ h.stream g, htotal ▸ h.total, fun g' id' len' cur hr => ?_, fun g' id' len' stage'' hr _ => ?_⟩
  · cases hreader'.symm.trans hr
    cases hpassed'
  · cases hreader'.symm.trans hr
    rw [hunread, htotal]
    exact h.room g id len stage hreader hpassed

-- The payload goes into the channel.
lemma UnreadInv.sent {g len : Nat} (hlt : g < s.nextGen)
    (hold : ∀ x, x ≠ g → s'.unread x = s.unread x) (hnew : s'.unread g = s.unread g + len)
    (hroom : s.unread g + len ≤ maxBufferedPerStream ∧ s.totalUnread + len ≤ maxAggregateBuffered) (hidle : s'.reader = .idle) :
    UnreadInv s' := by
  refine ⟨fun x => ?_, ?_, by simp [hidle], by simp [hidle]⟩
  · by_cases hx : x = g
    · rw [hx, hnew]
      exact hroom.1
    · rw [hold x hx]
      exact h.stream x
  · have hsum := sum_range_of_eq_off hlt hold
    have htotal := hroom.2
    rw [MuxState.totalUnread] at htotal
    rw [MuxState.totalUnread, hgens]
    omega

end

lemma UnreadInv.owner (h : UnreadInv s) {g : Nat} (hflow : OwnerFlow s s' g) : UnreadInv s' := by
  have hold (x : Nat) (hx : x ≠ g) : s'.unread x = s.unread x := by rw [MuxState.unread, MuxState.unread, hflow.recv x hx]
  have hle (x : Nat) : s'.unread x ≤ s.unread x := by
    by_cases hx : x = g
    · exact hx ▸ hflow.unread
    · exact (hold x hx).le
  have htotal : s'.totalUnread ≤ s.totalUnread := by
    rw [MuxState.totalUnread, hflow.nextGen]
    exact sum_le_sum fun x _ => hle x
  refine ⟨fun x => (hle x).trans (h.stream x), htotal.trans h.total, fun x id len cur hr => ?_, fun x id len stage hr hstage => ?_⟩
  · exact (hle x).trans (h.loaded x id len cur (hflow.reader ▸ hr))
  · obtain ⟨hstream, hall⟩ := h.room x id len stage (hflow.reader ▸ hr) hstage
    exact ⟨(Nat.add_le_add_right (hle x) len).trans hstream, (Nat.add_le_add_right htotal len).trans hall⟩

lemma UnreadInv.inserted (h : UnreadInv s) (hlock : s.reader.mapLocked = false) {life : Life} (hins : Inserted s s' life) : UnreadInv s' := by
  have hnew : s'.unread s.nextGen = 0 := by
    rw [MuxState.unread, hins.recv, update_self]
    rfl
  have hold (x : Nat) (hx : x ≠ s.nextGen) : s'.unread x = s.unread x := by
    rw [MuxState.unread, MuxState.unread, hins.recv, update_of_ne hx]
  have hfree := not_enqueue_of_quiet (quiet_of_not_mapLocked hlock)
  refine ⟨fun x => ?_, ?_, fun g id len cur hr => ?_, fun g id len stage hr _ => ?_⟩
  · by_cases hx : x = s.nextGen
    · rw [hx, hnew]
      exact Nat.zero_le _
    · exact hold x hx ▸ h.stream x
  · have hrest : ∑ x ∈ range s.nextGen, s'.unread x = ∑ x ∈ range s.nextGen, s.unread x :=
      sum_congr rfl fun x hx => hold x (mem_range.mp hx).ne
    rw [MuxState.totalUnread, hins.nextGen, sum_range_succ, hrest, hnew]
    exact h.total
  · exact absurd (hins.reader ▸ hr) (hfree g id len _)
  · exact absurd (hins.reader ▸ hr) (hfree g id len stage)

lemma FlowInv.totalUnread_le (h : FlowInv s) (hcovered : ∀ g < s.nextGen, (s.handle g).life.uncovered = 0)
    (hreader : s.reader.uncounted = 0) : s.totalUnread ≤ s.aggregate := by
  have hcov := h.covered
  rw [hreader] at hcov
  refine le_trans (sum_le_sum fun g hg => ?_) hcov
  have hbal := h.balance g
  have hunc := hcovered g (mem_range.mp hg)
  rw [Life.uncovered] at hunc
  rw [MuxState.Balanced] at hbal
  rw [MuxState.counted]
  omega

lemma UnreadInv.enqueueData (h : UnreadInv s) (hflow : FlowInv s) (hmap : MapInv s) {g id len : Nat} {stage : EnqueueStage}
    (hreader : s.reader = .enqueue g id len stage) (hloads : s.Covers s.reader) : UnreadInv (enqueueData s g id len stage) := by
  have hbal := hflow.balance g
  rw [MuxState.Balanced] at hbal
  cases stage with
  | fresh =>
    rw [hreader] at hloads
    refine ⟨h.stream, h.total, fun g' id' len' cur hr => ?_, fun g' id' len' stage hr hstage => ?_⟩
    · cases hr
      change (s.handle g).life.forgotten = 0 at hloads
      change s.unread g ≤ (s.recv g).buffered
      omega
    · cases hr
      cases hstage
  | loaded cur =>
    rw [hreader] at hloads
    have hcur := h.loaded g id len cur hreader
    have htotal := hflow.totalUnread_le hloads (by rw [hreader]; rfl)
    rw [Mux.enqueueData]
    split
    · exact h.of_same rfl (fun _ => rfl) (.inr fun _ _ _ _ hr => by cases hr)
    · rename_i hfits
      rw [not_or, not_lt, not_lt] at hfits
      refine ⟨h.stream, h.total, (fun _ _ _ _ hr => by cases hr), fun g' id' len' stage hr _ => ?_⟩
      cases hr
      exact ⟨(Nat.add_le_add_right hcur len).trans hfits.1, (Nat.add_le_add_right htotal len).trans hfits.2⟩
  | checked =>
    refine h.of_passed rfl (fun x => ?_) hreader rfl rfl rfl
    by_cases hx : x = g
    · subst hx
      simp [Mux.enqueueData, MuxState.unread, MuxState.setReader, MuxState.setRecv, RecvSide.unread]
    · simp [Mux.enqueueData, MuxState.unread, MuxState.setReader, MuxState.setRecv, update_of_ne hx]
  | added => exact h.of_passed rfl (fun x => rfl) hreader rfl rfl rfl
  | counted =>
    obtain ⟨hlt, hatt⟩ := hmap.held g id len _ hreader
    rw [Mux.enqueueData, if_neg (by rintro hgone; rw [hgone] at hatt; cases hatt)]
    refine h.sent rfl hlt (fun x hx => ?_) ?_ (h.room g id len _ hreader rfl) rfl
    · simp [MuxState.unread, MuxState.setReader, MuxState.setRecv, update_of_ne hx]
    · simp [MuxState.unread, MuxState.setReader, MuxState.setRecv, RecvSide.unread, Nat.add_assoc]

lemma UnreadInv.grantSendCredit (h : UnreadInv s) (g add : Nat) (stage : WindowStage) : UnreadInv (grantSendCredit s g add stage) := by
  cases stage with
  | load | cas cur =>
    rw [Mux.grantSendCredit]
    split
    all_goals exact h.of_same rfl (fun _ => rfl) (.inr fun _ _ _ _ hr => by cases hr)
  | grant take => exact h.of_same rfl (fun _ => rfl) (.inr fun _ _ _ _ hr => by cases hr)

lemma fresh_of_quiet {r : ReaderPhase} (hquiet : r.quiet = true) (g id len : Nat) (stage : EnqueueStage)
    (hr : r = .enqueue g id len stage) : stage = .fresh :=
  absurd hr (not_enqueue_of_quiet hquiet g id len stage)

theorem UnreadInv.step (h : UnreadInv s) (hflow : FlowInv s) (hmap : MapInv s) {a : MuxStep} (hloads : LoadsCovered s a)
    (hs : muxStep s a = some s') : UnreadInv s' := by
  cases muxMove_of_step hs with
  | owner g a _ hs => exact h.owner (ownerFlow_of_step hflow hmap hs)
  | writer a hs =>
    obtain ⟨hsame, -⟩ := writerMove_of_step hs
    refine h.of_same hsame.nextGen (fun g => ?_) (.inl hsame.reader)
    rw [MuxState.unread, MuxState.unread, hsame.recv]
  | reader r n _ hquiet _ | deferred l r _ hquiet _ _ => exact h.of_same rfl (fun _ => rfl) (.inr (fresh_of_quiet hquiet))
  | insert id announced life n hlock _ hins r hr =>
    have ht := h.inserted hlock (inserted_of_insertStream hins)
    exact ht.of_same rfl (fun _ => rfl) (.inr (fresh_of_quiet (quiet_of_same hlock hr)))
  | closePeer id r hlock hr =>
    refine h.of_same (sameSend_closePeer s id).nextGen (fun g => ?_) (.inr (fresh_of_quiet (quiet_of_same hlock hr)))
    rw [MuxState.setReader, (recv_closePeer s id).1]
    rfl
  | lookup id len slot _ _ => exact h.of_same rfl (fun _ => rfl) (.inr fun _ _ _ _ hr => by cases hr; rfl)
  | enqueue g id len stage hstep hreader => exact h.enqueueData hflow hmap hreader (hloads hstep)
  | window g add stage _ _ => exact h.grantSendCredit g add stage

structure MuxInv (s : MuxState) : Prop where
  tables : TableInv s
  credit : CreditInv s
  map : MapInv s
  flow : FlowInv s

lemma stable_muxInv : Stable muxStep MuxInv := by
  intro s a s' h hs
  exact ⟨stable_tableInv s a s' h.tables hs, stable_creditInv s a s' h.credit hs, stable_mapInv s a s' h.map hs, h.flow.step h.map hs⟩

lemma muxInv_start (idBase : Nat) : MuxInv (.start idBase) :=
  ⟨tableInv_start idBase, creditInv_start idBase, mapInv_start idBase, flowInv_start idBase⟩

lemma unreadInv_start (idBase : Nat) : UnreadInv (.start idBase) :=
  ⟨fun _ => Nat.zero_le _, Nat.zero_le _, nofun, nofun⟩

structure Capped (s : MuxState) : Prop where
  map : s.tables.map.length ≤ maxLiveStreams
  records : s.tables.records.length ≤ maxLiveStreams
  credits : s.tables.credits.length ≤ maxLiveStreams
  closes : s.tables.closes.length ≤ maxLiveStreams
  deferred : s.tables.deferredOpens.length ≤ maxLiveStreams
  inbound : ∀ g, ∀ payload ∈ (s.recv g).channel, payload ≤ maxFramePayload
  readBuf : ∀ g, (s.recv g).readBuf ≤ maxFramePayload
  outbound : ∀ d ∈ s.dataQueue, d.len ≤ maxFramePayload
  window : ∀ g, (s.send g).sendCredit + (s.send g).inFlight ≤ initialWindow

lemma MuxInv.capped (h : MuxInv s) : Capped s where
  map := h.tables.map
  records := h.tables.book.cap
  credits := h.tables.credits
  closes := h.tables.closes
  deferred := h.tables.deferred
  inbound g := (h.flow.framed g).1
  readBuf g := (h.flow.framed g).2
  outbound := h.credit.queue
  window g := by
    have hwindow := (h.credit.send g).window
    omega

structure UnreadCapped (s : MuxState) : Prop where
  stream : ∀ g, s.unread g ≤ maxBufferedPerStream
  total : s.totalUnread ≤ maxAggregateBuffered

theorem caps_hold (idBase : Nat) (steps : List MuxStep) (hrun : run muxStep (.start idBase) steps = some s) :
    Capped s ∧ (EveryStep muxStep LoadsCovered (.start idBase) steps → UnreadCapped s) := by
  have hinv : MuxInv s := stable_muxInv.run (muxInv_start idBase) hrun
  refine ⟨hinv.capped, fun hloads => ?_⟩
  have hkeep : ∀ s a s', MuxInv s ∧ UnreadInv s → LoadsCovered s a → muxStep s a = some s' → MuxInv s' ∧ UnreadInv s' := by
    intro s a s' h hload hs
    exact ⟨stable_muxInv s a s' h.1 hs, h.2.step h.1.flow h.1.map hload hs⟩
  obtain ⟨-, hunread⟩ := run_of_everyStep hkeep ⟨muxInv_start idBase, unreadInv_start idBase⟩ hloads hrun
  exact ⟨hunread.stream, hunread.total⟩

def fillWindow (id : Nat) : List MuxStep :=
  .frame ⟨maxBufferedPerStream + 5, 2, id, 0⟩ :: List.replicate 6 .readerNext

def fillStream (id : Nat) : List MuxStep :=
  .frame ⟨5, 1, id, 0⟩ :: .readerNext :: fillWindow id

theorem caps_hold_fillStream :
    ∃ s, run muxStep (.start 1) (fillStream 2) = some s ∧ Capped s ∧ UnreadCapped s := by
  obtain ⟨s, hrun⟩ := isSome_iff_exists.mp (by decide +kernel : (run muxStep (.start 1) (fillStream 2)).isSome = true)
  obtain ⟨hcapped, hunread⟩ := caps_hold 1 (fillStream 2) hrun
  exact ⟨s, hrun, hcapped, hunread (by decide +kernel)⟩

theorem drop_refills_window :
    ∃ s, run muxStep (.start 1) (fillStream 2 ++ .owner 0 .drop :: fillWindow 2) = some s ∧ ¬ UnreadCapped s := by
  have hrun : ((run muxStep (.start 1) (fillStream 2 ++ .owner 0 .drop :: fillWindow 2)).any
      fun s => s.unread 0 = 2 * maxBufferedPerStream) = true := by decide +kernel
  obtain ⟨s, hs, hunread⟩ := (any_eq_true ..).mp hrun
  refine ⟨s, hs, fun hcapped => ?_⟩
  have hcap := hcapped.stream 0
  rw [of_decide_eq_true hunread] at hcap
  exact absurd hcap (by decide)

structure Demultiplexed (s : MuxState) : Prop where
  ids : (s.tables.map.map (·.1)).Nodup
  gens : (s.tables.map.map (·.2.gen)).Nodup
  owned : ∀ e ∈ s.tables.map, (s.handle e.2.gen).id = e.1 ∧ (s.handle e.2.gen).life.attached = true
  records : (s.tables.records.map (·.gen)).Nodup
  closes : (s.tables.closes.map (·.gen)).Nodup
  unclosed : ∀ c ∈ s.tables.closes, ∃ r ∈ s.tables.records, r.gen = c.gen ∧ r.closeDone = false

lemma MuxInv.demultiplexed (h : MuxInv s) : Demultiplexed s where
  ids := h.map.keys
  gens := by
    refine List.Nodup.of_map (fun g => (s.handle g).id) ?_
    rw [List.map_map, List.map_congr_left (g := (·.1)) h.map.id]
    exact h.map.keys
  owned e he := ⟨h.map.id e he, h.map.attached e he⟩
  records := h.tables.book.nodup
  closes := (List.nodup_append.mp h.tables.book.once).1
  unclosed c hc := h.tables.book.unclosed c.gen (List.mem_append_left _ (List.mem_map_of_mem hc))

theorem streams_kept_apart (idBase : Nat) (steps : List MuxStep) :
    EveryStep muxStep (fun s a => ∀ s', muxStep s a = some s' → Demultiplexed s') (.start idBase) steps :=
  stable_muxInv.everyStep (fun s a h s' hs => (stable_muxInv s a s' h hs).demultiplexed) (muxInv_start idBase) steps

lemma FlowInv.unread_le (h : FlowInv s) {g : Nat} (hlive : (s.handle g).life.ended = false) : s.unread g ≤ (s.recv g).buffered := by
  have hbalance := h.balance g
  rw [MuxState.Balanced, forgotten_of_not_ended hlive] at hbalance
  omega

structure CountersCover (s : MuxState) : Prop where
  stream : ∀ g, (s.handle g).life.ended = false → s.unread g ≤ (s.recv g).buffered
  total : ∑ g ∈ range s.nextGen with (s.handle g).life.ended = false, s.unread g ≤ s.aggregate + s.reader.uncounted

theorem counters_cover_unread (idBase : Nat) (steps : List MuxStep) :
    EveryStep muxStep (fun s a => ∀ s', muxStep s a = some s' → CountersCover s') (.start idBase) steps := by
  refine stable_muxInv.everyStep (fun s a h s' hs => ?_) (muxInv_start idBase) steps
  have hflow := (stable_muxInv s a s' h hs).flow
  refine ⟨fun g => hflow.unread_le, ?_⟩
  calc ∑ g ∈ range s'.nextGen with (s'.handle g).life.ended = false, s'.unread g
      ≤ ∑ g ∈ range s'.nextGen with (s'.handle g).life.ended = false, s'.counted g := by
        refine sum_le_sum fun g hg => ?_
        have hle := hflow.unread_le (mem_filter.mp hg).2
        rw [MuxState.counted]
        omega
    _ ≤ ∑ g ∈ range s'.nextGen, s'.counted g := sum_le_sum_of_subset (filter_subset _ _)
    _ ≤ s'.aggregate + s'.reader.uncounted := hflow.covered

end Bookclerk.Mux
