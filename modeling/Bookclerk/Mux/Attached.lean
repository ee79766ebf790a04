import Bookclerk.Mux.Moves
import Bookclerk.System.Run

namespace Bookclerk.Mux

open List Function

variable {s s' : MuxState}

def Life.attached : Life → Bool
  | .released _ => false
  | .dropClosing _ => false
  | .dropped _ => false
  | .gone => false
  | _ => true

structure MapInv (s : MuxState) : Prop where
  keys : (s.tables.map.map (·.1)).Nodup
  lt : ∀ e ∈ s.tables.map, e.2.gen < s.nextGen
  id : ∀ e ∈ s.tables.map, (s.handle e.2.gen).id = e.1
  attached : ∀ e ∈ s.tables.map, (s.handle e.2.gen).life.attached = true
  held : ∀ g id len stage, s.reader = .enqueue g id len stage → g < s.nextGen ∧ (s.handle g).life.attached = true

lemma Tables.slot_eq_some {t : Tables} {id : Nat} {slot : Slot} (h : t.slot id = some slot) : (id, slot) ∈ t.map := by
  obtain ⟨e, he, rfl⟩ := Option.map_eq_some_iff.mp h
  have hid := List.find?_some he
  rw [decide_eq_true_eq] at hid
  subst hid
  exact List.mem_of_find?_eq_some he

lemma Tables.slot_of_mem {t : Tables} {e : Nat × Slot} (hkeys : (t.map.map (·.1)).Nodup) (he : e ∈ t.map) : t.slot e.1 = some e.2 := by
  rw [Tables.slot]
  generalize t.map = l at hkeys he
  induction l with
  | nil => cases he
  | cons x rest ih =>
    rw [map_cons, nodup_cons] at hkeys
    rcases mem_cons.mp he with rfl | he
    · simp
    · have hne : x.1 ≠ e.1 := fun hx => hkeys.1 (hx ▸ mem_map_of_mem he)
      rw [List.find?_cons_of_neg (by simpa using hne)]
      exact ih hkeys.2 he

lemma MapInv.of_handle (h : MapInv s) (hmap : s'.tables.map = s.tables.map) (hgens : s'.nextGen = s.nextGen)
    (hreader : s'.reader = s.reader ∨ ∀ g id len stage, s'.reader ≠ .enqueue g id len stage)
    (hhandle : ∀ g, (s'.handle g).id = (s.handle g).id ∧
      ((s.handle g).life.attached = true → (s'.handle g).life.attached = true)) : MapInv s' where
  keys := hmap ▸ h.keys
  lt := by
    rw [hmap, hgens]
    exact h.lt
  id e he := (hhandle e.2.gen).1.trans (h.id e (hmap ▸ he))
  attached e he := (hhandle e.2.gen).2 (h.attached e (hmap ▸ he))
  held g id len stage hr := by
    rcases hreader with hreader | hreader
    · obtain ⟨hlt, hatt⟩ := h.held g id len stage (hreader ▸ hr)
      exact ⟨hgens ▸ hlt, (hhandle g).2 hatt⟩
    · exact absurd hr (hreader g id len stage)

-- A step that leaves the handles alone.
lemma MapInv.of_eq (h : MapInv s) (hmap : s'.tables.map = s.tables.map) (hgens : s'.nextGen = s.nextGen)
    (hreader : s'.reader = s.reader ∨ ∀ g id len stage, s'.reader ≠ .enqueue g id len stage) (hhandle : s'.handle = s.handle) : MapInv s' :=
  h.of_handle hmap hgens hreader fun g => by simp [hhandle]

lemma MapInv.setHandle (h : MapInv s) (hmap : s'.tables.map = s.tables.map) (hgens : s'.nextGen = s.nextGen)
    (hreader : s'.reader = s.reader) {g : Nat} {h' : Handle} (hhandle : s'.handle = Function.update s.handle g h')
    (hid : h'.id = (s.handle g).id) (hatt : (s.handle g).life.attached = true → h'.life.attached = true) : MapInv s' := by
  refine h.of_handle hmap hgens (.inl hreader) fun x => ?_
  rw [hhandle]
  exact forall_update (p := fun x (h' : Handle) => h'.id = (s.handle x).id ∧
    ((s.handle x).life.attached = true → h'.life.attached = true)) ⟨hid, hatt⟩ (fun x _ => ⟨rfl, fun hx => hx⟩) x

lemma not_enqueue_of_quiet {r : ReaderPhase} (h : r.quiet = true) (g id len : Nat) (stage : EnqueueStage) :
    r ≠ .enqueue g id len stage := by
  rintro rfl
  cases h

lemma MapInv.insertStream (h : MapInv s) (hlock : s.reader.mapLocked = false) {id : Nat} {announced : Bool} {life : Life}
    (hlife : life.attached = true) (hs : s.insertStream id announced life = some s') : MapInv s' := by
  obtain ⟨t, ht, rfl⟩ := Option.map_eq_some_iff.mp hs
  simp only [Tables.tryInsert] at ht
  split at ht
  · cases ht
  rename_i hkey
  split at ht
  · cases ht
  cases ht
  have hold (e : Nat × Slot) (he : e ∈ s.tables.map) : e.2.gen ≠ s.nextGen := (h.lt e he).ne
  refine ⟨?_, ?_, ?_, ?_, fun g id len stage hr => absurd hr (not_enqueue_of_quiet (quiet_of_not_mapLocked hlock) g id len stage)⟩
  · rw [map_cons, nodup_cons]
    refine ⟨fun hmem => hkey (.inr ?_), h.keys⟩
    obtain ⟨e, he, hid⟩ := mem_map.mp hmem
    exact any_eq_true.mpr ⟨e, he, decide_eq_true hid⟩
  · intro e he
    rcases mem_cons.mp he with rfl | he
    · exact Nat.lt_succ_self _
    · exact (h.lt e he).trans (Nat.lt_succ_self _)
  · intro e he
    rcases mem_cons.mp he with rfl | he
    · simp
    · simpa [update_of_ne (hold e he)] using h.id e he
  · intro e he
    rcases mem_cons.mp he with rfl | he
    · simpa using hlife
    · simpa [update_of_ne (hold e he)] using h.attached e he

lemma MapInv.closePeer (h : MapInv s) (id : Nat) : MapInv (s.closePeer id) := by
  rw [MuxState.closePeer]
  split
  · exact h
  rename_i slot _
  have hmem {e : Nat × Slot} (he : e ∈ (s.tables.closePeer id).map) : ∃ e' ∈ s.tables.map, e'.1 = e.1 ∧ e'.2.gen = e.2.gen := by
    obtain ⟨e', he', rfl⟩ := mem_map.mp he
    refine ⟨e', he', ?_⟩
    split
    · exact ⟨rfl, rfl⟩
    · exact ⟨rfl, rfl⟩
  have hset : MapInv (s.setHandle slot.gen { s.handle slot.gen with peerGone := true }) :=
    h.setHandle rfl rfl rfl rfl rfl fun hatt => hatt
  refine ⟨?_, ?_, ?_, ?_, hset.held⟩
  · have hkeys : (s.tables.closePeer id).map.map (·.1) = s.tables.map.map (·.1) := by
      rw [Tables.closePeer, map_map]
      apply map_congr_left
      intro e _
      rw [comp_apply]
      split
      · rfl
      · rfl
    exact hkeys ▸ h.keys
  · intro e he
    obtain ⟨e', he', -, hgen⟩ := hmem he
    exact hgen ▸ h.lt e' he'
  · intro e he
    obtain ⟨e', he', hid, hgen⟩ := hmem he
    exact hgen ▸ hid ▸ hset.id e' he'
  · intro e he
    obtain ⟨e', he', -, hgen⟩ := hmem he
    exact hgen ▸ hset.attached e' he'

lemma Handle.Move.attached {h h' : Handle} (hmove : h.Move h') (hatt : h.life.attached = true) : h'.life.attached = true := by
  cases hmove with
  | eof | closed => exact hatt
  | dropClosing left hlife | dropped left _ hlife | gone left hlife =>
    rw [hlife] at hatt
    cases hatt
  | _ => rfl

lemma MapInv.release (h : MapInv s) (hlock : s.reader.mapLocked = false) {g left : Nat} (hrel : Released s g left s') : MapInv s' := by
  obtain ⟨gone, hhandle⟩ := hrel.handle
  have hne : ∀ e ∈ s'.tables.map, e.2.gen ≠ g := by
    rintro e he rfl
    have hid := h.id e (hrel.map.subset he)
    have hslot := Tables.slot_of_mem h.keys (hrel.map.subset he)
    exact hrel.slot e he hid.symm (by simp [hslot])
  have hold (e : Nat × Slot) (he : e ∈ s'.tables.map) : s'.handle e.2.gen = s.handle e.2.gen := by
    rw [hhandle, update_of_ne (hne e he)]
  refine ⟨(hrel.map.map _).nodup h.keys, fun e he => ?_, fun e he => ?_, fun e he => ?_, fun x id len stage hr => ?_⟩
  · exact hrel.same.nextGen ▸ h.lt e (hrel.map.subset he)
  · rw [hold e he]
    exact h.id e (hrel.map.subset he)
  · rw [hold e he]
    exact h.attached e (hrel.map.subset he)
  · exact absurd (hrel.same.reader ▸ hr) (not_enqueue_of_quiet (quiet_of_not_mapLocked hlock) x id len stage)

lemma MapInv.owner (h : MapInv s) {g : Nat} (hmove : OwnerMove s g s') : MapInv s' := by
  cases hmove with
  | read same tables => exact h.of_eq tables.map tables.nextGen (.inl same.reader) tables.handle
  | write tables reader _ => exact h.of_eq tables.map tables.nextGen (.inl reader) tables.handle
  | point hmove same map _ _ handle => exact h.setHandle map same.nextGen same.reader handle hmove.id hmove.attached
  | release left _ hlock hrel => exact h.release hlock hrel
  | queueClose l hlife =>
    refine h.setHandle rfl rfl rfl rfl rfl fun hatt => ?_
    rcases hlife with ⟨-, rfl⟩ | ⟨left, hlife, -⟩
    · rfl
    · rw [hlife] at hatt
      cases hatt
  | skipClose left hlife _ =>
    refine h.setHandle rfl rfl rfl rfl rfl fun hatt => ?_
    rw [hlife] at hatt
    cases hatt

lemma MapInv.setReader (h : MapInv s) {r : ReaderPhase} (hr : ∀ g id len stage, r ≠ .enqueue g id len stage) : MapInv (s.setReader r) :=
  h.of_eq rfl rfl (.inr hr) rfl

lemma MapInv.stage (h : MapInv s) {g id len : Nat} {stage stage' : EnqueueStage} (hreader : s.reader = .enqueue g id len stage)
    (hmap : s'.tables.map = s.tables.map) (hgens : s'.nextGen = s.nextGen) (hhandle : s'.handle = s.handle)
    (hreader' : s'.reader = .enqueue g id len stage') : MapInv s' where
  keys := hmap ▸ h.keys
  lt := by
    rw [hmap, hgens]
    exact h.lt
  id := by
    rw [hmap, hhandle]
    exact h.id
  attached := by
    rw [hmap, hhandle]
    exact h.attached
  held g' id' len' stage'' hr := by
    cases hreader'.symm.trans hr
    rw [hgens, hhandle]
    exact h.held g id len stage hreader

lemma MapInv.enqueueData (h : MapInv s) {g id len : Nat} {stage : EnqueueStage} (hreader : s.reader = .enqueue g id len stage) :
    MapInv (enqueueData s g id len stage) := by
  cases stage with
  | loaded cur =>
    rw [Mux.enqueueData]
    split
    · exact h.setReader nofun
    · exact h.stage hreader rfl rfl rfl rfl
  | counted =>
    rw [Mux.enqueueData]
    split
    all_goals exact h.of_eq rfl rfl (.inr nofun) rfl
  | _ => exact h.stage hreader rfl rfl rfl rfl

lemma MapInv.grantSendCredit (h : MapInv s) (g add : Nat) (stage : WindowStage) : MapInv (grantSendCredit s g add stage) := by
  cases stage with
  | load | cas cur =>
    rw [Mux.grantSendCredit]
    split
    all_goals exact h.of_eq rfl rfl (.inr nofun) rfl
  | grant take => exact h.of_eq rfl rfl (.inr nofun) rfl

theorem stable_mapInv : System.Stable muxStep MapInv := by
  intro s a s' h hs
  cases muxMove_of_step hs with
  | owner g a _ hs => exact h.owner (ownerMove_of_step hs)
  | writer a hs =>
    obtain ⟨hsame, -⟩ := writerMove_of_step hs
    exact h.of_eq hsame.map hsame.nextGen (.inl hsame.reader) hsame.handle
  | reader r n _ hquiet _ | deferred l r _ hquiet _ _ => exact h.of_eq rfl rfl (.inr (not_enqueue_of_quiet hquiet)) rfl
  | insert id announced life n hlock hlife hins r hr =>
    have hatt : life.attached = true := by
      rcases hlife with ⟨-, rfl⟩ | rfl
      · rfl
      · rfl
    exact (h.insertStream hlock hatt hins).of_eq rfl rfl (.inr (not_enqueue_of_quiet (quiet_of_same hlock hr))) rfl
  | closePeer id r hlock hr => exact (h.closePeer id).setReader (not_enqueue_of_quiet (quiet_of_same hlock hr))
  | lookup id len slot _ hslot =>
    have hmem := Tables.slot_eq_some hslot
    refine ⟨h.keys, h.lt, h.id, h.attached, fun g id' len' stage hr => ?_⟩
    cases hr
    exact ⟨h.lt _ hmem, h.attached _ hmem⟩
  | enqueue g id len stage _ hreader => exact h.enqueueData hreader
  | window g add stage _ _ => exact h.grantSendCredit g add stage

lemma mapInv_start (idBase : Nat) : MapInv (.start idBase) :=
  ⟨nodup_nil, nofun, nofun, nofun, nofun⟩

end Bookclerk.Mux
