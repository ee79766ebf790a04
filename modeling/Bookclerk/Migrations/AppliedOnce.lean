import Bookclerk.Migrations.Plugin

namespace Bookclerk.Migrations

open Str Bookclerk.System List Option

variable {move : Move} {ordinal : Nat} {phase phase' : Phase} {migration : ProvenPluginMigration} {request : Request}

variable {δ : Type} (w : Setting δ)

def Expects (journal : List PluginJournalEntry) (request : Request) : Prop :=
  (w.registered request.host).migrations[request.ordinal]? = some request.migration ∧
    (entriesFrom 0 (w.registered request.host).migrations).take request.ordinal <+: journal

def Applied (m : Shared δ) (ms : List ProvenPluginMigration) : Prop :=
  m.binding.journal = entriesFrom 0 ms ∧ m.transactions = transactionsFrom 0 ms ∧ (ms.map ProvenPluginMigration.id).Nodup

structure MemoryInv (m : Shared δ) : Prop where
  applied : ∃ ms, Applied m ms
  requests : ∀ request ∈ m.requests, Expects w m.binding.journal request

def Knows (host : Nat) (m : Shared δ) : Phase → Prop
  | .loading | .failed => True
  | .attempt _ ordinal migration | .recheck _ ordinal migration _ => (w.registered host).migrations[ordinal]? = some migration
  | .sending _ ordinal migration => Expects w m.binding.journal ⟨host, ordinal, migration⟩
  | .done history => history = entriesFrom 0 (w.registered host).migrations ∧ history <+: m.binding.journal

def Rely (m m' : Shared δ) : Prop :=
  m.binding.journal <+: m'.binding.journal

variable {w} {m m' : Shared δ} {host : Nat}

lemma Expects.mono {journal journal' : List PluginJournalEntry} (h : Expects w journal request)
    (hgrow : journal <+: journal') : Expects w journal' request :=
  ⟨h.1, h.2.trans hgrow⟩

lemma Knows.stable (hrely : Rely m m') (h : Knows w host m phase) : Knows w host m' phase := by
  cases phase with
  | loading | failed => trivial
  | attempt k ordinal migration | recheck k ordinal migration retryable => exact h
  | sending k ordinal migration => exact Expects.mono h hrely
  | done history => exact ⟨h.1, h.2.trans hrely⟩

lemma Applied.commit {ms : List ProvenPluginMigration} (h : Applied m ms) (hexpects : Expects w m.binding.journal request)
    (hcommit : m.commit w request = some m') : Applied m' (ms ++ [request.migration]) ∧ Rely m m' ∧ m'.requests = m.requests := by
  obtain ⟨hjournal, htransactions, hnodup⟩ := h
  obtain ⟨binding, hexecute, rfl⟩ := map_eq_some_iff.mp hcommit
  obtain ⟨happended, hfresh⟩ := journal_of_execute hexecute
  rw [hjournal] at happended hfresh
  have hlength : request.ordinal = ms.length := by
    obtain ⟨hget, hprefix⟩ := hexpects
    have hlt := (List.getElem?_eq_some_iff.mp hget).1
    have hle := hprefix.length_le
    rw [hjournal, length_take, length_entriesFrom, length_entriesFrom, Nat.min_eq_left (Nat.le_of_lt hlt)] at hle
    rcases Nat.lt_or_eq_of_le hle with htaken | heq
    · obtain ⟨e, he, hord⟩ := exists_ordinal (Nat.zero_le request.ordinal) (show request.ordinal < 0 + ms.length by omega)
      exact absurd hord (hfresh e he).1
    · exact heq
  have hid : request.migration.id ∉ ms.map ProvenPluginMigration.id := by
    intro hmem
    obtain ⟨m₀, hm₀, hsame⟩ := List.mem_map.mp hmem
    obtain ⟨e, he, heid⟩ := id_of_mem hm₀
    exact (hfresh e he).2 (heid.trans hsame)
  refine ⟨⟨?_, ?_, ?_⟩, ?_, rfl⟩
  · rw [entriesFrom_concat, Nat.zero_add, ← hlength]
    exact happended
  · rw [transactionsFrom_concat, Nat.zero_add, ← hlength, ← htransactions]
  · rw [map_append, map_singleton]
    exact nodup_append.mpr ⟨hnodup, nodup_singleton _, fun a ha b hb hab => by
      rw [mem_singleton] at hb
      exact hid (hb ▸ hab ▸ ha)⟩
  · change m.binding.journal <+: binding.journal
    rw [happended, hjournal]
    exact prefix_append _ _

lemma MemoryInv.commit (hm : MemoryInv w m) (hexpects : Expects w m.binding.journal request)
    (hcommit : m.commit w request = some m') : MemoryInv w m' ∧ Rely m m' := by
  obtain ⟨ms, happlied⟩ := hm.applied
  obtain ⟨happlied', hrely, hrequests⟩ := happlied.commit hexpects hcommit
  refine ⟨⟨⟨_, happlied'⟩, fun r hr => ?_⟩, hrely⟩
  rw [hrequests] at hr
  exact (hm.requests r hr).mono hrely

section Reads

lemma MemoryInv.load (hm : MemoryInv w m) {history : List PluginJournalEntry}
    (h : loadPluginMigrationHistory m.binding.journal = .ok history) : history = m.binding.journal := by
  obtain ⟨ms, hjournal, -, -⟩ := hm.applied
  rw [hjournal] at h ⊢
  exact load_entries h

lemma knows_afterLoad : Knows w host m (afterLoad w host m.binding.journal) := by
  unfold afterLoad
  cases hnext : nextPendingPluginMigration m.binding.journal (w.registered host) with
  | error e => trivial
  | ok next =>
    cases next with
    | none => exact ⟨history_eq_of_none hnext, prefix_rfl⟩
    | some p =>
      obtain ⟨ordinal, migration⟩ := p
      obtain ⟨-, heq⟩ := nextPending_ok hnext
      obtain ⟨migration', hget, hpair⟩ := map_eq_some_iff.mp heq.symm
      obtain ⟨rfl, rfl⟩ := Prod.mk.inj hpair
      exact hget

lemma knows_afterRead {unchanged : Phase}
    (h : (m.binding.journal <+: entriesFrom 0 (w.registered host).migrations) → m.binding.journal.length = ordinal → Knows w host m unchanged) :
    Knows w host m (afterRead w host ordinal migration m.binding.journal unchanged) := by
  unfold afterRead
  by_cases hentry : pluginJournalHasEntry m.binding.journal ordinal migration.id migration.checksum = true
  · rw [if_pos hentry]
    trivial
  · rw [if_neg hentry]
    cases hprefix : requireHistoryPrefix m.binding.journal (w.registered host) with
    | error e => trivial
    | ok u =>
      split_ifs with hlength
      · trivial
      · exact h (requireHistoryPrefix_ok hprefix) (not_not.mp hlength)

lemma knows_retryOrFail {k : Nat} {retryable : Bool}
    (h : (w.registered host).migrations[ordinal]? = some migration) : Knows w host m (retryOrFail k ordinal migration retryable) := by
  unfold retryOrFail
  split_ifs
  · exact h
  · trivial

end Reads

def Sound (w : Setting δ) (host : Nat) (m m' : Shared δ) (phase : Phase) : Prop :=
  MemoryInv w m' ∧ Knows w host m' phase ∧ ∀ other, other ≠ host → Rely m m'

lemma Sound.quiet (hm : MemoryInv w m) (h : Knows w host m phase) : Sound w host m m phase :=
  ⟨hm, h, fun _ _ => prefix_rfl⟩

lemma sound_read (failure : Phase) (next : List PluginJournalEntry → Phase) (hm : MemoryInv w m) (hfailure : Knows w host m failure)
    (hnext : Knows w host m (next m.binding.journal))
    (hstep : (match loadPluginMigrationHistory m.binding.journal with
      | .error _ => some (m, failure)
      | .ok history => some (m, next history)) = some (m', phase')) : Sound w host m m' phase' := by
  cases hload : loadPluginMigrationHistory m.binding.journal with
  | error e =>
    rw [hload] at hstep
    cases hstep
    exact Sound.quiet hm hfailure
  | ok history =>
    rw [hload] at hstep
    cases hstep
    obtain rfl := hm.load hload
    exact Sound.quiet hm hnext

lemma sound_arrives {i : Nat} (hm : MemoryInv w m) (h : Knows w host m phase)
    (hrequest : m.requests[i]? = some request) :
    let rest := { m with requests := m.requests.eraseIdx i }
    Sound w host m ((rest.commit w request).getD rest) phase := by
  intro rest
  have hrest : MemoryInv w rest := ⟨hm.applied, fun r hr => hm.requests r (mem_of_mem_eraseIdx hr)⟩
  have hsame : Rely m rest := prefix_rfl
  cases hcommit : rest.commit w request with
  | none => exact ⟨hrest, h.stable hsame, fun _ _ => hsame⟩
  | some m' =>
    obtain ⟨hm', hrely⟩ := hrest.commit (hm.requests request (mem_of_getElem? hrequest)) hcommit
    have hrely' : Rely m m' := hrely
    exact ⟨hm', h.stable hrely', fun _ _ => hrely'⟩

lemma sound_sending {k : Nat} (hm : MemoryInv w m)
    (h : Knows w host m (.sending k ordinal migration)) (hmove : ∀ i, move ≠ .arrives i)
    (hstep : applyPluginMigrations w host m (.sending k ordinal migration) move = some (m', phase')) : Sound w host m m' phase' := by
  cases move with
  | arrives i => exact absurd rfl (hmove i)
  | sendFails retryable =>
    cases hstep
    exact Sound.quiet hm h.1
  | answered retryable =>
    unfold applyPluginMigrations at hstep
    cases hcommit : m.commit w ⟨host, ordinal, migration⟩ with
    | none =>
      simp only [hcommit] at hstep
      cases hstep
      exact Sound.quiet hm h.1
    | some m₁ =>
      simp only [hcommit] at hstep
      cases hstep
      obtain ⟨hm', hrely⟩ := hm.commit h hcommit
      exact ⟨hm', trivial, fun _ _ => hrely⟩
  | givenUp retryable =>
    cases hstep
    refine ⟨⟨hm.applied, ?_⟩, h.1, fun _ _ => prefix_rfl⟩
    exact forall_mem_cons.mpr ⟨h, hm.requests⟩
  | crash =>
    cases hstep
    exact Sound.quiet hm trivial
  | read | readFails => cases hstep

theorem sound_step (hm : MemoryInv w m) (h : Knows w host m phase)
    (hstep : applyPluginMigrations w host m phase move = some (m', phase')) : Sound w host m m' phase' := by
  by_cases harrives : ∃ i, move = .arrives i
  · obtain ⟨i, rfl⟩ := harrives
    obtain ⟨request, hrequest, heq⟩ := map_eq_some_iff.mp hstep
    obtain ⟨rfl, rfl⟩ := Prod.mk.inj heq
    exact sound_arrives hm h hrequest
  have hmove : ∀ i, move ≠ .arrives i := fun i hi => harrives ⟨i, hi⟩
  cases phase with
  | loading =>
    cases move with
    | arrives i => exact absurd rfl (hmove i)
    | read => exact sound_read .failed (afterLoad w host) hm trivial knows_afterLoad hstep
    | readFails | crash =>
      cases hstep
      exact Sound.quiet hm trivial
    | _ => cases hstep
  | attempt k ordinal migration =>
    cases move with
    | arrives i => exact absurd rfl (hmove i)
    | read =>
      refine sound_read .failed (afterRead w host ordinal migration · (.sending k ordinal migration)) hm trivial
        (knows_afterRead fun hprefix hlength => ⟨h, ?_⟩) hstep
      obtain ⟨tail, htail⟩ := hprefix
      rw [← htail, ← hlength]
      exact ⟨[], by rw [append_nil, take_left]⟩
    | readFails | crash =>
      cases hstep
      exact Sound.quiet hm trivial
    | _ => cases hstep
  | sending k ordinal migration => exact sound_sending hm h hmove hstep
  | recheck k ordinal migration retryable =>
    cases move with
    | arrives i => exact absurd rfl (hmove i)
    | read =>
      exact sound_read (retryOrFail k ordinal migration retryable)
        (afterRead w host ordinal migration · (retryOrFail k ordinal migration retryable)) hm (knows_retryOrFail h)
        (knows_afterRead fun _ _ => knows_retryOrFail h) hstep
    | readFails =>
      cases hstep
      exact Sound.quiet hm (knows_retryOrFail h)
    | crash =>
      cases hstep
      exact Sound.quiet hm trivial
    | _ => cases hstep
  | done history | failed =>
    cases move with
    | arrives i => exact absurd rfl (hmove i)
    | _ => cases hstep

structure AppliedOnce (w : Setting δ) (s : State δ) : Prop where
  journal : ∃ ms, Applied s.shared ms
  returned : ∀ host history, s.phase host = .done history → history = entriesFrom 0 (w.registered host).migrations ∧ history <+: s.shared.binding.journal

lemma stable_inv (w : Setting δ) : Stable (step w) (Known (MemoryInv w) (Knows w)) :=
  stable_known (fun _ => Rely) (fun _ _ _ _ _ _ hm h hstep => sound_step hm h hstep) fun _ _ _ _ _ hrely h => h.stable hrely

lemma appliedOnce_of_inv {s : State δ} (h : Known (MemoryInv w) (Knows w) s) : AppliedOnce w s := by
  refine ⟨h.memory.applied, fun host history hphase => ?_⟩
  have hknows := h.thread host
  rw [hphase] at hknows
  exact hknows

lemma initial_inv (w : Setting δ) (slot : Option Nat) (data : δ) : Known (MemoryInv w) (Knows w) (State.initial slot data) :=
  ⟨⟨⟨[], rfl, rfl, nodup_nil⟩, nofun⟩, fun _ => trivial⟩

theorem plugin_migrations_applied_once (w : Setting δ) (slot : Option Nat) (data : δ) (moves : List (Nat × Move)) :
    EveryStep (step w) (fun s a => ∀ s', step w s a = some s' → AppliedOnce w s') (.initial slot data) moves :=
  (stable_inv w).everyStep (fun s a h s' hstep => appliedOnce_of_inv (stable_inv w s a s' h hstep)) (initial_inv w slot data) moves

lemma stable_journal_grows (w : Setting δ) (journal : List PluginJournalEntry) :
    Stable (step w) fun s => Known (MemoryInv w) (Knows w) s ∧ journal <+: s.shared.binding.journal := by
  rintro s a s' ⟨hinv, hgrown⟩ hstep
  refine ⟨stable_inv w s a s' hinv hstep, hgrown.trans ?_⟩
  obtain ⟨m, phase, hact, rfl⟩ := turn_eq_some.mp hstep
  exact (sound_step hinv.memory (hinv.thread a.1) hact).2.2 (a.1 + 1) (Nat.succ_ne_self _)

section Examples

def createNotes : ProvenPluginMigration :=
  ⟨"create-notes".toList, [.schema "CREATE TABLE notes (id INTEGER PRIMARY KEY)".toList], "id:create-notes".toList⟩

def notesSetting : Setting Unit :=
  ⟨fun parts => parts.headD [], fun _ _ => some (), fun _ => ⟨[createNotes], by decide, by decide, by decide⟩⟩

def lostReply : List (Nat × Move) :=
  [(0, .read), (0, .read), (1, .read), (1, .read), (0, .givenUp true), (0, .arrives 0), (1, .answered true), (1, .read), (0, .read), (0, .read),
    (1, .read)]

def bothReturned (s : State Unit) : Bool :=
  match s.phase 0, s.phase 1 with
  | .done _, .done _ => s.shared.transactions.length = 1
  | _, _ => false

example : (run (step notesSetting) (.initial none ()) lostReply).any bothReturned = true := by
  decide

end Examples

end Bookclerk.Migrations
