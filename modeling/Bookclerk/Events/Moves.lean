import Bookclerk.Db.Sessions
import Bookclerk.Events.Outbox

namespace Bookclerk.Events

open Lexical Db Jobs List Option

abbrev OutboxStore (ι : Type) := Store Delivery.key Text Claim ι

abbrev ClaimTxn := Txn Delivery Text Claim

namespace ClaimPhase

def chosen : ClaimPhase → Option Delivery
  | .passed m _ | .locked m _ | .admitted m _ | .done (some m) => some m
  | .sanitize _ | .query _ | .scan _ | .done none => none

def slotted : ClaimPhase → Option Delivery
  | .locked m _ | .admitted m _ | .done (some m) => some m
  | .sanitize _ | .query _ | .scan _ | .passed _ _ | .done none => none

def counted : ClaimPhase → Option Delivery
  | .admitted m _ | .done (some m) => some m
  | .sanitize _ | .query _ | .scan _ | .passed _ _ | .locked _ _ | .done none => none

def claimed : ClaimPhase → Option Delivery
  | .done m => m
  | .sanitize _ | .query _ | .scan _ | .passed _ _ | .locked _ _ | .admitted _ _ => none

def candidates : ClaimPhase → List Delivery
  | .scan page => page.left
  | .passed m page | .locked m page | .admitted m page => m :: page.left
  | .done m => m.toList
  | .sanitize _ | .query _ => []

end ClaimPhase

inductive Advance (rows : List Delivery) (args : ClaimArgs) : ClaimPhase → ClaimPhase → Prop where
  | sanitize (left left' : List Delivery) : Advance rows args (.sanitize left) (.sanitize left')
  | first (left : List Delivery) : Advance rows args (.sanitize left) (.query none)
  | page (cursor : Cursor) : Advance rows args (.query cursor) (afterQuery args cursor rows)
  | next (left : List Delivery) (cursor : Cursor) : Advance rows args (.scan ⟨left, cursor⟩) (.query cursor)
  | checks (m : Delivery) (left : List Delivery) (cursor : Cursor) (catalogMatches : Bool) :
      Advance rows args (.scan ⟨m :: left, cursor⟩) (afterChecks args rows m ⟨left, cursor⟩ catalogMatches)
  | full (m : Delivery) (page : Page) : Advance rows args (.locked m page) (.scan page)
  | underCap (m : Delivery) (page : Page) (room : pluginInFlightAtCap rows m args.maxInFlight = false) :
      Advance rows args (.locked m page) (.admitted m page)
  | miss (m : Delivery) (page : Page) : Advance rows args (.admitted m page) (.scan page)
  | lost (m : Delivery) (page : Page) : Advance rows args (.passed m page) (.scan page)

variable {m : Delivery} {rows : List Delivery} {args : ClaimArgs} {cursor : Cursor}

lemma mem_claimPage (h : m ∈ claimPage args cursor rows) : m ∈ rows ∧ m.resourceClass = network := by
  obtain ⟨hmem, hready⟩ := mem_filter.mp ((mem_insertionSort _).mp (mem_of_mem_take h))
  simp only [claimReady, Bool.and_eq_true, decide_eq_true_eq] at hready
  exact ⟨hmem, hready.1.2⟩

lemma mem_candidates_afterQuery (h : m ∈ (afterQuery args cursor rows).candidates) : m ∈ claimPage args cursor rows := by
  rw [afterQuery] at h
  split at h
  · simp [ClaimPhase.candidates] at h
  · exact h

lemma afterQuery_chosen : (afterQuery args cursor rows).chosen = none ∧ (afterQuery args cursor rows).claimed = none := by
  rw [afterQuery]
  split <;> exact ⟨rfl, rfl⟩

variable {p : ClaimPhase}

lemma ClaimPhase.chosen_of_slotted (h : p.slotted = some m) : p.chosen = some m := by
  rcases p with _ | _ | _ | _ | _ | _ | (_ | _) <;> first | exact h | cases h

lemma ClaimPhase.slotted_of_counted (h : p.counted = some m) : p.slotted = some m := by
  rcases p with _ | _ | _ | _ | _ | _ | (_ | _) <;> first | exact h | cases h

lemma ClaimPhase.counted_of_claimed (h : p.claimed = some m) : p.counted = some m := by
  rcases p with _ | _ | _ | _ | _ | _ | (_ | _) <;> first | exact h | cases h

lemma ClaimPhase.mem_candidates_of_chosen (h : p.chosen = some m) : m ∈ p.candidates := by
  rcases p with _ | _ | _ | _ | _ | _ | (_ | _) <;> first | cases h; exact mem_cons_self | cases h

namespace Advance

variable {rows : List Delivery} {args : ClaimArgs} {p p' : ClaimPhase} {m : Delivery}

section

variable (h : Advance rows args p p')
include h

lemma mem_candidates (hm : m ∈ p'.candidates) : m ∈ p.candidates ∨ (m ∈ rows ∧ m.resourceClass = network) := by
  cases h with
  | sanitize | first | next => cases hm
  | page => exact Or.inr (mem_claimPage (mem_candidates_afterQuery hm))
  | checks n left cursor catalogMatches =>
    rw [afterChecks] at hm
    split_ifs at hm
    · exact Or.inl (mem_cons_of_mem n hm)
    · exact Or.inl hm
  | full | miss | lost => exact Or.inl (mem_cons_of_mem _ hm)
  | underCap => exact Or.inl hm

lemma chosen (hm : p'.chosen = some m) :
    p.chosen = some m ∨ (m ∈ p.candidates ∧ fifoBlocked rows m = false) := by
  cases h with
  | sanitize | first | next | full | miss | lost => cases hm
  | page =>
    rw [afterQuery_chosen.1] at hm
    cases hm
  | checks n left cursor catalogMatches =>
    rw [afterChecks] at hm
    split_ifs at hm with hblocked
    · cases hm
    · cases hm
      simp only [Bool.or_eq_true, not_or, Bool.not_eq_true] at hblocked
      exact Or.inr ⟨mem_cons_self, hblocked.1⟩
  | underCap => exact Or.inl hm

lemma passed {page : Page} (hp' : p' = .passed m page) : fifoBlocked rows m = false := by
  cases h with
  | sanitize | first | next | full | underCap | miss | lost => cases hp'
  | page cursor =>
    have hchosen : (afterQuery args cursor rows).chosen = none := afterQuery_chosen.1
    rw [hp'] at hchosen
    cases hchosen
  | checks n left cursor catalogMatches =>
    rw [afterChecks] at hp'
    split_ifs at hp' with hblocked
    cases hp'
    simp only [Bool.or_eq_true, not_or, Bool.not_eq_true] at hblocked
    exact hblocked.1

lemma slotted (hm : p'.slotted = some m) : p.slotted = some m := by
  cases h with
  | sanitize | first | next | full | miss | lost => cases hm
  | page =>
    have := ClaimPhase.chosen_of_slotted hm
    rw [afterQuery_chosen.1] at this
    cases this
  | checks n left cursor catalogMatches =>
    rw [afterChecks] at hm
    split_ifs at hm <;> cases hm
  | underCap => exact hm

lemma counted (hm : p'.counted = some m) :
    p.counted = some m ∨ (p.slotted = some m ∧ pluginInFlightAtCap rows m args.maxInFlight = false) := by
  have hslot := h.slotted (ClaimPhase.slotted_of_counted hm)
  cases h with
  | sanitize | first | next | full | miss | lost => cases hm
  | page | checks => cases hslot
  | underCap n page room =>
    cases hm
    exact Or.inr ⟨rfl, room⟩

lemma not_claimed : p.claimed = none ∧ p'.claimed = none := by
  cases h with
  | sanitize | first | next | full | miss | lost | underCap => exact ⟨rfl, rfl⟩
  | page => exact ⟨rfl, afterQuery_chosen.2⟩
  | checks n left cursor catalogMatches =>
    rw [afterChecks]
    split_ifs <;> exact ⟨rfl, rfl⟩

end

end Advance

variable {ι : Type}

inductive ClaimMove (s : OutboxStore ι) (i : ι) (x : ClaimTxn) : ClaimTxn → Prop where
  | advance (p : ClaimPhase) (h : Advance (s.table.rows.map (x.view Delivery.key)) x.data.args x.data.phase p) :
      ClaimMove s i x ⟨x.slots, x.writes, x.data.args, p⟩
  | lock (m : Delivery) (page : Page) (phase : x.data.phase = .passed m page)
      (free : ∀ j y, j ≠ i → s.session j = some y → eventInflightSlot m.pluginId m.resourceClass ∉ y.slots) :
      ClaimMove s i x ⟨eventInflightSlot m.pluginId m.resourceClass :: x.slots, x.writes, x.data.args, .locked m page⟩
  | reject (m : Delivery) (left : List Delivery) (r : Delivery) (phase : x.data.phase = .sanitize (m :: left))
      (hr : r ∈ s.table.rows) (pending : (x.view Delivery.key r).state = .pending) :
      ClaimMove s i x
        ⟨x.slots, (rejectUnknownClass m x.data.args.now).set (x.view Delivery.key r) :: x.writes, x.data.args, .sanitize left⟩
  | claim (m : Delivery) (page : Page) (r : Delivery) (owner : Text) (leaseExpires now : Stamp)
      (phase : x.data.phase = .admitted m page) (hr : r ∈ s.table.rows) (id : r.id = m.id)
      (pending : (x.view Delivery.key r).state = .pending) :
      ClaimMove s i x
        ⟨x.slots, (claimDelivery m owner leaseExpires now).set (x.view Delivery.key r) :: x.writes, x.data.args, .done (some m)⟩

lemma ClaimMove.mem_candidates {s : OutboxStore ι} {i : ι} {x x' : ClaimTxn} (h : ClaimMove s i x x')
    (hm : m ∈ x'.data.phase.candidates) : m ∈ x.data.phase.candidates ∨
      x.data.phase.claimed = none ∧ m.resourceClass = network ∧ ∃ r ∈ s.table.rows, x.view Delivery.key r = m := by
  cases h with
  | advance p hp =>
    rcases hp.mem_candidates hm with hm | ⟨hrow, hclass⟩
    · exact Or.inl hm
    · exact Or.inr ⟨hp.not_claimed.1, hclass, List.mem_map.mp hrow⟩
  | lock n page hphase _ =>
    rw [hphase]
    exact Or.inl hm
  | reject => cases hm
  | claim n page r owner leaseExpires now hphase =>
    rw [hphase]
    exact Or.inl (mem_cons.mpr (Or.inl (mem_singleton.mp hm)))

variable [Fintype ι] [DecidableEq ι] {s s' : OutboxStore ι} {i : ι}

omit [Fintype ι] in
lemma setData_eq_some {d : Claim} {x : ClaimTxn} (hx : s.session i = some x) (hs : s.setData i d = some s') :
    s' = s.put i (some ⟨x.slots, x.writes, d⟩) := by
  obtain ⟨y, hy, hs⟩ := bind_eq_some_iff.mp hs
  obtain rfl := mem_unique hx hy
  exact (some.inj hs).symm

lemma claimStep_move {b : Bool} (hs : claimStep s i b = some s') :
    ∃ x x', s.session i = some x ∧ s' = s.put i (some x') ∧ ClaimMove s i x x' := by
  obtain ⟨x, hx, hs⟩ := bind_eq_some_iff.mp hs
  have hadvance : ∀ p, Advance (s.table.rows.map (x.view Delivery.key)) x.data.args x.data.phase p →
      s.setData i ⟨x.data.args, p⟩ = some s' → ∃ x x', s.session i = some x ∧ s' = s.put i (some x') ∧ ClaimMove s i x x' :=
    fun p hp hs => ⟨x, _, hx, setData_eq_some hx hs, .advance p hp⟩
  cases hphase : x.data.phase with
  | sanitize ms =>
    cases ms with
    | nil =>
      simp only [hphase] at hs
      exact hadvance _ (hphase ▸ .first []) hs
    | cons m left =>
      simp only [hphase] at hs
      obtain ⟨y, x', hy, rfl, hslots, -, hcase⟩ := Store.execIn_eq_some hs
      obtain rfl := mem_unique hx hy
      obtain ⟨slots, writes, data⟩ := x'
      rcases hcase with ⟨hdata, hwrites⟩ | ⟨r, hr, -, happ, hdata, hwrites⟩
      · cases hdata
        cases hwrites
        cases hslots
        exact ⟨x, _, hx, rfl, .advance _ (hphase ▸ .sanitize (m :: left) left)⟩
      · cases hdata
        cases hwrites
        cases hslots
        exact ⟨x, _, hx, rfl, .reject m left r hphase hr (by simpa [rejectUnknownClass, updateWhere] using happ)⟩
  | query cursor =>
    simp only [hphase] at hs
    exact hadvance _ (hphase ▸ .page cursor) hs
  | scan page =>
    obtain ⟨ms, cursor⟩ := page
    cases ms with
    | nil =>
      simp only [hphase] at hs
      exact hadvance _ (hphase ▸ .next [] cursor) hs
    | cons m left =>
      simp only [hphase] at hs
      exact hadvance _ (hphase ▸ .checks m left cursor b) hs
  | passed m page =>
    simp only [hphase] at hs
    obtain ⟨y, hy, hs⟩ := bind_eq_some_iff.mp hs
    obtain rfl := mem_unique hx hy
    split_ifs at hs with hlocked
    cases hs
    exact ⟨x, _, hx, rfl, .lock m page hphase fun j y hj hy => Store.not_locked_iff.mp hlocked j y (by simpa using hj) hy⟩
  | locked m page =>
    simp only [hphase] at hs
    split_ifs at hs with hcap
    · exact hadvance _ (hphase ▸ .full m page) hs
    · exact hadvance _ (hphase ▸ .underCap m page (by simpa using hcap)) hs
  | admitted m page =>
    simp only [hphase] at hs
    obtain ⟨y, x', hy, rfl, hslots, -, hcase⟩ := Store.execIn_eq_some hs
    obtain rfl := mem_unique hx hy
    obtain ⟨slots, writes, data⟩ := x'
    rcases hcase with ⟨hdata, hwrites⟩ | ⟨r, hr, hkey, happ, hdata, hwrites⟩
    · cases hdata
      cases hwrites
      cases hslots
      exact ⟨x, _, hx, rfl, .advance _ (hphase ▸ .miss m page)⟩
    · cases hdata
      cases hwrites
      cases hslots
      exact ⟨x, _, hx, rfl, .claim m page r _ _ _ hphase hr hkey (by simpa [claimDelivery, updateWhere] using happ)⟩
  | done => simp [hphase] at hs

variable {q q' : Outbox ι}

inductive StoreMove (q : Outbox ι) : Action ι → OutboxStore ι → Prop where
  | same {a : Action ι} : StoreMove q a q.store
  | exec {a : Action ι} {s' : OutboxStore ι} (stmt : DeliveryStmt) (ordinary : Ordinary stmt)
      (h : q.store.exec stmt.toStmt = some s') : StoreMove q a s'
  | revive {id : Text} {now : Stamp} {s' : OutboxStore ι} (h : q.store.exec (retryDeadLetterDelivery id now).toStmt = some s') :
      StoreMove q (.retryDeadLetter id now) s'
  | insert {eventId pluginId orderingKey : Text} {now : Stamp} {s' : OutboxStore ι}
      (h : q.store.insert (newDelivery eventId pluginId orderingKey now) = some s') :
      StoreMove q (.dispatch eventId pluginId orderingKey now) s'
  | start {i : ι} {args : ClaimArgs} {s' : OutboxStore ι} (left : List Delivery)
      (h : q.store.start i ⟨args, .sanitize left⟩ = some s') : StoreMove q (.openClaim i args) s'
  | claim {i : ι} {b : Bool} (x x' : ClaimTxn) (hx : q.store.session i = some x) (h : ClaimMove q.store i x x')
      (hs : claimStep q.store i b = some (q.store.put i (some x'))) :
      StoreMove q (.claim i b) (q.store.put i (some x'))
  | commit {i : ι} {s' : OutboxStore ι} (h : q.store.commit i = some s') : StoreMove q (.commit i) s'
  | rollback {i : ι} : StoreMove q (.rollback i) (q.store.put i none)
  | cas {h : Nat} {b : Bool} {now : Stamp} {s' : OutboxStore ι} (d : Claim) (m : Delivery) (page : Page)
      (host : q.hosts h = some d) (phase : d.phase = .passed m page)
      (free : ∀ i x, q.store.session i = some x → eventInflightSlot m.pluginId m.resourceClass ∉ x.slots)
      (h' : q.store.exec (hostStmt q.store.table.rows d.args m now).toStmt = some s') : StoreMove q (.host h b now) s'

lemma cancelStep_move {j : Nat} {now : Stamp} {a : Action ι} (h : cancelStep q j now = some q') : StoreMove q a q'.store := by
  obtain ⟨c, -, h⟩ := bind_eq_some_iff.mp h
  cases hphase : c.phase with
  | round n =>
    cases n with
    | zero =>
      simp only [hphase] at h
      split_ifs at h <;> cases h <;> exact .same
    | succ n =>
      simp only [hphase] at h
      split at h
      · cases h
        exact .same
      · split_ifs at h <;> cases h <;> exact .same
  | update n m =>
    simp only [hphase] at h
    obtain ⟨store, hs, h⟩ := bind_eq_some_iff.mp h
    split_ifs at h <;> cases h <;>
      exact .exec _ (ordinary_cancelStmt c.id m now) hs

inductive HostStep (q : Outbox ι) (h : Nat) (now : Stamp) (d : Claim) (q' : Outbox ι) : Prop where
  | advance (p : ClaimPhase) (hp : Advance q.store.table.rows d.args d.phase p) (unchosen : d.phase.chosen = none)
      (store : q'.store = q.store ∨ ∃ m, q.store.exec (rejectUnknownClass m d.args.now).toStmt = some q'.store)
      (hosts : q'.hosts = Function.update q.hosts h (some ⟨d.args, p⟩)) (log : q'.log = q.log)
  | cas (m : Delivery) (page : Page) (phase : d.phase = .passed m page)
      (free : ∀ i x, q.store.session i = some x → eventInflightSlot m.pluginId m.resourceClass ∉ x.slots)
      (exec : q.store.exec (hostStmt q.store.table.rows d.args m now).toStmt = some q'.store)
      (hosts : q'.hosts = Function.update q.hosts h
        (some ⟨d.args, if hostStatus q'.store.table d.args m now then .done (some m) else .scan page⟩))
      (log : q'.log = if q.store.matched (hostStmt q.store.table.rows d.args m now).toStmt then .claimed m.id :: q.log else q.log)

lemma hostStep_cases {h : Nat} {b : Bool} {now : Stamp} (hs : hostStep q h b now = some q') :
    ∃ d, q.hosts h = some d ∧ HostStep q h now d q' := by
  obtain ⟨d, hd, hs⟩ := bind_eq_some_iff.mp hs
  refine ⟨d, hd, ?_⟩
  cases hphase : d.phase with
  | sanitize ms =>
    cases ms with
    | nil =>
      simp only [hphase] at hs
      cases hs
      exact .advance _ (hphase ▸ .first []) (by rw [hphase]; rfl) (.inl rfl) rfl rfl
    | cons m left =>
      simp only [hphase] at hs
      obtain ⟨store, hexec, hs⟩ := bind_eq_some_iff.mp hs
      cases hs
      exact .advance _ (hphase ▸ .sanitize (m :: left) left) (by rw [hphase]; rfl) (.inr ⟨m, hexec⟩) rfl rfl
  | query cursor =>
    simp only [hphase] at hs
    cases hs
    exact .advance _ (hphase ▸ .page cursor) (by rw [hphase]; rfl) (.inl rfl) rfl rfl
  | scan page =>
    obtain ⟨ms, cursor⟩ := page
    cases ms with
    | nil =>
      simp only [hphase] at hs
      cases hs
      exact .advance _ (hphase ▸ .next [] cursor) (by rw [hphase]; rfl) (.inl rfl) rfl rfl
    | cons m left =>
      simp only [hphase] at hs
      cases hs
      exact .advance _ (hphase ▸ .checks m left cursor b) (by rw [hphase]; rfl) (.inl rfl) rfl rfl
  | passed m page =>
    simp only [hphase] at hs
    by_cases hlocked : q.store.Locked [] (eventInflightSlot m.pluginId m.resourceClass)
    · rw [if_pos hlocked] at hs
      cases hs
    rw [if_neg hlocked] at hs
    obtain ⟨store, hexec, hs⟩ := bind_eq_some_iff.mp hs
    cases hs
    exact .cas m page hphase (fun i x hx => Store.not_locked_iff.mp hlocked i x not_mem_nil hx) hexec rfl rfl
  | locked | admitted | done => simp [hphase] at hs

lemma hostStep_move {h : Nat} {b : Bool} {now : Stamp} (hs : hostStep q h b now = some q') : StoreMove q (.host h b now) q'.store := by
  obtain ⟨d, hd, hcase⟩ := hostStep_cases hs
  cases hcase with
  | advance p _ _ hstore _ _ =>
    rcases hstore with hstore | ⟨m, hexec⟩
    · rw [hstore]
      exact .same
    · exact .exec _ (ordinary_rejectUnknownClass m d.args.now) hexec
  | cas m page hphase hfree hexec _ _ => exact .cas d m page hd hphase hfree hexec

omit [Fintype ι] in
lemma commitStep_eq_some {i : ι} (h : commitStep q i = some q') :
    ∃ x claimed store, q.store.session i = some x ∧ x.data.phase = .done claimed ∧ q.store.commit i = some store ∧
      q' = { q with store := store, log := (claimed.map fun m => Event.claimed m.id).toList ++ q.log } := by
  obtain ⟨x, hx, h⟩ := bind_eq_some_iff.mp h
  split at h
  · next claimed hphase =>
    obtain ⟨store, hs, h⟩ := bind_eq_some_iff.mp h
    exact ⟨x, claimed, store, hx, hphase, hs, (some.inj h).symm⟩
  · cases h

lemma step_move {a : Action ι} (h : step q a = some q') : StoreMove q a q'.store := by
  cases a with
  | call c now =>
    rw [step] at h
    split at h
    · next stmt hissued =>
      obtain ⟨store, hs, rfl⟩ := map_eq_some_iff.mp h
      exact .exec stmt (Call.ordinary hissued) hs
    · cases h
      exact .same
  | dispatch =>
    obtain ⟨store, hs, rfl⟩ := map_eq_some_iff.mp h
    exact .insert hs
  | retryDeadLetter id now =>
    obtain ⟨store, hs, h⟩ := bind_eq_some_iff.mp h
    cases h
    exact .revive hs
  | openClaim i args =>
    obtain ⟨store, hs, rfl⟩ := map_eq_some_iff.mp h
    exact .start _ hs
  | claim i b =>
    obtain ⟨store, hs, rfl⟩ := map_eq_some_iff.mp h
    obtain ⟨x, x', hx, rfl, hmove⟩ := claimStep_move hs
    exact .claim x x' hx hmove hs
  | commit i =>
    obtain ⟨x, claimed, store, -, -, hs, rfl⟩ := commitStep_eq_some h
    exact .commit hs
  | rollback i =>
    obtain ⟨store, hs, rfl⟩ := map_eq_some_iff.mp h
    obtain ⟨x, -, hs⟩ := bind_eq_some_iff.mp hs
    cases hs
    exact .rollback
  | openHost h' args =>
    rw [step] at h
    split_ifs at h
    cases h
    exact .same
  | host h' b now => exact hostStep_move h
  | dropHost h' =>
    cases h
    exact .same
  | openCancel j id =>
    rw [step] at h
    split_ifs at h
    cases h
    exact .same
  | cancel j now => exact cancelStep_move h

end Bookclerk.Events
