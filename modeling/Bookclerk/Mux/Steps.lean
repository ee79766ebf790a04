import Mathlib.Algebra.Ring.Nat
import Mathlib.Data.List.Basic

/-! The multiplexer of the plugin protocol: its caps, the tables its tasks share, and
what each task does to a table while it holds that table's lock. A stream's shared
atomics and its handle are indexed by the stream's generation. -/

namespace Bookclerk.Mux

def maxFramePayload : Nat := 1024 * 1024
def initialWindow : Nat := 64 * 1024
def maxBufferedPerStream : Nat := initialWindow
def maxAggregateBuffered : Nat := 1024 * 1024
def maxLiveStreams : Nat := 32
def writerDataQueue : Nat := 4

structure Slot where
  gen : Nat
  dataTx : Bool
deriving DecidableEq

structure BookRecord where
  gen : Nat
  creditDone : Bool
  closeDone : Bool
deriving DecidableEq

/-- A `CreditHold` or a `CloseHold`: the source's two types differ only in the atomics
they share with the stream, which the model finds by generation. -/
structure Hold where
  id : Nat
  gen : Nat
  emitting : Bool
deriving DecidableEq

structure LocalGen where
  id : Nat
  gen : Nat
  openWritten : Bool
  closeWritten : Bool
deriving DecidableEq

structure PendingOpen where
  id : Nat
  gen : Nat
deriving DecidableEq

structure OutData where
  id : Nat
  gen : Nat
  len : Nat
deriving DecidableEq

structure TakenCredit where
  id : Nat
  gen : Nat
  n : Nat
deriving DecidableEq

structure Tables where
  map : List (Nat × Slot)
  records : List BookRecord
  credits : List Hold
  closes : List Hold
  pendingOpens : List PendingOpen
  localGens : List LocalGen
  deferredOpens : List Nat

-- The atomics that only steer the writer.
structure Signals where
  pendingCredit : Nat
  creditAlive : Bool
  outboundQueued : Nat
  closePending : Bool
  closeFlag : Bool

def Tables.slot (t : Tables) (id : Nat) : Option Slot :=
  (t.map.find? fun e => e.1 = id).map (·.2)

def Tables.containsKey (t : Tables) (id : Nat) : Bool :=
  t.map.any fun e => e.1 = id

def Tables.tryInsert (t : Tables) (id gen : Nat) : Option Tables :=
  if maxLiveStreams ≤ t.map.length ∨ t.containsKey id then none
  else if maxLiveStreams ≤ t.records.length ∨ maxLiveStreams ≤ t.credits.length ∨
      maxLiveStreams ≤ t.closes.length then none
  else some { t with
    map := (id, ⟨gen, true⟩) :: t.map
    records := t.records ++ [⟨gen, false, false⟩]
    credits := t.credits ++ [⟨id, gen, false⟩] }

/-- The table part of `close_peer`: the slot stays, its sender goes. -/
def Tables.closePeer (t : Tables) (id : Nat) : Tables :=
  { t with map := t.map.map fun e => if e.1 = id then (e.1, { e.2 with dataTx := false }) else e }

def Tables.pushClose (t : Tables) (id gen : Nat) : Tables :=
  { t with closes := t.closes ++ [⟨id, gen, false⟩] }

def BookRecord.mark (r : BookRecord) (credit : Bool) : BookRecord :=
  if credit then { r with creditDone := true } else { r with closeDone := true }

def markBook (records : List BookRecord) (gen : Nat) (credit : Bool) : List BookRecord :=
  if records.any (·.gen = gen) then
    (records.map fun r => if r.gen = gen then r.mark credit else r).filter
      fun r => !(r.creditDone && r.closeDone)
  else records

def Tables.markBook (t : Tables) (gen : Nat) (credit : Bool) : Tables :=
  { t with records := Mux.markBook t.records gen credit }

def Tables.idWaitsForClose (t : Tables) (id : Nat) : Bool :=
  t.closes.any (·.id = id) || t.localGens.any fun g => g.id = id && !g.closeWritten

def Tables.localPayloadReady (t : Tables) (gen : Nat) : Bool :=
  match t.localGens.find? (·.gen = gen) with
  | none => true
  | some g => g.openWritten

def Tables.openIsEligible (t : Tables) (o : PendingOpen) : Bool :=
  !t.localGens.any fun g => g.id = o.id && decide (g.gen < o.gen) && !g.closeWritten

-- The table part of `note_close_written`.
def Tables.noteCloseWritten (t : Tables) (gen : Nat) : Tables :=
  let gens := t.localGens.map fun g => if g.gen = gen then { g with closeWritten := true } else g
  { t with localGens := gens.filter fun g => !g.closeWritten }

/-- What a scan of the credit or close holds leaves: the holds that stay, what it took
to write, and the generations it dropped. -/
structure Scan (α : Type) where
  holds : List Hold
  taken : List α
  finished : List Nat

def Scan.keep {α : Type} (h : Hold) (r : Scan α) : Scan α :=
  { r with holds := h :: r.holds }

def Scan.emit {α : Type} (h : Hold) (a : α) (r : Scan α) : Scan α :=
  { r with holds := { h with emitting := true } :: r.holds, taken := a :: r.taken }

def Scan.finish {α : Type} (h : Hold) (r : Scan α) : Scan α :=
  { r with finished := h.gen :: r.finished }

-- The loop of `take_credits`.
def takeCredits (ready : Nat → Bool) (sig : Nat → Signals) : List Hold → Scan TakenCredit
  | [] => ⟨[], [], []⟩
  | h :: rest =>
    let r := takeCredits ready sig rest
    if h.emitting || !ready h.gen then r.keep h
    else if 0 < (sig h.gen).pendingCredit then
      r.emit h ⟨h.id, h.gen, (sig h.gen).pendingCredit⟩
    else if (sig h.gen).creditAlive then r.keep h
    else r.finish h

-- The loop of `take_ready_closes`.
def takeReadyCloses (ready : Nat → Bool) (sig : Nat → Signals) : List Hold → Scan Nat
  | [] => ⟨[], [], []⟩
  | h :: rest =>
    let r := takeReadyCloses ready sig rest
    if h.emitting || !ready h.gen then r.keep h
    else if !(sig h.gen).closePending then r.finish h
    else if 0 < (sig h.gen).outboundQueued then r.keep h
    else r.emit h h.gen

/-- `restore_emitting_credit` and `restore_emitting_close` on the table. -/
def restoreEmitting (holds : List Hold) (gen : Nat) : List Hold :=
  holds.map fun h => if h.gen = gen then { h with emitting := false } else h

def Tables.creditStillCurrent (t : Tables) (sig : Nat → Signals) (c : TakenCredit) : Bool :=
  !t.credits.any fun h => h.id = c.id && h.gen != c.gen && (sig h.gen).creditAlive

inductive ReadOp
  | idle
  | consumed (n : Nat)
  | uncounted (n : Nat)
  | granting (n : Nat)
deriving DecidableEq

inductive WriteOp
  | idle
  | queuing (n : Nat)
  | queued (n : Nat)
  | charged (n : Nat)
deriving DecidableEq

/-- Where a stream's handle stands. `swapped` to `dropped` are the points of `drop` after
it has zeroed `buffered`, with the count it found there; `gone` is after its channel is
freed. -/
inductive Life
  | opening
  | live
  | closing
  | swapped (left : Nat)
  | writtenOff (left : Nat)
  | released (left : Nat)
  | dropClosing (left : Nat)
  | dropped (left : Nat)
  | gone
deriving DecidableEq

-- A payload is kept as its length.
structure RecvSide where
  buffered : Nat
  channel : List Nat
  readBuf : Nat
  op : ReadOp

structure SendSide where
  sendCredit : Nat
  inFlight : Nat
  op : WriteOp

structure Handle where
  id : Nat
  peerGone : Bool
  announced : Bool
  closed : Bool
  readEof : Bool
  life : Life

inductive EnqueueStage
  | fresh
  | loaded (cur : Nat)
  | checked
  | added
  | counted
deriving DecidableEq

inductive WindowStage
  | load
  | cas (cur : Nat)
  | grant (take : Nat)
deriving DecidableEq

inductive ReaderPhase
  | idle
  | deferring (id : Nat)
  | admitted (id : Nat)
  | inserting (id : Nat)
  | closing (id : Nat)
  | payload (id len : Nat)
  | enqueue (gen id len : Nat) (stage : EnqueueStage)
  | window (gen add : Nat) (stage : WindowStage)
  | stopped
deriving DecidableEq

structure Writer where
  stopped : Bool
  opening : Option PendingOpen
  taken : List TakenCredit
  emittingCredit : Option TakenCredit
  ready : List Nat
  creditMarks : List Nat
  closeMarks : List Nat
  notes : List Nat
  held : Option OutData
  closeAfter : Option OutData

structure MuxState where
  idBase : Nat
  nextId : Nat
  nextGen : Nat
  tables : Tables
  aggregate : Nat
  recv : Nat → RecvSide
  send : Nat → SendSide
  handle : Nat → Handle
  signals : Nat → Signals
  dataQueue : List OutData
  reader : ReaderPhase
  writer : Writer

def ReaderPhase.mapLocked : ReaderPhase → Bool
  | .enqueue .. => true
  | .window .. => true
  | _ => false

def wrapAdd (a b : Nat) : Nat := (a + b) % 2 ^ 32
def wrapSub (a b : Nat) : Nat := (a + 2 ^ 32 - b) % 2 ^ 32

namespace MuxState

variable (s : MuxState)

def setRecv (g : Nat) (r : RecvSide) : MuxState :=
  { s with recv := Function.update s.recv g r }

def setSend (g : Nat) (r : SendSide) : MuxState :=
  { s with send := Function.update s.send g r }

def setHandle (g : Nat) (r : Handle) : MuxState :=
  { s with handle := Function.update s.handle g r }

def setSignals (g : Nat) (r : Signals) : MuxState :=
  { s with signals := Function.update s.signals g r }

def setLife (g : Nat) (l : Life) : MuxState :=
  s.setHandle g { s.handle g with life := l }

def setReader (r : ReaderPhase) : MuxState := { s with reader := r }

/-- `MuxStream::pair` and `try_insert`; the stream takes the next generation. -/
def insertStream (id : Nat) (announced : Bool) (life : Life) : Option MuxState :=
  (s.tables.tryInsert id s.nextGen).map fun t =>
    { s with
      tables := t
      nextGen := s.nextGen + 1
      recv := Function.update s.recv s.nextGen ⟨0, [], 0, .idle⟩
      send := Function.update s.send s.nextGen ⟨initialWindow, 0, .idle⟩
      handle := Function.update s.handle s.nextGen ⟨id, false, announced, false, false, life⟩
      signals := Function.update s.signals s.nextGen ⟨0, true, 0, false, false⟩ }

def closePeer (id : Nat) : MuxState :=
  match s.tables.slot id with
  | none => s
  | some slot =>
    { s.setHandle slot.gen { s.handle slot.gen with peerGone := true } with
      tables := s.tables.closePeer id }

def releaseStream (g : Nat) : MuxState :=
  let h := s.handle g
  if (s.tables.slot h.id).any (·.gen = g) then
    { (s.setHandle g { h with peerGone := true }).setSignals g
        { s.signals g with creditAlive := false } with
      tables := { s.tables with map := s.tables.map.filter fun e => e.1 ≠ h.id } }
  else s

-- The channel is open for reading as long as the map holds a sender for it.
def hasSender (g : Nat) : Bool :=
  s.tables.map.any fun e => e.2.gen = g && e.2.dataTx

def queueClose (g : Nat) : MuxState :=
  { s with tables := s.tables.pushClose (s.handle g).id g }

end MuxState

-- `Mux::open` up to the insertion.
def openStream (s : MuxState) : Option MuxState :=
  if s.reader.mapLocked then none
  else
    let s' := { s with nextId := wrapAdd s.nextId 2 }
    some ((s'.insertStream s.nextId false .opening).getD s')

def announce (s : MuxState) (g : Nat) : Option MuxState :=
  if (s.handle g).life = .opening then
    let id := (s.handle g).id
    let gens := s.tables.localGens ++ [⟨id, g, false, false⟩]
    let opens := s.tables.pendingOpens ++ [⟨id, g⟩]
    some { s.setHandle g { s.handle g with announced := true, life := .live } with
      tables := { s.tables with localGens := gens, pendingOpens := opens } }
  else none

def pollRead (s : MuxState) (g room : Nat) : Option MuxState :=
  let r := s.recv g
  if (s.handle g).life = .live ∧ r.op = .idle then
    if 0 < r.readBuf then
      let n := min room r.readBuf
      some (s.setRecv g { r with readBuf := r.readBuf - n, op := .consumed n })
    else
      match r.channel with
      | chunk :: rest =>
        let n := min room chunk
        some (s.setRecv g { r with channel := rest, readBuf := chunk - n, op := .consumed n })
      | [] =>
        if s.hasSender g then none
        else some (s.setHandle g { s.handle g with readEof := true })
  else none

/-- The three updates of `note_consumed`, one at a time. -/
def noteConsumed (s : MuxState) (g : Nat) : Option MuxState :=
  let r := s.recv g
  match r.op with
  | .idle => none
  | .consumed n => some (s.setRecv g { r with buffered := r.buffered - n, op := .uncounted n })
  | .uncounted n =>
    some { s.setRecv g { r with op := .granting n } with aggregate := s.aggregate - n }
  | .granting n =>
    let sig := s.signals g
    some ((s.setRecv g { r with op := .idle }).setSignals g
      { sig with pendingCredit := wrapAdd sig.pendingCredit n })

def pollWrite (s : MuxState) (g len : Nat) : Option MuxState :=
  let h := s.handle g
  let w := s.send g
  if h.life = .live ∧ w.op = .idle then
    if h.closed || h.readEof || h.peerGone then some s
    else if len = 0 ∨ w.sendCredit = 0 then some s
    else
      let sig := s.signals g
      some ((s.setSend g { w with op := .queuing (min (min len maxFramePayload) w.sendCredit) }).setSignals g
        { sig with outboundQueued := sig.outboundQueued + 1 })
  else none

-- The rest of `poll_write`: `try_send`, then the two counters.
def pollWriteNext (s : MuxState) (g : Nat) : Option MuxState :=
  let w := s.send g
  match w.op with
  | .idle => none
  | .queuing n =>
    if s.dataQueue.length < writerDataQueue ∧ s.writer.stopped = false then
      some { s.setSend g { w with op := .queued n } with
        dataQueue := s.dataQueue ++ [⟨(s.handle g).id, g, n⟩] }
    else
      let sig := s.signals g
      some ((s.setSend g { w with op := .idle }).setSignals g
        { sig with outboundQueued := sig.outboundQueued - 1 })
  | .queued n =>
    some (s.setSend g { w with sendCredit := wrapSub w.sendCredit n, op := .charged n })
  | .charged n =>
    some (s.setSend g { w with inFlight := wrapAdd w.inFlight n, op := .idle })

-- `poll_shutdown` up to the exchange on `close_pending`.
def pollShutdown (s : MuxState) (g : Nat) : Option MuxState :=
  let h := s.handle g
  if h.life = .live ∧ h.closed = false then
    if h.announced = true ∧ (s.signals g).closePending = false then
      some ((s.setLife g .closing).setSignals g { s.signals g with closePending := true })
    else some (s.setHandle g { h with closed := true })
  else none

def pushShutdown (s : MuxState) (g : Nat) : Option MuxState :=
  let h := s.handle g
  if h.life = .closing then
    some ((s.queueClose g).setHandle g { h with closed := true, life := .live })
  else none

/-- `drop` begins: the bytes still counted are written off. -/
def dropStream (s : MuxState) (g : Nat) : Option MuxState :=
  let r := s.recv g
  let l := (s.handle g).life
  if (l = .live ∨ l = .opening) ∧ r.op = .idle ∧ (s.send g).op = .idle then
    some ((s.setRecv g { r with buffered := 0 }).setLife g (.swapped r.buffered))
  else none

def dropNext (s : MuxState) (g : Nat) : Option MuxState :=
  let h := s.handle g
  match h.life with
  | .swapped left =>
    some { s.setLife g (.writtenOff left) with aggregate := s.aggregate - left }
  | .writtenOff left =>
    if s.reader.mapLocked then none
    else
      let s' := s.releaseStream g
      some (s'.setLife g (.released left))
  | .released left =>
    if h.announced = true ∧ h.closed = false then
      if (s.signals g).closePending then
        some (s.setHandle g { h with closed := true, life := .dropped left })
      else
        some ((s.setLife g (.dropClosing left)).setSignals g
          { s.signals g with closePending := true })
    else if h.announced then some (s.setLife g (.dropped left))
    else some { s.setLife g (.dropped left) with tables := s.tables.markBook g false }
  | .dropClosing left =>
    some ((s.queueClose g).setHandle g { h with closed := true, life := .dropped left })
  | .dropped _ =>
    some ((s.setRecv g { s.recv g with channel := [], readBuf := 0 }).setLife g .gone)
  | _ => none

end Bookclerk.Mux
