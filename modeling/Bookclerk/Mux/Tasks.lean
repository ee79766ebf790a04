import Bookclerk.Mux.Steps

/-! The reader and writer tasks, and the step function of a connection. The reader's
frames come from an arbitrary peer. The writer may do the parts of its loop in any order,
which includes the order it does them in. -/

namespace Bookclerk.Mux

-- A frame as it comes off the wire; `credit` is the payload of a window frame.
structure Frame where
  len : Nat
  typ : Nat
  connId : Nat
  credit : Nat
deriving DecidableEq

def peerIdAllowed (localBase id : Nat) : Bool :=
  if id = 0 then false else (localBase % 2 == 1) != (id % 2 == 1)

-- `read_header`'s length check, giving the payload's length.
def readHeader (len : Nat) : Option Nat :=
  if len < 5 ∨ maxFramePayload + 5 < len then none else some (len - 5)

def admitData (s : MuxState) (id len : Nat) : Bool :=
  if len = 0 then true
  else if maxBufferedPerStream < len then false
  else
    match s.tables.slot id with
    | none => false
    | some slot =>
      if (s.handle slot.gen).peerGone || !slot.dataTx then false
      else decide ((s.recv slot.gen).buffered + len ≤ maxBufferedPerStream) &&
        decide (s.aggregate + len ≤ maxAggregateBuffered)

def readFrame (s : MuxState) (f : Frame) : ReaderPhase :=
  match readHeader f.len with
  | none => .stopped
  | some len =>
    match f.typ with
    | 1 =>
      if len ≠ 0 ∨ peerIdAllowed s.idBase f.connId = false then .stopped
      else if s.tables.containsKey f.connId then .stopped
      else if s.tables.idWaitsForClose f.connId then .deferring f.connId
      else .inserting f.connId
    | 2 => if admitData s f.connId len then .payload f.connId len else .closing f.connId
    | 3 => .closing f.connId
    | 4 =>
      if len ≠ 4 then .stopped
      else
        match s.tables.slot f.connId with
        | none => .idle
        | some slot => if f.credit = 0 then .idle else .window slot.gen f.credit .load
    | _ => .stopped

def onFrame (s : MuxState) (f : Frame) : Option MuxState :=
  if s.reader = .idle then some (s.setReader (readFrame s f)) else none

def admitDeferredOpens (s : MuxState) : Option MuxState :=
  match s.reader, s.tables.deferredOpens with
  | .idle, id :: rest =>
    if s.tables.idWaitsForClose id then none
    else some { s with tables := { s.tables with deferredOpens := rest }, reader := .admitted id }
  | _, _ => none

/-- `enqueue_data`, which holds the map lock from its lookup on. A send fails once the
stream's receiver is freed. -/
def enqueueData (s : MuxState) (g id len : Nat) : EnqueueStage → MuxState
  | .fresh => s.setReader (.enqueue g id len (.loaded (s.recv g).buffered))
  | .loaded cur =>
    if maxBufferedPerStream < cur + len ∨ maxAggregateBuffered < s.aggregate + len then
      s.setReader (.closing id)
    else s.setReader (.enqueue g id len .checked)
  | .checked =>
    (s.setRecv g { s.recv g with buffered := (s.recv g).buffered + len }).setReader
      (.enqueue g id len .added)
  | .added => { s with aggregate := s.aggregate + len, reader := .enqueue g id len .counted }
  | .counted =>
    if (s.handle g).life = .gone then
      { s.setRecv g { s.recv g with buffered := (s.recv g).buffered - len } with
        aggregate := s.aggregate - len
        reader := .idle }
    else (s.setRecv g { s.recv g with channel := (s.recv g).channel ++ [len] }).setReader .idle

def grantSendCredit (s : MuxState) (g add : Nat) : WindowStage → MuxState
  | .load =>
    if (s.send g).inFlight = 0 then s.setReader .idle
    else s.setReader (.window g add (.cas (s.send g).inFlight))
  | .cas cur =>
    if (s.send g).inFlight = cur then
      (s.setSend g { s.send g with inFlight := cur - min cur add }).setReader
        (.window g add (.grant (min cur add)))
    else s.setReader (.window g add .load)
  | .grant take =>
    let credit := min (min ((s.send g).sendCredit + take) (2 ^ 32 - 1)) initialWindow
    (s.setSend g { s.send g with sendCredit := credit }).setReader .idle

def readerNext (s : MuxState) : Option MuxState :=
  match s.reader with
  | .idle => none
  | .stopped => none
  | .deferring id =>
    if maxLiveStreams ≤ s.tables.deferredOpens.length then some (s.setReader .idle)
    else
      let deferred := s.tables.deferredOpens ++ [id]
      some { s with tables := { s.tables with deferredOpens := deferred }, reader := .idle }
  | .admitted id =>
    some (s.setReader (if s.tables.containsKey id then .stopped else .inserting id))
  | .inserting id => some (((s.insertStream id true .live).getD s).setReader .idle)
  | .closing id => some ((s.closePeer id).setReader .idle)
  | .payload id len =>
    match s.tables.slot id with
    | none => some (s.setReader .idle)
    | some slot =>
      if len = 0 || (s.handle slot.gen).peerGone || !slot.dataTx then some (s.setReader .idle)
      else some (s.setReader (.enqueue slot.gen id len .fresh))
  | .enqueue g id len stage => some (enqueueData s g id len stage)
  | .window g add stage => some (grantSendCredit s g add stage)

inductive WriterStep
  | takeOpen
  | wroteOpen
  | takeCredits
  | checkCredit
  | wroteCredit
  | failedCredit
  | takeCloses
  | wroteClose
  | failedClose
  | takeData
  | wroteData
  | wroteDataClose
  | failedDataClose
  | markCredit
  | markClose
  | noteClose
  | stop
deriving DecidableEq

-- A written Open leaves the queue and marks its generation.
def wroteOpen (t : Tables) (o : PendingOpen) : Tables :=
  { t with
    pendingOpens := if t.pendingOpens.head?.any (·.gen = o.gen) then t.pendingOpens.tail
      else t.pendingOpens.filter fun p => p.gen ≠ o.gen
    localGens := t.localGens.map fun g => if g.gen = o.gen then { g with openWritten := true } else g }

-- `finish_emitting_credit`: the hold stays while its stream may still grant credit.
def finishEmittingCredit (s : MuxState) (c : TakenCredit) : MuxState :=
  let sig := s.signals c.gen
  if s.tables.credits.any (·.gen = c.gen) then
    if !sig.creditAlive && sig.pendingCredit == 0 then
      { s with
        tables := { s.tables with credits := s.tables.credits.filter fun h => h.gen ≠ c.gen }
        writer := { s.writer with creditMarks := s.writer.creditMarks ++ [c.gen] } }
    else { s with tables := { s.tables with credits := restoreEmitting s.tables.credits c.gen } }
  else s

def discardEmittingCredit (s : MuxState) (gen : Nat) : MuxState :=
  if s.tables.credits.any (·.gen = gen) then
    { s with
      tables := { s.tables with credits := s.tables.credits.filter fun h => h.gen ≠ gen }
      writer := { s.writer with creditMarks := s.writer.creditMarks ++ [gen] } }
  else s

def finishEmittingClose (s : MuxState) (gen : Nat) : MuxState :=
  if s.tables.closes.any (·.gen = gen) then
    { s.setSignals gen { s.signals gen with closeFlag := true } with
      tables := { s.tables with closes := s.tables.closes.filter fun h => h.gen ≠ gen }
      writer := { s.writer with closeMarks := s.writer.closeMarks ++ [gen] } }
  else s

def takeCreditsStep (s : MuxState) : MuxState :=
  let r := takeCredits s.tables.localPayloadReady s.signals s.tables.credits
  let taken := fun g => r.taken.any fun c => c.gen = g
  { s with
    tables := { s.tables with credits := r.holds }
    signals := fun g => if taken g then { s.signals g with pendingCredit := 0 } else s.signals g
    writer := { s.writer with
      taken := s.writer.taken ++ r.taken
      creditMarks := s.writer.creditMarks ++ r.finished } }

def takeClosesStep (s : MuxState) : MuxState :=
  let r := takeReadyCloses s.tables.localPayloadReady s.signals s.tables.closes
  { s with
    tables := { s.tables with closes := r.holds }
    signals := fun g =>
      if r.taken.any (· = g) then { s.signals g with closePending := false } else s.signals g
    writer := { s.writer with
      ready := s.writer.ready ++ r.taken
      closeMarks := s.writer.closeMarks ++ r.finished } }

def restoreEmittingCredit (s : MuxState) (c : TakenCredit) : MuxState :=
  let sig := s.signals c.gen
  { s.setSignals c.gen { sig with pendingCredit := wrapAdd sig.pendingCredit c.n } with
    tables := { s.tables with credits := restoreEmitting s.tables.credits c.gen } }

def restoreEmittingClose (s : MuxState) (gen : Nat) : MuxState :=
  { s.setSignals gen { s.signals gen with closePending := true } with
    tables := { s.tables with closes := restoreEmitting s.tables.closes gen } }

-- `write_out_data` after its Data frame is out: the last one carries a pending Close.
def wroteData (s : MuxState) (d : OutData) : MuxState :=
  let sig := s.signals d.gen
  if sig.outboundQueued = 1 ∧ sig.closePending then
    { s.setSignals d.gen { sig with outboundQueued := 0, closePending := false } with
      writer := { s.writer with held := none, closeAfter := some d } }
  else
    { s.setSignals d.gen { sig with outboundQueued := sig.outboundQueued - 1 } with
      writer := { s.writer with held := none } }

def writerStep (s : MuxState) (a : WriterStep) : Option MuxState :=
  let w := s.writer
  if w.stopped then none
  else
    match a with
    | .takeOpen =>
      match w.opening, s.tables.pendingOpens with
      | none, o :: _ =>
        if s.tables.openIsEligible o then some { s with writer := { w with opening := some o } }
        else none
      | _, _ => none
    | .wroteOpen => w.opening.map fun o =>
      { s with tables := wroteOpen s.tables o, writer := { w with opening := none } }
    | .takeCredits => some (takeCreditsStep s)
    | .checkCredit =>
      match w.emittingCredit, w.taken with
      | none, c :: rest =>
        if s.tables.creditStillCurrent s.signals c then
          some { s with writer := { w with taken := rest, emittingCredit := some c } }
        else some (discardEmittingCredit { s with writer := { w with taken := rest } } c.gen)
      | _, _ => none
    | .wroteCredit => w.emittingCredit.map fun c =>
      finishEmittingCredit { s with writer := { w with emittingCredit := none } } c
    | .failedCredit => w.emittingCredit.map fun c =>
      restoreEmittingCredit { s with writer := { w with stopped := true } } c
    | .takeCloses => some (takeClosesStep s)
    | .wroteClose =>
      match w.ready with
      | gen :: rest => some (finishEmittingClose { s with writer := { w with ready := rest } } gen)
      | [] => none
    | .failedClose => w.ready.head?.map fun gen =>
      restoreEmittingClose { s with writer := { w with stopped := true } } gen
    | .takeData =>
      match w.held, s.dataQueue with
      | none, d :: rest =>
        some { s with dataQueue := rest, writer := { w with held := some d } }
      | _, _ => none
    | .wroteData => w.held.bind fun d =>
      if s.tables.localPayloadReady d.gen ∧ w.closeAfter = none then some (wroteData s d)
      else none
    | .wroteDataClose => w.closeAfter.map fun d =>
      { s with writer := { w with closeAfter := none, notes := w.notes ++ [d.gen] } }
    | .failedDataClose => w.closeAfter.map fun d =>
      { s.setSignals d.gen { s.signals d.gen with closePending := true } with
        writer := { w with stopped := true } }
    | .markCredit =>
      match w.creditMarks with
      | gen :: rest =>
        some { s with
          tables := s.tables.markBook gen true
          writer := { w with creditMarks := rest } }
      | [] => none
    | .markClose =>
      match w.closeMarks with
      | gen :: rest =>
        some { s with
          tables := s.tables.markBook gen false
          writer := { w with closeMarks := rest, notes := w.notes ++ [gen] } }
      | [] => none
    | .noteClose =>
      match w.notes with
      | gen :: rest =>
        let flag := (s.signals gen).closeFlag || s.tables.closes.any (·.gen = gen)
        some { s.setSignals gen { s.signals gen with closeFlag := flag } with
          tables := s.tables.noteCloseWritten gen
          writer := { w with notes := rest } }
      | [] => none
    | .stop => some { s with writer := { w with stopped := true } }

inductive OwnerStep
  | announce
  | read (room : Nat)
  | readNext
  | write (len : Nat)
  | writeNext
  | shutdown
  | shutdownNext
  | drop
  | dropNext
deriving DecidableEq

def ownerStep (s : MuxState) (g : Nat) : OwnerStep → Option MuxState
  | .announce => announce s g
  | .read room => pollRead s g room
  | .readNext => noteConsumed s g
  | .write len => pollWrite s g len
  | .writeNext => pollWriteNext s g
  | .shutdown => pollShutdown s g
  | .shutdownNext => pushShutdown s g
  | .drop => dropStream s g
  | .dropNext => dropNext s g

inductive MuxStep
  | openStream
  | owner (g : Nat) (a : OwnerStep)
  | frame (f : Frame)
  | admitDeferred
  | readerNext
  | stopReader
  | closePeer (id : Nat)
  | writer (a : WriterStep)
deriving DecidableEq

/-- A step of one of the tasks; `none` when it cannot be taken now. An owner acts on a
stream that exists. -/
def muxStep (s : MuxState) : MuxStep → Option MuxState
  | .openStream => openStream s
  | .owner g a => if g < s.nextGen then ownerStep s g a else none
  | .frame f => onFrame s f
  | .admitDeferred => admitDeferredOpens s
  | .readerNext => readerNext s
  | .stopReader => if s.reader.mapLocked then none else some (s.setReader .stopped)
  | .closePeer id => if s.reader.mapLocked then none else some (s.closePeer id)
  | .writer a => writerStep s a

def MuxState.start (idBase : Nat) : MuxState where
  idBase := idBase
  nextId := idBase
  nextGen := 0
  tables := ⟨[], [], [], [], [], [], []⟩
  aggregate := 0
  recv := fun _ => ⟨0, [], 0, .idle⟩
  send := fun _ => ⟨initialWindow, 0, .idle⟩
  handle := fun _ => ⟨0, false, false, false, false, .gone⟩
  signals := fun _ => ⟨0, false, 0, false, false⟩
  dataQueue := []
  reader := .idle
  writer := ⟨false, none, [], none, [], [], [], [], none, none⟩

end Bookclerk.Mux
