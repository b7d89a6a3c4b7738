import EasyEvse.Meter.Buffers
import EasyEvse.Transition.Run

/-! The metrology task and the interrupt beside it, in every order of their steps. -/

namespace EasyEvse.Meter

open Transition

inductive MetrologyEvent
  | dataRcv | taskDelete
  deriving DecidableEq, Repr

structure Msg where
  event : MetrologyEvent
  data : BufferIndex
  deriving DecidableEq, Repr

/-- The messages that the queue has room for. -/
def queueLength : ℕ := 3

/-- Put a message at the end of the queue, if there is room for it. -/
def msgQPut (queue : List Msg) (msg : Msg) : List Msg :=
  if queue.length < queueLength then queue ++ [msg] else queue

/-- Where the metrology task is. -/
inductive TaskState
  /-- About to set up the library, and then the buffers. -/
  | metrologyInit
  /-- About to start the transfers of the meter. -/
  | afeInit
  /-- Delaying until the first transfer was completed. -/
  | awaitTransfer
  /-- About to give up both buffers before the main loop. -/
  | cleanEverything
  /-- About to look whether the task is to end. -/
  | looping
  /-- Blocked in the queue until there is a message. -/
  | msgQGet
  /-- With a message that it has not looked at yet. -/
  | dispatching (msg : Msg)
  /-- With a buffer that it has found in use, about to hand it to the library. -/
  | processing (buffer : BufferIndex)
  /-- In the library with the buffer. -/
  | calculating (buffer : BufferIndex)
  | ended
  deriving DecidableEq, Repr

/-- The metrology module: its task, and what the task shares with the interrupt. -/
structure Metrology where
  metering : Metering := {}
  isInit : Bool := false
  taskDeleted : Bool := false
  queue : List Msg := []
  /-- Transfers of the meter are underway. -/
  receiving : Bool := false
  isTransferCompleted : Bool := false
  task : TaskState := .metrologyInit

/-- The steps of the task and its neighbours. -/
inductive MetrologyOp
  /-- The interrupt at the end of a transfer. -/
  | spiRxDmaCallback (transferDone : Bool) (frame : Frame)
  /-- The next step of the task. -/
  | task
  /-- The library returns to the task, with its spectrum left in the buffer. -/
  | calculated (spectrum : Vector Sample inpSamples)
  /-- The last statement of the initialization, which runs beside the task it has created. -/
  | init
  /-- The first statement of the deinitialization, if there is anything to end. -/
  | deinit
  /-- The rest of the deinitialization. -/
  | deinitRest
  deriving DecidableEq

namespace Metrology

variable (s : Metrology)

/-- Send a message to the task, unless the module is not initialized. -/
def setEvent (event : MetrologyEvent) (data : BufferIndex) : Metrology :=
  if s.isInit then { s with queue := msgQPut s.queue { event, data } } else s

/-- Tell the task which buffer was completed last. -/
def startProcessing : Metrology := s.setEvent .dataRcv s.metering.rdBuffer

/-- The interrupt at the end of a transfer. -/
def spiRxDmaCallback (crc : Sample → BitVec 16) (transferDone : Bool) (frame : Frame) :
    Metrology :=
  if transferDone then
    let (metering, finished) := s.metering.spiRxDmaCallback crc frame
    let stored := { s with isTransferCompleted := true, metering }
    if finished then stored.startProcessing else stored
  else s

/-- The next step of the task, if it is not blocked, ended, or in the library. -/
def metrologyTask : Option Metrology :=
  match s.task with
  | .metrologyInit => some { s with metering := s.metering.cleanEverything, task := .afeInit }
  | .afeInit => some { s with receiving := true, task := .awaitTransfer }
  | .awaitTransfer =>
    if s.isTransferCompleted then some { s with task := .cleanEverything } else none
  | .cleanEverything => some { s with metering := s.metering.cleanEverything, task := .looping }
  | .looping =>
    -- After the loop the queue and the task are destroyed.
    if s.taskDeleted then some { s with queue := [], task := .ended }
    else some { s with task := .msgQGet }
  | .msgQGet =>
    match s.queue with
    | [] => none
    | msg :: queue => some { s with queue, task := .dispatching msg }
  | .dispatching msg =>
    -- A message for a buffer that is not in use is passed over.
    if msg.event = .dataRcv ∧ s.metering.bufferInUse msg.data = true then
      some { s with task := .processing msg.data }
    else some { s with task := .looping }
  | .processing buffer =>
    some { s with metering := s.metering.calcMain buffer, task := .calculating buffer }
  | .calculating _ | .ended => none

end Metrology

/-- One step of the metrology module. -/
def metrologyStep (crc : Sample → BitVec 16) : Step Metrology MetrologyOp
  | s, .spiRxDmaCallback transferDone frame =>
    -- No transfer is completed before they are started.
    if s.receiving then some (s.spiRxDmaCallback crc transferDone frame) else none
  | s, .task => s.metrologyTask
  | s, .calculated spectrum =>
    match s.task with
    | .calculating buffer =>
      some { s with metering := s.metering.release buffer spectrum, task := .looping }
    | _ => none
  | s, .init => if s.isInit = false ∧ s.taskDeleted = false then some { s with isInit := true }
    else none
  | s, .deinit => if s.isInit then some { s with taskDeleted := true } else none
  | s, .deinitRest =>
    -- The message comes after the module is no longer initialized.
    if s.taskDeleted then some ({ s with isInit := false }.setEvent .taskDelete 0) else none

/-- A task that was just created, with nothing received and an empty queue. -/
def Metrology.Initial (s : Metrology) : Prop := s = {}

/-- A frame of a silent line, with its checksum. -/
def silentFrame : Frame := ⟨.replicate 12 0, #v[0, 0xef8a]⟩

/-- A frame of a silent line, whose checksum got lost. -/
def brokenFrame : Frame := ⟨.replicate 12 0, #v[0, 0]⟩

/-- The start of the module, with one broken frame as the first transfer. -/
def startUp : List MetrologyOp :=
  [.task, .task, .init, .spiRxDmaCallback true brokenFrame, .task, .task]

/-- One period of the mains without a broken frame. -/
def period : List MetrologyOp :=
  List.replicate afeInpSamples (.spiRxDmaCallback true silentFrame)

/-- The task gets a message, and processes the buffer. -/
def processing : List MetrologyOp :=
  [.task, .task, .task, .task, .calculated (.replicate _ ⟨0, 0, 0, 0, 0, 0⟩)]

/-- What a step of the module does. -/
inductive MetrologyMove (crc : Sample → BitVec 16) (s : Metrology) :
    MetrologyOp → Metrology → Prop
  | ignores {frame : Frame} : MetrologyMove crc s (.spiRxDmaCallback false frame) s
  | receives {frame : Frame} {metering : Metering} (receiving : s.receiving = true)
      (received : s.metering.Receives crc frame (metering, false)) :
      MetrologyMove crc s (.spiRxDmaCallback true frame)
        { s with isTransferCompleted := true, metering }
  | completes {frame : Frame} {metering : Metering} (receiving : s.receiving = true)
      (received : s.metering.Receives crc frame (metering, true)) :
      MetrologyMove crc s (.spiRxDmaCallback true frame)
        (Metrology.startProcessing { s with isTransferCompleted := true, metering })
  | initializes (here : s.task = .metrologyInit) : MetrologyMove crc s .task
      { s with metering := s.metering.cleanEverything, task := .afeInit }
  | starts (here : s.task = .afeInit) : MetrologyMove crc s .task
      { s with receiving := true, task := .awaitTransfer }
  | proceeds (here : s.task = .awaitTransfer) : MetrologyMove crc s .task
      { s with task := .cleanEverything }
  | cleans (here : s.task = .cleanEverything) : MetrologyMove crc s .task
      { s with metering := s.metering.cleanEverything, task := .looping }
  | leaves (here : s.task = .looping) (deleted : s.taskDeleted = true) :
      MetrologyMove crc s .task { s with queue := [], task := .ended }
  | stays (here : s.task = .looping) : MetrologyMove crc s .task { s with task := .msgQGet }
  | gets {msg : Msg} {queue : List Msg} (here : s.task = .msgQGet)
      (next : s.queue = msg :: queue) : MetrologyMove crc s .task
      { s with queue, task := .dispatching msg }
  | accepts {msg : Msg} (here : s.task = .dispatching msg) (isData : msg.event = .dataRcv)
      (inUse : s.metering.bufferInUse msg.data = true) : MetrologyMove crc s .task
      { s with task := .processing msg.data }
  | passes {msg : Msg} (here : s.task = .dispatching msg)
      (passed : msg.event = .dataRcv → s.metering.bufferInUse msg.data = false) :
      MetrologyMove crc s .task { s with task := .looping }
  | hands {buffer : BufferIndex} (here : s.task = .processing buffer) :
      MetrologyMove crc s .task
        { s with metering := s.metering.calcMain buffer, task := .calculating buffer }
  | releases {buffer : BufferIndex} {spectrum : Vector Sample inpSamples}
      (here : s.task = .calculating buffer) : MetrologyMove crc s (.calculated spectrum)
        { s with metering := s.metering.release buffer spectrum, task := .looping }
  | initialized : MetrologyMove crc s .init { s with isInit := true }
  | deletes : MetrologyMove crc s .deinit { s with taskDeleted := true }
  | deinitializes (deleted : s.taskDeleted = true) :
      MetrologyMove crc s .deinitRest { s with isInit := false }

section Moves

variable {crc : Sample → BitVec 16} {s t : Metrology}

/-- Every step of the task is one of these. -/
theorem metrologyTask_moves (moved : s.metrologyTask = some t) :
    MetrologyMove crc s .task t := by
  -- The place where the task is decides what it does next.
  unfold Metrology.metrologyTask at moved
  split at moved
  · rename_i here
    obtain rfl := Option.some.inj moved
    exact .initializes here
  · rename_i here
    obtain rfl := Option.some.inj moved
    exact .starts here
  · rename_i here
    simp only [Option.ite_none_right_eq_some, Option.some.injEq] at moved
    obtain ⟨_, rfl⟩ := moved
    exact .proceeds here
  · rename_i here
    obtain rfl := Option.some.inj moved
    exact .cleans here
  · rename_i here
    split at moved
    · rename_i deleted
      obtain rfl := Option.some.inj moved
      exact .leaves here deleted
    · obtain rfl := Option.some.inj moved
      exact .stays here
  · rename_i here
    split at moved
    · cases moved
    · rename_i msg queue next
      obtain rfl := Option.some.inj moved
      exact .gets here next
  · rename_i msg here
    split at moved
    · rename_i accepted
      obtain rfl := Option.some.inj moved
      exact .accepts here accepted.1 accepted.2
    · rename_i refused
      obtain rfl := Option.some.inj moved
      exact .passes here fun isData => by simpa [isData] using refused
  · rename_i buffer here
    obtain rfl := Option.some.inj moved
    exact .hands here
  · cases moved
  · cases moved

/-- Every step of the module is one of these, while the current buffer is not full. -/
theorem metrologyStep_moves {op : MetrologyOp}
    (room : s.metering.currentSample < inpSamples) (moved : metrologyStep crc s op = some t) :
    MetrologyMove crc s op t := by
  cases op with
  | spiRxDmaCallback transferDone frame =>
    simp only [metrologyStep] at moved
    split at moved
    · rename_i receiving
      obtain rfl := Option.some.inj moved
      cases transferDone with
      | false => exact .ignores
      | true =>
        have received : s.metering.Receives crc frame (s.metering.spiRxDmaCallback crc frame) :=
          Metering.spiRxDmaCallback_receives room
        rcases same : s.metering.spiRxDmaCallback crc frame with ⟨metering, _ | _⟩
        · simp only [Metrology.spiRxDmaCallback, if_true, same]
          exact .receives receiving (same ▸ received)
        · simp only [Metrology.spiRxDmaCallback, if_true, same]
          exact .completes receiving (same ▸ received)
    · simp at moved
  | task => exact metrologyTask_moves moved
  | calculated spectrum =>
    simp only [metrologyStep] at moved
    split at moved
    · rename_i buffer here
      obtain rfl := Option.some.inj moved
      exact .releases here
    · simp at moved
  | init =>
    simp only [metrologyStep, Option.ite_none_right_eq_some, Option.some.injEq] at moved
    obtain ⟨_, rfl⟩ := moved
    exact .initialized
  | deinit =>
    simp only [metrologyStep, Option.ite_none_right_eq_some, Option.some.injEq] at moved
    obtain ⟨_, rfl⟩ := moved
    exact .deletes
  | deinitRest =>
    simp only [metrologyStep, Option.ite_none_right_eq_some, Option.some.injEq] at moved
    obtain ⟨deleted, rfl⟩ := moved
    exact .deinitializes deleted

end Moves

end EasyEvse.Meter
