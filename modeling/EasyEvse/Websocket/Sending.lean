import Mathlib.Data.Int.Notation
import EasyEvse.Transition.Run
import EasyEvse.Transition.Spans

/-! The messages to be sent, which the client thread writes while another task may clear them. -/

namespace EasyEvse.Websocket

open Transition

/-- A message with the number of its bytes that were written. -/
structure WebsocketMessage (α : Type) where
  payload : α
  sentBytes : ℕ := 0
  deriving DecidableEq, Repr

/-- Where the callback of a writable connection stands. -/
inductive WriteStage
  | outside
  /-- The loop looks whether the queue is empty. -/
  | looping
  | fronting
  /-- The message was written completely, and is reported as sent. -/
  | popping (message : ℕ)
  /-- After the loop the callback looks another time. -/
  | ending
  | taking
  | writing (message : ℕ)
  /-- After the front of an empty queue was asked for or taken out. -/
  | undefined
  /-- After the message to be written was found to be written already. -/
  | failed
  deriving DecidableEq, Repr

/-- The queue of messages and the callback, with what was written, reported and taken out so far. -/
structure SendQueue (α : Type) where
  /-- All messages that were ever polled, which are referred to by their number. -/
  messages : List (WebsocketMessage α) := []
  messageQueue : List ℕ := []
  stage : WriteStage := .outside
  written : List ℕ := []
  sent : List ℕ := []
  popped : List ℕ := []
  deriving DecidableEq, Repr

/-- What is done with the queue. Each call of the callback locks the mutex on its own. -/
inductive SendOp (α : Type)
  | pollMessage (payload : α)
  | clearAllQueues
  | onConnWritable
  | empty
  | front
  | pop
  /-- The connection takes so many bytes, or the write fails. -/
  | sendInternal (result : ℤ)
  deriving DecidableEq, Repr

/-- Everything that waits is thrown away. -/
def SendOp.isClear {α : Type} : SendOp α → Bool
  | .clearAllQueues => true
  | _ => false

/-- A message is put in the queue. -/
def SendOp.isPoll {α : Type} : SendOp α → Bool
  | .pollMessage _ => true
  | _ => false

/-- The callback asks for the front of the queue. -/
def SendOp.isFront {α : Type} : SendOp α → Bool
  | .front => true
  | _ => false

/-- The message that the callback has reported and not taken out yet. -/
def WriteStage.reported : WriteStage → List ℕ
  | .popping message => [message]
  | _ => []

/-- The message that the callback is about to write. -/
def WriteStage.held : WriteStage → List ℕ
  | .writing message => [message]
  | _ => []

section Sending

variable {α : Type} (length : α → ℕ)

/-- All bytes of the message were written. -/
def WebsocketMessage.isComplete (message : WebsocketMessage α) : Bool :=
  length message.payload ≤ message.sentBytes

/-- A part of a message that was written does not count: it is written again as a whole. -/
def WebsocketMessage.sendInternal (result : ℤ) (message : WebsocketMessage α) :
    WebsocketMessage α :=
  { message with sentBytes := if (length message.payload : ℤ) ≤ result then result.toNat else 0 }

namespace SendQueue

/-- All bytes of a message in the queue were written. -/
def isComplete (q : SendQueue α) (n : ℕ) : Bool := q.messages[n]?.any (·.isComplete length)

/-- In the loop, what was written before this callback is on the wire, and is reported. -/
def frontInLoop (q : SendQueue α) : SendQueue α :=
  match q.messageQueue with
  | [] => { q with stage := .undefined }
  | n :: _ =>
    -- What is reported is taken out by a separate call.
    if q.isComplete length n then { q with stage := .popping n, sent := q.sent ++ [n] }
    else { q with stage := .ending }

/-- After the loop, one message is written that was not written yet. -/
def frontAfterLoop (q : SendQueue α) : SendQueue α :=
  match q.messageQueue with
  | [] => { q with stage := .undefined }
  -- A message that is complete after the loop is an error of the callback.
  | n :: _ => { q with stage := if q.isComplete length n then .failed else .writing n }

/-- The front is taken out, whichever message that is by now. -/
def popFront (q : SendQueue α) : SendQueue α :=
  match q.messageQueue with
  | [] => { q with stage := .undefined }
  | n :: rest =>
    { q with messageQueue := rest, popped := q.popped ++ [n], stage := .looping }

/-- The message is written, even if it is no longer in the queue. -/
def sendInternal (n : ℕ) (result : ℤ) (q : SendQueue α) : SendQueue α :=
  { q with
    messages := q.messages.modify n (·.sendInternal length result)
    written :=
      -- Only a message whose bytes were all taken counts as written.
      if q.messages[n]?.any fun m => (length m.payload : ℤ) ≤ result then q.written ++ [n]
      else q.written
    stage := .outside }

/-- Any task may put a message in the queue or clear it between two calls of the callback. -/
def step : Step (SendQueue α) (SendOp α) := fun q op =>
  match op, q.stage with
  | .pollMessage payload, _ =>
    some { q with
      messages := q.messages ++ [{ payload }]
      messageQueue := q.messageQueue ++ [q.messages.length] }
  | .clearAllQueues, _ => some { q with messageQueue := [] }
  | .onConnWritable, .outside => some { q with stage := .looping }
  -- The callback looks, asks for the front and takes it out with three calls.
  | .empty, .looping =>
    some { q with stage := if q.messageQueue.isEmpty then .ending else .fronting }
  | .front, .fronting => some (q.frontInLoop length)
  | .pop, .popping _ => some q.popFront
  | .empty, .ending =>
    some { q with stage := if q.messageQueue.isEmpty then .outside else .taking }
  | .front, .taking => some (q.frontAfterLoop length)
  | .sendInternal result, .writing n => some (q.sendInternal length n result)
  | _, _ => none

/-- There is nothing to write of a message. -/
def Blank (q : SendQueue α) (n : ℕ) : Prop :=
  ∃ message, q.messages[n]? = some message ∧ length message.payload = 0

/--
The callback took nothing from an empty queue, and took out what it had reported.

The messages are numbered as they were polled, so that increasing numbers are their order.
-/
structure Good (q : SendQueue α) : Prop where
  defined : q.stage ≠ .undefined
  popped : q.popped ++ q.stage.reported = q.sent
  written : q.written.Pairwise (· < ·)
  sent : q.sent.Pairwise (· < ·)
  whole : ∀ n ∈ q.sent, n ∈ q.written ∨ q.Blank length n
  failed : q.stage = .failed → ∃ n, q.Blank length n

/-- The queue was cleared, and nothing came since. -/
def Emptied (ops : List (SendOp α)) : Prop :=
  openAfter (fun op => op.isClear = true) (fun op => op.isPoll = true) false ops = true

/-- The queue was cleared after the callback asked for its front. -/
def Disturbed (ops : List (SendOp α)) : Prop :=
  openAfter (fun op => op.isClear = true) (fun op => op.isFront = true) false ops = true

/-- What the callback asks for or takes out is there, whatever was cleared. -/
def Undisturbed (before : List (SendOp α)) : SendOp α → Prop
  | .front => ¬ Emptied before
  | .pop => ¬ Disturbed before
  | _ => True

/-- Everything that can happen next, with what it asks for and what it does. -/
inductive Does (q : SendQueue α) : SendOp α → SendQueue α → Prop
  | polls {payload : α} : Does q (.pollMessage payload)
      { q with
        messages := q.messages ++ [{ payload }]
        messageQueue := q.messageQueue ++ [q.messages.length] }
  | clears : Does q .clearAllQueues { q with messageQueue := [] }
  | begins (stage : q.stage = .outside) : Does q .onConnWritable { q with stage := .looping }
  | sees (stage : q.stage = .looping) (more : q.messageQueue ≠ []) :
    Does q .empty { q with stage := .fronting }
  | seesNone (stage : q.stage = .looping) (empty : q.messageQueue = []) :
    Does q .empty { q with stage := .ending }
  | seesAgain (stage : q.stage = .ending) (more : q.messageQueue ≠ []) :
    Does q .empty { q with stage := .taking }
  | ends (stage : q.stage = .ending) : Does q .empty { q with stage := .outside }
  | frontNone (stage : q.stage = .fronting ∨ q.stage = .taking) (empty : q.messageQueue = []) :
    Does q .front { q with stage := .undefined }
  | reports {n : ℕ} {rest : List ℕ} (stage : q.stage = .fronting)
    (queued : q.messageQueue = n :: rest) (complete : q.isComplete length n = true) :
    Does q .front { q with stage := .popping n, sent := q.sent ++ [n] }
  | leaves {n : ℕ} {rest : List ℕ} (stage : q.stage = .fronting)
    (queued : q.messageQueue = n :: rest) (part : q.isComplete length n = false) :
    Does q .front { q with stage := .ending }
  | fails {n : ℕ} {rest : List ℕ} (stage : q.stage = .taking)
    (queued : q.messageQueue = n :: rest) (complete : q.isComplete length n = true) :
    Does q .front { q with stage := .failed }
  | takes {n : ℕ} {rest : List ℕ} (stage : q.stage = .taking)
    (queued : q.messageQueue = n :: rest) (part : q.isComplete length n = false) :
    Does q .front { q with stage := .writing n }
  | popNone {n : ℕ} (stage : q.stage = .popping n) (empty : q.messageQueue = []) :
    Does q .pop { q with stage := .undefined }
  | pops {n m : ℕ} {rest : List ℕ} (stage : q.stage = .popping n)
    (queued : q.messageQueue = m :: rest) :
    Does q .pop { q with messageQueue := rest, popped := q.popped ++ [m], stage := .looping }
  | writes {n : ℕ} {result : ℤ} (stage : q.stage = .writing n) :
    Does q (.sendInternal result) (q.sendInternal length n result)

variable {length : α → ℕ} {q next : SendQueue α} {op : SendOp α}

/-- Whatever happens is one of the above. -/
theorem step_does (moved : step length q op = some next) : Does length q op next := by
  -- The operation and the stage of the callback decide, and then whether the queue is empty.
  cases op with
  | pollMessage payload =>
    obtain rfl := Option.some.inj moved
    exact .polls
  | clearAllQueues =>
    obtain rfl := Option.some.inj moved
    exact .clears
  | onConnWritable =>
    cases stage : q.stage <;> simp [step, stage] at moved
    subst moved
    exact .begins stage
  | empty =>
    cases stage : q.stage <;> simp [step, stage] at moved <;> subst moved
    -- In the loop, an empty queue ends it.
    · split
      · rename_i empty
        exact .seesNone stage empty
      · rename_i more
        exact .sees stage more
    -- After the loop, an empty queue ends the callback.
    · split
      · exact .ends stage
      · rename_i more
        exact .seesAgain stage more
  | front =>
    cases stage : q.stage <;> simp [step, stage] at moved <;> subst moved
    -- In the loop, a message that was written is reported.
    · unfold frontInLoop
      split
      · rename_i empty
        exact .frontNone (.inl stage) empty
      · rename_i n rest queued
        split
        · rename_i complete
          exact .reports stage queued complete
        · rename_i part
          exact .leaves stage queued (by simpa using part)
    -- After the loop, a message that was not written yet is taken.
    · unfold frontAfterLoop
      split
      · rename_i empty
        exact .frontNone (.inr stage) empty
      · rename_i n rest queued
        split
        · rename_i complete
          exact .fails stage queued complete
        · rename_i part
          exact .takes stage queued (by simpa using part)
  | pop =>
    cases stage : q.stage <;> simp [step, stage] at moved
    subst moved
    unfold popFront
    split
    · rename_i empty
      exact .popNone stage empty
    · rename_i m rest queued
      exact .pops stage queued
  | sendInternal result =>
    cases stage : q.stage <;> simp [step, stage] at moved
    subst moved
    exact .writes stage

end SendQueue

end Sending

end EasyEvse.Websocket
