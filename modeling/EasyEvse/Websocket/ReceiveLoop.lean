import EasyEvse.Transition.Run
import EasyEvse.Transition.Spans

/-! The received messages, which one thread handles while another one may clear them. -/

namespace EasyEvse.Websocket

open Transition

variable {α : Type}

/-- Where the thread of the received messages stands. -/
inductive LoopStage (α : Type)
  | looking
  /-- The queue was not empty when the thread looked. -/
  | popping
  | handling (message : α)
  | waiting
  /-- After it took the front of an empty queue. -/
  | undefined
  deriving DecidableEq, Repr

/-- The queue of received messages and its thread, with what came and what was handled so far. -/
structure ReceiveQueue (α : Type) where
  queue : List α := []
  stage : LoopStage α := .looking
  received : List α := []
  handled : List α := []
  deriving DecidableEq, Repr

/-- What is done with the queue, each under its mutex. -/
inductive ReceiveOp (α : Type)
  | push (message : α)
  /-- The connection was opened or closed, and what is left is of no use. -/
  | clear
  | look
  | pop
  | callback
  | wakeUp
  deriving DecidableEq, Repr

/-- Everything that waits is thrown away. -/
def ReceiveOp.isClear : ReceiveOp α → Bool
  | .clear => true
  | _ => false

/-- A message comes in. -/
def ReceiveOp.isPush : ReceiveOp α → Bool
  | .push _ => true
  | _ => false

namespace ReceiveQueue

/-- The thread looks and takes with two calls, between which the others may have their turn. -/
def step : Step (ReceiveQueue α) (ReceiveOp α) := fun r op =>
  match op, r.stage with
  | .push message, _ =>
    some { r with queue := r.queue ++ [message], received := r.received ++ [message] }
  | .clear, _ => some { r with queue := [] }
  | .look, .looking => some { r with stage := if r.queue.isEmpty then .waiting else .popping }
  | .pop, .popping =>
    -- Nothing was looked up again since the look, and so the queue may be empty by now.
    match r.queue with
    | [] => some { r with stage := .undefined }
    | front :: rest => some { r with queue := rest, stage := .handling front }
  | .callback, .handling message =>
    some { r with handled := r.handled ++ [message], stage := .looking }
  -- The wait ends with a message or after a second.
  | .wakeUp, .waiting => some { r with stage := .looking }
  | _, _ => none

/-- The message that the thread took. -/
def hand (r : ReceiveQueue α) : List α :=
  match r.stage with
  | .handling message => [message]
  | _ => []

/-- The thread took nothing from an empty queue, and what it took came in this order. -/
structure Good (r : ReceiveQueue α) : Prop where
  defined : r.stage ≠ .undefined
  inOrder : (r.handled ++ r.hand ++ r.queue).Sublist r.received

/-- The queue was cleared, and nothing came since. -/
def Emptied (ops : List (ReceiveOp α)) : Prop :=
  openAfter (fun op => op.isClear = true) (fun op => op.isPush = true) false ops = true

/-- A message is taken after another one came than those that were cleared. -/
def Refilled (before : List (ReceiveOp α)) : ReceiveOp α → Prop
  | .pop => ¬ Emptied before
  | _ => True

variable {r next : ReceiveQueue α} {op : ReceiveOp α} {ops : List (ReceiveOp α)}

/-- A clearing empties the queue, a message fills it, and anything else leaves it as it was. -/
theorem emptied_snoc : Emptied (ops ++ [op]) ↔
    op.isClear = true ∨ op.isPush = false ∧ Emptied ops := by
  unfold Emptied
  rw [openAfter_snoc]
  -- Only the clearing and the coming of a message count.
  cases op <;> simp [ReceiveOp.isClear, ReceiveOp.isPush]

/-- Everything that can happen next, with what it asks for and what it does. -/
inductive Does (r : ReceiveQueue α) : ReceiveOp α → ReceiveQueue α → Prop
  | push {message : α} : Does r (.push message)
      { r with queue := r.queue ++ [message], received := r.received ++ [message] }
  | clear : Does r .clear { r with queue := [] }
  | nothing (stage : r.stage = .looking) (empty : r.queue = []) :
    Does r .look { r with stage := .waiting }
  | found (stage : r.stage = .looking) (more : r.queue ≠ []) :
    Does r .look { r with stage := .popping }
  | popNothing (stage : r.stage = .popping) (empty : r.queue = []) :
    Does r .pop { r with stage := .undefined }
  | pop {front : α} {rest : List α} (stage : r.stage = .popping)
    (queued : r.queue = front :: rest) :
    Does r .pop { r with queue := rest, stage := .handling front }
  | callback {message : α} (stage : r.stage = .handling message) :
    Does r .callback { r with handled := r.handled ++ [message], stage := .looking }
  | wakeUp (stage : r.stage = .waiting) : Does r .wakeUp { r with stage := .looking }

/-- Whatever happens is one of the above. -/
theorem step_does (moved : step r op = some next) : Does r op next := by
  -- One case for each operation, with the stage of the thread that allows it.
  cases op with
  | push message =>
    obtain rfl := Option.some.inj moved
    exact .push
  | clear =>
    obtain rfl := Option.some.inj moved
    exact .clear
  | look =>
    cases stage : r.stage <;> simp [step, stage] at moved
    subst moved
    -- The answer of the look decides between waiting and taking.
    split
    · rename_i empty
      exact .nothing stage empty
    · rename_i more
      exact .found stage more
  | pop =>
    cases stage : r.stage <;> simp [step, stage] at moved
    cases queued : r.queue with
    | nil =>
      obtain rfl : { r with stage := .undefined } = next := by simpa [queued] using moved
      simpa [queued] using Does.popNothing stage queued
    | cons front rest =>
      obtain rfl : { r with queue := rest, stage := .handling front } = next := by
        simpa [queued] using moved
      exact .pop stage queued
  | callback =>
    cases stage : r.stage <;> simp [step, stage] at moved
    subst moved
    exact .callback stage
  | wakeUp =>
    cases stage : r.stage <;> simp [step, stage] at moved
    subst moved
    exact .wakeUp stage

/-- Messages are taken from the front, so that their order stays what it was. -/
theorem Does.inOrder (does : Does r op next)
    (inOrder : (r.handled ++ r.hand ++ r.queue).Sublist r.received) :
    (next.handled ++ next.hand ++ next.queue).Sublist next.received := by
  cases does with
  | @push message =>
    -- The new message is the last one on both sides.
    show (r.handled ++ r.hand ++ (r.queue ++ [message])).Sublist (r.received ++ [message])
    rw [← List.append_assoc]
    exact inOrder.append (List.Sublist.refl _)
  | clear =>
    -- What is cleared will not be handled, and the order of the rest is the same.
    show (r.handled ++ r.hand ++ []).Sublist r.received
    exact ((List.nil_sublist _).append_left _).trans inOrder
  | popNothing stage empty => simpa [hand, stage, empty] using inOrder
  -- The thread only moves a message from the queue to its hand, and from there to the others.
  | _ => simp_all [hand]

/-- A run is good so far, and a queue in which the thread saw a message is empty only if cleared. -/
structure Sound (ops : List (ReceiveOp α)) (r : ReceiveQueue α) : Prop where
  good : r.Good
  emptied : Emptied ops → r.queue = []
  seen : r.stage = .popping → r.queue = [] → Emptied ops

/-- What others do between the look and the taking leaves something to take, or takes it away. -/
theorem Does.sound (does : Does r op next) (sound : Sound ops r) (allowed : Refilled ops op) :
    Sound (ops ++ [op]) next := by
  obtain ⟨⟨defined, inOrder⟩, emptied, seen⟩ := sound
  -- The parts of the invariant one after the other: good, emptied, and seen.
  refine ⟨⟨?_, does.inOrder inOrder⟩, ?_, ?_⟩
  · cases does with
    | push => exact defined
    | clear => exact defined
    -- What the thread saw was cleared, which is not allowed before it takes.
    | popNothing stage empty => exact absurd (seen stage empty) allowed
    | _ => simp
  · rw [emptied_snoc]
    cases does with
    | push => simp [ReceiveOp.isClear, ReceiveOp.isPush]
    | clear => simp
    | pop stage queued =>
      -- There was a message, and so the queue was not empty.
      simp [ReceiveOp.isClear, ReceiveOp.isPush, show ¬ Emptied ops from allowed]
    | _ => simpa [ReceiveOp.isClear, ReceiveOp.isPush] using emptied
  · rw [emptied_snoc]
    cases does with
    | push => simp
    | clear => simp [ReceiveOp.isClear]
    -- The thread goes on only if there is a message.
    | found stage more => exact fun _ empty => absurd empty more
    | _ => simp

/--
The thread never takes from an empty queue, exactly if a message comes after each clearing first.

The look at the queue and the taking lock the mutex one after the other, and not together.
-/
theorem always_good_iff : (∀ t, Visits step ({} : ReceiveQueue α) ops t → t.Good) ↔
    MeetsAfter Refilled step ({} : ReceiveQueue α) ops := by
  refine @always_good_iff_meetsAfter _ _ _ _ _ Sound Good Refilled
    (fun sound allowed moved => (step_does moved).sound sound allowed) Sound.good ?_
    ⟨⟨by simp, List.Sublist.refl _⟩, by simp [Emptied, openAfter], by simp⟩
  intro ops r op next sound cleared moved now
  cases step_does moved with
  | popNothing => exact now.defined rfl
  | pop stage queued =>
    -- The queue would be empty, after it was cleared and nothing came.
    have empty : r.queue = [] := sound.emptied (by simpa [Refilled] using cleared)
    rw [queued] at empty
    cases empty
  | _ => simp [Refilled] at cleared

/-- The thread takes from an empty queue what it saw before the connection was closed. -/
example : run step ({} : ReceiveQueue ℕ) [.push 1, .look, .clear, .pop] =
    some { stage := .undefined, received := [1] } := rfl

end ReceiveQueue

end EasyEvse.Websocket
