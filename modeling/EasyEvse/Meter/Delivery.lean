import EasyEvse.Meter.Ownership

/-! Every complete buffer is on its way to the task, although the queue may be full. -/

namespace EasyEvse.Meter

open Transition

/-- The buffer that the task has taken a message for, until it sets the buffer free. -/
def TaskState.held : TaskState → Option BufferIndex
  | .dispatching msg => if msg.event = .dataRcv then some msg.data else none
  | .processing buffer | .calculating buffer => some buffer
  | .metrologyInit | .afeInit | .awaitTransfer | .cleanEverything | .looping | .msgQGet
  | .ended => none

/-- The task has given up both buffers for the last time, and not ended. -/
def TaskState.InMainLoop : TaskState → Prop
  | .looping | .msgQGet | .dispatching _ | .processing _ | .calculating _ => True
  | .metrologyInit | .afeInit | .awaitTransfer | .cleanEverything | .ended => False

/-- The module is initialized before the main loop begins, and not deinitialized. -/
def InitializedInTime (s : Metrology) : MetrologyOp → Prop
  | .task => s.task = .cleanEverything → s.isInit = true
  | .deinit => False
  | .spiRxDmaCallback _ _ | .calculated _ | .init | .deinitRest => True

instance (s : Metrology) : DecidablePred (InitializedInTime s)
  | .task => inferInstanceAs (Decidable (_ → _))
  | .deinit => isFalse id
  | .spiRxDmaCallback _ _ | .calculated _ | .init | .deinitRest => isTrue trivial

/-- The message about a completed buffer. -/
def completion (buffer : BufferIndex) : Msg := ⟨.dataRcv, buffer⟩

section Queue

variable {queue : List Msg} {msg other : Msg}

/-- A message that is put into the queue is there at most once more. -/
theorem count_msgQPut : (msgQPut queue msg).count other ≤
    queue.count other + if msg = other then 1 else 0 := by
  unfold msgQPut
  split
  · simp [List.count_append, List.count_singleton]
  -- A full queue stays as it is.
  · exact Nat.le_add_right _ _

/-- What is in the queue stays there, whatever is put into it. -/
theorem mem_msgQPut (member : other ∈ queue) : other ∈ msgQPut queue msg := by
  unfold msgQPut
  split
  · exact List.mem_append_left _ member
  · exact member

/-- A message that gets lost finds the queue full. -/
theorem full_of_lost (lost : msg ∉ msgQPut queue msg) :
    queueLength ≤ queue.length ∧ queue.count msg = 0 := by
  unfold msgQPut at lost
  split at lost
  · simp at lost
  -- The put fails in the other branch only, and then the message is not there.
  · rename_i full
    exact ⟨Nat.le_of_not_lt full, List.count_eq_zero.mpr lost⟩

/-- A queue of messages about completed buffers holds those of the one and of the other. -/
theorem length_eq_counts (buffer : BufferIndex)
    (data : ∀ msg ∈ queue, msg.event = .dataRcv) :
    queue.length = queue.count (completion buffer) + queue.count (completion (1 - buffer)) := by
  induction queue with
  | nil => rfl
  | cons msg queue ih =>
    have rest := ih fun other member => data other (List.mem_cons_of_mem _ member)
    obtain ⟨event, index⟩ := msg
    obtain rfl : event = .dataRcv := data _ List.mem_cons_self
    -- The first message is about the one buffer or the other.
    have either : ∀ buffer index : BufferIndex,
        (if index = buffer then 1 else 0) + (if index = 1 - buffer then 1 else 0) = 1 := by
      decide
    have first := either buffer index
    simp only [List.length_cons, List.count_cons, completion, beq_iff_eq, Msg.mk.injEq,
      true_and] at rest ⊢
    omega

end Queue

/-- The messages about the buffer that the task has not acted on, with the one it has taken. -/
def Metrology.pending (s : Metrology) (buffer : BufferIndex) : ℕ :=
  s.queue.count (completion buffer) + if s.task.held = some buffer then 1 else 0

/-- What holds of the messages, before the main loop and in it. -/
structure Metrology.Delivers (s : Metrology) : Prop where
  alive : s.taskDeleted = false
  data : ∀ msg ∈ s.queue, msg.event = .dataRcv
  early : s.task = .metrologyInit ∨ s.task = .afeInit → s.receiving = false
  silent : s.receiving = false →
    s.queue = [] ∧ ∀ buffer, s.metering.bufferInUse buffer = false
  /-- Before the main loop no buffer is completed twice. -/
  before : ¬ s.task.InMainLoop → ∀ buffer,
    s.queue.count (completion buffer) ≤ (s.metering.bufferInUse buffer).toNat
  running : s.task.InMainLoop → s.isInit = true
  /-- In the main loop there is one message too many at most, left from before it. -/
  bounded : s.task.InMainLoop → ∀ buffer,
    s.pending buffer ≤ 1 + (s.metering.bufferInUse buffer).toNat
  delivered : s.task.InMainLoop → ∀ buffer, s.metering.bufferInUse buffer = true →
    completion buffer ∈ s.queue ∨ s.task.held = some buffer

section Steps

variable {crc : Sample → BitVec 16} {s t : Metrology} {op : MetrologyOp}

/-- A transfer that completes no buffer leaves both as they were. -/
theorem Metering.Receives.unfinished {m m' : Metering} {frame : Frame}
    (receives : m.Receives crc frame (m', false)) : m'.bufferInUse = m.bufferInUse := by
  cases receives with
  | restarts _ | drops _ _ | writes _ _ _ => rfl

/-- A transfer that completes a buffer finds it free, and makes it the one to be processed. -/
theorem Metering.Receives.finished {m m' : Metering} {frame : Frame}
    (receives : m.Receives crc frame (m', true)) :
    m.bufferInUse m.wrBuffer = false ∧
      m'.bufferInUse = Function.update m.bufferInUse m.wrBuffer true ∧
      m'.rdBuffer = m.wrBuffer := by
  cases receives with
  | completes _ free _ _ => exact ⟨free, rfl, rfl⟩

/-- The queue after the interrupt has told the task of a buffer. -/
def Metrology.told (s : Metrology) (buffer : BufferIndex) : List Msg :=
  if s.isInit then msgQPut s.queue (completion buffer) else s.queue

/-- The message about the completed buffer changes nothing but the queue. -/
theorem startProcessing_eq :
    s.startProcessing = { s with queue := s.told s.metering.rdBuffer } := by
  unfold Metrology.startProcessing Metrology.setEvent Metrology.told
  split <;> rfl

/-- Telling the task of a buffer puts one message about it into the queue at most. -/
theorem count_told (buffer other : BufferIndex) : (s.told buffer).count (completion other) ≤
    s.queue.count (completion other) + if buffer = other then 1 else 0 := by
  have put : (msgQPut s.queue (completion buffer)).count (completion other) ≤
      s.queue.count (completion other) + if completion buffer = completion other then 1 else 0 :=
    count_msgQPut
  unfold Metrology.told
  split
  · simpa [completion] using put
  · exact Nat.le_add_right _ _

/-- What is in the queue afterwards was there, or is the message. -/
theorem mem_told {msg : Msg} {buffer : BufferIndex} (member : msg ∈ s.told buffer) :
    msg ∈ s.queue ∨ msg = completion buffer := by
  unfold Metrology.told msgQPut at member
  split_ifs at member
  · simpa using member
  · exact .inl member
  · exact .inl member

/-- A buffer that is completed reaches the task, also when its message finds the queue full. -/
theorem Metrology.Delivers.completes {frame : Frame} {metering : Metering} (delivers : s.Delivers)
    (receiving : s.receiving = true) (received : s.metering.Receives crc frame (metering, true)) :
    (Metrology.startProcessing { s with isTransferCompleted := true, metering }).Delivers := by
  obtain ⟨free, flags, current⟩ := received.finished
  have told : (Metrology.startProcessing { s with isTransferCompleted := true, metering }) =
      { s with
        isTransferCompleted := true, metering, queue := s.told s.metering.wrBuffer } := by
    rw [startProcessing_eq]
    simp only [current]
    rfl
  -- A message about the buffer comes together with its flag, which was clear before.
  have together : ∀ buffer, (s.told s.metering.wrBuffer).count (completion buffer) +
      (s.metering.bufferInUse buffer).toNat ≤
      s.queue.count (completion buffer) + (metering.bufferInUse buffer).toNat := by
    intro buffer
    have more := count_told (s := s) s.metering.wrBuffer buffer
    by_cases same : s.metering.wrBuffer = buffer
    · subst same
      simp only [free, flags, Function.update_self, Bool.toNat_true, Bool.toNat_false,
        if_true] at more ⊢
      omega
    · simp only [flags, Function.update_of_ne (Ne.symm same), if_neg same] at more ⊢
      omega
  rw [told]
  exact {
    alive := delivers.alive
    data := fun msg member => by
      rcases mem_told member with earlier | rfl
      · exact delivers.data msg earlier
      · rfl
    early := delivers.early
    silent := fun still => by simp [receiving] at still
    before := fun outside buffer => by
      have few := delivers.before outside buffer
      have step := together buffer
      show (s.told s.metering.wrBuffer).count (completion buffer) ≤
        (metering.bufferInUse buffer).toNat
      omega
    running := delivers.running
    bounded := fun inside buffer => by
      have few := delivers.bounded inside buffer
      have step := together buffer
      unfold Metrology.pending at few
      show (s.told s.metering.wrBuffer).count (completion buffer) +
        (if s.task.held = some buffer then 1 else 0) ≤
        1 + (metering.bufferInUse buffer).toNat
      omega
    delivered := fun inside buffer inUse => by
      have isInit := delivers.running inside
      unfold Metrology.told
      simp only [isInit, if_true]
      by_cases same : s.metering.wrBuffer = buffer
      · -- A message that gets lost would find two of the other buffer and one of its own.
        subst same
        by_contra lost
        obtain ⟨full, none⟩ := full_of_lost fun member => lost (.inl member)
        have total := length_eq_counts s.metering.wrBuffer delivers.data
        have others := delivers.bounded inside (1 - s.metering.wrBuffer)
        have flag := Bool.toNat_le (s.metering.bufferInUse (1 - s.metering.wrBuffer))
        unfold Metrology.pending at others
        unfold queueLength at full
        omega
      · have earlier : s.metering.bufferInUse buffer = true := by
          simpa [flags, Ne.symm same] using inUse
        exact (delivers.delivered inside buffer earlier).imp_left mem_msgQPut }

/-- Before the main loop only that is asked which does not speak of the loop. -/
theorem Metrology.Delivers.beforeLoop (outside : ¬ s.task.InMainLoop)
    (alive : s.taskDeleted = false) (data : ∀ msg ∈ s.queue, msg.event = .dataRcv)
    (early : s.task = .metrologyInit ∨ s.task = .afeInit → s.receiving = false)
    (silent : s.receiving = false →
      s.queue = [] ∧ ∀ buffer, s.metering.bufferInUse buffer = false)
    (before : ∀ buffer,
      s.queue.count (completion buffer) ≤ (s.metering.bufferInUse buffer).toNat) :
    s.Delivers where
  alive := alive
  data := data
  early := early
  silent := silent
  before _ := before
  running inside := absurd inside outside
  bounded inside := absurd inside outside
  delivered inside := absurd inside outside

/-- A step in the main loop that loses no message about a buffer that stays complete. -/
theorem Metrology.Delivers.inLoop (delivers : s.Delivers) (inside : s.task.InMainLoop)
    (stays : t.task.InMainLoop) (flags : t.taskDeleted = s.taskDeleted ∧ t.isInit = s.isInit ∧
      t.receiving = s.receiving)
    (queue : ∀ msg ∈ t.queue, msg ∈ s.queue)
    (inUse : ∀ buffer, t.metering.bufferInUse buffer = true →
      s.metering.bufferInUse buffer = true)
    (fewer : ∀ buffer, t.pending buffer + (s.metering.bufferInUse buffer).toNat ≤
      s.pending buffer + (t.metering.bufferInUse buffer).toNat)
    (arrives : ∀ buffer, t.metering.bufferInUse buffer = true →
      completion buffer ∈ s.queue ∨ s.task.held = some buffer →
      completion buffer ∈ t.queue ∨ t.task.held = some buffer) : t.Delivers where
  alive := flags.1.trans delivers.alive
  data msg member := delivers.data msg (queue msg member)
  -- The states before the transfer are not in the main loop.
  early start := by
    rcases start with here | here <;> simp [here, TaskState.InMainLoop] at stays
  silent still := by
    obtain ⟨none, free⟩ := delivers.silent (flags.2.2 ▸ still)
    refine ⟨List.eq_nil_iff_forall_not_mem.mpr fun msg member => ?_, fun buffer => ?_⟩
    · have earlier := queue msg member
      simp [none] at earlier
    · cases used : t.metering.bufferInUse buffer with
      | false => rfl
      | true => exact absurd (inUse buffer used) (by simp [free buffer])
  before outside := absurd stays outside
  running _ := flags.2.1.trans (delivers.running inside)
  bounded _ buffer := by
    have few := delivers.bounded inside buffer
    have less := fewer buffer
    omega
  delivered _ buffer used :=
    arrives buffer used (delivers.delivered inside buffer (inUse buffer used))

/-- A step in the main loop after which the task holds the buffer that it held before. -/
theorem Metrology.Delivers.holdsOn (delivers : s.Delivers) (inside : s.task.InMainLoop)
    (stays : t.task.InMainLoop) (flags : t.taskDeleted = s.taskDeleted ∧ t.isInit = s.isInit ∧
      t.receiving = s.receiving)
    (queue : t.queue = s.queue) (inUse : t.metering.bufferInUse = s.metering.bufferInUse)
    (held : t.task.held = s.task.held) : t.Delivers := by
  refine delivers.inLoop inside stays flags (fun msg member => queue ▸ member)
    (fun buffer used => inUse ▸ used) (fun buffer => ?_) fun buffer _ arrived => ?_
  · rw [Metrology.pending, Metrology.pending, queue, inUse, held]
  · rwa [queue, held]

/-- When both buffers are given up, each has one message in the queue at most. -/
theorem Metrology.Delivers.cleans (delivers : s.Delivers) (here : s.task = .cleanEverything)
    (isInit : s.isInit = true) :
    Metrology.Delivers { s with metering := s.metering.cleanEverything, task := .looping } := by
  have few := delivers.before (by simp [here, TaskState.InMainLoop])
  exact {
    alive := delivers.alive
    data := delivers.data
    early := by simp
    silent := fun still => ⟨(delivers.silent still).1, fun _ => rfl⟩
    before := fun outside => absurd trivial outside
    running := fun _ => isInit
    bounded := fun _ buffer => by
      have flag := Bool.toNat_le (s.metering.bufferInUse buffer)
      have few := few buffer
      simp only [Metrology.pending, TaskState.held, reduceCtorEq, if_false]
      omega
    delivered := fun _ buffer inUse => by
      simp [Metering.cleanEverything, Metering.note] at inUse }

/-- When a buffer is set free, the other one stays with its message. -/
theorem Metrology.Delivers.releases {buffer : BufferIndex} {spectrum : Vector Sample inpSamples}
    (delivers : s.Delivers) (here : s.task = .calculating buffer) :
    Metrology.Delivers
      { s with metering := s.metering.release buffer spectrum, task := .looping } := by
  -- A buffer that is in use afterwards is the other one, and was so before.
  have still : ∀ other, (s.metering.release buffer spectrum).bufferInUse other = true →
      other ≠ buffer ∧ s.metering.bufferInUse other = true := by
    intro other inUse
    by_cases same : other = buffer
    · simp [Metering.release, Metering.note, same] at inUse
    · exact ⟨same, by simpa [Metering.release, Metering.note, same] using inUse⟩
  refine delivers.inLoop (by simp [here, TaskState.InMainLoop]) trivial ⟨rfl, rfl, rfl⟩
    (fun _ => id) (fun other inUse => (still other inUse).2) (fun other => ?_)
    fun other inUse => ?_
  · -- The buffer is free, and the task holds it no longer.
    by_cases same : other = buffer
    · subst same
      have flag := Bool.toNat_le (s.metering.bufferInUse other)
      simp only [Metrology.pending, here, TaskState.held, reduceCtorEq, if_false, if_true]
      omega
    · simp [Metrology.pending, here, TaskState.held, Metering.release, Metering.note, same]
  · intro arrived
    refine .inl (arrived.resolve_right fun held => ?_)
    simp only [here, TaskState.held, Option.some.injEq] at held
    exact (still other inUse).1 held.symm

/-- Every step of a module that is initialized in time keeps that. -/
theorem MetrologyMove.delivers (move : MetrologyMove crc s op t) (delivers : s.Delivers)
    (inTime : InitializedInTime s op) : t.Delivers := by
  cases move with
  | ignores => exact delivers
  | @receives frame metering receiving received =>
    -- Without a completion the flags are as they were.
    have same : metering.bufferInUse = s.metering.bufferInUse := received.unfinished
    exact {
      alive := delivers.alive
      data := delivers.data
      early := delivers.early
      silent := fun still => by simp [receiving] at still
      before := same ▸ delivers.before
      running := delivers.running
      bounded := fun inside buffer => by
        have few := delivers.bounded inside buffer
        rwa [← same] at few
      delivered := same ▸ delivers.delivered }
  | completes receiving received => exact delivers.completes receiving received
  | initializes here =>
    -- Nothing was received yet, so the queue is empty.
    have still := delivers.early (.inl here)
    obtain ⟨none, _⟩ := delivers.silent still
    refine .beforeLoop id delivers.alive delivers.data (fun _ => still)
      (fun _ => ⟨none, fun _ => rfl⟩) fun buffer => ?_
    simp [none]
  | starts here =>
    -- Receiving starts with the queue still empty.
    obtain ⟨none, _⟩ := delivers.silent (delivers.early (.inr here))
    refine .beforeLoop id delivers.alive delivers.data (by simp) (by simp) fun buffer => ?_
    simp [none]
  | proceeds here =>
    -- The task has only waited.
    have few := delivers.before (by simp [here, TaskState.InMainLoop])
    exact .beforeLoop id delivers.alive delivers.data (by simp) delivers.silent few
  | cleans here =>
    -- The main loop begins, and the module is initialized by then.
    exact delivers.cleans here (inTime here)
  | leaves here deleted => simp [delivers.alive] at deleted
  | stays here =>
    exact delivers.holdsOn (by simp [here, TaskState.InMainLoop]) trivial ⟨rfl, rfl, rfl⟩ rfl rfl
      (by simp [here, TaskState.held])
  | @gets msg queue here next =>
    -- The message that was the first in the queue is the one that the task holds.
    obtain ⟨event, index⟩ := msg
    obtain rfl : event = .dataRcv := delivers.data _ (by rw [next]; exact List.mem_cons_self)
    refine delivers.inLoop (by simp [here, TaskState.InMainLoop]) trivial ⟨rfl, rfl, rfl⟩
      (fun _ member => by simp [next, member]) (fun _ => id) (fun buffer => ?_) fun buffer _ => ?_
    · simp [Metrology.pending, here, next, TaskState.held, List.count_cons, completion]
    · intro arrived
      rw [next, List.mem_cons] at arrived
      rcases arrived with (first | later) | none
      · exact .inr (by simpa [completion, TaskState.held] using first.symm)
      · exact .inl later
      · simp [here, TaskState.held] at none
  | accepts here isData inUse =>
    exact delivers.holdsOn (by simp [here, TaskState.InMainLoop]) trivial ⟨rfl, rfl, rfl⟩ rfl rfl
      (by simp [here, TaskState.held, isData])
  | @passes msg here passed =>
    refine delivers.inLoop (by simp [here, TaskState.InMainLoop]) trivial ⟨rfl, rfl, rfl⟩
      (fun _ => id) (fun _ => id) (fun buffer => ?_) fun buffer inUse => ?_
    · have none : TaskState.looping.held ≠ some buffer := by simp [TaskState.held]
      simp only [Metrology.pending, if_neg none]
      omega
    · -- What is passed over is about a buffer that is free.
      intro arrived
      refine .inl (arrived.resolve_right fun held => ?_)
      simp only [here, TaskState.held, Option.ite_none_right_eq_some, Option.some.injEq] at held
      obtain ⟨isData, rfl⟩ := held
      exact absurd inUse (by simp [passed isData])
  -- While the library works on the buffer the task still holds it.
  | hands here =>
    exact delivers.holdsOn (by simp [here, TaskState.InMainLoop]) trivial ⟨rfl, rfl, rfl⟩ rfl rfl
      (by simp [here, TaskState.held])
  | releases here => exact delivers.releases here
  -- A late initialization does no harm to a module that is initialized already.
  | initialized =>
    exact {
      alive := delivers.alive
      data := delivers.data
      early := delivers.early
      silent := delivers.silent
      before := delivers.before
      running := fun _ => rfl
      bounded := delivers.bounded
      delivered := delivers.delivered }
  | deletes => exact inTime.elim
  | deinitializes deleted => simp [delivers.alive] at deleted

/--
No buffer is ever stuck, although the queue has room for three messages only.

In the main loop, each buffer in use has a message in the queue, or is with the task.
-/
theorem no_buffer_stuck (crc : Sample → BitVec 16) (start : Metrology) (initial : start.Initial)
    (ops : List MetrologyOp) (ran : run (metrologyStep crc) start ops = some t)
    (inTime : Meets InitializedInTime (metrologyStep crc) start ops)
    (inside : t.task.InMainLoop) (buffer : BufferIndex)
    (inUse : t.metering.bufferInUse buffer = true) :
    completion buffer ∈ t.queue ∨ t.task.held = some buffer := by
  have starts : start.Sound crc ∧ start.Delivers := by
    refine ⟨initial.sound, ?_⟩
    obtain rfl := initial
    exact .beforeLoop id rfl (by simp) (fun _ => rfl) (fun _ => ⟨rfl, fun _ => rfl⟩) (by simp)
  have keeps : ∀ {s op t}, s.Sound crc ∧ s.Delivers → InitializedInTime s op →
      metrologyStep crc s op = some t → t.Sound crc ∧ t.Delivers := by
    intro s op t ⟨sound, delivers⟩ inTime moved
    have move := metrologyStep_moves sound.room moved
    exact ⟨move.sound sound, move.delivers delivers inTime⟩
  exact (run_guarded_invariant keeps starts inTime ran).2.delivered inside buffer inUse

/-- Both buffers are completed while the task has not got to the first one. -/
theorem no_buffer_stuck_behind :
    ∃ t, run (metrologyStep afeGetCRC) {} (startUp ++ period ++ period) = some t ∧
      t.metering.bufferInUse 1 = true ∧ (completion 1 ∈ t.queue ∨ t.task.held = some 1) := by
  have runs : (run (metrologyStep afeGetCRC) {} (startUp ++ period ++ period)).isSome := by
    decide +kernel
  have behind : ∀ t ∈ run (metrologyStep afeGetCRC) {} (startUp ++ period ++ period),
      t.task = .looping ∧ t.metering.bufferInUse 1 = true := by
    decide +kernel
  obtain ⟨t, ran⟩ := Option.isSome_iff_exists.mp runs
  obtain ⟨here, inUse⟩ := behind t ran
  exact ⟨t, ran, inUse, no_buffer_stuck afeGetCRC {} rfl _ ran (by decide +kernel)
    (by simp [here, TaskState.InMainLoop]) 1 inUse⟩

end Steps

end EasyEvse.Meter
