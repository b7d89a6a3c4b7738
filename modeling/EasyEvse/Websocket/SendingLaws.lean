import EasyEvse.Websocket.Sending

/-! The messages are written and reported in their order, whoever clears the queue meanwhile. -/

namespace EasyEvse.Websocket

open Transition

namespace SendQueue

variable {α : Type} {length : α → ℕ} {q next : SendQueue α} {op : SendOp α}
  {ops : List (SendOp α)} {n : ℕ}

/-- The messages are written, reported and queued in the order they were polled. -/
structure Ordered (length : α → ℕ) (q : SendQueue α) : Prop where
  queued : q.messageQueue.Pairwise (· < ·)
  known : ∀ n ∈ q.messageQueue, n < q.messages.length
  written : (q.written ++ q.stage.held).Pairwise (· < ·)
  passed : ∀ n ∈ q.written ++ q.stage.held,
    n < q.messages.length ∧ ∀ m ∈ q.messageQueue, n ≤ m
  sent : q.sent.Pairwise (· < ·)
  reported : ∀ n ∈ q.sent, n < q.messages.length ∧
    ∀ m ∈ q.messageQueue, n ≤ m ∧ (n = m → n ∈ q.stage.reported)
  complete : ∀ n, q.isComplete length n = true ↔ n ∈ q.written ∨ q.Blank length n
  whole : ∀ n ∈ q.sent, n ∈ q.written ∨ q.Blank length n
  held : ∀ n ∈ q.stage.held, q.isComplete length n = false
  /-- Only an empty message can stand written in front when the loop was left. -/
  settled : q.stage = .ending ∨ q.stage = .taking →
    ∀ n ∈ q.messageQueue, q.isComplete length n = true → q.Blank length n
  failed : q.stage = .failed → ∃ n, q.Blank length n

/-- The message that was polled last has the number after those of the others. -/
theorem getElem?_polls {messages : List (WebsocketMessage α)} {message : WebsocketMessage α} :
    (messages ++ [message])[n]? = if n = messages.length then some message else messages[n]? := by
  by_cases last : n = messages.length
  · simp [last]
  · -- Before the last one the list is what it was, and behind it there is nothing.
    rcases Nat.lt_or_gt_of_ne last with old | beyond
    · simp [last, List.getElem?_append_left old]
    · have past : messages.length ≤ n := Nat.le_of_lt beyond
      simp [last, List.getElem?_append_right past, Nat.sub_ne_zero_of_lt beyond, past]

/-- A message that was just polled is complete only if there is nothing to write of it. -/
theorem isComplete_polls {payload : α} {queue : List ℕ} :
    isComplete length { q with messages := q.messages ++ [{ payload }], messageQueue := queue } n =
      true ↔ q.isComplete length n = true ∨ n = q.messages.length ∧ length payload = 0 := by
  -- The older messages are the same, and the new one has no byte written yet.
  simp only [isComplete, getElem?_polls]
  by_cases last : n = q.messages.length <;> simp [last, WebsocketMessage.isComplete]

/-- What there was nothing to write of is so still when another message was polled. -/
theorem blank_polls {payload : α} {queue : List ℕ} :
    Blank length { q with messages := q.messages ++ [{ payload }], messageQueue := queue } n ↔
      q.Blank length n ∨ n = q.messages.length ∧ length payload = 0 := by
  simp only [Blank, getElem?_polls]
  by_cases last : n = q.messages.length <;> simp [last]

/-- A write changes no payload. -/
theorem blank_sendInternal {m : ℕ} {result : ℤ} :
    (q.sendInternal length n result).Blank length m ↔ q.Blank length m := by
  -- Only the bytes that were written change, and those of one message.
  unfold Blank sendInternal
  by_cases same : n = m
  · subst same
    simp [WebsocketMessage.sendInternal]
  · simp [same]

/-- A write completes the message exactly if all of its bytes are taken at once. -/
theorem isComplete_sendInternal {m : ℕ} {result : ℤ} (part : q.isComplete length n = false) :
    (q.sendInternal length n result).isComplete length m = true ↔
      q.isComplete length m = true ∨
        m = n ∧ q.messages[n]?.any (fun message => (length message.payload : ℤ) ≤ result) := by
  -- The other messages are left alone.
  by_cases same : n = m
  · subst same
    cases found : q.messages[n]? with
    | none => simp [isComplete, sendInternal, found]
    | some message =>
      -- The message has some bytes, since not all of them were written.
      have some : message.sentBytes < length message.payload := by
        simpa [isComplete, WebsocketMessage.isComplete, found] using part
      by_cases all : (length message.payload : ℤ) ≤ result
      · have bytes : length message.payload ≤ result.toNat := by omega
        simp [isComplete, sendInternal, WebsocketMessage.isComplete,
          WebsocketMessage.sendInternal, found, all, bytes]
      · have none : length message.payload ≠ 0 := by omega
        simp [isComplete, sendInternal, WebsocketMessage.isComplete,
          WebsocketMessage.sendInternal, found, all, some, none]
  · simp [isComplete, sendInternal, same, Ne.symm same]

/-- The front of the queue is its oldest message. -/
theorem Ordered.front_le {m : ℕ} {rest : List ℕ} (ordered : q.Ordered length)
    (queued : q.messageQueue = n :: rest) (waits : m ∈ q.messageQueue) : n ≤ m := by
  have increasing := ordered.queued
  -- The queue increases from its front on.
  rw [queued, List.pairwise_cons] at increasing
  rcases List.mem_cons.mp (queued ▸ waits) with rfl | later
  · exact Nat.le_refl m
  · exact Nat.le_of_lt (increasing.1 m later)

/-- With nothing left to take out, what was reported is older than everything that waits. -/
theorem Ordered.sent_lt {m : ℕ} (ordered : q.Ordered length) (done : q.stage.reported = [])
    (member : n ∈ q.sent) (waits : m ∈ q.messageQueue) : n < m := by
  -- What was reported is at most as new, and is equal only while it is to be taken out.
  obtain ⟨before, last⟩ := (ordered.reported n member).2 m waits
  refine Nat.lt_of_le_of_ne before fun same => ?_
  have still := last same
  rw [done] at still
  cases still

/-- A callback that holds no message goes on without changing what is written or reported. -/
theorem Ordered.restage {stage : WriteStage} (ordered : q.Ordered length) (free : stage.held = [])
    (done : q.stage.reported = [] ∨ q.messageQueue = [])
    (settled : stage = .ending ∨ stage = .taking →
      ∀ n ∈ q.messageQueue, q.isComplete length n = true → q.Blank length n)
    (failed : stage = .failed → ∃ n, q.Blank length n) : Ordered length { q with stage } where
  queued := ordered.queued
  known := ordered.known
  written := by
    rw [free, List.append_nil]
    exact ordered.written.sublist (List.sublist_append_left _ _)
  passed n member := by
    rw [free, List.append_nil] at member
    exact ordered.passed n (List.mem_append_left _ member)
  sent := ordered.sent
  reported n member := by
    refine ⟨(ordered.reported n member).1, fun m waits => ?_⟩
    -- Nothing is reported and still waits, unless the callback is about to take it out.
    rcases done with none | empty
    · have before := ordered.sent_lt none member waits
      exact ⟨by omega, fun same => by omega⟩
    · rw [empty] at waits
      cases waits
  complete := ordered.complete
  whole := ordered.whole
  held n member := by
    rw [free] at member
    cases member
  settled := settled
  failed := failed

/-- A new message is behind all the others. -/
theorem Ordered.polls {payload : α} (ordered : q.Ordered length) : Ordered length
    { q with
      messages := q.messages ++ [{ payload }]
      messageQueue := q.messageQueue ++ [q.messages.length] } := by
  have behind {l : List ℕ} (known : ∀ n ∈ l, n < q.messages.length) : q.messages.length ∉ l :=
    fun member => Nat.lt_irrefl _ (known _ member)
  have longer {n : ℕ} (old : n < q.messages.length) :
      n < (q.messages ++ [({ payload } : WebsocketMessage α)]).length := by
    rw [List.length_append]
    exact Nat.lt_add_right _ old
  -- Each part of the order asks about the new message apart from the older ones.
  refine ⟨?_, ?_, ordered.written, ?_, ordered.sent, ?_, ?_, ?_, ?_, ?_, ?_⟩
  · exact List.pairwise_append.mpr ⟨ordered.queued, List.pairwise_singleton _ _,
      fun n waits m last => by rw [List.mem_singleton.mp last]; exact ordered.known n waits⟩
  · intro n waits
    rcases List.mem_append.mp waits with old | last
    · exact longer (ordered.known n old)
    · simp [List.mem_singleton.mp last]
  -- What was written is older than the new message.
  · intro n member
    refine ⟨longer (ordered.passed n member).1, fun m waits => ?_⟩
    rcases List.mem_append.mp waits with old | last
    · exact (ordered.passed n member).2 m old
    · rw [List.mem_singleton.mp last]
      exact Nat.le_of_lt (ordered.passed n member).1
  -- So is what was reported, which is therefore not the new one.
  · intro n member
    refine ⟨longer (ordered.reported n member).1, fun m waits => ?_⟩
    rcases List.mem_append.mp waits with old | last
    · exact (ordered.reported n member).2 m old
    · have less := (ordered.reported n member).1
      rw [List.mem_singleton.mp last]
      exact ⟨Nat.le_of_lt less, fun same => absurd same (Nat.ne_of_lt less)⟩
  · -- An empty message is complete from the beginning, and not because it was written.
    intro n
    rw [isComplete_polls, blank_polls, ordered.complete, or_assoc]
  · intro n member
    exact (ordered.whole n member).imp_right fun blank => blank_polls.mpr (.inl blank)
  -- What is about to be written was known before, and is not the new message.
  · intro n member
    have less := (ordered.passed n (List.mem_append_right _ member)).1
    rw [Bool.eq_false_iff, Ne, isComplete_polls]
    rintro (complete | ⟨last, _⟩)
    · rw [ordered.held n member] at complete
      cases complete
    · exact Nat.ne_of_lt less last
  · intro stage n waits complete
    rw [blank_polls]
    rcases isComplete_polls.mp complete with before | last
    · -- What was complete before is one of the older messages.
      rcases List.mem_append.mp waits with old | new
      · exact .inl (ordered.settled stage n old before)
      · refine ((ordered.complete n).mp before).elim (fun written => ?_) .inl
        rw [List.mem_singleton.mp new] at written
        exact absurd written (behind fun m member =>
          (ordered.passed m (List.mem_append_left _ member)).1)
    · exact .inr last
  · intro stage
    obtain ⟨n, blank⟩ := ordered.failed stage
    exact ⟨n, blank_polls.mpr (.inl blank)⟩

/-- What is cleared is no longer in anybody's way. -/
theorem Ordered.clears (ordered : q.Ordered length) :
    Ordered length { q with messageQueue := [] } where
  queued := .nil
  known := by simp
  written := ordered.written
  passed n member := ⟨(ordered.passed n member).1, by simp⟩
  sent := ordered.sent
  reported n member := ⟨(ordered.reported n member).1, by simp⟩
  complete := ordered.complete
  whole := ordered.whole
  held := ordered.held
  settled := by simp
  failed := ordered.failed

/-- What is reported was not reported before, and everything behind it is newer. -/
theorem Ordered.reports {rest : List ℕ} (ordered : q.Ordered length) (stage : q.stage = .fronting)
    (queued : q.messageQueue = n :: rest) (complete : q.isComplete length n = true) :
    Ordered length { q with stage := .popping n, sent := q.sent ++ [n] } := by
  have waits : n ∈ q.messageQueue := by simp [queued]
  -- The callback has nothing left to take out from the round before.
  have done : q.stage.reported = [] := by rw [stage]; rfl
  -- Everything that was reported is older, by the strict order.
  have earlier : ∀ m ∈ q.sent, m < n := fun m member => ordered.sent_lt done member waits
  refine ⟨ordered.queued, ordered.known, ?_, ?_, ?_, ?_, ordered.complete, ?_, by
    simp [WriteStage.held], by simp, by simp⟩
  · simpa [WriteStage.held, stage] using ordered.written
  · simpa [WriteStage.held, stage] using ordered.passed
  · exact List.pairwise_append.mpr ⟨ordered.sent, List.pairwise_singleton _ _,
      fun m member last same => by rw [List.mem_singleton.mp same]; exact earlier m member⟩
  -- The rest of the queue is behind what is reported now.
  · intro m member
    rcases List.mem_append.mp member with old | last
    · refine ⟨(ordered.reported m old).1, fun k later => ?_⟩
      have before := ordered.sent_lt done old later
      exact ⟨by omega, fun same => by omega⟩
    · obtain rfl := List.mem_singleton.mp last
      exact ⟨ordered.known m waits, fun k later =>
        ⟨ordered.front_le queued later, fun _ => by simp [WriteStage.reported]⟩⟩
  -- What is reported is complete, and so it was written or is empty.
  · intro m member
    rcases List.mem_append.mp member with old | last
    · exact ordered.whole m old
    · obtain rfl := List.mem_singleton.mp last
      exact (ordered.complete m).mp complete

/-- What is taken for a write was polled after everything that was written. -/
theorem Ordered.takes {rest : List ℕ} (ordered : q.Ordered length) (stage : q.stage = .taking)
    (queued : q.messageQueue = n :: rest) (part : q.isComplete length n = false) :
    Ordered length { q with stage := .writing n } := by
  have waits : n ∈ q.messageQueue := by simp [queued]
  have free : q.stage.held = [] := by rw [stage]; rfl
  have passed := ordered.passed
  rw [free, List.append_nil] at passed
  have earlier : ∀ m ∈ q.written, m < n := by
    intro m member
    refine Nat.lt_of_le_of_ne ((passed m member).2 n waits) fun same => ?_
    -- What was written is complete, and the front is not.
    have complete := (ordered.complete m).mpr (.inl member)
    rw [same, part] at complete
    cases complete
  -- The message that is taken is put behind what was written.
  refine ⟨ordered.queued, ordered.known, ?_, ?_, ordered.sent, ?_, ordered.complete,
    ordered.whole, ?_, by simp, by simp⟩
  · refine List.pairwise_append.mpr ⟨?_, List.pairwise_singleton _ _,
      fun m member last same => by rw [List.mem_singleton.mp same]; exact earlier m member⟩
    simpa [WriteStage.held, stage] using ordered.written
  · intro m member
    rcases List.mem_append.mp member with old | last
    · exact passed m old
    · obtain rfl := List.mem_singleton.mp last
      exact ⟨ordered.known m waits, fun k later => ordered.front_le queued later⟩
  · intro m member
    refine ⟨(ordered.reported m member).1, fun k later => ?_⟩
    have before := ordered.sent_lt (by rw [stage]; rfl) member later
    exact ⟨by omega, fun same => by omega⟩
  · intro m member
    obtain rfl := List.mem_singleton.mp member
    exact part

/-- What is taken out leaves newer messages behind. -/
theorem Ordered.pops {m : ℕ} {rest : List ℕ} (ordered : q.Ordered length)
    (stage : q.stage = .popping n) (queued : q.messageQueue = m :: rest) :
    Ordered length { q with
      messageQueue := rest, popped := q.popped ++ [m], stage := .looping } := by
  -- Without its front the queue still increases.
  have increasing := ordered.queued
  rw [queued, List.pairwise_cons] at increasing
  have waits {k : ℕ} (later : k ∈ rest) : k ∈ q.messageQueue := by
    rw [queued]
    exact List.mem_cons_of_mem _ later
  refine ⟨increasing.2, fun k later => ordered.known k (waits later), ?_, ?_, ordered.sent, ?_,
    ordered.complete, ordered.whole, by simp [WriteStage.held], by simp, by simp⟩
  · simpa [WriteStage.held, stage] using ordered.written
  · intro k member
    have member : k ∈ q.written := by simpa [WriteStage.held] using member
    obtain ⟨known, before⟩ := ordered.passed k (List.mem_append_left _ member)
    exact ⟨known, fun j later => before j (waits later)⟩
  · intro k member
    refine ⟨(ordered.reported k member).1, fun j later => ?_⟩
    -- What was reported is not newer than the front, and the rest is.
    have before := ((ordered.reported k member).2 m (by simp [queued])).1
    have less := increasing.1 j later
    exact ⟨by omega, fun same => by omega⟩

/-- A write leaves the older messages as they are. -/
theorem Ordered.writes {result : ℤ} (ordered : q.Ordered length) (stage : q.stage = .writing n) :
    (q.sendInternal length n result).Ordered length := by
  have held : q.stage.held = [n] := by rw [stage]; rfl
  have part : q.isComplete length n = false := ordered.held n (by simp [held])
  -- The write adds the message or does not, depending on how many bytes are taken.
  have grows : (q.sendInternal length n result).written.Sublist (q.written ++ [n]) := by
    unfold sendInternal
    dsimp only
    split
    · exact .refl _
    · exact List.sublist_append_left _ _
  have lengths : (q.sendInternal length n result).messages.length = q.messages.length := by
    simp [sendInternal]
  have free : (q.sendInternal length n result).stage.held = [] := rfl
  have mem {m : ℕ} : m ∈ (q.sendInternal length n result).written ↔ m ∈ q.written ∨
      m = n ∧ q.messages[n]?.any (fun message => (length message.payload : ℤ) ≤ result) := by
    unfold sendInternal
    dsimp only
    split
    · rename_i all
      simp [all]
    · rename_i some
      simp [some]
  refine ⟨ordered.queued, ?_, ?_, ?_, ordered.sent, ?_, ?_, ?_, by simp [free], ?_, ?_⟩
  · rw [lengths]
    exact ordered.known
  -- The message moves from the hand to what was written, or is forgotten.
  · rw [free, List.append_nil]
    exact (held ▸ ordered.written).sublist grows
  · intro m member
    rw [free, List.append_nil] at member
    rw [lengths]
    exact ordered.passed m (held ▸ grows.subset member)
  · rw [lengths]
    intro m member
    refine ⟨(ordered.reported m member).1, fun k later => ?_⟩
    have before := ordered.sent_lt (by rw [stage]; rfl) member later
    exact ⟨by omega, fun same => by omega⟩
  · -- The message is complete now exactly if it is written now.
    intro m
    rw [isComplete_sendInternal part, ordered.complete, mem, blank_sendInternal, or_right_comm]
  · intro m member
    rw [mem, blank_sendInternal]
    exact (ordered.whole m member).imp_left .inl
  · simp [sendInternal]
  · simp [sendInternal]

/-- Whatever happens keeps the order. -/
theorem Does.ordered (does : Does length q op next) (ordered : q.Ordered length) :
    next.Ordered length := by
  -- One case for each operation; those that only change the stage are the same lemma.
  cases does with
  | polls => exact ordered.polls
  | clears => exact ordered.clears
  | begins stage => exact ordered.restage rfl (.inl (by rw [stage]; rfl)) (by simp) (by simp)
  | sees stage more => exact ordered.restage rfl (.inl (by rw [stage]; rfl)) (by simp) (by simp)
  | seesNone stage empty => exact ordered.restage rfl (.inr empty) (by simp [empty]) (by simp)
  | seesAgain stage more =>
    exact ordered.restage rfl (.inl (by rw [stage]; rfl))
      (fun _ => ordered.settled (.inl stage)) (by simp)
  | ends stage => exact ordered.restage rfl (.inl (by rw [stage]; rfl)) (by simp) (by simp)
  | frontNone stage empty => exact ordered.restage rfl (.inr empty) (by simp) (by simp)
  | reports stage queued complete => exact ordered.reports stage queued complete
  | @leaves n rest stage queued part =>
    refine ordered.restage rfl (.inl (by rw [stage]; rfl)) (fun _ m waits complete => ?_) (by simp)
    refine ((ordered.complete m).mp complete).elim (fun written => ?_) id
    -- Only the front can have been written, and it is not complete.
    have before := (ordered.passed m (List.mem_append_left _ written)).2 n (by simp [queued])
    have increasing := ordered.queued
    rw [queued, List.pairwise_cons] at increasing
    rcases List.mem_cons.mp (queued ▸ waits) with rfl | later
    · rw [part] at complete
      cases complete
    · have behind := increasing.1 m later
      omega
  | @fails n rest stage queued complete =>
    refine ordered.restage rfl (.inl (by rw [stage]; rfl)) (by simp) (fun _ => ⟨n, ?_⟩)
    exact ordered.settled (.inr stage) n (by simp [queued]) complete
  | takes stage queued part => exact ordered.takes stage queued part
  | popNone stage empty => exact ordered.restage rfl (.inr empty) (by simp) (by simp)
  | pops stage queued => exact ordered.pops stage queued
  | writes stage => exact ordered.writes stage

/-- A clearing empties the queue, and a message that is polled fills it. -/
theorem emptied_snoc : Emptied (ops ++ [op]) ↔
    op.isClear = true ∨ op.isPoll = false ∧ Emptied ops := by
  -- Only the clearing and the coming of a message count.
  unfold Emptied
  rw [openAfter_snoc]
  cases op <;> simp [SendOp.isClear, SendOp.isPoll]

/-- A clearing disturbs the callback, until it asks for the front again. -/
theorem disturbed_snoc : Disturbed (ops ++ [op]) ↔
    op.isClear = true ∨ op.isFront = false ∧ Disturbed ops := by
  -- Only the clearing and the asking for the front count.
  unfold Disturbed
  rw [openAfter_snoc]
  cases op <;> simp [SendOp.isClear, SendOp.isFront]

/-- A run is good so far, and what the callback saw is gone only if the queue was cleared. -/
structure Sound (length : α → ℕ) (ops : List (SendOp α)) (q : SendQueue α) : Prop where
  ordered : q.Ordered length
  defined : q.stage ≠ .undefined
  popped : q.popped ++ q.stage.reported = q.sent
  emptied : Emptied ops → q.messageQueue = []
  seen : q.stage = .fronting ∨ q.stage = .taking → q.messageQueue = [] → Emptied ops
  gone : ∀ n ∈ q.stage.reported, Disturbed ops → n ∉ q.messageQueue
  there : ∀ n ∈ q.stage.reported, ¬ Disturbed ops → q.messageQueue.head? = some n

/-- What is sound is good. -/
theorem Sound.good (sound : Sound length ops q) : q.Good length where
  defined := sound.defined
  popped := sound.popped
  written := sound.ordered.written.sublist (List.sublist_append_left _ _)
  sent := sound.ordered.sent
  whole := sound.ordered.whole
  failed := sound.ordered.failed

/-- The queue is empty when it was cleared last, and when it was emptied by the callback. -/
theorem Does.emptied (does : Does length q op next) (emptied : Emptied ops → q.messageQueue = []) :
    Emptied (ops ++ [op]) → next.messageQueue = [] := by
  rw [emptied_snoc]
  cases does with
  | polls => simp [SendOp.isClear, SendOp.isPoll]
  | clears => simp
  -- The queue that is taken from is not empty, and so it was not cleared last.
  | @pops n m rest stage queued =>
    intro cleared
    have none := emptied (by simpa [SendOp.isClear, SendOp.isPoll] using cleared)
    rw [queued] at none
    cases none
  | _ => simpa [SendOp.isClear, SendOp.isPoll, sendInternal] using emptied

/-- A callback that has nothing left to take out only has to find what it saw. -/
theorem Sound.of_done (ordered : q.Ordered length) (defined : q.stage ≠ .undefined)
    (done : q.stage.reported = []) (popped : q.popped = q.sent)
    (emptied : Emptied ops → q.messageQueue = [])
    (seen : q.stage = .fronting ∨ q.stage = .taking → q.messageQueue = [] → Emptied ops) :
    Sound length ops q where
  ordered := ordered
  defined := defined
  popped := by simp [done, popped]
  emptied := emptied
  seen := seen
  gone := by simp [done]
  there := by simp [done]

/-- Whatever the others do, the callback finds what it saw or reported, if it is undisturbed. -/
theorem Does.sound (does : Does length q op next) (sound : Sound length ops q)
    (allowed : Undisturbed ops op) : Sound length (ops ++ [op]) next := by
  have ordered := does.ordered sound.ordered
  have emptied := does.emptied sound.emptied
  obtain ⟨before, defined, popped, _, seen, gone, there⟩ := sound
  have all (done : q.stage.reported = []) : q.popped = q.sent := by simpa [done] using popped
  -- One case for each operation; most of them leave nothing to take out, as they found nothing.
  cases does with
  | polls =>
    refine ⟨ordered, defined, popped, emptied, by simp, ?_, ?_⟩
    · intro n reported disturbed waits
      have earlier := gone n reported (by simpa [disturbed_snoc, SendOp.isClear, SendOp.isFront]
        using disturbed)
      -- The new message is not the one that was reported, which is older.
      have old : n ∈ q.sent := popped ▸ List.mem_append_right _ reported
      have last : n = q.messages.length := by
        simpa [earlier] using waits
      exact Nat.ne_of_lt (before.reported n old).1 last
    · intro n reported still
      have first := there n reported (by simpa [disturbed_snoc, SendOp.isClear, SendOp.isFront]
        using still)
      simp [List.head?_append, first]
  -- After a clearing nothing waits, and the callback is disturbed.
  | clears =>
    refine ⟨ordered, defined, popped, emptied, ?_, by simp, ?_⟩
    · simp [emptied_snoc, SendOp.isClear]
    · simp [disturbed_snoc, SendOp.isClear]
  | begins stage =>
    exact .of_done ordered (by simp) rfl (all (by rw [stage]; rfl)) emptied (by simp)
  | sees stage more | seesAgain stage more =>
    exact .of_done ordered (by simp) rfl (all (by rw [stage]; rfl)) emptied
      fun _ empty => absurd empty more
  | seesNone stage | ends stage =>
    exact .of_done ordered (by simp) rfl (all (by rw [stage]; rfl)) emptied (by simp)
  -- What the callback saw is there, unless the queue was cleared.
  | frontNone stage empty => exact absurd (seen stage empty) allowed
  -- The front is what is reported, and nothing came in between.
  | @reports n rest stage queued complete =>
    have same := all (by rw [stage]; rfl)
    refine ⟨ordered, by simp, by simp [WriteStage.reported, same], emptied, by simp, ?_, ?_⟩
    · simp [disturbed_snoc, SendOp.isClear, SendOp.isFront]
    · simp [WriteStage.reported, queued]
  | leaves stage queued part | fails stage queued complete | takes stage queued part =>
    exact .of_done ordered (by simp) rfl (all (by rw [stage]; rfl)) emptied (by simp)
  -- What was reported still waits, as the callback is undisturbed.
  | @popNone n stage empty =>
    have first := there n (by simp [stage, WriteStage.reported]) allowed
    simp [empty] at first
  | @pops n m rest stage queued =>
    -- The front is still the message that was reported.
    have first : m = n := by
      simpa [queued] using there n (by simp [stage, WriteStage.reported]) allowed
    subst first
    have same : q.popped ++ [m] = q.sent := by simpa [stage, WriteStage.reported] using popped
    exact .of_done ordered (by simp) rfl same emptied (by simp)
  | writes stage =>
    have same := all (by rw [stage]; rfl)
    exact .of_done ordered (by simp [sendInternal]) rfl same emptied (by simp [sendInternal])

/--
The callback takes out what it has written and reported, each message once and in order, exactly
if no clearing disturbs it.

A clearing does so if no message comes before the callback asks for the front, or if it comes
between that and the taking out of what was reported.
-/
theorem always_undisturbed_iff :
    (∀ t, Visits (step length) ({} : SendQueue α) ops t → t.Good length) ↔
      MeetsAfter Undisturbed (step length) ({} : SendQueue α) ops := by
  refine @always_good_iff_meetsAfter _ _ _ _ _ (Sound length) (Good length) Undisturbed
    (fun sound allowed moved => (step_does moved).sound sound allowed) Sound.good ?_ ?_
  · intro ops q op next sound disturbed moved now
    -- The step that is disturbed ends undefined, or takes out what was not reported.
    cases step_does moved with
    | frontNone => exact now.defined rfl
    | popNone => exact now.defined rfl
    | @reports n rest stage queued _ | @leaves n rest stage queued _ | @fails n rest stage queued _
    | @takes n rest stage queued _ =>
      -- The queue would be empty, after it was cleared and nothing came.
      have empty := sound.emptied (by simpa [Undisturbed] using disturbed)
      rw [queued] at empty
      cases empty
    | @pops n m rest stage queued =>
      -- What was reported is gone, and another message is taken out.
      have cleared : Disturbed ops := by simpa [Undisturbed] using disturbed
      have reported : n ∈ q.stage.reported := by simp [stage, WriteStage.reported]
      have gone := sound.gone n reported cleared
      have other := now.popped
      rw [← sound.popped, stage] at other
      have same : m = n := by simpa [WriteStage.reported] using other
      exact gone (by simp [queued, same])
    | _ => simp [Undisturbed] at disturbed
  -- Nothing was polled yet.
  · exact ⟨⟨.nil, by simp, .nil, by simp [WriteStage.held], .nil, by simp,
      by simp [isComplete, Blank], by simp, by simp [WriteStage.held], by simp, by simp⟩, by simp,
      rfl, by simp, by simp, by simp [WriteStage.reported], by simp [WriteStage.reported]⟩

/-- A message that was never written is taken out instead of the one that was reported. -/
example : run (step String.length) {} [.pollMessage "a", .onConnWritable,
    .empty, .front, .empty, .front, .sendInternal 1, .onConnWritable, .empty, .front,
    .clearAllQueues, .pollMessage "b", .pop] =
    some {
      messages := [⟨"a", 1⟩, ⟨"b", 0⟩], stage := .looping, written := [0], sent := [0]
      popped := [1] } := by
  decide +kernel

end SendQueue

end EasyEvse.Websocket
