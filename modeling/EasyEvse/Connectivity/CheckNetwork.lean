import Mathlib.Data.List.TakeWhile
import EasyEvse.Transition.Run

/-! The supervision of the network: pings, how many of them failed, and what is made of that. -/

namespace EasyEvse.Connectivity

open Transition

/-- The states of the connection, in the order in which they are numbered. -/
inductive ConnectionState
  | notConnected
  | initComunicationModule
  | initComunicationModuleError
  | initCommunicationStack
  | initCommunicationStackError
  | apConnectTry
  | apConnected
  | apConnectError
  | dhcpRequest
  | dhcpError
  | sntpRequest
  | sntpError
  | networkConnected
  | networkDisconnected
  | edgelockInit
  | waitEdgelock
  | ocppInit
  deriving DecidableEq, Repr

/-- How a ping ends. It is only waited for if it could be sent. -/
inductive PingOutcome
  | sendFailed
  | recvFailed
  | replied
  deriving DecidableEq, Repr

/-- The failed pings that are let pass. -/
def pingMaxFails : ℕ := 4

/-- The connection, with the failed pings that were counted. More than are let pass never are. -/
structure Connection where
  connectionState : ConnectionState
  ipv4 : String := ""
  pingFails : ℕ := 0
  few : pingFails ≤ pingMaxFails := by decide
  deriving DecidableEq

namespace Connection

variable (s : Connection) (enableWifi : Bool)

/-- Change the state. The address is lost together with the network. -/
def setState (connectionState : ConnectionState) : Connection :=
  -- A state that is set again changes nothing.
  if s.connectionState = connectionState then s
  else
    { s with
      connectionState
      ipv4 := if connectionState = .networkDisconnected then "" else s.ipv4 }

/-- One round of the supervision. -/
def checkNetwork (outcome : PingOutcome) : Connection :=
  match outcome with
  | .replied =>
    let s := { s with pingFails := 0, few := Nat.zero_le _ }
    -- The connection is made again, from where the kind of network asks for.
    if s.connectionState = .networkDisconnected then
      s.setState (if enableWifi then .apConnected else .initCommunicationStack)
    else s
  | .recvFailed =>
    if more : s.pingFails + 1 > pingMaxFails then
      { s.setState .networkDisconnected with pingFails := 0, few := Nat.zero_le _ }
    else { s with pingFails := s.pingFails + 1, few := Nat.le_of_not_lt more }
  -- A ping that could not be sent is not counted.
  | .sendFailed => s

/-- One round. Every round is possible at any time. -/
def step : Step Connection PingOutcome := fun s outcome => some (s.checkNetwork enableWifi outcome)

variable {s enableWifi} {t : Connection} {outcomes outage : List PingOutcome}

/-- The network counts as lost. -/
def Lost (s : Connection) : Prop := s.connectionState = .networkDisconnected

instance : DecidablePred Lost := fun _ => inferInstanceAs (Decidable (_ = _))

@[simp] theorem setState_connectionState (connectionState : ConnectionState) :
    (s.setState connectionState).connectionState = connectionState := by
  -- The state is what was set, whether it was so before or not.
  rw [setState]
  split_ifs with same
  · exact same
  all_goals rfl

/-- One failed ping too many is taken for the loss of the network. -/
theorem lost_of_more (more : pingMaxFails < s.pingFails + 1) :
    (s.checkNetwork enableWifi .recvFailed).Lost := by
  simp only [checkNetwork]
  rw [dif_pos more]
  exact setState_connectionState _

/-- Any other failed ping is only counted. -/
theorem counted_of_not_more (few : ¬ pingMaxFails < s.pingFails + 1) :
    (s.checkNetwork enableWifi .recvFailed).connectionState = s.connectionState ∧
      (s.checkNetwork enableWifi .recvFailed).pingFails = s.pingFails + 1 := by
  simp only [checkNetwork]
  rw [dif_neg few]
  exact ⟨rfl, rfl⟩

/-- A reply ends the count, and changes nothing about a network that is there. -/
theorem replied_of_not_lost (there : ¬ s.Lost) :
    (s.checkNetwork enableWifi .replied).connectionState = s.connectionState ∧
      (s.checkNetwork enableWifi .replied).pingFails = 0 := by
  -- The state is another one than that of a lost network.
  have there : s.connectionState ≠ .networkDisconnected := there
  simp only [checkNetwork]
  rw [if_neg there]
  exact ⟨rfl, rfl⟩

/-- What a run comes to has the network lost at its start, or later. -/
theorem exists_lost_cons {outcome : PingOutcome} :
    (∃ t, Visits (step enableWifi) s (outcome :: outcomes) t ∧ t.Lost) ↔
      s.Lost ∨ ∃ t, Visits (step enableWifi) (s.checkNetwork enableWifi outcome) outcomes t ∧
        t.Lost := by
  simp [visits_cons_iff, step, or_and_right, exists_or]

/-- Without a reply the network is noticed to be lost exactly if enough pings were not answered. -/
theorem exists_lost_iff (none : ∀ outcome ∈ outage, outcome ≠ .replied) :
    (∃ t, Visits (step enableWifi) s outage t ∧ t.Lost) ↔
      s.Lost ∨ pingMaxFails < s.pingFails + outage.count .recvFailed := by
  -- The count goes on from round to round, until it is too high.
  induction outage generalizing s with
  | nil =>
    -- The count is never too high by itself.
    have few := s.few
    simp only [visits_nil_iff, exists_eq_left, List.count_nil]
    exact ⟨.inl, fun lost => lost.resolve_right (by omega)⟩
  | cons outcome outage ih =>
    have rest := fun t : Connection =>
      @ih t fun outcome member => none outcome (List.mem_cons_of_mem _ member)
    rw [exists_lost_cons, rest]
    cases outcome with
    | replied => exact absurd rfl (none .replied (List.mem_cons_self))
    | sendFailed =>
      -- The round leaves everything as it is.
      have same : s.checkNetwork enableWifi .sendFailed = s := rfl
      rw [same, List.count_cons_of_ne (by decide), ← or_assoc, or_self]
    | recvFailed =>
      rw [List.count_cons_self]
      by_cases more : pingMaxFails < s.pingFails + 1
      · -- The count is too high already, whatever comes after this round.
        exact iff_of_true (.inr (.inl (lost_of_more more))) (.inr (by omega))
      · obtain ⟨state, counted⟩ := @counted_of_not_more s enableWifi more
        -- The state is the same, and the count is one higher.
        have same : (s.checkNetwork enableWifi .recvFailed).Lost ↔ s.Lost := by
          rw [Lost, Lost, state]
        rw [same, counted, ← or_assoc, or_self]
        exact or_congr_right (by omega)

/-- A reply came within so many consecutive rounds. -/
def AnsweredOften (outcomes : List PingOutcome) : Prop :=
  ∀ front few back, outcomes = front ++ few ++ back → few.length = pingMaxFails + 1 →
    .replied ∈ few

/-- The receive failures that come before the first reply. -/
def earlyFails (outcomes : List PingOutcome) : ℕ :=
  (outcomes.takeWhile fun outcome => outcome ≠ .replied).count .recvFailed

/-- What was answered often is still so in the rest of a run. -/
theorem AnsweredOften.tail {outcome : PingOutcome} (often : AnsweredOften (outcome :: outcomes)) :
    AnsweredOften outcomes := fun front few back whole =>
  often (outcome :: front) few back (by rw [whole]; rfl)

/-- Where replies come often, only few failures come before the first one. -/
theorem AnsweredOften.earlyFails_le (often : AnsweredOften outcomes) :
    earlyFails outcomes ≤ pingMaxFails := by
  -- If there were more of them, they would be consecutive rounds without a reply.
  refine List.count_le_length.trans ?_
  by_contra many
  -- The first rounds would be too many without a reply.
  have answered := often [] ((outcomes.takeWhile fun outcome => outcome ≠ .replied).take
    (pingMaxFails + 1)) ((outcomes.takeWhile fun outcome => outcome ≠ .replied).drop
    (pingMaxFails + 1) ++ outcomes.dropWhile fun outcome => outcome ≠ .replied)
    (by simp [← List.append_assoc, List.take_append_drop, List.takeWhile_append_dropWhile])
    (by rw [List.length_take]; omega)
  have unanswered := List.mem_takeWhile_imp (List.mem_of_mem_take answered)
  simp at unanswered

/-- Where replies come often, a network that is there is lost only by early failures. -/
theorem AnsweredOften.not_lost (often : AnsweredOften outcomes) (there : ¬ s.Lost)
    (early : s.pingFails + earlyFails outcomes ≤ pingMaxFails) :
    ∀ t, Visits (step enableWifi) s outcomes t → ¬ t.Lost := by
  suffices never : ¬ ∃ t, Visits (step enableWifi) s outcomes t ∧ t.Lost from
    fun t visited lost => never ⟨t, visited, lost⟩
  -- Each reply starts the count again, and the next one comes before it is too high.
  induction outcomes generalizing s with
  | nil => simpa using there
  | cons outcome outcomes ih =>
    -- The network is there at the start of a run.
    rw [exists_lost_cons, not_or]
    refine ⟨there, ?_⟩
    cases outcome with
    | replied =>
      -- From here on only the failures up to the next reply matter.
      obtain ⟨state, counted⟩ := @replied_of_not_lost s enableWifi there
      refine ih often.tail (by rwa [Lost, state]) ?_
      rw [counted, Nat.zero_add]
      exact often.tail.earlyFails_le
    | sendFailed =>
      -- A ping that could not be sent is none of the failures.
      have same : s.checkNetwork enableWifi .sendFailed = s := rfl
      rw [same]
      refine ih often.tail there ?_
      simpa [earlyFails, List.count_cons] using early
    | recvFailed =>
      -- One failure moves from those to come to those that were counted.
      have next : s.pingFails + 1 + earlyFails outcomes ≤ pingMaxFails := by
        have whole : earlyFails (.recvFailed :: outcomes) = earlyFails outcomes + 1 := by
          simp [earlyFails]
        omega
      obtain ⟨state, counted⟩ := @counted_of_not_more s enableWifi (by omega)
      refine ih often.tail (by rwa [Lost, state]) ?_
      rw [counted]
      exact next

/--
The loss of the network is noticed exactly if enough pings that were sent are not answered.

As long as replies come often, only what was counted before the first of them can be too much.
-/
theorem outage_noticed_iff (connected : s.connectionState = .networkConnected) :
    (∀ front outage back, outcomes = front ++ outage ++ back → pingMaxFails < outage.length →
      (∀ outcome ∈ outage, outcome ≠ .replied) → ∀ mid, run (step enableWifi) s front = some mid →
        ((∃ t, Visits (step enableWifi) mid outage t ∧ t.Lost) ↔
          mid.Lost ∨ pingMaxFails < mid.pingFails + outage.count .recvFailed)) ∧
    (AnsweredOften outcomes →
      ((∀ t, Visits (step enableWifi) s outcomes t → ¬ t.Lost) ↔
        s.pingFails + earlyFails outcomes ≤ pingMaxFails)) := by
  have there : ¬ s.Lost := by simp [Lost, connected]
  -- The first part is the lemma for an outage, at the state in which it begins.
  refine ⟨fun _ outage _ _ _ none mid _ => exists_lost_iff none, fun often => ⟨?_, ?_⟩⟩
  · -- Up to the first reply the run is an outage, and is noticed as one.
    intro never
    by_contra many
    have none : ∀ outcome ∈ outcomes.takeWhile fun outcome => outcome ≠ .replied,
        outcome ≠ .replied := fun outcome member => by simpa using List.mem_takeWhile_imp member
    obtain ⟨t, visited, lost⟩ :=
      (@exists_lost_iff s enableWifi _ none).mpr (.inr (by unfold earlyFails at many; omega))
    -- The rounds up to the first reply are the beginning of the run.
    have whole := @List.takeWhile_append_dropWhile _ (fun outcome => outcome ≠ .replied) outcomes
    refine never t ?_ lost
    rw [← whole]
    exact visited.append
  · exact fun early => often.not_lost there early

/-- Five pings without an answer are noticed. -/
theorem outage_noticed_iff_five :
    ∃ t, Visits (step true) { connectionState := .networkConnected }
      (List.replicate 5 .recvFailed) t ∧ t.Lost :=
  ((outage_noticed_iff rfl).1 [] (List.replicate 5 .recvFailed) [] rfl (by decide) (by decide) _
    rfl).mpr (.inr (by decide))

/-- Pings that cannot be sent are not noticed. -/
theorem outage_unnoticed :
    let outage : List PingOutcome := List.replicate 5 .sendFailed
    pingMaxFails < outage.length ∧ (∀ outcome ∈ outage, outcome ≠ .replied) ∧
      ¬ ∃ t, Visits (step true) { connectionState := .networkConnected } outage t ∧ t.Lost := by
  refine ⟨by decide, by decide, ?_⟩
  rw [exists_lost_iff (by decide)]
  decide

end Connection

end EasyEvse.Connectivity
