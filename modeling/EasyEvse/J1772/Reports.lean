import EasyEvse.J1772.Safety
import EasyEvse.Transition.Spans

/-! What the charging task reports: its events tell the contactor, and connect without power. -/

namespace EasyEvse.J1772

open Transition

variable {cfg : Config} {i : Inputs} {s : Evse} {newState : J1772State}
  {history : List OcppEvent} {relayOpen : Bool} {event : OcppEvent}

/-- The last report on the vehicle was that it was connected. -/
def plugged (history : List OcppEvent) : Bool :=
  openAfter (· = .evConnected) (· = .evDisconnected) false history

/-- The last report on the contactor was that it was closed. -/
def powered (history : List OcppEvent) : Bool :=
  openAfter (· = .chargingStarted) (· = .chargingStopped) false history

/-- Of two opposite reports the first is the last one made when the other has not come since. -/
theorem last_report_iff {on off : OcppEvent} (opposite : on ≠ off) :
    openAfter (· = on) (· = off) false history = true ↔
      ∃ front back, history = front ++ on :: back ∧ off ∉ back := by
  -- The deciding report is the last one of its kind, and it is the positive one.
  have apart : ∀ event, event = on → ¬ event = off := by
    intro event same
    rw [same]
    exact opposite
  rw [openAfter_iff apart]
  constructor
  · intro found
    obtain ⟨front, _, back, split, rfl, never⟩ := found
    exact ⟨front, back, split, fun member => never _ member rfl⟩
  · intro found
    obtain ⟨front, back, split, never⟩ := found
    exact ⟨front, _, back, split, rfl, fun event member same => never (same ▸ member)⟩

/-- A vehicle is there when it was reported connected, and not disconnected since. -/
theorem plugged_iff : plugged history = true ↔
    ∃ front back, history = front ++ .evConnected :: back ∧ .evDisconnected ∉ back :=
  last_report_iff (by simp)

/-- The contactor is closed when that was reported, and the end of charging not since. -/
theorem powered_iff : powered history = true ↔
    ∃ front back, history = front ++ .chargingStarted :: back ∧ .chargingStopped ∉ back :=
  last_report_iff (by simp)

/-- The event that a call reports, if it reports one. -/
def Call.event? : Call → Option OcppEvent
  | .setEvent event => some event
  | .getAuthResponse _ | .setContactorState _ => none

/-- The events reported by the current activation of the task, oldest first. -/
def Evse.events (s : Evse) : List OcppEvent := s.calls.filterMap Call.event?

/-- The reports so far tell the position of the contactor, and never a connection with power. -/
structure Told (history : List OcppEvent) (relayOpen : Bool) : Prop where
  power : powered history = !relayOpen
  unpowered : ∀ front back, history = front ++ .evConnected :: back → powered front = false

/-- A log with one more entry splits at an entry before the last, or at the last. -/
theorem snoc_split {last entry : OcppEvent} {log front back : List OcppEvent}
    (split : log ++ [last] = front ++ entry :: back) :
    (back = [] ∧ entry = last ∧ front = log) ∨ ∃ shorter, log = front ++ entry :: shorter := by
  -- The entry is the last of the log, or the log before the last has it.
  rcases List.eq_nil_or_concat back with rfl | ⟨shorter, final, rfl⟩
  · obtain ⟨same, lasts⟩ := List.append_inj' split rfl
    exact .inl ⟨rfl, by simpa [eq_comm] using lasts, same.symm⟩
  · refine .inr ⟨shorter, ?_⟩
    have regrouped : log ++ [last] = (front ++ entry :: shorter) ++ [final] := by simpa using split
    exact (List.append_inj' regrouped rfl).1

namespace Told

theorem start : Told [] true := ⟨rfl, by simp⟩

/-- An event other than a connection adds no connection. -/
theorem unpowered_snoc (told : Told history relayOpen) (other : event ≠ .evConnected) :
    ∀ front back, history ++ [event] = front ++ .evConnected :: back → powered front = false := by
  -- The connection that is looked at was reported before this event.
  intro front back split
  rcases snoc_split split with ⟨-, same, -⟩ | ⟨shorter, before⟩
  · exact absurd same.symm other
  · exact told.unpowered front shorter before

/-- Reporting the end of charging tells an open contactor. -/
theorem stopped (told : Told history relayOpen) : Told (history ++ [.chargingStopped]) true :=
  ⟨by simp [powered, openAfter_snoc], told.unpowered_snoc (by simp)⟩

/-- Reporting the start of charging tells a closed contactor. -/
theorem started (told : Told history relayOpen) : Told (history ++ [.chargingStarted]) false :=
  ⟨by simp [powered, openAfter_snoc], told.unpowered_snoc (by simp)⟩

/-- Reporting a connection is right as long as the contactor is open. -/
theorem connected (told : Told history true) : Told (history ++ [.evConnected]) true := by
  -- The new connection finds the contactor open, and the earlier ones did as well.
  refine ⟨by simpa [powered, openAfter_snoc] using told.power, fun front back split => ?_⟩
  rcases snoc_split split with ⟨-, -, rfl⟩ | ⟨shorter, before⟩
  · simpa using told.power
  · exact told.unpowered front shorter before

/-- Other reports tell nothing about the contactor. -/
theorem other (told : Told history relayOpen)
    (neither : event = .evDisconnected ∨ event = .evAuthNeeded) :
    Told (history ++ [event]) relayOpen := by
  -- These two events are about the vehicle, not about the contactor.
  refine ⟨?_, told.unpowered_snoc (by rcases neither with rfl | rfl <;> simp)⟩
  rcases neither with rfl | rfl <;> simpa [powered, openAfter_snoc] using told.power

end Told

/-- The reports of a change of state go with what it does to the contactor. -/
theorem Edge.told (edge : Edge s newState) (safe : Safe s)
    (told : Told (history ++ s.events) s.relayOpen) :
    Told (history ++ (setState cfg newState s).events) (setState cfg newState s).relayOpen := by
  -- Each state is entered with its own reports, as its law lists them.
  by_cases same : s.currentState = newState
  · rw [setState_self cfg same]; exact told
  -- Most changes report nothing, or that charging stopped, and do just that.
  have still : ∀ {u : Evse}, u.relayOpen = s.relayOpen → u.calls = s.calls →
      Told (history ++ u.events) u.relayOpen := by
    intro u relay calls
    rw [Evse.events, calls, relay]; exact told
  have off : ∀ {u : Evse}, u.relayOpen = true →
      u.calls = s.calls ++ [.setEvent .chargingStopped, .setContactorState true] →
      Told (history ++ u.events) u.relayOpen := by
    intro u relay calls
    rw [relay]
    simpa [Evse.events, calls, Call.event?, List.filterMap_cons] using told.stopped
  have waits : ∀ {n}, n = .stateC ∨ n = .stateD →
      Told (history ++ (setState cfg n s).events) (setState cfg n s).relayOpen := by
    intro n target
    by_cases waiting : s.currentState = .stateC ∨ s.currentState = .stateD
    · obtain ⟨relay, -, -, -, -, calls⟩ := setState_waiting cfg target waiting
      exact still relay calls
    · obtain ⟨relay, -, -, -, -, calls⟩ := setState_suspend cfg target waiting
      exact off relay calls
  have charges : ∀ {n}, n = .stateC2 ∨ n = .stateD2 → s.currentState ≠ n →
      Told (history ++ (setState cfg n s).events) (setState cfg n s).relayOpen := by
    intro n target other
    obtain ⟨relay, -, -, -, -, calls⟩ := setState_charging cfg target other
    by_cases permitted : Permits cfg n s
    · rw [if_pos permitted] at relay calls
      rw [relay]
      simpa [Evse.events, calls, Call.event?, List.filterMap_cons] using told.started
    · rw [if_neg permitted] at relay calls
      exact still relay (by simpa using calls)
  cases newState with
  | stateA =>
    obtain ⟨relay, -, -, -, -, -, calls⟩ := setState_stateA cfg same
    rw [relay]
    simpa [Evse.events, calls, Call.event?, List.filterMap_cons] using
      (told.other (.inl rfl)).stopped
  | stateA2 =>
    obtain ⟨relay, -, -, -, -, -, calls⟩ := setState_stateA2 cfg same
    exact off relay calls
  | stateB =>
    by_cases unplugged : s.currentState = .stateA ∨ s.currentState = .stateA2
    · -- The contactor is open while nothing is connected.
      obtain ⟨relay, -, -, -, -, -, calls⟩ := setState_stateB_connected cfg unplugged
      have before : s.relayOpen = true := by
        rcases unplugged with at_ | at_ <;> exact safe.off (by simp [at_]) (by simp [at_])
          (by simp [at_])
      rw [before] at told
      rw [relay]
      simpa [Evse.events, calls, Call.event?, List.filterMap_cons] using
        (@Told.other _ _ .evAuthNeeded told.connected (.inr rfl)).stopped
    · obtain ⟨relay, -, -, -, -, -, calls⟩ := setState_stateB cfg same unplugged
      exact off relay calls
  | stateB2 =>
    obtain ⟨relay, -, -, -, -, -, calls⟩ := setState_stateB2 cfg same
    by_cases opens : OpensOnReturn s
    · rw [if_pos opens] at relay calls
      exact off relay calls
    · rw [if_neg opens] at relay calls
      exact still relay (by simpa using calls)
  | stateC => exact waits (.inl rfl)
  | stateD => exact waits (.inr rfl)
  | stateC2 => exact charges (.inl rfl) same
  | stateD2 => exact charges (.inr rfl) same
  | stateE | stateF =>
    obtain ⟨relay, -, -, -, -, -, calls⟩ := setState_error cfg (by simp) same
    exact off relay calls
  | lastState => exact absurd rfl edge.real

/-- Polling reports no event. -/
theorem pollAuthorization_events : (pollAuthorization i s).events = s.events := by
  -- The poll is a call, and no event.
  unfold pollAuthorization Evse.events
  dsimp only [Evse.record]
  split_ifs <;> simp [Call.event?]

/-- The reports of an iteration go with what it does to the contactor. -/
theorem loopEvse_told (safe : Safe s) (fresh : s.calls = []) (told : Told history s.relayOpen) :
    Told (history ++ (loopEvse cfg i s).events) (loopEvse cfg i s).relayOpen := by
  have start : Safe s ∧ Told (history ++ s.events) s.relayOpen := by
    simpa [Evse.events, fresh] using And.intro safe told
  -- The agreement of letter and contactor is carried along, since a connection relies on it.
  refine (@loopEvse_rule cfg i s (fun t => Safe t ∧ Told (history ++ t.events) t.relayOpen)
    ?_ ?_ ?_ ?_ ?_ start).2
  · intro t ⟨safe, told⟩
    exact ⟨safe.congr (by simp) (by simp) (by simp) (by simp), by simpa [Evse.events] using told⟩
  · intro t newState _ edge ⟨safe, told⟩
    exact ⟨setState_safe edge.real safe, edge.told safe told⟩
  · intro t _ ⟨safe, told⟩
    exact ⟨safe.congr (by simp) (by simp) (by simp) (by simp),
      by simpa [pollAuthorization_events] using told⟩
  · intro t at_ ⟨safe, told⟩
    exact ⟨safe.meterInterval at_, by simpa [Evse.events] using told⟩
  · intro t newPwm ⟨safe, told⟩
    exact ⟨safe.congr (by simp) (by simp) (by simp) (by simp), by simpa [Evse.events] using told⟩

end EasyEvse.J1772
