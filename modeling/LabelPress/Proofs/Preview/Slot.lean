import LabelPress.Preview.Session
import Mathlib.Data.List.Induction

/-!
# The slot of a session

Only the caller that started last can still wait, and it waits for the request in the slot. This is
all that a step has to know of the steps before it. In such a session one equation says what a step
makes of the callers: those that no longer wait stay as they are, the one that waits gets the
outcome of the step, and new callers come behind them.
-/

namespace LabelPress.Preview

/-- A caller with a status, unless it no longer waits. -/
def Caller.settle (status : Status) (caller : Caller) : Caller :=
  if caller.status = .pending then { caller with status } else caller

/-- What a step makes of a caller that waits under a name. -/
def SessionStep.outcome (name : Text) : SessionStep → Status
  | .render names _ => if names = [] then .pending else .resolved none
  | .finish other ending => if other = name then ending.kept else .pending
  | .finishThenCancel other ending => if other = name then ending.dropped else .pending
  | .cancel => .resolved none
  | .cancelCaller other => if other = name then .cancelled else .pending

/-- The callers that start in a step. All but the last one are superseded at once. -/
def SessionStep.newcomers : SessionStep → List Caller
  | .render names _ => names.dropLast.map (fun name => ⟨name, .resolved none⟩) ++
      (names.getLast?.map fun name => ⟨name, .pending⟩).toList
  | _ => []

/-- The requests that reach the client in a step. -/
def SessionStep.requests : SessionStep → List Call
  | .render names profile => (names.getLast?.map fun name => ⟨name, profile⟩).toList
  | _ => []

namespace Caller

variable {caller : Caller} {status : Status}

theorem settle_of_pending (waits : caller.status = .pending) :
    caller.settle status = { caller with status } :=
  if_pos waits

theorem settle_of_ne (settled : caller.status ≠ .pending) : caller.settle status = caller :=
  if_neg settled

@[simp]
theorem name_settle : (caller.settle status).name = caller.name := by
  unfold settle
  split <;> rfl

@[simp]
theorem settle_pending : caller.settle .pending = caller := by
  by_cases waits : caller.status = .pending
  · rw [settle_of_pending waits, ← waits]
  · exact settle_of_ne waits

theorem status_settle_eq_pending_iff :
    (caller.settle status).status = .pending ↔ caller.status = .pending ∧ status = .pending := by
  by_cases waits : caller.status = .pending
  · simp [settle_of_pending waits, waits]
  · simp [settle_of_ne waits, waits]

end Caller

theorem Ending.dropped_ne_pending (ending : Ending) : ending.dropped ≠ .pending := by
  cases ending <;> simp [dropped]

namespace Session

/-! ## The invariant -/

/-- Only the caller that started last can wait, and its request holds the slot. -/
def OnlyLastWaits (session : Session) : Prop :=
  ∀ place caller, session.callers[place]? = some caller → caller.status = .pending →
    place + 1 = session.callers.length ∧ session.slot = some place

theorem onlyLastWaits_empty : OnlyLastWaits {} := by
  intro place caller isCaller
  simp at isCaller

/-- A session without a waiting caller. -/
theorem OnlyLastWaits.of_settled {session : Session}
    (settled : ∀ caller ∈ session.callers, caller.status ≠ .pending) : session.OnlyLastWaits := by
  intro place caller isCaller waits
  exact absurd waits (settled caller (List.mem_of_getElem? isCaller))

/-- A session whose last caller, with its request in the slot, may wait. -/
theorem OnlyLastWaits.of_append {session : Session} {front : List Caller} {last : Caller}
    (callers : session.callers = front ++ [last])
    (settled : ∀ caller ∈ front, caller.status ≠ .pending)
    (slot : session.slot = some front.length) : session.OnlyLastWaits := by
  intro place caller isCaller waits
  rw [callers, List.getElem?_append] at isCaller
  split at isCaller
  · exact absurd waits (settled caller (List.mem_of_getElem? isCaller))
  · rename_i notBefore
    have inside := (List.getElem?_eq_some_iff.mp isCaller).1
    rw [List.length_singleton] at inside
    have isLast : place = front.length := by omega
    subst isLast
    rw [callers, List.length_append, List.length_singleton]
    exact ⟨rfl, slot⟩

variable {session : Session}

/-- A session in which callers may have been settled. -/
theorem OnlyLastWaits.map_settle (sound : session.OnlyLastWaits) (status : Caller → Status) :
    OnlyLastWaits { session with
      callers := session.callers.map fun caller => caller.settle (status caller) } := by
  intro place caller isCaller waits
  rw [List.getElem?_map] at isCaller
  rcases Option.map_eq_some_iff.mp isCaller with ⟨old, isOld, rfl⟩
  rw [List.length_map]
  exact sound place old isOld (Caller.status_settle_eq_pending_iff.mp waits).1

/-- A caller whose request does not hold the slot no longer waits. -/
theorem OnlyLastWaits.ne_pending (sound : session.OnlyLastWaits) {place : Nat} {caller : Caller}
    (other : session.slot ≠ some place) (isCaller : session.callers[place]? = some caller) :
    caller.status ≠ .pending := by
  intro waits
  exact other (sound place caller isCaller waits).2

theorem settled_of_mem_map_settle {status : Status} (proper : status ≠ .pending)
    {callers : List Caller} :
    ∀ caller ∈ callers.map (Caller.settle status), caller.status ≠ .pending := by
  intro caller member waits
  rcases List.mem_map.mp member with ⟨old, -, rfl⟩
  exact proper (Caller.status_settle_eq_pending_iff.mp waits).2

/-- Settling the caller at the slot settles all callers that wait. -/
theorem OnlyLastWaits.modify_eq_map (sound : session.OnlyLastWaits) {place : Nat}
    (held : session.slot = some place) {status : Status} {statusOf : Caller → Status}
    (here : ∀ caller, session.callers[place]? = some caller → statusOf caller = status) :
    session.callers.modify place (Caller.settle status) =
      session.callers.map fun caller => caller.settle (statusOf caller) := by
  apply List.ext_getElem?
  intro other
  rw [List.getElem?_modify, List.getElem?_map]
  cases found : session.callers[other]? with
  | none => rfl
  | some caller =>
    by_cases same : place = other
    · subst same
      simp [here caller found]
    · have settled := sound.ne_pending (by simpa [held] using same) found
      simp [same, Caller.settle_of_ne settled]

/-- Without a request in the slot there is nobody to settle. -/
theorem OnlyLastWaits.map_settle_of_slot_none (sound : session.OnlyLastWaits)
    (free : session.slot = none) (status : Status) :
    session.callers.map (Caller.settle status) = session.callers := by
  refine (List.map_congr_left ?_).trans (List.map_id _)
  intro caller member
  rcases List.getElem?_of_mem member with ⟨place, isCaller⟩
  exact Caller.settle_of_ne (sound.ne_pending (by simp [free]) isCaller)

/-! ## Starting -/

/-- Passing the slot on settles the caller that waits with nothing. -/
theorem passSlot_eq (sound : session.OnlyLastWaits) {next : Option Nat}
    (new : ∀ place, next = some place → session.callers.length ≤ place) :
    session.passSlot next = { session with
      slot := next
      callers := session.callers.map (Caller.settle (.resolved none)) } := by
  unfold passSlot
  cases held : session.slot with
  | none => rw [sound.map_settle_of_slot_none held]
  | some place =>
    have changed : session.callers.modify place (Caller.settle
          (if next = some place then Ending.cancelled.kept else Ending.cancelled.dropped)) =
        session.callers.map (Caller.settle (.resolved none)) := by
      apply sound.modify_eq_map held
      intro caller isCaller
      have inside := (List.getElem?_eq_some_iff.mp isCaller).1
      have passed : next ≠ some place := by
        intro same
        have outside := new place same
        omega
      rw [if_neg passed]
      rfl
    exact congrArg (fun callers => { session with slot := next, callers }) changed

theorem start_eq (sound : session.OnlyLastWaits) (name : Text) :
    session.start name = { session with
      slot := some session.callers.length
      callers := session.callers.map (Caller.settle (.resolved none)) ++ [⟨name, .pending⟩] } := by
  unfold start
  rw [passSlot_eq sound (by simp)]

theorem OnlyLastWaits.start (sound : session.OnlyLastWaits) (name : Text) :
    (session.start name).OnlyLastWaits := by
  rw [start_eq sound]
  exact .of_append rfl (settled_of_mem_map_settle (by simp)) (by simp)

theorem OnlyLastWaits.foldl_start (sound : session.OnlyLastWaits) (names : List Text) :
    (names.foldl Session.start session).OnlyLastWaits := by
  induction names generalizing session with
  | nil => exact sound
  | cons name names ih => exact ih (sound.start name)

/-- Callers that start one after the other are all superseded once the next one starts. -/
theorem map_settle_foldl_start (sound : session.OnlyLastWaits) (names : List Text) :
    (names.foldl Session.start session).callers.map (Caller.settle (.resolved none)) =
      session.callers.map (Caller.settle (.resolved none)) ++
        names.map fun name => ⟨name, .resolved none⟩ := by
  induction names generalizing session with
  | nil => simp
  | cons name names ih =>
    have settledTwice : Caller.settle (.resolved none) ∘ Caller.settle (.resolved none) =
        Caller.settle (.resolved none) := by
      funext caller
      apply Caller.settle_of_ne
      simp [Caller.status_settle_eq_pending_iff]
    rw [List.foldl_cons, ih (sound.start name), start_eq sound]
    simp [settledTwice, Caller.settle]

theorem callers_render (sound : session.OnlyLastWaits) (names : List Text) (last : Text)
    (profile : Option Profile) :
    (session.render (names ++ [last]) profile).callers =
      session.callers.map (Caller.settle (.resolved none)) ++
        (names.map (fun name => ⟨name, .resolved none⟩) ++ [⟨last, .pending⟩]) := by
  change ((names ++ [last]).foldl Session.start session).callers = _
  rw [List.foldl_append, List.foldl_cons, List.foldl_nil, start_eq (sound.foldl_start names),
    map_settle_foldl_start sound, List.append_assoc]

/-! ## Finishing -/

/-- The caller that waits under a name has its request in the slot. -/
theorem OnlyLastWaits.waiting (sound : session.OnlyLastWaits) {name : Text} {place : Nat}
    (waiting : session.waiting? name = some place) :
    session.slot = some place ∧ session.callers[place]? = some ⟨name, .pending⟩ := by
  rcases List.findIdx?_eq_some_iff_getElem.mp waiting with ⟨inside, isWaiting, -⟩
  have isWaiting : session.callers[place].name = name ∧
      session.callers[place].status = .pending := by
    simpa using isWaiting
  have isCaller := List.getElem?_eq_getElem inside
  refine ⟨(sound place _ isCaller isWaiting.2).2, ?_⟩
  rw [isCaller, ← isWaiting.1, ← isWaiting.2]

/-- The callers after the caller of a name got a status. -/
def settleNamed (session : Session) (name : Text) (status : Status) : List Caller :=
  session.callers.map fun caller => caller.settle (if name = caller.name then status else .pending)

/-- Nobody is settled under a name under which nobody waits. -/
theorem settleNamed_of_waiting?_eq_none {name : Text} (absent : session.waiting? name = none)
    (status : Status) : session.settleNamed name status = session.callers := by
  refine (List.map_congr_left ?_).trans (List.map_id _)
  intro caller member
  have notWaiting := List.findIdx?_eq_none_iff.mp absent caller member
  by_cases same : name = caller.name
  · apply Caller.settle_of_ne
    simpa [same] using notWaiting
  · simp [same]

theorem OnlyLastWaits.modify_eq_settleNamed (sound : session.OnlyLastWaits) {name : Text}
    {place : Nat} (waiting : session.waiting? name = some place) (status : Status) :
    session.callers.modify place (Caller.settle status) = session.settleNamed name status := by
  rcases sound.waiting waiting with ⟨held, isWaiting⟩
  apply sound.modify_eq_map held
  intro caller isCaller
  obtain rfl := Option.some.inj (isWaiting.symm.trans isCaller)
  exact if_pos rfl

/-- A request that ends in the slot. -/
theorem finish_eq (sound : session.OnlyLastWaits) (name : Text) (ending : Ending) :
    session.finish name ending =
      { session with callers := session.settleNamed name ending.kept } := by
  unfold finish
  cases waiting : session.waiting? name with
  | none => rw [settleNamed_of_waiting?_eq_none waiting]
  | some place =>
    have status : (if session.slot = some place then ending.kept else ending.dropped) =
        ending.kept := if_pos (sound.waiting waiting).1
    rw [← sound.modify_eq_settleNamed waiting, ← status]
    rfl

/-- A request that ends before the slot is emptied. -/
theorem callers_finishThenCancel (sound : session.OnlyLastWaits) (name : Text) (ending : Ending) :
    (session.finishThenCancel name ending).callers = session.settleNamed name ending.dropped := by
  unfold finishThenCancel
  cases waiting : session.waiting? name with
  | none => rw [settleNamed_of_waiting?_eq_none waiting]
  | some place =>
    rw [← sound.modify_eq_settleNamed waiting]
    rfl

/-! ## One step -/

/-- What a step makes of the callers. -/
theorem OnlyLastWaits.callers_step (sound : session.OnlyLastWaits) (step : SessionStep) :
    (session.step step).callers =
      session.callers.map (fun caller => caller.settle (step.outcome caller.name)) ++
        step.newcomers := by
  cases step with
  | render names profile =>
    rcases List.eq_nil_or_concat names with rfl | ⟨others, last, rfl⟩
    · simp [Session.step, Session.render, SessionStep.outcome, SessionStep.newcomers]
    · rw [List.concat_eq_append, Session.step, callers_render sound]
      simp [SessionStep.outcome, SessionStep.newcomers]
  | finish name ending =>
    rw [Session.step, finish_eq sound]
    simp [settleNamed, SessionStep.outcome, SessionStep.newcomers]
  | finishThenCancel name ending =>
    rw [Session.step, callers_finishThenCancel sound]
    simp [settleNamed, SessionStep.outcome, SessionStep.newcomers]
  | cancel =>
    rw [Session.step, cancel, passSlot_eq sound (by simp)]
    simp [SessionStep.outcome, SessionStep.newcomers]
  | cancelCaller name =>
    rw [Session.step, cancelCaller, finish_eq sound]
    simp [settleNamed, SessionStep.outcome, SessionStep.newcomers, Ending.kept]

/-- What a step passes to the client, whatever session it is made in. -/
theorem calls_step (session : Session) (step : SessionStep) :
    (session.step step).calls = session.calls ++ step.requests := by
  have started : ∀ names : List Text,
      (names.foldl Session.start session).calls = session.calls := by
    intro names
    induction names generalizing session with
    | nil => rfl
    | cons name names ih => rw [List.foldl_cons, ih, calls_start]
  have finished : ∀ name ending, (session.finish name ending).calls = session.calls ++ [] := by
    intro name ending
    rw [finish, List.append_nil]
    split <;> rfl
  cases step with
  | render names profile =>
    simp only [Session.step, render, started]
    rfl
  | finish name ending => exact finished name ending
  | finishThenCancel name ending =>
    change (session.finishThenCancel name ending).calls = session.calls ++ []
    rw [finishThenCancel, List.append_nil]
    split <;> rfl
  | cancel =>
    change session.cancel.calls = session.calls ++ []
    rw [cancel, calls_passSlot, List.append_nil]
  | cancelCaller name => exact finished name .cancelled

/-- Every step keeps the invariant. -/
theorem OnlyLastWaits.step (sound : session.OnlyLastWaits) (step : SessionStep) :
    (session.step step).OnlyLastWaits := by
  cases step with
  | render names profile => exact sound.foldl_start names
  | finish name ending =>
    rw [Session.step, finish_eq sound]
    exact sound.map_settle _
  | finishThenCancel name ending =>
    cases waiting : session.waiting? name with
    | none =>
      rw [Session.step, finishThenCancel, waiting]
      exact sound
    | some place =>
      -- The caller at the place was the only one that waited, and it is settled now.
      apply OnlyLastWaits.of_settled
      rw [Session.step, callers_finishThenCancel sound]
      intro caller member waits
      rcases List.mem_map.mp member with ⟨old, isOld, rfl⟩
      rcases Caller.status_settle_eq_pending_iff.mp waits with ⟨oldWaits, kept⟩
      rcases List.getElem?_of_mem isOld with ⟨oldPlace, oldCaller⟩
      rcases sound.waiting waiting with ⟨held, isWaiting⟩
      obtain rfl := Option.some.inj (held.symm.trans (sound oldPlace old oldCaller oldWaits).2)
      obtain rfl := Option.some.inj (isWaiting.symm.trans oldCaller)
      exact ending.dropped_ne_pending ((if_pos rfl).symm.trans kept)
  | cancel =>
    apply OnlyLastWaits.of_settled
    rw [Session.step, cancel, passSlot_eq sound (by simp)]
    exact settled_of_mem_map_settle (by simp)
  | cancelCaller name =>
    rw [Session.step, cancelCaller, finish_eq sound]
    exact sound.map_settle _

/-! ## Runs -/

/-- A new session after some steps. -/
def run (steps : List SessionStep) : Session :=
  steps.foldl Session.step {}

theorem run_concat (steps : List SessionStep) (step : SessionStep) :
    run (steps ++ [step]) = (run steps).step step := by
  simp [run]

theorem onlyLastWaits_run (steps : List SessionStep) : (run steps).OnlyLastWaits := by
  induction steps using List.reverseRecOn with
  | nil => exact onlyLastWaits_empty
  | append_singleton steps step ih =>
    rw [run_concat]
    exact ih.step step

/-- What reached the client in a run, in the order of the steps. -/
theorem calls_run (steps : List SessionStep) :
    (run steps).calls = steps.flatMap SessionStep.requests := by
  induction steps using List.reverseRecOn with
  | nil => rfl
  | append_singleton steps step ih => simp [run_concat, calls_step, ih]

theorem callers_run_concat (steps : List SessionStep) (step : SessionStep) :
    (run (steps ++ [step])).callers =
      (run steps).callers.map (fun caller => caller.settle (step.outcome caller.name)) ++
        step.newcomers := by
  rw [run_concat]
  exact (onlyLastWaits_run steps).callers_step step

/-- A caller that was there before a step has the outcome of the step, if it waited. -/
theorem getElem?_run_concat {steps : List SessionStep} {place : Nat} {caller : Caller}
    (isCaller : (run steps).callers[place]? = some caller) (step : SessionStep) :
    (run (steps ++ [step])).callers[place]? =
      some (caller.settle (step.outcome caller.name)) := by
  have changed : ((run steps).callers.map fun caller =>
      caller.settle (step.outcome caller.name))[place]? =
        some (caller.settle (step.outcome caller.name)) := by
    rw [List.getElem?_map, isCaller, Option.map_some]
  rw [callers_run_concat, List.getElem?_append_left (List.getElem?_eq_some_iff.mp changed).1,
    changed]

/-- Whatever follows, a caller that no longer waits stays as it is. -/
theorem getElem?_run_append {steps : List SessionStep} {place : Nat} {caller : Caller}
    (isCaller : (run steps).callers[place]? = some caller) (settled : caller.status ≠ .pending)
    (more : List SessionStep) : (run (steps ++ more)).callers[place]? = some caller := by
  induction more using List.reverseRecOn with
  | nil => rwa [List.append_nil]
  | append_singleton more step ih =>
    rw [← List.append_assoc, getElem?_run_concat ih, Caller.settle_of_ne settled]

/-- A caller was there before the last step, or it is one of the newcomers. -/
theorem caller_run_concat {steps : List SessionStep} {step : SessionStep} {place : Nat}
    {caller : Caller} (isCaller : (run (steps ++ [step])).callers[place]? = some caller) :
    (∃ old, (run steps).callers[place]? = some old ∧
        caller = old.settle (step.outcome old.name)) ∨
      ∃ index, place = (run steps).callers.length + index ∧
        step.newcomers[index]? = some caller := by
  rw [callers_run_concat, List.getElem?_append] at isCaller
  split at isCaller
  · rw [List.getElem?_map] at isCaller
    rcases Option.map_eq_some_iff.mp isCaller with ⟨old, isOld, same⟩
    exact .inl ⟨old, isOld, same.symm⟩
  · rename_i notBefore
    rw [List.length_map] at isCaller notBefore
    exact .inr ⟨_, (Nat.add_sub_cancel' (Nat.not_lt.mp notBefore)).symm, isCaller⟩

end Session

end LabelPress.Preview
