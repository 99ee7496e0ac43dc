import LabelPress.Proofs.Preview.Slot

/-!
# Only the latest request counts

What the callers of a session observe over a whole run. A content reaches the caller whose own call
ended with it, and only if nothing took the slot from that caller before. A caller whose request was
dropped comes back with nothing, with one exception: a failure that is none of the preview's own is
not held back, although nobody is interested in the request any more.
-/

namespace LabelPress.Preview

/-- A step that drops the request of the caller that waits under a name: a later render, or a cancel
of the session, be it only after the request has ended. -/
def SessionStep.Drops (name : Text) : SessionStep → Prop
  | .render names _ => names ≠ []
  | .finishThenCancel other _ => other = name
  | .cancel => True
  | .finish _ _ | .cancelCaller _ => False

/-- What a dropped caller comes back with: nothing, but for a failure that is none of the preview's
own and that the request ended with before it was dropped. -/
def SessionStep.leftover : SessionStep → Status
  | .finishThenCancel _ (.crash reason) => .failed (.crashed reason)
  | _ => .resolved none

namespace SessionStep

variable {step : SessionStep} {name text : Text}

theorem outcome_of_drops (drops : step.Drops name) : step.outcome name = step.leftover := by
  cases step with
  | render names profile => exact if_neg drops
  | finish other ending => exact absurd drops id
  | finishThenCancel other ending =>
    obtain rfl : other = name := drops
    rw [outcome, if_pos rfl]
    cases ending <;> rfl
  | cancel => rfl
  | cancelCaller other => exact absurd drops id

theorem leftover_ne_pending (step : SessionStep) : step.leftover ≠ .pending := by
  unfold leftover
  split <;> simp

theorem not_drops_of_outcome (waits : step.outcome name = .pending) : ¬step.Drops name := by
  intro drops
  exact step.leftover_ne_pending ((outcome_of_drops drops).symm.trans waits)

/-- Only the end of a request gives a content to the caller that waits for it. -/
theorem eq_finish_of_outcome (gives : step.outcome name = .resolved (some text)) :
    step = .finish name (.content text) := by
  cases step with
  | render names profile =>
    simp only [outcome] at gives
    split at gives <;> simp at gives
  | finish other ending =>
    simp only [outcome] at gives
    split at gives
    · rename_i same
      subst same
      cases ending <;> simp [Ending.kept] at gives
      rw [gives]
    · simp at gives
  | finishThenCancel other ending =>
    simp only [outcome] at gives
    split at gives
    · cases ending <;> simp [Ending.dropped] at gives
    · simp at gives
  | cancel => simp [outcome] at gives
  | cancelCaller other =>
    simp only [outcome] at gives
    split at gives <;> simp at gives

/-- A new caller was superseded at once, or it is the last one of its step and waits. -/
theorem newcomers_cases {index : Nat} {caller : Caller}
    (isNew : step.newcomers[index]? = some caller) :
    caller.status = .resolved none ∨ caller.status = .pending ∧
      ∃ names profile, step = .render (names ++ [caller.name]) profile ∧ index = names.length := by
  cases step with
  | render names profile =>
    rcases List.eq_nil_or_concat names with rfl | ⟨others, last, rfl⟩
    · simp [newcomers] at isNew
    · simp only [newcomers, List.concat_eq_append, List.dropLast_concat, List.getLast?_concat,
        Option.map_some, Option.toList_some, List.getElem?_append, List.length_map] at isNew
      split at isNew
      · rcases List.mem_map.mp (List.mem_of_getElem? isNew) with ⟨name, -, rfl⟩
        exact .inl rfl
      · rename_i notBefore
        have inside := (List.getElem?_eq_some_iff.mp isNew).1
        rw [List.length_singleton] at inside
        have isLast : index = others.length := by omega
        obtain rfl := List.mem_singleton.mp (List.mem_of_getElem? isNew)
        exact .inr ⟨rfl, others, profile, by simp, isLast⟩
  | finish _ _ => simp [newcomers] at isNew
  | finishThenCancel _ _ => simp [newcomers] at isNew
  | cancel => simp [newcomers] at isNew
  | cancelCaller _ => simp [newcomers] at isNew

end SessionStep

namespace Session

/-! ## Where a content comes from -/

/-- A caller waits since it was the last one of a render step, and no step since then has dropped
it. -/
theorem origin_of_pending {steps : List SessionStep} {place : Nat} {caller : Caller}
    (isCaller : (run steps).callers[place]? = some caller) (waits : caller.status = .pending) :
    ∃ earlier names profile between,
      steps = earlier ++ .render (names ++ [caller.name]) profile :: between ∧
      place = (run earlier).callers.length + names.length ∧
      ∀ step ∈ between, ¬step.Drops caller.name := by
  induction steps using List.reverseRecOn generalizing caller with
  | nil => simp [run] at isCaller
  | append_singleton steps step ih =>
    rcases caller_run_concat isCaller with ⟨old, isOld, rfl⟩ | ⟨index, isPlace, isNew⟩
    · rcases Caller.status_settle_eq_pending_iff.mp waits with ⟨oldWaits, kept⟩
      rcases ih isOld oldWaits with ⟨earlier, names, profile, between, rfl, isLast, noneDropped⟩
      refine ⟨earlier, names, profile, between ++ [step], by simp, isLast, ?_⟩
      intro other member
      rw [Caller.name_settle]
      rcases List.mem_append.mp member with early | late
      · exact noneDropped other early
      · rw [List.mem_singleton.mp late]
        exact SessionStep.not_drops_of_outcome kept
    · rcases SessionStep.newcomers_cases isNew with superseded | ⟨-, names, profile, rfl, rfl⟩
      · rw [superseded] at waits
        contradiction
      · exact ⟨steps, names, profile, [], rfl, isPlace, by simp⟩

/-- A caller got a text since its own call ended with it. The caller was the last one to start in a
render step, whose only request is its own. No step dropped that request before it ended with the
text, and the caller still waited then. -/
def Delivered (steps : List SessionStep) (place : Nat) (name text : Text) : Prop :=
  ∃ earlier names profile between after,
    steps = earlier ++ .render (names ++ [name]) profile :: between ++
      .finish name (.content text) :: after ∧
    place = (run earlier).callers.length + names.length ∧
    (SessionStep.render (names ++ [name]) profile).requests = [⟨name, profile⟩] ∧
    (∀ step ∈ between, ¬step.Drops name) ∧
    (run (earlier ++ .render (names ++ [name]) profile :: between)).callers[place]? =
      some ⟨name, .pending⟩

theorem delivered_of_content {steps : List SessionStep} {place : Nat} {name text : Text}
    (isCaller : (run steps).callers[place]? = some ⟨name, .resolved (some text)⟩) :
    Delivered steps place name text := by
  induction steps using List.reverseRecOn with
  | nil => simp [run] at isCaller
  | append_singleton steps step ih =>
    rcases caller_run_concat isCaller with ⟨old, isOld, same⟩ | ⟨index, -, isNew⟩
    · by_cases waited : old.status = .pending
      · -- This is the step in which the content comes.
        rw [Caller.settle_of_pending waited] at same
        injection same with sameName sameStatus
        obtain rfl := SessionStep.eq_finish_of_outcome sameStatus.symm
        rcases origin_of_pending isOld waited with
          ⟨earlier, names, profile, between, rfl, isLast, noneDropped⟩
        rw [sameName]
        refine ⟨earlier, names, profile, between, [], rfl, isLast, ?_, noneDropped, ?_⟩
        · simp [SessionStep.requests]
        · rwa [← waited]
      · rw [Caller.settle_of_ne waited] at same
        rw [← same] at isOld
        rcases ih isOld with ⟨earlier, names, profile, between, after, rfl, delivered⟩
        exact ⟨earlier, names, profile, between, after ++ [step], by simp, delivered⟩
    · rcases SessionStep.newcomers_cases isNew with superseded | ⟨waits, -⟩
      · simp at superseded
      · simp at waits

/-! ## What callers observe -/

/-- A session never delivers a stale result. At every moment at most one caller waits, the one that
started last. A caller that no longer waits keeps its status for ever. A content was delivered by
the end of the caller's own call, to a caller that had not been dropped. A caller that gives up
changes from waiting to cancelled, and nothing else changes. -/
theorem run_never_stale (steps : List SessionStep) :
    (∀ (place : Nat) (caller : Caller), (run steps).callers[place]? = some caller →
        caller.status = .pending → place + 1 = (run steps).callers.length) ∧
      (∀ (place : Nat) (caller : Caller), (run steps).callers[place]? = some caller →
        caller.status ≠ .pending → ∀ more, (run (steps ++ more)).callers[place]? = some caller) ∧
      (∀ (place : Nat) (name text : Text),
        (run steps).callers[place]? = some ⟨name, .resolved (some text)⟩ →
        Delivered steps place name text) ∧
      ∀ name, (run steps).step (.cancelCaller name) = { run steps with
        callers := (run steps).callers.map fun caller =>
          if caller.name = name ∧ caller.status = .pending then { caller with status := .cancelled }
          else caller } := by
  refine ⟨?_, ?_, ?_, ?_⟩
  · intro place caller isCaller waits
    exact (onlyLastWaits_run steps place caller isCaller waits).1
  · intro place caller isCaller settled more
    exact getElem?_run_append isCaller settled more
  · intro place name text isCaller
    exact delivered_of_content isCaller
  · intro name
    rw [Session.step, cancelCaller, finish_eq (onlyLastWaits_run steps), settleNamed]
    congr
    funext caller
    by_cases same : caller.name = name
    · simp [same, Caller.settle, Ending.kept]
    · simp [same, Ne.symm same]

/-- A request that is superseded, one that is finished, and a caller that gives up. -/
def busySteps : List SessionStep :=
  [.render ["a".toText, "b".toText] none, .render ["c".toText] none,
    .finish "b".toText (.content "old".toText), .finish "c".toText (.content "new".toText),
    .render ["d".toText] none, .cancelCaller "d".toText]

/-- Of four callers only the third gets a content, that of its own call. -/
theorem run_never_stale_busy :
    (run busySteps).callers = [⟨"a".toText, .resolved none⟩, ⟨"b".toText, .resolved none⟩,
        ⟨"c".toText, .resolved (some "new".toText)⟩, ⟨"d".toText, .cancelled⟩] ∧
      Delivered busySteps 2 "c".toText "new".toText ∧
      ∀ more, (run (busySteps ++ more)).callers[3]? = some ⟨"d".toText, .cancelled⟩ := by
  have callers : (run busySteps).callers = [⟨"a".toText, .resolved none⟩,
      ⟨"b".toText, .resolved none⟩, ⟨"c".toText, .resolved (some "new".toText)⟩,
      ⟨"d".toText, .cancelled⟩] := by
    decide
  rcases run_never_stale busySteps with ⟨-, final, delivered, -⟩
  refine ⟨callers, delivered 2 _ _ ?_, final 3 _ ?_ (by simp)⟩
  · rw [callers]
    rfl
  · rw [callers]
    rfl

/-- What becomes of callers whose requests were dropped, whatever follows. Callers that are
superseded in the step in which they start come back with nothing. So does a caller that waits, if a
later render supersedes it or the session is cancelled, even after its request ended with a content
or with a failure of the preview. Only another failure goes through. -/
theorem run_dropped (steps more : List SessionStep) :
    (∀ (names : List Text) (last : Text) (profile : Option Profile) (index : Nat) (name : Text),
        names[index]? = some name →
        (run (steps ++ .render (names ++ [last]) profile :: more)).callers[
          (run steps).callers.length + index]? = some ⟨name, .resolved none⟩) ∧
      ∀ (step : SessionStep) (place : Nat) (name : Text),
        (run steps).callers[place]? = some ⟨name, .pending⟩ → step.Drops name →
        (run (steps ++ step :: more)).callers[place]? = some ⟨name, step.leftover⟩ := by
  constructor
  · intro names last profile index name isName
    rw [List.append_cons]
    apply getElem?_run_append
    · rcases List.getElem?_eq_some_iff.mp isName with ⟨inside, rfl⟩
      rw [callers_run_concat, List.getElem?_append_right (by simp), List.length_map,
        Nat.add_sub_cancel_left]
      simp [SessionStep.newcomers, List.getElem?_append, inside]
    · simp
  · intro step place name isWaiting drops
    have after := getElem?_run_concat isWaiting step
    rw [SessionStep.outcome_of_drops drops, Caller.settle_of_pending rfl] at after
    rw [List.append_cons]
    exact getElem?_run_append after step.leftover_ne_pending more

/-- A request that ended with a content just before the session was cancelled. -/
theorem run_dropped_late :
    (run [.render ["a".toText] none]).callers[0]? = some ⟨"a".toText, .pending⟩ ∧
      (run [.render ["a".toText] none, .finishThenCancel "a".toText (.content "late".toText),
        .render ["b".toText] none]).callers[0]? = some ⟨"a".toText, .resolved none⟩ := by
  have waits : (run [.render ["a".toText] none]).callers[0]? = some ⟨"a".toText, .pending⟩ := by
    decide
  exact ⟨waits, (run_dropped [.render ["a".toText] none] [.render ["b".toText] none]).2
    (.finishThenCancel "a".toText (.content "late".toText)) 0 _ waits rfl⟩

/-- A dropped caller does not always come back with nothing: a crash goes through, although the
session was cancelled before the caller resumed. -/
theorem exists_dropped_failure :
    ¬∀ (steps : List SessionStep) (step : SessionStep) (place : Nat) (name : Text),
      (run steps).callers[place]? = some ⟨name, .pending⟩ → step.Drops name →
      (run (steps ++ [step])).callers[place]? = some ⟨name, .resolved none⟩ := by
  intro always
  have nothing := always [.render ["a".toText] none]
    (.finishThenCancel "a".toText (.crash "late".toText)) 0 "a".toText (by decide) rfl
  revert nothing
  decide

end Session

end LabelPress.Preview
