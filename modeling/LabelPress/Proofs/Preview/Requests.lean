import LabelPress.Proofs.Preview.Steps

/-!
# Which requests reach the client

Runs of an event loop. They show what the runs of a session show, and they tell more about the
requests: which of them reached the client, and in which order. Neither the order of the jobs nor a
cancellation makes a difference to that. Of the callers that start in a step only the last one has
its request passed to the client, and no other step passes one.
-/

namespace LabelPress.Preview.Loop

variable {loop next : Loop} {step : SessionStep}

theorem length_callers_session (loop : Loop) :
    loop.session.callers.length = loop.parties.length :=
  List.length_map _

theorem Follows.length (follows : loop.Follows step next)
    (onlyLast : loop.session.OnlyLastWaits) :
    next.parties.length = loop.parties.length + step.newcomers.length := by
  have callers := congrArg List.length (onlyLast.callers_step step)
  rw [← follows.session, List.length_append, List.length_map] at callers
  rwa [length_callers_session, length_callers_session] at callers

/-! ## Runs -/

/-- A new loop after some steps. -/
def run (steps : List SessionStep) : Loop :=
  steps.foldl Loop.step {}

theorem run_concat (steps : List SessionStep) (step : SessionStep) :
    run (steps ++ [step]) = (run steps).step step := by
  rw [run, List.foldl_append]
  rfl

/-- Requests that reached the client are those of parties, in the order in which these came. -/
structure InOrder (loop : Loop) : Prop where
  known : ∀ place ∈ loop.reached, place < loop.parties.length
  increasing : loop.reached.Pairwise (· < ·)

theorem places_cases (count : Nat) (step : SessionStep) :
    places count step = [] ∨
      ∃ names last profile, step = .render (names ++ [last]) profile ∧
        places count step = [count + names.length] := by
  cases step with
  | render names profile =>
    rcases List.eq_nil_or_concat names with rfl | ⟨others, last, rfl⟩
    · exact .inl rfl
    · rw [List.concat_eq_append]
      exact .inr ⟨others, last, profile, rfl, by simp [places]⟩
  | finish name ending => exact .inl rfl
  | finishThenCancel name ending => exact .inl rfl
  | cancel => exact .inl rfl
  | cancelCaller name => exact .inl rfl

theorem InOrder.of_follows (inOrder : loop.InOrder) (follows : loop.Follows step next)
    (onlyLast : loop.session.OnlyLastWaits) : next.InOrder := by
  have length := follows.length onlyLast
  rcases places_cases loop.parties.length step with nothing | ⟨names, last, profile, rfl, one⟩
  · have same := follows.reached
    rw [nothing, List.append_nil] at same
    constructor
    · intro place member
      rw [same] at member
      rw [length]
      exact Nat.lt_add_right _ (inOrder.known place member)
    · rw [same]
      exact inOrder.increasing
  · have added := follows.reached
    rw [one] at added
    have newcomers : (SessionStep.render (names ++ [last]) profile).newcomers.length =
        names.length + 1 := by
      simp [SessionStep.newcomers]
    rw [newcomers] at length
    constructor
    · intro place member
      rw [added, List.mem_append, List.mem_singleton] at member
      rcases member with old | rfl
      · have inside := inOrder.known place old
        omega
      · omega
    · rw [added, List.pairwise_append]
      refine ⟨inOrder.increasing, List.pairwise_singleton _ _, ?_⟩
      intro place old other member
      have inside := inOrder.known place old
      rw [List.mem_singleton.mp member]
      omega

/-- What holds of a loop after a run. -/
theorem run_spec (steps : List SessionStep) :
    (run steps).IsSettled ∧ (run steps).InOrder ∧ (run steps).session = Session.run steps := by
  induction steps using List.reverseRecOn with
  | nil => exact ⟨isSettled_empty, ⟨List.forall_mem_nil _, .nil⟩, rfl⟩
  | append_singleton steps step ih =>
    rcases ih with ⟨settled, inOrder, session⟩
    have onlyLast : (run steps).session.OnlyLastWaits := by
      rw [session]
      exact Session.onlyLastWaits_run steps
    have follows := settled.follows onlyLast inOrder.known step
    rw [← run_concat] at follows
    refine ⟨follows.settled, inOrder.of_follows follows onlyLast, ?_⟩
    rw [follows.session, session, Session.run_concat]

/-- The event loop shows what the session shows, whatever the steps are. -/
theorem session_run (steps : List SessionStep) : (run steps).session = Session.run steps :=
  (run_spec steps).2.2

theorem onlyLastWaits_run (steps : List SessionStep) : (run steps).session.OnlyLastWaits := by
  rw [session_run]
  exact Session.onlyLastWaits_run steps

theorem follows_run (steps : List SessionStep) (step : SessionStep) :
    (run steps).Follows step (run (steps ++ [step])) := by
  rcases run_spec steps with ⟨settled, inOrder, -⟩
  rw [run_concat]
  exact settled.follows (onlyLastWaits_run steps) inOrder.known step

/-- Requests that reach the client later are those of parties that came later. -/
theorem reached_run_append (steps more : List SessionStep) :
    (run steps).parties.length ≤ (run (steps ++ more)).parties.length ∧
      ∃ later, (run (steps ++ more)).reached = (run steps).reached ++ later ∧
        ∀ place ∈ later, (run steps).parties.length ≤ place := by
  induction more using List.reverseRecOn with
  | nil =>
    rw [List.append_nil]
    exact ⟨Nat.le_refl _, [], (List.append_nil _).symm, List.forall_mem_nil _⟩
  | append_singleton more step ih =>
    rcases ih with ⟨grown, later, reached, allLater⟩
    have follows := follows_run (steps ++ more) step
    have length := follows.length (onlyLastWaits_run _)
    have added := follows.reached
    rw [List.append_assoc] at length added
    rw [reached, List.append_assoc] at added
    constructor
    · rw [length]
      exact Nat.le_add_right_of_le grown
    · refine ⟨_, added, ?_⟩
      rw [List.forall_mem_append]
      constructor
      · exact allLater
      · intro place member
        rcases places_cases (run (steps ++ more)).parties.length step with
          nothing | ⟨names, last, profile, -, one⟩
        · rw [nothing] at member
          contradiction
        · rw [one] at member
          rw [List.mem_singleton.mp member]
          exact Nat.le_add_right_of_le grown

theorem reached_run_concat (steps : List SessionStep) (names : List Text) (last : Text)
    (profile : Option Profile) :
    (run (steps ++ [.render (names ++ [last]) profile])).reached =
      (run steps).reached ++ [(run steps).parties.length + names.length] := by
  rw [(follows_run steps (.render (names ++ [last]) profile)).reached, places]
  simp

/-- A request that is superseded before it has run never reaches the client. -/
theorem not_mem_reached_run (steps more : List SessionStep) {names : List Text} {index : Nat}
    (inside : index < names.length) (last : Text) (profile : Option Profile) :
    (run steps).parties.length + index ∉
      (run (steps ++ .render (names ++ [last]) profile :: more)).reached := by
  rw [List.append_cons]
  rcases reached_run_append (steps ++ [.render (names ++ [last]) profile]) more with
    ⟨-, later, reached, allLater⟩
  have length := (follows_run steps (.render (names ++ [last]) profile)).length
    (onlyLastWaits_run steps)
  have newcomers : (SessionStep.render (names ++ [last]) profile).newcomers.length =
      names.length + 1 := by
    simp [SessionStep.newcomers]
  rw [newcomers] at length
  rw [reached, reached_run_concat, List.mem_append, List.mem_append, List.mem_singleton]
  rintro ((before | isLast) | after)
  · have known := (run_spec steps).2.1.known _ before
    omega
  · omega
  · have beyond := allLater _ after
    omega

/-! ## Requests -/

/-- A session issues exactly the requests that can matter. When callers start in a step, the request
of the last one reaches the client and no other one, the last one waits, and whoever waited before
it comes back with nothing. In no other step does a request reach the client. So requests reach the
client once at most and in the order of their parties, and a request that is superseded before it
has run never does. -/
theorem run_requests (steps : List SessionStep) :
    (run steps).session = Session.run steps ∧
      (∀ (names : List Text) (last : Text) (profile : Option Profile),
        (run (steps ++ [.render (names ++ [last]) profile])).reached =
            (run steps).reached ++ [(run steps).parties.length + names.length] ∧
          (run (steps ++ [.render (names ++ [last]) profile])).session.calls =
            (run steps).session.calls ++ [⟨last, profile⟩] ∧
          (run (steps ++ [.render (names ++ [last]) profile])).session.callers =
            (run steps).session.callers.map (Caller.settle (.resolved none)) ++
              (names.map (fun name => ⟨name, .resolved none⟩) ++ [⟨last, .pending⟩])) ∧
      (∀ step : SessionStep, (∀ names profile, step = .render names profile → names = []) →
        (run (steps ++ [step])).session.calls = (run steps).session.calls) ∧
      (run steps).reached.Pairwise (· < ·) ∧
      ∀ (names : List Text) (last : Text) (profile : Option Profile) (index : Nat)
        (more : List SessionStep), index < names.length →
          (run steps).parties.length + index ∉
            (run (steps ++ .render (names ++ [last]) profile :: more)).reached := by
  refine ⟨session_run steps, ?_, ?_, (run_spec steps).2.1.increasing, ?_⟩
  · intro names last profile
    have onlyLast := Session.onlyLastWaits_run steps
    refine ⟨reached_run_concat steps names last profile, ?_⟩
    rw [session_run, session_run, Session.run_concat, Session.calls_step]
    constructor
    · simp [SessionStep.requests]
    · exact Session.callers_render onlyLast names last profile
  · intro step others
    rw [session_run, session_run, Session.run_concat, Session.calls_step]
    cases step with
    | render names profile =>
      rw [others names profile rfl]
      exact List.append_nil _
    | finish name ending => exact List.append_nil _
    | finishThenCancel name ending => exact List.append_nil _
    | cancel => exact List.append_nil _
    | cancelCaller name => exact List.append_nil _
  · intro names last profile index more inside
    exact not_mem_reached_run steps more inside last profile

/-- A first caller, and three callers of whom two are superseded at once. -/
theorem run_requests_crowded :
    (run [.render ["a".toText] none, .render ["b".toText, "c".toText, "d".toText] none,
        .cancel]).session.calls = [⟨"a".toText, none⟩, ⟨"d".toText, none⟩] ∧
      (run [.render ["a".toText] none]).parties.length + 1 ∉
        (run [.render ["a".toText] none, .render ["b".toText, "c".toText, "d".toText] none,
          .cancel]).reached := by
  have first := ((run_requests []).2.1 [] "a".toText none).2.1
  rcases run_requests [.render ["a".toText] none] with ⟨-, renders, -, -, superseded⟩
  have second := (renders ["b".toText, "c".toText] "d".toText none).2.1
  have third := (run_requests [.render ["a".toText] none,
    .render ["b".toText, "c".toText, "d".toText] none]).2.2.1 .cancel (by simp)
  constructor
  · exact third.trans (second.trans (congrArg (· ++ [_]) first))
  · exact superseded ["b".toText, "c".toText] "d".toText none 1 [.cancel] (by decide)

end LabelPress.Preview.Loop
