import LabelPress.Proofs.Preview.Turns
import Mathlib.Data.List.Basic

/-!
# The steps of an event loop

A step of a session brings jobs up and does them all. What is expected once the jobs have come up
is what the session has after the step, so the event loop shows what the session shows. The cases
differ in what a cancelled request was doing: it had not run when a later caller of the same step
started, it was with the client when the slot was taken or emptied or its caller gave up, or it had
ended before its caller could resume.
-/

namespace LabelPress.Preview

namespace Loop

variable {loop : Loop} {place : Nat} {party : Party}

/-! ## Callers that come -/

/-- All jobs are those of callers that start. -/
def IsStarting (loop : Loop) : Prop :=
  ∀ job ∈ loop.queue, job.isStart = true

theorem getElem?_arrive (loop : Loop) (profile : Option Profile) (name : Text) (other : Nat) :
    (loop.arrive profile name).parties[other]? =
      if other = loop.parties.length then some { name, profile } else loop.parties[other]? := by
  rw [arrive]
  dsimp only
  rcases Nat.lt_trichotomy other loop.parties.length with inside | rfl | beyond
  · rw [List.getElem?_append_left inside, if_neg (Nat.ne_of_lt inside)]
  · rw [List.getElem?_concat_length, if_pos rfl]
  · have outside : (loop.parties ++ [({ name, profile } : Party)]).length ≤ other := by
      rw [List.length_append]
      exact beyond
    rw [if_neg (Nat.ne_of_gt beyond), List.getElem?_eq_none (Nat.le_of_lt beyond),
      List.getElem?_eq_none outside]

theorem IsStarting.arrive (starting : loop.IsStarting) (profile : Option Profile) (name : Text) :
    (loop.arrive profile name).IsStarting := by
  intro job member
  rw [Loop.arrive, List.mem_append, List.mem_singleton] at member
  rcases member with old | rfl
  · exact starting job old
  · rfl

theorem Sound.arrive (sound : loop.Sound) (starting : loop.IsStarting) (profile : Option Profile)
    (name : Text) : (loop.arrive profile name).Sound := by
  have absent : loop.parties[loop.parties.length]? = none := List.getElem?_eq_none (Nat.le_refl _)
  constructor
  · intro other
    have jobs : (loop.arrive profile name).jobsAt other =
        loop.jobsAt other ++ if other = loop.parties.length then [.start other] else [] := by
      rw [jobsAt, Loop.arrive, List.filter_append]
      by_cases same : other = loop.parties.length
      · simp [jobsAt, same, Job.place]
      · simp [jobsAt, same, Ne.symm same, Job.place]
    rw [jobs, getElem?_arrive, sound.jobs]
    split
    · rename_i same
      rw [same, absent]
      rfl
    · rw [List.append_nil]
  · intro other third isThird
    rw [getElem?_arrive] at isThird
    split at isThird
    · obtain rfl := Option.some.inj isThird
      rfl
    · exact sound.fits other third isThird
  · intro other held
    rcases sound.asked other held with ⟨third, isThird, asked⟩
    have inside := (List.getElem?_eq_some_iff.mp isThird).1
    rw [getElem?_arrive, if_neg (Nat.ne_of_lt inside)]
    exact ⟨third, isThird, asked⟩
  · rw [Loop.arrive, List.pairwise_append]
    refine ⟨sound.startsFirst, List.pairwise_singleton _ _, ?_⟩
    exact fun job member _ _ _ => starting job member

theorem heir_arrive (loop : Loop) (profile : Option Profile) (name : Text) :
    (loop.arrive profile name).heir = some loop.parties.length := by
  have last : [Job.start loop.parties.length].filter Job.isStart =
      [.start loop.parties.length] := rfl
  rw [heir, arrive, List.filter_append, last, List.map_append, List.map_singleton,
    List.getLast?_concat, Option.some_or]
  rfl

/-- A party that may be there while callers start. -/
theorem Sound.phase_cases_of_isStarting (sound : loop.Sound) (starting : loop.IsStarting)
    (isParty : loop.parties[place]? = some party) :
    party.phase = .unasked ∨ party.phase = .calling ∨
      ∃ ending, party.phase = .ended ending ∧ party.status ≠ .pending := by
  have starts : ∀ job ∈ (party.job? place).toList, job.isStart = true := by
    rw [← sound.jobsAt_eq isParty]
    intro job member
    exact starting job (List.mem_filter.mp member).1
  cases phase : party.phase with
  | unasked => exact .inl rfl
  | scheduled => simp [Party.job?, phase, Job.isStart] at starts
  | calling => exact .inr (.inl rfl)
  | woken ending => simp [Party.job?, phase, Job.isStart] at starts
  | ended ending =>
    refine .inr (.inr ⟨ending, rfl, ?_⟩)
    intro pending
    simp [Party.job?, phase, pending, Job.isStart] at starts

/-- A caller that comes to a loop is going to take the slot, as a caller that starts in a session
takes it. -/
theorem Sound.expected_arrive (sound : loop.Sound) (starting : loop.IsStarting)
    (profile : Option Profile) (name : Text) {calls : List Call}
    (onlyLast : ({ loop.expected with calls } : Session).OnlyLastWaits) :
    ({ loop.expected with calls } : Session).start name =
      { (loop.arrive profile name).expected with calls } := by
  have dropped : loop.expected.callers.map (Caller.settle (.resolved none)) =
      loop.parties.mapIdx fun place party =>
        ⟨party.name, party.outlook loop.slot (some loop.parties.length) place⟩ := by
    apply List.ext_getElem?
    intro place
    rw [List.getElem?_map, getElem?_callers_expected, prospect, List.getElem?_mapIdx]
    cases isParty : loop.parties[place]? with
    | none => rfl
    | some party =>
      have inside := (List.getElem?_eq_some_iff.mp isParty).1
      have older : loop.parties.length ≠ place := Nat.ne_of_gt inside
      rcases sound.phase_cases_of_isStarting starting isParty with
        unasked | calling | ⟨ending, ended, back⟩
      · by_cases heir : loop.heir = some place
        · simp [Party.outlook, unasked, heir, older, Party.call, Caller.settle]
        · simp [Party.outlook, unasked, heir, older, Party.call, Caller.settle]
      · by_cases heir : loop.heir = some place
        · simp [Party.outlook, calling, heir, older, Party.call, Caller.settle]
        · simp [Party.outlook, calling, heir, older, Party.call, Caller.settle]
      · simp [Party.outlook, ended, back, Party.call, Caller.settle]
  have grown : (loop.arrive profile name).expected.callers =
      loop.expected.callers.map (Caller.settle (.resolved none)) ++ [⟨name, .pending⟩] := by
    rw [dropped, expected, heir_arrive]
    dsimp only [Loop.arrive]
    rw [List.mapIdx_concat]
    simp [Party.outlook]
  rw [Session.start_eq onlyLast]
  apply Session.ext
  · exact (congrArg some loop.length_callers_expected).trans (loop.heir_arrive profile name).symm
  · exact grown.symm
  · rfl

/-- Callers that come one after the other. -/
theorem Sound.expected_arrivals (sound : loop.Sound) (starting : loop.IsStarting)
    (profile : Option Profile) (names : List Text) {calls : List Call}
    (onlyLast : ({ loop.expected with calls } : Session).OnlyLastWaits) :
    (names.foldl (Loop.arrive profile) loop).Sound ∧
      names.foldl Session.start { loop.expected with calls } =
        { (names.foldl (Loop.arrive profile) loop).expected with calls } := by
  induction names generalizing loop with
  | nil => exact ⟨sound, rfl⟩
  | cons name names ih =>
    have arrived := sound.expected_arrive starting profile name onlyLast
    rw [List.foldl_cons, List.foldl_cons, arrived]
    apply ih (sound.arrive starting profile name) (starting.arrive profile name)
    rw [← arrived]
    exact onlyLast.start name

theorem foldl_arrive (loop : Loop) (profile : Option Profile) (names : List Text) :
    (names.foldl (Loop.arrive profile) loop).reached = loop.reached ∧
      (names.foldl (Loop.arrive profile) loop).parties =
        loop.parties ++ names.map fun name => ({ name, profile } : Party) := by
  induction names generalizing loop with
  | nil => exact ⟨rfl, (List.append_nil _).symm⟩
  | cons name names ih =>
    rcases ih (loop.arrive profile name) with ⟨reached, parties⟩
    rw [List.foldl_cons]
    refine ⟨reached, parties.trans ?_⟩
    rw [arrive, List.append_assoc]
    rfl

/-- Of the callers that come, the last one's request is going to reach the client. -/
theorem bound_arrivals (loop : Loop) (profile : Option Profile) (names : List Text) (last : Text) :
    ((names ++ [last]).foldl (Loop.arrive profile) loop).bound =
      loop.reached ++ [loop.parties.length + names.length] := by
  rcases loop.foldl_arrive profile names with ⟨reached, parties⟩
  rw [List.foldl_append, List.foldl_cons, List.foldl_nil]
  generalize names.foldl (Loop.arrive profile) loop = before at reached parties
  have isLast := before.getElem?_arrive profile last before.parties.length
  rw [if_pos rfl] at isLast
  have unsent : (before.arrive profile last).isUnsent before.parties.length = true := by
    rw [isUnsent, isLast]
    rfl
  have place : before.parties.length = loop.parties.length + names.length := by
    rw [parties, List.length_append, List.length_map]
  rw [bound, heir_arrive, Option.filter_some, unsent, if_pos rfl, Option.toList_some, place,
    ← reached]
  rfl

theorem calls_arrivals (known : ∀ place ∈ loop.reached, place < loop.parties.length)
    (profile : Option Profile) (names : List Text) (last : Text) :
    ((names ++ [last]).foldl (Loop.arrive profile) loop).expected.calls =
      loop.session.calls ++ [⟨last, profile⟩] := by
  have bound := loop.bound_arrivals profile names last
  have parties := (loop.foldl_arrive profile (names ++ [last])).2
  generalize (names ++ [last]).foldl (Loop.arrive profile) loop = next at bound parties
  have older : next.callsAt loop.reached = loop.session.calls := by
    apply List.filterMap_congr
    intro place member
    rw [parties, List.getElem?_append_left (known place member)]
  have newest : next.parties[loop.parties.length + names.length]? =
      some { name := last, profile } := by
    rw [parties, List.getElem?_append_right (Nat.le_add_right _ _), Nat.add_sub_cancel_left]
    simp
  have added : next.callsAt [loop.parties.length + names.length] = [⟨last, profile⟩] := by
    rw [callsAt, List.filterMap_cons, newest]
    rfl
  rw [expected, bound, callsAt, List.filterMap_append]
  exact congr (congrArg _ older) added

/-! ## Calls that are over -/

theorem waiting?_session (loop : Loop) (name : Text) :
    loop.session.waiting? name = loop.waiting? name := by
  rw [Session.waiting?, session, List.findIdx?_map]
  rfl

/-- A caller that waits has its request with the client. -/
theorem IsSettled.exists_calling (settled : loop.IsSettled) {name : Text}
    (waiting : loop.waiting? name = some place) :
    ∃ party, loop.parties[place]? = some party ∧ party.phase = .calling ∧
      party.status = .pending ∧ loop.slot = some place := by
  rcases List.findIdx?_eq_some_iff_getElem.mp waiting with ⟨inside, isWaiting, -⟩
  have isParty := List.getElem?_eq_getElem inside
  have pending : loop.parties[place].status = .pending := by
    simp only [Bool.and_eq_true, beq_iff_eq] at isWaiting
    exact isWaiting.2
  rcases settled.phase_cases isParty with ⟨calling, -, held⟩ | ⟨ending, -, back⟩
  · exact ⟨_, isParty, calling, pending, held⟩
  · exact absurd pending back

/-- What is seen of a party of a settled loop. -/
theorem IsSettled.getElem?_callers (settled : loop.IsSettled) (other : Nat) :
    loop.session.callers[other]? = loop.parties[other]?.map fun party =>
      ⟨party.name, party.outlook loop.slot loop.slot other⟩ := by
  have seen := loop.getElem?_callers_expected other
  rw [settled.expected_eq, prospect, settled.heir_eq, Option.map_map] at seen
  exact seen

/-- A call that is over leads its caller back, as in a session. -/
theorem IsSettled.expected_wake (settled : loop.IsSettled)
    (isParty : loop.parties[place]? = some party) (calling : party.phase = .calling)
    (held : loop.slot = some place) (ending : Ending) :
    (loop.wake place ending).bound = loop.reached ∧
      (loop.wake place ending).expected = loop.session.resume place ending := by
  have edits : loop.Edits place party { party with phase := .woken ending }
      (loop.wake place ending) := by
    rw [wake_eq isParty]
    exact ⟨isParty, rfl, rfl, by simp⟩
  have slot : (loop.wake place ending).slot = loop.slot := rfl
  have heir : (loop.wake place ending).heir = loop.slot := by
    rw [← slot]
    apply heir_eq_slot
    rw [wake_eq isParty, settled.done]
    exact List.forall_mem_singleton.mpr rfl
  have bound : (loop.wake place ending).bound = loop.reached := by
    have sent : (loop.wake place ending).isUnsent place = false := by
      rw [edits.isUnsent, if_pos rfl]
      rfl
    rw [Loop.bound, heir, held, Option.filter_some, sent]
    exact List.append_nil _
  refine ⟨bound, ?_⟩
  apply Session.ext
  · exact heir
  · apply List.ext_getElem?
    intro other
    rw [getElem?_callers_expected, prospect, edits.getElem?, heir, slot, Session.resume,
      List.getElem?_modify, settled.getElem?_callers]
    by_cases same : other = place
    · subst same
      rw [if_pos rfl, isParty]
      simp [Party.outlook, calling, held, session, Party.call]
    · rw [if_neg same, Option.map_map]
      simp [Ne.symm same, Function.comp_def, Party.call]
  · rw [expected, bound, edits.callsAt_eq]
    rfl

/-! ## Slots that are emptied -/

theorem heir_passSlot_none (started : ∀ job ∈ loop.queue, job.isStart = false) :
    (loop.passSlot none).heir = none := by
  have noStart : (loop.passSlot none).queue.filter Job.isStart = [] := by
    rw [passSlot]
    dsimp only
    rw [filter_isStart_release, filter_isStart_eq_nil started]
  rw [Loop.heir, noStart]
  rfl

theorem bound_passSlot_none (started : ∀ job ∈ loop.queue, job.isStart = false) :
    (loop.passSlot none).bound = loop.reached := by
  rw [bound, heir_passSlot_none started, passSlot, reached_release]
  exact List.append_nil _

theorem Sound.passSlot_none (sound : loop.Sound) : (loop.passSlot none).Sound where
  jobs := sound.release.jobs
  fits := fun _ _ isParty => sound.fits_release _ isParty
  asked := fun _ held => absurd held (by simp [passSlot])
  startsFirst := sound.release.startsFirst

/-- When the slot is emptied, a request that has not ended loses it, and one that has ended as
well. -/
theorem Sound.prospect_passSlot_none (sound : loop.Sound)
    (started : ∀ job ∈ loop.queue, job.isStart = false) (other : Nat) :
    (loop.passSlot none).prospect other = loop.parties[other]?.map fun party =>
      (party.call, party.outlook loop.slot none other) := by
  rw [prospect, heir_passSlot_none started, passSlot, sound.getElem?_release, Option.map_map]
  cases isThird : loop.parties[other]? with
  | none => rfl
  | some third =>
    have notTaken : none ≠ some other := (Option.some_ne_none other).symm
    rw [Option.map_some, Option.map_some, Function.comp_apply,
      sound.prospect_released isThird notTaken (fun _ => notTaken) rfl]

theorem Sound.expected_passSlot_none (sound : loop.Sound)
    (started : ∀ job ∈ loop.queue, job.isStart = false) :
    (loop.passSlot none).expected = {
      slot := none
      callers := loop.parties.mapIdx fun place party =>
        ⟨party.name, party.outlook loop.slot none place⟩
      calls := loop.session.calls } := by
  apply Session.ext
  · exact heir_passSlot_none started
  · apply List.ext_getElem?
    intro other
    rw [getElem?_callers_expected, sound.prospect_passSlot_none started, Option.map_map,
      List.getElem?_mapIdx]
    rfl
  · have requests : (loop.passSlot none).callsAt = loop.callsAt := by
      apply callsAt_congr
      intro other
      have same := congrArg (Option.map Prod.fst) (sound.prospect_passSlot_none started other)
      simpa only [prospect, Option.map_map, Function.comp_def] using same
    rw [expected, bound_passSlot_none started, requests]
    rfl

/-! ## Steps -/

/-- The place of the party whose request reaches the client in a step, if so many parties came
before the step. -/
def places (count : Nat) : SessionStep → List Nat
  | .render names _ => if names = [] then [] else [count + (names.length - 1)]
  | _ => []

/-- A step of a loop that shows what the step of a session shows. -/
structure Follows (loop : Loop) (step : SessionStep) (next : Loop) : Prop where
  settled : next.IsSettled
  session : next.session = loop.session.step step
  reached : next.reached = loop.reached ++ places loop.parties.length step

variable {step : SessionStep} {next : Loop}

theorem Sound.follows (sound : next.Sound) (expected : next.expected = loop.session.step step)
    (bound : next.bound = loop.reached ++ places loop.parties.length step) :
    loop.Follows step next.settle := by
  rcases sound.settle_eq with ⟨settled, session, reached, -⟩
  exact ⟨settled, session.trans expected, reached.trans bound⟩

namespace IsSettled

variable (settled : loop.IsSettled)

include settled

theorem started : ∀ job ∈ loop.queue, job.isStart = false := by
  rw [settled.done]
  exact List.forall_mem_nil _

theorem isStarting : loop.IsStarting := by
  rw [IsStarting, settled.done]
  exact List.forall_mem_nil _

theorem follows_render_nil (profile : Option Profile) :
    loop.Follows (.render [] profile) (loop.step (.render [] profile)) := by
  apply settled.sound.follows
  · rw [settled.expected_eq, Session.step, Session.render]
    exact Session.ext rfl rfl (List.append_nil _).symm
  · rw [settled.bound_eq]
    exact (List.append_nil _).symm

/-- Of the callers that start in a step, the last one's request reaches the client. -/
theorem follows_render (onlyLast : loop.session.OnlyLastWaits)
    (known : ∀ place ∈ loop.reached, place < loop.parties.length) (names : List Text) (last : Text)
    (profile : Option Profile) :
    loop.Follows (.render (names ++ [last]) profile)
      (loop.step (.render (names ++ [last]) profile)) := by
  have whole : ({ loop.expected with calls := loop.session.calls } : Session) = loop.session := by
    rw [settled.expected_eq]
  rcases settled.sound.expected_arrivals settled.isStarting profile (names ++ [last])
    (whole ▸ onlyLast) with ⟨sound, started⟩
  rw [whole] at started
  apply sound.follows
  · rw [Session.step, Session.render, started]
    apply Session.ext
    · rfl
    · rfl
    · simpa using calls_arrivals known profile names last
  · rw [bound_arrivals, places]
    simp

/-- The call of the caller that waits under a name is over, for one reason or another. -/
theorem follows_wake (name : Text) (ending : Ending) {change : Loop → Nat → Loop}
    (wakes : ∀ place party, loop.parties[place]? = some party → party.phase = .calling →
      change loop place = loop.wake place ending)
    (finishes : loop.session.step step = loop.session.finish name ending)
    (nothing : places loop.parties.length step = []) :
    loop.Follows step (loop.forWaiting name change).settle := by
  rw [forWaiting]
  cases waiting : loop.waiting? name with
  | none =>
    apply settled.sound.follows
    · rw [settled.expected_eq, finishes, Session.finish, waiting?_session, waiting]
    · rw [settled.bound_eq, nothing, List.append_nil]
  | some place =>
    rcases settled.exists_calling waiting with ⟨party, isParty, calling, -, held⟩
    rcases settled.expected_wake isParty calling held ending with ⟨bound, expected⟩
    dsimp only
    rw [wakes place party isParty calling]
    apply (settled.sound.wake isParty calling ending).follows
    · rw [expected, finishes, Session.finish, waiting?_session, waiting]
    · rw [bound, nothing, List.append_nil]

theorem follows_finish (name : Text) (ending : Ending) :
    loop.Follows (.finish name ending) (loop.step (.finish name ending)) := by
  apply settled.follows_wake name ending
  · intro place party isParty calling
    rw [answer, phase?_of_some isParty, calling]
  · rfl
  · rfl

theorem follows_cancelCaller (name : Text) :
    loop.Follows (.cancelCaller name) (loop.step (.cancelCaller name)) := by
  apply settled.follows_wake name .cancelled
  · intro place party isParty calling
    rw [cancelRequest, phase?_of_some isParty, calling]
  · rfl
  · rfl

theorem follows_cancel (onlyLast : loop.session.OnlyLastWaits) :
    loop.Follows .cancel (loop.step .cancel) := by
  apply settled.sound.passSlot_none.follows
  · rw [settled.sound.expected_passSlot_none settled.started, Session.step, Session.cancel,
      Session.passSlot_eq onlyLast (by simp)]
    apply Session.ext
    · rfl
    · apply List.ext_getElem?
      intro other
      dsimp only
      rw [List.getElem?_mapIdx, List.getElem?_map, session, List.getElem?_map]
      cases isParty : loop.parties[other]? with
      | none => rfl
      | some party =>
        rcases settled.phase_cases isParty with ⟨calling, waits, -⟩ | ⟨ending, ended, back⟩
        · simp [Party.outlook, calling, Party.caller, Caller.settle, waits]
        · simp [Party.outlook, ended, Party.caller, Caller.settle, back]
    · rfl
  · rw [bound_passSlot_none settled.started]
    exact (List.append_nil _).symm

/-- A call that is over lets its request end, and the caller has not resumed then. -/
theorem exists_ended (isParty : loop.parties[place]? = some party) (calling : party.phase = .calling)
    (held : loop.slot = some place) (ending : Ending) :
    ∃ after, ((loop.wake place ending).turn (.advance place)).dequeue = after ∧ after.Sound ∧
      loop.Edits place party { party with phase := .ended ending } after ∧
      after.slot = some place ∧ (∀ job ∈ after.queue, job.isStart = false) ∧
      after.reached = loop.reached := by
  have sound := settled.sound.wake isParty calling ending
  have isWoken : (loop.wake place ending).parties[place]? =
      some { party with phase := .woken ending } := by
    rw [wake_eq isParty, getElem?_set_of_some isParty, if_pos rfl]
  have queue : (loop.wake place ending).queue = [.advance place] := by
    rw [wake_eq isParty, settled.done]
    rfl
  have ended := advance_of_woken isWoken rfl
  have stillSound := (sound.keeps_woken queue isWoken rfl).sound
  refine ⟨_, rfl, stillSound, ⟨isParty, ?_, rfl, by simp⟩, ?_, ?_, ?_⟩
  · rw [turn, ended, dequeue, wake_eq isParty]
    exact List.set_set _
  · rw [turn, ended, ← held]
    rfl
  · rw [turn, ended, dequeue, queue]
    exact List.forall_mem_singleton.mpr rfl
  · rw [turn, ended]
    rfl

/-- The request has ended when the slot is emptied, so its caller resumes without the slot. -/
theorem follows_finishThenCancel (name : Text) (ending : Ending) :
    loop.Follows (.finishThenCancel name ending)
      (loop.step (.finishThenCancel name ending)) := by
  rw [step, forWaiting]
  cases waiting : loop.waiting? name with
  | none =>
    refine ⟨settled, ?_, (List.append_nil _).symm⟩
    rw [Session.step, Session.finishThenCancel, waiting?_session, waiting]
  | some place =>
    rcases settled.exists_calling waiting with ⟨party, isParty, calling, waits, held⟩
    have answered : loop.answer ending place = loop.wake place ending := by
      rw [answer, phase?_of_some isParty, calling]
    rcases settled.exists_ended isParty calling held ending with
      ⟨after, isAfter, sound, edits, slot, started, reached⟩
    dsimp only
    rw [answered, isAfter]
    apply sound.passSlot_none.follows
    · rw [sound.expected_passSlot_none started, Session.step, Session.finishThenCancel,
        waiting?_session, waiting]
      apply Session.ext
      · rfl
      · apply List.ext_getElem?
        intro other
        dsimp only [Session.resume]
        rw [List.getElem?_mapIdx, edits.getElem?, slot, List.getElem?_modify, session,
          List.getElem?_map]
        by_cases same : other = place
        · simp [same, isParty, Party.outlook, waits, Party.caller]
        · rw [if_neg same]
          cases isThird : loop.parties[other]? with
          | none => rfl
          | some third =>
            rcases settled.phase_cases isThird with ⟨-, -, heldToo⟩ | ⟨ending, ended, back⟩
            · exact absurd (Option.some.inj (heldToo.symm.trans held)) same
            · simp [Ne.symm same, Party.outlook, ended, back, Party.caller]
      · rw [session, reached, edits.callsAt_eq]
        rfl
    · rw [bound_passSlot_none started, reached]
      exact (List.append_nil _).symm

/-- Every step of a loop shows what the step of a session shows. -/
theorem follows (onlyLast : loop.session.OnlyLastWaits)
    (known : ∀ place ∈ loop.reached, place < loop.parties.length) (step : SessionStep) :
    loop.Follows step (loop.step step) := by
  cases step with
  | render names profile =>
    rcases List.eq_nil_or_concat names with rfl | ⟨others, last, rfl⟩
    · exact settled.follows_render_nil profile
    · rw [List.concat_eq_append]
      exact settled.follows_render onlyLast known others last profile
  | finish name ending => exact settled.follows_finish name ending
  | finishThenCancel name ending => exact settled.follows_finishThenCancel name ending
  | cancel => exact settled.follows_cancel onlyLast
  | cancelCaller name => exact settled.follows_cancelCaller name

end IsSettled

end Loop

end LabelPress.Preview
