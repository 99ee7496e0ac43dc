import LabelPress.Proofs.Preview.Jobs

/-!
# Doing the jobs of an event loop

Each job is done when its party is in the phase that it is for: callers start and take the slot from
each other, requests run and reach the client or end, callers resume. None of these changes what is
expected of the loop. So when no job is left, what was expected has come true: the last party that
started has the slot and its request is with the client, and everyone else is back.
-/

namespace LabelPress.Preview.Loop

variable {loop next : Loop} {place : Nat} {party edited : Party} {rest : List Job}

/-! ## Jobs -/

theorem modify_eq_set (isParty : loop.parties[place]? = some party) (change : Party → Party) :
    loop.parties.modify place change = loop.parties.set place (change party) := by
  apply List.ext_getElem?
  intro other
  rw [List.getElem?_modify, getElem?_set_of_some isParty]
  by_cases same : other = place
  · simp [same, isParty]
  · simp [same, Ne.symm same]

theorem phase?_of_some (isParty : loop.parties[place]? = some party) :
    loop.phase? place = some party.phase := by
  rw [phase?, isParty, Option.map_some]

theorem advance_of_scheduled (isParty : loop.parties[place]? = some party)
    (phase : party.phase = .scheduled) :
    loop.advance place = { loop with
      parties := loop.parties.set place { party with phase := .calling }
      reached := loop.reached ++ [place] } := by
  rw [advance, phase?_of_some isParty, phase]
  dsimp only
  rw [setPhase, modify_eq_set isParty]

theorem advance_of_woken (isParty : loop.parties[place]? = some party) {ending : Ending}
    (phase : party.phase = .woken ending) :
    loop.advance place = { loop with
      parties := loop.parties.set place { party with phase := .ended ending }
      queue := loop.queue ++ [.resume place] } := by
  rw [advance, phase?_of_some isParty, phase]
  dsimp only
  rw [setPhase, modify_eq_set isParty]
  rfl

theorem resume_of_ended (isParty : loop.parties[place]? = some party) {ending : Ending}
    (phase : party.phase = .ended ending) :
    loop.resume place = { loop with
      parties := loop.parties.set place { party with
        status := if loop.slot = some place then ending.kept else ending.dropped } } := by
  rw [resume, phase?_of_some isParty, phase]
  dsimp only
  rw [modify_eq_set isParty, phase]

/-- A request runs for the first time and reaches the client. -/
theorem Sound.keeps_scheduled (sound : loop.Sound) (queue : loop.queue = .advance place :: rest)
    (isParty : loop.parties[place]? = some party) (phase : party.phase = .scheduled) :
    loop.Keeps (loop.advance place).dequeue := by
  have fits : party.status = .pending ∧ loop.slot = some place := by
    simpa [Party.Fits, phase] using sound.fits place party isParty
  have edits : loop.Edits place party { party with phase := .calling }
      (loop.advance place).dequeue := by
    rw [advance_of_scheduled isParty phase]
    exact ⟨isParty, rfl, rfl, by simp⟩
  have unsent : loop.isUnsent place = true := by
    simp [isUnsent, isParty, Party.isUnsent, phase]
  apply sound.keeps_of_edits edits queue
  · simp [Party.job?, phase]
  · rfl
  · rw [advance_of_scheduled isParty phase]
    rfl
  · rw [advance_of_scheduled isParty phase, dequeue, queue]
    simp [Party.job?]
  · exact fits
  · simp [Party.outlook, phase]
  · rw [fits.2, Option.filter_some, Option.filter_some, edits.isUnsent, unsent,
      advance_of_scheduled isParty phase]
    simp [dequeue, Party.isUnsent]

/-- A request runs again and ends. -/
theorem Sound.keeps_woken (sound : loop.Sound) (queue : loop.queue = .advance place :: rest)
    (isParty : loop.parties[place]? = some party) {ending : Ending}
    (phase : party.phase = .woken ending) : loop.Keeps (loop.advance place).dequeue := by
  have waits : party.status = .pending := by
    simpa [Party.Fits, phase] using sound.fits place party isParty
  have edits : loop.Edits place party { party with phase := .ended ending }
      (loop.advance place).dequeue := by
    rw [advance_of_woken isParty phase]
    exact ⟨isParty, rfl, rfl, by simp⟩
  apply sound.keeps_of_edits edits queue
  · simp [Party.job?, phase]
  · rfl
  · rw [advance_of_woken isParty phase]
    rfl
  · rw [advance_of_woken isParty phase, dequeue, queue]
    simp [Party.job?, waits]
  · exact trivial
  · by_cases held : loop.slot = some place
    · simp [Party.outlook, phase, waits, held]
    · simp [Party.outlook, phase, waits, held]
  · rw [edits.isUnsent_eq (by simp [Party.isUnsent, phase]), advance_of_woken isParty phase]
    rfl

/-- A caller resumes. -/
theorem Sound.keeps_resume (sound : loop.Sound) (queue : loop.queue = .resume place :: rest)
    (isParty : loop.parties[place]? = some party) {ending : Ending}
    (phase : party.phase = .ended ending) (waits : party.status = .pending) :
    loop.Keeps (loop.resume place).dequeue := by
  have settled : (if loop.slot = some place then ending.kept else ending.dropped) ≠ .pending := by
    split
    · exact ending.kept_ne_pending
    · exact ending.dropped_ne_pending
  have edits : loop.Edits place party
      { party with status := if loop.slot = some place then ending.kept else ending.dropped }
      (loop.resume place).dequeue := by
    rw [resume_of_ended isParty phase]
    exact ⟨isParty, rfl, rfl, by simp [phase]⟩
  apply sound.keeps_of_edits edits queue
  · simp [Party.job?, phase, waits]
  · rfl
  · rw [resume_of_ended isParty phase]
    rfl
  · rw [resume_of_ended isParty phase, dequeue, queue]
    simp [Party.job?, phase, settled]
  · simp [Party.Fits, phase]
  · simp [Party.outlook, phase, waits, settled]
  · rw [edits.isUnsent_eq rfl, resume_of_ended isParty phase]
    rfl

/-! ### Cancelled requests -/

theorem wake_eq (isParty : loop.parties[place]? = some party) (ending : Ending) :
    loop.wake place ending = { loop with
      parties := loop.parties.set place { party with phase := .woken ending }
      queue := loop.queue ++ [.advance place] } := by
  rw [wake, enqueue, setPhase, modify_eq_set isParty]

theorem cancelRequest_eq (isParty : loop.parties[place]? = some party) :
    loop.cancelRequest place = { loop with
      parties := loop.parties.set place party.cancelled
      queue := loop.queue ++ if party.phase = .calling then [.advance place] else [] } := by
  have unchanged : loop.parties.set place party = loop.parties := by
    apply List.ext_getElem?
    intro other
    rw [getElem?_set_of_some isParty]
    split
    · rename_i same
      rw [same, isParty]
    · rfl
  unfold cancelRequest
  rw [phase?_of_some isParty]
  cases phase : party.phase with
  | unasked => simp [Party.cancelled, phase, unchanged]
  | scheduled => simp [Party.cancelled, phase, setPhase, modify_eq_set isParty]
  | calling => simp [Party.cancelled, phase, wake_eq isParty]
  | woken ending => simp [Party.cancelled, phase, setPhase, modify_eq_set isParty]
  | ended ending => simp [Party.cancelled, phase, unchanged]

/-- A call that is over brings up the job in which its request ends. -/
theorem Sound.wake (sound : loop.Sound) (isParty : loop.parties[place]? = some party)
    (calling : party.phase = .calling) (ending : Ending) : (loop.wake place ending).Sound := by
  have fits : party.status = .pending ∧ loop.slot = some place := by
    simpa [Party.Fits, calling] using sound.fits place party isParty
  have ownQueue : loop.queue = (party.job? place).toList ++ loop.queue := by
    simp [Party.job?, calling]
  have asked : ({ party with phase := .woken ending } : Party).phase ≠ .unasked := by simp
  rw [wake_eq isParty]
  apply sound.of_edit isParty rfl
  · exact sound.jobsAt_of_queue isParty ownQueue rfl
  · exact fits.1
  · exact fun other third _ isThird => sound.fits other third isThird
  · exact asked
  · exact .inl rfl
  · exact sound.startsFirst_append ownQueue asked

theorem Sound.cancelRequest (sound : loop.Sound) (isParty : loop.parties[place]? = some party)
    (asked : party.phase ≠ .unasked) : (loop.cancelRequest place).Sound := by
  by_cases calling : party.phase = .calling
  · have woken : loop.cancelRequest place = loop.wake place .cancelled := by
      rw [Loop.cancelRequest, phase?_of_some isParty, calling]
    rw [woken]
    exact sound.wake isParty calling .cancelled
  · have fits : party.cancelled.Fits loop.slot place := (sound.fits place party isParty).cancelled
    have stillAsked : party.cancelled.phase ≠ .unasked := by
      cases phase : party.phase <;> simp_all [Party.cancelled]
    have sameJob : party.cancelled.job? place = party.job? place := by
      cases phase : party.phase <;> simp_all [Party.cancelled, Party.job?]
    have jobs (other : Nat) : loop.jobsAt other =
        if other = place then (party.cancelled.job? place).toList else loop.jobsAt other := by
      rw [sameJob, ← sound.jobsAt_eq isParty]
      split
      · rename_i same
        rw [same]
      · rfl
    rw [cancelRequest_eq isParty, if_neg calling, List.append_nil]
    apply sound.of_edit isParty rfl
    · exact jobs
    · exact fits
    · exact fun other third _ isThird => sound.fits other third isThird
    · exact stillAsked
    · exact .inl rfl
    · exact sound.startsFirst

theorem Sound.release (sound : loop.Sound) : loop.release.Sound := by
  unfold Loop.release
  split
  · rename_i place held
    rcases sound.asked place held with ⟨party, isParty, asked⟩
    exact sound.cancelRequest isParty asked
  · exact sound

theorem reached_release (loop : Loop) : loop.release.reached = loop.reached := by
  unfold release cancelRequest
  split
  · split <;> rfl
  · rfl

theorem filter_isStart_release (loop : Loop) :
    loop.release.queue.filter Job.isStart = loop.queue.filter Job.isStart := by
  unfold release cancelRequest
  split
  · split
    · rfl
    · rfl
    · simp [wake, enqueue, setPhase, List.filter_append, Job.isStart]
    · rfl
  · rfl

theorem Sound.getElem?_release (sound : loop.Sound) (other : Nat) :
    loop.release.parties[other]? = loop.parties[other]?.map fun party =>
      if loop.slot = some other then party.cancelled else party := by
  unfold Loop.release
  cases held : loop.slot with
  | none => simp
  | some place =>
    rcases sound.asked place held with ⟨party, isParty, -⟩
    dsimp only
    rw [cancelRequest_eq isParty, getElem?_set_of_some isParty]
    by_cases same : other = place
    · simp [same, isParty]
    · simp [same, Ne.symm same]

/-- After the request in the slot was cancelled, nobody depends on the slot. -/
theorem Sound.fits_release (sound : loop.Sound) (slot : Option Nat) (isParty :
    loop.release.parties[place]? = some party) : party.Fits slot place := by
  rw [sound.getElem?_release] at isParty
  rcases Option.map_eq_some_iff.mp isParty with ⟨old, isOld, rfl⟩
  have fits := sound.fits place old isOld
  split
  · exact fits.cancelled
  · rename_i other
    exact fits.of_ne other

/-- A request that loses the slot leaves its caller nothing to come back with, and the others do not
depend on the slot. -/
theorem Sound.prospect_released (sound : loop.Sound)
    (isParty : loop.parties[place]? = some party) {taken heir : Option Nat}
    (otherTaken : taken ≠ some place) (lost : loop.slot = some place → heir ≠ some place)
    {released : Party} (isReleased : released =
      if loop.slot = some place then party.cancelled else party) :
    (released.call, released.outlook taken heir place) =
      (party.call, party.outlook loop.slot heir place) := by
  by_cases held : loop.slot = some place
  · rcases sound.asked place held with ⟨holder, isHolder, asked⟩
    obtain rfl := Option.some.inj (isParty.symm.trans isHolder)
    rw [isReleased, if_pos held, party.call_cancelled,
      Party.outlook_cancelled asked held (lost held) otherTaken]
  · rw [isReleased, if_neg held, Party.outlook_of_ne held otherTaken]

/-! ### Callers that start -/

/-- A party with a job to start has not started. -/
theorem Sound.unasked_of_start (sound : loop.Sound) (member : Job.start place ∈ loop.queue) :
    ∃ party, loop.parties[place]? = some party ∧ party.phase = .unasked := by
  rcases sound.exists_party member with ⟨party, isParty, waits⟩
  rcases Party.job?_cases waits with ⟨-, unasked⟩ | ⟨other, -⟩ | ⟨-, other, -⟩ | ⟨-, other, -⟩
  · exact ⟨party, isParty, unasked⟩
  · contradiction
  · contradiction
  · contradiction

theorem Sound.slot_ne_of_unasked (sound : loop.Sound) (isParty : loop.parties[place]? = some party)
    (unasked : party.phase = .unasked) : loop.slot ≠ some place := by
  intro held
  rcases sound.asked place held with ⟨other, isOther, asked⟩
  obtain rfl := Option.some.inj (isParty.symm.trans isOther)
  exact asked unasked

/-- While callers start, the last of them is going to hold the slot. -/
theorem exists_heir (queue : loop.queue = .start place :: rest) :
    ∃ last, loop.heir = some last ∧ Job.start last ∈ loop.queue ∧
      ((rest.filter Job.isStart).map Job.place).getLast?.or (some place) = some last := by
  let places := (rest.filter Job.isStart).map Job.place
  have starters : (loop.queue.filter Job.isStart).map Job.place = place :: places := by
    rw [queue, List.filter_cons_of_pos rfl, List.map_cons]
    rfl
  have heir : loop.heir = some (places.getLast?.getD place) := by
    rw [Loop.heir, starters, List.getLast?_cons, Option.some_or]
  refine ⟨places.getLast?.getD place, heir, ?_, Option.or_some⟩
  have member : places.getLast?.getD place ∈ (loop.queue.filter Job.isStart).map Job.place := by
    rw [starters, List.mem_cons]
    cases last : places.getLast? with
    | none => exact .inl rfl
    | some other => exact .inr (List.mem_of_getLast? last)
  rcases List.mem_map.mp member with ⟨job, isJob, isPlace⟩
  rcases List.mem_filter.mp isJob with ⟨inQueue, isStart⟩
  cases job with
  | start other =>
    rw [← isPlace]
    exact inQueue
  | advance other => contradiction
  | resume other => contradiction

/-- The party at a place starts, and what is in the queue then. -/
structure Starts (loop : Loop) (place : Nat) (party : Party) (rest jobs : List Job) (next : Loop) :
    Prop where
  sound : loop.Sound
  isParty : loop.parties[place]? = some party
  unasked : party.phase = .unasked
  queue : loop.queue = .start place :: rest
  releaseQueue : loop.release.queue = .start place :: (rest ++ jobs)
  slot : next.slot = some place
  parties : next.parties = loop.release.parties.set place { party with phase := .scheduled }
  nextQueue : next.queue = rest ++ jobs ++ [.advance place]
  reached : next.reached = loop.reached

theorem Sound.getElem?_release_of_unasked (sound : loop.Sound)
    (isParty : loop.parties[place]? = some party) (unasked : party.phase = .unasked) :
    loop.release.parties[place]? = some party := by
  rw [sound.getElem?_release, isParty, Option.map_some,
    if_neg (sound.slot_ne_of_unasked isParty unasked)]

theorem Sound.exists_starts (sound : loop.Sound) (queue : loop.queue = .start place :: rest)
    (isParty : loop.parties[place]? = some party) (unasked : party.phase = .unasked) :
    ∃ jobs, loop.Starts place party rest jobs (loop.start place).dequeue := by
  have released := sound.getElem?_release_of_unasked isParty unasked
  rcases loop.exists_queue_release with ⟨jobs, releaseQueue, -⟩
  rw [queue, List.cons_append] at releaseQueue
  refine ⟨jobs, sound, isParty, unasked, queue, releaseQueue, rfl, ?_, ?_, loop.reached_release⟩
  · exact modify_eq_set released _
  · rw [start, passSlot, enqueue, setPhase, dequeue, releaseQueue]
    rfl

namespace Starts

variable {jobs : List Job} (starts : loop.Starts place party rest jobs next)

include starts

theorem released : loop.release.parties[place]? = some party :=
  starts.sound.getElem?_release_of_unasked starts.isParty starts.unasked

theorem getElem? (other : Nat) : next.parties[other]? =
    if other = place then some { party with phase := .scheduled }
    else loop.parties[other]?.map fun party =>
      if loop.slot = some other then party.cancelled else party := by
  rw [starts.parties, getElem?_set_of_some starts.released, starts.sound.getElem?_release]

/-- The last party that starts is going to hold the slot, before and after. -/
theorem exists_last : ∃ last third, loop.heir = some last ∧ next.heir = some last ∧
    loop.parties[last]? = some third ∧ third.phase = .unasked := by
  rcases exists_heir starts.queue with ⟨last, heir, lastStarts, lastOfRest⟩
  rcases starts.sound.unasked_of_start lastStarts with ⟨third, isThird, unasked⟩
  refine ⟨last, third, heir, ?_, isThird, unasked⟩
  have kept := loop.filter_isStart_release
  rw [starts.releaseQueue, starts.queue, List.filter_cons_of_pos rfl,
    List.filter_cons_of_pos rfl] at kept
  have noStart : [Job.advance place].filter Job.isStart = [] := rfl
  rw [Loop.heir, starts.nextQueue, starts.slot, List.filter_append, noStart, List.append_nil,
    (List.cons.inj kept).2, lastOfRest]

theorem sound_next : next.Sound := by
  have ownQueue : loop.release.queue = (party.job? place).toList ++ (rest ++ jobs) := by
    rw [starts.releaseQueue, Party.job?, starts.unasked]
    rfl
  have asked : ({ party with phase := .scheduled } : Party).phase ≠ .unasked := by simp
  have waits : party.status = .pending := by
    simpa [Party.Fits, starts.unasked] using starts.sound.fits place party starts.isParty
  apply starts.sound.release.of_edit starts.released starts.parties
  · exact starts.sound.release.jobsAt_of_queue starts.released ownQueue starts.nextQueue
  · exact ⟨waits, starts.slot⟩
  · exact fun other third _ isThird => starts.sound.fits_release _ isThird
  · exact asked
  · exact .inr starts.slot
  · rw [starts.nextQueue]
    exact starts.sound.release.startsFirst_append ownQueue asked

theorem bound_eq : next.bound = loop.bound := by
  rcases starts.exists_last with ⟨last, third, heir, nextHeir, isThird, unasked⟩
  have unsent : loop.isUnsent last = true := by
    simp [isUnsent, isThird, Party.isUnsent, unasked]
  have stillUnsent : next.isUnsent last = true := by
    rw [isUnsent, starts.getElem?]
    split
    · rfl
    · simp [starts.sound.slot_ne_of_unasked isThird unasked, isThird, Party.isUnsent, unasked]
  rw [Loop.bound, Loop.bound, nextHeir, heir, Option.filter_some, Option.filter_some, unsent,
    stillUnsent, starts.reached]

theorem prospect_eq (other : Nat) : next.prospect other = loop.prospect other := by
  rcases starts.exists_last with ⟨last, third, heir, nextHeir, isThird, unasked⟩
  have lastApart := starts.sound.slot_ne_of_unasked isThird unasked
  rw [prospect, prospect, starts.getElem?, nextHeir, heir, starts.slot]
  split
  · rename_i same
    rw [same, starts.isParty, Option.map_some, Option.map_some]
    simp [Party.outlook, starts.unasked, Party.call]
  · rename_i different
    have notNext : some place ≠ some other := fun same => different (Option.some.inj same).symm
    rw [Option.map_map]
    cases isOther : loop.parties[other]? with
    | none => rfl
    | some party =>
      have lost (held : loop.slot = some other) : some last ≠ some other := by
        intro same
        exact lastApart (held.trans same.symm)
      rw [Option.map_some, Option.map_some, Function.comp_apply,
        starts.sound.prospect_released isOther notNext lost rfl]

/-- A caller starts. -/
theorem keeps : loop.Keeps next := by
  rcases starts.exists_last with ⟨last, third, heir, nextHeir, -⟩
  constructor
  · exact starts.sound_next
  · exact expected_congr (nextHeir.trans heir.symm) starts.bound_eq starts.prospect_eq
  · exact starts.bound_eq

end Starts

/-! ### All jobs -/

/-- No job changes what is expected. -/
theorem Sound.keeps_turn (sound : loop.Sound) {job : Job} (queue : loop.queue = job :: rest) :
    loop.Keeps (loop.turn job).dequeue := by
  have member : job ∈ loop.queue := queue ▸ List.mem_cons_self
  rcases sound.exists_party member with ⟨party, isParty, waits⟩
  generalize job.place = place at isParty waits
  rcases Party.job?_cases waits with ⟨rfl, phase⟩ | ⟨rfl, phase⟩ | ⟨ending, rfl, phase⟩ |
    ⟨ending, rfl, phase, pending⟩
  · rcases sound.exists_starts queue isParty phase with ⟨jobs, starts⟩
    exact starts.keeps
  · exact sound.keeps_scheduled queue isParty phase
  · exact sound.keeps_woken queue isParty phase
  · exact sound.keeps_resume queue isParty phase pending

theorem settle_of_nil (done : loop.queue = []) : loop.settle = loop := by
  rw [settle]
  split
  · rfl
  · rename_i queue
    rw [done] at queue
    contradiction

theorem settle_of_cons {job : Job} (queue : loop.queue = job :: rest) :
    loop.settle = (loop.turn job).dequeue.settle := by
  rw [settle]
  split
  · rename_i done
    rw [done] at queue
    contradiction
  · rename_i same
    rw [queue] at same
    rw [(List.cons.inj same).1]

/-- Doing all jobs leaves none and keeps what is expected. -/
theorem Sound.keeps_settle (sound : loop.Sound) :
    loop.settle.queue = [] ∧ loop.Keeps loop.settle := by
  induction loop using settle.induct with
  | case1 loop done =>
    rw [settle_of_nil done]
    exact ⟨done, sound, rfl, rfl⟩
  | case2 loop job rest queue ih =>
    have turned := sound.keeps_turn queue
    rcases ih turned.sound with ⟨done, settled⟩
    rw [settle_of_cons queue]
    exact ⟨done, turned.trans settled⟩

/-! ### Settled loops -/

/-- A loop between two steps, when no job is left. -/
structure IsSettled (loop : Loop) : Prop where
  sound : loop.Sound
  done : loop.queue = []

theorem isSettled_empty : IsSettled {} where
  sound := {
    jobs := by
      intro place
      simp [jobsAt]
    fits := by
      intro place party isParty
      simp at isParty
    asked := by
      intro place held
      contradiction
    startsFirst := .nil }
  done := rfl

namespace IsSettled

variable (settled : loop.IsSettled)

include settled

/-- Without jobs, a party's request is with the client, or its caller is back. -/
theorem phase_cases (isParty : loop.parties[place]? = some party) :
    (party.phase = .calling ∧ party.status = .pending ∧ loop.slot = some place) ∨
      ∃ ending, party.phase = .ended ending ∧ party.status ≠ .pending := by
  have noJob := settled.sound.jobsAt_eq isParty
  have fits := settled.sound.fits place party isParty
  rw [jobsAt, settled.done] at noJob
  unfold Party.Fits at fits
  cases phase : party.phase with
  | unasked => simp [Party.job?, phase] at noJob
  | scheduled => simp [Party.job?, phase] at noJob
  | calling =>
    rw [phase] at fits
    exact .inl ⟨rfl, fits⟩
  | woken ending => simp [Party.job?, phase] at noJob
  | ended ending =>
    refine .inr ⟨ending, rfl, ?_⟩
    intro pending
    simp [Party.job?, phase, pending] at noJob

theorem heir_eq : loop.heir = loop.slot := by
  apply heir_eq_slot
  rw [settled.done]
  exact List.forall_mem_nil _

theorem bound_eq : loop.bound = loop.reached := by
  have sent : loop.slot.filter loop.isUnsent = none := by
    rw [Option.filter_eq_none_iff]
    intro place _
    cases isParty : loop.parties[place]? with
    | none => simp [isUnsent, isParty]
    | some party =>
      rcases settled.phase_cases isParty with ⟨phase, -⟩ | ⟨ending, phase, -⟩
      · simp [isUnsent, isParty, Party.isUnsent, phase]
      · simp [isUnsent, isParty, Party.isUnsent, phase]
  rw [bound, settled.heir_eq, sent, Option.toList_none, List.append_nil]

/-- Without jobs, what is expected is there. -/
theorem expected_eq : loop.expected = loop.session := by
  apply Session.ext
  · exact settled.heir_eq
  · apply List.ext_getElem?
    intro place
    rw [getElem?_callers_expected, prospect, session, List.getElem?_map, settled.heir_eq]
    cases isParty : loop.parties[place]? with
    | none => rfl
    | some party =>
      rcases settled.phase_cases isParty with ⟨phase, pending, held⟩ | ⟨ending, phase, back⟩
      · simp [Party.outlook, Party.caller, Party.call, phase, pending, held]
      · simp [Party.outlook, Party.caller, Party.call, phase, back]
  · rw [expected, settled.bound_eq]
    rfl

end IsSettled

/-- Doing all jobs makes what is expected come true. -/
theorem Sound.settle_eq (sound : loop.Sound) :
    loop.settle.IsSettled ∧ loop.settle.session = loop.expected ∧
      loop.settle.reached = loop.bound ∧ loop.settle.parties.length = loop.parties.length := by
  rcases sound.keeps_settle with ⟨done, keeps⟩
  have settled : loop.settle.IsSettled := ⟨keeps.sound, done⟩
  refine ⟨settled, ?_, ?_, keeps.length⟩
  · rw [← settled.expected_eq, keeps.expected]
  · rw [← settled.bound_eq, keeps.bound]

end LabelPress.Preview.Loop
