import LabelPress.Preview.Loop
import LabelPress.Proofs.Preview.Slot

/-!
# The jobs of an event loop

The queue of a loop holds exactly the job that each party waits for, and a request that was not
cancelled holds the slot. So before the jobs are done it can be said what they lead to: the last
party that is going to start gets the slot, everyone else who waits for a request comes back with
nothing, and the request of that party is the only one that the client is still going to be called
for. No job changes these expectations, and when no job is left they are what is there.
-/

namespace LabelPress.Preview

attribute [ext] Session

theorem Ending.kept_ne_pending (ending : Ending) : ending.kept ≠ .pending := by
  cases ending <;> simp [kept]

/-! ## Parties and their jobs -/

namespace Party

/-- The job that a party waits for. -/
def job? (place : Nat) (party : Party) : Option Job :=
  match party.phase with
  | .unasked => some (.start place)
  | .scheduled | .woken _ => some (.advance place)
  | .calling => none
  | .ended _ => if party.status = .pending then some (.resume place) else none

/-- A caller waits until its request has ended, and a request that was not cancelled holds the
slot. -/
def Fits (slot : Option Nat) (place : Nat) (party : Party) : Prop :=
  match party.phase with
  | .unasked | .woken _ => party.status = .pending
  | .scheduled | .calling => party.status = .pending ∧ slot = some place
  | .ended _ => True

/-- What a party's caller comes back with when all jobs are done, or that it still waits then. One
party is going to hold the slot at last, its heir. -/
def outlook (slot heir : Option Nat) (place : Nat) (party : Party) : Status :=
  match party.phase with
  | .unasked | .scheduled | .calling => if heir = some place then .pending else .resolved none
  | .woken ending =>
    if heir = some place then ending.kept
    else if slot = some place then .resolved none
    else ending.dropped
  | .ended ending =>
    if party.status ≠ .pending then party.status
    else if heir = some place then ending.kept
    else ending.dropped

/-- Whether the client may still be called for a request. -/
def isUnsent (party : Party) : Bool :=
  match party.phase with
  | .unasked | .scheduled => true
  | .calling | .woken _ | .ended _ => false

/-- A party whose request was cancelled. -/
def cancelled (party : Party) : Party :=
  match party.phase with
  | .scheduled | .calling | .woken _ => { party with phase := .woken .cancelled }
  | .unasked | .ended _ => party

/-- A party waits for the job that fits its phase. -/
theorem job?_cases {party : Party} {place : Nat} {job : Job}
    (waits : party.job? place = some job) :
    (job = .start place ∧ party.phase = .unasked) ∨
      (job = .advance place ∧ party.phase = .scheduled) ∨
      (∃ ending, job = .advance place ∧ party.phase = .woken ending) ∨
      ∃ ending, job = .resume place ∧ party.phase = .ended ending ∧ party.status = .pending := by
  unfold job? at waits
  cases phase : party.phase with
  | unasked => simp_all
  | scheduled => simp_all
  | calling => simp_all
  | woken ending => simp_all
  | ended ending => simp_all

theorem mem_toList_job? {party : Party} {place : Nat} {job : Job}
    (member : job ∈ (party.job? place).toList) : job.place = place := by
  rw [Option.mem_toList] at member
  rcases job?_cases member with ⟨rfl, -⟩ | ⟨rfl, -⟩ | ⟨-, rfl, -⟩ | ⟨-, rfl, -⟩ <;> rfl

variable {party : Party} {slot next heir : Option Nat} {place : Nat}

/-- A party without the slot waits for nothing that depends on it. -/
theorem Fits.of_ne (fits : party.Fits slot place) (other : slot ≠ some place) :
    party.Fits next place := by
  unfold Fits at fits ⊢
  split
  · simp_all
  · simp_all
  · simp_all
  · simp_all
  · exact trivial

theorem Fits.cancelled (fits : party.Fits slot place) : party.cancelled.Fits next place := by
  unfold Fits at fits
  cases phase : party.phase with
  | unasked => simp_all [Fits, Party.cancelled]
  | scheduled => simp_all [Fits, Party.cancelled]
  | calling => simp_all [Fits, Party.cancelled]
  | woken ending => simp_all [Fits, Party.cancelled]
  | ended ending => simp_all [Fits, Party.cancelled]

theorem outlook_of_ne (other : slot ≠ some place) (otherNext : next ≠ some place) :
    party.outlook next heir place = party.outlook slot heir place := by
  unfold outlook
  split
  · rfl
  · rfl
  · rfl
  · rw [if_neg other, if_neg otherNext]
  · rfl

/-- Once its request has lost the slot, a caller that has started comes back with nothing. -/
theorem outlook_cancelled (asked : party.phase ≠ .unasked) (held : slot = some place)
    (lost : heir ≠ some place) (otherNext : next ≠ some place) :
    party.cancelled.outlook next heir place = party.outlook slot heir place := by
  cases phase : party.phase with
  | unasked => contradiction
  | scheduled => simp [outlook, Party.cancelled, phase, lost, otherNext, Ending.dropped]
  | calling => simp [outlook, Party.cancelled, phase, lost, otherNext, Ending.dropped]
  | woken ending => simp [outlook, Party.cancelled, phase, held, lost, otherNext, Ending.dropped]
  | ended ending => simp [outlook, Party.cancelled, phase, lost]

theorem call_cancelled (party : Party) : party.cancelled.call = party.call := by
  cases phase : party.phase <;> simp [call, cancelled, phase]

end Party

/-- Whether a caller starts with a job. -/
def Job.isStart : Job → Bool
  | .start _ => true
  | .advance _ | .resume _ => false

/-! ## Sound loops -/

namespace Loop

/-- The jobs for the party at a place. -/
def jobsAt (loop : Loop) (place : Nat) : List Job :=
  loop.queue.filter fun job => job.place == place

/-- What holds of a loop between two jobs. -/
structure Sound (loop : Loop) : Prop where
  /-- The queue holds the job that each party waits for, and nothing else. -/
  jobs : ∀ place, loop.jobsAt place = (loop.parties[place]?.bind (Party.job? place)).toList
  fits : ∀ (place : Nat) (party : Party), loop.parties[place]? = some party →
    party.Fits loop.slot place
  /-- A party whose request holds the slot has started. -/
  asked : ∀ place, loop.slot = some place →
    ∃ party, loop.parties[place]? = some party ∧ party.phase ≠ .unasked
  /-- Callers start before any request runs. -/
  startsFirst : loop.queue.Pairwise fun job later => later.isStart = true → job.isStart = true

variable {loop next : Loop} {place : Nat} {party edited : Party} {rest : List Job}

theorem getElem?_set_of_some (isParty : loop.parties[place]? = some party) (edited : Party)
    (other : Nat) :
    (loop.parties.set place edited)[other]? =
      if other = place then some edited else loop.parties[other]? := by
  have inside := (List.getElem?_eq_some_iff.mp isParty).1
  rw [List.getElem?_set]
  by_cases same : other = place
  · subst same
    simp [inside]
  · simp [same, Ne.symm same]

/-- The job that a party waits for has come up. -/
theorem Sound.exists_party (sound : loop.Sound) {job : Job} (member : job ∈ loop.queue) :
    ∃ party, loop.parties[job.place]? = some party ∧ party.job? job.place = some job := by
  have here : job ∈ loop.jobsAt job.place := List.mem_filter.mpr ⟨member, beq_self_eq_true _⟩
  rw [sound.jobs, Option.mem_toList] at here
  exact Option.bind_eq_some_iff.mp here

theorem Sound.jobsAt_eq (sound : loop.Sound) (isParty : loop.parties[place]? = some party) :
    loop.jobsAt place = (party.job? place).toList := by
  rw [sound.jobs, isParty, Option.bind_some]

theorem filter_toList_job? (party : Party) (place other : Nat) :
    (party.job? place).toList.filter (fun job => job.place == other) =
      if other = place then (party.job? place).toList else [] := by
  split
  · rename_i same
    subst same
    rw [List.filter_eq_self]
    intro job member
    exact beq_iff_eq.mpr (Party.mem_toList_job? member)
  · rename_i different
    rw [List.filter_eq_nil_iff]
    intro job member
    rw [Party.mem_toList_job? member, beq_iff_eq]
    exact Ne.symm different

/-- A party whose job is done brings up its next one. -/
theorem Sound.jobsAt_of_queue (sound : loop.Sound) (isParty : loop.parties[place]? = some party)
    (queue : loop.queue = (party.job? place).toList ++ rest)
    (nextQueue : next.queue = rest ++ (edited.job? place).toList) (other : Nat) :
    next.jobsAt other =
      if other = place then (edited.job? place).toList else loop.jobsAt other := by
  have before : loop.jobsAt other =
      (if other = place then (party.job? place).toList else []) ++
        rest.filter (fun job => job.place == other) := by
    rw [jobsAt, queue, List.filter_append, filter_toList_job?]
  rw [jobsAt, nextQueue, List.filter_append, filter_toList_job?]
  by_cases same : other = place
  · subst same
    rw [if_pos rfl, sound.jobsAt_eq isParty, List.self_eq_append_right] at before
    rw [before, if_pos rfl, List.nil_append, if_pos rfl]
  · rw [if_neg same, List.nil_append] at before
    rw [before, if_neg same, List.append_nil, if_neg same]

/-- A loop stays sound when one party is changed. -/
theorem Sound.of_edit (sound : loop.Sound) (isParty : loop.parties[place]? = some party)
    (parties : next.parties = loop.parties.set place edited)
    (jobs : ∀ other, next.jobsAt other =
      if other = place then (edited.job? place).toList else loop.jobsAt other)
    (fits : edited.Fits next.slot place)
    (othersFit : ∀ (other : Nat) (third : Party), other ≠ place →
      loop.parties[other]? = some third → third.Fits next.slot other)
    (asked : edited.phase ≠ .unasked) (slot : next.slot = loop.slot ∨ next.slot = some place)
    (startsFirst : next.queue.Pairwise
      fun job later => later.isStart = true → job.isStart = true) : next.Sound := by
  constructor
  · intro other
    rw [jobs, parties, getElem?_set_of_some isParty]
    split
    · rename_i same
      rw [same, Option.bind_some]
    · exact sound.jobs other
  · intro other third isThird
    rw [parties, getElem?_set_of_some isParty] at isThird
    split at isThird
    · rename_i same
      rw [← Option.some.inj isThird, same]
      exact fits
    · rename_i different
      exact othersFit other third different isThird
  · intro other held
    rw [parties, getElem?_set_of_some isParty]
    split
    · exact ⟨edited, rfl, asked⟩
    · rename_i different
      rcases slot with same | taken
      · exact sound.asked other (same.symm.trans held)
      · rw [taken] at held
        exact absurd (Option.some.inj held).symm different
  · exact startsFirst

theorem isStart_eq_false_of_mem (asked : edited.phase ≠ .unasked) :
    ∀ job ∈ (edited.job? place).toList, job.isStart = false := by
  intro job member
  rw [Option.mem_toList] at member
  rcases Party.job?_cases member with ⟨-, unasked⟩ | ⟨rfl, -⟩ | ⟨-, rfl, -⟩ | ⟨-, rfl, -⟩
  · exact absurd unasked asked
  · rfl
  · rfl
  · rfl

/-- Jobs that come up behind the others are not those of callers that start. -/
theorem Sound.startsFirst_append (sound : loop.Sound)
    (queue : loop.queue = (party.job? place).toList ++ rest) (asked : edited.phase ≠ .unasked) :
    (rest ++ (edited.job? place).toList).Pairwise
      fun job later => later.isStart = true → job.isStart = true := by
  have ordered := sound.startsFirst
  rw [queue, List.pairwise_append] at ordered
  rw [List.pairwise_append]
  constructor
  · exact ordered.2.1
  · constructor
    · cases edited.job? place with
      | none => exact List.Pairwise.nil
      | some job => exact List.pairwise_singleton _ _
    · intro job _ later member isStart
      rw [isStart_eq_false_of_mem asked later member] at isStart
      contradiction

/-! ## Expectations -/

/-- The place of the party that is going to hold the slot when all callers have started. -/
def heir (loop : Loop) : Option Nat :=
  ((loop.queue.filter Job.isStart).map Job.place).getLast?.or loop.slot

/-- Whether there is a party at a place for whose request the client may still be called. -/
def isUnsent (loop : Loop) (place : Nat) : Bool :=
  loop.parties[place]?.any Party.isUnsent

/-- The places of the parties whose requests will have reached the client when all jobs are done. -/
def bound (loop : Loop) : List Nat :=
  loop.reached ++ (loop.heir.filter loop.isUnsent).toList

/-- What will be seen of a loop when all jobs are done. -/
def expected (loop : Loop) : Session where
  slot := loop.heir
  callers := loop.parties.mapIdx fun place party =>
    ⟨party.name, party.outlook loop.slot loop.heir place⟩
  calls := loop.callsAt loop.bound

/-- What is going to be seen of the party at a place. -/
def prospect (loop : Loop) (place : Nat) : Option (Call × Status) :=
  loop.parties[place]?.map fun party => (party.call, party.outlook loop.slot loop.heir place)

theorem getElem?_callers_expected (loop : Loop) (place : Nat) :
    loop.expected.callers[place]? =
      (loop.prospect place).map fun prospect => ⟨prospect.1.name, prospect.2⟩ := by
  rw [expected, prospect, List.getElem?_mapIdx, Option.map_map]
  rfl

theorem callsAt_congr (requests : ∀ place : Nat, next.parties[place]?.map Party.call =
    loop.parties[place]?.map Party.call) : next.callsAt = loop.callsAt := by
  funext places
  simp only [callsAt, requests]

theorem length_callers_expected (loop : Loop) :
    loop.expected.callers.length = loop.parties.length :=
  List.length_mapIdx

theorem expected_congr (heir : next.heir = loop.heir) (bound : next.bound = loop.bound)
    (prospects : ∀ place, next.prospect place = loop.prospect place) :
    next.expected = loop.expected := by
  have requests : next.callsAt = loop.callsAt := by
    apply callsAt_congr
    intro place
    have same := congrArg (Option.map Prod.fst) (prospects place)
    simpa only [prospect, Option.map_map, Function.comp_def] using same
  apply Session.ext
  · exact heir
  · apply List.ext_getElem?
    intro place
    rw [getElem?_callers_expected, getElem?_callers_expected, prospects]
  · rw [expected, expected, bound, requests]

theorem filter_isStart_eq_nil (started : ∀ job ∈ loop.queue, job.isStart = false) :
    loop.queue.filter Job.isStart = [] := by
  rw [List.filter_eq_nil_iff]
  intro job member
  rw [started job member]
  exact Bool.false_ne_true

theorem heir_eq_slot (started : ∀ job ∈ loop.queue, job.isStart = false) :
    loop.heir = loop.slot := by
  rw [heir, filter_isStart_eq_nil started]
  rfl

/-- A change of one party. -/
structure Edits (loop : Loop) (place : Nat) (party edited : Party) (next : Loop) : Prop where
  isParty : loop.parties[place]? = some party
  parties : next.parties = loop.parties.set place edited
  call : edited.call = party.call
  asked : edited.phase ≠ .unasked

theorem Edits.getElem? (edits : loop.Edits place party edited next) (other : Nat) :
    next.parties[other]? = if other = place then some edited else loop.parties[other]? := by
  rw [edits.parties, getElem?_set_of_some edits.isParty]

theorem Edits.isUnsent (edits : loop.Edits place party edited next) (other : Nat) :
    next.isUnsent other = if other = place then edited.isUnsent else loop.isUnsent other := by
  rw [Loop.isUnsent, edits.getElem?]
  split
  · rfl
  · rfl

theorem Edits.isUnsent_eq (edits : loop.Edits place party edited next)
    (same : edited.isUnsent = party.isUnsent) : next.isUnsent = loop.isUnsent := by
  funext other
  rw [edits.isUnsent]
  split
  · rename_i here
    rw [here, Loop.isUnsent, edits.isParty, same]
    rfl
  · rfl

theorem Edits.callsAt_eq (edits : loop.Edits place party edited next) :
    next.callsAt = loop.callsAt := by
  apply callsAt_congr
  intro other
  rw [edits.getElem?]
  split
  · rename_i same
    rw [same, edits.isParty, Option.map_some, Option.map_some, edits.call]
  · rfl

/-- Expectations stay if those of the party stay. -/
theorem Edits.expected_eq (edits : loop.Edits place party edited next)
    (slot : next.slot = loop.slot) (heir : next.heir = loop.heir) (bound : next.bound = loop.bound)
    (outlook : edited.outlook loop.slot loop.heir place = party.outlook loop.slot loop.heir place) :
    next.expected = loop.expected := by
  apply expected_congr heir bound
  intro other
  rw [prospect, prospect, edits.getElem?, slot, heir]
  split
  · rename_i same
    rw [same, edits.isParty, Option.map_some, Option.map_some, edits.call, outlook]
  · rfl

/-- What is expected of a loop is still expected of another one. -/
structure Keeps (loop next : Loop) : Prop where
  sound : next.Sound
  expected : next.expected = loop.expected
  bound : next.bound = loop.bound

theorem Keeps.length (keeps : loop.Keeps next) : next.parties.length = loop.parties.length := by
  rw [← length_callers_expected, keeps.expected, length_callers_expected]

theorem Keeps.trans {last : Loop} (first : loop.Keeps next) (second : next.Keeps last) :
    loop.Keeps last where
  sound := second.sound
  expected := second.expected.trans first.expected
  bound := second.bound.trans first.bound

theorem Sound.started (sound : loop.Sound) {job : Job} (queue : loop.queue = job :: rest)
    (isLate : job.isStart = false) : ∀ later ∈ loop.queue, later.isStart = false := by
  have ordered := sound.startsFirst
  rw [queue, List.pairwise_cons] at ordered
  rw [queue, List.forall_mem_cons]
  constructor
  · exact isLate
  · intro later member
    rw [Bool.eq_false_iff]
    intro isStart
    rw [ordered.1 later member isStart] at isLate
    contradiction

/-- A job of a party whose caller has started keeps what is expected, if it does so for the
party. -/
theorem Sound.keeps_of_edits (sound : loop.Sound) (edits : loop.Edits place party edited next)
    {job : Job} (queue : loop.queue = job :: rest) (waits : party.job? place = some job)
    (isLate : job.isStart = false) (slot : next.slot = loop.slot)
    (nextQueue : next.queue = rest ++ (edited.job? place).toList)
    (fits : edited.Fits loop.slot place)
    (outlook : edited.outlook loop.slot loop.slot place = party.outlook loop.slot loop.slot place)
    (bound : next.reached ++ (loop.slot.filter next.isUnsent).toList =
      loop.reached ++ (loop.slot.filter loop.isUnsent).toList) : loop.Keeps next := by
  have started := sound.started queue isLate
  have heir := heir_eq_slot started
  have nextHeir : next.heir = loop.slot := by
    rw [← slot]
    apply heir_eq_slot
    rw [nextQueue, List.forall_mem_append]
    constructor
    · rw [queue, List.forall_mem_cons] at started
      exact started.2
    · exact isStart_eq_false_of_mem edits.asked
  have sameBound : next.bound = loop.bound := by
    rw [Loop.bound, Loop.bound, nextHeir, heir]
    exact bound
  have ownQueue : loop.queue = (party.job? place).toList ++ rest := by
    rw [queue, waits]
    rfl
  constructor
  · apply sound.of_edit edits.isParty edits.parties
    · exact sound.jobsAt_of_queue edits.isParty ownQueue nextQueue
    · rw [slot]
      exact fits
    · intro other third _ isThird
      rw [slot]
      exact sound.fits other third isThird
    · exact edits.asked
    · exact .inl slot
    · rw [nextQueue]
      exact sound.startsFirst_append ownQueue edits.asked
  · apply edits.expected_eq slot (nextHeir.trans heir.symm) sameBound
    rw [heir]
    exact outlook
  · exact sameBound

end Loop

end LabelPress.Preview
