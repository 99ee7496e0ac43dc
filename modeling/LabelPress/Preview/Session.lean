import LabelPress.Preview.Service

/-!
# Preview sessions

A session lets many callers ask for previews and keeps at most one request in its slot. A new
request takes the slot from the one before it, and a caller whose request lost the slot resumes
with nothing. What a request ended with reaches its caller only while the request still holds the
slot; a failure that is none of the preview's own is not held back.
-/

namespace LabelPress.Preview

/-- What an awaited request ends with. -/
inductive Ending where
  | content (text : Text)
  | previewError (reason : Text)
  | crash (reason : Text)
  | cancelled
  deriving DecidableEq

/-- How things stand with a caller. -/
inductive Status where
  | pending
  | cancelled
  /-- The call came back, with the content of a preview or with nothing. -/
  | resolved (content : Option Text)
  | failed (fault : Fault)
  deriving DecidableEq

/-- What becomes of a caller whose request ended while it held the slot. -/
def Ending.kept : Ending → Status
  | .content text => .resolved (some text)
  | .previewError reason => .failed (.previewFailed reason)
  | .crash reason => .failed (.crashed reason)
  | .cancelled => .cancelled

/-- What becomes of a caller whose request ended without the slot. -/
def Ending.dropped : Ending → Status
  | .crash reason => .failed (.crashed reason)
  | .content _ | .previewError _ | .cancelled => .resolved none

/-- Someone who asked a session for a preview. -/
structure Caller where
  name : Text
  status : Status
  deriving DecidableEq

/-- A request that was passed to the client. -/
structure Call where
  name : Text
  profile : Option Profile
  deriving DecidableEq

/-- A session: the place of the caller whose request holds the slot, the callers in the order in
which they started, and the requests that reached the client. -/
structure Session where
  slot : Option Nat := none
  callers : List Caller := []
  calls : List Call := []
  deriving DecidableEq

namespace Session

/-- The place of the first caller of a name who still waits. -/
def waiting? (session : Session) (name : Text) : Option Nat :=
  session.callers.findIdx? fun caller => caller.name == name && caller.status == .pending

/-- A caller resumes with the end of its request, unless it no longer waits. -/
def resume (session : Session) (place : Nat) (ending : Ending) : Session :=
  let status := if session.slot = some place then ending.kept else ending.dropped
  let settle (caller : Caller) : Caller :=
    if caller.status = .pending then { caller with status } else caller
  { session with callers := session.callers.modify place settle }

@[simp]
theorem slot_resume (session : Session) (place : Nat) (ending : Ending) :
    (session.resume place ending).slot = session.slot := rfl

@[simp]
theorem calls_resume (session : Session) (place : Nat) (ending : Ending) :
    (session.resume place ending).calls = session.calls := rfl

@[simp]
theorem length_callers_resume (session : Session) (place : Nat) (ending : Ending) :
    (session.resume place ending).callers.length = session.callers.length := by
  simp [resume]

/-- Gives the slot to another request, or to none. The request that held it is cancelled. -/
def passSlot (session : Session) (next : Option Nat) : Session :=
  match session.slot with
  | some place => { session with slot := next }.resume place .cancelled
  | none => { session with slot := next }

@[simp]
theorem slot_passSlot (session : Session) (next : Option Nat) :
    (session.passSlot next).slot = next := by
  cases h : session.slot <;> simp [passSlot, h]

@[simp]
theorem calls_passSlot (session : Session) (next : Option Nat) :
    (session.passSlot next).calls = session.calls := by
  cases h : session.slot <;> simp [passSlot, h]

/-- A caller starts: it takes the slot and waits. -/
def start (session : Session) (name : Text) : Session :=
  let session := session.passSlot (some session.callers.length)
  { session with callers := session.callers ++ [⟨name, .pending⟩] }

@[simp]
theorem calls_start (session : Session) (name : Text) :
    (session.start name).calls = session.calls := by
  simp [start]

/-- Callers start one after the other, before any of their requests runs: only the request of the
last one reaches the client. -/
def render (session : Session) (names : List Text) (profile : Option Profile) : Session :=
  let session := names.foldl start session
  { session with
    calls := session.calls ++ (names.getLast?.map fun name => ⟨name, profile⟩).toList }

/-- The request of a caller ends, and the caller resumes. -/
def finish (session : Session) (name : Text) (ending : Ending) : Session :=
  match session.waiting? name with
  | some place => session.resume place ending
  | none => session

/-- The request of a caller ends, and the slot is emptied before the caller resumes. -/
def finishThenCancel (session : Session) (name : Text) (ending : Ending) : Session :=
  match session.waiting? name with
  | some place => { session with slot := none }.resume place ending
  | none => session

/-- Drops the request in the slot. -/
def cancel (session : Session) : Session :=
  session.passSlot none

/-- A caller gives up by itself: its request is cancelled in the slot. -/
def cancelCaller (session : Session) (name : Text) : Session :=
  session.finish name .cancelled

end Session

/-- What can happen to a session. -/
inductive SessionStep where
  | render (names : List Text) (profile : Option Profile)
  | finish (name : Text) (ending : Ending)
  | finishThenCancel (name : Text) (ending : Ending)
  | cancel
  | cancelCaller (name : Text)

/-- A session after a step. -/
def Session.step (session : Session) : SessionStep → Session
  | .render names profile => session.render names profile
  | .finish name ending => session.finish name ending
  | .finishThenCancel name ending => session.finishThenCancel name ending
  | .cancel => session.cancel
  | .cancelCaller name => session.cancelCaller name

end LabelPress.Preview
