import Mathlib.Data.List.Induction
import SqlSchema.Proofs.Session.Request

/-! # The record of a session

A run leaves a history: its disconnections, and the failures of the requests that found the session
open. The record of the session is what its history says, and nothing else touches it. -/

namespace SqlSchema.Connection

open SqlSchema.Driver SqlSchema.Schema

/-! ## Histories -/

/-- What a session keeps of an operation. -/
inductive Event
  | failure (text : String)
  | closing (isError : Bool) (message : Option String)
  deriving Repr, DecidableEq

def Event.isFailing : Event → Bool
  | .failure _ => true
  | .closing isError _ => isError

def Event.text? : Event → Option String
  | .failure text => some text
  | .closing _ message => message

/-- The events of operations with their answers, on a session that is open or closed. -/
def eventsOf : Bool → List (Operation × Except DatabaseError Receipt) → List Event
  | _, [] => []
  | _, (.disconnect isError message, _) :: rest => .closing isError message :: eventsOf false rest
  | true, (.request q, .error e) :: rest =>
    .failure (e.recordedText q.context) :: eventsOf true rest
  | true, (.request _, .ok _) :: rest => eventsOf true rest
  | false, (.request _, _) :: rest => eventsOf false rest

/-- The record after one more event. -/
def Status.record (s : Status) : Event → Status
  | .failure text => s.fail text
  | .closing isError message =>
    { connected := false, error := isError, message := message.getD s.message }

namespace Status

/-- The last event decides the error flag. -/
theorem error_foldl_record (s : Status) (events : List Event) :
    (events.foldl record s).error = (events.getLast?.map Event.isFailing).getD s.error := by
  rcases List.eq_nil_or_concat events with rfl | ⟨earlier, event, rfl⟩
  · rfl
  · rw [List.concat_eq_append, List.foldl_append, List.getLast?_concat]
    cases event with
    | failure text => rfl
    | closing isError message => rfl

/-- The last text that was supplied is the message. -/
theorem message_foldl_record (s : Status) (events : List Event) :
    (events.foldl record s).message =
      (events.filterMap Event.text?).getLast?.getD s.message := by
  induction events using List.reverseRecOn with
  | nil => rfl
  | append_singleton events event ih =>
      rw [List.foldl_append, List.filterMap_append]
      cases event with
      | failure text => simp [record, fail, Event.text?]
      | closing isError message =>
          cases message with
          | none => simpa [record, Event.text?] using ih
          | some text => simp [record, Event.text?]

end Status

namespace Session

variable {σ α β : Type}

/-! ## Refusals -/

theorem run_ne_notConnected (c : Session σ) (sql context : String) :
    (c.run sql context).1 ≠ .error .notConnected := by
  unfold run
  split <;> simp [rejection]

theorem runAll_ne_notConnected (c : Session σ) (statements : List String)
    (context : Nat → String) : (c.runAll statements context).1 ≠ .error .notConnected := by
  unfold runAll runBatch
  cases c.driver.executeBatch statements c.state with
  | mk result state =>
      cases result with
      | error cause => simp
      | ok results =>
          dsimp only
          split <;> simp [rejection]

theorem answerMap_ne_notConnected (f : α → β) {a : Answer σ α}
    (h : a.1 ≠ .error .notConnected) : (answerMap f a).1 ≠ .error .notConnected := by
  obtain ⟨result, next⟩ := a
  cases result with
  | error e => simpa [answerMap, Except.map] using h
  | ok value => simp [answerMap, Except.map]

theorem follow_ne_notConnected (c : Session σ) (p : Plan) :
    (c.follow p).1 ≠ .error .notConnected := by
  cases p with
  | defect cause => simp [follow, schemaFailure]
  | skip receipt => simp [follow]
  | statement sql context receipt =>
      exact answerMap_ne_notConnected receipt (c.run_ne_notConnected sql context)
  | batch statements context receipt =>
      exact answerMap_ne_notConnected receipt (c.runAll_ne_notConnected statements context)

/-- Only a closed session refuses. -/
theorem answer_eq_notConnected_iff (c : Session σ) (q : Request) :
    (c.answer q).1 = .error .notConnected ↔ c.status.connected = false := by
  constructor
  · intro hrefused
    cases hstatus : c.status.connected with
    | false => rfl
    | true =>
        rw [answer_of_open hstatus] at hrefused
        exact absurd hrefused (c.follow_ne_notConnected _)
  · intro hclosed
    rw [answer_of_closed hclosed]

theorem status_answer_of_ok (c : Session σ) (q : Request) {receipt : Receipt}
    (hok : (c.answer q).1 = .ok receipt) : (c.answer q).2.status = c.status := by
  cases hstatus : c.status.connected with
  | false => rw [answer_of_closed hstatus]
  | true =>
      rw [answer_eq_advance hstatus, hok]
      rfl

/-! ## The record of a run -/

theorem length_performAll (c : Session σ) (ops : List Operation) :
    (c.performAll ops).1.length = ops.length := by
  induction ops generalizing c with
  | nil => rfl
  | cons op ops ih => simp [performAll, ih]

/-- An operation records the events that it adds to the history. -/
theorem status_perform (c : Session σ) (op : Operation) :
    (c.perform op).2.status =
      (eventsOf c.status.connected [(op, (c.perform op).1)]).foldl Status.record c.status := by
  cases op with
  | disconnect isError message => rfl
  | request q =>
      cases hstatus : c.status.connected with
      | false =>
          rw [perform, answer_of_closed hstatus]
          rfl
      | true =>
          have hadvance := answer_eq_advance hstatus q
          rw [perform, hadvance]
          cases hresult : (c.answer q).1 <;> rfl

theorem eventsOf_cons (isOpen : Bool) (op : Operation) (result : Except DatabaseError Receipt)
    (rest : List (Operation × Except DatabaseError Receipt)) :
    eventsOf isOpen ((op, result) :: rest) =
      eventsOf isOpen [(op, result)] ++ eventsOf (isOpen && !op.closes) rest := by
  cases op with
  | disconnect isError message => cases isOpen <;> rfl
  | request q => cases isOpen <;> cases result <;> rfl

theorem status_performAll (c : Session σ) (ops : List Operation) :
    (c.performAll ops).2.status =
      (eventsOf c.status.connected (ops.zip (c.performAll ops).1)).foldl Status.record
        c.status := by
  induction ops generalizing c with
  | nil => rfl
  | cons op ops ih =>
      rw [performAll]
      dsimp only
      rw [List.zip_cons_cons, eventsOf_cons, List.foldl_append, ← connected_perform,
        ← status_perform]
      exact ih (c.perform op).2

/-- The record after a run from the start is what the history of the run says. Successes and
refusals leave it as it is, and a request is refused exactly after a disconnection. -/
theorem start_performAll_status (d : Driver σ) (s : σ) (r : Registry) (ops : List Operation) :
    let answers := ((start d s r).performAll ops).1
    let next := ((start d s r).performAll ops).2
    let history := eventsOf true (ops.zip answers)
    answers.length = ops.length ∧
      next.status.connected = !ops.any Operation.closes ∧
      next.status.error = (history.getLast?.map Event.isFailing).getD false ∧
      next.status.message = (history.filterMap Event.text?).getLast?.getD "" ∧
      ∀ q,
        ((next.answer q).1 = .error .notConnected ↔ ops.any Operation.closes = true) ∧
        ((next.answer q).1 = .error .notConnected → (next.answer q).2.status = next.status) ∧
        ∀ receipt, (next.answer q).1 = .ok receipt → (next.answer q).2.status = next.status := by
  intro answers next history
  have hconnected : next.status.connected = !ops.any Operation.closes :=
    (start d s r).connected_performAll ops
  have hstatus : next.status = history.foldl Status.record (start d s r).status :=
    (start d s r).status_performAll ops
  refine ⟨(start d s r).length_performAll ops, hconnected, ?_, ?_, ?_⟩
  · rw [hstatus]
    exact Status.error_foldl_record _ history
  · rw [hstatus]
    exact Status.message_foldl_record _ history
  · intro q
    refine ⟨?_, ?_, ?_⟩
    · rw [answer_eq_notConnected_iff, hconnected, Bool.not_eq_false']
    · intro hrefused
      rw [answer_of_closed ((answer_eq_notConnected_iff next q).mp hrefused)]
    · intro receipt hok
      exact status_answer_of_ok next q hok

end Session

end SqlSchema.Connection
