import ScanFault.Session.Builder

/-!
# Steps

A session goes on in steps.  A step builds an item and binds it to a name, or changes a report, or
asks a query.  `Session.step` takes one step and answers it, and `Session.run` takes a list of
steps.  A query changes nothing, and a step that is refused leaves the session as it is.

Nothing of a fault can be assigned or deleted.  It refuses its own fields by name, and it has no
place for others.  The line of a report can be neither assigned nor deleted, since it is the line of
the current fault.  Everything else of a report can be assigned, whatever the value, and its current
fault can be deleted.  What a report has from its type, such as the arguments it was made with, can
be changed as far as the type lets it.  A report that is given a fault stays intact
(`Stored.setFault`), and any other of these changes leaves a report that is bare or altered.

A step looks up the names it uses before it does anything else, from left to right, and the first
one without a binding is the refusal.  Where it uses something that the session does not follow, its
answer is not told, and a name that it would bind is not followed either.
-/

namespace ScanFault

/-- A question about bound items. -/
inductive Query where
  /-- How does the item look? -/
  | view (name : String)
  /-- Are the two items equal? -/
  | compare (first second : String)
  /-- Which of the items are equal to no earlier one? -/
  | distinct (names : List String)
  /-- Is the item equal to one of the others? -/
  | isAmong (name : String) (others : List String)
  /-- What is the value of the field? -/
  | get (name : String) (field : Field)
  /-- What does the predicate of the item say of the text? -/
  | judge (name : String) (text : Text)
  /-- What arrives when the item is raised? -/
  | raise (name : String)
  /-- What does a handler match on? -/
  | pattern (name : String)

/-- A change of a report. -/
inductive Change where
  /-- What is bound to this name becomes the current fault. -/
  | setFault (source : String)
  /-- A field is assigned, to any value. -/
  | assign (field : Field)
  /-- A field is deleted. -/
  | delete (field : Field)
  /-- Something is assigned or deleted that a report has from its type.  The type may refuse that,
  and it stays the type of the report. -/
  | inherited (refused? : Option Failure)

/-- A step of a session. -/
inductive Step where
  /-- Builds an item and binds it to the name. -/
  | build (name : String) (builder : Builder)
  /-- Changes the report under the name. -/
  | change (name : String) (change : Change)
  /-- Asks a query. -/
  | ask (query : Query)

namespace Step

/-- Gives the report under `name` what is bound to `source`. -/
@[match_pattern]
abbrev setFault (name source : String) : Step := change name (.setFault source)

/-- Assigns a field of what the name is bound to. -/
@[match_pattern]
abbrev assign (name : String) (field : Field) : Step := change name (.assign field)

/-- Deletes a field of what the name is bound to. -/
@[match_pattern]
abbrev delete (name : String) (field : Field) : Step := change name (.delete field)

end Step

/-- The reply to a step that is not refused. -/
inductive Reply where
  /-- There is nothing to tell. -/
  | done
  | view (content : View)
  | comparison (equal different : Bool)
  | names (content : List String)
  | truth (content : Bool)
  | value (content : Value)
  | pattern (content : Pattern)
  | raised (content : Raised)

/-- The answer to a step. -/
inductive Answer where
  /-- The item that was built, with the calls that were made. -/
  | built (outcome : Attempt View)
  /-- The reply to anything else. -/
  | asked (outcome : Attempt Reply)

/-! ## Changes of reports -/

/-- Why a field of a fault cannot be assigned. -/
def Fault.refuseAssignment (fault : Fault) (field : Field) : Refusal :=
  if fault.kind.has field then .frozenAssignment field else .noSlot

/-- Why a field of a fault cannot be deleted. -/
def Fault.refuseDeletion (fault : Fault) (field : Field) : Refusal :=
  if fault.kind.has field then .frozenDeletion field else .noSlot

namespace Stored

/-- A report that was given a fault. -/
def setFault (stored : Stored) (fault : Fault) : Stored :=
  match stored with
  | intact content => .intact { content with fault }
  | bare
  | altered => .altered

/-- A report with a field assigned. -/
def assign (field : Field) : Except Refusal Stored :=
  match field with
  | .line => .error (.noSetter .line)
  | _ => .ok .altered

/-- A report with a field deleted. -/
def delete (stored : Stored) (field : Field) : Except Refusal Stored :=
  match stored, field with
  | _, .line => .error (.noDeleter .line)
  | intact _, .fault => .ok .bare
  | intact _, field
  | bare, field => .error (.noField Report.typeName field)
  | altered, _ => .error .untold

end Stored

namespace Bound

/-- A report that was given what another name is bound to.  A fault has no place for that. -/
def setFault : Bound → Bound → Except Refusal Stored
  | report content, fault given => .ok (content.setFault given)
  | report _, report _
  | report _, lost => .ok .altered
  | fault _, fault _
  | fault _, report _ => .error .noSlot
  | fault _, lost
  | lost, _ => .error .untold

/-- A report with a field assigned. -/
def assign (bound : Bound) (field : Field) : Except Refusal Stored :=
  match bound with
  | fault content => .error (content.refuseAssignment field)
  | report _ => Stored.assign field
  | lost => .error .untold

/-- A report with a field deleted. -/
def delete (bound : Bound) (field : Field) : Except Refusal Stored :=
  match bound with
  | fault content => .error (content.refuseDeletion field)
  | report content => content.delete field
  | lost => .error .untold

/-- A report with something changed that it has from its type.  A fault has no place for that. -/
def changeInherited (bound : Bound) (refused? : Option Failure) : Except Refusal Stored :=
  match bound, refused? with
  | fault _, _ => .error .noSlot
  | report _, some failure => .error (.notChanged failure)
  | report _, none => .ok .altered
  | lost, _ => .error .untold

end Bound

namespace Session

/-- The items that names are bound to, each with its name. -/
def entries (session : Session) (names : List String) : Except Refusal (List (String × Item)) :=
  names.mapM fun name => do
    let item ← session.lookup name
    return (name, item)

/-- Replies to a query. -/
def reply (session : Session) : Query → Attempt Reply
  | .view name => do
      let item ← .ofExcept (session.lookup name)
      return .view item.view
  | .compare first second => do
      let a ← .ofExcept (session.lookup first)
      let b ← .ofExcept (session.lookup second)
      return .comparison (a == b) (a != b)
  | .distinct names => do
      let entries ← .ofExcept (session.entries names)
      return .names ((Item.distinct hash [] entries).map Prod.fst)
  | .isAmong name others => do
      let item ← .ofExcept (session.lookup name)
      let entries ← .ofExcept (session.entries others)
      return .truth (item.isAmong hash (entries.map Prod.snd))
  | .get name field => do
      let bound ← .ofExcept (session.bound name)
      let value ← .ofExcept (bound.get field)
      return .value value
  | .judge name text => do
      let item ← .ofExcept (session.lookup name)
      let truth ← item.judge text
      return .truth truth
  | .raise name => do
      let item ← .ofExcept (session.lookup name)
      let raised ← .ofExcept item.raise
      return .raised raised
  | .pattern name => do
      let item ← .ofExcept (session.lookup name)
      return .pattern item.pattern

/-- What a change makes of the report under a name. -/
def changed (session : Session) (name : String) (change : Change) : Except Refusal Stored := do
  let bound ← session.bound name
  match change with
  | .setFault source =>
      let given ← session.bound source
      bound.setFault given
  | .assign field => bound.assign field
  | .delete field => bound.delete field
  | .inherited refused? => bound.changeInherited refused?

/-- The reply to a change that was made.  A report that was given something is shown. -/
def acknowledge (session : Session) (name : String) : Change → Attempt Reply
  | .setFault _ => session.reply (.view name)
  | .assign _
  | .delete _
  | .inherited _ => pure .done

/-- Takes a step. -/
def step (session : Session) : Step → Session × Answer
  | .build name builder =>
      let attempt := session.build builder
      let outcome := Item.view <$> attempt
      match attempt.result with
      | .ok item => (session.bind name item.toBound, .built outcome)
      | .error .untold => (session.bind name .lost, .built outcome)
      | .error _ => (session, .built outcome)
  | .change name change =>
      match session.changed name change with
      | .ok content =>
          let next := session.put name content
          (next, .asked (next.acknowledge name change))
      | .error refusal => (session, .asked (.refuse refusal))
  | .ask query => (session, .asked (session.reply query))

/-- Takes steps one after the other. -/
def run (session : Session) : List Step → Session × List Answer
  | [] => (session, [])
  | step :: steps =>
      let (next, answer) := session.step step
      let (last, answers) := next.run steps
      (last, answer :: answers)

/-- Some steps lead from the session without names to this one. -/
def Reachable (session : Session) : Prop :=
  ∃ steps, (empty.run steps).1 = session

end Session

end ScanFault
