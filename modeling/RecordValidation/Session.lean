import RecordValidation.Inspector

/-!
Sessions: steps that set an inspector up or ask it something, and its answers.
A step that fails leaves the inspector as it was, but for several registrations
at once, which stop at the first that fails.
-/

namespace RecordValidation

inductive Step
  | register (t : RecordType)
  | registerAll (ts : List RecordType)
  | addRule (name : String) (rule : Rule)
  | addRecordRule (tag : TypeTag) (rule : RecordRule)
  | violation (r : Record)
  | violations (r : Record)
  | violationOf (value : Value)
  | violationsOf (value : Value)
  | isRegistered (tag : TypeTag)
  | fieldNames (tag : TypeTag)
  | ruleNames
  | settings
  | inspected

inductive Answer
  | registered (declared : Nat)
  | done
  | violation (v : Option Violation)
  | violations (vs : Violations)
  | isRegistered (b : Bool)
  | fieldNames (names : Option (List String))
  | ruleNames (names : List String)
  | settings (s : Settings)
  | inspected (text : String)
  | fault (f : Fault)

namespace Inspector

/-- The state and answer of an attempt to change the inspector. -/
def attempt (i : Inspector) (answer : Answer) : Except Fault Inspector → Inspector × Answer
  | .ok i => (i, answer)
  | .error f => (i, .fault f)

/-- The answer to a question, or the fault that it ended with. -/
def answerOf {α : Type} (answer : α → Answer) : Except Fault α → Answer
  | .ok a => answer a
  | .error f => .fault f

def step (i : Inspector) (now : Instant) : Step → Inspector × Answer
  | .register t => i.attempt (.registered t.fields.length) (i.register t)
  | .registerAll ts =>
    let (i, failed) := i.registerAll ts
    (i, failed.elim .done .fault)
  | .addRule name rule => i.attempt .done (i.addRule name rule)
  | .addRecordRule tag rule => i.attempt .done (i.addRecordRule tag rule)
  | .violation r => (i, answerOf .violation (i.violation? now r))
  | .violations r => (i, answerOf .violations (i.violations now r))
  | .violationOf value => (i, answerOf .violation (i.violationOf? now value))
  | .violationsOf value => (i, answerOf .violations (i.violationsOf now value))
  | .isRegistered tag => (i, .isRegistered (i.isRegistered tag))
  | .fieldNames tag => (i, .fieldNames (i.fieldNames? tag))
  | .ruleNames => (i, .ruleNames i.ruleNames)
  | .settings => (i, .settings i.settings)
  | .inspected => (i, .inspected i.inspected)

/-- The inspector after some steps, and the answers to them. -/
def run (i : Inspector) (now : Instant) : List Step → Inspector × List Answer
  | [] => (i, [])
  | s :: rest =>
    let (next, answer) := i.step now s
    let (last, answers) := next.run now rest
    (last, answer :: answers)

end Inspector

end RecordValidation
