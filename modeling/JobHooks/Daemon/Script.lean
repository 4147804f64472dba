import JobHooks.Delivery.Worker

/-!
# A daemon that follows a script

A script lists what a daemon answers: replies that are used up one by one, standing replies for when
these have run out, and what the polls see.  Two daemons follow scripts: `Script.standing` answers
every poll from a switch, and `Script.rehearsed` from a list of polls, asking the worker to stop
once the list has run out.  A run over a rehearsed script therefore ends, and `Script.run` is that
run.
-/

namespace JobHooks

set_option autoImplicit false

/-- What a scripted daemon does at one call: it leaves details in the context, lets effects happen,
and then panics, fails or succeeds. -/
structure ScriptedReply where
  failure? : Option Status := none
  details : List String := []
  effects : Effects := {}
  /-- What the switch for later polls becomes, if it changes. -/
  ready? : Option Bool := none
  panic? : Option Panic := none
  deriving Repr, DecidableEq, Inhabited

/-- What a scripted daemon does at one poll. -/
structure ScriptedPoll where
  connected : Bool := false
  effects : Effects := {}
  deriving Repr, DecidableEq, Inhabited

/-- What a scripted daemon has still to do. -/
structure Script where
  ready : Bool := false
  replies : List ScriptedReply := []
  /-- The standing replies; success where there is none. -/
  rules : List (HookType × ScriptedReply) := []
  polls : List ScriptedPoll := []
  deriving Repr, Inhabited

namespace Script

/-- The standing reply to calls of a kind. -/
def rule (script : Script) (kind : HookType) : ScriptedReply :=
  match script.rules.find? fun entry => entry.1 == kind with
  | some entry => entry.2
  | none => {}

/-- The script with a new standing reply to calls of a kind. -/
def setRule (script : Script) (kind : HookType) (reply : ScriptedReply) : Script :=
  { script with rules := (kind, reply) :: script.rules }

/-- The script with further replies behind the others. -/
def append (script : Script) (replies : List ScriptedReply) : Script :=
  { script with replies := script.replies ++ replies }

/-- The next reply to a call of a kind, and the script behind it. -/
def nextReply (script : Script) (kind : HookType) : ScriptedReply × Script :=
  match script.replies with
  | reply :: rest => (reply, { script with replies := rest })
  | [] => (script.rule kind, script)

/-- What comes of a call of a kind. -/
def answer (kind : HookType) (context : CallContext) (script : Script) : CallReaction Script :=
  let (reply, rest) := script.nextReply kind
  { answer :=
      match reply.panic? with
      | some panic => .error panic
      | none =>
        match reply.failure? with
        | some status => .ok (.error status)
        | none => .ok (.ok ())
    effects := reply.effects
    next := { rest with ready := reply.ready?.getD rest.ready }
    context := reply.details.foldl CallContext.withDetail context }

/-- The daemon whose polls are answered from the switch. -/
def standing : Daemon Script where
  poll := fun _ script => { answer := .ok script.ready, next := script }
  startHook := fun context _ script => script.answer .start context
  finishHook := fun context _ script => script.answer .finish context
  monitorHook := fun context _ script => script.answer .monitor context

/-- What comes of a poll answered from the list. -/
def nextPoll (script : Script) : Reaction Script Bool :=
  match script.polls with
  | poll :: rest =>
    { answer := .ok poll.connected, effects := poll.effects, next := { script with polls := rest } }
  | [] => { answer := .ok false, effects := { stop? := some true }, next := script }

/-- The daemon whose polls are answered from the list. -/
def rehearsed : Daemon Script := { standing with poll := fun _ script => script.nextPoll }

/-- As many passes as a run over a rehearsed script can have: one for each poll of the list, one for
the poll that asks to stop, and the one that stops. -/
def passLimit (script : Script) : Nat := script.polls.length + 2

/-- The whole run of a worker over a rehearsed script. -/
def run (settings : DeliverySettings) (worker : Worker Script) : Progress Script Worker.Ending :=
  Worker.runFor rehearsed settings worker.daemon.passLimit worker

end Script

end JobHooks
