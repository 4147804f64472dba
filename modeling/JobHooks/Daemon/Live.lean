import JobHooks.Config.Endpoint
import JobHooks.Path
import JobHooks.Transport

/-!
# A daemon on a local socket

A site is a directory with one socket in it, on which a daemon may listen.  The daemon follows a
list of replies and accepts every call once the list is used up; it keeps what it has received.

A session lasts from one time that the daemon comes up to the next; coming up again while it listens
begins a new session, too.  A channel belongs to no session until it is used: its first call goes to
whichever session there is.  From then on the channel is bound to that session and breaks with it.

`Site.link` is the way to the daemon for those who know the socket by a path.
-/

namespace JobHooks

set_option autoImplicit false

/-- What a live daemon does with a call: it accepts it, fails it, or never answers. -/
inductive LiveReply where
  | accepts
  | fails (status : Status)
  | hangs
  deriving Repr, DecidableEq, Inhabited

/-- What a reply makes of a call. -/
def LiveReply.connection : LiveReply → Rpc.Connection
  | accepts => .answering .accepted
  | fails status => .answering (.refused status)
  | hangs => .failing .timedOut

/-- For how many milliseconds a reply makes the caller wait. -/
def LiveReply.delay (request : Rpc.Request) : LiveReply → Nat
  | accepts | fails _ => 0
  | hangs => (request.limit?.map Rpc.TimeLimit.milliseconds).getD 0

/-- A directory with a socket. -/
structure Site where
  /-- The name of the socket. -/
  socket : String
  listening : Bool := false
  /-- How often the daemon has come up. -/
  sessions : Nat := 0
  /-- The session to which the last channel is bound, if it has been used. -/
  bound? : Option Nat := none
  replies : List LiveReply := []
  /-- What the daemon has received, in order. -/
  received : List Rpc.Request := []
  /-- For how many milliseconds callers have waited for answers that never came. -/
  waited : Nat := 0
  deriving Repr, Inhabited

namespace Site

/-- The site when its daemon has come up. -/
def up (site : Site) : Site := { site with listening := true, sessions := site.sessions + 1 }

/-- The site when its daemon has gone down. -/
def down (site : Site) : Site := { site with listening := false }

/-- The site with further replies behind the others. -/
def append (site : Site) (replies : List LiveReply) : Site :=
  { site with replies := site.replies ++ replies }

/-- Whether the last channel leads to the daemon. -/
def channelHolds (site : Site) : Bool :=
  site.listening && site.bound?.all (· == site.sessions)

/-- The next reply, and the site behind it. -/
def nextReply (site : Site) : LiveReply × Site :=
  match site.replies with
  | reply :: rest => (reply, { site with replies := rest })
  | [] => (.accepts, site)

/-- A call over the last channel, which is bound by it. -/
def exchange (kind : HookType) (request : Rpc.Request) (site : Site) :
    Except Panic (Except Rpc.Failure Reply) × Site :=
  if site.channelHolds then
    let (reply, rest) := site.nextReply
    ((Rpc.call kind.replyFormat.decode request reply.connection).result,
      { rest with
        bound? := some site.sessions
        received := rest.received ++ [request]
        waited := rest.waited + reply.delay request })
  else (.ok (.error .broken), site)

/-- The most bytes that the path of a socket may have. -/
def longestPath : Nat := 107

/-- Whether a path leads to the socket. -/
def isFoundUnder (site : Site) (path : String) : Bool :=
  path.utf8ByteSize ≤ longestPath && Path.entry? path == some site.socket

/-- An attempt to make a channel.  It succeeds if there is any time for it and a daemon listens
where the path leads. -/
def dial (path : String) (timeout : Nat) (site : Site) : PollOutcome × Site :=
  if timeout = 0 then (.timedOut, site)
  else if site.listening && site.isFoundUnder path then (.reached, { site with bound? := none })
  else (.failed, site)

/-- The way to the daemon by a path. -/
def link (path : String) : Link Site Reply where
  socketPath := path
  dial := dial path
  exchange := exchange

/-- The way to the daemon that a configuration describes. -/
def linkOf (plugin : PluginConfig) : Except ConfigError (Link Site Reply) :=
  plugin.socketPath.map link

end Site

end JobHooks
