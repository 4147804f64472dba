/-!
# Jobs

A job as the scheduler describes it to the plugin daemon: who runs what, where, since when, and how
it ended.  Every number has the width that the daemon's interface gives it, so a value outside that
width cannot be written down here.

The status of a job travels as a bare number.  `JobStatus` names the seven numbers that have a
meaning; a job may carry any other number, which then reads as pending.

The elapsed time of an ending job is stamped by `JobInfo.withElapsed`: the whole seconds between its
start and now, counted from the epoch when no start is known.
-/

namespace JobHooks

set_option autoImplicit false

/-- A point in time, or a span of time, as whole seconds and nanoseconds. -/
structure Stamp where
  seconds : Int64
  nanos : Int32
  deriving Repr, DecidableEq, Inhabited

/-! ## The status of a job -/

/-- The stages of a job's life that have a number of their own. -/
inductive JobStatus where
  | pending
  | running
  | completed
  | failed
  | exceedTimeLimit
  | cancelled
  | outOfMemory
  deriving Repr, DecidableEq, Inhabited

namespace JobStatus

/-- The stages in the order of their numbers. -/
def all : List JobStatus :=
  [pending, running, completed, failed, exceedTimeLimit, cancelled, outOfMemory]

/-- The number that stands for a stage. -/
def number : JobStatus → Int32
  | pending => 0
  | running => 1
  | completed => 2
  | failed => 3
  | exceedTimeLimit => 4
  | cancelled => 5
  | outOfMemory => 6

/-- The name of a stage in the daemon's interface. -/
def name : JobStatus → String
  | pending => "Pending"
  | running => "Running"
  | completed => "Completed"
  | failed => "Failed"
  | exceedTimeLimit => "ExceedTimeLimit"
  | cancelled => "Cancelled"
  | outOfMemory => "OutOfMemory"

/-- The stage that a number stands for, if it stands for one. -/
def ofNumber? (number : Int32) : Option JobStatus :=
  all.find? fun status => status.number == number

/-- The stage with the given name; names are compared letter by letter. -/
def ofName? (name : String) : Option JobStatus :=
  all.find? fun status => status.name == name

/-- What is said of a number that stands for no stage. -/
def unknownNumberMessage (number : Int32) : String :=
  "unknown enumeration value " ++ toString number.toInt

end JobStatus

/-! ## A job -/

/-- What is known of a job.  A time that is not known is absent, which differs from a time of zero.
-/
structure JobInfo where
  id : UInt32 := 0
  name : String := ""
  partition : String := ""
  account : String := ""
  username : String := ""
  uid : UInt32 := 0
  nodeList : String := ""
  status : Int32 := 0
  exitCode : UInt32 := 0
  submitTime : Option Stamp := none
  startTime : Option Stamp := none
  endTime : Option Stamp := none
  timeLimit : Option Stamp := none
  elapsedTime : Option Stamp := none
  deriving Repr, DecidableEq, Inhabited

namespace JobInfo

/-- The stage of the job; a number without a meaning reads as pending. -/
def stage (job : JobInfo) : JobStatus :=
  (JobStatus.ofNumber? job.status).getD .pending

/-- The job with its status number replaced by that of a stage. -/
def setStage (job : JobInfo) (stage : JobStatus) : JobInfo :=
  { job with status := stage.number }

/-- The second at which the job started, or zero when no start is known. -/
def startSecond (job : JobInfo) : Int64 :=
  match job.startTime with
  | some start => start.seconds
  | none => 0

/-- The job with its elapsed time set to the whole seconds from its start until `now`; an elapsed
time that it carried before is overwritten. -/
def withElapsed (now : Int64) (job : JobInfo) : JobInfo :=
  { job with elapsedTime := some ⟨now - job.startSecond, 0⟩ }

end JobInfo

/-- The resources of one job that the daemon is asked to watch. -/
structure MonitorTarget where
  jobId : UInt32 := 0
  cgroup : String := ""
  deriving Repr, DecidableEq, Inhabited

end JobHooks
