import JobHooks.Event
import JobHooks.Wire.Format

/-!
# The messages of the plugin daemon

The formats of a point in time, a span of time, a job, the three requests and the three empty
replies: the numbers and names of their fields, in the order in which they are written.

The requests that start and end jobs have the same format but for their names, so their bytes do not
tell them apart; `Payload.message` and `Payload.ofMessage?` are therefore given the hook type.
-/

namespace JobHooks

set_option autoImplicit false

open Wire

namespace Stamp

/-- The fields of a point or span of time under the name of its format. -/
def format (name : String) : Format Stamp where
  name := name
  empty := ⟨0, 0⟩
  fields := [
    Codec.int64.field 1 "seconds" seconds fun stamp seconds => { stamp with seconds },
    Codec.int32.field 2 "nanos" nanos fun stamp nanos => { stamp with nanos }]

/-- The format of a point in time. -/
def pointFormat : Format Stamp := format "Timestamp"

/-- The format of a span of time. -/
def spanFormat : Format Stamp := format "Duration"

end Stamp

namespace JobInfo

/-- The format of a job. -/
def format : Format JobInfo where
  name := "JobInfo"
  empty := {}
  fields := [
    Codec.uint32.field 1 "job_id" id fun job id => { job with id },
    Codec.text.field 2 "name" name fun job name => { job with name },
    Codec.text.field 3 "partition" partition fun job partition => { job with partition },
    Codec.text.field 4 "account" account fun job account => { job with account },
    Codec.text.field 5 "username" username fun job username => { job with username },
    Codec.uint32.field 6 "uid" uid fun job uid => { job with uid },
    Codec.text.field 7 "node_list" nodeList fun job nodeList => { job with nodeList },
    Codec.int32.field 8 "status" status fun job status => { job with status },
    Codec.uint32.field 9 "exit_code" exitCode fun job exitCode => { job with exitCode },
    Stamp.pointFormat.optional.field 10 "submit_time" submitTime
      fun job submitTime => { job with submitTime },
    Stamp.pointFormat.optional.field 11 "start_time" startTime
      fun job startTime => { job with startTime },
    Stamp.pointFormat.optional.field 12 "end_time" endTime fun job endTime => { job with endTime },
    Stamp.spanFormat.optional.field 13 "time_limit" timeLimit
      fun job timeLimit => { job with timeLimit },
    Stamp.spanFormat.optional.field 14 "elapsed_time" elapsedTime
      fun job elapsedTime => { job with elapsedTime }]

/-- The format of a request that is a list of jobs, under the name of the request. -/
def listFormat (name : String) : Format (List JobInfo) where
  name := name
  empty := []
  fields := [format.repeated.field 1 "job_info_list" (fun jobs => jobs) fun _ jobs => jobs]

/-- The format of the request that tells of started jobs. -/
def startFormat : Format (List JobInfo) := listFormat "StartHookRequest"

/-- The format of the request that tells of ended jobs. -/
def finishFormat : Format (List JobInfo) := listFormat "EndHookRequest"

end JobInfo

namespace MonitorTarget

/-- The format of the request to watch a job's resources. -/
def format : Format MonitorTarget where
  name := "JobMonitorHookRequest"
  empty := {}
  fields := [
    Codec.uint32.field 1 "job_id" jobId fun target jobId => { target with jobId },
    Codec.text.field 2 "cgroup" cgroup fun target cgroup => { target with cgroup }]

end MonitorTarget

/-- The daemon's reply to any of the requests, which says nothing. -/
structure Reply where
  deriving Repr, DecidableEq, Inhabited

/-- The format of a reply: no field has a meaning, so all that is there is skipped. -/
def Reply.format (name : String) : Format Reply where
  name := name
  empty := {}
  fields := []

namespace HookType

/-- The name of the reply to a hook of this kind. -/
def replyName : HookType → String
  | start => "StartHookReply"
  | finish => "EndHookReply"
  | monitor => "JobMonitorHookReply"

/-- The format of the reply to a hook of this kind. -/
def replyFormat (hookType : HookType) : Format Reply := Reply.format hookType.replyName

end HookType

namespace Payload

/-- The bytes of the request that carries a payload. -/
def message : Payload → Bytes
  | start jobs => JobInfo.startFormat.encode jobs
  | finish jobs => JobInfo.finishFormat.encode jobs
  | monitor target => MonitorTarget.format.encode target

/-- The number of bytes of the request that carries a payload. -/
def messageSize : Payload → Nat
  | start jobs => JobInfo.startFormat.size jobs
  | finish jobs => JobInfo.finishFormat.size jobs
  | monitor target => MonitorTarget.format.size target

/-- The payload of the given kind that the bytes of a request carry. -/
def ofMessage (hookType : HookType) (bytes : Bytes) : Except Fault Payload :=
  match hookType with
  | .start => (JobInfo.startFormat.decode bytes).map start
  | .finish => (JobInfo.finishFormat.decode bytes).map finish
  | .monitor => (MonitorTarget.format.decode bytes).map monitor

end Payload

end JobHooks
