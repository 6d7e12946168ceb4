/-
  Recording.lean --- polling recorded replies.

  A recording is a list of the bodies of replies, in the order in which they
  were received.  It is shared out to the servers in turn; each of them is
  polled on its part, as if one reply had been received per sleep time.
-/
import LoadWatch.CommandLine.Options
import LoadWatch.HostSettings
import LoadWatch.Poll.Join
import LoadWatch.ServerStatus.StatLine

set_option autoImplicit false

namespace LoadWatch.Recording

/-- What polling a server came to. -/
structure Transcript where
  server : String
  events : List Poll.Event
  ending : Poll.Ending
  elapsedMillis : Nat

/-- The servers: every combination of a host and a port. -/
def servers (hosts ports : List String) : List String :=
  hosts.flatMap fun host => ports.map fun port => host ++ ":" ++ port

/-- The bodies that fall to the server with the given number, out of several. -/
def dealt (bodies : List String) (count number : Nat) : List String :=
  (bodies.zipIdx.filter fun body => body.2 % count = number).map Prod.fst

/-- The moment of the sample with the given number. -/
def sampleTime (options : CommandLine.Options) (number : Nat) : Time.Moment :=
  .ofParts (options.sleepTime * number : Nat) 0 0

/-- The transcript of a run on the bodies that fall to a server. -/
def transcript {Snapshot Diff : Type} (report : Report Snapshot Diff)
    (attempt : Time.Moment → String → Attempt Snapshot) (options : CommandLine.Options)
    (server : String) (multiple : Bool) (bodies : List String) : Transcript :=
  let script := bodies.zipIdx.map fun body => attempt (sampleTime options body.2) body.1
  let run := Poll.run report (options.pollSettings server multiple) .working script
  ⟨server, run.events, run.ending, run.elapsedMillis⟩

/-- Polls a server on the bodies that fall to it, in the mode that is asked for. -/
def play (options : CommandLine.Options) (server : String) (multiple : Bool)
    (bodies : List String) : Transcript :=
  match options.mode with
  | .namespaces => transcript NamespaceTop.report
      (fun time body => Sampling.namespaces time 0 (.body body)) options server multiple bodies
  | .locks => transcript LockUsage.report
      (fun time body => Sampling.locks time (.body body)) options server multiple bodies
  | .operationMetrics => transcript OperationMetrics.report
      (fun time body => Sampling.operations time 0 (.body body)) options server multiple bodies
  | .stat => transcript ServerStatus.report
      (fun time body => Sampling.status time 0 (.body body)) options server multiple bodies

/-- Polls all servers on a recording. -/
def playAll (options : CommandLine.Options) (servers bodies : List String) : List Transcript :=
  servers.zipIdx.map fun server =>
    play options server.1 (1 < servers.length) (dealt bodies servers.length server.2)

/-- The failure of a server whose loop ended with an error. -/
def Transcript.failure? (transcript : Transcript) : Option Failure :=
  transcript.ending.message?.map fun message =>
    { context := [transcript.server], cause := .other message }

/-- What is left when the loops of all servers have ended. -/
def joined (transcripts : List Transcript) : Poll.Joined :=
  Poll.join false (transcripts.map fun transcript =>
    { endedAt := transcript.elapsedMillis, failure := transcript.failure? })

end LoadWatch.Recording
