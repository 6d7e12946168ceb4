/-
  Main.lean --- the command line.

  Reads recorded replies from standard input, one body per line, and polls them
  as the arguments ask for.
-/
import LoadWatch.CommandLine.Parse
import LoadWatch.Recording

set_option autoImplicit false

namespace LoadWatch

/-- The lines of a stream, up to its end. -/
partial def readLines (input : IO.FS.Stream) (lines : List String) : IO (List String) := do
  let line ← input.getLine
  if line.isEmpty then return lines.reverse else readLines input (line :: lines)

/-- Carries out what the options ask for. -/
def carryOut (options : CommandLine.Options) : IO UInt32 := do
  let hosts := HostSettings.hostsSource options.hosts (← IO.getEnv "TOPSTAT_HOSTS")
  let ports := HostSettings.portsSource options.ports (← IO.getEnv "TOPSTAT_PORTS")
  let settings := HostSettings.changedVariables hosts ports
  if HostSettings.wantsWriting options.writeDotenv settings then
    IO.FS.writeFile ".env" (HostSettings.variablesContent settings)
  let bodies ← readLines (← IO.getStdin) []
  let transcripts :=
    Recording.playAll options (Recording.servers hosts.items ports.items) bodies
  for transcript in transcripts do
    for event in transcript.events do
      match event.stream with
      | .out => IO.print event.text
      | .diagnostics => IO.eprint event.text
  let joined := Recording.joined transcripts
  IO.eprint joined.diagnostics
  return if joined.failure.isSome then 1 else 0

end LoadWatch

def main (arguments : List String) : IO UInt32 := do
  match LoadWatch.CommandLine.parse arguments with
  | .ok options => LoadWatch.carryOut options
  | .error .helpWanted =>
    IO.println (LoadWatch.ServerStatus.describeColumns)
    return 0
  | .error .versionWanted => return 0
  | .error _ =>
    IO.eprintln "the arguments are not understood"
    return 2
