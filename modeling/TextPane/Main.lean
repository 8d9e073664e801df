import TextPane.CommandLine.Run

/-! The command line program: the only part that reads files and writes. -/
namespace TextPane

/-- Reads a file, whatever state it is in. -/
def readState (path : String) : IO FileState := do
  try
    return .bytes (← IO.FS.readBinFile path)
  catch
    | .noFileOrDirectory .. => return .missing
    | _ => return .unreadable

/-- Runs a live display with ticks. -/
def runLive (i : Invocation) (c : Config) (t : Terminal) : IO UInt32 := do
  let out ← IO.getStdout
  let r := CommandLine.renderer i c t
  let (front, back) := CommandLine.liveFrame r
  let started ← IO.monoMsNow
  let mut live := Demo.Live.start t r c.hideCursor
  out.putStr (front ++ live.scene.terminal.sent)
  for tick in [1 : i.ticks + 1] do
    let tenths := ((← IO.monoMsNow) - started) / 100
    let before := { live.scene.terminal with calls := #[] }
    live := { live with scene := { live.scene with terminal := before } }
    live := live.deliver (Demo.Live.tickSpan tick i.ticks tenths)
    out.putStr live.scene.terminal.sent
    out.flush
    IO.sleep i.interval.toUInt32
  let before := { live.scene.terminal with calls := #[] }
  live := { live with scene := { live.scene with terminal := before } }
  out.putStr (live.stop.sent ++ back)
  return 0

/-- Writes what a run leaves. -/
def deliverReport (report : CommandLine.Report) : IO UInt32 := do
  (← IO.getStdout).putStr report.output
  (← IO.getStderr).putStr report.error
  return report.code.toUInt32

end TextPane

open TextPane in
def main (arguments : List String) : IO UInt32 := do
  let folder := CommandLine.configFolder (← IO.getEnv "XDG_CONFIG_HOME") (← IO.getEnv "HOME")
  let redirected := !(← (← IO.getStdout).isTty)
  let t : Terminal := { size := ⟨80, 24⟩, redirected, type := ← IO.getEnv "TERM" }
  match Request.ofArguments arguments with
  | .ok (.run i) =>
    let files ← (CommandLine.configPlaces i folder).mapM readState
    let c := Config.ofFiles files
    if i.demo = .live ∧ 0 < i.ticks then runLive i c t
    else deliverReport (CommandLine.perform i c t)
  | _ => deliverReport (CommandLine.run arguments folder (fun _ => .missing) t)
