import TextPane.CommandLine.Request
import TextPane.Terminal.Sequence

/-! What a command line comes to.

The settings come from the file that is named, or else from the first of the usual places that has
one. What is written depends on them, the options and the terminal alone. -/
namespace TextPane

/-- What is found at a place where settings may be. -/
inductive FileState where
  | missing
  /-- There, but it cannot be read. -/
  | unreadable
  | bytes (content : ByteArray)

/-- The settings of the first file that is there. -/
def Config.ofFiles (files : List FileState) : Config :=
  let present := files.find? fun
    | .missing => false
    | _ => true
  match present with
  | some (.bytes content) => Config.ofBytes content
  | _ => {}

namespace CommandLine

/-- What a run leaves. -/
structure Report where
  code : Nat := 0
  output : String := ""
  error : String := ""
deriving DecidableEq, Repr

def programName : String := "termview"

def versionText : String := programName ++ " 0.0.1\n"

def helpText : String :=
  "Terminal span layout demos\n\nUsage: " ++ programName ++ " [OPTIONS] [DEMO]\n"

def configName : String := programName ++ ".toml"

/-- The folder of settings: the one that is named if its path is absolute, or the usual one at
home. -/
def configFolder (named home : Option String) : Option String :=
  match named.filter (·.startsWith "/") with
  | some folder => some folder
  | none => home.map (· ++ "/.config")

/-- The places where settings may be, in order. -/
def configPlaces (i : Invocation) (folder : Option String) : List String :=
  match i.config with
  | some path => [path]
  | none =>
    configName ::
      match folder with
      | some f => [f ++ "/" ++ programName ++ "/" ++ configName]
      | none => []

/-- The renderer that the settings and options ask for. -/
def renderer (i : Invocation) (c : Config) (t : Terminal) : Renderer :=
  Renderer.forTerminal t (i.mode.getD c.mode) c.render.reset

/-- What goes out before a live display and behind it, where it is not a file. -/
def liveFrame (r : Renderer) : String × String :=
  if r.mode = .file then ("", "")
  else
    (Escape.title programName ++ Escape.enterOtherScreen ++ Escape.hideCursor,
      Escape.leaveOtherScreen ++ Escape.showCursor)

/-- A live display without ticks. -/
def stillLive (r : Renderer) (c : Config) (t : Terminal) : Report :=
  let (front, back) := liveFrame r
  { output := front ++ (Demo.Live.start t r c.hideCursor).stop.sent ++ back }

/-- Shows a demonstration. -/
def perform (i : Invocation) (c : Config) (t : Terminal) : Report :=
  let r := renderer i c t
  match i.demo.tree? c with
  | none => stillLive r c t
  | some v =>
    match Demo.present r c.render.overwrite v t with
    | (.ok (), t) => { output := t.sent }
    | (.error _, t) => { code := 1, output := t.sent, error := "Error: terminal failure\n" }

/-- Answers a request. `find` looks at a place. -/
def answer (request : Request) (folder : Option String) (find : String → FileState) (t : Terminal) :
    Report :=
  match request with
  | .help => { output := helpText }
  | .version => { output := versionText }
  | .run i => perform i (Config.ofFiles ((configPlaces i folder).map find)) t

/-- Runs a command line. -/
def run (arguments : List String) (folder : Option String) (find : String → FileState)
    (t : Terminal) : Report :=
  match Request.ofArguments arguments with
  | .error e => { code := 2, error := e.message ++ "\n" }
  | .ok request => answer request folder find t

end CommandLine

end TextPane
