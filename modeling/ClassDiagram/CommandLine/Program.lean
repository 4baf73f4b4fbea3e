import ClassDiagram.Browser
import ClassDiagram.CommandLine.Arguments
import ClassDiagram.CommandLine.Script
import ClassDiagram.Export
import ClassDiagram.LogStyle
import ClassDiagram.Manifest.Codebase

/-!
# The program

Reads a manifest and lists its assemblies, lists the classes of one of them, draws one class
or writes the whole index. What is asked for goes to the standard output, or to a file; all
that is said besides goes to the standard error output.
-/

namespace ClassDiagram.CommandLine

/-- Why the program gives up. -/
inductive Complaint where
  | unreadable (path : String) (fault : FileFault)
  | unreadableInput (fault : FileFault)
  | failed (failure : Failure)
  | noAssembly (name : String)
  | noClass (name assembly : String)
  | unwritable (path : String) (fault : FileFault)

/-- What people are told. -/
def Complaint.message : Complaint → String
  | unreadable path fault => "Failed to read manifest '" ++ path ++ "': " ++ fault.message
  | unreadableInput fault => fault.message
  | failed failure => failure.message
  | noAssembly name => "Assembly '" ++ name ++ "' not found"
  | noClass name assembly => "Class '" ++ name ++ "' not found in assembly '" ++ assembly ++ "'"
  | unwritable path fault => "Failed to write output file '" ++ path ++ "': " ++ fault.message

/-- Gives up. -/
def giveUp (complaint : Complaint) : Script :=
  .report ("Error: " ++ complaint.message ++ "\n") (.exit 1)

/-- Says something, if much is to be said. -/
def remark (verbose : Bool) (text : String) (next : Script) : Script :=
  if verbose then .report (text ++ "\n") next else next

/-- The path of a file, unless it is absent or a dash. -/
def filePath? (path : Option String) : Option String :=
  path.filter (· ≠ "-")

/-- Reads the text of the manifest. -/
def readManifest (path : Option String) (next : String → Script) : Script :=
  match filePath? path with
  | some path => .readFile path fun
    | .ok bytes =>
      match Text.textOfBytes? bytes with
      | some text => next text
      | none => giveUp (.unreadable path .notText)
    | .error fault => giveUp (.unreadable path fault)
  | none => .readInput fun
    | .ok bytes =>
      match Text.textOfBytes? bytes with
      | some text => next text
      | none => giveUp (.unreadableInput .notText)
    | .error fault => giveUp (.unreadableInput fault)

/-- Reads the codebase that the manifest describes. -/
def withCodebase (verbose : Bool) (manifest : Option String) (next : Provider → Script) :
    Script :=
  readManifest manifest fun text =>
    remark verbose ("Read " ++ toString text.utf8ByteSize ++ " bytes of manifest") <|
      match Manifest.projectsOfText text with
      | .ok projects => next (.ofProjects projects)
      | .error failure => giveUp (.failed failure)

/-- A line about the size of an index. -/
def sizeLine (index : Index) : String :=
  "Indexed " ++ toString index.assemblies.length ++ " assemblies, " ++ toString index.size
    ++ " types (" ++ toString index.skipped ++ " documents skipped)"

/-- Reads the codebase that the manifest describes and builds its index. -/
def withIndex (verbose : Bool) (manifest : Option String) (next : Index → Script) : Script :=
  withCodebase verbose manifest fun provider =>
    match (LoadSession.load {} provider).2.result with
    | .ok index => remark verbose (sizeLine index) (next index)
    | .error failure => giveUp (.failed failure)

/-- Writes a result to a file or to the standard output, where it ends its line. -/
def writeResult (output : Option String) (content : String) : Script :=
  match filePath? output with
  | some path => .writeFile path content fun
    | .ok () => .exit 0
    | .error fault => giveUp (.unwritable path fault)
  | none =>
    let last := content.toList.getLast?
    .print (if last = none || last = some '\n' then content else content ++ "\n") (.exit 0)

/-- Prints a list of names, one on a line, or a JSON object that holds them. -/
def printNames (names : List String) (json : Option Json) : Script :=
  match json with
  | some json => .print (json.pretty ++ "\n") (.exit 0)
  | none => .print (String.join (names.map (· ++ "\n"))) (.exit 0)

/-- Draws a class of a codebase: the diagram, and the copies that were made of it. -/
def drawClass (style : DiagramStyle) (provider : Provider) (assembly className : String) :
    Except Complaint (String × List String) :=
  let (loaded, _, report) :=
    Browser.load { style, clipboard := .keeping } { style } provider
  match report.result with
  | .error failure => .error (.failed failure)
  | .ok _ =>
    match loaded.chooseAssembly? assembly with
    | none => .error (.noAssembly assembly)
    | some selected =>
      match selected.chooseClass className with
      | (_, none) => .error (.noClass className assembly)
      | (shown, some diagram) => .ok (diagram, shown.clipboard.entries)

/-- Carries out a command. -/
def perform (verbose : Bool) : Command → Script
  | .assemblies manifest json =>
    withIndex verbose manifest fun index =>
      let names := index.names
      printNames names (if json then some (Index.exportedNames names) else none)
  | .classes manifest assembly json =>
    withIndex verbose manifest fun index =>
      match index.listing? assembly with
      | some names =>
        printNames names (if json then some (Index.exportedListing assembly names) else none)
      | none => giveUp (.noAssembly assembly)
  | .render manifest assembly className output copyTo style =>
    withCodebase verbose manifest fun provider =>
      match drawClass style provider assembly className with
      | .ok (diagram, copies) =>
        let finish :=
          remark verbose ("Rendered " ++ toString diagram.utf8ByteSize ++ " bytes of PlantUML")
            (writeResult output diagram)
        match copyTo with
        | some path => .copyTo path copies finish
        | none => finish
      | .error complaint => giveUp complaint
  | .inspect manifest output =>
    withIndex verbose manifest fun index => writeResult output index.exported.pretty

/-- The program's version. -/
def version : String := "0.4.3"

/-- How the program is called. -/
def usage : String :=
  "Browse a codebase manifest and render PlantUML class diagrams\n\n"
    ++ "plantscribe [-v] [--log-level LEVEL] [--log-format FORMAT] COMMAND\n\n"
    ++ "  assemblies [-m MANIFEST] [--json]\n"
    ++ "  classes    [-m MANIFEST] -a ASSEMBLY [--json]\n"
    ++ "  render     [-m MANIFEST] -a ASSEMBLY -c CLASS [-o OUTPUT] [--copy-to FILE]\n"
    ++ "             [--qualifier namespace|assembly|bare] [--root-type NAME]...\n"
    ++ "  inspect    [-m MANIFEST] [-o OUTPUT]\n"

/-- The warning about a log format that there is not. A format asked for in the arguments
comes before the one in the environment. -/
def logWarning? (argument environment : Option String) : Option String :=
  let name := (argument.or environment).getD "compact"
  match LogStyle.ofName? name with
  | some _ => none
  | none => some (LogStyle.invalid name)

/-- The program with these words behind its name, and with the log format that the
environment asks for. -/
def program (logFormat : Option String) (words : List String) : Script :=
  match Invocation.ofWords words with
  | .error (.usage error) =>
    .report ("error: " ++ error.message ++ "\n\n" ++ usage) (.exit 2)
  | .error .version => .print ("plantscribe " ++ version ++ "\n") (.exit 0)
  | .error .help => .print usage (.exit 0)
  | .ok invocation =>
    let start :=
      remark invocation.verbose ("Plantscribe v" ++ version)
        (perform invocation.verbose invocation.command)
    match logWarning? invocation.logFormat logFormat with
    | some warning =>
      .report ("Warning: Failed to initialize logging: " ++ warning ++ "\n") start
    | none => start

end ClassDiagram.CommandLine
