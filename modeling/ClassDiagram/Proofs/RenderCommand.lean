import ClassDiagram.CommandLine.Program
import ClassDiagram.Proofs.AttachedOptions
import ClassDiagram.Proofs.LegibleDrawings
import ClassDiagram.Proofs.Setbacks
import ClassDiagram.Proofs.TextBytes
import ClassDiagram.Proofs.WrittenFiles
import ClassDiagram.Proofs.WrittenManifests

/-!
# The command that draws a class

Drawn on the command line, a class has the diagram that the library draws of it, or it has none in
both (`CommandLine.program_draws`). The program gets there by another way: over a session, a
browser and a clipboard, whose copies it writes to a file (`CommandLine.drawClass_eq`).

What a script does is told by its `Effect`. What is said on the standard error output is left out
of it, since nothing depends on it (`CommandLine.Script.effect_errors`).
-/

namespace ClassDiagram

/-! ## Diagrams as texts -/

/-- The diagram of a class of the codebase that the text of a manifest describes. -/
def Manifest.diagramOfText (style : DiagramStyle) (text assembly className : String) :
    Except Failure (Option String) :=
  (Manifest.projectsOfText text).bind fun projects =>
    Provider.diagram style (.ofProjects projects) assembly className

/-- The library draws a type of the index, if the text is a manifest. -/
theorem Manifest.diagramOfText_of_ok {text : String} {projects : List Project}
    (h : Manifest.projectsOfText text = .ok projects) (style : DiagramStyle)
    (assembly className : String) :
    Manifest.diagramOfText style text assembly className
      = .ok ((Index.ofProjects style projects).diagram? style assembly className) := by
  rw [Manifest.diagramOfText, h]
  rfl

theorem Index.getLast?_of_diagram? {index : Index} {style : DiagramStyle}
    {assembly className diagram : String}
    (h : index.diagram? style assembly className = some diagram) :
    diagram.toList.getLast? = some '\n' := by
  obtain ⟨type, -, rfl⟩ := Option.map_eq_some_iff.1 h
  exact Drawing.getLast?_text _

/-! ## Assemblies that there are, and others -/

theorem Index.type?_eq_none_of_not_mem_names {index : Index} {name : String}
    (h : name ∉ index.names) (className : String) : index.type? name className = none := by
  refine Index.type?_eq_none_iff.2 fun assembly hassembly => ?_
  have hmem := List.mem_map_of_mem (f := Assembly.name) (List.mem_of_find?_eq_some hassembly)
  have hname : assembly.name = name := by simpa using List.find?_some hassembly
  exact absurd (hname ▸ hmem) h

theorem Browser.chooseAssembly?_of_listing? {browser : Browser} {index : Index} {name : String}
    {classes : List String} (hindex : browser.index = some index)
    (hlisting : index.listing? name = some classes) :
    browser.chooseAssembly? name
      = some ({ browser with selection := .assembly name }.announce
          (.classes classes :: browser.clearing)) := by
  rw [chooseAssembly?, hindex, Option.bind_some, hlisting, Option.map_some]

namespace CommandLine

/-! ## Effects of scripts -/

/-- What a run leaves behind, except for what was said on the standard error output. -/
structure Effect where
  status : Nat
  /-- Everything on the standard output. -/
  output : String
  files : FileSystem

namespace Script

def effect (script : Script) (machine : Machine) : Effect :=
  let (status, after) := script.run machine
  ⟨status, after.output, after.files⟩

/-- **Nothing depends on what was said on the standard error output.** -/
theorem effect_errors (script : Script) (machine : Machine) (errors : String) :
    script.effect { machine with errors } = script.effect machine := by
  induction script generalizing machine errors with
  | exit status => rfl
  | readInput next ih => exact ih (.ok machine.input) { machine with input := [] } errors
  | readFile path next ih => exact ih (machine.files.read path) machine errors
  | writeFile path content next ih =>
      unfold effect run
      dsimp only
      split
      next files _ => exact ih (.ok ()) { machine with files } errors
      next fault _ => exact ih (.error fault) machine errors
  | print text next ih => exact ih { machine with output := machine.output ++ text } errors
  | report text next ih =>
      calc (report text next).effect { machine with errors }
          = next.effect { machine with errors := errors ++ text } := rfl
        _ = next.effect machine := ih machine _
        _ = next.effect { machine with errors := machine.errors ++ text } := (ih machine _).symm

theorem effect_readInput (next : Except FileFault (List UInt8) → Script) (machine : Machine) :
    (readInput next).effect machine
      = (next (.ok machine.input)).effect { machine with input := [] } := rfl

theorem effect_readFile (path : String) (next : Except FileFault (List UInt8) → Script)
    (machine : Machine) :
    (readFile path next).effect machine = (next (machine.files.read path)).effect machine := rfl

theorem effect_print (text : String) (next : Script) (machine : Machine) :
    (print text next).effect machine
      = next.effect { machine with output := machine.output ++ text } := rfl

theorem effect_report (text : String) (next : Script) (machine : Machine) :
    (report text next).effect machine = next.effect machine :=
  effect_errors next machine _

theorem effect_writeFile (path content : String) (next : Except FileFault Unit → Script)
    (machine : Machine) :
    (writeFile path content next).effect machine
      = match machine.files.write path (Text.bytesOfText content) with
        | .ok files => (next (.ok ())).effect { machine with files }
        | .error fault => (next (.error fault)).effect machine := by
  rw [effect, run]
  cases machine.files.write path (Text.bytesOfText content) with
  | ok files => rfl
  | error fault => rfl

theorem effect_writeFile_of_writable {path : String} {machine : Machine}
    (h : machine.files.Writable path) (content : String) (next : Except FileFault Unit → Script) :
    (writeFile path content next).effect machine
      = (next (.ok ())).effect { machine with
          files := machine.files.written (some path) (Text.bytesOfText content) } := by
  obtain ⟨after, hafter⟩ := h (Text.bytesOfText content)
  rw [effect_writeFile, FileSystem.written, hafter]

/-- A copy that cannot be written is left out. -/
theorem effect_copyTo (path copy : String) (next : Script) (machine : Machine) :
    (copyTo path [copy] next).effect machine
      = next.effect { machine with
          files := machine.files.written (some path) (Text.bytesOfText copy) } := by
  have hcopy : copyTo path [copy] next = writeFile path copy fun _ => next := rfl
  rw [hcopy, effect_writeFile, FileSystem.written]
  cases machine.files.write path (Text.bytesOfText copy) with
  | ok files => rfl
  | error fault => rfl

end Script

variable {machine : Machine}

theorem effect_remark (verbose : Bool) (text : String) (next : Script) (machine : Machine) :
    (remark verbose text next).effect machine = next.effect machine := by
  rw [remark]
  split
  · exact Script.effect_report _ next machine
  · rfl

/-- Who gives up has changed nothing by it. -/
theorem effect_giveUp (complaint : Complaint) (machine : Machine) :
    (giveUp complaint).effect machine = ⟨1, machine.output, machine.files⟩ := by
  rw [giveUp, Script.effect_report]
  rfl

/-! ## Reading the manifest -/

/-- The text of the manifest at a path, or on the standard input if none is given. -/
def Machine.manifest? (machine : Machine) (path : Option String) : Option String :=
  match filePath? path with
  | some path => (machine.files.read path).toOption.bind Text.textOfBytes?
  | none => Text.textOfBytes? machine.input

/-- A manifest that can be read is read. The standard input may be used up by this. -/
theorem exists_effect_readManifest {path : Option String} {text : String}
    (h : machine.manifest? path = some text) (next : String → Script) :
    ∃ input, (readManifest path next).effect machine
      = (next text).effect { machine with input } := by
  rw [Machine.manifest?] at h
  rw [readManifest]
  cases hfile : filePath? path with
  | some file =>
      rw [hfile] at h
      refine ⟨machine.input, ?_⟩
      dsimp only at h ⊢
      rw [Script.effect_readFile]
      cases hread : machine.files.read file with
      | error fault => rw [hread] at h; exact absurd h (by simp [Except.toOption])
      | ok bytes =>
          have htext : Text.textOfBytes? bytes = some text := by rwa [hread] at h
          dsimp only
          rw [htext]
  | none =>
      rw [hfile] at h
      refine ⟨[], ?_⟩
      dsimp only at h ⊢
      rw [Script.effect_readInput]
      dsimp only
      rw [h]

/-- The script goes on with the codebase, or gives up if the manifest describes none. -/
theorem exists_effect_withCodebase {path : Option String} {text : String}
    (h : machine.manifest? path = some text) (verbose : Bool) (next : Provider → Script) :
    ∃ input, (withCodebase verbose path next).effect machine
      = match Manifest.projectsOfText text with
        | .ok projects => (next (.ofProjects projects)).effect { machine with input }
        | .error _ => ⟨1, machine.output, machine.files⟩ := by
  rw [withCodebase]
  obtain ⟨input, hread⟩ := exists_effect_readManifest h fun text =>
    remark verbose ("Read " ++ toString text.utf8ByteSize ++ " bytes of manifest") <|
      match Manifest.projectsOfText text with
      | .ok projects => next (.ofProjects projects)
      | .error failure => giveUp (.failed failure)
  refine ⟨input, hread.trans ?_⟩
  rw [effect_remark]
  cases Manifest.projectsOfText text with
  | ok projects => rfl
  | error failure => exact effect_giveUp _ _

/-! ## Drawing -/

/-- **The browser draws what the index has**, and its clipboard holds nothing else. -/
theorem drawClass_ofProjects (style : DiagramStyle) (projects : List Project)
    (assembly className : String) :
    match (Index.ofProjects style projects).diagram? style assembly className with
    | some diagram =>
        drawClass style (.ofProjects projects) assembly className = .ok (diagram, [diagram])
    | none => ∃ complaint,
        drawClass style (.ofProjects projects) assembly className = .error complaint := by
  rw [drawClass, Browser.load_of_ok rfl rfl, Index.diagram?]
  dsimp only
  -- of the index only what it answers matters
  generalize Index.ofProjects style projects = index
  let loaded := Browser.takeOver { style, clipboard := .keeping } index
  have hloaded : loaded.index = some index := rfl
  by_cases hname : assembly ∈ index.names
  · obtain ⟨classes, hlisting⟩ := Index.exists_listing hname
    let selected := { loaded with selection := .assembly assembly }.announce
      (.classes classes :: loaded.clearing)
    have hchosen : loaded.chooseAssembly? assembly = some selected :=
      Browser.chooseAssembly?_of_listing? hloaded hlisting
    rw [hchosen]
    cases htype : index.type? assembly className with
    | none =>
        have hnone : selected.classNamed? className = none := by
          refine Browser.classNamed?_eq_none_iff.2 fun other name hother hselected => ?_
          obtain rfl : index = other := Option.some.inj hother
          obtain rfl : assembly = name := Option.some.inj hselected
          exact htype
        dsimp only [Option.map_none]
        rw [Browser.chooseClass, hnone]
        exact ⟨_, rfl⟩
    | some type =>
        have hsome : selected.classNamed? className = some (index, assembly, type) :=
          Browser.classNamed?_eq_some.2 ⟨rfl, rfl, htype⟩
        dsimp only [Option.map_some]
        rw [Browser.chooseClass, hsome]
        rfl
  · have hnone : loaded.chooseAssembly? assembly = none := by
      refine Browser.chooseAssembly?_eq_none_iff.2 fun other hother => ?_
      obtain rfl : index = other := Option.some.inj hother
      exact hname
    rw [hnone, Index.type?_eq_none_of_not_mem_names hname]
    exact ⟨_, rfl⟩

/-! ## Delivering -/

variable {output copyTo : Option String} {diagram : String}

/-- What is left behind when a diagram is delivered: it is in the file for copies, as far as that
can be written, and in the file for the output, or it is printed if there is none. -/
def delivery (machine : Machine) (output copyTo : Option String) (diagram : String) : Effect where
  status := 0
  output := if (filePath? output).isSome then machine.output else machine.output ++ diagram
  files := (machine.files.written copyTo (Text.bytesOfText diagram)).written (filePath? output)
    (Text.bytesOfText diagram)

theorem effect_writeResult (hlast : diagram.toList.getLast? = some '\n')
    (hwritable : ∀ path, filePath? output = some path → machine.files.Writable path) :
    (writeResult output diagram).effect machine = delivery machine output none diagram := by
  rw [writeResult, delivery]
  cases hfile : filePath? output with
  | some path =>
      dsimp only
      rw [Script.effect_writeFile_of_writable (hwritable path hfile)]
      rfl
  | none =>
      dsimp only
      rw [hlast, Script.effect_print]
      rfl

/-- What the command does with the codebase that it has read. -/
def renderFrom (verbose : Bool) (assembly className : String) (output copyTo : Option String)
    (style : DiagramStyle) (provider : Provider) : Script :=
  match drawClass style provider assembly className with
  | .ok (diagram, copies) =>
    let finish :=
      remark verbose ("Rendered " ++ toString diagram.utf8ByteSize ++ " bytes of PlantUML")
        (writeResult output diagram)
    match copyTo with
    | some path => .copyTo path copies finish
    | none => finish
  | .error complaint => giveUp complaint

theorem perform_render (verbose : Bool) (manifest : Option String) (assembly className : String)
    (output copyTo : Option String) (style : DiagramStyle) :
    perform verbose (.render manifest assembly className output copyTo style)
      = withCodebase verbose manifest (renderFrom verbose assembly className output copyTo style) :=
  rfl

section

variable (verbose : Bool) {assembly className : String} {style : DiagramStyle}

/-- The copy is written before the output, but it cannot stand in the way of it. -/
theorem effect_renderFrom_of_some {projects : List Project}
    (hwritable : ∀ path, filePath? output = some path → machine.files.Writable path)
    (h : (Index.ofProjects style projects).diagram? style assembly className = some diagram) :
    (renderFrom verbose assembly className output copyTo style
        (.ofProjects projects)).effect machine
      = delivery machine output copyTo diagram := by
  have hlast := Index.getLast?_of_diagram? h
  have hdraw := drawClass_ofProjects style projects assembly className
  rw [h] at hdraw
  dsimp only at hdraw
  rw [renderFrom, hdraw]
  cases copyTo with
  | none =>
      dsimp only
      rw [effect_remark, effect_writeResult hlast hwritable]
  | some path =>
      -- the file of the copy is made before the output is written
      let copied : Machine := { machine with
        files := machine.files.written (some path) (Text.bytesOfText diagram) }
      have hstill : ∀ other, filePath? output = some other → copied.files.Writable other :=
        fun other hother => (hwritable other hother).written (some path) _
      have hresult : (writeResult output diagram).effect copied
          = delivery copied output none diagram := effect_writeResult hlast hstill
      dsimp only
      rw [Script.effect_copyTo, effect_remark]
      exact hresult

theorem effect_renderFrom_of_none {projects : List Project}
    (h : (Index.ofProjects style projects).diagram? style assembly className = none) :
    (renderFrom verbose assembly className output copyTo style
        (.ofProjects projects)).effect machine
      = ⟨1, machine.output, machine.files⟩ := by
  have hdraw := drawClass_ofProjects style projects assembly className
  rw [h] at hdraw
  obtain ⟨complaint, hcomplaint⟩ := hdraw
  rw [renderFrom, hcomplaint]
  exact effect_giveUp complaint machine

/-- **The command delivers the diagram that the library draws.** If the library draws none, the
command fails and leaves everything as it was. -/
theorem effect_render {manifest : Option String} {text : String}
    (htext : machine.manifest? manifest = some text)
    (hwritable : ∀ path, filePath? output = some path → machine.files.Writable path) :
    (perform verbose (.render manifest assembly className output copyTo style)).effect machine
      = match Manifest.diagramOfText style text assembly className with
        | .ok (some diagram) => delivery machine output copyTo diagram
        | _ => ⟨1, machine.output, machine.files⟩ := by
  obtain ⟨input, hcodebase⟩ := exists_effect_withCodebase htext verbose
    (renderFrom verbose assembly className output copyTo style)
  rw [perform_render, hcodebase]
  cases hprojects : Manifest.projectsOfText text with
  | error failure =>
      rw [Manifest.diagramOfText, hprojects]
      rfl
  | ok projects =>
      rw [Manifest.diagramOfText_of_ok hprojects]
      cases hdiagram : (Index.ofProjects style projects).diagram? style assembly className with
      | none => exact effect_renderFrom_of_none verbose hdiagram
      | some diagram => exact effect_renderFrom_of_some verbose hwritable hdiagram

end

/-! ## The program -/

/-- What else the program says and how it writes its log does not matter. -/
theorem effect_program {words : List String} {invocation : Invocation}
    (h : Invocation.ofWords words = .ok invocation) (logFormat : Option String)
    (machine : Machine) :
    (program logFormat words).effect machine
      = (perform invocation.verbose invocation.command).effect machine := by
  rw [program, h]
  dsimp only
  split
  · rw [Script.effect_report, effect_remark]
  · rw [effect_remark]

/-- A diagram has been delivered. -/
structure Delivered (machine : Machine) (output copyTo : Option String) (diagram : String)
    (effect : Effect) : Prop where
  status : effect.status = 0
  /-- The diagram and nothing else is printed, unless it goes to a file. -/
  printed : effect.output
    = if (filePath? output).isSome then machine.output else machine.output ++ diagram
  written : ∀ path, filePath? output = some path →
    effect.files.read path = .ok (Text.bytesOfText diagram)
  copied : ∀ path, copyTo = some path → machine.files.Writable path →
    effect.files.read path = .ok (Text.bytesOfText diagram)
  /-- Nothing else is written, also if there can be no copy. -/
  files : effect.files = (machine.files.written copyTo (Text.bytesOfText diagram)).written
    (filePath? output) (Text.bytesOfText diagram)

/-- Nothing has been delivered, and nothing has changed. -/
structure Refused (machine : Machine) (effect : Effect) : Prop where
  status : effect.status ≠ 0
  printed : effect.output = machine.output
  files : effect.files = machine.files

theorem delivered_delivery
    (hwritable : ∀ path, filePath? output = some path → machine.files.Writable path) :
    Delivered machine output copyTo diagram (delivery machine output copyTo diagram) where
  status := rfl
  printed := rfl
  written := by
    intro path hpath
    rw [delivery, hpath]
    exact FileSystem.read_written ((hwritable path hpath).written copyTo _) _
  copied := by
    rintro path rfl hcopy
    exact FileSystem.read_written_written hcopy _ _
  files := rfl

/-- **The program draws what the library draws.** Every request can be put into words, and for all
words that say the same the program succeeds if and only if the library draws a diagram of the
class. It then delivers this diagram, and otherwise it changes nothing. -/
theorem program_draws (request : RenderRequest) :
    (request.HasPaths → Invocation.ofWords request.words = .ok { command := request.command })
    ∧ ∀ (words : List String) (invocation : Invocation) (logFormat : Option String)
        (machine : Machine) (text : String),
      Invocation.ofWords words = .ok invocation → invocation.command = request.command →
      machine.manifest? request.manifest = some text →
      (∀ path, filePath? request.output = some path → machine.files.Writable path) →
        let drawn :=
          Manifest.diagramOfText request.style text request.assembly request.className
        let effect := (program logFormat words).effect machine
        (effect.status = 0 ↔ ∃ diagram, drawn = .ok (some diagram))
        ∧ (∀ diagram, drawn = .ok (some diagram) →
            Delivered machine request.output request.copyTo diagram effect)
        ∧ ((∀ diagram, drawn ≠ .ok (some diagram)) → Refused machine effect) := by
  refine ⟨RenderRequest.ofWords_words, ?_⟩
  intro words invocation logFormat machine text hwords hcommand htext hwritable
  dsimp only
  rw [effect_program hwords, hcommand, RenderRequest.command, effect_render _ htext hwritable]
  generalize Manifest.diagramOfText request.style text request.assembly request.className = drawn
  have hrefused : Refused machine ⟨1, machine.output, machine.files⟩ := ⟨Nat.one_ne_zero, rfl, rfl⟩
  cases drawn with
  | error failure => exact ⟨by simp, by simp, fun _ => hrefused⟩
  | ok diagram? =>
      cases diagram? with
      | none => exact ⟨by simp, by simp, fun _ => hrefused⟩
      | some diagram =>
          have hdelivered : Delivered machine request.output request.copyTo diagram
            (delivery machine request.output request.copyTo diagram) := delivered_delivery hwritable
          refine ⟨⟨fun _ => ⟨diagram, rfl⟩, fun _ => rfl⟩, ?_, fun h => absurd rfl (h diagram)⟩
          intro other hother
          obtain rfl : diagram = other := Option.some.inj (Except.ok.inj hother)
          exact hdelivered

/-- A codebase with one class. -/
def kennel : Manifest where
  projects := [
    { name := "Zoo"
      symbols := .ofList []
      documents := [
        { name := "Dog.cs"
          tree := some { root := some [{ keyword := .forClass, identifier := "Dog" }] } }] }]

/-- The class as it is in the index. -/
def kennelDog : IndexedType where
  qualifiedName := "Dog"
  identifier := "Dog"
  kind := .plainClass
  declaredBases := []
  members := []

theorem assemblies_kennel (style : DiagramStyle) :
    (Index.ofProjects style kennel.toProjects).assemblies = [⟨"Zoo", [kennelDog]⟩] := by
  let project := Manifest.ProjectEntry.toProject (kennel.projects.head (by decide))
  have hprojects : indexedProjects kennel.toProjects = [project] := by
    have hone : kennel.toProjects = [project] := rfl
    have hname : project.name = "Zoo" := rfl
    rw [hone]
    simp [indexedProjects, Text.sortedByName, firstOfEachName, hname]
  have hdocuments : Text.sortedByName Document.name project.documents = project.documents :=
    List.mergeSort_of_pairwise (List.pairwise_singleton _ _)
  have htypes : (project.documents.foldl (AssemblyDraft.addDocument style "Zoo")
      { registry := {}, skipped := 0 }).types = [kennelDog] := rfl
  rw [Index.ofProjects, hprojects, List.foldl_cons, Index.addProject, hdocuments]
  show [Assembly.mk "Zoo" ((project.documents.foldl (AssemblyDraft.addDocument style "Zoo")
    { registry := {}, skipped := 0 }).types.map IndexedType.withSortedMembers)] = _
  rw [htypes, List.map_singleton, IndexedType.withSortedMembers, Member.sorted]
  simp [kennelDog]

/-- The diagram goes to a file. The copy would have to go to a folder that there is not. -/
theorem program_draws_kennel :
    let request : RenderRequest :=
      { assembly := "Zoo", className := "Dog", output := some "dog.puml"
        copyTo := some "old/dog.puml", labels := .bare, roots := ["Beast"] }
    let machine : Machine := { input := Text.bytesOfText kennel.text }
    let diagram := (Index.ofProjects request.style kennel.toProjects).diagramOf request.style "Zoo"
      kennelDog
    Delivered machine (some "dog.puml") (some "old/dog.puml") diagram
      ((program none request.words).effect machine) := by
  intro request machine diagram
  have hpaths : request.HasPaths := ⟨by decide, by decide, by decide⟩
  have htext : machine.manifest? request.manifest = some kennel.text :=
    Text.textOfBytes?_bytesOfText kennel.text
  have hwritable : ∀ path, filePath? request.output = some path →
      machine.files.Writable path := by
    intro path hpath
    obtain rfl : "dog.puml" = path := Option.some.inj hpath
    refine FileSystem.writable_iff.2 ⟨["dog.puml"], [], Path.ofText "dog.puml",
      .vacant ["dog.puml"], ?_, ?_, ?_, ?_⟩
    · rfl
    · rfl
    · rfl
    · rfl
  obtain ⟨hwords, hruns⟩ := program_draws request
  obtain ⟨-, hdelivered, -⟩ := hruns request.words _ none machine kennel.text (hwords hpaths) rfl
    htext hwritable
  have hprojects : Manifest.projectsOfText kennel.text = .ok kennel.toProjects := by
    have hjson : Json.ofText? kennel.text = some kennel.toJson :=
      Json.ofText?_compact kennel.wellFormed_toJson
    have hread : Manifest.ofJson? kennel.toJson = some kennel :=
      Manifest.reads kennel Manifest.maxDepth (by decide)
    rw [Manifest.projectsOfText, Manifest.ofText?, hjson, Option.bind_some, hread]
  have hdiagram : (Index.ofProjects request.style kennel.toProjects).diagram? request.style "Zoo"
      "Dog" = some diagram := by
    have htype : (Index.ofProjects request.style kennel.toProjects).type? "Zoo" "Dog"
        = some kennelDog := by
      rw [Index.type?, Index.assembly?, assemblies_kennel]
      rfl
    rw [Index.diagram?, htype]
    rfl
  refine hdelivered diagram ?_
  rw [Manifest.diagramOfText_of_ok hprojects]
  exact congrArg Except.ok hdiagram

end CommandLine

end ClassDiagram
