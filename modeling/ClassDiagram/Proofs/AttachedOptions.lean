import ClassDiagram.CommandLine.Arguments
import Mathlib.Data.List.Pairwise

/-!
# Options with their values attached

A value may be any text if it is attached to the long name of its option: words that are written
so are read as the options that they are, in their order (`takeWords_attached`). Hence every
request to draw a class can be put into words (`RenderRequest.ofWords_words`), whatever the names
in it are.
-/

namespace ClassDiagram.CommandLine

/-- The word for an option with its value attached. -/
def attached (name value : String) : String :=
  "--" ++ name ++ "=" ++ value

theorem Word.ofString_attached {name : String} (h : '=' ∉ name.toList) (value : String) :
    Word.ofString (attached name value) = .long name (some value) := by
  have hchars : (attached name value).toList
      = '-' :: '-' :: (name.toList ++ '=' :: value.toList) := by
    simp [attached]
  have hname : ∀ c ∈ name.toList, decide (c ≠ '=') = true := by
    intro c hc
    exact decide_eq_true fun heq => h (heq ▸ hc)
  have htake : (name.toList ++ '=' :: value.toList).takeWhile (fun c => decide (c ≠ '='))
      = name.toList := by
    rw [List.takeWhile_append_of_pos hname]
    simp
  have hdrop : (name.toList ++ '=' :: value.toList).dropWhile (fun c => decide (c ≠ '='))
      = '=' :: value.toList := by
    rw [List.dropWhile_append_of_pos hname]
    simp
  unfold Word.ofString
  rw [hchars]
  split
  next heq => simp at heq
  next rest hne heq =>
    obtain rfl : rest = name.toList ++ '=' :: value.toList := by simpa using heq.symm
    dsimp only
    rw [htake, hdrop]
    simp
  next letter letters _ hne heq =>
    have hletter : '-' = letter := (List.cons.inj (List.cons.inj heq).2).1
    exact absurd hletter.symm hne
  next hne => exact (hne _ _ rfl).elim

/-! ## Taking an option -/

section

variable {shapes : List OptionShape} {shape : OptionShape} {value : String} {given : Given}

/-- The option is one of these, is found by its long name, and takes a value. -/
structure OptionShape.Offered (shapes : List OptionShape) (shape : OptionShape) : Prop where
  found : shapes.find? (fun other => other.long = shape.long) = some shape
  named : '=' ∉ shape.long.toList
  takesValue : shape.takesValue = true
  /-- The option does not end the reading. -/
  goesOn : shape.key ≠ .version ∧ shape.key ≠ .help

theorem lookup_cons_ite (option : Key × String) (rest : Given) (key : Key) :
    (option :: rest).lookup key = if key = option.1 then some option.2 else rest.lookup key := by
  obtain ⟨other, value⟩ := option
  rw [List.lookup_cons]
  by_cases hkey : key = other
  · rw [hkey, beq_self_eq_true, if_pos rfl]
  · rw [beq_false_of_ne hkey, if_neg hkey]

theorem has_append (given : Given) (option : Key × String) (key : Key) :
    Given.has (given ++ [option]) key = (given.has key || option.1 == key) := by
  obtain ⟨other, value⟩ := option
  rw [Given.has, Given.value?, List.lookup_append, Given.has, Given.value?, lookup_cons_ite,
    Option.isSome_or]
  by_cases hkey : key = other
  · simp [hkey]
  · simp [hkey, Ne.symm hkey]

/-- An option that is new, or may come again, is taken in with any value of its shape. -/
theorem OptionShape.Offered.accept (h : shape.Offered shapes)
    (hnew : given.has shape.key = true → shape.repeats = true)
    (hadmits : shape.value.admits value = true) :
    shape.accept value given = .ok (given ++ [(shape.key, value)]) := by
  have hrepeated : (given.has shape.key && !shape.repeats) = false := by
    cases hhas : given.has shape.key with
    | false => rfl
    | true => rw [hnew hhas]; rfl
  rw [OptionShape.accept, if_neg h.goesOn.1, if_neg h.goesOn.2, hrepeated, hadmits]
  rfl

theorem OptionShape.Offered.takeLong (h : shape.Offered shapes) (value : String) (given : Given) :
    takeLong shapes given shape.long (some value)
      = (shape.accept value given).map fun given => (given, none) := by
  rw [CommandLine.takeLong, h.found]
  dsimp only
  rw [h.takesValue]

theorem takeWords_long {word name : String} (h : Word.ofString word = .long name (some value))
    (commands rest : List String) :
    takeWords shapes commands (given, none) (word :: rest) = (takeLong shapes given name
      (some value)).bind fun progress => takeWords shapes commands progress rest := by
  rw [takeWords.eq_def]
  simp only [h]

/-- **Words with attached values are read as the options they are.** -/
theorem takeWords_attached (shapes : List OptionShape) (commands : List String) :
    ∀ (options : List (OptionShape × String)) (given : Given),
      (∀ option ∈ options, option.1.Offered shapes ∧ option.1.value.admits option.2 = true) →
      (∀ option ∈ options, given.has option.1.key = true → option.1.repeats = true) →
      options.Pairwise (fun first second =>
        first.1.key = second.1.key → second.1.repeats = true) →
      takeWords shapes commands (given, none)
          (options.map fun option => attached option.1.long option.2)
        = .ok (given ++ options.map fun option => (option.1.key, option.2), none)
  | [], given, _, _, _ => by
      rw [List.map_nil, List.map_nil, List.append_nil, takeWords]
  | (shape, value) :: rest, given, hoffered, hnew, hapart => by
      obtain ⟨⟨hshape, hadmits⟩, hrest⟩ := List.forall_mem_cons.1 hoffered
      obtain ⟨hfirst, hlater⟩ := List.forall_mem_cons.1 hnew
      obtain ⟨hbehind, hapart⟩ := List.pairwise_cons.1 hapart
      have hnext : ∀ option ∈ rest,
          Given.has (given ++ [(shape.key, value)]) option.1.key = true →
            option.1.repeats = true := by
        intro option hoption hhas
        rw [has_append, Bool.or_eq_true, beq_iff_eq] at hhas
        rcases hhas with hhas | hsame
        · exact hlater option hoption hhas
        · exact hbehind option hoption hsame
      rw [List.map_cons, takeWords_long (Word.ofString_attached hshape.named value),
        hshape.takeLong, hshape.accept hfirst hadmits]
      show takeWords shapes commands (given ++ [(shape.key, value)], none) _ = _
      rw [takeWords_attached shapes commands rest _ hrest hnext hapart, List.append_assoc]
      rfl

end

/-! ## Requests to draw a class -/

/-- The options that may stand behind the command. -/
def renderShapes : List OptionShape :=
  globalOptions ++ (commandOptions.lookup "render").getD []

/-- How an option of the command is written. -/
def renderShape (key : Key) : OptionShape :=
  (renderShapes.find? fun shape => shape.key = key).getD manifestOption

/-- The options of the command itself. -/
def renderKeys : List Key :=
  [.assembly, .className, .qualifier, .manifest, .output, .copyTo, .rootType]

theorem offered_renderShape {key : Key} (h : key ∈ renderKeys) :
    (renderShape key).Offered renderShapes ∧ (renderShape key).key = key := by
  simp only [renderKeys, List.mem_cons, List.not_mem_nil, or_false] at h
  rcases h with rfl | rfl | rfl | rfl | rfl | rfl | rfl <;>
    exact ⟨⟨rfl, by decide, rfl, by decide⟩, rfl⟩

/-- All that can be chosen about a diagram and where it goes. -/
structure RenderRequest where
  manifest : Option String := none
  assembly : String
  className : String
  output : Option String := none
  copyTo : Option String := none
  labels : LabelStyle := .byNamespace
  /-- Further base types that no line is drawn to. -/
  roots : List String := []

/-- The name of a label style in the options. -/
def labelWord : LabelStyle → String
  | .byNamespace => "namespace"
  | .byAssembly => "assembly"
  | .bare => "bare"

namespace RenderRequest

/-- The style that is asked for. -/
def style (request : RenderRequest) : DiagramStyle :=
  request.roots.foldl DiagramStyle.addRoot { labels := request.labels }

/-- The command that is asked for. -/
def command (request : RenderRequest) : Command :=
  .render request.manifest request.assembly request.className request.output request.copyTo
    request.style

/-- The options of the request. -/
def options (request : RenderRequest) : Given :=
  [(.assembly, request.assembly), (.className, request.className),
    (.qualifier, labelWord request.labels)]
    ++ request.manifest.toList.map (Key.manifest, ·)
    ++ request.output.toList.map (Key.output, ·)
    ++ request.copyTo.toList.map (Key.copyTo, ·)
    ++ request.roots.map (Key.rootType, ·)

/-- The request in words. -/
def words (request : RenderRequest) : List String :=
  "render" :: request.options.map fun option => attached (renderShape option.1).long option.2

/-- No path that is given is empty. -/
def HasPaths (request : RenderRequest) : Prop :=
  request.manifest ≠ some "" ∧ request.output ≠ some "" ∧ request.copyTo ≠ some ""

example : words { assembly := "Zoo", className := "Dog", roots := ["Thing"] }
    = ["render", "--assembly=Zoo", "--class=Dog", "--qualifier=namespace",
        "--root-type=Thing"] := by
  decide

variable {request : RenderRequest}

theorem ofName?_labelWord (labels : LabelStyle) :
    LabelStyle.ofName? (labelWord labels) = some labels := by
  cases labels <;> rfl

/-! ### What is found among the options -/

theorem lookup_map_mk (values : List String) (key other : Key) :
    (values.map (Prod.mk key)).lookup other = if other = key then values.head? else none := by
  induction values with
  | nil => simp
  | cons value rest ih =>
      rw [List.map_cons, lookup_cons_ite, ih]
      by_cases hkey : other = key
      · rw [if_pos hkey, if_pos hkey, List.head?_cons]
      · rw [if_neg hkey, if_neg hkey, if_neg hkey]

theorem values_map_mk (values : List String) (key other : Key) :
    Given.values (values.map (Prod.mk key)) other = if key = other then values else [] := by
  by_cases hkey : key = other
  · simp [Given.values, hkey, List.filter_map, Function.comp_def]
  · simp [Given.values, hkey, List.filter_map, Function.comp_def]

theorem values_append (given more : Given) (key : Key) :
    Given.values (given ++ more) key = given.values key ++ Given.values more key := by
  rw [Given.values, List.filter_append, List.map_append]
  rfl

/-- What the options of a request say about each key. -/
theorem value?_options (request : RenderRequest) (key : Key) :
    request.options.value? key = match key with
      | .assembly => some request.assembly
      | .className => some request.className
      | .qualifier => some (labelWord request.labels)
      | .manifest => request.manifest
      | .output => request.output
      | .copyTo => request.copyTo
      | .rootType => request.roots.head?
      | _ => none := by
  rw [Given.value?, options, List.lookup_append, List.lookup_append, List.lookup_append,
    List.lookup_append, lookup_map_mk, lookup_map_mk, lookup_map_mk, lookup_map_mk]
  cases key <;> simp [lookup_cons_ite]

theorem values_options (request : RenderRequest) :
    request.options.values .rootType = request.roots := by
  rw [options, values_append, values_append, values_append, values_append, values_map_mk,
    values_map_mk, values_map_mk, values_map_mk]
  simp [Given.values]

theorem style_options (request : RenderRequest) : request.options.style = request.style := by
  rw [Given.style, values_options, value?_options, Option.bind_some, ofName?_labelWord]
  rfl

theorem command_options (request : RenderRequest) :
    request.options.command "render" = .ok request.command := by
  unfold Given.command
  rw [Given.need, Given.need, value?_options, value?_options, value?_options, value?_options,
    value?_options, style_options]
  rfl

/-! ### Reading the words -/

theorem mem_options {key : Key} {value : String} (h : (key, value) ∈ request.options) :
    key = .assembly ∨ key = .className ∨ key = .qualifier ∧ value = labelWord request.labels
      ∨ key = .manifest ∧ request.manifest = some value
      ∨ key = .output ∧ request.output = some value
      ∨ key = .copyTo ∧ request.copyTo = some value ∨ key = .rootType := by
  simp only [options, List.mem_append, List.mem_cons, List.not_mem_nil, or_false, List.mem_map,
    Option.mem_toList, Prod.mk.injEq] at h
  grind

theorem mem_renderKeys_of_mem_options {key : Key} {value : String}
    (h : (key, value) ∈ request.options) : key ∈ renderKeys := by
  rcases mem_options h with rfl | rfl | ⟨rfl, -⟩ | ⟨rfl, -⟩ | ⟨rfl, -⟩ | ⟨rfl, -⟩ | rfl <;> decide

/-- Every option of a request may have the value that it has. -/
theorem admits_of_mem_options (hpaths : request.HasPaths) {key : Key} {value : String}
    (h : (key, value) ∈ request.options) : (renderShape key).value.admits value = true := by
  obtain ⟨hmanifest, houtput, hcopyTo⟩ := hpaths
  rcases mem_options h with rfl | rfl | ⟨rfl, rfl⟩ | ⟨rfl, hvalue⟩ | ⟨rfl, hvalue⟩
    | ⟨rfl, hvalue⟩ | rfl
  · rfl
  · rfl
  · cases request.labels <;> rfl
  · exact decide_eq_true fun hempty => hmanifest (hempty ▸ hvalue)
  · exact decide_eq_true fun hempty => houtput (hempty ▸ hvalue)
  · exact decide_eq_true fun hempty => hcopyTo (hempty ▸ hvalue)
  · rfl

/-- No option but that for further roots comes twice. -/
theorem pairwise_options (request : RenderRequest) : request.options.Pairwise
    (fun first second => first.1 = second.1 → second.1 = .rootType) := by
  have hroots : (request.roots.map (Key.rootType, ·)).Pairwise
      (fun first second => first.1 = second.1 → second.1 = .rootType) :=
    List.pairwise_map.2 (List.pairwise_of_forall fun _ _ _ => rfl)
  rw [options]
  cases request.manifest <;> cases request.output <;> cases request.copyTo <;>
    simp [hroots]

/-- **Every request can be put into words.** -/
theorem ofWords_words (h : request.HasPaths) :
    Invocation.ofWords request.words = .ok { command := request.command } := by
  have hshape : ∀ option ∈ request.options, (renderShape option.1).Offered renderShapes
      ∧ (renderShape option.1).key = option.1 :=
    fun option hoption => offered_renderShape (mem_renderKeys_of_mem_options hoption)
  have hgiven : (request.options.map fun option => (renderShape option.1, option.2)).map
      (fun option => (option.1.key, option.2)) = request.options := by
    rw [List.map_map]
    refine (List.map_congr_left fun option hoption => ?_).trans (List.map_id _)
    exact Prod.ext (hshape option hoption).2 rfl
  have hrest : takeWords renderShapes [] ([], none) request.words.tail
      = .ok (request.options, none) := by
    have htaken := takeWords_attached renderShapes []
      (request.options.map fun option => (renderShape option.1, option.2)) [] ?_ ?_ ?_
    · rwa [hgiven, List.nil_append, List.map_map] at htaken
    · intro option hoption
      obtain ⟨known, hknown, rfl⟩ := List.mem_map.1 hoption
      exact ⟨(hshape known hknown).1, admits_of_mem_options h hknown⟩
    · intro option _ hhas
      exact absurd hhas Bool.false_ne_true
    · refine List.pairwise_map.2 (request.pairwise_options.imp_of_mem ?_)
      intro first second hfirst hsecond hapart hkeys
      -- two options of one shape have one key, and only further roots come again
      dsimp only at hkeys ⊢
      rw [(hshape first hfirst).2, (hshape second hsecond).2] at hkeys
      rw [hapart hkeys]
      rfl
  have hcommand : takeWords programOptions commandNames ([], none) request.words
      = .ok ([], some ("render", request.words.tail)) := by
    rw [words, takeWords.eq_def]
    rfl
  have hverbose : request.options.has .verbose = false := by
    rw [Given.has, value?_options]
    rfl
  rw [Invocation.ofWords, hcommand]
  show (takeWords renderShapes [] ([], none) request.words.tail).bind _ = _
  rw [hrest]
  show (do .ok (Invocation.mk (Given.has (request.options ++ []) .verbose)
    (Given.value? (request.options ++ []) .logFormat) (← request.options.command "render"))) = _
  rw [List.append_nil, hverbose, value?_options, command_options]
  rfl

end RenderRequest

end ClassDiagram.CommandLine
