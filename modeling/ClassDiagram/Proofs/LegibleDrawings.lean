import ClassDiagram.Drawing
import ClassDiagram.Proofs.MemberOrder
import ClassDiagram.Proofs.TextLines

/-!
# Diagrams can be read

The text of a diagram says what was drawn. Two drawings with the same text are the same, as long as
they are made of what source code is made of (`Drawing.IsLegible`): names without blanks and
parentheses, and types on one line. How many lines there are is told by the drawing
(`DiagramStyle.text_draw_eq_iff`).

The text is taken apart from the outside to the inside. Line feeds part the lines, and an empty line
parts the connections from the rows. In a line a blank ends a name, because no name has one, and an
opening parenthesis ends the name of a method. A signature may hold parentheses and colons of its
own, so it goes on to the last `) : ` of its line, and that is why a return type must not have one.
-/

namespace ClassDiagram

/-! ## Rows -/

/-- The signs that stand in front of a method. -/
def Access.signs : List Char :=
  ['+', '-', '#', '~']

theorem Access.toList_sign (access : Access) (kind : NodeKind) :
    (access.sign kind).toList = [] ∨ ∃ c ∈ signs, (access.sign kind).toList = [c] := by
  cases access with
  | ownType => exact .inr ⟨'-', by decide, by simp [sign]⟩
  | derivedTypes => exact .inr ⟨'#', by decide, by simp [sign]⟩
  | sameAssembly => exact .inr ⟨'~', by decide, by simp [sign]⟩
  | everyone => exact .inr ⟨'+', by decide, by simp [sign]⟩
  | undeclared =>
      by_cases hkind : kind = .interface
      · exact .inl (by simp [sign, hkind])
      · exact .inr ⟨'-', by decide, by simp [sign, hkind]⟩

theorem Access.mem_signs {access : Access} {kind : NodeKind} {c : Char}
    (h : c ∈ (access.sign kind).toList) : c ∈ signs := by
  rcases access.toList_sign kind with hnone | ⟨d, hd, hsome⟩
  · rw [hnone] at h
    exact absurd h List.not_mem_nil
  · rw [hsome] at h
    exact List.mem_singleton.1 h ▸ hd

namespace ValueRow

/-- A field or property that source code can declare. -/
structure IsLegible (row : ValueRow) : Prop where
  name : Text.IsWord row.name
  type : Text.IsOneLine row.type

/-- What the line of a field or property says. -/
def text (row : ValueRow) : String :=
  row.name ++ " : " ++ row.type

variable {row row' : ValueRow}

theorem toList_text (row : ValueRow) :
    row.text.toList = row.name.toList ++ ' ' :: ([':', ' '] ++ row.type.toList) := by
  rw [text, String.toList_append, String.toList_append, List.append_assoc]
  rfl

theorem isOneLine_text (h : row.IsLegible) : Text.IsOneLine row.text :=
  (h.name.isOneLine.append (by decide)).append h.type

/-- A name and a type are parted by the first blank. -/
theorem eq_of_text_eq (h : row.IsLegible) (h' : row'.IsLegible) (heq : row.text = row'.text) :
    row = row' := by
  have hchars := congrArg String.toList heq
  rw [toList_text, toList_text] at hchars
  obtain ⟨hname, hrest⟩ :=
    Text.cut_at_first h.name.space_notMem h'.name.space_notMem hchars
  have htype := List.append_cancel_left hrest
  rcases row with ⟨name, type⟩
  rcases row' with ⟨name', type'⟩
  obtain rfl : name = name' := String.toList_inj.1 hname
  obtain rfl : type = type' := String.toList_inj.1 htype
  rfl

end ValueRow

namespace MethodRow

/-- A method that source code can declare. -/
structure IsLegible (row : MethodRow) : Prop where
  sign : ∃ (access : Access) (kind : NodeKind), row.sign = access.sign kind
  name : Text.IsWord row.name
  /-- The name does not begin with a sign of its own. -/
  unsigned : ∀ c ∈ row.name.toList.head?, c ∉ Access.signs
  signature : Text.IsOneLine row.signature
  returnType : Text.IsOneLine row.returnType
  /-- The return type does not look as if it began once more. -/
  begun : ¬ ") : ".toList <:+: row.returnType.toList

/-- What the line of a method says. -/
def text (row : MethodRow) : String :=
  row.sign ++ row.name ++ "(" ++ row.signature ++ ") : " ++ row.returnType

variable {row row' : MethodRow}

theorem toList_text (row : MethodRow) :
    row.text.toList = (row.sign.toList ++ row.name.toList)
      ++ '(' :: (row.signature.toList ++ ')' :: ([' ', ':', ' '] ++ row.returnType.toList)) := by
  unfold text
  simp only [String.toList_append, List.append_assoc]
  rfl

theorem IsLegible.mem_signs (h : row.IsLegible) {c : Char} (hc : c ∈ row.sign.toList) :
    c ∈ Access.signs := by
  obtain ⟨access, kind, hsign⟩ := h.sign
  exact Access.mem_signs (hsign ▸ hc)

theorem isOneLine_text (h : row.IsLegible) : Text.IsOneLine row.text := by
  have hsign : Text.IsOneLine row.sign := fun hmem => absurd (h.mem_signs hmem) (by decide)
  have hfront : Text.IsOneLine (row.sign ++ row.name ++ "(") :=
    (hsign.append h.name.isOneLine).append (by decide)
  exact ((hfront.append h.signature).append (by decide)).append h.returnType

/-- A sign is told from the name behind it. -/
theorem sign_name_eq (h : row.IsLegible) (h' : row'.IsLegible)
    (heq : row.sign.toList ++ row.name.toList = row'.sign.toList ++ row'.name.toList) :
    row.sign.toList = row'.sign.toList ∧ row.name.toList = row'.name.toList := by
  obtain ⟨access, kind, hsign⟩ := h.sign
  obtain ⟨access', kind', hsign'⟩ := h'.sign
  rw [hsign, hsign'] at heq ⊢
  rcases access.toList_sign kind with hnone | ⟨c, hc, hsome⟩ <;>
    rcases access'.toList_sign kind' with hnone' | ⟨c', hc', hsome'⟩
  · rw [hnone, hnone'] at heq ⊢
    exact ⟨rfl, heq⟩
  · rw [hnone, hsome'] at heq
    have hhead : c' ∈ row.name.toList.head? := congrArg List.head? heq
    exact absurd hc' (h.unsigned c' hhead)
  · rw [hsome, hnone'] at heq
    have hhead : c ∈ row'.name.toList.head? := congrArg List.head? heq.symm
    exact absurd hc (h'.unsigned c hhead)
  · rw [hsome, hsome'] at heq ⊢
    obtain ⟨rfl, hname⟩ := List.cons.inj heq
    exact ⟨rfl, hname⟩

theorem parenthesis_notMem (h : row.IsLegible) :
    '(' ∉ row.sign.toList ++ row.name.toList := by
  intro hmem
  rcases List.mem_append.1 hmem with hsign | hname
  · exact absurd (h.mem_signs hsign) (by decide)
  · exact h.name.noParenthesis.1 hname

/-- A name goes up to the first parenthesis, and a signature up to the last `) : `. -/
theorem eq_of_text_eq (h : row.IsLegible) (h' : row'.IsLegible) (heq : row.text = row'.text) :
    row = row' := by
  have hchars := congrArg String.toList heq
  rw [toList_text, toList_text] at hchars
  obtain ⟨hfront, hrest⟩ :=
    Text.cut_at_first (parenthesis_notMem h) (parenthesis_notMem h') hchars
  have hmark : ')' ∉ [' ', ':', ' '] := by decide
  obtain ⟨hsignature, hreturnType⟩ := Text.cut_at_last hmark h.begun h'.begun hrest
  obtain ⟨hsign, hname⟩ := sign_name_eq h h' hfront
  rcases row with ⟨sign, name, signature, returnType⟩
  rcases row' with ⟨sign', name', signature', returnType'⟩
  obtain rfl : sign = sign' := String.toList_inj.1 hsign
  obtain rfl : name = name' := String.toList_inj.1 hname
  obtain rfl : signature = signature' := String.toList_inj.1 hsignature
  obtain rfl : returnType = returnType' := String.toList_inj.1 hreturnType
  rfl

end MethodRow

namespace Row

/-- A row that source code can give rise to. -/
def IsLegible : Row → Prop
  | field row | property row => row.IsLegible
  | method row => row.IsLegible

/-- The line of a row. -/
def line : Row → String
  | field row => Drawing.fieldLine row
  | property row => Drawing.propertyLine row
  | method row => Drawing.methodLine row

/-- What a line begins with. It tells which kind of row the line shows. -/
def mark : Row → String
  | field _ => "    \x7bfield\x7d -"
  | property _ => "    \x7bfield\x7d +"
  | method _ => "    \x7bmethod\x7d "

/-- What stands behind the mark. -/
def text : Row → String
  | field row | property row => row.text
  | method row => row.text

/-- The row as a field, if it is one. -/
def field? : Row → Option ValueRow
  | field row => some row
  | _ => none

/-- The row as a property, if it is one. -/
def property? : Row → Option ValueRow
  | property row => some row
  | _ => none

/-- The row as a method, if it is one. -/
def method? : Row → Option MethodRow
  | method row => some row
  | _ => none

variable {row row' : Row}

theorem length_mark (row : Row) : row.mark.toList.length = 13 := by
  cases row <;> simp [mark]

theorem toList_line (row : Row) : row.line.toList = row.mark.toList ++ row.text.toList := by
  cases row with
  | field row =>
      unfold line Drawing.fieldLine mark text ValueRow.text
      simp only [String.toList_append, List.append_assoc]
  | property row =>
      unfold line Drawing.propertyLine mark text ValueRow.text
      simp only [String.toList_append, List.append_assoc]
  | method row =>
      unfold line Drawing.methodLine mark text MethodRow.text
      simp only [String.toList_append, List.append_assoc]

theorem isOneLine_line (h : row.IsLegible) : Text.IsOneLine row.line := by
  have hmark : '\n' ∉ row.mark.toList := by
    cases row <;> simp [mark]
  have htext : Text.IsOneLine row.text := by
    cases row with
    | field row => exact ValueRow.isOneLine_text h
    | property row => exact ValueRow.isOneLine_text h
    | method row => exact MethodRow.isOneLine_text h
  rw [Text.IsOneLine, toList_line, List.mem_append]
  exact not_or.2 ⟨hmark, htext⟩

/-- **A line shows one row only.** -/
theorem line_injective (h : row.IsLegible) (h' : row'.IsLegible) (heq : row.line = row'.line) :
    row = row' := by
  have hchars := congrArg String.toList heq
  rw [toList_line, toList_line] at hchars
  -- the marks are equally long, so they are equal, and the rows are of one kind
  obtain ⟨hmark, htext⟩ := List.append_inj hchars (by rw [length_mark, length_mark])
  rw [String.toList_inj] at hmark htext
  cases row with
  | field row =>
      cases row' with
      | field row' => exact congrArg field (ValueRow.eq_of_text_eq h h' htext)
      | property row' => exact absurd hmark (by simp [mark])
      | method row' => exact absurd hmark (by simp [mark])
  | property row =>
      cases row' with
      | field row' => exact absurd hmark (by simp [mark])
      | property row' => exact congrArg property (ValueRow.eq_of_text_eq h h' htext)
      | method row' => exact absurd hmark (by simp [mark])
  | method row =>
      cases row' with
      | field row' => exact absurd hmark (by simp [mark])
      | property row' => exact absurd hmark (by simp [mark])
      | method row' => exact congrArg method (MethodRow.eq_of_text_eq h h' htext)

theorem map_line_injective {rows rows' : List Row} (h : ∀ row ∈ rows, row.IsLegible)
    (h' : ∀ row ∈ rows', row.IsLegible) (heq : rows.map line = rows'.map line) : rows = rows' := by
  induction rows generalizing rows' with
  | nil => exact (List.map_eq_nil_iff.1 heq.symm).symm
  | cons row rest ih =>
      cases rows' with
      | nil => exact absurd heq (by simp)
      | cons row' rest' =>
          obtain ⟨hfirst, hrest⟩ := List.cons.inj heq
          obtain ⟨hrow, hothers⟩ := List.forall_mem_cons.1 h
          obtain ⟨hrow', hothers'⟩ := List.forall_mem_cons.1 h'
          rw [line_injective hrow hrow' hfirst, ih hothers hothers' hrest]

end Row

namespace MemberRows

theorem fields_eq (rows : MemberRows) : rows.all.filterMap Row.field? = rows.fields := by
  simp [all, List.filterMap_append, List.filterMap_map, Function.comp_def, Row.field?]

theorem properties_eq (rows : MemberRows) : rows.all.filterMap Row.property? = rows.properties := by
  simp [all, List.filterMap_append, List.filterMap_map, Function.comp_def, Row.property?]

theorem methods_eq (rows : MemberRows) : rows.all.filterMap Row.method? = rows.methods := by
  simp [all, List.filterMap_append, List.filterMap_map, Function.comp_def, Row.method?]

/-- The rows in one list tell which of them are fields, properties and methods. -/
theorem all_injective {rows rows' : MemberRows} (heq : rows.all = rows'.all) : rows = rows' := by
  have hfields := rows.fields_eq
  have hproperties := rows.properties_eq
  have hmethods := rows.methods_eq
  rw [heq, fields_eq] at hfields
  rw [heq, properties_eq] at hproperties
  rw [heq, methods_eq] at hmethods
  rcases rows with ⟨fields, properties, methods⟩
  rcases rows' with ⟨fields', properties', methods'⟩
  obtain rfl : fields' = fields := hfields
  obtain rfl : properties' = properties := hproperties
  obtain rfl : methods' = methods := hmethods
  rfl

/-- The lines of the rows are those of each, from top to bottom. -/
theorem rowLines_eq (rows : MemberRows) : Drawing.rowLines rows = rows.all.map Row.line := by
  simp only [Drawing.rowLines, all, List.map_append, List.map_map]
  rfl

theorem length_rowLines (rows : MemberRows) : (Drawing.rowLines rows).length = rows.size := by
  simp only [Drawing.rowLines, size, List.length_append, List.length_map]

end MemberRows

/-! ## Connections -/

namespace Drawing

variable {label base interface : String} {connections connections' : Connections}

theorem length_connectionLines (label : String) (connections : Connections) :
    (connectionLines label connections).length
      = connections.base.toList.length + 2 * connections.interfaces.length := by
  rcases connections with ⟨base, interfaces⟩
  have hinterfaces : (interfaces.flatMap (interfaceLines label)).length
      = 2 * interfaces.length := by
    induction interfaces with
    | nil => rfl
    | cons interface rest ih =>
        rw [List.flatMap_cons, List.length_append, ih, List.length_cons]
        simp only [interfaceLines, List.length_cons, List.length_nil]
        omega
  rw [connectionLines, List.length_append, hinterfaces]
  cases base <;> rfl

theorem connectionLines_cases {line : String} (h : line ∈ connectionLines label connections) :
    (∃ base, connections.base = some base ∧ line = baseLine label base)
      ∨ ∃ interface ∈ connections.interfaces, line ∈ interfaceLines label interface := by
  rcases List.mem_append.1 h with hbase | hinterface
  · rw [Option.mem_toList, Option.map_eq_some_iff] at hbase
    obtain ⟨base, hbase, rfl⟩ := hbase
    exact .inl ⟨base, hbase, rfl⟩
  · exact .inr (List.mem_flatMap.1 hinterface)

/-- A line that declares an interface is not taken for the line to a base: its second word is an
interface, and that of the other is an arrow with a base behind it. -/
theorem interface_ne_baseLine (hlabel : ' ' ∉ label.toList) (hinterface : ' ' ∉ interface.toList) :
    "interface " ++ interface ≠ baseLine label base := by
  intro heq
  have hchars : "interface".toList ++ ' ' :: interface.toList
      = label.toList ++ ' ' :: ("--|> ".toList ++ base.toList) := by
    have hchars := congrArg String.toList heq
    simp only [baseLine, String.toList_append, List.append_assoc] at hchars
    exact hchars
  have hword : ' ' ∉ "interface".toList := by decide
  obtain ⟨-, hrest⟩ := Text.cut_at_first hword hlabel hchars
  have harrow : ' ' ∈ "--|> ".toList := by decide
  exact hinterface (hrest ▸ List.mem_append_left _ harrow)

theorem interfaces_eq {interfaces interfaces' : List String}
    (heq : interfaces.flatMap (interfaceLines label) = interfaces'.flatMap (interfaceLines label)) :
    interfaces = interfaces' := by
  induction interfaces generalizing interfaces' with
  | nil =>
      cases interfaces' with
      | nil => rfl
      | cons interface' rest' => exact absurd heq (by simp [interfaceLines])
  | cons interface rest ih =>
      cases interfaces' with
      | nil => exact absurd heq (by simp [interfaceLines])
      | cons interface' rest' =>
          rw [List.flatMap_cons, List.flatMap_cons] at heq
          obtain ⟨hfirst, hrest⟩ := List.append_inj heq rfl
          have hname := String.append_right_inj _ |>.1 (List.cons.inj hfirst).1
          rw [hname, ih hrest]

/-- Interfaces alone do not look like a base with interfaces behind it. -/
theorem flatMap_ne_base_cons {interfaces rest : List String} (hlabel : ' ' ∉ label.toList)
    (hinterfaces : ∀ interface ∈ interfaces, ' ' ∉ interface.toList) :
    interfaces.flatMap (interfaceLines label) ≠ baseLine label base :: rest := by
  intro heq
  cases interfaces with
  | nil => exact absurd heq (by simp)
  | cons interface others =>
      obtain ⟨hfirst, -⟩ := List.cons.inj heq
      exact interface_ne_baseLine hlabel (hinterfaces _ List.mem_cons_self) hfirst

/-- **The lines of the connections tell what they are.** -/
theorem connections_eq (hlabel : ' ' ∉ label.toList)
    (h : ∀ interface ∈ connections.interfaces, ' ' ∉ interface.toList)
    (h' : ∀ interface ∈ connections'.interfaces, ' ' ∉ interface.toList)
    (heq : connectionLines label connections = connectionLines label connections') :
    connections = connections' := by
  rcases connections with ⟨base, interfaces⟩
  rcases connections' with ⟨base', interfaces'⟩
  cases base with
  | none =>
      cases base' with
      | none =>
          obtain rfl : interfaces = interfaces' := interfaces_eq heq
          rfl
      | some base' => exact absurd heq (flatMap_ne_base_cons hlabel h)
  | some base =>
      cases base' with
      | none => exact absurd heq.symm (flatMap_ne_base_cons hlabel h')
      | some base' =>
          obtain ⟨hfirst, hrest⟩ := List.cons.inj heq
          obtain rfl : base = base' := (String.append_right_inj _).1 hfirst
          obtain rfl : interfaces = interfaces' := interfaces_eq hrest
          rfl

/-! ## Drawings -/

/-- A drawing of what source code can declare. -/
structure IsLegible (drawing : Drawing) : Prop where
  label : Text.IsWord drawing.label
  base : ∀ base, drawing.connections.base = some base → Text.IsWord base
  interfaces : ∀ interface ∈ drawing.connections.interfaces, Text.IsWord interface
  rows : ∀ row ∈ drawing.rows.all, row.IsLegible

/-- The line that introduces the type. -/
def header (drawing : Drawing) : String :=
  drawing.kind.introduction ++ " " ++ drawing.label ++ " \x7b"

variable {drawing drawing' : Drawing}

theorem text_eq (drawing : Drawing) : drawing.text = Text.ofLines drawing.lines :=
  rfl

theorem lines_eq (drawing : Drawing) : drawing.lines
    = "@startuml" :: "" :: (connectionLines drawing.label drawing.connections
      ++ "" :: drawing.header :: (rowLines drawing.rows ++ ["\x7d", "", "@enduml"])) := by
  simp only [lines, header, List.append_assoc, List.cons_append, List.nil_append]

/-- There are seven lines besides those of connections and rows. -/
theorem length_lines (drawing : Drawing) : drawing.lines.length
    = 7 + drawing.connections.base.toList.length + 2 * drawing.connections.interfaces.length
      + drawing.rows.size := by
  simp only [lines_eq, List.length_cons, List.length_append, List.length_nil,
    length_connectionLines, MemberRows.length_rowLines]
  omega

theorem isOneLine_header (h : drawing.IsLegible) : Text.IsOneLine drawing.header := by
  have hkind : Text.IsOneLine drawing.kind.introduction := by
    cases drawing.kind <;> decide
  exact ((hkind.append (by decide)).append h.label.isOneLine).append (by decide)

theorem isOneLine_connection (h : drawing.IsLegible) {line : String}
    (hline : line ∈ connectionLines drawing.label drawing.connections) : Text.IsOneLine line := by
  have hlabel := h.label.isOneLine
  rcases connectionLines_cases hline with ⟨base, hbase, rfl⟩ | ⟨interface, hmem, hline⟩
  · exact (hlabel.append (by decide)).append (h.base base hbase).isOneLine
  · have hinterface := (h.interfaces interface hmem).isOneLine
    rcases List.mem_pair.1 hline with rfl | rfl
    · exact .append (by decide) hinterface
    · exact (hlabel.append (by decide)).append hinterface

/-- Whatever is in a legible drawing stays on its line. -/
theorem isOneLine_of_mem_lines (h : drawing.IsLegible) :
    ∀ line ∈ drawing.lines, Text.IsOneLine line := by
  rw [lines_eq, MemberRows.rowLines_eq]
  simp only [List.forall_mem_cons, List.forall_mem_append, List.forall_mem_map]
  refine ⟨by decide, by decide, fun _ => isOneLine_connection h, by decide, isOneLine_header h,
    fun row hrow => Row.isOneLine_line (h.rows row hrow), by decide⟩

/-- A header ends with a label, and no label has a blank. -/
theorem header_injective (h : ' ' ∉ drawing.label.toList) (h' : ' ' ∉ drawing'.label.toList)
    (heq : drawing.header = drawing'.header) :
    drawing.kind = drawing'.kind ∧ drawing.label = drawing'.label := by
  have hchars : drawing.kind.introduction.toList ++ ' ' :: ([] ++ drawing.label.toList)
      = drawing'.kind.introduction.toList ++ ' ' :: ([] ++ drawing'.label.toList) := by
    have hchars := congrArg String.toList ((String.append_left_inj _).1 heq)
    simp only [String.toList_append, List.append_assoc] at hchars
    exact hchars
  have hlast : ∀ {label : List Char}, ' ' ∉ label → ¬ [' '] <:+: label :=
    fun hlabel hpart => hlabel (hpart.subset (List.mem_singleton_self _))
  obtain ⟨hkind, hlabel⟩ := Text.cut_at_last List.not_mem_nil (hlast h) (hlast h') hchars
  refine ⟨?_, String.toList_inj.1 hlabel⟩
  have hwords := String.toList_inj.1 hkind
  cases hdrawing : drawing.kind <;> cases hdrawing' : drawing'.kind <;>
    simp [hdrawing, hdrawing', NodeKind.introduction] at hwords ⊢

/-- No line of the connections is empty, so the first empty line ends them. -/
theorem empty_notMem_connectionLines (label : String) (connections : Connections) :
    "" ∉ connectionLines label connections := by
  intro hmem
  rcases connectionLines_cases hmem with ⟨base, -, hline⟩ | ⟨interface, -, hline⟩
  · exact absurd (congrArg String.toList hline) (by simp [baseLine])
  · rcases List.mem_pair.1 hline with hline | hline
    · exact absurd (congrArg String.toList hline) (by simp)
    · exact absurd (congrArg String.toList hline) (by simp)

/-- **Lines that are the same show the same.** -/
theorem lines_injective (h : drawing.IsLegible) (h' : drawing'.IsLegible)
    (heq : drawing.lines = drawing'.lines) : drawing = drawing' := by
  rw [lines_eq, lines_eq] at heq
  obtain ⟨-, heq⟩ := List.cons.inj heq
  obtain ⟨-, heq⟩ := List.cons.inj heq
  obtain ⟨hconnections, hrest⟩ := Text.cut_at_first (empty_notMem_connectionLines _ _)
    (empty_notMem_connectionLines _ _) heq
  obtain ⟨hheader, hrest⟩ := List.cons.inj hrest
  have hrows := List.append_cancel_right hrest
  rw [MemberRows.rowLines_eq, MemberRows.rowLines_eq] at hrows
  obtain ⟨hkind, hlabel⟩ := header_injective h.label.space_notMem h'.label.space_notMem hheader
  rcases drawing with ⟨kind, label, connections, rows⟩
  rcases drawing' with ⟨kind', label', connections', rows'⟩
  obtain rfl : kind = kind' := hkind
  obtain rfl : label = label' := hlabel
  obtain rfl : connections = connections' :=
    connections_eq h.label.space_notMem (fun _ hmem => (h.interfaces _ hmem).space_notMem)
      (fun _ hmem => (h'.interfaces _ hmem).space_notMem) hconnections
  obtain rfl : rows = rows' :=
    MemberRows.all_injective (Row.map_line_injective h.rows h'.rows hrows)
  rfl

/-- **A text that is the same shows the same.** -/
theorem text_injective (h : drawing.IsLegible) (h' : drawing'.IsLegible)
    (heq : drawing.text = drawing'.text) : drawing = drawing' := by
  rw [text_eq, text_eq] at heq
  exact lines_injective h h'
    (Text.ofLines_injective (isOneLine_of_mem_lines h) (isOneLine_of_mem_lines h') heq)

/-- No line is broken, so a text has as many line feeds as there are lines. -/
theorem count_text (h : drawing.IsLegible) :
    drawing.text.toList.count '\n'
      = 7 + drawing.connections.base.toList.length + 2 * drawing.connections.interfaces.length
        + drawing.rows.size := by
  rw [← length_lines, text_eq]
  exact Text.count_ofLines (isOneLine_of_mem_lines h)

/-- The last line of a diagram has an end. -/
theorem getLast?_text (drawing : Drawing) : drawing.text.toList.getLast? = some '\n' := by
  have hlines : drawing.lines ≠ [] := by
    rw [lines_eq]
    exact List.cons_ne_nil _ _
  rw [text_eq]
  exact Text.getLast?_ofLines hlines

end Drawing

/-- **The text of a diagram says what was drawn.** Two types, drawn in whatever styles, with
whatever connections and rows, have the same text just if they are of one kind and have one label,
the same base and interfaces, and the same fields, properties and methods in the same order. There
are seven lines, each with an end, and one more for a base, two for an interface and one for a
row. -/
theorem DiagramStyle.text_draw_eq_iff {style style' : DiagramStyle} {assembly assembly' : String}
    {type type' : IndexedType} {connections connections' : Connections} {rows rows' : MemberRows}
    (h : (style.draw assembly type connections rows).IsLegible)
    (h' : (style'.draw assembly' type' connections' rows').IsLegible) :
    ((style.draw assembly type connections rows).text
        = (style'.draw assembly' type' connections' rows').text
      ↔ type.kind = type'.kind
        ∧ style.labels.label assembly type = style'.labels.label assembly' type'
        ∧ connections = connections' ∧ rows = rows')
    ∧ (style.draw assembly type connections rows).text.toList.getLast? = some '\n'
    ∧ (style.draw assembly type connections rows).text.toList.count '\n'
      = 7 + connections.base.toList.length + 2 * connections.interfaces.length + rows.size := by
  refine ⟨⟨fun heq => ?_, ?_⟩, Drawing.getLast?_text _, Drawing.count_text h⟩
  · obtain ⟨hkind, hlabel, hconnections, hrows⟩ := Drawing.mk.inj (Drawing.text_injective h h' heq)
    exact ⟨hkind, hlabel, hconnections, hrows⟩
  · rintro ⟨hkind, hlabel, rfl, rfl⟩
    unfold draw
    rw [hkind, hlabel]

/-- Rows of a kennel. The pace of a run is a function, so its type has a `) : ` of its own, and the
second method has no sign. -/
def runnerRows : MemberRows where
  fields := [⟨"age", "int"⟩]
  methods := [⟨"+", "Run", "pace : (int) : int", "void"⟩, ⟨"", "Rest", "", "(int, int)"⟩]

theorem isLegible_runnerRows : ∀ row ∈ runnerRows.all, row.IsLegible := by
  have hbegun : ∀ {text : String}, ':' ∉ text.toList → ¬ ") : ".toList <:+: text.toList :=
    fun hcolon hpart => hcolon (hpart.subset (by decide))
  have hfield : ValueRow.IsLegible ⟨"age", "int"⟩ := ⟨by decide, by decide⟩
  have hrun : MethodRow.IsLegible ⟨"+", "Run", "pace : (int) : int", "void"⟩ :=
    { sign := ⟨.everyone, .interface, rfl⟩
      name := by decide
      unsigned := by
        rintro c ⟨⟩
        decide
      signature := by decide
      returnType := by decide
      begun := hbegun (by decide) }
  have hrest : MethodRow.IsLegible ⟨"", "Rest", "", "(int, int)"⟩ :=
    { sign := ⟨.undeclared, .interface, rfl⟩
      name := by decide
      unsigned := by
        rintro c ⟨⟩
        decide
      signature := by decide
      returnType := by decide
      begun := hbegun (by decide) }
  simp only [runnerRows, MemberRows.all, List.map_cons, List.map_nil, List.append_nil,
    List.singleton_append, List.forall_mem_cons]
  exact ⟨hfield, hrun, hrest, List.forall_mem_nil _⟩

/-- A dog that is an animal is not drawn like one that is not. -/
theorem DiagramStyle.text_draw_eq_iff_runner :
    (draw {} "Kennel" barkingDog ⟨some "Animal", ["IRunner"]⟩ runnerRows).IsLegible
      ∧ (draw {} "Kennel" barkingDog ⟨none, ["IRunner"]⟩ runnerRows).IsLegible
      ∧ (draw {} "Kennel" barkingDog ⟨some "Animal", ["IRunner"]⟩ runnerRows).text
        ≠ (draw {} "Kennel" barkingDog ⟨none, ["IRunner"]⟩ runnerRows).text
      ∧ (draw {} "Kennel" barkingDog ⟨some "Animal", ["IRunner"]⟩ runnerRows).text.toList.count '\n'
        = 13 := by
  have h : (draw {} "Kennel" barkingDog ⟨some "Animal", ["IRunner"]⟩ runnerRows).IsLegible :=
    { label := by decide
      base := by
        rintro base ⟨⟩
        decide
      interfaces := by decide
      rows := isLegible_runnerRows }
  have h' : (draw {} "Kennel" barkingDog ⟨none, ["IRunner"]⟩ runnerRows).IsLegible :=
    { label := by decide
      base := by rintro base ⟨⟩
      interfaces := by decide
      rows := isLegible_runnerRows }
  obtain ⟨hiff, -, hcount⟩ := text_draw_eq_iff h h'
  refine ⟨h, h', fun heq => ?_, hcount⟩
  obtain ⟨-, -, hconnections, -⟩ := hiff.1 heq
  exact absurd hconnections (by decide)

/-- With a `) : ` in the return type, two methods may share a line. -/
example : MethodRow.text ⟨"+", "Run", "pace : (int) : int", "void"⟩
    = MethodRow.text ⟨"+", "Run", "pace : (int", "int) : void"⟩ := by decide

end ClassDiagram
