import Mathlib.Algebra.BigOperators.Group.List.Basic
import ShadingGraph.Proofs.AssemblyCompleteness
import ShadingGraph.Proofs.Gradient

/-! # Lines of rendered fragments

A fragment is written line by line, with a line feed behind each line. Who reads the text finds
these lines again as long as none of them holds a line feed of its own. Identifiers, shader types,
and the literals of values hold none. The comment states the name of the node as it is, and a
numeric field that refers to a text has that text for its literal: a line feed in either of them
makes two lines out of one.
-/

namespace ShadingGraph

namespace Text

theorem dropReturn_append {front back : String} {last : Char} (ends : back.toList.getLast? = some last)
    (other : last ≠ '\r') : dropReturn (front ++ back).toList = (front ++ back).toList := by
  refine if_neg ?_
  rw [String.toList_append, List.getLast?_append, ends]
  simpa using other

theorem linesOfPieces_concat (pieces : List (List Char)) :
    linesOfPieces (pieces ++ [[]]) = pieces.map dropReturn := by
  induction pieces with
  | nil => rfl
  | cons piece rest ih =>
      obtain ⟨next, others, more⟩ : ∃ next others, rest ++ [[]] = next :: others :=
        List.exists_cons_of_ne_nil (by simp)
      rw [more] at ih
      rw [List.cons_append, more, List.map_cons, ← ih]
      rfl

theorem mem_of_mem_dropReturn {piece : List Char} {c : Char} (inside : c ∈ dropReturn piece) :
    c ∈ piece := by
  unfold dropReturn at inside
  split at inside
  · exact List.dropLast_subset piece inside
  · exact inside

theorem not_mem_of_mem_linesOfPieces {c : Char} {pieces : List (List Char)}
    (plain : ∀ piece ∈ pieces, c ∉ piece) : ∀ line ∈ linesOfPieces pieces, c ∉ line := by
  fun_induction linesOfPieces pieces with
  | case1 => exact plain
  | case2 => exact nofun
  | case3 => exact plain
  | case4 piece rest _ ih =>
      obtain ⟨here, later⟩ := List.forall_mem_cons.mp plain
      exact List.forall_mem_cons.mpr ⟨here ∘ mem_of_mem_dropReturn, ih later⟩

theorem newline_not_mem_lines (text : List Char) : ∀ line ∈ lines text, '\n' ∉ line :=
  not_mem_of_mem_linesOfPieces not_mem_of_mem_splitOn

section Written

variable (texts : List String)

/-- Texts with a line feed behind each fall apart at these and at the line feeds inside. -/
theorem lines_join : lines (String.join (texts.map (· ++ "\n"))).toList =
    (texts.flatMap (splitOn '\n' ·.toList)).map dropReturn := by
  have pieces : splitOn '\n' (String.join (texts.map (· ++ "\n"))).toList =
      texts.flatMap (splitOn '\n' ·.toList) ++ [[]] := by
    induction texts with
    | nil => rfl
    | cons text rest ih =>
        have feed : ("\n" : String).toList = ['\n'] := by decide
        rw [List.map_cons, String.join_cons, String.toList_append, String.toList_append, feed,
          List.append_assoc, List.singleton_append, splitOn_append, ih, List.flatMap_cons,
          List.append_assoc]
  rw [lines, pieces, linesOfPieces_concat]

theorem length_lines_join : (lines (String.join (texts.map (· ++ "\n"))).toList).length =
    texts.length + (texts.map (·.toList.count '\n')).sum := by
  rw [lines_join, List.length_map, List.length_flatMap]
  simp only [length_splitOn, List.sum_map_add]
  simp [Nat.add_comm]

/-- The written lines are found again when none of them holds a line feed. -/
theorem lines_join_iff : lines (String.join (texts.map (· ++ "\n"))).toList =
    texts.map (dropReturn ·.toList) ↔ ∀ text ∈ texts, '\n' ∉ text.toList := by
  constructor
  · intro found
    have count := length_lines_join texts
    rw [found, List.length_map, left_eq_add, List.sum_eq_zero_iff_forall_eq_nat] at count
    exact fun text inside => List.count_eq_zero.mp (count _ (List.mem_map_of_mem inside))
  · intro plain
    have whole : texts.flatMap (splitOn '\n' ·.toList) = texts.map (·.toList) := by
      rw [List.map_eq_flatMap]
      exact List.flatMap_congr fun text inside => splitOn_of_not_mem (plain text inside)
    rw [lines_join, whole, List.map_map]
    rfl

end Written

end Text

/-! ## Text without line feeds -/

theorem newline_not_mem_sanitize (raw : List Char) : '\n' ∉ sanitize raw := by
  have cleaned : '\n' ∉ raw.map fun c => if isIdentifierChar c then c else '_' := by
    rw [List.mem_map]
    rintro ⟨c, -, same⟩
    split at same
    · rename_i fits
      rw [same] at fits
      exact absurd fits (by decide)
    · exact absurd same (by decide)
  simp only [sanitize]
  split
  · rename_i c rest made
    rw [made] at cleaned
    split
    · exact List.not_mem_cons_of_ne_of_not_mem (by decide) cleaned
    · exact cleaned
  · exact List.not_mem_nil

theorem newline_not_mem_portIdentifier (settings : AssemblySettings) (node port : String) :
    '\n' ∉ (portIdentifier settings node port).toList := by
  rw [portIdentifier, String.toList_ofList]
  exact newline_not_mem_sanitize _

theorem newline_not_mem_append {front back : String} (first : '\n' ∉ front.toList)
    (second : '\n' ∉ back.toList) : '\n' ∉ (front ++ back).toList := by
  rw [String.toList_append, List.mem_append, not_or]
  exact ⟨first, second⟩

theorem newline_not_mem_call {function : String} {texts : List String} (name : '\n' ∉ function.toList)
    (plain : ∀ text ∈ texts, '\n' ∉ text.toList) :
    '\n' ∉ (function ++ "(" ++ String.intercalate ", " texts ++ ")").toList := by
  have inner : '\n' ∉ (String.intercalate ", " texts).toList :=
    NumericType.not_mem_intercalate (by decide) plain
  exact newline_not_mem_append (newline_not_mem_append (newline_not_mem_append name (by decide)) inner)
    (by decide)

theorem Gradient.newline_not_mem_shaderText (gradient : Gradient) :
    '\n' ∉ gradient.shaderText.toList := by
  have digits : ∀ n : Nat, '\n' ∉ (toString n).toList := fun n => by
    simpa using mark_not_mem_toDigits (by decide) n
  have call : gradient.shaderText = "NewGradient" ++ "(" ++
      String.intercalate ", " gradient.arguments ++ ")" := rfl
  rw [call]
  refine newline_not_mem_call (by decide) fun argument inside => ?_
  simp only [arguments, List.mem_append, List.mem_cons, List.not_mem_nil, or_false, List.mem_map] at inside
  rcases inside with ((rfl | rfl | rfl) | ⟨key, -, rfl⟩) | ⟨key, -, rfl⟩
  · exact digits _
  · exact digits _
  · exact digits _
  · rw [key.shaderText_eq_call]
    exact newline_not_mem_call (by decide) (mark_not_mem_numbers (by decide) _)
  · rw [key.shaderText_eq_call]
    exact newline_not_mem_call (by decide) (mark_not_mem_numbers (by decide) _)

theorem SamplerState.newline_not_mem_shaderText (state : SamplerState) :
    '\n' ∉ state.shaderText.toList := by
  have filter : '\n' ∉ (Tagged.tag state.filter).toList := by cases state.filter <;> decide
  have wrap : '\n' ∉ (Tagged.tag state.wrap).toList := by cases state.wrap <;> decide
  exact newline_not_mem_append (newline_not_mem_append (newline_not_mem_append
    (newline_not_mem_append (by decide) filter) (by decide)) wrap) (by decide)

namespace DataType

variable {type : DataType} {field : Field}

theorem newline_not_mem_shaderType (type : DataType) (field : Field) :
    '\n' ∉ (type.shaderType field).toList := by
  cases type with
  | numeric shape => exact (shape.shaderType_spec field).2 '\n' (by decide)
  | gradient | texture2D | samplerState =>
      rw [shaderType]
      decide

/-- Text that a numeric field refers to in place of its numbers. -/
def quoted? (type : DataType) (field : Field) : Option String :=
  match type with
  | .numeric _ => (field.child? Member.reference).bind Field.string?
  | _ => none

theorem exists_literal_of_quoted {quoted : String} (reference : type.quoted? field = some quoted) :
    ∃ text, type.literal? field = some text := by
  cases type with
  | numeric shape => exact ⟨shape.literal field, rfl⟩
  | gradient | texture2D | samplerState => cases reference

/-- A line feed in a literal is one in the text that the field refers to. -/
theorem newline_mem_literal_iff {text : String} (written : type.literal? field = some text) :
    '\n' ∈ text.toList ↔ ∃ quoted, type.quoted? field = some quoted ∧ '\n' ∈ quoted.toList := by
  cases type with
  | numeric shape =>
      cases written
      cases quoted : (field.child? Member.reference).bind Field.string? with
      | some reference => simp [quoted?, quoted, NumericType.literal]
      | none =>
          refine iff_of_false ?_ (by simp [quoted?, quoted])
          have plain : ∀ text ∈ field.components.map (NumericType.componentText (shape.primitiveOf field)),
              '\n' ∉ text.toList :=
            List.forall_mem_map.mpr fun value _ =>
              NumericType.mark_not_mem_componentText (by decide) _ value
          have written := shape.writesComponents quoted
          by_cases alone : field.components.length = 1
          · obtain ⟨value, held⟩ := List.length_eq_one_iff.mp alone
            rw [written.single value held]
            exact NumericType.mark_not_mem_componentText (by decide) _ value
          · rw [written.call alone]
            exact newline_not_mem_call ((shape.shaderType_spec field).2 '\n' (by decide)) plain
  | gradient =>
      obtain ⟨gradient, -, rfl⟩ := Option.map_eq_some_iff.mp written
      exact iff_of_false gradient.newline_not_mem_shaderText (by simp [quoted?])
  | texture2D => cases written
  | samplerState =>
      cases written
      exact iff_of_false (SamplerState.newline_not_mem_shaderText _) (by simp [quoted?])

end DataType

/-! ## Lines of a fragment -/

theorem Declaration.newline_mem_line_iff {settings : AssemblySettings} {declaration : Declaration}
    (indent : '\n' ∉ settings.indent.toList) (identifier : '\n' ∉ declaration.identifier.toList)
    (shaderType : '\n' ∉ declaration.shaderType.toList) :
    '\n' ∈ (declaration.line settings).toList ↔
      ∃ initializer, declaration.initializer = some initializer ∧ '\n' ∈ initializer.toList := by
  cases initialized : declaration.initializer <;>
    simp [line, indent, identifier, shaderType, initialized]

namespace Fragment

variable {settings : AssemblySettings} {fragment : Fragment}

/-- Lines that a fragment is meant to have as a text: one for each directive, the comment, one for
each declaration if there are any, and one for each line of the body. -/
def textLines (settings : AssemblySettings) (fragment : Fragment) : List (List Char) :=
  fragment.includes.map (fun file => (includeLine settings file).toList)
    ++ [fragment.comment.toList]
    ++ (if settings.emitDeclarations then
          fragment.declarations.map fun declaration => (declaration.line settings).toList
        else [])
    ++ (Text.lines fragment.body.toList).map fun line =>
      Text.dropReturn (bodyLine settings line).toList

/-- A reader of the text of a fragment finds the lines that are meant. -/
def RendersLines (settings : AssemblySettings) (fragment : Fragment) : Prop :=
  Text.lines (fragment.render settings).toList = fragment.textLines settings

/-- Only lines of the body may end in a carriage return, which a reader drops. -/
theorem textLines_eq (settings : AssemblySettings) (fragment : Fragment) :
    fragment.textLines settings = (fragment.lines settings).map (Text.dropReturn ·.toList) := by
  have directive (file : String) :
      Text.dropReturn (includeLine settings file).toList = (includeLine settings file).toList :=
    Text.dropReturn_append rfl (by decide)
  have comment : Text.dropReturn fragment.comment.toList = fragment.comment.toList :=
    Text.dropReturn_append rfl (by decide)
  have declaration (declaration : Declaration) :
      Text.dropReturn (declaration.line settings).toList = (declaration.line settings).toList :=
    Text.dropReturn_append rfl (by decide)
  simp only [textLines, lines, List.map_append, List.map_map, Function.comp_def, directive, comment,
    List.map_singleton, apply_ite (List.map _), declaration, List.map_nil]

theorem rendersLines_iff :
    fragment.RendersLines settings ↔ ∀ line ∈ fragment.lines settings, '\n' ∉ line.toList := by
  rw [RendersLines, textLines_eq]
  exact Text.lines_join_iff _

theorem dropReturn_mem_lines_render {line : String} (inside : line ∈ fragment.lines settings)
    {piece : List Char} (among : piece ∈ Text.splitOn '\n' line.toList) :
    Text.dropReturn piece ∈ Text.lines (fragment.render settings).toList := by
  rw [render, Text.lines_join]
  exact List.mem_map_of_mem (List.mem_flatMap.mpr ⟨line, inside, among⟩)

theorem comment_mem_lines (settings : AssemblySettings) (fragment : Fragment) :
    fragment.comment ∈ fragment.lines settings := by
  simp [lines]

theorem newline_not_mem_includeLine (keyword : '\n' ∉ settings.includeKeyword.toList) {file : String}
    (name : '\n' ∉ file.toList) : '\n' ∉ (includeLine settings file).toList := by
  simp [includeLine, keyword, name]

theorem newline_mem_comment_iff (variant : '\n' ∉ fragment.variant.toList) :
    '\n' ∈ fragment.comment.toList ↔ '\n' ∈ fragment.node.toList := by
  simp [comment, variant]

theorem newline_not_mem_bodyLine (indent : '\n' ∉ settings.indent.toList) {line : List Char}
    (plain : '\n' ∉ line) : '\n' ∉ (bodyLine settings line).toList := by
  unfold bodyLine
  split <;> simp [indent, plain]

/-- Where settings, files and variant hold no line feed, it is up to the name of the node and to
the declarations. -/
theorem rendersLines_iff_of_plain (indent : '\n' ∉ settings.indent.toList)
    (keyword : '\n' ∉ settings.includeKeyword.toList) (variant : '\n' ∉ fragment.variant.toList)
    (includes : ∀ file ∈ fragment.includes, '\n' ∉ file.toList) :
    fragment.RendersLines settings ↔ '\n' ∉ fragment.node.toList ∧
      (settings.emitDeclarations = true →
        ∀ declaration ∈ fragment.declarations, '\n' ∉ (declaration.line settings).toList) := by
  have directives : ∀ line ∈ fragment.includes.map (includeLine settings), '\n' ∉ line.toList :=
    List.forall_mem_map.mpr fun file inside => newline_not_mem_includeLine keyword (includes file inside)
  have body : ∀ line ∈ (Text.lines fragment.body.toList).map (bodyLine settings),
      '\n' ∉ line.toList :=
    List.forall_mem_map.mpr fun line inside =>
      newline_not_mem_bodyLine indent (Text.newline_not_mem_lines _ line inside)
  have declared : (∀ line ∈ if settings.emitDeclarations then
        fragment.declarations.map (·.line settings) else [], '\n' ∉ line.toList) ↔
      (settings.emitDeclarations = true →
        ∀ declaration ∈ fragment.declarations, '\n' ∉ (declaration.line settings).toList) := by
    cases settings.emitDeclarations <;> simp
  rw [rendersLines_iff, lines, List.forall_mem_append, List.forall_mem_append, List.forall_mem_append,
    List.forall_mem_singleton, declared, newline_mem_comment_iff variant]
  exact ⟨fun plain => ⟨plain.1.1.2, plain.1.2⟩, fun plain => ⟨⟨⟨directives, plain.1⟩, plain.2⟩, body⟩⟩

end Fragment

/-! ## Fragments of a graph -/

namespace Graph

variable {registry : Registry} {settings : AssemblySettings} {graph : Graph}

/-- The declaration of a port is initialized with a text that its field refers to. -/
structure Quotes (registry : Registry) (graph : Graph) (node : String) (port : Port) (text : String) :
    Prop where
  held : port.usage.hasInlineValue = true
  unlinked : port.usage = .input → graph.incoming? node port.name = none
  quoted : ∃ type, registry.type port.typeKey = .ok type ∧ type.quoted? port.field = some text

theorem newline_not_mem_shaderType_link {node : String} {port : Port} {declaration : Declaration}
    (declared : Assembly.declare settings registry node port = .ok declaration) :
    '\n' ∉ (Assembly.link settings graph node port declaration).shaderType.toList := by
  obtain ⟨type, -, made⟩ := Outcome.bind_eq_ok.mp declared
  cases Outcome.pure_eq_ok.mp made
  have plain := type.newline_not_mem_shaderType port.field
  unfold Assembly.link
  split
  · split <;> exact plain
  · exact plain

theorem newline_mem_initializer_iff {node : String} {port : Port} {declaration : Declaration}
    (declared : port.DeclaredAs settings registry graph node declaration) :
    (∃ initializer, declaration.initializer = some initializer ∧ '\n' ∈ initializer.toList) ↔
      ∃ text, graph.Quotes registry node port text ∧ '\n' ∈ text.toList := by
  by_cases unlinked : port.usage = .input → graph.incoming? node port.name = none
  · obtain ⟨type, known, initialized⟩ := declared.plain unlinked
    rw [initialized]
    constructor
    · rintro ⟨text, written, broken⟩
      split at written
      · rename_i held
        obtain ⟨quoted, reference, inside⟩ := (DataType.newline_mem_literal_iff written).mp broken
        exact ⟨quoted, ⟨held, unlinked, type, known, reference⟩, inside⟩
      · cases written
    · rintro ⟨quoted, ⟨held, -, _, known', reference⟩, inside⟩
      cases known.symm.trans known'
      obtain ⟨text, written⟩ := DataType.exists_literal_of_quoted reference
      rw [if_pos held]
      exact ⟨text, written, (DataType.newline_mem_literal_iff written).mpr ⟨quoted, reference, inside⟩⟩
  · refine iff_of_false ?_ fun ⟨_, quotes, _⟩ => unlinked quotes.unlinked
    push Not at unlinked
    obtain ⟨input, fed⟩ := unlinked
    obtain ⟨edge, incoming⟩ := Option.ne_none_iff_exists'.mp fed
    rw [declared.linked input edge incoming]
    rintro ⟨_, ⟨⟩, broken⟩
    exact newline_not_mem_portIdentifier _ _ _ broken

theorem newline_mem_line_link_iff (indent : '\n' ∉ settings.indent.toList) {node : String} {port : Port}
    {declaration : Declaration}
    (declared : Assembly.declare settings registry node port = .ok declaration) :
    '\n' ∈ ((Assembly.link settings graph node port declaration).line settings).toList ↔
      ∃ text, graph.Quotes registry node port text ∧ '\n' ∈ text.toList := by
  have declaredAs : port.DeclaredAs settings registry graph node
      (Assembly.link settings graph node port declaration) :=
    Assembly.declaredAs_link declared
  have identifier := newline_not_mem_portIdentifier settings node port.name
  rw [← declaredAs.identifier] at identifier
  rw [← newline_mem_initializer_iff declaredAs]
  exact Declaration.newline_mem_line_iff indent identifier (newline_not_mem_shaderType_link declared)

theorem newline_not_mem_declarations_iff (indent : '\n' ∉ settings.indent.toList) {node : Node}
    {own : Fragment} (assembled : assemble settings registry node = .ok own) :
    (∀ declaration ∈ (own.linkedIn settings graph node).declarations,
        '\n' ∉ (declaration.line settings).toList) ↔
      ∀ port ∈ node.ports, ∀ text, graph.Quotes registry node.name port text → '\n' ∉ text.toList := by
  have paired := Assembly.declareAll_eq_ok (Assembly.assemble_eq_ok assembled).2
  have linked : List.Forall₂ (fun port declaration => '\n' ∈ (declaration.line settings).toList ↔
      ∃ text, graph.Quotes registry node.name port text ∧ '\n' ∈ text.toList)
      node.ports (own.linkedIn settings graph node).declarations :=
    paired.zipWith fun port declaration => newline_mem_line_link_iff indent
  refine (linked.forall_mem_iff fun port declaration broken => ?_).symm
  rw [broken, not_exists]
  exact forall_congr' fun text => not_and.symm

/-- The text of a fragment has the lines that are meant exactly when the name of the node holds no
line feed, and no text that is quoted in a declaration does. -/
theorem rendersLines_ofHistory_iff (history : List Registration) (name : String) (edits : List Edit)
    (settings : AssemblySettings) {fragments : List Fragment} {fragment : Fragment}
    (reached : graph = ofHistory (.ofHistory history) name edits)
    (assembled : assembleGraph settings (.ofHistory history) graph = .ok fragments)
    (inside : fragment ∈ fragments) (indent : '\n' ∉ settings.indent.toList)
    (keyword : '\n' ∉ settings.includeKeyword.toList) (variant : '\n' ∉ fragment.variant.toList)
    (includes : ∀ file ∈ fragment.includes, '\n' ∉ file.toList) :
    fragment.RendersLines settings ↔
      '\n' ∉ fragment.node.toList ∧ (settings.emitDeclarations = true →
        ∀ node, graph.node? fragment.node = some node → ∀ port ∈ node.ports, ∀ text,
          graph.Quotes (.ofHistory history) node.name port text → '\n' ∉ text.toList) := by
  have valid := Registry.consistent_ofHistory history
  have consistent : graph.Consistent (.ofHistory history) :=
    reached ▸ consistent_ofHistory valid name edits
  obtain ⟨node, own, found, alone, rfl⟩ := exists_linkedIn valid consistent assembled inside
  have named : (own.linkedIn settings graph node).node = node.name := (Assembly.assemble_eq_ok alone).1
  rw [Fragment.rendersLines_iff_of_plain indent keyword variant includes,
    newline_not_mem_declarations_iff indent alone, named, found]
  simp only [Option.some.injEq, forall_eq']

/-- The graph of one node that samples a texture, of the given name. -/
def samplingGraph (name : String) : Graph :=
  ofHistory (.ofHistory standardHistory) "Sampling" [.addNode ⟨"SampleTexture2D", 1⟩ name]

/-- A fragment with a quoted text. -/
theorem rendersLines_quoted : ∃ fragments,
    assembleGraph .standard (.ofHistory standardHistory) (samplingGraph "sample") = .ok fragments ∧
      ∃ fragment ∈ fragments, ⟨"sample_UV", "float4", some "UV0"⟩ ∈ fragment.declarations ∧
        fragment.RendersLines .standard := by
  obtain ⟨fragments, assembled, fragment, inside, variant, includes, name, quoting⟩ : ∃ fragments,
      assembleGraph .standard (.ofHistory standardHistory) (samplingGraph "sample") = .ok fragments ∧
        ∃ fragment ∈ fragments, '\n' ∉ fragment.variant.toList ∧
          (∀ file ∈ fragment.includes, '\n' ∉ file.toList) ∧ '\n' ∉ fragment.node.toList ∧
            ⟨"sample_UV", "float4", some "UV0"⟩ ∈ fragment.declarations :=
    Outcome.exists_of_yields (by decide +kernel)
  have plain : ∀ node ∈ (samplingGraph "sample").nodes, ∀ port ∈ node.ports,
      ∀ text ∈ (port.field.child? Member.reference).bind Field.string?, '\n' ∉ text.toList := by
    decide +kernel
  refine ⟨fragments, assembled, fragment, inside, quoting,
    (rendersLines_ofHistory_iff standardHistory "Sampling" _ .standard rfl assembled inside (by decide)
      (by decide) variant includes).mpr ⟨name, fun _ node found port among text quotes => ?_⟩⟩
  obtain ⟨type, -, quoted⟩ := quotes.quoted
  cases type with
  | numeric _ => exact plain node (mem_of_node? found) port among text quoted
  | gradient | texture2D | samplerState => cases quoted

/-- The second line of a name is read as a line of code. -/
theorem not_rendersLines_brokenName : ∃ fragments,
    assembleGraph .standard (.ofHistory standardHistory) (samplingGraph "sample\nclip(-1.0); //") =
        .ok fragments ∧
      ∃ fragment ∈ fragments,
        "clip(-1.0); // (SampleTexture2D)".toList ∈ Text.lines (fragment.render .standard).toList ∧
          ¬fragment.RendersLines .standard := by
  obtain ⟨fragments, assembled, fragment, inside, node, variant⟩ : ∃ fragments,
      assembleGraph .standard (.ofHistory standardHistory) (samplingGraph "sample\nclip(-1.0); //") =
          .ok fragments ∧
        ∃ fragment ∈ fragments, fragment.node = "sample\nclip(-1.0); //" ∧
          fragment.variant = "SampleTexture2D" :=
    Outcome.exists_of_yields (by decide +kernel)
  have comment : fragment.comment.toList = "// sample\nclip(-1.0); // (SampleTexture2D)".toList := by
    rw [Fragment.comment, node, variant]
    decide
  have second : "clip(-1.0); // (SampleTexture2D)".toList ∈ Text.splitOn '\n' fragment.comment.toList := by
    rw [comment]
    decide
  have kept : Text.dropReturn "clip(-1.0); // (SampleTexture2D)".toList =
      "clip(-1.0); // (SampleTexture2D)".toList := by
    decide
  have broken : '\n' ∈ fragment.comment.toList := by
    rw [comment]
    decide
  have commented := fragment.comment_mem_lines .standard
  refine ⟨fragments, assembled, fragment, inside, ?_, fun renders => ?_⟩
  · rw [← kept]
    exact Fragment.dropReturn_mem_lines_render commented second
  · exact Fragment.rendersLines_iff.mp renders _ commented broken

end Graph

end ShadingGraph
