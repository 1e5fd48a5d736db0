import Mathlib.Data.List.TakeWhile
import ShadingGraph.Proofs.Assembly
import ShadingGraph.Proofs.Concretization
import ShadingGraph.Proofs.Scan

/-! # Templates and the code they stand for

A template is written as literal texts, doubled sigils, lone sigils and references.
Every text can be written so, and its tokens are those of the pieces whatever the
pieces are. Substitution gives the code of the pieces one after the other, or the
first reference that names no parameter.
-/

namespace ShadingGraph

inductive Piece where
  | literal (text : String)
  | doubled
  | lone
  | reference (name : String)
  deriving DecidableEq, Repr

/-- Whether a member of what was named last follows. -/
def MemberFollows (rest : List Char) : Prop :=
  ∃ c later, rest = '.' :: c :: later ∧ (isLetter c ∨ c = '_')

namespace Piece

def text (sigil : Char) : Piece → List Char
  | .literal text => text.toList
  | .doubled => [sigil, sigil]
  | .lone => [sigil]
  | .reference name => sigil :: name.toList

/-- Whether a piece can be written before the text `rest`. A reference is not
continued by it, and a lone sigil begins neither a reference nor a doubled sigil. -/
def FitsBefore (sigil : Char) (rest : List Char) : Piece → Prop
  | .literal text => sigil ∉ text.toList
  | .doubled => True
  | .lone => ∀ c ∈ rest.head?, c ≠ sigil ∧ isIdentifierChar c = false
  | .reference name =>
    name ≠ "" ∧ (∀ c ∈ name.toList, isIdentifierChar c) ∧ ∀ c ∈ rest.head?, isIdentifierChar c = false

def name? : Piece → Option String
  | .reference name => some name
  | _ => none

/-- Code that a piece before the text `rest` stands for. -/
inductive StandsFor (settings : AssemblySettings) (registry : Registry) (node : String)
    (variant : Variant) (rest : List Char) : Piece → String → Prop where
  | literal (text : String) : StandsFor settings registry node variant rest (.literal text) text
  | doubled : StandsFor settings registry node variant rest .doubled (String.singleton settings.sigil)
  | lone : StandsFor settings registry node variant rest .lone (String.singleton settings.sigil)
  | port {name : String} {parameter : Parameter} {type : DataType}
      (named : variant.parameter? name = some parameter)
      (known : registry.type parameter.typeKey = .ok type)
      (complete : MemberFollows rest ∨ type.defaultMember? = none) :
      StandsFor settings registry node variant rest (.reference name)
        (portIdentifier settings node parameter.name)
  | member {name member : String} {parameter : Parameter} {type : DataType}
      (named : variant.parameter? name = some parameter)
      (known : registry.type parameter.typeKey = .ok type)
      (bare : ¬MemberFollows rest) (default : type.defaultMember? = some member) :
      StandsFor settings registry node variant rest (.reference name)
        (portIdentifier settings node parameter.name ++ "." ++ member)

end Piece

namespace Template

def written (sigil : Char) (pieces : List Piece) : List Char :=
  pieces.flatMap (Piece.text sigil)

theorem written_cons (sigil : Char) (piece : Piece) (pieces : List Piece) :
    written sigil (piece :: pieces) = piece.text sigil ++ written sigil pieces :=
  List.flatMap_cons

/-- Whether each piece can be written before those after it. -/
def WellWritten (sigil : Char) : List Piece → Prop
  | [] => True
  | piece :: rest => piece.FitsBefore sigil (written sigil rest) ∧ WellWritten sigil rest

/-- Code that the pieces of a template stand for, one after the other. -/
inductive StandsFor (settings : AssemblySettings) (registry : Registry) (node : String)
    (variant : Variant) : List Piece → String → Prop where
  | nil : StandsFor settings registry node variant [] ""
  | cons {piece : Piece} {rest : List Piece} {code codes : String}
      (first : piece.StandsFor settings registry node variant (written settings.sigil rest) code)
      (later : StandsFor settings registry node variant rest codes) :
      StandsFor settings registry node variant (piece :: rest) (code ++ codes)

/-- The first name that a template refers to and no parameter has. -/
def unknownName? (variant : Variant) (pieces : List Piece) : Option String :=
  (pieces.filterMap Piece.name?).find? fun name => (variant.parameter? name).isNone

end Template

variable {settings : AssemblySettings} {registry : Registry} {node : String} {variant : Variant}
  {sigil : Char} {rest : List Char}

theorem beginsMember_eq_true : Template.beginsMember rest = true ↔ MemberFollows rest := by
  unfold MemberFollows Template.beginsMember
  constructor
  · intro begins
    split at begins
    · exact ⟨_, _, rfl, by simpa using begins⟩
    · cases begins
  · rintro ⟨c, later, rfl, named⟩
    simpa using named

namespace Template

theorem tokens_cons_of_ne {c : Char} (different : c ≠ sigil) :
    tokens sigil (c :: rest) = .char c :: tokens sigil rest := by
  rw [tokens, if_pos different]

theorem tokens_literal {text : List Char} (plain : sigil ∉ text) :
    tokens sigil (text ++ rest) = text.map .char ++ tokens sigil rest := by
  induction text with
  | nil => rfl
  | cons c text ih =>
      obtain ⟨different, plain⟩ := not_or.mp (List.mem_cons.not.mp plain)
      rw [List.cons_append, tokens_cons_of_ne (Ne.symm different), ih plain]
      rfl

theorem tokens_doubled : tokens sigil (sigil :: sigil :: rest) = .sigil :: tokens sigil rest := by
  conv => lhs; unfold tokens
  rw [if_neg (not_not.mpr rfl), if_pos List.head?_cons, List.tail_cons]

theorem tokens_lone (fits : ∀ c ∈ rest.head?, c ≠ sigil ∧ isIdentifierChar c = false) :
    tokens sigil (sigil :: rest) = .sigil :: tokens sigil rest := by
  have single : rest.head? ≠ some sigil := fun doubled => (fits sigil doubled).1 rfl
  have none : ∀ c ∈ ([] : List Char), isIdentifierChar c = true := by simp
  have nameless : rest.takeWhile isIdentifierChar = [] :=
    takeWhile_run none fun c first => (fits c first).2
  rw [tokens, if_neg (not_not.mpr rfl), if_neg single, if_pos (by rw [nameless]; rfl)]

theorem tokens_reference {name : List Char} (plain : isIdentifierChar sigil = false)
    (nonempty : name ≠ []) (named : ∀ c ∈ name, isIdentifierChar c)
    (stops : ∀ c ∈ rest.head?, isIdentifierChar c = false) :
    tokens sigil (sigil :: (name ++ rest)) =
      .reference (String.ofList name) (beginsMember rest) :: tokens sigil rest := by
  have single : (name ++ rest).head? ≠ some sigil := by
    obtain ⟨c, name, rfl⟩ := List.exists_cons_of_ne_nil nonempty
    intro doubled
    cases Option.some.inj doubled
    simp [named sigil List.mem_cons_self] at plain
  rw [tokens, if_neg (not_not.mpr rfl), if_neg single, takeWhile_run named stops,
    dropWhile_run named stops, if_neg (by simpa using nonempty)]

end Template

/-- Tokens of a piece before the text `rest`. -/
def Piece.tokens (rest : List Char) : Piece → List Token
  | .literal text => text.toList.map .char
  | .doubled | .lone => [.sigil]
  | .reference name => [.reference name (Template.beginsMember rest)]

namespace Template

theorem tokens_append (plain : isIdentifierChar sigil = false) {piece : Piece}
    (fits : piece.FitsBefore sigil rest) :
    tokens sigil (piece.text sigil ++ rest) = piece.tokens rest ++ tokens sigil rest := by
  cases piece with
  | literal text => exact tokens_literal fits
  | doubled => exact tokens_doubled
  | lone => exact tokens_lone fits
  | reference name =>
      obtain ⟨nonempty, named, stops⟩ := fits
      have nonempty : name.toList ≠ [] := by simpa using nonempty
      have read := tokens_reference plain nonempty named stops
      rwa [String.ofList_toList] at read

end Template

namespace Template

theorem exists_wellWritten (sigil : Char) (text : List Char) :
    ∃ pieces, WellWritten sigil pieces ∧ written sigil pieces = text := by
  fun_induction tokens sigil text with
  | case1 => exact ⟨[], trivial, rfl⟩
  | case2 c rest different ih =>
      obtain ⟨pieces, wellWritten, rfl⟩ := ih
      exact ⟨.literal (String.singleton c) :: pieces,
        ⟨by simpa [Piece.FitsBefore] using Ne.symm different, wellWritten⟩,
        by simp [written_cons, Piece.text]⟩
  | case3 c rest isSigil doubled ih =>
      obtain ⟨pieces, wellWritten, same⟩ := ih
      obtain ⟨tail, rfl⟩ := List.head?_eq_some_iff.mp doubled
      cases not_not.mp isSigil
      exact ⟨.doubled :: pieces, ⟨trivial, wellWritten⟩, by simp [written_cons, Piece.text, same]⟩
  | case4 c rest isSigil single nameless ih =>
      obtain ⟨pieces, wellWritten, rfl⟩ := ih
      cases not_not.mp isSigil
      refine ⟨.lone :: pieces, ⟨fun c first => ⟨?_, ?_⟩, wellWritten⟩, by simp [written_cons, Piece.text]⟩
      · rintro rfl
        exact single first
      · obtain ⟨tail, same⟩ := List.head?_eq_some_iff.mp first
        simpa [same] using nameless
  | case5 c rest isSigil single named ih =>
      obtain ⟨pieces, wellWritten, same⟩ := ih
      cases not_not.mp isSigil
      refine ⟨.reference (String.ofList (rest.takeWhile isIdentifierChar)) :: pieces,
        ⟨⟨?_, ?_, ?_⟩, wellWritten⟩, ?_⟩
      · simpa using named
      · intro c inside
        rw [String.toList_ofList] at inside
        exact List.mem_takeWhile_imp inside
      · rw [same]
        intro c first
        have := List.head?_dropWhile_not isIdentifierChar rest
        simpa [Option.mem_def.mp first] using this
      · simp [written_cons, Piece.text, same]

end Template

namespace Assembly

theorem expandAll_append_of_ok {first : List Token} {code : List Char}
    (done : expandAll settings registry node variant first = .ok code) (later : List Token) :
    expandAll settings registry node variant (first ++ later) =
      (expandAll settings registry node variant later).map (code ++ ·) := by
  induction first generalizing code with
  | nil =>
      cases done
      rw [List.nil_append]
      cases expandAll settings registry node variant later <;> rfl
  | cons token first ih =>
      obtain ⟨own, expanded, remaining⟩ := Outcome.bind_eq_ok.mp done
      obtain ⟨others, rest, made⟩ := Outcome.bind_eq_ok.mp remaining
      cases Outcome.pure_eq_ok.mp made
      rw [List.cons_append, expandAll, expanded, Outcome.ok_bind, ih rest]
      cases expandAll settings registry node variant later with
      | error error => rfl
      | ok codes => simp [Except.map, bind, Except.bind, pure, Except.pure]

theorem expandAll_append_of_error {first : List Token} {error : AssemblyError}
    (fails : expandAll settings registry node variant first = .error error) (later : List Token) :
    expandAll settings registry node variant (first ++ later) = .error error := by
  induction first with
  | nil => cases fails
  | cons token first ih =>
      rw [List.cons_append, expandAll]
      rcases Outcome.bind_eq_error.mp fails with own | ⟨code, expanded, rest⟩
      · rw [own]
        rfl
      · rcases Outcome.bind_eq_error.mp rest with rest | ⟨_, _, made⟩
        · rw [expanded, Outcome.ok_bind, ih rest]
          rfl
        · cases made

theorem expandAll_chars (text : List Char) :
    expandAll settings registry node variant (text.map .char) = .ok text := by
  induction text with
  | nil => rfl
  | cons c text ih =>
      simp only [List.map_cons, expandAll, ih]
      rfl

theorem expandAll_singleton {token : Token} {code : List Char}
    (expanded : expand settings registry node variant token = .ok code) :
    expandAll settings registry node variant [token] = .ok code := by
  simp [expandAll, expanded, bind, Except.bind, pure, Except.pure]

theorem expandAll_of_standsFor {piece : Piece} {code : String}
    (stands : piece.StandsFor settings registry node variant rest code) :
    expandAll settings registry node variant (piece.tokens rest) = .ok code.toList := by
  cases stands with
  | literal text => exact expandAll_chars _
  | doubled | lone => exact expandAll_singleton (by simp [expand])
  | port named known complete =>
      refine expandAll_singleton ?_
      simp only [expand, named, known]
      split
      · rfl
      · rename_i bare
        rw [beginsMember_eq_true] at bare
        rw [complete.resolve_left bare]
  | member named known bare default =>
      refine expandAll_singleton ?_
      rw [← beginsMember_eq_true] at bare
      simp [expand, named, known, bare, default]

theorem expandAll_of_unknown {name : String} (unknown : variant.parameter? name = none) :
    expandAll settings registry node variant (Piece.tokens rest (.reference name)) =
      .error (.unresolvedReference node variant.id name) := by
  simp [Piece.tokens, expandAll, expand, unknown, bind, Except.bind]

end Assembly

theorem Piece.exists_standsFor
    (covered : ∀ parameter ∈ variant.parameters, ∃ type, registry.type parameter.typeKey = .ok type)
    (piece : Piece) :
    (∃ code, piece.StandsFor settings registry node variant rest code) ∨
      ∃ name, piece = .reference name ∧ variant.parameter? name = none := by
  cases piece with
  | literal text => exact .inl ⟨_, .literal text⟩
  | doubled => exact .inl ⟨_, .doubled⟩
  | lone => exact .inl ⟨_, .lone⟩
  | reference name =>
      cases named : variant.parameter? name with
      | none => exact .inr ⟨name, rfl, named⟩
      | some parameter =>
          obtain ⟨type, known⟩ := covered parameter (List.mem_of_find?_eq_some named)
          by_cases follows : MemberFollows rest
          · exact .inl ⟨_, .port named known (.inl follows)⟩
          · cases default : type.defaultMember? with
            | none => exact .inl ⟨_, .port named known (.inr default)⟩
            | some member => exact .inl ⟨_, .member named known follows default⟩

theorem Piece.StandsFor.known {piece : Piece} {code name : String}
    (stands : piece.StandsFor settings registry node variant rest code)
    (refers : piece.name? = some name) : (variant.parameter? name).isSome := by
  cases stands with
  | literal | doubled | lone => cases refers
  | port named | member named =>
      cases refers
      rw [named]
      rfl

namespace Template

theorem unknownName?_cons_of_standsFor {piece : Piece} {pieces : List Piece} {code : String}
    (stands : piece.StandsFor settings registry node variant rest code) :
    unknownName? variant (piece :: pieces) = unknownName? variant pieces := by
  unfold unknownName?
  cases refers : piece.name? with
  | none => rw [List.filterMap_cons_none refers]
  | some name =>
      have known := stands.known refers
      rw [List.filterMap_cons_some refers, List.find?_cons_of_neg]
      simpa [Option.isSome_iff_ne_none] using known

theorem unknownName?_cons_of_unknown {name : String} {pieces : List Piece}
    (unknown : variant.parameter? name = none) :
    unknownName? variant (.reference name :: pieces) = some name := by
  simp only [unknownName?, Piece.name?, List.filterMap_cons]
  rw [List.find?_cons_of_pos (by simp [unknown])]

variable {pieces : List Piece} (plain : isIdentifierChar settings.sigil = false)
  (wellWritten : WellWritten settings.sigil pieces)
include plain wellWritten

theorem expandAll_written {code : String}
    (stands : StandsFor settings registry node variant pieces code) :
    Assembly.expandAll settings registry node variant
      (tokens settings.sigil (written settings.sigil pieces)) = .ok code.toList := by
  induction stands with
  | nil => simp [written, tokens, Assembly.expandAll]
  | cons first later ih =>
      obtain ⟨fits, wellWritten⟩ := wellWritten
      rw [written_cons, tokens_append plain fits,
        Assembly.expandAll_append_of_ok (Assembly.expandAll_of_standsFor first), ih wellWritten,
        String.toList_append]
      rfl

theorem expandAll_unknown
    (covered : ∀ parameter ∈ variant.parameters, ∃ type, registry.type parameter.typeKey = .ok type)
    {name : String} (unknown : unknownName? variant pieces = some name) :
    Assembly.expandAll settings registry node variant
      (tokens settings.sigil (written settings.sigil pieces)) =
        .error (.unresolvedReference node variant.id name) := by
  induction pieces with
  | nil => cases unknown
  | cons piece pieces ih =>
      obtain ⟨fits, wellWritten⟩ := wellWritten
      rw [written_cons, tokens_append plain fits]
      rcases piece.exists_standsFor covered with ⟨code, first⟩ | ⟨other, rfl, absent⟩
      · rw [unknownName?_cons_of_standsFor first] at unknown
        rw [Assembly.expandAll_append_of_ok (Assembly.expandAll_of_standsFor first),
          ih wellWritten unknown]
        rfl
      · rw [unknownName?_cons_of_unknown absent] at unknown
        cases unknown
        exact Assembly.expandAll_append_of_error (Assembly.expandAll_of_unknown absent) _

omit plain wellWritten in
theorem exists_standsFor (settings : AssemblySettings) (node : String)
    (covered : ∀ parameter ∈ variant.parameters, ∃ type, registry.type parameter.typeKey = .ok type)
    (known : unknownName? variant pieces = none) :
    ∃ code, StandsFor settings registry node variant pieces code := by
  induction pieces with
  | nil => exact ⟨_, .nil⟩
  | cons piece pieces ih =>
      rcases piece.exists_standsFor covered with ⟨code, first⟩ | ⟨other, rfl, absent⟩
      · rw [unknownName?_cons_of_standsFor first] at known
        obtain ⟨codes, later⟩ := ih known
        exact ⟨_, .cons first later⟩
      · rw [unknownName?_cons_of_unknown absent] at known
        cases known

omit plain wellWritten in
theorem StandsFor.known {code name : String}
    (stands : StandsFor settings registry node variant pieces code)
    (refers : .reference name ∈ pieces) : ∃ parameter, variant.parameter? name = some parameter := by
  induction stands with
  | nil => cases refers
  | cons first later ih =>
      rcases List.mem_cons.mp refers with rfl | refers
      · exact Option.isSome_iff_exists.mp (first.known rfl)
      · exact ih refers

end Template

namespace Assembly

theorem declareAll_isOk (settings : AssemblySettings) (node : String) {ports : List Port}
    (known : ∀ port ∈ ports, ∃ type, registry.type port.typeKey = .ok type) :
    ∃ declarations, declareAll settings registry node ports = .ok declarations := by
  induction ports with
  | nil => exact ⟨[], rfl⟩
  | cons port ports ih =>
      obtain ⟨⟨type, own⟩, known⟩ := List.forall_mem_cons.mp known
      obtain ⟨declarations, later⟩ := ih known
      simp only [declareAll, declare, own, later]
      exact ⟨_, rfl⟩

/-- A node with the ports of its variant can be assembled when the body can. -/
theorem assemble_of_concretize {definition : Definition} {former : Node} {feeds : List Feed}
    {ports : List Port} {code : String} (known : registry.node former.definitionKey = .ok definition)
    (selected : definition.variant? former.selectedVariant = some variant)
    (concretized : concretize former definition feeds registry = .ok ports)
    (covered : ∀ parameter ∈ variant.parameters, ∃ type, registry.type parameter.typeKey = .ok type)
    (substituted : substitute settings registry former.name variant = .ok code) :
    ∃ fragment, assemble settings registry { former with ports } = .ok fragment ∧
      fragment.body = code ∧ ∀ parameter ∈ variant.parameters,
        ∃ declaration ∈ fragment.declarations,
          declaration.identifier = portIdentifier settings former.name parameter.name := by
  have signatures := signatures_of_concretize selected concretized
  have typed : ∀ port ∈ ports, ∃ type, registry.type port.typeKey = .ok type := by
    intro port inside
    have same : port.signature ∈ variant.parameters.map Parameter.signature :=
      signatures ▸ List.mem_map_of_mem inside
    obtain ⟨parameter, inside, same⟩ := List.mem_map.mp same
    obtain ⟨type, known⟩ := covered parameter inside
    simp only [Parameter.signature, Port.signature, Prod.mk.injEq] at same
    exact ⟨type, same.2.1 ▸ known⟩
  obtain ⟨declarations, declared⟩ := declareAll_isOk settings former.name typed
  refine ⟨⟨former.name, variant.id, declarations, code, variant.includes⟩, ?_, rfl, ?_⟩
  · simp [assemble, known, selected, declared, substituted, Except.mapError, bind, Except.bind,
      pure, Except.pure]
  · intro parameter inside
    have same : parameter.signature ∈ ports.map Port.signature :=
      signatures ▸ List.mem_map_of_mem inside
    obtain ⟨port, inside, same⟩ := List.mem_map.mp same
    obtain ⟨declaration, inside, own⟩ := (declareAll_eq_ok declared).exists_mem_right inside
    obtain ⟨type, -, made⟩ := Outcome.bind_eq_ok.mp own
    cases Outcome.pure_eq_ok.mp made
    simp only [Parameter.signature, Port.signature, Prod.mk.injEq] at same
    exact ⟨_, inside, by rw [same.1]⟩

end Assembly

namespace Assembly

variable {pieces : List Piece} (plain : isIdentifierChar settings.sigil = false)
  (wellWritten : Template.WellWritten settings.sigil pieces)
  (body : variant.body.toList = Template.written settings.sigil pieces)
include plain wellWritten body

theorem substitute_of_standsFor {code : String}
    (stands : Template.StandsFor settings registry node variant pieces code) :
    substitute settings registry node variant = .ok code := by
  rw [substitute, body, Template.expandAll_written plain wellWritten stands]
  exact congrArg Except.ok String.ofList_toList

variable (covered : ∀ parameter ∈ variant.parameters,
  ∃ type, registry.type parameter.typeKey = .ok type)
include covered

theorem substitute_of_unknown {name : String}
    (unknown : Template.unknownName? variant pieces = some name) :
    substitute settings registry node variant =
      .error (.unresolvedReference node variant.id name) := by
  rw [substitute, body, Template.expandAll_unknown plain wellWritten covered unknown]
  rfl

theorem substitute_eq_ok {code : String} :
    substitute settings registry node variant = .ok code ↔
      Template.StandsFor settings registry node variant pieces code := by
  refine ⟨fun substituted => ?_, substitute_of_standsFor plain wellWritten body⟩
  cases unknown : Template.unknownName? variant pieces with
  | some name =>
      cases substituted.symm.trans (substitute_of_unknown plain wellWritten body covered unknown)
  | none =>
      obtain ⟨other, stands⟩ := Template.exists_standsFor settings node covered unknown
      cases substituted.symm.trans (substitute_of_standsFor plain wellWritten body stands)
      exact stands

theorem substitute_eq_error {error : AssemblyError} :
    substitute settings registry node variant = .error error ↔
      ∃ name, Template.unknownName? variant pieces = some name ∧
        error = .unresolvedReference node variant.id name := by
  constructor
  · intro failed
    cases unknown : Template.unknownName? variant pieces with
    | some name =>
        cases failed.symm.trans (substitute_of_unknown plain wellWritten body covered unknown)
        exact ⟨name, rfl, rfl⟩
    | none =>
        obtain ⟨other, stands⟩ := Template.exists_standsFor settings node covered unknown
        cases failed.symm.trans (substitute_of_standsFor plain wellWritten body stands)
  · rintro ⟨name, unknown, rfl⟩
    exact substitute_of_unknown plain wellWritten body covered unknown

end Assembly

/-- The code of a variant is what the pieces of its template stand for, and every port
that they refer to is declared. -/
structure Variant.SubstitutesBy (settings : AssemblySettings) (registry : Registry)
    (definition : Definition) (variant : Variant) (pieces : List Piece) : Prop where
  code : ∀ node code, Assembly.substitute settings registry node variant = .ok code ↔
    Template.StandsFor settings registry node variant pieces code
  error : ∀ node error, Assembly.substitute settings registry node variant = .error error ↔
    ∃ name, Template.unknownName? variant pieces = some name ∧
      error = .unresolvedReference node variant.id name
  declared : ∀ node feeds ports code, node.definitionKey = definition.key →
    definition.variant? node.selectedVariant = some variant →
    concretize node definition feeds registry = .ok ports →
    Assembly.substitute settings registry node.name variant = .ok code →
    ∃ fragment, assemble settings registry { node with ports } = .ok fragment ∧
      fragment.body = code ∧ ∀ name, .reference name ∈ pieces →
        ∃ parameter, variant.parameter? name = some parameter ∧
          ∃ declaration ∈ fragment.declarations,
            declaration.identifier = portIdentifier settings node.name parameter.name

/-- Substitution follows the grammar of templates. -/
theorem substitutesBy_ofHistory (history : List Registration) {key : Key} {definition : Definition}
    (known : (Registry.ofHistory history).node key = .ok definition) {variant : Variant}
    (offered : variant ∈ definition.variants) {settings : AssemblySettings}
    (plain : isIdentifierChar settings.sigil = false) {pieces : List Piece}
    (wellWritten : Template.WellWritten settings.sigil pieces)
    (body : variant.body.toList = Template.written settings.sigil pieces) :
    variant.SubstitutesBy settings (Registry.ofHistory history) definition pieces := by
  have valid := Registry.consistent_ofHistory history
  have found := Registry.node_eq_ok.mp known
  have covered : ∀ parameter ∈ variant.parameters,
      ∃ type, (Registry.ofHistory history).type parameter.typeKey = .ok type := by
    intro parameter inside
    obtain ⟨type, found⟩ := valid.covered _ _ found variant offered parameter inside
    exact ⟨type, Registry.type_eq_ok.mpr found⟩
  refine ⟨fun _ _ => Assembly.substitute_eq_ok plain wellWritten body covered,
    fun _ _ => Assembly.substitute_eq_error plain wellWritten body covered, ?_⟩
  intro node feeds ports code own selected concretized substituted
  rw [valid.nodeKeyed _ _ found] at own
  obtain ⟨fragment, assembled, same, declared⟩ := Assembly.assemble_of_concretize (own ▸ known)
    selected concretized covered substituted
  refine ⟨fragment, assembled, same, fun name refers => ?_⟩
  have stands := (Assembly.substitute_eq_ok plain wellWritten body covered).mp substituted
  obtain ⟨parameter, named⟩ := stands.known refers
  exact ⟨parameter, named, declared parameter (List.mem_of_find?_eq_some named)⟩

/-- Variant with every kind of piece in its template. -/
def Variant.annotatedSample : Variant :=
  StandardNode.variant "Annotated" "Annotated" "$Out = Load($Map, $Map.size); // $$5 $."
    [StandardNode.input "Map" "Texture2D", StandardNode.output "Out" "Vec4"]

def Piece.annotatedSample : List Piece :=
  [ .reference "Out", .literal " = Load(", .reference "Map", .literal ", ", .reference "Map",
    .literal ".size); // ", .doubled, .literal "5 ", .lone, .literal "." ]

theorem wellWritten_annotatedSample : Template.WellWritten '$' Piece.annotatedSample := by
  simp [Template.WellWritten, Piece.FitsBefore, Piece.annotatedSample, Template.written, Piece.text,
    isIdentifierChar, isLetter, isDigit]

theorem substitutesBy_annotatedSample :
    Variant.annotatedSample.SubstitutesBy .standard
      (Registry.ofHistory [.builtinTypes, .variant .annotatedSample]) (.ofVariant .annotatedSample)
      Piece.annotatedSample ∧
    Assembly.substitute .standard (Registry.ofHistory [.builtinTypes, .variant .annotatedSample])
      "a b" .annotatedSample = .ok "a_b_Out = Load(a_b_Map.tex, a_b_Map.size); // $5 $." :=
  ⟨substitutesBy_ofHistory _
    (show Registry.node _ ⟨"Annotated", 1⟩ = .ok (.ofVariant .annotatedSample) from rfl)
    List.mem_cons_self (by decide) wellWritten_annotatedSample (by decide +kernel), by decide +kernel⟩

end ShadingGraph
