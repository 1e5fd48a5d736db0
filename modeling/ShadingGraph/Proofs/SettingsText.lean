import ShadingGraph.Assembly.SettingsText
import ShadingGraph.Proofs.DocumentText

/-! # Settings written and read

Settings are read back from their text, and from a text that writes only some of their members:
those that are left out are read as the standard has them. The members may stand in any
order, with or without the name before the parentheses, and with blanks around them. A version
that is too new is refused wherever it is written.
-/

namespace ShadingGraph

namespace Ron

/-- What stands around the members of a record: blanks before the first one, after each colon and
after each comma between two of them, and after the last one perhaps a comma and blanks. -/
structure Spacing where
  opening : List Char
  colon : List Char
  between : List Char
  closing : List Char
  blankOpening : ∀ c ∈ opening, isBlank c = true
  blankColon : ∀ c ∈ colon, isBlank c = true
  blankBetween : ∀ c ∈ between, isBlank c = true
  isTail : IsTail closing

namespace Spacing

open Datum

variable (spacing : Spacing) (names : Bool)

def memberText (member : String × Datum) : List Char :=
  member.1.toList ++ ':' :: (spacing.colon ++ ron ⟨false, names⟩ 0 member.2)

/-- Text of a record, with its name or without it. -/
def recordText (name : String) (members : List (String × Datum)) : List Char :=
  (if names then name.toList else []) ++ '(' ::
    (match members with
      | [] => []
      | member :: rest =>
        spacing.opening ++ (spacing.memberText names member
          ++ (joined spacing.between (rest.map (spacing.memberText names)) ++ spacing.closing))) ++ [')']

variable {names}

theorem readsMember {member : String × Datum} (word : isWord member.1 = true)
    (named : wellNamed names member.2 = true) :
    ReadsMember (spacing.memberText names member) (⟨false, member.1⟩, shape names member.2) :=
  ⟨member.1, spacing.colon, _, rfl, spacing.blankColon, word, rfl, reads_ron ⟨false, names⟩ 0 named⟩

theorem readsMembers : ∀ {members : List (String × Datum)}, membersWellNamed names members = true →
    List.Forall₂ ReadsMember (members.map (spacing.memberText names)) (memberShapes names members)
  | [], _ => .nil
  | _ :: _, named => by
      simp only [membersWellNamed, Bool.and_eq_true] at named
      exact .cons (spacing.readsMember named.1.1 named.1.2) (readsMembers named.2)

theorem reads_recordText {name : String} {members : List (String × Datum)}
    (named : wellNamed names (.record name members) = true) :
    Reads (spacing.recordText names name members) (shape names (.record name members)) := by
  cases members with
  | nil => simpa [recordText, ron] using reads_ron ⟨false, names⟩ 0 named
  | cons member rest =>
      simp only [wellNamed, membersWellNamed, Bool.and_eq_true, Bool.or_eq_true, Bool.not_eq_true'] at named
      obtain ⟨name', ⟨word, first⟩, others⟩ := named
      have head := spacing.readsMember word first
      have rest := spacing.readsMembers others
      cases names with
      | true =>
          have named := of_isName (name'.resolve_left (by simp))
          have read := Reads.namedRecord named.1 named.2 spacing.blankBetween spacing.blankOpening
            spacing.isTail rest head
          simpa [recordText, shape, memberShapes] using read
      | false =>
          have read := Reads.record spacing.blankBetween spacing.blankOpening spacing.isTail rest head
          simpa [recordText, shape, memberShapes] using read

end Spacing

end Ron

inductive Setting where
  | version
  | sigil
  | separator
  | includeKeyword
  | indent
  | emitDeclarations
  deriving DecidableEq, Repr

namespace Setting

def all : List Setting :=
  [.version, .sigil, .separator, .includeKeyword, .indent, .emitDeclarations]

def name : Setting → String
  | .version => "version"
  | .sigil => "sigil"
  | .separator => "separator"
  | .includeKeyword => "include_keyword"
  | .indent => "indent"
  | .emitDeclarations => "emit_declarations"

def datum (settings : AssemblySettings) : Setting → Datum
  | .version => Codec.datum settings.version
  | .sigil => Codec.datum settings.sigil
  | .separator => Codec.datum settings.separator
  | .includeKeyword => Codec.datum settings.includeKeyword
  | .indent => Codec.datum settings.indent
  | .emitDeclarations => Codec.datum settings.emitDeclarations

def entry (settings : AssemblySettings) (setting : Setting) : String × Datum :=
  (setting.name, setting.datum settings)

theorem name_injective : Function.Injective name := by
  intro a b same
  cases a <;> cases b <;> first | rfl | exact absurd same (by decide)

/-- Members that the reader knows; it asks for none of them. -/
def known : List (String × Presence) :=
  all.map fun setting => (setting.name, .defaulted)

theorem contains_known (setting : Setting) : Table.contains known setting.name = true := by
  cases setting <;> decide

theorem isWord_name (setting : Setting) : Ron.isWord setting.name = true := by
  cases setting <;> decide

end Setting

namespace AssemblySettings

variable (settings : AssemblySettings) {chosen : List Setting}

/-- The settings as to the chosen members, and the standard ones as to the others. -/
def only (chosen : List Setting) : AssemblySettings where
  version := if .version ∈ chosen then settings.version else standard.version
  sigil := if .sigil ∈ chosen then settings.sigil else standard.sigil
  separator := if .separator ∈ chosen then settings.separator else standard.separator
  includeKeyword := if .includeKeyword ∈ chosen then settings.includeKeyword else standard.includeKeyword
  indent := if .indent ∈ chosen then settings.indent else standard.indent
  emitDeclarations :=
    if .emitDeclarations ∈ chosen then settings.emitDeclarations else standard.emitDeclarations

def record (chosen : List Setting) : Datum :=
  .record "AssemblySettings" (chosen.map (Setting.entry settings))

theorem version_only : (settings.only chosen).version =
    if .version ∈ chosen then settings.version else currentVersion := rfl

theorem only_all : settings.only Setting.all = settings := by
  simp [only, Setting.all]

theorem wellNamed_record (chosen : List Setting) (names : Bool) :
    Datum.wellNamed names (settings.record chosen) = true := by
  have word : Datum.isName "AssemblySettings" = true := by decide
  simp only [record, Datum.wellNamed, word, Bool.or_true, Bool.true_and, Datum.membersWellNamed_iff,
    List.forall_mem_map]
  intro setting _
  exact ⟨setting.isWord_name, by cases setting <;> rfl⟩

section

variable (names : Bool) (levels : ℕ)

theorem find?_chosen (setting : Setting) : Table.find? ((chosen.map (Setting.entry settings)).map
      fun member => (member.1, Datum.cursor names levels member.2)) setting.name =
    if setting ∈ chosen then some (Datum.cursor names levels (setting.datum settings)) else none := by
  induction chosen with
  | nil => rfl
  | cons first rest ih =>
      rw [List.map_cons, List.map_cons, Table.find?, ih]
      by_cases same : first = setting
      · subst same
        simp [Setting.entry]
      · have apart : first.name ≠ setting.name := fun equal => same (Setting.name_injective equal)
        simp [Setting.entry, apart, Ne.symm same]

theorem memberOr?_chosen (chosen : List Setting) {α : Type} [Codec α] {value : α} (default : α)
    {setting : Setting}
    (written : setting.datum settings = Codec.datum value)
    (read : Codec.read? (Datum.cursor names levels (Codec.datum value)) = some value) :
    Codec.memberOr? default ((chosen.map (Setting.entry settings)).map
        fun member => (member.1, Datum.cursor names levels member.2)) setting.name =
      some (if setting ∈ chosen then value else default) := by
  rw [Codec.memberOr?, settings.find?_chosen names levels setting, written]
  split_ifs
  · exact read
  · rfl

/-- Chosen members are read in any order, and none of them has to be there. -/
theorem read?_record (distinct : chosen.Nodup) :
    Codec.read? (Datum.cursor names (levels + 2) (settings.record chosen)) = some (settings.only chosen) := by
  have listed : ∀ member ∈ chosen.map (Setting.entry settings),
      Table.contains Setting.known member.1 = true :=
    List.forall_mem_map.mpr fun setting _ => setting.contains_known
  have apart : (Table.keys (chosen.map (Setting.entry settings))).Nodup := by
    rw [Table.keys, List.map_map]
    exact distinct.map Setting.name_injective
  have members := Datum.record?_cursor_of_complete names levels "AssemblySettings" listed apart (by
    simp [Presence.complete, Setting.known, Presence.byName])
  have read {α : Type} [Codec α] (value default : α) (setting : Setting)
      (written : setting.datum settings = Codec.datum value) :=
    settings.memberOr?_chosen names levels chosen default written
  have version := read settings.version standard.version .version rfl (Codec.read?_uint32 names levels _)
  have sigil := read settings.sigil standard.sigil .sigil rfl (Datum.char?_cursor names levels _)
  have separator := read settings.separator standard.separator .separator rfl
    (Codec.read?_text names levels _)
  have includeKeyword := read settings.includeKeyword standard.includeKeyword .includeKeyword rfl
    (Codec.read?_text names levels _)
  have indent := read settings.indent standard.indent .indent rfl (Codec.read?_text names levels _)
  have emitDeclarations := read settings.emitDeclarations standard.emitDeclarations .emitDeclarations rfl
    (Datum.bool?_cursor names levels _)
  simp only [Setting.name] at version sigil separator includeKeyword indent emitDeclarations
  refine (congrArg (Option.bind · _) members).trans ?_
  simp only [Option.bind_some, Option.bind_eq_bind, Option.pure_def, version, sigil, separator,
    includeKeyword, indent, emitDeclarations, only]

end

theorem ofText_of_reads {names : Bool} {text : List Char} (distinct : chosen.Nodup)
    (reads : Ron.Reads text ((settings.record chosen).shape names)) :
    ofText (String.ofList text) =
      if .version ∈ chosen ∧ currentVersion < settings.version then
        .error (.newerVersion settings.version)
      else .ok (settings.only chosen) := by
  have read : Ron.read? AssemblySettings (String.ofList text) = some (settings.only chosen) := by
    rw [Ron.read?, reads.parse?_eq]
    exact settings.read?_record names 126 distinct
  rw [ofText, read]
  by_cases written : Setting.version ∈ chosen
  · simp only [version_only, written, if_true, true_and]
  · have current : ¬currentVersion < currentVersion := by decide
    simp only [version_only, written, current, if_false, false_and]

theorem exists_toText : ∃ text : List Char, settings.toText = .ok (String.ofList text) ∧
    Ron.Reads text ((settings.record Setting.all).shape true) :=
  ⟨_, rfl, Datum.reads_ron .prettyNamed 0 (settings.wellNamed_record Setting.all true)⟩

/-- Text of the chosen members in their order. -/
def textOf (chosen : List Setting) (spacing : Ron.Spacing) (names : Bool) : String :=
  .ofList (spacing.recordText names "AssemblySettings" (chosen.map (Setting.entry settings)))

/-- Settings are read back from their text, and the chosen ones from any text of them, where the
standard fills in the others. In both cases a newer version is refused if it is written. -/
theorem ofText_written :
    (∃ text, settings.toText = .ok text ∧ ofText text =
      if currentVersion < settings.version then .error (.newerVersion settings.version)
      else .ok settings) ∧
    ∀ chosen : List Setting, chosen.Nodup → ∀ (spacing : Ron.Spacing) (names : Bool),
      ofText (settings.textOf chosen spacing names) =
        if .version ∈ chosen ∧ currentVersion < settings.version then
          .error (.newerVersion settings.version)
        else .ok (settings.only chosen) := by
  constructor
  · obtain ⟨text, written, reads⟩ := settings.exists_toText
    refine ⟨_, written, ?_⟩
    rw [settings.ofText_of_reads (by decide) reads, only_all]
    exact if_congr (and_iff_right (by decide)) rfl rfl
  · intro chosen distinct spacing names
    exact settings.ofText_of_reads distinct
      (spacing.reads_recordText (settings.wellNamed_record chosen names))

/-- Settings whose texts and whose sigil have to be escaped. -/
def quotedSettings : AssemblySettings where
  version := 0
  sigil := '\''
  separator := "\"\\\""
  includeKeyword := "\x00\n\u0301"
  indent := ""
  emitDeclarations := false

/-- Blanks as they may stand in a text written by hand. -/
def looseSpacing : Ron.Spacing where
  opening := ['\n', ' ']
  colon := [' ']
  between := ['\t']
  closing := [',', '\n']
  blankOpening := List.all_eq_true.mp rfl
  blankColon := List.all_eq_true.mp rfl
  blankBetween := List.all_eq_true.mp rfl
  isTail := .inr ⟨['\n'], rfl, List.all_eq_true.mp rfl⟩

/-- What is escaped is read back, and what is left out is read as the standard has it. -/
theorem ofText_quotedSettings :
    (∃ text, quotedSettings.toText = .ok text ∧ ofText text = .ok quotedSettings) ∧
      quotedSettings.textOf [.indent, .sigil] looseSpacing false =
        "(\n indent: \"\",\tsigil: '\\'',\n)" ∧
      ofText (quotedSettings.textOf [.indent, .sigil] looseSpacing false) =
        .ok { standard with sigil := '\'', indent := "" } ∧
      ofText ({ quotedSettings with version := 2 }.textOf [.version] looseSpacing true) =
        .error (.newerVersion 2) :=
  ⟨quotedSettings.ofText_written.1, by decide +kernel,
    quotedSettings.ofText_written.2 [.indent, .sigil] (by decide) looseSpacing false,
    { quotedSettings with version := 2 }.ofText_written.2 [.version] (by decide) looseSpacing true⟩

end AssemblySettings

end ShadingGraph
