import ShadingGraph.Ron.Outline

/-! # Reading RON

A parser takes a text and gives a value with the rest of the text. The value parser
recurses on fuel; `Ron.parse?` provides more than a text of that length can use up,
which is three steps for an opening parenthesis and fewer for any other character.
-/

namespace ShadingGraph.Ron

/-- A name with the colon after it, and the rest of the text from the value on. -/
def memberName? (text : List Char) : Option (Word × List Char) := do
  let (name, rest) ← word? text
  match ← skipBlank? rest with
  | ':' :: rest => return (name, ← skipBlank? rest)
  | _ => none

section

variable (enabled : Extensions)

mutual

/-- A value at the beginning of a text. -/
def value? : Nat → List Char → Option (Ron × List Char)
  | 0, _ => none
  | fuel + 1, text =>
    match literal? text with
    | some found => found
    | none =>
      match text with
      | [] => none
      | '[' :: rest => (items? ']' fuel rest).map fun (items, rest) => (.list items, rest)
      | '\x7b' :: rest => (entries? fuel rest).map fun (entries, rest) => (.map entries, rest)
      | '(' :: ')' :: rest => some (.unit, rest)
      | '(' :: rest => group? fuel none rest
      | c :: rest =>
        if isNumberStart c then
          some (.number ((c :: rest).takeWhile isNumberChar), (c :: rest).dropWhile isNumberChar)
        else
          match dropSome? (c :: rest) with
          | some rest => (skipBlank? rest).bind (present? fuel)
          | none =>
            match word? (c :: rest) with
            | none => none
            | some (word, rest) =>
              match skipBlank? rest with
              | some ('(' :: inside) => group? fuel (some word) inside
              | _ => some (.symbol word, rest)

/-- What stands after the keyword `Some`. -/
def present? : Nat → List Char → Option (Ron × List Char)
  | 0, _ => none
  | fuel + 1, '(' :: inside =>
    let content := if enabled.sharedParentheses then contentOf inside else .item
    match skipBlank? inside with
    | some (')' :: rest) => some (.present .unit content, rest)
    | _ => (group? fuel none inside).map fun (group, rest) => (.present group content, rest)
  | fuel + 1, text =>
    if enabled.implicitSome then
      (value? fuel text).map fun (value, rest) => (.present (.single value) .item, rest)
    else none

/-- What stands in parentheses, after the opening one: named members if the first
thing is a name with a colon, else values. -/
def group? : Nat → Option Word → List Char → Option (Ron × List Char)
  | 0, _, _ => none
  | fuel + 1, name, text =>
    if ((skipBlank? text).bind memberName?).isSome then
      (members? fuel text).map fun (members, rest) => (.record name members, rest)
    else
      (items? ')' fuel text).map fun (items, rest) => (.tuple name items, rest)

/-- Values with commas between them, up to the closing mark. -/
def items? (close : Char) : Nat → List Char → Option (List Ron × List Char)
  | 0, _ => none
  | fuel + 1, text =>
    match skipBlank? text with
    | none => none
    | some [] => none
    | some (c :: rest) =>
      if c = close then some ([], rest)
      else
        match value? fuel (c :: rest) with
        | none => none
        | some (item, rest) =>
          match skipBlank? rest with
          | some (',' :: rest) =>
            (items? close fuel rest).map fun (items, rest) => (item :: items, rest)
          | some (d :: rest) => if d = close then some ([item], rest) else none
          | _ => none

/-- Keys and values of a map, up to the closing brace. -/
def entries? : Nat → List Char → Option (List (Ron × Ron) × List Char)
  | 0, _ => none
  | fuel + 1, text =>
    match skipBlank? text with
    | none => none
    | some [] => none
    | some ('\x7d' :: rest) => some ([], rest)
    | some (c :: rest) =>
      match value? fuel (c :: rest) with
      | none => none
      | some (key, rest) =>
        match skipBlank? rest with
        | some (':' :: rest) =>
          match (skipBlank? rest).bind (value? fuel) with
          | none => none
          | some (value, rest) =>
            match skipBlank? rest with
            | some (',' :: rest) =>
              (entries? fuel rest).map fun (entries, rest) => ((key, value) :: entries, rest)
            | some ('\x7d' :: rest) => some ([(key, value)], rest)
            | _ => none
        | _ => none

/-- Named members, up to the closing parenthesis. -/
def members? : Nat → List Char → Option (List (Word × Ron) × List Char)
  | 0, _ => none
  | fuel + 1, text =>
    match skipBlank? text with
    | none => none
    | some [] => none
    | some (')' :: rest) => some ([], rest)
    | some (c :: rest) =>
      match memberName? (c :: rest) with
      | none => none
      | some (name, rest) =>
        match value? fuel rest with
        | none => none
        | some (value, rest) =>
          match skipBlank? rest with
          | some (',' :: rest) =>
            (members? fuel rest).map fun (members, rest) => ((name, value) :: members, rest)
          | some (')' :: rest) => some ([(name, value)], rest)
          | _ => none

end

end

/-- Extension of a name; one of them changes nothing for the types here. -/
def extension? : String → Option Extensions
  | "implicit_some" => some { Extensions.none with implicitSome := true }
  | "explicit_struct_names" => some { Extensions.none with explicitNames := true }
  | "unwrap_newtypes" => some .none
  | "unwrap_variant_newtypes" => some { Extensions.none with sharedParentheses := true }
  | _ => none

/-- Rest of a text after tokens that may have blanks after each. -/
def tokens? : List (List Char) → List Char → Option (List Char)
  | [], text => some text
  | token :: tokens, text => do
    tokens? tokens (← skipBlank? (← Text.dropStart? token text))

/-- Names of extensions with commas between them, at least one. -/
def extensionNames? : Nat → List Char → Option (Extensions × List Char)
  | 0, _ => none
  | fuel + 1, text => do
    let (name, rest) ← word? text
    let extension ← extension? name.text
    match ← skipBlank? rest with
    | ',' :: rest =>
      match ← skipBlank? rest with
      | c :: rest =>
        if isNameStart c then
          let (more, rest) ← extensionNames? fuel (c :: rest)
          return (extension.union more, rest)
        else return (extension, c :: rest)
      | [] => return (extension, [])
    | rest => return (extension, rest)

/-- Attributes that enable extensions, with the blanks around them. -/
def attributes? : Nat → List Char → Option (Extensions × List Char)
  | 0, _ => none
  | fuel + 1, text => do
    match ← skipBlank? text with
    | '#' :: rest =>
      let rest ← tokens? [['#'], ['!'], ['['], ['e', 'n', 'a', 'b', 'l', 'e'], ['(']] ('#' :: rest)
      let (extensions, rest) ← extensionNames? fuel rest
      let rest ← tokens? [[')'], [']']] rest
      let (more, rest) ← attributes? fuel rest
      return (extensions.union more, rest)
    | rest => return (.none, rest)

/-- Value of a RON text with the extensions it enables; nothing but blanks may follow
the value. -/
def parse? (text : String) : Option (Extensions × Ron) := do
  let length := text.toList.length
  let (extensions, rest) ← attributes? (length + 1) text.toList
  let (value, rest) ← value? extensions (3 * length + 3) rest
  if (← skipBlank? rest).isEmpty then return (extensions, value) else none

end ShadingGraph.Ron
