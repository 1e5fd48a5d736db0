import ShadingGraph.Codec.Datum
import ShadingGraph.Number.Layout
import ShadingGraph.Text.Escape

/-! # Writing RON

A style says whether every item stands on a line of its own and whether records carry
their names. Data that are nested too deeply are not written, where the bound grows
with each list, tuple, map and record that has been written.
-/

namespace ShadingGraph

/-- Numbers in RON: never an exponent, and a sign also before a not-a-number. -/
def FloatLayout.ron : FloatLayout := ⟨.upper, none, false, true⟩

namespace Ron

/-- How RON text is laid out. -/
structure Style where
  /-- Whether items stand on lines of their own, four spaces further in. -/
  lines : Bool
  /-- Whether records begin with their names. -/
  names : Bool
  deriving DecidableEq, Repr

def Style.compact : Style := ⟨false, false⟩

/-- Style with a line for each item. -/
def Style.pretty : Style := ⟨true, false⟩

/-- Style with a line for each item and with names of records. -/
def Style.prettyNamed : Style := ⟨true, true⟩

namespace Style

/-- Beginning of a line at a level. -/
def lineBreak (style : Style) (level : Nat) : List Char :=
  if style.lines then '\n' :: List.replicate (4 * level) ' ' else []

/-- Mark between a name and its value. -/
def colon (style : Style) : List Char :=
  if style.lines then [':', ' '] else [':']

/-- Mark between items that share a line. -/
def comma (style : Style) : List Char :=
  if style.lines then [',', ' '] else [',']

/-- End of the last item, before the closing mark at a level. -/
def lastBreak (style : Style) (level : Nat) : List Char :=
  if style.lines then ',' :: style.lineBreak level else []

end Style

def charText (c : Char) : List Char :=
  if c = '\'' ∨ c = '\\' then ['\'', '\\', c, '\''] else ['\'', c, '\'']

end Ron

namespace Datum

open Ron

/-- Steps left after what stands one step further in. -/
def oneStepIn (inside : Nat → Option Nat) : Nat → Option Nat
  | 0 => none
  | steps + 1 => (inside steps).map (· + 1)

mutual

/-- Steps that may lead further in after a datum, from those that may at its
beginning; `none` if they do not suffice. One leads to each item of a list, tuple, map
or record, and one to what `Some` or an alternative holds. Each list, tuple, map or
record allows one more after its end. -/
def stepsAfter? : Datum → Nat → Option Nat
  | .present value, steps => oneStepIn (stepsAfter? value) steps
  | .variant _ payload, steps => oneStepIn (stepsAfter? payload) steps
  | .list items, steps => (itemStepsAfter? items steps).map (· + 1)
  | .tuple items, steps => (itemStepsAfter? items steps).map (· + 1)
  | .map entries, steps => (memberStepsAfter? entries steps).map (· + 1)
  | .record _ members, steps => (memberStepsAfter? members steps).map (· + 1)
  | _, steps => some steps

def itemStepsAfter? : List Datum → Nat → Option Nat
  | [], steps => some steps
  | item :: rest, steps => (oneStepIn (stepsAfter? item) steps).bind (itemStepsAfter? rest)

def memberStepsAfter? : List (String × Datum) → Nat → Option Nat
  | [], steps => some steps
  | (_, value) :: rest, steps =>
    (oneStepIn (stepsAfter? value) steps).bind (memberStepsAfter? rest)

end

mutual

def ron (style : Style) (level : Nat) : Datum → List Char
  | .bool true => ['t', 'r', 'u', 'e']
  | .bool false => ['f', 'a', 'l', 's', 'e']
  | .int value => integerChars value
  | .float value => FloatLayout.ron.chars value
  | .char value => charText value
  | .text value => Text.quoted true value
  | .absent => ['N', 'o', 'n', 'e']
  | .present value => ['S', 'o', 'm', 'e', '('] ++ ron style level value ++ [')']
  | .list [] => ['[', ']']
  | .list (item :: rest) =>
    '[' :: style.lineBreak (level + 1) ++ ron style (level + 1) item
      ++ ronItems style (level + 1) rest ++ style.lastBreak level ++ [']']
  | .tuple [] => ['(', ')']
  | .tuple (item :: rest) => '(' :: ron style level item ++ ronTuple style level rest ++ [')']
  | .map [] => ['\x7b', '\x7d']
  | .map (entry :: rest) =>
    '\x7b' :: style.lineBreak (level + 1) ++ Text.quoted true entry.1 ++ style.colon
      ++ ron style (level + 1) entry.2 ++ ronEntries style (level + 1) rest
      ++ style.lastBreak level ++ ['\x7d']
  | .record name [] => (if style.names then name.toList else []) ++ ['(', ')']
  | .record name (member :: rest) =>
    (if style.names then name.toList else []) ++ '(' :: style.lineBreak (level + 1)
      ++ member.1.toList ++ style.colon ++ ron style (level + 1) member.2
      ++ ronMembers style (level + 1) rest ++ style.lastBreak level ++ [')']
  | .unit name => name.toList
  | .variant name payload => name.toList ++ '(' :: ron style level payload ++ [')']

/-- Further items of a list. -/
def ronItems (style : Style) (level : Nat) : List Datum → List Char
  | [] => []
  | item :: rest =>
    ',' :: style.lineBreak level ++ ron style level item ++ ronItems style level rest

def ronTuple (style : Style) (level : Nat) : List Datum → List Char
  | [] => []
  | item :: rest => style.comma ++ ron style level item ++ ronTuple style level rest

def ronEntries (style : Style) (level : Nat) : List (String × Datum) → List Char
  | [] => []
  | (name, value) :: rest =>
    ',' :: style.lineBreak level ++ Text.quoted true name ++ style.colon
      ++ ron style level value ++ ronEntries style level rest

def ronMembers (style : Style) (level : Nat) : List (String × Datum) → List Char
  | [] => []
  | (name, value) :: rest =>
    ',' :: style.lineBreak level ++ name.toList ++ style.colon ++ ron style level value
      ++ ronMembers style level rest

end

/-- Steps that may lead into a text at its beginning. -/
def maxSteps : Nat := 128

/-- RON text of a datum, unless it is nested too deeply. -/
def toRon? (style : Style) (datum : Datum) : Option String :=
  (stepsAfter? datum maxSteps).map fun _ => String.ofList (datum.ron style 0)

end Datum

end ShadingGraph
