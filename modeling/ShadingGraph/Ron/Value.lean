/-! # RON values

A value read from RON text, before it is known which type it is to have. Numerals
keep their characters, because the type decides how they are read.
-/

namespace ShadingGraph

namespace Ron

/-- An identifier. One that is written with `r#` is a name and never a keyword. -/
structure Word where
  raw : Bool
  text : String
  deriving DecidableEq, Repr

/-- Whether the word is a keyword written as such. -/
def Word.isKeyword (word : Word) (keyword : String) : Bool :=
  !word.raw && word.text == keyword

/-- How the content of the parentheses after `Some` counts where the value is dropped. -/
inductive Content where
  /-- The only value there. -/
  | item
  /-- All that is there, as if it had parentheses of its own. -/
  | whole
  /-- It cannot be told. -/
  | unclear
  deriving DecidableEq, Repr

end Ron

inductive Ron where
  /-- A numeral as it is written. -/
  | number (chars : List Char)
  | string (value : String)
  | char (value : Char)
  /-- A byte or a string of bytes; no type here is made of them. -/
  | bytes
  /-- Parentheses with nothing between them, not even a blank. -/
  | unit
  /-- An identifier by itself. -/
  | symbol (word : Ron.Word)
  | list (items : List Ron)
  | map (entries : List (Ron × Ron))
  /-- Values in parentheses, after a name if there is one. -/
  | tuple (name : Option Ron.Word) (items : List Ron)
  /-- Named members in parentheses, after a name if there is one. -/
  | record (name : Option Ron.Word) (members : List (Ron.Word × Ron))
  /-- The keyword `Some` with what stands in parentheses after it. -/
  | present (group : Ron) (content : Ron.Content)
  deriving Repr

namespace Ron

/-- Value in parentheses with nothing before it. -/
def single (value : Ron) : Ron := .tuple none [value]

/-- Extensions of the format that change how a value is read. -/
structure Extensions where
  /-- A value that may be missing needs no `Some` when it is there, and `Some` needs no
  parentheses. -/
  implicitSome : Bool
  /-- A record begins with its name. -/
  explicitNames : Bool
  /-- A record or a tuple after `Some` shares its parentheses. -/
  sharedParentheses : Bool
  deriving DecidableEq, Repr

def Extensions.none : Extensions := ⟨false, false, false⟩

def Extensions.union (a b : Extensions) : Extensions :=
  ⟨a.implicitSome || b.implicitSome, a.explicitNames || b.explicitNames,
    a.sharedParentheses || b.sharedParentheses⟩

end Ron

end ShadingGraph
