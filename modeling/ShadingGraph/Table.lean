/-! # Tables

A table is a list of entries in which each key stands once, in the order in which
the keys were first put in. Putting a key in again keeps its place.
-/

namespace ShadingGraph.Table

variable {κ ν : Type} [DecidableEq κ]

def find? : List (κ × ν) → κ → Option ν
  | [], _ => none
  | (k, v) :: rest, key => if k = key then some v else find? rest key

/-- Put a value under a key: in the place of the key's entry, else at the end. -/
def insert : List (κ × ν) → κ → ν → List (κ × ν)
  | [], key, value => [(key, value)]
  | (k, v) :: rest, key, value =>
    if k = key then (k, value) :: rest else (k, v) :: insert rest key value

def erase : List (κ × ν) → κ → List (κ × ν)
  | [], _ => []
  | (k, v) :: rest, key => if k = key then rest else (k, v) :: erase rest key

def contains (entries : List (κ × ν)) (key : κ) : Bool :=
  (find? entries key).isSome

/-- Table of a list of pairs, put in one after the other. -/
def ofList (pairs : List (κ × ν)) : List (κ × ν) :=
  pairs.foldl (fun entries pair => insert entries pair.1 pair.2) []

def keys (entries : List (κ × ν)) : List κ :=
  entries.map (·.1)

/-- Add an item that is not yet in the list at its end. -/
def addNew (items : List κ) (item : κ) : List κ :=
  if item ∈ items then items else items ++ [item]

end ShadingGraph.Table
