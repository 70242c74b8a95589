import TestRig.Path

/-!
Search lists: directories in one text, separated by colons. An entry leaves the list as a whole, and
the entries that stay keep their text.
-/

namespace TestRig.Path.SearchList

def entries (list : List Char) : List (List Char) := Text.pieces ':' list

def ofEntries (items : List (List Char)) : List Char := Text.joined ':' items

/-- The entries that do not name the directory `dir`. -/
def without (list dir : List Char) : List Char :=
  ofEntries ((entries list).filter fun entry => !same entry dir)

def strip (list dir : String) : String := String.ofList (without list.toList dir.toList)

end TestRig.Path.SearchList
