/-!
# Runs of names

The names of characters that follow each other often begin alike. A run holds the names of such
characters in one text: for each name a small letter that tells how many characters it shares with
the name before it, and then the others. The letter `a` stands for none, `b` for one, and so on.
Line feeds do not count.
-/

namespace ChatRiddles.Text.Names

/-- The names of characters that follow each other. -/
structure Run where
  first : Nat
  text : String

/-- A name in a run: how many characters it shares with the name before it, and the others. -/
structure Entry where
  -- the number of characters that are shared
  shared : Nat
  rest : List Char

/-- The names in the text of a run. -/
def entriesOf (text : List Char) : List Entry :=
  (text.foldr (fun c (rest, entries) =>
    if c = '\n' then (rest, entries)
    else if c.isLower then ([], ⟨c.toNat - 'a'.toNat, rest⟩ :: entries)
    else (c :: rest, entries)) ([], [])).2

/-- The first character of a name among characters from `code` on, `previous` being the name
before. -/
def findIn (name : List Char) (code : Nat) (previous : List Char) : List Entry → Option Nat
  | [] => none
  | e :: others =>
    let current := previous.take e.shared ++ e.rest
    if current = name then some code else findIn name (code + 1) current others

/-- The character of a name in a run. -/
def Run.find? (r : Run) (name : List Char) : Option Nat :=
  findIn name r.first [] (entriesOf r.text.toList)

end ChatRiddles.Text.Names
