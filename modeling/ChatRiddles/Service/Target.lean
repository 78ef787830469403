import ChatRiddles.Text.Blank
import ChatRiddles.Text.Percent
/-!
# Targets of requests

The target of a request is a path with an optional query. The path tells which of the handlers
`health`, `webhook`, `list_riddles` and `get_riddle` is asked for, once its percent signs are read.

A client is given an address that may have more than that: the name of a host, a fragment, and
pieces `.` and `..` in its path. It resolves these as in a tree of folders before it sends anything,
so no server sees them; a target that no such client has sent may hold them.

Main definitions: `Target.path` (the path that a server sees), `Target.sent` (what a client sends).
-/

namespace ChatRiddles

open Text

namespace Target

/-- A target without its query. -/
def withoutQuery (cs : List Char) : List Char := cs.takeWhile fun c => c != '?' && c != '#'

/-- The path of a target. -/
def path (target : String) : List Char := Percent.decode (withoutQuery target.toList)

/-! ## Clients -/

/-- An address without the name of a host before its path. -/
def withoutHost : List Char → List Char
  | '/' :: '/' :: rest => rest.dropWhile (· != '/')
  | cs => cs

/-- Goes on from a folder to a piece of a path. The pieces that lead to the folder are given last
first; the outermost one cannot be left. -/
def enter (folder : List (List Char)) (piece : List Char) : List (List Char) :=
  if piece = ['.'] then folder
  else if piece = ['.', '.'] then
    match folder with
    | [] => []
    | [[]] => [[]]
    | _ :: outer => outer
  else piece :: folder

/-- A path in which `.` and `..` are resolved; an empty path is the outermost folder. -/
def resolved (cs : List Char) : List Char :=
  match joinWith ['/'] ((splitAt '/' cs).foldl enter []).reverse with
  | [] => ['/']
  | path => path

/-- The target that a client sends for an address. -/
def sent (address : String) : String :=
  let cs := withoutHost address.toList
  let query := (cs.drop (withoutQuery cs).length).takeWhile (· != '#')
  String.ofList (resolved ('/' :: (withoutQuery cs).dropWhile (· == '/')) ++ query)

end Target

end ChatRiddles
