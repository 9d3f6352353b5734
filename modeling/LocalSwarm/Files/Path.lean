/-! Paths as texts. A path is a list of pieces between slashes; empty pieces and dots within it mean
nothing. -/
namespace LocalSwarm.Files

/-- What a path leads through. -/
inductive Component where
  | root
  | here
  | up
  | name (text : String)
deriving DecidableEq

namespace Path

/-- The pieces between slashes; of the empty text the one empty piece. -/
def splitSlash (text : List Char) : List (List Char) :=
  text.foldr
    (fun c pieces =>
      if c = '/' then [] :: pieces
      else
        match pieces with
        | first :: rest => (c :: first) :: rest
        | [] => [[c]])
    [[]]

def pieces (path : String) : List String := (splitSlash path.toList).map String.ofList

def parts (path : String) : List String := (pieces path).filter (· ≠ "")

def isAbsolute (path : String) : Bool := path.toList.head? = some '/'

/-- A part within a path. A dot there means nothing. -/
def component? : String → Option Component
  | "" => none
  | "." => none
  | ".." => some .up
  | name => some (.name name)

/-- The components of a path. A dot counts only where a relative path begins with it. -/
def components (path : String) : List Component :=
  if isAbsolute path then .root :: (pieces path).filterMap component?
  else
    match pieces path with
    | "." :: rest => .here :: rest.filterMap component?
    | ps => ps.filterMap component?

/-- Whether a text names something directly inside a folder. -/
def isPlain (text : String) : Bool :=
  match components text with
  | [.name _] => true
  | _ => false

/-- The path that a further path leads to from a folder. An absolute one starts over. -/
def join (folder path : String) : String :=
  if isAbsolute path || folder = "" then path
  else if folder.toList.getLast? = some '/' then folder ++ path
  else folder ++ "/" ++ path

end Path
end LocalSwarm.Files
