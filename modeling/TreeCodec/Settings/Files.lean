/-!
Files as far as settings need them: the regular files below a directory, each
with its text. A name is looked up part by part, so that `./a//b` is `a/b`; a
name that ends as the name of a directory does is no file.
-/

namespace TreeCodec.Settings

structure File where
  path : List (List Char)
  text : List Char
deriving DecidableEq, Repr

def splitSlashes : List Char → List (List Char)
  | [] => [[]]
  | c :: rest =>
    if c = '/' then [] :: splitSlashes rest
    else
      match splitSlashes rest with
      | [] => [[c]]
      | piece :: pieces => (c :: piece) :: pieces

/-- Whether a piece of a path stays where it is. -/
def staysPut (piece : List Char) : Bool :=
  piece.isEmpty || piece = ['.']

def pathParts (name : List Char) : List (List Char) :=
  (if name.head? = some '/' then [['/']] else [])
    ++ (splitSlashes name).filter (!staysPut ·)

def pathText (path : List (List Char)) : List Char :=
  match path with
  | ['/'] :: rest => '/' :: (rest.intersperse ['/']).flatten
  | path => (path.intersperse ['/']).flatten

def File.named (name : String) (text : String) : File :=
  ⟨pathParts name.toList, text.toList⟩

/-- The path with an extension added to its last part. -/
def withExtension (extension : List Char) : List (List Char) → List (List Char)
  | [] => []
  | [last] => [last ++ extension]
  | part :: rest => part :: withExtension extension rest

/-- The paths at which a file is looked for, in this order: the name as it is,
and with the extension of settings files. -/
def candidates (name : String) : List (List (List Char)) :=
  let path := pathParts name.toList
  let added := withExtension ".toml".toList path
  if (splitSlashes name.toList).getLast?.any staysPut then [added]
  else [path, added]

def findFile? (files : List File) (name : String) : Option File :=
  (candidates name).findSome? fun path => files.find? (·.path == path)

end TreeCodec.Settings
