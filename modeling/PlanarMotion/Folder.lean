import PlanarMotion.Text.Quoted

/-!
# Folders

The files of a folder by their names, where a path leads, and why a file cannot be read.
A name may lead through subfolders, which exist as far as there are files in them.

A path is walked part by part: each part has to be there before the next one counts, also
if that one leads back up. Above the folder there are other folders, of whose contents
nothing is known; nothing is found there.

## Main definitions

* `tidyPath`: A path without needless parts.
* `plainName?`: The name of the file of a path whose folders need not be there yet.
* `ReadFailure`: Why a file cannot be read.
* `Folder`: Files with their contents.
* `Folder.place`: Where a path leads.
* `Folder.read`, `Folder.write`, `Folder.append`: Access to one file.
-/

namespace PlanarMotion

/-- The parts of a path that say something: not the empty ones and those that stay in
    place. -/
def pathParts (path : String) : List String :=
  (path.splitOn "/").filter fun part => !part.isEmpty && part != "."

/-- A path without needless parts. Two slashes in front stay two, since a path may mean
    something else with them; more are as good as one. -/
def tidyPath (path : String) : String :=
  let parts := pathParts path
  let slashes := (path.toList.takeWhile (· == '/')).length
  let start := if slashes = 0 then "" else if slashes = 2 then "//" else "/"
  if parts.isEmpty && start.isEmpty then "." else start ++ "/".intercalate parts

/-- The part that leads one folder up. -/
def upward : String :=
  ".."

/-- Whether a path starts at the root of all folders. -/
def isAbsolute (path : String) : Bool :=
  path.toList.head? == some '/'

/-- The name of the file of a path, where each way up takes back the part in front of it;
    `none` if the path leads out of the folder or only to the folder. -/
def plainName? (path : String) : Option String :=
  if isAbsolute path then none
  else
    let walk := fun (walked : List String) part =>
      if part != upward then some (walked ++ [part])
      else if walked.isEmpty then none
      else some walked.dropLast
    (((pathParts path).foldlM walk []).filter (!·.isEmpty)).map "/".intercalate

/-- Why a file cannot be read. -/
inductive ReadFailure where
  /-- There is nothing of that name. -/
  | notFound
  /-- A part of the path that leads further is a file. -/
  | notFolder
  /-- It is a folder. -/
  | isFolder
  /-- A part of the path, or all of it, is longer than any name may be. -/
  | nameTooLong
  /-- Any other reason of the operating system. -/
  | other (code : Nat) (reason : String)
  deriving DecidableEq, Repr

/-- The wording of a failure to read a path. -/
def ReadFailure.message (path : String) (f : ReadFailure) : String :=
  let (code, reason) :=
    match f with
    | .notFound => (2, "No such file or directory")
    | .notFolder => (20, "Not a directory")
    | .isFolder => (21, "Is a directory")
    | .nameTooLong => (36, "File name too long")
    | .other code reason => (code, reason)
  "[Errno " ++ toString code ++ "] " ++ reason ++ ": " ++ Text.messageQuoted (tidyPath path)

/-- The most bytes that a part of a path may have. -/
def maximalPart : Nat :=
  255

/-- The most bytes that a path may have. -/
def maximalPath : Nat :=
  4095

/-- Files with their contents, in the order in which they were made. -/
structure Folder where
  /-- Tidy paths and contents. -/
  files : List (String × String)

/-- A place that is there. -/
inductive Place where
  /-- A file or folder below the folder, or the folder itself if there are no parts. -/
  | inside (parts : List String)
  /-- A folder above. -/
  | above
  deriving DecidableEq, Repr

namespace Folder

/-- The content of a file, if it is there. -/
def content? (d : Folder) (name : String) : Option String :=
  (d.files.find? fun (known, _) => known == name).map (·.2)

/-- Whether a name is one of a folder: some file lies below it. -/
def hasFolder (d : Folder) (name : String) : Bool :=
  d.files.any fun (known, _) => (name ++ "/").toList.isPrefixOf known.toList

/-- Goes from one place to the next. -/
def enter (d : Folder) (place : Place) (part : String) : Except ReadFailure Place :=
  match place with
  | .above =>
    if part = upward then .ok .above
    else if maximalPart < part.utf8ByteSize then .error .nameTooLong
    else .error .notFound
  | .inside parts =>
    if (d.content? ("/".intercalate parts)).isSome then .error .notFolder
    -- One may go up from the folder, and nothing is known of what lies there.
    else if part = upward then .ok (if parts.isEmpty then .above else .inside parts.dropLast)
    else if maximalPart < part.utf8ByteSize then .error .nameTooLong
    else
      let name := "/".intercalate (parts ++ [part])
      if (d.content? name).isSome || d.hasFolder name then .ok (.inside (parts ++ [part]))
      else .error .notFound

/-- Where a path leads. -/
def place (d : Folder) (path : String) : Except ReadFailure Place :=
  if maximalPath < (tidyPath path).utf8ByteSize then .error .nameTooLong
  else (pathParts path).foldlM d.enter (if isAbsolute path then .above else .inside [])

/-- The content of a file, or why it cannot be read. -/
def read (d : Folder) (path : String) : Except ReadFailure String :=
  match d.place path with
  | .ok (.inside parts) =>
    match d.content? ("/".intercalate parts) with
    | some content => .ok content
    | none => .error .isFolder
  | .ok .above => .error .isFolder
  | .error f => .error f

/-- A folder with the content of a file replaced, or the file added behind the others. -/
def put (d : Folder) (name content : String) : Folder :=
  if (d.content? name).isSome then
    ⟨d.files.map fun (known, old) => (known, if known = name then content else old)⟩
  else ⟨d.files ++ [(name, content)]⟩

/-- A folder with the content replaced of the file that a path leads to. -/
def write (d : Folder) (path content : String) : Folder :=
  match d.place path with
  | .ok (.inside parts) => d.put ("/".intercalate parts) content
  | _ => d

/-- A folder with text added at the end of a file, which is made with its folders if it is
    missing. A file elsewhere leaves the folder as it is. -/
def append (d : Folder) (path text : String) : Folder :=
  match plainName? path with
  | some name => d.put name ((d.content? name).getD "" ++ text)
  | none => d

end Folder

end PlanarMotion
