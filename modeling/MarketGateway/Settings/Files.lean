import MarketGateway.Text.Ascii

/-!
# Files

What opening a path gives is the business of the system: `Files` may be any of its answers. A `Directory`
answers as a working directory does, where a path is followed name by name and each name but the last has
to be that of a directory; what lies outside of it is given.
-/

namespace MarketGateway

/-- What comes out of something that has been opened: its bytes, or the first of them and the reason why
there are no more. -/
structure Content where
  bytes : List UInt8
  failure : Option String
deriving DecidableEq

def Content.ofText (text : String) : Content := ⟨text.toUTF8.data.toList, none⟩

inductive Opening where
  | missing
  | refused (reason : String)
  | opened (content : Content)
deriving DecidableEq

/-- What opening each path gives. -/
abbrev Files := String → Opening

/-! ### Directories -/

inductive OpenError where
  | missing
  | notDirectory
  | nameTooLong
  | zeroByte
  | other (reason : String)
deriving DecidableEq

def OpenError.message : OpenError → String
  | .missing => "No such file or directory (os error 2)"
  | .notDirectory => "Not a directory (os error 20)"
  | .nameTooLong => "File name too long (os error 36)"
  | .zeroByte => "file name contained an unexpected NUL byte"
  | .other reason => reason

inductive Node where
  | file (bytes : List UInt8)
  | directory
deriving DecidableEq

/-- The files of a working directory, by name, and what the paths lead to that leave it. -/
structure Directory where
  files : List (String × List UInt8)
  outside : String → Except OpenError Node

namespace Directory

/-- The names in a path, empty ones included. -/
def names (path : String) : List String :=
  (Text.pieces (· = '/') path.toList).map String.ofList

/-- What is at a place inside. A name of a file inside a directory makes the directory exist. -/
def node? (d : Directory) (place : List String) : Option Node :=
  if place = [] then some .directory
  else match d.files.find? fun f => names f.1 == place with
    | some f => some (.file f.2)
    | none => if d.files.any fun f => place.isPrefixOf (names f.1) then some .directory else none

/-- The most bytes that one name of a path may have. -/
def maxName : Nat := 255

def maxPath : Nat := 4095

/-- Follows names from a place inside, unless they leave the working directory. -/
def follow (d : Directory) (place : List String) : List String → Option (Except OpenError Node)
  | [] => some ((d.node? place).elim (.error .missing) .ok)
  | name :: rest =>
    match d.node? place with
    | none => some (.error .missing)
    | some (.file _) => some (.error .notDirectory)
    | some .directory =>
      if name = "" ∨ name = "." then d.follow place rest
      else if name = ".." then if place = [] then none else d.follow place.dropLast rest
      else if maxName < name.utf8ByteSize then some (.error .nameTooLong)
      else d.follow (place ++ [name]) rest

def find (d : Directory) (path : String) : Except OpenError Node :=
  if path.contains '\x00' then .error .zeroByte
  else if path = "" then .error .missing
  else if maxPath < path.utf8ByteSize then .error .nameTooLong
  else if Text.startsWith path "/" then d.outside path
  else (d.follow [] (names path)).getD (d.outside path)

/-- A directory can be opened, but not read. -/
def opening (d : Directory) : Files := fun path =>
  match d.find path with
  | .ok (.file bytes) => .opened ⟨bytes, none⟩
  | .ok .directory => .opened ⟨[], some "Is a directory (os error 21)"⟩
  | .error .missing => .missing
  | .error e => .refused e.message

end Directory

end MarketGateway
