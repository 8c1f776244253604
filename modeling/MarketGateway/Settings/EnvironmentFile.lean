import MarketGateway.Settings.Files
import MarketGateway.Text.Alphanumeric
import MarketGateway.Text.Blank
import MarketGateway.Text.Quoted

/-!
# Environment files

A file of lines `NAME=value`, each in UTF-8. Values may be quoted: nothing is special between single
quotes, and between double quotes only backslashes and `$NAME`. A line sees the variables of the
environment and those that the lines before it have set, and no line changes a variable that is set already.
-/

namespace MarketGateway

/-- The variables that are set; of two entries for one name the first counts. A variable whose value is no
text reads as one that is not set, and is not among them. -/
abbrev Environment := List (String × String)

namespace Environment

def get? (env : Environment) (name : String) : Option String :=
  (env.find? fun v => v.1 == name).map Prod.snd

/-- Sets a variable that is not set yet; no variable can have a value with a zero character. -/
def provide? (env : Environment) (name value : String) : Option Environment :=
  if (env.get? name).isSome then some env
  else if '\x00' ∈ value.toList then none
  else some (env ++ [(name, value)])

end Environment

namespace EnvironmentFile

/-- A line, or the value in it, with the place in it that is wrong. -/
structure LineError where
  text : String
  index : Nat
deriving DecidableEq

def LineError.message (e : LineError) : String :=
  "Error parsing line: '" ++ e.text ++ "', error at line index: " ++ toString e.index

/-! ### Values -/

inductive Mode where
  | plain
  | afterBackslash
  | singleQuotes
  | name (sofar : List Char)
  | bracedName (sofar : List Char)
  /-- Behind the blank that ends a value. -/
  | ended

structure ValueState where
  mode : Mode
  doubleQuotes : Bool
  value : List Char

namespace ValueState

def initial : ValueState := ⟨.plain, false, []⟩

def push (s : ValueState) (cs : List Char) : ValueState :=
  { s with mode := .plain, value := s.value ++ cs }

/-- The value of a variable; one that is not set is empty. -/
def lookUp (env : Environment) (name : List Char) : List Char :=
  ((env.get? (String.ofList name)).getD "").toList

def escaped? (c : Char) : Option Char :=
  if c = '\\' || c = '\'' || c = '"' || c = '$' || c = ' ' then some c
  else if c = 'n' then some '\n'
  else none

def stepPlain (s : ValueState) (c : Char) : ValueState :=
  if c = '$' then { s with mode := .name [] }
  else if c = '\\' then { s with mode := .afterBackslash }
  else if s.doubleQuotes then
    if c = '"' then { s with doubleQuotes := false } else s.push [c]
  else if c = '\'' then { s with mode := .singleQuotes }
  else if c = '"' then { s with doubleQuotes := true }
  else if c = ' ' || c = '\t' then { s with mode := .ended }
  else s.push [c]

/-- The character that ends a name without braces belongs to the value, whatever it is; only `$`
begins the next name. -/
def stepName (env : Environment) (s : ValueState) (sofar : List Char) (c : Char) : ValueState :=
  if Text.isAlphanumeric c then { s with mode := .name (sofar ++ [c]) }
  else if c = '{' && sofar.isEmpty then { s with mode := .bracedName [] }
  else if c = '$' then { s.push (lookUp env sofar) with mode := .name [] }
  else s.push (lookUp env sofar ++ [c])

/-- The state after one more character, if it may stand there. -/
def step (env : Environment) (s : ValueState) (c : Char) : Option ValueState :=
  match s.mode with
  | .plain => some (s.stepPlain c)
  | .afterBackslash => (escaped? c).map fun e => s.push [e]
  | .singleQuotes =>
    some (if c = '\'' then { s with mode := .plain } else { s.push [c] with mode := .singleQuotes })
  | .name sofar => some (s.stepName env sofar c)
  | .bracedName sofar =>
    some (if c = '}' then s.push (lookUp env sofar)
      else { s with mode := .bracedName (sofar ++ [c]) })
  | .ended => if c = ' ' || c = '\t' then some s else none

/-- The value, unless a quote or a brace is still open. -/
def finish? (env : Environment) (s : ValueState) : Option (List Char) :=
  match s.mode with
  | .singleQuotes | .bracedName _ => none
  | .name sofar => if s.doubleQuotes then none else some (s.value ++ lookUp env sofar)
  | _ => if s.doubleQuotes then none else some s.value

/-- A comment may follow the blank that ends a value. -/
def beginsComment (s : ValueState) (c : Char) : Bool :=
  match s.mode with
  | .ended => c = '#'
  | _ => false

end ValueState

/-- Reads on at `index`. -/
def readValueFrom (env : Environment) (text : String) (s : ValueState) (index : Nat) :
    List Char → Except LineError (List Char)
  | [] =>
    match s.finish? env with
    | some value => .ok value
    | none => .error ⟨text, text.utf8ByteSize - 1⟩
  | c :: cs =>
    if s.beginsComment c then readValueFrom env text s index []
    else match s.step env c with
      | some next => readValueFrom env text next (index + 1) cs
      | none => .error ⟨text, index⟩

def readValue (env : Environment) (cs : List Char) : Except LineError (List Char) :=
  readValueFrom env (String.ofList cs) .initial 0 cs

/-! ### Lines -/

def isNameStart (c : Char) : Bool := c.isAlpha || c = '_'

def isNamePart (c : Char) : Bool := c.isAlphanum || c = '_' || c = '.'

/-- Nothing follows, or a comment. -/
def isOver (cs : List Char) : Bool := cs.isEmpty || cs.head? == some '#'

/-- The error of a line of which `rest` is not as it should be. -/
def errorAt (line : String) (rest : List Char) : LineError :=
  ⟨line, (String.ofList (Text.trimEnd line.toList)).utf8ByteSize - (String.ofList rest).utf8ByteSize⟩

/-- A name, without the blanks around it. -/
def readName (line : String) (cs : List Char) : Except LineError (String × List Char) :=
  match cs with
  | c :: _ =>
    if isNameStart c then
      .ok (String.ofList (cs.takeWhile isNamePart), (cs.dropWhile isNamePart).dropWhile Text.isBlank)
    else .error (errorAt line cs)
  | [] => .error (errorAt line cs)

def readEquals (line : String) : List Char → Except LineError (List Char)
  | '=' :: cs => .ok cs
  | cs => .error (errorAt line cs)

/-- The name before the equals sign; the word `export` may stand in front of it. -/
def readKey (line : String) (cs : List Char) : Except LineError (String × List Char) := do
  let (name, rest) ← readName line cs
  if name = "export" && rest.head? != some '=' then
    let (name, rest) ← readName line rest
    return (name, ← readEquals line rest)
  return (name, ← readEquals line rest)

/-- The variable that a line sets; blank lines and comments set none. -/
def readLine (env : Environment) (line : String) : Except LineError (Option (String × String)) := do
  let cs := (Text.trimEnd line.toList).dropWhile Text.isBlank
  if isOver cs then return none
  let (name, rest) ← readKey line cs
  let rest := rest.dropWhile Text.isBlank
  if isOver rest then return some (name, "")
  return some (name, String.ofList (← readValue env rest))

/-! ### Files -/

/-- What is wrong with a file. -/
inductive LoadError where
  | line (error : LineError)
  | encoding
  | reading (reason : String)
deriving DecidableEq

def LoadError.message : LoadError → String
  | .line error => error.message
  | .encoding => "stream did not contain valid UTF-8"
  | .reading reason => reason

/-- A variable that was to have a value that it cannot have. -/
structure Unsettable where
  name : String
  value : String
deriving DecidableEq

def Unsettable.message (v : Unsettable) : String :=
  "failed to set environment variable `" ++ Text.quoted v.name ++ "` to `" ++ Text.quoted v.value ++
    "`: file name contained an unexpected NUL byte"

/-- What keeps a file from being loaded. A variable that cannot be set is no error but ends the program. -/
inductive LoadFault where
  | error (error : LoadError)
  | unsettable (wanted : Unsettable)
deriving DecidableEq

def withoutReturn (bytes : List UInt8) : List UInt8 :=
  if bytes.getLast? = some 13 then bytes.dropLast else bytes

/-- The lines that can be read of a file. What follows the last line break is a line if it is not empty
and nothing is missing behind it. -/
def lines (content : Content) : List (List UInt8) :=
  let pieces := Text.pieces (· = 10) content.bytes
  let last := pieces.getLastD []
  let broken := pieces.dropLast.map withoutReturn
  if last.isEmpty || content.failure.isSome then broken else broken ++ [last]

def decode? (bytes : List UInt8) : Option String := String.fromUTF8? bytes.toByteArray

/-- The environment after one more line. -/
def loadLine (env : Environment) (bytes : List UInt8) : Except LoadFault Environment :=
  match decode? bytes with
  | none => .error (.error .encoding)
  | some line =>
    match readLine env line with
    | .error e => .error (.error (.line e))
    | .ok none => .ok env
    | .ok (some (name, value)) =>
      match env.provide? name value with
      | some env => .ok env
      | none => .error (.unsettable ⟨name, value⟩)

def load (env : Environment) (content : Content) : Except LoadFault Environment := do
  let env ← (lines content).foldlM loadLine env
  match content.failure with
  | some reason => throw (.error (.reading reason))
  | none => return env

end EnvironmentFile

end MarketGateway
