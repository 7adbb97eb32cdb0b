import DeskScript.Error

/-!
# Files

The files of a working directory by path. A directory exists as long as some path leads through it.
The directories above the working directory exist too, but nothing is known to be in them. A text
file read has every line end as a line feed.
-/

namespace DeskScript

/-- What a file holds: a text, or an image known by its shape. -/
inductive Content where
  | text (s : String)
  | image (shape : List Nat)
  deriving DecidableEq, Repr, Inhabited

/-- The files in the order they were made, by the parts of their paths. -/
structure Files where
  entries : List (List String × Content) := []
  deriving Repr, Inhabited

def isRooted (path : String) : Bool := path.toList.head? = some '/'

def splitSlashes : List Char → List (List Char)
  | [] => [[]]
  | c :: cs =>
    match splitSlashes cs with
    | [] => [[c]]
    | part :: parts => if c = '/' then [] :: part :: parts else (c :: part) :: parts

def namesIn (path : String) : List String := (splitSlashes path.toList).map String.ofList

def joinPath (directory name : String) : String :=
  if isRooted name || directory.isEmpty then name
  else if directory.endsWith "/" then directory ++ name
  else directory ++ "/" ++ name

def unixLines : List Char → List Char
  | '\r' :: '\n' :: rest => '\n' :: unixLines rest
  | '\r' :: rest => '\n' :: unixLines rest
  | c :: rest => c :: unixLines rest
  | [] => []

inductive PathFault where
  | missing
  | throughFile
  | tooLong
  /-- A path has to be written in bytes, and cannot hold the null character. -/
  | unwritable (fault : Text.EncodeFault)
  | nullByte
  deriving DecidableEq, Repr

def PathFault.error (path : String) : PathFault → Error
  | missing => .fileMissing path
  | throughFile => .notDirectory path
  | tooLong => .nameTooLong path
  | unwritable fault => .encoding fault
  | nullByte => .value .nullByte

/-- The most bytes that a path may have, and that a name in it may have. -/
def pathLimit : Nat := 4095

def nameLimit : Nat := 255

/-- The names that lead from the working directory to a place. Two dots in front lead to a directory
above it, a slash to the root of all directories. -/
abbrev Names := List String

/-- Whether a place is the working directory, one above it, or the root. -/
def isAncestor (names : Names) : Bool := names.all (· == "..") || names == ["/"]

def pathTo (names : Names) : String := "/".intercalate names

def parentOf (names : Names) : Names :=
  if names == ["/"] then names
  else if names.all (· == "..") then names ++ [".."]
  else names.dropLast

def placeOf (path : String) : Names :=
  (namesIn path).foldl (fun here part =>
    if part = "" || part = "." then here
    else if part = ".." then parentOf here
    else here ++ [part]) (if isRooted path then ["/"] else [])

namespace Files

def lookup? (f : Files) (names : Names) : Option Content := f.entries.lookup names

def hasDirectory (f : Files) (names : Names) : Bool :=
  isAncestor names || f.entries.any fun e => names.isPrefixOf e.1 && names.length < e.1.length

def enter (f : Files) (here : Names) : Except PathFault Unit :=
  if (f.lookup? here).isSome then .error .throughFile
  else if f.hasDirectory here then .ok () else .error .missing

/-- Follows the parts of a path from a place on: empty parts and dots stay in a directory, two dots
lead back. -/
def follow (f : Files) (here : Names) : List String → Except PathFault Names
  | [] => .ok here
  | part :: rest => do
    f.enter here
    if part = "" || part = "." then f.follow here rest
    else if part = ".." then f.follow (parentOf here) rest
    else if nameLimit < Text.byteLength part then .error .tooLong
    else f.follow (here ++ [part]) rest

def parts (path : String) : Except PathFault (Names × List String) :=
  match Text.encodeFault? true path with
  | some fault => .error (.unwritable fault)
  | none =>
    if path.toList.contains '\x00' then .error .nullByte
    else if pathLimit < Text.byteLength path then .error .tooLong
    else if path.isEmpty then .error .missing
    else .ok (if isRooted path then ["/"] else [], namesIn path)

/-- The place that a path leads to. There may be nothing there. -/
def place (f : Files) (path : String) : Except PathFault Names := do
  let (start, parts) ← parts path
  f.follow start parts

def get? (f : Files) (path : String) : Option Content := (f.place path).toOption.bind f.lookup?

def isDirectory (f : Files) (path : String) : Bool := (f.place path).toOption.any f.hasDirectory

def has (f : Files) (path : String) : Bool := (f.get? path).isSome || f.isDirectory path

/-- Whether there is anything at a path, which has to be one that can be written in bytes. -/
def hasNamed (f : Files) (path : String) : Except Error Bool :=
  match parts path with
  | .error (.unwritable fault) => .error (.encoding fault)
  | .error .nullByte => .error (.value .nullByte)
  | _ => .ok (f.has path)

def read (f : Files) (path : String) : Except Error String :=
  match f.place path with
  | .error fault => .error (fault.error path)
  | .ok names =>
    match f.lookup? names with
    | some (.text s) => .ok (String.ofList (unixLines s.toList))
    | some (.image _) => .ok ""
    | none => .error (if f.hasDirectory names then .isDirectory path else .fileMissing path)

def put (f : Files) (names : List String) (c : Content) : Files :=
  if f.entries.any (·.1 = names) then
    ⟨f.entries.map fun e => if e.1 = names then (names, c) else e⟩
  else ⟨f.entries ++ [(names, c)]⟩

def set (f : Files) (path : String) (c : Content) : Files :=
  match f.place path with
  | .ok names => f.put names c
  | .error _ => f

/-- The place for a file that is to be written. It needs a directory to lie in, and a name that is
not the name of a directory; a slash after it says that it is. -/
def target (f : Files) (path : String) : Except Error Names := do
  let fail := fun fault : PathFault => fault.error path
  let (start, all) ← (parts path).mapError fail
  let named := (all.reverse.dropWhile (· == "")).reverse
  match named.getLast? with
  | none => .error (.isDirectory path)
  | some name =>
    let directory ← (f.follow start named.dropLast).mapError fail
    (f.enter directory).mapError fail
    if name = "." || name = ".." || named.length < all.length then .error (.isDirectory path)
    else if nameLimit < Text.byteLength name then .error (.nameTooLong path)
    else if f.hasDirectory (directory ++ [name]) then .error (.isDirectory path)
    else return directory ++ [name]

def write (f : Files) (path : String) (s : String) : Except Error Files := do
  return f.put (← f.target path) (.text s)

def remove (f : Files) (path : String) : Files :=
  match f.place path with
  | .ok names => ⟨f.entries.filter fun e => e.1 ≠ names⟩
  | .error _ => f

def list (f : Files) (path : String) : List String :=
  match f.place path with
  | .ok names =>
    (f.entries.filterMap fun e =>
      if names.isPrefixOf e.1 then (e.1.drop names.length).head? else none).eraseDups
  | .error _ => []

def inside (f : Files) : List (Names × Content) :=
  f.entries.filter fun e => e.1.head? != some ".." && e.1.head? != some "/"

end Files

end DeskScript
