import DeskScript.Data.Json.Reader
import DeskScript.Literal.Fault
import DeskScript.Syntax.Parser
import DeskScript.Text.Encoding
import DeskScript.Value.Kind

/-!
# Errors

Everything that can stop a script or a command, as a cause. The wording of each cause is given once,
in `Error.message`. A category says how an error is handled and reported.
-/

namespace DeskScript

open Syntax

def Syntax.Builtin.usage : Builtin → String
  | .wait => "wait() takes 1 - 3 arguments"
  | .rand => "rand() takes 1 or 2 arguments"
  | .mouseMove => "mouse_move() takes at least 3 arguments"
  | .setTemplateDir => "set_template_dir() takes exactly 1 argument"
  | .findTemplate =>
    "find_template() takes 1 or 5 arguments (template_name [, left, top, width, height])"
  | .findTemplates =>
    "find_templates() takes 1 to 6 arguments (template_name [, left, top, width, height, top_k])"
  | .getCoordinates => "get_coordinates() takes 1 or 2 arguments (message [, use_cache])"
  | .checkPixelColor =>
    "check_pixel_color() takes 6 or 7 arguments (x, y, radius, r, g, b [, tolerance])"
  | .getPixelColor => "get_pixel_color() takes 1 or 2 arguments (alias [, use_cache])"
  | .sendInput => "send_input() takes exactly 3 arguments (type, key, action)"
  | .pressAndRelease =>
    "press_and_release() takes at least 2 arguments (delay_ms, key1, [key2, ...])"
  | .record => "record() takes 1-3 arguments (recording_name [, start_button, stop_button])"
  | .playback => "playback() takes 1-2 arguments (recording_name [, stop_button])"
  | .randI => "rand_i() takes 1 or 2 arguments"
  | .getPixelAt => "get_pixel_at() takes exactly 2 arguments (x, y)"
  | .append => "append() takes exactly 2 arguments (list, item)"
  | .pop => "pop() takes 1 or 2 arguments (list [, index])"
  | .captureRegion => "capture_region() takes 1 or 2 arguments (region_key [, overwrite_cache])"
  | .ocrFindText =>
    "ocr_find_text() takes 0 to 4 arguments (region, min_conf, filter, upscale)"
  | .swap => "swap() takes exactly 3 arguments"
  | b => b.name ++ "()"

/-- Why an element cannot be taken from a value. -/
inductive ElementFault where
  | noLength (kind : Kind)
  | outOfRange (kind : Kind)
  | tooFar
  /-- A key that a table does not have, as it is shown. -/
  | missingKey (shown : String)
  | notSubscriptable (kind : Kind)
  deriving DecidableEq, Repr

def ElementFault.message : ElementFault → String
  | noLength kind => s!"object of type '{kind.name}' has no len()"
  | outOfRange .text => "string index out of range"
  | outOfRange .bytes => "index out of range"
  | outOfRange kind => kind.name ++ " index out of range"
  | tooFar => "cannot fit 'int' into an index-sized integer"
  | missingKey shown => shown
  | notSubscriptable kind => s!"'{kind.name}' object is not subscriptable"

inductive ScriptFault where
  | unknownVariable (name : String)
  | unknownFunction (name : String)
  | unknownTickProvider (name : String)
  | arity (name : String) (expected : Nat)
  | spreadArity
  | singleArity (count : Nat)
  | indexKind
  | element (fault : ElementFault)
  | unknownNode (description : String)
  | unknownLabel (name : String)
  | callShape
  | bodyMissing (name : String)
  | operandCount (name : String)
  | usage (builtin : Builtin) (count : Nat)
  | listExpected (builtin : Builtin) (kind : Kind)
  | swapExpectsList
  | swapRange
  | popEmpty
  | popRange (index : Int) (length : Nat)
  | lenKind (kind : Kind)
  | shuffleKind (kind : Kind)
  | severalValues
  deriving DecidableEq, Repr

def ScriptFault.message : ScriptFault → String
  | unknownVariable name => s!"Variable not found: {name}"
  | unknownFunction name => s!"Function not found: {name}"
  | unknownTickProvider name => s!"Tick provider func not found: {name}"
  | arity name expected => s!"Arity mismatch: {name} expects {expected} args"
  | spreadArity => "Arity mismatch in multiple assignment"
  | singleArity count => s!"Expected 1 value for single assignment, got {count}"
  | indexKind => "Index must be an integer"
  | element fault => "Index error: " ++ fault.message
  | unknownNode description => s!"Unknown node type: {description}"
  | unknownLabel name => s!"Unknown tree node: {name}"
  | callShape => "Invalid call syntax"
  | bodyMissing name => s!"Function body missing for {name}"
  | operandCount name => s!"{name} requires exactly two operands"
  | usage b count => b.usage ++ s!", got {count}"
  | listExpected b kind => s!"{b.name}() requires a list as first argument, got {kind.describe}"
  | swapExpectsList => "First argument to swap() must be a list"
  | swapRange => "swap() index out of range"
  | popEmpty => "pop() called on empty list"
  | popRange i n => s!"pop() index {i} out of range for list of length {n}"
  | lenKind kind => s!"len() requires a tuple, list, or string, got {kind.describe}"
  | shuffleKind kind => s!"shuffle() requires a tuple or list, got {kind.describe}"
  | severalValues => "Multiple return values present"

inductive KindFault where
  | operands (operator : String) (left right : Kind)
  | negation (kind : Kind)
  | concatenation (sequence other : Kind)
  | byteConcatenation (other : Kind)
  | repetition (count : Kind)
  | ordering (operator : String) (left right : Kind)
  | noLength (kind : Kind)
  | notIterable (kind : Kind)
  | notContainer (kind : Kind)
  | unhashable (name : String)
  | notUnpackable (kind : Kind)
  | notSpreadable (kind : Kind)
  | notSubscriptable (kind : Kind)
  | wholeNumber (kind : Kind)
  | number (kind : Kind)
  | realNumber (kind : Kind)
  | integer (kind : Kind)
  | truthValue
  | listSubscript (kind : Kind)
  | tupleSubscript (kind : Kind)
  | textSubscript (kind : Kind)
  | byteSubscript (kind : Kind)
  | textMembership (kind : Kind)
  | itemAssignment (kind : Kind)
  | noMember (kind : Kind)
  /-- Too few values for a format, or too many; the format is of a kind of its own. -/
  | formatCount (enough : Bool) (format : Kind)
  | formatMapping
  | formatReal (letter : Char) (kind : Kind)
  | formatInteger (letter : Char) (kind : Kind)
  | formatCharacter
  | formatByte
  | formatBytes (kind : Kind)
  | formatFloat (kind : Kind)
  | formatWidth
  | sliceBound
  | nameKind (kind : Kind)
  deriving DecidableEq, Repr

def KindFault.message : KindFault → String
  | operands op l r => s!"unsupported operand type(s) for {op}: '{l.name}' and '{r.name}'"
  | negation kind => s!"bad operand type for unary -: '{kind.name}'"
  | concatenation s o => s!"can only concatenate {s.name} (not \"{o.name}\") to {s.name}"
  | byteConcatenation o => s!"can't concat {o.name} to bytes"
  | repetition kind => s!"can't multiply sequence by non-int of type '{kind.name}'"
  | ordering op l r =>
    s!"'{op}' not supported between instances of '{l.name}' and '{r.name}'"
  | noLength kind => s!"object of type '{kind.name}' has no len()"
  | notIterable kind => s!"'{kind.name}' object is not iterable"
  | unhashable name => s!"unhashable type: '{name}'"
  | notContainer kind => s!"argument of type '{kind.name}' is not iterable"
  | notUnpackable kind => s!"cannot unpack non-iterable {kind.name} object"
  | notSpreadable kind => s!"print() argument after * must be an iterable, not {kind.name}"
  | notSubscriptable kind => s!"'{kind.name}' object is not subscriptable"
  | wholeNumber kind =>
    s!"int() argument must be a string, a bytes-like object or a real number, not '{kind.name}'"
  | number kind => s!"float() argument must be a string or a real number, not '{kind.name}'"
  | realNumber kind => s!"must be real number, not {kind.name}"
  | integer kind => s!"'{kind.name}' object cannot be interpreted as an integer"
  | truthValue => "an integer is required"
  | listSubscript kind => s!"list indices must be integers or slices, not {kind.name}"
  | tupleSubscript kind => s!"tuple indices must be integers or slices, not {kind.name}"
  | textSubscript kind => s!"string indices must be integers, not '{kind.name}'"
  | byteSubscript kind => s!"byte indices must be integers or slices, not {kind.name}"
  | textMembership kind => s!"'in <string>' requires string as left operand, not {kind.name}"
  | itemAssignment kind => s!"'{kind.name}' object does not support item assignment"
  | noMember kind => s!"'{kind.name}' object has no attribute"
  | formatCount enough format =>
    if enough then
      let noun := if format = .bytes then "bytes" else "string"
      s!"not all arguments converted during {noun} formatting"
    else "not enough arguments for format string"
  | formatMapping => "format requires a mapping"
  | formatReal letter kind => s!"%{letter} format: a real number is required, not {kind.name}"
  | formatInteger letter kind => s!"%{letter} format: an integer is required, not {kind.name}"
  | formatCharacter => "%c requires int or char"
  | formatByte => "%c requires an integer in range(256) or a single byte"
  | formatBytes kind =>
    "%b requires a bytes-like object, or an object that implements __bytes__, not " ++
      s!"'{kind.name}'"
  | formatFloat kind => s!"float argument required, not {kind.name}"
  | formatWidth => "* wants int"
  | nameKind kind => s!"attribute name must be string, not '{kind.name}'"
  | sliceBound => "slice indices must be integers or None or have an __index__ method"

/-- A value of the right kind that is out of place. -/
inductive ValueFault where
  /-- A text, as it is shown, that is no whole number. -/
  | wholeNumber (shown : String)
  | wholeNumberDigits (digits : Nat)
  | tooManyDigits
  | number (shown : String)
  | notANumber
  | emptyRange (low high : Int)
  | rangeStart
  | rangeStop
  | sleepNotANumber
  | sleepNegative
  | tooFewItems (expected got : Nat)
  | tooManyItems (expected : Nat)
  | unknownKey (name : String)
  | grabWidth
  | grabHeight
  | negativeDimension
  /-- A length beyond all lengths of pictures, or lengths that are too much together. -/
  | dimension
  | area
  /-- A list of limits whose parts are not of one shape, and the shape so far. -/
  | ragged (shape : List Nat)
  | shapes (left right : List Nat)
  | formatEnd
  | formatKeyEnd
  /-- A letter that no directive has, at a place in a format. -/
  | formatLetter (format : Kind) (letter offset : Nat)
  | formatWidth
  | formatPrecision (format : Kind)
  | domain
  | nullByte
  /-- A term that is no literal; a table can lack a key. -/
  | notLiteral (missingKey : Bool)
  deriving DecidableEq, Repr

def shownShape (comma : String) : List Nat → String
  | [n] => s!"({n},)"
  | lengths => "(" ++ comma.intercalate (lengths.map toString) ++ ")"

def ValueFault.message : ValueFault → String
  | wholeNumber shown =>
    -- No more than the first two hundred characters are shown.
    "invalid literal for int() with base 10: " ++ String.ofList (shown.toList.take 200)
  | wholeNumberDigits digits => (Json.Fault.tooLong digits).message ""
  | tooManyDigits =>
    s!"Exceeds the limit ({Number.digitLimit} digits) for integer string conversion; use " ++
      "sys.set_int_max_str_digits() to increase the limit"
  | number shown => s!"could not convert string to float: {shown}"
  | notANumber => "cannot convert float NaN to integer"
  | emptyRange low high => s!"empty range for randrange() ({low}, {high}, {high - low})"
  | rangeStart => "non-integer arg 1 for randrange()"
  | rangeStop => "non-integer stop for randrange()"
  | sleepNotANumber => "Invalid value NaN (not a number)"
  | sleepNegative => "sleep length must be non-negative"
  | tooFewItems expected got =>
    s!"not enough values to unpack (expected {expected}, got {got})"
  | tooManyItems expected => s!"too many values to unpack (expected {expected})"
  | unknownKey name => name
  | grabWidth => "Coordinate 'right' is less than 'left'"
  | grabHeight => "Coordinate 'lower' is less than 'upper'"
  | negativeDimension => "negative dimensions are not allowed"
  | dimension => "Maximum allowed dimension exceeded"
  | area =>
    "array is too big; \x60arr.size * arr.dtype.itemsize\x60 is larger than the maximum possible size."
  | ragged shape =>
    "setting an array element with a sequence. The requested array has an inhomogeneous shape " ++
      s!"after {shape.length} dimensions. The detected shape was " ++ shownShape ", " shape ++
      " + inhomogeneous part."
  | shapes left right =>
    "operands could not be broadcast together with shapes " ++ shownShape "," left ++ " " ++
      shownShape "," right ++ " "
  | formatEnd => "incomplete format"
  | formatKeyEnd => "incomplete format key"
  | formatLetter format letter offset =>
    let isShown := format = .bytes ∨ (31 ≤ letter ∧ letter < 127)
    let shown := if isShown then Char.ofNat letter else '?'
    let number := String.ofList (Nat.toDigits 16 letter)
    s!"unsupported format character '{shown}' (0x{number}) at index {offset}"
  | formatWidth => "width too big"
  | formatPrecision format => if format = .bytes then "prec too big" else "precision too big"
  | domain => "math domain error"
  | nullByte => "embedded null byte"
  | notLiteral missingKey => "malformed node or string" ++ if missingKey then ": None" else ""

inductive OverflowFault where
  | wholeToFloat
  | infinityToWhole
  | quotient
  | index
  | time
  | character
  | byte
  | directive
  | power
  | repetition (sequence : Kind)
  | count
  | smallCount
  | precision
  /-- A coordinate too large for a picture, or too small; or one beyond all measure. -/
  | coordinateHigh
  | coordinateLow
  | coordinate
  deriving DecidableEq, Repr

def OverflowFault.message : OverflowFault → String
  | wholeToFloat => "int too large to convert to float"
  | infinityToWhole => "cannot convert float infinity to integer"
  | quotient => "integer division result too large for a float"
  | index => "cannot fit 'int' into an index-sized integer"
  | time => "timestamp too large to convert to C _PyTime_t"
  | character => "%c arg not in range(0x110000)"
  | byte => "%c arg not in range(256)"
  | directive => "character argument not in range(0x110000)"
  | power => "(34, 'Numerical result out of range')"
  | repetition sequence =>
    if sequence = .bytes then "repeated bytes are too long" else "repeated string is too long"
  | count => "Python int too large to convert to C ssize_t"
  | smallCount => "Python int too large to convert to C int"
  | precision => "precision too large"
  | coordinateHigh => "signed integer is greater than maximum"
  | coordinateLow => "signed integer is less than minimum"
  | coordinate => "Python int too large to convert to C long"

inductive DivisionFault where
  | whole | fractional | complex | wholeRemainder | fractionalRemainder
  deriving DecidableEq, Repr

def DivisionFault.message : DivisionFault → String
  | whole => "division by zero"
  | fractional => "float division by zero"
  | complex => "complex division by zero"
  | wholeRemainder => "integer modulo by zero"
  | fractionalRemainder => "float modulo"

inductive CommandFault where
  | missingPath (path : String)
  | argumentExpected (option : String)
  | noArgumentExpected (option : String)
  /-- An option that there is not, and the options that may be meant. -/
  | unknownOption (option : String) (similar : List String)
  | extraArguments (arguments : List String)
  deriving DecidableEq, Repr

def CommandFault.message : CommandFault → String
  | missingPath path =>
    "Invalid value for '-f' / '--file': Path " ++ Text.quoted path ++ " does not exist."
  | argumentExpected option => s!"Option '{option}' requires an argument."
  | noArgumentExpected option => s!"Option '{option}' does not take a value."
  | unknownOption option similar =>
    let names := ", ".intercalate (similar.mergeSort (· ≤ ·))
    s!"No such option: {option}" ++
      match similar with
      | [] => ""
      | [_] => s!" Did you mean {names}?"
      | _ => s!" (Possible options: {names})"
  | extraArguments arguments =>
    let word := if arguments.length = 1 then "argument" else "arguments"
    s!"Got unexpected extra {word} (" ++ " ".intercalate arguments ++ ")"

inductive BoxFault where
  /-- A number, which can neither be moved nor be gone through. -/
  | moveNumber | number
  | moveFlat | flat
  | column (index size : Nat)
  /-- Corners whose coordinates are lists. -/
  | deep
  /-- A way to move that is too far for single precision. -/
  | offset
  deriving DecidableEq, Repr

def BoxFault.message : BoxFault → String
  | moveNumber => "invalid index to scalar variable."
  | number => "'numpy.float64' object is not iterable"
  | moveFlat => "too many indices for array: array is 1-dimensional, but 2 were indexed"
  | flat => "cannot unpack non-iterable numpy.float32 object"
  | column index size => s!"index {index} is out of bounds for axis 1 with size {size}"
  | deep => "only length-1 arrays can be converted to Python scalars"
  | offset =>
    "Cannot cast ufunc 'add' output from dtype('O') to dtype('float32') with casting rule 'same_kind'"

inductive CallFault where
  | unknownName (operation name : String)
  | repeatedName (operation name : String)
  /-- More arguments by position than there are parameters. -/
  | tooMany (operation : String) (least most given : Nat)
  | missing (operation : String) (names : List String)
  deriving DecidableEq, Repr

def listedNames : List String → String
  | [] => ""
  | [name] => s!"'{name}'"
  | [first, second] => s!"'{first}' and '{second}'"
  | names =>
    let shown := names.map fun name => s!"'{name}'"
    ", ".intercalate (shown.dropLast ++ (shown.drop (shown.length - 1)).map ("and " ++ ·))

def CallFault.message : CallFault → String
  | unknownName operation name => s!"{operation}() got an unexpected keyword argument '{name}'"
  | repeatedName operation name => s!"{operation}() got multiple values for argument '{name}'"
  | tooMany operation least most given =>
    let expected :=
      if least < most then s!"from {least} to {most} positional arguments"
      else if most = 1 then "1 positional argument"
      else s!"{most} positional arguments"
    s!"{operation}() takes {expected} but {given} " ++ (if given = 1 then "was" else "were") ++ " given"
  | missing operation names =>
    let plural := if names.length = 1 then "" else "s"
    s!"{operation}() missing {names.length} required positional argument{plural}: " ++
      listedNames names

inductive Error where
  | script (fault : ScriptFault)
  | kind (fault : KindFault)
  | value (fault : ValueFault)
  | overflow (fault : OverflowFault)
  | division (fault : DivisionFault)
  | outOfRange (kind : Kind)
  | missingKey (shown : String)
  | missingName (description : String)
  | parse (e : SyntaxError)
  | literal (fault : Literal.Fault)
  | nullCharacter
  | misplaced
  | json (message : String)
  | fileMissing (path : String)
  | isDirectory (path : String)
  | notDirectory (path : String)
  | nameTooLong (path : String)
  | encoding (fault : Text.EncodeFault)
  | endOfInput
  | interrupted
  | noMoreEvents
  | nesting
  /-- A document nested too deeply: at an object, or else at an array. -/
  | documentNesting (object : Bool)
  | image
  | pixelCount (pixels : Nat)
  /-- A text that a map of numbers is compared with. -/
  | incomparable
  | box (fault : BoxFault)
  | memory
  | pictureMemory (shape : List Nat)
  | command (fault : CommandFault)
  | call (fault : CallFault)
  | endless
  deriving Repr, Inhabited

def pixelLimit : Nat := 178956970

def Error.message : Error → String
  | script fault => fault.message
  | kind fault => fault.message
  | value fault => fault.message
  | overflow fault => fault.message
  | division fault => fault.message
  | outOfRange k => (ElementFault.outOfRange k).message
  | missingKey shown => shown
  | missingName description => description
  | parse e => e.message
  | literal fault => fault.message
  | nullCharacter => "source code string cannot contain null bytes"
  | misplaced => "Negative size passed to PyUnicode_New"
  | json message => message
  | fileMissing path => "[Errno 2] No such file or directory: " ++ Text.quoted path
  | isDirectory path => "[Errno 21] Is a directory: " ++ Text.quoted path
  | notDirectory path => "[Errno 20] Not a directory: " ++ Text.quoted path
  | nameTooLong path => "[Errno 36] File name too long: " ++ Text.quoted path
  | encoding fault => fault.message
  | documentNesting object => (Json.Fault.nesting object).message ""
  | endOfInput => "EOF when reading a line"
  | interrupted => ""
  | noMoreEvents => "no more events"
  | nesting => "maximum recursion depth exceeded"
  | image => ""
  | pixelCount pixels =>
    s!"Image size ({pixels} pixels) exceeds limit of {pixelLimit} pixels, could be decompression " ++
      "bomb DOS attack."
  | incomparable =>
    "ufunc 'greater_equal' did not contain a loop with signature matching types " ++
      "(<class 'numpy.dtypes.Float32DType'>, <class 'numpy.dtypes.StrDType'>) -> None"
  | box fault => fault.message
  | memory => ""
  | pictureMemory shape =>
    "Unable to allocate " ++ Number.memorySize (shape.foldl (· * ·) 1) ++ " for an array with shape " ++
      shownShape ", " shape ++ " and data type uint8"
  | command fault => fault.message
  | call fault => fault.message
  | endless => ""

end DeskScript
