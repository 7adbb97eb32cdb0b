import DeskScript.Text.Quoted

/-!
# Keys and buttons

The keys of a keyboard and the buttons of a mouse, and the texts they are recorded as.
-/

namespace DeskScript

/-- A trait of a set of names as a whole: the kind of thing it is, and its text. -/
structure Trait where
  kind : String
  text : String
  deriving DecidableEq, Repr, Inhabited

namespace Trait

def isNull (t : Trait) : Bool := t.kind = "NoneType"

/-- Whether a trait counts as something: null, zero and what is empty do not. -/
def isSet (t : Trait) : Bool := t.text ∉ ["None", "0", "False", "[]", "\x7b\x7d"]

/-- Traits of one kind, whose text is made from their names. -/
def each (kind : String) (text : String → String) (names : List String) : List (String × Trait) :=
  names.map fun name => (name, ⟨kind, text name⟩)

def data (set : String) (members : List String) : List (String × Trait) :=
  [("__name__", ⟨"str", set⟩), ("__qualname__", ⟨"str", set⟩), ("__module__", ⟨"str", "__main__"⟩),
    ("__doc__", ⟨"NoneType", "None"⟩), ("__text_signature__", ⟨"NoneType", "None"⟩),
    ("_value_repr_", ⟨"NoneType", "None"⟩), ("__annotations__", ⟨"dict", "\x7b\x7d"⟩),
    ("_unhashable_values_", ⟨"list", "[]"⟩), ("_use_args_", ⟨"bool", "False"⟩),
    ("_member_names_", ⟨"list", "[" ++ ", ".intercalate (members.map Text.quoted) ++ "]"⟩),
    ("__basicsize__", ⟨"int", "24"⟩), ("__dictoffset__", ⟨"int", "-48"⟩),
    ("__flags__", ⟨"int", "546320"⟩), ("__itemsize__", ⟨"int", "0"⟩),
    ("__weakrefoffset__", ⟨"int", "16"⟩), ("__base__", ⟨"EnumType", "<enum 'Enum'>"⟩),
    ("__bases__", ⟨"tuple", "(<enum 'Enum'>,)"⟩),
    ("__mro__", ⟨"tuple", s!"(<enum '{set}'>, <enum 'Enum'>, <class 'object'>)"⟩),
    ("__class__", ⟨"type", "<class 'enum.EnumType'>"⟩),
    ("_member_type_", ⟨"type", "<class 'object'>"⟩),
    ("__weakref__", ⟨"getset_descriptor", "<attribute '__weakref__' of 'Enum' objects>"⟩)]

/-- Traits of a set that say what can be done with it. -/
def methods (set : String) : List (String × Trait) :=
  each "method" (fun name => s!"<bound method EnumType.{name} of <enum '{set}'>>")
      ["__bool__", "__call__", "__contains__", "__getattr__", "__getitem__", "__iter__", "__len__",
        "__reversed__", "_convert_", "_create_"] ++
    each "method" (fun name => s!"<bound method Enum.{name} of <enum '{set}'>>") ["_missing_"] ++
    each "method" (fun name => s!"<bound method EnumType.{name} of <class 'enum.EnumType'>>")
      ["__prepare__", "_check_for_existing_members_", "_find_data_repr_", "_find_data_type_",
        "_find_new_", "_get_mixins_"] ++
    each "wrapper_descriptor" (fun name => s!"<slot wrapper '{name}' of 'object' objects>")
      ["__delattr__", "__eq__", "__ge__", "__getattribute__", "__gt__", "__le__", "__lt__",
        "__ne__", "__setattr__"] ++
    each "method_descriptor" (fun name => s!"<method '{name}' of 'object' objects>")
      ["__getstate__", "__reduce__", "__sizeof__"]

/-- Traits of a set that have no text of their own. -/
def unnamed (set : String) : List (String × Trait) :=
  each "function" (fun name => s!"<function Enum.{name}>")
      ["__copy__", "__deepcopy__", "__dir__", "__format__", "__hash__", "__init__", "__new__",
        "__reduce_ex__", "__repr__", "__str__", "_generate_next_value_"] ++
    each "builtin_function_or_method" (fun name => s!"<built-in method {name} of EnumType object>")
      ["__init_subclass__", "__instancecheck__", "__subclasscheck__", "__subclasses__",
        "__subclasshook__", "_new_member_", "mro"] ++
    each "method-wrapper" (fun name => s!"<method-wrapper '{name}' of EnumType object>")
      ["__or__", "__ror__"] ++
    each "mappingproxy" (fun name => s!"<{name} of {set}>") ["__dict__", "__members__"] ++
    each "dict" (fun name => s!"<{name} of {set}>") ["_member_map_", "_value2member_map_"]

def all (set : String) (members : List String) : List (String × Trait) :=
  data set members ++ methods set ++ unnamed set

end Trait

/-- A key: one with a name, or the text that a key types. A key on a keyboard types one character;
a longer text is no key that can be pressed. Where keys are looked up by name, a trait of the set of
keys can be found as well. -/
inductive Key where
  | special (name : String)
  | typed (text : String)
  | trait (t : Trait)
  deriving DecidableEq, Repr, Inhabited

namespace Key

def names : List String :=
  ["alt", "alt_l", "alt_r", "alt_gr", "backspace", "caps_lock", "cmd", "cmd_l", "cmd_r", "ctrl",
    "ctrl_l", "ctrl_r", "delete", "down", "end", "enter", "esc", "f1", "f2", "f3", "f4", "f5",
    "f6", "f7", "f8", "f9", "f10", "f11", "f12", "f13", "f14", "f15", "f16", "f17", "f18", "f19",
    "f20", "home", "left", "page_down", "page_up", "right", "shift", "shift_l", "shift_r", "space",
    "tab", "up", "media_play_pause", "media_volume_mute", "media_volume_down", "media_volume_up",
    "media_previous", "media_next", "insert", "menu", "num_lock", "pause", "print_screen",
    "scroll_lock"]

def named? (name : String) : Option Key := if name ∈ names then some (.special name) else none

/-- What a name stands for where keys are looked up: a key, or a trait of the set of them. -/
def lookUp? (name : String) : Option Key :=
  (named? name).or (((Trait.all "Key" names).lookup name).map .trait)

/-- Whether a key counts as something where it is to be pressed. -/
def isSet : Key → Bool
  | special _ => true
  | typed t => !t.isEmpty
  | trait t => t.isSet

/-- What a trait means where it is to be pressed: a text is typed, and null is nothing. -/
def ofTrait? (t : Trait) : Option Key :=
  if t.kind = "str" then some (.typed t.text) else if t.isNull then none else some (.trait t)

def mark : String := "Key."

def text : Key → String
  | special name => mark ++ name
  | typed t => Text.quoted t
  | trait t => t.text

/-- What a key is called where it is pressed: its marked name, or what it types. -/
def label : Key → String
  | special name => mark ++ name
  | typed t => t
  | trait t => t.text

def removeAll (mark : List Char) : Nat → List Char → List Char
  | 0, cs => cs
  | _, [] => []
  | fuel + 1, c :: rest =>
    if !mark.isEmpty && mark.isPrefixOf (c :: rest) then
      removeAll mark fuel ((c :: rest).drop mark.length)
    else c :: removeAll mark fuel rest

/-- The key that a recorded text stands for. A marked name that no key has stands for none; a text
in single quotes is what is between them; any other text is taken as typed. -/
def ofText? (s : String) : Option Key :=
  let cs := s.toList
  if mark.toList.isPrefixOf cs then
    match lookUp? (String.ofList (removeAll mark.toList cs.length cs)) with
    | some (.trait t) => ofTrait? t
    | key => key
  else if cs.head? = some '\'' ∧ cs.getLast? = some '\'' then
    some (.typed (String.ofList ((cs.drop 1).take (cs.length - 2))))
  else some (.typed s)

/-- The names that scripts and people use for keys, beside the keyboard's own. -/
def aliases : List (String × String) :=
  [("shift", "shift"), ("ctrl", "ctrl"), ("alt", "alt"), ("cmd", "cmd"), ("command", "cmd"),
    ("option", "alt"), ("f1", "f1"), ("f2", "f2"), ("f3", "f3"), ("f4", "f4"), ("f5", "f5"),
    ("f6", "f6"), ("f7", "f7"), ("f8", "f8"), ("f9", "f9"), ("f10", "f10"), ("f11", "f11"),
    ("f12", "f12"), ("up", "up"), ("down", "down"), ("left", "left"), ("right", "right"),
    ("home", "home"), ("end", "end"), ("pageup", "page_up"), ("pagedown", "page_down"),
    ("enter", "enter"), ("return", "enter"), ("tab", "tab"), ("backspace", "backspace"),
    ("delete", "delete"), ("esc", "esc"), ("escape", "esc"), ("space", "space")]

end Key

inductive Button where
  | unknown | left | middle | right
  deriving DecidableEq, Repr, Inhabited

namespace Button

def name : Button → String
  | unknown => "unknown"
  | left => "left"
  | middle => "middle"
  | right => "right"

def all : List Button := [unknown, left, middle, right]

def named? (name : String) : Option Button := all.find? (·.name == name)

def text (b : Button) : String := "Button." ++ b.name

/-- The text of what a name stands for where buttons are looked up: a button, or a trait of the set
of them. -/
def lookUp? (name : String) : Option String :=
  ((named? name).map text).or (((Trait.all "Button" (all.map Button.name)).lookup name).map (·.text))

end Button

end DeskScript
