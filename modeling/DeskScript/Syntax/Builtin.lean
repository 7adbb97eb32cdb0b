/-!
# Built-in calls

The calls written `@name(...)`. Each built-in takes its arguments in one of four ways, and that way
is all the grammar needs to know of it; the evaluator gives it its meaning.
-/

namespace DeskScript.Syntax

/-- What stands between the brackets of a built-in call. -/
inductive Arguments where
  | many
  | one
  | empty
  | twoNames
  deriving DecidableEq, Repr, Inhabited

inductive Builtin where
  | print | wait | rand | foreachTick | mouseMove | setTemplateDir | findTemplate | findTemplates
  | getCoordinates | checkPixelColor | getPixelColor | leftClick | sendInput | pressAndRelease
  | record | playback | recordingExists | len | randI | time | shuffle | getPixelAt | append | pop
  | captureRegion | ocrFindText | swap | copy | mousePosition
  deriving DecidableEq, Repr, Inhabited

namespace Builtin

/-- The name a script calls the built-in by, without the leading `@`. -/
def name : Builtin → String
  | print => "print"
  | wait => "wait"
  | rand => "rand"
  | foreachTick => "foreach_tick"
  | mouseMove => "mouse_move"
  | setTemplateDir => "set_template_dir"
  | findTemplate => "find_template"
  | findTemplates => "find_templates"
  | getCoordinates => "get_coordinates"
  | checkPixelColor => "check_pixel_color"
  | getPixelColor => "get_pixel_color"
  | leftClick => "left_click"
  | sendInput => "send_input"
  | pressAndRelease => "press_and_release"
  | record => "record"
  | playback => "playback"
  | recordingExists => "recording_exists"
  | len => "len"
  | randI => "rand_i"
  | time => "time"
  | shuffle => "shuffle"
  | getPixelAt => "get_pixel_at"
  | append => "append"
  | pop => "pop"
  | captureRegion => "capture_region"
  | ocrFindText => "ocr_find_text"
  | swap => "swap"
  | copy => "copy"
  | mousePosition => "mouse_position"

def all : List Builtin :=
  [print, wait, rand, foreachTick, mouseMove, setTemplateDir, findTemplate, findTemplates,
    getCoordinates, checkPixelColor, getPixelColor, leftClick, sendInput, pressAndRelease,
    record, playback, recordingExists, len, randI, time, shuffle, getPixelAt, append, pop,
    captureRegion, ocrFindText, swap, copy, mousePosition]

def arguments : Builtin → Arguments
  | setTemplateDir | recordingExists | len | shuffle | copy => .one
  | leftClick | time | mousePosition => .empty
  | foreachTick => .twoNames
  | _ => .many

def word (b : Builtin) : String := "@" ++ b.name

def ofWord? (w : String) : Option Builtin := all.find? fun b => b.word == w

theorem mem_all (b : Builtin) : b ∈ all := by
  cases b <;> decide

end Builtin

end DeskScript.Syntax
