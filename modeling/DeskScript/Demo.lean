import DeskScript.Capture
import DeskScript.Ocr
import DeskScript.Pointer

/-!
# Demonstrations

Two small tours of what scripts can use: reading text in a region that the user points out, and
going to a template on the screen.
-/

namespace DeskScript.Demo

def foundLine (f : Ocr.Finding) : Op String := do
  let text ← Op.shown f.text
  let confidence := Number.fixed 2 f.confidence
  return s!"  - '{text}' (confidence: {confidence})"

def readText : Op Unit := do
  Action.sayLine "=== Example: Region-based OCR with caching ==="
  let region ← Capture.region "test_region" false
  let region ← Op.ask fun s => s.unpack 4 region
  let region ← match region with
    | [a, b, c, d] => do pure (some (← Ocr.regionOf a b c d))
    | _ => pure none
  match ← Ocr.find { region, confidence := .float 0.8, filter := .text "run" } with
  | none => throw (.kind (.noLength .null))
  | some found =>
    Action.sayLine s!"\nOCR found {found.length} results in 0.000 seconds"
    found.forM fun f => do Action.sayLine (← foundLine f)

def goToTemplate : Op Unit := do
  let found ← Vision.locate "/templates" "test" { display := .other }
  match found with
  | [] => throw (.outOfRange .list)
  | (x, y) :: _ =>
    Action.sayLine s!"Template 'test' found at screen position: ({x}, {y})"
    Pointer.moveTo (.int x) (.int y) (.int 5000) true

end DeskScript.Demo
