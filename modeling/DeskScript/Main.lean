import DeskScript.Session.CommandLine

/-!
# The command

Runs a command line on a desk made of the console and the files at hand. The console is read to its
end first; files that the run has written are stored afterwards, and what devices were told to do
goes to the error stream.
-/

namespace DeskScript

partial def consoleLines (input : IO.FS.Stream) : IO (List String) := do
  let line ← input.getLine
  if line.isEmpty then return []
  let line := if line.endsWith "\n" then (line.dropEnd 1).toString else line
  return Text.encode line :: (← consoleLines input)

def fileAt (path : String) : IO (List (List String × Content)) := do
  try
    let s ← IO.FS.readFile path
    return [(placeOf path, .text (Text.encode s))]
  catch _ => return []

/-- The files that a script reads: itself, its imports and the caches. -/
def filesFor (script : Option String) : IO Files := do
  let caches := [CacheKind.coordinates, .colors, .recordings].map CacheKind.path
  let kept ← (Cache.regionsPath :: caches).mapM fileAt
  match script with
  | none => return ⟨kept.flatten⟩
  | some path =>
    let own ← fileAt path
    let imports := own.flatMap fun e =>
      match e.2 with
      | .text s => (Session.parsed s).toOption.toList.flatMap Session.importPaths
      | .image _ => []
    let imported ← imports.mapM fileAt
    return ⟨kept.flatten ++ own ++ imported.flatten⟩

def storeChanges (before after : Files) : IO Unit := do
  for (names, content) in after.entries do
    match content with
    | .text s =>
      if before.lookup? names ≠ some content then
        IO.FS.writeFile (pathTo names) (Text.decode s)
    | .image _ => pure ()

def report (before : Files) (w : World) : IO Unit := do
  for (_, s) in w.printed do IO.print (Text.decode s)
  for act in w.acts do IO.eprintln (toString (repr act))
  storeChanges before w.files

end DeskScript

open DeskScript in
def main (args : List String) : IO UInt32 := do
  let lines ← consoleLines (← IO.getStdin)
  let script := (Session.Options.read args).toOption.bind (·.file)
  let files ← filesFor script
  let world : World := { files, replies := lines.map fun line => { line } }
  match Session.runCommand args { machine := { world } } with
  | .ok _ s =>
    report files s.machine.world
    return 0
  | .error e s =>
    report files s.machine.world
    IO.eprintln e.message
    return 1
