import SchemaBook.CommandLine.Run
import SchemaBook.Yaml.Reader

/-!
The program: it reads the schema file that the arguments name, and writes the document.
-/

open SchemaBook

def stateAt (path : FilePath) : IO PathState := do
  let name := System.mkFilePath [Text.shownString path.text]
  if path.isTooLong then return .error .nameTooLong
  else if path.hasNul || !(← name.pathExists) then return .ok none
  else if ← name.isDir then return .ok (some .directory)
  else return .ok (some (.file (← IO.FS.readBinFile name).toList))

def tell (text : Text) : IO Unit := IO.eprintln (Text.shownString text)

def usage : Text :=
  "usage: " ++ commandName ++ " [-h] --schema SCHEMA [--out OUT] [--title TITLE] [--strict]"

/-- Ends with an exit code, or with the wording of a fault. -/
def finish : Ending → IO UInt32
  | .exit code => return code.toUInt32
  | .fault fault => do
    tell fault.message
    return 1

def main (arguments : List String) : IO UInt32 := do
  match Arguments.parse (arguments.map Text.ofString) with
  | .error stop =>
    if stop = .help then IO.println (Text.shownString usage) else tell usage
    stop.stderr.forM tell
    finish stop.ending
  | .ok options =>
    let path := FilePath.ofText (options.schema.getD [])
    let state ← stateAt path
    let found := report Yaml.reader options fun _ => state
    found.stderr.forM tell
    match found.plan, options.out with
    | .stop ending, _ => finish ending
    | .write _, none => finish (.fault (.noPath "parent"))
    | .write document, some out =>
      let path := FilePath.ofText out
      IO.FS.createDirAll (Text.shownString path.parent.text)
      let name := System.mkFilePath [Text.shownString path.text]
      match Text.encodeUtf8 (Text.endedLine document) with
      | .ok octets =>
        IO.FS.writeBinFile name ⟨octets.toArray⟩
        return 0
      | .error fault =>
        IO.FS.writeBinFile name ⟨#[]⟩
        finish (.fault (.write (.encoding fault)))
