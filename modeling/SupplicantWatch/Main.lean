import SupplicantWatch.Program

/-!
# The executable

Reads the environment and the files that a run needs, and writes its outcome.
-/

namespace SupplicantWatch

/-- What a path leads to. What can be opened but not read is a directory. -/
def readEntry? (path : String) : IO (Option Entry) := do
  try
    return some (.file (← IO.FS.readBinFile path).toList)
  catch _ =>
    try
      let _ ← IO.FS.Handle.mk path .read
      return some .directory
    catch _ => return none

/-- The variables in the bytes of an environment, in which every entry ends with a zero. -/
def variablesOfBytes (bytes : List UInt8) : Variables :=
  let text := Utf8.decodeLossy bytes
  ⟨(text.splitOn '\x00').filterMap fun entry =>
    (Text.cut? '=' entry).map fun (name, value) => (String.ofList name, String.ofList value)⟩

def runProgram (args : List String) : IO UInt32 := do
  let environment := ((← readEntry? "/proc/self/environ").bind Entry.bytes?).getD []
  let dotEnv ← readEntry? Program.variablesPath
  let environment := variablesOfBytes environment
  let loaded := DotEnv.load ((dotEnv.bind Entry.bytes?).getD []) environment
  let mut entries := [(Program.variablesPath, dotEnv)]
  for path in Program.pathsOf loaded args do
    entries := entries ++ [(path, ← readEntry? path)]
  let known := entries
  let outcome := Program.run ⟨environment, fun path => (known.lookup path).join⟩ args
  for line in outcome.output do
    IO.println line
  for line in outcome.complaints do
    IO.eprintln line
  return outcome.code.toUInt32

end SupplicantWatch

def main (args : List String) : IO UInt32 :=
  SupplicantWatch.runProgram args
