import Polyglot.CommandLine

namespace Polyglot

open Polyglot.Files (Node Workspace)

/-- Reads what is at an absolute path, and all that is below it, into a tree. A link keeps the path
that it leads to in the end. What cannot be read is left out. -/
partial def load (path : String) (root : Node) : IO Node := do
  let place := Path.partsOf path
  try
    let real ← IO.FS.realPath path
    if real.toString ≠ path then
      return Node.put (.link real.toString) place root
    if !(← real.isDir) then
      return Node.put (.file (← IO.FS.readBinFile path)) place root
    let mut root := Node.put .empty place root
    for entry in ← real.readDir do
      root ← load (path ++ "/" ++ entry.fileName) root
    return root
  catch _ => return root

/-- The tree of the folder that the program is started in and of the paths among its arguments. -/
def loadWorkspace (args : List String) : IO Workspace := do
  let here := (← IO.currentDir).toString
  let mut root ← load here .empty
  for arg in args do
    try
      let real := (← IO.FS.realPath arg).toString
      if !real.startsWith here then
        root ← load real root
    catch _ => pure ()
  return { root, here := Path.partsOf here }

def loadEnvironment : IO Environment := do
  return {
    repositoryRef := ← IO.getEnv "REPOLANG_LINGUIST_REF"
    token := ← IO.getEnv "GITHUB_TOKEN"
    logLevel := ← IO.getEnv "REPOLANG_LOG_LEVEL"
    logFormat := ← IO.getEnv "REPOLANG_LOG_FORMAT" }

end Polyglot

open Polyglot in
def main (args : List String) : IO UInt32 := do
  let workspace ← loadWorkspace args
  let environment ← loadEnvironment
  let outcome := CommandLine.run { workspace, environment, network := .unreachable } args ()
  for event in outcome.logged do
    IO.eprintln (outcome.format.line event)
  if let some message := outcome.ending.message? then
    IO.eprintln ("Error: " ++ message)
  IO.print outcome.ending.output
  return UInt32.ofNat outcome.ending.exitCode
