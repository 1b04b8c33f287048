import PeerCache.Demo.Node

/-! # The demo program

Runs a demo node on requests that are read from standard input, one a line, as a method and an
address. The answers go to standard output. What is wrong with the command line or a request is
reported on standard error.
-/

namespace PeerCache.Demo

/-- Answer one line of input. -/
def answerLine (options : Options) (cluster : Cluster) (line : String) : IO Cluster := do
  match methodAndUrl? line with
  | none =>
    unless line.isEmpty do IO.eprintln ("not a request: " ++ line)
    return cluster
  | some (method, url) =>
    match options.answer cluster method url with
    | .error fault =>
      IO.eprintln (reprStr fault)
      return cluster
    | .ok (none, cluster) =>
      IO.eprintln ("nobody answers at " ++ url)
      return cluster
    | .ok (some response, cluster) =>
      for head in headLines response do IO.println head
      let output ← IO.getStdout
      output.write (ByteArray.mk (response.sentBody method).toArray)
      IO.println ""
      output.flush
      return cluster

/-- Answer lines of input until there are no more. -/
partial def answerLines (options : Options) (cluster : Cluster) : IO Unit := do
  let line ← (← IO.getStdin).getLine
  unless line.isEmpty do
    let words := String.ofList (line.toList.filter fun char => !char.isWhitespace || char == ' ')
    answerLines options (← answerLine options cluster words)

end PeerCache.Demo

open PeerCache.Demo in
/-- Set up a node as the command line says, and let it answer. -/
def main (words : List String) : IO UInt32 := do
  match Options.parse words with
  | .error misuse =>
    IO.eprintln ("error: " ++ misuse.message)
    return 2
  | .ok options =>
    answerLines options options.start
    return 0
