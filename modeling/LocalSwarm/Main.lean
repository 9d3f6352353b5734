import LocalSwarm.Console

/-! The command line: `[<BUCKET> <FOLDER>]...` names the folders to share. Commands are read from
standard input until it ends or the user quits. -/
namespace LocalSwarm

/-- A number that nobody can foresee. -/
def randomNumber (width : USize) : IO Nat := do
  return Bytes.toNat (← IO.getRandomBytes width).toList

def showTurn (turn : Except Fault Turn) : IO (Option Console) := do
  match turn with
  | .ok turn =>
    turn.shown.forM IO.println
    return turn.next
  | .error fault => throw (IO.userError (fault.message?.getD "the service has failed"))

def converse (console : Console) : IO Unit := do
  let stdin ← IO.getStdin
  let stdout ← IO.getStdout
  let mut next := some console
  while next.isSome do
    stdout.putStr "> "
    stdout.flush
    let line ← stdin.getLine
    if line.isEmpty then break
    let number := UInt32.ofNat (← randomNumber 4)
    let some console := next | break
    next ← showTurn (console.answer number line)

end LocalSwarm

open LocalSwarm

def main (arguments : List String) : IO Unit := do
  let id : Identifier := ⟨BitVec.ofNat 160 (← randomNumber 20)⟩
  let machine := Settings.randomMachine (UInt64.ofNat (← randomNumber 8))
  let settings := { Settings.standard with machine := some machine }
  let number := UInt32.ofNat (← randomNumber 4)
  match ← showTurn (Console.start settings id (Console.pairs arguments) number) with
  | some console => converse console
  | none => return
