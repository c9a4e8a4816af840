import ModelServing.Program

/-!
# The operator as a program

Reads the command line and the environment and runs the program. The program is not connected to a network, so a run
that would need a cluster ends with that complaint.
-/

namespace ModelServing

/-- The values of the variables that options look at. -/
def readVariables : List String → IO (Table String String)
  | [] => pure Table.empty
  | name :: rest => do
    let others ← readVariables rest
    match ← IO.getEnv name with
    | some value => pure (others.insert name value)
    | none => pure others

end ModelServing

/-- Runs the program. -/
def main (args : List String) : IO UInt32 := do
  let env ← ModelServing.readVariables
    (ModelServing.Options.Name.all.filterMap ModelServing.Options.Name.envVar?)
  let ending := ModelServing.Program.alone args env.get?
  if let some text := ending.stdout then IO.print text
  if let some text := ending.stderr then IO.eprintln text
  return UInt32.ofNat ending.exit
