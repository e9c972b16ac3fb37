import PrefixCalc.CommandLine

/-!
# The program

Reads the input that the arguments ask for, writes the report and ends with its
exit code. Traces are written when the variable `PCALC_DEBUG` is set and not empty.
-/

namespace PrefixCalc.CommandLine

/-- Read the whole standard input. -/
partial def readStandardInput : IO ByteArray := do
  let input ← IO.getStdin
  let rec
    /-- Append what is left of the input. -/
    more (bytes : ByteArray) : IO ByteArray := do
      let block ← input.read 65536
      if block.isEmpty then return bytes else more (bytes ++ block)
  more ByteArray.empty

/-- The report on some arguments, with the input that they name. -/
def answer (arguments : List String) (traces : Bool) : IO Report := do
  match (Request.ofArguments arguments).source? with
  | none => return report arguments .empty (fun _ => none) traces
  | some .standardInput => return report arguments (← readStandardInput) (fun _ => none) traces
  | some (.file name) =>
    let bytes ← (IO.FS.readBinFile name).toBaseIO
    return report arguments .empty (fun _ => bytes.toOption) traces

end PrefixCalc.CommandLine

open PrefixCalc.CommandLine in
/-- The program. -/
def main (arguments : List String) : IO UInt32 := do
  let traces := ((← IO.getEnv "PCALC_DEBUG").getD "") != ""
  let report ← answer arguments traces
  IO.print report.out
  IO.eprint report.err
  match report.ending with
  | .exit code => return code.toUInt32
  | .undecodable =>
    IO.eprintln "the input is not text in UTF-8"
    return 1
  | ending =>
    IO.eprintln (ending.message?.getD "")
    return 1
