/-
This file is the program: it hands its arguments to `Command.respond`, prints the two texts of the
response on the standard output and the standard error, and ends with its exit code.
-/

import Columnar.Command.Report

open Columnar

/-- Run the program. -/
def main (arguments : List String) : IO UInt32 := do
  let response := Command.respond arguments
  IO.print response.output
  IO.eprint response.report
  return response.exitCode
