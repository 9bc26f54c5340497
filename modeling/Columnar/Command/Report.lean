/-
This file carries out commands. A command that succeeds prints text; only an evaluation can fail,
and then it prints nothing but a report. What can go wrong with it is looked at in a fixed order:
the type, the operation, the left literal, the right literal, and last whether the operation is
defined on two values of the type. A report names its causes below its head, numbered if there are
several, with further lines of a cause set in under its first. The program answers with exit code 0
what it prints, with 1 a report, and with 2 arguments that make no command.
-/

import Columnar.Command.Arguments
import Columnar.Expr.Evaluation
import Columnar.Expr.Typing
import Columnar.Value.Literal

namespace Columnar

/-- The two operands of an operation. -/
inductive Side
  | left
  | right
deriving DecidableEq, Repr

/-- The name of an operand in reports. -/
def Side.name : Side → String
  | .left => "left"
  | .right => "right"

/-- Why an evaluation fails. -/
inductive CommandError
  | unknownType (cause : UnknownType)
  | unknownOperation (name : String)
  | literal (side : Side) (cause : LiteralError)
  | typing (cause : TypingError)
  /-- A reader was misused; an expression that was inferred never does so. -/
  | fault (cause : Fault)
deriving DecidableEq

namespace CommandError

/-- The head of the report and its causes, the outermost first. -/
def chain : CommandError → List String
  | .unknownType cause => [cause.message]
  | .unknownOperation name => ["Unknown operator: " ++ name]
  | .literal side cause => ("Failed to parse " ++ side.name ++ " operand") :: cause.chain
  | .typing cause => [cause.message]
  | .fault cause => [cause.message]

/-- A text with each of its lines but the first set in by a margin. -/
def indent (margin : List Char) (text : String) : String :=
  String.ofList (text.toList.flatMap fun character =>
    if character = '\n' then '\n' :: margin else [character])

/-- One cause among several, with its number. -/
def numbered (index : Nat) (cause : String) : String :=
  String.ofList ((toString index).toList.leftpad 5 ' ') ++ ": " ++
    indent (List.replicate 7 ' ') cause ++ "\n"

/-- A chain of a head and its causes, set out in lines. -/
def layout : List String → String
  | [] => ""
  | [head] => "Error: " ++ head ++ "\n"
  | [head, cause] =>
    "Error: " ++ head ++ "\n\nCaused by:\n    " ++ indent (List.replicate 4 ' ') cause ++ "\n"
  | head :: causes =>
    "Error: " ++ head ++ "\n\nCaused by:\n" ++ String.join (causes.mapIdx numbered)

/-- The report of a failed evaluation. -/
def report (error : CommandError) : String :=
  layout error.chain

end CommandError

namespace Command

/-- One line of the listing: the code of a scheme, set to the right of four columns, and its
name. -/
def listingLine (scheme : Scheme) : String :=
  String.ofList ((toString scheme.code.toInt).toList.leftpad 4 ' ') ++ "  " ++ scheme.name ++ "\n"

/-- The listing of the partition schemes. -/
def listing : String :=
  "code  name\n" ++ String.join (Scheme.all.map listingLine)

/-- The code of a partition scheme under its name as given. -/
def lookUp (name : String) : String :=
  let code := SymbolTable.schemes.code name
  let shown := if code = Null.code then "NULL (" ++ toString code.toInt ++ ")"
    else toString code.toInt
  name ++ ": " ++ shown ++ "\n"

/-- Build the operation that an evaluation asks for. -/
def expression (op type left right : String) : Except CommandError Expr := do
  let type ← (ColumnType.ofName type).mapError .unknownType
  let op ← match BinaryOp.ofName? op with
    | some op => Except.ok op
    | none => throw (.unknownOperation op)
  let left ← (Value.read type left).mapError (.literal .left)
  let right ← (Value.read type right).mapError (.literal .right)
  let leftConstant ← (Expr.inferConstant type left).mapError .typing
  let rightConstant ← (Expr.inferConstant type right).mapError .typing
  (Expr.inferBinary op leftConstant rightConstant).mapError .typing

/-- Whether results of a type are also shown as doubles. -/
def showsDouble : ColumnType → Bool
  | .int | .long | .date => true
  | _ => false

/-- An expression with its type, its value, and for integers and timestamps its double view. -/
def results (expression : Expr) : Except Fault String := do
  let value ← expression.evaluate .empty
  let lines := expression.render ++ " :: " ++ expression.type.name ++ "\n= " ++ value.render ++ "\n"
  if showsDouble expression.type then
    let double ← expression.readDouble .empty
    return lines ++ "= " ++ Value.doubleStyle.render double ++ " (as DOUBLE)\n"
  else return lines

/-- Evaluate an operation on two literals. -/
def evaluation (op type left right : String) : Except CommandError String := do
  let expression ← expression op type left right
  (results expression).mapError .fault

/-- How the program is used. -/
def usage : String :=
  "Usage: columnar [-d] partitions\n" ++
  "       columnar [-d] lookup NAME\n" ++
  "       columnar [-d] eval [-o OP] [-t TYPE] LEFT RIGHT\n" ++
  "       columnar help [COMMAND]\n"

/-- Carry out a command. -/
def run : Command → Except CommandError String
  | .partitions => .ok listing
  | .lookup name => .ok (lookUp name)
  | .evaluate op type left right => evaluation op type left right

end Command

/-- What a run of the program leaves behind. -/
structure Response where
  /-- The text on the standard output. -/
  output : String
  /-- The text on the standard error. -/
  report : String
  exitCode : UInt32
deriving DecidableEq, Repr

/-- The exit code of a failed evaluation. A fault would be a flaw of the program itself, and has the
code of one that breaks off. -/
def CommandError.exitCode : CommandError → UInt32
  | .unknownType _ | .unknownOperation _ | .literal _ _ | .typing _ => 1
  | .fault _ => 101

/-- Answer the arguments of the program. -/
def Command.respond (arguments : List String) : Response :=
  match ofArguments arguments with
  | .ok command =>
    match command.run with
    | .ok text => ⟨text, "", 0⟩
    | .error error => ⟨"", error.report, error.exitCode⟩
  | .error .helpWanted => ⟨usage, "", 0⟩
  | .error .misused => ⟨"", usage, 2⟩

end Columnar
