import Microworlds.Literal
import Microworlds.Formula.Token

/-!
# Failures

A statement fails in one of three ways: it is not understood, the state of the scenario does not
allow it, or a formula has no value. A failure leaves the state as it was.
-/

namespace Microworlds

/-- Why a state does not allow a command. -/
inductive Refusal where
  | empty (what : String)
  | missing (kind name : String)
  | duplicate (kind name : String)
  | unknown (kind name : String)
  | insufficient (resource : String) (need held : UInt64)
  /-- A place outside the scene. The coordinates are numbers, so large ones lose digits. -/
  | invalidPosition (x y : Float)
  | occupied (x y : Int64)
  | invalid (reason : String)

namespace Refusal

def message : Refusal → String
  | empty what => what ++ " empty"
  | missing kind name => kind ++ " not found: " ++ name
  | duplicate kind name => kind ++ " already exists: " ++ name
  | unknown kind name => "unknown " ++ kind ++ ": " ++ name
  | insufficient resource need _ => s!"insufficient resource: need {need} {resource}"
  | invalidPosition x y =>
    "invalid position: (" ++ Decimal.display x ++ "," ++ Decimal.display y ++ ")"
  | occupied x y => s!"cell occupied: ({x},{y})"
  | invalid reason => reason

/-- The refusal of a cell outside a grid. -/
def outside (x y : Int64) : Refusal :=
  invalidPosition (Decimal.ofInt64 x) (Decimal.ofInt64 y)

end Refusal

/-- Why a line is not understood. -/
inductive ClassifyError where
  /-- The line has the shape of no rule. -/
  | unrecognized (line : String)
  /-- The line has the shape of a rule, but one of its slots holds no value. -/
  | badArgument (line : String) (cause : LiteralError)
  deriving DecidableEq, Repr

def ClassifyError.message : ClassifyError → String
  | unrecognized line => "unrecognized statement: " ++ line
  | badArgument line cause => "invalid argument in `" ++ line ++ "`: " ++ cause.message

inductive Failure where
  | classification (error : ClassifyError)
  | precondition (refusal : Refusal)
  | evaluation (error : Formula.Error)

namespace Failure

def message : Failure → String
  | classification error => error.message
  | precondition refusal => refusal.message
  | evaluation error => error.message

end Failure

inductive FailureKind where
  | classification
  | precondition
  | evaluation
  deriving DecidableEq, Repr

def Failure.kind : Failure → FailureKind
  | classification _ => .classification
  | precondition _ => .precondition
  | evaluation _ => .evaluation

/-- Why carrying out a statement ends without an effect: it fails, or a count leaves the range of its
type and the whole run breaks down. -/
inductive Stop where
  | failed (failure : Failure)
  | overflow

namespace Stop

/-- The end of a line that is not understood. -/
def notUnderstood (error : ClassifyError) : Stop := .failed (.classification error)

/-- The end of a statement that the state does not allow. -/
def refused (refusal : Refusal) : Stop := .failed (.precondition refusal)

end Stop

end Microworlds
