import RecordQuery.Operator
import RecordQuery.Path
import RecordQuery.Value.Basic

/-!
# Errors

A specification is refused with a `CompileError` that says what is wrong with it and where. A
filter fails on a record with an `EvalError`: operands are checked when the filter is made, but the
values of a record only when they are reached. Messages, codes and hints are functions of the cause.
-/

namespace RecordQuery

/-- What an operand must be. -/
inductive Demand where
  | array
  | boolean
  | number
  | string
  | pattern
deriving DecidableEq

/-- The wording of a demand. -/
def Demand.wording : Demand → String
  | array => "an array"
  | boolean => "a boolean"
  | number => "a number"
  | string => "a string"
  | pattern => "a regex or a string"

/-- Why a specification is refused. -/
inductive CompileError where
  /-- The operand of a condition is of the wrong kind. -/
  | invalidOperand (path : Path) (operator : Operator) (demand : Demand) (found : Kind)
  /-- A pattern is refused. -/
  | invalidPattern (fault : Pattern.Fault)
  /-- A connective has no operands. -/
  | emptyOperands (path : Path) (connective : Connective)
  /-- A value stands where a query is needed. -/
  | expectedQuery (path : Path) (found : Kind)
  /-- An undefined value stands where a query is needed. -/
  | undefinedSpecification (path : Path)
  /-- The specification is nested more deeply than allowed. -/
  | depthLimitExceeded (limit : Nat)
deriving DecidableEq

/-- Why a filter fails on a record. -/
inductive EvalError where
  /-- A subset condition meets a value that is no array. -/
  | notAnArray (operator : Operator) (found : Kind)
  /-- A superset condition meets a value without items. -/
  | notIterable (operator : Operator) (found : Kind)
  /-- An inclusion meets a value that is neither array nor text. -/
  | notIncludable (operator : Operator) (found : Kind)
  /-- A bit test meets a wide integer. -/
  | bigintMix (operator : Operator)
deriving DecidableEq

namespace CompileError

/-- The location of the offending part, where one is known. -/
def path? : CompileError → Option Path
  | invalidOperand path _ _ _ => some path
  | emptyOperands path _ => some path
  | expectedQuery path _ => some path
  | undefinedSpecification path => some path
  | invalidPattern _ => none
  | depthLimitExceeded _ => none

/-- The wording of an error, with the complaint about a pattern's source given. -/
def wording (complaint : Regex.Fault → String) : CompileError → String
  | invalidOperand path operator demand found =>
    "Invalid operand for \"" ++ operator.name ++ "\" at \x60" ++ path.location ++ "\x60, expected "
      ++ demand.wording ++ ", got " ++ found.name
  | invalidPattern fault => "Invalid regular expression " ++ fault.wording complaint
  | emptyOperands path connective =>
    "\"" ++ connective.name ++ "\" at \x60" ++ path.location ++ "\x60 needs at least one operand"
  | expectedQuery path found =>
    "Expected a query object at \x60" ++ path.location ++ "\x60, got " ++ found.name
  | undefinedSpecification path => "Undefined specification at \x60" ++ path.location ++ "\x60"
  | depthLimitExceeded limit =>
    "Maximum specification depth exceeded \"" ++ Text.decimal limit ++ "\""

/-- The code of an error. -/
def code : CompileError → String
  | invalidOperand .. => "CompileError::InvalidOperand"
  | invalidPattern _ => "CompileError::InvalidRegularExpression"
  | emptyOperands .. => "CompileError::EmptyOperands"
  | expectedQuery .. => "CompileError::ExpectedQuery"
  | undefinedSpecification _ => "CompileError::UndefinedSpecification"
  | depthLimitExceeded _ => "CompileError::DepthLimitExceeded"

/-- The hint that goes with an error. -/
def help? : CompileError → Option String
  | invalidOperand .. =>
    some ("Set operators take arrays, $exists a boolean, $bits a number, $type a string and "
      ++ "$match a regex")
  | emptyOperands .. =>
    some "Logic operators take a query or value, or a non-empty array of them"
  | expectedQuery .. => some "A query node must be an object or an array"
  | depthLimitExceeded _ => some "Flatten the specification or raise the maximum depth"
  | invalidPattern _ => none
  | undefinedSpecification _ => none

end CompileError

namespace EvalError

/-- The message of an error. -/
def message : EvalError → String
  | notAnArray operator found =>
    "\"" ++ operator.name ++ "\" expects an array field, got " ++ found.name
  | notIterable operator found =>
    "\"" ++ operator.name ++ "\" expects an iterable field, got " ++ found.name
  | notIncludable operator found =>
    "\"" ++ operator.name ++ "\" expects an array or string field, got " ++ found.name
  | bigintMix operator => "Cannot mix bigint and other types in \"" ++ operator.name ++ "\""

/-- The code of an error. -/
def code : EvalError → String
  | notAnArray .. => "EvalError::NotAnArray"
  | notIterable .. => "EvalError::NotIterable"
  | notIncludable .. => "EvalError::NotIncludable"
  | bigintMix _ => "EvalError::BigIntMix"

end EvalError

/-- An error of either sort. -/
inductive Error where
  | compile (e : CompileError)
  | eval (e : EvalError)
deriving DecidableEq

namespace Error

/-- The wording of an error, with the complaint about a pattern's source given. -/
def wording (complaint : Regex.Fault → String) : Error → String
  | compile e => e.wording complaint
  | eval e => e.message

/-- The message of an error. -/
def message (e : Error) : String := e.wording Regex.Fault.message

/-- The code of an error. -/
def code : Error → String
  | compile e => e.code
  | eval e => e.code

/-- The hint that goes with an error. -/
def help? : Error → Option String
  | compile e => e.help?
  | eval _ => none

/-- The location of the offending part of the specification, where one is known. -/
def path? : Error → Option Path
  | compile e => e.path?
  | eval _ => none

end Error

end RecordQuery
