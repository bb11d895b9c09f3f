import Loyalty.Report

/-!
# Failures

What a caller is told when a request fails: one of six classes, each with a status number, a code
and a text.
-/

namespace Loyalty

inductive Failure where
  | notFound (what : String)
  | validation (report : Report String)
  | businessRule (what : String)
  | conflict (what : String)
  | database (what : String)
  | internal (what : String)
  deriving DecidableEq, Repr

namespace Failure

def status : Failure → Nat
  | .notFound _ => 404
  | .validation _ => 400
  | .businessRule _ => 422
  | .conflict _ => 409
  | .database _ => 500
  | .internal _ => 500

def code : Failure → String
  | .notFound _ => "NOT_FOUND"
  | .validation _ => "VALIDATION_ERROR"
  | .businessRule _ => "BUSINESS_RULE_VIOLATION"
  | .conflict _ => "CONFLICT"
  | .database _ => "DATABASE_ERROR"
  | .internal _ => "INTERNAL_ERROR"

def message : Failure → String
  | .notFound what => "Not found: " ++ what
  | .validation report => "Validation error: " ++ report.text
  | .businessRule what => "Business rule violation: " ++ what
  | .conflict what => "Conflict: " ++ what
  | .database what => "Database error: " ++ what
  | .internal what => "Internal error: " ++ what

end Failure

end Loyalty
