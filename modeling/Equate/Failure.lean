import Equate.Fault

/-!
# What can go wrong on the way from a file to a solution
-/
namespace Equate

/-- The reasons why a run ends without a result. -/
inductive Failure where
  | configuration (reason : Text)
  | source (fault : Fault)
  | solver (message : Text)
  | file (operation path reason : Text)
  | document (reason : Text)
  deriving DecidableEq, Repr

namespace Failure

/-- The failure in words. -/
def message : Failure → Text
  | configuration reason => "Configuration error: " ++ reason
  | source fault => "Preprocessing failed: " ++ fault.message
  | solver text => "Solver error: " ++ text
  | file operation path reason =>
    "File error: " ++ operation ++ " on '" ++ path ++ "' - " ++ reason
  | document reason => "Serialization error: " ++ reason

/-- The code that callers can tell failures apart by; a fault in the source keeps its
own. -/
def code : Failure → Text
  | configuration _ => "CONFIG_ERROR"
  | source fault => fault.code
  | solver _ => "SOLVE_ERROR"
  | file .. => "FILE_ERROR"
  | document _ => "SERIALIZATION_ERROR"

end Failure
end Equate
