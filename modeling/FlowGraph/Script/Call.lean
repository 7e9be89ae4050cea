/-!
# Calls out of a script

A script acts on its run by calls only; they are kept in order and carried out when the
script has ended.
-/

namespace FlowGraph

/-- A call by which a script acts on the run. -/
inductive ScriptCall where
  | log (text : String)
  | fail (reason : String)
  | setWorkingFile (path : String)
  deriving DecidableEq

end FlowGraph
