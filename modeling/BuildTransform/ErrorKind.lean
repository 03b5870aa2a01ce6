/-!
# Sorts of errors

Errors of evaluation and of configuration, sorted for programs that have to tell
them apart without reading messages.
-/

namespace BuildTransform

/-- The sort of an error, for programs. -/
inductive ErrorKind
  | manifestNotFound
  | configFileRead
  | configFileParse
  | configModule
  | configShape
  | unsupportedExpression
  | unboundIdentifier
  | joinArgumentType
deriving DecidableEq, Repr

namespace ErrorKind

/-- The word for a sort of error. -/
def word : ErrorKind → String
  | .manifestNotFound => "manifest_not_found"
  | .configFileRead => "config_file_read"
  | .configFileParse => "config_file_parse"
  | .configModule => "config_module"
  | .configShape => "config_shape"
  | .unsupportedExpression => "unsupported_expression"
  | .unboundIdentifier => "unbound_identifier"
  | .joinArgumentType => "join_argument_type"

end ErrorKind

end BuildTransform
