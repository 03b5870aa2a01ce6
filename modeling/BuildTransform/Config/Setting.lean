import BuildTransform.Path.Basic
import BuildTransform.Value.Basic

/-!
# Settings

What a mapping of options holds under its keys, and what can be wrong with it.
-/

namespace BuildTransform

/-- What a mapping holds under a key: a value, or a path as such. -/
inductive Setting
  | value (v : Value)
  | path (p : Path)
deriving Repr

/-- Values are settings. -/
instance : Coe (List (String × Value)) (List (String × Setting)) where
  coe := List.map fun entry => (entry.1, .value entry.2)

/-- What is wrong with the value of a field. -/
inductive OptionFault
  | notAPath
  | notABoolean
  | unreadableBoolean
deriving DecidableEq, Repr

namespace OptionFault

/-- The word for a fault. -/
def word : OptionFault → String
  | .notAPath => "path_type"
  | .notABoolean => "bool_type"
  | .unreadableBoolean => "bool_parsing"

end OptionFault

end BuildTransform
