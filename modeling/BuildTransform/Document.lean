/-!
# Failures of documents

Why a document in a markup language has no value.

* A document is malformed if it breaks the grammar of its language.
* A `DocumentFault` is a text within a well-formed document that does not denote
  a value of its kind, or a document beyond the limits of size.
-/

namespace BuildTransform

/-- What is wrong with a document beyond its form. -/
inductive DocumentFault
  | integerTooLong
  | tooDeep
  | impossibleValue
  | emptyNumber
  | numberOutOfRange
  | notATimestamp
  | unknownTruth (word : String)
deriving DecidableEq, Repr

/-- Why a document has no value, or none that is known here: an escape may denote half of a
pair of units, which is no character. -/
inductive DocumentFailure
  | malformed
  | fault (f : DocumentFault)
  | unpairedUnit
deriving DecidableEq, Repr

end BuildTransform
