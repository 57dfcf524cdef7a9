/-!
Why a document has no value.
-/
namespace Stencil.Yaml

/-- Why a document has no value. Only marked values can fail in a way of their own; whatever else
is wrong makes the document malformed. -/
inductive Failure where
  /-- The text is no single document, or a value in it has no meaning. -/
  | malformed
  /-- A number, a day or a time cannot be what it is marked as. -/
  | unreadable
  /-- A text marked as a number has nothing to read. -/
  | noDigits
  /-- A text marked as a truth value is no word for one. -/
  | noTruthValue
  /-- A text marked as a time has not the form of one. -/
  | noTime
  /-- A number lies beyond all that can be worked with. -/
  | tooLarge
  deriving DecidableEq, Repr

end Stencil.Yaml
