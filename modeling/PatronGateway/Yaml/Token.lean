/-!
# Tokens of YAML

The tokens of a stream of documents.  Blocks, which are written by indentation alone,
have tokens where they begin and end, and so do the keys of mappings, although most of
them have no mark of their own in the text.
-/

namespace PatronGateway
namespace Yaml

/-- Something in a stream of documents. -/
inductive Token where
  | version
  | tagDirective (handle lead : String)
  | documentStart
  | documentEnd
  | blockSequence
  | blockMapping
  | blockEnd
  | blockEntry
  | flowSequence
  | flowSequenceEnd
  | flowMapping
  | flowMappingEnd
  | flowEntry
  | key
  | value
  | alias (name : String)
  | anchor (name : String)
  | tag (handle suffix : String)
  | scalar (plain : Bool) (text : String)
  deriving DecidableEq, Repr

end Yaml
end PatronGateway
