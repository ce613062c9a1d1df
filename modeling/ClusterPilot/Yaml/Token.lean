/-
The tokens of a YAML text, and what can be wrong with one.
-/
namespace ClusterPilot.Yaml

/-- A tag as it is written: the name of a shorthand and what follows it, or a whole tag. -/
structure TagName where
  handle : Option (List Char)
  suffix : List Char
  deriving DecidableEq, Repr

/-- A token of a YAML text. -/
inductive Token where
  | versionDirective (major : Nat)
  | tagDirective (handle expansion : List Char)
  | otherDirective
  | documentStart
  | documentEnd
  | blockSequenceStart
  | blockMappingStart
  | blockEnd
  | flowSequenceStart
  | flowSequenceEnd
  | flowMappingStart
  | flowMappingEnd
  | blockEntry
  | flowEntry
  | key
  | value
  | alias (name : List Char)
  | anchor (name : List Char)
  | tag (name : TagName)
  | scalar (content : List Char) (plain : Bool)
  deriving DecidableEq, Repr

/-- Why the bytes of a file are no YAML document, or hold a scalar without a value. -/
inductive Error where
  /-- Bytes that are no UTF-8. -/
  | undecodable
  /-- A character that no YAML text may hold. -/
  | forbiddenCharacter
  /-- A character that can start no token. -/
  | noToken
  /-- A key that has to end on its line, without its colon. -/
  | unfinishedKey
  /-- An entry, a key or a value where none may start. -/
  | misplacedEntry
  | badDirective
  | badAnchor
  | badTag
  | badScalar
  | badEscape
  /-- A text that ends, or a document that starts, inside a quoted scalar. -/
  | unclosedQuote
  /-- A token that does not belong here. -/
  | unexpectedToken
  | undefinedAlias
  | repeatedAnchor
  | severalDocuments
  /-- A tag without a meaning here. -/
  | unknownTag
  /-- A node that is not what its tag says. -/
  | mismatchedTag
  /-- A text that bytes are not written as. -/
  | badBinary
  /-- A key that is a collection. -/
  | collectionKey
  /-- A merge of something that is no mapping. -/
  | badMerge
  /-- A scalar that has the form of a value and none: a date that does not exist, a number too long
  to be read, a character beyond the last. -/
  | noSuchValue
  /-- A code point that does not fit 31 bits. -/
  | hugeCodePoint
  /-- A number with so many places to the base of sixty that the value of the highest one is no
  finite number. -/
  | hugePlace
  /-- A text that a boolean tag is put on. -/
  | noSuchBoolean
  /-- An empty text that a number tag is put on. -/
  | emptyNumber
  /-- A text that a date tag is put on. -/
  | noSuchDate
  /-- A mapping with a default value that a date tag is put on. -/
  | dateOfMapping
  /-- Collections inside each other, or merges of what has merges itself, beyond what is read. -/
  | tooDeep
  deriving DecidableEq, Repr

end ClusterPilot.Yaml
