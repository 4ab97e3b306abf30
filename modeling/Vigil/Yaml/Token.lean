import Vigil.Yaml.Scalar

/-! # Tokens of YAML

Indentation is made explicit: `blockSequence` and `blockMapping` begin what `blockEnd` ends, and `key` stands
before every key, also where nothing in the text marks it. -/

namespace Vigil.Yaml

/-- A token. -/
inductive Token
  | version (major minor : Nat)
  | tagHandle (handle target : String)
  | documentStart
  | documentEnd
  | textEnd
  | blockSequence
  | blockMapping
  | blockEnd
  | flowSequence
  | flowSequenceEnd
  | flowMapping
  | flowMappingEnd
  | item
  | comma
  | key
  | value
  | anchor (name : String)
  | reference (name : String)
  | tag (handle suffix : String)
  | scalar (style : ScalarStyle) (text : String)
deriving DecidableEq

end Vigil.Yaml
