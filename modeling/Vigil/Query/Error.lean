/-! # What is wrong with a query

The causes for which a text is no query, with the message for each. -/

namespace Vigil

/-- Why a text is no query. Offsets count bytes. -/
inductive QueryError
  | empty
  | unterminatedText (offset : Nat)
  | unexpectedCharacter (c : Char) (offset : Nat)
  | invalidNumber (digits : String)
  | missingHead (token : String)
  | missingClosing
  | unexpectedToken (token : String)
  | unexpectedEnd
  | invalidOperator (token : String)
  | unknownFunction (name : String)
  | invalidArguments (function : String)
  | invalidLiteral (operator token : String)
  | invalidPattern
deriving DecidableEq

/-- The message of an error. What is wrong with an expression is the `report` of the engine that refuses it;
without one the message ends before it. -/
def QueryError.message (e : QueryError) (report : Option String := none) : String :=
  match e with
  | .empty => "Query is empty"
  | .unterminatedText offset => "Unterminated string literal starting at offset " ++ toString offset
  | .unexpectedCharacter c offset =>
    "Unexpected character '" ++ c.toString ++ "' at offset " ++ toString offset
  | .invalidNumber digits => "Invalid number literal '" ++ digits ++ "'"
  | .missingHead token => "Query must start with '<event_type> where', got: '" ++ token ++ "'"
  | .missingClosing => "Missing closing parenthesis in query"
  | .unexpectedToken token => "Encountered unexpected token '" ++ token ++ "' in query"
  | .unexpectedEnd => "Query ended unexpectedly"
  | .invalidOperator token => "Encountered invalid operator '" ++ token ++ "' in query"
  | .unknownFunction name => "Unknown function '" ++ name ++ "'"
  | .invalidArguments function =>
    "Function '" ++ function ++ "' expects a field followed by at least one string pattern"
  | .invalidLiteral operator token =>
    "Operator '" ++ operator ++ "' requires a string, number, boolean or null literal, got: '" ++
      token ++ "'"
  | .invalidPattern =>
    "Failed to parse regular expression" ++ (report.map fun r => ": '" ++ r ++ "'").getD ""

end Vigil
