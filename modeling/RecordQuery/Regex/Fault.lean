/-!
# Why a regular expression is refused

One constructor per cause, with the wording in `Fault.message`.
-/

namespace RecordQuery.Regex

/-- Why a regular expression is refused. -/
inductive Fault where
  | nestedTooDeeply
  | tooLarge
  | unclosedGroup
  | unopenedGroup
  | lookAround
  | emptyFlags
  | unknownFlag (flag : Char)
  | repeatedFlag (flag : Char)
  | repeatedNegation
  | danglingNegation
  | unclosedFlags
  | groupName
  | repeatedGroupName (name : String)
  | danglingEscape
  | unknownEscape (letter : Char)
  | codePoint
  | boundaryName (name : String)
  | nothingToRepeat
  | count
  | reversedCount (least most : Nat)
  | unclosedClass
  | nestedClass
  | classOperator (operator : Char)
  | classMember
  | reversedRange
deriving DecidableEq

/-- The wording of a cause. -/
def Fault.message : Fault → String
  | .nestedTooDeeply => "nested too deeply"
  | .tooLarge => "compiles to an automaton that is too large"
  | .unclosedGroup => "a group is not closed"
  | .unopenedGroup => "a closing parenthesis has no group"
  | .lookAround => "look-around is not supported"
  | .emptyFlags => "a flag group is empty"
  | .unknownFlag flag => "unknown inline flag '" ++ String.ofList [flag] ++ "'"
  | .repeatedFlag flag => "inline flag '" ++ String.ofList [flag] ++ "' is repeated"
  | .repeatedNegation => "inline flags are negated twice"
  | .danglingNegation => "nothing follows the negation of inline flags"
  | .unclosedFlags => "a flag group is not closed"
  | .groupName => "a group name is empty, not closed or not a name"
  | .repeatedGroupName name => "group name \"" ++ name ++ "\" is used twice"
  | .danglingEscape => "nothing follows a backslash"
  | .unknownEscape letter => "unknown escape '\\" ++ String.ofList [letter] ++ "'"
  | .codePoint => "a character code is incomplete or denotes no character"
  | .boundaryName name => "unknown word boundary \"" ++ name ++ "\""
  | .nothingToRepeat => "nothing precedes a repetition"
  | .count => "a repetition count is incomplete or not a count"
  | .reversedCount least most =>
    "a repetition of at least " ++ toString least ++ " and at most " ++ toString most
  | .unclosedClass => "a character class is not closed"
  | .nestedClass => "a character class stands inside another"
  | .classOperator operator =>
    "class operator '" ++ String.ofList [operator, operator] ++ "' is not supported"
  | .classMember => "a member of a character class is no character"
  | .reversedRange => "a range of characters is reversed"

end RecordQuery.Regex
