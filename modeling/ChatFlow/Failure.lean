import ChatFlow.Text.Quoted

/-!
# What can go wrong

Every failure is a cause with the data that its message names.  `message` is
the one place where the wording is fixed.
-/

namespace ChatFlow

/-- Why a stored flow is no document. -/
inductive DocumentFault where
  /-- The text is not JSON. -/
  | notJson
  /-- The value is not an object but of the kind named. -/
  | notObject (kind : String)
  /-- The nodes are neither a list nor an object. -/
  | badNodes
  /-- Nodes, edges or the start node do not have their form. -/
  | malformed (parts : List String)
  deriving DecidableEq, Repr

/-- Why a transform gives no value. -/
inductive TransformFault where
  /-- The expression has no characters but blanks. -/
  | empty
  /-- The expression does not parse. -/
  | unreadable
  /-- The expression parses and has no value. -/
  | noValue
  deriving DecidableEq, Repr

/-- The failures of the library. -/
inductive Failure where
  /-- A stored flow is no document. -/
  | document (fault : DocumentFault)
  /-- The settings of a node do not fit its type, because of the fields named. -/
  | settings (node type : String) (names : List String)
  /-- A transform gives no value. -/
  | transform (fault : TransformFault)
  /-- The fields named do not have their form. -/
  | fields (names : List String)
  /-- An integer is too large to be compared as a double. -/
  | tooLarge
  /-- A double beyond all numbers is needed as an integer. -/
  | infinite
  /-- An integer does not fit into 64 bits. -/
  | outOfRange
  /-- A value, shown in its quotes, is none of the words that an enumeration has. -/
  | unknownWord (shown enumeration : String)
  /-- A table or column name, shown in its quotes, is not an identifier. -/
  | badIdentifier (shown : String)
  /-- A request to the database that cannot be put together. -/
  | badStatement (reason : String)
  /-- The address of the database could not be had. -/
  | noDatabase (reason : String)
  /-- A field was asked of a value of the kind named, which has no fields. -/
  | noField (kind field : String)
  /-- Something of a collection was asked under a key that it does not have. -/
  | noKey (key : String)
  /-- A list has no item at a place. -/
  | noPlace
  /-- A value of a wrong kind stands where the program needs another. -/
  | wrongKind (reason : String)
  /-- A text that is needed as JSON is not JSON. -/
  | notJson
  /-- An instant is so far off that it has no date. -/
  | noDate
  /-- Bytes in units of so many bits do not tell their order. -/
  | noByteOrder (width : Nat)
  /-- A failure that a step reports in its own words. -/
  | reported (reason : String)
  deriving DecidableEq, Repr

/-- What stands for the details of a form that does not fit. -/
def formNotice : String := "<validation>"

/-- The message of a faulty document. -/
def DocumentFault.message : DocumentFault → String
  | notJson => "Flow config is not valid JSON"
  | notObject kind => "Flow config must be an object, got " ++ kind
  | badNodes => "Flow config `nodes` must be a list or an object"
  | malformed _ => formNotice

/-- The message of a transform without value. -/
def TransformFault.message : TransformFault → String
  | empty => "Transform expression is empty"
  | unreadable => "Invalid expression"
  | noValue => "Expression failed"

/-- The message of a failure. -/
def Failure.message : Failure → String
  | document fault => fault.message
  | settings node type _ => "Invalid config for node " ++ node ++ " (" ++ type ++ "): " ++ formNotice
  | transform fault => fault.message
  | fields _ => formNotice
  | tooLarge => "int too large to convert to float"
  | infinite => "cannot convert float infinity to integer"
  | outOfRange => "overflow"
  | unknownWord shown enumeration => shown ++ " is not a valid " ++ enumeration
  | badIdentifier shown => "Invalid identifier: " ++ shown
  | badStatement reason => reason
  | noDatabase reason => reason
  | noField kind field =>
    Text.quoted kind ++ " object has no attribute " ++ Text.quoted field
  | noKey key => key
  | noPlace => "list index out of range"
  | wrongKind reason => reason
  | notJson => "Expecting value: line 1 column 1 (char 0)"
  | noDate => "date value out of range"
  | noByteOrder width =>
    "UTF-" ++ String.ofList (Nat.toDigits 10 width) ++ " stream does not start with BOM"
  | reported reason => reason

end ChatFlow
