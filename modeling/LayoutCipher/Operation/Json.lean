import LayoutCipher.Json.Printer
import LayoutCipher.Json.Reader
import LayoutCipher.Operation.Basic

/-!
# Operations as JSON

An operation is written as an object with its name under `op` and, for a rotation, the amount
under `amount`.  It is read from such an object, whatever the order of the members and with
further members left aside, or from an array of name and amount.  Operations are listed in an
array.
-/

namespace LayoutCipher.Operation

def toJson : Operation → Json
  | .horizontalFlip => .object [("op", .string "horizontal_flip")]
  | .verticalFlip => .object [("op", .string "vertical_flip")]
  | .rotate amount =>
      .object [("op", .string "rotate"), ("amount", .integer amount.toInt)]

def listJson (operations : List Operation) : String :=
  (Json.array (operations.map toJson)).compact

/-- An amount: an integer of 64 bits with sign. -/
def amountOfJson? : Json → Option Int64
  | .integer n => amountOfInt? n
  | _ => none

/-- The operation with a name and an amount, which a flip may leave out or null. -/
def ofParts? (name : String) (amount : Option Json) : Option Operation :=
  let flip (operation : Operation) : Option Operation :=
    match amount with
    | none | some .null => some operation
    | _ => none
  if name = "horizontal_flip" then flip .horizontalFlip
  else if name = "vertical_flip" then flip .verticalFlip
  else if name = "rotate" then .rotate <$> (amount.bind amountOfJson?)
  else none

/-- The name of an operation: a string, or an object that gives the name a null. -/
def nameOfJson? : Json → Option String
  | .string name => some name
  | .object [(name, .null)] => some name
  | _ => none

def valuesNamed (name : String) (members : List (String × Json)) : List Json :=
  (members.filter fun member => member.1 = name).map Prod.snd

/-- The operation that the members of an object describe; the name must be given once, the
amount at most once. -/
def ofMembers? (members : List (String × Json)) : Option Operation :=
  match valuesNamed "op" members, valuesNamed "amount" members with
  | [name], [] => (nameOfJson? name).bind (ofParts? · none)
  | [name], [amount] => (nameOfJson? name).bind (ofParts? · (some amount))
  | _, _ => none

/-- The operation that the elements of an array describe: a name and an amount. -/
def ofElements? : List Json → Option Operation
  | [.string name, amount] => ofParts? name (some amount)
  | _ => none

/-- The operation that a JSON value describes. -/
def ofJson? : Json → Option Operation
  | .object members => ofMembers? members
  | .array elements => ofElements? elements
  | _ => none

/-- The operation at the front of a text.  The values of members that describe nothing only have
to follow the grammar, so unpaired surrogates are let pass in them. -/
def readFront? (text : List Char) : Option (Operation × List Char) :=
  let depth := text.length + 1
  match Json.Reader.skipBlanks text with
  | '\x7b' :: rest => do
      let (members, rest) ← Json.Reader.object? .refused
        (fun name =>
          Json.Reader.value?
            (if name = "op" || name = "amount" then .refused else .replaced) depth) rest
      let operation ← ofMembers? members
      return (operation, rest)
  | '[' :: rest => do
      let (elements, rest) ← Json.Reader.array? (Json.Reader.value? .refused depth) rest
      let operation ← ofElements? elements
      return (operation, rest)
  | _ => none

/-- The operation that a whole text denotes. -/
def readJson? (text : String) : Option Operation := do
  let (operation, rest) ← readFront? text.toList
  if (Json.Reader.skipBlanks rest).isEmpty then return operation else none

/-- The operations behind the bracket of a list or behind a comma, up to the end of the list. -/
def readElements? : (bound : Nat) → List Char → Option (List Operation × List Char)
  | 0, _ => none
  | bound + 1, text => do
      let (operation, rest) ← readFront? text
      match Json.Reader.skipBlanks rest with
      | ',' :: rest =>
          let (others, rest) ← readElements? bound rest
          return (operation :: others, rest)
      | ']' :: rest => return ([operation], rest)
      | _ => none

/-- The operations of a list behind its bracket. -/
def readList? (text : List Char) : Option (List Operation × List Char) :=
  match Json.Reader.skipBlanks text with
  | ']' :: rest => some ([], rest)
  | _ => readElements? (text.length + 1) text

/-- The operations that a whole text lists, each read from its own place in the text. -/
def readListJson? (text : String) : Option (List Operation) :=
  match Json.Reader.skipBlanks text.toList with
  | '[' :: rest => do
      let (operations, rest) ← readList? rest
      if (Json.Reader.skipBlanks rest).isEmpty then return operations else none
  | _ => none

end LayoutCipher.Operation
