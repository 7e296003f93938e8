import LayoutCipher.Cipher.Parse
import LayoutCipher.Grid.Layout
import LayoutCipher.Grid.Lookup
import LayoutCipher.Operation.Apply

/-!
# Retyping

A cipher transforms a layout; an input is retyped by typing each of its characters on the layout
as it was and reading the key at the same coordinate of the transformed one.
-/

namespace LayoutCipher

/-- Applies operations to a grid and reports each of them. -/
def Operation.applyAllLogged {ε α : Type} :
    List Operation → Grid α → Logged ε (Grid α)
  | [], g => pure g
  | operation :: rest, g => do
      Logged.emit (.operationApplied operation)
      applyAllLogged rest (operation.apply g)

theorem Operation.outcome_applyAllLogged {ε α : Type} (operations : List Operation)
    (g : Grid α) :
    (applyAllLogged operations g : Logged ε (Grid α)).outcome =
      .ok (applyAll operations g) := by
  induction operations generalizing g with
  | nil => rfl
  | cons operation rest ih =>
      simpa [applyAllLogged, bind, Logged.bind, Logged.emit, applyAll] using
        ih (operation.apply g)

theorem Operation.events_applyAllLogged {ε α : Type} (operations : List Operation)
    (g : Grid α) :
    (applyAllLogged operations g : Logged ε (Grid α)).events =
      operations.map .operationApplied := by
  induction operations generalizing g with
  | nil => rfl
  | cons operation rest ih =>
      simpa [applyAllLogged, bind, Logged.bind, Logged.emit] using ih (operation.apply g)

def Grid.transform {α : Type} (g : Grid α) (cipher : String) : Logged Fault (Grid α) := do
  let operations ← Cipher.parse cipher
  Operation.applyAllLogged operations g

theorem Grid.outcome_transform_of_ok {α : Type} (g : Grid α) {cipher : String}
    {operations : List Operation} (parsed : (Cipher.parse cipher).outcome = .ok operations) :
    (g.transform cipher).outcome = .ok (Operation.applyAll operations g) := by
  rw [transform, Logged.outcome_bind, parsed]
  exact Operation.outcome_applyAllLogged operations g

namespace Layout

/-- The key that takes the place of a character. -/
def counterpart? (index : List (Char × Grid.Coordinate)) (transformed : Layout) (c : Char) :
    Option Char :=
  (index.lookup c).bind transformed.get?

/-- Retypes the characters from number `position` on. -/
def retypeFrom (index : List (Char × Grid.Coordinate)) (transformed : Layout) :
    Nat → List Char → Except Fault (List Char)
  | _, [] => .ok []
  | position, c :: rest =>
      match counterpart? index transformed c with
      | none => .error (.characterNotOnGrid position c)
      | some key => (key :: ·) <$> retypeFrom index transformed (position + 1) rest

def retype (base transformed : Layout) (input : String) : Except Fault String :=
  String.ofList <$> retypeFrom base.index transformed 0 input.toList

/-- Refuses an input that is empty or has a character that is not on the layout. -/
def checkInput (layout : Layout) (input : String) : Except Fault Unit :=
  if input.toList = [] then .error .emptyInput
  else
    let index := layout.index
    match input.toList.zipIdx.find? fun (c, _) => (index.lookup c).isNone with
    | some (c, position) => .error (.characterNotOnGrid position c)
    | none => .ok ()

/-- Retypes an input on the layout that a cipher makes.  The cipher is checked first, then the
input; amounts are read only after both have passed. -/
def execute (layout : Layout) (cipher input : String) : Logged Fault String := do
  Cipher.validate cipher
  Logged.ofExcept (layout.checkInput input)
  let operations ← Cipher.parse cipher
  let transformed ← Operation.applyAllLogged operations layout
  let output ← Logged.ofExcept (layout.retype transformed input)
  Logged.emit (.inputRetyped cipher operations.length input.length)
  return output

end Layout

end LayoutCipher
