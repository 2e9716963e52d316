import Mathlib.Data.List.Basic

/-!
# JSON Documents

A JSON document as a tree, and how it is read into records. Reading follows the
rules of Go's `encoding/json`: the members of an object are read one after the
other into a record that starts with its zero values, a name the record does
not have is skipped, `null` changes nothing, and a value of another type is an
error. The text of a document is not looked at, apart from its numbers: one with
a fraction or an exponent is kept as it is written, since Go does not read it as
an integer even where it stands for one.

## Main definitions

* `Number`, `Json`: Documents.
* `Json.ofList`: An array of what a list holds.
* `Json.readStr`, `Json.readInt`, `Json.readList`: Reading a value.
* `Json.readObj`: Reading an object.

## Theorems

* `readList_ofList`: What was written element by element is read back.
* `readObj_nil`, `readObj_cons`: Reading an object member by member.
-/

namespace Nxpod

/-- A number is an integer or is kept as it was written. -/
inductive Number
  | int (n : Int)
  | other (literal : String)
  deriving DecidableEq

/-- A document. -/
inductive Json
  | null
  | bool (b : Bool)
  | num (n : Number)
  | str (s : String)
  | arr (elems : List Json)
  | obj (members : List (String × Json))

namespace Json

variable {α : Type}

/-- A list is written as an array. -/
def ofList (write : α → Json) (l : List α) : Json :=
  .arr (l.map write)

/-- Read a string in the place of an old one. -/
def readStr (old : String) : Json → Option String
  | .null => some old
  | .str s => some s
  | _ => none

/-- An integer is read, `null` leaves what there was, and all else is an error. -/
def readInt (old : Int) : Json → Option Int
  | .null => some old
  | .num (.int n) => some n
  | _ => none

/-- There is no difference between no list and an empty one. -/
def readList (read : Json → Option α) : Json → Option (List α)
  | .null => some []
  | .arr elems => elems.mapM read
  | _ => none

/-- A record is read member by member, from its zero value on. -/
def readObj (member : α → String → Json → Option α) (zero : α) : Json → Option α
  | .null => some zero
  | .obj members => members.foldlM (fun a m => member a m.1 m.2) zero
  | _ => none

theorem readList_ofList {read : Json → Option α} {write : α → Json} (l : List α)
    (h : ∀ a, read (write a) = some a) : readList read (ofList write l) = some l := by
  have hmap : (l.map write).mapM read = some l := by
    induction l with
    | nil => rfl
    | cons a l ih => rw [List.map_cons, List.mapM_cons, h, ih]; rfl
  exact hmap

theorem readObj_nil (member : α → String → Json → Option α) (a : α) :
    readObj member a (.obj []) = some a :=
  rfl

theorem readObj_cons {member : α → String → Json → Option α} {a a' : α} {name : String}
    {value : Json} (h : member a name value = some a') (rest : List (String × Json)) :
    readObj member a (.obj ((name, value) :: rest)) = readObj member a' (.obj rest) := by
  have hfold : ((name, value) :: rest).foldlM (fun a m => member a m.1 m.2) a =
      rest.foldlM (fun a m => member a m.1 m.2) a' := by
    rw [List.foldlM_cons, h]
    rfl
  exact hfold

end Json

end Nxpod
