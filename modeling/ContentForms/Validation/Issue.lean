import ContentForms.Location
import ContentForms.Text.Split

/-!
Issues: what is wrong with a document, and where. A `Fault` is the cause; its message names the
field by its label.
-/

namespace ContentForms

inductive Fault where
  | missing
  | notText
  | notLink
  | notImage
  | notUrl
  | notNumber
  /-- The value has not the shape of an object or a list that the rule asks for. -/
  | wrongShape
  | notOneOf (allowed : List String)
  | noneChosen
  /-- Items of a selection that are not allowed, as texts. -/
  | notAllowed (items : List String)
  /-- The document itself is not an object. -/
  | notADocument
  deriving DecidableEq

def Fault.message (label : String) : Fault → String
  | missing => label ++ " es requerido"
  | notText => label ++ " debe ser texto"
  | notLink => label ++ " debe ser una URL válida (http(s), relativa o ancla #)"
  | notImage => label ++ " debe ser una URL de imagen válida"
  | notUrl => label ++ " debe ser una URL válida"
  | notNumber => label ++ " debe ser un número"
  | wrongShape => label ++ " tiene un formato inválido"
  | notOneOf allowed =>
      label ++ " debe ser una de las opciones: " ++ ", ".intercalate allowed
  | noneChosen => "Selecciona al menos un " ++ label
  | notAllowed [item] => label ++ " contiene una opción no válida: " ++ item
  | notAllowed items => label ++ " contiene opciones no válidas: " ++ ", ".intercalate items
  | notADocument => label ++ " debe ser un objeto"

structure Issue where
  location : Location
  message : String
  deriving DecidableEq

namespace Issue

def here (label : String) (fault : Fault) : Issue :=
  ⟨.root, fault.message label⟩

def under (step : Step) (issue : Issue) : Issue :=
  ⟨step :: issue.location, issue.message⟩

end Issue

end ContentForms
