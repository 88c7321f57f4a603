import Traversal.Chain.Basic
import Traversal.Text.Quoted

/-! # The text of a query

A chain is written root first: the graph, then each step with its arguments. Client operators leave
no trace in the text. -/

namespace Traversal

/-- Exponents from -4 to 15 are written positionally; a floating-point argument has no sign before a
positive exponent. -/
def Param.layout : Layout := ⟨-4, 15, false, true⟩

/-- How every text begins. -/
def graphToken : String := "g"

/-- One step's part of the text. -/
def stepText (kind : StepKind) (args : List String) : String :=
  "." ++ kind.name ++ "(" ++ ", ".intercalate args ++ ")"

mutual

/-- The argument as it stands in the text. A floating-point number is sent as a literal. -/
def Param.render : Param → String
  | .null => ""
  | .text s => Text.quoted s
  | .int n => toString n.toInt
  | .float x => "\"" ++ Param.layout.write x ++ "\""
  | .list items => "[" ++ ", ".intercalate (renderAll items) ++ "]"
  | .query chain => chain.text

def renderAll : List Param → List String
  | [] => []
  | p :: rest => p.render :: renderAll rest

def Chain.text : Chain → String
  | .vertex _ args => graphToken ++ stepText .vertex (renderAll args)
  | .morphism _ => graphToken ++ stepText .morphism []
  | .step pred kind args => pred.text ++ stepText kind (renderAll args)
  | .client pred _ => pred.text

end

theorem renderAll_eq_map (args : List Param) : renderAll args = args.map Param.render := by
  induction args with
  | nil => rfl
  | cons p rest ih => simp [renderAll, ih]

end Traversal
