import Traversal.Chain.Text
import Traversal.Proofs.Text.Separated

/-! # Outlines

What a query says: its steps, root first, each with its arguments. The endpoints and the client
operators of a chain do not count, and an empty list of arguments is the same as a single null. The
text of a chain is the text of its outline. -/

namespace Traversal

/-- An argument that holds no other. -/
inductive Atom where
  | null
  | text (value : String)
  | int (value : Int64)
  | float (value : Binary64)
deriving DecidableEq, Repr

mutual

/-- An argument as far as the text of a query can show it. A list has a first item, which is null if
there is none in fact. -/
inductive Outline where
  | atom (value : Atom)
  | list (first : Outline) (more : List Outline)
  | query (steps : List StepOutline)

/-- A step with its arguments, of which there is a first one as in a list. -/
inductive StepOutline where
  | mk (kind : StepKind) (first : Outline) (more : List Outline)

end

/-! ## The outline of a chain -/

mutual

def Param.outline : Param → Outline
  | .null => .atom .null
  | .text s => .atom (.text s)
  | .int n => .atom (.int n)
  | .float x => .atom (.float x)
  | .list items => .list (firstOutline items) (moreOutlines items)
  | .query chain => .query chain.outline

/-- The first argument, or null. -/
def firstOutline : List Param → Outline
  | [] => .atom .null
  | p :: _ => p.outline

/-- The arguments after the first one. -/
def moreOutlines : List Param → List Outline
  | [] => []
  | _ :: rest => outlines rest

def outlines : List Param → List Outline
  | [] => []
  | p :: rest => p.outline :: outlines rest

/-- The steps of a chain, root first. -/
def Chain.outline : Chain → List StepOutline
  | .vertex _ args => [.mk .vertex (firstOutline args) (moreOutlines args)]
  | .morphism _ => [.mk .morphism (.atom .null) []]
  | .step pred kind args => pred.outline ++ [.mk kind (firstOutline args) (moreOutlines args)]
  | .client pred _ => pred.outline

end

/-! ## Atoms -/

mutual

/-- The atoms at all depths, in the order of the text. -/
def Outline.atoms : Outline → List Atom
  | .atom a => [a]
  | .list first more => first.atoms ++ atomsOfAll more
  | .query steps => atomsOfSteps steps

def atomsOfAll : List Outline → List Atom
  | [] => []
  | item :: rest => item.atoms ++ atomsOfAll rest

def StepOutline.atoms : StepOutline → List Atom
  | .mk _ first more => first.atoms ++ atomsOfAll more

def atomsOfSteps : List StepOutline → List Atom
  | [] => []
  | step :: rest => step.atoms ++ atomsOfSteps rest

end

/-- The atoms in the arguments of all steps, those of embedded chains included. -/
def Chain.atoms (c : Chain) : List Atom := atomsOfSteps c.outline

/-! ## The text of an outline -/

def Atom.written : Atom → List Char
  | null => []
  | text s => (Text.quoted s).toList
  | int n => (toString n.toInt).toList
  | float x => '"' :: ((Param.layout.write x).toList ++ ['"'])

mutual

def Outline.written : Outline → List Char
  | .atom a => a.written
  | .list first more => '[' :: (first.written ++ (writtenMore more ++ [']']))
  | .query steps => graphToken.toList ++ writtenSteps steps

/-- The items after the first one, each with a comma before it. -/
def writtenMore : List Outline → List Char
  | [] => []
  | item :: rest => ',' :: ' ' :: (item.written ++ writtenMore rest)

def StepOutline.written : StepOutline → List Char
  | .mk kind first more =>
    '.' :: (kind.name.toList ++ '(' :: (first.written ++ (writtenMore more ++ [')'])))

def writtenSteps : List StepOutline → List Char
  | [] => []
  | step :: rest => step.written ++ writtenSteps rest

end

theorem writtenSteps_append (steps more : List StepOutline) :
    writtenSteps (steps ++ more) = writtenSteps steps ++ writtenSteps more := by
  induction steps with
  | nil => rfl
  | cons step rest ih => simp only [List.cons_append, writtenSteps, ih, List.append_assoc]

mutual

/-- An argument is written as its outline is. -/
theorem Param.toList_render : ∀ p : Param, p.render.toList = p.outline.written
  | .null => rfl
  | .text s => rfl
  | .int n => rfl
  | .float x => by simp [Param.render, Param.outline, Outline.written, Atom.written]
  | .list items => by
    simp [Param.render, Param.outline, Outline.written, toList_args items]
  | .query chain => by
    rw [Param.render, Param.outline, Outline.written]
    exact chain.toList_text

theorem toList_args : ∀ args : List Param,
    (", ".intercalate (renderAll args)).toList =
      (firstOutline args).written ++ writtenMore (moreOutlines args)
  | [] => rfl
  | p :: rest => by
    rw [renderAll, Text.toList_intercalate_cons, p.toList_render, toList_moreArgs rest]
    rfl

theorem toList_moreArgs : ∀ args : List Param,
    ((renderAll args).flatMap fun t => ", ".toList ++ t.toList) = writtenMore (outlines args)
  | [] => rfl
  | p :: rest => by
    rw [renderAll, List.flatMap_cons, p.toList_render, toList_moreArgs rest]
    rfl

/-- A chain is written as its outline is. -/
theorem Chain.toList_text : ∀ c : Chain,
    c.text.toList = graphToken.toList ++ writtenSteps c.outline
  | .vertex _ args => by
    simp [Chain.text, Chain.outline, writtenSteps, StepOutline.written, stepText, toList_args args]
  | .morphism _ => by
    simp [Chain.text, Chain.outline, writtenSteps, StepOutline.written, stepText, writtenMore,
      Outline.written, Atom.written, String.intercalate_nil]
  | .step pred kind args => by
    simp [Chain.text, Chain.outline, writtenSteps_append, writtenSteps, StepOutline.written,
      stepText, toList_args args, pred.toList_text]
  | .client pred _ => by
    rw [Chain.text, Chain.outline]
    exact pred.toList_text

end

end Traversal
