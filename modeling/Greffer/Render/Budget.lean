import Greffer.Compose.Yaml

/-! # The render budget

Templates are written by strangers, so they are rendered in a child process, under caps: on the size
of the source, on the size of the output, on memory and on time.  `childRender` is what the child
does with one template, and `childRenderTree` with every text of a tree, in one job.  The output of
a job is drawn from **one budget, which is threaded through the tree**; a budget of zero is how the
operator disables the cap.

The engine is another program's: `Engine` says what it generates for a template.
-/
namespace Greffer.Render
open Compose (Yaml)

/-! ## What a render may fail with -/

/-- What an exception is caught as. -/
inductive ExnKind where
  | brokenProcessPool
  | cancelled
  /-- `RuntimeError`, and what derives from it. -/
  | runtime
  | timeout
  | memory
  | other
  deriving DecidableEq

/-- An exception. -/
structure RenderExn where
  kind : ExnKind
  type : String
  text : String
  deriving DecidableEq

inductive RenderError where
  /-- `RenderBudgetExceeded`. -/
  | exceeded (code : String) (cap : Rat)
  | raised (e : RenderExn)
  deriving DecidableEq

/-! ## The engine -/

/-- The environment that a template is rendered in. -/
inductive Which where
  | body
  | file
  deriving DecidableEq

/-- What rendering fails with, and whether its type takes one text. -/
structure Failure extends RenderExn where
  rebuilds : Bool

/-- What the engine makes of a template. -/
inductive Generated where
  /-- `env.from_string` raises. -/
  | uncompiled (e : RenderExn)
  /-- The chunks, and what the rendering then fails with, if it does. -/
  | chunks (chunks : List String) (failure : Option Failure)

/-- The engine: what it makes of a template in a context. -/
abbrev Engine (Context : Type) := Which → String → Context → Generated

/-! ## The child -/

/-- `len(text.encode("utf-8", "surrogatepass"))`. -/
def encodedLength (text : String) : Nat := text.utf8ByteSize

/-- The exception that is raised in its place, with a bounded text. -/
def Failure.trimmed (f : Failure) : RenderError :=
  if f.rebuilds then .raised { f.toRenderExn with text := String.ofList (f.text.toList.take 8192) }
  else .exceeded "child_error" 8192

/-- The end of the rendering. -/
def finish (failure : Option Failure) : Except RenderError String :=
  match failure with
  | none => .ok ""
  | some f => .error f.trimmed

/-- `"".join(chunks)`, or the failure behind them. -/
def joined (failure : Option Failure) : List String → Except RenderError String
  | [] => finish failure
  | chunk :: rest => (joined failure rest).map (chunk ++ ·)

/-- The loop over `template.generate`. -/
def accumulate (maxOut : Nat) (failure : Option Failure) : Nat → List String →
    Except RenderError String
  | _, [] => finish failure
  | total, chunk :: rest =>
    if maxOut < total + encodedLength chunk then .error (.exceeded "output_too_large" maxOut)
    else (accumulate maxOut failure (total + encodedLength chunk) rest).map (chunk ++ ·)

section Child
variable {Context : Type} (engine : Engine Context) (maxOut : Nat) (which : Which)
  (context : Context)

/-- `_child_render`. -/
def childRender (source : String) : Except RenderError String :=
  match engine which source context with
  | .uncompiled e => .error (.raised e)
  | .chunks chunks failure =>
    if maxOut = 0 then joined failure chunks else accumulate maxOut failure 0 chunks

/-- What is left of the budget, if it is not exceeded. -/
def draw (budget size : Nat) : Except RenderError Nat :=
  if budget = 0 then .ok 0
  else if budget < size then .error (.exceeded "output_too_large" maxOut)
  else .ok (budget - size)

mutual
/-- `_child_render_tree`: the tree, and what is left of the budget. -/
def childRenderTree (budget : Nat) : Yaml → Except RenderError (Yaml × Nat)
  | .str s => do
    let out ← childRender engine maxOut which context s
    let budget ← draw maxOut budget (encodedLength out)
    return (.str out, budget)
  | .dict entries => do
    let (entries, budget) ← childRenderValues budget entries
    return (.dict entries, budget)
  | .list items => do
    let (items, budget) ← childRenderAll budget items
    return (.list items, budget)
  | v => return (v, budget)

/-- `childRenderTree`, of every element. -/
def childRenderAll (budget : Nat) : List Yaml → Except RenderError (List Yaml × Nat)
  | [] => return ([], budget)
  | v :: vs => do
    let (v, budget) ← childRenderTree budget v
    let (vs, budget) ← childRenderAll budget vs
    return (v :: vs, budget)

/-- `childRenderTree`, of every value; keys never render. -/
def childRenderValues (budget : Nat) :
    List (Yaml × Yaml) → Except RenderError (List (Yaml × Yaml) × Nat)
  | [] => return ([], budget)
  | (k, v) :: es => do
    let (v, budget) ← childRenderTree budget v
    let (es, budget) ← childRenderValues budget es
    return ((k, v) :: es, budget)
end

/-- The job of a tree, which begins with the whole budget. -/
def treeJob (tree : Yaml) : Except RenderError Yaml :=
  (childRenderTree engine maxOut which context maxOut tree).map Prod.fst

end Child

/-! ## The texts of a tree -/

/-- The key, if it is a text. -/
def keyText : Yaml → List String
  | .str s => [s]
  | _ => []

mutual
/-- `_iter_string_leaves`. -/
def iterStringLeaves (keys : Bool) : Yaml → List String
  | .str s => [s]
  | .dict entries =>
    (if keys then entries.flatMap fun e => keyText e.1 else []) ++ iterValues keys entries
  | .list items => iterItems keys items
  | _ => []

/-- `iterStringLeaves`, of every element. -/
def iterItems (keys : Bool) : List Yaml → List String
  | [] => []
  | v :: vs => iterStringLeaves keys v ++ iterItems keys vs

/-- `iterStringLeaves`, of every value. -/
def iterValues (keys : Bool) : List (Yaml × Yaml) → List String
  | [] => []
  | (_, v) :: es => iterStringLeaves keys v ++ iterValues keys es
end

/-- What the texts come to. -/
def totalLength (texts : List String) : Nat := (texts.map encodedLength).foldr (· + ·) 0

@[simp] theorem totalLength_nil : totalLength [] = 0 := rfl

@[simp] theorem totalLength_cons (t : String) (rest : List String) :
    totalLength (t :: rest) = encodedLength t + totalLength rest := rfl

theorem totalLength_append (a b : List String) :
    totalLength (a ++ b) = totalLength a + totalLength b := by
  induction a with
  | nil => simp
  | cons t rest ih => rw [List.cons_append, totalLength_cons, totalLength_cons, ih, Nat.add_assoc]

theorem encodedLength_append (a b : String) :
    encodedLength (a ++ b) = encodedLength a + encodedLength b := String.utf8ByteSize_append

end Greffer.Render
