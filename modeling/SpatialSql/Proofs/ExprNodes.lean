import SpatialSql.Query.Expr

/-!
# The nodes of an expression

Expressions nest through lists, so the induction that Lean derives for them
has a second motive for lists of arguments. `Expr.induct` trades it for the
form the proofs want: what holds of every argument holds of the call.

`Expr.preorder` lists the nodes in reading order, a call before its arguments.
`Expr.postorder` lists them in the order in which they end, a call behind its
arguments, and `Expr.calls` keeps the calls of that list.
-/

namespace SpatialSql.Query

@[elab_as_elim]
theorem Expr.induct {motive : Expr → Prop}
    (path : ∀ w, motive (.path w)) (number : ∀ w, motive (.number w))
    (text : ∀ w, motive (.text w)) (parameter : ∀ n, motive (.parameter n))
    (call : ∀ definition es, (∀ e ∈ es, motive e) →
      motive (.call definition es)) (e : Expr) : motive e :=
  @Expr.rec motive (fun es => ∀ e ∈ es, motive e) path number text parameter
    call (fun _ h => absurd h List.not_mem_nil)
    (fun _ _ ih ihs _ h => (List.mem_cons.mp h).elim (· ▸ ih) (ihs _)) e

mutual

/-- The expressions within an expression, itself first. -/
def Expr.preorder : Expr → List Expr
  | .path w => [.path w]
  | .number w => [.number w]
  | .text w => [.text w]
  | .parameter name => [.parameter name]
  | .call definition arguments =>
    .call definition arguments :: Expr.eachPreorder arguments

def Expr.eachPreorder : List Expr → List Expr
  | [] => []
  | first :: others => first.preorder ++ Expr.eachPreorder others

end

theorem eachPreorder_eq_flatMap (es : List Expr) :
    Expr.eachPreorder es = es.flatMap Expr.preorder := by
  induction es with
  | nil => rfl
  | cons e es ih => rw [Expr.eachPreorder, ih, List.flatMap_cons]

theorem mem_preorder_call {node : Expr} {definition : Definition}
    {es : List Expr} :
    node ∈ (Expr.call definition es).preorder ↔
      node = .call definition es ∨ ∃ e ∈ es, node ∈ e.preorder := by
  rw [Expr.preorder, List.mem_cons, eachPreorder_eq_flatMap, List.mem_flatMap]

mutual

/-- The expressions within an expression, itself last. -/
def Expr.postorder : Expr → List Expr
  | .path w => [.path w]
  | .number w => [.number w]
  | .text w => [.text w]
  | .parameter name => [.parameter name]
  | .call definition arguments =>
    Expr.eachPostorder arguments ++ [.call definition arguments]

def Expr.eachPostorder : List Expr → List Expr
  | [] => []
  | first :: others => first.postorder ++ Expr.eachPostorder others

end

theorem eachPostorder_eq_flatMap (es : List Expr) :
    Expr.eachPostorder es = es.flatMap Expr.postorder := by
  induction es with
  | nil => rfl
  | cons e es ih => rw [Expr.eachPostorder, ih, List.flatMap_cons]

theorem ofOther_ne_path (text w : String) : Expr.ofOther text ≠ .path w := by
  unfold Expr.ofOther
  split <;> exact Expr.noConfusion

theorem ofOther_ne_ofCall (text : String) (call : Call Expr) :
    Expr.ofOther text ≠ .ofCall call := by
  unfold Expr.ofOther
  split <;> exact Expr.noConfusion

theorem ofOther_injective {a b : String} (h : Expr.ofOther a = .ofOther b) :
    a = b := by
  unfold Expr.ofOther at h
  split at h <;> split at h <;>
    simp only [Expr.text.injEq, Expr.parameter.injEq, Expr.number.injEq,
      reduceCtorEq] at h
  · exact h
  · next cs ha _ cs' hb =>
      rw [← String.toList_inj, ha, hb, String.ofList_injective h]
  · exact h

theorem ofCall_injective {call call' : Call Expr}
    (h : Expr.ofCall call = .ofCall call') : call = call' := by
  obtain ⟨d, es⟩ := call
  obtain ⟨d', es'⟩ := call'
  obtain ⟨rfl, rfl⟩ := Expr.call.inj h
  rfl

/-- The call that an expression is, if it is one. -/
def Expr.call? : Expr → Option (Call Expr)
  | .call definition arguments => some ⟨definition, arguments⟩
  | _ => none

/-- The calls within an expression, inner ones before outer ones. -/
def Expr.calls (e : Expr) : List (Call Expr) :=
  e.postorder.filterMap Expr.call?

theorem calls_call (definition : Definition) (es : List Expr) :
    (Expr.call definition es).calls =
      es.flatMap Expr.calls ++ [⟨definition, es⟩] := by
  rw [Expr.calls, Expr.postorder, List.filterMap_append,
    eachPostorder_eq_flatMap, List.filterMap_flatMap]
  rfl

end SpatialSql.Query
