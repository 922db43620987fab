import SpatialSql.Proofs.ExprNodes
import SpatialSql.Proofs.Runs
import SpatialSql.Query.Sql

/-!
# The text of a query

Writing an expression collects parameters as it goes, but what is written does
not depend on those collected before. So there is a plain function from an
expression to its text, or to the error that keeps it from being written, and
`toSql_result` says that it is what the walk answers in whatever state.
-/

namespace SpatialSql.Query

open SpatialSql.Action

mutual

/-- What is written for an expression. -/
def Expr.sqlText (platform : String) : Expr → Except Error String
  | .path written | .number written | .text written => .ok written
  | .parameter _ => .ok "?"
  | .call definition arguments => do
    definition.platforms.check platform
    let texts ← Expr.eachSqlText platform arguments
    .ok (definition.name ++ "(" ++ ", ".intercalate texts ++ ")")

def Expr.eachSqlText (platform : String) :
    List Expr → Except Error (List String)
  | [] => .ok []
  | first :: others => do
    let text ← first.sqlText platform
    let texts ← Expr.eachSqlText platform others
    .ok (text :: texts)

end

variable {platform : String}

theorem write_result {ρ : Type} (definition : Definition) {s : ρ}
    (arguments : Action ρ (List String)) :
    (Call.write definition platform arguments s).result = (do
      definition.platforms.check platform
      let texts ← (arguments s).result
      .ok (definition.name ++ "(" ++ ", ".intercalate texts ++ ")")) := by
  unfold Call.write
  cases definition.platforms.check platform with
  | error e => rfl
  | ok _ => exact result_bind _ _ s

theorem eachToSql_result {es : List Expr}
    (h : ∀ e ∈ es, ∀ s, (e.toSql platform s).result = e.sqlText platform)
    (s : List String) :
    (Expr.eachToSql platform es s).result = Expr.eachSqlText platform es := by
  induction es generalizing s with
  | nil => rfl
  | cons e es ih =>
      have ih := ih fun e he => h e (List.mem_cons_of_mem _ he)
      rw [Expr.eachToSql, Expr.eachSqlText, result_bind,
        h e List.mem_cons_self s]
      refine congrArg (e.sqlText platform >>= ·) (funext fun text => ?_)
      rw [result_bind, ih]
      rfl

/-- The walk answers the text of the expression, whatever it has collected. -/
theorem toSql_result (e : Expr) (s : List String) :
    (e.toSql platform s).result = e.sqlText platform := by
  induction e using Expr.induct generalizing s with
  | path w | number w | text w | parameter w => rfl
  | call definition es ih =>
      rw [Expr.toSql, Expr.sqlText, write_result, eachToSql_result ih]

theorem compile_result (call : Call Expr) (s : List String) :
    (call.compile (compiler platform) s).result =
      (Expr.ofCall call).sqlText platform := by
  rw [← toSql_ofCall, toSql_result]

/-! ## What it takes to have a text -/

theorem check_eq_ok_iff {list : AllowList} {u : Unit} :
    list.check platform = .ok u ↔ list.permits platform = true := by
  rw [AllowList.check]
  split
  · next h => exact ⟨fun _ => h, fun _ => rfl⟩
  · next h => exact ⟨nofun, fun h' => absurd h' h⟩

theorem sqlText_call_eq_ok_iff {definition : Definition} {es : List Expr}
    {sql : String} :
    (Expr.call definition es).sqlText platform = .ok sql ↔
      definition.platforms.permits platform = true ∧
        ∃ texts, Expr.eachSqlText platform es = .ok texts ∧
          sql = definition.name ++ "(" ++ ", ".intercalate texts ++ ")" := by
  rw [Expr.sqlText, ← check_eq_ok_iff (u := ())]
  cases definition.platforms.check platform with
  | error e => exact ⟨nofun, nofun⟩
  | ok _ =>
      cases Expr.eachSqlText platform es with
      | error e => exact ⟨nofun, fun ⟨_, _, h, _⟩ => nomatch h⟩
      | ok texts =>
          constructor
          · rintro ⟨⟩
            exact ⟨rfl, texts, rfl, rfl⟩
          · rintro ⟨-, _, ⟨⟩, rfl⟩
            rfl

theorem eachSqlText_cons_eq_ok_iff {e : Expr} {es : List Expr}
    {texts : List String} :
    Expr.eachSqlText platform (e :: es) = .ok texts ↔
      ∃ first others, e.sqlText platform = .ok first ∧
        Expr.eachSqlText platform es = .ok others ∧ texts = first :: others := by
  rw [Expr.eachSqlText]
  cases e.sqlText platform with
  | error e => exact ⟨nofun, fun ⟨_, _, h, _⟩ => nomatch h⟩
  | ok first =>
      cases Expr.eachSqlText platform es with
      | error e => exact ⟨nofun, fun ⟨_, _, _, h, _⟩ => nomatch h⟩
      | ok others =>
          constructor
          · rintro ⟨⟩
            exact ⟨first, others, rfl, rfl, rfl⟩
          · rintro ⟨_, _, ⟨⟩, ⟨⟩, rfl⟩
            rfl

theorem eachSqlText_length {es : List Expr} {texts : List String}
    (h : Expr.eachSqlText platform es = .ok texts) :
    texts.length = es.length := by
  induction es generalizing texts with
  | nil =>
      obtain rfl := Except.ok.inj h
      rfl
  | cons e es ih =>
      obtain ⟨first, others, -, hothers, rfl⟩ := eachSqlText_cons_eq_ok_iff.mp h
      exact congrArg (· + 1) (ih hothers)

end SpatialSql.Query
