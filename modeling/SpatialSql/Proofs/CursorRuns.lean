import SpatialSql.Proofs.Runs

/-!
# Cursors go one way

A source is read in steps: its next token is looked at, tested, passed, or
wanted, or its end is asked for. What a step answers and what it leaves depends
on the tokens that are left and on the end, and `Answers` says how, without the
source. Whatever steps are taken, what was passed and what is left make up the
list that a cursor was made of, so its place in the list is an index that never
lies beyond it.

The end that a cursor reports is that of its whole list, which no step changes.
A cursor that is lent takes each step as it would have on its own, and stands
afterwards where the loan left it.
-/

namespace SpatialSql

open SpatialSql.Action

namespace TokenSource

/-- A step in reading a source. -/
inductive Step
  | peek
  | atKind (kind : Token.Kind)
  | advance
  | expect (kind : Token.Kind)
  | stop

/-- What a step tells. -/
inductive Answer
  | next (token : Option Token)
  | verdict (holds : Bool)
  | moved
  | ended (result : Except Error Unit)
  | offset (stop : Nat)

section

variable {σ : Type} [TokenSource σ]

/-- What the step tells about a source. -/
def Step.answer : Step → σ → Answer
  | .peek, s => .next (TokenSource.peek s)
  | .atKind kind, s => .verdict (TokenSource.atKind kind s)
  | .advance, _ => .moved
  | .expect kind, s => .ended (TokenSource.expect kind s).result
  | .stop, s => .offset (TokenSource.stop s)

/-- The source behind the step. -/
def Step.perform : Step → σ → σ
  | .advance, s => TokenSource.advance s
  | .expect kind, s => (TokenSource.expect kind s).state
  | .peek, s | .atKind _, s | .stop, s => s

/-- The tokens that the step passes: the next one or none. -/
def Step.passes : Step → σ → List Token
  | .advance, s => (TokenSource.peek s).toList
  | .expect kind, s =>
    if TokenSource.atKind kind s then (TokenSource.peek s).toList else []
  | .peek, _ | .atKind _, _ | .stop, _ => []

/-- The source behind all the steps. -/
def afterSteps : List Step → σ → σ
  | [], s => s
  | step :: steps, s => afterSteps steps (step.perform s)

/-- The tokens that all the steps pass. -/
def passed : List Step → σ → List Token
  | [], _ => []
  | step :: steps, s => step.passes s ++ passed steps (step.perform s)

end

/-- Before the tokens `left`, in an input that ends at `stop`, this is what a
step tells, and these are the tokens that it leaves. -/
inductive Answers (stop : Nat) :
    (left : List Token) → Step → Answer → (left' : List Token) → Prop
  | next {t : Token} {rest : List Token} :
      Answers stop (t :: rest) .peek (.next (some t)) (t :: rest)
  | nothing : Answers stop [] .peek (.next none) []
  | ofKind {t : Token} {rest : List Token} :
      Answers stop (t :: rest) (.atKind t.kind) (.verdict true) (t :: rest)
  | otherKind {t : Token} {rest : List Token} {kind : Token.Kind}
      (other : t.kind ≠ kind) :
      Answers stop (t :: rest) (.atKind kind) (.verdict false) (t :: rest)
  | noKind {kind : Token.Kind} :
      Answers stop [] (.atKind kind) (.verdict false) []
  | pass {t : Token} {rest : List Token} :
      Answers stop (t :: rest) .advance .moved rest
  | stay : Answers stop [] .advance .moved []
  | take {t : Token} {rest : List Token} :
      Answers stop (t :: rest) (.expect t.kind) (.ended (.ok ())) rest
  | refuse {t : Token} {rest : List Token} {kind : Token.Kind}
      {found : Token.Found} (other : t.kind ≠ kind)
      (label : found.label = "'" ++ t.text ++ "'")
      (position : found.position = t.position) :
      Answers stop (t :: rest) (.expect kind)
        (.ended (.error (.unexpectedToken kind found))) (t :: rest)
  | missing {kind : Token.Kind} {found : Token.Found}
      (label : found.label = "end of input") (position : found.position = stop) :
      Answers stop [] (.expect kind)
        (.ended (.error (.unexpectedToken kind found))) []
  | offset {left : List Token} :
      Answers stop left .stop (.offset stop) left

variable {σ : Type} [TokenSource σ]

/-! ## One step -/

theorem Step.answers (step : Step) (s : σ) :
    Answers (TokenSource.stop s) (remaining s) step (step.answer s)
      (remaining (step.perform s)) := by
  cases step with
  | peek =>
      rw [answer, perform, TokenSource.peek]
      cases remaining s with
      | nil => exact .nothing
      | cons t rest => exact .next
  | atKind kind =>
      rw [answer, perform, TokenSource.atKind, TokenSource.peek]
      cases remaining s with
      | nil => exact .noKind
      | cons t rest =>
          by_cases same : t.kind = kind
          · subst same
            simpa using Answers.ofKind
          · simpa [same] using Answers.otherKind same
  | advance =>
      rw [answer, perform, remaining_advance]
      cases remaining s with
      | nil => exact .stay
      | cons t rest => exact .pass
  | expect kind =>
      rw [answer, perform]
      by_cases here : TokenSource.atKind kind s = true
      · have takes : Takes kind s (TokenSource.advance s) :=
          takes_iff.mpr ⟨here, rfl⟩
        rw [expect_of_takes takes]
        obtain ⟨⟨t, rfl, left⟩, -⟩ := takes
        rw [left]
        exact .take
      · rw [expect_of_other (Bool.eq_false_iff.mpr here), found]
        rw [TokenSource.atKind] at here
        cases left : remaining s with
        | nil =>
            rw [peek_eq_none.mpr left]
            exact .missing rfl rfl
        | cons t rest =>
            have next := peek_eq_some.mpr ⟨rest, left⟩
            rw [next] at here ⊢
            exact .refuse (by simpa using here) rfl rfl
  | stop => exact .offset

theorem peek_append_advance (s : σ) :
    (TokenSource.peek s).toList ++ remaining (TokenSource.advance s) =
      remaining s := by
  rw [TokenSource.peek, remaining_advance]
  cases remaining s with
  | nil => rfl
  | cons t rest => rfl

/-- A step passes tokens and does nothing else to those that are left. -/
theorem Step.passes_append (step : Step) (s : σ) :
    step.passes s ++ remaining (step.perform s) = remaining s := by
  cases step with
  | peek | atKind kind | stop => rfl
  | advance => exact peek_append_advance s
  | expect kind =>
      rw [passes, perform, TokenSource.expect]
      split
      · exact peek_append_advance s
      · rfl

theorem Step.keeps {inv : σ → Prop} (stable : Stable inv) (step : Step) {s : σ}
    (h : inv s) : inv (step.perform s) := by
  cases step with
  | peek | atKind kind | stop => exact h
  | advance => exact stable s h
  | expect kind => exact keeps_expect stable kind s h

/-! ## All the steps -/

theorem passed_append (steps : List Step) :
    ∀ s : σ, passed steps s ++ remaining (afterSteps steps s) = remaining s := by
  induction steps with
  | nil => exact fun _ => rfl
  | cons step steps ih =>
      intro s
      rw [passed, afterSteps, List.append_assoc, ih, step.passes_append]

theorem keeps_afterSteps {inv : σ → Prop} (stable : Stable inv)
    (steps : List Step) : ∀ {s : σ}, inv s → inv (afterSteps steps s) := by
  induction steps with
  | nil => exact fun h => h
  | cons step steps ih => exact fun h => ih (step.keeps stable h)

/-! ## Loans -/

theorem expect_loan (kind : Token.Kind) (s : σ) :
    expect kind (⟨s⟩ : Loan σ) =
      ⟨(expect kind s).result, ⟨(expect kind s).state⟩, []⟩ := by
  have same : atKind kind (⟨s⟩ : Loan σ) = atKind kind s := rfl
  rw [expect, expect, same]
  split
  · rfl
  · rfl

theorem Step.answer_loan (step : Step) (s : σ) :
    step.answer (⟨s⟩ : Loan σ) = step.answer s := by
  cases step with
  | peek | atKind kind | advance | stop => rfl
  | expect kind => rw [answer, expect_loan, answer]

theorem Step.perform_loan (step : Step) (s : σ) :
    step.perform (⟨s⟩ : Loan σ) = ⟨step.perform s⟩ := by
  cases step with
  | peek | atKind kind | advance | stop => rfl
  | expect kind => rw [perform, expect_loan, perform]

theorem afterSteps_loan (steps : List Step) :
    ∀ s : σ, afterSteps steps (⟨s⟩ : Loan σ) = ⟨afterSteps steps s⟩ := by
  induction steps with
  | nil => exact fun _ => rfl
  | cons step steps ih =>
      intro s
      rw [afterSteps, step.perform_loan, ih, afterSteps]

end TokenSource

namespace Token.Cursor

open TokenSource

/-! ## Cursors -/

/-- What is left begins at the index. -/
theorem remaining_eq_drop (cursor : Cursor) :
    cursor.remaining = cursor.toList.drop cursor.index := by
  rw [toList, index, ← List.length_reverse, List.drop_left]

theorem length_toList (cursor : Cursor) :
    cursor.toList.length = cursor.index + cursor.remaining.length := by
  rw [toList, index, List.length_append, List.length_reverse]

theorem isAtEnd_iff {cursor : Cursor} :
    cursor.isAtEnd = true ↔ cursor.remaining = [] := by
  rw [isAtEnd, decide_eq_true_eq, length_toList, ← List.length_eq_zero_iff]
  omega

/-- The end that a cursor reports is that of the last token of its list. -/
theorem stop_of_toList {tokens : List Token} {cursor : Cursor}
    (whole : cursor.toList = tokens) :
    TokenSource.stop cursor = (tokens.getLast?.map Token.stop).getD 0 := by
  rw [← whole]
  rfl

/-- Of one list, what is left tells the place. -/
theorem ext_remaining {cursor cursor' : Cursor}
    (whole : cursor.toList = cursor'.toList)
    (left : cursor.remaining = cursor'.remaining) : cursor = cursor' := by
  obtain ⟨consumed, rest⟩ := cursor
  obtain ⟨consumed', rest'⟩ := cursor'
  obtain rfl : rest = rest' := left
  have read : consumed.reverse = consumed'.reverse :=
    List.append_cancel_right whole
  rw [List.reverse_inj.mp read]

/-- The cursor stands in the list `tokens` behind those that were `passed`. -/
structure StandsBehind (tokens passed : List Token) (cursor : Cursor) :
    Prop where
  split : passed ++ cursor.remaining = tokens
  index : cursor.index = passed.length
  left : cursor.remaining = tokens.drop cursor.index
  isAtEnd : cursor.isAtEnd = true ↔ cursor.remaining = []
  /-- The end that is reported is that of the last of all the tokens. -/
  answers : ∀ step : Step,
    Answers ((tokens.getLast?.map Token.stop).getD 0) cursor.remaining step
      (step.answer cursor) (step.perform cursor).remaining
  /-- A step that leaves all the tokens changes nothing. -/
  still : ∀ step : Step, (step.perform cursor).remaining = cursor.remaining →
    step.perform cursor = cursor

theorem standsBehind_of_toList {tokens passed : List Token} {cursor : Cursor}
    (whole : cursor.toList = tokens)
    (split : passed ++ cursor.remaining = tokens) :
    cursor.StandsBehind tokens passed where
  split := split
  index := by
    have lengths := cursor.length_toList
    rw [whole, ← split, List.length_append] at lengths
    omega
  left := by rw [← whole, ← remaining_eq_drop]
  isAtEnd := isAtEnd_iff
  answers step := by
    rw [← stop_of_toList whole]
    exact step.answers cursor
  still step left :=
    ext_remaining (step.keeps (stable_toList cursor.toList) rfl) left

/-- Whatever steps are taken with a cursor, it stands in the list that it was
made of behind the tokens that they passed. It tells and does then what follows
from the tokens that are left and from the end of the list, and nothing else. A
loan of the cursor tells and does the same, and leaves it where it would be had
the steps been taken without the loan. -/
theorem cursor_goes_one_way (tokens : List Token) (steps : List Step) :
    (afterSteps steps (ofList tokens)).StandsBehind tokens
        (passed steps (ofList tokens)) ∧
      afterSteps steps (⟨ofList tokens⟩ : Loan Cursor) =
        ⟨afterSteps steps (ofList tokens)⟩ ∧
      ∀ step : Step,
        step.answer (afterSteps steps (⟨ofList tokens⟩ : Loan Cursor)) =
            step.answer (afterSteps steps (ofList tokens)) ∧
          step.perform (afterSteps steps (⟨ofList tokens⟩ : Loan Cursor)) =
            ⟨step.perform (afterSteps steps (ofList tokens))⟩ := by
  have whole : (afterSteps steps (ofList tokens)).toList = tokens :=
    keeps_afterSteps (stable_toList tokens) steps rfl
  have lent := afterSteps_loan steps (ofList tokens)
  refine ⟨standsBehind_of_toList whole (passed_append steps (ofList tokens)),
    lent, fun step => ?_⟩
  rw [lent]
  exact ⟨step.answer_loan _, step.perform_loan _⟩

end Token.Cursor

end SpatialSql
