import Mathlib.Data.List.Forall2
import Mathlib.Data.List.Infix
import SpatialSql.Proofs.ExprNodes
import SpatialSql.Proofs.QueryGrammar

/-!
# Which call a parenthesis closes

A closing parenthesis ends a call, and of all the calls that an input holds it
ends only one, however deep it stands. The reason is in the counts: between a
call's own two parentheses every parenthesis that is opened is closed again, so
no shorter call ends at the closing one.

`Closes` says that a list of tokens ends where a call ends, and `ClosedCalls`
names the calls that the closing parentheses of a list end, in the order of the
parentheses. For the tokens of an expression these are the calls within it,
inner ones before outer ones.
-/

namespace SpatialSql.Query

variable {registry : Registry}

/-- The beginnings of a list of tokens that end in a closing parenthesis, the
shorter ones first. -/
def closedBeginnings (ts : List Token) : List (List Token) :=
  ts.inits.filter fun p => p.getLast?.any (·.kind = .closeParenthesis)

/-- The last of the tokens closes the call: the call ends there, wherever it
starts. -/
def Closes (registry : Registry) (p : List Token) (call : Call Expr) : Prop :=
  ∃ before ts, p = before ++ ts ∧ Derives registry ts (.ofCall call)

theorem closedBeginnings_append (c d : List Token) :
    closedBeginnings (c ++ d) =
      closedBeginnings c ++ (closedBeginnings d).map (c ++ ·) := by
  unfold closedBeginnings
  rw [List.inits_append, List.filter_append, List.filter_map]
  cases d with
  | nil => rfl
  | cons t d =>
      rw [List.inits_cons, List.tail_cons, List.filter_map,
        List.filter_cons_of_neg (by simp), List.filter_map]
      simp only [Function.comp_def, List.getLast?_append_cons]

theorem closedBeginnings_singleton (t : Token) :
    closedBeginnings [t] =
      if t.kind = .closeParenthesis then [[t]] else [] := by
  by_cases h : t.kind = .closeParenthesis <;> simp [closedBeginnings, h]

theorem Closes.prepend {p : List Token} {call : Call Expr}
    (h : Closes registry p call) (c : List Token) :
    Closes registry (c ++ p) call := by
  obtain ⟨before, ts, rfl, derives⟩ := h
  exact ⟨c ++ before, ts, (List.append_assoc _ _ _).symm, derives⟩

/-! ## Counting parentheses -/

def openings (ts : List Token) : Nat :=
  ts.countP (·.kind = .openParenthesis)

def closings (ts : List Token) : Nat :=
  ts.countP (·.kind = .closeParenthesis)

/-- As many parentheses are opened as are closed, and none is closed before it
is opened. -/
structure Balanced (ts : List Token) : Prop where
  even : openings ts = closings ts
  behind : ∀ u v, ts = u ++ v → openings v ≤ closings v

theorem openings_append (c d : List Token) :
    openings (c ++ d) = openings c + openings d :=
  List.countP_append

theorem closings_append (c d : List Token) :
    closings (c ++ d) = closings c + closings d :=
  List.countP_append

theorem Balanced.append {c d : List Token} (hc : Balanced c)
    (hd : Balanced d) : Balanced (c ++ d) where
  even := by rw [openings_append, closings_append, hc.even, hd.even]
  behind u v h := by
    rcases List.append_eq_append_iff.mp h with ⟨w, rfl, rfl⟩ | ⟨w, rfl, rfl⟩
    · exact hd.behind w v rfl
    · rw [openings_append, closings_append, hd.even]
      exact Nat.add_le_add_right (hc.behind u w rfl) _

theorem balanced_singleton {t : Token} (h : t.kind ≠ .openParenthesis)
    (h' : t.kind ≠ .closeParenthesis) : Balanced [t] where
  even := by simp [openings, closings, h, h']
  behind u v split := by
    rcases List.append_eq_singleton_iff.mp split.symm with
      ⟨rfl, rfl⟩ | ⟨rfl, rfl⟩
    · simp [openings, closings, h, h']
    · exact Nat.le_refl _

/-- Any end of a balanced list with one more parenthesis behind it closes more
than it opens. -/
theorem Balanced.lt_behind {ts u v : List Token} {closing : Token}
    (h : Balanced ts) (isClosing : closing.kind = .closeParenthesis)
    (split : ts ++ [closing] = u ++ v) (nonempty : v ≠ []) :
    openings v < closings v := by
  have counts : openings [closing] = 0 ∧ closings [closing] = 1 := by
    simp [openings, closings, isClosing]
  rcases List.append_eq_append_iff.mp split with ⟨w, -, hw⟩ | ⟨w, hts, rfl⟩
  · rcases List.append_eq_singleton_iff.mp hw.symm with
      ⟨-, rfl⟩ | ⟨-, rfl⟩
    · omega
    · exact absurd rfl nonempty
  · have := h.behind u w hts
    rw [openings_append, closings_append]
    omega

theorem Balanced.enclosed {ts : List Token} {opening closing : Token}
    (h : Balanced ts) (isOpening : opening.kind = .openParenthesis)
    (isClosing : closing.kind = .closeParenthesis) :
    Balanced (opening :: (ts ++ [closing])) := by
  have even : openings (opening :: (ts ++ [closing])) =
      closings (opening :: (ts ++ [closing])) := by
    have := h.even
    unfold openings closings at this ⊢
    simp [isOpening, isClosing, this]
  refine ⟨even, fun u v split => ?_⟩
  rcases List.cons_eq_append_iff.mp split with ⟨-, rfl⟩ | ⟨w, rfl, hw⟩
  · exact Nat.le_of_eq even
  · by_cases hv : v = []
    · rw [hv]
      exact Nat.le_refl _
    · exact Nat.le_of_lt (h.lt_behind isClosing hw hv)

theorem balanced_of_separated {E : Type} {item : List Token → E → Prop}
    (hi : ∀ ts e, item ts e → Balanced ts) {ts : List Token} {es : List E}
    (h : Separated item ts es) : Balanced ts := by
  induction h with
  | one head => exact hi _ _ head
  | @more ts rest comma e es head kind _ ih =>
      have single : Balanced [comma] :=
        balanced_singleton (by simp [kind]) (by simp [kind])
      exact (hi _ _ head).append (single.append ih)

theorem balanced_of_derives {ts : List Token} {e : Expr}
    (h : Derives registry ts e) : Balanced ts := by
  induction h using Derives.induct with
  | path t kind free =>
      exact balanced_singleton (by simp [kind]) (by simp [kind])
  | text t cs kind quoted =>
      exact balanced_singleton (by simp [kind]) (by simp [kind])
  | parameter t cs kind colon =>
      exact balanced_singleton (by simp [kind]) (by simp [kind])
  | number t kind unquoted noColon =>
      exact balanced_singleton (by simp [kind]) (by simp [kind])
  | call name opening closing ts definition es isName registered isOpening
      arguments isClosing admits ih =>
      have single : Balanced [name] :=
        balanced_singleton (by simp [isName]) (by simp [isName])
      have inner : Balanced ts :=
        balanced_of_separated (fun _ _ h => h.choose_spec) ih
      exact single.append (inner.enclosed isOpening isClosing)

/-! ## One parenthesis, one call -/

/-- No call ends where a longer one ends: the last parenthesis of the longer
one belongs to its own opening. -/
theorem eq_nil_of_derives_append {x ts : List Token} {call call' : Call Expr}
    (h : Derives registry ts (.ofCall call))
    (h' : Derives registry (x ++ ts) (.ofCall call')) : x = [] := by
  obtain ⟨⟨t, ht, isName, -⟩, -⟩ := derives_ofCall_iff.mp h
  obtain ⟨more, hts⟩ := List.head?_eq_some_iff.mp ht
  obtain ⟨-, tokens⟩ := derives_ofCall_iff.mp h'
  generalize hw : x ++ ts = whole at tokens
  obtain @⟨name, opening, closing, inner, es, -, isOpening, arguments,
    isClosing, -⟩ := tokens
  -- The shorter call starts at the name of the longer one, at its opening
  -- parenthesis, or behind that.
  rcases List.append_eq_cons_iff.mp hw with ⟨rfl, -⟩ | ⟨y, -, hy⟩
  · rfl
  rcases List.cons_eq_append_iff.mp hy with ⟨-, hopening⟩ | ⟨z, -, hz⟩
  · rw [hts] at hopening
    obtain ⟨rfl, -⟩ := List.cons.inj hopening
    rw [isOpening] at isName
    cases isName
  · have inside : Balanced inner :=
      balanced_of_separated (fun _ _ => balanced_of_derives) arguments
    have fewer : openings ts < closings ts :=
      inside.lt_behind isClosing hz (hts ▸ List.cons_ne_nil t more)
    have even := (balanced_of_derives h).even
    omega

/-- A closing parenthesis closes one call. -/
theorem Closes.unique {p : List Token} {call call' : Call Expr}
    (h : Closes registry p call) (h' : Closes registry p call') :
    call = call' := by
  obtain ⟨before, ts, rfl, derives⟩ := h
  obtain ⟨before', ts', same, derives'⟩ := h'
  have tokens : ts = ts' := by
    rcases List.append_eq_append_iff.mp same with ⟨x, -, rfl⟩ | ⟨x, -, rfl⟩
    · rw [eq_nil_of_derives_append derives' derives, List.nil_append]
    · rw [eq_nil_of_derives_append derives derives', List.nil_append]
  rw [← tokens] at derives'
  exact ofCall_injective (derives_unique derives derives')

/-! ## The calls that are closed -/

/-- These are the calls that the closing parentheses among the tokens close, in
their order. -/
def ClosedCalls (registry : Registry) (ts : List Token)
    (calls : List (Call Expr)) : Prop :=
  List.Forall₂ (Closes registry) (closedBeginnings ts) calls

theorem closedCalls_nil : ClosedCalls registry [] [] := .nil

theorem ClosedCalls.append {c d : List Token} {calls calls' : List (Call Expr)}
    (h : ClosedCalls registry c calls) (h' : ClosedCalls registry d calls') :
    ClosedCalls registry (c ++ d) (calls ++ calls') := by
  rw [ClosedCalls, closedBeginnings_append]
  refine List.rel_append h (List.forall₂_map_left_iff.mpr ?_)
  exact h'.imp fun p call closes => closes.prepend c

theorem closedCalls_singleton {t : Token} (h : t.kind ≠ .closeParenthesis) :
    ClosedCalls registry [t] [] := by
  rw [ClosedCalls, closedBeginnings_singleton, if_neg h]
  exact .nil

theorem ClosedCalls.closed {c : List Token} {closing : Token}
    {calls : List (Call Expr)} {call : Call Expr}
    (h : ClosedCalls registry c calls)
    (isClosing : closing.kind = .closeParenthesis)
    (derives : Derives registry (c ++ [closing]) (.ofCall call)) :
    ClosedCalls registry (c ++ [closing]) (calls ++ [call]) := by
  rw [ClosedCalls, closedBeginnings_append, closedBeginnings_singleton,
    if_pos isClosing]
  exact List.rel_append h (.cons ⟨[], _, rfl, derives⟩ .nil)

theorem ClosedCalls.unique {c : List Token} {calls calls' : List (Call Expr)}
    (h : ClosedCalls registry c calls) (h' : ClosedCalls registry c calls') :
    calls = calls' := by
  have one : Relator.RightUnique (Closes registry) :=
    fun _ _ _ => Closes.unique
  exact List.right_unique_forall₂' one h h'

theorem closedCalls_of_separated {ts : List Token} {es : List Expr}
    (h : Separated (fun ts e => ClosedCalls registry ts e.calls) ts es) :
    ClosedCalls registry ts (es.flatMap Expr.calls) := by
  induction h with
  | @one ts e head =>
      rw [List.flatMap_singleton]
      exact head
  | @more ts rest comma e es head kind _ ih =>
      rw [List.flatMap_cons]
      exact head.append ((closedCalls_singleton (by simp [kind])).append ih)

/-- The calls within an expression are closed inner ones first. -/
theorem closedCalls_of_derives {ts : List Token} {e : Expr}
    (h : Derives registry ts e) : ClosedCalls registry ts e.calls := by
  induction h using Derives.induct with
  | path t kind free => exact closedCalls_singleton (by simp [kind])
  | text t cs kind quoted => exact closedCalls_singleton (by simp [kind])
  | parameter t cs kind colon => exact closedCalls_singleton (by simp [kind])
  | number t kind unquoted noColon =>
      exact closedCalls_singleton (by simp [kind])
  | call name opening closing ts definition es isName registered isOpening
      arguments isClosing admits ih =>
      have inner : ClosedCalls registry ts (es.flatMap Expr.calls) :=
        closedCalls_of_separated (ih.imp fun _ _ h => h.choose_spec)
      have opened : ClosedCalls registry (name :: opening :: ts)
          (es.flatMap Expr.calls) :=
        (closedCalls_singleton (by simp [isName])).append
          ((closedCalls_singleton (by simp [isOpening])).append inner)
      rw [calls_call]
      exact opened.closed isClosing
        (.call isName registered isOpening arguments isClosing admits)

end SpatialSql.Query
