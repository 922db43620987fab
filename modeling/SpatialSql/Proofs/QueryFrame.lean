import SpatialSql.Proofs.CorrectPrefix
import SpatialSql.Proofs.Lockstep
import SpatialSql.Proofs.RegistryInvariant
import SpatialSql.Query.Sql

/-!
# Functions that a query does not name

A reader asks the registry about the names it comes upon and about nothing
else. Two registries that answer alike for the names among the tokens are
therefore one registry to it: the runs are in lockstep from the same place on
the same tokens, and runs in lockstep with nothing between them are equal.

A registry that has been changed answers as it did for every name it knew,
since nothing is lost or replaced. So it can only differ on a name that was
given to it later, and a query without such names does not see the change.
-/

namespace SpatialSql

open SpatialSql.Action TokenSource

/-- The registries find the same under each name among the tokens. -/
def AgreeOn (registry registry' : Registry) (ts : List Token) : Prop :=
  ∀ t ∈ ts, t.kind = .identifier →
    registry.get? t.text = registry'.get? t.text

theorem AgreeOn.subset {registry registry' : Registry} {ts ts' : List Token}
    (h : AgreeOn registry registry' ts) (sub : ts' ⊆ ts) :
    AgreeOn registry registry' ts' :=
  fun t ht => h t (sub ht)

/-- A registry agrees with what it has become on tokens that name nothing it was
given since. -/
theorem Registry.Extends.agreeOn {r r' : Registry} {given : Contribution}
    (h : Extends r given r') {ts : List Token}
    (unnamed : ∀ t ∈ ts, t.kind = .identifier → r'.contains t.text = true →
      r.contains t.text = true) : AgreeOn r' r ts := by
  intro t ht isName
  by_cases known : r.contains t.text = true
  · obtain ⟨d, found⟩ := contains_iff.mp known
    rw [found, h.keeps found]
  · have absent : r.get? t.text = none :=
      not_contains_iff.mp (Bool.eq_false_iff.mpr known)
    have absent' : r'.get? t.text = none :=
      not_contains_iff.mp
        (Bool.eq_false_iff.mpr fun h' => known (unnamed t ht isName h'))
    rw [absent, absent']

namespace Query

variable {σ : Type} [TokenSource σ] {registry registry' : Registry}

/-! ## Registries that agree -/

/-- The sources are one, and the registries agree on what is left of it. -/
def SameOver (registry registry' : Registry) (s s' : σ) : Prop :=
  s = s' ∧ AgreeOn registry registry' (remaining s)

theorem inStepOver_agreeing :
    InStepOver registry registry' (SameOver (σ := σ) registry registry')
      Eq where
  kinds states := by rw [states.1]
  advances := by
    intro s s' states
    obtain ⟨rfl, agree⟩ := states
    refine ⟨rfl, agree.subset ?_⟩
    rw [remaining_advance]
    exact (List.tail_suffix _).subset
  misses kind states := by rw [states.1]
  alike := by
    intro s s' states t t' next next'
    obtain ⟨rfl, agree⟩ := states
    obtain rfl := Option.some.inj (next.symm.trans next')
    exact ⟨rfl, agree t (List.mem_of_head? next), fun _ => rfl⟩
  same _ := rfl

theorem parseCall_of_agreeOn {s : σ}
    (agree : AgreeOn registry registry' (remaining s)) :
    parseCall registry s = parseCall registry' s := by
  have ends := inStepOver_agreeing.lockstep_query s s ⟨rfl, agree⟩
  generalize parseCall registry s = out at ends
  generalize parseCall registry' s = out' at ends
  cases ends with
  | yields states => rw [states.1]
  | fails errors states => rw [errors, states.1]

theorem parse_of_agreeOn {input : String}
    (agree : AgreeOn registry registry' (lex input)) :
    parse registry input = parse registry' input :=
  bind_congr_at (parseCall_of_agreeOn agree) fun _ _ _ => rfl

/-! ## Registries that have grown -/

/-- A query is read as before by a registry that has been changed, unless it
names a function that the registry did not have: to the same call, which is
written the same, or with the same error, and with the same log. -/
theorem unnamed_functions_do_not_matter (registry : Registry)
    (operations : List Registry.Operation) (input : String)
    (unnamed : ∀ t ∈ lex input, t.kind = .identifier →
      (registry.after operations).contains t.text = true →
        registry.contains t.text = true) :
    parse (registry.after operations) input = parse registry input ∧
      ∀ platform parameters,
        (parse (registry.after operations) input).result.map
            (fun call => call.compile (compiler platform) parameters) =
          (parse registry input).result.map
            (fun call => call.compile (compiler platform) parameters) := by
  obtain ⟨_, -, extended⟩ := Registry.extends_after registry operations
  have same : parse (registry.after operations) input = parse registry input :=
    parse_of_agreeOn (extended.agreeOn unnamed)
  refine ⟨same, fun platform parameters => ?_⟩
  rw [same]

/-- A query with two names that `accentedRun` gives to a registry, one where the
lexer sees no name and one within a text, and with a name that is neither. -/
def accentedQuery : String :=
  "ST_DISTANCE(y,É,\x27x\x27)"

/-- The tokens of that query. -/
def accentedTokens : List Token :=
  ⟨.identifier, "ST_DISTANCE", 0⟩ :: ⟨.openParenthesis, "(", 11⟩ ::
    (([⟨.identifier, "y", 12⟩] ++ ⟨.comma, ",", 13⟩ ::
      ([⟨.other, "É", 14⟩] ++ ⟨.comma, ",", 16⟩ ::
        [⟨.other, "\x27x\x27", 17⟩])) ++
      [⟨.closeParenthesis, ")", 20⟩])

def accentedCall : Call Expr :=
  ⟨Call.distance, [.path "y", .number "É", .text "\x27x\x27"]⟩

theorem get?_shouted : distanceOnly.get? "ST_DISTANCE" = some Call.distance := by
  have alike : Name.Alike "ST_DISTANCE" "st_distance" := by decide
  rw [Registry.get?_congr (Name.fold_eq_fold_iff.mpr alike)]
  decide +kernel

theorem derives_accentedCall :
    Derives distanceOnly accentedTokens (.ofCall accentedCall) := by
  have path : Derives distanceOnly [⟨.identifier, "y", 12⟩] (.path "y") :=
    .path rfl (by decide +kernel)
  have number : Derives distanceOnly [⟨.other, "É", 14⟩] (.number "É") :=
    .number rfl (by decide) (by decide)
  have text : Derives distanceOnly [⟨.other, "\x27x\x27", 17⟩]
      (.text "\x27x\x27") := .text rfl rfl
  exact .call rfl get?_shouted rfl (.more path rfl (.more number rfl (.one text)))
    rfl ⟨by decide, by decide⟩

theorem accented_query_is_read_as_before :
    (distanceOnly.after Registry.accentedRun).entries.map Prod.fst =
        ["st_distance", "x", "É", "é"] ∧
      (∀ t ∈ lex accentedQuery, t.kind = .identifier →
        (distanceOnly.after Registry.accentedRun).contains t.text = true →
          distanceOnly.contains t.text = true) ∧
      (parse (distanceOnly.after Registry.accentedRun) accentedQuery).result =
        .ok accentedCall := by
  have tokens : lex accentedQuery = accentedTokens := by decide +kernel
  have names : (distanceOnly.after Registry.accentedRun).entries.map Prod.fst =
      ["st_distance", "x", "É", "é"] := by decide +kernel
  have unnamed : ∀ t ∈ lex accentedQuery, t.kind = .identifier →
      (distanceOnly.after Registry.accentedRun).contains t.text = true →
        distanceOnly.contains t.text = true := by
    have identifiers : ∀ t ∈ accentedTokens, t.kind = .identifier →
        t.text = "ST_DISTANCE" ∨ t.text = "y" := by decide
    intro t ht isName known
    rcases identifiers t (tokens ▸ ht) isName with shouted | unknown
    · rw [shouted]
      exact Registry.contains_iff.mpr ⟨_, get?_shouted⟩
    · rw [unknown, Registry.contains_iff_mem_keys, names] at known
      exact absurd known (by decide +kernel)
  have read := parse_eq_ok_iff.mpr (tokens ▸ derives_accentedCall)
  have same := (unnamed_functions_do_not_matter distanceOnly
    Registry.accentedRun accentedQuery unnamed).1
  exact ⟨names, unnamed, (congrArg Outcome.result same).trans read⟩

end Query

end SpatialSql
