import SpatialSql.Proofs.RecordSpelling
import SpatialSql.Proofs.StagedLoading

/-!
# Spellings of configurations

A configuration is a record of a policy and functions, and a function is a
record of five fields. Both are spelled as records are, and each token of theirs
has all of its spellings too; `Configuration.SpelledBy` has all the texts that
come of this.

All of them are read as the configuration, so that the outcome of loading them
depends on what they say and not on how they are written.
-/

namespace SpatialSql

namespace Configuration

open Json Reader

def Entry.members (entry : Entry) : List (String × List Json.Token) :=
  [("name", stringTokens entry.name),
    ("sql_name", orNull stringTokens entry.sqlName),
    ("min_args", countTokens entry.min),
    ("max_args", orNull countTokens entry.max),
    ("platforms", arrayTokens (entry.platforms.map stringTokens))]

def Entry.defaults : List (String × List Json.Token) :=
  [("sql_name", nullTokens), ("max_args", nullTokens),
    ("platforms", arrayTokens [])]

def Entry.Spells (entry : Entry) : List Json.Token → Prop :=
  SpellsRecord entry.members defaults

def policyName : AllowList.Policy → String
  | .allowAll => "allow_all"
  | .denyAll => "deny_all"

/-- A policy is its name, or an object with its name for the only key. -/
def SpellsPolicy (policy : AllowList.Policy) (ts : List Json.Token) : Prop :=
  ts = stringTokens (policyName policy) ∨
    ts = objectTokens [(policyName policy, nullTokens)]

def members (policy : List Json.Token) (functions : List (List Json.Token)) :
    List (String × List Json.Token) :=
  [("empty_allow_list", policy), ("functions", arrayTokens functions)]

def defaults : List (String × List Json.Token) :=
  members (stringTokens "allow_all") []

/-- The ways of writing a configuration in tokens. -/
def Spells (configuration : Configuration) (ts : List Json.Token) : Prop :=
  ∃ policy functions, SpellsPolicy configuration.policy policy ∧
    List.Forall₂ Entry.Spells configuration.functions functions ∧
    SpellsRecord (members policy functions) defaults ts

/-- The text is one of those that write the configuration. -/
def SpelledBy (configuration : Configuration) (text : String) : Prop :=
  ∃ ts, configuration.Spells ts ∧ Json.Spells ts text.toList

/-! ## Reading configurations -/

/-- The function after the members with these keys. -/
def Entry.met (entry : Entry) (keys : List String) : PartialEntry where
  name := if "name" ∈ keys then some entry.name else none
  sqlName := if "sql_name" ∈ keys then some entry.sqlName else none
  min := if "min_args" ∈ keys then some entry.min else none
  max := if "max_args" ∈ keys then some entry.max else none
  platforms := if "platforms" ∈ keys then some entry.platforms else none

theorem readsAs_sqlName (sqlName : Option String) :
    ReadsAs (optional string) sqlName (orNull stringTokens sqlName) :=
  readsAs_optional readsAs_string stringTokens_head sqlName

theorem readsAs_max (max : Option Nat) :
    ReadsAs (optional count) max (orNull countTokens max) :=
  readsAs_optional readsAs_count countTokens_head max

theorem isSome_met {α : Type} (key : String) (keys : List String) (a : α) :
    (if key ∈ keys then some a else none).isSome = keys.contains key := by
  rw [List.contains_eq_mem]
  split
  · next met => rw [decide_eq_true met]; rfl
  · next unmet => rw [decide_eq_false unmet]; rfl

theorem Entry.fills (entry : Entry) :
    Fills PartialEntry.fields entry.members entry.met where
  known := by
    intro member mem
    simp only [members, List.mem_cons, List.not_mem_nil, or_false] at mem
    rcases mem with rfl | rfl | rfl | rfl | rfl
    all_goals rfl
  isMet := by
    intro member mem keys
    simp only [members, List.mem_cons, List.not_mem_nil, or_false] at mem
    rcases mem with rfl | rfl | rfl | rfl | rfl
    all_goals exact isSome_met _ keys _
  value := by
    intro member mem keys
    simp only [members, List.mem_cons, List.not_mem_nil, or_false] at mem
    rcases mem with rfl | rfl | rfl | rfl | rfl
    · have more : entry.met ("name" :: keys) =
          { entry.met keys with name := some entry.name } := by simp [met]
      rw [more]
      exact readsAs_map (readsAs_string entry.name) _
    · have more : entry.met ("sql_name" :: keys) =
          { entry.met keys with sqlName := some entry.sqlName } := by simp [met]
      rw [more]
      exact readsAs_map (readsAs_sqlName entry.sqlName) _
    · have more : entry.met ("min_args" :: keys) =
          { entry.met keys with min := some entry.min } := by simp [met]
      rw [more]
      exact readsAs_map (readsAs_count entry.min) _
    · have more : entry.met ("max_args" :: keys) =
          { entry.met keys with max := some entry.max } := by simp [met]
      rw [more]
      exact readsAs_map (readsAs_max entry.max) _
    · have more : entry.met ("platforms" :: keys) =
          { entry.met keys with platforms := some entry.platforms } := by
        simp [met]
      rw [more]
      exact readsAs_map (readsAs_strings entry.platforms) _

theorem getD_met {α : Type} {key : String} {keys : List String} {a absent : α}
    (h : key ∈ keys ∨ a = absent) :
    (if key ∈ keys then some a else none).getD absent = a := by
  split
  · rfl
  · next unmet => exact (h.resolve_left unmet).symm

theorem strings_eq_nil {ss : List String}
    (h : arrayTokens (ss.map stringTokens) = arrayTokens []) : ss = [] := by
  cases ss with
  | nil => rfl
  | cons s ss => cases h

/-- A field may be left out if it is as it is anyway; the name and the least
count have to be there. -/
theorem Entry.of_absent (entry : Entry) :
    ("name", stringTokens entry.name) ∉ defaults ∧
      (("sql_name", orNull stringTokens entry.sqlName) ∈ defaults →
        entry.sqlName = none) ∧
      ("min_args", countTokens entry.min) ∉ defaults ∧
      (("max_args", orNull countTokens entry.max) ∈ defaults →
        entry.max = none) ∧
      (("platforms", arrayTokens (entry.platforms.map stringTokens)) ∈ defaults →
        entry.platforms = []) := by
  refine ⟨by simp [defaults], ?_, by simp [defaults], ?_, ?_⟩
  · intro mem
    exact orNull_eq_null stringTokens_head (by simpa [defaults] using mem)
  · intro mem
    exact orNull_eq_null countTokens_head (by simpa [defaults] using mem)
  · intro mem
    exact strings_eq_nil (by simpa [defaults] using mem)

theorem Entry.finish_met (entry : Entry) {keys : List String}
    (h : ∀ member ∈ entry.members, member.1 ∈ keys ∨ member ∈ defaults) :
    PartialEntry.finish (entry.met keys) = .ok entry := by
  obtain ⟨hasName, noSqlName, hasMin, noMax, noPlatforms⟩ := entry.of_absent
  simp only [members, List.forall_mem_cons] at h
  obtain ⟨name, sqlName, min, max, platforms, -⟩ := h
  simp only [PartialEntry.finish, met, if_pos (name.resolve_right hasName),
    if_pos (min.resolve_right hasMin), getD_met (sqlName.imp_right noSqlName),
    getD_met (max.imp_right noMax), getD_met (platforms.imp_right noPlatforms)]

/-- The three fields of a function that no array can do without. -/
theorem Entry.entryOfArray_later (entry : Entry) (later : List Json.Token) :
    entryOfArray (stringTokens entry.name ++ .comma ::
        (orNull stringTokens entry.sqlName ++ .comma ::
          (countTokens entry.min ++ later))) =
      (do
        let max ← nextElement false (optional count)
        let platforms ← nextElement false (array string)
        pure ⟨entry.name, entry.sqlName, entry.min, max.getD none,
          platforms.getD []⟩ : Reader Entry) later := by
  rw [entryOfArray, bind_of_ok (nextElement_first (readsAs_string _) _)]
  refine (bind_of_ok rfl).trans ?_
  rw [bind_of_ok (nextElement_later (readsAs_sqlName _) _),
    bind_of_ok (nextElement_later (readsAs_count _) _)]
  exact bind_of_ok rfl

theorem Entry.entryOfArray_reads (entry : Entry)
    {given absent : List (String × List Json.Token)}
    (split : given ++ absent = entry.members) (missing : absent ⊆ defaults)
    (rest : List Json.Token) :
    entryOfArray (listed (given.map Prod.snd) ++ .closeArray :: rest) =
      .ok (entry, .closeArray :: rest) := by
  obtain ⟨-, -, hasMin, noMax, noPlatforms⟩ := entry.of_absent
  replace hasMin := fun mem => hasMin (missing mem)
  replace noMax := fun mem => noMax (missing mem)
  replace noPlatforms := fun mem => noPlatforms (missing mem)
  have later := entry.entryOfArray_later
  obtain ⟨name, sqlName, min, max, platforms⟩ := entry
  rcases given with _ | ⟨a, _ | ⟨b, _ | ⟨c, _ | ⟨d, _ | ⟨e, given⟩⟩⟩⟩⟩
  all_goals
    simp only [members, List.nil_append, List.cons_append, List.cons.injEq]
      at split
    simp only [List.map_cons, List.map_nil, listed, List.flatMap_cons,
      List.flatMap_nil, List.append_nil, List.cons_append, List.append_assoc]
  · subst split
    exact absurd (by simp) hasMin
  · obtain ⟨rfl, rfl⟩ := split
    exact absurd (by simp) hasMin
  · obtain ⟨rfl, rfl, rfl⟩ := split
    exact absurd (by simp) hasMin
  · obtain ⟨rfl, rfl, rfl, rfl⟩ := split
    obtain rfl : max = none := noMax (by simp)
    obtain rfl : platforms = [] := noPlatforms (by simp)
    exact later _
  · obtain ⟨rfl, rfl, rfl, rfl, rfl⟩ := split
    obtain rfl : platforms = [] := noPlatforms (by simp)
    rw [later, bind_of_ok (nextElement_later (readsAs_max max) _)]
    rfl
  · obtain ⟨rfl, rfl, rfl, rfl, rfl, none⟩ := split
    obtain ⟨rfl, rfl⟩ := List.append_eq_nil_iff.mp none
    rw [later, bind_of_ok (nextElement_later (readsAs_max max) _),
      bind_of_ok (nextElement_later (readsAs_strings platforms) _)]
    rfl

theorem readsAs_entry {entry : Entry} {ts : List Json.Token}
    (h : entry.Spells ts) : ReadsAs readEntry entry ts := by
  refine readsAs_record h ?_ entry.fills ?_ ?_ ?_
  · show PartialEntry.fields.names.Nodup
    decide
  · rfl
  · exact fun keys => entry.finish_met
  · exact fun given absent => entry.entryOfArray_reads

theorem readsAs_policy {policy : AllowList.Policy} {ts : List Json.Token}
    (h : SpellsPolicy policy ts) : ReadsAs readPolicy policy ts := by
  rcases h with rfl | rfl
  · refine ⟨fun rest => ?_, _, _, rfl, nofun⟩
    cases policy
    all_goals rfl
  · refine ⟨fun rest => ?_, _, _, rfl, nofun⟩
    cases policy
    all_goals rfl

/-- The configuration after the members with these keys. -/
def met (configuration : Configuration) (keys : List String) : Partial where
  policy :=
    if "empty_allow_list" ∈ keys then some configuration.policy else none
  functions :=
    if "functions" ∈ keys then some configuration.functions else none

section

variable {configuration : Configuration} {policy : List Json.Token}
  {functions : List (List Json.Token)}

theorem readsAs_functions
    (h : List.Forall₂ Entry.Spells configuration.functions functions) :
    ReadsAs (array readEntry) configuration.functions (arrayTokens functions) :=
  readsAs_array (h.imp fun _ _ => readsAs_entry)

theorem fills (hPolicy : SpellsPolicy configuration.policy policy)
    (hFunctions : List.Forall₂ Entry.Spells configuration.functions functions) :
    Fills Partial.fields (members policy functions) configuration.met where
  known := by
    intro member mem
    simp only [members, List.mem_cons, List.not_mem_nil, or_false] at mem
    rcases mem with rfl | rfl
    all_goals rfl
  isMet := by
    intro member mem keys
    simp only [members, List.mem_cons, List.not_mem_nil, or_false] at mem
    rcases mem with rfl | rfl
    all_goals exact isSome_met _ keys _
  value := by
    intro member mem keys
    simp only [members, List.mem_cons, List.not_mem_nil, or_false] at mem
    rcases mem with rfl | rfl
    · have more : configuration.met ("empty_allow_list" :: keys) =
          { configuration.met keys with
            policy := some configuration.policy } := by simp [met]
      rw [more]
      exact readsAs_map (readsAs_policy hPolicy) _
    · have more : configuration.met ("functions" :: keys) =
          { configuration.met keys with
            functions := some configuration.functions } := by simp [met]
      rw [more]
      exact readsAs_map (readsAs_functions hFunctions) _

theorem policy_eq_allowAll
    (h : SpellsPolicy configuration.policy (stringTokens "allow_all")) :
    configuration.policy = .allowAll := by
  cases same : configuration.policy with
  | allowAll => rfl
  | denyAll =>
      rw [same] at h
      rcases h with h | h
      · have names : "allow_all" = "deny_all" :=
          Token.string.inj (List.cons.inj h).1
        exact absurd names (by decide)
      · cases h

theorem functions_eq_nil {entries : List Entry}
    (hFunctions : List.Forall₂ Entry.Spells entries functions)
    (h : arrayTokens functions = arrayTokens []) : entries = [] := by
  cases hFunctions with
  | nil => rfl
  | cons first later =>
      obtain ⟨t, ts, rfl, noEnd⟩ := (readsAs_entry first).starts
      exact absurd (List.cons.inj (List.cons.inj h).2).1 noEnd

/-- What is not among the members is as it is anyway. -/
theorem of_absent (hPolicy : SpellsPolicy configuration.policy policy)
    (hFunctions : List.Forall₂ Entry.Spells configuration.functions functions) :
    (("empty_allow_list", policy) ∈ defaults →
        configuration.policy = .allowAll) ∧
      (("functions", arrayTokens functions) ∈ defaults →
        configuration.functions = []) := by
  refine ⟨?_, ?_⟩
  · intro mem
    obtain rfl : policy = stringTokens "allow_all" := by
      simpa [defaults, members] using mem
    exact policy_eq_allowAll hPolicy
  · intro mem
    exact functions_eq_nil hFunctions (by simpa [defaults, members] using mem)

theorem finish_met (hPolicy : SpellsPolicy configuration.policy policy)
    (hFunctions : List.Forall₂ Entry.Spells configuration.functions functions)
    {keys : List String} (h : ∀ member ∈ members policy functions,
      member.1 ∈ keys ∨ member ∈ defaults) :
    (configuration.met keys).finish = configuration := by
  obtain ⟨noPolicy, noFunctions⟩ := of_absent hPolicy hFunctions
  have policy := (h _ List.mem_cons_self).imp_right noPolicy
  have functions := (h _ (List.mem_cons_of_mem _ List.mem_cons_self)).imp_right
    noFunctions
  simp only [Partial.finish, met, getD_met policy, getD_met functions]

theorem ofArray_reads (hPolicy : SpellsPolicy configuration.policy policy)
    (hFunctions : List.Forall₂ Entry.Spells configuration.functions functions)
    {given absent : List (String × List Json.Token)}
    (split : given ++ absent = members policy functions)
    (missing : absent ⊆ defaults) (rest : List Json.Token) :
    ofArray (listed (given.map Prod.snd) ++ .closeArray :: rest) =
      .ok (configuration, .closeArray :: rest) := by
  obtain ⟨noPolicy, noFunctions⟩ := of_absent hPolicy hFunctions
  replace noPolicy := fun mem => noPolicy (missing mem)
  replace noFunctions := fun mem => noFunctions (missing mem)
  have policyReads := readsAs_policy hPolicy
  have functionsRead := readsAs_functions hFunctions
  obtain ⟨p, fs⟩ := configuration
  rcases given with _ | ⟨a, _ | ⟨b, given⟩⟩
  all_goals
    simp only [members, List.nil_append, List.cons_append, List.cons.injEq]
      at split
    simp only [List.map_cons, List.map_nil, listed, List.flatMap_cons,
      List.flatMap_nil, List.append_nil, List.cons_append, List.append_assoc]
  · subst split
    obtain rfl : p = .allowAll := noPolicy (by simp)
    obtain rfl : fs = [] := noFunctions (by simp)
    rfl
  · obtain ⟨rfl, rfl⟩ := split
    obtain rfl : fs = [] := noFunctions (by simp)
    rw [ofArray, bind_of_ok (nextElement_first policyReads _)]
    rfl
  · obtain ⟨rfl, rfl, none⟩ := split
    obtain ⟨rfl, rfl⟩ := List.append_eq_nil_iff.mp none
    rw [ofArray, bind_of_ok (nextElement_first policyReads _)]
    exact bind_of_ok (nextElement_later functionsRead (.closeArray :: rest))

end

theorem readsAs_configuration {configuration : Configuration}
    {ts : List Json.Token} (h : configuration.Spells ts) :
    ReadsAs read configuration ts := by
  obtain ⟨policy, functions, hPolicy, hFunctions, record⟩ := h
  refine readsAs_record record ?_ (fills hPolicy hFunctions) ?_ ?_ ?_
  · show Partial.fields.names.Nodup
    decide
  · rfl
  · exact fun keys h => congrArg _ (finish_met hPolicy hFunctions h)
  · exact fun given absent => ofArray_reads hPolicy hFunctions

/-! ## Cutting the text -/

/-- The counts have 64 bits. -/
def Entry.Fits (entry : Entry) : Prop :=
  entry.min < Number.wordBound ∧ ∀ max ∈ entry.max, max < Number.wordBound

theorem legible_entry {entry : Entry} {ts : List Json.Token}
    (fits : entry.Fits) (h : entry.Spells ts) : Legible ts := by
  refine legible_record h ?_
  simp only [Entry.members, List.forall_mem_cons]
  have sqlName : Legible (orNull stringTokens entry.sqlName) :=
    legible_orNull fun s _ => legible_stringTokens s
  have max : Legible (orNull countTokens entry.max) :=
    legible_orNull fun n same => legible_countTokens (fits.2 n same)
  refine ⟨legible_stringTokens _, sqlName, legible_countTokens fits.1, max,
    legible_arrayTokens fun item mem => ?_, nofun⟩
  obtain ⟨platform, -, rfl⟩ := List.mem_map.mp mem
  exact legible_stringTokens platform

theorem legible_policy {policy : AllowList.Policy} {ts : List Json.Token}
    (h : SpellsPolicy policy ts) : Legible ts := by
  rcases h with rfl | rfl
  · exact legible_stringTokens _
  · refine legible_objectTokens fun member mem => ?_
    obtain rfl := List.mem_singleton.mp mem
    exact legible_nullTokens

theorem legible_configuration {configuration : Configuration}
    {ts : List Json.Token}
    (fits : ∀ entry ∈ configuration.functions, entry.Fits)
    (h : configuration.Spells ts) : Legible ts := by
  obtain ⟨policy, functions, hPolicy, hFunctions, record⟩ := h
  refine legible_record record ?_
  simp only [members, List.forall_mem_cons]
  refine ⟨legible_policy hPolicy, legible_arrayTokens ?_, nofun⟩
  intro item mem
  obtain ⟨entry, mem', spelled⟩ := exists_of_mem_right hFunctions item mem
  exact legible_entry (fits entry mem') spelled

/-- A text that spells a configuration says it. -/
theorem ofJson_of_spelledBy {configuration : Configuration} {text : String}
    (fits : ∀ entry ∈ configuration.functions, entry.Fits)
    (h : configuration.SpelledBy text) : ofJson text = .ok configuration := by
  obtain ⟨ts, spelled, written⟩ := h
  have cut := tokens_of_spells written (legible_configuration fits spelled)
  have reads := (readsAs_configuration spelled).reads []
  rw [List.append_nil] at reads
  rw [ofJson, Reader.document, cut, reads]

/-! ## There is a text -/

theorem Spells.spelledBy {configuration : Configuration} {ts : List Json.Token}
    {cs : List Char} {text : String} (h : configuration.Spells ts)
    (written : Json.Spells ts cs) (same : text.toList = cs) :
    configuration.SpelledBy text :=
  ⟨ts, h, same ▸ written⟩

/-- A function with all its fields, as an array. -/
def Entry.inFull (entry : Entry) : List Json.Token :=
  arrayTokens (entry.members.map Prod.snd)

theorem Entry.spells_inFull (entry : Entry) : entry.Spells entry.inFull :=
  .array (List.append_nil _) (List.nil_subset _)

theorem Entry.writable_inFull (entry : Entry) :
    ∀ t ∈ entry.inFull, t.Writable := by
  refine writable_arrayTokens ?_
  simp only [members, List.map_cons, List.map_nil, List.forall_mem_cons]
  refine ⟨writable_stringTokens _, writable_orNull writable_stringTokens _,
    writable_countTokens _, writable_orNull writable_countTokens _, ?_, nofun⟩
  refine writable_arrayTokens fun item mem => ?_
  obtain ⟨platform, -, rfl⟩ := List.mem_map.mp mem
  exact writable_stringTokens platform

/-- A configuration with all its fields, as an array. -/
def inFull (configuration : Configuration) : List Json.Token :=
  arrayTokens ((members (stringTokens (policyName configuration.policy))
    (configuration.functions.map Entry.inFull)).map Prod.snd)

theorem spells_inFull (configuration : Configuration) :
    configuration.Spells configuration.inFull := by
  refine ⟨_, _, .inl rfl, ?_, .array (List.append_nil _) (List.nil_subset _)⟩
  exact List.forall₂_map_right_iff.mpr
    (List.forall₂_same.mpr fun entry _ => entry.spells_inFull)

theorem writable_inFull (configuration : Configuration) :
    ∀ t ∈ configuration.inFull, t.Writable := by
  refine writable_arrayTokens ?_
  simp only [members, List.map_cons, List.map_nil, List.forall_mem_cons]
  refine ⟨writable_stringTokens _, writable_arrayTokens ?_, nofun⟩
  intro item mem
  obtain ⟨entry, -, rfl⟩ := List.mem_map.mp mem
  exact entry.writable_inFull

theorem exists_spelledBy (configuration : Configuration) :
    ∃ text, configuration.SpelledBy text := by
  obtain ⟨cs, written⟩ := exists_spells configuration.writable_inFull
  exact ⟨String.ofList cs,
    configuration.spells_inFull.spelledBy written String.toList_ofList⟩

end Configuration

namespace Registry

/-- Each configuration is spelled by some text, and all texts that spell it say
it and nothing else. So they are loaded as it is, into the same registry or with
the same error. -/
theorem spelling_makes_no_difference (configuration : Configuration)
    (fits : ∀ entry ∈ configuration.functions, entry.Fits) :
    (∃ text, configuration.SpelledBy text) ∧
      ∀ text, configuration.SpelledBy text →
        Configuration.ofJson text = .ok configuration ∧
          ∀ registry,
            loadJson text registry = load configuration registry ∧
              ∀ text', configuration.SpelledBy text' →
                loadJson text' registry = loadJson text registry := by
  refine ⟨configuration.exists_spelledBy, fun text spelled => ?_⟩
  have read := Configuration.ofJson_of_spelledBy fits spelled
  refine ⟨read, fun registry => ⟨loadJson_apply read registry, ?_⟩⟩
  intro text' spelled'
  have read' := Configuration.ofJson_of_spelledBy fits spelled'
  rw [loadJson_apply read, loadJson_apply read']

end Registry

namespace Configuration

open Json

/-- A configuration of one function, which has a name outside of the basic
plane. -/
def globe : Configuration :=
  ⟨.denyAll, [⟨"🌍", none, 1, none, []⟩]⟩

/-- The configuration in arrays. -/
def globeArrayText : String :=
  "[\"deny_all\", [[\"🌍\", null, 1]]]"

/-- The configuration in objects, with some escapes. -/
def globeObjectText : String :=
  "\x7b\"functions\":[\x7b\"min_args\":1,\"n\\u0061me\":\"\\uD83c\\uDF0D\"\x7d],
    \"empty_allow_list\":\x7b\"deny_all\":null\x7d\x7d"

theorem globe_spelledBy_array : globe.SpelledBy globeArrayText := by
  have entry : Entry.Spells ⟨"🌍", none, 1, none, []⟩
      (arrayTokens [stringTokens "🌍", nullTokens, countTokens 1]) :=
    @SpellsRecord.array _ _ [("name", stringTokens "🌍"),
      ("sql_name", nullTokens), ("min_args", countTokens 1)] _ rfl (by decide)
  have spelled : globe.Spells (arrayTokens [stringTokens "deny_all", arrayTokens
      [arrayTokens [stringTokens "🌍", nullTokens, countTokens 1]]]) :=
    ⟨_, _, .inl rfl, .cons entry .nil,
      .array (List.append_nil (members _ _)) (List.nil_subset _)⟩
  have written := Spells.token .openArray <|
    .token (spellsToken_literal "deny_all" (by decide)) <|
    .token .comma <| .space (c := ' ') rfl <|
    .token .openArray <| .token .openArray <|
    .token (spellsToken_literal "🌍" (by decide)) <|
    .token .comma <| .space (c := ' ') rfl <|
    .token (.word .null) <| .token .comma <| .space (c := ' ') rfl <|
    .token (.natural 1) <|
    .token .closeArray <| .token .closeArray <| .token .closeArray .nil
  exact spelled.spelledBy written (by decide +kernel)

theorem globe_spelledBy_object : globe.SpelledBy globeObjectText := by
  have entry : Entry.Spells ⟨"🌍", none, 1, none, []⟩
      (objectTokens [("min_args", countTokens 1),
        ("name", stringTokens "🌍")]) :=
    @SpellsRecord.object _ _ _ [("sql_name", nullTokens),
      ("max_args", nullTokens), ("platforms", arrayTokens [])] (by decide)
      (by decide)
  have spelled : globe.Spells (objectTokens [("functions", arrayTokens
      [objectTokens [("min_args", countTokens 1), ("name", stringTokens "🌍")]]),
      ("empty_allow_list", objectTokens [("deny_all", nullTokens)])]) :=
    ⟨_, _, .inr rfl, .cons entry .nil,
      @SpellsRecord.object _ _ _ [] (by decide) (List.nil_subset _)⟩
  have name : SpellsString "name".toList ("n\\u0061me".toList) :=
    .cons (.literal (by decide)) <|
    .cons (@SpellsChar.unit _ ['0', '0', '6', '1']
      ⟨by decide, by decide, by decide, by decide⟩) <|
    @spellsString_literal "me".toList (by decide)
  have earth : SpellsString "🌍".toList "\\uD83c\\uDF0D".toList :=
    .cons (@SpellsChar.pair _ ['D', '8', '3', 'c'] ['D', 'F', '0', 'D']
      (by decide) ⟨by decide, by decide, by decide, by decide⟩
      ⟨by decide, by decide, by decide, by decide⟩) .nil
  have written := Spells.token .openObject <|
    .token (spellsToken_literal "functions" (by decide)) <|
    .token .colon <| .token .openArray <| .token .openObject <|
    .token (spellsToken_literal "min_args" (by decide)) <|
    .token .colon <| .token (.natural 1) <| .token .comma <|
    .token (.string name) <| .token .colon <| .token (.string earth) <|
    .token .closeObject <| .token .closeArray <| .token .comma <|
    .space (c := '\n') rfl <| .space (c := ' ') rfl <| .space (c := ' ') rfl <|
    .space (c := ' ') rfl <| .space (c := ' ') rfl <|
    .token (spellsToken_literal "empty_allow_list" (by decide)) <|
    .token .colon <| .token .openObject <|
    .token (spellsToken_literal "deny_all" (by decide)) <|
    .token .colon <| .token (.word .null) <| .token .closeObject <|
    .token .closeObject .nil
  exact spelled.spelledBy written (by decide +kernel)

end Configuration

namespace Registry

open SpatialSql.Configuration

theorem globe_spelling_makes_no_difference :
    globe.SpelledBy globeArrayText ∧ globe.SpelledBy globeObjectText ∧
      Configuration.ofJson globeObjectText = .ok globe ∧
      loadJson globeArrayText knownDistance =
        loadJson globeObjectText knownDistance := by
  have array := globe_spelledBy_array
  have object := globe_spelledBy_object
  have fits : ∀ entry ∈ globe.functions, entry.Fits :=
    List.forall_mem_singleton.mpr ⟨by decide, nofun⟩
  obtain ⟨-, loads⟩ := spelling_makes_no_difference globe fits
  obtain ⟨read, load⟩ := loads globeObjectText object
  exact ⟨array, object, read, (load knownDistance).2 globeArrayText array⟩

end Registry

end SpatialSql
