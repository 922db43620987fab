import Mathlib.Data.List.Forall2
import Mathlib.Data.List.Nodup
import SpatialSql.Json.Reader
import SpatialSql.Proofs.JsonSpelling

/-!
# Spellings of records

A record is written as an object, with its members in any order, or as an array
of its fields. In an object a member may be left out when its value is the one
that it has anyway, and in an array the last fields may. `SpellsRecord` is this
rule.

Reading undoes the choice. What an object has filled in after some of its
members depends on which members these are and not on their order. `Fills` says
this of the reader of a record, and then an induction over the members is enough
for every order of them. `readsAs_record` is the result.
-/

namespace SpatialSql

theorem exists_of_mem_right {α β : Type} {relation : α → β → Prop}
    {as : List α} {bs : List β} (h : List.Forall₂ relation as bs) :
    ∀ b ∈ bs, ∃ a ∈ as, relation a b := by
  induction h with
  | nil => nofun
  | @cons a b as bs first later ih =>
      intro b' mem
      rcases List.mem_cons.mp mem with rfl | mem
      · exact ⟨a, List.mem_cons_self, first⟩
      · obtain ⟨a', mem', related⟩ := ih b' mem
        exact ⟨a', List.mem_cons_of_mem _ mem', related⟩

namespace Json

/-! ## Ways of writing arrays and objects -/

/-- Items with commas between them. -/
def listed : List (List Token) → List Token
  | [] => []
  | item :: items => item ++ items.flatMap (.comma :: ·)

def arrayTokens (items : List (List Token)) : List Token :=
  .openArray :: (listed items ++ [.closeArray])

def memberTokens (member : String × List Token) : List Token :=
  .string member.1 :: .colon :: member.2

def objectTokens (members : List (String × List Token)) : List Token :=
  .openObject :: (listed (members.map memberTokens) ++ [.closeObject])

def stringTokens (s : String) : List Token :=
  [.string s]

def countTokens (n : Nat) : List Token :=
  [.number (.natural n)]

def nullTokens : List Token :=
  [.word .null]

/-- A value, or `null` for none. -/
def orNull {α : Type} (value : α → List Token) : Option α → List Token
  | none => nullTokens
  | some a => value a

theorem stringTokens_head (s : String) :
    (stringTokens s).head? ≠ some (.word .null) := by
  intro h
  cases h

theorem countTokens_head (n : Nat) :
    (countTokens n).head? ≠ some (.word .null) := by
  intro h
  cases h

theorem orNull_eq_null {α : Type} {value : α → List Token} {o : Option α}
    (other : ∀ a, (value a).head? ≠ some (.word .null))
    (h : orNull value o = nullTokens) : o = none := by
  cases o with
  | none => rfl
  | some a => exact absurd (congrArg List.head? h) (other a)

/-- The ways of writing a record of which these are all the members. Those that
are not written are among the defaults. -/
inductive SpellsRecord (members defaults : List (String × List Token)) :
    List Token → Prop
  | object {given absent} : (given ++ absent).Perm members →
      absent ⊆ defaults → SpellsRecord members defaults (objectTokens given)
  | array {given absent} : given ++ absent = members → absent ⊆ defaults →
      SpellsRecord members defaults (arrayTokens (given.map Prod.snd))

namespace Reader

variable {α π : Type}

/-! ## Reading values -/

/-- The reader takes these tokens and has the value. They do not start with the
bracket that would close an array. -/
structure ReadsAs (reader : Reader α) (a : α) (ts : List Token) : Prop where
  reads : ∀ rest, reader (ts ++ rest) = .ok (a, rest)
  starts : ∃ t ts', ts = t :: ts' ∧ t ≠ .closeArray

theorem bind_of_ok {β : Type} {reader : Reader α} {next : α → Reader β}
    {ts rest : List Token} {a : α} (h : reader ts = .ok (a, rest)) :
    (reader >>= next) ts = next a rest := by
  show (reader ts >>= fun p => next p.1 p.2) = next a rest
  rw [h]
  rfl

theorem readsAs_string (s : String) : ReadsAs string s (stringTokens s) :=
  ⟨fun _ => rfl, _, _, rfl, nofun⟩

theorem readsAs_count (n : Nat) : ReadsAs count n (countTokens n) :=
  ⟨fun _ => rfl, _, _, rfl, nofun⟩

theorem readsAs_map {β : Type} {reader : Reader α} {a : α} {ts : List Token}
    (h : ReadsAs reader a ts) (f : α → β) :
    ReadsAs (do return f (← reader) : Reader β) (f a) ts :=
  ⟨fun rest => bind_of_ok (h.reads rest), h.starts⟩

theorem some_apply {element : Reader α} {a : α} {ts rest : List Token}
    (h : element ts = .ok (a, rest)) :
    (some <$> element) ts = .ok (some a, rest) := by
  rw [map_eq_pure_bind]
  exact bind_of_ok h

theorem readsAs_optional {value : Reader α} {tokens : α → List Token}
    (h : ∀ a, ReadsAs value a (tokens a))
    (other : ∀ a, (tokens a).head? ≠ some (.word .null)) (o : Option α) :
    ReadsAs (optional value) o (orNull tokens o) := by
  cases o with
  | none => exact ⟨fun _ => rfl, _, _, rfl, nofun⟩
  | some a =>
      refine ⟨fun rest => ?_, (h a).starts⟩
      have read := some_apply ((h a).reads rest)
      obtain ⟨t, ts', same, -⟩ := (h a).starts
      have noNull := other a
      rw [same] at read noNull
      rw [orNull, same]
      unfold optional
      split
      · next same' =>
          cases same'
          exact absurd rfl noNull
      · exact read

/-! ## Reading arrays -/

theorem nextElement_first {element : Reader α} {a : α} {ts : List Token}
    (h : ReadsAs element a ts) (rest : List Token) :
    nextElement true element (ts ++ rest) = .ok (some a, rest) := by
  have read := some_apply (h.reads rest)
  obtain ⟨t, ts', rfl, noEnd⟩ := h.starts
  rw [List.cons_append] at read ⊢
  unfold nextElement
  split
  · next same => cases same
  · next same =>
      cases same
      exact absurd rfl noEnd
  · next same =>
      cases same
      exact read

theorem nextElement_later {element : Reader α} {a : α} {ts : List Token}
    (h : ReadsAs element a ts) (rest : List Token) :
    nextElement false element (.comma :: (ts ++ rest)) = .ok (some a, rest) := by
  have read := some_apply (h.reads rest)
  obtain ⟨t, ts', rfl, noEnd⟩ := h.starts
  rw [List.cons_append] at read ⊢
  simp only [nextElement, Bool.false_eq_true, if_false, if_true]
  split
  · next same =>
      cases same
      exact absurd rfl noEnd
  · exact read

theorem elements_later {element : Reader α} {as : List α}
    {items : List (List Token)} (h : List.Forall₂ (ReadsAs element) as items)
    {tokens : Nat} (enough : as.length < tokens) (rest : List Token) :
    elements element tokens false
        (items.flatMap (.comma :: ·) ++ .closeArray :: rest) =
      .ok (as, .closeArray :: rest) := by
  induction h generalizing tokens with
  | nil =>
      cases tokens with
      | zero => cases enough
      | succ tokens => rfl
  | @cons a item as items first later ih =>
      cases tokens with
      | zero => cases enough
      | succ tokens =>
          rw [List.flatMap_cons, List.cons_append, List.cons_append,
            List.append_assoc, elements, bind_of_ok (nextElement_later first _)]
          exact bind_of_ok (ih (Nat.lt_of_succ_lt_succ enough))

theorem elements_first {element : Reader α} {as : List α}
    {items : List (List Token)} (h : List.Forall₂ (ReadsAs element) as items)
    {tokens : Nat} (enough : as.length < tokens) (rest : List Token) :
    elements element tokens true (listed items ++ .closeArray :: rest) =
      .ok (as, .closeArray :: rest) := by
  cases tokens with
  | zero => cases enough
  | succ tokens =>
      cases h with
      | nil => rfl
      | cons first later =>
          rw [listed, List.append_assoc, elements,
            bind_of_ok (nextElement_first first _)]
          exact bind_of_ok
            (elements_later later (Nat.lt_of_succ_lt_succ enough) rest)

theorem length_le_flatMap (items : List (List Token)) :
    items.length ≤ (items.flatMap (.comma :: ·)).length := by
  induction items with
  | nil => exact Nat.le_refl 0
  | cons item items ih =>
      rw [List.flatMap_cons, List.length_append, List.length_cons,
        List.length_cons]
      omega

theorem length_le_listed {items : List (List Token)}
    (nonempty : ∀ item ∈ items, item ≠ []) :
    items.length ≤ (listed items).length := by
  cases items with
  | nil => exact Nat.le_refl 0
  | cons item items =>
      have later := length_le_flatMap items
      have first := List.length_pos_iff.mpr (nonempty item List.mem_cons_self)
      rw [listed, List.length_append, List.length_cons]
      omega

theorem readsAs_array {element : Reader α} {as : List α}
    {items : List (List Token)} (h : List.Forall₂ (ReadsAs element) as items) :
    ReadsAs (array element) as (arrayTokens items) := by
  refine ⟨fun rest => ?_, _, _, rfl, nofun⟩
  have nonempty : ∀ item ∈ items, item ≠ [] := by
    intro item mem
    obtain ⟨a, -, read⟩ := exists_of_mem_right h item mem
    obtain ⟨t, ts', rfl, -⟩ := read.starts
    nofun
  have enough : as.length < (listed items ++ .closeArray :: rest).length := by
    have := length_le_listed nonempty
    rw [h.length_eq, List.length_append, List.length_cons]
    omega
  rw [arrayTokens, List.cons_append, List.append_assoc, List.singleton_append]
  exact bind_of_ok (elements_first h enough rest)

/-! ## Reading objects -/

/-- The record that is filled in by some of the members of an object depends on
which these are. Each of them is known, and counts as met once it is there. -/
structure Fills (fields : Fields π) (all : List (String × List Token))
    (met : List String → π) : Prop where
  known : ∀ member ∈ all, fields.names.contains member.1 = true
  isMet : ∀ member ∈ all, ∀ keys,
    fields.isMet member.1 (met keys) = keys.contains member.1
  value : ∀ member ∈ all, ∀ keys,
    ReadsAs (fields.value member.1 (met keys)) (met (member.1 :: keys)) member.2

variable {fields : Fields π} {all : List (String × List Token)}
  {met : List String → π}

theorem members_step (fills : Fills fields all met)
    {member : String × List Token} (mem : member ∈ all) {keys : List String}
    (new : member.1 ∉ keys) (tokens : Nat) {isFirst : Bool}
    {ts rest : List Token}
    (key : nextKey isFirst ts =
      .ok (some member.1, .colon :: (member.2 ++ rest))) :
    members fields (tokens + 1) isFirst (met keys) ts =
      members fields tokens false (met (member.1 :: keys)) rest := by
  have unmet : fields.isMet member.1 (met keys) = false := by
    rw [fills.isMet member mem keys, List.contains_eq_mem, decide_eq_false new]
  rw [members, bind_of_ok key]
  simp only [fills.known member mem, unmet, Bool.not_true, Bool.false_eq_true,
    if_false]
  have value := (fills.value member mem keys).reads rest
  exact (bind_of_ok rfl).trans (bind_of_ok value)

theorem members_later (fills : Fills fields all met)
    {given : List (String × List Token)} (known : given ⊆ all)
    {keys : List String} (distinct : (given.map Prod.fst ++ keys).Nodup)
    {tokens : Nat} (enough : given.length < tokens) (rest : List Token) :
    members fields tokens false (met keys)
        ((given.map memberTokens).flatMap (.comma :: ·) ++
          .closeObject :: rest) =
      .ok (met ((given.map Prod.fst).reverse ++ keys), .closeObject :: rest) := by
  induction given generalizing keys tokens with
  | nil =>
      cases tokens with
      | zero => cases enough
      | succ tokens => rfl
  | cons member given ih =>
      cases tokens with
      | zero => cases enough
      | succ tokens =>
          rw [List.map_cons, List.cons_append] at distinct
          have new : member.1 ∉ keys := fun mem =>
            (List.nodup_cons.mp distinct).1 (List.mem_append_right _ mem)
          rw [List.map_cons, List.flatMap_cons, List.cons_append,
            List.cons_append, memberTokens, List.cons_append, List.cons_append,
            List.append_assoc,
            members_step fills (known List.mem_cons_self) new tokens rfl,
            ih (fun _ mem => known (List.mem_cons_of_mem _ mem))
              (List.nodup_middle.mpr distinct) (Nat.lt_of_succ_lt_succ enough),
            List.map_cons, List.reverse_cons, List.append_assoc,
            List.singleton_append]

theorem members_first (fills : Fills fields all met)
    {given : List (String × List Token)} (known : given ⊆ all)
    (distinct : (given.map Prod.fst).Nodup) {tokens : Nat}
    (enough : given.length < tokens) (rest : List Token) :
    members fields tokens true (met [])
        (listed (given.map memberTokens) ++ .closeObject :: rest) =
      .ok (met (given.map Prod.fst).reverse, .closeObject :: rest) := by
  cases tokens with
  | zero => cases enough
  | succ tokens =>
      cases given with
      | nil => rfl
      | cons member given =>
          have distinct' : (given.map Prod.fst ++ [member.1]).Nodup := by
            rw [List.nodup_middle, List.append_nil]
            exact distinct
          rw [List.map_cons, listed, memberTokens, List.cons_append,
            List.cons_append, List.cons_append, List.cons_append,
            List.append_assoc,
            members_step fills (known List.mem_cons_self) List.not_mem_nil
              tokens rfl,
            members_later fills
              (fun _ mem => known (List.mem_cons_of_mem _ mem)) distinct'
              (Nat.lt_of_succ_lt_succ enough),
            List.map_cons, List.reverse_cons]

theorem length_lt_members (given : List (String × List Token))
    (rest : List Token) : given.length <
      (listed (given.map memberTokens) ++ .closeObject :: rest).length := by
  have nonempty : ∀ item ∈ given.map memberTokens, item ≠ [] := by
    intro item mem
    obtain ⟨member, -, rfl⟩ := List.mem_map.mp mem
    nofun
  have := length_le_listed nonempty
  rw [List.length_map] at this
  rw [List.length_append, List.length_cons]
  omega

/-- A record is read from each of the ways of writing it, if its array is read
as far as it goes, and what is filled in by members makes the record once all
the others are defaults. -/
theorem readsAs_record {wanted : String} {ofArray : Reader α} {start : π}
    {finish : π → Except Fault α} {a : α}
    {defaults : List (String × List Token)} {ts : List Token}
    (spelled : SpellsRecord all defaults ts)
    (distinct : (all.map Prod.fst).Nodup) (fills : Fills fields all met)
    (starts : met [] = start)
    (finishes : ∀ keys,
      (∀ member ∈ all, member.1 ∈ keys ∨ member ∈ defaults) →
        finish (met keys) = .ok a)
    (array : ∀ given absent, given ++ absent = all → absent ⊆ defaults →
      ∀ rest, ofArray (listed (given.map Prod.snd) ++ .closeArray :: rest) =
        .ok (a, .closeArray :: rest)) :
    ReadsAs (record wanted ofArray fields start finish) a ts := by
  cases spelled with
  | @object given absent perm missing =>
      refine ⟨fun rest => ?_, _, _, rfl, nofun⟩
      have known : given ⊆ all := fun member mem =>
        perm.subset (List.mem_append_left _ mem)
      have distinct' : (given.map Prod.fst).Nodup := by
        have keys := (perm.map Prod.fst).nodup_iff.mpr distinct
        rw [List.map_append] at keys
        exact (List.nodup_append.mp keys).1
      have enough := length_lt_members given rest
      have done : finish (met (given.map Prod.fst).reverse) = .ok a := by
        refine finishes _ fun member mem => ?_
        rcases List.mem_append.mp (perm.symm.subset mem) with here | gone
        · exact .inl (List.mem_reverse.mpr (List.mem_map_of_mem here))
        · exact .inr (missing gone)
      rw [objectTokens, List.cons_append, List.append_assoc,
        List.singleton_append]
      subst starts
      have filled := members_first fills known distinct' enough rest
      refine (bind_of_ok filled).trans ?_
      rw [done]
      rfl
  | @array given absent split missing =>
      refine ⟨fun rest => ?_, _, _, rfl, nofun⟩
      rw [arrayTokens, List.cons_append, List.append_assoc,
        List.singleton_append]
      exact bind_of_ok (array given absent split missing rest)

theorem forall₂_map {α : Type} {reader : Reader α} {tokens : α → List Token}
    (h : ∀ a, ReadsAs reader a (tokens a)) (as : List α) :
    List.Forall₂ (ReadsAs reader) as (as.map tokens) :=
  List.forall₂_map_right_iff.mpr (List.forall₂_same.mpr fun a _ => h a)

theorem readsAs_strings (ss : List String) :
    ReadsAs (array string) ss (arrayTokens (ss.map stringTokens)) :=
  readsAs_array (forall₂_map readsAs_string ss)

end Reader

/-! ## Cutting the text -/

theorem Legible.append {ts rest : List Token} (h : Legible ts)
    (later : Legible rest) (apart : Apart rest) : Legible (ts ++ rest) := by
  induction h with
  | nil => exact later
  | @natural n ts fits apart' _ ih =>
      refine .natural fits ?_ ih
      cases ts with
      | nil => exact apart
      | cons t ts => exact apart'
  | other other _ ih => exact .other other ih

theorem legible_further {items : List (List Token)} {rest : List Token}
    (h : ∀ item ∈ items, Legible item) (later : Legible rest)
    (apart : Apart rest) :
    Legible (items.flatMap (.comma :: ·) ++ rest) ∧
      Apart (items.flatMap (.comma :: ·) ++ rest) := by
  induction items with
  | nil => exact ⟨later, apart⟩
  | cons item items ih =>
      obtain ⟨further, apart'⟩ :=
        ih fun item mem => h item (List.mem_cons_of_mem _ mem)
      rw [List.flatMap_cons, List.cons_append, List.cons_append,
        List.append_assoc]
      exact ⟨.other nofun ((h item List.mem_cons_self).append further apart'),
        nofun⟩

theorem legible_listed {items : List (List Token)} {rest : List Token}
    (h : ∀ item ∈ items, Legible item) (later : Legible rest)
    (apart : Apart rest) : Legible (listed items ++ rest) := by
  cases items with
  | nil => exact later
  | cons item items =>
      obtain ⟨further, apart'⟩ := legible_further
        (fun item mem => h item (List.mem_cons_of_mem _ mem)) later apart
      rw [listed, List.append_assoc]
      exact (h item List.mem_cons_self).append further apart'

theorem legible_arrayTokens {items : List (List Token)}
    (h : ∀ item ∈ items, Legible item) : Legible (arrayTokens items) :=
  .other nofun (legible_listed h (.other nofun .nil) nofun)

theorem legible_objectTokens {members : List (String × List Token)}
    (h : ∀ member ∈ members, Legible member.2) :
    Legible (objectTokens members) := by
  refine .other nofun (legible_listed ?_ (.other nofun .nil) nofun)
  intro item mem
  obtain ⟨member, mem', rfl⟩ := List.mem_map.mp mem
  exact .other nofun (.other nofun (h member mem'))

theorem legible_record {members defaults : List (String × List Token)}
    {ts : List Token} (h : SpellsRecord members defaults ts)
    (legible : ∀ member ∈ members, Legible member.2) : Legible ts := by
  cases h with
  | object perm _ =>
      exact legible_objectTokens fun member mem =>
        legible member (perm.subset (List.mem_append_left _ mem))
  | array split _ =>
      refine legible_arrayTokens fun item mem => ?_
      obtain ⟨member, mem', rfl⟩ := List.mem_map.mp mem
      exact legible member (split ▸ List.mem_append_left _ mem')

theorem legible_stringTokens (s : String) : Legible (stringTokens s) :=
  .other nofun .nil

theorem legible_nullTokens : Legible nullTokens :=
  .other nofun .nil

theorem legible_countTokens {n : Nat} (fits : n < Number.wordBound) :
    Legible (countTokens n) :=
  .natural fits nofun .nil

theorem legible_orNull {α : Type} {value : α → List Token} {o : Option α}
    (h : ∀ a ∈ o, Legible (value a)) : Legible (orNull value o) := by
  cases o with
  | none => exact legible_nullTokens
  | some a => exact h a rfl

/-! ## There is a way -/

theorem writable_arrayTokens {items : List (List Token)}
    (h : ∀ item ∈ items, ∀ t ∈ item, t.Writable) :
    ∀ t ∈ arrayTokens items, t.Writable := by
  have inside : ∀ t ∈ listed items, t.Writable := by
    cases items with
    | nil => nofun
    | cons item items =>
        intro t mem
        rcases List.mem_append.mp mem with mem | mem
        · exact h item List.mem_cons_self t mem
        · obtain ⟨item', mem', mem⟩ := List.mem_flatMap.mp mem
          rcases List.mem_cons.mp mem with rfl | mem
          · exact ⟨_, .comma⟩
          · exact h item' (List.mem_cons_of_mem _ mem') t mem
  intro t mem
  rcases List.mem_cons.mp mem with rfl | mem
  · exact ⟨_, .openArray⟩
  · rcases List.mem_append.mp mem with mem | mem
    · exact inside t mem
    · obtain rfl := List.mem_singleton.mp mem
      exact ⟨_, .closeArray⟩

theorem writable_orNull {α : Type} {value : α → List Token}
    (h : ∀ a, ∀ t ∈ value a, t.Writable) (a : Option α) :
    ∀ t ∈ orNull value a, t.Writable := by
  cases a with
  | none => exact List.forall_mem_singleton.mpr ⟨_, .word .null⟩
  | some a => exact h a

theorem writable_stringTokens (s : String) :
    ∀ t ∈ stringTokens s, t.Writable :=
  List.forall_mem_singleton.mpr (writable_string s)

theorem writable_countTokens (n : Nat) : ∀ t ∈ countTokens n, t.Writable :=
  List.forall_mem_singleton.mpr ⟨_, .natural n⟩

end Json

end SpatialSql
