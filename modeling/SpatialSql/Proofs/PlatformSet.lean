import Mathlib.Data.List.Sort
import SpatialSql.Proofs.ByteOrder
import SpatialSql.Proofs.PlatformScreening

/-!
# Allow-lists as sets

An allow-list is made of platforms in any order, some of them perhaps more than
once, and of a policy. What is kept of them is a set, for the members are kept in
strict order, which there is only one of. `Represents` says of an allow-list that
it keeps the set of these platforms under this policy, and everything a list is
asked follows from it: whether it is another list, what its members are in the
order of their bytes, and whether a platform is permitted.

The policy tells two allow-lists of one set apart. Their answers it tells apart
only if the set is empty.
-/

namespace SpatialSql.AllowList

variable {list list' : AllowList} {platforms platforms' : List String}
  {policy policy' : Policy}

/-- The list keeps the set of these platforms under this policy. -/
structure Represents (list : AllowList) (platforms : List String)
    (policy : Policy) : Prop where
  mem_iff : ∀ p, p ∈ list.platforms ↔ p ∈ platforms
  policy_eq : list.policy = policy

theorem represents_withPolicy (platforms : List String) (policy : Policy) :
    ((ofList platforms).withPolicy policy).Represents platforms policy where
  mem_iff _ := mem_ofList
  policy_eq := rfl

theorem represents_ofList (platforms : List String) :
    (ofList platforms).Represents platforms .allowAll := by
  rw [← withPolicy_ofList]
  exact represents_withPolicy platforms .allowAll

/-! ## Which list it is -/

/-- Members that are in strict order are in the only order they have, so an
allow-list is its members and its policy. -/
theorem ext_mem (members : ∀ p, p ∈ list.platforms ↔ p ∈ list'.platforms)
    (policies : list.policy = list'.policy) : list = list' := by
  have platforms : list.platforms = list'.platforms :=
    list.sorted.eq_of_mem_iff list'.sorted members
  cases list
  cases list'
  cases platforms
  cases policies
  rfl

theorem Represents.eq_iff (h : list.Represents platforms policy)
    (h' : list'.Represents platforms' policy') :
    list = list' ↔ (∀ p, p ∈ platforms ↔ p ∈ platforms') ∧ policy = policy' := by
  constructor
  · intro equal
    subst equal
    exact ⟨fun p => (h.mem_iff p).symm.trans (h'.mem_iff p),
      h.policy_eq.symm.trans h'.policy_eq⟩
  · intro same
    refine ext_mem (fun p => ?_) ?_
    · rw [h.mem_iff, h'.mem_iff, same.1]
    · rw [h.policy_eq, h'.policy_eq, same.2]

/-! ## What it answers -/

theorem Represents.eq_nil_iff (h : list.Represents platforms policy) :
    list.platforms = [] ↔ platforms = [] := by
  rw [List.eq_nil_iff_forall_not_mem, List.eq_nil_iff_forall_not_mem]
  exact forall_congr' fun p => not_congr (h.mem_iff p)

theorem Represents.allows_iff (h : list.Represents platforms policy)
    {p : String} :
    list.Allows p ↔ p ∈ platforms ∨ (platforms = [] ∧ policy = .allowAll) := by
  rw [Allows, h.eq_nil_iff, h.policy_eq, ← h.mem_iff]
  exact or_congr_left (and_iff_right_of_imp List.ne_nil_of_mem)

/-- What is promised of an allow-list of these platforms under this policy. -/
structure IsSetOf (list : AllowList) (platforms : List String)
    (policy : Policy) : Prop extends list.Represents platforms policy where
  distinct : list.platforms.Nodup
  ordered : list.platforms.Pairwise fun p q => Name.bytes p < Name.bytes q
  permits_iff : ∀ p, list.permits p = true ↔
    p ∈ platforms ∨ (platforms = [] ∧ policy = .allowAll)
  check_iff : ∀ p, list.check p = .ok () ↔
    p ∈ platforms ∨ (platforms = [] ∧ policy = .allowAll)

theorem Represents.isSetOf (h : list.Represents platforms policy) :
    list.IsSetOf platforms policy where
  toRepresents := h
  distinct := list.sorted.imp String.ne_of_lt
  ordered := list.sorted.imp Name.bytes_lt_bytes
  permits_iff _ := AllowList.permits_iff.trans h.allows_iff
  check_iff _ := Query.check_eq_ok_iff.trans
    (AllowList.permits_iff.trans h.allows_iff)

theorem IsSetOf.permits_eq (h : list.IsSetOf platforms policy)
    (h' : list'.IsSetOf platforms policy') (declared : platforms ≠ [])
    (p : String) : list.permits p = list'.permits p := by
  refine Bool.eq_iff_iff.mpr ?_
  rw [h.permits_iff, h'.permits_iff]
  simp only [declared, false_and]

/-- An allow-list is the set of the platforms it was made of, under the policy
it was given. Lists made of other platforms are equal if the members and the
policies are the same. Once there is a member, the policy has no say in what is
permitted. -/
theorem allow_list_is_a_set (platforms : List String) (policy : Policy) :
    (ofList platforms).IsSetOf platforms .allowAll ∧
    ((ofList platforms).withPolicy policy).IsSetOf platforms policy ∧
    (∀ platforms' policy', (ofList platforms).withPolicy policy =
        (ofList platforms').withPolicy policy' ↔
      (∀ p, p ∈ platforms ↔ p ∈ platforms') ∧ policy = policy') ∧
    (platforms ≠ [] → ∀ policy' p,
      (((ofList platforms).withPolicy policy).withPolicy policy').permits p =
        ((ofList platforms).withPolicy policy).permits p) := by
  have made := represents_withPolicy platforms
  refine ⟨(represents_ofList platforms).isSetOf, (made policy).isSetOf, ?_, ?_⟩
  · intro platforms' policy'
    exact (made policy).eq_iff (represents_withPolicy platforms' policy')
  · intro declared policy' p
    exact (made policy').isSetOf.permits_eq (made policy).isSetOf declared p

/-- Two lists of one set, in one of which a member is given twice, on both sides
of one that comes before it. -/
theorem accented_platforms_are_a_set :
    (ofList ["é", "z", "é"]).withPolicy .denyAll =
      (ofList ["z", "é"]).withPolicy .denyAll ∧
    ((ofList ["é", "z", "é"]).withPolicy .denyAll).platforms = ["z", "é"] ∧
    (((ofList ["é", "z", "é"]).withPolicy .denyAll).withPolicy
      .allowAll).permits "e" = false := by
  obtain ⟨-, -, equal, permitted⟩ :=
    allow_list_is_a_set ["é", "z", "é"] .denyAll
  have same : ∀ p, p ∈ ["é", "z", "é"] ↔ p ∈ ["z", "é"] := by
    intro p
    simp only [List.mem_cons, List.not_mem_nil, or_false]
    tauto
  refine ⟨(equal ["z", "é"] .denyAll).mpr ⟨same, rfl⟩, by decide, ?_⟩
  rw [permitted (List.cons_ne_nil _ _) .allowAll "e"]
  decide

end SpatialSql.AllowList
