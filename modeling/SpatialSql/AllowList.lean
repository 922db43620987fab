import SpatialSql.Error

/-!
# Which platforms a function may be used on

An allow-list is a set of platform names with a policy for the case that the set
is empty. The set is kept as a strictly increasing list, so two lists of the
same members, whatever their order and repetitions, make one allow-list.
Platform names are compared character by character, case included.
-/

namespace SpatialSql

/-- What an allow-list without platforms means. -/
inductive AllowList.Policy
  | allowAll
  | denyAll
  deriving DecidableEq

/-- A set of platforms, and what it means when the set is empty. -/
structure AllowList where
  platforms : List String
  policy : AllowList.Policy
  sorted : platforms.Pairwise (· < ·)
  deriving DecidableEq

namespace AllowList

/-- The sorted list with one more member, unless it is there already. -/
def insertPlatform (platform : String) : List String → List String
  | [] => [platform]
  | other :: rest =>
    if platform < other then platform :: other :: rest
    else if platform = other then other :: rest
    else other :: insertPlatform platform rest

/-- Inserting a platform adds it to the members and no other. -/
@[simp] theorem mem_insertPlatform {platform p : String} {platforms : List String} :
    p ∈ insertPlatform platform platforms ↔ p = platform ∨ p ∈ platforms := by
  induction platforms with
  | nil => simp [insertPlatform]
  | cons other rest ih =>
    rw [insertPlatform]
    split
    · simp
    · split
      · rename_i same
        subst same
        simp
      · simp only [List.mem_cons, ih]
        constructor
        · rintro (h | h | h) <;> simp [h]
        · rintro (h | h | h) <;> simp [h]

theorem pairwise_insertPlatform (platform : String) {platforms : List String}
    (sorted : platforms.Pairwise (· < ·)) :
    (insertPlatform platform platforms).Pairwise (· < ·) := by
  induction platforms with
  | nil => simp [insertPlatform]
  | cons other rest ih =>
    have sorted' := List.pairwise_cons.mp sorted
    rw [insertPlatform]
    split
    · rename_i before
      refine List.pairwise_cons.mpr ⟨fun p hp => ?_, sorted⟩
      rcases List.mem_cons.mp hp with rfl | hp
      · exact before
      · exact String.lt_trans before (sorted'.1 p hp)
    · split
      · exact sorted
      · rename_i notBefore different
        refine List.pairwise_cons.mpr ⟨fun p hp => ?_, ih sorted'.2⟩
        rcases mem_insertPlatform.mp hp with rfl | hp
        · refine Decidable.byContradiction fun notAfter => different ?_
          exact String.le_antisymm (String.not_lt.mp notAfter)
            (String.not_lt.mp notBefore)
        · exact sorted'.1 p hp

/-- The list of no platforms, which permits every platform. -/
def unrestricted : AllowList :=
  ⟨[], .allowAll, .nil⟩

/-- The list of one more platform. -/
def insert (list : AllowList) (platform : String) : AllowList :=
  ⟨insertPlatform platform list.platforms, list.policy,
    pairwise_insertPlatform platform list.sorted⟩

/-- The list of the given platforms; when there are none, every platform is
permitted. -/
def ofList (platforms : List String) : AllowList :=
  platforms.foldl insert unrestricted

@[simp] theorem mem_insert {list : AllowList} {platform p : String} :
    p ∈ (list.insert platform).platforms ↔ p = platform ∨ p ∈ list.platforms :=
  mem_insertPlatform

theorem mem_foldl_insert {platforms : List String} {list : AllowList} {p : String} :
    p ∈ (platforms.foldl insert list).platforms ↔
      p ∈ list.platforms ∨ p ∈ platforms := by
  induction platforms generalizing list with
  | nil => simp
  | cons q platforms ih =>
    rw [List.foldl_cons, ih, mem_insert, List.mem_cons, or_comm (a := p = q), or_assoc]

/-- The members are the given platforms, however often they are given. -/
theorem mem_ofList {p : String} {platforms : List String} :
    p ∈ (ofList platforms).platforms ↔ p ∈ platforms := by
  rw [ofList, mem_foldl_insert]
  exact or_iff_right List.not_mem_nil

theorem policy_foldl_insert (platforms : List String) (list : AllowList) :
    (platforms.foldl insert list).policy = list.policy := by
  induction platforms generalizing list with
  | nil => rfl
  | cons p ps ih => exact ih (list.insert p)

/-- The same platforms under another policy. -/
def withPolicy (list : AllowList) (policy : Policy) : AllowList :=
  { list with policy }

theorem withPolicy_ofList (platforms : List String) :
    (ofList platforms).withPolicy .allowAll = ofList platforms :=
  congrArg (withPolicy (ofList platforms))
    (policy_foldl_insert platforms unrestricted).symm

/-- No platform is declared. -/
def isEmpty (list : AllowList) : Bool :=
  list.platforms.isEmpty

/-- A declared list permits its members; an empty one permits what its policy
says. -/
def permits (list : AllowList) (platform : String) : Bool :=
  if list.isEmpty then list.policy = .allowAll else list.platforms.contains platform

/-- Passes a platform that is permitted. -/
def check (list : AllowList) (platform : String) : Except Error Unit :=
  if list.permits platform then .ok () else .error (.unsupportedPlatform platform)

end AllowList

end SpatialSql
