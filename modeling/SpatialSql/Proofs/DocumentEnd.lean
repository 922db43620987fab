import Mathlib.Data.List.DropRight
import SpatialSql.Proofs.DocumentScanning
import SpatialSql.Proofs.StagedLoading

/-!
# A document ends with the bracket that it starts with

A configuration is one array or one object. Whatever a reader takes from the
tokens of a document, it takes brackets in pairs: a value that is read whole
leaves as many brackets open as there were, and the end of an array or an object
leaves one fewer. So a document that is read to its end starts with a bracket,
and its last token is the one that closes this bracket.

Nothing can be taken from such a document or put behind it. A shorter text
still has the first bracket, and if it is read then the bracket is closed
there, so that in the longer text there is something behind it.
-/

namespace SpatialSql

namespace Json

/-- What is left behind the token that closes the outermost of the open
brackets, which are as many as `depth`. -/
def closing : (depth : Nat) → List Token → Option (List Token)
  | 0, ts => some ts
  | _ + 1, [] => none
  | depth + 1, t :: ts =>
    if t.opens then closing (depth + 2) ts
    else if t.closes then closing depth ts
    else closing (depth + 1) ts

theorem closing_append {depth : Nat} {ts rest : List Token} (more : List Token)
    (h : closing depth ts = some rest) :
    closing depth (ts ++ more) = some (rest ++ more) := by
  fun_induction closing depth ts with
  | case1 ts =>
      cases h
      rw [closing]
  | case2 => cases h
  | case3 depth t ts opening ih =>
      rw [List.cons_append, closing, if_pos opening]
      exact ih h
  | case4 depth t ts noOpening ending ih =>
      rw [List.cons_append, closing, if_neg noOpening, if_pos ending]
      exact ih h
  | case5 depth t ts noOpening noEnding ih =>
      rw [List.cons_append, closing, if_neg noOpening, if_neg noEnding]
      exact ih h

/-- If nothing is left behind the token that closes the outermost bracket then
that token is the last. -/
theorem closes_getLast {depth : Nat} {ts : List Token}
    (h : closing depth ts = some []) : ∀ t ∈ ts.getLast?, t.closes = true := by
  fun_induction closing depth ts with
  | case1 ts =>
      cases h
      nofun
  | case2 => cases h
  | case3 depth t ts opening ih =>
      cases ts with
      | nil => cases h
      | cons t' ts =>
          rw [List.getLast?_cons_cons]
          exact ih h
  | case4 depth t ts noOpening ending ih =>
      cases ts with
      | nil =>
          intro t' last
          cases last
          exact ending
      | cons t' ts =>
          rw [List.getLast?_cons_cons]
          exact ih h
  | case5 depth t ts noOpening noEnding ih =>
      cases ts with
      | nil => cases h
      | cons t' ts =>
          rw [List.getLast?_cons_cons]
          exact ih h

namespace Reader

variable {α β π : Type}

/-- A reader that starts inside a bracket leaves off in it, if `levels` is 1,
or behind it, if `levels` is 0. -/
def Leaves (levels : Nat) (reader : Reader α) : Prop :=
  ∀ ts a rest, reader ts = .ok (a, rest) →
    ∀ depth, closing (depth + 1) ts = closing (depth + levels) rest

/-- A reader that takes a bracket and all up to the one that closes it. -/
def Encloses (reader : Reader α) : Prop :=
  ∀ ts a rest, reader ts = .ok (a, rest) →
    ∃ opening inner, ts = opening :: inner ∧ opening.opens = true ∧
      ∀ depth, closing (depth + 1) inner = closing depth rest

theorem Encloses.leaves {reader : Reader α} (h : Encloses reader) :
    Leaves 1 reader := by
  intro ts a rest read depth
  obtain ⟨opening, inner, rfl, opens, closed⟩ := h ts a rest read
  rw [closing, if_pos opens]
  exact closed (depth + 1)

theorem leaves_fault (levels : Nat) (f : Fault) :
    Leaves levels (fault f : Reader α) :=
  fun _ _ _ h => nomatch h

theorem leaves_pure (a : α) : Leaves 1 (pure a : Reader α) := by
  intro ts b rest h depth
  cases h
  rfl

theorem leaves_bind {levels : Nat} {reader : Reader α} {next : α → Reader β}
    (first : Leaves 1 reader) (second : ∀ a, Leaves levels (next a)) :
    Leaves levels (reader >>= next) := by
  intro ts b rest h depth
  obtain ⟨⟨a, middle⟩, read, h⟩ := bind_eq_ok h
  rw [first ts a middle read depth]
  exact second a middle b rest h depth

theorem leaves_map {levels : Nat} {reader : Reader α} {f : α → β}
    (h : Leaves levels reader) :
    Leaves levels (do return f (← reader) : Reader β) := by
  intro ts b rest mapped depth
  obtain ⟨⟨a, middle⟩, read, heq⟩ := bind_eq_ok mapped
  cases heq
  exact h ts a rest read depth

/-! ## Values -/

theorem leaves_string : Leaves 1 string := by
  intro ts s rest h depth
  unfold string at h
  split at h
  · cases h
    rfl
  · cases h

theorem leaves_count : Leaves 1 count := by
  intro ts n rest h depth
  unfold count at h
  split at h
  · cases h
    rfl
  · cases h
  · cases h

theorem leaves_unit : Leaves 1 unit := by
  intro ts n rest h depth
  unfold unit at h
  split at h
  · cases h
    rfl
  · cases h

theorem leaves_some {value : Reader α} (h : Leaves 1 value) :
    Leaves 1 (some <$> value) := by
  rw [map_eq_pure_bind]
  exact leaves_map h

theorem leaves_optional {value : Reader α} (h : Leaves 1 value) :
    Leaves 1 (optional value) := by
  intro ts a rest read depth
  unfold optional at read
  split at read
  · cases read
    rfl
  · exact leaves_some h _ a rest read depth

/-! ## Arrays -/

theorem leaves_nextElement (isFirst : Bool) {element : Reader α}
    (h : Leaves 1 element) : Leaves 1 (nextElement isFirst element) := by
  intro ts a rest read depth
  unfold nextElement at read
  split at read
  · cases read
  · cases read
    rfl
  · next token ts noEnd =>
      split at read
      · exact leaves_some h _ a rest read depth
      · split at read
        · next comma =>
            cases comma
            split at read
            · cases read
            · exact leaves_some h ts a rest read depth
        · cases read

theorem leaves_endArray : Leaves 0 endArray := by
  intro ts a rest read depth
  unfold endArray at read
  split at read
  · cases read
  · cases read
    rfl
  · cases read
  · cases read

theorem leaves_elements {element : Reader α} (h : Leaves 1 element)
    (tokens : Nat) (isFirst : Bool) :
    Leaves 1 (elements element tokens isFirst) := by
  induction tokens generalizing isFirst with
  | zero => exact leaves_fault 1 .endInList
  | succ tokens ih =>
      refine leaves_bind (leaves_nextElement isFirst h) fun
        | none => leaves_pure []
        | some first => leaves_map (ih false)

theorem encloses_array {element : Reader α} (h : Leaves 1 element) :
    Encloses (array element) := by
  intro ts all rest read
  unfold array at read
  split at read
  · next inner =>
      refine ⟨.openArray, inner, rfl, rfl, ?_⟩
      have inside : Leaves 0 (do
          let all ← elements element inner.length true
          endArray
          pure all : Reader (List α)) :=
        leaves_bind (leaves_elements h _ _) fun _ => leaves_map leaves_endArray
      exact inside inner all rest read
  · cases read

/-! ## Objects -/

theorem leaves_nextKey (isFirst : Bool) : Leaves 1 (nextKey isFirst) := by
  intro ts a rest read depth
  unfold nextKey at read
  split at read
  · cases read
  · cases read
    rfl
  · split at read
    · split at read
      · cases read
        rfl
      · cases read
      · cases read
    · split at read
      · next comma =>
          cases comma
          split at read
          · cases read
          · cases read
            rfl
          · cases read
          · cases read
          · cases read
      · cases read

theorem leaves_colon : Leaves 1 colon := by
  intro ts a rest read depth
  unfold colon at read
  split at read
  · cases read
  · cases read
    rfl
  · cases read

theorem leaves_endObject : Leaves 0 endObject := by
  intro ts a rest read depth
  unfold endObject at read
  split at read
  · cases read
    rfl
  · cases read
  · cases read
  · cases read

theorem leaves_members {fields : Fields π}
    (h : ∀ key record, Leaves 1 (fields.value key record)) (tokens : Nat)
    (isFirst : Bool) (record : π) :
    Leaves 1 (members fields tokens isFirst record) := by
  induction tokens generalizing isFirst record with
  | zero => exact leaves_fault 1 .endInObject
  | succ tokens ih =>
      refine leaves_bind (leaves_nextKey isFirst) fun
        | none => leaves_pure record
        | some key => ?_
      dsimp only
      split
      · exact leaves_fault 1 _
      · split
        · exact leaves_fault 1 _
        · exact leaves_bind leaves_colon fun _ =>
            leaves_bind (h key record) fun record' => ih false record'

theorem leaves_liftM (x : Except Fault α) : Leaves 1 (liftM x : Reader α) := by
  cases x with
  | error f => exact leaves_fault 1 f
  | ok a => exact leaves_pure a

theorem encloses_record {wanted : String} {ofArray : Reader α}
    {fields : Fields π} {start : π} {finish : π → Except Fault α}
    (elements : Leaves 1 ofArray)
    (values : ∀ key record, Leaves 1 (fields.value key record)) :
    Encloses (record wanted ofArray fields start finish) := by
  intro ts a rest read
  unfold record at read
  split at read
  · next inner =>
      refine ⟨.openArray, inner, rfl, rfl, ?_⟩
      have inside : Leaves 0 (do
          let value ← ofArray
          endArray
          pure value : Reader α) :=
        leaves_bind elements fun _ => leaves_map leaves_endArray
      exact inside inner a rest read
  · next inner =>
      refine ⟨.openObject, inner, rfl, rfl, ?_⟩
      have inside : Leaves 0 (do
          let value ← liftM (finish (← members fields inner.length true start))
          endObject
          pure value : Reader α) :=
        leaves_bind (leaves_members values _ _ _) fun record =>
          leaves_bind (leaves_liftM (finish record)) fun _ =>
            leaves_map leaves_endObject
      exact inside inner a rest read
  · cases read

end Reader

end Json

namespace Configuration

open Json Reader

theorem leaves_policyNamed (name : String) : Leaves 1 (policyNamed name) := by
  unfold policyNamed
  split
  · exact leaves_pure _
  · exact leaves_fault 1 _

theorem leaves_endPolicy : Leaves 0 endPolicy := by
  intro ts a rest read depth
  unfold endPolicy at read
  split at read
  · cases read
  · cases read
    rfl
  · cases read

theorem leaves_policyMember : Leaves 0 policyMember := by
  refine leaves_bind (leaves_nextKey true) fun
    | none => leaves_fault 0 .expectedValue
    | some name => ?_
  refine leaves_bind (leaves_policyNamed name) fun policy => ?_
  refine leaves_bind leaves_colon fun _ => ?_
  exact leaves_bind leaves_unit fun _ => leaves_map leaves_endPolicy

theorem leaves_readPolicy : Leaves 1 readPolicy := by
  intro ts a rest read depth
  unfold readPolicy at read
  split at read
  · cases read
  · next name inner => exact leaves_policyNamed name inner a rest read depth
  · cases read
  · next inner => exact leaves_policyMember inner a rest read (depth + 1)
  · cases read

theorem leaves_required {α : Type} (index : Nat) (field : Option α) :
    Leaves 1 (required index field) := by
  cases field with
  | none => exact leaves_fault 1 _
  | some value => exact leaves_pure value

theorem leaves_strings : Leaves 1 (array string) :=
  (encloses_array leaves_string).leaves

theorem leaves_entryOfArray : Leaves 1 entryOfArray := by
  refine leaves_bind (leaves_nextElement true leaves_string) fun first => ?_
  refine leaves_bind (leaves_required 0 first) fun name => ?_
  refine leaves_bind (leaves_nextElement false (leaves_optional leaves_string))
    fun sqlName => ?_
  refine leaves_bind (leaves_nextElement false leaves_count) fun third => ?_
  refine leaves_bind (leaves_required 2 third) fun min => ?_
  refine leaves_bind (leaves_nextElement false (leaves_optional leaves_count))
    fun max => ?_
  exact leaves_map (leaves_nextElement false leaves_strings)

theorem leaves_entryValue (key : String) (entry : PartialEntry) :
    Leaves 1 (PartialEntry.fields.value key entry) := by
  simp only [PartialEntry.fields]
  split
  · exact leaves_map leaves_string
  · exact leaves_map (leaves_optional leaves_string)
  · exact leaves_map leaves_count
  · exact leaves_map (leaves_optional leaves_count)
  · exact leaves_map leaves_strings

theorem leaves_entries : Leaves 1 (array readEntry) :=
  (encloses_array
    (encloses_record leaves_entryOfArray leaves_entryValue).leaves).leaves

theorem leaves_value (key : String) (configuration : Partial) :
    Leaves 1 (Partial.fields.value key configuration) := by
  simp only [Partial.fields]
  split
  · exact leaves_map leaves_readPolicy
  · exact leaves_map leaves_entries

theorem leaves_ofArray : Leaves 1 ofArray := by
  refine leaves_bind (leaves_nextElement true leaves_readPolicy) fun policy => ?_
  exact leaves_map (leaves_nextElement false leaves_entries)

theorem encloses_read : Encloses read :=
  encloses_record leaves_ofArray leaves_value

/-- A text that says a configuration starts with a bracket, and nothing follows
the one that closes it. -/
theorem closing_of_ofJson {text : String} {configuration : Configuration}
    (h : ofJson text = .ok configuration) :
    ∃ opening inner, tokens text.toList = opening :: inner ∧
      closing 1 inner = some [] := by
  unfold ofJson document at h
  split at h
  · next read' =>
      obtain ⟨opening, inner, same, -, closed⟩ := encloses_read _ _ _ read'
      exact ⟨opening, inner, same, (closed 0).trans (by rw [closing])⟩
  · cases h
  · cases h

/-- Of two texts that say configurations, one can be longer than the other only
by spaces. -/
theorem isSpace_of_ofJson_append {text more : String}
    {configuration longer : Configuration}
    (h : ofJson text = .ok configuration)
    (h' : ofJson (text ++ more) = .ok longer) :
    ∀ c ∈ more.toList, isSpace c = true := by
  obtain ⟨opening, inner, same, closed⟩ := closing_of_ofJson h
  obtain ⟨opening', inner', same', closed'⟩ := closing_of_ofJson h'
  have last : ∀ t ∈ (tokens text.toList).getLast?, t.closes = true := by
    rw [same]
    cases inner with
    | nil => cases closed
    | cons t ts =>
        rw [List.getLast?_cons_cons]
        exact closes_getLast closed
  rw [String.toList_append, tokens_append more.toList last, same,
    List.cons_append] at same'
  obtain ⟨rfl, rfl⟩ := List.cons.inj same'
  rw [closing_append _ closed] at closed'
  exact isSpace_of_tokens (Option.some.inj closed')

/-- A text that says a configuration says none when it is cut before its last
character that is no space. -/
theorem ofJson_of_cut {text cut : String} {configuration : Configuration}
    (h : ofJson text = .ok configuration)
    (cuts : cut.toList <+: text.toList.rdropWhile isSpace)
    (strict : cut.toList ≠ text.toList.rdropWhile isSpace) :
    ∃ fault, ofJson cut = .error fault := by
  cases h' : ofJson cut with
  | error fault => exact ⟨fault, rfl⟩
  | ok shorter =>
      obtain ⟨lost, same⟩ := cuts
      obtain ⟨spaces, whole⟩ :=
        List.rdropWhile_prefix isSpace (l := text.toList)
      have joined : text = cut ++ String.ofList (lost ++ spaces) := by
        rw [← String.toList_inj, String.toList_append, String.toList_ofList,
          ← List.append_assoc, same, whole]
      rw [joined] at h
      have blank := isSpace_of_ofJson_append h' h
      rw [String.toList_ofList] at blank
      have lostAny : lost ≠ [] := by
        rintro rfl
        exact strict ((List.append_nil _).symm.trans same)
      have keepsAny : text.toList.rdropWhile isSpace ≠ [] := by
        rw [← same]
        exact List.append_ne_nil_of_right_ne_nil _ lostAny
      -- the last character that was lost is one that is no space
      refine absurd ?_ (List.rdropWhile_last_not isSpace _ keepsAny)
      refine blank _ (List.mem_append_left _ ?_)
      simp only [← same, List.getLast_append_of_ne_nil _ lostAny]
      exact List.getLast_mem lostAny

/-- A text that says a configuration says none with anything but spaces behind
it. -/
theorem ofJson_of_prolonged {text more : String} {configuration : Configuration}
    (h : ofJson text = .ok configuration)
    (anything : ∃ c ∈ more.toList, isSpace c = false) :
    ∃ fault, ofJson (text ++ more) = .error fault := by
  cases h' : ofJson (text ++ more) with
  | error fault => exact ⟨fault, rfl⟩
  | ok longer =>
      obtain ⟨c, mem, noSpace⟩ := anything
      have blank := isSpace_of_ofJson_append h h' c mem
      rw [noSpace] at blank
      cases blank

end Configuration

namespace Registry

/-- A text that says a configuration says none when it is cut before its last
character that is no space, or when anything but spaces is put behind it. Then
nothing is loaded, and it makes no difference whether the configuration could
have been loaded: what cannot be read is not loaded in part, whatever is wrong
with the functions in the part that can be read. -/
theorem cut_or_prolonged_is_not_loaded (registry : Registry) (text : String)
    (readable : ∀ fault,
      (loadJson text registry).result ≠ .error (.configuration fault)) :
    (∀ cut : String, cut.toList <+: text.toList.rdropWhile Json.isSpace →
        cut.toList ≠ text.toList.rdropWhile Json.isSpace →
        ∃ fault, loadJson cut registry =
          ⟨.error (.configuration fault), registry, []⟩) ∧
      (∀ more : String, (∃ c ∈ more.toList, Json.isSpace c = false) →
        ∃ fault, loadJson (text ++ more) registry =
          ⟨.error (.configuration fault), registry, []⟩) ∧
      ∀ broken fault, Configuration.ofJson broken = .error fault →
        loadJson broken registry =
          ⟨.error (.configuration fault), registry, []⟩ := by
  obtain ⟨configuration, read⟩ :
      ∃ configuration, Configuration.ofJson text = .ok configuration := by
    cases read : Configuration.ofJson text with
    | error fault =>
        have fails := congrArg Outcome.result (loadJson_unreadable read registry)
        exact absurd fails (readable fault)
    | ok configuration => exact ⟨configuration, rfl⟩
  refine ⟨?_, ?_, fun _ _ unread => loadJson_unreadable unread registry⟩
  · intro cut cuts strict
    obtain ⟨fault, unread⟩ := Configuration.ofJson_of_cut read cuts strict
    exact ⟨fault, loadJson_unreadable unread registry⟩
  · intro more anything
    obtain ⟨fault, unread⟩ := Configuration.ofJson_of_prolonged read anything
    exact ⟨fault, loadJson_unreadable unread registry⟩

/-- A document of one function, whose bounds make no arity. -/
def noArgumentText : String :=
  "\x7b\"functions\": [[\"near\", null, 0]]\x7d "

theorem no_argument_text_cut_or_prolonged :
    (loadJson noArgumentText knownDistance).result =
        .error (.invalidArity .noArgument) ∧
      (∃ fault, loadJson "\x7b\"functions\": [[\"near\", null, 0" knownDistance =
        ⟨.error (.configuration fault), knownDistance, []⟩) ∧
      ∃ fault, loadJson (noArgumentText ++ " ,") knownDistance =
        ⟨.error (.configuration fault), knownDistance, []⟩ := by
  have fails : (loadJson noArgumentText knownDistance).result =
      .error (.invalidArity .noArgument) := by decide +kernel
  have readable : ∀ fault, (loadJson noArgumentText knownDistance).result ≠
      .error (.configuration fault) := by
    rw [fails]
    nofun
  obtain ⟨cut, prolonged, -⟩ :=
    cut_or_prolonged_is_not_loaded knownDistance noArgumentText readable
  refine ⟨fails, cut _ ?_ ?_, prolonged " ," ⟨',', ?_, rfl⟩⟩
  · decide +kernel
  · decide +kernel
  · decide +kernel

end Registry

end SpatialSql
