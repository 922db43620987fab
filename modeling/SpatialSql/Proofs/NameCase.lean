import Mathlib.Data.List.Forall2
import SpatialSql.Proofs.CorrectPrefix
import SpatialSql.Proofs.ExprNodes
import SpatialSql.Proofs.Lockstep
import SpatialSql.Query.Sql

/-!
# The case of names

A registered name may be written in either case wherever it stands in a query,
and reading does not notice: `Recased` relates tokens that differ in no more
than that, and lists of such tokens are in step. An error may show the name, as
it was written, but it blames the same place, also if that is the end of the
input, for names that are alike take up equally many bytes.

Nothing else is read so loosely. `SameWord` holds of two tokens that say the
same, and what is read as one call was said in the same words.
-/

namespace SpatialSql

open SpatialSql.Action TokenSource

/-! ## Names that are alike -/

namespace Name

theorem SameLetter.utf8Size {a b : Char} (h : SameLetter a b) :
    a.utf8Size = b.utf8Size := by
  have one : ∀ c : Char, c.toNat < 128 → c.utf8Size = 1 := fun c small =>
    Char.utf8Size_eq_one_iff.mpr
      (UInt32.le_iff_toNat_le.mpr (Nat.le_of_lt_succ small))
  rcases h with rfl | ⟨capital, lowered⟩ | ⟨capital, lowered⟩
  · rfl
  · have := isUpper_iff.mp capital
    rw [one a (by omega), one b (by omega)]
  · have := isUpper_iff.mp capital
    rw [one a (by omega), one b (by omega)]

theorem utf8ByteSize_of_sameLetters {cs ds : List Char}
    (h : List.Forall₂ SameLetter cs ds) :
    (String.ofList cs).utf8ByteSize = (String.ofList ds).utf8ByteSize := by
  induction h with
  | nil => rfl
  | cons same _ ih =>
      rw [String.ofList_cons, String.ofList_cons, String.utf8ByteSize_append,
        String.utf8ByteSize_append, String.utf8ByteSize_singleton,
        String.utf8ByteSize_singleton, same.utf8Size, ih]

theorem Alike.utf8ByteSize {a b : String} (h : Alike a b) :
    a.utf8ByteSize = b.utf8ByteSize := by
  have letters : List.Forall₂ SameLetter a.toList b.toList :=
    List.forall₂_iff_zip.mpr ⟨h.1, fun mem => h.2 _ mem⟩
  have sizes := utf8ByteSize_of_sameLetters letters
  rwa [String.ofList_toList, String.ofList_toList] at sizes

end Name

/-- Which kind of token was wanted, and at which byte offset, if that is what
the error complains about. -/
def Error.place? : Error → Option (Token.Kind × Nat)
  | .unexpectedToken expected found => some (expected, found.position)
  | _ => none

namespace Query

variable {registry : Registry}

/-! ## Tokens in another case -/

/-- The tokens are one, except that a registered name may be in another case. -/
structure Recased (registry : Registry) (t t' : Token) : Prop where
  kind : t.kind = t'.kind
  position : t.position = t'.position
  text : t.text = t'.text ∨
    (t.kind = .identifier ∧ registry.contains t.text = true ∧
      Name.Alike t.text t'.text)

theorem Recased.readAlike {t t' : Token} (h : Recased registry t t') :
    ReadAlike registry registry t t' where
  kind := h.kind
  function _ := by
    rcases h.text with same | ⟨-, -, alike⟩
    · rw [same]
    · exact Registry.get?_congr (Name.fold_eq_fold_iff.mpr alike)
  text unknown := by
    rcases h.text with same | ⟨isName, known, -⟩
    · exact same
    · rw [← Registry.not_contains_iff, known] at unknown
      cases unknown isName

theorem Recased.stop {t t' : Token} (h : Recased registry t t') :
    t.stop = t'.stop := by
  have size : t.text.utf8ByteSize = t'.text.utf8ByteSize := by
    rcases h.text with same | ⟨-, -, alike⟩
    · rw [same]
    · exact alike.utf8ByteSize
  rw [Token.stop, Token.stop, h.position, size]

theorem map_eq_of_forall₂ {α β : Type} {R : α → α → Prop} {f : α → β}
    (hf : ∀ a b, R a b → f a = f b) {as bs : List α}
    (h : List.Forall₂ R as bs) : as.map f = bs.map f := by
  rw [← List.forall₂_eq_eq_eq, List.forall₂_map_left_iff,
    List.forall₂_map_right_iff]
  exact h.imp hf

/-- The cursors stand at the same place of lists that differ in the case of
names. -/
structure RecasedCursor (registry : Registry) (s s' : Token.Cursor) :
    Prop where
  whole : List.Forall₂ (Recased registry) s.toList s'.toList
  left : List.Forall₂ (Recased registry) s.remaining s'.remaining

theorem RecasedCursor.stop {s s' : Token.Cursor}
    (h : RecasedCursor registry s s') : s.stop = s'.stop := by
  have stops : s.toList.map Token.stop = s'.toList.map Token.stop :=
    map_eq_of_forall₂ (fun _ _ recased => recased.stop) h.whole
  rw [Token.Cursor.stop, Token.Cursor.stop, ← List.getLast?_map, stops,
    List.getLast?_map]

theorem RecasedCursor.advance {s s' : Token.Cursor}
    (h : RecasedCursor registry s s') :
    RecasedCursor registry s.advance s'.advance where
  whole := by
    rw [Token.Cursor.toList_advance, Token.Cursor.toList_advance]
    exact h.whole
  left := by
    rw [Token.Cursor.remaining_advance, Token.Cursor.remaining_advance,
      ← List.drop_one, ← List.drop_one]
    exact List.forall₂_drop 1 h.left

theorem RecasedCursor.peek {s s' : Token.Cursor}
    (h : RecasedCursor registry s s') :
    (peek s = none ∧ peek s' = none) ∨
      ∃ t t', peek s = some t ∧ peek s' = some t' ∧ Recased registry t t' := by
  have left : List.Forall₂ (Recased registry) (remaining s) (remaining s') :=
    h.left
  unfold TokenSource.peek
  generalize remaining s = ts at left
  generalize remaining s' = ts' at left
  cases left with
  | nil => exact Or.inl ⟨rfl, rfl⟩
  | cons head _ => exact Or.inr ⟨_, _, rfl, rfl, head⟩

theorem RecasedCursor.position {s s' : Token.Cursor}
    (h : RecasedCursor registry s s') :
    (found s).position = (found s').position := by
  rcases h.peek with ⟨ended, ended'⟩ | ⟨t, t', next, next', recased⟩
  · rw [found, found, ended, ended']
    exact h.stop
  · rw [found_of_peek next, found_of_peek next']
    exact recased.position

/-- The errors are of one kind, and want the same kind of token at the same
place. -/
def SamePlace (e e' : Error) : Prop :=
  e.kind = e'.kind ∧ e.place? = e'.place?

theorem inStepOver_recased :
    InStepOver registry registry (RecasedCursor registry) SamePlace where
  kinds states :=
    map_eq_of_forall₂ (fun _ _ recased => recased.kind) states.left
  advances states := states.advance
  misses kind states := by
    refine ⟨rfl, ?_⟩
    rw [Error.place?, Error.place?, states.position]
  alike states := by
    intro t t' next next'
    rcases states.peek with ⟨ended, -⟩ | ⟨u, u', hu, hu', recased⟩
    · rw [ended] at next
      cases next
    · rw [hu] at next
      rw [hu'] at next'
      cases next
      cases next'
      exact recased.readAlike
  same _ := ⟨rfl, rfl⟩

theorem lockstep_recased {ts ts' : List Token}
    (h : List.Forall₂ (Recased registry) ts ts') :
    Abreast (RecasedCursor registry) SamePlace
      (parseCall registry (Token.Cursor.ofList ts))
      (parseCall registry (Token.Cursor.ofList ts')) :=
  inStepOver_recased.lockstep_query _ _ ⟨h, h⟩

/-! ## Tokens that say the same -/

/-- The tokens are of one kind. If they are registered names they stand for the
same function, and otherwise a name or a literal is the same to the letter. -/
structure SameWord (registry : Registry) (t t' : Token) : Prop where
  kind : t.kind = t'.kind
  function : t.kind = .identifier →
    registry.get? t.text = registry.get? t'.text
  text : t.kind = .other ∨
    (t.kind = .identifier ∧ registry.get? t.text = none) → t.text = t'.text

theorem sameWord_mark (registry : Registry) {t t' : Token}
    {kind : Token.Kind} (h : t.kind = kind) (h' : t'.kind = kind)
    (noName : kind ≠ .identifier) (noOther : kind ≠ .other) :
    SameWord registry t t' where
  kind := h.trans h'.symm
  function isName := absurd (h.symm.trans isName) noName
  text said := by
    rcases said with isOther | ⟨isName, -⟩
    · exact absurd (h.symm.trans isOther) noOther
    · exact absurd (h.symm.trans isName) noName

theorem sameWords_path {t : Token} {ts' : List Token}
    (kind : t.kind = .identifier) (free : registry.get? t.text = none)
    (h : Derives registry ts' (.path t.text)) :
    List.Forall₂ (SameWord registry) [t] ts' := by
  rcases derives_cases h with ⟨t', rfl, kind', free', same⟩ |
    ⟨t', rfl, kind', same⟩ | ⟨call, same⟩
  · have text := Expr.path.inj same
    have known : registry.get? t.text = registry.get? t'.text := by
      rw [free, free']
    exact .cons ⟨kind.trans kind'.symm, fun _ => known, fun _ => text⟩ .nil
  · exact absurd same.symm (ofOther_ne_path _ _)
  · cases same

theorem sameWords_other {t : Token} {ts' : List Token} {e : Expr}
    (kind : t.kind = .other) (h : Derives registry [t] e)
    (h' : Derives registry ts' e) :
    List.Forall₂ (SameWord registry) [t] ts' := by
  obtain rfl := (derives_other_iff registry kind).mp h
  rcases derives_cases h' with ⟨t', rfl, kind', free', same⟩ |
    ⟨t', rfl, kind', same⟩ | ⟨call, same⟩
  · exact absurd same (ofOther_ne_path _ _)
  · have text := ofOther_injective same
    exact .cons ⟨kind.trans kind'.symm, fun _ => congrArg _ text,
      fun _ => text⟩ .nil
  · exact absurd same (ofOther_ne_ofCall _ _)

theorem sameWords_separated {E : Type} {item : List Token → E → Prop}
    {ts ts' : List Token} {es : List E}
    (h : Separated (fun ts e => ∀ ts', item ts' e →
      List.Forall₂ (SameWord registry) ts ts') ts es)
    (h' : Separated item ts' es) : List.Forall₂ (SameWord registry) ts ts' := by
  induction h generalizing ts' with
  | one head =>
      cases h' with
      | one head' => exact head _ head'
      | more _ _ others => exact absurd rfl others.ne_nil
  | more head kind others ih =>
      cases h' with
      | one _ => exact absurd rfl others.ne_nil
      | more head' kind' others' =>
          have comma :=
            sameWord_mark registry kind kind' (by decide) (by decide)
          exact List.rel_append (head _ head') (.cons comma (ih others'))

theorem sameWords_of_derives {ts : List Token} {e : Expr}
    (h : Derives registry ts e) :
    ∀ ts', Derives registry ts' e → List.Forall₂ (SameWord registry) ts ts' := by
  induction h using Derives.induct with
  | path t kind free => exact fun ts' => sameWords_path kind free
  | text t cs kind quoted =>
      exact fun ts' => sameWords_other kind (.text kind quoted)
  | parameter t cs kind colon =>
      exact fun ts' => sameWords_other kind (.parameter kind colon)
  | number t kind unquoted noColon =>
      exact fun ts' => sameWords_other kind (.number kind unquoted noColon)
  | call name opening closing ts definition es isName registered isOpening
      arguments isClosing admits ih =>
      intro ts' h'
      cases h' with
      | @call name' opening' closing' ts' _ _ isName' registered' isOpening'
          arguments' isClosing' =>
          have named : SameWord registry name name' := {
            kind := isName.trans isName'.symm
            function := fun _ => registered.trans registered'.symm
            text := fun said => by
              rw [isName, registered] at said
              simp at said }
          have opened :=
            sameWord_mark registry isOpening isOpening' (by decide) (by decide)
          have closed :=
            sameWord_mark registry isClosing isClosing' (by decide) (by decide)
          have same : List.Forall₂ (SameWord registry) ts ts' :=
            sameWords_separated (ih.imp fun _ _ h => h.choose_spec) arguments'
          exact .cons named
            (.cons opened (List.rel_append same (.cons closed .nil)))

/-! ## Reading names in either case -/

/-- How the reader of queries ends on the tokens. -/
def reading (registry : Registry) (ts : List Token) :
    Outcome Token.Cursor (Call Expr) :=
  parseCall registry (Token.Cursor.ofList ts)

/-- Function names are read in either case, and nothing else is. Tokens that
differ in the case of registered names are read to the same call, or are refused
for the same reason at the same place, and equally many of them are read.
Tokens that are read to the same call say the same, word for word. -/
theorem case_is_ignored_in_names_only (registry : Registry) :
    (∀ ts ts', List.Forall₂ (Recased registry) ts ts' →
      (∀ call, (reading registry ts).result = .ok call ↔
        (reading registry ts').result = .ok call) ∧
      (∀ platform parameters,
        (reading registry ts).result.toOption.map
            (fun call => call.compile (compiler platform) parameters) =
          (reading registry ts').result.toOption.map
            (fun call => call.compile (compiler platform) parameters)) ∧
      (∀ e e', (reading registry ts).result = .error e →
        (reading registry ts').result = .error e' →
          e.kind = e'.kind ∧ e.place? = e'.place?) ∧
      (reading registry ts).events = (reading registry ts').events ∧
      (unread registry ts).length = (unread registry ts').length) ∧
    ∀ ts ts' call, (reading registry ts).result = .ok call →
      (reading registry ts').result = .ok call →
        ∃ c c', ts = c ++ unread registry ts ∧
          ts' = c' ++ unread registry ts' ∧
          List.Forall₂ (SameWord registry) c c' := by
  refine ⟨fun ts ts' recased => ?_, fun ts ts' call read read' => ?_⟩
  · have ends := lockstep_recased recased
    unfold unread reading
    generalize parseCall registry (Token.Cursor.ofList ts) = out at ends
    generalize parseCall registry (Token.Cursor.ofList ts') = out' at ends
    cases ends with
    | yields states =>
        refine ⟨fun _ => Iff.rfl, fun _ _ => rfl, fun _ _ refused => ?_, rfl,
          states.left.length_eq⟩
        cases refused
    | fails errors states =>
        refine ⟨fun _ => ⟨fun read => ?_, fun read => ?_⟩, fun _ _ => rfl,
          fun e e' refused refused' => ?_, rfl, states.left.length_eq⟩
        · cases read
        · cases read
        · cases refused
          cases refused'
          exact errors
  · obtain ⟨c, derives, split⟩ :=
      (reads_query registry _ call _).mp ⟨_, ⟨read, rfl⟩, rfl⟩
    obtain ⟨c', derives', split'⟩ :=
      (reads_query registry _ call _).mp ⟨_, ⟨read', rfl⟩, rfl⟩
    exact ⟨c, c', split, split', sameWords_of_derives derives c' derives'⟩

/-- The tokens of `ST_DISTANCE(a, :b)`. -/
def shoutedTokens : List Token :=
  ⟨.identifier, "ST_DISTANCE", 0⟩ :: Call.distanceTokens.tail

theorem recased_refl (t : Token) : Recased registry t t :=
  ⟨rfl, rfl, Or.inl rfl⟩

theorem shouted_distance_is_read :
    List.Forall₂ (Recased distanceOnly) Call.distanceTokens shoutedTokens ∧
      (reading distanceOnly Call.distanceTokens).result = .ok distanceOfPath ∧
      (reading distanceOnly shoutedTokens).result = .ok distanceOfPath := by
  have name : Recased distanceOnly ⟨.identifier, "st_distance", 0⟩
      ⟨.identifier, "ST_DISTANCE", 0⟩ :=
    ⟨rfl, rfl, Or.inr ⟨rfl, by decide +kernel, by decide +kernel⟩⟩
  have recased : List.Forall₂ (Recased distanceOnly) Call.distanceTokens
      shoutedTokens :=
    .cons name (List.forall₂_same.mpr fun t _ => recased_refl t)
  have read : (reading distanceOnly Call.distanceTokens).result =
      .ok distanceOfPath := (reads_distance []).1
  obtain ⟨same, -⟩ :=
    (case_is_ignored_in_names_only distanceOnly).1 _ _ recased
  exact ⟨recased, read, (same _).mp read⟩

end Query

end SpatialSql
