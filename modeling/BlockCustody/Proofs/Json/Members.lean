import BlockCustody.Proofs.Json.Skipping

/-!
Contract: the members of an object are read one after another, wherever blanks stand.

Owns:
- which value an object names, among members that are for nobody;
- that records are read from objects, with unknown members passed over;
- that a written object is one, and what it names.

Does not own: what a record holds after its members were read.
-/

namespace BlockCustody.Json

open Grammar

variable {α β draft record : Type}

/-! ## Members with a name -/

/-- At most one member has the name, and if one has, its text is one of the value. -/
inductive Names (name : String) (IsText : List Char → α → Prop) :
    List (String × List Char) → Option α → Prop where
  | nobody : Names name IsText [] none
  | here
      {text : List Char}
      {value : α}
      {members : List (String × List Char)}
      (isText : IsText text value)
      (nobodyElse : Names name IsText members none) :
      Names name IsText ((name, text) :: members) (some value)
  | elsewhere
      {member : String × List Char}
      {members : List (String × List Char)}
      {named : Option α}
      (isOther : member.1 ≠ name)
      (others : Names name IsText members named) :
      Names name IsText (member :: members) named

/-- Whatever has none of these names is a value. -/
def OthersAreValues (names : List String) (members : List (String × List Char)) : Prop :=
  ∀ member ∈ members, member.1 ∉ names → Value member.2

section Names

variable {name : String} {IsText : List Char → α → Prop} {IsOther : List Char → β → Prop}
variable {member : String × List Char} {members : List (String × List Char)} {named : Option α}

theorem Names.map (names : Names name IsText members named) {make : α → β}
    (makes : ∀ {text value}, IsText text value → IsOther text (make value)) :
    Names name IsOther members (named.map make) := by
  induction names with
  | nobody => exact .nobody
  | here isText _ inductionHypothesis => exact .here (makes isText) inductionHypothesis
  | elsewhere isOther _ inductionHypothesis => exact .elsewhere isOther inductionHypothesis

theorem Names.imp {IsOther : List Char → α → Prop} (names : Names name IsText members named)
    (implies : ∀ {text value}, IsText text value → IsOther text value) :
    Names name IsOther members named := by
  have mapped : Names name IsOther members (named.map fun value => value) := names.map implies
  rwa [Option.map_id'] at mapped

theorem Names.of_ne (names : Names name IsText (member :: members) named)
    (isOther : member.1 ≠ name) : Names name IsText members named := by
  cases names with
  | here => exact absurd rfl isOther
  | elsewhere _ others => exact others

theorem Names.of_eq {text : List Char}
    (names : Names name IsText ((name, text) :: members) named) :
    ∃ value, named = some value ∧ IsText text value ∧ Names name IsText members none := by
  cases names with
  | here isText nobodyElse => exact ⟨_, rfl, isText, nobodyElse⟩
  | elsewhere isOther => exact absurd rfl isOther

theorem Names.tail (names : Names name IsText (member :: members) named) :
    ∃ namedBehind, Names name IsText members namedBehind := by
  cases names with
  | here _ nobodyElse => exact ⟨none, nobodyElse⟩
  | elsewhere _ others => exact ⟨named, others⟩

end Names

/-! ## Reading members -/

/-- What stands between the last value that was read and the end of the object. -/
inductive StillToRead : Bool → List (String × List Char) → List Char → Prop where
  | all
      {members : List (String × List Char)}
      {inside : List Char}
      (isInside : Inside (Member SpellsName) members inside) :
      StillToRead true members inside
  | nothing {blanks : List Char} (areBlanks : Blanks blanks) : StillToRead false [] blanks
  | others
      {next : String × List Char}
      {others : List (String × List Char)}
      {blanks inside : List Char}
      (areBlanks : Blanks blanks)
      (isInside : Inside (Member SpellsName)
        (next :: others) inside) :
      StillToRead false (next :: others) (blanks ++ ',' :: inside)

section StillToRead

variable {isFirst : Bool} {members : List (String × List Char)} {text : List Char}

theorem StillToRead.stopsNumber (still : StillToRead false members text) (rest : List Char) :
    StopsNumber (text ++ '}' :: rest) := by
  cases still with
  | nothing areBlanks => exact areBlanks.stopsNumber (stopsNumber_endOfObject rest)
  | others areBlanks isInside =>
      rw [List.append_assoc]
      exact areBlanks.stopsNumber (stopsNumber_mark (.inl rfl) _)

theorem StillToRead.nextName_nil (still : StillToRead isFirst [] text) (rest : List Char) :
    nextName isFirst (text ++ '}' :: rest) = .ok (none, rest) := by
  have areBlanks : Blanks text := by
    cases still with
    | all isInside => cases isInside with | none areBlanks => exact areBlanks
    | nothing areBlanks => exact areBlanks
  simp only [nextName, areBlanks.skip_mark (.inr (.inr rfl))]

/-- The first member of an object begins with its name, and the others follow it. -/
theorem Grammar.Inside.split_member
    {name : String}
    {value inside : List Char}
    {others : List (String × List Char)}
    (isInside : Inside (Member SpellsName)
      ((name, value) :: others) inside) :
    ∃ before quoted between afterColon behind,
      Blanks before ∧ SpellsName quoted name ∧ Blanks between ∧ Blanks afterColon ∧
      StillToRead false others behind ∧
      inside = before ++
        '"' :: (quoted ++ '"' :: (between ++ ':' :: (afterColon ++ (value ++ behind)))) := by
  cases isInside with
  | last isPiece =>
      obtain ⟨areBefore, isName, areBetween, areAfterColon, areAfter⟩ := isPiece
      exact ⟨_, _, _, _, _, areBefore, isName, areBetween, areAfterColon, .nothing areAfter, rfl⟩
  | more isPiece areOthers =>
      obtain ⟨areBefore, isName, areBetween, areAfterColon, areAfter⟩ := isPiece
      refine ⟨_, _, _, _, _, areBefore, isName, areBetween, areAfterColon,
        .others areAfter areOthers, ?_⟩
      simp only [List.append_assoc, List.cons_append]

/-- The name of the next member is read, up to the blanks before the colon. -/
theorem StillToRead.nextName_cons
    {name : String}
    {value : List Char}
    (still : StillToRead isFirst ((name, value) :: members) text)
    (rest : List Char) :
    ∃ between afterColon behind,
      Blanks between ∧ Blanks afterColon ∧ StillToRead false members behind ∧
      nextName isFirst (text ++ '}' :: rest) =
        .ok (some name,
          between ++ ':' :: (afterColon ++ (value ++ (behind ++ '}' :: rest)))) := by
  have quote : isBlank '"' = false := by decide
  have comma : isBlank ',' = false := by decide
  cases still with
  | all isInside =>
      obtain ⟨before, quoted, between, afterColon, behind, areBefore, isName, areBetween,
        areAfterColon, still, rfl⟩ := isInside.split_member
      refine ⟨between, afterColon, behind, areBetween, areAfterColon, still, ?_⟩
      simp only [nextName, List.append_assoc, List.cons_append, areBefore.skip,
        skipBlanks_cons quote, if_true, FrontReader.bind_apply, quotedRest_of_spells isName]
      rfl
  | others areBlanks isInside =>
      obtain ⟨before, quoted, between, afterColon, behind, areBefore, isName, areBetween,
        areAfterColon, still, rfl⟩ := isInside.split_member
      refine ⟨between, afterColon, behind, areBetween, areAfterColon, still, ?_⟩
      simp only [nextName, List.append_assoc, List.cons_append, areBlanks.skip,
        skipBlanks_cons comma, areBefore.skip, skipBlanks_cons quote, Bool.false_eq_true,
        if_false, FrontReader.bind_apply, quotedRest_of_spells isName]
      rfl

end StillToRead

/-- Members, read one after another, take a draft to another one. Those without a field are
passed over. `seen` are the names of the fields that were filled before. -/
inductive FillsAmong (fields : List (RecordField draft)) :
    List String → draft → List (String × List Char) → draft → Prop where
  | done {seen : List String} {current : draft} : FillsAmong fields seen current [] current
  | member
      {seen : List String}
      {current next filled : draft}
      {name : String}
      {text : List Char}
      {field : RecordField draft}
      {members : List (String × List Char)}
      (isField : fields.find? (fun field => field.name = name) = some field)
      (isNew : seen.contains name = false)
      (ignores : IgnoresBlanks (field.read current))
      (isText : TextOf (field.read current) text next)
      (others : FillsAmong fields (name :: seen) next members filled) :
      FillsAmong fields seen current ((name, text) :: members) filled
  | unknown
      {seen : List String}
      {current filled : draft}
      {name : String}
      {text : List Char}
      {members : List (String × List Char)}
      (isNoField : fields.find? (fun field => field.name = name) = none)
      (isValue : Value text)
      (others : FillsAmong fields seen current members filled) :
      FillsAmong fields seen current ((name, text) :: members) filled

/-- The induction is on the way the members fill the draft. -/
theorem readMembers_of_fillsAmong
    {fields : List (RecordField draft)}
    {seen : List String}
    {current filled : draft}
    {members : List (String × List Char)}
    (fills : FillsAmong fields seen current members filled)
    {isFirst : Bool}
    {text : List Char}
    (still : StillToRead isFirst members text)
    {limit : Nat}
    (enough : members.length < limit)
    (rest : List Char) :
    readMembers fields limit isFirst seen current (text ++ '}' :: rest) = .ok (filled, rest) := by
  induction fills generalizing isFirst text limit with
  | done =>
      cases limit with
      | zero => cases enough
      | succ limit =>
          simp only [readMembers, FrontReader.bind_apply, still.nextName_nil rest]
          rfl
  | member isField isNew ignores isText others inductionHypothesis =>
      cases limit with
      | zero => cases enough
      | succ limit =>
          obtain ⟨between, afterColon, behind, areBetween, areAfterColon, next, isName⟩ :=
            still.nextName_cons rest
          have othersRead := inductionHypothesis next (Nat.lt_of_succ_lt_succ enough)
          simp only [readMembers, FrontReader.bind_apply, isName, isField, isNew,
            Bool.false_eq_true, if_false, colon_ignoresBlanks.append areBetween, colon_cons,
            ignores.append areAfterColon, isText.readsBack _ (next.stopsNumber rest), othersRead]
  | unknown isNoField isValue others inductionHypothesis =>
      cases limit with
      | zero => cases enough
      | succ limit =>
          obtain ⟨between, afterColon, behind, areBetween, areAfterColon, next, isName⟩ :=
            still.nextName_cons rest
          have othersRead := inductionHypothesis next (Nat.lt_of_succ_lt_succ enough)
          simp only [readMembers, FrontReader.bind_apply, isName, isNoField,
            colon_ignoresBlanks.append areBetween, colon_cons,
            skipValue_of_value isValue areAfterColon (next.stopsNumber rest), othersRead]

theorem Grammar.Inside.length_le
    {members : List (String × List Char)}
    {inside : List Char}
    (isInside : Inside (Member SpellsName) members inside) :
    members.length ≤ inside.length := by
  induction isInside with
  | none areBlanks => exact Nat.zero_le _
  | last isPiece =>
      cases isPiece with
      | blanks =>
          simp only [List.length_append, List.length_cons, List.length_nil]
          omega
  | more isPiece areOthers inductionHypothesis =>
      simp only [List.length_append, List.length_cons] at inductionHypothesis ⊢
      omega

theorem Shape.textOf_object
    {shape : Shape draft record}
    {members : List (String × List Char)}
    {text : List Char}
    (isObject : Object members text)
    {filled : draft}
    {made : record}
    (fills : FillsAmong shape.fields [] shape.blank members filled)
    (finished : shape.finish filled = .ok made) :
    TextOf shape.read text made := by
  have brace : isBlank '{' = false := by decide
  cases isObject with
  | @braces inside isInside =>
      refine textOf_of_readsBack ⟨brace, by decide, by decide⟩ fun rest => ?_
      have enough : members.length < (inside ++ '}' :: rest).length + 1 := by
        have atMost := isInside.length_le
        simp only [List.length_append, List.length_cons]
        omega
      have areRead := readMembers_of_fillsAmong fills (.all isInside) enough rest
      simp only [List.cons_append, List.append_assoc, List.nil_append, Shape.read,
        skipBlanks_cons brace, FrontReader.bind_apply, areRead, finished]
      rfl

/-! ## Written objects -/

theorem blanks_nil : Blanks [] :=
  nofun

theorem member_writeMember (name : String) (text : List Char) :
    Member SpellsName (name, text)
      (writeMember (name, text)) := by
  have isName := spells_flatMap_writeCharacter name.toList
  have isMember : Member SpellsName (name, text)
      ([] ++ '"' :: (name.toList.flatMap writeCharacter ++ '"' ::
        ([] ++ ':' :: ([] ++ (text ++ []))))) :=
    .blanks blanks_nil isName blanks_nil blanks_nil blanks_nil
  simpa [writeMember, writeQuoted] using isMember

/-- The induction is on the members; a comma is written between any two. -/
theorem inside_separated (members : List (String × List Char)) :
    Inside (Member SpellsName) members
      (separated (members.map writeMember)) := by
  induction members with
  | nil => exact .none blanks_nil
  | cons first others inductionHypothesis =>
      cases others with
      | nil => exact .last (member_writeMember first.1 first.2)
      | cons next others =>
          exact .more (member_writeMember first.1 first.2) inductionHypothesis

section Written

variable {name : String} {text : List Char} {IsText : List Char → α → Prop}
variable {members : List (String × List Char)}

theorem names_none (isNobody : name ∉ members.map Prod.fst) :
    Names name IsText members none := by
  induction members with
  | nil => exact .nobody
  | cons member others inductionHypothesis =>
      rw [List.map_cons, List.mem_cons, not_or] at isNobody
      exact .elsewhere (Ne.symm isNobody.1) (inductionHypothesis isNobody.2)

/-- A member among others with names of their own is the one that names the value. -/
theorem names_some (areDistinct : (members.map Prod.fst).Nodup) (index : Nat)
    (isThere : members[index]? = some (name, text)) {value : α} (isText : IsText text value) :
    Names name IsText members (some value) := by
  induction members generalizing index with
  | nil => cases isThere
  | cons member others inductionHypothesis =>
      obtain ⟨isNobody, stillDistinct⟩ := List.nodup_cons.mp areDistinct
      cases index with
      | zero =>
          obtain rfl := Option.some.inj isThere
          exact .here isText (names_none isNobody)
      | succ index =>
          have isBehind : (name, text) ∈ others := List.mem_of_getElem? isThere
          have isOther : member.1 ≠ name := fun sameName =>
            isNobody (sameName ▸ List.mem_map_of_mem isBehind)
          exact .elsewhere isOther (inductionHypothesis stillDistinct index isThere)

theorem othersAreValues_of_subset {names : List String}
    (areKnown : members.map Prod.fst ⊆ names) : OthersAreValues names members :=
  fun _ isThere isUnknown => absurd (areKnown (List.mem_map_of_mem isThere)) isUnknown

end Written

theorem object_writeObject (members : List (String × List Char)) :
    Object members (writeObject members) :=
  .braces (inside_separated members)

end BlockCustody.Json
