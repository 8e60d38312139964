import BlockCustody.Json.Record
import BlockCustody.Proofs.Json.Scalars

/-!
Contract: written lists, records and named alternatives stand for their values.

Owns:
- lists of any length and of a known one, if their items' texts stand for the items;
- records written as objects, if each member fills its field;
- values told apart by a name, alone or with content.

Does not own: records written as lists, and unknown members.
-/

namespace BlockCustody.Json

variable {α draft record value : Type}

/-! ## Commas -/

/-- Pieces with commas between them, and before them too unless they are the first. -/
def continued (isFirst : Bool) (pieces : List (List Char)) : List Char :=
  if isFirst then separated pieces else pieces.flatMap fun piece => ',' :: piece

theorem separated_cons (piece : List Char) (pieces : List (List Char)) :
    separated (piece :: pieces) = piece ++ continued false pieces := by
  induction pieces generalizing piece with
  | nil => exact (List.append_nil piece).symm
  | cons second others inductionHypothesis =>
      have isNext : separated (piece :: second :: others) =
          piece ++ ',' :: separated (second :: others) := rfl
      rw [isNext, inductionHypothesis]
      rfl

theorem continued_nil (isFirst : Bool) : continued isFirst [] = [] := by
  cases isFirst <;> rfl

theorem continued_true_cons (piece : List Char) (pieces : List (List Char)) :
    continued true (piece :: pieces) = piece ++ continued false pieces :=
  separated_cons piece pieces

theorem continued_false_cons (piece : List Char) (pieces : List (List Char)) :
    continued false (piece :: pieces) = ',' :: (piece ++ continued false pieces) :=
  rfl

theorem length_le_length_continued (isFirst : Bool) (pieces : List (List Char)) :
    pieces.length ≤ (continued isFirst pieces).length + 1 := by
  have behindOthers : ∀ pieces, pieces.length ≤ (continued false pieces).length := by
    intro pieces
    induction pieces with
    | nil => exact Nat.zero_le _
    | cons piece others inductionHypothesis =>
        simp only [continued_false_cons, List.length_cons, List.length_append]
        omega
  cases isFirst with
  | false => exact Nat.le_succ_of_le (behindOthers pieces)
  | true =>
      cases pieces with
      | nil => exact Nat.zero_le _
      | cons piece others =>
          have fewer := behindOthers others
          simp only [continued_true_cons, List.length_cons, List.length_append]
          omega

/-- Neither a comma nor the end of a list or an object prolongs a number. -/
theorem stopsNumber_continued
    (pieces : List (List Char))
    {rest : List Char}
    (stops : StopsNumber rest) :
    StopsNumber (continued false pieces ++ rest) := by
  cases pieces with
  | nil => exact stops
  | cons piece others => exact stopsNumber_mark (.inl rfl) _

theorem stopsNumber_endOfList (rest : List Char) : StopsNumber (']' :: rest) :=
  stopsNumber_mark (.inr (.inl rfl)) rest

theorem stopsNumber_endOfObject (rest : List Char) : StopsNumber ('}' :: rest) :=
  stopsNumber_mark (.inr (.inr rfl)) rest

/-! ## Lists -/

theorem itemFollows_continued
    {piece : List Char}
    (opens : Opens piece)
    (isFirst : Bool)
    (pieces : List (List Char))
    (rest : List Char) :
    itemFollows isFirst (continued isFirst (piece :: pieces) ++ rest) =
      .ok (true, piece ++ (continued false pieces ++ rest)) := by
  cases piece with
  | nil => exact opens.elim
  | cons first others =>
      obtain ⟨notBlank, notComma, notEnd⟩ := opens
      cases isFirst with
      | false =>
          have comma : isBlank ',' = false := by decide
          rw [continued_false_cons, List.cons_append, List.append_assoc, List.cons_append]
          simp only [itemFollows, skipBlanks_cons comma, skipBlanks_cons notBlank,
            Bool.false_eq_true, if_false]
          split
          · next isNil => cases isNil
          · next isEnd =>
              injection isEnd with isEnd
              exact absurd isEnd notEnd
          · rfl
      | true =>
          rw [continued_true_cons, List.append_assoc, List.cons_append]
          simp only [itemFollows, skipBlanks_cons notBlank, if_true]
          split
          · next isNil => cases isNil
          · next isEnd =>
              injection isEnd with isEnd
              exact absurd isEnd notEnd
          · next isComma =>
              injection isComma with isComma
              exact absurd isComma notComma
          · rfl

section Lists

variable {item : Reader α} {writeItem : α → List Char} {items : List α}

/-- The induction is on the items still to come; only the first has no comma before it. -/
theorem itemsFrom_continued
    (areTexts : ∀ value ∈ items, TextOf item (writeItem value) value)
    {limit : Nat}
    (enough : items.length < limit)
    (found : List α)
    (rest : List Char) :
    itemsFrom item limit found (continued found.isEmpty (items.map writeItem) ++ ']' :: rest) =
      .ok (found.reverse ++ items, rest) := by
  induction items generalizing limit found with
  | nil =>
      cases limit with
      | zero => cases enough
      | succ limit =>
          rw [List.map_nil, continued_nil, List.append_nil]
          rfl
  | cons value others inductionHypothesis =>
      cases limit with
      | zero => cases enough
      | succ limit =>
          have isText := areTexts value List.mem_cons_self
          have stops := stopsNumber_continued (others.map writeItem) (stopsNumber_endOfList rest)
          have othersRead :=
            inductionHypothesis
              (fun other member => areTexts other (List.mem_cons_of_mem _ member))
              (Nat.lt_of_succ_lt_succ enough) (value :: found)
          rw [List.isEmpty_cons] at othersRead
          simp only [itemsFrom, List.map_cons, itemFollows_continued isText.opens,
            isText.readsBack _ stops, othersRead, List.reverse_cons, List.append_assoc,
            List.singleton_append]

theorem exactItems_continued
    (areTexts : ∀ value ∈ items, TextOf item (writeItem value) value)
    (length : Nat)
    (found : List α)
    (rest : List Char) :
    exactItems length item items.length found
        (continued found.isEmpty (items.map writeItem) ++ ']' :: rest) =
      .ok (found.reverse ++ items, rest) := by
  induction items generalizing found with
  | nil =>
      rw [List.map_nil, continued_nil, List.append_nil]
      rfl
  | cons value others inductionHypothesis =>
      have isText := areTexts value List.mem_cons_self
      have stops := stopsNumber_continued (others.map writeItem) (stopsNumber_endOfList rest)
      have othersRead :=
        inductionHypothesis
          (fun other member => areTexts other (List.mem_cons_of_mem _ member)) (value :: found)
      rw [List.isEmpty_cons] at othersRead
      simp only [exactItems, List.length_cons, List.map_cons, FrontReader.bind_apply,
        itemFollows_continued isText.opens, if_true, isText.readsBack _ stops, othersRead,
        List.reverse_cons, List.append_assoc, List.singleton_append]

theorem opens_writeList (writeItem : α → List Char) (items : List α) :
    Opens (writeList writeItem items) :=
  ⟨by decide, by decide, by decide⟩

/-- A written list behind its opening bracket. -/
theorem writeList_append (writeItem : α → List Char) (items : List α) (rest : List Char) :
    writeList writeItem items ++ rest =
      '[' :: (continued true (items.map writeItem) ++ ']' :: rest) := by
  simp [writeList, continued]

theorem list_textOf (areTexts : ∀ value ∈ items, TextOf item (writeItem value) value) :
    TextOf (list item) (writeList writeItem items) items := by
  refine textOf_of_readsBack (opens_writeList writeItem items) fun rest => ?_
  have atLeast := length_le_length_continued true (items.map writeItem)
  have enough : items.length <
      (continued true (items.map writeItem) ++ ']' :: rest).length + 1 := by
    simp only [List.length_map, List.length_append, List.length_cons] at atLeast ⊢
    omega
  rw [writeList_append]
  exact itemsFrom_continued areTexts enough [] rest

theorem listOfLength_textOf
    (areTexts : ∀ value ∈ items, TextOf item (writeItem value) value)
    {length : Nat}
    (isLength : items.length = length) :
    TextOf (listOfLength length item) (writeList writeItem items) items := by
  refine textOf_of_readsBack (opens_writeList writeItem items) fun rest => ?_
  subst isLength
  rw [writeList_append]
  exact exactItems_continued areTexts items.length [] rest

end Lists

/-! ## Records -/

/-- Members, read one after another, take a draft to another one. `seen` are the names of
the fields that were filled before. -/
inductive Fills (fields : List (RecordField draft)) :
    List String → draft → List (String × List Char) → draft → Prop where
  | done {seen : List String} {current : draft} : Fills fields seen current [] current
  | member
      {seen : List String}
      {current next filled : draft}
      {name : String}
      {text : List Char}
      {field : RecordField draft}
      {members : List (String × List Char)}
      (isField : fields.find? (fun field => field.name = name) = some field)
      (isNew : seen.contains name = false)
      (isText : TextOf (field.read current) text next)
      (others : Fills fields (name :: seen) next members filled) :
      Fills fields seen current ((name, text) :: members) filled

theorem writeMember_append (name : String) (text rest : List Char) :
    writeMember (name, text) ++ rest =
      '"' :: ((name.toList.flatMap writeCharacter ++ ['"']) ++ ':' :: (text ++ rest)) := by
  simp [writeMember, writeQuoted]

theorem colon_cons (rest : List Char) : colon (':' :: rest) = .ok ((), rest) :=
  rfl

theorem nextName_continued
    (isFirst : Bool)
    (name : String)
    (text : List Char)
    (pieces : List (List Char))
    (rest : List Char) :
    nextName isFirst (continued isFirst (writeMember (name, text) :: pieces) ++ rest) =
      .ok (some name, ':' :: (text ++ (continued false pieces ++ rest))) := by
  have isName := quotedRest_readsBack name (':' :: (text ++ (continued false pieces ++ rest)))
  have quote : isBlank '"' = false := by decide
  cases isFirst with
  | false =>
      have comma : isBlank ',' = false := by decide
      rw [continued_false_cons, List.cons_append, List.append_assoc, writeMember_append]
      simp only [nextName, skipBlanks_cons comma, skipBlanks_cons quote, Bool.false_eq_true,
        if_false, FrontReader.bind_apply, isName]
      rfl
  | true =>
      rw [continued_true_cons, List.append_assoc, writeMember_append]
      simp only [nextName, skipBlanks_cons quote, if_true, FrontReader.bind_apply, isName]
      rfl

/-- The induction is on the way the members fill the draft. -/
theorem readMembers_of_fills
    {fields : List (RecordField draft)}
    {seen : List String}
    {current filled : draft}
    {members : List (String × List Char)}
    (fills : Fills fields seen current members filled)
    {limit : Nat}
    (enough : members.length < limit)
    (isFirst : Bool)
    (rest : List Char) :
    readMembers fields limit isFirst seen current
        (continued isFirst (members.map writeMember) ++ '}' :: rest) =
      .ok (filled, rest) := by
  induction fills generalizing limit isFirst with
  | done =>
      cases limit with
      | zero => cases enough
      | succ limit =>
          rw [List.map_nil, continued_nil]
          rfl
  | @member seen current next filled name text field members isField isNew isText others
      inductionHypothesis =>
      cases limit with
      | zero => cases enough
      | succ limit =>
          have stops := stopsNumber_continued (members.map writeMember)
            (stopsNumber_endOfObject rest)
          have othersRead := inductionHypothesis (Nat.lt_of_succ_lt_succ enough) false
          simp only [readMembers, List.map_cons, FrontReader.bind_apply, nextName_continued,
            isField, isNew, Bool.false_eq_true, if_false, colon_cons, isText.readsBack _ stops,
            othersRead]

theorem opens_writeObject (members : List (String × List Char)) : Opens (writeObject members) :=
  ⟨by decide, by decide, by decide⟩

/-- A written object behind its opening brace. -/
theorem writeObject_append (members : List (String × List Char)) (rest : List Char) :
    writeObject members ++ rest =
      '{' :: (continued true (members.map writeMember) ++ '}' :: rest) := by
  simp [writeObject, continued]

theorem Shape.textOf_writeObject
    {shape : Shape draft record}
    {members : List (String × List Char)}
    {filled : draft}
    {made : record}
    (fills : Fills shape.fields [] shape.blank members filled)
    (finished : shape.finish filled = .ok made) :
    TextOf shape.read (writeObject members) made := by
  refine textOf_of_readsBack (opens_writeObject members) fun rest => ?_
  have atLeast := length_le_length_continued true (members.map writeMember)
  have enough : members.length <
      (continued true (members.map writeMember) ++ '}' :: rest).length + 1 := by
    simp only [List.length_map, List.length_append, List.length_cons] at atLeast ⊢
    omega
  have brace : isBlank '{' = false := by decide
  have areRead := readMembers_of_fills fills enough true rest
  rw [writeObject_append]
  simp only [Shape.read, skipBlanks_cons brace, FrontReader.bind_apply, areRead, finished]
  rfl

/-! ## Named alternatives -/

section Alternatives

variable {alternatives : List (Alternative value)} {alternative : Alternative value}
variable {name : String} {meaning : value}

theorem oneOf_textOf_name
    (isChosen : chosen alternatives name = .ok alternative)
    (alone : alternative.alone = .ok meaning) :
    TextOf (oneOf alternatives) (writeQuoted name) meaning := by
  refine textOf_of_readsBack (opens_writeQuoted name) fun rest => ?_
  have isName := quotedRest_readsBack name rest
  have quote : isBlank '"' = false := by decide
  rw [writeQuoted, List.cons_append]
  simp only [List.cons_append, oneOf, skipBlanks_cons quote, FrontReader.bind_apply, isName,
    isChosen, alone, FrontReader.judge]

theorem oneOf_textOf_content
    {content : List Char}
    (isChosen : chosen alternatives name = .ok alternative)
    (isContent : TextOf alternative.content content meaning) :
    TextOf (oneOf alternatives) (writeObject [(name, content)]) meaning := by
  refine textOf_of_readsBack (opens_writeObject _) fun rest => ?_
  have quote : isBlank '"' = false := by decide
  have brace : isBlank '{' = false := by decide
  have isName := quotedRest_readsBack name (':' :: (content ++ '}' :: rest))
  have isRead := isContent.readsBack ('}' :: rest) (stopsNumber_endOfObject rest)
  have isClosed : closeObject ('}' :: rest) = .ok ((), rest) := rfl
  have onlyMember : writeObject [(name, content)] ++ rest =
      '{' :: (writeMember (name, content) ++ '}' :: rest) := by
    rw [writeObject_append]
    rfl
  rw [onlyMember, writeMember_append]
  simp only [oneOf, skipBlanks_cons brace, FrontReader.bind_apply, onlyName,
    skipBlanks_cons quote, isName, isChosen, FrontReader.judge, colon_cons, isRead, isClosed]
  rfl

end Alternatives

end BlockCustody.Json
