import BlockCustody.Proofs.Config.Named
import BlockCustody.Proofs.Json.Slots

/-!
Contract: a text of settings says what is not as by default.

Owns:
- that settings are read as the default ones under the values that a text names;
- that a text is refused if it leaves the targets out of order, with the defaults filled in;
- that all settings with targets in order are read back from their own text.

Does not own: what a text may name, and settings in a file.
-/

namespace BlockCustody.Settings

open Json Json.Grammar

/-! ## Values -/

theorem word64_textOf {kind : IntegerKind} (isLeast : kind.least = 0)
    (isGreatest : kind.greatest = 0xFFFFFFFFFFFFFFFF) {text : List Char} {value : UInt64}
    (isWord : IsWord text value) : TextOf (word64 kind) text value := by
  subst isWord
  have fits : value.toNat < 0x10000000000000000 := value.toNat_lt
  have within : kind.least ≤ (value.toNat : Int) ∧ (value.toNat : Int) ≤ kind.greatest := by
    rw [isLeast, isGreatest]
    omega
  refine (integer_textOf within fits).bind_nil ?_
  simp only [Int.toNat_natCast, Nat.toUInt64_eq, UInt64.ofNat_toNat]
  exact FrontReader.readsBack_pure value

/-- How the field is read that is for hours. -/
def hours : Reader UInt32 := do
  return (← integer hoursKind).toNat.toUInt32

/-- How the field is read that is for a level. -/
def level : Reader Int32 := do
  return (← integer levelKind).toInt32

theorem hours_textOf {text : List Char} {value : UInt32} (isHours : IsHours text value) :
    TextOf hours text value := by
  subst isHours
  have small : value.toNat < 0x100000000 := value.toNat_lt
  have within : hoursKind.least ≤ (value.toNat : Int) ∧
      (value.toNat : Int) ≤ hoursKind.greatest := by
    simp only [hoursKind]
    omega
  refine (integer_textOf within (by omega)).bind_nil ?_
  simp only [Int.toNat_natCast, Nat.toUInt32_eq, UInt32.ofNat_toNat]
  exact FrontReader.readsBack_pure value

theorem level_textOf {text : List Char} {value : Int32} (isLevel : IsLevel text value) :
    TextOf level text value := by
  subst isLevel
  have atLeast := value.le_toInt
  have atMost := value.toInt_lt
  have within : levelKind.least ≤ value.toInt ∧ value.toInt ≤ levelKind.greatest := by
    simp only [levelKind]
    omega
  refine (integer_textOf_writeInteger within (by omega)).bind_nil ?_
  simp only [Int.toInt32, Int32.ofInt_toInt]
  exact FrontReader.readsBack_pure value

theorem directory_textOf {text : List Char} {value : Option String}
    (isDirectory : IsDirectory text value) :
    TextOf (Json.optional (string "path string")) text value := by
  cases value with
  | none =>
      subst isDirectory
      exact optional_textOf_none _
  | some directory =>
      obtain ⟨quoted, rfl, isName⟩ := isDirectory
      exact optional_textOf_some (string_textOf_of_spells _ isName) (by decide)

/-! ## Sections -/

/-- A slot for a number of 64 bits. -/
def wordSlot {part : Type} (kind : IntegerKind) (name : String) (content : part → UInt64)
    (put : part → UInt64 → part)
    (content_put : ∀ current value, content (put current value) = value) : Slot part :=
  { name, content, put, content_put
    Content := UInt64
    reader := word64 kind
    ignoresBlanks := (integer_ignoresBlanks kind).bind _ }

def targetsLayout : Layout ReplicaTargets where
  slots :=
    [ wordSlot sizeKind "lax" (·.lax) (fun targets lax => { targets with lax }) fun _ _ => rfl,
      wordSlot sizeKind "normal" (·.normal) (fun targets normal => { targets with normal })
        fun _ _ => rfl,
      wordSlot sizeKind "critical" (·.critical)
        (fun targets critical => { targets with critical }) fun _ _ => rfl ]
  areApart := by
    simp only [List.pairwise_cons, List.forall_mem_cons]
    refine ⟨⟨?_, ?_, nofun⟩, ⟨?_, nofun⟩, nofun, .nil⟩
    all_goals exact ⟨by decide, fun _ _ => rfl, fun _ _ => rfl⟩
  ext := by
    rintro ⟨_, _, _⟩ ⟨_, _, _⟩ same
    simp only [List.forall_mem_cons] at same
    obtain ⟨rfl, rfl, rfl, _⟩ := same
    rfl

theorem NamedTargets.textOf {named : NamedTargets} {text : List Char}
    (isSection : IsSection NamedTargets.Among text named) :
    TextOf targetsShape.read text (named.atop default.replication) := by
  obtain ⟨members, isObject, among⟩ := isSection
  refine targetsLayout.textOf_object rfl rfl isObject among.others ?_
  simp only [targetsLayout, List.forall_mem_cons]
  exact ⟨⟨_, among.lax.imp (word64_textOf rfl rfl), rfl⟩,
    ⟨_, among.normal.imp (word64_textOf rfl rfl), rfl⟩,
    ⟨_, among.critical.imp (word64_textOf rfl rfl), rfl⟩, nofun⟩

def exchangeLayout : Layout ExchangeSettings where
  slots :=
    [ wordSlot amountKind "my_slack_base" (·.mySlackBase)
        (fun settings mySlackBase => { settings with mySlackBase }) fun _ _ => rfl,
      wordSlot amountKind "peer_slack_base" (·.peerSlackBase)
        (fun settings peerSlackBase => { settings with peerSlackBase }) fun _ _ => rfl ]
  areApart := by
    simp only [List.pairwise_cons, List.forall_mem_cons]
    refine ⟨⟨?_, nofun⟩, nofun, .nil⟩
    exact ⟨by decide, fun _ _ => rfl, fun _ _ => rfl⟩
  ext := by
    rintro ⟨_, _⟩ ⟨_, _⟩ same
    simp only [List.forall_mem_cons] at same
    obtain ⟨rfl, rfl, _⟩ := same
    rfl

theorem NamedExchange.textOf {named : NamedExchange} {text : List Char}
    (isSection : IsSection NamedExchange.Among text named) :
    TextOf exchangeShape.read text (named.atop default.exchange) := by
  obtain ⟨members, isObject, among⟩ := isSection
  refine exchangeLayout.textOf_object rfl rfl isObject among.others ?_
  simp only [exchangeLayout, List.forall_mem_cons]
  exact ⟨⟨_, among.mySlackBase.imp (word64_textOf rfl rfl), rfl⟩,
    ⟨_, among.peerSlackBase.imp (word64_textOf rfl rfl), rfl⟩, nofun⟩

def proofLayout : Layout ProofSettings where
  slots :=
    [ wordSlot sizeKind "salt_len" (·.saltLength)
        (fun settings saltLength => { settings with saltLength }) fun _ _ => rfl,
      { name := "max_window_hours"
        Content := UInt32
        reader := hours
        content := (·.maxWindowHours)
        put := fun settings maxWindowHours => { settings with maxWindowHours }
        content_put := fun _ _ => rfl
        ignoresBlanks := (integer_ignoresBlanks hoursKind).bind _ } ]
  areApart := by
    simp only [List.pairwise_cons, List.forall_mem_cons]
    refine ⟨⟨?_, nofun⟩, nofun, .nil⟩
    exact ⟨by decide, fun _ _ => rfl, fun _ _ => rfl⟩
  ext := by
    rintro ⟨_, _⟩ ⟨_, _⟩ same
    simp only [List.forall_mem_cons] at same
    obtain ⟨rfl, rfl, _⟩ := same
    rfl

theorem fields_proofShape : proofShape.fields = proofLayout.slots.map Slot.field := by
  simp only [proofShape, sectionShape, proofLayout, List.map, Slot.field, hours,
    FrontReader.bind_pure_bind]
  rfl

theorem NamedProof.textOf {named : NamedProof} {text : List Char}
    (isSection : IsSection NamedProof.Among text named) :
    TextOf proofShape.read text (named.atop default.proof) := by
  obtain ⟨members, isObject, among⟩ := isSection
  refine proofLayout.textOf_object fields_proofShape rfl isObject among.others ?_
  simp only [proofLayout, List.forall_mem_cons]
  exact ⟨⟨_, among.saltLength.imp (word64_textOf rfl rfl), rfl⟩,
    ⟨_, among.maxWindowHours.imp hours_textOf, rfl⟩, nofun⟩

def packagingLayout : Layout PackagingSettings where
  slots :=
    [ { name := "compression_level"
        Content := Int32
        reader := level
        content := (·.compressionLevel)
        put := fun settings compressionLevel => { settings with compressionLevel }
        content_put := fun _ _ => rfl
        ignoresBlanks := (integer_ignoresBlanks levelKind).bind _ },
      wordSlot sizeKind "salt_len" (·.saltLength)
        (fun settings saltLength => { settings with saltLength }) fun _ _ => rfl ]
  areApart := by
    simp only [List.pairwise_cons, List.forall_mem_cons]
    refine ⟨⟨?_, nofun⟩, nofun, .nil⟩
    exact ⟨by decide, fun _ _ => rfl, fun _ _ => rfl⟩
  ext := by
    rintro ⟨_, _⟩ ⟨_, _⟩ same
    simp only [List.forall_mem_cons] at same
    obtain ⟨rfl, rfl, _⟩ := same
    rfl

theorem fields_packagingShape :
    packagingShape.fields = packagingLayout.slots.map Slot.field := by
  simp only [packagingShape, sectionShape, packagingLayout, List.map, Slot.field, level,
    FrontReader.bind_pure_bind]
  rfl

theorem NamedPackaging.textOf {named : NamedPackaging} {text : List Char}
    (isSection : IsSection NamedPackaging.Among text named) :
    TextOf packagingShape.read text (named.atop default.packaging) := by
  obtain ⟨members, isObject, among⟩ := isSection
  refine packagingLayout.textOf_object fields_packagingShape rfl isObject among.others ?_
  simp only [packagingLayout, List.forall_mem_cons]
  exact ⟨⟨_, among.compressionLevel.imp level_textOf, rfl⟩,
    ⟨_, among.saltLength.imp (word64_textOf rfl rfl), rfl⟩, nofun⟩

def uploadLayout : Layout UploadSettings where
  slots :=
    [ wordSlot amountKind "quiet_period_ms" (·.quietPeriodMs)
        (fun settings quietPeriodMs => { settings with quietPeriodMs }) fun _ _ => rfl ]
  areApart := List.pairwise_singleton _ _
  ext := by
    rintro ⟨_⟩ ⟨_⟩ same
    obtain rfl := same _ List.mem_cons_self
    rfl

theorem NamedUpload.textOf {named : NamedUpload} {text : List Char}
    (isSection : IsSection NamedUpload.Among text named) :
    TextOf uploadShape.read text (named.atop default.upload) := by
  obtain ⟨members, isObject, among⟩ := isSection
  refine uploadLayout.textOf_object rfl rfl isObject among.others ?_
  simp only [uploadLayout, List.forall_mem_cons]
  exact ⟨⟨_, among.quietPeriodMs.imp (word64_textOf rfl rfl), rfl⟩, nofun⟩

/-! ## All sections -/

/-- A slot for a section. -/
def sectionSlot {whole part : Type} (name : String) (shape : Shape part part)
    (content : whole → part) (put : whole → part → whole)
    (content_put : ∀ current value, content (put current value) = value) : Slot whole :=
  { name, content, put, content_put
    Content := part
    reader := shape.read
    ignoresBlanks := shape.read_ignoresBlanks }

def layout : Layout Settings where
  slots :=
    [ sectionSlot "replication" targetsShape (·.replication)
        (fun settings replication => { settings with replication }) fun _ _ => rfl,
      sectionSlot "exchange" exchangeShape (·.exchange)
        (fun settings exchange => { settings with exchange }) fun _ _ => rfl,
      sectionSlot "proof" proofShape (·.proof)
        (fun settings proof => { settings with proof }) fun _ _ => rfl,
      sectionSlot "packaging" packagingShape (·.packaging)
        (fun settings packaging => { settings with packaging }) fun _ _ => rfl,
      sectionSlot "upload" uploadShape (·.upload)
        (fun settings upload => { settings with upload }) fun _ _ => rfl,
      { name := "data_dir"
        Content := Option String
        reader := Json.optional (string "path string")
        content := (·.dataDirectory)
        put := fun settings dataDirectory => { settings with dataDirectory }
        content_put := fun _ _ => rfl
        ignoresBlanks := optional_ignoresBlanks } ]
  areApart := by
    simp only [List.pairwise_cons, List.forall_mem_cons]
    refine ⟨⟨?_, ?_, ?_, ?_, ?_, nofun⟩, ⟨?_, ?_, ?_, ?_, nofun⟩, ⟨?_, ?_, ?_, nofun⟩,
      ⟨?_, ?_, nofun⟩, ⟨?_, nofun⟩, nofun, .nil⟩
    all_goals exact ⟨by decide, fun _ _ => rfl, fun _ _ => rfl⟩
  ext := by
    rintro ⟨_, _, _, _, _, _⟩ ⟨_, _, _, _, _, _⟩ same
    simp only [List.forall_mem_cons] at same
    obtain ⟨rfl, rfl, rfl, rfl, rfl, rfl, _⟩ := same
    rfl

theorem elim_eq_getD_map {α β : Type} (named : Option α) (standard : β) (make : α → β) :
    named.elim standard make = (named.map make).getD standard := by
  cases named <;> rfl

theorem Named.textOf {named : Named} {text : List Char}
    (isSection : IsSection Named.Among text named) :
    TextOf shape.read text (named.atop default) := by
  obtain ⟨members, isObject, among⟩ := isSection
  refine layout.textOf_object rfl rfl isObject among.others ?_
  simp only [layout, List.forall_mem_cons]
  refine ⟨⟨_, among.replication.map NamedTargets.textOf, ?_⟩,
    ⟨_, among.exchange.map NamedExchange.textOf, ?_⟩,
    ⟨_, among.proof.map NamedProof.textOf, ?_⟩,
    ⟨_, among.packaging.map NamedPackaging.textOf, ?_⟩,
    ⟨_, among.upload.map NamedUpload.textOf, ?_⟩,
    ⟨_, among.dataDirectory.imp directory_textOf, rfl⟩, nofun⟩
  all_goals exact elim_eq_getD_map _ _ _

theorem ofText_eq_of_describedBy {named : Named} {text : String}
    (described : named.DescribedBy text) :
    ofText text =
      if (named.atop default).replication.Monotone then .ok (named.atop default)
      else .error .decreasingTargets := by
  obtain ⟨object, isPadded, isSection⟩ := described
  rw [ofText, whole_of_padded shape.read_ignoresBlanks (Named.textOf isSection) isPadded]

/-! ## Written settings -/

theorem atop_everythingNamed (settings other : Settings) :
    settings.everythingNamed.atop other = settings :=
  rfl

theorem isSection_writeObject {part : Type} {Among : part → List (String × List Char) → Prop}
    {named : part} {members : List (String × List Char)} (among : Among named members) :
    IsSection Among (writeObject members) named :=
  ⟨members, object_writeObject members, among⟩

theorem isDirectory_write (directory : Option String) :
    IsDirectory
      (match directory with
        | none => writeNothing
        | some directory => writeQuoted directory) directory := by
  cases directory with
  | none => rfl
  | some directory => exact ⟨_, rfl, spells_flatMap_writeCharacter directory.toList⟩

/-- The members of written settings are what is named of everything, and nothing else. -/
theorem written_isSection (settings : Settings) :
    IsSection Named.Among settings.written settings.everythingNamed :=
  isSection_writeObject
    { replication := names_some (by simp) 0 rfl (isSection_writeObject
        { lax := names_some (by simp) 0 rfl rfl
          normal := names_some (by simp) 1 rfl rfl
          critical := names_some (by simp) 2 rfl rfl
          others := othersAreValues_of_subset (List.Subset.refl _) })
      exchange := names_some (by simp) 1 rfl (isSection_writeObject
        { mySlackBase := names_some (by simp) 0 rfl rfl
          peerSlackBase := names_some (by simp) 1 rfl rfl
          others := othersAreValues_of_subset (List.Subset.refl _) })
      proof := names_some (by simp) 2 rfl (isSection_writeObject
        { saltLength := names_some (by simp) 0 rfl rfl
          maxWindowHours := names_some (by simp) 1 rfl rfl
          others := othersAreValues_of_subset (List.Subset.refl _) })
      packaging := names_some (by simp) 3 rfl (isSection_writeObject
        { compressionLevel := names_some (by simp) 0 rfl rfl
          saltLength := names_some (by simp) 1 rfl rfl
          others := othersAreValues_of_subset (List.Subset.refl _) })
      upload := names_some (by simp) 4 rfl (isSection_writeObject
        { quietPeriodMs := names_some (by simp) 0 rfl rfl
          others := othersAreValues_of_subset (List.Subset.refl _) })
      dataDirectory := names_some (by simp) 5 rfl (isDirectory_write _)
      others := othersAreValues_of_subset (List.Subset.refl _) }

theorem describedBy_toText (settings : Settings) :
    settings.everythingNamed.DescribedBy settings.toText := by
  refine ⟨settings.written, ?_, settings.written_isSection⟩
  have isPadded : Padded settings.written ([] ++ (settings.written ++ [])) :=
    .blanks blanks_nil blanks_nil
  rw [List.nil_append, List.append_nil] at isPadded
  rwa [toText, String.toList_ofList]

/-- Written settings are read as themselves, if they may be read at all. -/
theorem ofText_toText (settings : Settings) :
    ofText settings.toText =
      if settings.replication.Monotone then .ok settings else .error .decreasingTargets := by
  rw [ofText_eq_of_describedBy settings.describedBy_toText, atop_everythingNamed]

/-- Targets are judged with the defaults filled in. -/
theorem monotone_of_ofText {text : String} {settings : Settings}
    (isRead : ofText text = .ok settings) : settings.replication.Monotone := by
  unfold ofText at isRead
  split at isRead
  · cases isRead
  · split at isRead
    · next monotone =>
        cases isRead
        exact monotone
    · cases isRead

/-- A text is read as the default settings under the values that it names, in whatever order and
among whatever else, if its targets with those that it leaves out are in order; if they are
not, it is refused for that. All settings that any text is read as have targets in order and
are read back from their own text, which names everything that they hold, whatever numbers and
directory these are. -/
theorem text_is_read_as_named_values_over_defaults :
    (∀ (named : Named) (text : String), named.DescribedBy text →
      ofText text =
        if (named.atop default).replication.Monotone then .ok (named.atop default)
        else .error .decreasingTargets) ∧
      (∀ (text : String) (settings : Settings), ofText text = .ok settings →
        settings.replication.Monotone ∧ ofText settings.toText = .ok settings) ∧
      ∀ settings : Settings,
        settings.everythingNamed.DescribedBy settings.toText ∧
          ofText settings.toText =
            if settings.replication.Monotone then .ok settings
            else .error .decreasingTargets := by
  refine ⟨fun named text described => ofText_eq_of_describedBy described, ?_,
    fun settings => ⟨describedBy_toText settings, ofText_toText settings⟩⟩
  intro text settings isRead
  have monotone := monotone_of_ofText isRead
  exact ⟨monotone, by rw [ofText_toText, if_pos monotone]⟩

/-- It raises the lax target alone, with a name in escapes, among a number that is for nobody. -/
def crowdedText : String :=
  "\n\x7b \"x\" : 1e999 ,\"replication\":\x7b\"l\\u0061x\":4\x7d\x7d "

theorem describedBy_crowdedText :
    Named.DescribedBy
      { replication := some { lax := some 4, normal := none, critical := none }
        exchange := none
        proof := none
        packaging := none
        upload := none
        dataDirectory := none }
      crowdedText := by
  have blank : Blanks [' '] := by decide
  have isNumber : Value ['1', 'e', '9', '9', '9'] :=
    .positive (@Unsigned.parts ['1'] [] ['e', '9', '9', '9']
      ⟨by decide, fun isZero => absurd isZero (by decide)⟩ .none
      (.some (.inl rfl) (.inl rfl) (by decide)))
  have isLax : SpellsName ['l', '\\', 'u', '0', '0', '6', '1', 'x'] "lax" :=
    .plain (by decide) (.numbered rfl (.plain (by decide) .done))
  have isSection : SpellsName "replication".toList "replication" :=
    spells_flatMap_writeCharacter "replication".toList
  have isUnknown : SpellsName ['x'] "x" := .plain (by decide) .done
  have targets : IsSection NamedTargets.Among "\x7b\"l\\u0061x\":4\x7d".toList
      { lax := some 4, normal := none, critical := none } :=
    ⟨[("lax", ['4'])],
      .braces (.last (.blanks blanks_nil isLax blanks_nil blanks_nil blanks_nil)),
      .here rfl .nobody, names_none (by decide), names_none (by decide),
      othersAreValues_of_subset (by decide)⟩
  have isObject : Object
      [("x", ['1', 'e', '9', '9', '9']), ("replication", "\x7b\"l\\u0061x\":4\x7d".toList)] _ :=
    .braces (.more (.blanks blank isUnknown blank blank blank)
      (.last (.blanks blanks_nil isSection blanks_nil blanks_nil blanks_nil)))
  refine ⟨_, @Padded.blanks ['\n'] _ [' '] (by decide) blank, _, isObject, ?_⟩
  exact
    { replication := .elsewhere (by decide) (.here targets .nobody)
      exchange := names_none (by decide)
      proof := names_none (by decide)
      packaging := names_none (by decide)
      upload := names_none (by decide)
      dataDirectory := names_none (by decide)
      others := by
        intro member isThere isOther
        rcases List.mem_pair.mp isThere with rfl | rfl
        · exact isNumber
        · exact absurd (by decide) isOther }

/-- Targets as far apart as they may be, the lowest level, and a directory that is written in
escapes. -/
def extremeSettings : Settings :=
  { default with
    replication := { lax := 0, normal := 0, critical := 0xFFFFFFFFFFFFFFFF }
    packaging := { compressionLevel := -0x80000000, saltLength := 0xFFFFFFFFFFFFFFFF }
    dataDirectory := some "\x00\"\\é" }

theorem crowded_text_is_refused_and_extreme_settings_are_kept :
    ofText crowdedText = .error .decreasingTargets ∧
      ofText extremeSettings.toText = .ok extremeSettings ∧
      extremeSettings.replication.Monotone := by
  obtain ⟨overlays, keeps, writes⟩ := text_is_read_as_named_values_over_defaults
  have isRead : ofText extremeSettings.toText = .ok extremeSettings :=
    (writes extremeSettings).2.trans (if_pos (by decide))
  have ⟨monotone, isReadAgain⟩ := keeps extremeSettings.toText extremeSettings isRead
  exact ⟨overlays _ crowdedText describedBy_crowdedText, isReadAgain, monotone⟩

end BlockCustody.Settings
