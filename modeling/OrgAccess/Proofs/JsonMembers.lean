import Mathlib.Data.List.DropRight
import OrgAccess.Proofs.JsonRecords

/-!
# The members of an object

The object that a record was read from has members of its own, whatever the record makes of them.
`Lists` tells them by the notation alone: each key with the text at its value. What was read into a
field can then be told from the member of its key (`Means`): there is none, it is null, or it has a
value.
-/

namespace OrgAccess.Json

variable {α β : Type}

/-! ## Values that were read can be skipped -/

section Text

variable {input rest : Input}

theorem isSome_of_readHex? {digits : List Char} {soFar value : Nat}
    (read : Text.readHex? digits soFar = some value) :
    ∀ digit ∈ digits, (Text.hexValue? digit).isSome = true := by
  induction digits generalizing soFar with
  | nil => simp
  | cons digit digits ih =>
      rw [Text.readHex?] at read
      split at read
      · rename_i known
        intro other mem
        rcases List.mem_cons.mp mem with rfl | mem
        · simp [known]
        · exact ih read other mem
      · cases read

theorem skipText_hexStep {unit : Nat} (read : hexStep input = (.ok unit, rest)) :
    skipText (some '\\' :: some 'u' :: input) = skipText rest := by
  unfold hexStep at read
  split at read
  · rename_i found
    cases read
    unfold hex? at found
    split at found
    · split at found
      · rename_i digits
        cases found
        rw [skipText, if_pos]
        simpa using isSome_of_readHex? digits
      · cases found
    · cases found
  · split at read <;> cases read

theorem skipText_unicodeStep {character : Char}
    (read : unicodeStep input = (.ok character, rest)) :
    skipText (some '\\' :: some 'u' :: input) = skipText rest := by
  unfold unicodeStep at read
  split at read
  · cases read
  rename_i unit middle first
  split at read
  · cases read
  split at read
  · split at read
    · cases read
    · cases read
    · split at read
      · cases read
      rename_i second
      split at read
      · obtain ⟨_, rfl⟩ := Prod.mk.inj read
        exact (skipText_hexStep first).trans (skipText_hexStep second)
      · cases read
    · cases read
    · cases read
  · cases read
    exact skipText_hexStep first

theorem skipText_escapeStep {character : Char} (read : escapeStep input = (.ok character, rest)) :
    skipText (some '\\' :: input) = skipText rest := by
  unfold escapeStep at read
  split at read
  · cases read
  · exact skipText_unicodeStep read
  · rename_i letter after notUnicode
    split at read
    · rename_i short
      cases read
      have other : some letter ≠ some 'u' := by
        intro same
        cases same
        exact notUnicode rfl
      simp [skipText, short, other]
    · cases read
  · cases read

/-- A string that was read can be skipped. -/
theorem skipText_of_textStep {letters : List Char} {isWhole : Bool} {text : String}
    (read : textStep letters isWhole input = (.ok text, rest)) : skipText input = (.ok (), rest) := by
  fun_induction textStep letters isWhole input with
  | case1 => cases read
  | case2 letters isWhole rest ih =>
      rw [← ih read]
      simp [skipText]
  | case3 letters isWhole rest =>
      split at read
      · cases read
        simp [skipText]
      · cases read
  | case4 letters isWhole rest escaped after found notQuote ih =>
      rw [skipText_escapeStep found]
      exact ih read
  | case5 => cases read
  | case6 => cases read
  | case7 letters isWhole letter rest notQuote notEscape notControl ih =>
      rw [← ih read]
      simp [skipText, notQuote, notEscape, notControl]

end Text

section Value

variable {reader : Reader α} {input rest : Input}

/-- What the reader takes off a text is a string, a number or a word. -/
def TakesScalar (reader : Reader α) : Prop :=
  ∀ input value rest, reader.Reads input value rest → skipHead.Reads input none rest

theorem TakesScalar.skips {value : α} (takes : TakesScalar reader)
    (reads : reader.Reads input value rest) : skipValue.Reads input () rest := by
  rw [skipValue, reads_get_bind_iff, skipValues]
  refine Reader.Reads.bind (takes input value rest reads) ?_
  exact (Reader.reads_pure [] rest).bind (Reader.reads_pure () rest)

theorem takesScalar_ofText (expected : String) (convert : String → Except String α) :
    TakesScalar (Decoder.ofText expected convert).read := by
  intro input value rest reads
  rw [Decoder.ofText, reads_peekToken_bind_iff] at reads
  split at reads
  · rename_i opens
    obtain ⟨text, middle, read, converted⟩ :=
      Reader.reads_bind_iff.mp (reads_skip_bind_iff.mp reads)
    have same : middle = rest := by
      split at converted
      · exact (Reader.reads_pure_iff.mp converted).2
      · exact absurd converted (Reader.not_reads_mismatched _)
    have skipped := skipText_of_textStep (Reader.reads_ofStep_iff.mp read)
    rw [skipHead, reads_peekToken_bind_iff, opens]
    apply reads_skip_bind_iff.mpr
    exact (Reader.reads_ofStep (same ▸ skipped)).bind (Reader.reads_pure _ _)
  · exact absurd reads (not_reads_refuse _)

theorem fromToken_fromToken (input : Input) : fromToken (fromToken input) = fromToken input :=
  List.dropWhile_idempotent isSpace input

theorem reads_skipHead_fromToken_iff {opened : Option Bracket} :
    skipHead.Reads (fromToken input) opened rest ↔ skipHead.Reads input opened rest := by
  rw [skipHead, reads_peekToken_bind_iff, reads_peekToken_bind_iff, fromToken_fromToken]

theorem reads_unit_iff : Decoder.unit.Reads input () rest ↔
    (fromToken input).head? = some (some 'n') ∧
      (word "ull").Reads ((fromToken input).drop 1) () rest := by
  rw [Decoder.unit, reads_peekToken_bind_iff]
  split
  · rename_i null
    rw [reads_skip_bind_iff]
    exact (and_iff_right null).symm
  · rename_i other
    exact iff_of_false (not_reads_refuse _) fun null => other null.1

theorem takesScalar_unit : TakesScalar Decoder.unit := by
  intro input _ rest reads
  obtain ⟨null, ends⟩ := reads_unit_iff.mp reads
  rw [skipHead, reads_peekToken_bind_iff, null]
  exact reads_skip_bind_iff.mpr (ends.bind (Reader.reads_pure _ _))

/-- A value or null is read as null or by the decoder of the value. -/
theorem reads_optional {decoder : Decoder α} {value : Option α}
    (reads : decoder.optional.read.Reads input value rest) :
    value = none ∧ Decoder.unit.Reads (fromToken input) () rest ∨
      ∃ content, value = some content ∧ decoder.read.Reads (fromToken input) content rest := by
  rw [Decoder.optional, reads_peekToken_bind_iff] at reads
  split at reads
  · rename_i null
    obtain ⟨_, middle, ends, same⟩ := Reader.reads_bind_iff.mp (reads_skip_bind_iff.mp reads)
    obtain ⟨rfl, rfl⟩ := Reader.reads_pure_iff.mp same
    refine Or.inl ⟨rfl, reads_unit_iff.mpr ?_⟩
    rw [fromToken_fromToken]
    exact ⟨null, ends⟩
  · obtain ⟨content, middle, read, same⟩ := Reader.reads_bind_iff.mp reads
    obtain ⟨rfl, rfl⟩ := Reader.reads_pure_iff.mp same
    exact Or.inr ⟨content, rfl, read⟩

theorem takesScalar_optional {decoder : Decoder α} (takes : TakesScalar decoder.read) :
    TakesScalar decoder.optional.read := by
  intro input value rest reads
  apply reads_skipHead_fromToken_iff.mp
  rcases reads_optional reads with ⟨_, null⟩ | ⟨content, _, read⟩
  · exact takesScalar_unit _ _ _ null
  · exact takes _ content _ read

theorem reads_explicit {decoder : Decoder α} {value : Option (Option α)}
    (reads : decoder.explicit.read.Reads input value rest) :
    ∃ content, value = some content ∧ decoder.optional.read.Reads input content rest := by
  obtain ⟨content, middle, read, same⟩ := Reader.reads_bind_iff.mp reads
  obtain ⟨rfl, rfl⟩ := Reader.reads_pure_iff.mp same
  exact ⟨content, rfl, read⟩

theorem takesScalar_explicit {decoder : Decoder α} (takes : TakesScalar decoder.read) :
    TakesScalar decoder.explicit.read := by
  intro input value rest reads
  obtain ⟨content, _, read⟩ := reads_explicit reads
  exact takesScalar_optional takes _ content _ read

end Value

/-! ## Members -/

/-- The members of an object up to its closing bracket: each key with the text from its value on. -/
inductive Lists : (isFirst : Bool) → Input → List (String × Input) → Prop
  | done {isFirst : Bool} {input rest : Input}
      (ends : (hasMember isFirst).Reads input false rest) : Lists isFirst input []
  | more {isFirst : Bool} {input opened named before after : Input} {key : String}
      {members : List (String × Input)}
      (opens : (hasMember isFirst).Reads input true opened)
      (names : textBody.Reads opened key named) (separates : colon.Reads named () before)
      (skips : skipValue.Reads before () after) (later : Lists false after members) :
      Lists isFirst input ((key, fromToken before) :: members)

/-- What the member of a key means, if there is one: null, or a value. -/
inductive Means (decoder : Decoder β) : Option Input → Option (Option β) → Prop
  | absent : Means decoder none none
  | null {place rest : Input} (reads : Decoder.unit.Reads place () rest) :
      Means decoder (some place) (some none)
  | value {place rest : Input} {value : β} (reads : decoder.read.Reads place value rest) :
      Means decoder (some place) (some (some value))

/-- How a part of a record is told by the member of a key, or by the absence of one. -/
def Told (members : List (String × Input)) (key : String) (decoder : Decoder β) (part : β) : Prop :=
  (members.lookup key = none ∧ decoder.absent = some part) ∨
    ∃ before rest, members.lookup key = some (fromToken before) ∧
      decoder.read.Reads before part rest

theorem means_of_optional {decoder : Decoder β} {input rest : Input} {value : Option β}
    (reads : decoder.optional.read.Reads input value rest) :
    Means decoder (some (fromToken input)) (some value) := by
  rcases reads_optional reads with ⟨rfl, null⟩ | ⟨content, rfl, read⟩
  · exact .null null
  · exact .value read

section Told

variable {members : List (String × Input)} {key : String} {decoder : Decoder β}

theorem Told.exists_means {part : Option β} (told : Told members key decoder.optional part) :
    ∃ said, Means decoder (members.lookup key) said ∧ part = said.join := by
  rcases told with ⟨missing, absent⟩ | ⟨before, rest, found, read⟩
  · cases absent
    exact ⟨none, missing ▸ .absent, rfl⟩
  · exact ⟨some part, found ▸ means_of_optional read, rfl⟩

theorem Told.means {part : Option (Option β)} (told : Told members key decoder.explicit part) :
    Means decoder (members.lookup key) part := by
  rcases told with ⟨missing, absent⟩ | ⟨before, rest, found, read⟩
  · cases absent
    exact missing ▸ .absent
  · obtain ⟨content, rfl, inner⟩ := reads_explicit read
    exact found ▸ means_of_optional inner

end Told

namespace Field

/-- The field fills in what `get` gives, with what its decoder read. -/
structure Fills (field : Field α) (decoder : Decoder β) (get : α → β) : Prop where
  reads : ∀ {value next input rest}, (field.read value).Reads input next rest →
    decoder.read.Reads input (get next) rest
  absent : ∀ {fill value}, fill ∈ field.absent → decoder.absent = some (get (fill value))

/-- The field leaves what `get` gives as it is. -/
structure Keeps (field : Field α) (get : α → β) : Prop where
  reads : ∀ {value next input rest}, (field.read value).Reads input next rest → get next = get value
  absent : ∀ {fill value}, fill ∈ field.absent → get (fill value) = get value

variable {γ : Type} {key : String} {decoder : Decoder β} {set : β → α → α}

@[simp]
theorem key_of : (Field.of key decoder set).key = key := rfl

@[simp]
theorem key_mayCutOff (field : Field α) : field.mayCutOff.key = field.key := rfl

theorem takesScalar_of (takes : TakesScalar decoder.read) (value : α) :
    TakesScalar ((Field.of key decoder set).read value) := by
  intro input next rest reads
  obtain ⟨_, read, _⟩ := reads_field reads
  exact takes _ _ _ read

theorem fills_of {get : α → β} (gives : ∀ content value, get (set content value) = content) :
    (Field.of key decoder set).Fills decoder get where
  reads reads := by
    obtain ⟨content, read, rfl⟩ := reads_field reads
    exact (gives content _).symm ▸ read
  absent isFill := by
    obtain ⟨content, absent, rfl⟩ := Option.map_eq_some_iff.mp isFill
    rw [absent, gives]

theorem keeps_of {get : α → γ} (keeps : ∀ content value, get (set content value) = get value) :
    (Field.of key decoder set).Keeps get where
  reads reads := by
    obtain ⟨content, _, rfl⟩ := reads_field reads
    exact keeps content _
  absent isFill := by
    obtain ⟨content, _, rfl⟩ := Option.map_eq_some_iff.mp isFill
    exact keeps content _

theorem fills_mayCutOff {field : Field α} {get : α → β} (fills : field.Fills decoder get) :
    field.mayCutOff.Fills decoder get :=
  ⟨fills.reads, fills.absent⟩

@[simp]
theorem keeps_mayCutOff {field : Field α} {get : α → β} :
    field.mayCutOff.Keeps get ↔ field.Keeps get :=
  ⟨fun keeps => ⟨keeps.reads, keeps.absent⟩, fun keeps => ⟨keeps.reads, keeps.absent⟩⟩

end Field

namespace Record

variable {record : Record α} {seen seen' last : List String} {value next result : α}
  {key name : String} {isFirst : Bool} {input rest : Input} {members : List (String × Input)}
  {decoder : Decoder β} {get : α → β}

/-- What `get` gives of a record is told by the member of a key, which may be absent. -/
structure Tells (record : Record α) (key : String) (decoder : Decoder β) (get : α → β) : Prop where
  known : key ∈ record.fields.map Field.key
  own : ∀ field ∈ record.fields, field.key = key → field.Fills decoder get
  others : ∀ field ∈ record.fields, field.key ≠ key → field.Keeps get
  blank : decoder.absent = some (get record.blank)

theorem tells_of_split (earlier later : List (Field α)) {field : Field α}
    (fields : record.fields = earlier ++ field :: later) (fills : field.Fills decoder get)
    (others : ∀ other ∈ earlier ++ later, other.key ≠ field.key ∧ other.Keeps get)
    (blank : decoder.absent = some (get record.blank)) : record.Tells field.key decoder get := by
  have cases_of : ∀ other ∈ record.fields, other = field ∨ other ∈ earlier ++ later := by
    intro other mem
    rw [fields] at mem
    simp only [List.mem_append, List.mem_cons] at mem ⊢
    tauto
  refine ⟨?_, fun other mem own => ?_, fun other mem apart => ?_, blank⟩
  · simp [fields]
  · rcases cases_of other mem with rfl | isOther
    · exact fills
    · exact absurd own (others other isOther).1
  · rcases cases_of other mem with rfl | isOther
    · exact absurd rfl apart
    · exact (others other isOther).2

theorem Tells.fills (tells : record.Tells key decoder get)
    (member : record.Member key seen value input seen' next rest) :
    key ∉ seen ∧ key ∈ seen' ∧ decoder.read.Reads input (get next) rest := by
  cases member with
  | known found fresh reads =>
      have same := List.find?_some found
      have own := tells.own _ (List.mem_of_find?_eq_some found) (eq_of_beq same)
      exact ⟨fresh, List.mem_cons_self, own.reads reads⟩
  | unknown unknown =>
      obtain ⟨field, mem, same⟩ := List.mem_map.mp tells.known
      exact absurd (beq_iff_eq.mpr same) (List.find?_eq_none.mp unknown field mem)

theorem Tells.keeps (tells : record.Tells key decoder get) (other : name ≠ key)
    (member : record.Member name seen value input seen' next rest) :
    (key ∈ seen' ↔ key ∈ seen) ∧ get next = get value := by
  cases member with
  | known found _ reads =>
      have same := List.find?_some found
      have others :=
        tells.others _ (List.mem_of_find?_eq_some found) (eq_of_beq same ▸ other)
      simp [other.symm, others.reads reads]
  | unknown => exact ⟨Iff.rfl, rfl⟩

/-- A record is filled in from the members of an object, one after the other. -/
inductive Built (record : Record α) :
    List String → α → List (String × Input) → List String → α → Prop
  | done {seen : List String} {value : α} : Built record seen value [] seen value
  | more {seen seen' last : List String} {value next result : α} {before after : Input}
      {key : String} {members : List (String × Input)}
      (member : Member record key seen value before seen' next after)
      (later : Built record seen' next members last result) :
      Built record seen value ((key, fromToken before) :: members) last result

theorem Built.of_seen (tells : record.Tells key decoder get)
    (built : record.Built seen value members last result) (isSeen : key ∈ seen) :
    key ∈ last ∧ get result = get value := by
  induction built with
  | done => exact ⟨isSeen, rfl⟩
  | more member later ih =>
      rename_i name members
      have other : name ≠ key := by
        rintro rfl
        exact (tells.fills member).1 isSeen
      obtain ⟨stays, kept⟩ := tells.keeps other member
      obtain ⟨last, same⟩ := ih (stays.mpr isSeen)
      exact ⟨last, same.trans kept⟩

theorem Built.of_unseen (tells : record.Tells key decoder get)
    (built : record.Built seen value members last result) (isNew : key ∉ seen) :
    (members.lookup key = none ∧ key ∉ last ∧ get result = get value) ∨
      ∃ before rest, members.lookup key = some (fromToken before) ∧ key ∈ last ∧
        decoder.read.Reads before (get result) rest := by
  induction built with
  | done => exact Or.inl ⟨rfl, isNew, rfl⟩
  | more member later ih =>
      rename_i before after name members
      by_cases same : name = key
      · subst same
        obtain ⟨_, isSeen, reads⟩ := tells.fills member
        obtain ⟨inLast, kept⟩ := later.of_seen tells isSeen
        exact Or.inr ⟨before, after, List.lookup_cons_self, inLast, kept ▸ reads⟩
      · obtain ⟨stays, kept⟩ := tells.keeps same member
        have skipped : (key == name) = false := beq_eq_false_iff_ne.mpr (Ne.symm same)
        rw [List.lookup_cons, skipped, ← kept]
        exact ih fun isSeen => isNew (stays.mp isSeen)

theorem Member.skips (scalars : ∀ field ∈ record.fields, ∀ value, TakesScalar (field.read value))
    (member : record.Member key seen value input seen' next rest) :
    skipValue.Reads input () rest := by
  cases member with
  | known found _ reads => exact (scalars _ (List.mem_of_find?_eq_some found) value).skips reads
  | unknown _ skips => exact skips

theorem Members.exists_built
    (scalars : ∀ field ∈ record.fields, ∀ value, TakesScalar (field.read value))
    (read : record.Members isFirst seen value input last result rest) :
    ∃ members, Lists isFirst input members ∧ record.Built seen value members last result := by
  induction read with
  | done ends => exact ⟨[], .done ends, .done⟩
  | more opens names separates member _ ih =>
      obtain ⟨members, lists, built⟩ := ih
      exact ⟨_, .more opens names separates (member.skips scalars) lists, .more member built⟩

/-- A record that was read from an object is told by the members of the object. -/
theorem exists_members
    (scalars : ∀ field ∈ record.fields, ∀ value, TakesScalar (field.read value))
    {tail : Input} (isObject : fromToken input = some '{' :: tail)
    (reads : record.read.Reads input result rest) :
    ∃ members, Lists true tail members ∧ ∀ {β : Type} {key decoder} {get : α → β},
      record.Tells key decoder get → Told members key decoder (get result) := by
  rcases reads_cases reads with ⟨_, last, filled, closing, token, read, fills, _⟩ | ⟨_, _, token, _⟩
  · cases isObject.symm.trans token
    obtain ⟨members, lists, built⟩ := read.exists_built scalars
    refine ⟨members, lists, fun {β key decoder get} tells => ?_⟩
    rcases built.of_unseen tells List.not_mem_nil with
      ⟨missing, unseen, kept⟩ | ⟨before, rest, found, isSeen, read⟩
    · refine Or.inl ⟨missing, ?_⟩
      have start : decoder.absent = some (get filled) := kept ▸ tells.blank
      refine (fillAbsent_induction (fun value => decoder.absent = some (get value)) ?_ start fills).1
      intro field mem _ fill absent value unfilled
      by_cases own : field.key = key
      · exact (tells.own field mem own).absent absent
      · rw [(tells.others field mem own).absent absent]
        exact unfilled
    · refine Or.inr ⟨before, rest, found, ?_⟩
      have kept : get result = get filled := by
        refine (fillAbsent_induction (fun value => get value = get filled) ?_ rfl fills).1
        intro field mem fresh fill absent value same
        have other : field.key ≠ key := by
          rintro rfl
          exact fresh isSeen
        exact ((tells.others field mem other).absent absent).trans same
      exact kept ▸ read
  · cases isObject.symm.trans token

end Record

end OrgAccess.Json
