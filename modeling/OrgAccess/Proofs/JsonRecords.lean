import OrgAccess.Proofs.JsonAlignment

/-!
# What a record was read from

A record that was read takes a run of members, or of items, and each of them is read by its field
or skipped. `Record.Members` is that run without its fuel, so that what holds of a record can be
shown member by member.
-/

namespace OrgAccess.Json

open Scanner

theorem outcome_hasMember_congr {input input' : Input} (same : fromToken input' = fromToken input)
    (isFirst : Bool) : (hasMember isFirst).outcome input' = (hasMember isFirst).outcome input := by
  unfold hasMember
  rw [outcome_peekToken_bind, outcome_peekToken_bind, same]

/-- Unless it is the first, a member is asked for at the end of another. -/
theorem endsMember_of_hasMember {input rest : Input} {isThere : Bool}
    (reads : (hasMember false).Reads input isThere rest) : EndsMember input := by
  rw [hasMember, reads_peekToken_bind_iff] at reads
  cases first : (fromToken input).head? with
  | none =>
      rw [first] at reads
      exact absurd reads (Reader.not_reads_malformed _)
  | some character =>
      rw [first] at reads
      by_cases closes : character = some '}'
      · exact Or.inr (closes ▸ first)
      by_cases separates : character = some ','
      · exact Or.inl (separates ▸ first)
      simp only [if_neg closes, if_neg separates, if_neg Bool.false_ne_true] at reads
      exact absurd reads (Reader.not_reads_malformed _)

/-- What stands before the value of a member. -/
theorem leads_toValue {isFirst : Bool} {key : String} {input opened named before : Input}
    (depth : Nat) (opens : (hasMember isFirst).Reads input true opened)
    (names : textBody.Reads opened key named) (separates : colon.Reads named () before) :
    Leads ⟨.free, depth + 1⟩ input ⟨.free, depth + 1⟩ before := by
  have within := Nat.zero_le (depth + 1)
  exact ((tracks_hasMember isFirst within input).reads _ _ opens).trans
    (((tracks_textBody within opened).reads _ _ names).trans
      ((tracks_colon within named).reads _ _ separates))

theorem not_reads_refuse {α : Type} {value : α} {input rest : Input} (expected : String) :
    ¬(refuse expected).Reads input value rest := by
  intro reads
  obtain ⟨_, _, _, refused⟩ := Reader.reads_bind_iff.mp reads
  exact absurd refused (Reader.not_reads_mismatched _)

theorem runAll_eq_ok {α : Type} {reader : Reader α} {value : α} {input : Input}
    (read : reader.runAll input = .ok value) :
    ∃ rest, reader.Reads input value rest ∧ fromToken rest = [] := by
  have whole : (do let value ← reader; endOfText; return value : Reader α).Reads input value
      ((do let value ← reader; endOfText; return value : Reader α).outcome input).2 :=
    Prod.ext read rfl
  obtain ⟨result, rest, reads, ended⟩ := Reader.reads_bind_iff.mp whole
  obtain ⟨_, last, ends, same⟩ := Reader.reads_bind_iff.mp ended
  obtain ⟨rfl, _⟩ := Reader.reads_pure_iff.mp same
  refine ⟨rest, reads, ?_⟩
  rw [endOfText, reads_peekToken_bind_iff] at ends
  cases token : fromToken rest with
  | nil => rfl
  | cons character tail =>
      rw [token] at ends
      exact absurd ends (Reader.not_reads_malformed _)

section Field

variable {α β : Type}

theorem reads_field {key : String} {decoder : Decoder β} {set : β → α → α} {record next : α}
    {input rest : Input} (reads : ((Field.of key decoder set).read record).Reads input next rest) :
    ∃ value, decoder.read.Reads input value rest ∧ next = set value record := by
  obtain ⟨value, between, read, same⟩ := Reader.reads_bind_iff.mp reads
  obtain ⟨rfl, rfl⟩ := Reader.reads_pure_iff.mp same
  exact ⟨value, read, rfl⟩

@[simp]
theorem read_mayCutOff (field : Field α) : field.mayCutOff.read = field.read := rfl

end Field

namespace Record

variable {α : Type} {record : Record α} {seen last : List String} {value next result : α}
  {key : String} {isFirst : Bool} {input rest : Input}

/-- The value of a member is read by the field of its key, or skipped if no field has the key. -/
inductive Member (record : Record α) (key : String) (seen : List String) (value : α)
    (input : Input) : List String → α → Input → Prop
  | known {field : Field α} {next : α} {rest : Input}
      (found : record.fields.find? (fun field => field.key == key) = some field)
      (fresh : key ∉ seen) (reads : (field.read value).Reads input next rest) :
      Member record key seen value input (key :: seen) next rest
  | unknown {rest : Input}
      (unknown : record.fields.find? (fun field => field.key == key) = none)
      (skips : skipValue.Reads input () rest) : Member record key seen value input seen value rest

/-- The members of an object up to its closing bracket. -/
inductive Members (record : Record α) :
    (isFirst : Bool) → List String → α → Input → List String → α → Input → Prop
  | done {isFirst : Bool} {seen : List String} {value : α} {input rest : Input}
      (ends : (hasMember isFirst).Reads input false rest) :
      Members record isFirst seen value input seen value rest
  | more {isFirst : Bool} {seen seen' last : List String} {value next result : α}
      {input opened named before after rest : Input} {key : String}
      (opens : (hasMember isFirst).Reads input true opened)
      (names : textBody.Reads opened key named) (separates : colon.Reads named () before)
      (member : Member record key seen value before seen' next after)
      (later : Members record false seen' next after last result rest) :
      Members record isFirst seen value input last result rest

theorem members_of_reads {fuel : Nat}
    (reads : (record.readMembers fuel seen isFirst value).Reads input (last, result) rest) :
    Members record isFirst seen value input last result rest := by
  induction fuel generalizing seen isFirst value input with
  | zero => exact absurd reads (Reader.not_reads_malformed _)
  | succ fuel ih =>
      obtain ⟨isThere, opened, opens, reads⟩ := Reader.reads_bind_iff.mp reads
      cases isThere with
      | false =>
          obtain ⟨same, rfl⟩ := Reader.reads_pure_iff.mp reads
          cases same
          exact .done opens
      | true =>
          obtain ⟨key, named, names, reads⟩ := Reader.reads_bind_iff.mp reads
          split at reads
          · rename_i field found
            split at reads
            · exact absurd reads (Reader.not_reads_mismatched _)
            · rename_i fresh
              obtain ⟨_, before, separates, reads⟩ := Reader.reads_bind_iff.mp reads
              obtain ⟨next, after, member, reads⟩ := Reader.reads_bind_iff.mp reads
              exact .more opens names separates
                (.known found fresh (Reader.reads_inside_iff.mp member)) (ih reads)
          · rename_i unknown
            obtain ⟨_, before, separates, reads⟩ := Reader.reads_bind_iff.mp reads
            obtain ⟨_, after, skips, reads⟩ := Reader.reads_bind_iff.mp reads
            exact .more opens names separates
              (.unknown unknown (Reader.reads_inside_iff.mp skips)) (ih reads)

theorem Members.endsMember (members : Members record false seen value input last result rest) :
    EndsMember input := by
  cases members with
  | done ends => exact endsMember_of_hasMember ends
  | more opens => exact endsMember_of_hasMember opens

/-! ## Places -/

/-- The values of all fields are read with readers that keep their place. -/
def KeepsPlaces (record : Record α) : Prop :=
  ∀ field ∈ record.fields, ∀ value, (field.read value).KeepsPlace

theorem Member.leads {seen' : List String} (keeps : record.KeepsPlaces)
    (member : record.Member key seen value input seen' next rest) (depth : Nat) :
    Leads ⟨.free, depth⟩ input ⟨.free, depth⟩ rest := by
  cases member with
  | known found _ reads =>
      exact (keeps _ (List.mem_of_find?_eq_some found) value depth input).reads _ _ reads
  | unknown _ skips => exact (keepsPlace_skipValue depth input).reads _ _ skips

theorem Members.leads (keeps : record.KeepsPlaces)
    (members : Members record isFirst seen value input last result rest) (depth : Nat) :
    Leads ⟨.free, depth + 1⟩ input ⟨.free, depth + 1⟩ rest := by
  induction members with
  | done ends => exact (tracks_hasMember _ (Nat.zero_le (depth + 1)) _).reads _ _ ends
  | more opens names separates member _ ih =>
      exact (leads_toValue depth opens names separates).trans
        ((member.leads keeps (depth + 1)).trans ih)

/-! ## Whole records -/

theorem fillAbsent_induction (holds : α → Prop) {fields : List (Field α)}
    (fills : ∀ field ∈ fields, field.key ∉ seen → ∀ fill ∈ field.absent, ∀ value,
      holds value → holds (fill value))
    (start : holds value) (reads : (fillAbsent seen fields value).Reads input result rest) :
    holds result ∧ input = rest := by
  induction fields generalizing value with
  | nil =>
      obtain ⟨rfl, rfl⟩ := Reader.reads_pure_iff.mp reads
      exact ⟨start, rfl⟩
  | cons field fields ih =>
      have others := fun other mem => fills other (List.mem_cons_of_mem _ mem)
      rw [fillAbsent] at reads
      split at reads
      · exact ih others start reads
      rename_i unseen
      split at reads
      · rename_i fill absent
        exact ih others (fills field List.mem_cons_self unseen fill absent value start) reads
      · exact absurd reads (Reader.not_reads_mismatched _)

theorem reads_readItems_cons {index : Nat} {field : Field α} {fields : List (Field α)}
    (reads : (record.readItems index (field :: fields) value).Reads input result rest) :
    (∃ opened next after, (hasItem (index == 0)).Reads input true opened ∧
      (field.read value).Reads opened next after ∧
      (record.readItems (index + 1) fields next).Reads after result rest) ∨
    ∃ opened, ∃ fill ∈ field.cutOff, (hasItem (index == 0)).Reads input false opened ∧
      (record.readItems (index + 1) fields (fill value)).Reads opened result rest := by
  obtain ⟨isThere, opened, opens, reads⟩ := Reader.reads_bind_iff.mp reads
  cases isThere with
  | true =>
      obtain ⟨next, after, item, later⟩ := Reader.reads_bind_iff.mp reads
      exact Or.inl ⟨opened, next, after, opens, Reader.reads_inside_iff.mp item, later⟩
  | false =>
      rw [if_neg Bool.false_ne_true] at reads
      split at reads
      · rename_i fill cut
        exact Or.inr ⟨opened, fill, cut, opens, reads⟩
      · exact absurd reads (Reader.not_reads_mismatched _)

theorem readItems_induction (holds : α → Prop) {fields : List (Field α)}
    (takes : ∀ field ∈ fields, ∀ value next input rest, holds value →
      (field.read value).Reads input next rest → holds next)
    (fills : ∀ field ∈ fields, ∀ fill ∈ field.cutOff, ∀ value, holds value → holds (fill value))
    {index : Nat} (start : holds value)
    (reads : (record.readItems index fields value).Reads input result rest) : holds result := by
  induction fields generalizing index value input with
  | nil => exact (Reader.reads_pure_iff.mp reads).1 ▸ start
  | cons field fields ih =>
      have others := fun other mem => takes other (List.mem_cons_of_mem _ mem)
      have fillsOthers := fun other mem => fills other (List.mem_cons_of_mem _ mem)
      have mem : field ∈ field :: fields := List.mem_cons_self
      rcases reads_readItems_cons reads with ⟨_, next, _, _, item, later⟩ | ⟨_, fill, cut, _, later⟩
      · exact ih others fillsOthers (takes field mem value next _ _ start item) later
      · exact ih others fillsOthers (fills field mem fill cut value start) later

/-- A record is read from the members of an object or from the items of an array. -/
theorem reads_cases (reads : record.read.Reads input result rest) :
    (∃ tail last filled closing, fromToken input = some '{' :: tail ∧
      Members record true [] record.blank tail last filled closing ∧
      (fillAbsent last record.fields filled).Reads closing result closing ∧
      endObject.Reads closing () rest) ∨
    ∃ tail closing, fromToken input = some '[' :: tail ∧
      (record.readItems 0 record.fields record.blank).Reads tail result closing := by
  rw [read, reads_peekToken_bind_iff] at reads
  generalize fromToken input = tokens at reads
  rcases tokens with _ | ⟨character, tail⟩
  · exact absurd reads (Reader.not_reads_malformed _)
  dsimp only [List.head?_cons] at reads
  split at reads
  · rename_i opens
    cases opens
    obtain ⟨closing, filled, closed⟩ := Reader.reads_thenAlways_iff.mp (reads_skip_bind_iff.mp reads)
    obtain ⟨⟨last, value⟩, ended, members, fills⟩ :=
      Reader.reads_bind_iff.mp (reads_get_bind_iff.mp filled)
    have untouched : ∀ field ∈ record.fields, field.key ∉ last → ∀ fill ∈ field.absent, ∀ _ : α,
        True → True := fun _ _ _ _ _ _ => id
    obtain ⟨_, rfl⟩ := fillAbsent_induction (fun _ => True) untouched trivial fills
    exact Or.inl ⟨tail, last, value, ended, rfl, members_of_reads members, fills, closed⟩
  split at reads
  · rename_i opens
    cases opens
    obtain ⟨closing, items, _⟩ := Reader.reads_thenAlways_iff.mp (reads_skip_bind_iff.mp reads)
    exact Or.inr ⟨tail, closing, rfl, items⟩
  · exact absurd reads (not_reads_refuse _)

end Record

end OrgAccess.Json
