import OrgAccess.Proofs.JsonRecords
import OrgAccess.Token.Signed

/-!
# The expiry of a token is read twice

The claims of a token are read once for their shape and once for the limits among them. The two
readings differ in what they refuse: the second one takes almost anything for the absence of a
claim, and then goes on from wherever it stands. It is shown here that it never takes another
expiry than the first: as long as both are at the same place they see the same members, and a
reading of limits that is lost does not come to the end of the text.
-/

namespace OrgAccess.Token

open Json Json.Scanner

section Wandering

variable {α β : Type} {reader : Reader α} {input rest : Input} {value : α} {depth : Nat}

/-- A reader that may give a value from anywhere within what it was to read. -/
def Wanders (reader : Reader α) : Prop :=
  ∀ depth input value rest, reader.Reads input value rest →
    Strays depth ⟨.free, depth⟩ input rest

theorem wanders_of_keepsPlace (keeps : reader.KeepsPlace) : Wanders reader :=
  fun depth input value rest reads =>
    ((keeps depth input).reads value rest reads).strays (Nat.le_refl depth)

theorem reads_attempt {reader : Reader (Option α)} {value : Option α}
    (reads : (attempt reader).Reads input value rest) :
    reader.Reads input value rest ∨ value = none ∧ reader.Refuses input rest := by
  rw [Reader.reads_iff, attempt, Reader.outcome_tryCatch] at reads
  rw [Reader.reads_iff, Reader.Refuses]
  split at reads
  · rename_i result middle read
    exact Or.inl (read.trans reads)
  · rename_i refusal middle refused
    cases reads
    exact Or.inr ⟨rfl, refusal, refused⟩

theorem wanders_attempt {reader : Reader (Option α)} (keeps : reader.KeepsPlace) :
    Wanders (attempt reader) := by
  intro depth input value rest reads
  rcases reads_attempt reads with read | ⟨_, refused⟩
  · exact wanders_of_keepsPlace keeps depth input value rest read
  · exact (keeps depth input).refuses rest refused

theorem wanders_naturalOrNone : Wanders naturalOrNone := by
  refine wanders_attempt fun depth input => ?_
  have here := Nat.le_refl depth
  have inner := Nat.le_refl (depth + 1)
  refine (keepsPlace_found depth input).bind fun what rest reads => ?_
  obtain ⟨character, tail, _, begins⟩ := reads_found reads
  split
  · exact Reader.tracks_pure _ _ _ _
  · obtain ⟨rfl, rfl⟩ := begins
    refine tracks_skip_bind ?_ (leads_open (Or.inl rfl) tail)
    refine (tracks_thenAlways ?_ closes_endList here).thenPure _
    exact Reader.tracks_malformed _ inner _ _
  · obtain ⟨rfl, rfl⟩ := begins
    refine tracks_skip_bind ?_ (leads_open (Or.inr rfl) tail)
    refine (tracks_thenAlways ?_ closes_endObject here).thenPure _
    exact Reader.tracks_malformed _ inner _ _
  · exact Reader.tracks_pure _ _ _ _

theorem wanders_field {reader : Reader β} (wanders : Wanders reader) (key : String)
    (absent : Option β) (set : β → α → α) (record : α) :
    Wanders ((Json.Field.of key ⟨reader, absent⟩ set).read record) := by
  intro depth input next rest reads
  obtain ⟨value, read, _⟩ := reads_field reads
  exact wanders depth input value rest read

/-- Every registered claim is read by a reader that may wander. -/
theorem wanders_limits : ∀ field ∈ limitsRecord.fields, ∀ limits, Wanders (field.read limits) := by
  have anything : (Decoder.mk (Buffered.read 126) none).optional.read.KeepsPlace :=
    keepsPlace_optional (Buffered.keepsPlace_read 126)
  have text : Decoder.text.optional.read.KeepsPlace :=
    keepsPlace_optional (keepsPlace_ofText _ _)
  intro field mem limits
  simp only [limitsRecord, List.mem_cons, List.not_mem_nil, or_false] at mem
  rcases mem with rfl | rfl | rfl | rfl | rfl
  · rw [read_mayCutOff]
    exact wanders_field wanders_naturalOrNone _ _ _ limits
  · rw [read_mayCutOff]
    exact wanders_field wanders_naturalOrNone _ _ _ limits
  · exact wanders_field (wanders_attempt text) _ _ _ limits
  · exact wanders_field (wanders_attempt anything) _ _ _ limits
  · exact wanders_field (wanders_attempt anything) _ _ _ limits

end Wandering

/-! ## A lost reading of limits -/

section Lost

variable {scanner : Scanner} {isFirst : Bool} {seen last : List String} {limits result next : Limits}
  {input rest final : Input} {key : String}

theorem strays_of_member (member : limitsRecord.Member key seen limits input last next rest)
    (depth : Nat) : Strays depth ⟨.free, depth⟩ input rest := by
  cases member with
  | known found _ reads =>
      exact wanders_limits _ (List.mem_of_find?_eq_some found) limits depth input next rest reads
  | unknown _ skips => exact wanders_of_keepsPlace keepsPlace_skipValue depth input () rest skips

/-- The names of the registered claims cannot be made of what stands outside strings. -/
theorem unknown_of_isPlain (plain : ∀ character ∈ key.toList, isPlain (some character) = true) :
    limitsRecord.fields.find? (fun field => field.key == key) = none := by
  rw [List.find?_eq_none]
  intro field mem same
  have telling : ∀ field ∈ limitsRecord.fields,
      ∃ character ∈ field.key.toList, isPlain (some character) = false := by
    intro field mem
    simp only [limitsRecord, List.mem_cons, List.not_mem_nil, or_false] at mem
    rcases mem with rfl | rfl | rfl | rfl | rfl
    · exact ⟨'x', by decide, by decide⟩
    · exact ⟨'b', by decide, by decide⟩
    · exact ⟨'b', by decide, by decide⟩
    · exact ⟨'i', by decide, by decide⟩
    · exact ⟨'d', by decide, by decide⟩
  obtain ⟨character, within, apart⟩ := telling field mem
  rw [eq_of_beq same] at within
  rw [plain character within] at apart
  cases apart

/-- The end of an object that ends a text. -/
theorem leads_closing (closed : endObject.Reads input () rest) (ended : fromToken rest = []) :
    Leads ⟨.free, 1⟩ input ⟨.free, 0⟩ [] := by
  have closes := (tracks_endObject (Nat.zero_le 0) input).reads () rest closed
  exact ended ▸ closes.trans (leads_spaces rest)

theorem exists_lift (free : scanner.mode = .free) (deeper : 2 ≤ scanner.depth) :
    ∃ more, scanner = lift (more + 1) ⟨.free, 1⟩ := by
  rcases scanner with ⟨mode, depth⟩
  cases free
  refine ⟨depth - 2, ?_⟩
  simp only [lift, Scanner.mk.injEq, true_and]
  simp only at deeper
  omega

theorem isLost_lift (more : Nat) (above : 1 ≤ scanner.depth) : IsLost (scanner.lift (more + 1)) := by
  intro _
  simp only [lift]
  omega

/-- With more brackets open than a reader knows of, some stay open. -/
theorem scan_ne_of_deeper (leads : Leads ⟨.free, 1⟩ input ⟨.free, 0⟩ [])
    (free : scanner.mode = .free) (deeper : 2 ≤ scanner.depth) :
    scanner.scan input ≠ ⟨.free, 0⟩ := by
  obtain ⟨more, same⟩ := exists_lift free deeper
  rw [same, leads.scan_eq]
  simp [scan, lift]

/-- Within a string a reader that is outside ends in a string. -/
theorem scan_ne_of_text (leads : Leads ⟨.free, 1⟩ input ⟨.free, 0⟩ [])
    (within : scanner.mode = .text) : scanner.scan input ≠ ⟨.free, 0⟩ := by
  have swapped : Swapped .free scanner.mode := Or.inl ⟨trivial, within⟩
  obtain ⟨last, scans, swapped⟩ := Swapped.scan swapped leads
  rw [scans, scan, List.foldl_nil]
  rintro rfl
  simp [Swapped, IsOutside] at swapped

theorem scan_ne_of_broken (broken : (scanner.scan input).mode = .broken) :
    scanner.scan input ≠ ⟨.free, 0⟩ := by
  intro same
  rw [same] at broken
  cases broken

section Step

variable {opened named before after : Input}

/-- Deeper in the text than it knows, a reading takes a member and is lost still. -/
theorem lost_of_deeper (free : scanner.mode = .free) (deeper : 2 ≤ scanner.depth)
    (toValue : Leads ⟨.free, 1⟩ input ⟨.free, 1⟩ before)
    (member : limitsRecord.Member key seen limits before last next after)
    (ends : EndsMember after) : ∃ stop, IsLost stop ∧ scanner.scan input = stop.scan after := by
  rcases strays_of_member member 1 with cut | ⟨stop, strayed, above⟩
  · exact absurd ends (not_endsMember_of_cut cut)
  · obtain ⟨more, same⟩ := exists_lift free deeper
    exact ⟨stop.lift (more + 1), isLost_lift more above,
      same ▸ (toValue.trans strayed).scan_eq (more + 1)⟩

/-- With strings swapped a reading finds no key that it knows, so that they stay swapped. -/
theorem lost_of_text (within : scanner.mode = .text)
    (opens : (hasMember isFirst).Reads input true opened) (names : textBody.Reads opened key named)
    (separates : colon.Reads named () before)
    (member : limitsRecord.Member key seen limits before last next after) :
    (scanner.scan input).mode = .broken ∨
      ∃ stop, IsLost stop ∧ scanner.scan input = stop.scan after := by
  have swapped : Swapped .free scanner.mode := Or.inl ⟨trivial, within⟩
  have toKey := (tracks_hasMember isFirst (Nat.zero_le 1) input).reads _ _ opens
  obtain ⟨inner, scans, inside⟩ := Swapped.scan swapped toKey
  rw [scans]
  have outside : IsOutside inner.mode ∨ inner.mode = .broken := by
    simpa [Swapped, atMember, IsOutside] using inside
  rcases outside with outside | broken
  · refine (isPlain_of_textStep (Reader.reads_ofStep_iff.mp names) outside).imp id fun plain => ?_
    have unknown := unknown_of_isPlain fun character mem =>
      (plain character mem).resolve_left List.not_mem_nil
    cases member with
    | known found => cases unknown.symm.trans found
    | unknown _ skips =>
        have toRest := (keepsPlace_skipValue 1 before).reads _ _ skips
        obtain ⟨stop, toStop, swapped⟩ :=
          Swapped.scan swapped ((leads_toValue 0 opens names separates).trans toRest)
        refine ⟨stop, fun free => ?_, scans.symm.trans toStop⟩
        rw [free] at swapped
        simp [Swapped, IsOutside] at swapped
  · exact Or.inl (scan_broken broken _)

/-- A reading of limits that is lost takes a member and is lost still, or the scanner breaks. -/
theorem lost_of_member (lost : IsLost scanner)
    (opens : (hasMember false).Reads input true opened) (names : textBody.Reads opened key named)
    (separates : colon.Reads named () before)
    (member : limitsRecord.Member key seen limits before last next after)
    (ends : EndsMember after) :
    (scanner.scan input).mode = .broken ∨
      ∃ stop, IsLost stop ∧ scanner.scan input = stop.scan after := by
  rcases lost.cases (endsMember_of_hasMember opens) with ⟨free, deeper⟩ | within | broken
  · exact Or.inr (lost_of_deeper free deeper (leads_toValue 0 opens names separates) member ends)
  · exact lost_of_text within opens names separates member
  · exact Or.inl broken

end Step

/-- A reading of limits that is lost does not end where its text ends for the scanner. -/
theorem scan_ne_of_isLost (lost : IsLost scanner)
    (members : limitsRecord.Members false seen limits input last result rest)
    (closed : endObject.Reads rest () final) (ended : fromToken final = []) :
    scanner.scan input ≠ ⟨.free, 0⟩ := by
  generalize notFirst : false = isFirst at members
  induction members generalizing scanner with
  | done ends =>
      subst notFirst
      have leads := ((tracks_hasMember false (Nat.zero_le 1) _).reads _ _ ends).trans
        (leads_closing closed ended)
      rcases lost.cases (endsMember_of_hasMember ends) with ⟨free, deeper⟩ | within | broken
      · exact scan_ne_of_deeper leads free deeper
      · exact scan_ne_of_text leads within
      · exact scan_ne_of_broken broken
  | more opens names separates member later ih =>
      subst notFirst
      rcases lost_of_member lost opens names separates member later.endsMember with
        broken | ⟨stop, lost, scans⟩
      · exact scan_ne_of_broken broken
      · rw [scans]
        exact ih lost closed rfl

end Lost

/-! ## Both readings of one member -/

section Member

variable {claims nextClaims : Claims} {limits nextLimits : Limits} {seen last : List String}
  {key : String} {input rest : Input}

theorem expiresAt_of_member (member : Claims.record.Member key seen claims input last nextClaims rest)
    (other : key ≠ "exp") : nextClaims.expiresAt = claims.expiresAt := by
  cases member with
  | unknown => rfl
  | known found _ reads =>
      have same := List.find?_some found
      have mem := List.mem_of_find?_eq_some found
      simp only [Claims.record, List.mem_cons, List.not_mem_nil, or_false] at mem
      rcases mem with rfl | rfl | rfl | rfl | rfl
      · obtain ⟨_, _, rfl⟩ := reads_field reads
        rfl
      · obtain ⟨_, _, rfl⟩ := reads_field reads
        rfl
      · exact absurd (eq_of_beq same).symm other
      · obtain ⟨_, _, rfl⟩ := reads_field reads
        rfl
      · obtain ⟨_, _, rfl⟩ := reads_field reads
        rfl

theorem reads_expiresAt (member : Claims.record.Member "exp" seen claims input last nextClaims rest) :
    Decoder.integer.read.Reads input nextClaims.expiresAt rest := by
  cases member with
  | unknown unknown => cases unknown
  | known found _ reads =>
      cases found
      obtain ⟨_, read, rfl⟩ := reads_field reads
      exact read

theorem expiry_of_field {field : Json.Field Limits} (mem : field ∈ limitsRecord.fields)
    (other : field.key ≠ "exp") (reads : (field.read limits).Reads input nextLimits rest) :
    nextLimits.expiry = limits.expiry := by
  simp only [limitsRecord, List.mem_cons, List.not_mem_nil, or_false] at mem
  rcases mem with rfl | rfl | rfl | rfl | rfl
  · exact absurd rfl other
  · rw [read_mayCutOff] at reads
    obtain ⟨_, _, rfl⟩ := reads_field reads
    rfl
  · obtain ⟨_, _, rfl⟩ := reads_field reads
    rfl
  · obtain ⟨_, _, rfl⟩ := reads_field reads
    rfl
  · obtain ⟨_, _, rfl⟩ := reads_field reads
    rfl

theorem key_of_mem_tail {field : Json.Field Limits} (mem : field ∈ limitsRecord.fields.tail) :
    field ∈ limitsRecord.fields ∧ field.key ≠ "exp" := by
  refine ⟨List.mem_of_mem_tail mem, ?_⟩
  simp only [limitsRecord, List.tail_cons, List.mem_cons, List.not_mem_nil, or_false] at mem
  rcases mem with rfl | rfl | rfl | rfl
  all_goals exact fun same => absurd same (by decide)

theorem expiry_of_fill {field : Json.Field Limits} (mem : field ∈ limitsRecord.fields)
    {fill : Limits → Limits} (fills : fill ∈ field.absent ∨ fill ∈ field.cutOff)
    (limits : Limits) : (fill limits).expiry = none ∨ (fill limits).expiry = limits.expiry := by
  simp only [limitsRecord, List.mem_cons, List.not_mem_nil, or_false] at mem
  rcases mem with rfl | rfl | rfl | rfl | rfl
  · rcases fills with absent | cut
    · cases absent
      exact Or.inl rfl
    · cases cut
      exact Or.inl rfl
  · rcases fills with absent | cut
    · cases absent
      exact Or.inr rfl
    · cases cut
      exact Or.inr rfl
  all_goals
    rcases fills with absent | cut
    · cases absent
      exact Or.inr rfl
    · cases cut

theorem expiry_of_member (member : limitsRecord.Member key seen limits input last nextLimits rest)
    (other : key ≠ "exp") : nextLimits.expiry = limits.expiry := by
  cases member with
  | unknown => rfl
  | known found _ reads =>
      have same := List.find?_some found
      exact expiry_of_field (List.mem_of_find?_eq_some found) (eq_of_beq same ▸ other) reads

theorem reads_expiry (member : limitsRecord.Member "exp" seen limits input last nextLimits rest) :
    naturalOrNone.Reads input nextLimits.expiry rest := by
  cases member with
  | unknown unknown => cases unknown
  | known found _ reads =>
      cases found
      simp only [read_mayCutOff] at reads
      obtain ⟨_, read, rfl⟩ := reads_field reads
      exact read

/-- A number that is read as a limit was found to be one. -/
theorem found_of_naturalOrNone {expiry : Nat} (reads : naturalOrNone.Reads input (some expiry) rest) :
    found.Reads input (.number (.natural expiry)) rest := by
  rcases reads_attempt reads with reads | ⟨absent, _⟩
  · obtain ⟨what, between, read, told⟩ := Reader.reads_bind_iff.mp reads
    split at told
    · obtain ⟨same, rfl⟩ := Reader.reads_pure_iff.mp told
      cases same
      exact read
    · obtain ⟨_, _, _, told⟩ := Reader.reads_bind_iff.mp told
      obtain ⟨_, _, _, told⟩ := Reader.reads_bind_iff.mp told
      cases (Reader.reads_pure_iff.mp told).1
    · obtain ⟨_, _, _, told⟩ := Reader.reads_bind_iff.mp told
      obtain ⟨_, _, _, told⟩ := Reader.reads_bind_iff.mp told
      cases (Reader.reads_pure_iff.mp told).1
    · cases (Reader.reads_pure_iff.mp told).1
  · cases absent

theorem eq_of_reads_integer {expiresAt : Int} {expiry : Nat} {rest' : Input}
    (reads : Decoder.integer.read.Reads input expiresAt rest)
    (reads' : naturalOrNone.Reads input (some expiry) rest') : expiresAt = expiry := by
  obtain ⟨character, tail, token, begins⟩ := reads_found (found_of_naturalOrNone reads')
  rw [read_integer, reads_peekToken_bind_iff, token] at reads
  have value {isNegative : Bool} {input : Input}
      (number : (Json.number isNegative).Reads input (.natural expiry) rest')
      (reads : (do integerOf (← Json.number isNegative)).Reads input expiresAt rest) :
      expiresAt = expiry := by
    obtain ⟨other, between, read, told⟩ := Reader.reads_bind_iff.mp reads
    obtain ⟨rfl, _⟩ := read.unique number
    unfold integerOf at told
    dsimp only at told
    split at told
    · exact (Reader.reads_pure_iff.mp told).1.symm
    · exact absurd told (Reader.not_reads_mismatched _)
  dsimp only [List.head?_cons] at reads
  rcases begins with ⟨rfl, number⟩ | ⟨isDigit, number⟩
  · exact value number (reads_skip_bind_iff.mp reads)
  · have notMinus : character ≠ some '-' := by
      rintro rfl
      cases isDigit
    rw [if_neg notMinus, if_pos isDigit] at reads
    exact value number reads

end Member

/-! ## Both readings of one text -/

section Text

variable {claims lastClaims : Claims} {limits lastLimits : Limits} {seen seen' last last' : List String}
  {isFirst : Bool} {input input' closing closing' rest rest' : Input}

theorem keepsPlaces_claims : Claims.record.KeepsPlaces := by
  intro field mem claims depth input
  simp only [Claims.record, List.mem_cons, List.not_mem_nil, or_false] at mem
  rcases mem with rfl | rfl | rfl | rfl | rfl
  · exact (keepsPlace_ofText _ _ depth input).thenPure _
  · exact (keepsPlace_integer depth input).thenPure _
  · exact (keepsPlace_integer depth input).thenPure _
  · exact (keepsPlace_ofText _ _ depth input).thenPure _
  · exact (keepsPlace_choice _ depth input).thenPure _

/-- The limits have no other expiry than the claims. -/
def Agrees (claims : Claims) (limits : Limits) : Prop :=
  ∀ expiry, limits.expiry = some expiry → claims.expiresAt = expiry

theorem Agrees.member {nextClaims : Claims} {nextLimits : Limits} {key : String}
    (agrees : Agrees claims limits)
    (member : Claims.record.Member key seen claims input last nextClaims rest)
    (member' : limitsRecord.Member key seen' limits input last' nextLimits rest') :
    Agrees nextClaims nextLimits := by
  intro expiry known
  by_cases same : key = "exp"
  · subst same
    have reads := reads_expiry member'
    rw [known] at reads
    exact eq_of_reads_integer (reads_expiresAt member) reads
  · rw [expiry_of_member member' same] at known
    rw [expiresAt_of_member member same]
    exact agrees expiry known

/-- From one place both readings come to the same expiry, if both come to the end of the text. -/
theorem Agrees.members
    (members : Claims.record.Members isFirst seen claims input last lastClaims closing)
    (closed : endObject.Reads closing () rest) (ended : fromToken rest = [])
    (members' : limitsRecord.Members isFirst seen' limits input' last' lastLimits closing')
    (closed' : endObject.Reads closing' () rest') (ended' : fromToken rest' = [])
    (same : fromToken input' = fromToken input) (agrees : Agrees claims limits) :
    Agrees lastClaims lastLimits := by
  induction members generalizing seen' limits input' with
  | done ends =>
      cases members' with
      | done => exact agrees
      | more opens =>
          rw [Reader.reads_iff, outcome_hasMember_congr same] at opens
          cases (ends.unique (Reader.reads_iff.mpr opens)).1
  | more opens names separates member later ih =>
      cases members' with
      | done ends =>
          rw [Reader.reads_iff, outcome_hasMember_congr same] at ends
          cases (opens.unique (Reader.reads_iff.mpr ends)).1
      | more opens' names' separates' member' later' =>
          rw [Reader.reads_iff, outcome_hasMember_congr same] at opens'
          obtain ⟨_, rfl⟩ := opens.unique (Reader.reads_iff.mpr opens')
          obtain ⟨rfl, rfl⟩ := names.unique names'
          obtain ⟨_, rfl⟩ := separates.unique separates'
          have toEnd := (later.leads keepsPlaces_claims 0).trans (leads_closing closed ended)
          rcases aligned_or_lost (member.leads keepsPlaces_claims 0) (strays_of_member member' 0)
            later.endsMember later'.endsMember (toEnd.scan_eq 0) with aligned | ⟨_, lost, scans⟩
          · exact ih closed later' aligned (agrees.member member member')
          · exact absurd scans (scan_ne_of_isLost lost later' closed' ended')

theorem absent_claims : ∀ field ∈ Claims.record.fields, field.absent = none := by
  intro field mem
  simp only [Claims.record, List.mem_cons, List.not_mem_nil, or_false] at mem
  rcases mem with rfl | rfl | rfl | rfl | rfl
  all_goals rfl

/-- No number is found where a text begins. -/
theorem eq_none_of_text {id : Uuid} {expiry : Option Nat} (text : Decoder.uuid.read.Reads input id rest)
    (reads : naturalOrNone.Reads input expiry rest') : expiry = none := by
  cases expiry with
  | none => rfl
  | some expiry =>
      obtain ⟨character, tail, token, begins⟩ := reads_found (found_of_naturalOrNone reads)
      have notQuote : (character :: tail).head? ≠ some (some '"') := by
        rintro quote
        cases quote
        rcases begins with ⟨minus, _⟩ | ⟨isDigit, _⟩
        · cases minus
        · cases isDigit
      rw [Decoder.uuid, Decoder.ofText, reads_peekToken_bind_iff, token, if_neg notQuote] at text
      exact absurd text (not_reads_refuse _)

/-- An array whose first item is a text has no expiry where the limits look for it. -/
theorem expiry_of_items (items : (Claims.record.readItems 0 Claims.record.fields
      Claims.record.blank).Reads input claims rest)
    (items' : (limitsRecord.readItems 0 limitsRecord.fields limitsRecord.blank).Reads input limits
      rest') : limits.expiry = none := by
  rcases Record.reads_readItems_cons items with ⟨opened, _, _, opens, uid, _⟩ | ⟨_, _, cut, _⟩
  · rcases Record.reads_readItems_cons items' with ⟨_, next, _, opens', exp, later⟩ | ⟨_, _, _, ends, _⟩
    · obtain ⟨_, rfl⟩ := opens.unique opens'
      simp only [read_mayCutOff] at exp
      obtain ⟨_, text, _⟩ := reads_field uid
      obtain ⟨expiry, reads, rfl⟩ := reads_field exp
      have start := eq_none_of_text text reads
      refine Record.readItems_induction (fun limits => limits.expiry = .none) ?_ ?_ start later
      · intro field mem limits next input rest absent reads
        obtain ⟨known, other⟩ := key_of_mem_tail mem
        exact (expiry_of_field known other reads).trans absent
      · intro field mem fill cut limits absent
        have known := (key_of_mem_tail mem).1
        exact (expiry_of_fill known (Or.inr cut) limits).elim id (·.trans absent)
    · cases (opens.unique ends).1
  · cases cut

theorem reads_of_readRecord {α : Type} {record : Record α} {value : α}
    (read : readRecord record input = .ok value) :
    ∃ rest, record.read.Reads input value rest ∧ fromToken rest = [] := by
  rw [readRecord] at read
  cases result : Reader.runAll record.read input with
  | error refusal =>
      rw [result] at read
      cases read
  | ok other =>
      rw [result] at read
      cases read
      exact runAll_eq_ok result

/-- Where claims and limits are read from one text, the limits have no other expiry. -/
theorem agrees_of_read (read : readRecord Claims.record input = .ok claims)
    (read' : readRecord limitsRecord input = .ok limits) : Agrees claims limits := by
  obtain ⟨rest, reads, ended⟩ := reads_of_readRecord read
  obtain ⟨rest', reads', ended'⟩ := reads_of_readRecord read'
  rcases Record.reads_cases reads with ⟨tail, last, filled, closing, token, members, fills, closed⟩ |
    ⟨tail, closing, token, items⟩
  · rcases Record.reads_cases reads' with
      ⟨tail', last', filled', closing', token', members', fills', closed'⟩ | ⟨_, _, token', _⟩
    · cases token.symm.trans token'
      have agrees : Agrees filled filled' :=
        Agrees.members members closed ended members' closed' ended' rfl fun _ known => by cases known
      have kept : claims = filled := by
        refine (Record.fillAbsent_induction (· = filled) ?_ rfl fills).1
        intro field mem _ fill absent
        cases (absent_claims field mem).symm.trans absent
      rw [← kept] at agrees
      refine (Record.fillAbsent_induction (Agrees claims) ?_ agrees fills').1
      intro field mem _ fill absent limits agrees expiry known
      rcases expiry_of_fill mem (Or.inl absent) limits with none | same
      · cases none.symm.trans known
      · exact agrees expiry (same.symm.trans known)
    · cases token.symm.trans token'
  · rcases Record.reads_cases reads' with ⟨_, _, _, _, token', _⟩ | ⟨_, _, token', items'⟩
    · cases token.symm.trans token'
    · cases token.symm.trans token'
      intro expiry known
      cases (expiry_of_items items items').symm.trans known

end Text

end OrgAccess.Token
