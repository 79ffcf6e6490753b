import ExprLexer.Proofs.JsonNumbers

/-!
Written values are read back, on one line as on lines of their own. Three conditions are on the
value: an object holds no key twice, no integer has more digits than a reader takes, and no text
has surrogates side by side that a reader would join. Where a key is written twice the last value
is read.
-/

namespace ExprLexer.Json

open Text

inductive Readable : Json → Prop where
  | null : Readable .null
  | bool (value : Bool) : Readable (.bool value)
  | int {value : Int} (short : (Nat.toDigits 10 value.natAbs).length ≤ integerDigitLimit) :
      Readable (.int value)
  | float (value : Binary64) : Readable (.float value)
  | str {value : CodeText} (unpaired : Unpaired value) : Readable (.str value)
  | arr {elements : List Json} (each : ∀ element ∈ elements, Readable element) :
      Readable (.arr elements)
  | obj {members : List (CodeText × Json)} (distinct : (members.map Prod.fst).Nodup)
      (keys : ∀ member ∈ members, Unpaired member.1)
      (each : ∀ member ∈ members, Readable member.2) : Readable (.obj members)

theorem skip_spaces_gap {gap more : List Char} {first : Char}
    (spaces : ∀ character ∈ gap, isSpace character = true) (ink : isSpace first = false) :
    skipSpaces (gap ++ first :: more) = first :: more := by
  rw [skipSpaces, List.dropWhile_append_of_pos spaces, List.dropWhile_cons, ink]
  rfl

theorem skip_spaces_ink {more : List Char} {first : Char} (ink : isSpace first = false) :
    skipSpaces (first :: more) = first :: more :=
  skip_spaces_gap (show ∀ character ∈ [], isSpace character = true by simp) ink

theorem lone_space : ∀ character ∈ [' '], isSpace character = true := by
  intro character member
  rw [List.mem_singleton.mp member]
  decide

namespace Spacing

theorem line_break_spaces (spacing : Spacing) (level : Nat) :
    ∀ character ∈ spacing.lineBreak level, isSpace character = true := by
  intro character member
  cases spacing with
  | oneLine => contradiction
  | lines indent =>
      rcases List.mem_cons.mp member with rfl | blank
      · decide
      · rw [List.eq_of_mem_replicate blank]
        decide

theorem separator_gap (spacing : Spacing) (level : Nat) :
    ∃ gap, spacing.separator level = ',' :: gap ∧
      ∀ character ∈ gap, isSpace character = true := by
  cases spacing with
  | oneLine => exact ⟨[' '], rfl, lone_space⟩
  | lines indent => exact ⟨_, rfl, line_break_spaces (.lines indent) level⟩

end Spacing

theorem after_mark_found {mark : Char} {text rest : List Char}
    (next : skipSpaces text = mark :: rest) :
    ∃ after, afterMark? mark text = some after ∧ after.val = rest := by
  unfold afterMark?
  split
  · rename_i ended
    rw [next] at ended
    contradiction
  · rename_i character others skipped
    rw [next] at skipped
    cases skipped
    exact ⟨_, if_pos rfl, rfl⟩

theorem after_mark_absent {mark first : Char} {text more : List Char}
    (next : skipSpaces text = first :: more) (other : first ≠ mark) :
    afterMark? mark text = none := by
  unfold afterMark?
  split
  · rfl
  · rename_i character others skipped
    rw [next] at skipped
    cases skipped
    exact if_neg other

theorem read_elements_last {text middle rest : List Char} {element : Json}
    (one : Gives (readValue text) element middle) (close : skipSpaces middle = ']' :: rest) :
    Gives (readElements text) [element] rest := by
  obtain ⟨after, read, rfl⟩ := one
  obtain ⟨last, marked, leaves⟩ := after_mark_found close
  refine ⟨last.widen after.length_le, ?_, leaves⟩
  rw [readElements]
  simp only [read, marked]

theorem read_elements_next {text middle others rest : List Char} {element : Json}
    {elements : List Json} (one : Gives (readValue text) element middle)
    (comma : skipSpaces middle = ',' :: others)
    (more : Gives (readElements (skipSpaces others)) elements rest) :
    Gives (readElements text) (element :: elements) rest := by
  obtain ⟨after, read, rfl⟩ := one
  have unclosed := after_mark_absent comma (show ',' ≠ ']' by decide)
  obtain ⟨next, marked, rfl⟩ := after_mark_found comma
  obtain ⟨last, readMore, leaves⟩ := more
  rw [readElements]
  simp only [read, unclosed, marked, readMore]
  exact ⟨_, rfl, leaves⟩

theorem read_members_last {text afterKey middle rest : List Char} {key : CodeText} {value : Json}
    (named : Gives (readKey text) key afterKey)
    (one : Gives (readValue (skipSpaces afterKey)) value middle)
    (close : skipSpaces middle = '\x7d' :: rest) :
    Gives (readMembers text) [(key, value)] rest := by
  obtain ⟨behindKey, readName, rfl⟩ := named
  obtain ⟨after, read, rfl⟩ := one
  obtain ⟨last, marked, leaves⟩ := after_mark_found close
  rw [readMembers]
  simp only [readName, read, marked]
  exact ⟨_, rfl, leaves⟩

theorem read_members_next {text afterKey middle others rest : List Char} {key : CodeText}
    {value : Json} {members : List (CodeText × Json)} (named : Gives (readKey text) key afterKey)
    (one : Gives (readValue (skipSpaces afterKey)) value middle)
    (comma : skipSpaces middle = ',' :: others)
    (more : Gives (readMembers (skipSpaces others)) members rest) :
    Gives (readMembers text) ((key, value) :: members) rest := by
  obtain ⟨behindKey, readName, rfl⟩ := named
  obtain ⟨after, read, rfl⟩ := one
  have unclosed := after_mark_absent comma (show ',' ≠ '\x7d' by decide)
  obtain ⟨next, marked, rfl⟩ := after_mark_found comma
  obtain ⟨last, readMore, leaves⟩ := more
  rw [readMembers]
  simp only [readName, read, unclosed, marked, readMore]
  exact ⟨_, rfl, leaves⟩

theorem read_key_written {key : CodeText} (unpaired : Unpaired key) (rest : List Char) :
    Gives (readKey (writeString key ++ ':' :: rest)) key rest := by
  have spelled : writeString key ++ ':' :: rest =
      '"' :: (key.flatMap writePoint ++ '"' :: ':' :: rest) := by
    simp [writeString]
  obtain ⟨after, read, leaves⟩ := read_body_written
    ('"' :: (key.flatMap writePoint ++ '"' :: ':' :: rest)) unpaired (':' :: rest)
  have colon : skipSpaces after.val = ':' :: rest := by
    rw [leaves]
    exact skip_spaces_ink (by decide)
  obtain ⟨last, marked, lastLeaves⟩ := after_mark_found colon
  rw [spelled]
  simp only [readKey, read, marked]
  exact ⟨_, rfl, lastLeaves⟩

theorem read_string_written {text : CodeText} (unpaired : Unpaired text) (rest : List Char) :
    Gives (readValue (writeString text ++ rest)) (.str text) rest := by
  have spelled : writeString text ++ rest =
      '"' :: (text.flatMap writePoint ++ '"' :: rest) := by
    simp [writeString]
  obtain ⟨after, read, leaves⟩ := read_body_written
    ('"' :: (text.flatMap writePoint ++ '"' :: rest)) unpaired rest
  rw [spelled, readValue]
  simp only [read]
  exact ⟨_, rfl, leaves⟩

theorem read_empty_array (rest : List Char) :
    Gives (readValue ('[' :: ']' :: rest)) (.arr []) rest := by
  obtain ⟨after, marked, leaves⟩ :=
    after_mark_found (skip_spaces_ink (show isSpace ']' = false by decide) : _ = ']' :: rest)
  rw [readValue]
  simp only [marked]
  exact ⟨_, rfl, leaves⟩

theorem read_array {text rest : List Char} {elements : List Json}
    (unfinished : ∃ first more, skipSpaces text = first :: more ∧ first ≠ ']')
    (inside : Gives (readElements (skipSpaces text)) elements rest) :
    Gives (readValue ('[' :: text)) (.arr elements) rest := by
  obtain ⟨first, more, skipped, unfinished⟩ := unfinished
  have unclosed := after_mark_absent skipped unfinished
  obtain ⟨after, read, leaves⟩ := inside
  rw [readValue]
  simp only [unclosed, read]
  exact ⟨_, rfl, leaves⟩

theorem read_empty_object (rest : List Char) :
    Gives (readValue ('\x7b' :: '\x7d' :: rest)) (.obj []) rest := by
  obtain ⟨after, marked, leaves⟩ :=
    after_mark_found (skip_spaces_ink (show isSpace '\x7d' = false by decide) : _ = '\x7d' :: rest)
  rw [readValue]
  simp only [marked]
  exact ⟨_, rfl, leaves⟩

theorem read_object {text rest : List Char} {members : List (CodeText × Json)}
    (unfinished : ∃ first more, skipSpaces text = first :: more ∧ first ≠ '\x7d')
    (inside : Gives (readMembers (skipSpaces text)) members rest) :
    Gives (readValue ('\x7b' :: text)) (ofMembers members) rest := by
  obtain ⟨first, more, skipped, unfinished⟩ := unfinished
  have unclosed := after_mark_absent skipped unfinished
  obtain ⟨after, read, leaves⟩ := inside
  rw [readValue]
  simp only [unclosed, read]
  exact ⟨_, rfl, leaves⟩

theorem read_scalar_value {text more rest : List Char} {first : Char} {value : Json}
    (spelled : text = first :: more) (noQuote : first ≠ '"') (noBracket : first ≠ '[')
    (noBrace : first ≠ '\x7b') (read : Gives (readScalar text) value rest) :
    Gives (readValue text) value rest := by
  subst spelled
  have scalar : readValue (first :: more) = readScalar (first :: more) := by
    rw [readValue]
    · exact fun others same => noQuote (List.cons.inj same).1
    · exact fun others same => noBracket (List.cons.inj same).1
    · exact fun others same => noBrace (List.cons.inj same).1
  rw [scalar]
  exact read

theorem insert_member_fresh {key : CodeText} (value : Json) {members : List (CodeText × Json)}
    (fresh : key ∉ members.map Prod.fst) :
    insertMember key value members = members ++ [(key, value)] := by
  induction members with
  | nil => rfl
  | cons member members induction =>
      obtain ⟨other, old⟩ := member
      rw [List.map_cons, List.mem_cons, not_or] at fresh
      rw [insertMember, if_neg (Ne.symm fresh.1), induction fresh.2, List.cons_append]

theorem lookup_cons_member (key other : CodeText) (value : Json)
    (members : List (CodeText × Json)) :
    ((key, value) :: members).lookup other =
      if other = key then some value else members.lookup other := by
  by_cases same : other = key
  · rw [if_pos same, same, List.lookup_cons_self]
  · rw [if_neg same, List.lookup_cons, beq_false_of_ne same]

theorem lookup_insert_member (key other : CodeText) (value : Json)
    (members : List (CodeText × Json)) :
    (insertMember key value members).lookup other =
      if other = key then some value else members.lookup other := by
  induction members with
  | nil => exact lookup_cons_member key other value []
  | cons member members induction =>
      obtain ⟨first, old⟩ := member
      by_cases same : first = key
      · rw [insertMember, if_pos same, lookup_cons_member, lookup_cons_member, same]
        split <;> rfl
      · rw [insertMember, if_neg same, lookup_cons_member, lookup_cons_member, induction]
        by_cases found : other = key
        · rw [if_pos found, if_pos found, if_neg (found ▸ Ne.symm same)]
        · rw [if_neg found, if_neg found]

/-- Of a repeated key an object has the value that stands last. -/
theorem lookup_of_members (members : List (CodeText × Json)) :
    ∃ object, ofMembers members = .obj object ∧
      ∀ key, object.lookup key = members.reverse.lookup key := by
  have folded : ∀ (members kept : List (CodeText × Json)) (key : CodeText),
      (members.foldl (fun object member => insertMember member.1 member.2 object) kept).lookup key =
        (members.reverse.lookup key).or (kept.lookup key) := by
    intro members
    induction members with
    | nil => exact fun kept key => rfl
    | cons member members induction =>
        intro kept key
        rw [List.foldl_cons, induction, lookup_insert_member, List.reverse_cons, List.lookup_append,
          Option.or_assoc, lookup_cons_member]
        by_cases same : key = member.1
        · rw [if_pos same, if_pos same, Option.some_or]
        · rw [if_neg same, if_neg same, List.lookup_nil, Option.none_or]
  refine ⟨_, rfl, fun key => ?_⟩
  rw [folded members [] key, List.lookup_nil, Option.or_none]

theorem insert_distinct {members kept : List (CodeText × Json)}
    (distinct : ((kept ++ members).map Prod.fst).Nodup) :
    members.foldl (fun object member => insertMember member.1 member.2 object) kept =
      kept ++ members := by
  induction members generalizing kept with
  | nil => rw [List.foldl_nil, List.append_nil]
  | cons member members induction =>
      -- The object grows at its end, so a key is fresh if it is none of those kept before.
      have fresh : member.1 ∉ kept.map Prod.fst := by
        rw [List.map_append, List.nodup_append] at distinct
        intro inside
        exact distinct.2.2 _ inside _ List.mem_cons_self rfl
      have moved : kept ++ member :: members = kept ++ [member] ++ members :=
        List.append_cons kept member members
      rw [List.foldl_cons, insert_member_fresh member.2 fresh, moved]
      apply induction
      rw [← moved]
      exact distinct

theorem of_distinct_members {members : List (CodeText × Json)}
    (distinct : (members.map Prod.fst).Nodup) : ofMembers members = .obj members := by
  rw [ofMembers, insert_distinct (by rwa [List.nil_append]), List.nil_append]

/-- What may begin a written value is no space and ends no array. -/
def BeginsValue (first : Char) : Prop :=
  isSpace first = false ∧ first ≠ ']' ∧ first ≠ '\ufeff'

instance (first : Char) : Decidable (BeginsValue first) :=
  inferInstanceAs (Decidable (_ ∧ _))

def BeginsNumber (first : Char) : Prop :=
  isAsciiDigit first = true ∨ first ∈ ['-', 'N', 'I']

theorem begins_number_ne {first other : Char} (begins : BeginsNumber first)
    (noDigit : isAsciiDigit other = false) (noLetter : other ∉ ['-', 'N', 'I']) :
    first ≠ other := by
  rcases begins with digit | listed
  · exact digit_ne digit noDigit
  · rintro rfl
    exact noLetter listed

theorem begins_number_value {first : Char} (begins : BeginsNumber first) : BeginsValue first := by
  have noSpace := begins_number_ne begins (show isAsciiDigit ' ' = false by decide) (by decide)
  have noTab := begins_number_ne begins (show isAsciiDigit '\t' = false by decide) (by decide)
  have noFeed := begins_number_ne begins (show isAsciiDigit '\n' = false by decide) (by decide)
  have noReturn := begins_number_ne begins (show isAsciiDigit '\r' = false by decide) (by decide)
  refine ⟨?_, begins_number_ne begins (by decide) (by decide),
    begins_number_ne begins (by decide) (by decide)⟩
  simp [isSpace, noSpace, noTab, noFeed, noReturn]

theorem signed_first (negative : Bool) (parts : NumberParts) :
    ∃ first more, NumberLayout.signText negative ++ parts.text = first :: more ∧
      BeginsNumber first := by
  cases negative with
  | true => exact ⟨_, _, rfl, Or.inr (by decide)⟩
  | false => exact ⟨_, _, rfl, Or.inl parts.firstDecimal⟩

theorem write_int_first (value : Int) :
    ∃ first more, writeInt value = first :: more ∧ BeginsNumber first := by
  obtain ⟨parts, spelled, -⟩ := NumberParts.natural_parts value.natAbs
  have begins := signed_first (decide (value < 0)) parts
  rwa [spelled, sign_of_int] at begins

theorem float_text_first (value : Binary64) :
    ∃ first more, NumberLayout.json.text value = first :: more ∧ BeginsNumber first := by
  cases value with
  | nan => exact ⟨_, _, rfl, Or.inr (by decide)⟩
  | infinity negative => cases negative <;> exact ⟨_, _, rfl, Or.inr (by decide)⟩
  | finite negative magnitude =>
      obtain ⟨parts, spelled, -⟩ := NumberParts.magnitude_parts magnitude
      have begins := signed_first negative parts
      rwa [spelled] at begins

theorem write_first (spacing : Spacing) (level : Nat) (value : Json) :
    ∃ first more, write spacing level value = first :: more ∧ BeginsValue first := by
  cases value with
  | null => exact ⟨_, _, rfl, by decide⟩
  | bool value => cases value <;> exact ⟨_, _, rfl, by decide⟩
  | int value =>
      obtain ⟨first, more, spelled, begins⟩ := write_int_first value
      exact ⟨first, more, spelled, begins_number_value begins⟩
  | float value =>
      obtain ⟨first, more, spelled, begins⟩ := float_text_first value
      exact ⟨first, more, spelled, begins_number_value begins⟩
  | str value => exact ⟨_, _, rfl, by decide⟩
  | arr elements => cases elements <;> exact ⟨_, _, rfl, by decide⟩
  | obj members => cases members <;> exact ⟨_, _, rfl, by decide⟩

theorem read_number_value {text more rest : List Char} {first : Char} {value : Json}
    (spelled : text = first :: more) (begins : BeginsNumber first)
    (read : Gives (readScalar (text ++ rest)) value rest) :
    Gives (readValue (text ++ rest)) value rest := by
  have shown : text ++ rest = first :: (more ++ rest) := by rw [spelled, List.cons_append]
  apply read_scalar_value shown _ _ _ read <;>
    exact begins_number_ne begins (by decide) (by decide)

theorem skip_to_written {gap : List Char} (spaces : ∀ character ∈ gap, isSpace character = true)
    (spacing : Spacing) (level : Nat) (value : Json) (rest : List Char) :
    skipSpaces (gap ++ (write spacing level value ++ rest)) =
      write spacing level value ++ rest := by
  obtain ⟨first, more, spelled, begins⟩ := write_first spacing level value
  rw [spelled]
  exact skip_spaces_gap spaces begins.1

theorem write_member_first (spacing : Spacing) (level : Nat) (member : CodeText × Json) :
    ∃ more, writeMember spacing level member = '"' :: more := by
  obtain ⟨key, value⟩ := member
  rw [writeMember]
  exact ⟨_, rfl⟩

theorem skip_to_member {gap : List Char} (spaces : ∀ character ∈ gap, isSpace character = true)
    (spacing : Spacing) (level : Nat) (member : CodeText × Json) (rest : List Char) :
    skipSpaces (gap ++ (writeMember spacing level member ++ rest)) =
      writeMember spacing level member ++ rest := by
  obtain ⟨more, named⟩ := write_member_first spacing level member
  rw [named]
  exact skip_spaces_gap spaces (by decide)

theorem ends_number_mark {mark : Char} (rest : List Char)
    (ends : isAsciiDigit mark = false ∧ mark ≠ '.' ∧ mark ≠ 'e' ∧ mark ≠ 'E') :
    EndsNumber (mark :: rest) := by
  rintro next ⟨⟩
  exact ends

theorem line_break_ends (spacing : Spacing) (level : Nat) {rest : List Char}
    (ended : EndsNumber rest) : EndsNumber (spacing.lineBreak level ++ rest) := by
  cases spacing with
  | oneLine => exact ended
  | lines indent => exact ends_number_mark _ (by decide)

def ReadsBack (spacing : Spacing) (value : Json) : Prop :=
  ∀ level rest, EndsNumber rest →
    Gives (readValue (write spacing level value ++ rest)) value rest

section Parts

variable {spacing : Spacing}

theorem write_elements_next (level : Nat) (next : Json) (elements : List Json)
    (rest : List Char) :
    ∃ gap, (∀ character ∈ gap, isSpace character = true) ∧
      writeElements spacing level (next :: elements) ++ rest =
        ',' :: (gap ++ (write spacing level next ++
          (writeElements spacing level elements ++ rest))) := by
  obtain ⟨gap, separated, spaces⟩ := spacing.separator_gap level
  refine ⟨gap, spaces, ?_⟩
  simp only [writeElements, separated, List.cons_append, List.append_assoc]

theorem write_members_next (level : Nat) (next : CodeText × Json) (members : List (CodeText × Json))
    (rest : List Char) :
    ∃ gap, (∀ character ∈ gap, isSpace character = true) ∧
      writeMembers spacing level (next :: members) ++ rest =
        ',' :: (gap ++ (writeMember spacing level next ++
          (writeMembers spacing level members ++ rest))) := by
  obtain ⟨gap, separated, spaces⟩ := spacing.separator_gap level
  refine ⟨gap, spaces, ?_⟩
  simp only [writeMembers, separated, List.cons_append, List.append_assoc]

theorem read_written_elements {element : Json} {elements : List Json}
    (each : ∀ inside ∈ element :: elements, ReadsBack spacing inside) (level outer : Nat)
    (rest : List Char) :
    Gives (readElements (write spacing level element ++ (writeElements spacing level elements ++
      (spacing.lineBreak outer ++ ']' :: rest)))) (element :: elements) rest := by
  induction elements generalizing element with
  | nil =>
      apply read_elements_last
      · apply each element List.mem_cons_self level
        exact line_break_ends spacing outer (ends_number_mark rest (by decide))
      · exact skip_spaces_gap (spacing.line_break_spaces outer) (by decide)
  | cons next elements induction =>
      obtain ⟨gap, spaces, spelled⟩ := write_elements_next level next elements
        (spacing.lineBreak outer ++ ']' :: rest)
      rw [spelled]
      apply read_elements_next
      · apply each element List.mem_cons_self level
        exact ends_number_mark _ (by decide)
      · exact skip_spaces_ink (by decide)
      · rw [skip_to_written spaces]
        apply induction
        exact fun inside later => each inside (List.mem_cons_of_mem element later)

theorem read_member_key (level : Nat) {member : CodeText × Json} (unpaired : Unpaired member.1)
    (rest : List Char) :
    Gives (readKey (writeMember spacing level member ++ rest)) member.1
      ([' '] ++ (write spacing level member.2 ++ rest)) := by
  obtain ⟨key, value⟩ := member
  have spelled : writeMember spacing level (key, value) ++ rest =
      writeString key ++ ':' :: ([' '] ++ (write spacing level value ++ rest)) := by
    simp only [writeMember, List.append_assoc, List.cons_append, List.nil_append]
  rw [spelled]
  exact read_key_written unpaired _

theorem read_written_members {member : CodeText × Json} {members : List (CodeText × Json)}
    (keys : ∀ inside ∈ member :: members, Unpaired inside.1)
    (each : ∀ inside ∈ member :: members, ReadsBack spacing inside.2) (level outer : Nat)
    (rest : List Char) :
    Gives (readMembers (writeMember spacing level member ++ (writeMembers spacing level members ++
      (spacing.lineBreak outer ++ '\x7d' :: rest)))) (member :: members) rest := by
  induction members generalizing member with
  | nil =>
      apply read_members_last (read_member_key level (keys member List.mem_cons_self) _)
      · rw [skip_to_written lone_space]
        apply each member List.mem_cons_self level
        exact line_break_ends spacing outer (ends_number_mark rest (by decide))
      · exact skip_spaces_gap (spacing.line_break_spaces outer) (by decide)
  | cons next members induction =>
      obtain ⟨gap, spaces, spelled⟩ := write_members_next level next members
        (spacing.lineBreak outer ++ '\x7d' :: rest)
      rw [spelled]
      apply read_members_next (read_member_key level (keys member List.mem_cons_self) _)
      · rw [skip_to_written lone_space]
        apply each member List.mem_cons_self level
        exact ends_number_mark _ (by decide)
      · exact skip_spaces_ink (by decide)
      · rw [skip_to_member spaces]
        apply induction
        · exact fun inside later => keys inside (List.mem_cons_of_mem member later)
        · exact fun inside later => each inside (List.mem_cons_of_mem member later)

/-- Written members make an object again, the last of a repeated key with its value. -/
theorem read_written_object {members : List (CodeText × Json)}
    (keys : ∀ inside ∈ members, Unpaired inside.1)
    (each : ∀ inside ∈ members, ReadsBack spacing inside.2) (level : Nat) (rest : List Char) :
    Gives (readValue (write spacing level (.obj members) ++ rest)) (ofMembers members) rest := by
  cases members with
  | nil => exact read_empty_object rest
  | cons member members =>
      have spelled : write spacing level (.obj (member :: members)) ++ rest =
          '\x7b' :: (spacing.lineBreak (level + 1) ++ (writeMember spacing (level + 1) member ++
            (writeMembers spacing (level + 1) members ++
              (spacing.lineBreak level ++ '\x7d' :: rest)))) := by
        simp only [write, List.cons_append, List.append_assoc, List.nil_append]
      have skipped := skip_to_member (spacing.line_break_spaces (level + 1)) spacing
        (level + 1) member (writeMembers spacing (level + 1) members ++
          (spacing.lineBreak level ++ '\x7d' :: rest))
      obtain ⟨more, named⟩ := write_member_first spacing (level + 1) member
      rw [spelled]
      apply read_object
      · rw [skipped, named]
        exact ⟨_, _, rfl, by decide⟩
      · rw [skipped]
        exact read_written_members keys each (level + 1) level rest

end Parts

/-- Every readable value is read back as it was written, with any spacing and at any level. -/
theorem reads_back {value : Json} (readable : Readable value) (spacing : Spacing) :
    ReadsBack spacing value := by
  -- The loops over elements and members take the induction hypothesis of each part.
  induction readable with
  | null =>
      intro level rest ended
      apply read_scalar_value rfl (by decide) (by decide) (by decide)
      exact read_scalar_word rfl
  | bool value =>
      intro level rest ended
      cases value <;>
        exact read_scalar_value rfl (by decide) (by decide) (by decide) (read_scalar_word rfl)
  | int short =>
      rename_i value
      intro level rest ended
      obtain ⟨first, more, spelled, begins⟩ := write_int_first value
      exact read_number_value spelled begins (read_int short ended)
  | float value =>
      intro level rest ended
      obtain ⟨first, more, spelled, begins⟩ := float_text_first value
      exact read_number_value spelled begins (read_float value ended)
  | str unpaired =>
      intro level rest ended
      exact read_string_written unpaired rest
  | @arr elements each induction =>
      intro level rest ended
      cases elements with
      | nil => exact read_empty_array rest
      | cons element elements =>
          have spelled : write spacing level (.arr (element :: elements)) ++ rest =
              '[' :: (spacing.lineBreak (level + 1) ++ (write spacing (level + 1) element ++
                (writeElements spacing (level + 1) elements ++
                  (spacing.lineBreak level ++ ']' :: rest)))) := by
            simp only [write, List.cons_append, List.append_assoc, List.nil_append]
          have skipped := skip_to_written (spacing.line_break_spaces (level + 1)) spacing
            (level + 1) element (writeElements spacing (level + 1) elements ++
              (spacing.lineBreak level ++ ']' :: rest))
          obtain ⟨first, more, shown, begins⟩ := write_first spacing (level + 1) element
          rw [spelled]
          apply read_array
          · rw [skipped, shown]
            exact ⟨_, _, rfl, begins.2.1⟩
          · rw [skipped]
            exact read_written_elements induction (level + 1) level rest
  | @obj members distinct keys each induction =>
      intro level rest ended
      have read := read_written_object keys induction level rest
      rw [of_distinct_members distinct] at read
      exact read

theorem read_whole_gives {text more : List Char} {first : Char} {value : Json}
    (spelled : text = first :: more) (noMark : first ≠ '\ufeff')
    (back : Gives (readValue (skipSpaces text)) value []) : readWhole text = .ok value := by
  obtain ⟨after, read, leaves⟩ := back
  rw [readWhole]
  · simp only [read, leaves]
    rfl
  · intro others same
    rw [spelled] at same
    exact noMark (List.cons.inj same).1

theorem read_written {value given : Json} {spacing : Spacing}
    (back : Gives (readValue (write spacing 0 value ++ [])) given []) :
    read (toText spacing value) = .ok given := by
  obtain ⟨first, more, spelled, ink, -, noMark⟩ := write_first spacing 0 value
  have skipped : skipSpaces (write spacing 0 value) = write spacing 0 value := by
    rw [spelled]
    exact skip_spaces_ink ink
  rw [List.append_nil, ← skipped] at back
  rw [read, toText, String.toList_ofList, read_whole_gives spelled noMark back]
  rfl

theorem read_to_text {value : Json} (readable : Readable value) (spacing : Spacing) :
    read (toText spacing value) = .ok value :=
  read_written (reads_back readable spacing 0 [] (fun _ absent => nomatch absent))

/-- Where members are written that no object could hold, the last of each key is read. -/
theorem read_repeated_members {members : List (CodeText × Json)}
    (keys : ∀ member ∈ members, Unpaired member.1)
    (each : ∀ member ∈ members, Readable member.2) (spacing : Spacing) :
    read (toText spacing (.obj members)) = .ok (ofMembers members) := by
  apply read_written
  apply read_written_object keys
  exact fun member inside => reads_back (each member inside) spacing

end ExprLexer.Json
