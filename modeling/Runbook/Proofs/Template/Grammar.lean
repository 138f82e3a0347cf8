import Runbook.Proofs.Template.Name

/-!
# The grammar of references

A reference is the name of a variable, any number of segments and perhaps the
ending that asks for escaping.  A segment is a name after a point, or a name in
brackets with blanks inside of them as one likes; digits in brackets are a
position if they fit a machine word.  What is read is what the grammar derives:
a text that is no reference is refused, and no segment of one that is gets lost.
-/

namespace Runbook.Template

variable {text here rest : List Char} {segment : Segment}
  {path : List Segment} {reference : Reference} {escape : Bool}

/-! ### The grammar -/

/-- What stands in brackets for a segment: a numeral that fits a machine word
for the position, and any other text of name characters for the variable with
this name. -/
inductive Segment.Bracketed : Segment → List Char → Prop
  | index {text : List Char} {position : Nat}
      (numeral : IsNumeral text position) : Bracketed (.index position) text
  | indexFrom {name : String} (isKey : IsKey name.toList)
      (noNumeral : ∀ number, ¬ IsNumeral name.toList number) :
      Bracketed (.indexFrom name) name.toList

/-- A segment is written with some characters. -/
inductive Segment.Written : Segment → List Char → Prop
  | key {name : String} (isKey : IsKey name.toList) :
      Written (.key name) ('.' :: name.toList)
  | bracket {segment : Segment} {before text after : List Char}
      (blanksBefore : ∀ character ∈ before, Text.isBlank character = true)
      (bracketed : segment.Bracketed text)
      (blanksAfter : ∀ character ∈ after, Text.isBlank character = true) :
      Written segment ('[' :: before ++ text ++ after ++ [']'])

/-- Segments are written one after the other. -/
inductive SegmentsWritten : List Segment → List Char → Prop
  | nil : SegmentsWritten [] []
  | cons {segment : Segment} {path : List Segment} {here rest : List Char}
      (written : segment.Written here) (others : SegmentsWritten path rest) :
      SegmentsWritten (segment :: path) (here ++ rest)

/-- The ending of a reference. -/
def ending (escape : Bool) : List Char :=
  if escape then [':', 'j', 's', 'o', 'n'] else []

/-- A reference is written as the name of its variable, its segments and the
ending. -/
inductive Reference.Written : Reference → List Char → Prop
  | mk {root : String} {path : List Segment} {text : List Char} {escape : Bool}
      (isName : IsName root.toList) (written : SegmentsWritten path text) :
      Written ⟨root, path, escape⟩ (root.toList ++ text ++ ending escape)

/-! ### Segments are found where they are written -/

theorem Segment.bracketed_iff :
    segment.Bracketed text ↔ IsKey text ∧ Segment.ofBracket text = segment := by
  constructor
  · intro bracketed
    cases bracketed with
    | index numeral =>
        have isKey := numeral.isKey
        refine ⟨isKey, ?_⟩
        rw [ofBracket, isKey.natural?_eq_some_iff.2 numeral]
    | @indexFrom name isKey noNumeral =>
        have unread : Reading.natural? name.toList = none := by
          rw [Option.eq_none_iff_forall_ne_some]
          exact fun number read =>
            noNumeral number (isKey.natural?_eq_some_iff.1 read)
        refine ⟨isKey, ?_⟩
        rw [ofBracket, unread]
        exact congrArg Segment.indexFrom String.ofList_toList
  · rintro ⟨isKey, rfl⟩
    cases read : Reading.natural? text with
    | some position =>
        rw [ofBracket, read]
        exact .index (isKey.natural?_eq_some_iff.1 read)
    | none =>
        have noNumeral (number : Nat) : ¬ IsNumeral text number := by
          intro numeral
          rw [isKey.natural?_eq_some_iff.2 numeral] at read
          cases read
        rw [ofBracket, read]
        rw [← String.toList_ofList (l := text)] at isKey noNumeral
        simpa using Bracketed.indexFrom isKey noNumeral

/-- The segment that stands at the beginning of a text, and what comes after
it. -/
def Segment.begin? : List Char → Option (Segment × List Char)
  | '.' :: rest =>
    let name := rest.takeWhile isNameChar
    if name.isEmpty then none
    else some (.key (String.ofList name), rest.dropWhile isNameChar)
  | '[' :: rest =>
    let name := (Text.trimLeft rest).takeWhile isNameChar
    if name.isEmpty then none
    else
      match Text.trimLeft ((Text.trimLeft rest).dropWhile isNameChar) with
      | ']' :: after => some (ofBracket name, after)
      | _ => none
  | _ => none

theorem Segment.Written.begin?_append (written : segment.Written here)
    (apart : Apart rest) :
    Segment.begin? (here ++ rest) = some (segment, rest) := by
  cases written with
  | @key name isKey =>
      obtain ⟨taken, dropped⟩ := takeWhile_isNameChar isKey.isNameChar apart
      rw [List.cons_append, Segment.begin?]
      simp only [taken, dropped, List.isEmpty_eq_false_iff.2 isKey.nonempty,
        Bool.false_eq_true, if_false, String.ofList_toList]
  | @bracket _ before text after blanksBefore bracketed blanksAfter =>
      obtain ⟨isKey, rfl⟩ := Segment.bracketed_iff.1 bracketed
      have apart : Apart (after ++ ']' :: rest) := by
        intro character begins
        cases after with
        | nil =>
            cases begins
            decide
        | cons blank blanks =>
            cases begins
            exact isNameChar_of_isBlank (blanksAfter _ List.mem_cons_self)
      have begins : ∀ character ∈ (text ++ (after ++ ']' :: rest)).head?,
          Text.isBlank character = false := by
        obtain ⟨first, others, rfl⟩ :=
          List.exists_cons_of_ne_nil isKey.nonempty
        rintro _ ⟨⟩
        exact isBlank_of_isNameChar (isKey.isNameChar _ List.mem_cons_self)
      obtain ⟨taken, dropped⟩ := takeWhile_isNameChar isKey.isNameChar apart
      have inside := trimLeft_append blanksBefore begins
      have closing : Text.trimLeft (after ++ ']' :: rest) = ']' :: rest := by
        refine trimLeft_append blanksAfter ?_
        rintro _ ⟨⟩
        decide
      have same : '[' :: before ++ text ++ after ++ [']'] ++ rest =
          '[' :: (before ++ (text ++ (after ++ ']' :: rest))) := by simp
      rw [same, Segment.begin?]
      simp only [inside, taken, dropped, closing,
        List.isEmpty_eq_false_iff.2 isKey.nonempty, Bool.false_eq_true,
        if_false]

theorem Segment.exists_written_of_begin?
    (found : Segment.begin? text = some (segment, rest)) :
    ∃ here, segment.Written here ∧ text = here ++ rest := by
  unfold Segment.begin? at found
  split at found
  · next others =>
      dsimp only at found
      split at found
      · cases found
      · next nonempty =>
          cases found
          have isKey := isKey_takeWhile (mt List.isEmpty_iff.2 nonempty)
          rw [← String.toList_ofList (l := others.takeWhile _)] at isKey
          refine ⟨_, .key isKey, ?_⟩
          simp
  · next others =>
      dsimp only at found
      split at found
      · cases found
      · next nonempty =>
          have isKey := isKey_takeWhile (mt List.isEmpty_iff.2 nonempty)
          split at found
          · next after closed =>
              cases found
              obtain ⟨before, blanksBefore, onLeft⟩ := exists_blanks others
              obtain ⟨blanks, blanksAfter, onRight⟩ :=
                exists_blanks ((Text.trimLeft others).dropWhile isNameChar)
              have bracketed := Segment.bracketed_iff.2 ⟨isKey, rfl⟩
              refine ⟨_, .bracket blanksBefore bracketed blanksAfter, ?_⟩
              rw [closed] at onRight
              calc '[' :: others
                  = '[' :: (before ++
                      ((Text.trimLeft others).takeWhile isNameChar ++
                        (Text.trimLeft others).dropWhile isNameChar)) := by
                    rw [List.takeWhile_append_dropWhile, onLeft]
                _ = _ := by
                    rw [← onRight]
                    simp
          · cases found
  · cases found

/-! ### Paths -/

theorem Segment.Written.apart (written : segment.Written here) :
    Apart (here ++ rest) := by
  cases written with
  | key isKey => simpa [Apart] using (by decide : isNameChar '.' = false)
  | bracket blanksBefore bracketed blanksAfter =>
      simpa [Apart] using (by decide : isNameChar '[' = false)

theorem SegmentsWritten.apart (written : SegmentsWritten path text)
    (others : Apart rest) : Apart (text ++ rest) := by
  cases written with
  | nil => exact others
  | cons here written =>
      rw [List.append_assoc]
      exact here.apart

theorem apart_ending (escape : Bool) : Apart (ending escape) := by
  cases escape <;> simp [Apart, ending, isNameChar, Text.isWord]

/-- Reading a path is reading its first segment and then the others. -/
theorem readPath?_of_begin?
    (found : Segment.begin? text = some (segment, rest)) :
    readPath? text =
      (readPath? rest).map fun read => (segment :: read.1, read.2) := by
  unfold Segment.begin? at found
  split at found
  · rw [readPath?]
    dsimp only at found ⊢
    split at found
    · cases found
    · next nonempty =>
        cases found
        rw [if_neg nonempty]
  · rw [readPath?]
    dsimp only at found ⊢
    split at found
    · cases found
    · next nonempty =>
        rw [if_neg nonempty]
        split at found
        · next closed =>
            cases found
            split
            · next same =>
                rw [closed] at same
                cases same
                rfl
            · next unclosed => exact (unclosed _ closed).elim
        · cases found
  · cases found

/-- Where no segment begins, a path is read only if the text is its ending. -/
theorem ending_of_readPath? (none : Segment.begin? text = none)
    (read : readPath? text = some (path, escape)) :
    path = [] ∧ text = ending escape := by
  unfold readPath? at read
  split at read
  · cases read
    exact ⟨rfl, rfl⟩
  · obtain ⟨rfl, same⟩ := Option.ite_none_right_eq_some.1 read
    cases same
    exact ⟨rfl, rfl⟩
  · dsimp only at read
    rw [Segment.begin?] at none
    split at read
    · cases read
    · next nonempty =>
        rw [if_neg nonempty] at none
        cases none
  · dsimp only at read
    rw [Segment.begin?] at none
    split at read
    · cases read
    · next nonempty =>
        rw [if_neg nonempty] at none
        split at read
        · next closed =>
            rw [closed] at none
            cases none
        · cases read
  · cases read

theorem SegmentsWritten.readPath?_append (written : SegmentsWritten path here)
    (escape : Bool) :
    readPath? (here ++ ending escape) = some (path, escape) := by
  induction written with
  | nil => cases escape <;> simp [ending, readPath?]
  | cons first others ih =>
      have begins := first.begin?_append 
        (others.apart (apart_ending escape))
      rw [List.append_assoc, readPath?_of_begin? begins, ih]
      rfl

theorem exists_written_of_readPath?
    (read : readPath? text = some (path, escape)) :
    ∃ here, SegmentsWritten path here ∧ text = here ++ ending escape := by
  induction path generalizing text with
  | nil =>
      cases found : Segment.begin? text with
      | none =>
          obtain ⟨-, same⟩ := ending_of_readPath? found read
          exact ⟨[], .nil, same⟩
      | some found? =>
          rw [readPath?_of_begin? found] at read
          obtain ⟨_, _, same⟩ := Option.map_eq_some_iff.1 read
          cases same
  | cons segment path ih =>
      cases found : Segment.begin? text with
      | none =>
          obtain ⟨empty, -⟩ := ending_of_readPath? found read
          cases empty
      | some found? =>
          rw [readPath?_of_begin? found] at read
          obtain ⟨⟨_, _⟩, readRest, same⟩ := Option.map_eq_some_iff.1 read
          cases same
          obtain ⟨here, written, text_eq⟩ :=
            Segment.exists_written_of_begin? found
          obtain ⟨others, writtenRest, rest_eq⟩ := ih readRest
          refine ⟨here ++ others, .cons written writtenRest, ?_⟩
          rw [text_eq, rest_eq, List.append_assoc]

/-! ### References -/

theorem Reference.readTrimmed?_eq_some_iff :
    Reference.readTrimmed? text = some reference ↔ reference.Written text := by
  constructor
  · intro read
    cases text with
    | nil => cases read
    | cons first rest =>
        obtain ⟨begins, read⟩ := Option.ite_none_right_eq_some.1 read
        obtain ⟨⟨path, escape⟩, readPath, rfl⟩ := Option.map_eq_some_iff.1 read
        obtain ⟨here, written, rest_eq⟩ := exists_written_of_readPath? readPath
        have isName : IsName (String.ofList
            (first :: rest.takeWhile isNameChar)).toList := by
          rw [String.toList_ofList]
          refine ⟨⟨List.cons_ne_nil _ _, ?_⟩, ?_⟩
          · rw [List.forall_mem_cons]
            exact ⟨isNameChar_of_isNameStart begins,
              fun _ => List.mem_takeWhile_imp⟩
          · rintro _ ⟨⟩
            exact begins
        have text_eq : first :: rest = (String.ofList
            (first :: rest.takeWhile isNameChar)).toList ++ here ++
              ending escape := by
          rw [String.toList_ofList, List.append_assoc, ← rest_eq,
            List.cons_append, List.takeWhile_append_dropWhile]
        rw [text_eq]
        exact .mk isName written
  · rintro ⟨isName, written⟩
    rename_i root path here escape
    obtain ⟨first, rest, same⟩ :=
      List.exists_cons_of_ne_nil isName.nonempty
    have begins := isName.begins first (by rw [same]; rfl)
    have named := isName.isNameChar
    rw [same, List.forall_mem_cons] at named
    have apart := written.apart (apart_ending escape)
    obtain ⟨taken, dropped⟩ := takeWhile_isNameChar named.2 apart
    rw [same, List.append_assoc, List.cons_append, readTrimmed?, if_pos begins,
      taken, dropped, written.readPath?_append, ← same]
    simp

/-! ### The characters of a reference -/

/-- The characters of which references are written. -/
def IsReferenceChar (character : Char) : Prop :=
  isNameChar character = true ∨ Text.isBlank character = true ∨
    character ∈ ['.', '[', ']', ':']

instance : DecidablePred IsReferenceChar := fun character =>
  inferInstanceAs (Decidable (isNameChar character = true ∨
    Text.isBlank character = true ∨ character ∈ ['.', '[', ']', ':']))

theorem IsKey.isReferenceChar (isKey : IsKey text) :
    ∀ character ∈ text, IsReferenceChar character :=
  fun character member => .inl (isKey.isNameChar character member)

theorem Segment.Bracketed.isKey (bracketed : segment.Bracketed text) :
    IsKey text :=
  (Segment.bracketed_iff.1 bracketed).1

theorem Segment.Written.isReferenceChar (written : segment.Written here) :
    ∀ character ∈ here, IsReferenceChar character := by
  have mark : ∀ character ∈ ['.', '[', ']', ':'],
      IsReferenceChar character := fun _ member => .inr (.inr member)
  have blank (blanks : List Char)
      (isBlank : ∀ character ∈ blanks, Text.isBlank character = true) :
      ∀ character ∈ blanks, IsReferenceChar character :=
    fun character member => .inr (.inl (isBlank character member))
  cases written with
  | key isKey =>
      rw [List.forall_mem_cons]
      exact ⟨mark _ (by simp), isKey.isReferenceChar⟩
  | bracket blanksBefore bracketed blanksAfter =>
      simp only [List.cons_append, List.forall_mem_cons, List.forall_mem_append,
        List.not_mem_nil, false_implies, implies_true, and_true]
      exact ⟨mark _ (by simp), ⟨⟨blank _ blanksBefore,
        bracketed.isKey.isReferenceChar⟩, blank _ blanksAfter⟩,
        mark _ (by simp)⟩

theorem SegmentsWritten.isReferenceChar (written : SegmentsWritten path here) :
    ∀ character ∈ here, IsReferenceChar character := by
  induction written with
  | nil => simp
  | cons first others ih =>
      rw [List.forall_mem_append]
      exact ⟨first.isReferenceChar, ih⟩

theorem Reference.Written.isReferenceChar (written : reference.Written text) :
    ∀ character ∈ text, IsReferenceChar character := by
  obtain ⟨isName, segments⟩ := written
  rename_i escape
  rw [List.forall_mem_append, List.forall_mem_append]
  refine ⟨⟨isName.isReferenceChar, segments.isReferenceChar⟩, ?_⟩
  cases escape <;> simp [ending, IsReferenceChar, isNameChar, Text.isWord]

theorem written_of_read? {text : String}
    (read : Reference.read? text = some reference) :
    reference.Written (Text.trimBoth text.toList) :=
  Reference.readTrimmed?_eq_some_iff.1 read

/-- What is skipped and what is left are all of a text. -/
theorem forall_of_dropWhile {property : Char → Prop} {skips : Char → Bool}
    {text : List Char} (skipped : ∀ character, skips character = true →
      property character)
    (left : ∀ character ∈ text.dropWhile skips, property character) :
    ∀ character ∈ text, property character := by
  rw [← List.takeWhile_append_dropWhile (p := skips) (l := text)]
  rw [List.forall_mem_append]
  exact ⟨fun character member =>
    skipped character (List.mem_takeWhile_imp member), left⟩

/-- A reference is written with a few kinds of characters only. -/
theorem isReferenceChar_of_read? {text : String}
    (found : Reference.read? text = some reference) :
    ∀ character ∈ text.toList, IsReferenceChar character := by
  have blank (character : Char) (isBlank : Text.isBlank character = true) :
      IsReferenceChar character := .inr (.inl isBlank)
  have trimmed := (written_of_read? found).isReferenceChar
  refine forall_of_dropWhile blank fun character member => ?_
  rw [← Text.trimLeft, ← List.mem_reverse] at member
  refine forall_of_dropWhile blank (fun character member => ?_) character
    member
  exact trimmed character (List.mem_reverse.2 member)

/-- No brace ends a token within a reference. -/
theorem noBrace_of_read? {text : String}
    (found : Reference.read? text = some reference) : '}' ∉ text.toList :=
  fun member => absurd (isReferenceChar_of_read? found _ member) (by decide)

/-- No text that ends so is trimmed at its end. -/
def EndsNotBlank (text : List Char) : Prop :=
  ∀ character ∈ text.getLast?, Text.isBlank character = false

theorem EndsNotBlank.append (first : EndsNotBlank text)
    (second : EndsNotBlank rest) : EndsNotBlank (text ++ rest) := by
  intro character last
  rw [List.getLast?_append, Option.mem_def, Option.or_eq_some_iff] at last
  rcases last with last | ⟨-, last⟩
  · exact second character last
  · exact first character last

theorem IsKey.endsNotBlank (isKey : IsKey text) : EndsNotBlank text :=
  fun character last => isBlank_of_isNameChar
    (isKey.isNameChar character (List.mem_of_getLast? last))

theorem Segment.Written.endsNotBlank (written : segment.Written here) :
    EndsNotBlank here := by
  cases written with
  | @key name isKey =>
      have point : EndsNotBlank ['.'] := by
        rintro _ ⟨⟩
        decide
      exact point.append isKey.endsNotBlank
  | bracket blanksBefore bracketed blanksAfter =>
      unfold EndsNotBlank
      rw [List.getLast?_concat]
      rintro _ ⟨⟩
      decide

theorem SegmentsWritten.endsNotBlank (written : SegmentsWritten path here) :
    EndsNotBlank here := by
  induction written with
  | nil => simp [EndsNotBlank]
  | cons first others ih => exact first.endsNotBlank.append ih

/-- The blanks around a reference do not count. -/
theorem Reference.Written.trimBoth (written : reference.Written text)
    {before after : List Char}
    (blanksBefore : ∀ character ∈ before, Text.isBlank character = true)
    (blanksAfter : ∀ character ∈ after, Text.isBlank character = true) :
    Text.trimBoth (before ++ text ++ after) = text := by
  refine Text.trimBoth_append blanksBefore blanksAfter ?_ ?_
  · obtain ⟨isName, segments⟩ := written
    obtain ⟨first, others, same⟩ :=
      List.exists_cons_of_ne_nil isName.nonempty
    rw [same]
    rintro _ ⟨⟩
    exact isBlank_of_isNameChar (isName.isNameChar _ (by simp [same]))
  · obtain ⟨isName, segments⟩ := written
    rename_i escape
    have ends : EndsNotBlank (ending escape) := by
      cases escape with
      | false => simp [EndsNotBlank, ending]
      | true =>
          rintro _ ⟨⟩
          decide
    exact (isName.endsNotBlank.append segments.endsNotBlank).append ends

theorem Reference.Written.read?_eq {text : String}
    (written : reference.Written text.toList) :
    Reference.read? text = some reference := by
  have trimmed : Text.trimBoth ([] ++ text.toList ++ []) = text.toList :=
    written.trimBoth (by simp) (by simp)
  rw [List.nil_append, List.append_nil] at trimmed
  rw [Reference.read?, trimmed]
  exact Reference.readTrimmed?_eq_some_iff.2 written

/-! ### Searching for segments -/

theorem Segment.length_lt_of_begin?
    (found : Segment.begin? text = some (segment, rest)) :
    rest.length < text.length := by
  obtain ⟨here, written, rfl⟩ := Segment.exists_written_of_begin? found
  have begins : 0 < here.length := by
    cases written <;> exact Nat.succ_pos _
  rw [List.length_append]
  omega

/-- The segments that are found in a text from the left to the right, where a
character at which none begins is skipped. -/
def segmentsIn (text : List Char) : List Segment :=
  match _found : Segment.begin? text with
  | some (segment, rest) => segment :: segmentsIn rest
  | none =>
    match text with
    | [] => []
    | _ :: rest => segmentsIn rest
termination_by text.length
decreasing_by
  · exact Segment.length_lt_of_begin? _found
  · simp

/-- The search for segments skips nothing of what the grammar derives. -/
theorem SegmentsWritten.segmentsIn_eq (written : SegmentsWritten path here) :
    segmentsIn here = path := by
  induction written with
  | nil =>
      rw [segmentsIn]
      rfl
  | @cons segment path here rest first others ih =>
      have apart : Apart (rest ++ []) := others.apart (by simp [Apart])
      rw [List.append_nil] at apart
      have begins := first.begin?_append apart
      rw [segmentsIn]
      split
      · next found =>
          rw [begins] at found
          cases found
          rw [ih]
      · next found =>
          rw [begins] at found
          cases found

/-! ### Writing references -/

/-- Any number of blanks. -/
structure Blanks where
  text : List Char
  isBlank : ∀ character ∈ text, Text.isBlank character = true

/-- A segment is written out, with blanks inside its brackets. -/
def Segment.write (inside : Blanks × Blanks) : Segment → List Char
  | .key name => '.' :: name.toList
  | .index position =>
    '[' :: inside.1.text ++ Nat.toDigits 10 position ++ inside.2.text ++ [']']
  | .indexFrom name =>
    '[' :: inside.1.text ++ name.toList ++ inside.2.text ++ [']']

/-- The segments are written out one after the other, each with blanks of its
own inside its brackets. -/
def writePath (inside : Nat → Blanks × Blanks) (path : List Segment) :
    List Char :=
  (path.mapIdx fun place segment => segment.write (inside place)).flatten

/-- A reference is written out, with blanks around it. -/
def Reference.write (around : Blanks × Blanks)
    (inside : Nat → Blanks × Blanks) (reference : Reference) : String :=
  String.ofList (around.1.text ++ (reference.root.toList ++
    writePath inside reference.path ++ ending reference.jsonEscape) ++
      around.2.text)

/-- A segment that is one of the grammar: names are of name characters, a
position fits a machine word, and a variable in brackets is not taken for a
position. -/
def Segment.IsWritable : Segment → Prop
  | .key name => IsKey name.toList
  | .index position => position < 2 ^ 64
  | .indexFrom name =>
    IsKey name.toList ∧ ∀ number, ¬ IsNumeral name.toList number

/-- A reference that is one of the grammar. -/
structure Reference.IsWritable (reference : Reference) : Prop where
  isName : IsName reference.root.toList
  segments : ∀ segment ∈ reference.path, segment.IsWritable

theorem isNumeral_toDigits {position : Nat} (fits : position < 2 ^ 64) :
    IsNumeral (Nat.toDigits 10 position) position where
  nonempty := Nat.toDigits_ne_nil
  isDigit _ member := Nat.isDigit_of_mem_toDigits (by decide) (by decide) member
  value := Nat.ofDigitChars_ten_toDigits
  fits := fits

theorem Segment.IsWritable.written (writable : segment.IsWritable)
    (inside : Blanks × Blanks) : segment.Written (segment.write inside) := by
  cases segment with
  | key name => exact .key writable
  | index position =>
      exact .bracket inside.1.isBlank (.index (isNumeral_toDigits writable))
        inside.2.isBlank
  | indexFrom name =>
      exact .bracket inside.1.isBlank (.indexFrom writable.1 writable.2)
        inside.2.isBlank

theorem Segment.Written.isWritable (written : segment.Written here) :
    segment.IsWritable := by
  cases written with
  | key isKey => exact isKey
  | bracket blanksBefore bracketed blanksAfter =>
      cases bracketed with
      | index numeral => exact numeral.fits
      | indexFrom isKey noNumeral => exact ⟨isKey, noNumeral⟩

theorem segmentsWritten_writePath
    (writable : ∀ segment ∈ path, segment.IsWritable)
    (inside : Nat → Blanks × Blanks) :
    SegmentsWritten path (writePath inside path) := by
  induction path generalizing inside with
  | nil => exact .nil
  | cons segment path ih =>
      rw [List.forall_mem_cons] at writable
      have others := ih writable.2 fun place => inside (place + 1)
      rw [writePath, List.mapIdx_cons, List.flatten_cons]
      exact .cons (writable.1.written _) others

theorem SegmentsWritten.isWritable (written : SegmentsWritten path here) :
    ∀ segment ∈ path, segment.IsWritable := by
  induction written with
  | nil => simp
  | cons first others ih =>
      rw [List.forall_mem_cons]
      exact ⟨first.isWritable, ih⟩

/-- A text is read as a reference exactly if the grammar derives it for that
reference, blanks around it aside.  Then a search for segments in what stands
between the name and the ending finds the segments of the reference and no
others, so none is lost.  And a reference of the grammar that is written out is
read again as itself, whatever blanks are put around it and inside of its
brackets. -/
theorem read?_eq_some_iff_written (text : String) (reference : Reference) :
    (Reference.read? text = some reference ↔
        reference.Written (Text.trimBoth text.toList)) ∧
      (Reference.read? text = some reference →
        reference.IsWritable ∧ ∃ path, segmentsIn path = reference.path ∧
          Text.trimBoth text.toList =
            reference.root.toList ++ path ++ ending reference.jsonEscape) ∧
      (reference.IsWritable → ∀ around inside,
        Reference.read? (reference.write around inside) = some reference) := by
  refine ⟨Reference.readTrimmed?_eq_some_iff, fun read => ?_,
    fun writable around inside => ?_⟩
  · generalize Text.trimBoth text.toList = trimmed,
      written_of_read? read = written
    obtain ⟨isName, segments⟩ := written
    exact ⟨⟨isName, segments.isWritable⟩, _, segments.segmentsIn_eq, rfl⟩
  · have written : reference.Written (reference.root.toList ++
        writePath inside reference.path ++ ending reference.jsonEscape) :=
      .mk writable.isName (segmentsWritten_writePath writable.segments inside)
    rw [Reference.read?, Reference.write, String.toList_ofList,
      written.trimBoth around.1.isBlank around.2.isBlank]
    exact Reference.readTrimmed?_eq_some_iff.2 written

/-- A blank and a tab. -/
def someBlanks : Blanks := ⟨[' ', '\t'], List.all_eq_true.1 rfl⟩

/-- Inside of the brackets of each segment one more blank than before. -/
def growingBlanks (place : Nat) : Blanks × Blanks :=
  (someBlanks, ⟨List.replicate place ' ', fun _ member =>
    (List.eq_of_mem_replicate member).symm ▸ by decide⟩)

/-- A reference to an item of a list by its position, and in it to an item at
the position that a variable holds whose name has too many digits. -/
def stepped : Reference :=
  ⟨"order", [.key "items", .index 7, .indexFrom "18446744073709551616"], true⟩

theorem isWritable_stepped : stepped.IsWritable := by
  have isName : IsName stepped.root.toList :=
    { isKey_of_all (by decide +kernel) (by decide +kernel) with
      begins := (Option.all_eq_true _ _).1 (by decide +kernel) }
  have items : (Segment.key "items").IsWritable :=
    isKey_of_all (by decide +kernel) (by decide +kernel)
  have index : (Segment.index 7).IsWritable := by
    unfold Segment.IsWritable
    decide
  have isKey : IsKey "18446744073709551616".toList :=
    isKey_of_all (by decide +kernel) (by decide +kernel)
  have tooLong (number : Nat) :
      ¬ IsNumeral "18446744073709551616".toList number := by
    intro numeral
    have value : Nat.ofDigitChars 10 "18446744073709551616".toList 0 =
        2 ^ 64 := by
      decide +kernel
    exact Nat.ne_of_lt numeral.fits (numeral.value.symm.trans value)
  refine ⟨isName, ?_⟩
  simp only [stepped, List.forall_mem_cons, List.not_mem_nil,
    false_implies, implies_true, and_true]
  exact ⟨items, index, isKey, tooLong⟩

theorem read?_eq_some_iff_written_stepped :
    stepped.IsWritable ∧
      stepped.write (someBlanks, someBlanks) growingBlanks =
        " \torder.items[ \t7 ][ \t18446744073709551616  ]:json \t" ∧
      Reference.read?
          " \torder.items[ \t7 ][ \t18446744073709551616  ]:json \t" =
        some stepped ∧
      stepped.Written
        "order.items[ \t7 ][ \t18446744073709551616  ]:json".toList := by
  have same : stepped.write (someBlanks, someBlanks) growingBlanks =
      " \torder.items[ \t7 ][ \t18446744073709551616  ]:json \t" := by
    decide +kernel
  have trimmed : Text.trimBoth
      " \torder.items[ \t7 ][ \t18446744073709551616  ]:json \t".toList =
        "order.items[ \t7 ][ \t18446744073709551616  ]:json".toList := by
    decide +kernel
  obtain ⟨derived, -, again⟩ := read?_eq_some_iff_written
    " \torder.items[ \t7 ][ \t18446744073709551616  ]:json \t" stepped
  have read := again isWritable_stepped (someBlanks, someBlanks) growingBlanks
  rw [same] at read
  rw [trimmed] at derived
  exact ⟨isWritable_stepped, same, read, derived.1 read⟩

end Runbook.Template
