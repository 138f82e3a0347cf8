import Runbook.Proofs.Json.Indented
import Runbook.Proofs.Text.Pieces
import Runbook.Remote.Client

/-!
# The last event of a stream

The lines of a stream make up events, each of which ends with a blank line or
with the stream.  A line of data carries one line of the text of a value, and
other lines carry nothing.  However the texts of the values are broken into
lines, the client finds the value of the last event that has one.
-/

namespace Runbook.EventStream

open Text (AreBlank)

/-- What a line of data begins with. -/
def dataMark : List Char := "data:".toList

/-- A line that is neither blank nor one of data: the kind of an event, a number
for it, a comment. -/
structure IsRemark (line : List Char) : Prop where
  not_blank : ¬ AreBlank line
  not_data : ∀ rest, line ≠ dataMark ++ rest

/-- The lines of one event and what its lines of data carry after the blanks
with which they may begin. -/
inductive Carries : (lines chunks : List (List Char)) → Prop
  | nil : Carries [] []
  | remark {line : List Char} {lines chunks : List (List Char)}
      (isRemark : IsRemark line) (rest : Carries lines chunks) :
      Carries (line :: lines) chunks
  | data {blanks chunk : List Char} {lines chunks : List (List Char)}
      (blank : AreBlank blanks) (rest : Carries lines chunks) :
      Carries ((dataMark ++ blanks ++ chunk) :: lines) (chunk :: chunks)

/-- The lines of a stream and what its events carry, the first one first.  A
blank line ends an event, and so does the end of the stream. -/
inductive IsStream : List (List Char) → List (List (List Char)) → Prop
  | last {lines chunks : List (List Char)} (carries : Carries lines chunks) :
      IsStream lines [chunks]
  | event {lines chunks more : List (List Char)} {line : List Char}
      {events : List (List (List Char))} (carries : Carries lines chunks)
      (blank : AreBlank line) (rest : IsStream more events) :
      IsStream (lines ++ line :: more) (chunks :: events)

/-- The events of a stream that carry anything at all. -/
def bearing (events : List (List (List Char))) : List (List (List Char)) :=
  events.filter fun chunks => !chunks.isEmpty

/-- The payload of an event that carries lines of text. -/
def assemble (chunks : List (List Char)) : List Char :=
  ['\n'].intercalate (chunks.map Text.trimLeft)

/-! ### Lines of one kind -/

variable {payload line blanks chunk : List Char}
  {lines chunks : List (List Char)}

theorem not_areBlank_data (rest : List Char) :
    ¬ AreBlank (dataMark ++ rest) := by
  intro blank
  have isBlank := blank 'd' (by simp [dataMark])
  exact absurd isBlank (by decide)

theorem afterStart?_eq_none_iff :
    Text.afterStart? dataMark line = none ↔
      ∀ rest, line ≠ dataMark ++ rest := by
  rw [Option.eq_none_iff_forall_ne_some]
  exact forall_congr' fun rest => not_congr Text.afterStart?_eq_some_iff

theorem payloadsFrom_data (payload chunk : List Char)
    (rest : List (List Char)) :
    payloadsFrom payload ((dataMark ++ chunk) :: rest) =
      payloadsFrom (extend payload (Text.trimLeft chunk)) rest := by
  have begins : Text.afterStart? "data:".toList (dataMark ++ chunk) =
      some chunk := Text.afterStart?_eq_some_iff.2 rfl
  rw [payloadsFrom, begins]

theorem IsRemark.payloadsFrom (isRemark : IsRemark line)
    (rest : List (List Char)) :
    payloadsFrom payload (line :: rest) = payloadsFrom payload rest := by
  have other : Text.afterStart? "data:".toList line = none :=
    afterStart?_eq_none_iff.2 isRemark.not_data
  have notBlank : line.all Text.isBlank = false := by
    rw [← Bool.not_eq_true, List.all_eq_true]
    exact isRemark.not_blank
  rw [EventStream.payloadsFrom, other, notBlank]
  rfl

/-- A blank line ends the event before it, if it has a payload. -/
theorem payloadsFrom_blank (blank : AreBlank line)
    (rest : List (List Char)) :
    payloadsFrom payload (line :: rest) =
      payloadsFrom payload [] ++ payloadsFrom [] rest := by
  have other : Text.afterStart? "data:".toList line = none := by
    refine afterStart?_eq_none_iff.2 fun rest same => ?_
    rw [same] at blank
    exact not_areBlank_data rest blank
  have isBlank : line.all Text.isBlank = true := List.all_eq_true.2 blank
  have passed : payloadsFrom payload (line :: rest) =
      if !payload.isEmpty then payload :: payloadsFrom [] rest
      else payloadsFrom payload rest := by
    rw [payloadsFrom, other, isBlank]
    rfl
  rw [passed]
  cases payload <;> rfl

theorem trimLeft_append (blank : AreBlank blanks) (chunk : List Char) :
    Text.trimLeft (blanks ++ chunk) = Text.trimLeft chunk :=
  List.dropWhile_append_of_pos blank

/-- The first character of a line that is not blank stays. -/
theorem trimLeft_ne_nil (notBlank : ¬ AreBlank chunk) :
    Text.trimLeft chunk ≠ [] := by
  rw [Text.trimLeft, ne_eq, List.dropWhile_eq_nil_iff]
  exact notBlank

/-! ### The payload of an event -/

/-- The lines of an event add to the payload what they carry. -/
theorem Carries.payloadsFrom (carries : Carries lines chunks)
    (rest : List (List Char)) (payload : List Char) :
    payloadsFrom payload (lines ++ rest) =
      payloadsFrom ((chunks.map Text.trimLeft).foldl extend payload) rest := by
  induction carries generalizing payload with
  | nil => rfl
  | remark isRemark _ ih => rw [List.cons_append, isRemark.payloadsFrom, ih]
  | data blank _ ih =>
      rw [List.cons_append, List.append_assoc, payloadsFrom_data, ih,
        trimLeft_append blank]
      rfl

theorem extend_of_ne_nil (some_ : payload ≠ []) (chunk : List Char) :
    extend payload chunk = payload ++ '\n' :: chunk := by
  rw [extend, if_neg (by simpa using some_)]

/-- After a line that is not empty all others are put behind a line feed. -/
theorem foldl_extend (some_ : payload ≠ []) :
    chunks.foldl extend payload = ['\n'].intercalate (payload :: chunks) := by
  induction chunks generalizing payload with
  | nil => simp
  | cons chunk rest ih =>
      have later : extend payload chunk ≠ [] := by
        rw [extend_of_ne_nil some_]
        simp
      rw [List.foldl_cons, ih later, extend_of_ne_nil some_,
        List.intercalate_cons_cons]
      cases rest with
      | nil => simp
      | cons => simp [List.intercalate_cons_cons]

theorem foldl_extend_assemble (not_blank : ∀ chunk ∈ chunks, ¬ AreBlank chunk) :
    (chunks.map Text.trimLeft).foldl extend [] = assemble chunks := by
  cases chunks with
  | nil => rfl
  | cons chunk rest =>
      rw [List.forall_mem_cons] at not_blank
      exact foldl_extend (trimLeft_ne_nil not_blank.1)

theorem assemble_ne_nil (some_ : chunks ≠ [])
    (not_blank : ∀ chunk ∈ chunks, ¬ AreBlank chunk) :
    assemble chunks ≠ [] := by
  cases chunks with
  | nil => exact (some_ rfl).elim
  | cons chunk rest =>
      rw [List.forall_mem_cons] at not_blank
      have first := trimLeft_ne_nil not_blank.1
      cases rest with
      | nil => simpa [assemble] using first
      | cons => simp [assemble, List.intercalate_cons_cons, first]

theorem payloadsFrom_assemble
    (not_blank : ∀ chunk ∈ chunks, ¬ AreBlank chunk) :
    payloadsFrom (assemble chunks) [] = (bearing [chunks]).map assemble := by
  cases chunks with
  | nil => rfl
  | cons chunk rest =>
      have some_ := assemble_ne_nil (by simp) not_blank
      simp [payloadsFrom, bearing, some_]

/-! ### The payloads of a stream -/

variable {events : List (List (List Char))}

/-- Every event that carries anything has a payload of its own. -/
theorem IsStream.payloadsFrom (isStream : IsStream lines events)
    (not_blank : ∀ chunks ∈ events, ∀ chunk ∈ chunks, ¬ AreBlank chunk) :
    payloadsFrom [] lines = (bearing events).map assemble := by
  induction isStream with
  | last carries =>
      rw [List.forall_mem_singleton] at not_blank
      have read := carries.payloadsFrom [] []
      rw [List.append_nil, foldl_extend_assemble not_blank] at read
      rw [read, payloadsFrom_assemble not_blank]
  | @event _ chunks _ _ events carries blank _ ih =>
      rw [List.forall_mem_cons] at not_blank
      have apart : bearing (chunks :: events) =
          bearing [chunks] ++ bearing events := List.filter_append [chunks] _
      rw [carries.payloadsFrom, foldl_extend_assemble not_blank.1,
        payloadsFrom_blank blank, payloadsFrom_assemble not_blank.1,
        ih not_blank.2, apart, List.map_append]

/-- Without a line of data that is not blank there is no payload. -/
theorem payloadsFrom_eq_nil (noData : ∀ line ∈ lines, ∀ chunk,
    line = dataMark ++ chunk → AreBlank chunk) :
    payloadsFrom [] lines = [] := by
  induction lines with
  | nil => rfl
  | cons line rest ih =>
      rw [List.forall_mem_cons] at noData
      by_cases isData : ∃ chunk, line = dataMark ++ chunk
      · obtain ⟨chunk, rfl⟩ := isData
        have empty : Text.trimLeft chunk = [] :=
          List.dropWhile_eq_nil_iff.2 (noData.1 chunk rfl)
        rw [payloadsFrom_data, empty]
        exact ih noData.2
      · rw [not_exists] at isData
        by_cases blank : AreBlank line
        · rw [payloadsFrom_blank blank, ih noData.2]
          rfl
        · rw [IsRemark.payloadsFrom ⟨blank, isData⟩, ih noData.2]

/-! ### The last value -/

/-- An event that carries nothing blank, or that carries nothing. -/
theorem not_blank_of_wraps {values : List Json}
    (each : List.Forall₂ Json.Wraps (bearing events) values) :
    ∀ chunks ∈ events, ∀ chunk ∈ chunks, ¬ AreBlank chunk := by
  intro chunks member chunk inside
  have bears : chunks ∈ bearing events := by
    refine List.mem_filter.2 ⟨member, ?_⟩
    simpa using List.ne_nil_of_mem inside
  obtain ⟨value, wraps⟩ := Json.exists_forall₂_iff.1 ⟨values, each⟩ chunks bears
  exact wraps.not_blank chunk inside

theorem lastPayload?_eq {stream : String} {values : List Json} {last : Json}
    (inLines : Text.InLines stream.toList lines)
    (isStream : IsStream lines events)
    (each : List.Forall₂ Json.Wraps (bearing events) (values ++ [last])) :
    ∃ chunks, Json.Wraps chunks last ∧
      lastPayload? stream = some (String.ofList (assemble chunks)) := by
  obtain ⟨front, back, same, -, alike⟩ :=
    Json.exists_of_forall₂_append each.flip
  obtain ⟨chunks, _, wraps, none_, rfl⟩ := List.forall₂_cons_left_iff.1 alike
  obtain rfl := List.forall₂_nil_left_iff.1 none_
  refine ⟨chunks, wraps, ?_⟩
  rw [lastPayload?, payloads, inLines.lineList_eq,
    isStream.payloadsFrom (not_blank_of_wraps each), same]
  simp

end Runbook.EventStream

namespace Runbook.Remote

open EventStream

/-- The client finds the value of the last event of a stream, in whatever way
the texts of the values are broken into lines of data, whatever other lines
there are, and whether or not the last event and the last line are ended.
Without data it fails. -/
theorem parseLastEvent_eq_last :
    (∀ (stream : String) (lines : List (List Char))
      (events : List (List (List Char))) (values : List Json) (last : Json),
      Text.InLines stream.toList lines → IsStream lines events →
      List.Forall₂ Json.Wraps (bearing events) (values ++ [last]) →
      parseLastEvent stream = pure last) ∧
    ∀ stream : String,
      (∀ line ∈ Text.lineList stream.toList, ∀ chunk,
        line = dataMark ++ chunk → Text.AreBlank chunk) →
      parseLastEvent stream = fail "event stream carried no data" := by
  constructor
  · intro stream lines events values last inLines isStream each
    obtain ⟨chunks, wraps, found⟩ := lastPayload?_eq inLines isStream each
    have read : parse (String.ofList (assemble chunks)) = pure last := by
      rw [parse, assemble, wraps.read?]
    rw [parseLastEvent, found]
    dsimp only
    rw [read]
    rfl
  · intro stream noData
    have nothing : lastPayload? stream = none := by
      rw [lastPayload?, payloads, payloadsFrom_eq_nil noData]
      rfl
    rw [parseLastEvent, nothing]

/-! A stream of two events: the lines of the first one, which has a kind, end
with carriage returns; the text of the second one is broken after its colon,
and its last line is not ended. -/

def wholeText : List Char := "\x7b\"id\":1\x7d".toList

def brokenText : List (List Char) := ["\x7b\"id\":".toList, "2\x7d".toList]

def twoEvents : String :=
  "event: message\r\ndata: \x7b\"id\":1\x7d\r\n\r\n" ++
    "data:\x7b\"id\":\ndata:   2\x7d"

def twoEventsLines : List (List Char) :=
  ["event: message".toList, "data: \x7b\"id\":1\x7d".toList, [],
    "data:\x7b\"id\":".toList, "data:   2\x7d".toList]

theorem inLines_twoEvents : Text.InLines twoEvents.toList twoEventsLines := by
  have areLines : ∀ line ∈ twoEventsLines, Text.IsLine line := by decide
  simp only [twoEventsLines, List.forall_mem_cons] at areLines
  obtain ⟨kind, first, blank, second, third, -⟩ := areLines
  exact .ended kind (.inr rfl) (.ended first (.inr rfl)
    (.ended blank (.inr rfl) (.ended second (.inl rfl)
      (.unended third (by decide)))))

theorem isStream_twoEvents : IsStream twoEventsLines
    [[wholeText], brokenText] := by
  have isKind : IsRemark "event: message".toList :=
    ⟨by decide, by simp [dataMark]⟩
  have first : Carries
      ["event: message".toList, "data: \x7b\"id\":1\x7d".toList]
      [wholeText] :=
    .remark isKind (@Carries.data [' '] _ _ _ (by decide) .nil)
  have second : Carries ["data:\x7b\"id\":".toList, "data:   2\x7d".toList]
      brokenText :=
    @Carries.data [] _ _ _ nofun
      (@Carries.data [' ', ' ', ' '] _ _ _ (by decide) .nil)
  exact .event first nofun (.last second)

def numbered (id : Int) : Json :=
  .object [("id", .ofInt id)]

theorem fits_numbered {id : Int} (isWord : (Json.Number.integer id).IsWord) :
    Json.Fits Json.maxDepth (numbered id) :=
  ⟨by simp [Json.IsSorted], List.forall_mem_singleton.2 isWord⟩

def nameTokens : List Json.Token :=
  [.openBrace, .string [.char 'i', .char 'd'], .colon]

def digitTokens (digit : Char) : List Json.Token :=
  [.number ⟨false, [digit], none, none⟩, .closeBrace]

theorem wraps_wholeText : Json.Wraps [wholeText] (numbered 1) := by
  have each : List.Forall₂ Json.Lexes [wholeText]
      [nameTokens ++ digitTokens '1'] :=
    .cons (fun _ => ⟨_, rfl, rfl⟩) .nil
  exact (fits_numbered ⟨by decide, by decide⟩).wraps (by decide) each rfl

theorem wraps_brokenText : Json.Wraps brokenText (numbered 2) := by
  have each : List.Forall₂ Json.Lexes brokenText
      [nameTokens, digitTokens '2'] :=
    .cons (fun _ => ⟨_, rfl, rfl⟩) (.cons (fun _ => ⟨_, rfl, rfl⟩) .nil)
  exact (fits_numbered ⟨by decide, by decide⟩).wraps (by decide) each rfl

theorem parseLastEvent_twoEvents :
    parseLastEvent twoEvents = pure (numbered 2) ∧
      parseLastEvent "event: ping\ndata:\n\n" =
        fail "event stream carried no data" := by
  constructor
  · exact parseLastEvent_eq_last.1 _ _ _ [numbered 1] _ inLines_twoEvents
      isStream_twoEvents (.cons wraps_wholeText (.cons wraps_brokenText .nil))
  · refine parseLastEvent_eq_last.2 _ fun line member chunk same => ?_
    have isOneOf : line ∈ ["event: ping".toList, dataMark, []] := member
    simp only [List.mem_cons, List.not_mem_nil, or_false] at isOneOf
    rcases isOneOf with rfl | rfl | rfl
    · simp [dataMark] at same
    · rw [List.self_eq_append_right.1 same]
      exact nofun
    · simp [dataMark] at same

end Runbook.Remote
