import Runbook.Host.Path
import Runbook.Proofs.Text.Pieces

/-!
# Parts of paths

A path is its parts with slashes between them.  A path below a folder has the
parts of the folder, without an empty one at their end, and then its own.  The
folder of a path is named by what precedes the last part.

Only the names in a path count, and its steps up: an empty part and a dot lead
from a folder to itself.  A path is within a root if its parts that count are
those of the root and then names, so that it never leads up from there.  What is
joined to a root from names is within it, and so is the folder of such a path
unless there are no names.
-/

namespace Runbook.Path

/-- A name that files and folders can have. -/
structure IsName (name : String) : Prop where
  ne_empty : name ≠ ""
  ne_dot : name ≠ "."
  ne_dots : name ≠ ".."
  noSlash : '/' ∉ name.toList

variable {names : List String} {first second path folder : String}

/-! ### Parts -/

theorem parts_append (first second : String) :
    parts (first ++ "/" ++ second) = parts first ++ parts second := by
  simp only [parts, Text.splitAt, String.toList_append, List.append_assoc]
  rw [← List.map_append]
  exact congrArg _ (Text.pieces_append '/' first.toList second.toList)

theorem parts_empty : parts "" = [""] :=
  rfl

theorem parts_ne_nil (path : String) : parts path ≠ [] := by
  simp [parts, Text.splitAt, Text.pieces_ne_nil]

theorem parts_intercalate (some_ : names ≠ [])
    (areNames : ∀ name ∈ names, IsName name) :
    parts ("/".intercalate names) = names := by
  rw [parts, Text.splitAt, String.toList_intercalate]
  have separator : "/".toList = ['/'] := rfl
  rw [separator, Text.pieces_intercalate (by simpa using some_), List.map_map]
  · simp [Function.comp_def]
  · rw [List.forall_mem_map]
    exact fun name member => (areNames name member).noSlash

theorem intercalate_concat (some_ : names ≠ []) (name : String) :
    "/".intercalate (names ++ [name]) =
      "/".intercalate names ++ "/" ++ name := by
  induction names with
  | nil => exact (some_ rfl).elim
  | cons first rest ih =>
      cases rest with
      | nil => simp [String.intercalate_cons_cons]
      | cons next rest =>
          simp only [List.cons_append, String.intercalate_cons_cons] at ih ⊢
          rw [ih (by simp)]
          simp only [String.append_assoc]

/-- What is appended to a path belongs to its last name. -/
theorem intercalate_append (above : List String) (name suffix : String) :
    "/".intercalate (above ++ [name]) ++ suffix =
      "/".intercalate (above ++ [name ++ suffix]) := by
  cases above with
  | nil => simp
  | cons first rest =>
      rw [intercalate_concat (by simp), intercalate_concat (by simp),
        String.append_assoc]

theorem noSlash_of_mem_parts {part : String} (member : part ∈ parts path) :
    '/' ∉ part.toList := by
  obtain ⟨piece, isPiece, rfl⟩ := List.mem_map.1 member
  rw [String.toList_ofList]
  exact Text.not_mem_of_mem_pieces isPiece

theorem intercalate_parts (path : String) :
    "/".intercalate (parts path) = path := by
  apply String.toList_injective
  rw [String.toList_intercalate, parts, Text.splitAt, List.map_map]
  have identity : String.toList ∘ String.ofList = id := by
    funext characters
    exact String.toList_ofList
  rw [identity, List.map_id]
  exact Text.intercalate_pieces '/' path.toList

/-- A name with a dot and a text after it is a name. -/
theorem IsName.append_dot {name suffix : String} (isName : IsName name)
    (noSlash : '/' ∉ suffix.toList) : IsName (name ++ "." ++ suffix) := by
  have dot : ".".toList = ['.'] := rfl
  have lists : (name ++ "." ++ suffix).toList =
      name.toList ++ '.' :: suffix.toList := by
    simp only [String.toList_append, dot, List.append_assoc,
      List.singleton_append]
  have some_ : name.toList ≠ [] := by simpa using isName.ne_empty
  obtain ⟨first, rest, begins⟩ := List.exists_cons_of_ne_nil some_
  have differs (other : String) (short : other.toList.length < 2 ∨
      other.toList.length = 2 ∧ other.toList.head? = some '.') :
      name ++ "." ++ suffix ≠ other := by
    rintro rfl
    rw [lists, begins] at short
    rcases short with short | ⟨two, isDot⟩
    · simp only [List.cons_append, List.length_cons, List.length_append]
        at short
      omega
    · simp only [List.cons_append, List.length_cons, List.length_append,
        List.head?_cons, Option.some.injEq] at two isDot
      apply isName.ne_dot
      apply String.toList_injective
      have onlyOne : rest = [] := List.eq_nil_of_length_eq_zero (by omega)
      rw [begins, onlyOne, isDot]
      rfl
  refine ⟨differs "" (by decide), differs "." (by decide),
    differs ".." (by decide), ?_⟩
  rw [lists, List.mem_append, List.mem_cons, not_or, not_or]
  exact ⟨isName.noSlash, by decide, noSlash⟩

/-! ### Absolute paths -/

theorem isAbsolute_iff :
    isAbsolute path = true ↔ path.toList.head? = some '/' := by
  have separator : "/".toList = ['/'] := rfl
  rw [isAbsolute, Text.startsWith, separator]
  cases path.toList with
  | nil => simp
  | cons character rest =>
      simp only [List.isPrefixOf, Bool.and_true, beq_iff_eq, List.head?_cons,
        Option.some.injEq]
      exact eq_comm

theorem isAbsolute_append (nonempty : first ≠ "") :
    isAbsolute (first ++ second) = isAbsolute first := by
  rw [Bool.eq_iff_iff, isAbsolute_iff, isAbsolute_iff, String.toList_append,
    List.head?_append_of_ne_nil _ (by simpa using nonempty)]

theorem intercalate_ne_empty (some_ : names ≠ [])
    (areNames : ∀ name ∈ names, IsName name) : "/".intercalate names ≠ "" := by
  intro isEmpty
  have read := parts_intercalate some_ areNames
  rw [isEmpty, parts_empty] at read
  exact (areNames "" (by simp [← read])).ne_empty rfl

theorem isAbsolute_intercalate (areNames : ∀ name ∈ names, IsName name) :
    isAbsolute ("/".intercalate names) = false := by
  cases names with
  | nil => rfl
  | cons name rest =>
      have isName := areNames name List.mem_cons_self
      have relative : isAbsolute name = false := by
        rw [← Bool.not_eq_true, isAbsolute_iff]
        intro slash
        exact isName.noSlash (List.mem_of_mem_head? slash)
      cases rest with
      | nil => rwa [String.intercalate_singleton]
      | cons next rest =>
          rw [String.intercalate_cons_cons, String.append_assoc,
            isAbsolute_append isName.ne_empty, relative]

/-! ### Paths below folders -/

theorem join_of_isEmpty (path : String) : join "" path = path := by
  simp [join]

theorem join_of_slash (relative : isAbsolute path = false) (folder : String) :
    join (folder ++ "/") path = folder ++ "/" ++ path := by
  simp [join, relative]

theorem join_of_noSlash (relative : isAbsolute path = false)
    (nonempty : folder ≠ "") (noSlash : folder.toList.getLast? ≠ some '/') :
    join folder path = folder ++ "/" ++ path := by
  simp [join, relative, nonempty, noSlash]

/-- A folder is not named at all, or with a slash at its end, or without. -/
theorem folder_cases (folder : String) :
    folder = "" ∨ (∃ rest, folder = rest ++ "/") ∨
      folder ≠ "" ∧ folder.toList.getLast? ≠ some '/' := by
  by_cases slash : folder.toList.getLast? = some '/'
  · obtain ⟨rest, same⟩ := List.getLast?_eq_some_iff.1 slash
    refine .inr (.inl ⟨String.ofList rest, String.toList_injective ?_⟩)
    simpa using same
  · by_cases isEmpty : folder = ""
    · exact .inl isEmpty
    · exact .inr (.inr ⟨isEmpty, slash⟩)

/-- A folder has the same text before all relative paths below it. -/
theorem exists_front_join (folder : String) :
    ∃ front, ∀ path, isAbsolute path = false →
      join folder path = front ++ path := by
  rcases folder_cases folder with rfl | ⟨rest, rfl⟩ | ⟨nonempty, noSlash⟩
  · exact ⟨"", fun path _ => by rw [join_of_isEmpty, String.empty_append]⟩
  · exact ⟨rest ++ "/", fun path relative => join_of_slash relative rest⟩
  · exact ⟨folder ++ "/", fun path relative =>
      join_of_noSlash relative nonempty noSlash⟩

theorem join_of_isAbsolute (absolute : isAbsolute path = true)
    (folder : String) : join folder path = path := by
  simp [join, absolute]

theorem isAbsolute_join (nonempty : folder ≠ "")
    (relative : isAbsolute path = false) :
    isAbsolute (join folder path) = isAbsolute folder := by
  rcases folder_cases folder with rfl | ⟨rest, rfl⟩ | ⟨-, noSlash⟩
  · exact (nonempty rfl).elim
  · rw [join_of_slash relative, isAbsolute_append nonempty]
  · rw [join_of_noSlash relative nonempty noSlash, String.append_assoc,
      isAbsolute_append nonempty]

/-- What precedes a folder does not matter for the paths below it. -/
theorem join_append (nonempty : folder ≠ "")
    (relative : isAbsolute path = false) (front : String) :
    join (front ++ folder) path = front ++ join folder path := by
  rcases folder_cases folder with rfl | ⟨rest, rfl⟩ | ⟨-, noSlash⟩
  · exact (nonempty rfl).elim
  · rw [← String.append_assoc, join_of_slash relative, join_of_slash relative]
    simp only [String.append_assoc]
  · have filled : folder.toList ≠ [] := by simpa using nonempty
    have noSlashToo : (front ++ folder).toList.getLast? ≠ some '/' := by
      rwa [String.toList_append, List.getLast?_append_of_ne_nil _ filled]
    have nonemptyToo : front ++ folder ≠ "" := by
      intro isEmpty
      have both := congrArg String.toList isEmpty
      rw [String.toList_append] at both
      exact filled (List.append_eq_nil_iff.1 both).2
    rw [join_of_noSlash relative nonemptyToo noSlashToo,
      join_of_noSlash relative nonempty noSlash]
    simp only [String.append_assoc]

theorem join_assoc (relative : isAbsolute path = false)
    (folder root : String) :
    join folder (join root path) = join (join folder root) path := by
  by_cases isEmpty : root = ""
  · subst isEmpty
    rw [join_of_isEmpty]
    have noSlash : isAbsolute "" = false := rfl
    rcases folder_cases folder with rfl | ⟨rest, rfl⟩ | ⟨nonempty, ends⟩
    · simp only [join_of_isEmpty]
    · rw [join_of_slash noSlash, String.append_empty]
    · rw [join_of_noSlash noSlash nonempty ends, String.append_empty,
        join_of_slash relative, join_of_noSlash relative nonempty ends]
  · cases absolute : isAbsolute root with
    | true =>
        rw [join_of_isAbsolute absolute, join_of_isAbsolute]
        rw [isAbsolute_join isEmpty relative, absolute]
    | false =>
        obtain ⟨front, joined⟩ := exists_front_join folder
        rw [joined root absolute, join_append isEmpty relative, joined]
        rw [isAbsolute_join isEmpty relative, absolute]

/-- The parts of a path below a folder are those of the folder, but for an
empty one at the end, and its own. -/
theorem exists_parts_join (relative : isAbsolute path = false)
    (folder : String) :
    ∃ front, parts (join folder path) = front ++ parts path ∧
      (parts folder = front ∨ parts folder = front ++ [""]) := by
  rcases folder_cases folder with rfl | ⟨rest, rfl⟩ | ⟨nonempty, noSlash⟩
  · exact ⟨[], by rw [join_of_isEmpty]; rfl, .inr rfl⟩
  · refine ⟨parts rest, ?_, .inr ?_⟩
    · rw [join_of_slash relative, parts_append]
    · simpa [parts_empty] using parts_append rest ""
  · exact ⟨parts folder, by
      rw [join_of_noSlash relative nonempty noSlash, parts_append], .inl rfl⟩

/-- A path below a folder ends with its last name, after a slash if there is
anything before it. -/
theorem exists_join_eq_append {above : List String} {name : String}
    (areNames : ∀ other ∈ above ++ [name], IsName other) (folder : String) :
    ∃ front, join folder ("/".intercalate (above ++ [name])) = front ++ name ∧
      (front = "" ∨ ∃ rest, front = rest ++ "/") := by
  have relative := isAbsolute_intercalate areNames
  by_cases some_ : above = []
  · subst some_
    rw [List.nil_append, String.intercalate_singleton] at relative ⊢
    rcases folder_cases folder with rfl | ⟨rest, rfl⟩ | ⟨nonempty, noSlash⟩
    · exact ⟨"", by simp [join_of_isEmpty], .inl rfl⟩
    · exact ⟨rest ++ "/", join_of_slash relative rest, .inr ⟨rest, rfl⟩⟩
    · exact ⟨folder ++ "/", join_of_noSlash relative nonempty noSlash,
        .inr ⟨folder, rfl⟩⟩
  · obtain ⟨front, joined⟩ := exists_front_join folder
    refine ⟨front ++ "/".intercalate above ++ "/", ?_, .inr ⟨_, rfl⟩⟩
    rw [joined _ relative, intercalate_concat some_]
    simp only [String.append_assoc]

/-! ### Folders of paths -/

theorem trimmedEnd_suffix (reversed : List Char) :
    trimmedEnd reversed <:+ reversed := by
  fun_induction trimmedEnd reversed with
  | case1 => exact List.suffix_rfl
  | case2 rest _ ih => exact ih.trans (List.suffix_cons _ _)
  | case3 rest ih => exact ih.trans (List.suffix_cons _ _)
  | case4 => exact List.suffix_rfl

theorem trimmedEnd_ne_nil {reversed : List Char} (some_ : reversed ≠ []) :
    trimmedEnd reversed ≠ [] := by
  fun_induction trimmedEnd reversed with
  | case1 => simp
  | case2 rest more ih => exact ih fun isEmpty => more (by rw [isEmpty])
  | case3 rest ih => exact ih (by simp)
  | case4 => exact some_

/-- What is left of a path without what does not count at its end begins the
path, and is not empty. -/
theorem exists_append_trimmedEnd (nonempty : path ≠ "") :
    String.ofList (trimmedEnd path.toList.reverse).reverse ≠ "" ∧
      ∃ dropped, path =
        String.ofList (trimmedEnd path.toList.reverse).reverse ++ dropped := by
  constructor
  · simpa using trimmedEnd_ne_nil (by simpa using nonempty)
  · obtain ⟨dropped, whole⟩ := trimmedEnd_suffix path.toList.reverse
    refine ⟨String.ofList dropped.reverse, String.toList_injective ?_⟩
    have forwards := congrArg List.reverse whole
    rw [List.reverse_append, List.reverse_reverse] at forwards
    simpa using forwards.symm

/-- Nothing is dropped at the end of a path that ends with a name. -/
theorem trimmedEnd_name {name : String} (isName : IsName name)
    (before : List Char) :
    trimmedEnd (name.toList.reverse ++ before) =
      name.toList.reverse ++ before := by
  have noSlash : '/' ∉ name.toList.reverse := by
    rw [List.mem_reverse]
    exact isName.noSlash
  have nonempty : name.toList.reverse ≠ [] := by
    simpa using isName.ne_empty
  have ne_dot : name.toList.reverse ≠ ['.'] := by
    intro same
    apply isName.ne_dot
    apply String.toList_injective
    rw [← List.reverse_reverse name.toList, same]
    rfl
  generalize name.toList.reverse = reversed at noSlash nonempty ne_dot ⊢
  obtain ⟨last, rest, rfl⟩ := List.exists_cons_of_ne_nil nonempty
  rw [List.mem_cons, not_or] at noSlash
  obtain ⟨lastPlain, restPlain⟩ := noSlash
  rw [List.cons_append, trimmedEnd]
  · intro slash
    exact lastPlain (List.cons.inj slash).1.symm
  · intro after slash
    exact lastPlain (List.cons.inj slash).1.symm
  · rintro after same
    obtain ⟨rfl, sameRest⟩ := List.cons.inj same
    cases rest with
    | nil => exact ne_dot rfl
    | cons next rest =>
        obtain ⟨rfl, -⟩ := List.cons.inj sameRest
        exact restPlain List.mem_cons_self

/-- The folder of a path that ends with a name is what precedes the name. -/
theorem parent?_append {name front : String} (isName : IsName name)
    (ends : front = "" ∨ ∃ rest, front = rest ++ "/") :
    parent? (front ++ name) =
      some (String.ofList (trimmedEnd front.toList.reverse).reverse) := by
  have noSlash : ∀ character ∈ name.toList.reverse,
      (character != '/') = true := by
    intro character member
    rw [bne_iff_ne]
    rintro rfl
    exact isName.noSlash (List.mem_reverse.1 member)
  have before : (name.toList.reverse ++ front.toList.reverse).dropWhile
      (fun character => character != '/') = front.toList.reverse := by
    rw [List.dropWhile_append_of_pos noSlash]
    rcases ends with rfl | ⟨rest, rfl⟩
    · rfl
    · simp
  rw [parent?, String.toList_append, List.reverse_append,
    trimmedEnd_name isName]
  have nonempty : name.toList.reverse ≠ [] := by
    simpa using isName.ne_empty
  split
  · rename_i isEmpty
    exact (nonempty (List.append_eq_nil_iff.1 isEmpty).1).elim
  · rename_i isSlash
    exfalso
    obtain ⟨last, rest, same⟩ := List.exists_cons_of_ne_nil nonempty
    rw [same] at isSlash noSlash
    have slash := (List.cons.inj isSlash).1
    exact absurd (noSlash last List.mem_cons_self) (by simp [slash])
  · rw [before]

end Runbook.Path

/-! ## Paths within a root -/

namespace Runbook.Path

/-- The parts of a path that count. -/
def counted (path : String) : List String :=
  (parts path).filter fun part => part ≠ "" ∧ part ≠ "."

/-- A path leads to a root or, by names, to something below it. -/
structure IsWithin (root path : String) : Prop where
  isAbsolute_eq : isAbsolute path = isAbsolute root
  exists_names : ∃ names, (∀ name ∈ names, IsName name) ∧
    counted path = counted root ++ names

variable {names : List String} {path folder root name : String}

/-! ### Parts that count -/

theorem counted_empty : counted "" = [] :=
  rfl

theorem counted_append (first second : String) :
    counted (first ++ "/" ++ second) = counted first ++ counted second := by
  rw [counted, parts_append, List.filter_append]
  rfl

theorem counted_join (relative : isAbsolute path = false) (folder : String) :
    counted (join folder path) = counted folder ++ counted path := by
  obtain ⟨front, joined, same | same⟩ := exists_parts_join relative folder
  · rw [counted, joined, List.filter_append, ← same]
    rfl
  · rw [counted, joined, List.filter_append]
    refine congrArg₂ (· ++ ·) ?_ rfl
    rw [counted, same, List.filter_append]
    exact (List.append_nil _).symm

theorem counted_intercalate (areNames : ∀ name ∈ names, IsName name) :
    counted ("/".intercalate names) = names := by
  cases names with
  | nil => rfl
  | cons name names =>
      rw [counted, parts_intercalate (by simp) areNames, List.filter_eq_self]
      intro other member
      simpa using ⟨(areNames other member).ne_empty,
        (areNames other member).ne_dot⟩

theorem mem_counted_iff {part : String} :
    part ∈ counted path ↔ part ∈ parts path ∧ part ≠ "" ∧ part ≠ "." := by
  simp [counted, List.mem_filter]

/-- Without steps up, all parts that count are names. -/
theorem isName_of_mem_counted (noSteps : ".." ∉ parts path)
    (member : name ∈ counted path) : IsName name := by
  obtain ⟨isPart, ne_empty, ne_dot⟩ := mem_counted_iff.1 member
  refine ⟨ne_empty, ne_dot, ?_, noSlash_of_mem_parts isPart⟩
  rintro rfl
  exact noSteps isPart

/-- The text before a slash counts, and the one after it; both are written last
character first. -/
theorem counted_reversed (last before : List Char) :
    counted (String.ofList (last ++ '/' :: before).reverse) =
      counted (String.ofList before.reverse) ++
        counted (String.ofList last.reverse) := by
  rw [← counted_append]
  simp [String.ofList_append, String.append_assoc]

theorem counted_trimmedEnd (reversed : List Char) :
    counted (String.ofList (trimmedEnd reversed).reverse) =
      counted (String.ofList reversed.reverse) := by
  fun_induction trimmedEnd reversed with
  | case1 => rfl
  | case2 rest _ ih =>
      rw [ih, ← List.nil_append ('/' :: rest), counted_reversed]
      exact (List.append_nil _).symm
  | case3 rest ih =>
      have slash := counted_reversed [] rest
      have dot := counted_reversed ['.'] rest
      exact ih.trans (slash.trans dot.symm)
  | case4 => rfl

/-! ### Folders of paths -/

theorem isAbsolute_trimmedEnd (reversed : List Char) :
    isAbsolute (String.ofList (trimmedEnd reversed).reverse) =
      isAbsolute (String.ofList reversed.reverse) := by
  rcases eq_or_ne reversed [] with rfl | some_
  · rfl
  obtain ⟨dropped, whole⟩ := trimmedEnd_suffix reversed
  have nonempty : String.ofList (trimmedEnd reversed).reverse ≠ "" := by
    simpa using trimmedEnd_ne_nil some_
  have split : String.ofList reversed.reverse =
      String.ofList (trimmedEnd reversed).reverse ++
        String.ofList dropped.reverse := by
    rw [← String.ofList_append, ← List.reverse_append, whole]
  rw [split, isAbsolute_append nonempty]

/-- Nothing more can be dropped at the end of a path. -/
theorem trimmedEnd_cases (reversed : List Char) :
    trimmedEnd reversed = ['/'] ∨
      (∀ rest, trimmedEnd reversed ≠ '/' :: rest) ∧
        ∀ rest, trimmedEnd reversed ≠ '.' :: '/' :: rest := by
  fun_induction trimmedEnd reversed with
  | case1 => exact .inl rfl
  | case2 rest _ ih => exact ih
  | case3 rest ih => exact ih
  | case4 path notSlash notSlashes notDot =>
      exact .inr ⟨notSlashes, notDot⟩

theorem parts_of_noSlash {text : List Char} (noSlash : '/' ∉ text) :
    parts (String.ofList text) = [String.ofList text] := by
  rw [parts, Text.splitAt, String.toList_ofList,
    Text.pieces_of_not_mem noSlash, List.map_singleton]

theorem counted_singleton {text : List Char} (noSlash : '/' ∉ text)
    (ne_empty : text ≠ []) (ne_dot : text ≠ ['.']) :
    counted (String.ofList text) = [String.ofList text] := by
  rw [counted, parts_of_noSlash noSlash, List.filter_eq_self]
  intro part member
  rw [List.mem_singleton] at member
  subst member
  have notDot : String.ofList text ≠ "." := fun same =>
    ne_dot (by simpa using congrArg String.toList same)
  simpa using ⟨ne_empty, notDot⟩

theorem dropLast_counted_of_noSlash {text : List Char} (noSlash : '/' ∉ text) :
    (counted (String.ofList text)).dropLast = [] := by
  have short := List.length_filter_le
    (fun part => decide (part ≠ "" ∧ part ≠ ".")) (parts (String.ofList text))
  rw [parts_of_noSlash noSlash] at short
  apply List.eq_nil_of_length_eq_zero
  rw [List.length_dropLast, counted, parts_of_noSlash noSlash]
  exact Nat.sub_eq_zero_of_le short

theorem dropWhile_noSlash {last : List Char} (noSlash : '/' ∉ last)
    (before : List Char) :
    (last ++ before).dropWhile (fun character => character != '/') =
      before.dropWhile fun character => character != '/' := by
  refine List.dropWhile_append_of_pos fun character member => ?_
  rw [bne_iff_ne]
  rintro rfl
  exact noSlash member

/-- A path without what does not count at its end, last character first, and the
folder that precedes its last slash. -/
theorem dropWhile_folder {reversed : List Char}
    (notSlash : ∀ rest, reversed ≠ '/' :: rest)
    (notDot : ∀ rest, reversed ≠ '.' :: '/' :: rest) :
    let folder := String.ofList
      (reversed.dropWhile fun character => character != '/').reverse
    isAbsolute folder = isAbsolute (String.ofList reversed.reverse) ∧
      counted folder = (counted (String.ofList reversed.reverse)).dropLast := by
  intro folder
  subst folder
  by_cases slash : '/' ∈ reversed
  · obtain ⟨last, before, rfl, noSlash⟩ := List.eq_append_cons_of_mem slash
    have dropped : (last ++ '/' :: before).dropWhile
        (fun character => character != '/') = '/' :: before :=
      dropWhile_noSlash noSlash _
    have some_ : last.reverse ≠ [] := by
      rw [ne_eq, List.reverse_eq_nil_iff]
      rintro rfl
      exact notSlash before rfl
    have ne_dot : last.reverse ≠ ['.'] := by
      rw [ne_eq, List.reverse_eq_iff]
      rintro rfl
      exact notDot before rfl
    have noSlashToo : '/' ∉ last.reverse := by rwa [List.mem_reverse]
    have folder_eq := counted_reversed [] before
    rw [dropped]
    constructor
    · rw [List.reverse_append, String.ofList_append, isAbsolute_append]
      simp
    · refine (folder_eq.trans (List.append_nil _)).trans ?_
      rw [counted_reversed, counted_singleton noSlashToo some_ ne_dot,
        List.dropLast_concat]
  · have noSlash : '/' ∉ reversed.reverse := by rwa [List.mem_reverse]
    have dropped : reversed.dropWhile (fun character => character != '/') =
        [] := by
      simpa using dropWhile_noSlash slash []
    rw [dropped, dropLast_counted_of_noSlash noSlash]
    refine ⟨?_, rfl⟩
    have relative : isAbsolute (String.ofList reversed.reverse) = false := by
      rw [Bool.eq_false_iff, ne_eq, isAbsolute_iff, String.toList_ofList]
      exact fun first => noSlash (List.mem_of_mem_head? first)
    rw [relative]
    rfl

/-- The folder of a path is named by all parts of the path but the last one. -/
theorem counted_parent? (holds : parent? path = some folder) :
    isAbsolute folder = isAbsolute path ∧
      counted folder = (counted path).dropLast := by
  have forwards : String.ofList path.toList.reverse.reverse = path := by
    rw [List.reverse_reverse, String.ofList_toList]
  have isAbsolute_eq := isAbsolute_trimmedEnd path.toList.reverse
  have counted_eq := counted_trimmedEnd path.toList.reverse
  have ends := trimmedEnd_cases path.toList.reverse
  rw [forwards] at isAbsolute_eq counted_eq
  unfold parent? at holds
  generalize trimmedEnd path.toList.reverse = reversed at *
  split at holds
  · cases holds
  · cases holds
  · rename_i notRoot
    cases holds
    obtain ⟨notSlash, notDot⟩ := ends.resolve_left notRoot
    obtain ⟨sameKind, fewer⟩ := dropWhile_folder notSlash notDot
    rw [isAbsolute_trimmedEnd, counted_trimmedEnd, sameKind, fewer,
      isAbsolute_eq, counted_eq]
    exact ⟨rfl, rfl⟩

/-! ### Paths within a root -/

theorem isWithin_join (areNames : ∀ name ∈ names, IsName name)
    (root : String) : IsWithin root (join root ("/".intercalate names)) := by
  have relative := isAbsolute_intercalate areNames
  refine ⟨?_, names, areNames, ?_⟩
  · rcases eq_or_ne root "" with rfl | nonempty
    · rw [join_of_isEmpty, relative]
      rfl
    · exact isAbsolute_join nonempty relative
  · rw [counted_join relative, counted_intercalate areNames]

/-- It does not matter where the root and the path start. -/
theorem IsWithin.join (within : IsWithin root path) (folder : String) :
    IsWithin (join folder root) (join folder path) := by
  obtain ⟨sameKind, names, areNames, counted_eq⟩ := within
  cases absolute : isAbsolute root with
  | true =>
      rw [absolute] at sameKind
      rw [join_of_isAbsolute absolute, join_of_isAbsolute sameKind]
      exact ⟨sameKind.trans absolute.symm, names, areNames, counted_eq⟩
  | false =>
      rw [absolute] at sameKind
      refine ⟨?_, names, areNames, ?_⟩
      · rcases eq_or_ne folder "" with rfl | nonempty
        · rw [join_of_isEmpty, join_of_isEmpty, sameKind, absolute]
        · rw [isAbsolute_join nonempty sameKind,
            isAbsolute_join nonempty absolute]
      · rw [counted_join sameKind, counted_join absolute, counted_eq,
          List.append_assoc]

/-- The folder of a path that names lead to from a root is within the root. -/
theorem isWithin_parent? (areNames : ∀ name ∈ names, IsName name)
    (some_ : names ≠ [])
    (holds : parent? (join root ("/".intercalate names)) = some folder) :
    IsWithin root folder := by
  have relative := isAbsolute_intercalate areNames
  obtain ⟨sameKind, fewer⟩ := counted_parent? holds
  refine ⟨sameKind.trans (isWithin_join areNames root).isAbsolute_eq,
    names.dropLast, fun name member =>
      areNames name (List.dropLast_subset _ member), ?_⟩
  rw [fewer, counted_join relative, counted_intercalate areNames,
    List.dropLast_append_of_ne_nil some_]

/-- The folder of a root holds it, if it is not the root itself. -/
theorem counted_parent?_root (holds : parent? (join root "") = some path)
    (folder : String) :
    counted (join folder path) <+: counted (join folder root) := by
  have blank : isAbsolute "" = false := rfl
  have nonempty : root ≠ "" := by
    rintro rfl
    cases holds
  obtain ⟨sameKind, fewer⟩ := counted_parent? holds
  rw [isAbsolute_join nonempty blank] at sameKind
  rw [counted_join blank, counted_empty, List.append_nil] at fewer
  have shorter : counted path <+: counted root := by
    rw [fewer]
    exact List.dropLast_prefix _
  cases absolute : isAbsolute root with
  | true =>
      rw [absolute] at sameKind
      rwa [join_of_isAbsolute sameKind, join_of_isAbsolute absolute]
  | false =>
      rw [absolute] at sameKind
      rw [counted_join sameKind, counted_join absolute]
      exact (List.prefix_append_right_inj _).2 shorter

end Runbook.Path
