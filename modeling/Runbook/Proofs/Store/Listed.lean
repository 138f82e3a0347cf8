import Runbook.Proofs.Store.Worklist

/-!
# Exact listings

A listing of a folder has the files in it that are not hidden, and a search has
the files below the root that it is for and that can be reached without passing
anything hidden.  Both have each of them once and in order, and are cut to as
many as are asked for.
-/

namespace Runbook

/-- Sorting keeps the order of what ties. -/
theorem pairwise_mergeSort_of_pairwise {α : Type} {le : α → α → Bool}
    {comes : α → α → Prop} {values : List α}
    (trans : ∀ first second third, le first second = true →
      le second third = true → le first third = true)
    (total : ∀ first second, (le first second || le second first) = true)
    (inOrder : values.Pairwise comes) :
    (values.mergeSort le).Pairwise fun first second =>
      le first second = true ∧
        (le second first = true → comes first second) := by
  rw [List.pairwise_iff_forall_sublist]
  intro first second both
  have less := List.pairwise_iff_forall_sublist.1
    (List.pairwise_mergeSort trans total values) both
  refine ⟨less, fun greater => ?_⟩
  have self : le first first = true := trans _ _ _ less greater
  -- what ties with the first one stays in its order
  let ties := fun value => le first value && le value first
  have alike : (values.filter ties).Pairwise fun left right =>
      le left right = true := by
    refine List.pairwise_of_forall_mem_list fun left isLeft right isRight => ?_
    have leftTies := Bool.and_eq_true_iff.1 (List.mem_filter.1 isLeft).2
    have rightTies := Bool.and_eq_true_iff.1 (List.mem_filter.1 isRight).2
    exact trans _ _ _ leftTies.2 rightTies.1
  have kept := (List.sublist_mergeSort trans total alike
    List.filter_sublist).filter ties
  rw [List.filter_filter] at kept
  simp only [Bool.and_self] at kept
  have same := kept.eq_of_length
    ((List.mergeSort_perm values le).filter ties).length_eq.symm
  have pair := both.filter ties
  rw [← same] at pair
  have whole : [first, second].filter ties = [first, second] := by
    simp [ties, self, less, greater]
  rw [whole] at pair
  exact List.pairwise_iff_forall_sublist.1 inOrder
    (pair.trans List.filter_sublist)

namespace Instant

theorem compare_swap (first second : Instant) :
    first.compare second = (second.compare first).swap := by
  unfold Instant.compare
  exact Std.OrientedCmp.eq_swap

theorem compare_self (instant : Instant) : instant.compare instant = .eq := by
  unfold Instant.compare
  exact Std.ReflCmp.compare_self

theorem compare_ne_lt_trans {first second third : Instant}
    (less : (first.compare second != .lt) = true)
    (more : (second.compare third != .lt) = true) :
    (first.compare third != .lt) = true := by
  have isGE {order : Ordering} : (order != .lt) = order.isGE := by
    cases order <;> rfl
  rw [isGE] at less more ⊢
  unfold Instant.compare at less more ⊢
  exact Std.TransCmp.isGE_trans less more

end Instant

namespace DirectoryStore

open Rehearsal Rehearsal.Disk
open Runbook.Path (IsName)

variable {store : DirectoryStore} {machine : Machine} {disk : Disk}
  {path name : String} {names : List String} {sort : FileSort}
  {entries : List (String × Disk)} {infos : List FileInfo}

/-! ### Orders -/

theorem precedes_trans (sort : FileSort) (first second third : FileInfo)
    (less : precedes sort first second = true)
    (more : precedes sort second third = true) :
    precedes sort first third = true := by
  cases sort with
  | name =>
      simp only [precedes, decide_eq_true_eq] at less more ⊢
      exact String.le_trans less more
  | modified =>
      unfold precedes at less more ⊢
      revert less more
      cases first.modifiedAt <;> cases second.modifiedAt <;>
        cases third.modifiedAt <;> simp only [implies_true, Bool.false_eq_true,
          false_imp_iff]
      exact Instant.compare_ne_lt_trans

theorem precedes_total (sort : FileSort) (first second : FileInfo) :
    (precedes sort first second || precedes sort second first) = true := by
  cases sort with
  | name =>
      simp only [precedes, Bool.or_eq_true, decide_eq_true_eq]
      exact String.le_total _ _
  | modified =>
      unfold precedes
      cases first.modifiedAt with
      | none => cases second.modifiedAt <;> rfl
      | some earlier =>
          cases second.modifiedAt with
          | none => rfl
          | some later =>
              dsimp only
              rw [Instant.compare_swap earlier later]
              cases later.compare earlier <;> rfl

/-- A file is listed before another one: by its name, or because it is newer.
Files of the same time are listed in the order of their paths. -/
inductive ComesBefore : FileSort → FileInfo → FileInfo → Prop
  | name {left right : FileInfo} (less : left.name < right.name) :
      ComesBefore .name left right
  | newer {left right : FileInfo} {earlier later : Instant}
      (isLater : left.modifiedAt = some later)
      (isEarlier : right.modifiedAt = some earlier)
      (less : earlier.compare later = .lt) : ComesBefore .modified left right
  | sameTime {left right : FileInfo} {earlier later : Instant}
      (isFirst : left.modifiedAt = some later)
      (isSecond : right.modifiedAt = some earlier)
      (same : earlier.compare later = .eq) (less : left.path < right.path) :
      ComesBefore .modified left right

theorem comesBefore_of_precedes {left right : FileInfo}
    {later earlier : Instant}
    (isFirst : left.modifiedAt = some later)
    (isSecond : right.modifiedAt = some earlier)
    (differ : left.name ≠ right.name)
    (less : precedes sort left right = true)
    (ties : precedes sort right left = true → left.path < right.path) :
    ComesBefore sort left right := by
  cases sort with
  | name => exact .name (Std.lt_of_le_of_ne (of_decide_eq_true less) differ)
  | modified =>
      unfold precedes at less ties
      rw [isFirst, isSecond] at less ties
      dsimp only at less ties
      rw [Instant.compare_swap later earlier] at less
      cases order : earlier.compare later with
      | lt => exact .newer isFirst isSecond order
      | eq =>
          rw [order] at ties
          exact .sameTime isFirst isSecond order (ties rfl)
      | gt =>
          rw [order] at less
          cases less

/-- Nothing is listed before itself. -/
theorem ComesBefore.ne {left right : FileInfo}
    (before : ComesBefore sort left right) : left ≠ right := by
  rintro rfl
  cases before with
  | name less => exact String.lt_irrefl _ less
  | newer isLater isEarlier less =>
      obtain rfl := Option.some.inj (isLater.symm.trans isEarlier)
      rw [Instant.compare_self] at less
      cases less
  | sameTime _ _ _ less => exact String.lt_irrefl _ less

/-! ### The files in a folder -/

theorem toList_child (folder name : String) :
    (child folder name).toList =
      if folder.isEmpty then name.toList
      else folder.toList ++ '/' :: name.toList := by
  have separator : "/".toList = ['/'] := rfl
  rw [child]
  split
  · rfl
  · simp [String.toList_append, separator]

theorem afterLast_child (isName : IsName name) (folder : String) :
    Text.afterLast '/' (child folder name) = name := by
  have noSlash := isName.noSlash
  rw [Text.afterLast, toList_child]
  by_cases isEmpty : folder.isEmpty
  · rw [if_pos isEmpty, Text.cutLast?_of_not_mem noSlash, child, if_pos isEmpty]
  · rw [if_neg isEmpty, Text.cutLast?_append _ noSlash]
    exact String.ofList_toList

theorem parent_child (isName : IsName name) (folder : String) :
    parent (child folder name) = folder := by
  have noSlash := isName.noSlash
  rw [parent, Text.beforeLast?, toList_child]
  by_cases isEmpty : folder.isEmpty
  · rw [if_pos isEmpty, Text.cutLast?_of_not_mem noSlash]
    exact (String.isEmpty_iff.1 isEmpty).symm
  · rw [if_neg isEmpty, Text.cutLast?_append _ noSlash]
    exact String.ofList_toList

theorem pathBelow_concat (folder : String) (names : List String)
    (name : String) :
    pathBelow folder (names ++ [name]) =
      child (pathBelow folder names) name := by
  rw [pathBelow, List.foldl_concat]
  rfl

/-- A file is in a folder, and not deeper, if one name leads to it. -/
theorem parent_pathBelow_iff (isNormal : IsNormal path)
    (areNames : ∀ name ∈ names, IsName name) (some_ : names ≠ []) :
    parent (pathBelow path names) = path ↔ ∃ name, names = [name] := by
  rcases List.eq_nil_or_concat' names with rfl | ⟨above, name, rfl⟩
  · exact (some_ rfl).elim
  · rw [List.forall_mem_append] at areNames
    rw [pathBelow_concat, parent_child (areNames.2 _ List.mem_cons_self)]
    constructor
    · intro same
      have noNames : ∀ name ∈ ([] : List String), IsName name := by simp
      rw [isNormal.pathBelow_inj areNames.1 noNames same]
      exact ⟨name, rfl⟩
    · rintro ⟨other, single⟩
      cases above with
      | nil => rfl
      | cons first above => simp at single

/-- The files in a folder that are not hidden, in the order of their paths. -/
def filesIn (path : String) (disk : Disk) : List (String × FileStatus) :=
  (sortedFiles ((shown path disk).filterMap fileStatus?)).filter fun file =>
    parent file.1 == path

/-- A file of a folder, with its info. -/
structure IsFileIn (path : String) (folder : Disk) (name : String)
    (info : FileInfo) : Prop where
  isShown : isHidden name = false
  isFile : ∃ content modified,
    folder.below? [name] = some (.file content modified) ∧
      info = fileInfo (child path name) ⟨content.length, some modified⟩

theorem mem_filesIn_iff (isTree : (Disk.folder entries).IsTree)
    (isNormal : IsNormal path) {info : FileInfo} :
    info ∈ (filesIn path (.folder entries)).map
        (fun file => fileInfo file.1 file.2) ↔
      ∃ name, IsFileIn path (.folder entries) name info := by
  rw [List.mem_map]
  constructor
  · rintro ⟨file, member, rfl⟩
    obtain ⟨found, inFolder⟩ := List.mem_filter.1 member
    rw [(sortedFiles_perm _).mem_iff, mem_shownFiles_iff isTree] at found
    obtain ⟨names, content, modified, areShown, leads, rfl⟩ := found
    have some_ : names ≠ [] := by
      rintro rfl
      cases leads
    obtain ⟨name, rfl⟩ := (parent_pathBelow_iff isNormal
      (areNames_of_below? isTree leads) some_).1 (beq_iff_eq.1 inFolder)
    exact ⟨name, areShown _ List.mem_cons_self, content, modified, leads, rfl⟩
  · rintro ⟨name, isShown, content, modified, leads, rfl⟩
    refine ⟨(child path name, _), List.mem_filter.2 ⟨?_, ?_⟩, rfl⟩
    · rw [(sortedFiles_perm _).mem_iff, mem_shownFiles_iff isTree]
      exact ⟨[name], content, modified, by simpa [AreShown], leads, rfl⟩
    · have isName := areNames_of_below? isTree leads name List.mem_cons_self
      exact beq_iff_eq.2 (parent_child isName path)

theorem IsFileIn.name_eq (isTree : disk.IsTree) {info : FileInfo}
    (isFileIn : IsFileIn path disk name info) : info.name = name := by
  obtain ⟨content, modified, leads, rfl⟩ := isFileIn.isFile
  have isName := areNames_of_below? isTree leads name List.mem_cons_self
  exact afterLast_child isName path

/-- The infos of the files in a folder that are not hidden, each of them once
and in order. -/
structure IsListing (path : String) (sort : FileSort) (folder : Disk)
    (infos : List FileInfo) : Prop where
  inOrder : infos.Pairwise (ComesBefore sort)
  nodup : infos.Nodup
  mem_iff : ∀ info, info ∈ infos ↔ ∃ name, IsFileIn path folder name info

theorem isListing (isTree : (Disk.folder entries).IsTree)
    (isNormal : IsNormal path) :
    IsListing path sort (.folder entries)
      (((filesIn path (.folder entries)).map fun file =>
        fileInfo file.1 file.2).mergeSort (precedes sort)) := by
  let infos := (filesIn path (.folder entries)).map fun file =>
    fileInfo file.1 file.2
  have mem_iff (info : FileInfo) : info ∈ infos.mergeSort (precedes sort) ↔
      ∃ name, IsFileIn path (.folder entries) name info := by
    rw [List.mem_mergeSort, mem_filesIn_iff isTree isNormal]
  have byPath : infos.Pairwise fun left right => left.path < right.path := by
    refine List.pairwise_map.2 (List.Pairwise.filter _ ?_)
    exact pairwise_sortedFiles (nodup_shownFiles isTree isNormal)
  have differ : (infos.mergeSort (precedes sort)).Pairwise fun left right =>
      left.path ≠ right.path := by
    have same := List.mergeSort_perm infos (precedes sort)
    refine (same.pairwise_iff fun other => other.symm).2 (byPath.imp ?_)
    rintro left right less same
    rw [same] at less
    exact String.lt_irrefl _ less
  have sorted := pairwise_mergeSort_of_pairwise (precedes_trans sort)
    (precedes_total sort) byPath
  have inOrder : (infos.mergeSort (precedes sort)).Pairwise
      (ComesBefore sort) := by
    refine (sorted.and differ).imp_of_mem fun {left right} isLeft isRight => ?_
    rintro ⟨⟨less, ties⟩, others⟩
    obtain ⟨name, isFileIn⟩ := (mem_iff left).1 isLeft
    obtain ⟨nameToo, isFileInToo⟩ := (mem_iff right).1 isRight
    have same := isFileIn.name_eq isTree
    have sameToo := isFileInToo.name_eq isTree
    obtain ⟨content, modified, leads, rfl⟩ := isFileIn.isFile
    obtain ⟨contentToo, modifiedToo, leadsToo, rfl⟩ := isFileInToo.isFile
    refine comesBefore_of_precedes rfl rfl ?_ less ties
    rw [same, sameToo]
    rintro rfl
    exact others rfl
  exact ⟨inOrder, inOrder.imp ComesBefore.ne, mem_iff⟩

/-! ### Answers -/

/-- What comes of a request for files below a folder: exactly those that are
meant if it is there, none if it is not, and a refusal if the machine has
something else to say about it.  Nothing changes. -/
inductive Answers (store : DirectoryStore) (machine : Machine)
    (path : String) (request : Stored (List FileInfo))
    (Exactly : Disk → List FileInfo → Prop) : Prop
  | folder {entries : List (String × Disk)} {infos : List FileInfo}
      (here : store.lookUp machine path = .ok (.folder entries))
      (exactly : Exactly (.folder entries) infos)
      (gives : machine.run request.run = (.ok infos, machine))
  | absent (absent : store.lookUp machine path = .error .notFound)
      (gives : machine.run request.run = (.ok [], machine))
  | refused {error : SystemError}
      (refuses : store.Refuses machine path error)
      (gives : machine.run request.run =
        (.error (.system (some ("list " ++ store.fullPath path)) error),
          machine))

/-- A request that begins with a walk is answered if what goes on with the files
that are found is. -/
theorem answers_of_walk (isTree : machine.disk.IsTree)
    {request : Stored (List FileInfo)}
    {next : List (String × FileStatus) → Stored (List FileInfo)}
    {Exactly : Disk → List FileInfo → Prop}
    (walks : machine.run request.run =
      machine.run (store.walk path >>= next).run)
    (nothing : machine.run (next []).run = (.ok [], machine))
    (goesOn : ∀ entries, store.lookUp machine path = .ok (.folder entries) →
      ∃ infos, Exactly (.folder entries) infos ∧
        machine.run (next (sortedFiles ((shown path
          (.folder entries)).filterMap fileStatus?))).run =
            (.ok infos, machine)) :
    store.Answers machine path request Exactly := by
  have refused {error : SystemError}
      (refuses : store.Refuses machine path error) :
      store.Answers machine path request Exactly := by
    refine .refused refuses (walks.trans ?_)
    exact Machine.run_bind_of_error (run_walk_of_refuses refuses)
  cases here : store.lookUp machine path with
  | error error =>
      by_cases absent : error = .notFound
      · subst absent
        refine .absent here (walks.trans ?_)
        rw [Machine.run_bind_of_ok (run_walk_of_notFound here), nothing]
      · exact refused (.system absent here)
  | ok disk =>
      cases disk with
      | file content modified => exact refused (.file here)
      | folder entries =>
          obtain ⟨infos, exactly, gives⟩ := goesOn entries here
          refine .folder here exactly (walks.trans ?_)
          rw [Machine.run_bind_of_ok (run_walk_of_folder isTree here), gives]

theorem limited_nil {α : Type} (limit : Option Nat) :
    limited limit ([] : List α) = [] := by
  cases limit with
  | none => rfl
  | some limit => exact List.take_nil

/-- A listing of a folder has exactly the files in it that are not hidden. -/
theorem answers_list (isTree : machine.disk.IsTree) {listing : FileListing}
    (normalized : normalize listing.folder = .ok path) :
    store.Answers machine path (store.list listing) fun folder infos =>
      ∃ all, IsListing path listing.sort folder all ∧
        infos = limited listing.limit all := by
  have read : machine.run (liftM (normalize listing.folder) :
      Stored String).run = (.ok path, machine) := by
    rw [Machine.run_liftExcept, normalized]
  refine answers_of_walk isTree (Machine.run_bind_of_ok read) ?_ ?_
  · rw [Machine.run_pure, List.filter_nil, List.map_nil, List.mergeSort_nil,
      limited_nil]
  · intro entries here
    exact ⟨_, ⟨_, isListing (isTree_of_lookUp isTree here)
      (isNormal_of_normalize normalized), rfl⟩, Machine.run_pure _ _⟩

/-! ### Searches -/

theorem occursIn_iff {piece text : List Char} :
    Text.occursIn piece text = true ↔ piece <:+: text := by
  induction text with
  | nil => simp [Text.occursIn]
  | cons character text ih =>
      rw [Text.occursIn, Bool.or_eq_true, ih, List.isPrefixOf_iff_prefix,
        List.infix_cons_iff]

/-- A search is for a file: it asks for a piece of the name, or of the text in
the file.  Small and capital letters are alike. -/
inductive IsFor (query : FileQuery) (name : String) (content : Bytes) : Prop
  | name (occurs : (Text.toLower query.query).toList <:+:
      (Text.toLower name).toList)
  | content {text : String} (asks : query.searchContent = true)
      (isText : Text.ofBytes? content = some text)
      (occurs : (Text.toLower query.query).toList <:+:
        (Text.toLower text).toList)

/-- Whether a search is for a file is found out from its name and its text. -/
theorem run_isHit_of_file {query : FileQuery} {folder : String}
    {content : Bytes} {modified : Instant} (isName : IsName name)
    (here : store.lookUp machine (child folder name) =
      .ok (.file content modified)) :
    ∃ hit, machine.run (store.isHit query (child folder name)).run =
        (.ok hit, machine) ∧ (hit = true ↔ IsFor query name content) := by
  have loaded : machine.disk.load machine.folder
      (store.fullPath (child folder name)) = .ok content :=
    load_eq_ok_iff.2 ⟨modified, here⟩
  unfold isHit
  rw [afterLast_child isName]
  dsimp only
  cases named : matchesLower (Text.toLower query.query) name with
  | true => exact ⟨true, rfl, iff_of_true rfl (.name (occursIn_iff.1 named))⟩
  | false =>
      have notNamed : ¬ (Text.toLower query.query).toList <:+:
          (Text.toLower name).toList := by
        rw [← occursIn_iff, ← Text.contains, ← matchesLower, named]
        exact Bool.false_ne_true
      rw [if_neg Bool.false_ne_true]
      cases asks : query.searchContent with
      | false =>
          refine ⟨false, rfl, iff_of_false Bool.false_ne_true ?_⟩
          rintro (occurs | ⟨asksToo, -, -⟩)
          · exact notNamed occurs
          · rw [asks] at asksToo
            cases asksToo
      | true =>
          rw [if_pos rfl, Machine.run_bind_of_ok (Machine.run_loadText _ _),
            Machine.text, loaded]
          dsimp only
          cases isText : Text.ofBytes? content with
          | none =>
              refine ⟨false, rfl, iff_of_false Bool.false_ne_true ?_⟩
              rintro (occurs | ⟨-, isTextToo, -⟩)
              · exact notNamed occurs
              · rw [isText] at isTextToo
                cases isTextToo
          | some text =>
              refine ⟨matchesLower (Text.toLower query.query) text, rfl, ?_⟩
              rw [matchesLower, Text.contains, occursIn_iff]
              constructor
              · exact .content asks isText
              · rintro (occurs | ⟨-, isTextToo, occurs⟩)
                · exact (notNamed occurs).elim
                · rw [isText] at isTextToo
                  rwa [Option.some.inj isTextToo]

/-- Choosing from values with a test whose result is known. -/
theorem run_filterAuxM_eq {α : Type} {choose : α → Stored Bool}
    {test : α → Bool} {values : List α}
    (chooses : ∀ value ∈ values,
      machine.run (choose value).run = (.ok (test value), machine))
    (kept : List α) :
    machine.run (values.filterAuxM choose kept).run =
      (.ok ((values.filter test).reverse ++ kept), machine) := by
  induction values generalizing kept with
  | nil => rfl
  | cons first values ih =>
      rw [List.forall_mem_cons] at chooses
      refine (Machine.run_bind_of_ok chooses.1).trans ?_
      rw [ih chooses.2, List.filter_cons]
      cases test first <;> simp

theorem run_filterM_eq {α : Type} {choose : α → Stored Bool}
    {test : α → Bool} {values : List α}
    (chooses : ∀ value ∈ values,
      machine.run (choose value).run = (.ok (test value), machine)) :
    machine.run (values.filterM choose).run =
      (.ok (values.filter test), machine) := by
  refine (Machine.run_bind_of_ok (run_filterAuxM_eq chooses [])).trans ?_
  rw [Machine.run_pure, List.append_nil, List.reverse_reverse]

/-- A file for which a search is, below a folder. -/
structure IsFound (query : FileQuery) (path : String) (folder : Disk)
    (names : List String) (info : FileInfo) : Prop where
  areShown : AreShown names
  isFile : ∃ name content modified, names.getLast? = some name ∧
    folder.below? names = some (.file content modified) ∧
      IsFor query name content ∧
        info = fileInfo (pathBelow path names)
          ⟨content.length, some modified⟩

/-- The infos of the files for which a search is, each of them once and in the
order of their paths. -/
structure IsSearch (query : FileQuery) (folder : Disk)
    (infos : List FileInfo) : Prop where
  inOrder : infos.Pairwise fun left right => left.path < right.path
  nodup : infos.Nodup
  mem_iff : ∀ info, info ∈ infos ↔
    ∃ names, IsFound query "" folder names info

theorem isNormal_empty : IsNormal "" :=
  ⟨[], by simp, rfl⟩

/-- A search finds a file that is shown if it is for it. -/
theorem isFound_iff (isTree : machine.disk.IsTree)
    (here : store.lookUp machine "" = .ok (.folder entries))
    {query : FileQuery} {content : Bytes} {modified : Instant} {hit : Bool}
    (areShown : AreShown names)
    (leads : (Disk.folder entries).below? names =
      some (.file content modified))
    (hits : machine.run (store.isHit query (pathBelow "" names)).run =
      (.ok hit, machine)) :
    hit = true ↔ IsFound query "" (.folder entries) names
      (fileInfo (pathBelow "" names) ⟨content.length, some modified⟩) := by
  have areNames := areNames_of_below? (isTree_of_lookUp isTree here) leads
  have found := lookUp_pathBelow isTree isNormal_empty here leads
  rcases List.eq_nil_or_concat' names with rfl | ⟨above, name, rfl⟩
  · cases leads
  · rw [pathBelow_concat] at found hits
    have isName := areNames name (by simp)
    obtain ⟨hitToo, hitsToo, hit_iff⟩ :=
      @run_isHit_of_file store machine name query _ content modified isName
        found
    rw [hits, Prod.mk.injEq] at hitsToo
    obtain rfl := Except.ok.inj hitsToo.1
    rw [hit_iff]
    constructor
    · intro isFor
      exact ⟨areShown, name, content, modified, List.getLast?_concat, leads,
        isFor, rfl⟩
    · rintro ⟨-, nameToo, contentToo, modifiedToo, last, leadsToo, isFor, -⟩
      rw [List.getLast?_concat] at last
      rw [leads] at leadsToo
      cases last
      cases leadsToo
      exact isFor

/-- A search finds exactly the files that are shown and that it is for. -/
theorem answers_search (isTree : machine.disk.IsTree) (query : FileQuery) :
    store.Answers machine "" (store.search query) fun folder infos =>
      ∃ all, IsSearch query folder all ∧ infos = limited query.limit all := by
  choose test tests using fun file : String × FileStatus =>
    run_isHit store query file.1 machine
  have chooses (files : List (String × FileStatus)) :
      machine.run (files.filterM fun file => store.isHit query file.1).run =
        (.ok (files.filter test), machine) :=
    run_filterM_eq fun file _ => tests file
  refine answers_of_walk isTree rfl ?_ fun entries here => ?_
  · rw [Machine.run_bind_of_ok (chooses []), Machine.run_pure, List.filter_nil,
      List.map_nil, limited_nil]
  · have isFolderTree := isTree_of_lookUp isTree here
    refine ⟨_, ⟨_, ?_, rfl⟩, (Machine.run_bind_of_ok (chooses _)).trans
      (Machine.run_pure _ _)⟩
    have byPath := pairwise_sortedFiles
      (nodup_shownFiles isFolderTree isNormal_empty)
    have inOrder : (((sortedFiles ((shown "" (.folder entries)).filterMap
        fileStatus?)).filter test).map fun file =>
          fileInfo file.1 file.2).Pairwise fun left right =>
            left.path < right.path :=
      List.pairwise_map.2 (byPath.filter test)
    refine ⟨inOrder, inOrder.imp fun {left right} less => ?_, fun info => ?_⟩
    · rintro rfl
      exact String.lt_irrefl _ less
    · rw [List.mem_map]
      constructor
      · rintro ⟨file, member, rfl⟩
        obtain ⟨found, hit⟩ := List.mem_filter.1 member
        rw [(sortedFiles_perm _).mem_iff,
          mem_shownFiles_iff isFolderTree] at found
        obtain ⟨names, content, modified, areShown, leads, rfl⟩ := found
        have hits := tests
          (pathBelow "" names, ⟨content.length, some modified⟩)
        exact ⟨names, (isFound_iff isTree here areShown leads hits).1 hit⟩
      · rintro ⟨names, isFound⟩
        obtain ⟨name, content, modified, -, leads, -, rfl⟩ := isFound.isFile
        have hits := tests
          (pathBelow "" names, ⟨content.length, some modified⟩)
        have hit := (isFound_iff isTree here isFound.areShown leads hits).2
          isFound
        refine ⟨(pathBelow "" names, _), List.mem_filter.2 ⟨?_, hit⟩, rfl⟩
        rw [(sortedFiles_perm _).mem_iff, mem_shownFiles_iff isFolderTree]
        exact ⟨names, content, modified, isFound.areShown, leads, rfl⟩

/-! ### All requests -/

/-- A store with two notes and with something that is hidden. -/
def shelf : DirectoryStore :=
  ⟨"/data"⟩

def shelfEntries : List (String × Disk) :=
  [("b.md", .file [66] .epoch), (".old", .folder [("a.md", .file [65] .epoch)]),
    ("a.md", .file [65] .epoch)]

def shelfMachine : Machine :=
  .new (.folder [("data", .folder [("notes", .folder shelfEntries)])]) "/"
    .empty [] .offline 0

theorem shelfMachine_isTree : shelfMachine.disk.IsTree := by
  have isFileName : ∀ name ∈ ["data", "notes", "b.md", ".old", "a.md"],
      IsFileName name := by
    intro name member
    simp only [List.mem_cons, List.not_mem_nil, or_false] at member
    rcases member with rfl | rfl | rfl | rfl | rfl <;>
      exact ⟨⟨by decide, by decide, by decide, by decide⟩, by decide, by decide⟩
  have single {name : String} {disk : Disk} (isName : IsFileName name)
      (isTree : disk.IsTree) : (Disk.folder [(name, disk)]).IsTree :=
    .folder (by simp) (by simpa) (by simpa)
  refine single (isFileName _ (by simp)) (single (isFileName _ (by simp)) ?_)
  refine .folder (by decide) ?_ ?_
  · simpa [shelfEntries] using ⟨isFileName "b.md" (by simp),
      isFileName ".old" (by simp), isFileName "a.md" (by simp)⟩
  · simpa [shelfEntries] using ⟨.file _ _,
      single (isFileName "a.md" (by simp)) (.file _ _), .file _ _⟩

end DirectoryStore

end Runbook
